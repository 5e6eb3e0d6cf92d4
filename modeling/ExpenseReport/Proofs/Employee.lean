import ExpenseReport.Employee.Basic
import ExpenseReport.Proofs.Decimal.Value

/-!
# Records fit for use

What a record must hold is said field by field, with amounts as numbers. The check finds nothing
exactly when all of it holds, and otherwise it finds what comes first in the order of the fields.
-/

namespace ExpenseReport.Employee

open Decimal

/-- Something in the text is no blank. -/
def IsWritten (text : String) : Prop :=
  ∃ c ∈ text.toList, Text.isBlank c = false

/-- The field holds what it must. The fields that set a rule matter in the mode of that rule. -/
def Meets (e : Employee) : Defect → Prop
  | .fullName => IsWritten e.fullName
  | .position => IsWritten e.position
  | .salary => 0 < e.salary.toRat
  | .maxAllowedAmount => e.mode = .fixedAmount → 0 ≤ e.maxAllowedAmount.toRat
  | .maxPercentOfSalary =>
    e.mode = .percentOfSalary → 0 < e.maxPercentOfSalary.toRat ∧ e.maxPercentOfSalary.toRat ≤ 1
  | .customFormula =>
    e.mode = .customFormula → ∃ text, e.customFormula = some text ∧ IsWritten text

/-- Every field holds what it must. -/
def IsFit (e : Employee) : Prop :=
  ∀ field, e.Meets field

/-- How far behind a field comes. The fields that set rules share a place, as at most one of them
can be at fault. -/
def Defect.rank : Defect → Nat
  | .fullName => 0
  | .position => 1
  | .salary => 2
  | .maxAllowedAmount | .maxPercentOfSalary | .customFormula => 3

/-- The field is at fault, and none in front of it is. -/
structure IsFirstFault (e : Employee) (d : Defect) : Prop where
  not_meets : ¬ e.Meets d
  meets_of_lt : ∀ earlier : Defect, earlier.rank < d.rank → e.Meets earlier

variable {e : Employee} {d d' : Defect}

theorem isBlankText_iff {text : String} : Text.isBlankText text ↔ ¬ IsWritten text := by
  simp [Text.isBlankText, IsWritten]

theorem formula?_eq_none_iff :
    e.formula? = none ↔ ¬ ∃ text, e.customFormula = some text ∧ IsWritten text := by
  unfold formula?
  cases e.customFormula with
  | none => simp
  | some text => simp [Option.filter, ← isBlankText_iff]

/-- The mode decides which field of a rule can be at fault. -/
theorem ruleDefect?_eq_some_iff : e.ruleDefect? = some d ↔ d.rank = 3 ∧ ¬ e.Meets d := by
  unfold ruleDefect?
  cases hmode : e.mode with
  | fixedAmount => cases d <;> simp [Defect.rank, Meets, hmode, lt_iff_toRat_lt, toRat_zero]
  | percentOfSalary =>
      cases d <;> simp [Defect.rank, Meets, hmode, lt_iff_toRat_lt, le_iff_toRat_le, toRat_zero,
        toRat_one, imp_iff_not_or]
  | customFormula => cases d <;> simp [Defect.rank, Meets, hmode, formula?_eq_none_iff]
  | unrecognized => cases d <;> simp [Defect.rank, Meets, hmode]

/-- The check goes through the fields in their order and stops at the first that is at fault. -/
theorem defect?_cases (e : Employee) :
    (e.defect? = some .fullName ∧ ¬ e.Meets .fullName) ∨
      (e.defect? = some .position ∧ e.Meets .fullName ∧ ¬ e.Meets .position) ∨
      (e.defect? = some .salary ∧ e.Meets .fullName ∧ e.Meets .position ∧ ¬ e.Meets .salary) ∨
      (e.defect? = e.ruleDefect? ∧ e.Meets .fullName ∧ e.Meets .position ∧ e.Meets .salary) := by
  have hname : Text.isBlankText e.fullName ↔ ¬ e.Meets .fullName := isBlankText_iff
  have hposition : Text.isBlankText e.position ↔ ¬ e.Meets .position := isBlankText_iff
  have hsalary : e.salary ≤ .zero ↔ ¬ e.Meets .salary := by
    rw [le_iff_toRat_le, toRat_zero, Meets, not_lt]
  unfold defect?
  grind

theorem isFirstFault_of_defect? (hdefect : e.defect? = some d) : e.IsFirstFault d := by
  rcases e.defect?_cases with ⟨hcheck, hname⟩ | ⟨hcheck, hname, hposition⟩ |
      ⟨hcheck, hname, hposition, hsalary⟩ | ⟨hcheck, hname, hposition, hsalary⟩
  · rw [hcheck] at hdefect
    cases hdefect
    exact ⟨hname, fun _ hlt => absurd hlt (Nat.not_lt_zero _)⟩
  · rw [hcheck] at hdefect
    cases hdefect
    refine ⟨hposition, fun earlier hlt => ?_⟩
    cases earlier with
    | fullName => exact hname
    | _ => simp [Defect.rank] at hlt
  · rw [hcheck] at hdefect
    cases hdefect
    refine ⟨hsalary, fun earlier hlt => ?_⟩
    cases earlier with
    | fullName => exact hname
    | position => exact hposition
    | _ => simp [Defect.rank] at hlt
  · rw [hcheck, ruleDefect?_eq_some_iff] at hdefect
    refine ⟨hdefect.2, fun earlier hlt => ?_⟩
    rw [hdefect.1] at hlt
    cases earlier with
    | fullName => exact hname
    | position => exact hposition
    | salary => exact hsalary
    | _ => simp [Defect.rank] at hlt

/-- Fields that share a place are not at fault together. -/
theorem IsFirstFault.eq (hfirst : e.IsFirstFault d) (hother : e.IsFirstFault d') : d = d' := by
  have hrank : d.rank = d'.rank := by
    rcases Nat.lt_trichotomy d.rank d'.rank with hlt | heq | hgt
    · exact absurd (hother.meets_of_lt d hlt) hfirst.not_meets
    · exact heq
    · exact absurd (hfirst.meets_of_lt d' hgt) hother.not_meets
  by_cases hrule : d.rank = 3
  · have hd := ruleDefect?_eq_some_iff.mpr ⟨hrule, hfirst.not_meets⟩
    have hd' := ruleDefect?_eq_some_iff.mpr ⟨hrank ▸ hrule, hother.not_meets⟩
    exact Option.some.inj (hd.symm.trans hd')
  · cases d <;> cases d' <;> simp_all [Defect.rank]

theorem defect?_eq_none_iff : e.defect? = none ↔ e.IsFit := by
  constructor
  · intro hnone field
    rcases e.defect?_cases with ⟨hcheck, _⟩ | ⟨hcheck, _⟩ | ⟨hcheck, _⟩ |
        ⟨hcheck, hname, hposition, hsalary⟩
    · simp [hcheck] at hnone
    · simp [hcheck] at hnone
    · simp [hcheck] at hnone
    · by_contra hmeets
      cases field with
      | fullName => exact hmeets hname
      | position => exact hmeets hposition
      | salary => exact hmeets hsalary
      | _ =>
        rw [hcheck] at hnone
        have := ruleDefect?_eq_some_iff.mpr ⟨rfl, hmeets⟩
        simp [hnone] at this
  · intro hfit
    cases hdefect : e.defect? with
    | none => rfl
    | some d => exact absurd (hfit d) (isFirstFault_of_defect? hdefect).not_meets

/-- The check finds the field that is at fault with none at fault in front of it. -/
theorem defect?_eq_some_iff : e.defect? = some d ↔ e.IsFirstFault d := by
  constructor
  · exact isFirstFault_of_defect?
  · intro hfirst
    cases hdefect : e.defect? with
    | none => exact absurd (defect?_eq_none_iff.mp hdefect d) hfirst.not_meets
    | some d' => rw [(isFirstFault_of_defect? hdefect).eq hfirst]

end ExpenseReport.Employee
