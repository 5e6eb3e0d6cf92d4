import ExpenseReport.Proofs.Employee
import ExpenseReport.Proofs.Rule.Monotone
import ExpenseReport.Rule.Basic

/-!
# Rules that were set up wrongly

The check of a record and the choice of a rule are made apart from each other, so they may disagree
about what is wrong. A negative limit, a share that is not positive, a missing or unreadable formula
and an unknown mode all end in a rule without a positive limit. A share above one does not: the
check complains about it, but the rule takes it as it is and allows more than the salary.
-/

namespace ExpenseReport.Employee

open Decimal

/-- The fields that set the rule of some mode. -/
def Defect.SetsRule : Defect → Prop
  | .maxAllowedAmount | .maxPercentOfSalary | .customFormula => True
  | .fullName | .position | .salary => False

/-- The check of the record stops at a field that sets the rule, or the mode is not known, or it
asks for a formula and there is none that can be understood. -/
inductive IsMisconfigured (e : Employee) : Prop
  | field {d : Defect} (hdefect : e.defect? = some d) (hd : d.SetsRule)
  | mode (hmode : e.mode = .unrecognized)
  | formula (hmode : e.mode = .customFormula)
      (hunread : ∀ text, e.customFormula = some text → ∃ error, Formula.ofText text = .error error)

/-- No positive amount is accepted. -/
def RefusesSpending (e : Employee) : Prop :=
  ∀ expense : Expense, zero < expense.amount → ∃ reason, e.check expense = .rejected reason

/-- The share of the salary that counts is more than all of it. -/
def HasExcessiveShare (e : Employee) : Prop :=
  e.mode = .percentOfSalary ∧ one < e.maxPercentOfSalary

variable {e : Employee}

/-! ## Rules without a positive limit -/

theorem refusesSpending_of_limitFor?
    (hlimit : ∀ limit, e.rule.limitFor? e.salary = some limit → limit ≤ zero) :
    e.RefusesSpending := by
  intro expense hpositive
  cases hcheck : e.check expense with
  | rejected reason => exact ⟨reason, rfl⟩
  | accepted limit =>
      obtain ⟨hsome, hle⟩ := Rule.evaluate_eq_accepted_iff.mp hcheck
      have hzero : expense.amount ≤ zero := Decimal.le_trans hle (hlimit limit hsome)
      exact absurd hzero (Decimal.not_le.mpr hpositive)

theorem refusesSpending_of_failClosed (hrule : e.rule = Rule.failClosed) : e.RefusesSpending := by
  apply refusesSpending_of_limitFor?
  intro limit hlimit
  rw [hrule] at hlimit
  cases hlimit
  exact Decimal.le_refl zero

theorem refusesSpending_of_negative_limit (hmode : e.mode = .fixedAmount)
    (hnegative : e.maxAllowedAmount.toRat < 0) : e.RefusesSpending := by
  apply refusesSpending_of_limitFor?
  intro limit hlimit
  rw [rule, hmode] at hlimit
  cases hlimit
  rw [le_iff_toRat_le, toRat_zero]
  exact hnegative.le

theorem refusesSpending_of_nonpos_share (hmode : e.mode = .percentOfSalary)
    (hsalary : 0 ≤ e.salary.toRat) (hshare : e.maxPercentOfSalary.toRat ≤ 0) :
    e.RefusesSpending := by
  apply refusesSpending_of_limitFor?
  intro limit hlimit
  rw [rule, hmode] at hlimit
  cases hlimit
  rw [← scaledBy_zero e.salary]
  apply scaledBy_mono_right
  · rwa [le_iff_toRat_le, toRat_zero]
  · rwa [le_iff_toRat_le, toRat_zero]

/-- Without a formula nothing positive is allowed, and with one that is not understood nothing at
all. -/
theorem refusesSpending_of_unread_formula (hmode : e.mode = .customFormula)
    (hunread : ∀ text, e.formula? = some text → ∃ error, Formula.ofText text = .error error) :
    e.RefusesSpending := by
  cases hformula : e.formula? with
  | none =>
      apply refusesSpending_of_failClosed
      simp only [rule, hmode, hformula, Option.map_none, Option.getD_none]
  | some text =>
      obtain ⟨error, herror⟩ := hunread text hformula
      intro expense _
      refine ⟨.unsupportedFormula error, ?_⟩
      simp only [check, rule, hmode, hformula, Option.map_some, Option.getD_some, Rule.evaluate]
      exact Rule.checkCustomFormula_of_error herror e expense

/-! ## A share above one -/

/-- The product of a salary that is not negative and a share above one is at least the salary, also
when it is rounded or out of range. -/
theorem exists_accepted_of_hasExcessiveShare (hshare : e.HasExcessiveShare)
    (hsalary : 0 ≤ e.salary.toRat) {expense : Expense} (hamount : expense.amount ≤ e.salary) :
    ∃ limit, e.salary ≤ limit ∧ e.check expense = .accepted limit := by
  obtain ⟨hmode, hone⟩ := hshare
  have hle : e.salary.scaledBy one ≤ e.salary.scaledBy e.maxPercentOfSalary := by
    apply scaledBy_mono_right
    · rwa [le_iff_toRat_le, toRat_zero]
    · exact Decimal.le_of_lt hone
  rw [le_iff_toRat_le, toRat_scaledBy_one, ← le_iff_toRat_le] at hle
  refine ⟨e.salary.scaledBy e.maxPercentOfSalary, hle, ?_⟩
  apply Rule.evaluate_eq_accepted_iff.mpr
  exact ⟨by simp only [rule, hmode, Rule.limitFor?], Decimal.le_trans hamount hle⟩

/-! ## Rules that were set up wrongly -/

namespace IsMisconfigured

/-- The salary is checked before the fields that set rules. -/
theorem salary_pos_or_mode (he : e.IsMisconfigured) :
    0 < e.salary.toRat ∨ e.mode = .unrecognized ∨ e.mode = .customFormula := by
  cases he with
  | @field d hdefect hd =>
      have hfirst := defect?_eq_some_iff.mp hdefect
      refine Or.inl (hfirst.meets_of_lt .salary ?_)
      cases d with
      | fullName | position | salary => exact hd.elim
      | maxAllowedAmount | maxPercentOfSalary | customFormula => decide
  | mode hmode => exact Or.inr (Or.inl hmode)
  | formula hmode => exact Or.inr (Or.inr hmode)

theorem refusesSpending (he : e.IsMisconfigured) (hshare : ¬ e.HasExcessiveShare) :
    e.RefusesSpending := by
  cases he with
  | @field d hdefect hd =>
      obtain ⟨hfault, hbefore⟩ := defect?_eq_some_iff.mp hdefect
      cases d with
      | fullName | position | salary => exact hd.elim
      | maxAllowedAmount =>
          rw [Meets, Classical.not_imp, not_le] at hfault
          exact refusesSpending_of_negative_limit hfault.1 hfault.2
      | maxPercentOfSalary =>
          rw [Meets, Classical.not_imp, not_and] at hfault
          obtain ⟨hmode, hrange⟩ := hfault
          have hsalary : 0 < e.salary.toRat := hbefore .salary (by decide)
          apply refusesSpending_of_nonpos_share hmode hsalary.le
          by_contra hpositive
          apply hshare
          refine ⟨hmode, ?_⟩
          rw [lt_iff_toRat_lt, toRat_one]
          exact not_le.mp (hrange (not_le.mp hpositive))
      | customFormula =>
          rw [Meets, Classical.not_imp] at hfault
          apply refusesSpending_of_unread_formula hfault.1
          intro text htext
          rw [formula?_eq_none_iff.mpr hfault.2] at htext
          cases htext
  | mode hmode =>
      apply refusesSpending_of_failClosed
      simp only [rule, hmode]
  | formula hmode hunread =>
      apply refusesSpending_of_unread_formula hmode
      intro text htext
      exact hunread text (Option.filter_eq_some_iff.mp htext).1

end IsMisconfigured

/-- A rule that was set up wrongly refuses every positive amount, but for a share above one. Such a
share is no less wrong to the check of records, but the rule accepts every amount up to the salary,
which is positive, and so does not refuse all. -/
theorem misconfigured_rule_fails_closed_but_for_excessive_share (he : e.IsMisconfigured) :
    (e.RefusesSpending ↔ ¬ e.HasExcessiveShare) ∧
      (e.HasExcessiveShare → zero < e.salary ∧ ∀ expense : Expense, expense.amount ≤ e.salary →
        ∃ limit, e.salary ≤ limit ∧ e.check expense = .accepted limit) := by
  have hsalary : e.HasExcessiveShare → 0 < e.salary.toRat := by
    intro hshare
    rcases he.salary_pos_or_mode with hpos | hmode | hmode
    · exact hpos
    · exact absurd (hshare.1.symm.trans hmode) (by decide)
    · exact absurd (hshare.1.symm.trans hmode) (by decide)
  have haccepts : e.HasExcessiveShare → ∀ expense : Expense, expense.amount ≤ e.salary →
      ∃ limit, e.salary ≤ limit ∧ e.check expense = .accepted limit :=
    fun hshare _ => exists_accepted_of_hasExcessiveShare hshare (hsalary hshare).le
  have hpositive : e.HasExcessiveShare → zero < e.salary := by
    intro hshare
    rw [lt_iff_toRat_lt, toRat_zero]
    exact hsalary hshare
  refine ⟨⟨?_, he.refusesSpending⟩, fun hshare => ⟨hpositive hshare, haccepts hshare⟩⟩
  intro hrefuses hshare
  let whole : Expense :=
    ⟨0, e.id, "", e.salary, ⟨2025, 3, 14, by decide, by decide, by decide, by decide⟩⟩
  obtain ⟨reason, hrejected⟩ := hrefuses whole (hpositive hshare)
  obtain ⟨limit, _, haccepted⟩ := haccepts hshare whole (Decimal.le_refl e.salary)
  rw [haccepted] at hrejected
  cases hrejected

/-- With the least share above one the greatest salary can be spent, and nothing is more. -/
theorem misconfigured_rule_fails_closed_but_for_excessive_share_of_greatest :
    let e : Employee :=
      ⟨1, "Ivan Ivanov", "Manager", greatest, .percentOfSalary, zero,
        ⟨false, 10000000000000000000000000001, 28, by decide, by decide⟩, none⟩
    (e.IsMisconfigured ∧ e.HasExcessiveShare) ∧ ¬ e.RefusesSpending ∧ zero < e.salary ∧
      ∀ expense : Expense, expense.amount ≤ e.salary →
        ∃ limit, e.salary ≤ limit ∧ e.check expense = .accepted limit := by
  intro e
  have he : e.IsMisconfigured :=
    .field (show e.defect? = some .maxPercentOfSalary by decide +kernel) trivial
  have hshare : e.HasExcessiveShare := ⟨rfl, by decide⟩
  obtain ⟨hcloses, haccepts⟩ := misconfigured_rule_fails_closed_but_for_excessive_share he
  obtain ⟨hsalary, haccepted⟩ := haccepts hshare
  exact ⟨⟨he, hshare⟩, fun hrefuses => hcloses.mp hrefuses hshare, hsalary, haccepted⟩

/-- A share of one and a half is a fault in the record, yet more than the salary is accepted. -/
theorem misconfigured_rule_accepts_more_than_salary :
    let e : Employee :=
      ⟨1, "Ivan Ivanov", "Manager", ⟨false, 4000, 0, by decide, by decide⟩, .percentOfSalary, zero,
        ⟨false, 15, 1, by decide, by decide⟩, none⟩
    let expense : Expense :=
      ⟨7, 1, "Hotel", ⟨false, 5000, 0, by decide, by decide⟩,
        ⟨2025, 2, 1, by decide, by decide, by decide, by decide⟩⟩
    e.defect? = some .maxPercentOfSalary ∧ zero < expense.amount ∧
      e.check expense = .accepted ⟨false, 60000, 1, by decide, by decide⟩ ∧
      ¬ (e.IsMisconfigured → e.RefusesSpending) := by
  intro e expense
  have hdefect : e.defect? = some .maxPercentOfSalary := by decide +kernel
  have hpositive : zero < expense.amount := by decide
  have haccepted : e.check expense = .accepted ⟨false, 60000, 1, by decide, by decide⟩ := by
    decide +kernel
  refine ⟨hdefect, hpositive, haccepted, fun hcloses => ?_⟩
  obtain ⟨reason, hrejected⟩ := hcloses (.field hdefect trivial) expense hpositive
  rw [haccepted] at hrejected
  cases hrejected

end ExpenseReport.Employee
