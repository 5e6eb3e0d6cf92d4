import ExpenseReport.Proofs.Formula.Writing
import ExpenseReport.Proofs.Rule.Limit

/-!
# Spellings of a salary share

A share of the salary can be set as a factor, or by a formula with that factor or with its
percentage. All spellings judge alike, except that a zero with a sign cannot be written into a
formula.
-/

namespace ExpenseReport.Rule

open Decimal Formula

/-! ## Percentages -/

theorem percentage_toRat {factor : Decimal} (hfactor : zero ≤ factor)
    (hrange : 100 * factor.toRat ≤ maxMagnitude) :
    (percentage factor).toRat = 100 * factor.toRat := by
  rw [le_iff_toRat_le, toRat_zero] at hfactor
  have hhundred : hundred.toRat = 100 := by simp [toRat_eq, hundred, signFactor]
  have habs : |factor.toRat * 100| ≤ maxMagnitude := by
    rw [abs_of_nonneg (by positivity), mul_comm]
    exact hrange
  have hexact := isRepresentable_mul_hundred habs
  rw [← hhundred] at hexact
  rw [percentage, toRat_normalize, scaledBy_of_isRepresentable hexact, hhundred, mul_comm]

theorem percentage_negative {factor : Decimal} (hfactor : zero ≤ factor)
    (hrange : 100 * factor.toRat ≤ maxMagnitude) : (percentage factor).negative = false := by
  have hvalue := percentage_toRat hfactor hrange
  rw [le_iff_toRat_le, toRat_zero] at hfactor
  apply negative_normalize_of_nonneg
  rw [← toRat_normalize]
  change 0 ≤ (percentage factor).toRat
  rw [hvalue]
  positivity

/-- A hundredth of the percentage is the factor again. -/
theorem hundredth_percentage {factor : Decimal} (hfactor : zero ≤ factor)
    (hrange : 100 * factor.toRat ≤ maxMagnitude) :
    (percentage factor).hundredth.toRat = factor.toRat := by
  have hvalue := percentage_toRat hfactor hrange
  have hdiv : (percentage factor).toRat / 100 = factor.toRat := by
    rw [hvalue]
    ring
  have hexact : IsRepresentable ((percentage factor).toRat / 100) := by
    rw [hdiv]
    exact isRepresentable_toRat factor
  rw [toRat_hundredth_of_isRepresentable hexact, hdiv]

/-! ## Agreement -/

/-- A formula with a factor of the same size judges like the factor. -/
theorem agrees_of_ofText {factor value : Decimal} {text : String}
    (htext : ofText text = .ok ⟨text, .salaryTimes value⟩) (hvalue : value.toRat = factor.toRat)
    (employee : Employee) (expense : Expense) :
    (checkPercentOfSalary factor employee expense).Agrees
      (checkCustomFormula text employee expense) := by
  apply (isDecidedBy_checkPercentOfSalary factor employee expense).agrees
    (isDecidedBy_checkCustomFormula htext employee expense)
  exact toRat_scaledBy_congr rfl hvalue.symm

/-- The text of a constant with the sign of a percentage. -/
def percentText (d : Decimal) : String :=
  d.toText ++ "%"

theorem canonical_percentText (d : Decimal) : canonical (percentText d) = d.write ++ ['%'] := by
  have hsign : canonical "%" = ['%'] := by decide +kernel
  rw [percentText, canonical_append, canonical_toText, hsign]

/-- The factor, the formula with its percentage and, unless the factor is a zero with a sign, the
formulas with the factor itself judge alike. The percentage is exact. A sign makes no formula. -/
theorem salaryShare_spellings_agree {factor : Decimal} (hfactor : zero ≤ factor)
    (hrange : 100 * factor.toRat ≤ maxMagnitude) :
    (percentage factor).toRat = 100 * factor.toRat ∧
      ∀ (employee : Employee) (expense : Expense),
        (checkPercentOfSalary factor employee expense).Agrees
            (checkCustomFormula (constantFirst (percentText (percentage factor)))
              employee expense) ∧
          (factor.negative = false →
            (checkPercentOfSalary factor employee expense).Agrees
                (checkCustomFormula (constantFirst factor.toText) employee expense) ∧
              (checkPercentOfSalary factor employee expense).Agrees
                (checkCustomFormula (salaryFirst factor.toText) employee expense)) ∧
          (factor.negative = true →
            checkCustomFormula (constantFirst factor.toText) employee expense =
                .rejected (.unsupportedFormula ⟨constantFirst factor.toText⟩) ∧
              checkCustomFormula (salaryFirst factor.toText) employee expense =
                .rejected (.unsupportedFormula ⟨salaryFirst factor.toText⟩)) := by
  refine ⟨percentage_toRat hfactor hrange, fun employee expense => ⟨?_, ?_, ?_⟩⟩
  · -- The percentage may have fewer digits than the factor, so only the values agree.
    obtain ⟨o, ho, hvalue⟩ := exists_percent_of_write (percentage_negative hfactor hrange)
    rw [← canonical_percentText] at ho
    exact agrees_of_ofText (ofText_constantFirst ho hvalue) (hundredth_percentage hfactor hrange)
      employee expense
  · intro hsign
    obtain ⟨o, ho, hvalue⟩ := exists_number_of_write hsign
    rw [← canonical_toText] at ho
    exact ⟨agrees_of_ofText (ofText_constantFirst ho hvalue) rfl employee expense,
      agrees_of_ofText (ofText_salaryFirst ho hvalue) rfl employee expense⟩
  · intro hsign
    exact ⟨checkCustomFormula_of_error (ofText_constantFirst_of_negative hsign) employee expense,
      checkCustomFormula_of_error (ofText_salaryFirst_of_negative hsign) employee expense⟩

/-- Three tenths, which are thirty per cent. -/
def threeTenths : Decimal :=
  ⟨false, 3, 1, by decide, by decide⟩

theorem salaryShare_spellings_agree_threeTenths :
    (zero ≤ threeTenths ∧ 100 * threeTenths.toRat ≤ maxMagnitude) ∧
      (percentage threeTenths).toRat = 100 * threeTenths.toRat ∧
      ∀ (employee : Employee) (expense : Expense),
        (checkPercentOfSalary threeTenths employee expense).Agrees
            (checkCustomFormula "AMOUNT <= 30% * SALARY" employee expense) ∧
          (checkPercentOfSalary threeTenths employee expense).Agrees
            (checkCustomFormula "AMOUNT <= 0.3 * SALARY" employee expense) ∧
          (checkPercentOfSalary threeTenths employee expense).Agrees
            (checkCustomFormula "AMOUNT <= SALARY * 0.3" employee expense) := by
  have hfactor : zero ≤ threeTenths := by decide
  have hrange : 100 * threeTenths.toRat ≤ maxMagnitude := by
    norm_num [toRat_eq, threeTenths, signFactor, maxMagnitude]
  have hpercent : constantFirst (percentText (percentage threeTenths)) =
      "AMOUNT <= 30% * SALARY" := by decide +kernel
  have hconstant : constantFirst threeTenths.toText = "AMOUNT <= 0.3 * SALARY" := by decide +kernel
  have hsalary : salaryFirst threeTenths.toText = "AMOUNT <= SALARY * 0.3" := by decide +kernel
  rw [← hpercent, ← hconstant, ← hsalary]
  obtain ⟨hexact, hagree⟩ := salaryShare_spellings_agree hfactor hrange
  exact ⟨⟨hfactor, hrange⟩, hexact, fun employee expense =>
    ⟨(hagree employee expense).1, (hagree employee expense).2.1 rfl⟩⟩

/-- What a negative number too small for any digit is read as. -/
def signedZero : Decimal :=
  ⟨true, 0, maxScale, Nat.zero_le _, Nat.le_refl _⟩

example : ofText? "-0.4e-28" = some signedZero := by decide +kernel

/-- A zero with a sign is no less than zero, and no formula can be written with it. -/
theorem salaryShare_spellings_differ_at_signedZero :
    zero ≤ signedZero ∧ 100 * signedZero.toRat ≤ maxMagnitude ∧
      let employee : Employee :=
        ⟨1, "Maria Georgieva", "Intern", ⟨false, 1200, 0, by decide, by decide⟩, .percentOfSalary,
          zero, signedZero, none⟩
      let expense : Expense :=
        ⟨1, 1, "Transport", zero, ⟨2025, 3, 12, by decide, by decide, by decide, by decide⟩⟩
      ¬ (checkPercentOfSalary signedZero employee expense).Agrees
        (checkCustomFormula (constantFirst signedZero.toText) employee expense) := by
  have hvalue : signedZero.toRat = 0 := toRat_eq_zero_iff.mpr rfl
  refine ⟨by decide, by rw [hvalue]; norm_num, ?_⟩
  intro employee expense hagrees
  obtain ⟨_, limit, _, hlimit, _⟩ := hagrees.limit_eq
  rw [checkCustomFormula_of_error (ofText_constantFirst_of_negative rfl)] at hlimit
  cases hlimit

end ExpenseReport.Rule
