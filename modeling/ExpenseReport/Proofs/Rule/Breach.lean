import ExpenseReport.Proofs.Decimal.Money
import ExpenseReport.Proofs.Rule.Limit
import ExpenseReport.Rule.Basic

/-!
# What a message shows of a breach

An amount is compared with its limit exactly, but a message shows both cut to two places. So the
amount that is shown is never less than the limit that is shown. It need not be more, as both can be
cut to one number. A positive amount of whole hundredths is always shown to be more.
-/

namespace ExpenseReport

open Decimal

/-- What stands between the amount and the limit in a message. -/
def Rejection.lead : Rejection → String
  | fixedLimitExceeded .. => " exceeds fixed limit "
  | salaryShareExceeded _ percent _ _ => " exceeds " ++ percent.toText ++ "% of salary ("
  | formulaLimitExceeded _ _ formula _ => " exceeds formula \"" ++ formula ++ "\" (limit "
  | unsupportedFormula _ => ""

namespace Rule

variable {rule : Rule} {employee : Employee} {expense : Expense} {r : Rejection} {limit : Decimal}

/-- The message shows the amount behind its first word and the limit in front of the name. -/
theorem Refuses.exists_message_eq (hrefused : rule.Refuses employee expense r)
    (hlimit : r.limit? = some limit) : ∃ rest, r.message =
      "Expense " ++ expense.amount.toMoneyText ++ r.lead ++ limit.toMoneyText ++ rest := by
  cases hrefused with
  | fixedLimit =>
      cases hlimit
      refine ⟨" for " ++ employee.fullName ++ ".", ?_⟩
      unfold Rejection.message Rejection.lead
      simp only [String.append_assoc]
  | salaryShare =>
      cases hlimit
      refine ⟨") for " ++ employee.fullName ++ ".", ?_⟩
      unfold Rejection.message Rejection.lead
      simp only [String.append_assoc]
  | formulaLimit =>
      cases hlimit
      refine ⟨") for " ++ employee.fullName ++ ".", ?_⟩
      unfold Rejection.message Rejection.lead
      simp only [String.append_assoc]
  | unsupported => cases hlimit

theorem Refuses.limit_lt (hrefused : rule.Refuses employee expense r)
    (hlimit : r.limit? = some limit) : limit < expense.amount := by
  cases hrefused with
  | fixedLimit hlt | salaryShare hlt | formulaLimit _ hlt =>
      cases hlimit
      exact hlt
  | unsupported => cases hlimit

/-- A message about a limit shows an amount that is not less than the limit it shows. It is more
exactly when some number of hundredths other than zero tells the exact numbers apart, so always
for a positive amount that has no more than two digits behind the point. -/
theorem breach_is_shown_up_to_hundredths (hrejected : employee.check expense = .rejected r)
    (hlimit : r.limit? = some limit) :
    limit < expense.amount ∧
      (∃ rest, r.message =
        "Expense " ++ expense.amount.toMoneyText ++ r.lead ++ limit.toMoneyText ++ rest) ∧
      ∃ shown shownLimit : ℚ, shownNumber? expense.amount.toMoneyText = some shown ∧
        shownNumber? limit.toMoneyText = some shownLimit ∧ shownLimit ≤ shown ∧
        (shownLimit < shown ↔ IsSeparated limit.toRat expense.amount.toRat) ∧
        (zero < expense.amount → expense.amount.scale ≤ 2 → shownLimit < shown) := by
  have hrefused := refuses_of_evaluate hrejected
  have hlt := hrefused.limit_lt hlimit
  have hltRat := lt_iff_toRat_lt.mp hlt
  have hmore : (cents limit.toRat : ℚ) / 100 < cents expense.amount.toRat / 100 ↔
      IsSeparated limit.toRat expense.amount.toRat := by
    rw [div_lt_div_iff_of_pos_right (by norm_num), Int.cast_lt, cents_lt_cents_iff]
  refine ⟨hlt, hrefused.exists_message_eq hlimit, cents expense.amount.toRat / 100,
    cents limit.toRat / 100, shownNumber?_toMoneyText _, shownNumber?_toMoneyText _, ?_, hmore, ?_⟩
  · rw [div_le_div_iff_of_pos_right (by norm_num), Int.cast_le]
    exact cents_mono hltRat.le
  · intro hpositive hscale
    rw [hmore]
    rw [lt_iff_toRat_lt, toRat_zero] at hpositive
    exact isSeparated_of_scale_le hpositive hscale hltRat

/-- A limit of 300.9567 is shown as 300.95, and the amount of 300.96 as more. -/
theorem breach_is_shown_up_to_hundredths_of_formula_limit :
    let employee : Employee :=
      ⟨3, "Maria Georgieva", "Intern", ⟨false, 91199, 2, by decide, by decide⟩, .customFormula,
        zero, zero, some "AMOUNT <= 33% * SALARY"⟩
    let expense : Expense :=
      ⟨3, 3, "Transport", ⟨false, 30096, 2, by decide, by decide⟩,
        ⟨2025, 3, 12, by decide, by decide, by decide, by decide⟩⟩
    let limit : Decimal := ⟨false, 3009567, 4, by decide, by decide⟩
    let r : Rejection :=
      .formulaLimitExceeded expense.amount limit "AMOUNT <= 33% * SALARY" "Maria Georgieva"
    (employee.check expense = .rejected r ∧ r.limit? = some limit ∧ zero < expense.amount ∧
        expense.amount.scale ≤ 2) ∧
      ∃ shown shownLimit : ℚ, shownNumber? expense.amount.toMoneyText = some shown ∧
        shownNumber? limit.toMoneyText = some shownLimit ∧ shownLimit < shown := by
  intro employee expense limit r
  have hrejected : employee.check expense = .rejected r := by decide +kernel
  have hpositive : zero < expense.amount := by decide
  have hscale : expense.amount.scale ≤ 2 := by decide
  obtain ⟨_, _, shown, shownLimit, hshown, hshownLimit, _, _, hmore⟩ :=
    breach_is_shown_up_to_hundredths hrejected rfl
  exact ⟨⟨hrejected, rfl, hpositive, hscale⟩, shown, shownLimit, hshown, hshownLimit,
    hmore hpositive hscale⟩

/-- A tenth of a cent above the limit, a message shows the same number twice. -/
theorem breach_is_not_shown_below_hundredths :
    let employee : Employee :=
      ⟨2, "Petar Petrov", "Developer", ⟨false, 2500, 0, by decide, by decide⟩, .fixedAmount,
        ⟨false, 300, 0, by decide, by decide⟩, zero, none⟩
    let expense : Expense :=
      ⟨10, 2, "Software license", ⟨false, 300001, 3, by decide, by decide⟩,
        ⟨2025, 3, 13, by decide, by decide, by decide, by decide⟩⟩
    let r : Rejection :=
      .fixedLimitExceeded expense.amount employee.maxAllowedAmount "Petar Petrov"
    employee.check expense = .rejected r ∧
      r.message = "Expense 300.00 exceeds fixed limit 300.00 for Petar Petrov." ∧
      shownNumber? expense.amount.toMoneyText = some 300 ∧
      shownNumber? employee.maxAllowedAmount.toMoneyText = some 300 := by
  intro employee expense r
  exact ⟨by decide +kernel, by decide +kernel, by decide +kernel, by decide +kernel⟩

end Rule

end ExpenseReport
