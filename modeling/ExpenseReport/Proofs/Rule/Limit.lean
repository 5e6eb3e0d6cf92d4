import ExpenseReport.Proofs.Decimal.Percentage
import ExpenseReport.Rule.Basic

/-!
# Outcomes and limits

Whatever a rule says besides, it compares the amount with one limit, and what it refuses it reports
with that limit. Two outcomes about the same amount agree when their limits are of one size. The
limit of a share of the salary is exact where some decimal stands for it, and depends on values
only.
-/

namespace ExpenseReport

open Decimal

/-- The limit that an amount was found to exceed. -/
def Rejection.limit? : Rejection → Option Decimal
  | fixedLimitExceeded _ limit _ => some limit
  | salaryShareExceeded _ _ limit _ => some limit
  | formulaLimitExceeded _ limit _ _ => some limit
  | unsupportedFormula _ => none

namespace Outcome

/-- The limit that an amount was compared with. -/
def limit? : Outcome → Option Decimal
  | accepted limit => some limit
  | rejected reason => reason.limit?

/-- The amount was compared with the limit, and nothing else counted. -/
structure IsDecidedBy (o : Outcome) (amount limit : Decimal) : Prop where
  limit_eq : o.limit? = some limit
  isAccepted_iff : o.isAccepted ↔ amount ≤ limit

/-- Both accept or both refuse, with limits of one size. -/
structure Agrees (o p : Outcome) : Prop where
  isAccepted_eq : o.isAccepted = p.isAccepted
  limit_eq : ∃ limit limit', o.limit? = some limit ∧ p.limit? = some limit' ∧
    limit.toRat = limit'.toRat

theorem isDecidedBy_ite {amount limit : Decimal} {reason : Rejection}
    (hreason : reason.limit? = some limit) :
    (if amount ≤ limit then accepted limit else rejected reason).IsDecidedBy amount limit := by
  by_cases hle : amount ≤ limit
  · rw [if_pos hle]
    exact ⟨rfl, by simpa [isAccepted] using hle⟩
  · rw [if_neg hle]
    exact ⟨hreason, by simpa [isAccepted] using hle⟩

theorem lt_of_ite_eq_rejected {amount limit : Decimal} {reason r : Rejection}
    (hrejected : (if amount ≤ limit then accepted limit else rejected reason) = rejected r) :
    limit < amount ∧ reason = r := by
  split at hrejected
  next => cases hrejected
  next hnot => exact ⟨Decimal.not_le.mp hnot, rejected.inj hrejected⟩

namespace IsDecidedBy

theorem isAccepted_iff_toRat {o : Outcome} {amount limit : Decimal}
    (ho : o.IsDecidedBy amount limit) : o.isAccepted ↔ amount.toRat ≤ limit.toRat := by
  rw [ho.isAccepted_iff, le_iff_toRat_le]

/-- Limits of one size decide alike. -/
theorem agrees {o p : Outcome} {amount limit limit' : Decimal} (ho : o.IsDecidedBy amount limit)
    (hp : p.IsDecidedBy amount limit') (hlimit : limit.toRat = limit'.toRat) : o.Agrees p := by
  refine ⟨?_, limit, limit', ho.limit_eq, hp.limit_eq, hlimit⟩
  rw [Bool.eq_iff_iff, ho.isAccepted_iff_toRat, hp.isAccepted_iff_toRat, hlimit]

end IsDecidedBy

end Outcome

namespace Rule

theorem isDecidedBy_checkPercentOfSalary (factor : Decimal) (employee : Employee)
    (expense : Expense) :
    (checkPercentOfSalary factor employee expense).IsDecidedBy expense.amount
      (employee.salary.scaledBy factor) :=
  Outcome.isDecidedBy_ite rfl

theorem isDecidedBy_checkCustomFormula {text : String} {f : Formula}
    (hf : Formula.ofText text = .ok f) (employee : Employee) (expense : Expense) :
    (checkCustomFormula text employee expense).IsDecidedBy expense.amount
      (f.amountFor employee.salary) := by
  rw [checkCustomFormula, hf]
  exact Outcome.isDecidedBy_ite rfl

/-- A text that is no formula refuses every amount, and the refusal carries the text. -/
theorem checkCustomFormula_of_error {text : String} {e : Formula.Unsupported}
    (he : Formula.ofText text = .error e) (employee : Employee) (expense : Expense) :
    checkCustomFormula text employee expense = .rejected (.unsupportedFormula e) := by
  rw [checkCustomFormula, he]

/-- A rule compares every amount with one limit, or it refuses them all. -/
theorem evaluate_cases (rule : Rule) (employee : Employee) :
    (∃ limit, ∀ expense, (rule.evaluate employee expense).IsDecidedBy expense.amount limit) ∨
      ∀ expense, (rule.evaluate employee expense).isAccepted = false := by
  cases rule with
  | fixedAmount limit => exact Or.inl ⟨limit, fun _ => Outcome.isDecidedBy_ite rfl⟩
  | percentOfSalary factor =>
      exact Or.inl ⟨_, fun expense => isDecidedBy_checkPercentOfSalary factor employee expense⟩
  | customFormula text =>
      cases htext : Formula.ofText text with
      | ok f =>
          exact Or.inl ⟨_, fun expense => isDecidedBy_checkCustomFormula htext employee expense⟩
      | error e =>
          right
          intro expense
          rw [evaluate, checkCustomFormula_of_error htext]
          rfl

/-- A rule refuses what is above its limit, and everything when it has a text that is no formula.
This is all that it can say against an amount. -/
inductive Refuses (employee : Employee) (expense : Expense) : Rule → Rejection → Prop
  | fixedLimit {limit : Decimal} (hlt : limit < expense.amount) :
      Refuses employee expense (fixedAmount limit)
        (.fixedLimitExceeded expense.amount limit employee.fullName)
  | salaryShare {factor : Decimal} (hlt : employee.salary.scaledBy factor < expense.amount) :
      Refuses employee expense (percentOfSalary factor)
        (.salaryShareExceeded expense.amount (percentage factor)
          (employee.salary.scaledBy factor) employee.fullName)
  | formulaLimit {text : String} {f : Formula} (hf : Formula.ofText text = .ok f)
      (hlt : f.amountFor employee.salary < expense.amount) :
      Refuses employee expense (customFormula text)
        (.formulaLimitExceeded expense.amount (f.amountFor employee.salary) f.source
          employee.fullName)
  | unsupported {text : String} {e : Formula.Unsupported}
      (he : Formula.ofText text = .error e) :
      Refuses employee expense (customFormula text) (.unsupportedFormula e)

theorem refuses_of_evaluate {rule : Rule} {employee : Employee} {expense : Expense}
    {r : Rejection} (hrejected : rule.evaluate employee expense = .rejected r) :
    rule.Refuses employee expense r := by
  cases rule with
  | fixedAmount limit =>
      obtain ⟨hlt, rfl⟩ := Outcome.lt_of_ite_eq_rejected hrejected
      exact .fixedLimit hlt
  | percentOfSalary factor =>
      obtain ⟨hlt, rfl⟩ := Outcome.lt_of_ite_eq_rejected hrejected
      exact .salaryShare hlt
  | customFormula text =>
      rw [evaluate] at hrejected
      cases htext : Formula.ofText text with
      | ok f =>
          rw [checkCustomFormula, htext] at hrejected
          obtain ⟨hlt, rfl⟩ := Outcome.lt_of_ite_eq_rejected hrejected
          exact .formulaLimit htext hlt
      | error e =>
          rw [checkCustomFormula_of_error htext] at hrejected
          cases hrejected
          exact .unsupported htext

/-- Amounts of one size are judged alike. -/
theorem isAccepted_evaluate_congr (rule : Rule) (employee : Employee) {a b : Expense}
    (hamount : a.amount.toRat = b.amount.toRat) :
    (rule.evaluate employee a).isAccepted = (rule.evaluate employee b).isAccepted := by
  rcases rule.evaluate_cases employee with ⟨limit, hdecided⟩ | hrefused
  · rw [Bool.eq_iff_iff, (hdecided a).isAccepted_iff_toRat, (hdecided b).isAccepted_iff_toRat,
      hamount]
  · rw [hrefused a, hrefused b]

/-! ## Shares of the salary -/

/-- The limit is the exact product of salary and factor where a decimal stands for it, the nearest
decimal in range, and the greatest or the least decimal elsewhere. So it depends on values only, and
where it is exact the rule compares with the exact product. -/
theorem salaryLimit_is_determined_by_values (salary factor : Decimal) :
    (IsRepresentable (salary.toRat * factor.toRat) →
        (salary.scaledBy factor).toRat = salary.toRat * factor.toRat) ∧
      (|salary.toRat * factor.toRat| < maxMagnitude + 1 / 2 →
        IsNearestDecimal (salary.toRat * factor.toRat) (salary.scaledBy factor).toRat) ∧
      (maxMagnitude + 1 / 2 ≤ |salary.toRat * factor.toRat| →
        (salary.scaledBy factor).toRat =
          if salary.negative = factor.negative then (maxMagnitude : ℚ) else -maxMagnitude) ∧
      (∀ salary' factor' : Decimal, salary.toRat = salary'.toRat → factor.toRat = factor'.toRat →
        (salary.scaledBy factor).toRat = (salary'.scaledBy factor').toRat) ∧
      ∀ (employee : Employee) (expense : Expense), employee.salary = salary →
        (checkPercentOfSalary factor employee expense).limit? = some (salary.scaledBy factor) ∧
          (IsRepresentable (salary.toRat * factor.toRat) →
            ((checkPercentOfSalary factor employee expense).isAccepted ↔
              expense.amount.toRat ≤ salary.toRat * factor.toRat)) := by
  refine ⟨scaledBy_of_isRepresentable, scaledBy_of_abs_lt, ?_, ?_, ?_⟩
  · intro hle
    rw [scaledBy_of_le hle]
    split
    next => exact toRat_greatest
    next => exact toRat_least
  · intro salary' factor' hsalary hfactor
    exact toRat_scaledBy_congr hsalary hfactor
  · rintro employee expense rfl
    have hdecided := isDecidedBy_checkPercentOfSalary factor employee expense
    refine ⟨hdecided.limit_eq, fun hexact => ?_⟩
    rw [hdecided.isAccepted_iff_toRat, scaledBy_of_isRepresentable hexact]

end Rule

end ExpenseReport
