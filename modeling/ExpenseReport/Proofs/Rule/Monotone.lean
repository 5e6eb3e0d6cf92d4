import ExpenseReport.Proofs.Decimal.Order
import ExpenseReport.Proofs.Formula.Constant
import ExpenseReport.Proofs.Rule.Limit

/-!
# Acceptance is monotone

A rule accepts the amounts up to a limit, which is set by the salary alone. The limit does not fall
when the salary rises or when a larger share of it is allowed. For formulas this rests on their
constants, which are never negative.
-/

namespace ExpenseReport

open Decimal

/-! ## Limits of formulas -/

namespace Formula

namespace Shape.Denotes

variable {shape : Shape} {limit : Limit} {salary salary' : Decimal}

theorem amountFor_mono (hlimit : shape.Denotes limit) (hle : salary ≤ salary') :
    limit.amountFor salary ≤ limit.amountFor salary' := by
  cases hlimit with
  | salary => exact hle
  | fixed => exact Decimal.le_refl _
  | salaryTimes hfactor => exact scaledBy_mono_left hle hfactor.zero_le

theorem zero_le_amountFor (hlimit : shape.Denotes limit) (hsalary : zero ≤ salary) :
    zero ≤ limit.amountFor salary := by
  cases hlimit with
  | salary => exact hsalary
  | fixed hamount => exact hamount.zero_le
  | @salaryTimes _ factor hfactor =>
      rw [← zero_scaledBy factor]
      exact scaledBy_mono_left hsalary hfactor.zero_le

end Shape.Denotes

end Formula

/-! ## Limits of rules -/

theorem Outcome.IsDecidedBy.eq_accepted_iff {o : Outcome} {amount bound limit : Decimal}
    (ho : o.IsDecidedBy amount bound) :
    o = .accepted limit ↔ some bound = some limit ∧ amount ≤ limit := by
  constructor
  · rintro rfl
    obtain rfl := Option.some.inj ho.limit_eq
    exact ⟨rfl, ho.isAccepted_iff.mp rfl⟩
  · rintro ⟨⟨⟩, hle⟩
    have haccepted := ho.isAccepted_iff.mpr hle
    cases o with
    | accepted found => exact congrArg accepted (Option.some.inj ho.limit_eq)
    | rejected reason => cases haccepted

namespace Rule

/-- The limit that a rule sets at a salary. A text that is no formula sets none. -/
def limitFor? (rule : Rule) (salary : Decimal) : Option Decimal :=
  match rule with
  | fixedAmount limit => some limit
  | percentOfSalary factor => some (salary.scaledBy factor)
  | customFormula text => (Formula.ofText text).toOption.map fun f => f.amountFor salary

/-- A share of the salary, if the rule allows one, is not negative. -/
def HasNonnegShare : Rule → Prop
  | percentOfSalary factor => zero ≤ factor
  | _ => True

variable {rule : Rule} {employee : Employee} {expense : Expense} {limit salary salary' : Decimal}

/-- Accepted are the amounts up to the limit. -/
theorem evaluate_eq_accepted_iff : rule.evaluate employee expense = .accepted limit ↔
    rule.limitFor? employee.salary = some limit ∧ expense.amount ≤ limit := by
  cases rule with
  | fixedAmount bound => exact (Outcome.isDecidedBy_ite rfl).eq_accepted_iff
  | percentOfSalary factor =>
      exact (isDecidedBy_checkPercentOfSalary factor employee expense).eq_accepted_iff
  | customFormula text =>
      cases htext : Formula.ofText text with
      | ok f =>
          simp only [limitFor?, htext]
          exact (isDecidedBy_checkCustomFormula htext employee expense).eq_accepted_iff
      | error e =>
          simp [evaluate, checkCustomFormula_of_error htext, limitFor?, htext, Except.toOption]

/-- A higher salary sets no lower limit. -/
theorem limitFor?_mono (hrule : rule.HasNonnegShare) (hle : salary ≤ salary')
    (hlimit : rule.limitFor? salary = some limit) :
    ∃ limit', rule.limitFor? salary' = some limit' ∧ limit ≤ limit' := by
  cases rule with
  | fixedAmount bound => exact ⟨limit, hlimit, Decimal.le_refl limit⟩
  | percentOfSalary factor =>
      cases hlimit
      exact ⟨_, rfl, scaledBy_mono_left hle hrule⟩
  | customFormula text =>
      cases htext : Formula.ofText text with
      | ok f =>
          obtain ⟨shape, hshape⟩ := Formula.exists_sentence_of_ofText htext
          simp only [limitFor?, htext] at hlimit ⊢
          cases hlimit
          exact ⟨_, rfl, (hshape.denotes_of_ofText htext).amountFor_mono hle⟩
      | error e => simp [limitFor?, htext, Except.toOption] at hlimit

/-- What is accepted stays accepted under another rule or for another employee, if the limit there
is no lower. -/
theorem exists_evaluate_eq_accepted {rule' : Rule} {employee' : Employee}
    (haccepted : rule.evaluate employee expense = .accepted limit)
    (hlimit : ∃ limit', rule'.limitFor? employee'.salary = some limit' ∧ limit ≤ limit') :
    ∃ limit', limit ≤ limit' ∧ rule'.evaluate employee' expense = .accepted limit' := by
  obtain ⟨limit', hlimit', hle⟩ := hlimit
  have hamount := (evaluate_eq_accepted_iff.mp haccepted).2
  exact ⟨limit', hle, evaluate_eq_accepted_iff.mpr ⟨hlimit', Decimal.le_trans hamount hle⟩⟩

/-- Every rule, the own rule of an employee among them, accepts smaller amounts with the same limit.
Unless it allows a negative share of the salary, it accepts the same amounts at higher salaries, and
a share of a salary that is not negative can be raised. The limits of formulas are not negative at
such salaries. -/
theorem acceptance_is_monotone :
    (∀ (rule : Rule) (employee : Employee) (expense : Expense) (limit : Decimal),
      rule.evaluate employee expense = .accepted limit →
        (∀ smaller : Expense, smaller.amount ≤ expense.amount →
          rule.evaluate employee smaller = .accepted limit) ∧
        (rule.HasNonnegShare → ∀ salary, employee.salary ≤ salary → ∃ limit', limit ≤ limit' ∧
          rule.evaluate { employee with salary := salary } expense = .accepted limit') ∧
        ∀ factor raised, rule = .percentOfSalary factor → zero ≤ employee.salary →
          factor ≤ raised → ∃ limit', limit ≤ limit' ∧
            (percentOfSalary raised).evaluate employee expense = .accepted limit') ∧
      ∀ text f, Formula.ofText text = .ok f → ∀ salary, zero ≤ salary →
        zero ≤ f.amountFor salary := by
  refine ⟨?_, ?_⟩
  · intro rule employee expense limit haccepted
    obtain ⟨hlimit, hamount⟩ := evaluate_eq_accepted_iff.mp haccepted
    refine ⟨?_, ?_, ?_⟩
    · intro smaller hsmaller
      rw [le_iff_toRat_le] at hamount hsmaller
      exact evaluate_eq_accepted_iff.mpr ⟨hlimit, le_iff_toRat_le.mpr (hsmaller.trans hamount)⟩
    · intro hrule salary hsalary
      exact exists_evaluate_eq_accepted haccepted (limitFor?_mono hrule hsalary hlimit)
    · rintro factor raised rfl hsalary hraised
      apply exists_evaluate_eq_accepted haccepted
      cases hlimit
      exact ⟨_, rfl, scaledBy_mono_right hsalary hraised⟩
  · intro text f hf salary hsalary
    obtain ⟨shape, hshape⟩ := Formula.exists_sentence_of_ofText hf
    exact (hshape.denotes_of_ofText hf).zero_le_amountFor hsalary

/-- Out of range the limit no longer grows, but what it allows stays allowed. -/
theorem acceptance_is_monotone_past_greatest :
    let share : Decimal := ⟨false, 12, 0, by decide, by decide⟩
    let raised : Decimal := ⟨false, 13, 0, by decide, by decide⟩
    let employee : Employee :=
      ⟨1, "Maria Georgieva", "Intern", ⟨false, maxMagnitude, 1, by decide, by decide⟩,
        .percentOfSalary, zero, share, none⟩
    let expense : Expense :=
      ⟨1, 1, "Transport", greatest, ⟨2025, 3, 12, by decide, by decide, by decide, by decide⟩⟩
    let smaller : Expense := { expense with amount := least }
    ((percentOfSalary share).HasNonnegShare ∧
        (percentOfSalary share).evaluate employee expense = .accepted greatest ∧
        smaller.amount ≤ expense.amount ∧ employee.salary ≤ greatest ∧ zero ≤ employee.salary ∧
        share ≤ raised) ∧
      (percentOfSalary share).evaluate employee smaller = .accepted greatest ∧
      (∃ limit, greatest ≤ limit ∧ (percentOfSalary share).evaluate
        { employee with salary := greatest } expense = .accepted limit) ∧
      (∃ limit, greatest ≤ limit ∧
        (percentOfSalary raised).evaluate employee expense = .accepted limit) ∧
      ∃ f, Formula.ofText "AMOUNT <= 1200% * SALARY" = .ok f ∧
        zero ≤ f.amountFor employee.salary := by
  intro share raised employee expense smaller
  obtain ⟨hrules, hformulas⟩ := acceptance_is_monotone
  have hshare : (percentOfSalary share).HasNonnegShare := by unfold HasNonnegShare; decide
  have haccepted : (percentOfSalary share).evaluate employee expense = .accepted greatest := by
    decide +kernel
  have hsmaller : smaller.amount ≤ expense.amount := by decide
  have hhigher : employee.salary ≤ greatest := by decide
  have hsalary : zero ≤ employee.salary := by decide
  have hraised : share ≤ raised := by decide
  have hformula : Formula.ofText "AMOUNT <= 1200% * SALARY" =
      .ok ⟨"AMOUNT <= 1200% * SALARY", .salaryTimes share⟩ := by decide +kernel
  obtain ⟨hsame, hkept, hgrown⟩ := hrules _ employee expense greatest haccepted
  exact ⟨⟨hshare, haccepted, hsmaller, hhigher, hsalary, hraised⟩, hsame smaller hsmaller,
    hkept hshare greatest hhigher, hgrown share raised rfl hsalary hraised, _, hformula,
    hformulas _ _ hformula _ hsalary⟩

end Rule

end ExpenseReport
