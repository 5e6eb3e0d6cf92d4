import ExpenseReport.Decimal.Text
import ExpenseReport.Expense
import ExpenseReport.Formula.Text

/-!
# Spending rules

A rule computes a limit from the salary and accepts every amount up to and including it. A rejected
expense always comes with the reason. The mode of an employee chooses the rule and names the field
that sets it. Without a mode that is known, or without a formula where the mode wants one, nothing
positive is accepted.
-/

namespace ExpenseReport

/-- Why an expense is refused. -/
inductive Rejection where
  /-- The amount is above a fixed limit. -/
  | fixedLimitExceeded (amount limit : Decimal) (employee : String)
  /-- The amount is above the allowed share of the salary, given in per cent. -/
  | salaryShareExceeded (amount percent limit : Decimal) (employee : String)
  /-- The amount is above the limit set by a formula. -/
  | formulaLimitExceeded (amount limit : Decimal) (formula employee : String)
  /-- The rule's text is no formula. -/
  | unsupportedFormula (error : Formula.Unsupported)
deriving DecidableEq

/-- What the owner of the expense is told. Amounts and limits are cut to two places. -/
def Rejection.message : Rejection → String
  | fixedLimitExceeded amount limit employee =>
    "Expense " ++ amount.toMoneyText ++ " exceeds fixed limit " ++ limit.toMoneyText
      ++ " for " ++ employee ++ "."
  | salaryShareExceeded amount percent limit employee =>
    "Expense " ++ amount.toMoneyText ++ " exceeds " ++ percent.toText ++ "% of salary ("
      ++ limit.toMoneyText ++ ") for " ++ employee ++ "."
  | formulaLimitExceeded amount limit formula employee =>
    "Expense " ++ amount.toMoneyText ++ " exceeds formula \"" ++ formula ++ "\" (limit "
      ++ limit.toMoneyText ++ ") for " ++ employee ++ "."
  | unsupportedFormula error => error.message

/-- What a rule decides about one expense. -/
inductive Outcome where
  | accepted (limit : Decimal)
  | rejected (reason : Rejection)
deriving DecidableEq

def Outcome.isAccepted : Outcome → Bool
  | accepted _ => true
  | rejected _ => false

/-- A spending rule with its parameter. -/
inductive Rule where
  | fixedAmount (limit : Decimal)
  | percentOfSalary (factor : Decimal)
  /-- Up to the limit set by a formula, which is read anew for every expense. -/
  | customFormula (formula : String)
deriving DecidableEq

namespace Rule

/-- The rule that accepts no positive amount. -/
def failClosed : Rule :=
  .fixedAmount .zero

/-- Whether a rule is a fixed limit of zero, however it is written. -/
def isFailClosed : Rule → Bool
  | fixedAmount limit => limit.magnitude = 0
  | _ => false

def checkFixedAmount (limit : Decimal) (employee : Employee) (expense : Expense) : Outcome :=
  if expense.amount ≤ limit then .accepted limit
  else .rejected (.fixedLimitExceeded expense.amount limit employee.fullName)

/-- A factor as a percentage. -/
def percentage (factor : Decimal) : Decimal :=
  (factor.scaledBy .hundred).normalize

def checkPercentOfSalary (factor : Decimal) (employee : Employee) (expense : Expense) : Outcome :=
  let limit := employee.salary.scaledBy factor
  if expense.amount ≤ limit then .accepted limit
  else
    .rejected (.salaryShareExceeded expense.amount (percentage factor) limit employee.fullName)

/-- Accepts amounts up to the limit that a formula sets. A text that is no formula rejects every
expense. -/
def checkCustomFormula (formula : String) (employee : Employee) (expense : Expense) : Outcome :=
  match Formula.ofText formula with
  | .error error => .rejected (.unsupportedFormula error)
  | .ok parsed =>
    let limit := parsed.amountFor employee.salary
    if expense.amount ≤ limit then .accepted limit
    else
      .rejected (.formulaLimitExceeded expense.amount limit parsed.source employee.fullName)

def evaluate (rule : Rule) (employee : Employee) (expense : Expense) : Outcome :=
  match rule with
  | fixedAmount limit => checkFixedAmount limit employee expense
  | percentOfSalary factor => checkPercentOfSalary factor employee expense
  | customFormula formula => checkCustomFormula formula employee expense

end Rule

namespace Employee

/-- The rule that judges an employee's expenses. -/
def rule (e : Employee) : Rule :=
  match e.mode with
  | .fixedAmount => .fixedAmount e.maxAllowedAmount
  | .percentOfSalary => .percentOfSalary e.maxPercentOfSalary
  | .customFormula => (e.formula?.map Rule.customFormula).getD Rule.failClosed
  | .unrecognized => Rule.failClosed

/-- Judges one expense by the employee's own rule. -/
def check (e : Employee) (expense : Expense) : Outcome :=
  e.rule.evaluate e expense

end Employee

end ExpenseReport
