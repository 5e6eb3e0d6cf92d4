import ExpenseReport.Decimal.Basic
import ExpenseReport.Text.Blank

/-!
# Employees

An employee carries a salary and the spending rule for their expenses, named by a mode and set by
one field per mode. Records come from outside and may be wrong in any field; `Employee.defect?`
finds the first fault a data-entry form would complain about.
-/

namespace ExpenseReport

/-- Names an employee or an expense. -/
abbrev Id := UInt32

/-- The spending rule chosen for an employee. -/
inductive Mode where
  | fixedAmount
  | percentOfSalary
  | customFormula
  | unrecognized
deriving DecidableEq

namespace Mode

/-- The written name of a mode. -/
def name : Mode → String
  | fixedAmount => "fixed_amount"
  | percentOfSalary => "percent_of_salary"
  | customFormula => "custom_formula"
  | unrecognized => "unrecognized"

/-- The mode with a written name. Every other text is the unrecognized mode. -/
def ofName (name : String) : Mode :=
  if name = "fixed_amount" then fixedAmount
  else if name = "percent_of_salary" then percentOfSalary
  else if name = "custom_formula" then customFormula
  else unrecognized

theorem ofName_name (m : Mode) : ofName m.name = m := by
  cases m <;> decide

end Mode

/-- A person whose expenses are judged. Of the last three fields only the one of the mode counts. -/
structure Employee where
  id : Id
  fullName : String
  position : String
  salary : Decimal
  mode : Mode
  maxAllowedAmount : Decimal
  maxPercentOfSalary : Decimal
  customFormula : Option String
deriving DecidableEq

namespace Employee

/-- The custom formula, when there is one that is not blank. -/
def formula? (e : Employee) : Option String :=
  e.customFormula.filter (!Text.isBlankText ·)

/-- What can be wrong with an employee's record. -/
inductive Defect where
  | fullName
  | position
  | salary
  | maxAllowedAmount
  | maxPercentOfSalary
  | customFormula
deriving DecidableEq

/-- The field that is at fault. -/
def Defect.field : Defect → String
  | fullName => "full_name"
  | position => "position"
  | salary => "salary"
  | maxAllowedAmount => "max_allowed_amount"
  | maxPercentOfSalary => "max_percent_of_salary"
  | customFormula => "custom_formula"

/-- What the field ought to hold. -/
def Defect.demand : Defect → String
  | fullName => "full name is required"
  | position => "position is required"
  | salary => "salary must be a positive number"
  | maxAllowedAmount => "fixed amount must be a non-negative number"
  | maxPercentOfSalary => "percent must be between 0 and 1 (e.g. 0.3 for 30%)"
  | customFormula => "formula is required, e.g. AMOUNT <= 0.4 * SALARY"

/-- A fault in the field that sets the employee's own rule. -/
def ruleDefect? (e : Employee) : Option Defect :=
  match e.mode with
  | .fixedAmount => if e.maxAllowedAmount < .zero then some .maxAllowedAmount else none
  | .percentOfSalary =>
    if e.maxPercentOfSalary ≤ .zero ∨ .one < e.maxPercentOfSalary then some .maxPercentOfSalary
    else none
  | .customFormula => if e.formula?.isNone then some .customFormula else none
  | .unrecognized => none

/-- The first fault in an employee's record. -/
def defect? (e : Employee) : Option Defect :=
  if Text.isBlankText e.fullName then some .fullName
  else if Text.isBlankText e.position then some .position
  else if e.salary ≤ .zero then some .salary
  else e.ruleDefect?

end Employee

end ExpenseReport
