import ExpenseReport.Calendar.DateText
import ExpenseReport.Decimal.Text
import ExpenseReport.Expense
import ExpenseReport.Json.Value
import ExpenseReport.Text.Digits

/-!
# Records as JSON

Employees and expenses with all their members. Decimals are strings, so that they keep their places.
-/

namespace ExpenseReport

namespace Json.Value

/-- A decimal with all its places. -/
def ofDecimal (d : Decimal) : Value :=
  .text d.toText

def ofNat (n : Nat) : Value :=
  .number (Text.digits n)

def ofId (id : Id) : Value :=
  ofNat id.toNat

end Json.Value

open Json (Value)

def Employee.toJson (e : Employee) : Value :=
  .record [("id", .ofId e.id), ("full_name", .text e.fullName), ("position", .text e.position),
    ("salary", .ofDecimal e.salary), ("validation_mode", .text e.mode.name),
    ("max_allowed_amount", .ofDecimal e.maxAllowedAmount),
    ("max_percent_of_salary", .ofDecimal e.maxPercentOfSalary),
    ("custom_formula", (e.customFormula.map Value.text).getD .null)]

def Expense.toJson (e : Expense) : Value :=
  .record [("id", .ofId e.id), ("employee_id", .ofId e.employeeId),
    ("description", .text e.description), ("amount", .ofDecimal e.amount),
    ("date", .text e.date.toText)]

end ExpenseReport
