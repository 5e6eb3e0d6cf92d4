import ExpenseReport.Calendar.Date
import ExpenseReport.Employee.Basic

/-!
# Expenses

An expense names its owner by id. Nothing promises that such an employee exists, or that the ids of
expenses are distinct.
-/

namespace ExpenseReport

/-- What an employee claims for one day. -/
structure Expense where
  id : Id
  employeeId : Id
  description : String
  amount : Decimal
  date : Date
deriving DecidableEq

end ExpenseReport
