import ExpenseReport.Calendar.DateText
import ExpenseReport.Decimal.Text
import ExpenseReport.Employee.Directory
import ExpenseReport.Expense
import ExpenseReport.Fault

/-!
# Records

What a document says about one expense: the expense itself and the name and position of its owner.
Every format is written from the same records.
-/

namespace ExpenseReport

/-- An expense joined with its owner. -/
structure Record where
  expenseId : Id
  employeeId : Id
  employeeName : String
  position : String
  description : String
  amount : Decimal
  date : Date
deriving DecidableEq

namespace Record

/-- The record of an expense and its owner. -/
def ofOwned (owner : Employee) (expense : Expense) : Record where
  expenseId := expense.id
  employeeId := owner.id
  employeeName := owner.fullName
  position := owner.position
  description := expense.description
  amount := expense.amount
  date := expense.date

/-- The record of an expense, which must have an owner. -/
def ofExpense (directory : Directory) (expense : Expense) : Except Fault Record :=
  match directory.get? expense.employeeId with
  | some owner => .ok (ofOwned owner expense)
  | none => .error (.missingEmployee expense.employeeId expense.id)

/-- The records of expenses, in order. The first expense without an owner spoils them all. -/
def shape (directory : Directory) : List Expense → Except Fault (List Record)
  | [] => .ok []
  | expense :: rest => do
    let record ← ofExpense directory expense
    return record :: (← shape directory rest)

def calendarDate (record : Record) : String :=
  record.date.toText

def expenseIdText (record : Record) : String :=
  Text.numeral record.expenseId.toNat

end Record

end ExpenseReport
