import ExpenseReport.Employee.Directory
import ExpenseReport.Rule.Basic

/-!
# Batches

The expenses of a batch are judged one after the other, each by the rule of its owner. What was
accepted is collected, and so is one message for each expense that was not.
-/

namespace ExpenseReport

/-- What becomes of one expense of a batch. -/
inductive Verdict where
  /-- Within the limit of its owner. -/
  | accepted (owner : Employee) (limit : Decimal)
  /-- Refused by the rule of its owner. -/
  | rejected (owner : Employee) (reason : Rejection)
  /-- Nobody has the id it names. -/
  | orphaned
deriving DecidableEq

/-- What is reported about an expense that belongs to nobody. -/
def Verdict.orphanMessage (expense : Expense) : String :=
  "No employee with Id=" ++ Text.numeral expense.employeeId.toNat ++ " for expense "
    ++ Text.numeral expense.id.toNat ++ "."

/-- Judges an expense by the rule of the employee it names. -/
def Directory.judge (directory : Directory) (expense : Expense) : Verdict :=
  match directory.get? expense.employeeId with
  | none => .orphaned
  | some owner =>
    match owner.check expense with
    | .accepted limit => .accepted owner limit
    | .rejected reason => .rejected owner reason

/-- The result of judging a batch. -/
structure Batch where
  accepted : List Expense
  errors : List String
deriving DecidableEq

namespace Batch

/-- The result before any expense is judged. -/
def empty : Batch := ⟨[], []⟩

/-- Puts an expense where its verdict sends it, behind those judged before it. -/
def add (batch : Batch) (expense : Expense) : Verdict → Batch
  | .accepted .. => ⟨batch.accepted ++ [expense], batch.errors⟩
  | .rejected _ reason => ⟨batch.accepted, batch.errors ++ [reason.message]⟩
  | .orphaned => ⟨batch.accepted, batch.errors ++ [Verdict.orphanMessage expense]⟩

/-- Judges expenses by a directory, one after the other. -/
def judgedBy (directory : Directory) (expenses : List Expense) : Batch :=
  expenses.foldl (fun batch expense => batch.add expense (directory.judge expense)) empty

/-- Judges every expense against a list of employees. -/
def validate (employees : List Employee) (expenses : List Expense) : Batch :=
  judgedBy (Directory.ofList employees) expenses

end Batch

end ExpenseReport
