import ExpenseReport.Batch
import ExpenseReport.Format

/-!
# Events

What a load or an export leaves in the log, in the order in which it happened.
-/

namespace ExpenseReport

/-- How important an event is; `span` opens a stretch of the log. -/
inductive Level where
  | span
  | debug
  | info
  | warn
deriving DecidableEq

/-- The name of a level. -/
def Level.name : Level → String
  | span => "SPAN"
  | debug => "DEBUG"
  | info => "INFO"
  | warn => "WARN"

/-- Something worth logging. -/
inductive Event where
  /-- A configuration was loaded. -/
  | loaded (path : String) (employees expenses : Nat) (formatKey : String)
  /-- An export of some format opens. -/
  | opened (format : Format)
  /-- An export starts on so many employees and expenses. -/
  | started (employees expenses : Nat)
  /-- An expense was accepted. -/
  | accepted (expenseId employeeId : Id) (limit : Decimal)
  /-- An expense was refused. -/
  | rejected (expenseId employeeId : Id) (error : String)
  /-- An expense belongs to nobody. -/
  | orphaned (expenseId : Id) (error : String)
  /-- A document is complete. -/
  | rendered (accepted rejected : Nat)
  /-- A document is in its file. -/
  | written (destination : String) (bytes : Nat)
deriving DecidableEq

namespace Event

/-- How important an event is. -/
def level : Event → Level
  | opened _ => .span
  | accepted .. => .debug
  | rejected .. | orphaned .. => .warn
  | loaded .. | started .. | rendered .. | written .. => .info

def message : Event → String
  | loaded .. => "Loaded export configuration"
  | opened _ => "export"
  | started .. => "Starting export"
  | accepted .. => "Expense accepted"
  | rejected .. => "Expense rejected"
  | orphaned .. => "Expense has no owner"
  | rendered .. => "Export rendered"
  | written .. => "Export written"

def fields : Event → List (String × String)
  | loaded path employees expenses formatKey =>
    [("path", path), ("employees", Text.numeral employees), ("expenses", Text.numeral expenses),
      ("format", formatKey)]
  | opened format => [("format", format.key)]
  | started employees expenses =>
    [("employees", Text.numeral employees), ("expenses", Text.numeral expenses)]
  | accepted expenseId employeeId limit =>
    [("expense_id", Text.numeral expenseId.toNat),
      ("employee_id", Text.numeral employeeId.toNat), ("limit", limit.toText)]
  | rejected expenseId employeeId error =>
    [("expense_id", Text.numeral expenseId.toNat),
      ("employee_id", Text.numeral employeeId.toNat), ("error", error)]
  | orphaned expenseId error =>
    [("expense_id", Text.numeral expenseId.toNat), ("error", error)]
  | rendered kept leftOut =>
    [("accepted", Text.numeral kept), ("rejected", Text.numeral leftOut)]
  | written destination bytes =>
    [("destination", destination), ("bytes", Text.numeral bytes)]

/-- The event of a verdict on an expense. -/
def ofVerdict (expense : Expense) (verdict : Verdict) : Event :=
  match verdict with
  | .accepted owner limit => .accepted expense.id owner.id limit
  | .rejected owner reason => .rejected expense.id owner.id reason.message
  | .orphaned => .orphaned expense.id (Verdict.orphanMessage expense)

end Event

end ExpenseReport
