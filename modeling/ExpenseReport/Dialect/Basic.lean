import ExpenseReport.Calendar.DateText
import ExpenseReport.Decimal.Text
import ExpenseReport.Expense

/-!
# Dialects

Records come in more than one data format. A dialect says how the nodes of a format are read as the
values that fields hold; which fields a record has is the same in all of them. Unknown members are
passed over, known ones must not be repeated.
-/

namespace ExpenseReport

/-- How the nodes of a data format are read. -/
structure Dialect (Node : Type) where
  text? : Node → Option String
  /-- A text, or explicitly none. -/
  optionalText? : Node → Option (Option String)
  id? : Node → Option Id
  decimal? : Node → Option Decimal
  /-- The name of one of several alternatives. -/
  choice? : Node → Option String
  list? : Node → Option (List Node)
  /-- The members of a record. Where a format writes records without names, they are taken in the
  order given here. -/
  members? : List String → Node → Option (List (String × Node))

namespace Dialect

variable {Node α : Type}

/-- The node under a name, if there is one; nothing when there are several. -/
def member? (members : List (String × Node)) (name : String) : Option (Option Node) :=
  match members.filter (·.1 = name) with
  | [] => some none
  | [(_, node)] => some (some node)
  | _ => none

/-- The value of a member that has to be there. -/
def required? (read : Node → Option α) (members : List (String × Node)) (name : String) :
    Option α := do
  read (← (← member? members name))

/-- The value of a member, or a default when it is absent. -/
def optional? (read : Node → Option α) (default : α) (members : List (String × Node))
    (name : String) : Option α := do
  match ← member? members name with
  | none => return default
  | some node => read node

/-- The name of the only member of a record that stands for a number by its literal. -/
def literalField : String := "$serde_json::private::Number"

/-- A date, written as text. -/
def date? (dialect : Dialect Node) (node : Node) : Option Date :=
  (dialect.text? node).bind Date.ofText?

/-- A list of items of one kind. -/
def listOf? (dialect : Dialect Node) (read : Node → Option α) (node : Node) : Option (List α) :=
  (dialect.list? node).bind (·.mapM read)

end Dialect

end ExpenseReport
