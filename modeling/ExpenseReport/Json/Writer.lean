import ExpenseReport.Json.Value
import ExpenseReport.Text.Digits

/-!
# JSON as text

A layout says which blanks stand between the parts of a document. Only the characters that have to
be escaped are: the quote, the backslash and the control characters below the blank.
-/

namespace ExpenseReport.Json

/-- How a character stands inside a string. -/
def escape (c : Char) : List Char :=
  if c = '"' then ['\\', '"']
  else if c = '\\' then ['\\', '\\']
  else if c = '\x08' then ['\\', 'b']
  else if c = '\t' then ['\\', 't']
  else if c = '\n' then ['\\', 'n']
  else if c = '\x0c' then ['\\', 'f']
  else if c = '\r' then ['\\', 'r']
  else if c.toNat < 0x20 then
    ['\\', 'u', '0', '0', Text.hexDigit (c.toNat / 16), Text.hexDigit (c.toNat % 16)]
  else [c]

def quote (text : String) : List Char :=
  '"' :: text.toList.flatMap escape ++ ['"']

/-- A string in quotes; one that denotes no text is written as an empty one. -/
def quote? (text : Option String) : List Char :=
  quote (text.getD "")

/-! ## Layouts -/

/-- The blanks between the parts of a document. -/
structure Layout where
  /-- What stands in front of an item, a member or a closing bracket, by its depth. -/
  lineBreak : Nat → List Char
  /-- What stands between a colon and a value. -/
  afterColon : List Char
  isSpace_of_mem_lineBreak : ∀ depth, ∀ c ∈ lineBreak depth, isSpace c
  isSpace_of_mem_afterColon : ∀ c ∈ afterColon, isSpace c

/-- Each item and each member on a line of its own, two blanks deeper than what holds it. -/
def Layout.indented : Layout where
  lineBreak depth := '\n' :: List.replicate (2 * depth) ' '
  afterColon := [' ']
  isSpace_of_mem_lineBreak depth c hc := by
    rcases List.mem_cons.mp hc with rfl | hc
    · rfl
    · rw [List.eq_of_mem_replicate hc]
      rfl
  isSpace_of_mem_afterColon := by simp [isSpace]

def Layout.compact : Layout where
  lineBreak _ := []
  afterColon := []
  isSpace_of_mem_lineBreak := by simp
  isSpace_of_mem_afterColon := by simp

/-! ## Values -/

mutual

/-- A value, `depth` levels deep. -/
def Value.layOut (layout : Layout) (depth : Nat) : Value → List Char
  | .null => "null".toList
  | .bool true => "true".toList
  | .bool false => "false".toList
  | .number literal => literal
  | .string text => quote? text
  | .array [] => ['[', ']']
  | .array (item :: items) =>
    '[' :: layout.lineBreak (depth + 1) ++ item.layOut layout (depth + 1)
      ++ layOutItems layout (depth + 1) items ++ layout.lineBreak depth ++ [']']
  | .object [] => ['{', '}']
  | .object (member :: members) =>
    '{' :: layout.lineBreak (depth + 1) ++ layOutMember layout (depth + 1) member
      ++ layOutMembers layout (depth + 1) members ++ layout.lineBreak depth ++ ['}']

/-- The items of an array after the first. -/
def layOutItems (layout : Layout) (depth : Nat) : List Value → List Char
  | [] => []
  | item :: items =>
    ',' :: layout.lineBreak depth ++ item.layOut layout depth ++ layOutItems layout depth items

/-- A member's name and value. -/
def layOutMember (layout : Layout) (depth : Nat) : Option String × Value → List Char
  | (name, value) => quote? name ++ ':' :: layout.afterColon ++ value.layOut layout depth

/-- The members of an object after the first. -/
def layOutMembers (layout : Layout) (depth : Nat) : List (Option String × Value) → List Char
  | [] => []
  | member :: members =>
    ',' :: layout.lineBreak depth ++ layOutMember layout depth member
      ++ layOutMembers layout depth members

end

/-- A document with nothing around it. -/
def Value.toText (layout : Layout) (value : Value) : String :=
  String.ofList (value.layOut layout 0)

end ExpenseReport.Json
