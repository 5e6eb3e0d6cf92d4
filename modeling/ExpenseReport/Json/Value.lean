/-!
# JSON values

A value as its text has it: members stay in order, with repetitions, and a number is its literal, so
that no digit is lost before somebody asks for one. A string may hold an escaped surrogate without a
partner. It stands for no text then, and is good only for being passed over. Four characters may
stand between the parts of a text without meaning anything.
-/

namespace ExpenseReport.Json

inductive Value where
  | null
  | bool (value : Bool)
  /-- A number, by its literal. -/
  | number (literal : List Char)
  /-- A string, unless its escapes denote no text. -/
  | string (text : Option String)
  | array (items : List Value)
  /-- Members in the order of the text. -/
  | object (members : List (Option String × Value))
deriving Inhabited

namespace Value

def text (s : String) : Value :=
  string (some s)

/-- An object of members with known names. -/
def record (members : List (String × Value)) : Value :=
  object (members.map fun (name, value) => (some name, value))

end Value

/-! ## Blanks -/

/-- The blanks of JSON. -/
def isSpace (c : Char) : Bool :=
  c = ' ' || c = '\t' || c = '\n' || c = '\r'

/-- A text from its first character that is no blank. -/
def skipSpace (cs : List Char) : List Char :=
  cs.dropWhile isSpace

/-- Blanks in front are passed over. -/
theorem skipSpace_append {blanks : List Char} (hblanks : ∀ c ∈ blanks, isSpace c)
    (rest : List Char) : skipSpace (blanks ++ rest) = skipSpace rest :=
  List.dropWhile_append_of_pos hblanks

end ExpenseReport.Json
