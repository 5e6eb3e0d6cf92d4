import ExpenseReport.Text.Blank
import ExpenseReport.Text.Uppercase

/-!
# Export formats

A format is chosen by a key. Blanks around a key and the case of its ASCII letters do not matter.
-/

namespace ExpenseReport

/-- What a document can be written as. -/
inductive Format where
  | csv
  | xml
  | json
deriving DecidableEq

namespace Format

/-- The key of a format, in capitals. -/
def key : Format → String
  | csv => "CSV"
  | xml => "XML"
  | json => "JSON"

/-- The key of a format, in small letters. -/
def name : Format → String
  | csv => "csv"
  | xml => "xml"
  | json => "json"

/-- The file that a document of this format goes to. -/
def fileName : Format → String
  | csv => "expenses.csv"
  | xml => "expenses.xml"
  | json => "expenses.json"

/-- The file for documents whose format key was not recognized. -/
def fallbackFileName : String := "expenses.txt"

def all : List Format := [csv, xml, json]

def ofKey? (key : String) : Option Format :=
  let canonical := String.ofList (Text.asciiUppercase (Text.trim key.toList))
  all.find? (·.key = canonical)

/-- The format written by exactly this name. -/
def ofName? (name : String) : Option Format :=
  all.find? (·.name = name)

/-- A key of no format, exactly as it was given. -/
structure UnknownKey where
  key : String
deriving DecidableEq

def UnknownKey.message (e : UnknownKey) : String :=
  "Unknown export format: " ++ e.key

/-- The format with a key, or the key itself when there is none. -/
def ofKey (key : String) : Except UnknownKey Format :=
  match ofKey? key with
  | some format => .ok format
  | none => .error ⟨key⟩

end Format

/-- How a JSON document shows the day of an expense. -/
inductive DateStyle where
  /-- The day alone. -/
  | calendarDate
  /-- The first moment of the day. -/
  | dateTime
deriving DecidableEq, Inhabited

namespace DateStyle

def name : DateStyle → String
  | calendarDate => "calendar_date"
  | dateTime => "date_time"

def ofName? (name : String) : Option DateStyle :=
  [calendarDate, dateTime].find? (·.name = name)

end DateStyle

end ExpenseReport
