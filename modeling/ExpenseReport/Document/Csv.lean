import ExpenseReport.Record

/-!
# CSV documents

One line of column names and one line per record, with commas between the fields. A field is put in
quotes when it holds a comma, a quote or a line break, and every quote in it is written twice.
-/

namespace ExpenseReport.Csv

def header : List String :=
  ["ExpenseId", "EmployeeName", "Position", "Description", "Amount", "Date"]

/-- Whether a character cannot stand in a field without quotes. -/
def isSpecial (c : Char) : Bool :=
  c = ',' || c = '"' || c = '\n' || c = '\r'

/-- Writes every quote twice. -/
def doubleQuotes : List Char → List Char
  | [] => []
  | '"' :: rest => '"' :: '"' :: doubleQuotes rest
  | c :: rest => c :: doubleQuotes rest

/-- A field, in quotes if it needs them. -/
def writeField (field : List Char) : List Char :=
  if field.any isSpecial then '"' :: doubleQuotes field ++ ['"'] else field

/-- Fields with commas between them and a line feed after the last. -/
def writeFields : List (List Char) → List Char
  | [] => ['\n']
  | [field] => writeField field ++ ['\n']
  | field :: rest => writeField field ++ ',' :: writeFields rest

/-- The fields of a record, one per column. -/
def fields (record : Record) : List String :=
  [record.expenseIdText, record.employeeName, record.position, record.description,
    record.amount.toText, record.calendarDate]

/-- The rows of a document, the column names first. -/
def rows (records : List Record) : List (List String) :=
  header :: records.map fields

def document (records : List Record) : String :=
  String.ofList ((rows records).flatMap fun row => writeFields (row.map String.toList))

end ExpenseReport.Csv
