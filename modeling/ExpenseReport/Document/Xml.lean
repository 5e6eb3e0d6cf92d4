import ExpenseReport.Record

/-!
# XML documents

An `expenses` element with one `expense` for each record, and in it one element for each field.
Elements that hold elements put them on lines of their own, two blanks deeper; the text of a field
stands between its tags as it is, but for the five characters that are written as entities.
-/

namespace ExpenseReport.Xml

/-- A tree of elements. -/
inductive Element where
  /-- An element that holds text. -/
  | leaf (name : String) (text : String)
  /-- An element with attributes that holds elements. -/
  | branch (name : String) (attributes : List (String × String)) (children : List Element)

/-- How a character stands in text. -/
def escape (c : Char) : List Char :=
  if c = '<' then "&lt;".toList
  else if c = '>' then "&gt;".toList
  else if c = '&' then "&amp;".toList
  else if c = '\'' then "&apos;".toList
  else if c = '"' then "&quot;".toList
  else [c]

/-- Text with its entities. -/
def escapeText (text : String) : List Char :=
  text.toList.flatMap escape

/-- An attribute behind the name of its element. -/
def writeAttribute : String × String → List Char
  | (name, value) => ' ' :: name.toList ++ '=' :: '"' :: escapeText value ++ ['"']

/-- The inside of a start tag. -/
def writeHead (name : String) (attributes : List (String × String)) : List Char :=
  name.toList ++ attributes.flatMap writeAttribute

def writeEnd (name : String) : List Char :=
  '<' :: '/' :: name.toList ++ ['>']

/-- A new line with its indentation. -/
def newLine (depth : Nat) : List Char :=
  '\n' :: List.replicate (2 * depth) ' '

mutual

/-- An element, `depth` levels deep. One without children has a single tag. -/
def Element.write (depth : Nat) : Element → List Char
  | .leaf name text => '<' :: name.toList ++ '>' :: escapeText text ++ writeEnd name
  | .branch name attributes [] => '<' :: writeHead name attributes ++ ['/', '>']
  | .branch name attributes (child :: children) =>
    '<' :: writeHead name attributes ++ '>' :: newLine (depth + 1) ++ child.write (depth + 1)
      ++ writeSiblings (depth + 1) children ++ newLine depth ++ writeEnd name

/-- The elements that follow the first one. -/
def writeSiblings (depth : Nat) : List Element → List Char
  | [] => []
  | element :: rest => newLine depth ++ element.write depth ++ writeSiblings depth rest

end

/-- The element of one record. -/
def expense (record : Record) : Element :=
  .branch "expense" [("id", record.expenseIdText)]
    [.leaf "employeeName" record.employeeName, .leaf "position" record.position,
      .leaf "description" record.description, .leaf "amount" record.amount.toText,
      .leaf "date" record.calendarDate]

/-- The root of a document. -/
def expenses (records : List Record) : Element :=
  .branch "expenses" [] (records.map expense)

/-- A document as text. -/
def document (records : List Record) : String :=
  String.ofList ((expenses records).write 0)

end ExpenseReport.Xml
