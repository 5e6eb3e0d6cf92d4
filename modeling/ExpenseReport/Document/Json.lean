import ExpenseReport.Json.Records
import ExpenseReport.Json.Writer
import ExpenseReport.Record

/-!
# JSON documents

An array with one object per record, indented. Amounts are number literals with all their digits.
-/

namespace ExpenseReport.Json

def dateText (style : DateStyle) (record : Record) : String :=
  match style with
  | .calendarDate => record.calendarDate
  | .dateTime => record.date.toMomentText

/-- The object of one record. -/
def expense (style : DateStyle) (record : Record) : Value :=
  .record [("expenseId", .ofId record.expenseId), ("employeeId", .ofId record.employeeId),
    ("employeeName", .text record.employeeName), ("position", .text record.position),
    ("description", .text record.description), ("amount", .number record.amount.write),
    ("date", .text (dateText style record))]

def document (style : DateStyle) (records : List Record) : String :=
  (Value.array (records.map (expense style))).toText .indented

end ExpenseReport.Json
