import ExpenseReport.RunId
import ExpenseReport.Session
import ExpenseReport.Json.Dialect
import ExpenseReport.Proofs.Rule.SalaryShare
import ExpenseReport.Proofs.Document.Csv
import ExpenseReport.Proofs.Document.Xml
import ExpenseReport.Proofs.Rendering
import ExpenseReport.Proofs.Calendar.DateText
import ExpenseReport.Proofs.Json.RoundTrip
import ExpenseReport.Proofs.Document.Json
import ExpenseReport.Proofs.Decimal.Order
import ExpenseReport.Proofs.Disclosure
import ExpenseReport.Proofs.Rule.ShareBound
import ExpenseReport.Proofs.Decimal.Canonical
import ExpenseReport.Proofs.Document.Amounts
import ExpenseReport.Proofs.Export
import ExpenseReport.Proofs.Log
import ExpenseReport.Proofs.Configuration.Loading
import ExpenseReport.Proofs.Decimal.HalfUp
import ExpenseReport.Proofs.Formula.Constant
import ExpenseReport.Proofs.Formula.Marks
import ExpenseReport.Proofs.Rule.Monotone
import ExpenseReport.Proofs.Directory
import ExpenseReport.Proofs.Rule.Message
import ExpenseReport.Proofs.Shaping
import ExpenseReport.Proofs.Rule.FailClosed
import ExpenseReport.Proofs.Document.WellFormed
import ExpenseReport.Proofs.Decimal.Money
import ExpenseReport.Proofs.Rule.Breach
import ExpenseReport.Proofs.Choice
