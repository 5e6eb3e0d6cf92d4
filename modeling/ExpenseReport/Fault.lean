import ExpenseReport.Employee.Basic
import ExpenseReport.Format
import ExpenseReport.Text.Digits

/-!
# Faults

What stops a load or an export altogether. An expense that breaks a rule is no fault: it is left out
and reported.
-/

namespace ExpenseReport

/-- Why a file cannot be written. -/
inductive WriteError where
  | notFound
  | isDirectory
  | notDirectory
  | nameTooLong
  | nulInPath
deriving DecidableEq

def WriteError.message : WriteError → String
  | notFound => "No such file or directory (os error 2)"
  | isDirectory => "Is a directory (os error 21)"
  | notDirectory => "Not a directory (os error 20)"
  | nameTooLong => "File name too long (os error 36)"
  | nulInPath => "file name contained an unexpected NUL byte"

/-- Why a load or an export was given up. -/
inductive Fault where
  /-- A configuration file cannot be read as text. -/
  | configNotFound (path : String)
  /-- A configuration file does not have the form it should have. -/
  | configMalformed (path : String)
  /-- An employee of the configuration is not fit for use. -/
  | invalidEmployee (defect : Employee.Defect)
  /-- An expense to be written belongs to nobody. -/
  | missingEmployee (employeeId expenseId : Id)
  /-- The document could not be put into its format. -/
  | serialization (format : Format) (message : String)
  /-- The document could not be put into its file. -/
  | writeFailed (path : String) (error : WriteError)
deriving DecidableEq

def Fault.message : Fault → String
  | configNotFound path => "Configuration file not found: " ++ path
  | configMalformed path => "Failed to parse configuration file '" ++ path ++ "'"
  | invalidEmployee defect => "Invalid employee field '" ++ defect.field ++ "': " ++ defect.demand
  | missingEmployee employeeId expenseId =>
    "No employee with Id=" ++ Text.numeral employeeId.toNat ++ " for expense "
      ++ Text.numeral expenseId.toNat
  | serialization format message => "Failed to serialize " ++ format.key ++ " export: " ++ message
  | writeFailed path error => "Failed to write export to '" ++ path ++ "': " ++ error.message

end ExpenseReport
