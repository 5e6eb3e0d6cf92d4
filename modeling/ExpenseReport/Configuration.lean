import ExpenseReport.Settings
import ExpenseReport.Yaml.Dialect

/-!
# Configurations

A directory with three files: the settings, the employees and the expenses. Loading reads them in
this order and then looks through the employees; the first fault ends it. A configuration can export
its own ledger.
-/

namespace ExpenseReport

/-- Settings together with the employees and expenses they apply to. -/
structure Configuration where
  settings : Settings
  employees : List Employee
  expenses : List Expense
deriving DecidableEq

namespace Configuration

def settingsFile : String := "export.yaml"

def employeesFile : String := "employees.yaml"

def expensesFile : String := "expenses.yaml"

/-- Reads a file of a configuration. The two ways to fail are that there is no text to read and that
it does not have the right form. -/
def readFile {α : Type} (files : Files) (decode? : String → Option α) (path : String) :
    Except Fault α :=
  match files.readText? path with
  | none => .error (.configNotFound path)
  | some text =>
    match decode? text with
    | none => .error (.configMalformed path)
    | some value => .ok value

/-- Reads the three files of a directory. -/
def readFiles (files : Files) (directory : String) : Except Fault Configuration := do
  let settings ← readFile files Yaml.settings? (Path.join directory settingsFile)
  let employees ← readFile files Yaml.employees? (Path.join directory employeesFile)
  let expenses ← readFile files Yaml.expenses? (Path.join directory expensesFile)
  return { settings, employees, expenses }

/-- The first fault in the records of some employees. -/
def firstDefect? (employees : List Employee) : Option Employee.Defect :=
  employees.findSome? Employee.defect?

/-- Refuses a configuration with an employee who is not fit for use. -/
def validated (configuration : Configuration) : Except Fault Configuration :=
  match firstDefect? configuration.employees with
  | some defect => .error (.invalidEmployee defect)
  | none => .ok configuration

def load (files : Files) (directory : String) : Logged Configuration :=
  match readFiles files directory >>= validated with
  | .error fault => ⟨[], .error fault⟩
  | .ok configuration =>
    ⟨[.loaded directory configuration.employees.length configuration.expenses.length
        configuration.settings.format], .ok configuration⟩

/-- Exports the ledger of a configuration as its settings say. -/
def exportLedger (configuration : Configuration) (files : Files) : Logged ExportResult × Files :=
  let (serializer, destination) := configuration.settings.exporter
  serializer.exportTo configuration.employees configuration.expenses destination files

end Configuration

end ExpenseReport
