import ExpenseReport.Configuration

/-!
# Sessions

Employees and expenses while they are edited, the files they are exported to, and the configuration
that was loaded last. A step that fails changes nothing.
-/

namespace ExpenseReport

structure Session where
  employees : List Employee
  expenses : List Expense
  configuration : Option Configuration
  files : Files

namespace Session

def empty : Session := ⟨[], [], none, Files.empty⟩

/-- A list with an employee in the place of the first with the same id, or at the end. -/
def place (e : Employee) : List Employee → List Employee
  | [] => [e]
  | other :: rest => if other.id = e.id then e :: rest else other :: place e rest

/-- Puts an employee in the place of the first with the same id, or at the end. -/
def putEmployee (s : Session) (e : Employee) : Session :=
  { s with employees := place e s.employees }

/-- Adds an employee at the end, whether or not the id is taken. -/
def appendEmployee (s : Session) (e : Employee) : Session :=
  { s with employees := s.employees ++ [e] }

/-- Removes the first employee with an id. -/
def removeEmployee (s : Session) (id : Id) : Session :=
  { s with employees := s.employees.eraseP (·.id = id) }

def addExpense (s : Session) (e : Expense) : Session :=
  { s with expenses := s.expenses ++ [e] }

/-- Removes the first expense with an id. -/
def removeExpense (s : Session) (id : Id) : Session :=
  { s with expenses := s.expenses.eraseP (·.id = id) }

/-- Adds an expense only if its owner is known and their rule accepts it. Tells what the rule said,
if there is an owner. -/
def tryAddExpense (s : Session) (e : Expense) : Option Outcome × Session :=
  match (Directory.ofList s.employees).get? e.employeeId with
  | none => (none, s)
  | some owner =>
    let outcome := owner.check e
    (some outcome, if outcome.isAccepted then s.addExpense e else s)

/-- Forgets everything but the files. -/
def clear (s : Session) : Session :=
  { empty with files := s.files }

def validate (s : Session) : Batch :=
  Batch.validate s.employees s.expenses

def render (s : Session) (serializer : Serializer) : Logged Rendered :=
  serializer.render s.employees s.expenses

def exportTo (s : Session) (serializer : Serializer) (destination : String) :
    Logged ExportResult × Session :=
  let (run, files) := serializer.exportTo s.employees s.expenses destination s.files
  (run, { s with files })

/-- Loads a configuration and goes on with its employees and expenses. -/
def load (s : Session) (directory : String) : Logged Configuration × Session :=
  let run := Configuration.load s.files directory
  match run.result with
  | .error _ => (run, s)
  | .ok configuration =>
    (run, ⟨configuration.employees, configuration.expenses, some configuration, s.files⟩)

/-- Exports the ledger of the loaded configuration as it was loaded, if one was. -/
def exportConfiguration? (s : Session) : Option (Logged ExportResult × Session) :=
  s.configuration.map fun configuration =>
    let (run, files) := configuration.exportLedger s.files
    (run, { s with files })

end Session

end ExpenseReport
