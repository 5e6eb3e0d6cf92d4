import ExpenseReport.Dialect.Basic
import ExpenseReport.Settings

/-!
# The fields of the records

Employees, expenses, settings and the files that list them, in whatever dialect.
-/

namespace ExpenseReport.Dialect

variable {Node : Type}

def mode? (dialect : Dialect Node) (node : Node) : Option Mode :=
  (dialect.choice? node).map Mode.ofName

def dateStyle? (dialect : Dialect Node) (node : Node) : Option DateStyle :=
  (dialect.choice? node).bind DateStyle.ofName?

def format? (dialect : Dialect Node) (node : Node) : Option Format :=
  (dialect.choice? node).bind Format.ofName?

def employeeFields : List String :=
  ["id", "full_name", "position", "salary", "validation_mode", "max_allowed_amount",
    "max_percent_of_salary", "custom_formula"]

/-- An employee. The limits are zero and the formula is absent unless given. -/
def employee? (dialect : Dialect Node) (node : Node) : Option Employee := do
  let members ← dialect.members? employeeFields node
  let id ← required? dialect.id? members "id"
  let fullName ← required? dialect.text? members "full_name"
  let position ← required? dialect.text? members "position"
  let salary ← required? dialect.decimal? members "salary"
  let mode ← required? dialect.mode? members "validation_mode"
  let maxAllowedAmount ← optional? dialect.decimal? .zero members "max_allowed_amount"
  let maxPercentOfSalary ← optional? dialect.decimal? .zero members "max_percent_of_salary"
  let customFormula ← optional? dialect.optionalText? none members "custom_formula"
  return { id, fullName, position, salary, mode, maxAllowedAmount, maxPercentOfSalary,
           customFormula }

def expenseFields : List String :=
  ["id", "employee_id", "description", "amount", "date"]

/-- An expense. The description is empty unless given. -/
def expense? (dialect : Dialect Node) (node : Node) : Option Expense := do
  let members ← dialect.members? expenseFields node
  let id ← required? dialect.id? members "id"
  let employeeId ← required? dialect.id? members "employee_id"
  let description ← optional? dialect.text? "" members "description"
  let amount ← required? dialect.decimal? members "amount"
  let date ← required? dialect.date? members "date"
  return { id, employeeId, description, amount, date }

def settingsFields : List String :=
  ["format", "output_dir", "json_date_style"]

/-- Export settings. Only the format has to be given. -/
def settings? (dialect : Dialect Node) (node : Node) : Option Settings := do
  let members ← dialect.members? settingsFields node
  let format ← required? dialect.text? members "format"
  let outputDir ← optional? dialect.text? Settings.defaultOutputDir members "output_dir"
  let dateStyle ← optional? dialect.dateStyle? default members "json_date_style"
  return { format, outputDir, dateStyle }

/-- The only field of a file of employees. -/
def employeeList : String := "employees"

/-- The employees of a file, which has to list them. -/
def employeesFile? (dialect : Dialect Node) (node : Node) : Option (List Employee) := do
  let members ← dialect.members? [employeeList] node
  required? (dialect.listOf? dialect.employee?) members employeeList

/-- The only field of a file of expenses. -/
def expenseList : String := "expenses"

/-- The expenses of a file, none if it lists none. -/
def expensesFile? (dialect : Dialect Node) (node : Node) : Option (List Expense) := do
  let members ← dialect.members? [expenseList] node
  optional? (dialect.listOf? dialect.expense?) [] members expenseList

end ExpenseReport.Dialect
