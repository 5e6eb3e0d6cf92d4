import ExpenseReport.Decimal.Product

/-!
# Formulas

A formula bounds the amount of an expense by the salary, by a constant, or by a multiple of the
salary.
-/

namespace ExpenseReport

/-- The right-hand side of a formula: what an amount may not exceed. -/
inductive Formula.Limit where
  | salary
  | fixed (amount : Decimal)
  | salaryTimes (factor : Decimal)
deriving DecidableEq

/-- The amount that a limit allows at a given salary. -/
def Formula.Limit.amountFor (salary : Decimal) : Formula.Limit → Decimal
  | .salary => salary
  | .fixed amount => amount
  | .salaryTimes factor => salary.scaledBy factor

/-- A formula that was understood, with the text it was given as. -/
structure Formula where
  source : String
  limit : Formula.Limit
deriving DecidableEq

namespace Formula

def amountFor (f : Formula) (salary : Decimal) : Decimal :=
  f.limit.amountFor salary

/-- A text that is no formula, exactly as it was given. -/
structure Unsupported where
  text : String
deriving DecidableEq

def Unsupported.message (e : Unsupported) : String :=
  "Unsupported formula: " ++ e.text

end Formula

end ExpenseReport
