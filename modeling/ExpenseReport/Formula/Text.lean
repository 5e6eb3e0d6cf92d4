import ExpenseReport.Decimal.Text
import ExpenseReport.Formula.Basic
import ExpenseReport.Text.Blank
import ExpenseReport.Text.Uppercase

/-!
# Formulas as text

    formula := "AMOUNT" "<=" expression
    expression := term "*" term      (exactly one of the two is SALARY)
                | term
    term := "SALARY" | number "%" | number
    number := digits | digits mark digits | mark digits
    mark := "." | ","

Blanks count nowhere and letters stand for their upper case. Anything else is no formula. A reader
takes what it can from the front of a text and returns the rest. Of several forms the first that
can be read is taken, and what follows it does not change that choice.
-/

namespace ExpenseReport.Formula

open Text

/-- A text without blanks and in upper case, as formulas are compared. -/
def canonical (text : String) : List Char :=
  uppercase (withoutBlanks text.toList)

/-! ## Numbers -/

/-- Either decimal mark. -/
def isMark (c : Char) : Bool :=
  c = '.' || c = ','

/-- The digits of a number on both sides of its mark. A number without a mark has no fraction. -/
structure Literal where
  whole : List Char
  fraction : List Char
deriving DecidableEq

/-- The digits with a point for the mark, and a zero in front of a point that leads. -/
def Literal.plain (l : Literal) : List Char :=
  if l.fraction = [] then l.whole
  else (if l.whole = [] then ['0'] else l.whole) ++ '.' :: l.fraction

/-- The decimal that a number stands for, unless it is out of range. -/
def Literal.value? (l : Literal) : Option Decimal :=
  Decimal.readPlain? l.plain

/-- Takes a run of digits, as long as it is and at least one. -/
def takeDigits? (cs : List Char) : Option (List Char × List Char) :=
  if cs.takeWhile isDigit = [] then none else some (cs.takeWhile isDigit, cs.dropWhile isDigit)

/-- Takes a mark and the digits behind it. -/
def takeFraction? : List Char → Option (List Char × List Char)
  | [] => none
  | c :: rest => if isMark c then takeDigits? rest else none

/-- Takes the digits of a number. A mark without a digit behind it is left. -/
def takeLiteral? (cs : List Char) : Option (Literal × List Char) :=
  match takeDigits? cs with
  | some (whole, rest) =>
    match takeFraction? rest with
    | some (fraction, rest) => some (⟨whole, fraction⟩, rest)
    | none => some (⟨whole, []⟩, rest)
  | none => (takeFraction? cs).map fun (fraction, rest) => (⟨[], fraction⟩, rest)

def readNumber? (cs : List Char) : Option (Decimal × List Char) := do
  let (literal, rest) ← takeLiteral? cs
  return (← literal.value?, rest)

def readPercent? (cs : List Char) : Option (Decimal × List Char) := do
  let (value, rest) ← readNumber? cs
  return (value.hundredth, ← ['%'].isPrefixOf? rest)

/-! ## Terms and expressions -/

/-- One operand of an expression. -/
inductive Term where
  | salary
  | constant (value : Decimal)
deriving DecidableEq

def readSalary? (cs : List Char) : Option (Term × List Char) :=
  ("SALARY".toList.isPrefixOf? cs).map fun rest => (.salary, rest)

/-- Reads the salary, a percentage, or a number. -/
def readTerm? (cs : List Char) : Option (Term × List Char) :=
  (readSalary? cs).or <|
    ((readPercent? cs).or (readNumber? cs)).map fun (value, rest) => (.constant value, rest)

/-- The limit set by a single term. -/
def Term.alone : Term → Limit
  | .salary => .salary
  | .constant value => .fixed value

/-- The limit set by two terms, one of which has to be the salary. -/
def Term.times? : Term → Term → Option Limit
  | .salary, .constant factor => some (.salaryTimes factor)
  | .constant factor, .salary => some (.salaryTimes factor)
  | _, _ => none

/-- Reads a product of the salary and a constant. -/
def readProduct? (cs : List Char) : Option (Limit × List Char) := do
  let (left, rest) ← readTerm? cs
  let (right, rest) ← readTerm? (← ['*'].isPrefixOf? rest)
  return (← left.times? right, rest)

/-- Reads a product, or else a single term. -/
def readExpression? (cs : List Char) : Option (Limit × List Char) :=
  (readProduct? cs).or ((readTerm? cs).map fun (term, rest) => (term.alone, rest))

/-- What every formula starts with. -/
def opening : List Char :=
  "AMOUNT<=".toList

/-- Reads a formula in its canonical form, with nothing behind it. -/
def readLimit? (cs : List Char) : Option Limit := do
  let (limit, rest) ← readExpression? (← opening.isPrefixOf? cs)
  if rest.isEmpty then some limit else none

/-- Reads a formula. It keeps its text as given, and so does the error. -/
def ofText (text : String) : Except Unsupported Formula :=
  match readLimit? (canonical text) with
  | some limit => .ok ⟨text, limit⟩
  | none => .error ⟨text⟩

end ExpenseReport.Formula
