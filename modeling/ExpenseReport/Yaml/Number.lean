import ExpenseReport.Decimal.Text
import ExpenseReport.Double.Text
import ExpenseReport.Text.Digits

/-!
# Numbers in YAML

A plain scalar is taken for what it looks like. Whole numbers may be written with base 16, 8 or 2
and are exact as long as they fit in 64 bits; larger ones are refused. Other numbers go through a
double. A run of digits with a superfluous zero in front is no number of YAML's.
-/

namespace ExpenseReport.Yaml

open Text

-- Powers of whole numbers are the core library's.
attribute [local instance (high)] instPowNat

/-- What may be written for nothing. -/
def isNullWord (cs : List Char) : Bool :=
  ["null", "Null", "NULL", "~"].any (·.toList = cs)

/-- What may be written for a truth value. -/
def isBoolWord (cs : List Char) : Bool :=
  ["true", "True", "TRUE", "false", "False", "FALSE"].any (·.toList = cs)

/-- A text without the plus in front. -/
def dropPlus : List Char → List Char
  | '+' :: rest => rest
  | cs => cs

def isSigned (cs : List Char) : Bool :=
  cs.head?.any fun c => c = '+' || c = '-'

/-- A sign at most and several digits, the first of them zero. -/
def isPaddedNumber (cs : List Char) : Bool :=
  match (if isSigned cs then cs.drop 1 else cs) with
  | '0' :: rest => !rest.isEmpty && rest.all isDigit
  | _ => false

/-- The letters of the bases other than ten. -/
def bases : List (Char × Nat) :=
  [('x', 16), ('o', 8), ('b', 2)]

/-- The number denoted by digits of a base, at least one. -/
def digitsIn? (base : Nat) (cs : List Char) : Option Nat :=
  if cs.isEmpty then none
  else
    cs.foldlM
      (fun n c => (hexValue? c).bind fun d => if d < base then some (base * n + d) else none) 0

/-- The number behind the marker of a base. -/
def basedNumber? : List Char → Option Nat
  | '0' :: mark :: rest => (bases.lookup mark).bind (digitsIn? · rest)
  | _ => none

/-- A whole number that is not negative, with a plus in front at most. -/
def wholeNumber? (cs : List Char) : Option Nat :=
  (basedNumber? (dropPlus cs)).or (if isPaddedNumber cs then none else value? (dropPlus cs))

/-- The size of a negative whole number. -/
def negativeNumber? : List Char → Option Nat
  | '-' :: rest => (basedNumber? rest).or (if isPaddedNumber rest then none else value? rest)
  | _ => none

/-- What a plain scalar that looks like a number stands for. -/
inductive Number where
  | whole (n : Int)
  /-- A whole number out of range. -/
  | tooLarge
  | double (x : Double)

/-- The whole number that a scalar looks like, if it is one of 128 bits at most. -/
def readWhole? (cs : List Char) : Option Number :=
  match wholeNumber? cs, negativeNumber? cs with
  | some n, _ =>
    if n < 2 ^ (64 : Nat) then some (.whole n)
    else if n < 2 ^ (128 : Nat) then some .tooLarge
    else none
  | none, some n =>
    if n ≤ 2 ^ (63 : Nat) then some (.whole (-(n : Int)))
    else if n ≤ 2 ^ (127 : Nat) then some .tooLarge
    else none
  | none, none => none

/-- A number that goes through a double, or infinity and the like, for which there is none. -/
def readFloating? (cs : List Char) : Option Number :=
  let body := dropPlus cs
  if [".inf", ".Inf", ".INF"].any (·.toList = body)
      ∨ ["-.inf", "-.Inf", "-.INF", ".nan", ".NaN", ".NAN"].any (·.toList = cs) then some .tooLarge
  else if cs.head? = some '+' ∧ isSigned body then none
  else (Double.read? body).map .double

/-- The number that a plain scalar looks like. -/
def readNumber? (cs : List Char) : Option Number :=
  (readWhole? cs).or (if isPaddedNumber cs then none else readFloating? cs)

/-- The decimal that a number stands for, if it is in range. -/
def Number.decimal? : Number → Option Decimal
  | whole n => Decimal.signed? (n < 0) n.natAbs 0
  | tooLarge => none
  | double x => Decimal.read? x.write

/-- The decimal of a plain scalar: a number's, or else what its text reads as. -/
def plainDecimal? (cs : List Char) : Option Decimal :=
  if cs.isEmpty || isNullWord cs || isBoolWord cs then none
  else
    match readNumber? cs with
    | some number => number.decimal?
    | none => Decimal.read? cs

end ExpenseReport.Yaml
