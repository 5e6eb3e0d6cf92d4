import ExpenseReport.Double.Basic

/-!
# Doubles as text

A double is written with the fewest digits that read back as it, and among those with the nearest.
Numbers from a hundred-thousandth up to ten to the sixteenth are written out, with a digit on either
side of the point; others get an exponent.
-/

namespace ExpenseReport.Double

open Text

-- Powers of whole numbers are the core library's.
attribute [local instance (high)] instPowNat

/-! ## Reading -/

/-- Digits, a point among them at most, and an exponent at most. -/
structure Literal where
  digits : Nat
  exponent : Int

/-- The value of an exponent behind its letter. -/
def readExponent? : List Char → Option Int
  | '-' :: rest => (value? rest).map fun n => -(n : Int)
  | '+' :: rest => (value? rest).map fun n => (n : Int)
  | cs => (value? cs).map fun n => (n : Int)

/-- Reads the digits in front of an exponent. There is at least one, on either side of the point. -/
def readDigits? (cs : List Char) : Option Literal :=
  let whole := cs.takeWhile isDigit
  match cs.dropWhile isDigit with
  | [] => (value? whole).map fun n => ⟨n, 0⟩
  | '.' :: fraction => (value? (whole ++ fraction)).map fun n => ⟨n, -(fraction.length : Int)⟩
  | _ => none

/-- Whether a character opens an exponent. -/
def isExponentMark (c : Char) : Bool :=
  c = 'e' || c = 'E'

/-- Reads a number without a sign. -/
def readLiteral? (cs : List Char) : Option Literal := do
  let literal ← readDigits? (cs.takeWhile (!isExponentMark ·))
  match cs.dropWhile (!isExponentMark ·) with
  | [] => return literal
  | _ :: rest => return { literal with exponent := literal.exponent + (← readExponent? rest) }

/-- Reads a number, with a sign at most, as the nearest double. Numbers beyond all doubles and words
for infinity are refused. -/
def read? (cs : List Char) : Option Double :=
  let (negative, rest) :=
    match cs with
    | '-' :: rest => (true, rest)
    | '+' :: rest => (false, rest)
    | _ => (false, cs)
  (readLiteral? rest).bind fun literal => ofScientific? negative literal.digits literal.exponent

/-! ## Writing -/

/-- The number as a quotient, sign aside. -/
def quotient (x : Double) : Nat × Nat :=
  (x.significand * 2 ^ x.exponent.toNat, 2 ^ (-x.exponent).toNat)

/-- How far a decimal number is from a quotient, in units of the product of the denominators. -/
def distance (n d digits : Nat) (exponent : Int) : Nat :=
  let left := n * 10 ^ (-exponent).toNat
  let right := digits * 10 ^ exponent.toNat * d
  max left right - min left right

/-- Of the two neighbours of a number among the multiples of a power of ten, the nearer of those
that read back as it. -/
def neighbour? (x : Double) (exponent : Int) : Option Nat :=
  let (n, d) := x.quotient
  let below := n * 10 ^ (-exponent).toNat / (d * 10 ^ exponent.toNat)
  let hits := [below, below + 1].filter fun digits =>
    ofScientific? x.negative digits exponent = some x
  match hits with
  | [] => none
  | [only] => some only
  | _ =>
    let near := distance n d below exponent
    let far := distance n d (below + 1) exponent
    some (if near < far ∨ (near = far ∧ below % 2 = 0) then below else below + 1)

/-- The power of ten of the first digit of a positive quotient, found from an estimate that is not
too high. -/
def leading (n d : Nat) : Nat → Int → Int
  | 0, guess => guess
  | tries + 1, guess =>
    if d * 10 ^ (guess + 1).toNat ≤ n * 10 ^ (-(guess + 1)).toNat then leading n d tries (guess + 1)
    else guess

/-- The fewest digits of a positive number and the power of ten of the last one. -/
def shortest (x : Double) : Nat × Int :=
  let (n, d) := x.quotient
  let top := leading n d 4 (((n.log2 : Int) - (d.log2 : Int)) * 30103 / 100000 - 2)
  let found := (List.range 17).findSome? fun (extra : Nat) =>
    (x.neighbour? (top - extra)).map fun digits => (digits, top - (extra : Int))
  found.getD (0, 0)

/-- Drops the zeros at the end of digits. -/
def dropZeros (digits : Nat) (exponent : Int) : Nat → Nat × Int
  | 0 => (digits, exponent)
  | count + 1 =>
    if digits % 10 = 0 then dropZeros (digits / 10) (exponent + 1) count else (digits, exponent)

/-- Digits with a point behind the first so many of them. -/
def writePoint (digits : List Char) (whole : Nat) : List Char :=
  digits.take whole ++ '.' :: digits.drop whole

/-- A whole number with its sign. -/
def writeInt (n : Int) : List Char :=
  if n < 0 then '-' :: digits n.natAbs else digits n.natAbs

/-- The digits of a positive number with the power of ten of the last digit. -/
def writeDigits (n : Nat) (exponent : Int) : List Char :=
  let ds := digits n
  let point := ds.length + exponent
  if 0 ≤ exponent ∧ point ≤ 16 then ds ++ List.replicate exponent.toNat '0' ++ ['.', '0']
  else if 0 < point ∧ point ≤ 16 then writePoint ds point.toNat
  else if -5 < point ∧ point ≤ 0 then '0' :: '.' :: List.replicate (-point).toNat '0' ++ ds
  else
    (if ds.length = 1 then ds else writePoint ds 1) ++ 'e' :: writeInt (point - 1)

/-- A double with the fewest digits that read back as it. -/
def write (x : Double) : List Char :=
  let sign := if x.negative then ['-'] else []
  if x.significand = 0 then sign ++ ['0', '.', '0']
  else
    let (n, exponent) := x.shortest
    let (n, exponent) := dropZeros n exponent 17
    sign ++ writeDigits n exponent

end ExpenseReport.Double
