import ExpenseReport.Decimal.Basic
import ExpenseReport.Text.Digits

/-!
# Decimals as text

Writing shows every digit behind the point, so the text keeps the scale. Reading takes digits one
by one for as long as they fit. A digit in front of the point that does not fit is a fault; behind
the point the first digit that does not fit rounds the last one kept, and the rest is passed over.
A text that is no plain decimal may still be one with an exponent.
-/

namespace ExpenseReport.Decimal

open Text

-- Powers of whole numbers are the core library's.
attribute [local instance (high)] instPowNat

/-! ## Writing -/

/-- The digits of a magnitude with `scale` of them behind the point. -/
def writeMagnitude (magnitude scale : Nat) : List Char :=
  if scale = 0 then digits magnitude
  else
    let ds := paddedDigits (scale + 1) magnitude
    ds.take (ds.length - scale) ++ '.' :: ds.drop (ds.length - scale)

/-- The sign in front of a decimal's digits. -/
def writeSign (d : Decimal) : List Char :=
  if d.negative then ['-'] else []

/-- All the digits of a decimal, exactly `scale` of them behind the point. -/
def write (d : Decimal) : List Char :=
  d.writeSign ++ writeMagnitude d.magnitude d.scale

def toText (d : Decimal) : String :=
  String.ofList d.write

/-- The magnitude of a decimal in hundredths; what is smaller is cut off. -/
def hundredths (d : Decimal) : Nat :=
  if d.scale ≤ 2 then d.magnitude * 10 ^ (2 - d.scale)
  else d.magnitude / 10 ^ (d.scale - 2)

/-- A decimal cut to two digits behind the point. The sign stays, also when only zeros do. -/
def toMoneyText (d : Decimal) : String :=
  String.ofList (d.writeSign ++ writeMagnitude d.hundredths 2)

/-! ## Reading plain decimals -/

/-- What may stand among digits that no longer count. -/
def isFiller (c : Char) : Bool :=
  isDigit c || c = '_'

/-- Rounds a full magnitude half up by the next digit. When that carries past the largest magnitude,
the last digit is given up too. -/
def roundOff? (magnitude scale digit : Nat) : Option (Nat × Nat) :=
  let rounded := if 5 ≤ digit then magnitude + 1 else magnitude
  if rounded ≤ maxMagnitude then some (rounded, scale)
  else if scale = 0 then none
  else some ((rounded + 4) / 10, scale - 1)

/-- The least magnitude that is too long to be continued in 64 bits: a margin of 255 below the tenth
part of what they hold. -/
def longMagnitude : Nat := (2 ^ (64 : Nat) - 1) / 10 - 255

/-- Whether the digits in front of the last one are a short magnitude. An underscore in the place of
the digit to round by counts as a zero behind them; behind a long one it is passed over. -/
def endsShort (magnitude scale : Nat) : Bool :=
  scale = maxScale && magnitude / 10 < longMagnitude

/-- Continues a magnitude behind the point. `started` says that a digit was seen; an underscore
may follow one. -/
def readFraction? (magnitude scale : Nat) (started : Bool) : List Char → Option (Nat × Nat)
  | [] => if started then some (magnitude, scale) else none
  | c :: rest =>
    match digitValue? c with
    | some digit =>
      if scale < maxScale ∧ 10 * magnitude + digit ≤ maxMagnitude then
        readFraction? (10 * magnitude + digit) (scale + 1) true rest
      else if rest.all isFiller then roundOff? magnitude scale digit
      else none
    | none =>
      if c ≠ '_' ∨ !started then none
      else if endsShort magnitude scale then
        if rest.all isFiller then some (magnitude, scale) else none
      else readFraction? magnitude scale started rest

/-- Continues a magnitude in front of the point. -/
def readWhole? (magnitude : Nat) (started : Bool) : List Char → Option (Nat × Nat)
  | [] => if started then some (magnitude, 0) else none
  | c :: rest =>
    match digitValue? c with
    | some digit =>
      if 10 * magnitude + digit ≤ maxMagnitude then
        readWhole? (10 * magnitude + digit) true rest
      else none
    | none =>
      if c = '.' then readFraction? magnitude 0 started rest
      else if c = '_' ∧ started then readWhole? magnitude started rest
      else none

/-- The decimal made of a sign and unsigned digits. A zero that is written out has no sign. -/
def readSigned? (negative : Bool) (cs : List Char) : Option Decimal := do
  let (magnitude, scale) ← readWhole? 0 false cs
  signed? negative magnitude scale

/-- Reads a decimal without exponent: a sign at most, digits, and one point at most, which may lead
or trail. -/
def readPlain? : List Char → Option Decimal
  | '-' :: rest => readSigned? true rest
  | '+' :: rest => readSigned? false rest
  | cs => readSigned? false cs

/-! ## Reading with an exponent -/

/-- The quotient rounded to the nearest number, a half away from zero. -/
def divRoundHalfUp (n d : Nat) : Nat :=
  (2 * n + d) / (2 * d)

/-- The same decimal with at most `scale` digits behind the point, a half rounded away from zero.
The sign stays, also when only zeros do. -/
def limitScale? (d : Decimal) (scale : Nat) : Option Decimal :=
  if d.scale ≤ scale then some d
  else
    ofParts? d.negative (divRoundHalfUp d.magnitude (10 ^ (d.scale - scale))) scale

/-- Moves the point to the left. Digits that would leave the scale are rounded off first. -/
def pointLeft? (d : Decimal) (places : Nat) : Option Decimal := do
  let kept ← d.limitScale? (maxScale - places)
  ofParts? kept.negative kept.magnitude (kept.scale + places)

/-- Moves the point to the right; past the last digit zeros are added. -/
def pointRight? (d : Decimal) (places : Nat) : Option Decimal :=
  if places ≤ d.scale then ofParts? d.negative d.magnitude (d.scale - places)
  else ofParts? d.negative (d.magnitude * 10 ^ (places - d.scale)) 0

/-- The size of an exponent: digits, with a plus in front at most, and 28 at most. -/
def readExponent? (cs : List Char) : Option Nat := do
  let size ← value? (match cs with | '+' :: rest => rest | _ => cs)
  if size ≤ maxScale then some size else none

/-- Shifts the point of a decimal by the exponent in `cs`, to the left behind a minus. -/
def shift? (d : Decimal) : List Char → Option Decimal
  | '-' :: rest => do d.pointLeft? (← readExponent? rest)
  | cs => do d.pointRight? (← readExponent? cs)

def isExponentMark (c : Char) : Bool :=
  c = 'e' || c = 'E'

/-- Reads a plain decimal followed by an exponent of ten. -/
def readScientific? (cs : List Char) : Option Decimal :=
  match cs.dropWhile (!isExponentMark ·) with
  | [] => none
  | _ :: exponent => do
    let base ← readPlain? (cs.takeWhile (!isExponentMark ·))
    base.shift? exponent

/-- Reads a decimal, with or without an exponent. -/
def read? (cs : List Char) : Option Decimal :=
  (readPlain? cs).or (readScientific? cs)

def ofText? (text : String) : Option Decimal :=
  read? text.toList

end ExpenseReport.Decimal
