import ExpenseReport.Text.Digits

/-!
# Double precision

Binary floating-point numbers with 53 significant bits, as exact numbers: a significand and a power
of two. A decimal number becomes the nearest of them, a tie the one with an even significand.
-/

namespace ExpenseReport

-- Powers of whole numbers are the core library's.
attribute [local instance (high)] instPowNat

/-- The number `significand * 2 ^ exponent`, with a sign. Of the ways to write a number the one with
the largest significand below `2 ^ 53` is meant, as far as the exponent may fall. -/
structure Double where
  negative : Bool
  significand : Nat
  exponent : Int
deriving DecidableEq

namespace Double

/-- How many bits a significand has. -/
def precision : Nat := 53

/-- The least exponent. -/
def minExponent : Int := -1074

/-- The greatest exponent. -/
def maxExponent : Int := 971

/-- The quotient of natural numbers times a power of two, rounded to the nearest number, a half to
the even one. -/
def roundQuotient (n d : Nat) (exponent : Int) : Nat :=
  let numerator := n * 2 ^ (-exponent).toNat
  let denominator := d * 2 ^ exponent.toNat
  let quotient := numerator / denominator
  let twice := 2 * (numerator % denominator)
  if twice < denominator then quotient
  else if denominator < twice then quotient + 1
  else if quotient % 2 = 0 then quotient
  else quotient + 1

/-- The exponent at which a positive quotient has as many bits as a significand, or nearly so: one
bit too many is possible. -/
def exponentEstimate (n d : Nat) : Int :=
  (n.log2 : Int) - (d.log2 : Int) - precision

/-- The nearest number to a quotient, or nothing if it is too large. -/
def ofQuotient? (negative : Bool) (n d : Nat) : Option Double :=
  if n = 0 then some ⟨negative, 0, minExponent⟩
  else
    let estimate := exponentEstimate n d
    let exponent :=
      max minExponent
        (if roundQuotient n d estimate < 2 ^ precision then estimate else estimate + 1)
    let significand := roundQuotient n d exponent
    let (significand, exponent) :=
      if significand < 2 ^ precision then (significand, exponent)
      else (significand / 2, exponent + 1)
    if exponent ≤ maxExponent then some ⟨negative, significand, exponent⟩ else none

/-- The nearest number to `digits * 10 ^ exponent`, or nothing if it is too large. Beyond every
double on either side nothing is worked out. -/
def ofScientific? (negative : Bool) (digits : Nat) (exponent : Int) : Option Double :=
  if digits = 0 then ofQuotient? negative 0 1
  else
    let magnitude := exponent + (digits.log2 : Int) * 30103 / 100000
    if 400 < magnitude then none
    else if magnitude < -400 then ofQuotient? negative 0 1
    else ofQuotient? negative (digits * 10 ^ exponent.toNat) (10 ^ (-exponent).toNat)

end Double

end ExpenseReport
