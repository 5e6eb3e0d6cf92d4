/-!
# Decimals

An amount of money or a factor: digits, a sign and the number of digits behind the point. The number
of those digits belongs to the value as it was entered, so `1.5` and `1.50` are two decimals of one
size. The digits make a magnitude of 96 bits at most, and at most 28 of them stand behind the point.
What is negative but too small for these places becomes a zero with a sign, which counts for as much
as any zero.
-/

namespace ExpenseReport

-- Powers of whole numbers are the core library's.
attribute [local instance (high)] instPowNat

/-- The largest magnitude: what fits in 96 bits. -/
def Decimal.maxMagnitude : Nat := 2 ^ (96 : Nat) - 1

/-- The largest number of digits behind the point. -/
def Decimal.maxScale : Nat := 28

/-- The number `magnitude / 10 ^ scale` with a sign; it is written with `scale` digits behind the
point. -/
structure Decimal where
  negative : Bool
  magnitude : Nat
  scale : Nat
  magnitude_le : magnitude ≤ Decimal.maxMagnitude
  scale_le : scale ≤ Decimal.maxScale
deriving DecidableEq

namespace Decimal

/-- The decimal with these parts, if they are in range. -/
def ofParts? (negative : Bool) (magnitude scale : Nat) : Option Decimal :=
  if h : magnitude ≤ maxMagnitude ∧ scale ≤ maxScale then
    some ⟨negative, magnitude, scale, h.1, h.2⟩
  else none

/-- The decimal with these parts, if they are in range; zero loses its sign. -/
def signed? (negative : Bool) (magnitude scale : Nat) : Option Decimal :=
  ofParts? (negative && magnitude != 0) magnitude scale

/-- No money, without digits behind the point. -/
def zero : Decimal := ⟨false, 0, 0, by decide, by decide⟩

def one : Decimal := ⟨false, 1, 0, by decide, by decide⟩

/-- How many parts a percentage counts. -/
def hundred : Decimal := ⟨false, 100, 0, by decide, by decide⟩

def greatest : Decimal := ⟨false, maxMagnitude, 0, by decide, by decide⟩

def least : Decimal := ⟨true, maxMagnitude, 0, by decide, by decide⟩

instance : Inhabited Decimal := ⟨zero⟩

/-- The magnitude with its sign. -/
def coefficient (d : Decimal) : Int :=
  if d.negative then -(d.magnitude : Int) else d.magnitude

/-- Sizes are compared exactly, whatever the scales. -/
instance : LE Decimal where
  le a b := a.coefficient * 10 ^ b.scale ≤ b.coefficient * 10 ^ a.scale

instance : LT Decimal where
  lt a b := a.coefficient * 10 ^ b.scale < b.coefficient * 10 ^ a.scale

instance (a b : Decimal) : Decidable (a ≤ b) :=
  inferInstanceAs (Decidable (a.coefficient * 10 ^ b.scale ≤ b.coefficient * 10 ^ a.scale))

instance (a b : Decimal) : Decidable (a < b) :=
  inferInstanceAs (Decidable (a.coefficient * 10 ^ b.scale < b.coefficient * 10 ^ a.scale))

/-- Both zeros are of one size. -/
theorem coefficient_eq_zero_iff {d : Decimal} : d.coefficient = 0 ↔ d.magnitude = 0 := by
  unfold coefficient
  split <;> omega

theorem ofParts?_eq_some_iff {negative : Bool} {magnitude scale : Nat} {d : Decimal} :
    ofParts? negative magnitude scale = some d ↔
      d.negative = negative ∧ d.magnitude = magnitude ∧ d.scale = scale := by
  unfold ofParts?
  split
  next h =>
    constructor
    · rintro ⟨⟩
      exact ⟨rfl, rfl, rfl⟩
    · rintro ⟨rfl, rfl, rfl⟩
      rfl
  next h =>
    constructor
    · simp
    · rintro ⟨rfl, rfl, rfl⟩
      exact absurd ⟨d.magnitude_le, d.scale_le⟩ h

end Decimal

end ExpenseReport
