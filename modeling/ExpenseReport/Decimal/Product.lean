import ExpenseReport.Decimal.Basic

/-!
# Products and percentages

Multiplication keeps as many digits behind the point as fit and rounds a half to the even
neighbour. Limits never overflow: a product out of range becomes the greatest or the least decimal.
-/

namespace ExpenseReport.Decimal

-- Powers of whole numbers are the core library's.
attribute [local instance (high)] instPowNat

/-- The quotient rounded to the nearest number, a half to the even neighbour. -/
def divRoundHalfEven (n d : Nat) : Nat :=
  let quotient := n / d
  let remainder := n % d
  if 2 * remainder < d then quotient
  else if d < 2 * remainder then quotient + 1
  else if quotient % 2 = 0 then quotient
  else quotient + 1

/-- The number `magnitude / 10 ^ scale` at the largest scale, `kept` at most, at which its rounded
magnitude fits. -/
def fit? (magnitude scale : Nat) : Nat → Option (Nat × Nat)
  | 0 =>
    let rounded := divRoundHalfEven magnitude (10 ^ scale)
    if rounded ≤ maxMagnitude then some (rounded, 0) else none
  | kept + 1 =>
    let rounded := divRoundHalfEven magnitude (10 ^ (scale - (kept + 1)))
    if rounded ≤ maxMagnitude then some (rounded, kept + 1) else fit? magnitude scale kept

/-- Whether both magnitudes fit in 32 bits. -/
def areShort (a b : Decimal) : Bool :=
  a.magnitude < 2 ^ (32 : Nat) && b.magnitude < 2 ^ (32 : Nat)

/-- Short factors so small that their product is taken for zero: it would have more than 47 digits
behind the point. -/
def vanishes (a b : Decimal) : Bool :=
  areShort a b && 47 < a.scale + b.scale

/-- The product of two decimals, or nothing when no scale can hold it. A product with zero has no
digits behind the point and no sign. What is rounded to zero keeps its sign, unless both factors are
short. -/
def times? (a b : Decimal) : Option Decimal :=
  if a.magnitude = 0 ∨ b.magnitude = 0 ∨ vanishes a b then some zero
  else do
    let scale := a.scale + b.scale
    let (rounded, kept) ← fit? (a.magnitude * b.magnitude) scale (min scale maxScale)
    let negative := a.negative != b.negative
    if areShort a b then signed? negative rounded kept else ofParts? negative rounded kept

/-- The product of two decimals. Out of range it is the greatest decimal for factors of one sign
and the least for factors of two. -/
def scaledBy (a b : Decimal) : Decimal :=
  (a.times? b).getD (if a.negative = b.negative then greatest else least)

/-- Drops zeros behind the point, as many as there are. -/
def stripZeros (magnitude : Nat) : Nat → Nat × Nat
  | 0 => (magnitude, 0)
  | scale + 1 =>
    if magnitude % 10 = 0 then stripZeros (magnitude / 10) scale else (magnitude, scale + 1)

/-- The decimal of the same size with no superfluous zero behind the point and no sign at zero. -/
def normalize (d : Decimal) : Decimal :=
  let (magnitude, scale) := stripZeros d.magnitude d.scale
  (signed? d.negative magnitude scale).getD d

/-! ## Hundredths -/

/-- Drops eight zeros at a time, while they stand behind the point and 32 binary ones with them. -/
def stripEights (magnitude scale : Nat) : Nat × Nat :=
  if 8 ≤ scale ∧ magnitude % 2 ^ (32 : Nat) = 0 ∧ magnitude % 10 ^ (8 : Nat) = 0 then
    stripEights (magnitude / 10 ^ (8 : Nat)) (scale - 8)
  else (magnitude, scale)
termination_by scale

/-- Drops `count` zeros behind the point once, if there are as many. -/
def stripOnce (count : Nat) (parts : Nat × Nat) : Nat × Nat :=
  if count ≤ parts.2 ∧ parts.1 % 10 ^ count = 0 then (parts.1 / 10 ^ count, parts.2 - count)
  else parts

/-- Shortens a quotient: by eights, then by four, two and one zeros, once each. -/
def shorten (magnitude scale : Nat) : Nat × Nat :=
  stripOnce 1 (stripOnce 2 (stripOnce 4 (stripEights magnitude scale)))

/-- The most digits, `limit` at most, that a magnitude can be extended by. -/
def room (magnitude : Nat) : Nat → Nat
  | 0 => 0
  | limit + 1 =>
    if magnitude * 10 ^ (limit + 1) ≤ maxMagnitude then limit + 1 else room magnitude limit

/-- A hundredth of `magnitude / 10 ^ scale`. A quotient that leaves no rest keeps the scale. Any
other is worked out to nine more digits at most, as far as they fit, and then shortened; digits
past the largest scale are rounded, a half to the even neighbour. -/
def hundredthParts (magnitude scale : Nat) : Nat × Nat :=
  if magnitude = 0 then (0, 0)
  else if magnitude % 100 = 0 then (magnitude / 100, scale)
  else if scale + 2 ≤ maxScale then
    let extra := room magnitude (min 7 (maxScale - 2 - scale))
    shorten (magnitude * 10 ^ extra) (scale + 2 + extra)
  else shorten (divRoundHalfEven magnitude (10 ^ (scale + 2 - maxScale))) maxScale

/-- One per cent of a decimal. -/
def hundredth (d : Decimal) : Decimal :=
  let (magnitude, scale) := hundredthParts d.magnitude d.scale
  (signed? d.negative magnitude scale).getD zero

end ExpenseReport.Decimal
