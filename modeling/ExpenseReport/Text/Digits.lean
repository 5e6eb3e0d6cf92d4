/-!
# Digits

Numbers as runs of the ten ASCII digits: the shortest run that denotes a number, and the number
that a run denotes. Hexadecimal digits stand alone, for the parts of escapes and identifiers.
-/

namespace ExpenseReport.Text

/-- The value of an ASCII digit. Digits of other scripts have none. -/
def digitValue? (c : Char) : Option Nat :=
  if '0' ≤ c ∧ c ≤ '9' then some (c.toNat - '0'.toNat) else none

/-- Whether a character is one of the ten ASCII digits. -/
def isDigit (c : Char) : Bool :=
  (digitValue? c).isSome

/-- The digit of a value below ten. -/
def digitChar (d : Nat) : Char :=
  Char.ofNat ('0'.toNat + d)

/-- The digits of a number, without superfluous zeros in front. -/
def digits (n : Nat) : List Char :=
  if n < 10 then [digitChar n] else digits (n / 10) ++ [digitChar (n % 10)]
termination_by n
decreasing_by omega

def numeral (n : Nat) : String :=
  String.ofList (digits n)

/-- Continues a number, digit by digit; anything but a digit makes it no number. -/
def valueFrom? (start : Nat) : List Char → Option Nat
  | [] => some start
  | c :: rest => do valueFrom? (10 * start + (← digitValue? c)) rest

/-- The number denoted by a run of at least one digit. -/
def value? (cs : List Char) : Option Nat :=
  if cs.isEmpty then none else valueFrom? 0 cs

/-- Digits with zeros in front, at least `width` characters long. -/
def paddedDigits (width n : Nat) : List Char :=
  List.replicate (width - (digits n).length) '0' ++ digits n

theorem digits_of_lt {n : Nat} (hn : n < 10) : digits n = [digitChar n] := by
  rw [digits, if_pos hn]

theorem digits_of_le {n : Nat} (hn : 10 ≤ n) :
    digits n = digits (n / 10) ++ [digitChar (n % 10)] := by
  rw [digits, if_neg (by omega)]

theorem digitValue?_digitChar {d : Nat} (hd : d < 10) : digitValue? (digitChar d) = some d := by
  match d, hd with
  | 0, _ | 1, _ | 2, _ | 3, _ | 4, _ | 5, _ | 6, _ | 7, _ | 8, _ | 9, _ => rfl

theorem valueFrom?_append (start : Nat) (cs ds : List Char) :
    valueFrom? start (cs ++ ds) = (valueFrom? start cs).bind (valueFrom? · ds) := by
  induction cs generalizing start with
  | nil => rfl
  | cons c rest ih =>
      cases h : digitValue? c with
      | none => simp [valueFrom?, h]
      | some d => simp [valueFrom?, h, ih]

theorem digits_ne_nil (n : Nat) : digits n ≠ [] := by
  rw [digits]
  split <;> simp

/-- The digits of a number denote it. -/
theorem value?_digits (n : Nat) : value? (digits n) = some n := by
  have hrun : valueFrom? 0 (digits n) = some n := by
    induction n using Nat.strongRecOn with
    | _ n ih =>
        by_cases hn : n < 10
        · simp [digits_of_lt hn, valueFrom?, digitValue?_digitChar hn]
        · rw [digits_of_le (by omega), valueFrom?_append, ih (n / 10) (by omega)]
          simp only [Option.bind_some, valueFrom?]
          rw [digitValue?_digitChar (by omega)]
          simp only [Option.bind_eq_bind, Option.bind_some, Option.some.injEq]
          omega
  cases h : digits n with
  | nil => exact absurd h (digits_ne_nil n)
  | cons c rest => simpa [value?, h] using hrun

/-! ## Hexadecimal digits -/

/-- The value of a hexadecimal digit of either case. -/
def hexValue? (c : Char) : Option Nat :=
  if '0' ≤ c ∧ c ≤ '9' then some (c.toNat - '0'.toNat)
  else if 'a' ≤ c ∧ c ≤ 'f' then some (c.toNat - 'a'.toNat + 10)
  else if 'A' ≤ c ∧ c ≤ 'F' then some (c.toNat - 'A'.toNat + 10)
  else none

/-- The digit of a value below sixteen, in small letters. -/
def hexDigit (n : Nat) : Char :=
  if n < 10 then Char.ofNat ('0'.toNat + n) else Char.ofNat ('a'.toNat + (n - 10))

/-- A digit shows its value. -/
theorem hexValue?_hexDigit {n : Nat} (hn : n < 16) : hexValue? (hexDigit n) = some n := by
  revert n
  decide

end ExpenseReport.Text
