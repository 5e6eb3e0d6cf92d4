import ExpenseReport.Proofs.Decimal.Writing

/-!
# Canonical texts

A decimal is written as a text with no digit and no sign too many. Every text of that kind is the
text of some decimal, and it is read as that one: what was written is what had been read.
-/

namespace ExpenseReport.Decimal

open Text

/-- A plain text of a decimal: a minus at most, a shortest run of digits, and a point with digits
behind it, if there are any. A zero has no minus, and the digits fit into a decimal. -/
structure CanonicalText where
  negative : Bool
  whole : List Char
  fraction : List Char
  magnitude : Nat
  isShortest_whole : IsShortest whole
  value_eq : valueFrom? 0 (whole ++ fraction) = some magnitude
  magnitude_le : magnitude ≤ maxMagnitude
  length_fraction_le : fraction.length ≤ maxScale
  magnitude_ne_zero : negative → magnitude ≠ 0

namespace CanonicalText

variable (text : CanonicalText)

def sign : List Char :=
  if text.negative then ['-'] else []

def chars : List Char :=
  text.sign ++ text.whole ++ if text.fraction.isEmpty then [] else '.' :: text.fraction

def toText : String :=
  String.ofList text.chars

/-- The decimal with the digits of the text, as many of them behind the point. -/
def decimal : Decimal :=
  ⟨text.negative, text.magnitude, text.fraction.length, text.magnitude_le, text.length_fraction_le⟩

theorem writeMagnitude_eq :
    writeMagnitude text.magnitude text.fraction.length =
      text.whole ++ if text.fraction.isEmpty then [] else '.' :: text.fraction := by
  have hvalue := text.value_eq
  by_cases hfraction : text.fraction = []
  · rw [hfraction, List.append_nil] at hvalue
    simp [writeMagnitude, hfraction, digits_eq_of_isShortest text.isShortest_whole hvalue]
  · have hlength : text.fraction.length ≠ 0 := by simpa using hfraction
    rw [writeMagnitude, if_neg hlength, paddedDigits_eq_append text.isShortest_whole hvalue]
    simp [hfraction]

theorem write_decimal : text.decimal.write = text.chars := by
  have hmagnitude := text.writeMagnitude_eq
  rw [write, decimal, hmagnitude, chars, List.append_assoc]
  rfl

theorem toText_decimal : text.decimal.toText = text.toText := by
  rw [Decimal.toText, write_decimal, toText]

theorem not_isSignedZero_decimal : ¬ text.decimal.IsSignedZero :=
  fun h => text.magnitude_ne_zero h.1 h.2

/-- A canonical text is read as the decimal of which it is the text. -/
theorem read?_chars : read? text.chars = some text.decimal := by
  rw [← write_decimal, read?_write, withoutZeroSign_eq_self_iff.mpr text.not_isSignedZero_decimal]

end CanonicalText

/-- Every decimal but the negative of zero is written as a canonical text. -/
theorem exists_canonicalText {d : Decimal} (hd : ¬ d.IsSignedZero) :
    ∃ text : CanonicalText, text.decimal = d := by
  obtain ⟨negative, magnitude, scale, hmagnitude, hscale⟩ := d
  have hsign : negative → magnitude ≠ 0 := fun hnegative hzero => hd ⟨hnegative, hzero⟩
  by_cases hzero : scale = 0
  · subst hzero
    have hvalue : valueFrom? 0 (digits magnitude ++ []) = some magnitude := by
      rw [List.append_nil, valueFrom?_digits]
    exact ⟨⟨negative, digits magnitude, [], magnitude, isShortest_digits magnitude, hvalue,
      hmagnitude, Nat.zero_le _, hsign⟩, rfl⟩
  · obtain ⟨whole, fraction, _, hwhole, rfl, hvalue⟩ :=
      Decimal.writeMagnitude_eq magnitude hzero
    exact ⟨⟨negative, whole, fraction, magnitude, hwhole, hvalue, hmagnitude, hscale, hsign⟩, rfl⟩

end ExpenseReport.Decimal
