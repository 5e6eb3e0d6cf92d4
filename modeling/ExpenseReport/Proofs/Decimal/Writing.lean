import ExpenseReport.Proofs.Decimal.Reading

/-!
# Decimals written and read

What is written for a decimal are its digits, with no more zeros in front than one before the point,
and as many behind the point as the scale says. So it is read as the same decimal, and only the sign
of a zero is lost.
-/

namespace ExpenseReport.Decimal

open Text

/-- Digits in front of the point, the point, and as many digits behind it as the scale says. -/
theorem writeMagnitude_eq (magnitude : Nat) {scale : Nat} (hscale : scale ≠ 0) :
    ∃ whole fraction, writeMagnitude magnitude scale = whole ++ '.' :: fraction ∧
      IsShortest whole ∧ fraction.length = scale ∧
      valueFrom? 0 (whole ++ fraction) = some magnitude := by
  have hlength := le_length_paddedDigits (scale + 1) magnitude
  refine ⟨(paddedDigits (scale + 1) magnitude).take
      ((paddedDigits (scale + 1) magnitude).length - scale),
    (paddedDigits (scale + 1) magnitude).drop
      ((paddedDigits (scale + 1) magnitude).length - scale), ?_,
    isShortest_take_paddedDigits scale magnitude hscale, ?_, ?_⟩
  · rw [writeMagnitude, if_neg hscale]
  · rw [List.length_drop]
    omega
  · rw [List.take_append_drop, valueFrom?_paddedDigits]

theorem readWhole?_writeMagnitude (d : Decimal) :
    readWhole? 0 false (writeMagnitude d.magnitude d.scale) = some (d.magnitude, d.scale) := by
  by_cases hscale : d.scale = 0
  · rw [hscale, writeMagnitude, if_pos rfl, ← List.append_nil (digits d.magnitude),
      readWhole?_append [] (valueFrom?_digits d.magnitude) d.magnitude_le]
    simp [readWhole?, digits_ne_nil]
  · obtain ⟨whole, fraction, hwrite, hwhole, hlength, hvalue⟩ :=
      writeMagnitude_eq d.magnitude hscale
    rw [valueFrom?_append, Option.bind_eq_some_iff] at hvalue
    obtain ⟨n, hn, hfraction⟩ := hvalue
    have hle := Nat.le_trans (le_of_valueFrom?_eq_some hfraction) d.magnitude_le
    have hstarted : (false || !whole.isEmpty) = true := by simpa using hwhole.ne_nil
    have hpoint : digitValue? '.' = none := rfl
    rw [hwrite, readWhole?_append ('.' :: fraction) hn hle, hstarted]
    simp only [readWhole?, hpoint, if_true]
    rw [readFraction?_of_fits hfraction d.magnitude_le (by rw [hlength]; simpa using d.scale_le)
      (Or.inl rfl), hlength, Nat.zero_add]

/-- The digits of a decimal are read as a decimal with the same digits. -/
theorem readSigned?_writeMagnitude (negative : Bool) (d : Decimal) :
    readSigned? negative (writeMagnitude d.magnitude d.scale) =
      signed? negative d.magnitude d.scale := by
  rw [readSigned?, readWhole?_writeMagnitude]
  rfl

/-! ## The sign of zero -/

/-- A zero with a minus sign. -/
def IsSignedZero (d : Decimal) : Prop :=
  d.negative = true ∧ d.magnitude = 0

instance (d : Decimal) : Decidable d.IsSignedZero :=
  inferInstanceAs (Decidable (_ ∧ _))

/-- The same decimal, without a sign if it is zero. -/
def withoutZeroSign (d : Decimal) : Decimal :=
  ⟨d.negative && d.magnitude != 0, d.magnitude, d.scale, d.magnitude_le, d.scale_le⟩

theorem signed?_eq (d : Decimal) :
    signed? d.negative d.magnitude d.scale = some d.withoutZeroSign :=
  ofParts?_eq_some_iff.mpr ⟨rfl, rfl, rfl⟩

theorem coefficient_withoutZeroSign (d : Decimal) :
    d.withoutZeroSign.coefficient = d.coefficient := by
  by_cases hzero : d.magnitude = 0
  · simp [coefficient, withoutZeroSign, hzero]
  · simp [coefficient, withoutZeroSign, hzero]

theorem withoutZeroSign_eq_self_iff {d : Decimal} :
    d.withoutZeroSign = d ↔ ¬ d.IsSignedZero := by
  obtain ⟨negative, magnitude, scale, hmagnitude, hscale⟩ := d
  cases negative <;> simp [withoutZeroSign, IsSignedZero]

theorem write_of_isSignedZero {d : Decimal} (hd : d.IsSignedZero) :
    d.write = '-' :: d.withoutZeroSign.write := by
  simp [write, writeSign, withoutZeroSign, hd.1, hd.2]

/-! ## Texts -/

theorem exists_writeMagnitude_eq_cons (magnitude scale : Nat) :
    ∃ c rest, writeMagnitude magnitude scale = c :: rest ∧ isDigit c := by
  by_cases hscale : scale = 0
  · rw [writeMagnitude, if_pos hscale]
    cases hdigits : digits magnitude with
    | nil => exact absurd hdigits (digits_ne_nil magnitude)
    | cons c rest =>
        exact ⟨c, rest, rfl, isDigit_of_mem_digits c (hdigits ▸ List.mem_cons_self)⟩
  · obtain ⟨whole, fraction, hwrite, hwhole, _, hvalue⟩ := writeMagnitude_eq magnitude hscale
    cases whole with
    | nil => exact absurd rfl hwhole.ne_nil
    | cons c rest =>
        exact ⟨c, rest ++ '.' :: fraction, hwrite,
          isDigit_of_valueFrom?_eq_some hvalue c List.mem_cons_self⟩

/-- A decimal is read from its own text, but a zero loses its sign. -/
theorem read?_write (d : Decimal) : read? d.write = some d.withoutZeroSign := by
  have hplain : readPlain? d.write = some d.withoutZeroSign := by
    obtain ⟨c, rest, hwrite, hc⟩ := exists_writeMagnitude_eq_cons d.magnitude d.scale
    have hsigned := readSigned?_writeMagnitude d.negative d
    rw [signed?_eq] at hsigned
    cases hnegative : d.negative with
    | true =>
        rw [hnegative] at hsigned
        simpa [write, writeSign, hnegative, readPlain?] using hsigned
    | false =>
        rw [hnegative, hwrite] at hsigned
        simpa [write, writeSign, hnegative, hwrite, readPlain?_cons_of_isDigit hc] using hsigned
  rw [read?, hplain, Option.some_or]

theorem ofText?_toText (d : Decimal) : ofText? d.toText = some d.withoutZeroSign := by
  rw [ofText?, toText, String.toList_ofList, read?_write]

/-- Only digits, points and minus signs are written. -/
def IsWritten (c : Char) : Prop :=
  isDigit c ∨ c = '.' ∨ c = '-'

instance (c : Char) : Decidable (IsWritten c) :=
  inferInstanceAs (Decidable (_ ∨ _))

theorem isWritten_of_mem_writeMagnitude {magnitude scale : Nat} :
    ∀ c ∈ writeMagnitude magnitude scale, IsWritten c := by
  by_cases hscale : scale = 0
  · rw [writeMagnitude, if_pos hscale]
    exact fun c hc => Or.inl (isDigit_of_mem_digits c hc)
  · obtain ⟨whole, fraction, hwrite, _, _, hvalue⟩ := writeMagnitude_eq magnitude hscale
    have hdigits := isDigit_of_valueFrom?_eq_some hvalue
    rw [hwrite]
    intro c hc
    rw [List.mem_append, List.mem_cons] at hc
    rcases hc with hc | rfl | hc
    · exact Or.inl (hdigits c (List.mem_append_left _ hc))
    · exact Or.inr (Or.inl rfl)
    · exact Or.inl (hdigits c (List.mem_append_right _ hc))

theorem isWritten_of_mem_append {d : Decimal} {magnitude scale : Nat} :
    ∀ c ∈ d.writeSign ++ writeMagnitude magnitude scale, IsWritten c := by
  rw [List.forall_mem_append]
  refine ⟨?_, isWritten_of_mem_writeMagnitude⟩
  intro c hc
  unfold writeSign at hc
  split at hc
  next => exact Or.inr (Or.inr (List.mem_singleton.mp hc))
  next => cases hc

theorem mem_write {d : Decimal} : ∀ c ∈ d.write, IsWritten c :=
  isWritten_of_mem_append

end ExpenseReport.Decimal
