import ExpenseReport.Proofs.Decimal.Value
import ExpenseReport.Proofs.Decimal.Writing
import Mathlib.Data.Rat.Floor

/-!
# Amounts cut to two places

In messages amounts have two digits behind the point, and what stands behind these is cut off. So
a message shows the number of whole hundredths toward zero. Cutting keeps the order but not that two
numbers differ: it takes a number of hundredths between them, zero apart, to tell them apart.
-/

namespace ExpenseReport.Decimal

open Text

/-! ## Numbers that texts show -/

/-- The number that digits with a point among them show. -/
def numberOfDigits? (cs : List Char) : Option ℚ :=
  match cs.dropWhile isDigit with
  | '.' :: fraction =>
    (value? (cs.takeWhile isDigit ++ fraction)).map fun n => (n : ℚ) / 10 ^ fraction.length
  | _ => none

/-- The number that a text shows: digits with a point among them, behind a minus sign or none. -/
def shownNumber? (text : String) : Option ℚ :=
  match text.toList with
  | '-' :: cs => (numberOfDigits? cs).map fun x => -x
  | cs => numberOfDigits? cs

example : ["12.50", "-0.07", "7", "1.5-"].map shownNumber? =
    [some (25 / 2), some (-7 / 100), none, none] := by
  decide +kernel

/-! ## Hundredths toward zero -/

/-- The whole hundredths in a number, counted from zero. -/
def cents (x : ℚ) : ℤ :=
  if 0 ≤ x then ⌊x * 100⌋ else ⌈x * 100⌉

/-- Some whole number of hundredths other than zero tells the numbers apart when they are cut. -/
def IsSeparated (x y : ℚ) : Prop :=
  ∃ k : ℤ, 0 < k ∧ x * 100 < k ∧ k ≤ y * 100 ∨ k < 0 ∧ x * 100 ≤ k ∧ k < y * 100

variable {x y : ℚ}

theorem cents_of_nonneg (hx : 0 ≤ x) : cents x = ⌊x * 100⌋ :=
  if_pos hx

theorem cents_of_nonpos (hx : x ≤ 0) : cents x = ⌈x * 100⌉ := by
  rcases hx.lt_or_eq with hneg | rfl
  · exact if_neg hneg.not_ge
  · simp [cents]

theorem cents_neg (x : ℚ) : cents (-x) = -cents x := by
  rcases le_total 0 x with hx | hx
  · rw [cents_of_nonneg hx, cents_of_nonpos (neg_nonpos.mpr hx), neg_mul, Int.ceil_neg]
  · rw [cents_of_nonpos hx, cents_of_nonneg (neg_nonneg.mpr hx), neg_mul, Int.floor_neg]

/-- A positive number of hundredths is in a number that reaches it. -/
theorem le_cents_iff {k : ℤ} (hk : 0 < k) : k ≤ cents x ↔ k ≤ x * 100 := by
  rcases le_total 0 x with hx | hx
  · rw [cents_of_nonneg hx, Int.le_floor]
  · have hpos : (0 : ℚ) < k := by exact_mod_cast hk
    have hnonpos : x * 100 ≤ 0 := by linarith
    have hceil : ⌈x * 100⌉ ≤ 0 := Int.ceil_le.mpr (by simpa using hnonpos)
    rw [cents_of_nonpos hx]
    exact ⟨fun hle => absurd (hle.trans hceil) hk.not_ge,
      fun hle => absurd (hle.trans hnonpos) hpos.not_ge⟩

theorem cents_le_iff {k : ℤ} (hk : k < 0) : cents x ≤ k ↔ x * 100 ≤ k := by
  have hmirrored := le_cents_iff (x := -x) (neg_pos.mpr hk)
  rw [cents_neg, neg_le_neg_iff, Int.cast_neg, neg_mul, neg_le_neg_iff] at hmirrored
  exact hmirrored

theorem cents_mono (hxy : x ≤ y) : cents x ≤ cents y := by
  have hscaled : x * 100 ≤ y * 100 := by linarith
  by_contra hlt
  rw [not_le] at hlt
  rcases lt_or_ge 0 (cents x) with hpos | hnonpos
  · have hle := (le_cents_iff hpos).mp le_rfl
    exact absurd ((le_cents_iff hpos).mpr (hle.trans hscaled)) hlt.not_ge
  · have hneg : cents y < 0 := hlt.trans_le hnonpos
    have hle := (cents_le_iff hneg).mp le_rfl
    exact absurd ((cents_le_iff hneg).mpr (hscaled.trans hle)) hlt.not_ge

/-- Of two numbers of hundredths that differ, one is not zero and lies between the numbers. -/
theorem cents_lt_cents_iff : cents x < cents y ↔ IsSeparated x y := by
  constructor
  · intro hlt
    rcases lt_or_ge 0 (cents y) with hpos | hnonpos
    · refine ⟨cents y, Or.inl ⟨hpos, ?_, (le_cents_iff hpos).mp le_rfl⟩⟩
      exact not_le.mp fun hle => hlt.not_ge ((le_cents_iff hpos).mpr hle)
    · have hneg : cents x < 0 := hlt.trans_le hnonpos
      refine ⟨cents x, Or.inr ⟨hneg, (cents_le_iff hneg).mp le_rfl, ?_⟩⟩
      exact not_le.mp fun hle => hlt.not_ge ((cents_le_iff hneg).mpr hle)
  · rintro ⟨k, ⟨hk, hx, hy⟩ | ⟨hk, hx, hy⟩⟩
    · exact (not_le.mp fun hle => hx.not_ge ((le_cents_iff hk).mp hle)).trans_le
        ((le_cents_iff hk).mpr hy)
    · exact ((cents_le_iff hk).mpr hx).trans_lt
        (not_le.mp fun hle => hy.not_ge ((cents_le_iff hk).mp hle))

/-! ## Amounts in messages -/

/-- Whole hundredths above zero are told apart from all that is less. -/
theorem isSeparated_of_scale_le {d : Decimal} (hd : 0 < d.toRat) (hscale : d.scale ≤ 2)
    (hlt : x < d.toRat) : IsSeparated x d.toRat := by
  have hwhole := div_pow_mul_pow_of_le d.coefficient hscale
  rw [← toRat, show (10 : ℚ) ^ 2 = 100 by norm_num] at hwhole
  have hpos : (0 : ℚ) < (d.coefficient * 10 ^ (2 - d.scale) : ℤ) := by
    rw [← hwhole]
    positivity
  refine ⟨d.coefficient * 10 ^ (2 - d.scale), Or.inl ⟨by exact_mod_cast hpos, ?_, hwhole.ge⟩⟩
  rw [← hwhole]
  linarith

/-- The digits that are shown are the whole hundredths of the size. -/
theorem floor_abs_toRat (d : Decimal) : ⌊|d.toRat| * 100⌋ = (d.hundredths : ℤ) := by
  rw [abs_toRat, hundredths]
  split
  next hle =>
    have hwhole := div_pow_mul_pow_of_le d.magnitude hle
    rw [Int.cast_natCast] at hwhole
    rw [show (100 : ℚ) = 10 ^ 2 by norm_num, hwhole, Int.floor_intCast]
    push_cast
    rfl
  next hlt =>
    obtain ⟨extra, hextra⟩ := Nat.exists_eq_add_of_le (not_le.mp hlt).le
    have hshift :
        (d.magnitude / 10 ^ d.scale * 100 : ℚ) = (d.magnitude : ℚ) / (10 ^ extra : ℕ) := by
      rw [hextra, pow_add]
      push_cast
      field_simp
      norm_num
    rw [hshift, Rat.floor_natCast_div_natCast, hextra, Nat.add_sub_cancel_left]
    exact (Int.natCast_div _ _).symm

theorem cents_toRat (d : Decimal) : (cents d.toRat : ℚ) = signFactor d.negative * d.hundredths := by
  have hmagnitude := floor_abs_toRat d
  have hsize : (0 : ℚ) ≤ d.magnitude / 10 ^ d.scale := by positivity
  cases hnegative : d.negative with
  | false =>
      have hnonneg : 0 ≤ d.toRat := by simpa [toRat_eq, hnegative, signFactor] using hsize
      rw [abs_of_nonneg hnonneg] at hmagnitude
      simp [cents_of_nonneg hnonneg, hmagnitude, signFactor]
  | true =>
      have hnonpos : d.toRat ≤ 0 := by simpa [toRat_eq, hnegative, signFactor] using hsize
      rw [abs_of_nonpos hnonpos] at hmagnitude
      have hmirrored := cents_neg d.toRat
      rw [cents_of_nonneg (neg_nonneg.mpr hnonpos), hmagnitude] at hmirrored
      have hcents : cents d.toRat = -d.hundredths := by omega
      simp [hcents, signFactor]

theorem numberOfDigits?_writeMagnitude (n : ℕ) :
    numberOfDigits? (writeMagnitude n 2) = some ((n : ℚ) / 100) := by
  obtain ⟨whole, fraction, hwrite, hwhole, hlength, hvalue⟩ := writeMagnitude_eq n two_ne_zero
  have hdigits := isDigit_of_valueFrom?_eq_some hvalue
  have hfront : ∀ c ∈ whole, isDigit c := fun c hc => hdigits c (List.mem_append_left _ hc)
  have hends : EndsRun ('.' :: fraction) := by simp [EndsRun, isDigit, digitValue?]
  have hnumber : value? (whole ++ fraction) = some n := by
    simp [value?, hwhole.ne_nil, hvalue]
  rw [hwrite, numberOfDigits?, takeWhile_isDigit_append hfront hends,
    dropWhile_isDigit_append hfront hends]
  simp only [hnumber, hlength]
  norm_num

/-- A message shows the whole hundredths of an amount. -/
theorem shownNumber?_toMoneyText (d : Decimal) :
    shownNumber? d.toMoneyText = some ((cents d.toRat : ℚ) / 100) := by
  have hnumber := numberOfDigits?_writeMagnitude d.hundredths
  rw [cents_toRat, shownNumber?, toMoneyText, String.toList_ofList, writeSign]
  cases hnegative : d.negative with
  | true =>
      simp [hnumber, signFactor, neg_div]
  | false =>
      obtain ⟨c, rest, hwrite, hc⟩ := exists_writeMagnitude_eq_cons d.hundredths 2
      have hsign : c ≠ '-' := by
        rintro rfl
        exact absurd hc (by decide)
      rw [hwrite] at hnumber
      simp [hwrite, hnumber, hsign, signFactor]

end ExpenseReport.Decimal
