import ExpenseReport.Proofs.Decimal.Rounding

/-!
# Products are nearest decimals

The product of two decimals is the decimal nearest to the product of what they stand for, or there
is none because that is out of range. So a product depends on values only: zeros behind the point of
a factor change its digits, never its size.
-/

namespace ExpenseReport.Decimal

/-! ## The scale that is kept -/

/-- What is kept fits, and nothing fits at a larger scale. -/
theorem fit?_eq_some {magnitude scale kept rounded k : ℕ}
    (hfit : fit? magnitude scale kept = some (rounded, k)) :
    k ≤ kept ∧ rounded = divRoundHalfEven magnitude (10 ^ (scale - k)) ∧ rounded ≤ maxMagnitude ∧
      ∀ j ≤ kept, k < j → maxMagnitude < divRoundHalfEven magnitude (10 ^ (scale - j)) := by
  induction kept with
  | zero =>
      simp only [fit?] at hfit
      split at hfit
      next hfits =>
        cases hfit
        exact ⟨le_rfl, rfl, hfits, fun j hj hlt => by omega⟩
      next => cases hfit
  | succ kept ih =>
      simp only [fit?] at hfit
      split at hfit
      next hfits =>
        cases hfit
        exact ⟨le_rfl, rfl, hfits, fun j hj hlt => by omega⟩
      next hlarge =>
        obtain ⟨hk, hrounded, hfits, hmax⟩ := ih hfit
        refine ⟨hk.trans (Nat.le_succ kept), hrounded, hfits, ?_⟩
        intro j hj hlt
        rcases Nat.le_succ_iff.mp hj with hle | rfl
        · exact hmax j hle hlt
        · exact not_le.mp hlarge

/-- Nothing is kept only when not even the whole part fits. -/
theorem fit?_eq_none {magnitude scale kept : ℕ} (hfit : fit? magnitude scale kept = none) :
    maxMagnitude < divRoundHalfEven magnitude (10 ^ scale) := by
  induction kept with
  | zero =>
      simp only [fit?] at hfit
      split at hfit
      next => cases hfit
      next hlarge => exact not_le.mp hlarge
  | succ kept ih =>
      simp only [fit?] at hfit
      split at hfit
      next => cases hfit
      next => exact ih hfit

/-- Moving the point of a decimal fraction to the right. -/
theorem div_pow_mul_pow (magnitude : ℕ) {scale k : ℕ} (hk : k ≤ scale) :
    (magnitude / 10 ^ scale : ℚ) * 10 ^ k = magnitude / (10 ^ (scale - k) : ℕ) := by
  obtain ⟨e, rfl⟩ := Nat.exists_eq_add_of_le hk
  rw [pow_add, Nat.add_sub_cancel_left]
  push_cast
  field_simp

/-- Rounding the digits that are dropped is rounding at the scale that is kept. -/
theorem isNearestEven_dropped (magnitude : ℕ) {scale k : ℕ} (hk : k ≤ scale) :
    IsNearestEven ((magnitude / 10 ^ scale : ℚ) * 10 ^ k)
      (divRoundHalfEven magnitude (10 ^ (scale - k))) := by
  rw [div_pow_mul_pow magnitude hk]
  exact isNearestEven_divRoundHalfEven magnitude (Nat.pow_pos (by norm_num))

theorem divRoundHalfEven_one (n : ℕ) : divRoundHalfEven n 1 = n := by
  simp [divRoundHalfEven, Nat.mod_one]

theorem isNearestDecimal_of_fit? {magnitude scale rounded k : ℕ}
    (hfit : fit? magnitude scale (min scale maxScale) = some (rounded, k)) :
    IsNearestDecimal (magnitude / 10 ^ scale) (rounded / 10 ^ k) := by
  obtain ⟨hk, hrounded, hfits, hmax⟩ := fit?_eq_some hfit
  have hkscale : k ≤ scale := hk.trans (min_le_left _ _)
  have hkmax : k ≤ maxScale := hk.trans (min_le_right _ _)
  have hfitsInt : |((rounded : ℕ) : ℤ)| ≤ maxMagnitude := by
    rw [abs_of_nonneg (by positivity)]
    exact_mod_cast hfits
  rcases hkscale.eq_or_lt with rfl | hlt
  · -- All digits are kept, so nothing is rounded.
    rw [Nat.sub_self, pow_zero, divRoundHalfEven_one] at hrounded
    subst hrounded
    exact (isRepresentable_iff.mpr ⟨rounded, k, hfitsInt, hkmax, by simp⟩).isNearestDecimal
  · refine ⟨k, hkmax, rounded, ?_, hfitsInt, by simp, ?_⟩
    · rw [hrounded]
      exact isNearestEven_dropped magnitude hkscale
    · intro j hj hkj m hm
      by_contra hle
      -- What fits at a scale with more digits than there are fits at the scale of all digits.
      have hsmaller : |(magnitude / 10 ^ scale : ℚ) * 10 ^ min j scale| < maxMagnitude + 1 / 2 :=
        (abs_mul_pow_le _ (min_le_left _ _)).trans_lt (hm.abs_le_iff.mp (not_lt.mp hle))
      have hround := isNearestEven_dropped magnitude (min_le_right j scale)
      have hlarge := hmax (min j scale) (by omega) (by omega)
      have hfitsThere := hround.abs_le_iff.mpr hsmaller
      rw [abs_of_nonneg (by positivity)] at hfitsThere
      exact absurd (by exact_mod_cast hfitsThere) hlarge.not_ge

/-- Out of range is what is at least half a unit above the greatest decimal. -/
theorem le_of_fit?_eq_none {magnitude scale kept : ℕ} (hfit : fit? magnitude scale kept = none) :
    (maxMagnitude : ℚ) + 1 / 2 ≤ magnitude / 10 ^ scale := by
  have hlarge := fit?_eq_none hfit
  have hround := isNearestEven_dropped magnitude (Nat.zero_le scale)
  rw [pow_zero, mul_one, Nat.sub_zero] at hround
  by_contra hlt
  have hfits := hround.abs_le_iff.mpr (by rw [abs_of_nonneg (by positivity)]; exact not_le.mp hlt)
  rw [abs_of_nonneg (by positivity)] at hfits
  exact absurd (by exact_mod_cast hfits) hlarge.not_ge

/-! ## Products -/

theorem toRat_mul_toRat (a b : Decimal) :
    a.toRat * b.toRat = signFactor (a.negative != b.negative) *
      (((a.magnitude * b.magnitude : ℕ) : ℚ) / 10 ^ (a.scale + b.scale)) := by
  rw [toRat_eq, toRat_eq, signFactor_bne, pow_add]
  push_cast
  field_simp

theorem abs_toRat_mul_toRat (a b : Decimal) : |a.toRat * b.toRat| =
    ((a.magnitude * b.magnitude : ℕ) : ℚ) / 10 ^ (a.scale + b.scale) := by
  rw [toRat_mul_toRat, abs_mul, abs_signFactor, one_mul, abs_of_nonneg (by positivity)]

/-- Short factors with many digits behind the point have a product that rounds to zero. -/
theorem isNearestDecimal_zero_of_vanishes {a b : Decimal} (hab : vanishes a b) :
    IsNearestDecimal (a.toRat * b.toRat) 0 := by
  simp only [vanishes, areShort, Bool.and_eq_true, decide_eq_true_eq] at hab
  obtain ⟨⟨ha, hb⟩, hscale⟩ := hab
  have hproduct : a.magnitude * b.magnitude < 2 ^ 64 :=
    (Nat.mul_lt_mul'' ha hb).trans_eq (by norm_num)
  have hpow : 10 ^ 20 ≤ 10 ^ (a.scale + b.scale - maxScale) :=
    Nat.pow_le_pow_right (by norm_num) (by unfold maxScale; omega)
  have hsmall : |a.toRat * b.toRat * 10 ^ maxScale| < 1 / 2 := by
    rw [abs_mul, abs_toRat_mul_toRat, abs_of_pos (by positivity : (0 : ℚ) < 10 ^ maxScale),
      div_pow_mul_pow _ (by unfold maxScale; omega), div_lt_half_iff (by positivity)]
    omega
  refine ⟨maxScale, le_rfl, 0, IsNearestEven.of_lt (by simpa using hsmall), by simp, by simp, ?_⟩
  intro j hj hlt
  omega

/-- A product that there is is the nearest decimal. -/
theorem isNearestDecimal_of_times? {a b d : Decimal} (htimes : a.times? b = some d) :
    IsNearestDecimal (a.toRat * b.toRat) d.toRat := by
  unfold times? at htimes
  split at htimes
  next hzero =>
    cases htimes
    rw [toRat_zero]
    have hnone : a.magnitude = 0 ∨ b.magnitude = 0 → a.toRat * b.toRat = zero.toRat := by
      intro h
      rw [toRat_zero, mul_eq_zero]
      exact h.imp toRat_eq_zero_iff.mpr toRat_eq_zero_iff.mpr
    rcases hzero with ha | hb | hab
    · rw [hnone (Or.inl ha), toRat_zero]
      exact IsRepresentable.isNearestDecimal ⟨zero, toRat_zero⟩
    · rw [hnone (Or.inr hb), toRat_zero]
      exact IsRepresentable.isNearestDecimal ⟨zero, toRat_zero⟩
    · exact isNearestDecimal_zero_of_vanishes hab
  next =>
    simp only [Option.bind_eq_bind, Option.bind_eq_some_iff] at htimes
    obtain ⟨⟨rounded, k⟩, hfit, hd⟩ := htimes
    have hvalue : d.toRat = signFactor (a.negative != b.negative) * (rounded / 10 ^ k) := by
      split at hd
      next => exact toRat_signed? hd
      next => exact toRat_ofParts? hd
    rw [hvalue, toRat_mul_toRat]
    exact (isNearestDecimal_of_fit? hfit).signFactor_mul _

/-- There is no product only when it is out of range. -/
theorem le_of_times?_eq_none {a b : Decimal} (htimes : a.times? b = none) :
    (maxMagnitude : ℚ) + 1 / 2 ≤ |a.toRat * b.toRat| := by
  rw [abs_toRat_mul_toRat]
  unfold times? at htimes
  split at htimes
  next => cases htimes
  next =>
    cases hfit : fit? (a.magnitude * b.magnitude) (a.scale + b.scale)
        (min (a.scale + b.scale) maxScale) with
    | none => exact le_of_fit?_eq_none hfit
    | some parts =>
        obtain ⟨rounded, k⟩ := parts
        obtain ⟨hk, _, hfits, _⟩ := fit?_eq_some hfit
        obtain ⟨d, hd⟩ := exists_ofParts? (a.negative != b.negative) hfits
          (hk.trans (min_le_right _ _))
        obtain ⟨e, he⟩ := exists_ofParts? ((a.negative != b.negative) && rounded != 0) hfits
          (hk.trans (min_le_right _ _))
        simp only [hfit, signed?, hd, he, Option.bind_eq_bind, Option.bind_some] at htimes
        split at htimes <;> cases htimes

/-! ## Limits -/

/-- A product in range is the nearest decimal. -/
theorem scaledBy_of_abs_lt {a b : Decimal} (hlt : |a.toRat * b.toRat| < maxMagnitude + 1 / 2) :
    IsNearestDecimal (a.toRat * b.toRat) (a.scaledBy b).toRat := by
  unfold scaledBy
  cases htimes : a.times? b with
  | none => exact absurd hlt (le_of_times?_eq_none htimes).not_gt
  | some d => exact isNearestDecimal_of_times? htimes

/-- A product out of range becomes the greatest decimal or, from factors of two signs, the least. -/
theorem scaledBy_of_le {a b : Decimal} (hle : (maxMagnitude : ℚ) + 1 / 2 ≤ |a.toRat * b.toRat|) :
    a.scaledBy b = if a.negative = b.negative then greatest else least := by
  unfold scaledBy
  cases htimes : a.times? b with
  | none => rfl
  | some d => exact absurd (isNearestDecimal_of_times? htimes).abs_lt hle.not_gt

/-- A product that is a decimal is exact. -/
theorem scaledBy_of_isRepresentable {a b : Decimal} (hab : IsRepresentable (a.toRat * b.toRat)) :
    (a.scaledBy b).toRat = a.toRat * b.toRat :=
  (scaledBy_of_abs_lt hab.isNearestDecimal.abs_lt).eq_of_isRepresentable hab

/-- Away from zero, factors of one sign are those with a positive product. -/
theorem negative_eq_iff {a b : Decimal} (hne : a.toRat * b.toRat ≠ 0) :
    a.negative = b.negative ↔ 0 < a.toRat * b.toRat := by
  have hpos : 0 < |a.toRat * b.toRat| := abs_pos.mpr hne
  rw [abs_toRat_mul_toRat] at hpos
  rw [toRat_mul_toRat]
  constructor
  · intro hsign
    simpa [hsign, signFactor] using hpos
  · intro hproduct
    by_contra hsign
    rw [bne_iff_ne.mpr hsign] at hproduct
    simp only [signFactor, if_true] at hproduct
    linarith

/-- Factors of equal values have products of equal values. -/
theorem toRat_scaledBy_congr {a b a' b' : Decimal} (ha : a.toRat = a'.toRat)
    (hb : b.toRat = b'.toRat) : (a.scaledBy b).toRat = (a'.scaledBy b').toRat := by
  rcases lt_or_ge |a.toRat * b.toRat| (maxMagnitude + 1 / 2) with hlt | hle
  · have hleft := scaledBy_of_abs_lt hlt
    rw [ha, hb] at hlt hleft
    exact hleft.unique (scaledBy_of_abs_lt hlt)
  · have hne : a.toRat * b.toRat ≠ 0 := by
      rw [← abs_pos]
      exact lt_of_lt_of_le (by positivity) hle
    have hle' := hle
    have hne' := hne
    rw [ha, hb] at hle' hne'
    have hsign : a.negative = b.negative ↔ a'.negative = b'.negative := by
      rw [negative_eq_iff hne, negative_eq_iff hne', ha, hb]
    rw [scaledBy_of_le hle, scaledBy_of_le hle']
    simp only [hsign]

end ExpenseReport.Decimal
