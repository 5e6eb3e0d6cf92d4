import ExpenseReport.Proofs.Decimal.Product

/-!
# Hundredths and percentages

Dropping zeros behind the point and adding them changes no value. So a hundredth is exact wherever
some decimal stands for it, and is otherwise rounded at the largest scale.
-/

namespace ExpenseReport.Decimal

/-! ## Dropping zeros -/

/-- The parts `q` are the parts `p` without some zeros behind the point. -/
def IsShortened (p q : ℕ × ℕ) : Prop :=
  ∃ e, p.1 = q.1 * 10 ^ e ∧ p.2 = q.2 + e

namespace IsShortened

theorem refl (p : ℕ × ℕ) : IsShortened p p :=
  ⟨0, by simp⟩

theorem trans {p q r : ℕ × ℕ} (hpq : IsShortened p q) (hqr : IsShortened q r) :
    IsShortened p r := by
  obtain ⟨e, hmagnitude, hscale⟩ := hpq
  obtain ⟨f, hmagnitude', hscale'⟩ := hqr
  exact ⟨f + e, by rw [hmagnitude, hmagnitude', pow_add, mul_assoc], by omega⟩

/-- As many zeros as there are can be dropped. -/
theorem of_mod_eq_zero {magnitude scale count : ℕ} (hscale : count ≤ scale)
    (hzeros : magnitude % 10 ^ count = 0) :
    IsShortened (magnitude, scale) (magnitude / 10 ^ count, scale - count) :=
  ⟨count, (Nat.div_mul_cancel (Nat.dvd_of_mod_eq_zero hzeros)).symm,
    (Nat.sub_add_cancel hscale).symm⟩

theorem value_eq {p q : ℕ × ℕ} (hpq : IsShortened p q) :
    (q.1 / 10 ^ q.2 : ℚ) = p.1 / 10 ^ p.2 := by
  obtain ⟨e, hmagnitude, hscale⟩ := hpq
  rw [hmagnitude, hscale, pow_add]
  push_cast
  field_simp

theorem magnitude_le {p q : ℕ × ℕ} (hpq : IsShortened p q) : q.1 ≤ p.1 := by
  obtain ⟨e, hmagnitude, _⟩ := hpq
  rw [hmagnitude]
  exact Nat.le_mul_of_pos_right _ (by positivity)

theorem scale_le {p q : ℕ × ℕ} (hpq : IsShortened p q) : q.2 ≤ p.2 := by
  obtain ⟨e, _, hscale⟩ := hpq
  omega

end IsShortened

theorem isShortened_stripZeros (magnitude scale : ℕ) :
    IsShortened (magnitude, scale) (stripZeros magnitude scale) := by
  induction scale generalizing magnitude with
  | zero => exact IsShortened.refl _
  | succ scale ih =>
      rw [stripZeros]
      split
      next hzero =>
        have hstep : IsShortened (magnitude, scale + 1) (magnitude / 10 ^ 1, scale + 1 - 1) :=
          IsShortened.of_mod_eq_zero (Nat.le_add_left 1 scale) hzero
        rw [pow_one, Nat.add_sub_cancel] at hstep
        exact hstep.trans (ih _)
      next => exact IsShortened.refl _

theorem isShortened_stripEights (magnitude scale : ℕ) :
    IsShortened (magnitude, scale) (stripEights magnitude scale) := by
  fun_induction stripEights magnitude scale with
  | case1 magnitude scale hzeros ih =>
      exact (IsShortened.of_mod_eq_zero hzeros.1 hzeros.2.2).trans ih
  | case2 => exact IsShortened.refl _

theorem isShortened_stripOnce (count : ℕ) (parts : ℕ × ℕ) :
    IsShortened parts (stripOnce count parts) := by
  unfold stripOnce
  split
  next hzeros => exact IsShortened.of_mod_eq_zero hzeros.1 hzeros.2
  next => exact IsShortened.refl _

theorem isShortened_shorten (magnitude scale : ℕ) :
    IsShortened (magnitude, scale) (shorten magnitude scale) :=
  (isShortened_stripEights magnitude scale).trans <|
    (isShortened_stripOnce 4 _).trans <|
      (isShortened_stripOnce 2 _).trans (isShortened_stripOnce 1 _)

/-! ## Normal forms -/

/-- Dropping zeros behind the point changes no value. -/
theorem normalize_eq (d : Decimal) : ∃ parts : ℕ × ℕ, IsShortened (d.magnitude, d.scale) parts ∧
    signed? d.negative parts.1 parts.2 = some d.normalize := by
  have hshort := isShortened_stripZeros d.magnitude d.scale
  obtain ⟨e, he⟩ := exists_ofParts?
    (d.negative && (stripZeros d.magnitude d.scale).1 != 0)
    (hshort.magnitude_le.trans d.magnitude_le) (hshort.scale_le.trans d.scale_le)
  refine ⟨_, hshort, ?_⟩
  simp [normalize, signed?, he]

theorem toRat_normalize (d : Decimal) : d.normalize.toRat = d.toRat := by
  obtain ⟨parts, hshort, hparts⟩ := normalize_eq d
  rw [toRat_signed? hparts, hshort.value_eq, toRat_eq]

theorem negative_normalize_of_nonneg {d : Decimal} (hd : 0 ≤ d.toRat) :
    d.normalize.negative = false := by
  obtain ⟨parts, _, hparts⟩ := normalize_eq d
  obtain ⟨hnegative, hmagnitude, _⟩ := ofParts?_eq_some_iff.mp hparts
  rw [← toRat_normalize, toRat_eq] at hd
  by_contra hsign
  rw [Bool.not_eq_false] at hsign
  have hne : parts.1 ≠ 0 := by
    rw [hsign, eq_comm, Bool.and_eq_true, bne_iff_ne] at hnegative
    exact hnegative.2
  have hpos : (0 : ℚ) < d.normalize.magnitude / 10 ^ d.normalize.scale := by
    rw [hmagnitude]
    have : 0 < parts.1 := Nat.pos_of_ne_zero hne
    positivity
  rw [hsign, signFactor, if_pos rfl] at hd
  linarith

/-! ## Hundredths -/

theorem mul_pow_room_le {magnitude : ℕ} (hle : magnitude ≤ maxMagnitude) (limit : ℕ) :
    magnitude * 10 ^ room magnitude limit ≤ maxMagnitude ∧ room magnitude limit ≤ limit := by
  induction limit with
  | zero => simpa [room] using hle
  | succ limit ih =>
      rw [room]
      split
      next hfits => exact ⟨hfits, le_rfl⟩
      next => exact ⟨ih.1, ih.2.trans (Nat.le_succ limit)⟩

theorem divRoundHalfEven_le (n d : ℕ) : divRoundHalfEven n d ≤ n / d + 1 := by
  simp only [divRoundHalfEven]
  split_ifs <;> omega

/-- Parts of a decimal that are in range and make `x`, rounded at the largest scale. -/
structure IsRounding (x : ℚ) (parts : ℕ × ℕ) : Prop where
  magnitude_le : parts.1 ≤ maxMagnitude
  scale_le : parts.2 ≤ maxScale
  nearest : ∃ n : ℕ, IsNearestEven (x * 10 ^ maxScale) n ∧
    (parts.1 / 10 ^ parts.2 : ℚ) = n / 10 ^ maxScale

/-- What has at most as many digits behind the point as the largest scale is not rounded. -/
theorem IsRounding.of_eq {x : ℚ} {parts : ℕ × ℕ} (hmagnitude : parts.1 ≤ maxMagnitude)
    (hscale : parts.2 ≤ maxScale) (hx : (parts.1 / 10 ^ parts.2 : ℚ) = x) : IsRounding x parts := by
  have hwhole : x * 10 ^ maxScale = ((parts.1 * 10 ^ (maxScale - parts.2) : ℕ) : ℤ) := by
    rw [← hx]
    simpa using div_pow_mul_pow_of_le (parts.1 : ℤ) hscale
  refine ⟨hmagnitude, hscale, parts.1 * 10 ^ (maxScale - parts.2), ?_, ?_⟩
  · rw [hwhole]
    exact IsNearestEven.intCast _
  · rw [hx, eq_div_iff (by positivity), hwhole, Int.cast_natCast]

/-- Zeros can be dropped from a rounding. -/
theorem IsRounding.shorten {x : ℚ} {parts short : ℕ × ℕ} (hparts : IsRounding x parts)
    (hshort : IsShortened parts short) : IsRounding x short := by
  refine ⟨hshort.magnitude_le.trans hparts.magnitude_le, hshort.scale_le.trans hparts.scale_le, ?_⟩
  rw [hshort.value_eq]
  exact hparts.nearest

theorem div_pow_div_hundred (magnitude scale : ℕ) :
    (magnitude / 10 ^ scale / 100 : ℚ) = magnitude / 10 ^ (scale + 2) := by
  rw [pow_add, div_div]
  norm_num

/-- A quotient without a rest needs no more digits. -/
theorem isRounding_of_mod_eq_zero {magnitude scale : ℕ} (hmagnitude : magnitude ≤ maxMagnitude)
    (hscale : scale ≤ maxScale) (hmod : magnitude % 100 = 0) :
    IsRounding (magnitude / 10 ^ scale / 100) (magnitude / 100, scale) := by
  refine IsRounding.of_eq ((Nat.div_le_self _ _).trans hmagnitude) hscale ?_
  have hsplit : magnitude = 100 * (magnitude / 100) := by omega
  rw [hsplit]
  push_cast
  rw [Nat.mul_div_cancel_left _ (by norm_num)]
  field_simp

/-- Two more places are enough, where there are so many, and zeros behind them do no harm. -/
theorem isRounding_extended {magnitude scale extra : ℕ}
    (hfits : magnitude * 10 ^ extra ≤ maxMagnitude) (hscale : scale + 2 + extra ≤ maxScale) :
    IsRounding (magnitude / 10 ^ scale / 100) (magnitude * 10 ^ extra, scale + 2 + extra) := by
  refine IsRounding.of_eq hfits hscale ?_
  rw [div_pow_div_hundred, pow_add]
  push_cast
  field_simp

/-- Digits past the largest scale are rounded off. -/
theorem isRounding_cut {magnitude scale : ℕ} (hmagnitude : magnitude ≤ maxMagnitude)
    (hfull : maxScale < scale + 2) :
    IsRounding (magnitude / 10 ^ scale / 100)
      (divRoundHalfEven magnitude (10 ^ (scale + 2 - maxScale)), maxScale) := by
  refine ⟨?_, le_rfl, _, ?_, rfl⟩
  · have hle := divRoundHalfEven_le magnitude (10 ^ (scale + 2 - maxScale))
    have hpow : 10 ^ 1 ≤ 10 ^ (scale + 2 - maxScale) :=
      Nat.pow_le_pow_right (by norm_num) (by omega)
    have hdiv : magnitude / 10 ^ (scale + 2 - maxScale) ≤ magnitude / 10 ^ 1 :=
      Nat.div_le_div_left hpow (by norm_num)
    have hmax : maxMagnitude / 10 + 1 ≤ maxMagnitude := by decide
    dsimp only
    omega
  · rw [div_pow_div_hundred]
    exact isNearestEven_dropped magnitude hfull.le

theorem isRounding_hundredthParts {magnitude scale : ℕ} (hmagnitude : magnitude ≤ maxMagnitude)
    (hscale : scale ≤ maxScale) :
    IsRounding (magnitude / 10 ^ scale / 100) (hundredthParts magnitude scale) := by
  unfold hundredthParts
  split
  next hzero => exact IsRounding.of_eq (Nat.zero_le _) (Nat.zero_le _) (by simp [hzero])
  next =>
    split
    next hmod => exact isRounding_of_mod_eq_zero hmagnitude hscale hmod
    next =>
      split
      next hroom =>
        obtain ⟨hfits, hextra⟩ := mul_pow_room_le hmagnitude (min 7 (maxScale - 2 - scale))
        have hplaces : scale + 2 + room magnitude (min 7 (maxScale - 2 - scale)) ≤ maxScale := by
          omega
        exact (isRounding_extended hfits hplaces).shorten (isShortened_shorten _ _)
      next hfull =>
        exact (isRounding_cut hmagnitude (not_le.mp hfull)).shorten (isShortened_shorten _ _)

/-- One per cent is rounded, if at all, to the nearest number with 28 digits behind the point. -/
theorem toRat_hundredth (d : Decimal) : ∃ n : ℤ, IsNearestEven (d.toRat / 100 * 10 ^ maxScale) n ∧
    d.hundredth.toRat = n / 10 ^ maxScale := by
  obtain ⟨hmagnitude, hscale, n, hn, hvalue⟩ := isRounding_hundredthParts d.magnitude_le d.scale_le
  obtain ⟨e, he⟩ := exists_ofParts?
    (d.negative && (hundredthParts d.magnitude d.scale).1 != 0) hmagnitude hscale
  have hhundredth : d.hundredth = e := by simp [hundredth, signed?, he]
  have hsigned : signed? d.negative (hundredthParts d.magnitude d.scale).1
      (hundredthParts d.magnitude d.scale).2 = some e := he
  rw [hhundredth, toRat_signed? hsigned, hvalue, toRat_eq]
  cases d.negative with
  | false => exact ⟨n, by simpa [signFactor] using hn, by simp [signFactor]⟩
  | true =>
      refine ⟨-n, ?_, by simp [signFactor, neg_div]⟩
      have hneg := hn.neg
      simpa [signFactor, neg_div] using hneg

/-- One per cent is exact wherever some decimal stands for it. -/
theorem toRat_hundredth_of_isRepresentable {d : Decimal} (hd : IsRepresentable (d.toRat / 100)) :
    d.hundredth.toRat = d.toRat / 100 := by
  obtain ⟨n, hn, hvalue⟩ := toRat_hundredth d
  obtain ⟨m, k, _, hk, hx⟩ := isRepresentable_iff.mp hd
  have hwhole : d.toRat / 100 * 10 ^ maxScale = (m * 10 ^ (maxScale - k) : ℤ) := by
    rw [hx, div_pow_mul_pow_of_le m hk]
  rw [hwhole] at hn
  rw [hvalue, hn.unique (IsNearestEven.intCast _), ← hwhole]
  field_simp

/-! ## Percentages -/

/-- A hundred times a decimal is one, unless it is out of range. -/
theorem isRepresentable_mul_hundred {d : Decimal} (hd : |d.toRat * 100| ≤ maxMagnitude) :
    IsRepresentable (d.toRat * 100) := by
  have hscale := d.scale_le
  unfold toRat at hd ⊢
  -- The point moves by two places, or to the end and zeros follow.
  match hs : d.scale with
  | 0 =>
      have hint : (d.coefficient / 10 ^ 0 * 100 : ℚ) = (d.coefficient * 100 : ℤ) := by simp
      rw [hs, hint] at hd
      rw [hint]
      exact isRepresentable_intCast hd
  | 1 =>
      have hint : (d.coefficient / 10 ^ 1 * 100 : ℚ) = (d.coefficient * 10 : ℤ) := by
        push_cast
        ring
      rw [hs, hint] at hd
      rw [hint]
      exact isRepresentable_intCast hd
  | scale + 2 =>
      rw [isRepresentable_iff]
      refine ⟨d.coefficient, scale, abs_coefficient_le d, by omega, ?_⟩
      rw [pow_add]
      field_simp
      norm_num

end ExpenseReport.Decimal
