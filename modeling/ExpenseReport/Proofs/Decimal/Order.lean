import ExpenseReport.Proofs.Decimal.Product

/-!
# Rounding keeps the order

A larger number has no smaller nearest decimal. At one scale this is how rounding works. A larger
number may have to do with fewer digits behind the point, and then it is so large that even the
greatest magnitude at the scale of the smaller one stays below it. Out of range the greatest and the
least decimal keep the order too.
-/

namespace ExpenseReport.Decimal

variable {x y r s : ℚ}

/-! ## At one scale -/

namespace IsNearestEven

theorem exists_of_nonneg (hx : 0 ≤ x) : ∃ n, IsNearestEven x n := by
  have hquotient : (x.num.toNat / x.den : ℚ) = x := by
    have hnum : ((x.num.toNat : ℤ) : ℚ) = x.num := by
      rw [Int.toNat_of_nonneg (Rat.num_nonneg.mpr hx)]
    rw [← Int.cast_natCast, hnum, Rat.num_div_den]
  have hround := isNearestEven_divRoundHalfEven x.num.toNat x.den_pos
  rw [hquotient] at hround
  exact ⟨_, hround⟩

/-- Every number has a nearest whole one. -/
theorem exists_nearest (x : ℚ) : ∃ n, IsNearestEven x n := by
  rcases le_total 0 x with hx | hx
  · exact exists_of_nonneg hx
  · obtain ⟨n, hn⟩ := exists_of_nonneg (neg_nonneg.mpr hx)
    have hneg := hn.neg
    rw [neg_neg] at hneg
    exact ⟨-n, hneg⟩

theorem mono {m n : ℤ} (hm : IsNearestEven x m) (hn : IsNearestEven y n) (hxy : x ≤ y) :
    m ≤ n := by
  by_contra hlt
  have hstep : (n : ℚ) + 1 ≤ m := by
    have : n + 1 ≤ m := by omega
    exact_mod_cast this
  have hm' := abs_le.mp hm.1
  have hn' := abs_le.mp hn.1
  -- Both stand halfway between two neighbours, so they are one number, which is rounded one way.
  have heq : x = y := by linarith
  subst heq
  exact hlt (hm.unique hn).le

end IsNearestEven

/-! ## At the largest scale that fits -/

namespace IsNearestDecimal

/-- The scale of the nearest decimal: there it fits, and at no larger one. -/
theorem exists_scale (hr : IsNearestDecimal x r) :
    ∃ k ≤ maxScale, ∃ n : ℤ, IsNearestEven (x * 10 ^ k) n ∧ |n| ≤ maxMagnitude ∧ r = n / 10 ^ k ∧
      ∀ j ≤ maxScale, k < j → (maxMagnitude : ℚ) + 1 / 2 ≤ |x * 10 ^ j| := by
  obtain ⟨k, hk, n, hn, hfits, hvalue, hmax⟩ := hr
  refine ⟨k, hk, n, hn, hfits, hvalue, ?_⟩
  intro j hj hkj
  obtain ⟨m, hm⟩ := IsNearestEven.exists_nearest (x * 10 ^ j)
  by_contra hlt
  have hmfits := hm.abs_le_iff.mpr (not_le.mp hlt)
  exact absurd hmfits (hmax j hj hkj m hm).not_ge

/-- What is too large for one more digit is rounded to more than a tenth of the greatest magnitude,
since the last digit of that is rounded up. -/
theorem lt_ten_mul {m : ℤ} (hm : IsNearestEven y m) (hlarge : (maxMagnitude : ℚ) + 1 / 2 ≤ 10 * y) :
    (maxMagnitude : ℤ) < 10 * m := by
  have hdistance := abs_le.mp hm.1
  have hbound : (maxMagnitude : ℚ) - 5 < 10 * m := by linarith
  have hboundInt : (maxMagnitude : ℤ) - 5 < 10 * m := by exact_mod_cast hbound
  have hdigit : (maxMagnitude : ℤ) = 10 * 7922816251426433759354395033 + 5 := by
    norm_num [maxMagnitude]
  omega

theorem le_of_nonneg (hr : IsNearestDecimal x r) (hs : IsNearestDecimal y s) (hx : 0 ≤ x)
    (hxy : x ≤ y) : r ≤ s := by
  obtain ⟨k, hk, n, hn, hnfits, rfl, hkmax⟩ := hr.exists_scale
  obtain ⟨l, hl, m, hm, hmfits, rfl, hlmax⟩ := hs.exists_scale
  have hscaled (j : ℕ) : x * 10 ^ j ≤ y * 10 ^ j :=
    mul_le_mul_of_nonneg_right hxy (by positivity)
  have habs {z : ℚ} (hz : 0 ≤ z) (j : ℕ) : |z * 10 ^ j| = z * 10 ^ j :=
    abs_of_nonneg (by positivity)
  have hy : 0 ≤ y := hx.trans hxy
  rcases lt_trichotomy k l with hlt | rfl | hlt
  · -- A scale that suits the larger number suits the smaller one.
    have hlarge := hkmax l hl hlt
    have hsmall := hm.abs_le_iff.mp hmfits
    rw [habs hx] at hlarge
    rw [habs hy] at hsmall
    exact absurd (hlarge.trans (hscaled l)) hsmall.not_ge
  · have hle : (n : ℚ) ≤ m := by exact_mod_cast hn.mono hm (hscaled k)
    exact div_le_div_of_nonneg_right hle (by positivity)
  · -- One more digit is too many for the larger number, so it exceeds all that has it.
    have hlarge := hlmax (l + 1) (by omega) (Nat.lt_succ_self l)
    rw [habs hy, pow_succ] at hlarge
    have htenth := lt_ten_mul hm (by linarith)
    have hn' : (n : ℚ) ≤ maxMagnitude := by exact_mod_cast (le_abs_self n).trans hnfits
    have hm' : (maxMagnitude : ℚ) ≤ 10 * m := by exact_mod_cast htenth.le
    calc (n : ℚ) / 10 ^ k
        ≤ maxMagnitude / 10 ^ k := div_le_div_of_nonneg_right hn' (by positivity)
      _ ≤ maxMagnitude / 10 ^ (l + 1) := by
          apply div_le_div_of_nonneg_left (by positivity) (by positivity)
          exact pow_le_pow_right₀ (by norm_num) hlt
      _ ≤ 10 * m / 10 ^ (l + 1) := div_le_div_of_nonneg_right hm' (by positivity)
      _ = m / 10 ^ l := by
          rw [pow_succ]
          field_simp

theorem zero_zero : IsNearestDecimal 0 0 :=
  IsRepresentable.isNearestDecimal ⟨zero, toRat_zero⟩

/-- The nearest decimal of a larger number is no smaller. -/
theorem mono (hr : IsNearestDecimal x r) (hs : IsNearestDecimal y s) (hxy : x ≤ y) : r ≤ s := by
  rcases le_total 0 x with hx | hx
  · exact hr.le_of_nonneg hs hx hxy
  · rcases le_total y 0 with hy | hy
    · have hneg := hs.neg.le_of_nonneg hr.neg (neg_nonneg.mpr hy) (neg_le_neg hxy)
      exact neg_le_neg_iff.mp hneg
    · have hleft : 0 ≤ -r := zero_zero.le_of_nonneg hr.neg le_rfl (neg_nonneg.mpr hx)
      have hright : 0 ≤ s := zero_zero.le_of_nonneg hs le_rfl hy
      linarith

end IsNearestDecimal

/-! ## Products with a part of a whole -/

/-- A part of a number that is not negative can be computed and is no more than the number, also
where it is rounded up. -/
theorem exists_times?_of_le_one {a b : Decimal} (ha : 0 ≤ a.toRat) (hb : 0 ≤ b.toRat)
    (hone : b.toRat ≤ 1) :
    ∃ d, a.times? b = some d ∧ 0 ≤ d.toRat ∧ d.toRat ≤ a.toRat := by
  have hproduct : 0 ≤ a.toRat * b.toRat := mul_nonneg ha hb
  have hle : a.toRat * b.toRat ≤ a.toRat := mul_le_of_le_one_right ha hone
  have hself : IsNearestDecimal a.toRat a.toRat := (isRepresentable_toRat a).isNearestDecimal
  cases htimes : a.times? b with
  | none =>
      have hlarge := le_of_times?_eq_none htimes
      have hrange := hself.abs_lt
      rw [abs_of_nonneg hproduct] at hlarge
      rw [abs_of_nonneg ha] at hrange
      exact absurd (hlarge.trans hle) hrange.not_ge
  | some d =>
      have hnearest := isNearestDecimal_of_times? htimes
      exact ⟨d, rfl, IsNearestDecimal.zero_zero.mono hnearest hproduct, hnearest.mono hself hle⟩

/-! ## Products of any size -/

section Limits

variable {a b a' b' : Decimal}

/-- No decimal is past the greatest and the least. -/
theorem abs_toRat_le (d : Decimal) : |d.toRat| ≤ maxMagnitude := by
  have hmagnitude : (d.magnitude : ℚ) ≤ maxMagnitude := by exact_mod_cast d.magnitude_le
  rw [abs_toRat]
  exact div_le_of_le_mul₀ (by positivity) (by positivity)
    (hmagnitude.trans (le_mul_of_one_le_right (by positivity) (one_le_pow₀ (by norm_num))))

theorem toRat_scaledBy_of_le_product (hle : (maxMagnitude : ℚ) + 1 / 2 ≤ a.toRat * b.toRat) :
    (a.scaledBy b).toRat = maxMagnitude := by
  have hpos : 0 < a.toRat * b.toRat := lt_of_lt_of_le (by positivity) hle
  have hsign : a.negative = b.negative := (negative_eq_iff hpos.ne').mpr hpos
  rw [scaledBy_of_le (hle.trans (le_abs_self _)), if_pos hsign, toRat_greatest]

theorem toRat_scaledBy_of_product_le (hle : a.toRat * b.toRat ≤ -((maxMagnitude : ℚ) + 1 / 2)) :
    (a.scaledBy b).toRat = -maxMagnitude := by
  have hbound : (0 : ℚ) < maxMagnitude + 1 / 2 := by positivity
  have hneg : a.toRat * b.toRat < 0 := by linarith
  have hsign : ¬ a.negative = b.negative := by
    rw [negative_eq_iff hneg.ne]
    exact hneg.not_gt
  have hlarge : (maxMagnitude : ℚ) + 1 / 2 ≤ |a.toRat * b.toRat| := by
    rw [abs_of_neg hneg]
    linarith
  rw [scaledBy_of_le hlarge, if_neg hsign, toRat_least]

/-- Of two products the larger is no smaller after rounding, in range or out of it. -/
theorem scaledBy_mono (hle : a.toRat * b.toRat ≤ a'.toRat * b'.toRat) :
    a.scaledBy b ≤ a'.scaledBy b' := by
  rw [le_iff_toRat_le]
  have hleft := abs_le.mp (abs_toRat_le (a.scaledBy b))
  have hright := abs_le.mp (abs_toRat_le (a'.scaledBy b'))
  rcases le_or_gt (a.toRat * b.toRat) (-(maxMagnitude + 1 / 2)) with hlow | hlow
  · rw [toRat_scaledBy_of_product_le hlow]
    exact hright.1
  · rcases le_or_gt ((maxMagnitude : ℚ) + 1 / 2) (a'.toRat * b'.toRat) with hhigh | hhigh
    · rw [toRat_scaledBy_of_le_product hhigh]
      exact hleft.2
    · -- Neither is below the range or above it, so both are in range.
      have hnear := scaledBy_of_abs_lt (abs_lt.mpr ⟨hlow, hle.trans_lt hhigh⟩)
      have hnear' := scaledBy_of_abs_lt (abs_lt.mpr ⟨hlow.trans_le hle, hhigh⟩)
      exact hnear.mono hnear' hle

theorem scaledBy_mono_left (hle : a ≤ a') (hb : zero ≤ b) : a.scaledBy b ≤ a'.scaledBy b := by
  rw [le_iff_toRat_le] at hle hb
  rw [toRat_zero] at hb
  exact scaledBy_mono (mul_le_mul_of_nonneg_right hle hb)

theorem scaledBy_mono_right (ha : zero ≤ a) (hle : b ≤ b') : a.scaledBy b ≤ a.scaledBy b' := by
  rw [le_iff_toRat_le] at ha hle
  rw [toRat_zero] at ha
  exact scaledBy_mono (mul_le_mul_of_nonneg_left hle ha)

theorem zero_scaledBy (d : Decimal) : zero.scaledBy d = zero := by
  simp [scaledBy, times?, zero]

theorem scaledBy_zero (d : Decimal) : d.scaledBy zero = zero := by
  simp [scaledBy, times?, zero]

/-- The scale may change, but not the value. -/
theorem toRat_scaledBy_one (d : Decimal) : (d.scaledBy one).toRat = d.toRat := by
  have hexact : IsRepresentable (d.toRat * one.toRat) := by
    rw [toRat_one, mul_one]
    exact isRepresentable_toRat d
  rw [scaledBy_of_isRepresentable hexact, toRat_one, mul_one]

end Limits

end ExpenseReport.Decimal
