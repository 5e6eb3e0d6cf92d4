import ExpenseReport.Decimal.Product
import ExpenseReport.Proofs.Decimal.Value
import Mathlib.Algebra.Group.Int.Even
import Mathlib.Data.Nat.Find

/-!
# Rounding to the nearest decimal

A number is rounded at a scale to the nearest whole number of units, of two equally near ones to
the even one. Of the scales at which what results fits into a magnitude, the largest gives the
nearest decimal. What decimals can stand for is not changed.
-/

namespace ExpenseReport.Decimal

/-- The whole number `n` is nearest to `x`, and even when another one is as near. -/
def IsNearestEven (x : ℚ) (n : ℤ) : Prop :=
  |x - n| ≤ 1 / 2 ∧ (|x - n| = 1 / 2 → Even n)

namespace IsNearestEven

theorem of_lt {x : ℚ} {n : ℤ} (hlt : |x - n| < 1 / 2) : IsNearestEven x n :=
  ⟨hlt.le, fun htie => absurd htie hlt.ne⟩

theorem of_even {x : ℚ} {n : ℤ} (htie : |x - n| = 1 / 2) (heven : Even n) : IsNearestEven x n :=
  ⟨htie.le, fun _ => heven⟩

theorem intCast (n : ℤ) : IsNearestEven n n := by
  simp [IsNearestEven]

theorem neg {x : ℚ} {n : ℤ} (hn : IsNearestEven x n) : IsNearestEven (-x) (-n) := by
  have habs : |-x - ((-n : ℤ) : ℚ)| = |x - n| := by
    rw [← abs_neg]
    push_cast
    congr 1
    ring
  exact ⟨by rw [habs]; exact hn.1, fun h => (hn.2 (by rw [← habs]; exact h)).neg⟩

theorem unique {x : ℚ} {m n : ℤ} (hm : IsNearestEven x m) (hn : IsNearestEven x n) : m = n := by
  wlog hlt : m < n generalizing m n
  · rcases lt_trichotomy m n with h | h | h
    · exact absurd h hlt
    · exact h
    · exact (this hn hm h).symm
  have hm' := abs_le.mp hm.1
  have hn' := abs_le.mp hn.1
  have hstep : (m : ℚ) + 1 ≤ n := by exact_mod_cast hlt
  -- Both are at a distance of one half, so both are even, which neighbours are not.
  have hxm : x - m = 1 / 2 := by linarith
  have hxn : x - n = -(1 / 2) := by linarith
  have hnext : n = m + 1 := by
    have : (n : ℚ) = m + 1 := by linarith
    exact_mod_cast this
  have hmeven := hm.2 (by rw [hxm]; norm_num)
  have hneven := hn.2 (by rw [hxn]; norm_num)
  rw [hnext] at hneven
  exact absurd hneven (by simpa [Int.even_add_one] using hmeven)

/-- The rounded number fits exactly when the number is less than a half above what fits: the
greatest magnitude is odd, so that half is rounded up. -/
theorem abs_le_iff {x : ℚ} {n : ℤ} (hn : IsNearestEven x n) :
    |n| ≤ maxMagnitude ↔ |x| < maxMagnitude + 1 / 2 := by
  constructor
  · intro hle
    have hleRat : |(n : ℚ)| ≤ maxMagnitude := by exact_mod_cast hle
    by_contra hlt
    have hdistance := abs_sub_abs_le_abs_sub x n
    have htie : |x - n| = 1 / 2 := le_antisymm hn.1 (by linarith)
    have habs : |(n : ℚ)| = maxMagnitude := le_antisymm hleRat (by linarith)
    have hmax : |n| = maxMagnitude := by exact_mod_cast habs
    have heven : Even |n| := even_abs.mpr (hn.2 htie)
    rw [hmax, Int.even_coe_nat] at heven
    exact absurd heven (by decide)
  · intro hlt
    have hdistance := abs_sub_abs_le_abs_sub (n : ℚ) x
    rw [abs_sub_comm] at hdistance
    have hlt' : |(n : ℚ)| < maxMagnitude + 1 := by linarith [hn.1]
    have : |n| < maxMagnitude + 1 := by exact_mod_cast hlt'
    omega

end IsNearestEven

/-- How far a quotient is above its whole part. -/
theorem abs_div_sub_floor (n : ℕ) {d : ℕ} (hd : 0 < d) :
    |(n / d : ℚ) - ((n / d : ℕ) : ℤ)| = (n % d : ℕ) / d := by
  have hdRat : (d : ℚ) ≠ 0 := by exact_mod_cast hd.ne'
  have hsplit : (n : ℚ) = d * (n / d : ℕ) + (n % d : ℕ) := by
    exact_mod_cast (Nat.div_add_mod n d).symm
  have hdistance : (n / d : ℚ) - ((n / d : ℕ) : ℤ) = (n % d : ℕ) / d := by
    rw [Int.cast_natCast, div_sub' hdRat]
    congr 1
    linarith
  rw [hdistance, abs_of_nonneg (by positivity)]

/-- How far a quotient is below the number after its whole part. -/
theorem abs_div_sub_next (n : ℕ) {d : ℕ} (hd : 0 < d) :
    |(n / d : ℚ) - ((n / d + 1 : ℕ) : ℤ)| = (d - n % d : ℕ) / d := by
  have hdRat : (d : ℚ) ≠ 0 := by exact_mod_cast hd.ne'
  have hsplit : (n : ℚ) = d * (n / d : ℕ) + (n % d : ℕ) := by
    exact_mod_cast (Nat.div_add_mod n d).symm
  have hdistance : (n / d : ℚ) - ((n / d + 1 : ℕ) : ℤ) = -((d - n % d : ℕ) / d) := by
    rw [Int.cast_natCast, Nat.cast_sub (Nat.mod_lt n hd).le, Nat.cast_succ, div_sub' hdRat,
      ← neg_div]
    congr 1
    linarith
  rw [hdistance, abs_neg, abs_of_nonneg (by positivity)]

theorem div_lt_half_iff {r d : ℕ} (hd : 0 < d) : (r / d : ℚ) < 1 / 2 ↔ 2 * r < d := by
  rw [div_lt_div_iff₀ (by exact_mod_cast hd) (by norm_num), mul_comm, one_mul]
  exact_mod_cast Iff.rfl

theorem div_eq_half_iff {r d : ℕ} (hd : 0 < d) : (r / d : ℚ) = 1 / 2 ↔ 2 * r = d := by
  rw [div_eq_div_iff (by exact_mod_cast hd.ne') (by norm_num), mul_comm, one_mul]
  exact_mod_cast Iff.rfl

/-- The division rounds to the nearest number, a half to the even one. -/
theorem isNearestEven_divRoundHalfEven (n : ℕ) {d : ℕ} (hd : 0 < d) :
    IsNearestEven (n / d : ℚ) (divRoundHalfEven n d) := by
  have hmod : n % d < d := Nat.mod_lt n hd
  simp only [divRoundHalfEven]
  split
  next hlt =>
    apply IsNearestEven.of_lt
    rw [abs_div_sub_floor n hd, div_lt_half_iff hd]
    exact hlt
  next hge =>
    split
    next hgt =>
      apply IsNearestEven.of_lt
      rw [abs_div_sub_next n hd, div_lt_half_iff hd]
      omega
    next hle =>
      split
      next heven =>
        apply IsNearestEven.of_even
        · rw [abs_div_sub_floor n hd, div_eq_half_iff hd]
          omega
        · exact (Int.even_coe_nat _).mpr (Nat.even_iff.mpr heven)
      next hodd =>
        apply IsNearestEven.of_even
        · rw [abs_div_sub_next n hd, div_eq_half_iff hd]
          omega
        · exact (Int.even_coe_nat _).mpr (Nat.even_iff.mpr (by omega))

/-! ## The nearest decimal -/

/-- The number `r` is `x`, rounded at the largest scale at which what results fits. -/
def IsNearestDecimal (x r : ℚ) : Prop :=
  ∃ k ≤ maxScale, ∃ n : ℤ, IsNearestEven (x * 10 ^ k) n ∧ |n| ≤ maxMagnitude ∧ r = n / 10 ^ k ∧
    ∀ j ≤ maxScale, k < j → ∀ m : ℤ, IsNearestEven (x * 10 ^ j) m → maxMagnitude < |m|

/-- More digits behind the point need more room. -/
theorem abs_mul_pow_le (x : ℚ) {j k : ℕ} (hjk : j ≤ k) : |x * 10 ^ j| ≤ |x * 10 ^ k| := by
  rw [abs_mul, abs_mul, abs_pow, abs_pow]
  exact mul_le_mul_of_nonneg_left (pow_le_pow_right₀ (by norm_num) hjk) (abs_nonneg x)

namespace IsNearestDecimal

theorem unique {x r s : ℚ} (hr : IsNearestDecimal x r) (hs : IsNearestDecimal x s) : r = s := by
  obtain ⟨k, hk, n, hn, hnfits, rfl, hkmax⟩ := hr
  obtain ⟨l, hl, m, hm, hmfits, rfl, hlmax⟩ := hs
  rcases lt_trichotomy k l with hlt | rfl | hlt
  · exact absurd hmfits (hkmax l hl hlt m hm).not_ge
  · rw [hn.unique hm]
  · exact absurd hnfits (hlmax k hk hlt n hn).not_ge

/-- Beyond half a unit above the greatest decimal there is no nearest one. -/
theorem abs_lt {x r : ℚ} (hr : IsNearestDecimal x r) : |x| < maxMagnitude + 1 / 2 := by
  obtain ⟨k, _, n, hn, hnfits, _, _⟩ := hr
  have hle := abs_mul_pow_le x (Nat.zero_le k)
  rw [pow_zero, mul_one] at hle
  exact hle.trans_lt (hn.abs_le_iff.mp hnfits)

theorem neg {x r : ℚ} (hr : IsNearestDecimal x r) : IsNearestDecimal (-x) (-r) := by
  obtain ⟨k, hk, n, hn, hnfits, rfl, hkmax⟩ := hr
  refine ⟨k, hk, -n, ?_, by rwa [abs_neg], by push_cast; ring, ?_⟩
  · rw [neg_mul]
    exact hn.neg
  · intro j hj hlt m hm
    have hneg := hm.neg
    rw [neg_mul, neg_neg] at hneg
    rw [← abs_neg]
    exact hkmax j hj hlt (-m) hneg

theorem signFactor_mul (negative : Bool) {x r : ℚ} (hr : IsNearestDecimal x r) :
    IsNearestDecimal (signFactor negative * x) (signFactor negative * r) := by
  cases negative with
  | false => simpa [signFactor] using hr
  | true => simpa [signFactor] using hr.neg

end IsNearestDecimal

/-- What a decimal stands for is its own nearest decimal. -/
theorem IsRepresentable.isNearestDecimal {x : ℚ} (hx : IsRepresentable x) :
    IsNearestDecimal x x := by
  obtain ⟨n, t, hn, ht, rfl⟩ := isRepresentable_iff.mp hx
  -- The largest scale that fits is at least `t`, so the number is whole there.
  let fits : ℕ → Prop := fun k => |(n / 10 ^ t : ℚ) * 10 ^ k| < maxMagnitude + 1 / 2
  have hfits : fits t := by
    have hnearest := IsNearestEven.intCast n
    have hcast : (n / 10 ^ t : ℚ) * 10 ^ t = n := by field_simp
    simpa only [fits, hcast] using hnearest.abs_le_iff.mp hn
  classical
  have hle : t ≤ Nat.findGreatest fits maxScale := Nat.le_findGreatest ht hfits
  have hgreatest : fits (Nat.findGreatest fits maxScale) := Nat.findGreatest_spec ht hfits
  refine ⟨Nat.findGreatest fits maxScale, Nat.findGreatest_le _,
    n * 10 ^ (Nat.findGreatest fits maxScale - t), ?_, ?_, ?_, ?_⟩
  · rw [div_pow_mul_pow_of_le n hle]
    exact IsNearestEven.intCast _
  · have hnearest := IsNearestEven.intCast (n * 10 ^ (Nat.findGreatest fits maxScale - t))
    rw [hnearest.abs_le_iff, ← div_pow_mul_pow_of_le n hle]
    exact hgreatest
  · rw [← div_pow_mul_pow_of_le n hle]
    field_simp
  · intro j hj hlt m hm
    have hnot : ¬ fits j := Nat.findGreatest_is_greatest hlt hj
    exact not_le.mp (fun hle => hnot (hm.abs_le_iff.mp hle))

/-- The nearest decimal to what a decimal stands for is no other. -/
theorem IsNearestDecimal.eq_of_isRepresentable {x r : ℚ} (hr : IsNearestDecimal x r)
    (hx : IsRepresentable x) : r = x :=
  hr.unique hx.isNearestDecimal

end ExpenseReport.Decimal
