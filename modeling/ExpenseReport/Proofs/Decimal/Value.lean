import ExpenseReport.Decimal.Basic
import Mathlib.Algebra.Order.Field.Rat
import Mathlib.Tactic.FieldSimp
import Mathlib.Tactic.Linarith
import Mathlib.Tactic.Positivity
import Mathlib.Tactic.Ring

/-!
# The values of decimals

A decimal stands for a rational number. Decimals of one size stand for one number, whatever their
scales and whatever the sign of a zero, and comparing decimals is comparing these numbers.
-/

namespace ExpenseReport.Decimal

/-- The number a decimal stands for. -/
def toRat (d : Decimal) : ℚ :=
  d.coefficient / 10 ^ d.scale

/-- The factor that a sign stands for. -/
def signFactor (negative : Bool) : ℚ :=
  if negative then -1 else 1

/-- Some decimal stands for the number. -/
def IsRepresentable (x : ℚ) : Prop :=
  ∃ d : Decimal, d.toRat = x

theorem toRat_eq (d : Decimal) :
    d.toRat = signFactor d.negative * (d.magnitude / 10 ^ d.scale) := by
  unfold toRat coefficient signFactor
  cases d.negative <;> simp [neg_div]

theorem abs_signFactor (negative : Bool) : |signFactor negative| = 1 := by
  cases negative <;> simp [signFactor]

/-- The sign of a product is negative when the signs of its factors differ. -/
theorem signFactor_bne (a b : Bool) : signFactor (a != b) = signFactor a * signFactor b := by
  cases a <;> cases b <;> simp [signFactor]

theorem abs_toRat (d : Decimal) : |d.toRat| = d.magnitude / 10 ^ d.scale := by
  rw [toRat_eq, abs_mul, abs_signFactor, one_mul, abs_of_nonneg (by positivity)]

theorem le_iff_toRat_le {a b : Decimal} : a ≤ b ↔ a.toRat ≤ b.toRat := by
  have ha : (0 : ℚ) < 10 ^ a.scale := by positivity
  have hb : (0 : ℚ) < 10 ^ b.scale := by positivity
  rw [toRat, toRat, div_le_div_iff₀ ha hb]
  change a.coefficient * 10 ^ b.scale ≤ b.coefficient * 10 ^ a.scale ↔ _
  exact_mod_cast Iff.rfl

protected theorem not_le {a b : Decimal} : ¬ a ≤ b ↔ b < a :=
  Int.not_le

theorem lt_iff_toRat_lt {a b : Decimal} : a < b ↔ a.toRat < b.toRat := by
  rw [← Decimal.not_le, le_iff_toRat_le, not_le]

protected theorem le_refl (d : Decimal) : d ≤ d :=
  le_iff_toRat_le.mpr le_rfl

protected theorem le_trans {a b c : Decimal} (hab : a ≤ b) (hbc : b ≤ c) : a ≤ c := by
  rw [le_iff_toRat_le] at hab hbc ⊢
  exact hab.trans hbc

protected theorem le_of_lt {a b : Decimal} (hab : a < b) : a ≤ b :=
  le_iff_toRat_le.mpr (lt_iff_toRat_lt.mp hab).le

theorem toRat_eq_zero_iff {d : Decimal} : d.toRat = 0 ↔ d.magnitude = 0 := by
  rw [← coefficient_eq_zero_iff]
  simp [toRat]

theorem toRat_zero : zero.toRat = 0 := by
  simp [toRat_eq_zero_iff, zero]

theorem toRat_one : one.toRat = 1 := by
  simp [toRat_eq, one, signFactor]

theorem toRat_greatest : greatest.toRat = maxMagnitude := by
  simp [toRat_eq, greatest, signFactor]

theorem toRat_least : least.toRat = -maxMagnitude := by
  simp [toRat_eq, least, signFactor]

theorem abs_coefficient_le (d : Decimal) : |d.coefficient| ≤ maxMagnitude := by
  have hle : (d.magnitude : ℤ) ≤ maxMagnitude := by exact_mod_cast d.magnitude_le
  unfold coefficient
  split <;> simpa using hle

/-- The numbers that decimals stand for, without reference to decimals. -/
theorem isRepresentable_iff {x : ℚ} :
    IsRepresentable x ↔ ∃ (n : ℤ) (k : ℕ), |n| ≤ maxMagnitude ∧ k ≤ maxScale ∧ x = n / 10 ^ k := by
  constructor
  · rintro ⟨d, rfl⟩
    exact ⟨d.coefficient, d.scale, abs_coefficient_le d, d.scale_le, rfl⟩
  · rintro ⟨n, k, hn, hk, rfl⟩
    have hle : n.natAbs ≤ maxMagnitude := by
      rw [Int.abs_eq_natAbs] at hn
      exact_mod_cast hn
    refine ⟨⟨decide (n < 0), n.natAbs, k, hle, hk⟩, ?_⟩
    have hcoefficient : (if decide (n < 0) then -(n.natAbs : ℤ) else n.natAbs) = n := by
      split
      next h => have := of_decide_eq_true h; omega
      next h => have := of_decide_eq_false (Bool.eq_false_iff.mpr h); omega
    simp only [toRat, coefficient, hcoefficient]

/-- With at least as many digits behind the point as it has, a decimal fraction is whole. -/
theorem div_pow_mul_pow_of_le (n : ℤ) {t k : ℕ} (htk : t ≤ k) :
    (n / 10 ^ t : ℚ) * 10 ^ k = (n * 10 ^ (k - t) : ℤ) := by
  obtain ⟨e, rfl⟩ := Nat.exists_eq_add_of_le htk
  rw [pow_add, Nat.add_sub_cancel_left]
  push_cast
  field_simp

theorem isRepresentable_toRat (d : Decimal) : IsRepresentable d.toRat :=
  ⟨d, rfl⟩

theorem isRepresentable_intCast {n : ℤ} (hn : |(n : ℚ)| ≤ maxMagnitude) : IsRepresentable n :=
  isRepresentable_iff.mpr ⟨n, 0, by exact_mod_cast hn, Nat.zero_le _, by simp⟩

theorem toRat_signed? {negative : Bool} {magnitude scale : ℕ} {d : Decimal}
    (hd : signed? negative magnitude scale = some d) :
    d.toRat = signFactor negative * (magnitude / 10 ^ scale) := by
  obtain ⟨hnegative, hmagnitude, hscale⟩ := ofParts?_eq_some_iff.mp hd
  rw [toRat_eq, hnegative, hmagnitude, hscale]
  by_cases hzero : magnitude = 0
  · simp [hzero]
  · rw [bne_iff_ne.mpr hzero, Bool.and_true]

theorem toRat_ofParts? {negative : Bool} {magnitude scale : ℕ} {d : Decimal}
    (hd : ofParts? negative magnitude scale = some d) :
    d.toRat = signFactor negative * (magnitude / 10 ^ scale) := by
  obtain ⟨hnegative, hmagnitude, hscale⟩ := ofParts?_eq_some_iff.mp hd
  rw [toRat_eq, hnegative, hmagnitude, hscale]

/-- Parts in range make a decimal. -/
theorem exists_ofParts? (negative : Bool) {magnitude scale : ℕ}
    (hmagnitude : magnitude ≤ maxMagnitude) (hscale : scale ≤ maxScale) :
    ∃ d, ofParts? negative magnitude scale = some d :=
  ⟨_, dif_pos ⟨hmagnitude, hscale⟩⟩

end ExpenseReport.Decimal
