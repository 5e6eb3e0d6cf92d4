import ExpenseReport.Proofs.Decimal.Reading
import ExpenseReport.Proofs.Decimal.Value
import Mathlib.Algebra.Order.Round
import Mathlib.Data.Rat.Floor

/-!
# Digits that do not fit

Behind the point digits are taken for as long as they fit, and the first that does not fit rounds
those that were taken. What comes of it is the number itself, however long, rounded half up: the
digits that were passed over stand too far behind to count.
-/

namespace ExpenseReport.Decimal

open Text

/-! ## The next digit -/

/-- The whole part of a number and the first digit behind its point. -/
structure HasDigit (y : ℚ) (whole digit : ℕ) : Prop where
  le_ten_mul : 10 * whole + digit ≤ 10 * y
  ten_mul_lt : 10 * y < 10 * whole + digit + 1
  digit_lt : digit < 10

namespace HasDigit

variable {y : ℚ} {whole digit : ℕ}

theorem nonneg (hy : HasDigit y whole digit) : 0 ≤ y := by
  have hle := hy.le_ten_mul
  have hpos : (0 : ℚ) ≤ 10 * whole + digit := by positivity
  linarith

theorem floor_eq (hy : HasDigit y whole digit) : ⌊y⌋ = whole := by
  obtain ⟨hlow, hhigh, hdigit⟩ := hy
  have hten : (digit : ℚ) + 1 ≤ 10 := by exact_mod_cast hdigit
  have hpos : (0 : ℚ) ≤ digit := Nat.cast_nonneg digit
  rw [Int.floor_eq_iff, Int.cast_natCast]
  constructor <;> linarith

theorem floor_ten_mul (hy : HasDigit y whole digit) : ⌊10 * y⌋ = (10 * whole + digit : ℕ) := by
  rw [Int.floor_eq_iff]
  push_cast
  exact ⟨hy.le_ten_mul, hy.ten_mul_lt⟩

/-- The first digit behind the point decides which way a number is rounded. -/
theorem round_of_digit (hy : HasDigit y whole digit) :
    round y = (if 5 ≤ digit then whole + 1 else whole : ℕ) := by
  obtain ⟨hlow, hhigh, hdigit⟩ := hy
  rw [round_eq, Int.floor_eq_iff]
  split
  next hup =>
    have hfive : (5 : ℚ) ≤ digit := by exact_mod_cast hup
    have hten : (digit : ℚ) + 1 ≤ 10 := by exact_mod_cast hdigit
    push_cast
    constructor <;> linarith
  next hdown =>
    have hfive : (digit : ℚ) + 1 ≤ 5 := by exact_mod_cast not_le.mp hdown
    have hpos : (0 : ℚ) ≤ digit := Nat.cast_nonneg digit
    push_cast
    constructor <;> linarith

/-- The digits of a run, with the point in front of those that are still to come. -/
theorem of_valueFrom? {n : ℕ} {c : Char} {rest : List Char} (hdigit : digitValue? c = some digit)
    (hrest : valueFrom? (10 * whole + digit) rest = some n) (hy : y * 10 ^ (rest.length + 1) = n) :
    HasDigit y whole digit := by
  obtain ⟨hlow, hhigh⟩ := valueFrom?_bounds hrest
  have hpos : (0 : ℚ) < 10 ^ rest.length := by positivity
  have hshift : 10 * y * 10 ^ rest.length = n := by
    rw [← hy]
    ring
  refine ⟨?_, ?_, lt_ten_of_digitValue?_eq_some hdigit⟩
  · rw [← mul_le_mul_iff_left₀ hpos, hshift]
    exact_mod_cast hlow
  · rw [← mul_lt_mul_iff_left₀ hpos, hshift]
    exact_mod_cast hhigh

end HasDigit

/-! ## Rounding off -/

variable {x : ℚ} {magnitude scale digit m s : ℕ}

/-- The parts are `x`, rounded half up at the largest scale at which the whole part of it fits, or
at one digit less where what is rounded up no longer fits. -/
def IsRoundedOff (x : ℚ) (magnitude scale : ℕ) : Prop :=
  ∃ t, IsGreatest {t : ℕ | t ≤ maxScale ∧ ⌊x * 10 ^ t⌋ ≤ maxMagnitude} t ∧
    (magnitude : ℤ) = round (x * 10 ^ scale) ∧
    if round (x * 10 ^ t) ≤ maxMagnitude then scale = t else scale + 1 = t

/-- Where one digit more does not fit, no more digits do. -/
theorem isGreatest_of_hasDigit (hscale : scale ≤ maxScale) (hle : magnitude ≤ maxMagnitude)
    (hdigit : HasDigit (x * 10 ^ scale) magnitude digit)
    (hstop : ¬ (scale < maxScale ∧ 10 * magnitude + digit ≤ maxMagnitude)) :
    IsGreatest {t : ℕ | t ≤ maxScale ∧ ⌊x * 10 ^ t⌋ ≤ maxMagnitude} scale := by
  constructor
  · refine ⟨hscale, ?_⟩
    rw [hdigit.floor_eq]
    exact_mod_cast hle
  · rintro t ⟨ht, hfits⟩
    by_contra hlt
    rw [not_le] at hlt
    have hlonger : 10 * (x * 10 ^ scale) ≤ x * 10 ^ t := by
      have hx : 0 ≤ x := nonneg_of_mul_nonneg_left hdigit.nonneg (by positivity)
      calc 10 * (x * 10 ^ scale) = x * 10 ^ (scale + 1) := by ring
        _ ≤ x * 10 ^ t :=
          mul_le_mul_of_nonneg_left (pow_le_pow_right₀ (by norm_num) hlt) hx
    have hnext := Int.floor_le_floor hlonger
    rw [hdigit.floor_ten_mul] at hnext
    apply hstop
    exact ⟨hlt.trans_le ht, by exact_mod_cast hnext.trans hfits⟩

/-- The greatest magnitude ends in a five, so what is rounded up past it is rounded up again when
that digit is given up. -/
theorem round_of_full {y : ℚ} (hdigit : HasDigit (y * 10) maxMagnitude digit) :
    round y = ((maxMagnitude + 1 + 4) / 10 : ℕ) := by
  have hfive : HasDigit y (maxMagnitude / 10) 5 := by
    have hlow := hdigit.le_ten_mul
    have hhigh := hdigit.ten_mul_lt
    have hten : (digit : ℚ) + 1 ≤ 10 := by exact_mod_cast hdigit.digit_lt
    have hpos : (0 : ℚ) ≤ digit := Nat.cast_nonneg digit
    have hmax : (maxMagnitude : ℚ) = 10 * (maxMagnitude / 10 : ℕ) + 5 := by
      have : maxMagnitude = 10 * (maxMagnitude / 10) + 5 := by decide
      exact_mod_cast this
    refine ⟨?_, ?_, by norm_num⟩
    · push_cast
      linarith
    · push_cast
      linarith
  rw [hfive.round_of_digit]
  rfl

/-- The digit at which reading stops rounds off the whole number. -/
theorem isRoundedOff_of_roundOff? (hscale : scale ≤ maxScale) (hle : magnitude ≤ maxMagnitude)
    (hdigit : HasDigit (x * 10 ^ scale) magnitude digit)
    (hstop : ¬ (scale < maxScale ∧ 10 * magnitude + digit ≤ maxMagnitude))
    (hread : roundOff? magnitude scale digit = some (m, s)) : IsRoundedOff x m s := by
  refine ⟨scale, isGreatest_of_hasDigit hscale hle hdigit hstop, ?_⟩
  have hround := hdigit.round_of_digit
  have hstep : (if 5 ≤ digit then magnitude + 1 else magnitude) ≤ magnitude + 1 := by
    split <;> omega
  simp only [roundOff?] at hread
  generalize (if 5 ≤ digit then magnitude + 1 else magnitude) = rounded at hround hstep hread
  rw [hround]
  split at hread
  next hfits =>
    cases hread
    rw [hround, if_pos (by exact_mod_cast hfits)]
    exact ⟨rfl, rfl⟩
  next hlarge =>
    split at hread
    next => cases hread
    next hne =>
      cases hread
      -- Only the greatest magnitude becomes too large, so it is the one that was rounded up.
      obtain rfl : magnitude = maxMagnitude := by omega
      obtain rfl : rounded = maxMagnitude + 1 := by omega
      obtain ⟨shorter, rfl⟩ := Nat.exists_eq_succ_of_ne_zero hne
      rw [Nat.succ_eq_add_one, pow_succ, ← mul_assoc] at hdigit
      rw [if_neg (by exact_mod_cast hlarge)]
      exact ⟨(round_of_full hdigit).symm, rfl⟩

/-- Digits that do not fit are read as the number they make, rounded off. -/
theorem isRoundedOff_of_readFraction? {fs : List Char} {n : ℕ} {started : Bool}
    (hfs : valueFrom? magnitude fs = some n) (hle : magnitude ≤ maxMagnitude)
    (hscale : scale ≤ maxScale) (hx : x * 10 ^ (scale + fs.length) = n)
    (hlarge : ¬ (n ≤ maxMagnitude ∧ scale + fs.length ≤ maxScale))
    (hread : readFraction? magnitude scale started fs = some (m, s)) : IsRoundedOff x m s := by
  induction fs generalizing magnitude scale started with
  | nil =>
      obtain rfl : magnitude = n := Option.some.inj hfs
      exact absurd ⟨hle, hscale⟩ hlarge
  | cons c rest ih =>
      simp only [valueFrom?, Option.bind_eq_bind, Option.bind_eq_some_iff] at hfs
      obtain ⟨digit, hdigit, hrest⟩ := hfs
      rw [List.length_cons] at hx hlarge
      by_cases hfits : scale < maxScale ∧ 10 * magnitude + digit ≤ maxMagnitude
      · simp only [readFraction?, hdigit, hfits, and_self, if_true] at hread
        rw [Nat.add_comm rest.length, ← Nat.add_assoc] at hx hlarge
        exact ih hrest hfits.2 hfits.1 hx hlarge hread
      · have hfiller := all_isFiller_of_isDigit (isDigit_of_valueFrom?_eq_some hrest)
        simp only [readFraction?, hdigit, hfits, if_false, hfiller, if_true] at hread
        apply isRoundedOff_of_roundOff? hscale hle _ hfits hread
        apply HasDigit.of_valueFrom? hdigit hrest
        rw [mul_assoc, ← pow_add, hx]

end ExpenseReport.Decimal
