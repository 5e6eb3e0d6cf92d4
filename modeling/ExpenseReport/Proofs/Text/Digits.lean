import ExpenseReport.Text.Digits
import Mathlib.Data.List.Basic
import Mathlib.Data.List.Induction

/-!
# Runs of digits

Reading a run of digits never fails and never makes the number smaller. Zeros in front of a run do
not change its value. What `digits` and `paddedDigits` write consists of digits alone, and `digits`
writes no zero in front that is not needed. Its runs are those that the library shows numbers with.
-/

namespace ExpenseReport.Text

-- Powers of whole numbers are the core library's.
attribute [local instance (high)] instPowNat

theorem isDigit_iff {c : Char} : isDigit c ↔ '0' ≤ c ∧ c ≤ '9' := by
  unfold isDigit digitValue?
  split
  next h => simp [h]
  next h => simp [h]

/-- The value of a digit is its distance from the character of zero. -/
theorem digitValue?_eq_some_iff {c : Char} {d : Nat} :
    digitValue? c = some d ↔ isDigit c ∧ d = c.toNat - '0'.toNat := by
  unfold isDigit digitValue?
  split
  next h => simp [eq_comm]
  next h => simp

theorem exists_digitChar_eq {c : Char} (hc : isDigit c) : ∃ d < 10, digitChar d = c := by
  obtain ⟨hlow, hhigh⟩ := isDigit_iff.mp hc
  have hlowNat : '0'.toNat ≤ c.toNat := hlow
  have hhighNat : c.toNat ≤ '9'.toNat := hhigh
  have hnine : '9'.toNat = '0'.toNat + 9 := rfl
  refine ⟨c.toNat - '0'.toNat, by omega, ?_⟩
  rw [digitChar, Nat.add_sub_cancel' hlowNat, Char.ofNat_toNat]

/-! ## Values of runs -/

/-- A text has a value exactly when all of it is digits. -/
theorem valueFrom?_isSome_iff {start : Nat} {cs : List Char} :
    (valueFrom? start cs).isSome ↔ ∀ c ∈ cs, isDigit c := by
  induction cs generalizing start with
  | nil => simp [valueFrom?]
  | cons c rest ih =>
      cases hc : digitValue? c with
      | none => simp [valueFrom?, hc, isDigit]
      | some d => simp [valueFrom?, hc, isDigit, ih]

theorem exists_valueFrom?_eq_some {cs : List Char} (hcs : ∀ c ∈ cs, isDigit c) (start : Nat) :
    ∃ n, valueFrom? start cs = some n :=
  Option.isSome_iff_exists.mp (valueFrom?_isSome_iff.mpr hcs)

theorem isDigit_of_valueFrom?_eq_some {start n : Nat} {cs : List Char}
    (hcs : valueFrom? start cs = some n) : ∀ c ∈ cs, isDigit c :=
  valueFrom?_isSome_iff.mp (by rw [hcs]; rfl)

/-- More digits never make a number smaller. -/
theorem le_of_valueFrom?_eq_some {start n : Nat} {cs : List Char}
    (hcs : valueFrom? start cs = some n) : start ≤ n := by
  induction cs generalizing start with
  | nil => simp_all [valueFrom?]
  | cons c rest ih =>
      simp only [valueFrom?, Option.bind_eq_bind, Option.bind_eq_some_iff] at hcs
      obtain ⟨d, _, hrest⟩ := hcs
      have hle := ih hrest
      omega

theorem lt_ten_of_digitValue?_eq_some {c : Char} {d : Nat} (hd : digitValue? c = some d) :
    d < 10 := by
  obtain ⟨hc, rfl⟩ := digitValue?_eq_some_iff.mp hd
  have hhigh : c.toNat ≤ '9'.toNat := (isDigit_iff.mp hc).2
  have hnine : '9'.toNat = '0'.toNat + 9 := rfl
  omega

/-- A digit that follows moves the digits in front of it by one place and fills that place. -/
theorem valueFrom?_bounds {start n : Nat} {cs : List Char} (hcs : valueFrom? start cs = some n) :
    start * 10 ^ cs.length ≤ n ∧ n < (start + 1) * 10 ^ cs.length := by
  induction cs generalizing start with
  | nil =>
      obtain rfl : start = n := Option.some.inj hcs
      simp
  | cons c rest ih =>
      simp only [valueFrom?, Option.bind_eq_bind, Option.bind_eq_some_iff] at hcs
      obtain ⟨d, hd, hrest⟩ := hcs
      obtain ⟨hlow, hhigh⟩ := ih hrest
      have hdigit := lt_ten_of_digitValue?_eq_some hd
      rw [List.length_cons, Nat.pow_succ, Nat.mul_comm (10 ^ rest.length), ← Nat.mul_assoc,
        ← Nat.mul_assoc]
      constructor
      · exact Nat.le_trans (Nat.mul_le_mul_right _ (by omega)) hlow
      · exact Nat.lt_of_lt_of_le hhigh (Nat.mul_le_mul_right _ (by omega))

theorem valueFrom?_replicate_zero (count : Nat) (cs : List Char) :
    valueFrom? 0 (List.replicate count '0' ++ cs) = valueFrom? 0 cs := by
  induction count with
  | zero => rfl
  | succ count ih =>
      rw [List.replicate_succ, List.cons_append, valueFrom?]
      exact ih

/-! ## Written numbers -/

theorem valueFrom?_digits (n : Nat) : valueFrom? 0 (digits n) = some n := by
  have hvalue := value?_digits n
  simpa [value?, digits_ne_nil] using hvalue

/-- Zeros in front of a number do not change it. -/
theorem valueFrom?_paddedDigits (width n : Nat) : valueFrom? 0 (paddedDigits width n) = some n := by
  rw [paddedDigits, valueFrom?_replicate_zero, valueFrom?_digits]

theorem isDigit_of_mem_digits {n : Nat} : ∀ c ∈ digits n, isDigit c :=
  isDigit_of_valueFrom?_eq_some (valueFrom?_digits n)

theorem isDigit_of_mem_paddedDigits {width n : Nat} : ∀ c ∈ paddedDigits width n, isDigit c :=
  isDigit_of_valueFrom?_eq_some (valueFrom?_paddedDigits width n)

theorem paddedDigits_ne_nil (width n : Nat) : paddedDigits width n ≠ [] := by
  simp [paddedDigits, digits_ne_nil]

theorem exists_paddedDigits_eq_cons (width n : Nat) :
    ∃ c ds, paddedDigits width n = c :: ds ∧ isDigit c := by
  cases hdigits : paddedDigits width n with
  | nil => exact absurd hdigits (paddedDigits_ne_nil width n)
  | cons c ds => exact ⟨c, ds, rfl, isDigit_of_mem_paddedDigits c (hdigits ▸ List.mem_cons_self)⟩

theorem value?_paddedDigits (width n : Nat) : value? (paddedDigits width n) = some n := by
  simp [value?, paddedDigits_ne_nil, valueFrom?_paddedDigits]

theorem le_length_paddedDigits (width n : Nat) : width ≤ (paddedDigits width n).length := by
  simp [paddedDigits]
  omega

theorem length_digits_le {n k : Nat} (hk : k ≠ 0) (hn : n < 10 ^ k) : (digits n).length ≤ k := by
  induction k generalizing n with
  | zero => exact absurd rfl hk
  | succ k ih =>
      by_cases hten : n < 10
      · simp [digits_of_lt hten]
      · have hpos : k ≠ 0 := by
          rintro rfl
          omega
        have hdiv : n / 10 < 10 ^ k := by
          rw [Nat.div_lt_iff_lt_mul (by decide)]
          simpa [Nat.pow_succ] using hn
        rw [digits_of_le (by omega), List.length_append, List.length_singleton]
        exact Nat.succ_le_succ (ih hpos hdiv)

/-- Zeros fill a number up to its width, if it is no longer than that. -/
theorem length_paddedDigits {width n : Nat} (hwidth : width ≠ 0) (hn : n < 10 ^ width) :
    (paddedDigits width n).length = width := by
  have hle := length_digits_le hwidth hn
  simp [paddedDigits]
  omega

/-! ## Numerals -/

theorem digitChar_eq_digitChar {d : Nat} (hd : d < 10) : digitChar d = Nat.digitChar d := by
  revert d
  decide

theorem digits_eq_toDigits (n : Nat) : digits n = Nat.toDigits 10 n := by
  induction n using Nat.strongRecOn with
  | _ n ih =>
      by_cases hn : n < 10
      · rw [digits_of_lt hn, digitChar_eq_digitChar hn, Nat.toDigits_of_lt_base hn]
      · have hle : 10 ≤ n := Nat.not_lt.mp hn
        rw [digits_of_le hle, ih (n / 10) (by omega),
          digitChar_eq_digitChar (Nat.mod_lt n (by decide)),
          ← Nat.toDigits_of_base_le (by decide) hle]

/-- A numeral is how the library shows the number. -/
theorem numeral_eq_toString (n : Nat) : numeral n = toString n := by
  rw [numeral, digits_eq_toDigits, Nat.toString_eq_repr, Nat.repr_eq_ofList_toDigits]

/-- A number is read from what the library shows of it. -/
theorem value?_toString (n : Nat) : value? (toString n).toList = some n := by
  rw [← numeral_eq_toString, numeral, String.toList_ofList, value?_digits]

/-! ## Ends of runs -/

/-- Something other than a digit comes next, or nothing. -/
def EndsRun (rest : List Char) : Prop :=
  ∀ c ∈ rest.head?, isDigit c = false

theorem EndsRun.take {rest : List Char} (hrest : EndsRun rest) (count : Nat) :
    EndsRun (rest.take count) := by
  cases count with
  | zero => simp [EndsRun]
  | succ count =>
      cases rest with
      | nil => exact hrest
      | cons c rest => simpa [EndsRun] using hrest

theorem takeWhile_isDigit_append {ds rest : List Char} (hds : ∀ c ∈ ds, isDigit c)
    (hrest : EndsRun rest) : (ds ++ rest).takeWhile isDigit = ds := by
  rw [List.takeWhile_append_of_pos hds]
  cases rest with
  | nil => simp
  | cons c rest => simp [hrest c rfl]

theorem dropWhile_isDigit_append {ds rest : List Char} (hds : ∀ c ∈ ds, isDigit c)
    (hrest : EndsRun rest) : (ds ++ rest).dropWhile isDigit = rest := by
  rw [List.dropWhile_append_of_pos hds]
  cases rest with
  | nil => simp
  | cons c rest => simp [hrest c rfl]

/-! ## Zeros in front -/

/-- A run of digits without superfluous zeros in front. -/
def IsShortest (ds : List Char) : Prop :=
  ds = ['0'] ∨ ds ≠ [] ∧ ds.head? ≠ some '0'

theorem IsShortest.ne_nil {ds : List Char} (hds : IsShortest ds) : ds ≠ [] := by
  rcases hds with rfl | hds
  · decide
  · exact hds.1

theorem head?_digits_ne_zero {n : Nat} (hn : n ≠ 0) : (digits n).head? ≠ some '0' := by
  induction n using Nat.strongRecOn with
  | _ n ih =>
      by_cases hten : n < 10
      · have hdigit : ∀ d < 10, d ≠ 0 → digitChar d ≠ '0' := by decide
        rw [digits_of_lt hten, List.head?_cons]
        exact fun heq => hdigit n hten hn (Option.some.inj heq)
      · rw [digits_of_le (by omega), List.head?_append_of_ne_nil _ (digits_ne_nil _)]
        exact ih (n / 10) (by omega) (by omega)

theorem isShortest_digits (n : Nat) : IsShortest (digits n) := by
  by_cases hn : n = 0
  · subst hn
    exact Or.inl (digits_of_lt (by decide))
  · exact Or.inr ⟨digits_ne_nil n, head?_digits_ne_zero hn⟩

/-- With at least one digit in front of the last `count`, there are no more than needed. -/
theorem isShortest_take_paddedDigits (count n : Nat) (hcount : count ≠ 0) :
    IsShortest ((paddedDigits (count + 1) n).take
      ((paddedDigits (count + 1) n).length - count)) := by
  by_cases hlength : (digits n).length ≤ count
  · -- Zeros are filled in up to one digit in front, so that one is a zero.
    left
    obtain ⟨zeros, hzeros⟩ := Nat.exists_eq_add_of_le hlength
    have hpadding : count + 1 - (digits n).length = zeros + 1 := by omega
    have hone : zeros + (digits n).length + 1 - count = 1 := by omega
    simp [paddedDigits, hpadding, List.replicate_succ, hone]
  · right
    have hpadded : paddedDigits (count + 1) n = digits n := by
      simp [paddedDigits, show count + 1 - (digits n).length = 0 by omega]
    have hn : n ≠ 0 := by
      rintro rfl
      simp [digits_of_lt] at hlength
      omega
    obtain ⟨kept, hkept⟩ : ∃ kept, (digits n).length - count = kept + 1 :=
      Nat.exists_eq_succ_of_ne_zero (by omega)
    have hhead := head?_digits_ne_zero hn
    rw [hpadded, hkept]
    cases hdigits : digits n with
    | nil => exact absurd hdigits (digits_ne_nil n)
    | cons d rest =>
        rw [hdigits] at hhead
        simpa using hhead

/-! ## Runs as numbers -/

theorem valueFrom?_singleton_eq_some {start n : Nat} {c : Char}
    (hc : valueFrom? start [c] = some n) : ∃ d < 10, digitChar d = c ∧ n = 10 * start + d := by
  obtain ⟨d, hd, rfl⟩ := exists_digitChar_eq (isDigit_of_valueFrom?_eq_some hc c
    List.mem_cons_self)
  refine ⟨d, hd, rfl, ?_⟩
  simpa [valueFrom?, digitValue?_digitChar hd, eq_comm] using hc

/-- No two runs without superfluous zeros denote the same number. -/
theorem digits_eq_of_isShortest {ds : List Char} {n : Nat} (hds : IsShortest ds)
    (hvalue : valueFrom? 0 ds = some n) : digits n = ds := by
  induction ds using List.reverseRecOn generalizing n with
  | nil => exact absurd rfl hds.ne_nil
  | append_singleton front c ih =>
      rw [valueFrom?_append, Option.bind_eq_some_iff] at hvalue
      obtain ⟨m, hm, hlast⟩ := hvalue
      obtain ⟨d, hd, rfl, rfl⟩ := valueFrom?_singleton_eq_some hlast
      by_cases hfront : front = []
      · subst hfront
        obtain rfl : 0 = m := Option.some.inj hm
        simpa using digits_of_lt hd
      · have hhead : front.head? ≠ some '0' := by
          rcases hds with hzero | ⟨_, hhead⟩
          · exact absurd (List.append_eq_singleton_iff.mp hzero) (by simp [hfront])
          · rwa [List.head?_append_of_ne_nil _ hfront] at hhead
        have hdigits : digits m = front := ih (Or.inr ⟨hfront, hhead⟩) hm
        -- What stands in front is no zero, so there is something in front of the last digit.
        have hm : m ≠ 0 := by
          rintro rfl
          rw [← hdigits, digits_of_lt (by decide)] at hhead
          exact hhead rfl
        rw [digits_of_le (by omega), show (10 * m + d) / 10 = m by omega,
          show (10 * m + d) % 10 = d by omega, hdigits]

/-- A run of digits is the number it denotes, filled up to the length of the run. -/
theorem paddedDigits_length_eq {ds : List Char} {n : Nat} (hds : ds ≠ [])
    (hvalue : valueFrom? 0 ds = some n) : paddedDigits ds.length n = ds := by
  induction ds with
  | nil => exact absurd rfl hds
  | cons c rest ih =>
      by_cases hc : c = '0'
      · subst hc
        by_cases hrest : rest = []
        · subst hrest
          obtain rfl : 0 = n := Option.some.inj hvalue
          simp [paddedDigits, digits_of_lt, digitChar]
        · have hpadded := ih hrest hvalue
          have hlength : (digits n).length ≤ rest.length := by
            have hsum := congrArg List.length hpadded
            simp [paddedDigits] at hsum
            omega
          rw [paddedDigits] at hpadded ⊢
          rw [List.length_cons, Nat.succ_sub hlength, List.replicate_succ, List.cons_append,
            hpadded]
      · have hdigits := digits_eq_of_isShortest (Or.inr ⟨hds, by simpa using hc⟩) hvalue
        rw [paddedDigits, hdigits, Nat.sub_self, List.replicate_zero, List.nil_append]

/-- A run whose zeros in front all stand before its last digits is filled up no further than one
digit in front of these. -/
theorem paddedDigits_eq_append {whole fraction : List Char} {n : Nat} (hwhole : IsShortest whole)
    (hvalue : valueFrom? 0 (whole ++ fraction) = some n) :
    paddedDigits (fraction.length + 1) n = whole ++ fraction := by
  rcases hwhole with rfl | ⟨hne, hhead⟩
  · exact paddedDigits_length_eq (by simp) hvalue
  · have hshortest : IsShortest (whole ++ fraction) :=
      Or.inr ⟨by simp [hne], by rwa [List.head?_append_of_ne_nil _ hne]⟩
    have hlength : fraction.length + 1 - (whole ++ fraction).length = 0 := by
      have hpos := List.length_pos_of_ne_nil hne
      rw [List.length_append]
      omega
    rw [paddedDigits, digits_eq_of_isShortest hshortest hvalue, hlength, List.replicate_zero,
      List.nil_append]

end ExpenseReport.Text
