import ExpenseReport.Decimal.Text
import ExpenseReport.Proofs.Text.Digits

/-!
# Reading digits with a point

Digits are taken one by one with two different ends: in front of the point a digit that does not
fit is a fault, behind it the digit rounds what was kept. The results say when a run of digits is
read, and that a run which fits is read without loss.
-/

namespace ExpenseReport.Decimal

open Text

/-! ## In front of the point -/

/-- A run of digits that fits is taken whole. -/
theorem readWhole?_append {magnitude n : Nat} {started : Bool} {ds : List Char} (rest : List Char)
    (hds : valueFrom? magnitude ds = some n) (hn : n ≤ maxMagnitude) :
    readWhole? magnitude started (ds ++ rest) = readWhole? n (started || !ds.isEmpty) rest := by
  induction ds generalizing magnitude started with
  | nil => simp_all [valueFrom?]
  | cons c ds ih =>
      simp only [valueFrom?, Option.bind_eq_bind, Option.bind_eq_some_iff] at hds
      obtain ⟨d, hd, hds⟩ := hds
      have hle : 10 * magnitude + d ≤ maxMagnitude := Nat.le_trans (le_of_valueFrom?_eq_some hds) hn
      simp [readWhole?, hd, hle, ih hds]

/-- A run of digits that does not fit is a fault, whatever follows. -/
theorem readWhole?_append_of_lt {magnitude n : Nat} {started : Bool} {ds : List Char}
    (rest : List Char) (hds : valueFrom? magnitude ds = some n) (hstart : magnitude ≤ maxMagnitude)
    (hn : maxMagnitude < n) : readWhole? magnitude started (ds ++ rest) = none := by
  induction ds generalizing magnitude started with
  | nil =>
      simp only [valueFrom?, Option.some.injEq] at hds
      omega
  | cons c ds ih =>
      simp only [valueFrom?, Option.bind_eq_bind, Option.bind_eq_some_iff] at hds
      obtain ⟨d, hd, hds⟩ := hds
      by_cases hle : 10 * magnitude + d ≤ maxMagnitude
      · simp [readWhole?, hd, hle, ih hds hle]
      · simp [readWhole?, hd, hle]

/-! ## Behind the point -/

/-- Rounding fails only at the greatest whole number. -/
theorem roundOff?_isSome_iff {magnitude scale digit : Nat} (hle : magnitude ≤ maxMagnitude) :
    (roundOff? magnitude scale digit).isSome ↔
      (scale = 0 → magnitude = maxMagnitude → digit < 5) := by
  by_cases hdigit : 5 ≤ digit
  · by_cases hscale : scale = 0
    · by_cases hfull : magnitude = maxMagnitude
      · have hlt : ¬ maxMagnitude + 1 ≤ maxMagnitude := Nat.not_succ_le_self _
        simp [roundOff?, hdigit, hscale, hfull, hlt]
      · simp [roundOff?, hdigit, hscale, hfull, show magnitude + 1 ≤ maxMagnitude by omega]
    · by_cases hfits : magnitude + 1 ≤ maxMagnitude <;> simp [roundOff?, hdigit, hscale, hfits]
  · simp only [roundOff?, hdigit, hle, if_true, if_false, Option.isSome_some, true_iff]
    omega

theorem all_isFiller_of_isDigit {cs : List Char} (hcs : ∀ c ∈ cs, isDigit c) :
    cs.all isFiller := by
  rw [List.all_eq_true]
  intro c hc
  simp [isFiller, hcs c hc]

/-- The fraction of a number is read unless its first digit rounds the greatest whole number up. -/
theorem readFraction?_isSome_iff {magnitude scale : Nat} {started : Bool} {fs : List Char}
    (hfs : ∀ c ∈ fs, isDigit c) (hle : magnitude ≤ maxMagnitude) (hstarted : started ∨ fs ≠ []) :
    (readFraction? magnitude scale started fs).isSome ↔
      (scale = 0 → magnitude = maxMagnitude →
        ∀ digit ∈ fs.head?.bind digitValue?, digit < 5) := by
  induction fs generalizing magnitude scale started with
  | nil => simp_all [readFraction?]
  | cons c rest ih =>
      obtain ⟨hc, hrest⟩ := List.forall_mem_cons.mp hfs
      obtain ⟨digit, hdigit⟩ := Option.isSome_iff_exists.mp hc
      by_cases hfits : scale < maxScale ∧ 10 * magnitude + digit ≤ maxMagnitude
      · -- A digit that is kept is behind the point, and then no rounding fails any more.
        have hnext := @ih _ (scale + 1) true hrest hfits.2 (Or.inl rfl)
        simp only [readFraction?, hdigit, hfits, and_self, if_true, hnext]
        constructor
        · intro _ _ hfull
          rw [hfull] at hfits
          exact absurd hfits.2 (by unfold maxMagnitude; omega)
        · intro _ hzero
          exact absurd hzero (Nat.succ_ne_zero scale)
      · simp only [readFraction?, hdigit, hfits, if_false, all_isFiller_of_isDigit hrest, if_true,
          roundOff?_isSome_iff hle, List.head?_cons, Option.bind_some]
        simp

/-- A fraction that fits is read without loss. -/
theorem readFraction?_of_fits {magnitude scale n : Nat} {started : Bool} {fs : List Char}
    (hfs : valueFrom? magnitude fs = some n) (hn : n ≤ maxMagnitude)
    (hscale : scale + fs.length ≤ maxScale) (hstarted : started ∨ fs ≠ []) :
    readFraction? magnitude scale started fs = some (n, scale + fs.length) := by
  induction fs generalizing magnitude scale started with
  | nil => simp_all [readFraction?, valueFrom?]
  | cons c rest ih =>
      simp only [valueFrom?, Option.bind_eq_bind, Option.bind_eq_some_iff] at hfs
      obtain ⟨d, hd, hrest⟩ := hfs
      simp only [List.length_cons] at hscale ⊢
      have hle : 10 * magnitude + d ≤ maxMagnitude :=
        Nat.le_trans (le_of_valueFrom?_eq_some hrest) hn
      have hlt : scale < maxScale := by omega
      have hread := @ih _ (scale + 1) true hrest (by omega) (Or.inl rfl)
      simp only [readFraction?, hd, hlt, hle, and_self, if_true, hread, Nat.add_assoc,
        Nat.add_comm rest.length]

/-! ## Without a sign -/

/-- Reading digits that start with one is reading them without a sign. -/
theorem readPlain?_cons_of_isDigit {c : Char} (hc : isDigit c) (rest : List Char) :
    readPlain? (c :: rest) = readSigned? false (c :: rest) := by
  unfold readPlain?
  split
  next heq =>
    obtain ⟨rfl, _⟩ := List.cons.inj heq
    exact absurd hc (by decide)
  next heq =>
    obtain ⟨rfl, _⟩ := List.cons.inj heq
    exact absurd hc (by decide)
  next => rfl

/-! ## The range of what is read -/

theorem roundOff?_range {magnitude scale digit m s : Nat} (hle : magnitude ≤ maxMagnitude)
    (hscale : scale ≤ maxScale) (hread : roundOff? magnitude scale digit = some (m, s)) :
    m ≤ maxMagnitude ∧ s ≤ maxScale := by
  have hstep : (if 5 ≤ digit then magnitude + 1 else magnitude) ≤ magnitude + 1 := by
    split <;> omega
  simp only [roundOff?] at hread
  generalize (if 5 ≤ digit then magnitude + 1 else magnitude) = rounded at hstep hread
  split at hread
  next hfits =>
    cases hread
    exact ⟨hfits, hscale⟩
  next =>
    split at hread
    next => cases hread
    next =>
      cases hread
      have hmax : (maxMagnitude + 1 + 4) / 10 ≤ maxMagnitude := by decide
      omega

theorem readFraction?_range {magnitude scale m s : Nat} {started : Bool} {cs : List Char}
    (hle : magnitude ≤ maxMagnitude) (hscale : scale ≤ maxScale)
    (hread : readFraction? magnitude scale started cs = some (m, s)) :
    m ≤ maxMagnitude ∧ s ≤ maxScale := by
  fun_induction readFraction? magnitude scale started cs with
  | case1 => cases hread; exact ⟨hle, hscale⟩
  | case2 => cases hread
  | case3 _ _ _ _ _ _ _ hfits ih => exact ih hfits.2 hfits.1 hread
  | case4 => exact roundOff?_range hle hscale hread
  | case5 => cases hread
  | case6 => cases hread
  | case7 => cases hread; exact ⟨hle, hscale⟩
  | case8 => cases hread
  | case9 _ _ _ _ _ _ _ _ ih => exact ih hle hscale hread

theorem readWhole?_range {magnitude m s : Nat} {started : Bool} {cs : List Char}
    (hle : magnitude ≤ maxMagnitude) (hread : readWhole? magnitude started cs = some (m, s)) :
    m ≤ maxMagnitude ∧ s ≤ maxScale := by
  fun_induction readWhole? magnitude started cs with
  | case1 => cases hread; exact ⟨hle, Nat.zero_le _⟩
  | case2 => cases hread
  | case3 _ _ _ _ _ _ hfits ih => exact ih hfits hread
  | case4 => cases hread
  | case5 => exact readFraction?_range hle (Nat.zero_le _) hread
  | case6 _ _ _ _ _ _ _ ih => exact ih hle hread
  | case7 => cases hread

end ExpenseReport.Decimal
