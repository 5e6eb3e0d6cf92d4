import ExpenseReport.Proofs.Decimal.HalfUp
import ExpenseReport.Proofs.Decimal.Order
import ExpenseReport.Proofs.Decimal.Percentage
import ExpenseReport.Proofs.Formula.Reading

/-!
# What constants stand for

A number in a formula may be longer than any decimal. It stands for the decimal with its digits if
they fit, and is rounded off otherwise. A percentage stands for a hundredth of that decimal, which
is exact unless the decimal has so many digits behind its point that two more cannot be added.
-/

namespace ExpenseReport.Formula

open Text
open Decimal (maxMagnitude maxScale IsRoundedOff IsNearestEven)

/-! ## Numbers -/

theorem isRun_zero : IsRun ['0'] :=
  ⟨by simp, by simp; decide⟩

namespace Literal

/-- The digits on both sides of the mark, read as one number. -/
def unscaled (l : Literal) : ℕ :=
  (valueFrom? 0 (l.whole ++ l.fraction)).getD 0

/-- The number that is written. -/
def toRat (l : Literal) : ℚ :=
  l.unscaled / 10 ^ l.fraction.length

/-- A decimal with the value of the literal and as many digits behind the point, if they fit, and
otherwise the literal rounded off. -/
def IsReadAs (l : Literal) (d : Decimal) : Prop :=
  d.negative = false ∧
    if l.unscaled ≤ maxMagnitude ∧ l.fraction.length ≤ maxScale then
      d.toRat = l.toRat ∧ d.scale = l.fraction.length
    else IsRoundedOff l.toRat d.magnitude d.scale

variable {l : Literal} {word : List Char} {d : Decimal}

theorem readWhole?_of_value?
    (hplain : Decimal.readPlain? l.plain = Decimal.readSigned? false l.plain)
    (hd : l.value? = some d) :
    d.negative = false ∧ Decimal.readWhole? 0 false l.plain = some (d.magnitude, d.scale) := by
  rw [value?, hplain, Decimal.readSigned?, Option.bind_eq_bind, Option.bind_eq_some_iff] at hd
  obtain ⟨⟨magnitude, scale⟩, hread, hparts⟩ := hd
  obtain ⟨hnegative, rfl, rfl⟩ := Decimal.ofParts?_eq_some_iff.mp hparts
  exact ⟨hnegative, hread⟩

/-- Digits without a point are read as the number they make. -/
theorem eq_of_readWhole? {whole : List Char} {n m s : ℕ} (hvalue : valueFrom? 0 whole = some n)
    (hne : whole ≠ []) (hread : Decimal.readWhole? 0 false whole = some (m, s)) :
    m = n ∧ s = 0 ∧ n ≤ maxMagnitude := by
  have hle : n ≤ maxMagnitude := by
    rw [← readWhole?_isSome_iff hne hvalue, hread]
    rfl
  have hstarted : (false || !whole.isEmpty) = true := by simpa using hne
  rw [← List.append_nil whole, Decimal.readWhole?_append [] hvalue hle, hstarted] at hread
  cases hread
  exact ⟨rfl, rfl, hle⟩

/-- Digits around a point are read as the number they make, or that number is rounded off. -/
theorem eq_or_isRoundedOff_of_readWhole? {whole fraction : List Char} {n N m s : ℕ}
    (hvalue : valueFrom? 0 whole = some n) (hfraction : fraction ≠ [])
    (hdigits : valueFrom? n fraction = some N)
    (hread : Decimal.readWhole? 0 false (whole ++ '.' :: fraction) = some (m, s)) :
    if N ≤ maxMagnitude ∧ fraction.length ≤ maxScale then m = N ∧ s = fraction.length
    else IsRoundedOff (N / 10 ^ fraction.length) m s := by
  have hle : n ≤ maxMagnitude := by
    by_contra hlarge
    rw [Decimal.readWhole?_append_of_lt _ hvalue (Nat.zero_le _) (not_le.mp hlarge)] at hread
    cases hread
  have hpoint : digitValue? '.' = none := rfl
  rw [Decimal.readWhole?_append _ hvalue hle] at hread
  simp only [Decimal.readWhole?, hpoint, if_true] at hread
  split
  next hfits =>
    rw [Decimal.readFraction?_of_fits hdigits hfits.1 (by simpa using hfits.2) (Or.inr hfraction),
      Option.some.injEq, Prod.mk.injEq, Nat.zero_add] at hread
    exact ⟨hread.1.symm, hread.2.symm⟩
  next hlarge =>
    apply Decimal.isRoundedOff_of_readFraction? hdigits hle (Nat.zero_le _) _ _ hread
    · rw [Nat.zero_add]
      field_simp
    · rwa [Nat.zero_add]

theorem toRat_eq_of_eq (hnegative : d.negative = false) (hmagnitude : d.magnitude = l.unscaled)
    (hscale : d.scale = l.fraction.length) : d.toRat = l.toRat := by
  rw [Decimal.toRat_eq, hnegative, hmagnitude, hscale, toRat]
  simp [Decimal.signFactor]

/-- A literal with digits behind its mark is read as the number it makes. What is read in front of
the point has the same value as what is written in front of the mark. -/
theorem isReadAs_of_marked {whole : List Char} (hwhole : IsRun whole) (hfraction : IsRun l.fraction)
    (hvalue : valueFrom? 0 whole = valueFrom? 0 l.whole)
    (hplain : l.plain = whole ++ '.' :: l.fraction) (hd : l.value? = some d) : l.IsReadAs d := by
  obtain ⟨n, hn⟩ := exists_valueFrom?_eq_some hwhole.2 0
  obtain ⟨N, hN⟩ := exists_valueFrom?_eq_some hfraction.2 n
  have hsigned : Decimal.readPlain? l.plain = Decimal.readSigned? false l.plain := by
    rw [hplain]
    exact readPlain?_append_of_isRun hwhole _
  obtain ⟨hnegative, hread⟩ := readWhole?_of_value? hsigned hd
  have hunscaled : l.unscaled = N := by
    rw [unscaled, valueFrom?_append, ← hvalue, hn, Option.bind_some, hN, Option.getD_some]
  rw [hplain] at hread
  have hparts := eq_or_isRoundedOff_of_readWhole? hn hfraction.1 hN hread
  rw [← hunscaled] at hparts
  refine ⟨hnegative, ?_⟩
  split at hparts
  next hfits =>
    rw [if_pos hfits]
    exact ⟨toRat_eq_of_eq hnegative hparts.1 hparts.2, hparts.2⟩
  next hlarge =>
    rw [if_neg hlarge]
    exact hparts

/-- A number of the grammar that has a value is read as what it says. -/
theorem Spelled.isReadAs (hword : l.Spelled word) (hd : l.value? = some d) : l.IsReadAs d := by
  cases hword with
  | whole hwhole =>
      obtain ⟨n, hvalue⟩ := exists_valueFrom?_eq_some hwhole.2 0
      have hsigned := readPlain?_append_of_isRun hwhole []
      rw [List.append_nil] at hsigned
      obtain ⟨hnegative, hread⟩ := readWhole?_of_value? (l := ⟨word, []⟩) hsigned hd
      obtain ⟨hmagnitude, hscale, hle⟩ := eq_of_readWhole? hvalue hwhole.1 hread
      have hunscaled : unscaled ⟨word, []⟩ = n := by
        rw [unscaled, List.append_nil, hvalue, Option.getD_some]
      rw [← hunscaled] at hmagnitude hle
      refine ⟨hnegative, ?_⟩
      rw [if_pos ⟨hle, Nat.zero_le _⟩]
      exact ⟨toRat_eq_of_eq hnegative hmagnitude hscale, hscale⟩
  | marked hwhole _ hfraction =>
      apply isReadAs_of_marked hwhole hfraction rfl _ hd
      simp [plain, hwhole.1, hfraction.1]
  | leading _ hfraction =>
      -- The zero that is put in front of a mark does not change the value.
      apply isReadAs_of_marked isRun_zero hfraction rfl _ hd
      simp [plain, hfraction.1]

end Literal

/-! ## Percentages -/

/-- A hundredth of a decimal, exact where two more digits can stand behind the point, and otherwise
the nearest number with as many digits as can stand there. -/
def IsHundredthOf (h d : Decimal) : Prop :=
  if d.scale + 2 ≤ maxScale then h.toRat = d.toRat / 100
  else ∃ n : ℤ, IsNearestEven (d.toRat / 100 * 10 ^ maxScale) n ∧ h.toRat = n / 10 ^ maxScale

theorem isHundredthOf_hundredth (d : Decimal) : IsHundredthOf d.hundredth d := by
  unfold IsHundredthOf
  split
  next hroom =>
    apply Decimal.toRat_hundredth_of_isRepresentable
    refine Decimal.isRepresentable_iff.mpr
      ⟨d.coefficient, d.scale + 2, Decimal.abs_coefficient_le d, hroom, ?_⟩
    rw [Decimal.toRat, pow_add, div_div]
    norm_num
  next => exact Decimal.toRat_hundredth d

/-! ## Constants -/

/-- The decimal is what the constant says. -/
inductive Operand.Denotes : Operand → Decimal → Prop
  | number {l : Literal} {d : Decimal} (hd : l.IsReadAs d) : Denotes (.number l) d
  | percent {l : Literal} {c d : Decimal} (hc : l.IsReadAs c) (hd : IsHundredthOf d c) :
      Denotes (.percent l) d

/-- The limit is of the same form, and its constant is what the text says. -/
inductive Shape.Denotes : Shape → Limit → Prop
  | salary : Denotes .salary .salary
  | fixed {o : Operand} {d : Decimal} (hd : o.Denotes d) : Denotes (.fixed o) (.fixed d)
  | salaryTimes {o : Operand} {d : Decimal} (hd : o.Denotes d) :
      Denotes (.salaryTimes o) (.salaryTimes d)

theorem Operand.Spelled.denotes {o : Operand} {word : List Char} {d : Decimal}
    (hword : o.Spelled word) (hd : o.value? = some d) : o.Denotes d := by
  cases hword with
  | number hword _ => exact .number (hword.isReadAs hd)
  | percent hword _ =>
      obtain ⟨c, hc, rfl⟩ := Option.map_eq_some_iff.mp hd
      exact .percent (hword.isReadAs hc) (isHundredthOf_hundredth c)

theorem Sentence.denotes {cs : List Char} {shape : Shape} {limit : Limit}
    (hcs : Sentence cs shape) (hlimit : shape.limit? = some limit) : shape.Denotes limit := by
  cases hcs with
  | salary =>
      cases hlimit
      exact .salary
  | constant hword =>
      obtain ⟨d, hd, rfl⟩ := Option.map_eq_some_iff.mp hlimit
      exact .fixed (hword.denotes hd)
  | salaryTimes hword | timesSalary hword =>
      obtain ⟨d, hd, rfl⟩ := Option.map_eq_some_iff.mp hlimit
      exact .salaryTimes (hword.denotes hd)

theorem exists_sentence_of_ofText {text : String} {f : Formula} (hf : ofText text = .ok f) :
    ∃ shape, Sentence (canonical text) shape := by
  unfold ofText at hf
  split at hf
  next hread => exact exists_sentence_of_readLimit? hread
  next => cases hf

/-- The limit of a formula is what its sentence says. -/
theorem Sentence.denotes_of_ofText {text : String} {shape : Shape} {f : Formula}
    (htext : Sentence (canonical text) shape) (hf : ofText text = .ok f) :
    shape.Denotes f.limit := by
  obtain ⟨limit, hlimit, hok⟩ := ofText_of_sentence htext
  cases hok.symm.trans hf
  exact htext.denotes hlimit

/-! ## Constants are not negative -/

theorem IsHundredthOf.nonneg {h d : Decimal} (hh : IsHundredthOf h d) (hd : 0 ≤ d.toRat) :
    0 ≤ h.toRat := by
  unfold IsHundredthOf at hh
  split at hh
  next =>
    rw [hh]
    positivity
  next =>
    obtain ⟨n, hn, hvalue⟩ := hh
    have hzero : (0 : ℤ) ≤ n := by
      apply (IsNearestEven.intCast 0).mono hn
      rw [Int.cast_zero]
      positivity
    rw [hvalue]
    positivity

theorem Operand.Denotes.zero_le {o : Operand} {d : Decimal} (hd : o.Denotes d) :
    Decimal.zero ≤ d := by
  rw [Decimal.le_iff_toRat_le, Decimal.toRat_zero]
  have hnumber {l : Literal} {c : Decimal} (hc : l.IsReadAs c) : 0 ≤ c.toRat := by
    rw [Decimal.toRat_eq, hc.1, Decimal.signFactor, if_neg Bool.false_ne_true]
    positivity
  cases hd with
  | number hd => exact hnumber hd
  | percent hc hd => exact hd.nonneg (hnumber hc)

end ExpenseReport.Formula
