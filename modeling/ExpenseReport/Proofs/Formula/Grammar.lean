import ExpenseReport.Formula.Text
import ExpenseReport.Proofs.Decimal.Reading

/-!
# The grammar of formulas

What a formula may look like, without saying how it is read: the texts of a number, the range of
numbers, and the four forms of a sentence. A number in range has a value, and no other has.
-/

namespace ExpenseReport.Formula

open Text

/-- A run of digits, at least one. -/
def IsRun (cs : List Char) : Prop :=
  cs ≠ [] ∧ ∀ c ∈ cs, isDigit c

/-- A number is written as digits, as digits around a mark, or as a mark and digits. -/
inductive Literal.Spelled : Literal → List Char → Prop
  | whole {whole : List Char} (hwhole : IsRun whole) : Spelled ⟨whole, []⟩ whole
  | marked {whole fraction : List Char} {mark : Char} (hwhole : IsRun whole) (hmark : isMark mark)
      (hfraction : IsRun fraction) : Spelled ⟨whole, fraction⟩ (whole ++ mark :: fraction)
  | leading {fraction : List Char} {mark : Char} (hmark : isMark mark)
      (hfraction : IsRun fraction) : Spelled ⟨[], fraction⟩ (mark :: fraction)

/-- The digits in front of the mark make the greatest magnitude at most, and nothing behind the mark
rounds the greatest one up. -/
def Literal.InRange (l : Literal) : Prop :=
  ∃ n, valueFrom? 0 l.whole = some n ∧ n ≤ Decimal.maxMagnitude ∧
    ¬ (n = Decimal.maxMagnitude ∧ ∃ c ∈ l.fraction.head?, '5' ≤ c)

/-- A constant is a number or a percentage. -/
inductive Operand where
  | number (literal : Literal)
  | percent (literal : Literal)

/-- The texts of a constant, which is in range. -/
inductive Operand.Spelled : Operand → List Char → Prop
  | number {l : Literal} {cs : List Char} (hcs : l.Spelled cs) (hrange : l.InRange) :
      Spelled (.number l) cs
  | percent {l : Literal} {cs : List Char} (hcs : l.Spelled cs) (hrange : l.InRange) :
      Spelled (.percent l) (cs ++ ['%'])

/-- The decimal that a constant stands for. -/
def Operand.value? : Operand → Option Decimal
  | number l => l.value?
  | percent l => l.value?.map Decimal.hundredth

/-- The alternatives for the right-hand side of a formula. -/
inductive Shape where
  | salary
  | fixed (constant : Operand)
  | salaryTimes (constant : Operand)

/-- The limit that an alternative sets. -/
def Shape.limit? : Shape → Option Limit
  | salary => some .salary
  | fixed constant => constant.value?.map .fixed
  | salaryTimes constant => constant.value?.map .salaryTimes

/-- The texts of formulas, in their canonical form. -/
inductive Sentence : List Char → Shape → Prop
  | salary : Sentence "AMOUNT<=SALARY".toList .salary
  | constant {o : Operand} {cs : List Char} (hcs : o.Spelled cs) :
      Sentence ("AMOUNT<=".toList ++ cs) (.fixed o)
  | salaryTimes {o : Operand} {cs : List Char} (hcs : o.Spelled cs) :
      Sentence ("AMOUNT<=SALARY*".toList ++ cs) (.salaryTimes o)
  | timesSalary {o : Operand} {cs : List Char} (hcs : o.Spelled cs) :
      Sentence ("AMOUNT<=".toList ++ (cs ++ "*SALARY".toList)) (.salaryTimes o)

/-! ## Which numbers have a value -/

theorem not_isDigit_of_isMark {c : Char} (hc : isMark c) : ¬ isDigit c := by
  simp only [isMark, Bool.or_eq_true, decide_eq_true_eq] at hc
  rcases hc with rfl | rfl <;> decide

theorem readPlain?_append_of_isRun {whole : List Char} (hwhole : IsRun whole) (rest : List Char) :
    Decimal.readPlain? (whole ++ rest) = Decimal.readSigned? false (whole ++ rest) := by
  obtain ⟨hne, hdigits⟩ := hwhole
  cases whole with
  | nil => exact absurd rfl hne
  | cons c tail => exact Decimal.readPlain?_cons_of_isDigit (hdigits c List.mem_cons_self) _

/-- What is read without a sign is a decimal. -/
theorem readSigned?_isSome_iff {cs : List Char} :
    (Decimal.readSigned? false cs).isSome ↔ (Decimal.readWhole? 0 false cs).isSome := by
  unfold Decimal.readSigned?
  cases hread : Decimal.readWhole? 0 false cs with
  | none => rfl
  | some parts =>
      obtain ⟨m, s⟩ := parts
      have hrange := Decimal.readWhole?_range (Nat.zero_le _) hread
      simp [Decimal.signed?, Decimal.ofParts?, hrange]

theorem five_le_iff {c : Char} {d : Nat} (hd : digitValue? c = some d) : 5 ≤ d ↔ '5' ≤ c := by
  obtain ⟨hc, rfl⟩ := digitValue?_eq_some_iff.mp hd
  rw [isDigit_iff] at hc
  simp only [Char.le_def, UInt32.le_iff_toNat_le] at hc ⊢
  have hzero : ('0' : Char).val.toNat = 48 := rfl
  have hfive : ('5' : Char).val.toNat = 53 := rfl
  have hval : c.toNat = c.val.toNat := rfl
  have hzero' : ('0' : Char).toNat = 48 := rfl
  omega

/-- The range of a number, given the value of the digits in front of its mark. -/
theorem Literal.inRange_iff {l : Literal} {n : Nat} (hn : valueFrom? 0 l.whole = some n) :
    l.InRange ↔ n ≤ Decimal.maxMagnitude ∧
      ¬ (n = Decimal.maxMagnitude ∧ ∃ c ∈ l.fraction.head?, '5' ≤ c) := by
  simp [InRange, hn]

/-- Digits without a point are read exactly when they fit. -/
theorem readWhole?_isSome_iff {whole : List Char} {n : Nat} (hne : whole ≠ [])
    (hvalue : valueFrom? 0 whole = some n) :
    (Decimal.readWhole? 0 false whole).isSome ↔ n ≤ Decimal.maxMagnitude := by
  rw [← List.append_nil whole]
  by_cases hn : n ≤ Decimal.maxMagnitude
  · rw [Decimal.readWhole?_append _ hvalue hn]
    simp [Decimal.readWhole?, hne, hn]
  · rw [Decimal.readWhole?_append_of_lt _ hvalue (Nat.zero_le _) (by omega)]
    simp [hn]

/-- Digits around a point are read exactly when they are in range. -/
theorem readWhole?_point_isSome_iff {whole fraction : List Char} {n : Nat} (hne : whole ≠ [])
    (hvalue : valueFrom? 0 whole = some n) (hfraction : IsRun fraction) :
    (Decimal.readWhole? 0 false (whole ++ '.' :: fraction)).isSome ↔
      n ≤ Decimal.maxMagnitude ∧
        ¬ (n = Decimal.maxMagnitude ∧ ∃ c ∈ fraction.head?, '5' ≤ c) := by
  by_cases hn : n ≤ Decimal.maxMagnitude
  · have hempty : whole.isEmpty = false := by simpa using hne
    have hpoint : digitValue? '.' = none := rfl
    rw [Decimal.readWhole?_append _ hvalue hn]
    simp only [hempty, Bool.not_false, Bool.or_true, Decimal.readWhole?, hpoint, if_true,
      Decimal.readFraction?_isSome_iff hfraction.2 hn (Or.inl rfl), hn, true_and]
    cases hhead : fraction.head? with
    | none => simp
    | some c =>
        obtain ⟨d, hd⟩ := Option.isSome_iff_exists.mp
          (hfraction.2 c (List.mem_of_mem_head? hhead))
        have hfive := five_le_iff hd
        simp only [Option.bind_some, hd, Option.mem_some_iff, forall_eq', exists_eq_left']
        rw [← hfive]
        simp only [true_imp_iff, not_and, Nat.not_le]
  · rw [Decimal.readWhole?_append_of_lt _ hvalue (Nat.zero_le _) (by omega)]
    simp [hn]

/-- A number has a value exactly when it is in range. -/
theorem Literal.Spelled.value?_isSome_iff {l : Literal} {cs : List Char} (hcs : l.Spelled cs) :
    l.value?.isSome ↔ l.InRange := by
  cases hcs with
  | whole hwhole =>
      obtain ⟨n, hn⟩ := exists_valueFrom?_eq_some hwhole.2 0
      have hplain := readPlain?_append_of_isRun hwhole []
      rw [List.append_nil] at hplain
      rw [Literal.inRange_iff hn]
      simp [Literal.value?, Literal.plain, hplain, readSigned?_isSome_iff,
        readWhole?_isSome_iff hwhole.1 hn]
  | marked hwhole _ hfraction =>
      obtain ⟨n, hn⟩ := exists_valueFrom?_eq_some hwhole.2 0
      rw [Literal.inRange_iff hn]
      simp only [Literal.value?, Literal.plain, hwhole.1, hfraction.1, if_false,
        readPlain?_append_of_isRun hwhole, readSigned?_isSome_iff,
        readWhole?_point_isSome_iff hwhole.1 hn hfraction]
  | leading _ hfraction =>
      -- A mark that leads is read with a zero in front of it.
      have hzero : IsRun ['0'] := ⟨by simp, by simp; decide⟩
      rw [Literal.inRange_iff (show valueFrom? 0 [] = some 0 from rfl)]
      simp only [Literal.value?, Literal.plain, hfraction.1, if_false, if_true,
        readPlain?_append_of_isRun hzero, readSigned?_isSome_iff,
        readWhole?_point_isSome_iff hzero.1 (show valueFrom? 0 ['0'] = some 0 from rfl) hfraction]

end ExpenseReport.Formula
