import ExpenseReport.Calendar.DateText
import ExpenseReport.Proofs.Text.Digits

/-!
# Dates written and read

A date that was written is read as the same date, in every year that a date can have. The years
outside the first ten millennia have a sign, and behind a sign as many digits as there are belong to
the year.
-/

namespace ExpenseReport.Date

open Text

-- Powers of whole numbers are the core library's.
attribute [local instance (high)] instPowNat

/-! ## Parts of dates -/

theorem isBlank_eq_false_of_isDigit {c : Char} (hc : isDigit c) : isBlank c = false := by
  obtain ⟨d, hd, rfl⟩ := exists_digitChar_eq hc
  revert d
  decide

theorem dropBlanks_paddedDigits (width n : Nat) (rest : List Char) :
    dropBlanks (paddedDigits width n ++ rest) = paddedDigits width n ++ rest := by
  obtain ⟨c, ds, hdigits, hc⟩ := exists_paddedDigits_eq_cons width n
  rw [hdigits]
  apply List.dropWhile_cons_of_neg
  simp [isBlank_eq_false_of_isDigit hc]

/-- A run of digits is taken whole if it is as long as allowed, or shorter and no digit follows. -/
theorem readNumber?_append {most n : Nat} {ds rest : List Char} (hds : value? ds = some n)
    (hdigits : ∀ c ∈ ds, isDigit c) (hmost : ds.length ≤ most)
    (hrest : ds.length = most ∨ EndsRun rest) :
    readNumber? most (ds ++ rest) = some (n, rest) := by
  have hend : EndsRun (rest.take (most - ds.length)) := by
    rcases hrest with hlength | hrest
    · simp [hlength, EndsRun]
    · exact hrest.take _
  have hrun : ((ds ++ rest).take most).takeWhile isDigit = ds := by
    rw [List.take_append, List.take_of_length_le hmost, takeWhile_isDigit_append hdigits hend]
  simp [readNumber?, hrun, hds]

theorem readNumber?_paddedDigits {width n : Nat} (hwidth : width ≠ 0) (hn : n < 10 ^ width)
    (rest : List Char) : readNumber? width (paddedDigits width n ++ rest) = some (n, rest) := by
  have hlength := length_paddedDigits hwidth hn
  exact readNumber?_append (value?_paddedDigits width n) isDigit_of_mem_paddedDigits
    (Nat.le_of_eq hlength) (Or.inl hlength)

theorem readHyphen?_paddedDigits (width n : Nat) (rest : List Char) :
    readHyphen? ('-' :: paddedDigits width n ++ rest) = some (paddedDigits width n ++ rest) := by
  have hhyphen : dropBlanks ('-' :: paddedDigits width n ++ rest) =
      '-' :: (paddedDigits width n ++ rest) := rfl
  rw [readHyphen?, hhyphen]
  simp only [dropBlanks_paddedDigits]

/-! ## Years -/

/-- Behind a sign all digits belong to the year. -/
theorem readNumber?_year (n : Nat) (rest : List Char) :
    readNumber? (paddedDigits 4 n ++ '-' :: rest).length (paddedDigits 4 n ++ '-' :: rest) =
      some (n, '-' :: rest) := by
  apply readNumber?_append (value?_paddedDigits 4 n) isDigit_of_mem_paddedDigits
  · simp
  · right
    simp [EndsRun, isDigit, digitValue?]

theorem readYear?_of_isDigit {c : Char} (hc : isDigit c) (rest : List Char) :
    readYear? (c :: rest) =
      (readNumber? 4 (c :: rest)).map fun (n, rest) => ((n : Int), rest) := by
  unfold readYear?
  split
  next heq =>
    obtain ⟨rfl, _⟩ := List.cons.inj heq
    exact absurd hc (by decide)
  next heq =>
    obtain ⟨rfl, _⟩ := List.cons.inj heq
    exact absurd hc (by decide)
  next => rfl

theorem readYear?_writeYear (year : Int) (rest : List Char) :
    readYear? (writeYear year ++ '-' :: rest) = some (year, '-' :: rest) := by
  have hread := readNumber?_year year.natAbs rest
  unfold writeYear
  split
  next hnegative =>
    rw [List.cons_append, readYear?, hread]
    simp only [Option.map_some, Option.some.injEq, Prod.mk.injEq, and_true]
    omega
  next hnegative =>
    split
    next hlarge =>
      rw [List.cons_append, readYear?, hread]
      simp only [Option.map_some, Option.some.injEq, Prod.mk.injEq, and_true]
      omega
    next hlarge =>
      have hfour : readNumber? 4 (paddedDigits 4 year.natAbs ++ '-' :: rest) =
          some (year.natAbs, '-' :: rest) :=
        readNumber?_paddedDigits (by decide) (by omega) _
      obtain ⟨c, ds, hdigits, hc⟩ := exists_paddedDigits_eq_cons 4 year.natAbs
      rw [hdigits, List.cons_append] at hfour ⊢
      rw [readYear?_of_isDigit hc, hfour]
      simp only [Option.map_some, Option.some.injEq, Prod.mk.injEq, and_true]
      omega

theorem dropBlanks_writeYear (year : Int) (rest : List Char) :
    dropBlanks (writeYear year ++ rest) = writeYear year ++ rest := by
  unfold writeYear
  split
  next => rfl
  next =>
    split
    next => rfl
    next => exact dropBlanks_paddedDigits 4 _ rest

/-! ## Dates -/

theorem daysIn_le (year : Int) (month : Nat) : daysIn year month ≤ 31 := by
  unfold daysIn
  split
  · split <;> decide
  all_goals decide

theorem read?_write (d : Date) : read? d.write = some d := by
  have hmonth : readNumber? 2 (paddedDigits 2 d.month ++ '-' :: paddedDigits 2 d.day) =
      some (d.month, '-' :: paddedDigits 2 d.day) := by
    have hrange := d.month_mem
    exact readNumber?_paddedDigits (by decide) (by omega) _
  have hday : readNumber? 2 (paddedDigits 2 d.day) = some (d.day, []) := by
    have hle := Nat.le_trans d.day_le (daysIn_le d.year d.month)
    rw [← List.append_nil (paddedDigits 2 d.day), readNumber?_paddedDigits (by decide) (by omega)]
  have hlast : readHyphen? ('-' :: paddedDigits 2 d.day) = some (paddedDigits 2 d.day) := by
    have hread := readHyphen?_paddedDigits 2 d.day []
    rwa [List.append_nil, List.append_nil] at hread
  have hfirst := readHyphen?_paddedDigits 2 d.month ('-' :: paddedDigits 2 d.day)
  rw [List.cons_append] at hfirst
  rw [read?, write, List.append_assoc, dropBlanks_writeYear, List.cons_append, readYear?_writeYear]
  simp only [Option.bind_eq_bind, Option.bind_some, hfirst, hmonth, hlast, hday]
  exact ofParts?_eq_some d

/-- A date is read from its own text. -/
theorem ofText?_toText (d : Date) : ofText? d.toText = some d := by
  rw [ofText?, toText, String.toList_ofList, read?_write]

/-- Only digits, hyphens and plus signs are written. -/
theorem mem_write {d : Date} : ∀ c ∈ d.write, isDigit c ∨ c = '-' ∨ c = '+' := by
  have hyear : ∀ c ∈ writeYear d.year, isDigit c ∨ c = '-' ∨ c = '+' := by
    unfold writeYear
    intro c hc
    split at hc
    next =>
      rcases List.mem_cons.mp hc with rfl | hc
      · exact Or.inr (Or.inl rfl)
      · exact Or.inl (isDigit_of_mem_paddedDigits c hc)
    next =>
      split at hc
      next =>
        rcases List.mem_cons.mp hc with rfl | hc
        · exact Or.inr (Or.inr rfl)
        · exact Or.inl (isDigit_of_mem_paddedDigits c hc)
      next => exact Or.inl (isDigit_of_mem_paddedDigits c hc)
  intro c hc
  simp only [write, List.mem_append, List.mem_cons] at hc
  rcases hc with (hc | rfl | hc) | rfl | hc
  · exact hyear c hc
  · exact Or.inr (Or.inl rfl)
  · exact Or.inl (isDigit_of_mem_paddedDigits c hc)
  · exact Or.inr (Or.inl rfl)
  · exact Or.inl (isDigit_of_mem_paddedDigits c hc)

end ExpenseReport.Date
