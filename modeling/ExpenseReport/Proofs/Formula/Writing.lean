import ExpenseReport.Proofs.Decimal.Writing
import ExpenseReport.Proofs.Formula.Reading

/-!
# Decimals written into formulas

What is written for a decimal without a sign is a number of the grammar, and its value is that same
decimal, zeros behind the point included. So a formula that a factor is written into is a formula,
with that factor. The grammar has no signs: what is written for a negative decimal makes no formula.
-/

namespace ExpenseReport

open Text

namespace Formula

/-! ## Canonical texts -/

theorem canonical_append (a b : String) : canonical (a ++ b) = canonical a ++ canonical b := by
  simp [canonical, withoutBlanks, uppercase]

/-- Characters that are no blanks and their own upper case. -/
def IsCanonical (c : Char) : Prop :=
  isBlank c = false ∧ capitals c = [c]

theorem canonical_ofList {cs : List Char} (hcs : ∀ c ∈ cs, IsCanonical c) :
    canonical (String.ofList cs) = cs := by
  rw [canonical, String.toList_ofList]
  induction cs with
  | nil => rfl
  | cons c rest ih =>
      obtain ⟨⟨hblank, hcapitals⟩, hcs⟩ := List.forall_mem_cons.mp hcs
      have hrest := ih hcs
      simp only [withoutBlanks, uppercase] at hrest
      simp [withoutBlanks, uppercase, hblank, hcapitals, hrest]

theorem isCanonical_digitChar : ∀ d < 10, IsCanonical (digitChar d) := by
  unfold IsCanonical
  decide

theorem canonical_toText (d : Decimal) : canonical d.toText = d.write := by
  apply canonical_ofList
  intro c hc
  rcases Decimal.mem_write c hc with hdigit | rfl | rfl
  · obtain ⟨digit, hlt, rfl⟩ := exists_digitChar_eq hdigit
    exact isCanonical_digitChar digit hlt
  · exact ⟨by decide, by decide⟩
  · exact ⟨by decide, by decide⟩

/-! ## Constants -/

/-- What is written without a sign is a number of the grammar, with the decimal as its value. -/
theorem exists_literal_of_write {d : Decimal} (hd : d.negative = false) :
    ∃ l, Literal.Spelled l d.write ∧ l.value? = some d := by
  have hread : Decimal.readSigned? false (Decimal.writeMagnitude d.magnitude d.scale) = some d := by
    rw [Decimal.readSigned?_writeMagnitude]
    exact Decimal.ofParts?_eq_some_iff.mpr ⟨by simp [hd], rfl, rfl⟩
  have hwrite : d.write = Decimal.writeMagnitude d.magnitude d.scale := by
    simp [Decimal.write, Decimal.writeSign, hd]
  rw [hwrite]
  by_cases hscale : d.scale = 0
  · rw [Decimal.writeMagnitude, if_pos hscale] at hread ⊢
    have hrun : IsRun (digits d.magnitude) := ⟨digits_ne_nil _, isDigit_of_mem_digits⟩
    refine ⟨⟨digits d.magnitude, []⟩, .whole hrun, ?_⟩
    have hplain := readPlain?_append_of_isRun hrun []
    rw [List.append_nil] at hplain
    rw [Literal.value?, Literal.plain, if_pos rfl, hplain, hread]
  · obtain ⟨whole, fraction, heq, hwhole, hlength, hvalue⟩ :=
      Decimal.writeMagnitude_eq d.magnitude hscale
    have hdigits := isDigit_of_valueFrom?_eq_some hvalue
    have hfraction : fraction ≠ [] := by
      rintro rfl
      exact hscale hlength.symm
    have hrun : IsRun whole := ⟨hwhole.ne_nil, fun c hc => hdigits c (List.mem_append_left _ hc)⟩
    have hrun' : IsRun fraction := ⟨hfraction, fun c hc => hdigits c (List.mem_append_right _ hc)⟩
    rw [heq] at hread ⊢
    refine ⟨⟨whole, fraction⟩, .marked hrun (by decide) hrun', ?_⟩
    rw [Literal.value?, Literal.plain, if_neg hfraction, if_neg hwhole.ne_nil,
      readPlain?_append_of_isRun hrun, hread]

theorem exists_number_of_write {d : Decimal} (hd : d.negative = false) :
    ∃ o, Operand.Spelled o d.write ∧ o.value? = some d := by
  obtain ⟨l, hl, hvalue⟩ := exists_literal_of_write hd
  exact ⟨.number l, .number hl (hl.value?_isSome_iff.mp (by rw [hvalue]; rfl)), hvalue⟩

theorem exists_percent_of_write {d : Decimal} (hd : d.negative = false) :
    ∃ o, Operand.Spelled o (d.write ++ ['%']) ∧ o.value? = some d.hundredth := by
  obtain ⟨l, hl, hvalue⟩ := exists_literal_of_write hd
  refine ⟨.percent l, .percent hl (hl.value?_isSome_iff.mp (by rw [hvalue]; rfl)), ?_⟩
  simp [Operand.value?, hvalue]

/-! ## Shares of the salary -/

/-- The formula with a constant in front of the salary. -/
def constantFirst (constant : String) : String :=
  "AMOUNT <= " ++ constant ++ " * SALARY"

/-- The formula with a constant behind the salary. -/
def salaryFirst (constant : String) : String :=
  "AMOUNT <= SALARY * " ++ constant

theorem canonical_constantFirst (constant : String) :
    canonical (constantFirst constant) = opening ++ (canonical constant ++ "*SALARY".toList) := by
  have hleft : canonical "AMOUNT <= " = opening := by decide +kernel
  have hright : canonical " * SALARY" = "*SALARY".toList := by decide +kernel
  rw [constantFirst, canonical_append, canonical_append, hleft, hright, List.append_assoc]

theorem canonical_salaryFirst (constant : String) :
    canonical (salaryFirst constant) =
      opening ++ ("SALARY".toList ++ '*' :: canonical constant) := by
  have hleft : canonical "AMOUNT <= SALARY * " = opening ++ ("SALARY".toList ++ ['*']) := by
    decide +kernel
  have hsplit : canonical (salaryFirst constant) =
      canonical "AMOUNT <= SALARY * " ++ canonical constant := canonical_append _ _
  rw [hsplit, hleft, List.append_assoc, List.append_assoc, List.singleton_append]

theorem ofText_of_salaryTimes {o : Operand} {text : String} {value : Decimal}
    (htext : Sentence (canonical text) (.salaryTimes o)) (hvalue : o.value? = some value) :
    ofText text = .ok ⟨text, .salaryTimes value⟩ := by
  obtain ⟨limit, hlimit, hread⟩ := ofText_of_sentence htext
  rw [Shape.limit?, hvalue] at hlimit
  cases hlimit
  exact hread

theorem ofText_constantFirst {o : Operand} {constant : String} {value : Decimal}
    (ho : o.Spelled (canonical constant)) (hvalue : o.value? = some value) :
    ofText (constantFirst constant) = .ok ⟨constantFirst constant, .salaryTimes value⟩ := by
  apply ofText_of_salaryTimes _ hvalue
  rw [canonical_constantFirst]
  exact .timesSalary ho

theorem ofText_salaryFirst {o : Operand} {constant : String} {value : Decimal}
    (ho : o.Spelled (canonical constant)) (hvalue : o.value? = some value) :
    ofText (salaryFirst constant) = .ok ⟨salaryFirst constant, .salaryTimes value⟩ := by
  apply ofText_of_salaryTimes _ hvalue
  rw [canonical_salaryFirst]
  exact .salaryTimes ho

/-- Nothing that starts with a minus sign is a term. -/
theorem readTerm?_minus (rest : List Char) : readTerm? ('-' :: rest) = none := by
  have hsalary : readSalary? ('-' :: rest) = none := by simp [readSalary?, List.isPrefixOf?]
  have hdigits : takeDigits? ('-' :: rest) = none := by
    apply takeDigits?_eq_none
    simp
    decide
  have hfraction : takeFraction? ('-' :: rest) = none := by
    apply takeFraction?_eq_none
    simp
    decide
  have hnumber : readNumber? ('-' :: rest) = none := by
    simp [readNumber?, takeLiteral?, hdigits, hfraction]
  simp [readTerm?, hsalary, readPercent?, hnumber]

theorem write_of_negative {d : Decimal} (hd : d.negative = true) :
    d.write = '-' :: Decimal.writeMagnitude d.magnitude d.scale := by
  simp [Decimal.write, Decimal.writeSign, hd]

theorem readLimit?_append (body : List Char) :
    readLimit? (opening ++ body) =
      (readExpression? body).bind fun (limit, rest) =>
        if rest.isEmpty then some limit else none := by
  have hopening : opening.isPrefixOf? (opening ++ body) = some body :=
    List.isPrefixOf?_eq_some_iff_append_eq.mpr rfl
  rw [readLimit?, hopening]
  rfl

theorem ofText_constantFirst_of_negative {d : Decimal} (hd : d.negative = true) :
    ofText (constantFirst d.toText) = .error ⟨constantFirst d.toText⟩ := by
  have hread : ∀ rest, readExpression? ('-' :: rest) = none := by
    simp [readExpression?, readProduct?, readTerm?_minus]
  have hlimit : readLimit? (canonical (constantFirst d.toText)) = none := by
    rw [canonical_constantFirst, canonical_toText, write_of_negative hd, List.cons_append,
      readLimit?_append, hread, Option.bind_none]
  rw [ofText, hlimit]

theorem ofText_salaryFirst_of_negative {d : Decimal} (hd : d.negative = true) :
    ofText (salaryFirst d.toText) = .error ⟨salaryFirst d.toText⟩ := by
  -- No product is read, so the salary alone is, and the rest of the text is left over.
  have hread : ∀ rest, readExpression? ("SALARY".toList ++ '*' :: '-' :: rest) =
      some (.salary, '*' :: '-' :: rest) := by
    intro rest
    have hends : EndsTerm ('*' :: '-' :: rest) := by simp [EndsTerm]
    simp only [readExpression?, readProduct?, readTerm?_append .salary hends]
    simp [List.isPrefixOf?, readTerm?_minus, Term.alone]
  have hlimit : readLimit? (canonical (salaryFirst d.toText)) = none := by
    rw [canonical_salaryFirst, canonical_toText, write_of_negative hd, readLimit?_append, hread]
    rfl
  rw [ofText, hlimit]

end Formula

end ExpenseReport
