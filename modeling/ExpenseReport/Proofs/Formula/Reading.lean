import ExpenseReport.Proofs.Formula.Grammar
import Mathlib.Data.List.TakeWhile

/-!
# Reading formulas

The readers choose the first form that fits and never go back on a run of digits. Two facts about
each show that these choices lose no sentence and let no other text in: what a reader takes off is a
text of the grammar, and it takes off all of such a text when nothing that could continue it
follows.
-/

namespace ExpenseReport.Formula

open Text

/-! ## Runs of digits -/

theorem takeDigits?_append {ds rest : List Char} (hds : IsRun ds)
    (hrest : ∀ c ∈ rest.head?, ¬ isDigit c) : takeDigits? (ds ++ rest) = some (ds, rest) := by
  have hstop : rest.takeWhile isDigit = [] ∧ rest.dropWhile isDigit = rest := by
    cases rest with
    | nil => exact ⟨rfl, rfl⟩
    | cons c tail => simp_all
  simp only [takeDigits?, List.takeWhile_append_of_pos hds.2, List.dropWhile_append_of_pos hds.2,
    hstop, List.append_nil, hds.1, if_false]

theorem takeDigits?_eq_none {cs : List Char} (hcs : ∀ c ∈ cs.head?, ¬ isDigit c) :
    takeDigits? cs = none := by
  cases cs with
  | nil => rfl
  | cons c rest => simp_all [takeDigits?]

theorem takeDigits?_sound {cs ds rest : List Char} (htake : takeDigits? cs = some (ds, rest)) :
    IsRun ds ∧ cs = ds ++ rest := by
  unfold takeDigits? at htake
  split at htake
  next => cases htake
  next hne =>
    cases htake
    exact ⟨⟨hne, fun c hc => List.mem_takeWhile_imp hc⟩, List.takeWhile_append_dropWhile.symm⟩

theorem takeFraction?_cons {fraction rest : List Char} {mark : Char} (hmark : isMark mark)
    (hfraction : IsRun fraction) (hrest : ∀ c ∈ rest.head?, ¬ isDigit c) :
    takeFraction? (mark :: (fraction ++ rest)) = some (fraction, rest) := by
  simp only [takeFraction?, hmark, if_true, takeDigits?_append hfraction hrest]

theorem takeFraction?_eq_none {cs : List Char} (hcs : ∀ c ∈ cs.head?, ¬ isMark c) :
    takeFraction? cs = none := by
  cases cs with
  | nil => rfl
  | cons c rest => simp_all [takeFraction?]

theorem takeFraction?_sound {cs fraction rest : List Char}
    (htake : takeFraction? cs = some (fraction, rest)) :
    ∃ mark, isMark mark ∧ IsRun fraction ∧ cs = mark :: (fraction ++ rest) := by
  cases cs with
  | nil => cases htake
  | cons c tail =>
      simp only [takeFraction?] at htake
      split at htake
      next hmark =>
        obtain ⟨hrun, rfl⟩ := takeDigits?_sound htake
        exact ⟨c, hmark, hrun, rfl⟩
      next => cases htake

/-! ## Numbers -/

/-- What follows a number, if anything does, could not be part of it. -/
def EndsNumber (rest : List Char) : Prop :=
  ∀ c ∈ rest.head?, ¬ isDigit c ∧ ¬ isMark c

theorem takeLiteral?_append {l : Literal} {word rest : List Char} (hword : l.Spelled word)
    (hrest : EndsNumber rest) : takeLiteral? (word ++ rest) = some (l, rest) := by
  have hdigit : ∀ c ∈ rest.head?, ¬ isDigit c := fun c hc => (hrest c hc).1
  have hmark : ∀ c ∈ rest.head?, ¬ isMark c := fun c hc => (hrest c hc).2
  cases hword with
  | whole hwhole =>
      simp only [takeLiteral?, takeDigits?_append hwhole hdigit, takeFraction?_eq_none hmark]
  | @marked whole fraction mark hwhole hmark hfraction =>
      -- A mark is no digit, so the run in front of it ends there.
      have hstop : ∀ c ∈ (mark :: (fraction ++ rest)).head?, ¬ isDigit c := by
        simpa using not_isDigit_of_isMark hmark
      simp only [takeLiteral?, List.append_assoc, List.cons_append,
        takeDigits?_append hwhole hstop, takeFraction?_cons hmark hfraction hdigit]
  | @leading fraction mark hmark hfraction =>
      have hstop : ∀ c ∈ (mark :: (fraction ++ rest)).head?, ¬ isDigit c := by
        simpa using not_isDigit_of_isMark hmark
      simp only [takeLiteral?, List.cons_append, takeDigits?_eq_none hstop,
        takeFraction?_cons hmark hfraction hdigit, Option.map_some]

theorem takeLiteral?_sound {cs rest : List Char} {l : Literal}
    (htake : takeLiteral? cs = some (l, rest)) : ∃ word, l.Spelled word ∧ cs = word ++ rest := by
  unfold takeLiteral? at htake
  split at htake
  next whole tail htakeWhole =>
    obtain ⟨hwhole, rfl⟩ := takeDigits?_sound htakeWhole
    split at htake
    next htakeFraction =>
      cases htake
      obtain ⟨mark, hmark, hfraction, rfl⟩ := takeFraction?_sound htakeFraction
      exact ⟨_, .marked hwhole hmark hfraction, by simp⟩
    next =>
      cases htake
      exact ⟨_, .whole hwhole, rfl⟩
  next =>
    obtain ⟨⟨fraction, _⟩, htakeFraction, heq⟩ := Option.map_eq_some_iff.mp htake
    cases heq
    obtain ⟨mark, hmark, hfraction, rfl⟩ := takeFraction?_sound htakeFraction
    exact ⟨_, .leading hmark hfraction, rfl⟩

theorem readNumber?_append {l : Literal} {word rest : List Char} (hword : l.Spelled word)
    (hrest : EndsNumber rest) :
    readNumber? (word ++ rest) = l.value?.map fun value => (value, rest) := by
  simp only [readNumber?, takeLiteral?_append hword hrest, Option.bind_eq_bind, Option.bind_some]
  cases l.value? <;> rfl

theorem readNumber?_sound {cs rest : List Char} {value : Decimal}
    (hread : readNumber? cs = some (value, rest)) :
    ∃ l word, Literal.Spelled l word ∧ l.value? = some value ∧ cs = word ++ rest := by
  simp only [readNumber?, Option.bind_eq_bind, Option.bind_eq_some_iff] at hread
  obtain ⟨⟨l, tail⟩, htake, v, hv, heq⟩ := hread
  cases heq
  obtain ⟨word, hword, rfl⟩ := takeLiteral?_sound htake
  exact ⟨l, word, hword, hv, rfl⟩

/-! ## Terms -/

/-- The texts of a term. -/
inductive Term.Spelled : Term → List Char → Prop
  | salary : Spelled .salary "SALARY".toList
  | constant {o : Operand} {value : Decimal} {cs : List Char} (hcs : o.Spelled cs)
      (hvalue : o.value? = some value) : Spelled (.constant value) cs

/-- A term is followed by an asterisk or by nothing. -/
def EndsTerm (rest : List Char) : Prop :=
  ∀ c ∈ rest.head?, c = '*'

theorem EndsTerm.endsNumber {rest : List Char} (hrest : EndsTerm rest) : EndsNumber rest := by
  intro c hc
  obtain rfl := hrest c hc
  decide

/-- Constants in range have a value. -/
theorem Operand.Spelled.exists_value {o : Operand} {cs : List Char} (hcs : o.Spelled cs) :
    ∃ value, o.value? = some value := by
  cases hcs with
  | number hcs hrange => exact Option.isSome_iff_exists.mp (hcs.value?_isSome_iff.mpr hrange)
  | percent hcs hrange =>
      obtain ⟨v, hv⟩ := Option.isSome_iff_exists.mp (hcs.value?_isSome_iff.mpr hrange)
      exact ⟨v.hundredth, by simp [Operand.value?, hv]⟩

theorem Literal.Spelled.head {l : Literal} {cs : List Char} (hcs : l.Spelled cs) :
    ∃ c rest, cs = c :: rest ∧ (isDigit c ∨ isMark c) := by
  cases hcs with
  | whole hwhole =>
      obtain ⟨c, rest, rfl⟩ := List.exists_cons_of_ne_nil hwhole.1
      exact ⟨c, rest, rfl, Or.inl (hwhole.2 c List.mem_cons_self)⟩
  | @marked whole fraction mark hwhole hmark hfraction =>
      obtain ⟨c, rest, rfl⟩ := List.exists_cons_of_ne_nil hwhole.1
      exact ⟨c, rest ++ mark :: fraction, rfl, Or.inl (hwhole.2 c List.mem_cons_self)⟩
  | leading hmark _ => exact ⟨_, _, rfl, Or.inr hmark⟩

theorem Operand.Spelled.head {o : Operand} {cs : List Char} (hcs : o.Spelled cs) :
    ∃ c rest, cs = c :: rest ∧ (isDigit c ∨ isMark c) := by
  cases hcs with
  | number hcs _ => exact hcs.head
  | percent hcs _ =>
      obtain ⟨c, rest, rfl, hc⟩ := hcs.head
      exact ⟨c, rest ++ ['%'], rfl, hc⟩

/-- No constant is taken for the salary. -/
theorem readSalary?_of_operand {o : Operand} {word : List Char} (hword : o.Spelled word)
    (rest : List Char) : readSalary? (word ++ rest) = none := by
  obtain ⟨c, tail, rfl, hc⟩ := hword.head
  have hne : ('S' == c) = false := by
    rw [beq_eq_false_iff_ne]
    rintro rfl
    exact absurd hc (by decide)
  simp [readSalary?, List.isPrefixOf?, hne]

theorem readPercent?_append {l : Literal} {word : List Char} (hword : l.Spelled word)
    (rest : List Char) :
    readPercent? (word ++ '%' :: rest) = l.value?.map fun value => (value.hundredth, rest) := by
  have hends : EndsNumber ('%' :: rest) := by simp [EndsNumber]; decide
  simp only [readPercent?, readNumber?_append hword hends]
  cases l.value? <;> rfl

/-- A number without the sign of a percentage is no percentage. -/
theorem readPercent?_eq_none {l : Literal} {word rest : List Char} (hword : l.Spelled word)
    (hrest : EndsTerm rest) : readPercent? (word ++ rest) = none := by
  simp only [readPercent?, readNumber?_append hword hrest.endsNumber]
  cases l.value? with
  | none => rfl
  | some value =>
      cases rest with
      | nil => rfl
      | cons c tail =>
          obtain rfl := hrest c rfl
          rfl

/-- A term is read whole. -/
theorem readTerm?_append {t : Term} {word rest : List Char} (hword : t.Spelled word)
    (hrest : EndsTerm rest) : readTerm? (word ++ rest) = some (t, rest) := by
  cases hword with
  | salary => rfl
  | constant hword hvalue =>
      simp only [readTerm?, readSalary?_of_operand hword, Option.none_or]
      cases hword with
      | number hword _ =>
          simp only [Operand.value?] at hvalue
          simp [readPercent?_eq_none hword hrest, readNumber?_append hword hrest.endsNumber, hvalue]
      | percent hword _ =>
          obtain ⟨v, hv, rfl⟩ := Option.map_eq_some_iff.mp hvalue
          simp [readPercent?_append hword, hv]

/-- Only terms are read. -/
theorem readTerm?_sound {t : Term} {cs rest : List Char} (hread : readTerm? cs = some (t, rest)) :
    ∃ word, t.Spelled word ∧ cs = word ++ rest := by
  simp only [readTerm?, Option.or_eq_some_iff, readSalary?, Option.map_eq_some_iff] at hread
  rcases hread with ⟨tail, hsalary, heq⟩ | ⟨_, ⟨value, tail⟩, hconstant, heq⟩
  · cases heq
    exact ⟨_, .salary, (List.append_eq_of_isPrefixOf?_eq_some hsalary).symm⟩
  · cases heq
    rcases hconstant with hpercent | ⟨_, hnumber⟩
    · simp only [readPercent?, Option.bind_eq_bind, Option.bind_eq_some_iff] at hpercent
      obtain ⟨⟨v, middle⟩, hnumber, after, hsign, heq⟩ := hpercent
      cases heq
      obtain ⟨l, word, hword, hv, rfl⟩ := readNumber?_sound hnumber
      have hrange := hword.value?_isSome_iff.mp (by rw [hv]; rfl)
      have hmiddle : ['%'] ++ tail = middle := List.append_eq_of_isPrefixOf?_eq_some hsign
      refine ⟨word ++ ['%'], .constant (.percent hword hrange) (by simp [Operand.value?, hv]), ?_⟩
      rw [← hmiddle, List.append_assoc]
    · obtain ⟨l, word, hword, hv, rfl⟩ := readNumber?_sound hnumber
      have hrange := hword.value?_isSome_iff.mp (by rw [hv]; rfl)
      exact ⟨word, .constant (.number hword hrange) hv, rfl⟩

/-! ## Expressions and sentences -/

theorem readExpression?_of_product {left right : Term} {l r : List Char} {limit : Limit}
    (hl : left.Spelled l) (hr : right.Spelled r) (hlimit : left.times? right = some limit) :
    readExpression? (l ++ '*' :: r) = some (limit, []) := by
  have hstar : EndsTerm ('*' :: r) := by simp [EndsTerm]
  have hright : readTerm? (r ++ []) = some (right, []) :=
    readTerm?_append hr (by simp [EndsTerm])
  rw [List.append_nil] at hright
  simp [readExpression?, readProduct?, readTerm?_append hl hstar, List.isPrefixOf?, hright, hlimit]

/-- A term alone is no product. -/
theorem readExpression?_of_term {t : Term} {word : List Char} (hword : t.Spelled word) :
    readExpression? word = some (t.alone, []) := by
  have hread : readTerm? (word ++ []) = some (t, []) :=
    readTerm?_append hword (by simp [EndsTerm])
  rw [List.append_nil] at hread
  -- The product fails behind its first term, where no asterisk stands.
  simp [readExpression?, readProduct?, hread, List.isPrefixOf?]

theorem readExpression?_sound {cs : List Char} {limit : Limit}
    (hread : readExpression? cs = some (limit, [])) :
    (∃ t word, Term.Spelled t word ∧ t.alone = limit ∧ cs = word) ∨
      ∃ left right l r, Term.Spelled left l ∧ Term.Spelled right r ∧
        left.times? right = some limit ∧ cs = l ++ '*' :: r := by
  simp only [readExpression?, Option.or_eq_some_iff, Option.map_eq_some_iff] at hread
  rcases hread with hproduct | ⟨_, ⟨t, rest⟩, hterm, heq⟩
  · right
    simp only [readProduct?, Option.bind_eq_bind, Option.bind_eq_some_iff] at hproduct
    obtain ⟨⟨left, tail⟩, hleft, after, hstar, ⟨right, rest⟩, hright, limit', hlimit, heq⟩ :=
      hproduct
    cases heq
    obtain ⟨l, hl, rfl⟩ := readTerm?_sound hleft
    obtain ⟨r, hr, rfl⟩ := readTerm?_sound hright
    have htail : ['*'] ++ (r ++ []) = tail := List.append_eq_of_isPrefixOf?_eq_some hstar
    refine ⟨left, right, l, r, hl, hr, hlimit, ?_⟩
    rw [← htail, List.append_nil, List.singleton_append]
  · left
    cases heq
    obtain ⟨word, hword, rfl⟩ := readTerm?_sound hterm
    exact ⟨t, word, hword, rfl, by simp⟩

theorem readLimit?_eq_some_iff {cs : List Char} {limit : Limit} :
    readLimit? cs = some limit ↔
      ∃ body, cs = opening ++ body ∧ readExpression? body = some (limit, []) := by
  simp only [readLimit?, Option.bind_eq_bind, Option.bind_eq_some_iff]
  constructor
  · rintro ⟨body, hbody, ⟨l, rest⟩, hread, hend⟩
    refine ⟨body, (List.append_eq_of_isPrefixOf?_eq_some hbody).symm, ?_⟩
    cases rest with
    | nil => simp_all
    | cons c tail => simp at hend
  · rintro ⟨body, rfl, hread⟩
    exact ⟨body, by simp, (limit, []), hread, rfl⟩

/-- A sentence is read as the limit of its alternative. -/
theorem Sentence.exists_readLimit? {cs : List Char} {shape : Shape} (hcs : Sentence cs shape) :
    ∃ limit, shape.limit? = some limit ∧ readLimit? cs = some limit := by
  cases hcs with
  | salary => exact ⟨.salary, rfl, rfl⟩
  | constant hword =>
      obtain ⟨v, hv⟩ := hword.exists_value
      refine ⟨.fixed v, by simp [Shape.limit?, hv], readLimit?_eq_some_iff.mpr ⟨_, rfl, ?_⟩⟩
      exact readExpression?_of_term (.constant hword hv)
  | salaryTimes hword =>
      obtain ⟨v, hv⟩ := hword.exists_value
      refine ⟨.salaryTimes v, by simp [Shape.limit?, hv], readLimit?_eq_some_iff.mpr
        ⟨"SALARY".toList ++ '*' :: _, rfl, ?_⟩⟩
      exact readExpression?_of_product .salary (.constant hword hv) rfl
  | timesSalary hword =>
      obtain ⟨v, hv⟩ := hword.exists_value
      refine ⟨.salaryTimes v, by simp [Shape.limit?, hv], readLimit?_eq_some_iff.mpr
        ⟨_ ++ '*' :: "SALARY".toList, rfl, ?_⟩⟩
      exact readExpression?_of_product (.constant hword hv) .salary rfl

/-- Only sentences are read. -/
theorem exists_sentence_of_readLimit? {cs : List Char} {limit : Limit}
    (hread : readLimit? cs = some limit) : ∃ shape, Sentence cs shape := by
  obtain ⟨body, rfl, hbody⟩ := readLimit?_eq_some_iff.mp hread
  rcases readExpression?_sound hbody with
    ⟨t, word, hword, _, rfl⟩ | ⟨left, right, l, r, hleft, hright, htimes, rfl⟩
  · cases hword with
    | salary => exact ⟨_, .salary⟩
    | constant hword _ => exact ⟨_, .constant hword⟩
  · -- A product has the salary on exactly one side.
    cases hleft with
    | salary =>
        cases hright with
        | salary => cases htimes
        | constant hword _ => exact ⟨_, .salaryTimes hword⟩
    | constant hleft _ =>
        cases hright with
        | salary => exact ⟨_, .timesSalary hleft⟩
        | constant => cases htimes

theorem ofText_of_sentence {text : String} {shape : Shape}
    (htext : Sentence (canonical text) shape) :
    ∃ limit, shape.limit? = some limit ∧ ofText text = .ok ⟨text, limit⟩ := by
  obtain ⟨limit, hlimit, hread⟩ := htext.exists_readLimit?
  exact ⟨limit, hlimit, by rw [ofText, hread]⟩

theorem canonical_eq (text : String) :
    canonical text = Text.uppercase (Text.withoutBlanks text.toList) :=
  rfl

/-- The formulas are the texts that are sentences of the grammar once their blanks are removed and
their letters are in upper case. A formula keeps its text and has the limit of every alternative
that it matches; an error keeps the text too. -/
theorem ofText_accepts_exactly_sentences (text : String) :
    ((∃ f, ofText text = .ok f) ↔
        ∃ shape, Sentence (Text.uppercase (Text.withoutBlanks text.toList)) shape) ∧
      (∀ f, ofText text = .ok f → f.source = text ∧
        ∀ shape, Sentence (Text.uppercase (Text.withoutBlanks text.toList)) shape →
          shape.limit? = some f.limit) ∧
      ∀ e, ofText text = .error e → e.text = text := by
  rw [← canonical_eq]
  refine ⟨⟨?_, ?_⟩, ?_, ?_⟩
  · rintro ⟨f, hf⟩
    cases hread : readLimit? (canonical text) with
    | none => simp [ofText, hread] at hf
    | some limit => exact exists_sentence_of_readLimit? hread
  · rintro ⟨shape, hshape⟩
    obtain ⟨limit, _, hok⟩ := ofText_of_sentence hshape
    exact ⟨_, hok⟩
  · intro f hf
    constructor
    · unfold ofText at hf
      split at hf <;> cases hf
      rfl
    · intro shape hshape
      obtain ⟨limit, hlimit, hok⟩ := ofText_of_sentence hshape
      cases hok.symm.trans hf
      exact hlimit
  · intro e he
    unfold ofText at he
    split at he <;> cases he
    rfl

end ExpenseReport.Formula
