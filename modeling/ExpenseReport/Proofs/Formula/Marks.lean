import ExpenseReport.Proofs.Formula.Constant
import ExpenseReport.Proofs.Formula.Writing

/-!
# Marks and the zero in front of them

A sentence has one literal at most, and nothing around it is a mark or continues it. So another
literal of the same value can stand in its place: one with the other mark, or one with a zero in
front of a mark that leads.
-/

namespace ExpenseReport.Formula

open Text

/-- The limit that a text sets, if it is a formula. -/
def limit? (text : String) : Option Limit :=
  (ofText text).toOption.map Formula.limit

theorem limit?_eq (text : String) : limit? text = readLimit? (canonical text) := by
  unfold limit? ofText
  cases readLimit? (canonical text) <;> rfl

/-! ## The surroundings of a literal -/

/-- What makes a constant of a number: nothing, or what stands behind it. -/
structure Suffix (sign : List Char) (constant : Literal → Operand) : Prop where
  not_isMark : ∀ c ∈ sign, ¬ isMark c
  spelled : ∀ {l word}, Literal.Spelled l word → l.InRange → (constant l).Spelled (word ++ sign)
  value?_congr : ∀ {l l' : Literal}, l.value? = l'.value? →
    (constant l).value? = (constant l').value?

theorem suffix_number : Suffix [] .number where
  not_isMark := by simp
  spelled hword hrange := by
    rw [List.append_nil]
    exact .number hword hrange
  value?_congr hvalue := hvalue

theorem suffix_percent : Suffix ['%'] .percent where
  not_isMark := List.any_eq_false.mp (by decide)
  spelled := .percent
  value?_congr hvalue := congrArg (Option.map Decimal.hundredth) hvalue

/-- What stands in front of a number and behind it in a sentence. -/
structure Surrounds (front back : List Char) (form : Literal → Shape) : Prop where
  not_isMark_front : ∀ c ∈ front, ¬ isMark c
  not_isMark_back : ∀ c ∈ back, ¬ isMark c
  not_isDigit_front : ∀ c ∈ front.getLast?, ¬ isDigit c
  sentence : ∀ {l word}, Literal.Spelled l word → l.InRange →
    Sentence (front ++ (word ++ back)) (form l)
  limit?_congr : ∀ {l l' : Literal}, l.value? = l'.value? → (form l).limit? = (form l').limit?

namespace Suffix

variable {sign : List Char} {constant : Literal → Operand}

theorem surrounds_fixed (hsign : Suffix sign constant) :
    Surrounds "AMOUNT<=".toList sign (.fixed ∘ constant) where
  not_isMark_front := List.any_eq_false.mp (by decide)
  not_isMark_back := hsign.not_isMark
  not_isDigit_front := by
    rintro c ⟨⟩
    decide
  sentence hword hrange := .constant (hsign.spelled hword hrange)
  limit?_congr hvalue := congrArg (Option.map Limit.fixed) (hsign.value?_congr hvalue)

theorem surrounds_salaryTimes (hsign : Suffix sign constant) :
    Surrounds "AMOUNT<=SALARY*".toList sign (.salaryTimes ∘ constant) where
  not_isMark_front := List.any_eq_false.mp (by decide)
  not_isMark_back := hsign.not_isMark
  not_isDigit_front := by
    rintro c ⟨⟩
    decide
  sentence hword hrange := .salaryTimes (hsign.spelled hword hrange)
  limit?_congr hvalue := congrArg (Option.map Limit.salaryTimes) (hsign.value?_congr hvalue)

theorem surrounds_timesSalary (hsign : Suffix sign constant) :
    Surrounds "AMOUNT<=".toList (sign ++ "*SALARY".toList) (.salaryTimes ∘ constant) where
  not_isMark_front := List.any_eq_false.mp (by decide)
  not_isMark_back := by
    rw [List.forall_mem_append]
    exact ⟨hsign.not_isMark, List.any_eq_false.mp (by decide)⟩
  not_isDigit_front := by
    rintro c ⟨⟩
    decide
  sentence hword hrange := by
    rw [← List.append_assoc _ sign]
    exact .timesSalary (hsign.spelled hword hrange)
  limit?_congr hvalue := congrArg (Option.map Limit.salaryTimes) (hsign.value?_congr hvalue)

end Suffix

/-- A sentence with a number at some place. -/
inductive HasNumber : List Char → Shape → Prop
  | mk {front back word : List Char} {form : Literal → Shape} {l : Literal}
      (haround : Surrounds front back form) (hword : l.Spelled word) (hrange : l.InRange) :
      HasNumber (front ++ (word ++ back)) (form l)

theorem Operand.Spelled.exists_suffix {o : Operand} {cs : List Char} (hcs : o.Spelled cs) :
    ∃ sign constant l word, Suffix sign constant ∧ Literal.Spelled l word ∧ l.InRange ∧
      cs = word ++ sign ∧ o = constant l := by
  cases hcs with
  | number hword hrange =>
      exact ⟨[], .number, _, _, suffix_number, hword, hrange, (List.append_nil _).symm, rfl⟩
  | percent hword hrange => exact ⟨['%'], .percent, _, _, suffix_percent, hword, hrange, rfl, rfl⟩

theorem Sentence.eq_salary_or_hasNumber {cs : List Char} {shape : Shape}
    (hcs : Sentence cs shape) : cs = "AMOUNT<=SALARY".toList ∨ HasNumber cs shape := by
  cases hcs with
  | salary => exact Or.inl rfl
  | constant hword =>
      obtain ⟨sign, constant, l, word, hsign, hnumber, hrange, rfl, rfl⟩ := hword.exists_suffix
      exact Or.inr (.mk hsign.surrounds_fixed hnumber hrange)
  | salaryTimes hword =>
      obtain ⟨sign, constant, l, word, hsign, hnumber, hrange, rfl, rfl⟩ := hword.exists_suffix
      exact Or.inr (.mk hsign.surrounds_salaryTimes hnumber hrange)
  | timesSalary hword =>
      obtain ⟨sign, constant, l, word, hsign, hnumber, hrange, rfl, rfl⟩ := hword.exists_suffix
      rw [List.append_assoc word]
      exact Or.inr (.mk hsign.surrounds_timesSalary hnumber hrange)

/-- A number of the same value can stand in the place of a number. -/
theorem Surrounds.exists_sentence {front back word : List Char} {form : Literal → Shape}
    {l l' : Literal} (haround : Surrounds front back form) (hrange : l.value?.isSome)
    (hword : l'.Spelled word) (hvalue : l'.value? = l.value?) :
    ∃ shape, Sentence (front ++ (word ++ back)) shape ∧ shape.limit? = (form l).limit? := by
  rw [← hvalue, hword.value?_isSome_iff] at hrange
  exact ⟨form l', haround.sentence hword hrange, haround.limit?_congr hvalue⟩

/-- Texts are read alike when each is a sentence as soon as the other is one with the same limit. -/
theorem readLimit?_eq_some_of_sentences {cs ds : List Char} {limit : Limit}
    (hds : ∀ shape, Sentence cs shape → ∃ shape', Sentence ds shape' ∧
      shape'.limit? = shape.limit?)
    (hread : readLimit? cs = some limit) : readLimit? ds = some limit := by
  obtain ⟨shape, hshape⟩ := exists_sentence_of_readLimit? hread
  obtain ⟨shape', hshape', hsame⟩ := hds shape hshape
  obtain ⟨_, hlimit, hread'⟩ := hshape.exists_readLimit?
  obtain ⟨_, hlimit', hresult⟩ := hshape'.exists_readLimit?
  rw [hsame, hlimit, ← hread', hread] at hlimit'
  rw [hresult, ← hlimit']

theorem readLimit?_congr {cs ds : List Char}
    (hds : ∀ shape, Sentence cs shape → ∃ shape', Sentence ds shape' ∧
      shape'.limit? = shape.limit?)
    (hcs : ∀ shape, Sentence ds shape → ∃ shape', Sentence cs shape' ∧
      shape'.limit? = shape.limit?) : readLimit? cs = readLimit? ds := by
  apply Option.ext
  intro limit
  exact ⟨readLimit?_eq_some_of_sentences hds, readLimit?_eq_some_of_sentences hcs⟩

/-! ## The other mark -/

/-- A character with a point for a comma. -/
def pointed (c : Char) : Char :=
  if c = ',' then '.' else c

/-- A text with points for all its commas. -/
def withPoints (text : String) : String :=
  String.ofList (text.toList.map pointed)

theorem pointed_eq_self {c : Char} (hc : ¬ isMark c) : pointed c = c := by
  apply if_neg
  rintro rfl
  exact hc rfl

theorem isMark_of_pointed_eq {c d : Char} (hd : isMark d) (hcd : pointed c = pointed d) :
    isMark c := by
  have hpoint : pointed d = '.' := by
    simp only [isMark, Bool.or_eq_true, decide_eq_true_eq] at hd
    rcases hd with rfl | rfl <;> rfl
  by_contra hc
  rw [hpoint, pointed_eq_self hc] at hcd
  exact hc (hcd ▸ rfl)

/-- Without marks there is nothing to replace, on either side. -/
theorem eq_of_map_pointed_eq {cs ds : List Char} (hcs : ∀ c ∈ cs, ¬ isMark c)
    (hds : ds.map pointed = cs.map pointed) : ds = cs := by
  induction cs generalizing ds with
  | nil => exact List.map_eq_nil_iff.mp hds
  | cons c cs ih =>
      obtain ⟨hc, hcs⟩ := List.forall_mem_cons.mp hcs
      obtain ⟨d, rest, rfl, hd, hrest⟩ := List.map_eq_cons_iff.mp hds
      have hdmark : ¬ isMark d := fun hmark => hc (isMark_of_pointed_eq hmark hd.symm)
      rw [pointed_eq_self hdmark, pointed_eq_self hc] at hd
      rw [hd, ih hcs hrest]

theorem IsRun.not_isMark {cs : List Char} (hcs : IsRun cs) : ∀ c ∈ cs, ¬ isMark c :=
  fun c hc hmark => not_isDigit_of_isMark hmark (hcs.2 c hc)

/-- A number stays the same number with another mark. -/
theorem Literal.Spelled.of_map_pointed_eq {l : Literal} {word other : List Char}
    (hword : l.Spelled word) (hother : other.map pointed = word.map pointed) :
    l.Spelled other := by
  cases hword with
  | whole hwhole =>
      rw [eq_of_map_pointed_eq hwhole.not_isMark hother]
      exact .whole hwhole
  | marked hwhole hmark hfraction =>
      rw [List.map_append, List.map_eq_append_iff] at hother
      obtain ⟨front, back, rfl, hfront, hback⟩ := hother
      obtain ⟨mark', rest, rfl, hmark', hrest⟩ := List.map_eq_cons_iff.mp hback
      rw [eq_of_map_pointed_eq hwhole.not_isMark hfront,
        eq_of_map_pointed_eq hfraction.not_isMark hrest]
      exact .marked hwhole (isMark_of_pointed_eq hmark hmark') hfraction
  | leading hmark hfraction =>
      obtain ⟨mark', rest, rfl, hmark', hrest⟩ := List.map_eq_cons_iff.mp hother
      rw [eq_of_map_pointed_eq hfraction.not_isMark hrest]
      exact .leading (isMark_of_pointed_eq hmark hmark') hfraction

theorem Sentence.of_map_pointed_eq {cs ds : List Char} {shape : Shape} (hcs : Sentence cs shape)
    (hds : ds.map pointed = cs.map pointed) : Sentence ds shape := by
  rcases hcs.eq_salary_or_hasNumber with rfl | hnumber
  · rw [eq_of_map_pointed_eq (List.any_eq_false.mp (by decide)) hds]
    exact hcs
  · cases hnumber with
    | mk haround hword hrange =>
        rw [List.map_append, List.map_append, List.map_eq_append_iff] at hds
        obtain ⟨front, rest, rfl, hfront, hrest⟩ := hds
        obtain ⟨word, back, rfl, hother, hback⟩ := List.map_eq_append_iff.mp hrest
        rw [eq_of_map_pointed_eq haround.not_isMark_front hfront,
          eq_of_map_pointed_eq haround.not_isMark_back hback]
        exact haround.sentence (hword.of_map_pointed_eq hother) hrange

theorem readLimit?_of_map_pointed_eq {cs ds : List Char}
    (hds : ds.map pointed = cs.map pointed) : readLimit? ds = readLimit? cs :=
  readLimit?_congr (fun shape hshape => ⟨shape, hshape.of_map_pointed_eq hds.symm, rfl⟩)
    (fun shape hshape => ⟨shape, hshape.of_map_pointed_eq hds, rfl⟩)

/-- Commas can be replaced before or after blanks and small letters. -/
theorem map_pointed_canonical_withPoints (text : String) :
    (canonical (withPoints text)).map pointed = (canonical text).map pointed := by
  have happend (cs ds : List Char) : uppercase (withoutBlanks (cs ++ ds)) =
      uppercase (withoutBlanks cs) ++ uppercase (withoutBlanks ds) := by
    simp [uppercase, withoutBlanks]
  rw [canonical, canonical, withPoints, String.toList_ofList]
  induction text.toList with
  | nil => rfl
  | cons c rest ih =>
      have hhead : (uppercase (withoutBlanks [pointed c])).map pointed =
          (uppercase (withoutBlanks [c])).map pointed := by
        by_cases hc : isMark c
        · simp only [isMark, Bool.or_eq_true, decide_eq_true_eq] at hc
          rcases hc with rfl | rfl <;> decide
        · rw [pointed_eq_self hc]
      have hfirst := happend [pointed c] (rest.map pointed)
      have hsecond := happend [c] rest
      rw [List.singleton_append] at hfirst hsecond
      rw [List.map_cons, hfirst, hsecond, List.map_append, List.map_append, hhead, ih]

/-! ## The zero in front -/

/-- A text has no two places where the same single mark stands. -/
theorem eq_of_append_mark {front back front' back' : List Char} {mark mark' : Char}
    (hsplit : front ++ mark :: back = front' ++ mark' :: back') (hmark : isMark mark)
    (hfront : ∀ c ∈ front', ¬ isMark c) (hback : ∀ c ∈ back', ¬ isMark c) :
    front = front' ∧ mark = mark' ∧ back = back' := by
  have hnotFront : mark ∉ front' := fun hmem => hfront mark hmem hmark
  have hnotBack : mark ∉ back' := fun hmem => hback mark hmem hmark
  obtain ⟨hsame, hmarks, hrest⟩ :=
    (List.append_cons_inj_of_notMem hnotFront hnotBack).mp hsplit.symm
  exact ⟨hsame.symm, hmarks.symm, hrest.symm⟩

/-- A mark in a sentence belongs to its number, which has digits behind it. -/
theorem HasNumber.exists_of_mark {cs before after : List Char} {shape : Shape} {mark : Char}
    (hcs : HasNumber cs shape) (heq : before ++ mark :: after = cs) (hmark : isMark mark) :
    ∃ front back form whole fraction, Surrounds front back form ∧ before = front ++ whole ∧
      after = fraction ++ back ∧ (∀ c ∈ whole, isDigit c) ∧ IsRun fraction ∧
      (Literal.value? ⟨whole, fraction⟩).isSome ∧ shape = form ⟨whole, fraction⟩ := by
  cases hcs with
  | @mk front back word form l haround hword hrange =>
      have hvalue := hword.value?_isSome_iff.mpr hrange
      have hfront := haround.not_isMark_front
      have hback := haround.not_isMark_back
      cases hword with
      | whole hwhole =>
          have hnone : ∀ c ∈ front ++ (word ++ back), ¬ isMark c := by
            simp only [List.forall_mem_append]
            exact ⟨hfront, hwhole.not_isMark, hback⟩
          exact absurd hmark (hnone mark (by simp [← heq]))
      | @marked whole fraction mark' hwhole hmark' hfraction =>
          rw [List.append_assoc, List.cons_append, ← List.append_assoc] at heq
          obtain ⟨rfl, _, rfl⟩ := eq_of_append_mark heq hmark
            (List.forall_mem_append.mpr ⟨hfront, hwhole.not_isMark⟩)
            (List.forall_mem_append.mpr ⟨hfraction.not_isMark, hback⟩)
          exact ⟨front, back, form, whole, fraction, haround, rfl, rfl, hwhole.2, hfraction, hvalue,
            rfl⟩
      | @leading fraction mark' hmark' hfraction =>
          obtain ⟨rfl, _, rfl⟩ := eq_of_append_mark heq hmark hfront
            (List.forall_mem_append.mpr ⟨hfraction.not_isMark, hback⟩)
          exact ⟨before, back, form, [], fraction, haround, (List.append_nil _).symm, rfl, by simp,
            hfraction, hvalue, rfl⟩

theorem Sentence.hasNumber_of_mark {cs before after : List Char} {shape : Shape} {mark : Char}
    (hcs : Sentence cs shape) (heq : before ++ mark :: after = cs) (hmark : isMark mark) :
    HasNumber cs shape := by
  rcases hcs.eq_salary_or_hasNumber with rfl | hnumber
  · have hnone : ∀ c ∈ "AMOUNT<=SALARY".toList, ¬ isMark c := List.any_eq_false.mp (by decide)
    exact absurd hmark (hnone mark (by simp [← heq]))
  · exact hnumber

/-- No digits stand at the end of what does not end in one. -/
theorem eq_nil_of_getLast? {front digits : List Char}
    (hlast : ∀ c ∈ (front ++ digits).getLast?, ¬ isDigit c) (hdigits : ∀ c ∈ digits, isDigit c) :
    digits = [] := by
  induction digits using List.reverseRecOn with
  | nil => rfl
  | append_singleton rest c =>
      rw [← List.append_assoc, List.getLast?_concat] at hlast
      exact absurd (hdigits c (by simp)) (hlast c rfl)

theorem Literal.value?_zero_whole {fraction : List Char} (hfraction : fraction ≠ []) :
    Literal.value? ⟨['0'], fraction⟩ = Literal.value? ⟨[], fraction⟩ := by
  simp [Literal.value?, Literal.plain, hfraction]

variable {before after : List Char} {mark : Char}

/-- A zero can be put in front of a mark that leads. -/
theorem Sentence.exists_with_zero {shape : Shape} (hcs : Sentence (before ++ mark :: after) shape)
    (hmark : isMark mark) (hlast : ∀ c ∈ before.getLast?, ¬ isDigit c) :
    ∃ shape', Sentence (before ++ '0' :: mark :: after) shape' ∧ shape'.limit? = shape.limit? := by
  obtain ⟨front, back, form, whole, fraction, haround, rfl, rfl, hwhole, hfraction, hvalue, rfl⟩ :=
    (hcs.hasNumber_of_mark rfl hmark).exists_of_mark rfl hmark
  obtain rfl := eq_nil_of_getLast? hlast hwhole
  rw [List.append_nil]
  exact haround.exists_sentence hvalue (.marked isRun_zero hmark hfraction)
    (Literal.value?_zero_whole hfraction.1)

/-- A zero that stands alone in front of a mark can be left out. -/
theorem Sentence.exists_without_zero {shape : Shape}
    (hcs : Sentence (before ++ '0' :: mark :: after) shape) (hmark : isMark mark)
    (hlast : ∀ c ∈ before.getLast?, ¬ isDigit c) :
    ∃ shape', Sentence (before ++ mark :: after) shape' ∧ shape'.limit? = shape.limit? := by
  have hsplit : (before ++ ['0']) ++ mark :: after = before ++ '0' :: mark :: after := by simp
  obtain ⟨front, back, form, whole, fraction, haround, hbefore, rfl, hwhole, hfraction, hvalue,
    rfl⟩ := (hcs.hasNumber_of_mark hsplit hmark).exists_of_mark hsplit hmark
  induction whole using List.reverseRecOn with
  | nil =>
      -- What surrounds a number does not end in a digit.
      have hzero := haround.not_isDigit_front '0'
      rw [List.append_nil] at hbefore
      rw [← hbefore, List.getLast?_concat] at hzero
      exact absurd (by decide) (hzero rfl)
  | append_singleton digits c =>
      rw [← List.append_assoc] at hbefore
      obtain ⟨rfl, hc⟩ := List.append_inj' hbefore rfl
      obtain rfl := eq_nil_of_getLast? hlast fun d hd => hwhole d (by simp [hd])
      cases hc
      rw [List.append_nil]
      exact haround.exists_sentence hvalue (.leading hmark hfraction)
        (Literal.value?_zero_whole hfraction.1).symm

theorem readLimit?_zero_mark (hmark : isMark mark) (hlast : ∀ c ∈ before.getLast?, ¬ isDigit c) :
    readLimit? (before ++ '0' :: mark :: after) = readLimit? (before ++ mark :: after) :=
  readLimit?_congr (fun _ hcs => hcs.exists_without_zero hmark hlast)
    (fun _ hcs => hcs.exists_with_zero hmark hlast)

/-! ## Constants -/

theorem canonical_mark (hmark : isMark mark) : canonical (String.ofList [mark]) = [mark] := by
  apply canonical_ofList
  rw [List.forall_mem_singleton]
  simp only [isMark, Bool.or_eq_true, decide_eq_true_eq] at hmark
  rcases hmark with rfl | rfl <;> exact ⟨by decide, by decide⟩

theorem limit?_withPoints (text : String) : limit? (withPoints text) = limit? text := by
  rw [limit?_eq, limit?_eq]
  exact readLimit?_of_map_pointed_eq (map_pointed_canonical_withPoints text)

/-- The constant of a formula is the number that is written, rounded off if it is too long. It does
not matter which mark is written, or whether a zero stands in front of a mark that leads. -/
theorem constants_are_read_as_written :
    (∀ text f, ofText text = .ok f →
      (∃ shape, Sentence (canonical text) shape) ∧
        ∀ shape, Sentence (canonical text) shape → shape.Denotes f.limit) ∧
      (∀ text, limit? (withPoints text) = limit? text) ∧
      ∀ before after mark, isMark mark → (∀ c ∈ (canonical before).getLast?, ¬ isDigit c) →
        limit? (before ++ "0" ++ String.ofList [mark] ++ after) =
          limit? (before ++ String.ofList [mark] ++ after) := by
  refine ⟨?_, limit?_withPoints, ?_⟩
  · intro text f hf
    exact ⟨exists_sentence_of_ofText hf, fun shape hshape => hshape.denotes_of_ofText hf⟩
  · intro before after mark hmark hlast
    have hzero : canonical "0" = ['0'] := by decide +kernel
    have hsame := @readLimit?_zero_mark (canonical before) (canonical after) mark hmark hlast
    simpa only [limit?_eq, canonical_append, hzero, canonical_mark hmark, List.append_assoc,
      List.cons_append, List.nil_append] using hsame

/-- Rounding at the greatest scale makes this number too large, so it loses a digit, and too many
are left to take a hundredth of it without rounding again. -/
theorem constants_are_read_as_written_past_greatest :
    let text := "AMOUNT <= 7,92281625142643375935439503355%"
    let literal : Literal := ⟨"7".toList, "92281625142643375935439503355".toList⟩
    let limit : Limit := .fixed ⟨false, 792281625142643375935439503, 28, by decide, by decide⟩
    (ofText text = .ok ⟨text, limit⟩ ∧ Sentence (canonical text) (.fixed (.percent literal)) ∧
        (Shape.fixed (.percent literal)).Denotes limit) ∧
      limit? (withPoints text) = limit? text ∧
      (isMark ',' ∧ ∀ c ∈ (canonical "AMOUNT <= ").getLast?, ¬ isDigit c) ∧
        limit? "AMOUNT <= 0,5" = limit? "AMOUNT <= ,5" := by
  intro text literal limit
  have hok : ofText text = .ok ⟨text, limit⟩ := by decide +kernel
  have hcanonical : canonical text =
      "AMOUNT<=".toList ++ (literal.whole ++ ',' :: literal.fraction ++ ['%']) := by
    decide +kernel
  have hsentence : Sentence (canonical text) (.fixed (.percent literal)) := by
    rw [hcanonical]
    refine .constant (.percent (.marked ?_ rfl ?_) ?_)
    · exact ⟨by decide, List.all_eq_true.mp (by decide)⟩
    · exact ⟨by decide, List.all_eq_true.mp (by decide)⟩
    · exact ⟨7, rfl, by decide, by decide⟩
  have hlast : ∀ c ∈ (canonical "AMOUNT <= ").getLast?, ¬ isDigit c := by
    have hopening : canonical "AMOUNT <= " = "AMOUNT<=".toList := by decide +kernel
    rw [hopening]
    exact suffix_number.surrounds_fixed.not_isDigit_front
  obtain ⟨hdenotes, hpoints, hzero⟩ := constants_are_read_as_written
  refine ⟨⟨hok, hsentence, (hdenotes text _ hok).2 _ hsentence⟩, hpoints text, ⟨rfl, hlast⟩, ?_⟩
  exact hzero "AMOUNT <= " "5" ',' rfl hlast

end ExpenseReport.Formula
