import ExpenseReport.Proofs.Json.Scalar

/-!
# Values of JSON written and read

A value is read from its own text in every layout: the blanks of a layout stand only where they mean
nothing. Reading a part of a value takes no more steps than the part has characters, so there is
always fuel enough.
-/

namespace ExpenseReport.Json

variable {layout : Layout} {depth fuel : Nat} {rest : List Char}

/-- A value in which every string and name denotes a text and every number has a literal. -/
inductive Value.IsWritable : Value → Prop where
  | null : IsWritable .null
  | bool (b : Bool) : IsWritable (.bool b)
  | number {literal : List Char} (hliteral : IsLiteral literal) : IsWritable (.number literal)
  | string (text : String) : IsWritable (.string (some text))
  | array {items : List Value} (hitems : ∀ item ∈ items, IsWritable item) :
      IsWritable (.array items)
  | object {members : List (Option String × Value)} (hnames : ∀ member ∈ members, member.1.isSome)
      (hvalues : ∀ member ∈ members, IsWritable member.2) : IsWritable (.object members)

/-- However deep it stands and whatever comes behind it, a value is read from its own text. -/
def Value.ReadsBack (layout : Layout) (value : Value) : Prop :=
  ∀ {depth fuel : Nat} {rest : List Char}, (value.layOut layout depth).length ≤ fuel →
    EndsNumber rest → readValue? (fuel + 1) (value.layOut layout depth ++ rest) = some (value, rest)

/-! ## Blanks -/

theorem skipSpace_cons {c : Char} (hc : isSpace c = false) (rest : List Char) :
    skipSpace (c :: rest) = c :: rest :=
  List.dropWhile_cons_of_neg (by simp [hc])

theorem readValue?_append {blanks : List Char} (hblanks : ∀ c ∈ blanks, isSpace c)
    (fuel : Nat) (cs : List Char) : readValue? fuel (blanks ++ cs) = readValue? fuel cs := by
  cases fuel with
  | zero => rfl
  | succ fuel => rw [readValue?, readValue?, skipSpace_append hblanks]

theorem readItems?_append {blanks : List Char} (hblanks : ∀ c ∈ blanks, isSpace c)
    (fuel : Nat) (cs : List Char) : readItems? fuel (blanks ++ cs) = readItems? fuel cs := by
  cases fuel with
  | zero => rfl
  | succ fuel => rw [readItems?, readItems?, readValue?_append hblanks]

theorem readMembers?_append {blanks : List Char} (hblanks : ∀ c ∈ blanks, isSpace c)
    (fuel : Nat) (cs : List Char) : readMembers? fuel (blanks ++ cs) = readMembers? fuel cs := by
  cases fuel with
  | zero => rfl
  | succ fuel => rw [readMembers?, readMembers?, skipSpace_append hblanks]

theorem EndsNumber.append {blanks : List Char} (hblanks : ∀ c ∈ blanks, isSpace c)
    (hrest : EndsNumber rest) : EndsNumber (blanks ++ rest) := by
  cases blanks with
  | nil => exact hrest
  | cons c blanks =>
      have hc : isSpace c := hblanks c List.mem_cons_self
      simp only [isSpace, Bool.or_eq_true, decide_eq_true_eq] at hc
      rintro _ ⟨⟩
      rcases hc with ((rfl | rfl) | rfl) | rfl <;> decide

theorem endsNumber_cons {c : Char} (hc : c = ',' ∨ c = ']' ∨ c = '}') (rest : List Char) :
    EndsNumber (c :: rest) := by
  rintro _ ⟨⟩
  rcases hc with rfl | rfl | rfl <;> decide

/-! ## Arrays -/

theorem readItems?_last {cs blanks : List Char} {item : Value} (hblanks : ∀ c ∈ blanks, isSpace c)
    (hitem : readValue? fuel cs = some (item, blanks ++ ']' :: rest)) :
    readItems? (fuel + 1) cs = some ([item], rest) := by
  rw [readItems?, hitem]
  simp [skipSpace_append hblanks, skipSpace_cons, isSpace]

theorem readItems?_next {cs tail : List Char} {item : Value} {items : List Value}
    (hitem : readValue? fuel cs = some (item, ',' :: tail))
    (hitems : readItems? fuel tail = some (items, rest)) :
    readItems? (fuel + 1) cs = some (item :: items, rest) := by
  rw [readItems?, hitem]
  simp [skipSpace_cons, isSpace, hitems]

/-- The items of an array are read one after the other, as long as there are commas. -/
theorem readItems?_layOutItems {item : Value} {items : List Value} {blanks : List Char}
    (hitems : ∀ other ∈ item :: items, other.ReadsBack layout) (hblanks : ∀ c ∈ blanks, isSpace c)
    (hfuel : (item.layOut layout depth).length + (layOutItems layout depth items).length ≤ fuel) :
    readItems? (fuel + 2) (item.layOut layout depth ++ (layOutItems layout depth items
      ++ (blanks ++ ']' :: rest))) = some (item :: items, rest) := by
  induction items generalizing item fuel with
  | nil =>
      rw [layOutItems, List.nil_append]
      apply readItems?_last hblanks
      apply hitems item List.mem_cons_self
      · exact Nat.le_trans (Nat.le_add_right _ _) hfuel
      · exact .append hblanks (endsNumber_cons (by simp) rest)
  | cons next items ih =>
      obtain ⟨hitem, hothers⟩ := List.forall_mem_cons.mp hitems
      simp only [layOutItems, List.length_append, List.length_cons] at hfuel
      obtain ⟨fuel, rfl⟩ : ∃ more, fuel = more + 1 := ⟨fuel - 1, by omega⟩
      simp only [layOutItems, List.cons_append, List.append_assoc]
      apply readItems?_next
      · apply hitem
        · omega
        · exact endsNumber_cons (by simp) _
      · rw [readItems?_append (layout.isSpace_of_mem_lineBreak depth)]
        exact ih hothers (by omega)

/-! ## Objects -/

theorem layOutMember_append (name : String) (value : Value) (tail : List Char) :
    layOutMember layout depth (some name, value) ++ tail =
      quote name ++ ':' :: (layout.afterColon ++ (value.layOut layout depth ++ tail)) := by
  simp [layOutMember, quote?]

theorem readMembers?_last {tail blanks : List Char} {name : String} {value : Value}
    (hblanks : ∀ c ∈ blanks, isSpace c)
    (hvalue : readValue? fuel tail = some (value, blanks ++ '}' :: rest)) :
    readMembers? (fuel + 1) (quote name ++ ':' :: tail) = some ([(some name, value)], rest) := by
  rw [readMembers?, quote_append, skipSpace_cons rfl]
  simp [readString?_flatMap_escape, skipSpace_cons, isSpace, hvalue, skipSpace_append hblanks]

theorem readMembers?_next {tail next : List Char} {name : String} {value : Value}
    {members : List (Option String × Value)}
    (hvalue : readValue? fuel tail = some (value, ',' :: next))
    (hmembers : readMembers? fuel next = some (members, rest)) :
    readMembers? (fuel + 1) (quote name ++ ':' :: tail) =
      some ((some name, value) :: members, rest) := by
  rw [readMembers?, quote_append, skipSpace_cons rfl]
  simp [readString?_flatMap_escape, skipSpace_cons, isSpace, hvalue, hmembers]

/-- The members of an object are read one after the other, as long as there are commas. -/
theorem readMembers?_layOutMembers {name : String} {value : Value}
    {members : List (Option String × Value)} {blanks : List Char}
    (hnames : ∀ member ∈ members, member.1.isSome) (hvalue : value.ReadsBack layout)
    (hvalues : ∀ member ∈ members, member.2.ReadsBack layout) (hblanks : ∀ c ∈ blanks, isSpace c)
    (hfuel : (layOutMember layout depth (some name, value)).length
      + (layOutMembers layout depth members).length ≤ fuel) :
    readMembers? (fuel + 2) (layOutMember layout depth (some name, value)
      ++ (layOutMembers layout depth members ++ (blanks ++ '}' :: rest))) =
        some ((some name, value) :: members, rest) := by
  induction members generalizing name value fuel with
  | nil =>
      simp only [layOutMember, List.length_append, List.length_cons] at hfuel
      rw [layOutMember_append, layOutMembers, List.nil_append]
      apply readMembers?_last hblanks
      rw [readValue?_append layout.isSpace_of_mem_afterColon]
      apply hvalue
      · omega
      · exact .append hblanks (endsNumber_cons (by simp) rest)
  | cons next members ih =>
      obtain ⟨hnext, hothers⟩ := List.forall_mem_cons.mp hvalues
      obtain ⟨hname, hothersNames⟩ := List.forall_mem_cons.mp hnames
      rcases next with ⟨_ | nextName, nextValue⟩
      · cases hname
      · simp only [layOutMembers, List.length_append, List.length_cons] at hfuel
        obtain ⟨fuel, rfl⟩ : ∃ more, fuel = more + 1 := ⟨fuel - 1, by omega⟩
        rw [layOutMember_append]
        simp only [layOutMembers, List.cons_append, List.append_assoc]
        apply readMembers?_next
        · rw [readValue?_append layout.isSpace_of_mem_afterColon]
          apply hvalue
          · simp only [layOutMember, List.length_append, List.length_cons] at hfuel
            omega
          · exact endsNumber_cons (by simp) _
        · rw [readMembers?_append (layout.isSpace_of_mem_lineBreak depth)]
          exact ih hothersNames hnext hothers (by omega)

/-! ## Values -/

/-- The first character of a number starts nothing else. -/
theorem IsLiteral.exists_cons {literal : List Char} (hliteral : IsLiteral literal) :
    ∃ c tail, literal = c :: tail ∧ isSpace c = false ∧
      c ∉ ['"', '[', ']', '{', 'n', 't', 'f'] := by
  have hdigit : ∀ c, Text.isDigit c →
      isSpace c = false ∧ c ∉ ['"', '[', ']', '{', 'n', 't', 'f'] := by
    intro c hc
    obtain ⟨d, hd, rfl⟩ := Text.exists_digitChar_eq hc
    revert d
    decide
  cases hliteral with
  | positive hcs =>
      obtain ⟨c, tail, rfl, hc⟩ := hcs.exists_cons
      exact ⟨c, tail, rfl, hdigit c hc⟩
  | negative => exact ⟨'-', _, rfl, by decide⟩

/-- The first character of a value is no blank and closes nothing. -/
theorem Value.IsWritable.exists_cons {value : Value} (hvalue : value.IsWritable) (layout : Layout)
    (depth : Nat) :
    ∃ c tail, value.layOut layout depth = c :: tail ∧ isSpace c = false ∧ c ≠ ']' := by
  cases hvalue with
  | null => exact ⟨'n', _, rfl, by decide⟩
  | bool b =>
      cases b with
      | true => exact ⟨'t', _, rfl, by decide⟩
      | false => exact ⟨'f', _, rfl, by decide⟩
  | number hliteral =>
      obtain ⟨c, tail, rfl, hspace, hc⟩ := hliteral.exists_cons
      refine ⟨c, tail, rfl, hspace, ?_⟩
      rintro rfl
      simp at hc
  | string text => exact ⟨'"', _, rfl, by decide⟩
  | @array items =>
      cases items with
      | nil => exact ⟨'[', _, rfl, by decide⟩
      | cons item items => exact ⟨'[', _, rfl, by decide⟩
  | @object members =>
      cases members with
      | nil => exact ⟨'{', _, rfl, by decide⟩
      | cons member members => exact ⟨'{', _, rfl, by decide⟩

theorem readValue?_number {literal : List Char} (hliteral : IsLiteral literal)
    (hrest : EndsNumber rest) :
    readValue? (fuel + 1) (literal ++ rest) = some (.number literal, rest) := by
  have hnumber := readNumber?_append hliteral hrest
  obtain ⟨c, tail, rfl, hspace, hc⟩ := hliteral.exists_cons
  simp only [List.mem_cons, List.not_mem_nil, or_false, not_or] at hc
  obtain ⟨hquote, hbracket, _, hbrace, hn, ht, hf⟩ := hc
  rw [List.cons_append] at hnumber ⊢
  rw [readValue?, skipSpace_cons hspace]
  split <;> simp_all

theorem readValue?_string (text : String) :
    readValue? (fuel + 1) (quote text ++ rest) = some (.string (some text), rest) := by
  rw [readValue?, quote_append, skipSpace_cons rfl]
  simp [readString?_flatMap_escape]

theorem dropWord?_append (word : String) (rest : List Char) :
    dropWord? word (word.toList ++ rest) = some rest := by
  simp [dropWord?, ← String.length_toList]

theorem readValue?_items {cs : List Char} {c : Char} {items : List Value}
    (hcs : ∃ tail, skipSpace cs = c :: tail) (hc : c ≠ ']')
    (hitems : readItems? fuel cs = some (items, rest)) :
    readValue? (fuel + 1) ('[' :: cs) = some (.array items, rest) := by
  obtain ⟨tail, hcs⟩ := hcs
  rw [readValue?, skipSpace_cons rfl]
  simp [hcs, hc, hitems]

theorem readValue?_members {cs : List Char} {c : Char} {members : List (Option String × Value)}
    (hcs : ∃ tail, skipSpace cs = c :: tail) (hc : c ≠ '}')
    (hmembers : readMembers? fuel cs = some (members, rest)) :
    readValue? (fuel + 1) ('{' :: cs) = some (.object members, rest) := by
  obtain ⟨tail, hcs⟩ := hcs
  rw [readValue?, skipSpace_cons rfl]
  simp [hcs, hc, hmembers]

theorem Value.IsWritable.readsBack {value : Value} (hvalue : value.IsWritable) :
    value.ReadsBack layout := by
  induction hvalue with
  | null =>
      intro depth fuel rest _ _
      have hword : dropWord? "ull" ('u' :: 'l' :: 'l' :: rest) = some rest :=
        dropWord?_append "ull" rest
      simp [layOut, readValue?, skipSpace_cons, isSpace, hword]
  | bool b =>
      intro depth fuel rest _ _
      cases b with
      | true =>
          have hword : dropWord? "rue" ('r' :: 'u' :: 'e' :: rest) = some rest :=
            dropWord?_append "rue" rest
          simp [layOut, readValue?, skipSpace_cons, isSpace, hword]
      | false =>
          have hword : dropWord? "alse" ('a' :: 'l' :: 's' :: 'e' :: rest) = some rest :=
            dropWord?_append "alse" rest
          simp [layOut, readValue?, skipSpace_cons, isSpace, hword]
  | number hliteral =>
      intro depth fuel rest _ hrest
      exact readValue?_number hliteral hrest
  | string text =>
      intro depth fuel rest _ _
      exact readValue?_string text
  | @array items hitems ih =>
      intro depth fuel rest hfuel _
      cases items with
      | nil => simp [layOut, readValue?, skipSpace_cons, isSpace]
      | cons item items =>
          have hbreak := layout.isSpace_of_mem_lineBreak (depth + 1)
          obtain ⟨c, tail, hhead, hspace, hc⟩ :=
            (hitems item List.mem_cons_self).exists_cons layout (depth + 1)
          simp only [layOut, List.cons_append, List.append_assoc, List.length_cons,
            List.length_append, List.nil_append] at hfuel ⊢
          obtain ⟨fuel, rfl⟩ : ∃ more, fuel = more + 2 := ⟨fuel - 2, by omega⟩
          apply readValue?_items _ hc
          · rw [readItems?_append hbreak]
            exact readItems?_layOutItems ih (layout.isSpace_of_mem_lineBreak depth) (by omega)
          · rw [skipSpace_append hbreak, hhead]
            exact ⟨_, skipSpace_cons hspace _⟩
  | @object members hnames _ ih =>
      intro depth fuel rest hfuel _
      rcases members with _ | ⟨⟨_ | name, value⟩, members⟩
      · simp [layOut, readValue?, skipSpace_cons, isSpace]
      · cases hnames _ List.mem_cons_self
      · have hbreak := layout.isSpace_of_mem_lineBreak (depth + 1)
        obtain ⟨hvalue, hvalues⟩ := List.forall_mem_cons.mp ih
        obtain ⟨_, hothers⟩ := List.forall_mem_cons.mp hnames
        simp only [layOut, List.cons_append, List.append_assoc, List.length_cons,
          List.length_append, List.nil_append] at hfuel ⊢
        obtain ⟨fuel, rfl⟩ : ∃ more, fuel = more + 2 := ⟨fuel - 2, by omega⟩
        apply readValue?_members _ (by decide : '"' ≠ '}')
        · rw [readMembers?_append hbreak]
          exact readMembers?_layOutMembers hothers hvalue hvalues
            (layout.isSpace_of_mem_lineBreak depth) (by omega)
        · rw [skipSpace_append hbreak, layOutMember_append, quote_append]
          exact ⟨_, skipSpace_cons rfl _⟩

/-- A value is read from its own text, whatever the layout. -/
theorem ofText?_toText {value : Value} (hvalue : value.IsWritable) (layout : Layout) :
    ofText? (value.toText layout) = some value := by
  have hback : value.ReadsBack layout := hvalue.readsBack
  have hread : readValue? (2 * (value.layOut layout 0).length + 1) (value.layOut layout 0 ++ []) =
      some (value, []) :=
    hback (by omega) (by simp [EndsNumber])
  rw [List.append_nil] at hread
  rw [ofText?, Value.toText, String.toList_ofList, read?, hread]
  rfl

end ExpenseReport.Json
