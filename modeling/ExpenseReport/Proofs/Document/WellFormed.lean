import ExpenseReport.Proofs.Calendar.DateText
import ExpenseReport.Proofs.Decimal.Writing
import ExpenseReport.Proofs.Document.Xml

/-!
# Well-formed XML documents

A document of XML 1.0 is one element in which every start tag has its end tag, no text is taken for
markup, and every character is one that XML admits. Tags and entities take care of the first two,
whatever the texts of a tree are. Nothing takes care of the last: characters without an entity are
written as they are. So a document is well-formed exactly when its texts have no characters that XML
forbids.
-/

namespace ExpenseReport.Xml

/-! ## Characters -/

/-- The characters of XML: most control characters and two that are none are left out. -/
def IsXmlChar (c : Char) : Prop :=
  c = '\t' ∨ c = '\n' ∨ c = '\r' ∨ 0x20 ≤ c.toNat ∧ c.toNat ≤ 0xD7FF ∨
    0xE000 ≤ c.toNat ∧ c.toNat ≤ 0xFFFD ∨ 0x10000 ≤ c.toNat ∧ c.toNat ≤ 0x10FFFF

instance (c : Char) : Decidable (IsXmlChar c) :=
  inferInstanceAs (Decidable (_ ∨ _))

def AreXmlChars (cs : List Char) : Prop :=
  ∀ c ∈ cs, IsXmlChar c

theorem areXmlChars_append {cs ds : List Char} :
    AreXmlChars (cs ++ ds) ↔ AreXmlChars cs ∧ AreXmlChars ds :=
  List.forall_mem_append

theorem areXmlChars_cons {c : Char} {cs : List Char} :
    AreXmlChars (c :: cs) ↔ IsXmlChar c ∧ AreXmlChars cs :=
  List.forall_mem_cons

theorem areXmlChars_nil : AreXmlChars [] :=
  fun _ hc => absurd hc List.not_mem_nil

theorem areXmlChars_of_all {cs : List Char} (hcs : cs.all (decide <| IsXmlChar ·)) :
    AreXmlChars cs := by
  simpa [AreXmlChars] using hcs

/-- The characters of tags. -/
theorem isXmlChar_marks : IsXmlChar '<' ∧ IsXmlChar '>' ∧ IsXmlChar '/' ∧ IsXmlChar ' ' ∧
    IsXmlChar '=' ∧ IsXmlChar '"' := by
  decide

theorem isXmlChar_of_isDigit {c : Char} (hc : Text.isDigit c) : IsXmlChar c := by
  obtain ⟨d, hd, rfl⟩ := Text.exists_digitChar_eq hc
  revert d
  decide

/-! ## Markup -/

/-- The references that need no declaration. -/
def entities : List String :=
  ["&lt;", "&gt;", "&amp;", "&apos;", "&quot;"]

/-- What may start a name. Names with characters beyond ASCII are left out, as no document has
any. -/
def isNameStart (c : Char) : Bool :=
  c.isAlpha || c = '_' || c = ':'

/-- A name that elements and attributes can have. -/
def IsTagName (name : String) : Prop :=
  IsName name ∧ name.toList.head?.any isNameStart

instance (name : String) : Decidable (IsTagName name) :=
  inferInstanceAs (Decidable (_ ∧ _))

/-- What can stand between quotation marks. -/
inductive IsValue : List Char → Prop
  | nil : IsValue []
  | char {c : Char} {rest : List Char} (hc : c ≠ '<' ∧ c ≠ '&' ∧ c ≠ '"') (hrest : IsValue rest) :
      IsValue (c :: rest)
  | entity {entity : String} {rest : List Char} (hentity : entity ∈ entities)
      (hrest : IsValue rest) : IsValue (entity.toList ++ rest)

/-- Attributes behind the name of an element, each with a name of its own. -/
inductive AreAttributes : List String → List Char → Prop
  | nil : AreAttributes [] []
  | cons {name : String} {names : List String} {value rest : List Char} (hname : IsTagName name)
      (hnew : name ∉ names) (hvalue : IsValue value) (hrest : AreAttributes names rest) :
      AreAttributes (name :: names)
        (' ' :: name.toList ++ '=' :: '"' :: value ++ '"' :: rest)

/-- Text without markup. The end of a section of raw text may not occur in it either. -/
def IsCharData (cs : List Char) : Prop :=
  (∀ c ∈ cs, c ≠ '<' ∧ c ≠ '&') ∧ ¬ [']', ']', '>'] <:+: cs

mutual

/-- A single tag, or a start tag and the end tag of the same name around some content. -/
inductive IsElement : List Char → Prop
  | single {name : String} {names : List String} {attributes : List Char} (hname : IsTagName name)
      (hattributes : AreAttributes names attributes) :
      IsElement ('<' :: name.toList ++ attributes ++ ['/', '>'])
  | tagged {name : String} {names : List String} {attributes content : List Char}
      (hname : IsTagName name) (hattributes : AreAttributes names attributes)
      (hcontent : IsContent content) :
      IsElement ('<' :: name.toList ++ attributes ++ '>' :: content ++
        '<' :: '/' :: name.toList ++ ['>'])

/-- Text, interspersed with entities and elements. -/
inductive IsContent : List Char → Prop
  | text {cs : List Char} (hcs : IsCharData cs) : IsContent cs
  | entity {cs rest : List Char} {entity : String} (hcs : IsCharData cs)
      (hentity : entity ∈ entities) (hrest : IsContent rest) :
      IsContent (cs ++ entity.toList ++ rest)
  | element {cs element rest : List Char} (hcs : IsCharData cs) (helement : IsElement element)
      (hrest : IsContent rest) : IsContent (cs ++ element ++ rest)

end

/-- One element, of characters that XML admits. -/
structure IsWellFormed (text : String) : Prop where
  isElement : IsElement text.toList
  areXmlChars : AreXmlChars text.toList

/-! ## What is written for texts -/

/-- A character stands for itself only where it cannot be taken for markup. -/
theorem escape_cases (c : Char) :
    (∃ entity ∈ entities, escape c = entity.toList) ∨
      escape c = [c] ∧ c ≠ '<' ∧ c ≠ '>' ∧ c ≠ '&' ∧ c ≠ '"' := by
  unfold escape
  split_ifs with hless hgreater hand hapostrophe hquote
  · exact Or.inl ⟨"&lt;", by decide, rfl⟩
  · exact Or.inl ⟨"&gt;", by decide, rfl⟩
  · exact Or.inl ⟨"&amp;", by decide, rfl⟩
  · exact Or.inl ⟨"&apos;", by decide, rfl⟩
  · exact Or.inl ⟨"&quot;", by decide, rfl⟩
  · exact Or.inr ⟨rfl, hless, hgreater, hand, hquote⟩

theorem isValue_escapeText (text : String) : IsValue (escapeText text) := by
  unfold escapeText
  induction text.toList with
  | nil => exact .nil
  | cons c rest ih =>
      rw [List.flatMap_cons]
      rcases escape_cases c with ⟨entity, hentity, hescape⟩ | ⟨hescape, hless, _, hand, hquote⟩
      · rw [hescape]
        exact .entity hentity ih
      · rw [hescape]
        exact .char ⟨hless, hand, hquote⟩ ih

theorem isCharData_of_forall_ne {cs : List Char}
    (hcs : ∀ c ∈ cs, c ≠ '<' ∧ c ≠ '>' ∧ c ≠ '&') : IsCharData cs := by
  refine ⟨fun c hc => ⟨(hcs c hc).1, (hcs c hc).2.2⟩, fun hwithin => ?_⟩
  exact (hcs '>' (hwithin.subset (by simp))).2.1 rfl

/-- Escaped text is content, also behind characters that stand for themselves. -/
theorem isContent_append_escape (front cs : List Char)
    (hfront : ∀ c ∈ front, c ≠ '<' ∧ c ≠ '>' ∧ c ≠ '&') :
    IsContent (front ++ cs.flatMap escape) := by
  induction cs generalizing front with
  | nil =>
      rw [List.flatMap_nil, List.append_nil]
      exact .text (isCharData_of_forall_ne hfront)
  | cons c rest ih =>
      rw [List.flatMap_cons, ← List.append_assoc]
      rcases escape_cases c with ⟨entity, hentity, hescape⟩ | ⟨hescape, hless, hgreater, hand, _⟩
      · rw [hescape]
        exact .entity (isCharData_of_forall_ne hfront) hentity (ih [] (by simp))
      · rw [hescape]
        apply ih (front ++ [c])
        rw [List.forall_mem_append, List.forall_mem_singleton]
        exact ⟨hfront, hless, hgreater, hand⟩

theorem isContent_escapeText (text : String) : IsContent (escapeText text) :=
  isContent_append_escape [] text.toList (by simp)

/-! ## Trees -/

mutual

/-- All elements and attributes of a tree have names, and no element has two attributes of one
name. -/
def Element.IsProper : Element → Prop
  | .leaf name _ => IsTagName name
  | .branch name attributes children =>
    IsTagName name ∧ (∀ a ∈ attributes, IsTagName a.1) ∧ (attributes.map Prod.fst).Nodup ∧
      AreProper children

def AreProper : List Element → Prop
  | [] => True
  | element :: rest => element.IsProper ∧ AreProper rest

end

theorem areAttributes_writeAttributes {attributes : List (String × String)}
    (hnames : ∀ a ∈ attributes, IsTagName a.1) (hnodup : (attributes.map Prod.fst).Nodup) :
    AreAttributes (attributes.map Prod.fst) (attributes.flatMap writeAttribute) := by
  induction attributes with
  | nil => exact .nil
  | cons a rest ih =>
      obtain ⟨name, value⟩ := a
      obtain ⟨hname, hrest⟩ := List.forall_mem_cons.mp hnames
      obtain ⟨hnew, hothers⟩ := List.nodup_cons.mp hnodup
      have hall := AreAttributes.cons hname hnew (isValue_escapeText value) (ih hrest hothers)
      simpa [writeAttribute] using hall

theorem isCharData_newLine (depth : Nat) : IsCharData (newLine depth) := by
  apply isCharData_of_forall_ne
  intro c hc
  rcases List.mem_cons.mp hc with rfl | hblank
  · decide
  · rw [List.eq_of_mem_replicate hblank]
    decide

mutual

/-- What is written for a tree is an element. -/
theorem isElement_write : ∀ (element : Element) (depth : Nat), element.IsProper →
    IsElement (element.write depth)
  | .leaf name text, depth, hname => by
      simpa [Element.write, writeEnd] using
        IsElement.tagged hname .nil (isContent_escapeText text)
  | .branch name attributes [], depth, ⟨hname, hnames, hnodup, _⟩ => by
      simpa [Element.write, writeHead] using
        IsElement.single hname (areAttributes_writeAttributes hnames hnodup)
  | .branch name attributes (child :: children), depth,
      ⟨hname, hnames, hnodup, hchild, hchildren⟩ => by
      have hcontent := IsContent.element (isCharData_newLine (depth + 1))
        (isElement_write child (depth + 1) hchild)
        (isContent_writeSiblings children (depth + 1) hchildren
          (.text (isCharData_newLine depth)))
      simpa [Element.write, writeHead, writeEnd] using
        IsElement.tagged hname (areAttributes_writeAttributes hnames hnodup) hcontent

theorem isContent_writeSiblings : ∀ (elements : List Element) (depth : Nat), AreProper elements →
    ∀ {rest : List Char}, IsContent rest → IsContent (writeSiblings depth elements ++ rest)
  | [], depth, _, rest, hrest => hrest
  | element :: others, depth, ⟨helement, hothers⟩, rest, hrest => by
      rw [writeSiblings, List.append_assoc]
      exact .element (isCharData_newLine depth) (isElement_write element depth helement)
        (isContent_writeSiblings others depth hothers hrest)

end

/-! ## Characters of documents -/

mutual

/-- The texts in a tree: its names, the values of its attributes, and what its elements hold. -/
def Element.texts : Element → List String
  | .leaf name text => [name, text]
  | .branch name attributes children =>
    name :: (attributes.flatMap fun a => [a.1, a.2]) ++ textsOf children

def textsOf : List Element → List String
  | [] => []
  | element :: rest => element.texts ++ textsOf rest

end

/-- XML admits all characters of the texts. -/
def AreXmlTexts (texts : List String) : Prop :=
  ∀ text ∈ texts, AreXmlChars text.toList

theorem areXmlTexts_append {texts others : List String} :
    AreXmlTexts (texts ++ others) ↔ AreXmlTexts texts ∧ AreXmlTexts others :=
  List.forall_mem_append

theorem areXmlTexts_cons {text : String} {texts : List String} :
    AreXmlTexts (text :: texts) ↔ AreXmlChars text.toList ∧ AreXmlTexts texts :=
  List.forall_mem_cons

theorem areXmlTexts_nil : AreXmlTexts [] :=
  fun _ htext => absurd htext List.not_mem_nil

/-- Entities neither hide a character nor add one. -/
theorem areXmlChars_escape {c : Char} : AreXmlChars (escape c) ↔ IsXmlChar c := by
  unfold escape
  split_ifs with hless hgreater hand hapostrophe hquote
  iterate 5 subst_vars; exact ⟨fun _ => by decide, fun _ => areXmlChars_of_all (by decide)⟩
  simp [areXmlChars_cons, areXmlChars_nil]

theorem areXmlChars_escapeText {text : String} :
    AreXmlChars (escapeText text) ↔ AreXmlChars text.toList := by
  unfold escapeText
  induction text.toList with
  | nil => rfl
  | cons c rest ih => rw [List.flatMap_cons, areXmlChars_append, areXmlChars_escape, ih,
      areXmlChars_cons]

theorem areXmlChars_writeEnd {name : String} :
    AreXmlChars (writeEnd name) ↔ AreXmlChars name.toList := by
  simp only [writeEnd, areXmlChars_append, areXmlChars_cons, areXmlChars_nil, isXmlChar_marks,
    true_and, and_true]

theorem areXmlChars_writeHead {name : String} {attributes : List (String × String)} :
    AreXmlChars (writeHead name attributes) ↔
      AreXmlTexts (name :: attributes.flatMap fun a => [a.1, a.2]) := by
  rw [writeHead, areXmlChars_append, areXmlTexts_cons]
  apply and_congr_right'
  induction attributes with
  | nil => simp only [List.flatMap_nil, areXmlChars_nil, areXmlTexts_nil]
  | cons a rest ih =>
      simp only [List.flatMap_cons, areXmlChars_append, areXmlTexts_append, ih, writeAttribute,
        areXmlChars_cons, areXmlChars_escapeText, areXmlTexts_cons, areXmlChars_nil,
        areXmlTexts_nil, isXmlChar_marks, true_and, and_true]

theorem areXmlChars_newLine (depth : Nat) : AreXmlChars (newLine depth) := by
  intro c hc
  rcases List.mem_cons.mp hc with rfl | hblank
  · decide
  · rw [List.eq_of_mem_replicate hblank]
    decide

mutual

/-- Nothing but the texts of a tree can bring in a character that XML forbids. -/
theorem areXmlChars_write : ∀ (element : Element) (depth : Nat),
    AreXmlChars (element.write depth) ↔ AreXmlTexts element.texts
  | .leaf name text, depth => by
      simp only [Element.write, Element.texts, areXmlChars_append, areXmlChars_cons,
        areXmlChars_writeEnd, areXmlChars_escapeText, areXmlTexts_cons, areXmlTexts_nil,
        isXmlChar_marks, true_and, and_true]
      tauto
  | .branch name attributes [], depth => by
      simp only [Element.write, Element.texts, textsOf, areXmlChars_append, areXmlChars_cons,
        areXmlChars_nil, areXmlChars_writeHead, List.append_nil, isXmlChar_marks, true_and,
        and_true]
  | .branch name attributes (child :: children), depth => by
      simp only [Element.write, Element.texts, textsOf, areXmlChars_append, areXmlChars_cons,
        areXmlChars_writeHead, areXmlChars_writeEnd, areXmlChars_newLine,
        areXmlChars_write child (depth + 1), areXmlChars_writeSiblings children (depth + 1),
        List.cons_append, areXmlTexts_append, areXmlTexts_cons, isXmlChar_marks, true_and,
        and_true]
      tauto

theorem areXmlChars_writeSiblings : ∀ (elements : List Element) (depth : Nat),
    AreXmlChars (writeSiblings depth elements) ↔ AreXmlTexts (textsOf elements)
  | [], depth => by simp only [writeSiblings, textsOf, areXmlChars_nil, areXmlTexts_nil]
  | element :: rest, depth => by
      simp only [writeSiblings, textsOf, areXmlChars_append, areXmlTexts_append,
        areXmlChars_newLine, areXmlChars_write element depth,
        areXmlChars_writeSiblings rest depth, true_and]

end

/-! ## Documents -/

/-- XML admits all characters of what a record has from outside. -/
def HasXmlTexts (record : Record) : Prop :=
  AreXmlTexts [record.employeeName, record.position, record.description]

theorem isProper_expense (record : Record) : (expense record).IsProper := by
  have hnames : IsTagName "employeeName" ∧ IsTagName "position" ∧ IsTagName "description" ∧
      IsTagName "amount" ∧ IsTagName "date" := by decide
  obtain ⟨hname, hposition, hdescription, hamount, hdate⟩ := hnames
  refine ⟨by decide, ?_, by simp, hname, hposition, hdescription, hamount, hdate, trivial⟩
  intro a ha
  rw [List.mem_singleton.mp ha]
  exact show IsTagName "id" by decide

theorem isProper_expenses (records : List Record) : (expenses records).IsProper := by
  refine ⟨by decide, by simp, List.nodup_nil, ?_⟩
  induction records with
  | nil => trivial
  | cons record rest ih => exact ⟨isProper_expense record, ih⟩

/-- Numbers and dates have no characters that XML forbids. -/
theorem areXmlTexts_expense {record : Record} :
    AreXmlTexts (expense record).texts ↔ HasXmlTexts record := by
  have hnames : AreXmlTexts ["expense", "id", "employeeName", "position", "description", "amount",
      "date"] := by
    intro name hname
    apply areXmlChars_of_all
    revert name
    decide
  have hid : AreXmlChars record.expenseIdText.toList := by
    intro c hc
    rw [Record.expenseIdText, Text.numeral, String.toList_ofList] at hc
    exact isXmlChar_of_isDigit (Text.isDigit_of_mem_digits c hc)
  have hamount : AreXmlChars record.amount.toText.toList := by
    intro c hc
    rw [Decimal.toText, String.toList_ofList] at hc
    rcases Decimal.mem_write c hc with hdigit | rfl | rfl
    · exact isXmlChar_of_isDigit hdigit
    · decide
    · decide
  have hdate : AreXmlChars record.calendarDate.toList := by
    intro c hc
    rw [Record.calendarDate, Date.toText, String.toList_ofList] at hc
    rcases Date.mem_write c hc with hdigit | rfl | rfl
    · exact isXmlChar_of_isDigit hdigit
    · decide
    · decide
  simp only [areXmlTexts_cons, areXmlTexts_nil, and_true] at hnames
  simp only [expense, Element.texts, textsOf, HasXmlTexts, areXmlTexts_append, areXmlTexts_cons,
    areXmlTexts_nil, List.flatMap_cons, List.flatMap_nil, hnames, hid, hamount, hdate, true_and,
    and_true]

theorem areXmlTexts_expenses {records : List Record} :
    AreXmlTexts (expenses records).texts ↔ ∀ record ∈ records, HasXmlTexts record := by
  have hroot : AreXmlChars "expenses".toList := areXmlChars_of_all (by decide)
  have hrecords : AreXmlTexts (textsOf (records.map expense)) ↔
      ∀ record ∈ records, HasXmlTexts record := by
    induction records with
    | nil => simp [textsOf, areXmlTexts_nil]
    | cons record rest ih =>
        rw [List.map_cons, textsOf, areXmlTexts_append, areXmlTexts_expense, ih,
          List.forall_mem_cons]
  rw [expenses, Element.texts, List.flatMap_nil, areXmlTexts_append, areXmlTexts_cons, hrecords]
  simp only [hroot, areXmlTexts_nil, true_and]

theorem areXmlChars_document_iff {records : List Record} :
    AreXmlChars (document records).toList ↔ ∀ record ∈ records, HasXmlTexts record := by
  rw [document, String.toList_ofList, areXmlChars_write, areXmlTexts_expenses]

theorem isElement_document (records : List Record) : IsElement (document records).toList := by
  rw [document, String.toList_ofList]
  exact isElement_write (expenses records) 0 (isProper_expenses records)

theorem isWellFormed_document_iff {records : List Record} :
    IsWellFormed (document records) ↔ ∀ record ∈ records, HasXmlTexts record := by
  rw [← areXmlChars_document_iff]
  exact ⟨IsWellFormed.areXmlChars, fun hchars => ⟨isElement_document records, hchars⟩⟩

/-- An export to XML is one element with all its tags in place and no text taken for markup,
whatever the records hold. It is well-formed exactly when XML admits all characters of their names,
positions and descriptions, since those it forbids are neither refused nor replaced. -/
theorem xml_export_is_well_formed_iff_texts_are (style : DateStyle) (records : List Record) :
    ∃ text, (Serializer.ofFormat .xml style).serialize records = .ok text ∧
      IsElement text.toList ∧
      (IsWellFormed text ↔ ∀ record ∈ records,
        ∀ field ∈ [record.employeeName, record.position, record.description],
          ∀ c ∈ field.toList, IsXmlChar c) :=
  ⟨document records, rfl, isElement_document records, isWellFormed_document_iff⟩

/-- A control character in a description is in the document too, and no XML document may have
it. -/
theorem xml_export_is_not_well_formed_with_control_character :
    let record : Record :=
      ⟨1, 3, "Maria Georgieva", "Intern", "Transport\x01",
        ⟨false, 450, 0, by decide, by decide⟩,
        ⟨2025, 3, 12, by decide, by decide, by decide, by decide⟩⟩
    '\x01' ∈ record.description.toList ∧ ¬ IsXmlChar '\x01' ∧
      ∀ style, ∃ text, (Serializer.ofFormat .xml style).serialize [record] = .ok text ∧
        ¬ AreXmlChars text.toList ∧ ¬ IsWellFormed text := by
  intro record
  have hcontained : '\x01' ∈ record.description.toList := by decide
  have hforbidden : ¬ IsXmlChar '\x01' := by decide
  have hchars : ¬ AreXmlChars (document [record]).toList := by
    rw [areXmlChars_document_iff]
    intro hrecords
    have htexts := hrecords record List.mem_cons_self
    exact hforbidden (htexts record.description (by simp) _ hcontained)
  exact ⟨hcontained, hforbidden,
    fun style => ⟨document [record], rfl, hchars, fun htext => hchars htext.areXmlChars⟩⟩

end ExpenseReport.Xml
