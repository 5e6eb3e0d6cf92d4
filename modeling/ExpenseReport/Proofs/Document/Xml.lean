import ExpenseReport.Exporter
import ExpenseReport.Proofs.Calendar.DateText
import ExpenseReport.Proofs.Decimal.Writing

/-!
# Reading XML documents back

A reader cuts a document at its tags, undoes the five entities in what stands between them and keeps
a stack of the elements that are still open. Text next to the elements inside an element has to be
blank; the text of an element that holds no others is taken as it is. The main result is about any
tree of elements: what the reader finds in a written tree is that tree, whatever its texts are, so
no text opens or closes an element. In the tree of a document, ids, amounts and dates are read from
their texts.
-/

namespace ExpenseReport.Xml

/-! ## The reader -/

/-- The blanks of XML. -/
def isSpace (c : Char) : Bool :=
  c = ' ' || c = '\t' || c = '\n' || c = '\r'

def isNameChar (c : Char) : Bool :=
  c.isAlphanum || c = '-' || c = '_' || c = '.' || c = ':'

/-- Text without its entities. An ampersand that starts none of the five is no text. -/
def unescape? : List Char → Option (List Char)
  | [] => some []
  | '&' :: 'l' :: 't' :: ';' :: rest => (unescape? rest).map ('<' :: ·)
  | '&' :: 'g' :: 't' :: ';' :: rest => (unescape? rest).map ('>' :: ·)
  | '&' :: 'a' :: 'm' :: 'p' :: ';' :: rest => (unescape? rest).map ('&' :: ·)
  | '&' :: 'a' :: 'p' :: 'o' :: 's' :: ';' :: rest => (unescape? rest).map ('\'' :: ·)
  | '&' :: 'q' :: 'u' :: 'o' :: 't' :: ';' :: rest => (unescape? rest).map ('"' :: ·)
  | c :: rest => if c = '&' then none else (unescape? rest).map (c :: ·)

/-- A name, the equals sign and a value in quotes. -/
def readAttribute? (cs : List Char) : Option ((String × String) × List Char) :=
  match cs.dropWhile isNameChar with
  | '=' :: '"' :: rest =>
    match rest.dropWhile (· ≠ '"') with
    | '"' :: after => do
      let value ← unescape? (rest.takeWhile (· ≠ '"'))
      return ((String.ofList (cs.takeWhile isNameChar), String.ofList value), after)
    | _ => none
  | _ => none

/-- The attributes behind a name, and whether the slash of an element without content follows. There
are fewer than `fuel` attributes. -/
def readAttributes? : Nat → List Char → Option (List (String × String) × Bool)
  | 0, _ => none
  | _ + 1, [] => some ([], false)
  | _ + 1, ['/'] => some ([], true)
  | fuel + 1, ' ' :: rest => do
    let (first, rest) ← readAttribute? rest
    let (others, single) ← readAttributes? fuel rest
    return (first :: others, single)
  | _ + 1, _ => none

/-- The inside of a tag that is no end tag. -/
def readHead? (cs : List Char) : Option (String × List (String × String) × Bool) := do
  let name := cs.takeWhile isNameChar
  if name.isEmpty then none
  let (attributes, single) ← readAttributes? (cs.length + 1) (cs.dropWhile isNameChar)
  return (String.ofList name, attributes, single)

/-- An element whose end is still to come, with the text and the elements inside it so far. -/
structure Frame where
  name : String
  attributes : List (String × String)
  text : List Char
  children : List Element

namespace Frame

/-- What is around the root of a document. -/
def document : Frame :=
  ⟨"", [], [], []⟩

def addText (f : Frame) (text : List Char) : Frame :=
  ⟨f.name, f.attributes, f.text ++ text, f.children⟩

def add (f : Frame) (child : Element) : Frame :=
  ⟨f.name, f.attributes, f.text, f.children ++ [child]⟩

/-- The element that ends here. -/
def element? (f : Frame) : Option Element :=
  if f.children.isEmpty then
    if f.attributes.isEmpty then some (.leaf f.name (String.ofList f.text)) else none
  else if f.text.all isSpace then some (.branch f.name f.attributes f.children)
  else none

end Frame

/-- Where in a document a reader stands. -/
inductive Place where
  | content
  | tag
  /-- In a value in quotes, which ends no tag. -/
  | quoted

/-- What was read: the characters since the last end of a tag or of a text, the innermost open
element, and the elements around it. -/
structure Reader where
  place : Place
  held : List Char
  inner : Frame
  outer : List Frame

namespace Reader

def initial : Reader :=
  ⟨.content, [], .document, []⟩

def push (r : Reader) (place : Place) (c : Char) : Reader :=
  ⟨place, r.held ++ [c], r.inner, r.outer⟩

/-- A tag begins, so a text ends. -/
def endText? (r : Reader) : Option Reader := do
  let text ← unescape? r.held
  return ⟨.tag, [], r.inner.addText text, r.outer⟩

/-- A tag is complete. An end tag has to fit the innermost open element. -/
def endTag? (r : Reader) : Option Reader :=
  match r.held, r.outer with
  | '/' :: _, [] => none
  | '/' :: name, around :: outer =>
    if r.inner.name = String.ofList name then
      r.inner.element?.map fun element => ⟨.content, [], around.add element, outer⟩
    else none
  | held, outer =>
    (readHead? held).map fun (name, attributes, single) =>
      if single then ⟨.content, [], r.inner.add (.branch name attributes []), outer⟩
      else ⟨.content, [], ⟨name, attributes, [], []⟩, r.inner :: outer⟩

/-- Takes one character. -/
def step (r : Reader) (c : Char) : Option Reader :=
  match r.place with
  | .content => if c = '<' then r.endText? else some (r.push .content c)
  | .tag =>
    if c = '<' then none
    else if c = '>' then r.endTag?
    else some (r.push (if c = '"' then .quoted else .tag) c)
  | .quoted =>
    if c = '<' then none else some (r.push (if c = '"' then .tag else .quoted) c)

def run (r : Reader) (cs : List Char) : Option Reader :=
  cs.foldlM step r

/-- The root of a document that is complete. Nothing but blanks stands around it. -/
def finish? (r : Reader) : Option Element :=
  match r with
  | ⟨.content, held, ⟨_, _, text, [root]⟩, []⟩ =>
    if (text ++ held).all isSpace then some root else none
  | _ => none

theorem run_nil (r : Reader) : r.run [] = some r := rfl

theorem run_cons (r : Reader) (c : Char) (cs : List Char) :
    r.run (c :: cs) = (r.step c).bind (·.run cs) :=
  rfl

theorem run_append (r : Reader) (cs ds : List Char) :
    r.run (cs ++ ds) = (r.run cs).bind (·.run ds) :=
  List.foldlM_append

end Reader

/-- The root that a reader finds in a document. -/
def read? (text : String) : Option Element :=
  (Reader.initial.run text.toList).bind Reader.finish?

/-! ## Entities -/

theorem unescape?_cons {c : Char} (hc : c ≠ '&') (rest : List Char) :
    unescape? (c :: rest) = (unescape? rest).map (c :: ·) := by
  rw [unescape?.eq_def]
  split <;> simp_all

theorem unescape?_escape (c : Char) (rest : List Char) :
    unescape? (escape c ++ rest) = (unescape? rest).map (c :: ·) := by
  unfold escape
  split
  next h => subst h; rfl
  split
  next h => subst h; rfl
  split
  next h => subst h; rfl
  split
  next h => subst h; rfl
  split
  next h => subst h; rfl
  next hamp _ _ => exact unescape?_cons hamp rest

/-- Entities are undone, also in a text that looks as if it had some. -/
theorem unescape?_escapeText (text : String) : unescape? (escapeText text) = some text.toList := by
  unfold escapeText
  induction text.toList with
  | nil => rfl
  | cons c rest ih => rw [List.flatMap_cons, unescape?_escape, ih, Option.map_some]

/-- A text without ampersands has no entities. -/
theorem unescape?_eq_self {cs : List Char} (hcs : ∀ c ∈ cs, c ≠ '&') : unescape? cs = some cs := by
  induction cs with
  | nil => rfl
  | cons c rest ih =>
      obtain ⟨hc, hrest⟩ := List.forall_mem_cons.mp hcs
      rw [unescape?_cons hc, ih hrest, Option.map_some]

/-- No markup is left in escaped text. -/
theorem not_markup_of_mem_escapeText {text : String} :
    ∀ c ∈ escapeText text, c ≠ '<' ∧ c ≠ '"' := by
  have hescape : ∀ d, (escape d).all fun c => c ≠ '<' && c ≠ '"' := by
    intro d
    unfold escape
    split_ifs with h₁ h₂ h₃ h₄ h₅
    iterate 5 decide
    simp [h₁, h₅]
  intro c hc
  obtain ⟨d, _, hd⟩ := List.mem_flatMap.mp hc
  simpa using List.all_eq_true.mp (hescape d) c hd

/-! ## Tags -/

/-- A name has a character and only such as may stand in names. -/
def IsName (name : String) : Prop :=
  name.toList ≠ [] ∧ ∀ c ∈ name.toList, isNameChar c

instance (name : String) : Decidable (IsName name) :=
  decidable_of_iff ((!name.toList.isEmpty && name.toList.all isNameChar) = true) (by simp [IsName])

/-- What ends a name. -/
def EndsName (rest : List Char) : Prop :=
  ∀ c ∈ rest.head?, isNameChar c = false

theorem takeWhile_name {name : String} {rest : List Char} (hname : IsName name)
    (hrest : EndsName rest) : (name.toList ++ rest).takeWhile isNameChar = name.toList := by
  rw [List.takeWhile_append_of_pos hname.2]
  cases rest with
  | nil => simp
  | cons c rest => simp [hrest c rfl]

theorem dropWhile_name {name : String} {rest : List Char} (hname : IsName name)
    (hrest : EndsName rest) : (name.toList ++ rest).dropWhile isNameChar = rest := by
  rw [List.dropWhile_append_of_pos hname.2]
  cases rest with
  | nil => rfl
  | cons c rest => simp [hrest c rfl]

/-- A written attribute is read behind its blank. -/
theorem readAttribute?_append {name : String} (hname : IsName name) (value : String)
    (rest : List Char) :
    readAttribute? (name.toList ++ '=' :: '"' :: escapeText value ++ '"' :: rest) =
      some ((name, value), rest) := by
  have hends : EndsName ('=' :: '"' :: escapeText value ++ '"' :: rest) := by
    simp [EndsName, isNameChar]
  have hvalue : ∀ c ∈ escapeText value, decide (c ≠ '"') := by
    intro c hc
    simpa using (not_markup_of_mem_escapeText c hc).2
  rw [List.append_assoc, readAttribute?, takeWhile_name hname hends, dropWhile_name hname hends]
  simp only [List.cons_append]
  rw [List.takeWhile_append_of_pos hvalue, List.dropWhile_append_of_pos hvalue]
  simp [unescape?_escapeText]

/-- Written attributes are read up to the end of the tag or the slash in front of it. -/
theorem readAttributes?_append {attributes : List (String × String)}
    (hattributes : ∀ a ∈ attributes, IsName a.1) {fuel : Nat} (hfuel : attributes.length < fuel)
    {slash : List Char} {single : Bool}
    (hslash : slash = [] ∧ single = false ∨ slash = ['/'] ∧ single = true) :
    readAttributes? fuel (attributes.flatMap writeAttribute ++ slash) =
      some (attributes, single) := by
  induction attributes generalizing fuel with
  | nil =>
      obtain ⟨fuel, rfl⟩ := Nat.exists_eq_succ_of_ne_zero (Nat.ne_of_gt hfuel)
      rcases hslash with ⟨rfl, rfl⟩ | ⟨rfl, rfl⟩ <;> rfl
  | cons a rest ih =>
      obtain ⟨name, value⟩ := a
      obtain ⟨hname, hrest⟩ := List.forall_mem_cons.mp hattributes
      obtain ⟨fuel, rfl⟩ := Nat.exists_eq_succ_of_ne_zero (Nat.ne_of_gt (Nat.zero_lt_of_lt hfuel))
      have hfirst := readAttribute?_append hname value (rest.flatMap writeAttribute ++ slash)
      have hothers := ih hrest (Nat.lt_of_succ_lt_succ hfuel)
      simp only [List.flatMap_cons, writeAttribute, List.cons_append, List.append_assoc,
        List.nil_append] at hfirst hothers ⊢
      simp [readAttributes?, hfirst, hothers]

theorem endsName_writeAttributes (attributes : List (String × String)) {slash : List Char}
    (hslash : slash = [] ∨ slash = ['/']) :
    EndsName (attributes.flatMap writeAttribute ++ slash) := by
  cases attributes with
  | nil => rcases hslash with rfl | rfl <;> simp [EndsName, isNameChar]
  | cons a rest => simp [EndsName, writeAttribute, isNameChar]

theorem length_le_length_writeAttributes (attributes : List (String × String)) :
    attributes.length ≤ (attributes.flatMap writeAttribute).length := by
  induction attributes with
  | nil => simp
  | cons a rest ih =>
      simp only [List.flatMap_cons, List.length_append, List.length_cons, writeAttribute]
      omega

/-- A written head is read whole. -/
theorem readHead?_writeHead {name : String} (hname : IsName name)
    {attributes : List (String × String)} (hattributes : ∀ a ∈ attributes, IsName a.1)
    {slash : List Char} {single : Bool}
    (hslash : slash = [] ∧ single = false ∨ slash = ['/'] ∧ single = true) :
    readHead? (writeHead name attributes ++ slash) = some (name, attributes, single) := by
  have hends : EndsName (attributes.flatMap writeAttribute ++ slash) :=
    endsName_writeAttributes attributes (hslash.imp And.left And.left)
  have hlength := length_le_length_writeAttributes attributes
  rw [writeHead, List.append_assoc, readHead?, takeWhile_name hname hends,
    dropWhile_name hname hends, readAttributes?_append hattributes _ hslash]
  · simp [hname.1]
  · simp only [List.length_append]
    omega

/-! ## Elements -/

mutual

/-- All elements and attributes of a tree have names. -/
def Element.IsNamed : Element → Prop
  | .leaf name _ => IsName name
  | .branch name attributes children =>
    IsName name ∧ (∀ a ∈ attributes, IsName a.1) ∧ AreNamed children

def AreNamed : List Element → Prop
  | [] => True
  | element :: rest => element.IsNamed ∧ AreNamed rest

end

namespace Reader

variable {held : List Char} {inner : Frame} {outer : List Frame}

/-- Characters that leave a reader where it is are held. -/
theorem run_of_push {place : Place} {cs : List Char}
    (hcs : ∀ c ∈ cs, ∀ r : Reader, r.place = place → r.step c = some (r.push place c)) :
    run ⟨place, held, inner, outer⟩ cs = some ⟨place, held ++ cs, inner, outer⟩ := by
  induction cs generalizing held with
  | nil => simp [run_nil]
  | cons c rest ih =>
      obtain ⟨hc, hrest⟩ := List.forall_mem_cons.mp hcs
      rw [run_cons, hc _ rfl, Option.bind_some, push, ih hrest, List.append_assoc,
        List.singleton_append]

theorem run_content {cs : List Char} (hcs : ∀ c ∈ cs, c ≠ '<') :
    run ⟨.content, held, inner, outer⟩ cs = some ⟨.content, held ++ cs, inner, outer⟩ := by
  apply run_of_push
  intro c hc r hr
  simp [step, hr, hcs c hc]

theorem run_quoted {cs : List Char} (hcs : ∀ c ∈ cs, c ≠ '<' ∧ c ≠ '"') :
    run ⟨.quoted, held, inner, outer⟩ cs = some ⟨.quoted, held ++ cs, inner, outer⟩ := by
  apply run_of_push
  intro c hc r hr
  simp [step, hr, hcs c hc]

theorem run_name {name : String} (hname : IsName name) :
    run ⟨.tag, held, inner, outer⟩ name.toList =
      some ⟨.tag, held ++ name.toList, inner, outer⟩ := by
  apply run_of_push
  intro c hc r hr
  have hne : c ≠ '<' ∧ c ≠ '>' ∧ c ≠ '"' := by
    refine ⟨?_, ?_, ?_⟩ <;> (rintro rfl; exact absurd (hname.2 _ hc) (by decide))
  simp [step, hr, hne]

/-- No attribute ends the tag that it stands in. -/
theorem run_writeAttributes {attributes : List (String × String)}
    (hattributes : ∀ a ∈ attributes, IsName a.1) :
    run ⟨.tag, held, inner, outer⟩ (attributes.flatMap writeAttribute) =
      some ⟨.tag, held ++ attributes.flatMap writeAttribute, inner, outer⟩ := by
  induction attributes generalizing held with
  | nil => simp [run_nil]
  | cons a rest ih =>
      obtain ⟨name, value⟩ := a
      obtain ⟨hname, hrest⟩ := List.forall_mem_cons.mp hattributes
      have hblank (held : List Char) : step ⟨.tag, held, inner, outer⟩ ' ' =
          some ⟨.tag, held ++ [' '], inner, outer⟩ := rfl
      have hequals (held : List Char) : step ⟨.tag, held, inner, outer⟩ '=' =
          some ⟨.tag, held ++ ['='], inner, outer⟩ := rfl
      have hopen (held : List Char) : step ⟨.tag, held, inner, outer⟩ '"' =
          some ⟨.quoted, held ++ ['"'], inner, outer⟩ := rfl
      have hclose (held : List Char) : step ⟨.quoted, held, inner, outer⟩ '"' =
          some ⟨.tag, held ++ ['"'], inner, outer⟩ := rfl
      simp [writeAttribute, run_cons, run_append, hblank, run_name hname, hequals, hopen,
        run_quoted not_markup_of_mem_escapeText, hclose, ih hrest]

theorem run_writeHead {name : String} (hname : IsName name) {attributes : List (String × String)}
    (hattributes : ∀ a ∈ attributes, IsName a.1) :
    run ⟨.tag, [], inner, outer⟩ (writeHead name attributes) =
      some ⟨.tag, writeHead name attributes, inner, outer⟩ := by
  rw [writeHead, run_append, run_name hname, Option.bind_some, run_writeAttributes hattributes]
  rfl

/-- A tag with a head opens an element, or adds one without content. -/
theorem endTag?_of_readHead? {name : String} {attributes : List (String × String)} {single : Bool}
    (hread : readHead? held = some (name, attributes, single)) :
    endTag? ⟨.tag, held, inner, outer⟩ =
      some (if single then ⟨.content, [], inner.add (.branch name attributes []), outer⟩
        else ⟨.content, [], ⟨name, attributes, [], []⟩, inner :: outer⟩) := by
  have hslash (rest : List Char) : readHead? ('/' :: rest) = none := by
    simp [readHead?, isNameChar]
  unfold endTag?
  split
  next heq _ =>
    rw [show held = _ from heq, hslash] at hread
    cases hread
  next heq _ =>
    rw [show held = _ from heq, hslash] at hread
    cases hread
  next => rw [hread, Option.map_some]

theorem step_beginTag {text : List Char} (hheld : unescape? held = some text) :
    step ⟨.content, held, inner, outer⟩ '<' = some ⟨.tag, [], inner.addText text, outer⟩ := by
  simp [step, endText?, hheld]

/-- A start tag ends the text in front of it and opens an element. -/
theorem run_startTag {text : List Char} (hheld : unescape? held = some text) {name : String}
    (hname : IsName name) {attributes : List (String × String)}
    (hattributes : ∀ a ∈ attributes, IsName a.1) :
    run ⟨.content, held, inner, outer⟩ ('<' :: writeHead name attributes ++ ['>']) =
      some ⟨.content, [], ⟨name, attributes, [], []⟩, inner.addText text :: outer⟩ := by
  have hhead := readHead?_writeHead hname hattributes (Or.inl ⟨rfl, rfl⟩)
  rw [List.append_nil] at hhead
  have hend : step ⟨.tag, writeHead name attributes, inner.addText text, outer⟩ '>' =
      endTag? ⟨.tag, writeHead name attributes, inner.addText text, outer⟩ := rfl
  rw [List.cons_append, run_cons, step_beginTag hheld, Option.bind_some, run_append,
    run_writeHead hname hattributes, Option.bind_some, run_cons, hend, endTag?_of_readHead? hhead]
  rfl

/-- A tag without content adds an element to the one around it. -/
theorem run_singleTag {text : List Char} (hheld : unescape? held = some text) {name : String}
    (hname : IsName name) {attributes : List (String × String)}
    (hattributes : ∀ a ∈ attributes, IsName a.1) :
    run ⟨.content, held, inner, outer⟩ ('<' :: writeHead name attributes ++ ['/', '>']) =
      some ⟨.content, [], (inner.addText text).add (.branch name attributes []), outer⟩ := by
  have hhead := readHead?_writeHead hname hattributes (Or.inr ⟨rfl, rfl⟩)
  have hslash : step ⟨.tag, writeHead name attributes, inner.addText text, outer⟩ '/' =
      some ⟨.tag, writeHead name attributes ++ ['/'], inner.addText text, outer⟩ := rfl
  have hend : step ⟨.tag, writeHead name attributes ++ ['/'], inner.addText text, outer⟩ '>' =
      endTag? ⟨.tag, writeHead name attributes ++ ['/'], inner.addText text, outer⟩ := rfl
  rw [List.cons_append, run_cons, step_beginTag hheld, Option.bind_some, run_append,
    run_writeHead hname hattributes, Option.bind_some, run_cons, hslash, Option.bind_some, run_cons,
    hend, endTag?_of_readHead? hhead]
  rfl

/-- An end tag closes the element that it fits. -/
theorem run_writeEnd (inner : Frame) {text : List Char} (hheld : unescape? held = some text)
    (hname : IsName inner.name) {around : Frame} {element : Element}
    (helement : (inner.addText text).element? = some element) :
    run ⟨.content, held, inner, around :: outer⟩ (writeEnd inner.name) =
      some ⟨.content, [], around.add element, outer⟩ := by
  have hslash : step ⟨.tag, [], inner.addText text, around :: outer⟩ '/' =
      some ⟨.tag, ['/'], inner.addText text, around :: outer⟩ := rfl
  have hend : step ⟨.tag, ['/'] ++ inner.name.toList, inner.addText text, around :: outer⟩ '>' =
      endTag? ⟨.tag, '/' :: inner.name.toList, inner.addText text, around :: outer⟩ := rfl
  have hfits : endTag? ⟨.tag, '/' :: inner.name.toList, inner.addText text, around :: outer⟩ =
      some ⟨.content, [], around.add element, outer⟩ := by
    have hname : (inner.addText text).name = String.ofList inner.name.toList :=
      String.ofList_toList.symm
    simp only [endTag?, if_pos hname, helement, Option.map_some]
  rw [writeEnd, List.cons_append, run_cons, step_beginTag hheld, Option.bind_some, List.cons_append,
    run_cons, hslash, Option.bind_some, run_append, run_name hname, Option.bind_some, run_cons,
    hend, hfits, Option.bind_some, run_nil]

theorem isSpace_of_mem_newLine {depth : Nat} : ∀ c ∈ newLine depth, isSpace c := by
  intro c hc
  rcases List.mem_cons.mp hc with rfl | hc
  · rfl
  · rw [List.eq_of_mem_replicate hc]
    rfl

theorem unescape?_blanks {blanks : List Char} (hblanks : ∀ c ∈ blanks, isSpace c) :
    unescape? blanks = some blanks := by
  apply unescape?_eq_self
  rintro c hc rfl
  exact absurd (hblanks _ hc) (by decide)

theorem run_blanks {blanks : List Char} (hblanks : ∀ c ∈ blanks, isSpace c) :
    run ⟨.content, [], inner, outer⟩ blanks = some ⟨.content, blanks, inner, outer⟩ := by
  rw [run_content, List.nil_append]
  rintro c hc rfl
  exact absurd (hblanks _ hc) (by decide)

mutual

/-- A written element is read whole, and nothing of it is taken for something else. -/
theorem run_write : ∀ (element : Element) {held : List Char} {inner : Frame} {outer : List Frame}
    (depth : Nat), element.IsNamed → (∀ c ∈ held, isSpace c) →
    run ⟨.content, held, inner, outer⟩ (element.write depth) =
      some ⟨.content, [], (inner.addText held).add element, outer⟩
  | .leaf name text, held, inner, outer, depth, hname, hheld => by
      have hsplit : Element.write depth (.leaf name text) =
          ('<' :: writeHead name [] ++ ['>']) ++ (escapeText text ++ writeEnd name) := by
        simp [Element.write, writeHead]
      have htext : ∀ c ∈ escapeText text, c ≠ '<' := by
        intro c hc
        exact (not_markup_of_mem_escapeText c hc).1
      have helement : (Frame.addText ⟨name, [], [], []⟩ text.toList).element? =
          some (.leaf name text) := by
        simp [Frame.element?, Frame.addText]
      rw [hsplit, run_append, run_startTag (unescape?_blanks hheld) hname (by simp),
        Option.bind_some, run_append, run_content htext, Option.bind_some, List.nil_append]
      exact run_writeEnd ⟨name, [], [], []⟩ (unescape?_escapeText text) hname helement
  | .branch name attributes [], held, inner, outer, depth, ⟨hname, hattributes, _⟩, hheld =>
      run_singleTag (unescape?_blanks hheld) hname hattributes
  | .branch name attributes (child :: children), held, inner, outer, depth,
      ⟨hname, hattributes, hchild, hchildren⟩, hheld => by
      have hsplit : Element.write depth (.branch name attributes (child :: children)) =
          ('<' :: writeHead name attributes ++ ['>']) ++
            (writeSiblings (depth + 1) (child :: children) ++
              (newLine depth ++ writeEnd name)) := by
        simp [Element.write, writeSiblings]
      obtain ⟨blanks, hblanks, hrun⟩ := run_writeSiblings (child :: children)
        ⟨name, attributes, [], []⟩ (inner.addText held :: outer) (depth + 1) ⟨hchild, hchildren⟩
      have hspaces : ∀ c ∈ blanks ++ newLine depth, isSpace c :=
        List.forall_mem_append.mpr ⟨hblanks, isSpace_of_mem_newLine⟩
      have helement : (Frame.addText ⟨name, attributes, blanks, child :: children⟩
          (newLine depth)).element? = some (.branch name attributes (child :: children)) := by
        have hall : (blanks ++ newLine depth).all isSpace := List.all_eq_true.mpr hspaces
        simp only [Frame.element?, Frame.addText, List.isEmpty_cons, hall, Bool.false_eq_true,
          if_false, if_true]
      rw [hsplit, run_append, run_startTag (unescape?_blanks hheld) hname hattributes,
        Option.bind_some, run_append, hrun, Option.bind_some, run_append,
        run_blanks isSpace_of_mem_newLine, Option.bind_some]
      exact run_writeEnd ⟨name, attributes, blanks, child :: children⟩
        (unescape?_blanks isSpace_of_mem_newLine) hname helement

theorem run_writeSiblings : ∀ (elements : List Element) (inner : Frame) (outer : List Frame)
    (depth : Nat), AreNamed elements →
    ∃ blanks : List Char, (∀ c ∈ blanks, isSpace c) ∧
      run ⟨.content, [], inner, outer⟩ (writeSiblings depth elements) =
        some ⟨.content, [], ⟨inner.name, inner.attributes, inner.text ++ blanks,
          inner.children ++ elements⟩, outer⟩
  | [], inner, outer, depth, _ => ⟨[], by simp, by simp [writeSiblings, run_nil]⟩
  | element :: rest, inner, outer, depth, ⟨helement, hrest⟩ => by
      obtain ⟨blanks, hblanks, hrun⟩ := run_writeSiblings rest
        ((inner.addText (newLine depth)).add element) outer depth hrest
      refine ⟨newLine depth ++ blanks,
        List.forall_mem_append.mpr ⟨isSpace_of_mem_newLine, hblanks⟩, ?_⟩
      rw [writeSiblings, List.append_assoc, run_append, run_blanks isSpace_of_mem_newLine,
        Option.bind_some, run_append, run_write element depth helement isSpace_of_mem_newLine,
        Option.bind_some, hrun]
      simp [Frame.add, Frame.addText]

end

end Reader

/-- A reader finds in a written tree that tree. -/
theorem read?_write {element : Element} (hnamed : element.IsNamed) :
    read? (String.ofList (element.write 0)) = some element := by
  have hrun := @Reader.run_write element [] .document [] 0 hnamed (by simp)
  rw [read?, String.toList_ofList, Reader.initial, hrun]
  rfl

example : (read? "<a>\n<b>&lt;/b&gt; &amp;amp;</b><c d=\">\"/> </a>").map (·.write 0) =
    some "<a>\n  <b>&lt;/b&gt; &amp;amp;</b>\n  <c d=\"&gt;\"/>\n</a>".toList := by
  decide +kernel

example : ["<a></b>", "<a>&</a>", "<a>b<c></c></a>", "<a/><b/>"].map (fun t => (read? t).isSome) =
    [false, false, false, false] := by
  decide +kernel

/-! ## Documents -/

theorem isNamed_expense (record : Record) : (expense record).IsNamed := by
  have hnames : IsName "employeeName" ∧ IsName "position" ∧ IsName "description" ∧
      IsName "amount" ∧ IsName "date" := by decide
  obtain ⟨hname, hposition, hdescription, hamount, hdate⟩ := hnames
  refine ⟨by decide, ?_, hname, hposition, hdescription, hamount, hdate, trivial⟩
  intro a ha
  rw [List.mem_singleton.mp ha]
  exact show IsName "id" by decide

theorem isNamed_expenses (records : List Record) : (expenses records).IsNamed := by
  refine ⟨by decide, by simp, ?_⟩
  induction records with
  | nil => trivial
  | cons record rest ih => exact ⟨isNamed_expense record, ih⟩

theorem expense_eq (record : Record) :
    expense record =
      .branch "expense" [("id", toString record.expenseId.toNat)]
        [.leaf "employeeName" record.employeeName, .leaf "position" record.position,
          .leaf "description" record.description, .leaf "amount" record.amount.toText,
          .leaf "date" record.date.toText] := by
  rw [← Text.numeral_eq_toString]
  rfl

theorem read?_document (records : List Record) :
    read? (document records) = some (expenses records) :=
  read?_write (isNamed_expenses records)

/-- An export to XML loses nothing and no field adds to it: whatever the texts are, a reader finds
the root, in it one element with the id for each record, and in that the five fields in order. The
id, the amount and the date of a record are read from their texts, but for the sign of a zero. -/
theorem xml_export_reads_back (style : DateStyle) (records : List Record) :
    (∃ text, (Serializer.ofFormat .xml style).serialize records = .ok text ∧
      read? text = some (.branch "expenses" [] (records.map fun record =>
        .branch "expense" [("id", toString record.expenseId.toNat)]
          [.leaf "employeeName" record.employeeName, .leaf "position" record.position,
            .leaf "description" record.description, .leaf "amount" record.amount.toText,
            .leaf "date" record.date.toText]))) ∧
      (∀ record : Record,
        Text.value? (toString record.expenseId.toNat).toList = some record.expenseId.toNat ∧
        Decimal.ofText? record.amount.toText = some record.amount.withoutZeroSign ∧
        Date.ofText? record.date.toText = some record.date) ∧
      (Serializer.ofFormat .xml style).serialize [] = .ok "<expenses/>" := by
  refine ⟨⟨document records, rfl, ?_⟩, ?_, rfl⟩
  · rw [read?_document, expenses, funext expense_eq]
  · intro record
    exact ⟨Text.value?_toString _, Decimal.ofText?_toText _, Date.ofText?_toText _⟩

end ExpenseReport.Xml
