import ExpenseReport.Dialect.Records
import ExpenseReport.Yaml.Number
import ExpenseReport.Yaml.Reference

/-!
# Records in YAML

Text may be any scalar. Numbers are told by their look unless a tag or quotes decide otherwise.
Where nothing is written there is an empty record or list, but null is neither.
-/

namespace ExpenseReport.Yaml

/-- The tag of a standard type. -/
def standardTag (name : String) : Tag :=
  Tag.ofText ("tag:yaml.org,2002:" ++ name)

/-- Whether a tag is one of one's own, which starts with an exclamation mark. -/
def Tag.isOwn (tag : Tag) : Bool :=
  tag.take 1 = ofText "!"

/-- The name that a tag of one's own gives, if it is text. A lone exclamation mark names itself. -/
def Tag.ownName? (tag : Tag) : Option String :=
  if tag.isOwn then
    String.fromUTF8? ⟨(if tag.length = 1 then tag else tag.drop 1).toArray⟩
  else none

namespace Document

/-- The text of a scalar, unless it stands for nothing. Only a plain scalar can, and with a tag only
one that says so. -/
def optionalText? (document : Document) (node : Node Nat) : Option (Option String) :=
  match document.follow? node with
  | some (.scalar _ none .plain text) =>
    if text = "" ∨ isNullWord text.toList then some none else some (some text)
  | some (.scalar _ (some tag) .plain text) =>
    if tag = standardTag "null" then
      if isNullWord text.toList then some none else none
    else some (some text)
  | some (.scalar _ _ _ text) => some (some text)
  | _ => none

/-- A whole number that is an id. It is plain, or a literal block with the tag of whole numbers. -/
def id? (document : Document) (node : Node Nat) : Option Id :=
  match document.follow? node with
  | some (.scalar _ tag style text) =>
    if style = .plain ∨ (style = .literal ∧ tag = some (standardTag "int")) then do
      let n ← wholeNumber? text.toList
      if n < UInt32.size then some (UInt32.ofNat n) else none
    else none
  | _ => none

/-- The decimal of a scalar without a tag that means anything. -/
def bareDecimal? (style : Style) (text : String) : Option Decimal :=
  if style = .plain then plainDecimal? text.toList else Decimal.ofText? text

/-- The decimal of a scalar with a tag. -/
def taggedDecimal? (tag : Tag) (style : Style) (text : String) : Option Decimal :=
  if tag = standardTag "bool" ∨ tag = standardTag "null" then none
  else if tag = standardTag "int" then (readWhole? text.toList).bind Number.decimal?
  else if tag = standardTag "float" then (readFloating? text.toList).bind Number.decimal?
  else if tag.isOwn then bareDecimal? style text
  else Decimal.ofText? text

/-- The decimal that a mapping gives by its literal. -/
def literalDecimal? (document : Document) : List (Node Nat × Node Nat) → Option Decimal
  | [(key, value)] => do
    if (← document.text? key) = Dialect.literalField then
      Decimal.ofText? (← document.text? value)
    else none
  | _ => none

/-- Whether a tag turns a node into something named, which is no decimal. -/
def namesOwn (tag : Option Tag) : Bool :=
  (tag.bind Tag.ownName?).isSome

/-- The decimal of a scalar, or of a mapping that wraps one. -/
def decimal? (document : Document) (node : Node Nat) : Option Decimal :=
  match document.follow? node with
  | some (.scalar _ tag style text) =>
    if namesOwn tag then none
    else
      match tag with
      | none => bareDecimal? style text
      | some tag => taggedDecimal? tag style text
  | some (.mapping _ tag entries) => if namesOwn tag then none else document.literalDecimal? entries
  | _ => none

/-- An alternative, by the text of a scalar or by a tag of its own with nothing behind it. -/
def choice? (document : Document) (node : Node Nat) : Option String :=
  match document.follow? node with
  | some (.scalar _ tag style text) =>
    match tag.bind Tag.ownName? with
    | some name => if style = .plain ∧ (text = "" ∨ isNullWord text.toList) then some name else none
    | none => some text
  | _ => none

/-- Whether a node is written as nothing at all. -/
def isBlank : Node Nat → Bool
  | .scalar _ _ .plain "" => true
  | _ => false

/-- The items of a sequence; there are none where nothing is written. -/
def list? (document : Document) (node : Node Nat) : Option (List (Node Nat)) :=
  match document.follow? node with
  | some (.sequence _ _ items) => some items
  | some node => if isBlank node then some [] else none
  | none => none

/-- The members of a mapping, whose keys are scalars; there are none where nothing is written. -/
def members? (document : Document) (node : Node Nat) : Option (List (String × Node Nat)) :=
  match document.follow? node with
  | some (.mapping _ _ entries) =>
    entries.mapM fun (key, value) => (document.text? key).map (·, value)
  | some node => if isBlank node then some [] else none
  | none => none

/-- How YAML is read. The order of fields does not matter, as all of them have names. -/
def dialect (document : Document) : Dialect (Node Nat) where
  text? := document.text?
  optionalText? := document.optionalText?
  id? := document.id?
  decimal? := document.decimal?
  choice? := document.choice?
  list? := document.list?
  members? _ := document.members?

end Document

/-- Reads a text as something that the root of a document stands for, if that does not take too many
references. A text without a document counts as one in which nothing is written. -/
def decode? {α : Type} (references : Document → Node Nat → Nat)
    (read : Dialect (Node Nat) → Node Nat → Option α) (text : String) : Option α := do
  let document ← Document.ofText? text
  let root := document.root.getD .blank
  if references document root ≤ referencesPerMark * root.size then read document.dialect root
  else none

def settings? : String → Option Settings :=
  decode? (·.flatReferences Dialect.settingsFields) Dialect.settings?

def employees? : String → Option (List Employee) :=
  decode? (·.fileReferences Dialect.employeeList Dialect.employeeFields) Dialect.employeesFile?

def expenses? : String → Option (List Expense) :=
  decode? (·.fileReferences Dialect.expenseList Dialect.expenseFields) Dialect.expensesFile?

end ExpenseReport.Yaml
