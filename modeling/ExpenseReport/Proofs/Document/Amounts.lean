import ExpenseReport.Proofs.Decimal.Canonical
import ExpenseReport.Proofs.Document.Csv
import ExpenseReport.Proofs.Document.Json
import ExpenseReport.Proofs.Document.Xml

/-!
# Amounts from input to output

An amount that is given as a canonical text, in a string or as a number literal, stands in the
documents of all formats as it was given. Reading keeps its digits and its places, judging leaves
the expense as it is, and each format writes all the digits.
-/

namespace ExpenseReport

variable {records : List Record} {record : Record} {i : Nat}

/-! ## Amounts in documents -/

/-- The row of a record has this text in the column of amounts. -/
def Csv.HasAmount (document : String) (i : Nat) (amount : String) : Prop :=
  ∃ rows row, read document = header :: rows ∧ rows[i]? = some row ∧
    row[header.idxOf "Amount"]? = some amount

theorem Csv.hasAmount_document (hrecord : records[i]? = some record) :
    HasAmount (document records) i record.amount.toText := by
  refine ⟨records.map fields, fields record, read_document records, ?_, rfl⟩
  rw [List.getElem?_map, hrecord, Option.map_some]

namespace Xml

def Element.children : Element → List Element
  | .leaf .. => []
  | .branch _ _ children => children

/-- The texts that an element holds under a name. -/
def Element.textsOf (name : String) (element : Element) : List String :=
  element.children.filterMap fun
    | .leaf other text => if other = name then some text else none
    | .branch .. => none

/-- The element of a record holds this text, and no other, under the name of amounts. -/
def HasAmount (document : String) (i : Nat) (amount : String) : Prop :=
  ∃ root element, read? document = some root ∧ root.children[i]? = some element ∧
    element.textsOf "amount" = [amount]

theorem hasAmount_document (hrecord : records[i]? = some record) :
    HasAmount (document records) i record.amount.toText := by
  refine ⟨expenses records, expense record, read?_document records, ?_, rfl⟩
  rw [expenses, Element.children, List.getElem?_map, hrecord, Option.map_some]

end Xml

namespace Json

/-- The object of a record has this number literal, and nothing else, under the name of amounts. -/
def HasAmount (document : String) (i : Nat) (literal : List Char) : Prop :=
  ∃ objects members, ofText? document = some (.array objects) ∧
    objects[i]? = some (.record members) ∧
    Dialect.member? members "amount" = some (some (.number literal))

theorem hasAmount_document (style : DateStyle) (hrecord : records[i]? = some record) :
    HasAmount (document style records) i record.amount.write := by
  have hobject : (records.map (expense style))[i]? = some (expense style record) := by
    rw [List.getElem?_map, hrecord, Option.map_some]
  exact ⟨_, _, ofText?_document style records, hobject, rfl⟩

/-! ## Amounts in the input -/

/-- How an expense spells its amount. -/
def amountSpelling? (node : Value) : Option (List Char) := do
  let members ← dialect.members? Dialect.expenseFields node
  Dialect.required? Value.spelling? members "amount"

/-- The amount of an expense is what its spelling is read as. -/
theorem read?_amountSpelling {node : Value} {expense : Expense} {cs : List Char}
    (hexpense : dialect.expense? node = some expense)
    (hspelling : amountSpelling? node = some cs) : Decimal.read? cs = some expense.amount := by
  obtain ⟨members, amount, hmembers, hamount, hread⟩ :=
    dialect.exists_amount_of_expense? hexpense
  rw [amountSpelling?, hmembers, Option.bind_eq_bind, Option.bind_some,
    Dialect.required?_eq_some_iff] at hspelling
  obtain ⟨spelled, hspelled, hcs⟩ := hspelling
  obtain rfl : amount = spelled := by simpa [hamount] using hspelled
  rw [← asDecimal?_eq_of_spelling? hcs]
  exact hread

end Json

/-! ## From input to output -/

namespace Serializer

open Json (Value)

/-- An accepted expense stands at its place in the documents of all formats, with all the digits of
its amount. -/
theorem exists_render_hasAmount {employees : List Employee} {expenses : List Expense}
    {expense : Expense}
    (hexpense : (Batch.validate employees expenses).accepted[i]? = some expense)
    (style : DateStyle) :
    ∃ csv xml json : Rendered,
      ((ofFormat .csv style).render employees expenses).result = .ok csv ∧
      ((ofFormat .xml style).render employees expenses).result = .ok xml ∧
      ((ofFormat .json style).render employees expenses).result = .ok json ∧
      Csv.HasAmount csv.content i expense.amount.toText ∧
      Xml.HasAmount xml.content i expense.amount.toText ∧
      Json.HasAmount json.content i expense.amount.write := by
  obtain ⟨records, hjoined, _, hrender⟩ := exists_render employees expenses
  rw [← Record.map_shown hjoined, List.getElem?_map, Option.map_eq_some_iff] at hexpense
  obtain ⟨record, hrecord, rfl⟩ := hexpense
  exact ⟨_, _, _, hrender (ofFormat .csv style), hrender (ofFormat .xml style),
    hrender (ofFormat .json style), Csv.hasAmount_document hrecord,
    Xml.hasAmount_document hrecord, Json.hasAmount_document style hrecord⟩

/-- A canonical text is read as a decimal with that text, from a string and from a number literal.
An accepted expense that was given it as its amount shows it, character for character, in the
documents of all formats. -/
theorem amounts_keep_their_digits (text : Decimal.CanonicalText) :
    (Value.text text.toText).asDecimal? = some text.decimal ∧
    (Value.number text.chars).asDecimal? = some text.decimal ∧
    text.decimal.toText = text.toText ∧
    ∀ (node : Value) (expense : Expense), Json.dialect.expense? node = some expense →
      Json.amountSpelling? node = some text.chars →
      ∀ (employees : List Employee) (expenses : List Expense) (i : Nat) (style : DateStyle),
        (Batch.validate employees expenses).accepted[i]? = some expense →
        ∃ csv xml json : Rendered,
          ((ofFormat .csv style).render employees expenses).result = .ok csv ∧
          ((ofFormat .xml style).render employees expenses).result = .ok xml ∧
          ((ofFormat .json style).render employees expenses).result = .ok json ∧
          Csv.HasAmount csv.content i text.toText ∧ Xml.HasAmount xml.content i text.toText ∧
          Json.HasAmount json.content i text.chars := by
  have hread := text.read?_chars
  refine ⟨?string, hread, text.toText_decimal, ?documents⟩
  case string =>
    have hspelling : (Value.text text.toText).spelling? = some text.chars := by
      simp [Value.text, Value.spelling?, Decimal.CanonicalText.toText]
    rw [Json.asDecimal?_eq_of_spelling? hspelling, hread]
  case documents =>
    intro node expense hexpense hspelling employees expenses i style haccepted
    have hamount : text.decimal = expense.amount := by
      have hgiven := Json.read?_amountSpelling hexpense hspelling
      rw [hread] at hgiven
      exact Option.some.inj hgiven
    rw [← text.toText_decimal, ← text.write_decimal, hamount]
    exact exists_render_hasAmount haccepted style

/-- A number literal with as many digits as there may be. -/
theorem amounts_keep_their_digits_of_long_literal :
    let text : Decimal.CanonicalText :=
      ⟨false, "3".toList, "1400000000000000000000000000".toList, 31400000000000000000000000000,
        Or.inr (by decide), by rfl, by decide, by decide, by decide⟩
    let owner : Employee :=
      ⟨1, "Maria Georgieva", "Intern", .hundred, .fixedAmount, .hundred, .zero, none⟩
    let expense : Expense :=
      ⟨7, 1, "", text.decimal, ⟨2025, 3, 12, by decide, by decide, by decide, by decide⟩⟩
    let node := Value.record [("id", .number ['7']), ("employee_id", .number ['1']),
      ("amount", .number "3.1400000000000000000000000000".toList), ("date", .text "2025-03-12")]
    Json.dialect.expense? node = some expense ∧ Json.amountSpelling? node = some text.chars ∧
      (Batch.validate [owner] [expense]).accepted[0]? = some expense ∧
      ∃ csv xml json : Rendered,
        ((ofFormat .csv .calendarDate).render [owner] [expense]).result = .ok csv ∧
        ((ofFormat .xml .calendarDate).render [owner] [expense]).result = .ok xml ∧
        ((ofFormat .json .calendarDate).render [owner] [expense]).result = .ok json ∧
        Csv.HasAmount csv.content 0 "3.1400000000000000000000000000" ∧
        Xml.HasAmount xml.content 0 "3.1400000000000000000000000000" ∧
        Json.HasAmount json.content 0 "3.1400000000000000000000000000".toList := by
  intro text owner expense node
  have hexpense : Json.dialect.expense? node = some expense := by decide +kernel
  have hspelling : Json.amountSpelling? node = some text.chars := by decide +kernel
  have haccepted : (Batch.validate [owner] [expense]).accepted[0]? = some expense := by
    decide +kernel
  exact ⟨hexpense, hspelling, haccepted, (amounts_keep_their_digits text).2.2.2 node expense
    hexpense hspelling [owner] [expense] 0 .calendarDate haccepted⟩

end Serializer

end ExpenseReport
