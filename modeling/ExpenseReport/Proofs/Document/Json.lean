import ExpenseReport.Proofs.Json.Difference
import ExpenseReport.Proofs.Json.Records
import ExpenseReport.Proofs.Rendering
import ExpenseReport.Proofs.Rule.Limit

/-!
# JSON documents imported again

The objects of a document are expenses once two of their members have the names that expenses have.
Read so, a document gives back the expenses that were accepted, and they are accepted again. What is
lost is the sign of a zero, which a number literal shows and reading drops.
-/

namespace ExpenseReport

open List (Forall₂)

variable {employees : List Employee}

/-! ## The sign of zero amounts -/

def Record.withoutZeroSign (record : Record) : Record :=
  { record with amount := record.amount.withoutZeroSign }

theorem Decimal.toRat_withoutZeroSign (d : Decimal) : d.withoutZeroSign.toRat = d.toRat := by
  rw [toRat, toRat, coefficient_withoutZeroSign]
  rfl

theorem Expense.isAllowed_withoutZeroSign (expense : Expense) :
    expense.withoutZeroSign.isAllowed employees = expense.isAllowed employees := by
  have hcheck : ∀ owner : Employee,
      (owner.check expense.withoutZeroSign).isAccepted = (owner.check expense).isAccepted := by
    intro owner
    exact Rule.isAccepted_evaluate_congr owner.rule owner
      (Decimal.toRat_withoutZeroSign expense.amount)
  simp only [Expense.isAllowed, hcheck]
  rfl

/-- Shaping looks at no amount. -/
theorem Record.shape_withoutZeroSign (directory : Directory) (expenses : List Expense) :
    shape directory (expenses.map Expense.withoutZeroSign) =
      (shape directory expenses).map (·.map Record.withoutZeroSign) := by
  have hfirst : ∀ expense, ofExpense directory expense.withoutZeroSign =
      (ofExpense directory expense).map Record.withoutZeroSign := by
    intro expense
    have howner : expense.withoutZeroSign.employeeId = expense.employeeId := rfl
    rw [ofExpense, ofExpense, howner]
    cases directory.get? expense.employeeId <;> rfl
  induction expenses with
  | nil => rfl
  | cons expense rest ih =>
      rw [List.map_cons, shape, shape, ih, hfirst]
      cases ofExpense directory expense with
      | error fault => rfl
      | ok record => cases shape directory rest <;> rfl

namespace Json

/-! ## Objects read as expenses -/

/-- The name that a member of a document has in the record of an expense. -/
def expenseFieldOf (name : String) : String :=
  if name = "expenseId" then "id" else if name = "employeeId" then "employee_id" else name

/-- A value whose members, if it has any, have other names. -/
def Value.renamed (rename : String → String) : Value → Value
  | .object members => .object (members.map fun (name, value) => (name.map rename, value))
  | value => value

/-- Reads an object of a document as an expense. -/
def importExpense? (object : Value) : Option Expense :=
  dialect.expense? (object.renamed expenseFieldOf)

theorem members_renamed_expense (record : Record) :
    dialect.members? Dialect.expenseFields ((expense .calendarDate record).renamed expenseFieldOf) =
      some [("id", .ofId record.expenseId), ("employee_id", .ofId record.employeeId),
        ("employeeName", .text record.employeeName), ("position", .text record.position),
        ("description", .text record.description), ("amount", .number record.amount.write),
        ("date", .text record.date.toText)] := by
  simp [dialect, expense, dateText, Record.calendarDate, Value.record, Value.renamed,
    Value.asMembers?, expenseFieldOf]

/-- An object of a document is read as the expense that it shows. -/
theorem importExpense?_expense (record : Record) :
    importExpense? (expense .calendarDate record) = some record.shown.withoutZeroSign := by
  have hid := asId?_ofId record.expenseId
  have hemployee := asId?_ofId record.employeeId
  have hamount : Value.asDecimal? (.number record.amount.write) =
      some record.amount.withoutZeroSign :=
    Decimal.read?_write record.amount
  have hdate := Date.ofText?_toText record.date
  rw [importExpense?, Dialect.expense?, members_renamed_expense]
  simp [Dialect.required?, Dialect.optional?, Dialect.member?, Dialect.date?, dialect,
    Value.asText?, Value.text, hid, hemployee, hamount, hdate, Record.shown,
    Expense.withoutZeroSign]

/-! ## Documents as values -/

theorem isWritable_expense (style : DateStyle) (record : Record) :
    (expense style record).IsWritable := by
  apply Value.IsWritable.object
  · simp
  · simp only [List.map_cons, List.map_nil, List.forall_mem_cons]
    exact ⟨isWritable_ofId _, isWritable_ofId _, .string _, .string _, .string _,
      .number (isLiteral_write record.amount), .string _, by simp⟩

/-- A document is one array with the object of each record. -/
theorem ofText?_document (style : DateStyle) (records : List Record) :
    ofText? (document style records) = some (.array (records.map (expense style))) := by
  apply ofText?_toText
  apply Value.IsWritable.array
  intro item hitem
  obtain ⟨record, _, rfl⟩ := List.mem_map.mp hitem
  exact isWritable_expense style record

theorem mapM_importExpense?_map_expense (records : List Record) :
    (records.map (expense .calendarDate)).mapM importExpense? =
      some (records.map fun record => record.shown.withoutZeroSign) := by
  induction records with
  | nil => rfl
  | cons record rest ih =>
      rw [List.map_cons, List.mapM_cons, importExpense?_expense, ih]
      rfl

/-! ## Documents as texts -/

/-- The member of a document that shows an amount. -/
def amountMember (amount : Decimal) : List Char :=
  ("\"amount\": " ++ amount.toText).toList

/-- The member of a document that shows a date. -/
def dateMember (date : String) : List Char :=
  ("\"date\": \"" ++ date ++ "\"").toList

theorem layOutMember_amount (amount : Decimal) :
    layOutMember .indented 2 (some "amount", .number amount.write) = amountMember amount := by
  have hname : quote "amount" = "\"amount\"".toList := by decide
  simp [layOutMember, quote?, hname, Value.layOut, Layout.indented, amountMember, Decimal.toText]

theorem layOutMember_date {date : String} (hdate : ∀ c ∈ date.toList, IsPlain c) :
    layOutMember .indented 2 (some "date", .text date) = dateMember date := by
  have hname : quote "date" = "\"date\"".toList := by decide
  simp [layOutMember, quote?, hname, Value.text, Value.layOut, Layout.indented, dateMember,
    quote_eq_of_forall hdate]

theorem isPlain_of_mem_toText (d : Date) : ∀ c ∈ d.toText.toList, IsPlain c := by
  intro c hc
  rw [Date.toText, String.toList_ofList] at hc
  rcases Date.mem_write c hc with hdigit | rfl | rfl
  · exact isPlain_of_isDigit hdigit
  · decide
  · decide

theorem toList_document (style : DateStyle) (records : List Record) :
    (document style records).toList =
      (Value.array (records.map (expense style))).layOut .indented 0 := by
  rw [document, Value.toText, String.toList_ofList]

/-- Documents of records that differ in the sign of zero amounts. -/
theorem agreeBut_document_withoutZeroSign (style : DateStyle) (records : List Record) :
    AgreeBut (records.map fun record =>
        (amountMember record.amount, amountMember record.amount.withoutZeroSign))
      (document style records).toList
      (document style (records.map Record.withoutZeroSign)).toList := by
  have hobject : ∀ record, AgreeBut
      [(amountMember record.amount, amountMember record.amount.withoutZeroSign)]
      ((expense style record).layOut .indented 1)
      ((expense style record.withoutZeroSign).layOut .indented 1) := by
    intro record
    rw [← layOutMember_amount, ← layOutMember_amount]
    exact agreeBut_object (some "expenseId", .ofId record.expenseId)
      [(some "employeeId", .ofId record.employeeId),
        (some "employeeName", .text record.employeeName),
        (some "position", .text record.position), (some "description", .text record.description)]
      [(some "date", .text (dateText style record))] _ _
  rw [toList_document, toList_document, List.map_map]
  exact agreeBut_array hobject records

theorem length_amountMember (amount : Decimal) :
    (amountMember amount).length = amount.write.length + 10 := by
  simp [amountMember, Decimal.toText]

theorem document_withoutZeroSign_eq_iff (style : DateStyle) (records : List Record) :
    document style (records.map Record.withoutZeroSign) = document style records ↔
      ∀ record ∈ records, ¬ record.amount.IsSignedZero := by
  have hplaces := agreeBut_document_withoutZeroSign style records
  constructor
  · -- Each sign that is lost makes the second text shorter, and nothing makes it longer.
    intro heq record hrecord hzero
    have hle : ∀ place ∈ records.map fun record =>
        (amountMember record.amount, amountMember record.amount.withoutZeroSign),
        place.2.length ≤ place.1.length := by
      simp only [List.forall_mem_map, length_amountMember]
      intro other _
      by_cases hother : other.amount.IsSignedZero
      · rw [Decimal.write_of_isSignedZero hother, List.length_cons]
        exact Nat.add_le_add_right (Nat.le_succ _) 10
      · rw [Decimal.withoutZeroSign_eq_self_iff.mpr hother]
    have hlength := hplaces.forall_length_eq hle (by rw [heq])
    simp only [List.forall_mem_map, length_amountMember] at hlength
    have hsame := hlength record hrecord
    rw [Decimal.write_of_isSignedZero hzero, List.length_cons] at hsame
    omega
  · intro hsigns
    have hrecord : ∀ record ∈ records, record.withoutZeroSign = id record := by
      intro record hrecord
      rw [Record.withoutZeroSign, Decimal.withoutZeroSign_eq_self_iff.mpr (hsigns record hrecord)]
      rfl
    rw [List.map_congr_left hrecord, List.map_id]

/-- The two styles differ in the dates alone. -/
theorem agreeBut_document_dateTime (records : List Record) :
    AgreeBut (records.map fun record =>
        (dateMember record.date.toText, dateMember (record.date.toText ++ "T00:00:00")))
      (document .calendarDate records).toList (document .dateTime records).toList := by
  have hmoment : ∀ date : Date, date.toText ++ "T00:00:00" = date.toMomentText := by
    intro date
    rw [Date.toText, Date.toMomentText, String.ofList_append, String.ofList_toList]
  have htime : "T00:00:00".toList.all fun c => decide (IsPlain c) := by decide
  have hplain : ∀ date : Date, ∀ c ∈ (date.toText ++ "T00:00:00").toList, IsPlain c := by
    intro date c hc
    rw [String.toList_append, List.mem_append] at hc
    rcases hc with hc | hc
    · exact isPlain_of_mem_toText date c hc
    · exact of_decide_eq_true (List.all_eq_true.mp htime c hc)
  have hobject : ∀ record : Record, AgreeBut
      [(dateMember record.date.toText, dateMember (record.date.toText ++ "T00:00:00"))]
      ((expense .calendarDate record).layOut .indented 1)
      ((expense .dateTime record).layOut .indented 1) := by
    intro record
    rw [← layOutMember_date (isPlain_of_mem_toText record.date),
      ← layOutMember_date (hplain record.date), hmoment]
    exact agreeBut_object (some "expenseId", .ofId record.expenseId)
      [(some "employeeId", .ofId record.employeeId),
        (some "employeeName", .text record.employeeName),
        (some "position", .text record.position), (some "description", .text record.description),
        (some "amount", .number record.amount.write)] [] _ _
  rw [toList_document, toList_document]
  exact agreeBut_array hobject records

end Json

/-! ## Exports -/

namespace Serializer

/-- A JSON export shows the accepted expenses, in either style. -/
theorem exists_render_json (employees : List Employee) (expenses : List Expense) :
    ∃ records, records.map Record.shown = (Batch.validate employees expenses).accepted ∧
      Record.shape (Directory.ofList employees) (Batch.validate employees expenses).accepted =
        .ok records ∧
      ∀ style, ((ofFormat .json style).render employees expenses).result =
        .ok ⟨Json.document style records, records.length,
          (Batch.validate employees expenses).errors⟩ := by
  obtain ⟨records, hjoined, hshape, hrender⟩ := exists_render employees expenses
  exact ⟨records, Record.map_shown hjoined, hshape, fun style => hrender (ofFormat .json style)⟩

theorem mapM_importExpense? {records : List Record} {accepted : List Expense}
    (hshown : records.map Record.shown = accepted) :
    (records.map (Json.expense .calendarDate)).mapM Json.importExpense? =
      some (accepted.map Expense.withoutZeroSign) := by
  rw [Json.mapM_importExpense?_map_expense, ← hshown, List.map_map]
  rfl

/-- Accepted expenses are accepted again without the sign of zero amounts. -/
theorem validate_map_withoutZeroSign (employees : List Employee) (expenses : List Expense) :
    Batch.validate employees
        ((Batch.validate employees expenses).accepted.map Expense.withoutZeroSign) =
      ⟨(Batch.validate employees expenses).accepted.map Expense.withoutZeroSign, []⟩ := by
  apply Batch.validate_eq_of_forall
  intro expense hexpense
  obtain ⟨original, horiginal, rfl⟩ := List.mem_map.mp hexpense
  rw [Expense.isAllowed_withoutZeroSign]
  rw [Batch.validate_eq, List.mem_filter] at horiginal
  exact horiginal.2

/-- What is exported when the accepted expenses are exported again. -/
theorem render_json_again {records : List Record} {expenses : List Expense}
    (hshape : Record.shape (Directory.ofList employees)
      (Batch.validate employees expenses).accepted = .ok records) (style : DateStyle) :
    ((ofFormat .json style).render employees
        ((Batch.validate employees expenses).accepted.map Expense.withoutZeroSign)).result =
      .ok ⟨Json.document style (records.map Record.withoutZeroSign), records.length, []⟩ := by
  have hvalidate := validate_map_withoutZeroSign employees expenses
  have hagain : Record.shape (Directory.ofList employees)
      (Batch.validate employees
        ((Batch.validate employees expenses).accepted.map Expense.withoutZeroSign)).accepted =
        .ok (records.map Record.withoutZeroSign) := by
    rw [hvalidate, Record.shape_withoutZeroSign, hshape]
    rfl
  rw [render_result _ hagain, hvalidate, List.length_map]
  rfl

open Json (Value AgreeBut amountMember dateMember importExpense?)

/-- The objects of a JSON document, under the names of the fields of expenses, are read as the
accepted expenses in order, and all of these are accepted again. The second document is the first
but for the minus signs of zero amounts, which are gone. With times, each date has the first moment
of the day behind it, and nothing else is different. -/
theorem json_export_is_imported_again (employees : List Employee) (expenses : List Expense) :
    ∃ (first second timed : Rendered) (objects : List Value) (imported : List Expense),
      ((ofFormat .json .calendarDate).render employees expenses).result = .ok first ∧
      Json.ofText? first.content = some (.array objects) ∧
      objects.mapM importExpense? = some imported ∧
      Forall₂ Expense.IsReadAs (Batch.validate employees expenses).accepted imported ∧
      Batch.validate employees imported = ⟨imported, []⟩ ∧
      ((ofFormat .json .calendarDate).render employees imported).result = .ok second ∧
      second.accepted = imported.length ∧ second.errors = [] ∧
      AgreeBut ((Batch.validate employees expenses).accepted.map fun expense =>
          (amountMember expense.amount, amountMember expense.amount.withoutZeroSign))
        first.content.toList second.content.toList ∧
      (second.content = first.content ↔
        ∀ expense ∈ (Batch.validate employees expenses).accepted,
          ¬ expense.amount.IsSignedZero) ∧
      ((ofFormat .json .dateTime).render employees expenses).result = .ok timed ∧
      timed.accepted = first.accepted ∧ timed.errors = first.errors ∧
      AgreeBut ((Batch.validate employees expenses).accepted.map fun expense =>
          (dateMember expense.date.toText, dateMember (expense.date.toText ++ "T00:00:00")))
        first.content.toList timed.content.toList := by
  obtain ⟨records, hshown, hshape, hrender⟩ := exists_render_json employees expenses
  have hsigns : (∀ record ∈ records, ¬ record.amount.IsSignedZero) ↔
      ∀ expense ∈ (Batch.validate employees expenses).accepted,
        ¬ expense.amount.IsSignedZero := by
    rw [← hshown, List.forall_mem_map]
    rfl
  have hamounts := Json.agreeBut_document_withoutZeroSign .calendarDate records
  have hdates := Json.agreeBut_document_dateTime records
  refine ⟨_, _, _, _, _, hrender .calendarDate, Json.ofText?_document .calendarDate records,
    mapM_importExpense? hshown, ?_, validate_map_withoutZeroSign employees expenses,
    render_json_again hshape .calendarDate, ?_, rfl, ?_, ?_, hrender .dateTime, rfl, rfl, ?_⟩
  · rw [List.forall₂_map_right_iff, List.forall₂_same]
    exact fun expense _ => expense.isReadAs_withoutZeroSign
  · rw [List.length_map, ← hshown, List.length_map]
  · rw [← hshown, List.map_map]
    exact hamounts
  · rw [← hsigns]
    exact Json.document_withoutZeroSign_eq_iff .calendarDate records
  · rw [← hshown, List.map_map]
    exact hdates

/-- A refund too small for any digit is accepted and shown with its sign, which does not survive the
import. -/
theorem json_export_changes_when_imported_again :
    let owner : Employee :=
      ⟨1, "Maria Georgieva", "Intern", ⟨false, 1200, 0, by decide, by decide⟩, .fixedAmount,
        .hundred, .zero, none⟩
    let expense : Expense :=
      ⟨1, 1, "Transport", ⟨true, 0, 28, by decide, by decide⟩,
        ⟨2025, 3, 12, by decide, by decide, by decide, by decide⟩⟩
    ∃ (first second : Rendered) (objects : List Value) (imported : List Expense),
      ((ofFormat .json .calendarDate).render [owner] [expense]).result = .ok first ∧
      Json.ofText? first.content = some (.array objects) ∧
      objects.mapM importExpense? = some imported ∧
      ((ofFormat .json .calendarDate).render [owner] imported).result = .ok second ∧
      second.content ≠ first.content := by
  intro owner expense
  obtain ⟨records, hshown, hshape, hrender⟩ := exists_render_json [owner] [expense]
  refine ⟨_, _, _, _, hrender .calendarDate, Json.ofText?_document .calendarDate records,
    mapM_importExpense? hshown, render_json_again hshape .calendarDate, ?_⟩
  have haccepted : (Batch.validate [owner] [expense]).accepted = [expense] := by
    rw [Batch.validate_eq_of_forall]
    intro e he
    rw [List.mem_singleton.mp he]
    rfl
  have hmem : expense ∈ records.map Record.shown := by
    rw [hshown, haccepted]
    exact List.mem_cons_self
  obtain ⟨record, hrecord, heq⟩ := List.mem_map.mp hmem
  have hzero : record.amount.IsSignedZero := by
    rw [show record.amount = expense.amount from congrArg Expense.amount heq]
    exact ⟨rfl, rfl⟩
  intro hsame
  exact (Json.document_withoutZeroSign_eq_iff .calendarDate records).mp hsame record hrecord hzero

end Serializer

end ExpenseReport
