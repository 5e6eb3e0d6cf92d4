import ExpenseReport.Exporter
import ExpenseReport.Proofs.Batch
import Mathlib.Data.List.Forall2

/-!
# Rendering what was accepted

A batch is judged first and its accepted expenses are joined with their owners afterwards, by
looking the owners up a second time. The second look finds the same employees, so rendering stops at
no expense, and every record belongs to the employee whose rule accepted the expense.
-/

namespace ExpenseReport

open List (Forall₂)

variable {employees : List Employee} {expenses : List Expense}

/-! ## Owners that accepted -/

/-- The owner of the expense is this employee, whose rule accepts it. -/
def Expense.IsAcceptedBy (expense : Expense) (employees : List Employee) (owner : Employee) :
    Prop :=
  expense.ownerAmong? employees = some owner ∧ ∃ limit, owner.check expense = .accepted limit

theorem Expense.isAllowed_iff {expense : Expense} :
    expense.isAllowed employees ↔ ∃ owner, expense.IsAcceptedBy employees owner := by
  unfold Expense.isAllowed Expense.IsAcceptedBy
  cases expense.ownerAmong? employees with
  | none => simp
  | some owner => cases hcheck : owner.check expense <;> simp [hcheck, Outcome.isAccepted]

theorem Batch.exists_isAcceptedBy {expense : Expense}
    (hexpense : expense ∈ (validate employees expenses).accepted) :
    ∃ owner, expense.IsAcceptedBy employees owner := by
  rw [validate_eq, List.mem_filter] at hexpense
  exact Expense.isAllowed_iff.mp hexpense.2

/-! ## Records -/

/-- A record shows the expense as it is and the name and position of the employee. -/
structure Record.Joins (record : Record) (expense : Expense) (owner : Employee) : Prop where
  expenseId_eq : record.expenseId = expense.id
  employeeId_eq : record.employeeId = owner.id
  employeeName_eq : record.employeeName = owner.fullName
  position_eq : record.position = owner.position
  description_eq : record.description = expense.description
  amount_eq : record.amount = expense.amount
  date_eq : record.date = expense.date

theorem Record.ofOwned_joins (owner : Employee) (expense : Expense) :
    (ofOwned owner expense).Joins expense owner :=
  ⟨rfl, rfl, rfl, rfl, rfl, rfl, rfl⟩

/-- The expense that a record shows. -/
def Record.shown (record : Record) : Expense :=
  ⟨record.expenseId, record.employeeId, record.description, record.amount, record.date⟩

theorem Expense.id_eq_of_ownerAmong? {expense : Expense} {owner : Employee}
    (howner : expense.ownerAmong? employees = some owner) : owner.id = expense.employeeId := by
  simpa using List.find?_some howner

theorem Record.Joins.shown_eq {record : Record} {expense : Expense} {owner : Employee}
    (hjoins : record.Joins expense owner) (howner : expense.IsAcceptedBy employees owner) :
    record.shown = expense := by
  rw [shown, hjoins.expenseId_eq, hjoins.employeeId_eq, Expense.id_eq_of_ownerAmong? howner.1,
    hjoins.description_eq, hjoins.amount_eq, hjoins.date_eq]

theorem Record.map_shown {records : List Record}
    (hjoined : Forall₂ (fun expense record =>
      ∃ owner, expense.IsAcceptedBy employees owner ∧ record.Joins expense owner)
      expenses records) : records.map shown = expenses := by
  induction hjoined with
  | nil => rfl
  | cons hfirst _ ih =>
      obtain ⟨owner, howner, hjoins⟩ := hfirst
      rw [List.map_cons, hjoins.shown_eq howner, ih]

theorem Record.ofExpense_eq {expense : Expense} {owner : Employee}
    (howner : expense.ownerAmong? employees = some owner) :
    ofExpense (Directory.ofList employees) expense = .ok (ofOwned owner expense) := by
  rw [ofExpense, Directory.get?_ofList, ← Expense.ownerAmong?, howner]

theorem Record.shape_cons {directory : Directory} {expense : Expense} {rest : List Expense}
    {record : Record} {records : List Record} (hfirst : ofExpense directory expense = .ok record)
    (hrest : shape directory rest = .ok records) :
    shape directory (expense :: rest) = .ok (record :: records) := by
  rw [shape, hfirst, hrest]
  rfl

/-- Expenses that all have an owner who accepts them are all joined with that owner. -/
theorem Record.exists_shape (haccepted : ∀ expense ∈ expenses,
      ∃ owner, expense.IsAcceptedBy employees owner) :
    ∃ records, shape (Directory.ofList employees) expenses = .ok records ∧
      Forall₂ (fun expense record =>
        ∃ owner, expense.IsAcceptedBy employees owner ∧ record.Joins expense owner)
        expenses records := by
  induction expenses with
  | nil => exact ⟨[], rfl, .nil⟩
  | cons expense rest ih =>
      obtain ⟨⟨owner, howner⟩, hrest⟩ := List.forall_mem_cons.mp haccepted
      obtain ⟨records, hshape, hjoined⟩ := ih hrest
      exact ⟨ofOwned owner expense :: records, shape_cons (ofExpense_eq howner.1) hshape,
        .cons ⟨owner, howner, ofOwned_joins owner expense⟩ hjoined⟩

/-! ## Documents -/

namespace Serializer

theorem documentOf_judgedBy (s : Serializer) {records : List Record}
    (hshape : Record.shape (Directory.ofList employees)
      (Batch.validate employees expenses).accepted = .ok records) :
    s.documentOf (Directory.ofList employees)
        (Batch.judgedBy (Directory.ofList employees) expenses) =
      (s.serialize records).map fun content =>
        ⟨content, records.length, (Batch.validate employees expenses).errors⟩ := by
  rw [← Batch.validate, documentOf, hshape]
  change (s.serialize records >>= fun content => _) = _
  cases s.serialize records <;> rfl

/-- Once the accepted expenses have their records, only the serializer can fail. -/
theorem render_eq (s : Serializer) {records : List Record}
    (hshape : Record.shape (Directory.ofList employees)
      (Batch.validate employees expenses).accepted = .ok records) :
    s.render employees expenses =
      match s.serialize records with
      | .error fault => ⟨s.judgingEvents employees expenses, .error fault⟩
      | .ok content =>
        ⟨s.judgingEvents employees expenses ++
            [.rendered records.length (Batch.validate employees expenses).errors.length],
          .ok ⟨content, records.length, (Batch.validate employees expenses).errors⟩⟩ := by
  simp only [render, documentOf_judgedBy s hshape]
  cases s.serialize records <;> rfl

theorem render_result (s : Serializer) {records : List Record}
    (hshape : Record.shape (Directory.ofList employees)
      (Batch.validate employees expenses).accepted = .ok records) :
    (s.render employees expenses).result =
      (s.serialize records).map fun content =>
        ⟨content, records.length, (Batch.validate employees expenses).errors⟩ := by
  rw [render_eq s hshape]
  cases s.serialize records <;> rfl

/-- Every serializer is handed the same records, those of the accepted expenses. -/
theorem exists_render (employees : List Employee) (expenses : List Expense) :
    ∃ records : List Record,
      Forall₂ (fun expense record =>
          ∃ owner, expense.IsAcceptedBy employees owner ∧ record.Joins expense owner)
        (Batch.validate employees expenses).accepted records ∧
      Record.shape (Directory.ofList employees) (Batch.validate employees expenses).accepted =
        .ok records ∧
      ∀ s : Serializer, (s.render employees expenses).result =
        (s.serialize records).map fun content =>
          ⟨content, records.length, (Batch.validate employees expenses).errors⟩ := by
  obtain ⟨records, hshape, hjoined⟩ :=
    Record.exists_shape fun _ hexpense => Batch.exists_isAcceptedBy hexpense
  exact ⟨records, hjoined, hshape, fun s => render_result s hshape⟩

/-- An export that succeeds has put a rendered document into its file. -/
theorem exists_of_exportTo_eq_ok {s : Serializer} {destination : String} {files : Files}
    {result : ExportResult}
    (hexport : (s.exportTo employees expenses destination files).1.result = .ok result) :
    ∃ rendered, (s.render employees expenses).result = .ok rendered ∧
      files.write destination rendered.content =
        .ok (s.exportTo employees expenses destination files).2 ∧
      result = ⟨destination, rendered.accepted, rendered.errors⟩ := by
  simp only [exportTo] at hexport ⊢
  cases hrender : (s.render employees expenses).result with
  | error fault => simp [hrender] at hexport
  | ok rendered =>
      simp only [hrender] at hexport ⊢
      cases hwrite : files.write destination rendered.content with
      | error error => simp [hwrite] at hexport
      | ok written =>
          simp only [hwrite, Except.ok.injEq] at hexport ⊢
          exact ⟨rendered, rfl, hwrite, hexport.symm⟩

/-- What an export wrote is what its serializer made of the records. -/
theorem exists_content_of_exportTo_eq_ok {s : Serializer} {destination : String} {files : Files}
    {result : ExportResult} {records : List Record} {errors : List String}
    (hrender : (s.render employees expenses).result =
      (s.serialize records).map fun content => ⟨content, records.length, errors⟩)
    (hexport : (s.exportTo employees expenses destination files).1.result = .ok result) :
    ∃ content, s.serialize records = .ok content ∧
      files.write destination content =
        .ok (s.exportTo employees expenses destination files).2 ∧
      result = ⟨destination, records.length, errors⟩ := by
  obtain ⟨rendered, hrendered, hwrite, rfl⟩ := exists_of_exportTo_eq_ok hexport
  rw [hrender] at hrendered
  cases hserialize : s.serialize records with
  | error fault =>
      rw [hserialize] at hrendered
      cases hrendered
  | ok content =>
      rw [hserialize] at hrendered
      cases hrendered
      exact ⟨content, rfl, hwrite, rfl⟩

/-- The document of a batch shows each accepted expense, in order, with the employee whose rule
accepted it, and no built-in format fails to make one. Nothing is counted twice or not at all. -/
theorem render_shows_the_judged_owners (employees : List Employee) (expenses : List Expense) :
    ∃ records : List Record,
      Forall₂ (fun expense record =>
          ∃ owner, expense.IsAcceptedBy employees owner ∧ record.Joins expense owner)
        (Batch.validate employees expenses).accepted records ∧
      (∀ s : Serializer, (s.render employees expenses).result =
        (s.serialize records).map fun content =>
          ⟨content, records.length, (Batch.validate employees expenses).errors⟩) ∧
      ∀ (format : Format) (style : DateStyle), ∃ rendered,
        ((ofFormat format style).render employees expenses).result = .ok rendered ∧
          (ofFormat format style).serialize records = .ok rendered.content ∧
          rendered.accepted = records.length ∧
          rendered.accepted + rendered.errors.length = expenses.length := by
  obtain ⟨records, hshape, hjoined⟩ :=
    Record.exists_shape fun _ hexpense => Batch.exists_isAcceptedBy hexpense
  refine ⟨records, hjoined, fun s => render_result s hshape, fun format style => ?_⟩
  refine ⟨_, render_result (ofFormat format style) hshape, rfl, rfl, ?_⟩
  rw [← hjoined.length_eq]
  exact Batch.length_accepted_add_length_errors employees expenses

end Serializer

end ExpenseReport
