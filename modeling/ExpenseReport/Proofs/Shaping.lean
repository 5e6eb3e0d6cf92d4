import ExpenseReport.Proofs.Rendering

/-!
# Records for all expenses or for none

Expenses are joined with their owners one after the other, and the first that belongs to nobody puts
an end to it. So a list of records is complete, and a fault names the expense that everything in
front of it was fine with, whatever comes behind it.
-/

namespace ExpenseReport

open List (Forall₂)

/-- Somebody has the id that the expense names. -/
def Expense.IsOwned (expense : Expense) (employees : List Employee) : Prop :=
  ∃ e ∈ employees, e.id = expense.employeeId

/-- Nobody owns the expense, and it is the first in the list of which this is true. -/
def Expense.IsFirstOrphan (orphan : Expense) (employees : List Employee)
    (expenses : List Expense) : Prop :=
  ∃ front back, expenses = front ++ orphan :: back ∧
    (∀ expense ∈ front, expense.IsOwned employees) ∧ ¬ orphan.IsOwned employees

/-- The record joins the expense with the first employee who has the id it names. -/
def Record.IsOf (record : Record) (employees : List Employee) (expense : Expense) : Prop :=
  ∃ owner, expense.ownerAmong? employees = some owner ∧ record.Joins expense owner

variable {employees : List Employee} {expense orphan : Expense} {expenses rest : List Expense}
  {record : Record} {records : List Record} {fault : Fault}

theorem Expense.isOwned_iff :
    expense.IsOwned employees ↔ ∃ owner, expense.ownerAmong? employees = some owner := by
  rw [← Option.isSome_iff_exists, ownerAmong?, List.find?_isSome]
  simp [IsOwned]

theorem Record.Joins.eq_ofOwned {owner : Employee} (hjoins : record.Joins expense owner) :
    record = ofOwned owner expense := by
  obtain ⟨hid, howner, hname, hposition, hdescription, hamount, hdate⟩ := hjoins
  cases record
  simp only [ofOwned, mk.injEq]
  exact ⟨hid, howner, hname, hposition, hdescription, hamount, hdate⟩

/-! ## One expense -/

namespace Record

theorem ofExpense_eq_ok_iff :
    ofExpense (Directory.ofList employees) expense = .ok record ↔
      record.IsOf employees expense := by
  constructor
  · intro hrecord
    rw [ofExpense, Directory.get?_ofList, ← Expense.ownerAmong?] at hrecord
    split at hrecord
    next owner howner =>
      cases hrecord
      exact ⟨owner, howner, ofOwned_joins owner expense⟩
    next => cases hrecord
  · rintro ⟨owner, howner, hjoins⟩
    rw [ofExpense_eq howner, hjoins.eq_ofOwned]

theorem ofExpense_eq_error_iff :
    ofExpense (Directory.ofList employees) expense = .error fault ↔
      ¬ expense.IsOwned employees ∧ fault = .missingEmployee expense.employeeId expense.id := by
  rw [ofExpense, Directory.get?_ofList, ← Expense.ownerAmong?, Expense.isOwned_iff]
  cases expense.ownerAmong? employees <;> simp [eq_comm]

/-! ## One expense after the other -/

/-- Records go in front of those of the expenses behind. -/
theorem shape_cons_of_isOf (hfirst : record.IsOf employees expense) :
    shape (Directory.ofList employees) (expense :: rest) =
      (shape (Directory.ofList employees) rest).map (record :: ·) := by
  rw [shape, ofExpense_eq_ok_iff.mpr hfirst]
  cases shape (Directory.ofList employees) rest <;> rfl

/-- Behind an orphan nothing is looked at. -/
theorem shape_cons_of_not_isOwned (horphan : ¬ orphan.IsOwned employees) :
    shape (Directory.ofList employees) (orphan :: rest) =
      .error (.missingEmployee orphan.employeeId orphan.id) := by
  rw [shape, ofExpense_eq_error_iff.mpr ⟨horphan, rfl⟩]
  rfl

theorem exists_isOf (howned : expense.IsOwned employees) :
    ∃ record : Record, record.IsOf employees expense := by
  obtain ⟨owner, howner⟩ := Expense.isOwned_iff.mp howned
  exact ⟨ofOwned owner expense, owner, howner, ofOwned_joins owner expense⟩

/-! ## All expenses -/

theorem shape_of_forall₂ (hrecords : Forall₂ (fun expense record => record.IsOf employees expense)
      expenses records) :
    shape (Directory.ofList employees) expenses = .ok records := by
  induction hrecords with
  | nil => rfl
  | cons hfirst _ ih => rw [shape_cons_of_isOf hfirst, ih, Except.map]

/-- Expenses that are all owned have records. -/
theorem exists_forall₂ (howned : ∀ expense ∈ expenses, expense.IsOwned employees) :
    ∃ records : List Record,
      Forall₂ (fun expense record => record.IsOf employees expense) expenses records := by
  induction expenses with
  | nil => exact ⟨[], .nil⟩
  | cons expense rest ih =>
      obtain ⟨hfirst, hrest⟩ := List.forall_mem_cons.mp howned
      obtain ⟨record, hrecord⟩ := exists_isOf hfirst
      obtain ⟨records, hrecords⟩ := ih hrest
      exact ⟨record :: records, .cons hrecord hrecords⟩

theorem shape_of_isFirstOrphan (horphan : orphan.IsFirstOrphan employees expenses) :
    shape (Directory.ofList employees) expenses =
      .error (.missingEmployee orphan.employeeId orphan.id) := by
  obtain ⟨front, back, rfl, hfront, hnobody⟩ := horphan
  induction front with
  | nil => exact shape_cons_of_not_isOwned hnobody
  | cons expense front ih =>
      obtain ⟨hfirst, hrest⟩ := List.forall_mem_cons.mp hfront
      obtain ⟨record, hrecord⟩ := exists_isOf hfirst
      rw [List.cons_append, shape_cons_of_isOf hrecord, ih hrest]
      rfl

/-- Either every expense is owned, or there is a first one that is not. -/
theorem forall_isOwned_or_exists_isFirstOrphan (employees : List Employee)
    (expenses : List Expense) :
    (∀ expense ∈ expenses, expense.IsOwned employees) ∨
      ∃ orphan : Expense, orphan.IsFirstOrphan employees expenses := by
  induction expenses with
  | nil => exact Or.inl fun _ hmem => absurd hmem List.not_mem_nil
  | cons expense rest ih =>
      by_cases hfirst : expense.IsOwned employees
      · rcases ih with hrest | ⟨orphan, front, back, rfl, hfront, hnobody⟩
        · exact Or.inl (List.forall_mem_cons.mpr ⟨hfirst, hrest⟩)
        · exact Or.inr ⟨orphan, expense :: front, back, rfl,
            List.forall_mem_cons.mpr ⟨hfirst, hfront⟩, hnobody⟩
      · exact Or.inr ⟨expense, [], rest, rfl, by simp, hfirst⟩

theorem shape_cases (employees : List Employee) (expenses : List Expense) :
    ((∀ expense ∈ expenses, expense.IsOwned employees) ∧ ∃ records : List Record,
        Forall₂ (fun expense record => record.IsOf employees expense) expenses records ∧
        shape (Directory.ofList employees) expenses = .ok records) ∨
      ∃ orphan : Expense, orphan.IsFirstOrphan employees expenses ∧
        shape (Directory.ofList employees) expenses =
          .error (.missingEmployee orphan.employeeId orphan.id) := by
  rcases forall_isOwned_or_exists_isFirstOrphan employees expenses with howned | ⟨orphan, horphan⟩
  · obtain ⟨records, hrecords⟩ := exists_forall₂ howned
    exact Or.inl ⟨howned, records, hrecords, shape_of_forall₂ hrecords⟩
  · exact Or.inr ⟨orphan, horphan, shape_of_isFirstOrphan horphan⟩

theorem shape_eq_ok_iff :
    shape (Directory.ofList employees) expenses = .ok records ↔
      Forall₂ (fun expense record => record.IsOf employees expense) expenses records := by
  constructor
  · intro hshape
    rcases shape_cases employees expenses with ⟨_, joined, hjoined, hok⟩ | ⟨orphan, _, herror⟩
    · rw [hok] at hshape
      cases hshape
      exact hjoined
    · rw [herror] at hshape
      cases hshape
  · exact shape_of_forall₂

theorem shape_eq_error_iff :
    shape (Directory.ofList employees) expenses = .error fault ↔
      ∃ orphan : Expense, orphan.IsFirstOrphan employees expenses ∧
        fault = .missingEmployee orphan.employeeId orphan.id := by
  constructor
  · intro hshape
    rcases shape_cases employees expenses with ⟨_, _, _, hok⟩ | ⟨orphan, horphan, herror⟩
    · rw [hok] at hshape
      cases hshape
    · rw [herror] at hshape
      cases hshape
      exact ⟨orphan, horphan, rfl⟩
  · rintro ⟨orphan, horphan, rfl⟩
    exact shape_of_isFirstOrphan horphan

/-- Records are made exactly when every expense is owned, and then one for each, in order, with the
first employee of its id. Otherwise there are none, and the fault names the first expense that
nobody owns, however many more there are. -/
theorem shaping_is_all_or_nothing (employees : List Employee) (expenses : List Expense) :
    ((∃ records, shape (Directory.ofList employees) expenses = .ok records) ↔
        ∀ expense ∈ expenses, expense.IsOwned employees) ∧
      (∀ records, shape (Directory.ofList employees) expenses = .ok records ↔
        Forall₂ (fun expense record => record.IsOf employees expense) expenses records) ∧
      ∀ fault, shape (Directory.ofList employees) expenses = .error fault ↔
        ∃ orphan : Expense, orphan.IsFirstOrphan employees expenses ∧
          fault = .missingEmployee orphan.employeeId orphan.id := by
  refine ⟨?_, fun _ => shape_eq_ok_iff, fun _ => shape_eq_error_iff⟩
  constructor
  · rintro ⟨records, hshape⟩
    rcases shape_cases employees expenses with ⟨howned, _⟩ | ⟨_, _, herror⟩
    · exact howned
    · rw [herror] at hshape
      cases hshape
  · intro howned
    obtain ⟨records, hrecords⟩ := exists_forall₂ howned
    exact ⟨records, shape_of_forall₂ hrecords⟩

end Record

end ExpenseReport
