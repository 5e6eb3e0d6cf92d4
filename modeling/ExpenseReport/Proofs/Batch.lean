import ExpenseReport.Batch
import ExpenseReport.Proofs.Text.Digits

/-!
# Batches and single expenses

A batch is judged with two collections that grow while it lasts. What an expense comes to is settled
without them: by its owner, the first employee with the id it names, and by the check that anybody
can make on that owner and that expense alone. The results say that the collections end up with
exactly what these single checks give, in the order of the batch.
-/

namespace ExpenseReport

/-- The owner of an expense: the first employee with the id that it names. -/
def Expense.ownerAmong? (expense : Expense) (employees : List Employee) : Option Employee :=
  employees.find? (·.id = expense.employeeId)

/-- Whether an expense has an owner and the owner's rule accepts it. -/
def Expense.isAllowed (expense : Expense) (employees : List Employee) : Bool :=
  (expense.ownerAmong? employees).any fun owner => (owner.check expense).isAccepted

/-- What there is to say against an expense: that nobody is its owner, or why it is refused. -/
def Expense.objection? (expense : Expense) (employees : List Employee) : Option String :=
  match expense.ownerAmong? employees with
  | none =>
    some ("No employee with Id=" ++ toString expense.employeeId.toNat ++ " for expense "
      ++ toString expense.id.toNat ++ ".")
  | some owner =>
    match owner.check expense with
    | .accepted _ => none
    | .rejected reason => some reason.message

theorem Verdict.orphanMessage_eq (expense : Expense) :
    orphanMessage expense =
      "No employee with Id=" ++ toString expense.employeeId.toNat ++ " for expense "
        ++ toString expense.id.toNat ++ "." := by
  unfold orphanMessage
  rw [Text.numeral_eq_toString, Text.numeral_eq_toString]

namespace Batch

variable (employees : List Employee)

/-- Two batches, one behind the other. -/
def append (a b : Batch) : Batch :=
  ⟨a.accepted ++ b.accepted, a.errors ++ b.errors⟩

/-- A verdict puts an expense into one collection, and the single check says into which. -/
theorem add_judge (batch : Batch) (expense : Expense) :
    batch.add expense ((Directory.ofList employees).judge expense) =
      ⟨batch.accepted ++ [expense].filter (·.isAllowed employees),
        batch.errors ++ [expense].filterMap (·.objection? employees)⟩ := by
  unfold Directory.judge
  rw [Directory.get?_ofList]
  cases howner : employees.find? (·.id = expense.employeeId) with
  | none =>
      have hallowed : expense.isAllowed employees = false := by
        simp [Expense.isAllowed, Expense.ownerAmong?, howner]
      have hobjection : expense.objection? employees = some (Verdict.orphanMessage expense) := by
        simp only [Expense.objection?, Expense.ownerAmong?, howner, Verdict.orphanMessage_eq]
      simp [add, hallowed, hobjection]
  | some owner =>
      cases hcheck : owner.check expense with
      | accepted limit =>
          have hallowed : expense.isAllowed employees = true := by
            simp [Expense.isAllowed, Expense.ownerAmong?, howner, hcheck, Outcome.isAccepted]
          have hobjection : expense.objection? employees = none := by
            simp [Expense.objection?, Expense.ownerAmong?, howner, hcheck]
          simp [add, hcheck, hallowed, hobjection]
      | rejected reason =>
          have hallowed : expense.isAllowed employees = false := by
            simp [Expense.isAllowed, Expense.ownerAmong?, howner, hcheck, Outcome.isAccepted]
          have hobjection : expense.objection? employees = some reason.message := by
            simp [Expense.objection?, Expense.ownerAmong?, howner, hcheck]
          simp [add, hcheck, hallowed, hobjection]

/-- Judging more expenses appends to both collections what the single checks give. -/
theorem foldl_add_judge (batch : Batch) (expenses : List Expense) :
    expenses.foldl (fun batch expense =>
        batch.add expense ((Directory.ofList employees).judge expense)) batch =
      ⟨batch.accepted ++ expenses.filter (·.isAllowed employees),
        batch.errors ++ expenses.filterMap (·.objection? employees)⟩ := by
  induction expenses generalizing batch with
  | nil => simp
  | cons expense rest ih =>
      have haccepted : (expense :: rest).filter (·.isAllowed employees) =
          [expense].filter (·.isAllowed employees) ++ rest.filter (·.isAllowed employees) :=
        List.filter_append [expense] rest
      have herrors : (expense :: rest).filterMap (·.objection? employees) =
          [expense].filterMap (·.objection? employees) ++
            rest.filterMap (·.objection? employees) :=
        @List.filterMap_append _ _ [expense] rest _
      rw [List.foldl_cons, ih, add_judge, haccepted, herrors, List.append_assoc, List.append_assoc]

theorem validate_eq (expenses : List Expense) :
    validate employees expenses =
      ⟨expenses.filter (·.isAllowed employees), expenses.filterMap (·.objection? employees)⟩ := by
  rw [validate, judgedBy, foldl_add_judge]
  simp [empty]

/-- There is something to say against an expense exactly when it is not allowed. -/
theorem isAllowed_iff_objection?_eq_none (expense : Expense) :
    expense.isAllowed employees ↔ expense.objection? employees = none := by
  unfold Expense.isAllowed Expense.objection?
  cases expense.ownerAmong? employees with
  | none => simp
  | some owner => cases hcheck : owner.check expense <;> simp [hcheck, Outcome.isAccepted]

/-- Every expense of a batch is counted once. -/
theorem length_accepted_add_length_errors (expenses : List Expense) :
    (validate employees expenses).accepted.length + (validate employees expenses).errors.length =
      expenses.length := by
  rw [validate_eq]
  dsimp only
  induction expenses with
  | nil => rfl
  | cons expense rest ih =>
      have hiff := isAllowed_iff_objection?_eq_none employees expense
      cases hobjection : expense.objection? employees with
      | none =>
          have hallowed := hiff.mpr hobjection
          simp only [List.filter_cons, hallowed, if_true, List.filterMap_cons, hobjection,
            List.length_cons]
          omega
      | some message =>
          have hrefused : ¬ expense.isAllowed employees := by simp [hiff, hobjection]
          simp only [List.filter_cons, hrefused, Bool.false_eq_true, if_false, List.filterMap_cons,
            hobjection, List.length_cons]
          omega

theorem validate_append (xs ys : List Expense) :
    validate employees (xs ++ ys) = (validate employees xs).append (validate employees ys) := by
  simp only [validate_eq, append, List.filter_append, List.filterMap_append]

/-- A batch of allowed expenses is accepted as it is. -/
theorem validate_eq_of_forall {expenses : List Expense}
    (hallowed : ∀ expense ∈ expenses, expense.isAllowed employees) :
    validate employees expenses = ⟨expenses, []⟩ := by
  have hobjection : ∀ expense ∈ expenses, expense.objection? employees = none :=
    fun expense hexpense =>
      (isAllowed_iff_objection?_eq_none employees expense).mp (hallowed expense hexpense)
  rw [validate_eq, List.filter_eq_self.mpr hallowed, List.filterMap_eq_nil_iff.mpr hobjection]

/-- A batch splits into the expenses that their owners accept and the messages for all others, both
in order. Each expense is on one side alone, and no other expense has a say in it. -/
theorem validate_splits_by_single_checks (expenses others : List Expense) :
    (validate employees expenses).accepted = expenses.filter (·.isAllowed employees) ∧
      (validate employees expenses).errors = expenses.filterMap (·.objection? employees) ∧
      (∀ expense : Expense,
        expense.isAllowed employees ↔ expense.objection? employees = none) ∧
      (validate employees expenses).accepted.length + (validate employees expenses).errors.length =
        expenses.length ∧
      validate employees (expenses ++ others) =
        (validate employees expenses).append (validate employees others) := by
  refine ⟨?_, ?_, isAllowed_iff_objection?_eq_none employees,
    length_accepted_add_length_errors employees expenses, validate_append employees expenses others⟩
  · rw [validate_eq]
  · rw [validate_eq]

end Batch

end ExpenseReport
