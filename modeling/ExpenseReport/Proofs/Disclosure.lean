import ExpenseReport.Proofs.Rendering

/-!
# What a document discloses

A run reads salaries, rules and refused expenses, and none of them gets into its document. Two runs
that accept the same expenses, for owners of the same names and positions, write the same text, even
if all the rest of what they read is different. The other way round, a format decides nothing: the
records are made and the log is filled before a serializer has its say.
-/

namespace ExpenseReport

open List (Forall₂)

/-- What a document shows of an employee besides the id. -/
def Employee.shownPart (e : Employee) : String × String :=
  (e.fullName, e.position)

/-! ## Records of two runs -/

theorem Record.Joins.eq {first second : Record} {expense : Expense} {owner other : Employee}
    (hfirst : first.Joins expense owner) (hsecond : second.Joins expense other)
    (hid : owner.id = other.id) (hshown : owner.shownPart = other.shownPart) : first = second := by
  obtain ⟨hname, hposition⟩ := Prod.mk.inj hshown
  cases first
  cases second
  rw [mk.injEq]
  refine ⟨?_, ?_, ?_, ?_, ?_, ?_, ?_⟩
  · exact hfirst.expenseId_eq.trans hsecond.expenseId_eq.symm
  · exact (hfirst.employeeId_eq.trans hid).trans hsecond.employeeId_eq.symm
  · exact (hfirst.employeeName_eq.trans hname).trans hsecond.employeeName_eq.symm
  · exact (hfirst.position_eq.trans hposition).trans hsecond.position_eq.symm
  · exact hfirst.description_eq.trans hsecond.description_eq.symm
  · exact hfirst.amount_eq.trans hsecond.amount_eq.symm
  · exact hfirst.date_eq.trans hsecond.date_eq.symm

/-- Owners who show the same make the same records, whatever made their rules accept. -/
theorem Record.eq_of_joined {employees others : List Employee} {expenses : List Expense}
    {records records' : List Record}
    (hjoined : Forall₂ (fun expense record =>
      ∃ owner, expense.IsAcceptedBy employees owner ∧ record.Joins expense owner) expenses records)
    (hjoined' : Forall₂ (fun expense record =>
      ∃ owner, expense.IsAcceptedBy others owner ∧ record.Joins expense owner) expenses records')
    (howners : ∀ expense ∈ expenses,
      (expense.ownerAmong? employees).map Employee.shownPart =
        (expense.ownerAmong? others).map Employee.shownPart) : records = records' := by
  induction hjoined generalizing records' with
  | nil =>
      cases hjoined'
      rfl
  | @cons expense record rest records hfirst _ ih =>
      cases hjoined' with
      | cons hfirst' hrest' =>
          obtain ⟨owner, howner, hjoins⟩ := hfirst
          obtain ⟨other, hother, hjoins'⟩ := hfirst'
          obtain ⟨hshown, hothers⟩ := List.forall_mem_cons.mp howners
          rw [howner.1, hother.1, Option.map_some, Option.map_some, Option.some.injEq] at hshown
          have hid : owner.id = other.id := by
            rw [Expense.id_eq_of_ownerAmong? howner.1, Expense.id_eq_of_ownerAmong? hother.1]
          rw [hjoins.eq hjoins' hid hshown, ih hrest' hothers]

/-! ## Decisions in the log -/

/-- Whether an event tells what became of an expense. -/
def Event.isDecision : Event → Bool
  | accepted .. | rejected .. | orphaned .. => true
  | _ => false

theorem Event.isDecision_ofVerdict (expense : Expense) (verdict : Verdict) :
    (ofVerdict expense verdict).isDecision := by
  cases verdict <;> rfl

namespace Serializer

variable {employees : List Employee} {expenses : List Expense}

theorem filter_isDecision_judgingEvents (s : Serializer) :
    (s.judgingEvents employees expenses).filter Event.isDecision =
      expenses.map fun expense =>
        Event.ofVerdict expense ((Directory.ofList employees).judge expense) := by
  simp only [judgingEvents, List.filter_cons, Event.isDecision, Bool.false_eq_true, if_false]
  rw [List.filter_eq_self]
  intro event hevent
  obtain ⟨expense, _, rfl⟩ := List.mem_map.mp hevent
  exact Event.isDecision_ofVerdict expense _

/-- The log of a run has one decision for each expense, whether or not a document was made. -/
theorem filter_isDecision_render (s : Serializer) (employees : List Employee)
    (expenses : List Expense) :
    (s.render employees expenses).events.filter Event.isDecision =
      expenses.map fun expense =>
        Event.ofVerdict expense ((Directory.ofList employees).judge expense) := by
  rw [← s.filter_isDecision_judgingEvents, render]
  split
  next => simp [Event.isDecision]
  next => rfl

/-! ## Documents of two runs -/

/-- Two runs that accept the same expenses for owners of the same names and positions make the same
document. Salaries, modes, limits, formulas, other employees and refused expenses leave no trace in
it. A serializer in turn has no influence on what is accepted or reported. -/
theorem documents_disclose_accepted_records_only :
    (∀ (format : Format) (style : DateStyle) (employees others : List Employee)
      (expenses otherExpenses : List Expense),
      (Batch.validate employees expenses).accepted =
          (Batch.validate others otherExpenses).accepted →
        (∀ expense ∈ (Batch.validate employees expenses).accepted,
          (expense.ownerAmong? employees).map Employee.shownPart =
            (expense.ownerAmong? others).map Employee.shownPart) →
        ∃ first second,
          ((ofFormat format style).render employees expenses).result = .ok first ∧
          ((ofFormat format style).render others otherExpenses).result = .ok second ∧
          first.content = second.content) ∧
      ∀ (employees : List Employee) (expenses : List Expense),
        (∃ records : List Record,
          records.map Record.shown = (Batch.validate employees expenses).accepted ∧
          ∀ s : Serializer, (s.render employees expenses).result =
            (s.serialize records).map fun content =>
              ⟨content, records.length, (Batch.validate employees expenses).errors⟩) ∧
        ∀ s t : Serializer,
          (s.render employees expenses).events.filter Event.isDecision =
            (t.render employees expenses).events.filter Event.isDecision := by
  refine ⟨?_, ?_⟩
  · intro format style employees others expenses otherExpenses haccepted howners
    obtain ⟨records, hjoined, _, hrender⟩ := exists_render employees expenses
    obtain ⟨records', hjoined', _, hrender'⟩ := exists_render others otherExpenses
    rw [← haccepted] at hjoined'
    have hrecords := Record.eq_of_joined hjoined hjoined' howners
    subst hrecords
    exact ⟨_, _, hrender (ofFormat format style), hrender' (ofFormat format style), rfl⟩
  · intro employees expenses
    obtain ⟨records, hjoined, _, hrender⟩ := exists_render employees expenses
    refine ⟨⟨records, Record.map_shown hjoined, hrender⟩, ?_⟩
    intro s t
    rw [s.filter_isDecision_render, t.filter_isDecision_render]

/-- A run that judges the same trip by a share of a higher salary, among other employees and with
expenses that are refused or belong to nobody. -/
theorem documents_disclose_accepted_records_only_of_one_trip :
    let owner : Employee :=
      ⟨1, "Ivan Ivanov", "Manager", ⟨false, 4000, 0, by decide, by decide⟩, .fixedAmount,
        .hundred, .zero, none⟩
    let promoted : Employee :=
      { owner with
        salary := ⟨false, 9000, 0, by decide, by decide⟩
        mode := .percentOfSalary
        maxPercentOfSalary := .one }
    let trip : Expense :=
      ⟨1, 1, "Business trip Varna", ⟨false, 7050, 2, by decide, by decide⟩,
        ⟨2025, 3, 14, by decide, by decide, by decide, by decide⟩⟩
    let refused : Expense := { trip with id := 2, amount := .greatest }
    let orphan : Expense := { trip with id := 3, employeeId := 7 }
    let others : List Employee := [{ owner with id := 5 }, promoted, owner]
    let otherExpenses : List Expense := [refused, trip, orphan]
    (Batch.validate [owner] [trip]).accepted = (Batch.validate others otherExpenses).accepted ∧
      (∀ expense ∈ (Batch.validate [owner] [trip]).accepted,
        (expense.ownerAmong? [owner]).map Employee.shownPart =
          (expense.ownerAmong? others).map Employee.shownPart) ∧
      ∃ first second,
        ((ofFormat .json .dateTime).render [owner] [trip]).result = .ok first ∧
        ((ofFormat .json .dateTime).render others otherExpenses).result = .ok second ∧
        first.content = second.content := by
  intro owner promoted trip refused orphan others otherExpenses
  have haccepted : (Batch.validate [owner] [trip]).accepted =
      (Batch.validate others otherExpenses).accepted := by decide +kernel
  have howners : ∀ expense ∈ (Batch.validate [owner] [trip]).accepted,
      (expense.ownerAmong? [owner]).map Employee.shownPart =
        (expense.ownerAmong? others).map Employee.shownPart := by decide +kernel
  exact ⟨haccepted, howners,
    documents_disclose_accepted_records_only.1 .json .dateTime [owner] others [trip] otherExpenses
      haccepted howners⟩

end Serializer

end ExpenseReport
