import ExpenseReport.Proofs.Decimal.Writing
import ExpenseReport.Proofs.Export
import ExpenseReport.Proofs.Rule.Limit

/-!
# What a log tells

Events are collected while a run goes on, apart from what it returns, and the log shows a line for
each. The two agree: between its opening and its end the log has one line for each expense, which
names the owner and the limit or the error that the result has as well, and the end shows how far
the run got and with which counts.
-/

namespace ExpenseReport

open List (Forall₂)

/-! ## Lines -/

/-- A line of a log: its level, its message, and named values. -/
structure Line where
  level : String
  message : String
  fields : List (String × String)

/-- The line that shows an event. -/
def Event.line (event : Event) : Line :=
  ⟨event.level.name, event.message, event.fields⟩

/-- What a run leaves for others to see: the lines of its log and how it ended. -/
def Logged.report {α : Type} (run : Logged α) : List Line × Except Fault α :=
  (run.events.map Event.line, run.result)

/-! ## Lines about single expenses -/

/-- The line tells what became of the expense. An accepted amount is within the limit that every
amount of its owner is compared with, and that limit is read from its text, but for the sign of a
zero. -/
inductive Line.Tells (employees : List Employee) (expense : Expense) : Line → Prop where
  | accepted {owner : Employee} {limit : Decimal}
      (howner : expense.ownerAmong? employees = some owner)
      (hlimit : ∀ other, (owner.check other).IsDecidedBy other.amount limit)
      (hle : expense.amount ≤ limit)
      (hread : Decimal.ofText? limit.toText = some limit.withoutZeroSign) :
      Tells employees expense ⟨"DEBUG", "Expense accepted",
        [("expense_id", toString expense.id.toNat), ("employee_id", toString owner.id.toNat),
          ("limit", limit.toText)]⟩
  | rejected {owner : Employee} {reason : Rejection}
      (howner : expense.ownerAmong? employees = some owner)
      (hcheck : owner.check expense = .rejected reason) :
      Tells employees expense ⟨"WARN", "Expense rejected",
        [("expense_id", toString expense.id.toNat), ("employee_id", toString owner.id.toNat),
          ("error", reason.message)]⟩
  | orphaned (howner : expense.ownerAmong? employees = none) :
      Tells employees expense ⟨"WARN", "Expense has no owner",
        [("expense_id", toString expense.id.toNat),
          ("error", "No employee with Id=" ++ toString expense.employeeId.toNat ++ " for expense "
            ++ toString expense.id.toNat ++ ".")]⟩

/-- The limit that an owner accepted an amount with is the one for all amounts. -/
theorem Employee.isDecidedBy_of_check {owner : Employee} {expense : Expense} {limit : Decimal}
    (hcheck : owner.check expense = .accepted limit) (other : Expense) :
    (owner.check other).IsDecidedBy other.amount limit := by
  rcases owner.rule.evaluate_cases owner with ⟨limit', hdecided⟩ | hrefused
  · have hlimit : (owner.check expense).limit? = some limit' := (hdecided expense).limit_eq
    rw [hcheck, Outcome.limit?, Option.some.injEq] at hlimit
    rw [hlimit]
    exact hdecided other
  · have haccepted : (owner.check expense).isAccepted = false := hrefused expense
    rw [hcheck] at haccepted
    cases haccepted

namespace Event

theorem line_opened (format : Format) :
    (opened format).line = ⟨"SPAN", "export", [("format", format.key)]⟩ :=
  rfl

theorem line_started (employees expenses : Nat) :
    (started employees expenses).line =
      ⟨"INFO", "Starting export",
        [("employees", toString employees), ("expenses", toString expenses)]⟩ := by
  simp only [line, level, Level.name, message, fields, Text.numeral_eq_toString]

theorem line_accepted (expenseId employeeId : Id) (limit : Decimal) :
    (accepted expenseId employeeId limit).line =
      ⟨"DEBUG", "Expense accepted", [("expense_id", toString expenseId.toNat),
        ("employee_id", toString employeeId.toNat), ("limit", limit.toText)]⟩ := by
  simp only [line, level, Level.name, message, fields, Text.numeral_eq_toString]

theorem line_rejected (expenseId employeeId : Id) (error : String) :
    (rejected expenseId employeeId error).line =
      ⟨"WARN", "Expense rejected", [("expense_id", toString expenseId.toNat),
        ("employee_id", toString employeeId.toNat), ("error", error)]⟩ := by
  simp only [line, level, Level.name, message, fields, Text.numeral_eq_toString]

theorem line_orphaned (expenseId : Id) (error : String) :
    (orphaned expenseId error).line =
      ⟨"WARN", "Expense has no owner",
        [("expense_id", toString expenseId.toNat), ("error", error)]⟩ := by
  simp only [line, level, Level.name, message, fields, Text.numeral_eq_toString]

theorem line_rendered (kept leftOut : Nat) :
    (rendered kept leftOut).line =
      ⟨"INFO", "Export rendered",
        [("accepted", toString kept), ("rejected", toString leftOut)]⟩ := by
  simp only [line, level, Level.name, message, fields, Text.numeral_eq_toString]

theorem line_written (destination : String) (bytes : Nat) :
    (written destination bytes).line =
      ⟨"INFO", "Export written", [("destination", destination), ("bytes", toString bytes)]⟩ := by
  simp only [line, level, Level.name, message, fields, Text.numeral_eq_toString]

theorem tells_line_ofVerdict (employees : List Employee) (expense : Expense) :
    (ofVerdict expense ((Directory.ofList employees).judge expense)).line.Tells employees
      expense := by
  unfold Directory.judge
  rw [Directory.get?_ofList, ← Expense.ownerAmong?]
  cases howner : expense.ownerAmong? employees with
  | none =>
      rw [ofVerdict, line_orphaned, Verdict.orphanMessage_eq]
      exact .orphaned howner
  | some owner =>
      dsimp only
      cases hcheck : owner.check expense with
      | rejected reason =>
          rw [ofVerdict, line_rejected]
          exact .rejected howner hcheck
      | accepted limit =>
          have hdecided := Employee.isDecidedBy_of_check hcheck
          have hle : expense.amount ≤ limit := by
            rw [← (hdecided expense).isAccepted_iff, hcheck]
            rfl
          rw [ofVerdict, line_accepted]
          exact .accepted howner hdecided hle (Decimal.ofText?_toText limit)

end Event

namespace Line

variable {employees : List Employee} {expense : Expense} {expenses : List Expense} {line : Line}
  {lines : List Line}

/-! ## Lines about a batch -/

/-- An allowed expense leaves a line for debugging. Any other leaves a warning with what there is to
say against it. -/
theorem Tells.debug_or_warn (htells : line.Tells employees expense) :
    (line.level = "DEBUG" ∧ expense.objection? employees = none) ∨
      ∃ message, line.level = "WARN" ∧ expense.objection? employees = some message ∧
        line.fields.lookup "error" = some message := by
  cases htells with
  | accepted howner hlimit hle =>
      left
      have hallowed : expense.isAllowed employees := by
        simpa [Expense.isAllowed, howner] using (hlimit expense).isAccepted_iff.mpr hle
      exact ⟨rfl, (Batch.isAllowed_iff_objection?_eq_none employees expense).mp hallowed⟩
  | rejected howner hcheck =>
      right
      refine ⟨_, rfl, ?_, rfl⟩
      simp only [Expense.objection?, howner, hcheck]
  | orphaned howner =>
      right
      refine ⟨_, rfl, ?_, rfl⟩
      simp only [Expense.objection?, howner]

theorem tells_filter_debug (htells : Forall₂ (Tells employees) expenses lines) :
    Forall₂ (Tells employees) (expenses.filter (·.isAllowed employees))
      (lines.filter (·.level = "DEBUG")) := by
  induction htells with
  | nil => exact .nil
  | @cons expense line _ _ hfirst _ ih =>
      have hallowed := Batch.isAllowed_iff_objection?_eq_none employees expense
      rcases hfirst.debug_or_warn with ⟨hlevel, hnone⟩ | ⟨message, hlevel, hsome, _⟩
      · have hkept : expense.isAllowed employees := hallowed.mpr hnone
        simp only [List.filter_cons, hkept, hlevel, decide_true, if_true]
        exact .cons hfirst ih
      · have hleft : expense.isAllowed employees = false := by
          simp [← Bool.not_eq_true, hallowed, hsome]
        simpa [List.filter_cons, hleft, hlevel] using ih

theorem map_error_filter_warn (htells : Forall₂ (Tells employees) expenses lines) :
    (lines.filter (·.level = "WARN")).map (·.fields.lookup "error") =
      (expenses.filterMap (·.objection? employees)).map some := by
  induction htells with
  | nil => rfl
  | cons hfirst _ ih =>
      rcases hfirst.debug_or_warn with ⟨hlevel, hnone⟩ | ⟨message, hlevel, hsome, herror⟩
      · simpa [List.filter_cons, List.filterMap_cons, hlevel, hnone] using ih
      · simpa [List.filter_cons, List.filterMap_cons, hlevel, hsome, herror] using ih

end Line

namespace Serializer

/-! ## Logs of whole runs -/

theorem map_line_judgingEvents (s : Serializer) (employees : List Employee)
    (expenses : List Expense) :
    (s.judgingEvents employees expenses).map Event.line =
      [⟨"SPAN", "export", [("format", s.format.key)]⟩,
        ⟨"INFO", "Starting export", [("employees", toString employees.length),
          ("expenses", toString expenses.length)]⟩] ++
        expenses.map fun expense =>
          (Event.ofVerdict expense ((Directory.ofList employees).judge expense)).line := by
  simp only [judgingEvents, List.map_cons, List.map_map, Event.line_opened, Event.line_started,
    List.cons_append, List.nil_append]
  rfl

/-- The log of a run opens with what it is about to judge and goes on with one line for each
expense, in order. Those for debugging are about the accepted expenses and the warnings carry the
errors. Behind them the log ends where the run does: after the document, if there is one, and after
the file, if one was written. What it counts there is what the result counts. -/
theorem log_tells_the_result (s : Serializer) (employees : List Employee)
    (expenses : List Expense) :
    let batch := Batch.validate employees expenses
    ∃ (records : List Record) (decisions : List Line),
      Record.shape (Directory.ofList employees) batch.accepted = .ok records ∧
      Forall₂ (Line.Tells employees) expenses decisions ∧
      Forall₂ (Line.Tells employees) batch.accepted (decisions.filter (·.level = "DEBUG")) ∧
      (decisions.filter (·.level = "WARN")).map (·.fields.lookup "error") =
        batch.errors.map some ∧
      records.length + batch.errors.length = expenses.length ∧
      let judging : List Line :=
        [⟨"SPAN", "export", [("format", s.format.key)]⟩,
          ⟨"INFO", "Starting export", [("employees", toString employees.length),
            ("expenses", toString expenses.length)]⟩] ++ decisions
      match s.serialize records with
      | .error fault =>
        (s.render employees expenses).report = (judging, .error fault) ∧
          ∀ destination files,
            (s.exportTo employees expenses destination files).1.report = (judging, .error fault)
      | .ok content =>
        let rendering := judging ++
          [⟨"INFO", "Export rendered", [("accepted", toString records.length),
            ("rejected", toString batch.errors.length)]⟩]
        (s.render employees expenses).report =
            (rendering, .ok ⟨content, records.length, batch.errors⟩) ∧
          ∀ destination files,
            (s.exportTo employees expenses destination files).1.report =
              match files.write destination content with
              | .error error => (rendering, .error (.writeFailed destination error))
              | .ok _ =>
                (rendering ++ [⟨"INFO", "Export written", [("destination", destination),
                    ("bytes", toString content.toUTF8.size)]⟩],
                  .ok ⟨destination, records.length, batch.errors⟩) := by
  intro batch
  obtain ⟨records, hjoined, hshape, _⟩ := exists_render employees expenses
  let decisions := expenses.map fun expense =>
    (Event.ofVerdict expense ((Directory.ofList employees).judge expense)).line
  have htells : Forall₂ (Line.Tells employees) expenses decisions :=
    List.forall₂_map_right_iff.mpr
      (List.forall₂_same.mpr fun expense _ => Event.tells_line_ofVerdict employees expense)
  have hrender := s.render_eq hshape
  refine ⟨records, decisions, hshape, htells, ?_, ?_, ?_, ?_⟩
  · simpa only [batch, Batch.validate_eq] using Line.tells_filter_debug htells
  · simpa only [batch, Batch.validate_eq] using Line.map_error_filter_warn htells
  · rw [← hjoined.length_eq]
    exact Batch.length_accepted_add_length_errors employees expenses
  · rw [← map_line_judgingEvents]
    cases hserialize : s.serialize records with
    | error fault =>
        rw [hserialize] at hrender
        refine ⟨by rw [hrender]; rfl, fun destination files => ?_⟩
        rw [exportTo_of_unrendered destination files (congrArg Logged.result hrender), hrender]
        rfl
    | ok content =>
        rw [hserialize] at hrender
        rw [← Event.line_rendered]
        refine ⟨?_, fun destination files => ?_⟩
        · rw [hrender, Logged.report, List.map_append]
          rfl
        cases hwrite : files.write destination content with
        | error error =>
            rw [exportTo_of_unwritten (congrArg Logged.result hrender) hwrite, hrender,
              Logged.report, List.map_append]
            rfl
        | ok after =>
            rw [exportTo_of_written (congrArg Logged.result hrender) hwrite, hrender,
              Logged.report, List.map_append, List.map_append, ← Event.line_written]
            rfl

end Serializer

end ExpenseReport
