import ExpenseReport.Proofs.Configuration.Export
import ExpenseReport.Proofs.Decimal.Order
import ExpenseReport.Proofs.Rule.Limit

/-!
# A valid share is never more than the salary

An employee whose record is fit for use has a positive salary and a share of at most one. The limit
is rounded, but never past the salary, which is a decimal itself. A configuration that was loaded
has only such employees, so no document made from it shows an amount above such an owner's salary.
-/

namespace ExpenseReport

open Decimal
open List (Forall₂)

/-! ## Employees fit for use -/

namespace Employee

/-- The limit of an employee with a valid share is computed without overflow and lies between zero
and the salary. -/
theorem exists_limit_le_salary {e : Employee} (hmode : e.mode = .percentOfSalary)
    (hvalid : e.defect? = none) :
    ∃ limit, e.salary.times? e.maxPercentOfSalary = some limit ∧ 0 ≤ limit.toRat ∧
      limit.toRat ≤ e.salary.toRat ∧
      ∀ expense, (e.check expense).IsDecidedBy expense.amount limit := by
  have hfit : e.IsFit := defect?_eq_none_iff.mp hvalid
  have hsalary : 0 < e.salary.toRat := hfit .salary
  obtain ⟨hshare, hone⟩ := hfit .maxPercentOfSalary hmode
  obtain ⟨limit, htimes, hnonneg, hle⟩ := exists_times?_of_le_one hsalary.le hshare.le hone
  refine ⟨limit, htimes, hnonneg, hle, ?_⟩
  intro expense
  have hlimit : e.salary.scaledBy e.maxPercentOfSalary = limit := by
    rw [scaledBy, htimes, Option.getD_some]
  have hdecided := Rule.isDecidedBy_checkPercentOfSalary e.maxPercentOfSalary e expense
  rw [hlimit] at hdecided
  simpa only [check, rule, hmode, Rule.evaluate] using hdecided

theorem amount_le_salary_of_check {e : Employee} {expense : Expense} {limit : Decimal}
    (hmode : e.mode = .percentOfSalary) (hvalid : e.defect? = none)
    (hcheck : e.check expense = .accepted limit) : expense.amount ≤ e.salary := by
  obtain ⟨limit, _, _, hle, hdecided⟩ := exists_limit_le_salary hmode hvalid
  rw [le_iff_toRat_le]
  apply le_trans _ hle
  apply (hdecided expense).isAccepted_iff_toRat.mp
  rw [hcheck]
  rfl

end Employee

/-! ## Configurations -/

namespace Configuration

/-- Owners found in a loaded configuration are fit for use. -/
theorem amount_le_salary_of_load {files : Files} {directory : String} {c : Configuration}
    {expense : Expense} {owner : Employee} (hload : (load files directory).result = .ok c)
    (howner : expense.IsAcceptedBy c.employees owner) (hmode : owner.mode = .percentOfSalary) :
    expense.amount ≤ owner.salary := by
  obtain ⟨hfound, limit, hcheck⟩ := howner
  have hfit : owner.IsFit := (load_eq_ok_iff.mp hload).2 owner (List.mem_of_find?_eq_some hfound)
  exact owner.amount_le_salary_of_check hmode (Employee.defect?_eq_none_iff.mpr hfit) hcheck

/-- A valid share of the salary sets a limit that the exact product can be rounded to without
overflow, and that is never negative and never above the salary: amounts above the salary are
refused and amounts up to zero accepted. So a document exported from a loaded configuration shows no
amount above the salary of an owner with such a rule. -/
theorem valid_share_never_exceeds_salary :
    (∀ e : Employee, e.mode = .percentOfSalary → e.defect? = none →
      ∃ limit, e.salary.times? e.maxPercentOfSalary = some limit ∧ 0 ≤ limit.toRat ∧
        limit.toRat ≤ e.salary.toRat ∧
        ∀ expense, (e.check expense).limit? = some limit ∧
          (e.salary < expense.amount → (e.check expense).isAccepted = false) ∧
          (expense.amount ≤ zero → (e.check expense).isAccepted = true)) ∧
      ∀ (files : Files) (directory : String) (c : Configuration),
        (load files directory).result = .ok c → ∀ target : Files, ∃ records : List Record,
          Forall₂ (fun expense record => ∃ owner, expense.IsAcceptedBy c.employees owner ∧
              record.Joins expense owner ∧
              (owner.mode = .percentOfSalary → expense.amount ≤ owner.salary))
            (Batch.validate c.employees c.expenses).accepted records ∧
          ∀ result, (c.exportLedger target).1.result = .ok result →
            result.accepted = records.length ∧
            ∃ content, c.settings.exporter.1.serialize records = .ok content ∧
              target.write c.settings.destination content = .ok (c.exportLedger target).2 := by
  refine ⟨?_, ?_⟩
  · intro e hmode hvalid
    obtain ⟨limit, htimes, hnonneg, hle, hdecided⟩ := e.exists_limit_le_salary hmode hvalid
    refine ⟨limit, htimes, hnonneg, hle, ?_⟩
    intro expense
    refine ⟨(hdecided expense).limit_eq, ?_, ?_⟩
    · intro habove
      rw [lt_iff_toRat_lt] at habove
      rw [Bool.eq_false_iff, ne_eq, (hdecided expense).isAccepted_iff_toRat, not_le]
      exact hle.trans_lt habove
    · intro hbelow
      rw [le_iff_toRat_le, toRat_zero] at hbelow
      exact (hdecided expense).isAccepted_iff_toRat.mpr (hbelow.trans hnonneg)
  · intro files directory c hload target
    obtain ⟨records, hjoined, _, hrender⟩ := Serializer.exists_render c.employees c.expenses
    refine ⟨records, ?_, ?_⟩
    · apply hjoined.imp
      rintro expense record ⟨owner, howner, hjoins⟩
      exact ⟨owner, howner, hjoins, amount_le_salary_of_load hload howner⟩
    · intro result hresult
      rw [exportLedger_eq] at hresult ⊢
      obtain ⟨content, hserialize, hwrite, rfl⟩ :=
        Serializer.exists_content_of_exportTo_eq_ok (hrender _) hresult
      exact ⟨rfl, content, hserialize, hwrite⟩

/-- A directory whose only employee may spend the whole salary and does. -/
def smallLedger : Files where
  workingDirectory := ⟨["home"]⟩
  entries :=
    [(⟨["home", "export.yaml"]⟩, .file "format: csv".toUTF8),
      (⟨["home", "employees.yaml"]⟩, .file ("employees:\n- id: 1\n  full_name: Ivan\n"
        ++ "  position: Clerk\n  salary: 40\n  validation_mode: percent_of_salary\n"
        ++ "  max_percent_of_salary: 1").toUTF8),
      (⟨["home", "expenses.yaml"]⟩, .file ("expenses:\n- id: 1\n  employee_id: 1\n"
        ++ "  amount: 40\n  date: 2025-03-14").toUTF8)]

/-- Three fifths of the least positive salary are rounded up to all of it. -/
theorem valid_share_never_exceeds_salary_in_smallLedger :
    let leastPaid : Employee :=
      ⟨1, "Ivan Ivanov", "Manager", ⟨false, 1, 28, by decide, by decide⟩, .percentOfSalary, .zero,
        ⟨false, 6, 1, by decide, by decide⟩, none⟩
    (leastPaid.mode = .percentOfSalary ∧ leastPaid.defect? = none ∧
      ∃ limit, leastPaid.salary.times? leastPaid.maxPercentOfSalary = some limit ∧
        0 ≤ limit.toRat ∧ limit.toRat ≤ leastPaid.salary.toRat ∧
        ∀ expense, (leastPaid.check expense).limit? = some limit ∧
          (leastPaid.salary < expense.amount → (leastPaid.check expense).isAccepted = false) ∧
          (expense.amount ≤ zero → (leastPaid.check expense).isAccepted = true)) ∧
      ∃ (c : Configuration) (result : ExportResult) (records : List Record),
        (load smallLedger "").result = .ok c ∧
        (c.exportLedger smallLedger).1.result = .ok result ∧ result.accepted = records.length ∧
        Forall₂ (fun expense record => ∃ owner, expense.IsAcceptedBy c.employees owner ∧
            record.Joins expense owner ∧
            (owner.mode = .percentOfSalary → expense.amount ≤ owner.salary))
          (Batch.validate c.employees c.expenses).accepted records := by
  intro leastPaid
  obtain ⟨hlimit, hexport⟩ := valid_share_never_exceeds_salary
  have hvalid : leastPaid.defect? = none := by decide +kernel
  refine ⟨⟨rfl, hvalid, hlimit leastPaid rfl hvalid⟩, ?_⟩
  let owner : Employee :=
    ⟨1, "Ivan", "Clerk", ⟨false, 40, 0, by decide, by decide⟩, .percentOfSalary, .zero, .one, none⟩
  let whole : Expense :=
    ⟨1, 1, "", ⟨false, 40, 0, by decide, by decide⟩,
      ⟨2025, 3, 14, by decide, by decide, by decide, by decide⟩⟩
  let c : Configuration := ⟨⟨"csv", ".", .calendarDate⟩, [owner], [whole]⟩
  let result : ExportResult := ⟨"./expenses.csv", 1, []⟩
  have hload : (load smallLedger "").result = .ok c := by decide +kernel
  have hresult : (c.exportLedger smallLedger).1.result = .ok result := by decide +kernel
  obtain ⟨records, hrecords, hcontent⟩ := hexport smallLedger "" c hload smallLedger
  exact ⟨c, result, records, hload, hresult, (hcontent result hresult).1, hrecords⟩

end Configuration

end ExpenseReport
