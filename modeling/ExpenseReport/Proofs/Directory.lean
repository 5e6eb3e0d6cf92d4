import ExpenseReport.Proofs.Rendering
import Mathlib.Data.Finset.Card

/-!
# Who is found

Employees are found by id alone, and of several with one id the first. So nothing that is judged or
rendered depends on those behind the first, or on the order of employees with different ids.
-/

namespace ExpenseReport

namespace Directory

/-! ## The first with an id -/

theorem get?_ofList_eq_some_iff {employees : List Employee} {id : Id} {e : Employee} :
    (ofList employees).get? id = some e ↔
      ∃ front back, employees = front ++ e :: back ∧ e.id = id ∧
        ∀ other ∈ front, other.id ≠ id := by
  rw [get?_ofList, List.find?_eq_some_iff_append]
  constructor
  · rintro ⟨hid, front, back, hsplit, hfront⟩
    exact ⟨front, back, hsplit, by simpa using hid, by simpa using hfront⟩
  · rintro ⟨front, back, hsplit, hid, hfront⟩
    exact ⟨by simpa using hid, front, back, hsplit, by simpa using hfront⟩

/-- Nobody is found who has an earlier namesake. -/
theorem find?_append_of_namesake {front back : List Employee} {e : Employee}
    (hnamesake : ∃ namesake ∈ front, namesake.id = e.id) (id : Id) :
    (front ++ back).find? (·.id = id) = (front ++ e :: back).find? (·.id = id) := by
  rw [List.find?_append, List.find?_append, List.find?_cons]
  by_cases hid : e.id = id
  · obtain ⟨namesake, hmem, heq⟩ := hnamesake
    have hfound : (front.find? (·.id = id)).isSome :=
      List.find?_isSome.mpr ⟨namesake, hmem, by simp [heq, hid]⟩
    rw [Option.or_of_isSome hfound, Option.or_of_isSome hfound]
  · simp [hid]

theorem get?_ofList_eq_none_iff {employees : List Employee} {id : Id} :
    (ofList employees).get? id = none ↔ ∀ e ∈ employees, e.id ≠ id := by
  rw [get?_ofList, List.find?_eq_none]
  simp

/-! ## The ids -/

theorem mem_ids_iff {employees : List Employee} {id : Id} :
    id ∈ employees.map Employee.id ↔ (employees.find? (·.id = id)).isSome := by
  rw [List.mem_map, List.find?_isSome]
  simp

/-- A directory knows an id once. -/
theorem size_ofList (employees : List Employee) :
    (ofList employees).size = (employees.map Employee.id).toFinset.card := by
  have hids : ((ofList employees).employees.map Employee.id).toFinset =
      (employees.map Employee.id).toFinset := by
    ext id
    rw [List.mem_toFinset, List.mem_toFinset, mem_ids_iff, mem_ids_iff, ← get?_ofList employees]
    rfl
  rw [← hids, List.toFinset_card_of_nodup (ofList employees).ids_nodup, List.length_map, size]

/-! ## Directories that find the same employees -/

section Alike

variable {d d' : Directory} (halike : ∀ id, d.get? id = d'.get? id)
include halike

theorem judge_congr : d.judge = d'.judge := by
  funext expense
  rw [judge, judge, halike]

theorem judgedBy_congr : Batch.judgedBy d = Batch.judgedBy d' := by
  funext expenses
  rw [Batch.judgedBy, Batch.judgedBy, judge_congr halike]

theorem shape_congr : Record.shape d = Record.shape d' := by
  funext expenses
  induction expenses with
  | nil => rfl
  | cons expense rest ih =>
      rw [Record.shape, Record.shape, Record.ofExpense, Record.ofExpense, halike, ih]

theorem documentOf_congr (s : Serializer) (batch : Batch) :
    s.documentOf d batch = s.documentOf d' batch := by
  rw [Serializer.documentOf, Serializer.documentOf, shape_congr halike]

end Alike

end Directory

namespace Serializer

variable {employees others : List Employee} {expenses : List Expense}

theorem render_result_eq_documentOf (s : Serializer) :
    (s.render employees expenses).result =
      s.documentOf (Directory.ofList employees)
        (Batch.judgedBy (Directory.ofList employees) expenses) := by
  simp only [render]
  split
  next hdocument => exact hdocument.symm
  next hdocument => exact hdocument.symm

theorem alike_of_find?_eq
    (hfirst : ∀ id, others.find? (·.id = id) = employees.find? (·.id = id)) (id : Id) :
    (Directory.ofList others).get? id = (Directory.ofList employees).get? id := by
  rw [Directory.get?_ofList, Directory.get?_ofList, hfirst]

/-- Where the same employees come first, the same is rendered. -/
theorem render_result_congr (s : Serializer)
    (hfirst : ∀ id, others.find? (·.id = id) = employees.find? (·.id = id)) :
    (s.render others expenses).result = (s.render employees expenses).result := by
  have halike := alike_of_find?_eq hfirst
  rw [render_result_eq_documentOf, render_result_eq_documentOf,
    Directory.judgedBy_congr halike, Directory.documentOf_congr halike]

/-- Besides, the events tell how many employees there are. -/
theorem render_congr (s : Serializer) (hlength : others.length = employees.length)
    (hfirst : ∀ id, others.find? (·.id = id) = employees.find? (·.id = id)) :
    s.render others expenses = s.render employees expenses := by
  have halike := alike_of_find?_eq hfirst
  simp only [render, judgingEvents, hlength, Directory.judge_congr halike,
    Directory.judgedBy_congr halike, Directory.documentOf_congr halike]

/-- A directory finds the first employee with an id and counts each id once. So employees with an
earlier namesake can be left out, and the order can be changed as long as for each id the same
employee comes first: the same document is rendered, with the same count and the same errors. -/
theorem only_the_first_of_an_id_counts :
    (∀ (employees : List Employee) (id : Id),
      (∀ e, (Directory.ofList employees).get? id = some e ↔
        ∃ front back, employees = front ++ e :: back ∧ e.id = id ∧
          ∀ other ∈ front, other.id ≠ id) ∧
      ((Directory.ofList employees).get? id = none ↔ ∀ e ∈ employees, e.id ≠ id)) ∧
    (∀ employees : List Employee,
      (Directory.ofList employees).size = (employees.map Employee.id).toFinset.card) ∧
    (∀ (s : Serializer) (expenses : List Expense) (front back : List Employee) (e : Employee),
      (∃ namesake ∈ front, namesake.id = e.id) →
        (s.render (front ++ back) expenses).result =
          (s.render (front ++ e :: back) expenses).result) ∧
    ∀ (s : Serializer) (expenses : List Expense) (employees others : List Employee),
      others.Perm employees →
        (∀ id, others.find? (·.id = id) = employees.find? (·.id = id)) →
          s.render others expenses = s.render employees expenses := by
  refine ⟨?_, Directory.size_ofList, ?_, ?_⟩
  · intro employees id
    exact ⟨fun e => Directory.get?_ofList_eq_some_iff, Directory.get?_ofList_eq_none_iff⟩
  · intro s expenses front back e hnamesake
    exact render_result_congr s (Directory.find?_append_of_namesake hnamesake)
  · intro s expenses employees others hperm hfirst
    exact render_congr s hperm.length_eq hfirst

/-- Ivan may spend his salary, his namesake nothing. Maria stands between them or in front. -/
theorem only_the_first_of_an_id_counts_with_namesake :
    let ivan : Employee := ⟨1, "Ivan", "Clerk", .hundred, .percentOfSalary, .zero, .one, none⟩
    let maria : Employee := ⟨2, "Maria", "Manager", .hundred, .fixedAmount, .zero, .zero, none⟩
    let namesake : Employee := { ivan with fullName := "Ivan Junior", mode := .fixedAmount }
    let expense (id owner : Id) : Expense :=
      ⟨id, owner, "Taxi", .one, ⟨2025, 3, 14, by decide, by decide, by decide, by decide⟩⟩
    let expenses := [expense 1 1, expense 2 2, expense 3 3]
    let s := ofFormat .csv .calendarDate
    (∃ first ∈ [ivan, maria], first.id = namesake.id) ∧
      (s.render [ivan, maria] expenses).result =
        (s.render [ivan, maria, namesake] expenses).result ∧
      ([maria, ivan, namesake].Perm [ivan, maria, namesake] ∧
        ∀ id, [maria, ivan, namesake].find? (·.id = id) =
          [ivan, maria, namesake].find? (·.id = id)) ∧
      s.render [maria, ivan, namesake] expenses = s.render [ivan, maria, namesake] expenses := by
  intro ivan maria namesake expense expenses s
  obtain ⟨_, _, hremove, hreorder⟩ := only_the_first_of_an_id_counts
  have hearlier : ∃ first ∈ [ivan, maria], first.id = namesake.id :=
    ⟨ivan, List.mem_cons_self, rfl⟩
  have hperm : [maria, ivan, namesake].Perm [ivan, maria, namesake] := .swap _ _ _
  have hfirst (id : Id) : [maria, ivan, namesake].find? (·.id = id) =
      [ivan, maria, namesake].find? (·.id = id) := by
    by_cases hid : (1 : Id) = id
    · subst hid
      rfl
    · have hivan : ¬ ivan.id = id := hid
      simp [List.find?_cons, hivan]
  exact ⟨hearlier, hremove s expenses [ivan, maria] [] namesake hearlier, ⟨hperm, hfirst⟩,
    hreorder s expenses _ _ hperm hfirst⟩

end Serializer

end ExpenseReport
