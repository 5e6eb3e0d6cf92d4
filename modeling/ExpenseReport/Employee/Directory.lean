import ExpenseReport.Employee.Basic

/-!
# Directories

A directory finds employees by id. Of several employees with one id it holds the first.
-/

namespace ExpenseReport

/-- Employees of whom no two share an id. -/
structure Directory where
  employees : List Employee
  ids_nodup : (employees.map Employee.id).Nodup

namespace Directory

/-- The directory of nobody. -/
def empty : Directory := ⟨[], by simp⟩

/-- Adds an employee whose id is still free; otherwise the directory stays as it is. -/
def add (d : Directory) (e : Employee) : Directory :=
  if h : e.id ∈ d.employees.map Employee.id then d
  else
    ⟨d.employees ++ [e], by
      rw [List.map_append, List.nodup_append]
      refine ⟨d.ids_nodup, by simp, ?_⟩
      intro id hid other hother heq
      simp only [List.map_cons, List.map_nil, List.mem_singleton] at hother
      exact h (hother ▸ heq ▸ hid)⟩

/-- The directory of a list of employees. -/
def ofList (employees : List Employee) : Directory :=
  employees.foldl add empty

/-- The employee with an id. -/
def get? (d : Directory) (id : Id) : Option Employee :=
  d.employees.find? (·.id = id)

/-- How many ids the directory knows. -/
def size (d : Directory) : Nat :=
  d.employees.length

/-- Whether the directory knows nobody. -/
def isEmpty (d : Directory) : Bool :=
  d.employees.isEmpty

/-- Adding an employee shows under no id but theirs, and there only if it was free. -/
theorem get?_add (d : Directory) (e : Employee) (id : Id) :
    (d.add e).get? id = (d.get? id).or (if e.id = id then some e else none) := by
  unfold add get?
  split
  next h =>
    by_cases hid : e.id = id
    · subst hid
      obtain ⟨other, hother, heq⟩ := List.mem_map.mp h
      have hfound : (d.employees.find? (·.id = e.id)).isSome :=
        List.find?_isSome.mpr ⟨other, hother, by simpa using heq⟩
      rw [Option.or_of_isSome hfound]
    · simp [hid]
  next _ => rw [List.find?_append, List.find?_singleton]; simp

/-- Of the employees of a list, a directory finds the first with an id. -/
theorem get?_ofList (employees : List Employee) (id : Id) :
    (ofList employees).get? id = employees.find? (·.id = id) := by
  -- While employees are added, those in the directory go before those still to come.
  have hfold : ∀ d : Directory,
      (employees.foldl add d).get? id = (d.get? id).or (employees.find? (·.id = id)) := by
    induction employees with
    | nil => simp
    | cons e rest ih =>
        intro d
        rw [List.foldl_cons, ih, get?_add, Option.or_assoc, List.find?_cons]
        by_cases hid : e.id = id <;> simp [hid]
  rw [ofList, hfold]
  rfl

end Directory

end ExpenseReport
