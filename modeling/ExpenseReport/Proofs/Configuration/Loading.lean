import ExpenseReport.Configuration
import ExpenseReport.Proofs.Employee

/-!
# Loading a configuration

Three files can be missing or malformed, and every employee can be at fault in several fields, all
at once. A configuration is loaded when none of this is so, and then it holds what the files hold.
Otherwise the fault that is reported is the first in a fixed order of the places where faults can
be, and nothing is logged.
-/

namespace ExpenseReport.Configuration

/-! ## Files -/

/-- The file at the path has a text, and the text stands for the value. -/
def Holds {α : Type} (files : Files) (decode? : String → Option α) (path : String) (value : α) :
    Prop :=
  ∃ text, files.readText? path = some text ∧ decode? text = some value

/-- The file at the path has no text, or one that stands for nothing. -/
inductive FileFails {α : Type} (files : Files) (decode? : String → Option α) (path : String) :
    Fault → Prop where
  | notFound (hread : files.readText? path = none) :
      FileFails files decode? path (.configNotFound path)
  | malformed {text : String} (hread : files.readText? path = some text)
      (hdecode : decode? text = none) : FileFails files decode? path (.configMalformed path)

section ReadFile

variable {α : Type} {files : Files} {decode? : String → Option α} {path : String} {value : α}
  {fault : Fault}

theorem readFile_eq_ok_iff :
    readFile files decode? path = .ok value ↔ Holds files decode? path value := by
  unfold readFile Holds
  cases files.readText? path with
  | none => simp
  | some text => cases hdecode : decode? text <;> simp [hdecode]

theorem readFile_eq_error_iff :
    readFile files decode? path = .error fault ↔ FileFails files decode? path fault := by
  unfold readFile
  constructor
  · intro h
    split at h
    next hread => cases h; exact .notFound hread
    next text hread =>
      split at h
      next hdecode => cases h; exact .malformed hread hdecode
      next => cases h
  · rintro (hread | ⟨hread, hdecode⟩)
    · rw [hread]
    · rw [hread]; simp [hdecode]

theorem Holds.eq {other : α} (hvalue : Holds files decode? path value)
    (hother : Holds files decode? path other) : value = other := by
  rw [← readFile_eq_ok_iff] at hvalue hother
  exact Except.ok.inj (hvalue.symm.trans hother)

theorem Holds.not_fileFails (hvalue : Holds files decode? path value) :
    ¬ FileFails files decode? path fault := by
  rw [← readFile_eq_ok_iff] at hvalue
  rw [← readFile_eq_error_iff, hvalue]
  exact nofun

theorem FileFails.eq {other : Fault} (hfault : FileFails files decode? path fault)
    (hother : FileFails files decode? path other) : fault = other := by
  rw [← readFile_eq_error_iff] at hfault hother
  exact Except.error.inj (hfault.symm.trans hother)

end ReadFile

/-- The three files of the directory hold the configuration. -/
structure IsStored (c : Configuration) (files : Files) (directory : String) : Prop where
  settings : Holds files Yaml.settings? (Path.join directory "export.yaml") c.settings
  employees : Holds files Yaml.employees? (Path.join directory "employees.yaml") c.employees
  expenses : Holds files Yaml.expenses? (Path.join directory "expenses.yaml") c.expenses

/-! ## Places of faults -/

/-- Where a configuration can be at fault. -/
inductive Spot where
  | settings
  | employees
  | expenses
  | field (index : Nat) (field : Employee.Defect)

/-- The files come first, the settings in front, then the employees in their order. -/
def Spot.rank : Spot → Nat
  | .settings => 0
  | .employees => 1
  | .expenses => 2
  | .field .. => 3

/-- One place is looked at before another: file by file, employee by employee, field by field. -/
def Spot.Before : Spot → Spot → Prop
  | .field i d, .field j d' => i < j ∨ i = j ∧ d.rank < d'.rank
  | s, t => s.rank < t.rank

/-- What is wrong at a place, whatever is wrong elsewhere. -/
inductive Fails (files : Files) (directory : String) : Spot → Fault → Prop where
  | settings {fault : Fault}
      (hfile : FileFails files Yaml.settings? (Path.join directory "export.yaml") fault) :
      Fails files directory .settings fault
  | employees {fault : Fault}
      (hfile : FileFails files Yaml.employees? (Path.join directory "employees.yaml") fault) :
      Fails files directory .employees fault
  | expenses {fault : Fault}
      (hfile : FileFails files Yaml.expenses? (Path.join directory "expenses.yaml") fault) :
      Fails files directory .expenses fault
  | field {employees : List Employee} {index : Nat} {e : Employee} {d : Employee.Defect}
      (hread : Holds files Yaml.employees? (Path.join directory "employees.yaml") employees)
      (hindex : employees[index]? = some e) (hmeets : ¬ e.Meets d) :
      Fails files directory (.field index d) (.invalidEmployee d)

/-- The fault stands at a place with no fault before it. -/
def IsFirstFault (files : Files) (directory : String) (fault : Fault) : Prop :=
  ∃ spot, Fails files directory spot fault ∧
    ∀ earlier other, earlier.Before spot → ¬ Fails files directory earlier other

variable {files : Files} {directory : String} {fault other : Fault} {c : Configuration}

theorem Fails.eq {spot : Spot} (hfault : Fails files directory spot fault)
    (hother : Fails files directory spot other) : fault = other := by
  cases hfault with
  | settings hfile =>
      cases hother with
      | settings hfile' => exact hfile.eq hfile'
  | employees hfile =>
      cases hother with
      | employees hfile' => exact hfile.eq hfile'
  | expenses hfile =>
      cases hother with
      | expenses hfile' => exact hfile.eq hfile'
  | field =>
      cases hother
      rfl

/-- Only fields of one employee that share a place are not in order. -/
theorem Spot.before_cases (s t : Spot) :
    s.Before t ∨ t.Before s ∨ s = t ∨
      ∃ index d d', s = .field index d ∧ t = .field index d' ∧ d.rank = d'.rank := by
  cases s <;> cases t <;> simp [Before, rank]
  omega

/-- No fault before a field of an employee means none in the employee's fields before it. -/
theorem Fails.isFirstFault {employees : List Employee} {index : Nat} {e : Employee}
    {d : Employee.Defect} (hfails : Fails files directory (.field index d) fault)
    (hfirst : ∀ earlier other, earlier.Before (.field index d) →
      ¬ Fails files directory earlier other)
    (hread : Holds files Yaml.employees? (Path.join directory "employees.yaml") employees)
    (hindex : employees[index]? = some e) : e.IsFirstFault d := by
  cases hfails with
  | field hread' hindex' hmeets =>
      cases hread.eq hread'
      cases Option.some.inj (hindex.symm.trans hindex')
      refine ⟨hmeets, fun earlier hlt => by_contra fun hearlier => ?_⟩
      exact hfirst (.field index earlier) _ (Or.inr ⟨rfl, hlt⟩) (.field hread hindex hearlier)

theorem IsFirstFault.eq (hfault : IsFirstFault files directory fault)
    (hother : IsFirstFault files directory other) : fault = other := by
  obtain ⟨spot, hfails, hfirst⟩ := hfault
  obtain ⟨spot', hfails', hfirst'⟩ := hother
  rcases spot.before_cases spot' with hbefore | hbefore | rfl | ⟨index, d, d', rfl, rfl, _⟩
  · exact absurd hfails (hfirst' _ _ hbefore)
  · exact absurd hfails' (hfirst _ _ hbefore)
  · exact hfails.eq hfails'
  · -- Fields of one rule share a place, but no employee can be at fault in two of them.
    cases hfails with
    | field hread hindex hmeets =>
      have hd := (Fails.field hread hindex hmeets).isFirstFault hfirst hread hindex
      cases hd.eq (hfails'.isFirstFault hfirst' hread hindex)
      exact (Fails.field hread hindex hmeets).eq hfails'

/-- When all files hold something, only employees can be at fault. -/
theorem IsStored.exists_field {spot : Spot} (hstored : c.IsStored files directory)
    (hfails : Fails files directory spot fault) :
    ∃ index e d, spot = .field index d ∧ c.employees[index]? = some e ∧ ¬ e.Meets d := by
  cases hfails with
  | settings hfile => exact absurd hfile hstored.settings.not_fileFails
  | employees hfile => exact absurd hfile hstored.employees.not_fileFails
  | expenses hfile => exact absurd hfile hstored.expenses.not_fileFails
  | @field _ index e d hread hindex hmeets =>
      cases hstored.employees.eq hread
      exact ⟨index, e, d, rfl, hindex, hmeets⟩

theorem isFirstFault_settings
    (hfile : FileFails files Yaml.settings? (Path.join directory "export.yaml") fault) :
    IsFirstFault files directory fault := by
  refine ⟨.settings, .settings hfile, ?_⟩
  rintro _ _ hbefore (_ | _ | _ | _) <;> simp [Spot.Before, Spot.rank] at hbefore

theorem isFirstFault_employees {settings : Settings}
    (hsettings : Holds files Yaml.settings? (Path.join directory "export.yaml") settings)
    (hfile : FileFails files Yaml.employees? (Path.join directory "employees.yaml") fault) :
    IsFirstFault files directory fault := by
  refine ⟨.employees, .employees hfile, ?_⟩
  rintro _ _ hbefore (hearlier | _ | _ | _)
  · exact hsettings.not_fileFails hearlier
  all_goals simp [Spot.Before, Spot.rank] at hbefore

theorem isFirstFault_expenses {settings : Settings} {employees : List Employee}
    (hsettings : Holds files Yaml.settings? (Path.join directory "export.yaml") settings)
    (hemployees : Holds files Yaml.employees? (Path.join directory "employees.yaml") employees)
    (hfile : FileFails files Yaml.expenses? (Path.join directory "expenses.yaml") fault) :
    IsFirstFault files directory fault := by
  refine ⟨.expenses, .expenses hfile, ?_⟩
  rintro _ _ hbefore (hearlier | hearlier | _ | _)
  · exact hsettings.not_fileFails hearlier
  · exact hemployees.not_fileFails hearlier
  all_goals simp [Spot.Before, Spot.rank] at hbefore

/-- The files are read one after the other, so a file that fails is reported only when the files in
front of it hold something. -/
theorem readFiles_cases (files : Files) (directory : String) :
    (∃ c, readFiles files directory = .ok c ∧ c.IsStored files directory) ∨
      ∃ fault, readFiles files directory = .error fault ∧ IsFirstFault files directory fault := by
  simp only [readFiles, bind, Except.bind]
  cases hsettings : readFile files Yaml.settings? (Path.join directory settingsFile) with
  | error fault =>
      exact Or.inr ⟨fault, rfl, isFirstFault_settings (readFile_eq_error_iff.mp hsettings)⟩
  | ok settings =>
      rw [readFile_eq_ok_iff] at hsettings
      cases hemployees : readFile files Yaml.employees? (Path.join directory employeesFile) with
      | error fault =>
          rw [readFile_eq_error_iff] at hemployees
          exact Or.inr ⟨fault, rfl, isFirstFault_employees hsettings hemployees⟩
      | ok employees =>
          rw [readFile_eq_ok_iff] at hemployees
          cases hexpenses : readFile files Yaml.expenses? (Path.join directory expensesFile) with
          | error fault =>
              rw [readFile_eq_error_iff] at hexpenses
              exact Or.inr ⟨fault, rfl, isFirstFault_expenses hsettings hemployees hexpenses⟩
          | ok expenses =>
              rw [readFile_eq_ok_iff] at hexpenses
              exact Or.inl ⟨_, rfl, hsettings, hemployees, hexpenses⟩

theorem IsStored.readFiles_eq (hstored : c.IsStored files directory) :
    readFiles files directory = .ok c := by
  obtain ⟨hsettings, hemployees, hexpenses⟩ := hstored
  rw [← readFile_eq_ok_iff] at hsettings hemployees hexpenses
  rw [readFiles, settingsFile, employeesFile, expensesFile, hsettings, hemployees, hexpenses]
  rfl

/-! ## Looking through the employees -/

theorem firstDefect?_eq_none_iff {employees : List Employee} :
    firstDefect? employees = none ↔ ∀ e ∈ employees, e.IsFit := by
  simp only [firstDefect?, List.findSome?_eq_none_iff, Employee.defect?_eq_none_iff]

/-- The employees in front of the one who is reported are fit. -/
theorem exists_of_firstDefect? {employees : List Employee} {d : Employee.Defect}
    (hdefect : firstDefect? employees = some d) :
    ∃ (index : Nat) (e : Employee), employees[index]? = some e ∧ e.IsFirstFault d ∧
      ∀ earlier < index, ∀ front : Employee, employees[earlier]? = some front → front.IsFit := by
  obtain ⟨before, e, after, rfl, hfault, hfit⟩ := List.findSome?_eq_some_iff.mp hdefect
  refine ⟨before.length, e, by simp, Employee.defect?_eq_some_iff.mp hfault, ?_⟩
  intro earlier hlt front hfront
  rw [List.getElem?_append_left hlt] at hfront
  exact Employee.defect?_eq_none_iff.mp (hfit front (List.mem_of_getElem? hfront))

theorem IsStored.isFirstFault {d : Employee.Defect} (hstored : c.IsStored files directory)
    (hdefect : firstDefect? c.employees = some d) :
    IsFirstFault files directory (.invalidEmployee d) := by
  obtain ⟨index, e, hindex, hfault, hfit⟩ := exists_of_firstDefect? hdefect
  refine ⟨.field index d, .field hstored.employees hindex hfault.not_meets, ?_⟩
  intro earlier other hbefore hfails
  obtain ⟨_, front, d', rfl, hfront, hmeets⟩ := hstored.exists_field hfails
  rcases hbefore with hlt | ⟨rfl, hlt⟩
  · exact hmeets (hfit _ hlt front hfront d')
  · cases Option.some.inj (hindex.symm.trans hfront)
    exact hmeets (hfault.meets_of_lt d' hlt)

/-! ## Loading -/

theorem load_result (files : Files) (directory : String) :
    (load files directory).result = readFiles files directory >>= validated := by
  unfold load
  split
  next heq => exact heq.symm
  next heq => exact heq.symm

/-- The only event of a load is that it was successful. -/
theorem load_events (files : Files) (directory : String) :
    (load files directory).events =
      match (load files directory).result with
      | .ok c => [.loaded directory c.employees.length c.expenses.length c.settings.format]
      | .error _ => [] := by
  unfold load
  split
  next => rfl
  next => rfl

theorem load_eq_of_result_eq {others : Files}
    (hresult : (load others directory).result = (load files directory).result) :
    load others directory = load files directory := by
  have hevents := load_events others directory
  rw [hresult, ← load_events files directory] at hevents
  calc load others directory
      = ⟨(load others directory).events, (load others directory).result⟩ := rfl
    _ = load files directory := by rw [hresult, hevents]

/-- Loading gives what the files hold, or it reports a fault that is first. -/
theorem load_cases (files : Files) (directory : String) :
    (∃ c, (load files directory).result = .ok c ∧ c.IsStored files directory ∧
      ∀ e ∈ c.employees, e.IsFit) ∨
    ∃ fault, (load files directory).result = .error fault ∧ IsFirstFault files directory fault := by
  rw [load_result]
  rcases readFiles_cases files directory with ⟨c, hfiles, hstored⟩ | ⟨fault, hfiles, hfirst⟩
  · rw [hfiles]
    change (∃ c', validated c = .ok c' ∧ _) ∨ ∃ fault, validated c = .error fault ∧ _
    cases hdefect : firstDefect? c.employees with
    | some d =>
        exact Or.inr ⟨_, by rw [validated, hdefect], hstored.isFirstFault hdefect⟩
    | none =>
        exact Or.inl ⟨c, by rw [validated, hdefect], hstored, firstDefect?_eq_none_iff.mp hdefect⟩
  · rw [hfiles]
    exact Or.inr ⟨fault, rfl, hfirst⟩

theorem load_eq_ok_iff : (load files directory).result = .ok c ↔
    c.IsStored files directory ∧ ∀ e ∈ c.employees, e.IsFit := by
  constructor
  · intro hload
    rcases load_cases files directory with ⟨c', hresult, hstored⟩ | ⟨fault, hresult, _⟩
    · cases hload.symm.trans hresult
      exact hstored
    · cases hload.symm.trans hresult
  · rintro ⟨hstored, hfit⟩
    rw [load_result, hstored.readFiles_eq]
    change validated c = .ok c
    rw [validated, firstDefect?_eq_none_iff.mpr hfit]

end ExpenseReport.Configuration
