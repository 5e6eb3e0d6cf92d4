import ExpenseReport.Files.Basic
import Mathlib.Data.List.Basic

/-!
# Writing a file

Writing fills the place that a path leads to and leaves all others as they are. No directory comes
or goes with it, so every path that led somewhere leads there again: what was written is read back,
and writing it once more changes nothing. A path from the root and one from the working directory
can lead to one place, but a path that ends in another name is not affected at all.
-/

namespace ExpenseReport

/-! ## Steps of a path -/

namespace Path

/-- Whether a name can be one step of a path. The empty name and those made of one or two dots mean
something else. -/
def IsFileName (name : String) : Prop :=
  '/' ∉ name.toList ∧ name.toList ∉ [[], ['.'], ['.', '.']]

instance (name : String) : Decidable (IsFileName name) :=
  inferInstanceAs (Decidable (_ ∧ _))

theorem split_ne_nil (cs : List Char) : split cs ≠ [] := by
  cases cs with
  | nil => simp [split]
  | cons c rest =>
      rw [split]
      split
      next => simp
      next => split <;> simp

theorem split_append (cs rest : List Char) :
    split (cs ++ '/' :: rest) = split cs ++ split rest := by
  induction cs with
  | nil => simp [split]
  | cons c cs ih =>
      rw [List.cons_append, split, split, ih]
      split
      next => rfl
      next =>
        cases hsplit : split cs with
        | nil => exact absurd hsplit (split_ne_nil cs)
        | cons name names => rfl

theorem split_eq_singleton {name : List Char} (hname : '/' ∉ name) : split name = [name] := by
  induction name with
  | nil => rfl
  | cons c name ih =>
      rw [List.mem_cons, not_or] at hname
      rw [split, if_neg (Ne.symm hname.1), ih hname.2]

theorem ofName_eq_down {name : String} (hname : IsFileName name) :
    Step.ofName name.toList = .down name := by
  have hdots := hname.2
  simp only [List.mem_cons, List.not_mem_nil, or_false, not_or] at hdots
  rw [Step.ofName, if_neg hdots.2.1, if_neg hdots.2.2, String.ofList_toList]

theorem steps_of_isFileName {file : String} (hfile : IsFileName file) :
    steps file = [.down file] := by
  have hne : file.toList ≠ [] := fun hnil => hfile.2 (by simp [hnil])
  have hkept : [file.toList].filter (· ≠ []) = [file.toList] := by simpa using hne
  rw [steps, split_eq_singleton hfile.1, hkept, List.map_singleton, ofName_eq_down hfile]

/-- Steps on both sides of a slash are independent of each other. -/
theorem steps_of_toList_eq {path directory file : String}
    (hpath : path.toList = directory.toList ++ '/' :: file.toList) :
    steps path = steps directory ++ steps file := by
  simp only [steps, hpath, split_append, List.filter_append, List.map_append]

/-- A name that was joined to a directory is one step behind the steps of the directory. -/
theorem steps_join (directory : String) {file : String} (hfile : IsFileName file) :
    steps (join directory file) = steps directory ++ [.down file] := by
  rw [← steps_of_isFileName hfile]
  unfold join
  split
  next hempty =>
    rw [List.getLast?_eq_none_iff, String.toList_eq_nil_iff] at hempty
    subst hempty
    rfl
  next hslash =>
    -- The slash at the end of the directory is the one in front of the name.
    obtain ⟨front, hfront⟩ := List.getLast?_eq_some_iff.mp hslash
    have hdirectory : steps directory = steps (String.ofList front) ++ steps "" :=
      steps_of_toList_eq (by simpa using hfront)
    have hjoined : steps (directory ++ file) = steps (String.ofList front) ++ steps file :=
      steps_of_toList_eq (by simp [hfront])
    rw [hjoined, hdirectory]
    simp [steps, split]
  next => exact steps_of_toList_eq (by simp)

/-- A path that can name a file: no system call refuses it, and its last step goes down to the
name. -/
structure Names (path name : String) : Prop where
  hasNul_eq : hasNul path = false
  length_le : path.utf8ByteSize ≤ maxPathBytes
  isEmpty_eq : path.isEmpty = false
  endsInSlash_eq : endsInSlash path = false
  getLast?_eq : (steps path).getLast? = some (.down name)
  name_length_le : name.utf8ByteSize ≤ maxNameBytes

end Path

namespace Files

open ExpenseReport.Path (Names Step)

variable {files after : Files} {path text : String} {place spot : Place} {content : ByteArray}

/-! ## Places that paths lead to -/

theorem target_of_names {name : String} (hnames : Names path name) :
    files.target path =
      files.walk (files.start path) (Path.steps path).dropLast >>= fun directory =>
        match files.get? (directory.child name) with
        | some .directory => .error .isDirectory
        | _ => .ok (directory.child name) := by
  simp only [target, hnames.hasNul_eq, Nat.not_lt.mpr hnames.length_le, hnames.isEmpty_eq,
    hnames.endsInSlash_eq, hnames.getLast?_eq, Nat.not_lt.mpr hnames.name_length_le,
    Bool.false_eq_true, if_false]
  rfl

theorem exists_names_of_target_eq_ok (htarget : files.target path = .ok place) :
    ∃ name, Names path name := by
  by_cases hnul : Path.hasNul path
  · simp only [target, hnul, if_true] at htarget
    cases htarget
  by_cases hlength : Path.maxPathBytes < path.utf8ByteSize
  · simp only [target, hnul, hlength, if_true] at htarget
    cases htarget
  by_cases hempty : path.isEmpty
  · simp only [target, hnul, hlength, hempty, if_true] at htarget
    cases htarget
  simp only [target, hnul, hlength, hempty, Bool.false_eq_true, if_false] at htarget
  cases hwalk : files.walk (files.start path) (Path.steps path).dropLast with
  | error error =>
      rw [hwalk] at htarget
      cases htarget
  | ok directory =>
      simp only [hwalk, bind, Except.bind] at htarget
      split at htarget
      next name hlast =>
        by_cases hslash : Path.endsInSlash path
        · simp only [hslash, if_true] at htarget
          cases htarget
        by_cases hname : Path.maxNameBytes < name.utf8ByteSize
        · simp only [hslash, hname, if_true] at htarget
          cases htarget
        exact ⟨name, by simpa using hnul, Nat.not_lt.mp hlength, by simpa using hempty,
          by simpa using hslash, hlast, Nat.not_lt.mp hname⟩
      next => cases htarget

/-- A path leads to the name at its end, in the directory that the steps before it lead to. No
directory stands there. -/
theorem exists_of_target_eq_ok (htarget : files.target path = .ok place) :
    ∃ directory name, Names path name ∧
      files.walk (files.start path) (Path.steps path).dropLast = .ok directory ∧
      place = directory.child name ∧ files.get? place ≠ some .directory := by
  obtain ⟨name, hnames⟩ := exists_names_of_target_eq_ok htarget
  rw [target_of_names hnames] at htarget
  cases hwalk : files.walk (files.start path) (Path.steps path).dropLast with
  | error error =>
      rw [hwalk] at htarget
      cases htarget
  | ok directory =>
      simp only [hwalk, bind, Except.bind] at htarget
      split at htarget
      next => cases htarget
      next hfree =>
        cases htarget
        exact ⟨directory, name, hnames, rfl, rfl, hfree⟩

theorem get?_ne_directory_of_target (htarget : files.target path = .ok place) :
    files.get? place ≠ some .directory := by
  obtain ⟨_, _, _, _, _, hfree⟩ := exists_of_target_eq_ok htarget
  exact hfree

/-- The last step of a path is the last name of the place that it leads to. -/
theorem getLast?_of_target (htarget : files.target path = .ok place) :
    (Path.steps path).getLast? = place.names.getLast?.map Step.down := by
  obtain ⟨directory, name, hnames, _, rfl, _⟩ := exists_of_target_eq_ok htarget
  simp [Place.child, hnames.getLast?_eq]

/-! ## One place by two paths -/

theorem walk_workingDirectory
    (hlength : ∀ name ∈ files.workingDirectory.names, name.utf8ByteSize ≤ Path.maxNameBytes) :
    files.walk .root (files.workingDirectory.names.map .down) = .ok files.workingDirectory := by
  -- Part of the way is behind, and the rest is still to go.
  have hrest : ∀ front rest : List String, front ++ rest = files.workingDirectory.names →
      files.walk ⟨front⟩ (rest.map .down) = .ok files.workingDirectory := by
    intro front rest
    induction rest generalizing front with
    | nil =>
        intro hnames
        rw [List.append_nil] at hnames
        subst hnames
        rfl
    | cons name rest ih =>
        intro hnames
        have hmore : (front ++ [name]) ++ rest = files.workingDirectory.names := by
          rw [List.append_assoc, List.singleton_append, hnames]
        have hfits : ¬ Path.maxNameBytes < name.utf8ByteSize :=
          Nat.not_lt.mpr (hlength name (by simp [← hnames]))
        have hdirectory : files.get? (Place.child ⟨front⟩ name) = some .directory := by
          rw [get?, if_pos]
          exact List.isPrefixOf_iff_prefix.mpr ⟨rest, hmore⟩
        have henter : files.enter ⟨front⟩ (.down name) = .ok (Place.child ⟨front⟩ name) := by
          simp only [enter, if_neg hfits, hdirectory]
        rw [List.map_cons, walk, List.foldlM_cons, henter]
        exact ih (front ++ [name]) hmore
  exact hrest [] files.workingDirectory.names rfl

/-- A path from the root that goes by the working directory leads where its other steps lead from
there. So a file has a path of either kind, and it is one file. -/
theorem target_eq_of_steps_eq {absolute relative name : String} (habsolute : Names absolute name)
    (hrelative : Names relative name) (hrooted : Path.isRooted absolute)
    (hunrooted : Path.isRooted relative = false)
    (hlength : ∀ name ∈ files.workingDirectory.names, name.utf8ByteSize ≤ Path.maxNameBytes)
    (hsteps : Path.steps absolute =
      files.workingDirectory.names.map .down ++ Path.steps relative) :
    files.target absolute = files.target relative := by
  have hne : Path.steps relative ≠ [] := by
    intro hnil
    have hlast := hrelative.getLast?_eq
    rw [hnil] at hlast
    cases hlast
  have hwalk : files.walk (files.start absolute) (Path.steps absolute).dropLast =
      files.walk (files.start relative) (Path.steps relative).dropLast := by
    have hway := walk_workingDirectory hlength
    unfold walk at hway ⊢
    simp only [start, hrooted, hunrooted, if_true, Bool.false_eq_true, if_false, hsteps,
      List.dropLast_append_of_ne_nil hne, List.foldlM_append, hway]
    rfl
  rw [target_of_names habsolute, target_of_names hrelative, hwalk]

example : empty.target "/work//./report.csv" = empty.target "./report.csv" := by
  rfl

/-! ## A file that takes the place of no directory -/

theorem start_put (files : Files) (spot : Place) (entry : Entry) (path : String) :
    (files.put spot entry).start path = files.start path :=
  rfl

section Put

variable (hspot : files.get? spot ≠ some .directory)

include hspot

/-- Directories stay where they are. -/
theorem get?_put_of_directory (hplace : files.get? place = some .directory) :
    (files.put spot (.file content)).get? place = some .directory := by
  have hne : place ≠ spot := by
    rintro rfl
    exact hspot hplace
  rw [get?_put_of_ne hne, hplace]

theorem enter_put {step : Step} {reached : Place}
    (henter : files.enter place step = .ok reached) :
    (files.put spot (.file content)).enter place step = .ok reached := by
  cases step with
  | here => exact henter
  | up => exact henter
  | down name =>
      simp only [enter] at henter ⊢
      split at henter
      next => cases henter
      next hlength =>
        rw [if_neg hlength]
        split at henter
        next hdirectory => rw [get?_put_of_directory hspot hdirectory, ← henter]
        next => cases henter
        next => cases henter

theorem walk_put {steps : List Step} {last : Place} (hwalk : files.walk place steps = .ok last) :
    (files.put spot (.file content)).walk place steps = .ok last := by
  induction steps generalizing place with
  | nil => exact hwalk
  | cons step rest ih =>
      simp only [walk, List.foldlM_cons] at hwalk ⊢
      cases henter : files.enter place step with
      | error error =>
          rw [henter] at hwalk
          cases hwalk
      | ok reached =>
          rw [henter] at hwalk
          rw [enter_put hspot henter]
          exact ih hwalk

/-- Every path that led somewhere leads to the same place as before. -/
theorem target_put (htarget : files.target path = .ok place) :
    (files.put spot (.file content)).target path = .ok place := by
  obtain ⟨directory, name, hnames, hwalk, rfl, hfree⟩ := exists_of_target_eq_ok htarget
  have hstill : (files.put spot (.file content)).get? (directory.child name) ≠
      some .directory := by
    by_cases hplace : directory.child name = spot
    · rw [hplace, get?_put_self hspot]
      simp
    · rwa [get?_put_of_ne hplace]
  -- The walk is the one from before, and `hstill` rules out that it ends at a directory.
  have hwalked : (files.put spot (.file content)).walk (files.start path)
      (Path.steps path).dropLast = .ok directory := walk_put hspot hwalk
  simp only [target_of_names hnames, start_put, hwalked, bind, Except.bind]

/-- What is read from a path that leads to another place stays the same. -/
theorem readText?_put_of_ne (hread : files.readText? path = some text)
    (hne : files.target path ≠ .ok spot) :
    (files.put spot (.file content)).readText? path = some text := by
  unfold readText? readBytes? at hread ⊢
  cases htarget : files.target path with
  | error error => simp [htarget] at hread
  | ok place =>
      have hplace : place ≠ spot := by
        rintro rfl
        exact hne htarget
      rw [target_put hspot htarget]
      rw [htarget] at hread
      simpa only [get?_put_of_ne hplace] using hread

end Put

/-! ## Writing -/

theorem write_eq_map (files : Files) (path text : String) :
    files.write path text =
      (files.target path).map fun place => files.put place (.file text.toUTF8) := by
  unfold write
  cases files.target path <;> rfl

theorem write_eq_ok_iff :
    files.write path text = .ok after ↔
      ∃ place, files.target path = .ok place ∧ after = files.put place (.file text.toUTF8) := by
  rw [write_eq_map]
  cases files.target path <;> simp [Except.map, eq_comm]

theorem fromUTF8?_toUTF8 (text : String) : String.fromUTF8? text.toUTF8 = some text := by
  have hvalid : text.toUTF8.IsValidUTF8 := text.isValidUTF8
  rw [String.fromUTF8?, dif_pos hvalid]
  rfl

/-- What was written is read back. -/
theorem readText?_write (hwrite : files.write path text = .ok after) :
    after.readText? path = some text := by
  obtain ⟨place, htarget, rfl⟩ := write_eq_ok_iff.mp hwrite
  have hagain : (files.put place (.file text.toUTF8)).target path = .ok place :=
    target_put (get?_ne_directory_of_target htarget) htarget
  simp only [readText?, readBytes?, hagain, get?_put_self (get?_ne_directory_of_target htarget),
    Option.bind_some, fromUTF8?_toUTF8]

/-- Writing the same once more changes nothing. -/
theorem write_write (hwrite : files.write path text = .ok after) :
    after.write path text = .ok after := by
  obtain ⟨place, htarget, rfl⟩ := write_eq_ok_iff.mp hwrite
  rw [write_eq_ok_iff]
  exact ⟨place, target_put (get?_ne_directory_of_target htarget) htarget, (put_put _ _ _).symm⟩

/-- Paths that end in different names never lead to one place, so what is read from one of them
does not depend on what is written to the other. -/
theorem readText?_write_of_ne {other content : String}
    (hwrite : files.write path text = .ok after) (hread : files.readText? other = some content)
    (hlast : (Path.steps other).getLast? ≠ (Path.steps path).getLast?) :
    after.readText? other = some content := by
  obtain ⟨place, htarget, rfl⟩ := write_eq_ok_iff.mp hwrite
  apply readText?_put_of_ne (get?_ne_directory_of_target htarget) hread
  intro hsame
  apply hlast
  rw [getLast?_of_target hsame, getLast?_of_target htarget]

end Files

end ExpenseReport
