import ExpenseReport.Fault
import ExpenseReport.Files.Path

/-!
# Files

Directories and files as a value: one tree with a working directory in it, and no links between its
places. A path starts at the root or in the working directory, so one file can have many paths.
Reading and writing follow a path step by step and say which step fails; writing replaces a file as
a whole or does nothing.
-/

namespace ExpenseReport

/-- Where something stands, by the names that lead there from the root. -/
structure Place where
  names : List String
deriving DecidableEq

namespace Place

def root : Place := ⟨[]⟩

/-- The place of a name in a directory. -/
def child (place : Place) (name : String) : Place :=
  ⟨place.names ++ [name]⟩

/-- The directory that holds a place. The root holds itself. -/
def parent (place : Place) : Place :=
  ⟨place.names.dropLast⟩

/-- Whether the way from the root to another place ends at this one or passes it. -/
def leadsTo (place other : Place) : Bool :=
  place.names.isPrefixOf other.names

end Place

/-- What stands at a place. -/
inductive Entry where
  | file (content : ByteArray)
  | directory

/-- All files and directories, with one entry for each place. The working directory and those that
lead to it need none. -/
structure Files where
  workingDirectory : Place
  entries : List (Place × Entry)

namespace Files

/-- No file, and no directory but the working directory and the root. -/
def empty : Files := ⟨Place.root.child "work", []⟩

/-- What stands at a place. -/
def get? (files : Files) (place : Place) : Option Entry :=
  if place.leadsTo files.workingDirectory then some .directory else files.entries.lookup place

/-- Entries with the one for a place replaced, or added at the end. -/
def insert (place : Place) (entry : Entry) : List (Place × Entry) → List (Place × Entry)
  | [] => [(place, entry)]
  | (other, old) :: rest =>
    if place = other then (place, entry) :: rest else (other, old) :: insert place entry rest

/-- Puts something at a place, instead of what stands there. -/
def put (files : Files) (place : Place) (entry : Entry) : Files :=
  ⟨files.workingDirectory, insert place entry files.entries⟩

theorem lookup_insert (other place : Place) (entry : Entry) (entries : List (Place × Entry)) :
    (insert place entry entries).lookup other =
      if other = place then some entry else entries.lookup other := by
  induction entries with
  | nil => grind [insert]
  | cons head rest ih => grind [insert]

/-- What was put at a place stands there, unless a directory does. -/
theorem get?_put_self {files : Files} {place : Place} {entry : Entry}
    (hfree : files.get? place ≠ some .directory) :
    (files.put place entry).get? place = some entry := by
  have haside : place.leadsTo files.workingDirectory = false := by
    rw [Bool.eq_false_iff]
    intro hleads
    exact hfree (by rw [get?, if_pos hleads])
  simp [put, get?, haside, lookup_insert]

/-- Whatever is put at one place, all others are as they were. -/
theorem get?_put_of_ne {files : Files} {place other : Place} {entry : Entry}
    (hne : other ≠ place) : (files.put place entry).get? other = files.get? other := by
  simp [put, get?, hne, lookup_insert]

/-- Putting the same thing at the same place once more changes nothing. -/
theorem put_put (files : Files) (place : Place) (entry : Entry) :
    (files.put place entry).put place entry = files.put place entry := by
  have hinsert (entries : List (Place × Entry)) :
      insert place entry (insert place entry entries) = insert place entry entries := by
    induction entries with
    | nil => simp [insert]
    | cons head rest ih => grind [insert]
  exact congrArg (Files.mk files.workingDirectory) (hinsert files.entries)

/-- The directory that a path starts in. -/
def start (files : Files) (path : String) : Place :=
  if Path.isRooted path then .root else files.workingDirectory

/-- Goes from a directory to the directory one step away. -/
def enter (files : Files) (place : Place) : Path.Step → Except WriteError Place
  | .here => .ok place
  | .up => .ok place.parent
  | .down name =>
    if Path.maxNameBytes < name.utf8ByteSize then .error .nameTooLong
    else
      match files.get? (place.child name) with
      | some .directory => .ok (place.child name)
      | some (.file _) => .error .notDirectory
      | none => .error .notFound

/-- Goes from a directory through all the steps. -/
def walk (files : Files) (place : Place) (steps : List Path.Step) : Except WriteError Place :=
  steps.foldlM files.enter place

/-! ## Writing -/

/-- The place that writing to a path would fill, or why nothing can be written there. -/
def target (files : Files) (path : String) : Except WriteError Place := do
  if Path.hasNul path then throw .nulInPath
  if Path.maxPathBytes < path.utf8ByteSize then throw .nameTooLong
  if path.isEmpty then throw .notFound
  let steps := Path.steps path
  let directory ← files.walk (files.start path) steps.dropLast
  match steps.getLast? with
  | some (.down name) =>
    if Path.endsInSlash path then throw .isDirectory
    if Path.maxNameBytes < name.utf8ByteSize then throw .nameTooLong
    match files.get? (directory.child name) with
    | some .directory => throw .isDirectory
    | _ => return directory.child name
  | _ => throw .isDirectory

/-- Writes a text to a path, as the whole content of the file there. -/
def write (files : Files) (path text : String) : Except WriteError Files := do
  return files.put (← files.target path) (.file text.toUTF8)

/-! ## Reading -/

/-- The content of the file at a path. -/
def readBytes? (files : Files) (path : String) : Option ByteArray :=
  match files.target path with
  | .error _ => none
  | .ok place =>
    match files.get? place with
    | some (.file content) => some content
    | _ => none

/-- The text in the file at a path, unless its bytes are no text. -/
def readText? (files : Files) (path : String) : Option String :=
  (files.readBytes? path).bind String.fromUTF8?

/-! ## Setting up -/

/-- The place that a path leads to when every name on the way is a directory. -/
def lexicalPlace (files : Files) (path : String) : Place :=
  (Path.steps path).foldl
    (fun place step =>
      match step with
      | .here => place
      | .up => place.parent
      | .down name => place.child name)
    (files.start path)

/-- Makes sure that a directory and all those above it exist. -/
def provideDirectory (files : Files) (place : Place) : Files :=
  (List.range (place.names.length + 1)).foldl
    (fun files count =>
      let above : Place := ⟨place.names.take count⟩
      if (files.get? above).isSome then files else files.put above .directory)
    files

/-- Makes sure that there is a directory at a path. -/
def provide (files : Files) (path : String) : Files :=
  files.provideDirectory (files.lexicalPlace path)

/-- Puts a file at a path, with the directories it needs. -/
def provideFile (files : Files) (path : String) (content : ByteArray) : Files :=
  let place := files.lexicalPlace path
  (files.provideDirectory (place.parent)).put place (.file content)

end Files

end ExpenseReport
