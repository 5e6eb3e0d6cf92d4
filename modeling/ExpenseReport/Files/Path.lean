/-!
# Paths

A path is a text with slashes between its names. Joining a file name to a directory adds a slash
unless there is one already or no directory is given; nothing else is changed, so a path is shown
the way it was written.
-/

namespace ExpenseReport.Path

/-- A file name in a directory. -/
def join (directory file : String) : String :=
  match directory.toList.getLast? with
  | none => file
  | some '/' => directory ++ file
  | some _ => directory ++ "/" ++ file

/-- Cuts a text at every slash. -/
def split : List Char → List (List Char)
  | [] => [[]]
  | c :: rest =>
    if c = '/' then [] :: split rest
    else
      match split rest with
      | [] => [[c]]
      | name :: names => (c :: name) :: names

/-- One step of the way a path describes. -/
inductive Step where
  /-- Stays where it is. -/
  | here
  /-- Goes to the directory above; above the root there is none but itself. -/
  | up
  /-- Goes to what has the name. -/
  | down (name : String)
deriving DecidableEq

/-- The step that a name stands for. -/
def Step.ofName (name : List Char) : Step :=
  if name = ['.'] then .here
  else if name = ['.', '.'] then .up
  else .down (String.ofList name)

/-- The steps of a path. Repeated slashes count as one. -/
def steps (path : String) : List Step :=
  ((split path.toList).filter (· ≠ [])).map Step.ofName

/-- Whether a path starts at the root rather than in the working directory. -/
def isRooted (path : String) : Bool :=
  path.toList.head? = some '/'

/-- Whether a path ends in a slash, which only suits a directory. -/
def endsInSlash (path : String) : Bool :=
  path.toList.getLast? = some '/'

/-- Whether a path has a character that no system call takes. -/
def hasNul (path : String) : Bool :=
  path.toList.contains '\x00'

/-- The longest name, in bytes. -/
def maxNameBytes : Nat := 255

/-- The longest path, in bytes. -/
def maxPathBytes : Nat := 4095

end ExpenseReport.Path
