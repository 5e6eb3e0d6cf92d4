import ExpenseReport.Yaml.Document

/-!
# Following references

References make a short text stand for a long one. So a document may be followed through them only
so often: a hundred times for every mark it is written with. What is passed over does not count.
-/

namespace ExpenseReport.Yaml

namespace Node

variable {Ref : Type}

mutual

/-- How many marks a node is written with: one for a scalar or a reference, and one on either side
of what a collection holds. -/
def size : Node Ref → Nat
  | reference _ | scalar .. => 1
  | sequence _ _ items => 2 + sizeItems items
  | mapping _ _ entries => 2 + sizeEntries entries

def sizeItems : List (Node Ref) → Nat
  | [] => 0
  | item :: rest => size item + sizeItems rest

def sizeEntry : Node Ref × Node Ref → Nat
  | (key, value) => size key + size value

def sizeEntries : List (Node Ref × Node Ref) → Nat
  | [] => 0
  | entry :: rest => sizeEntry entry + sizeEntries rest

end

/-- How many references a node is itself. -/
def references : Node Ref → Nat
  | reference _ => 1
  | _ => 0

end Node

namespace Document

def text? (document : Document) (node : Node Nat) : Option String :=
  match document.follow? node with
  | some (.scalar _ _ _ text) => some text
  | _ => none

/-! ## How many references are followed -/

/-- All numbers of a list together. -/
def total : List Nat → Nat
  | [] => 0
  | n :: rest => n + total rest

/-- To read a value, which may be wrapped in a mapping. -/
def valueReferences (document : Document) (node : Node Nat) : Nat :=
  node.references +
    match document.follow? node with
    | some (.mapping _ _ entries) =>
      total (entries.map fun (key, value) => key.references + value.references)
    | _ => 0

/-- To read a list, by what its items take. -/
def listReferences (document : Document) (item : Node Nat → Nat) (node : Node Nat) : Nat :=
  node.references +
    match document.follow? node with
    | some (.sequence _ _ items) => total (items.map item)
    | _ => 0

/-- To read a mapping, by what its known members take. The keys of all members are read. -/
def recordReferences (document : Document) (fields : List String) (value : Node Nat → Nat)
    (node : Node Nat) : Nat :=
  node.references +
    match document.follow? node with
    | some (.mapping _ _ entries) =>
      total <| entries.map fun (key, member) =>
        key.references +
          if (document.text? key).any (fields.contains ·) then value member else 0
    | _ => 0

/-- To read a record of values. -/
def flatReferences (document : Document) (fields : List String) : Node Nat → Nat :=
  document.recordReferences fields document.valueReferences

/-- To read a file with one list of records. -/
def fileReferences (document : Document) (list : String) (fields : List String) : Node Nat → Nat :=
  document.recordReferences [list] (document.listReferences (document.flatReferences fields))

end Document

/-- How often references may be followed for each mark of a document. -/
def referencesPerMark : Nat := 100

end ExpenseReport.Yaml
