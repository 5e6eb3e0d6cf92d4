import ExpenseReport.Yaml.Lexer
import ExpenseReport.Yaml.Node

/-!
# Documents

A text holds one document, or none when it has only blanks and comments. References between nodes
are numbered: an anchor gets the number of names that are known where it stands, so a name that is
used again has a new number.
-/

namespace ExpenseReport.Yaml

/-- A document: its root, and the nodes that references stand for. A later node with a number
replaces an earlier one. -/
structure Document where
  /-- Missing when the text holds no document. -/
  root : Option (Node Nat)
  anchored : List (Nat × Node Nat)

/-! ## Directives -/

/-- What the directives in front of a document have said so far. -/
structure Prologue where
  versioned : Bool
  handles : TagHandles

/-- Takes the directives in front of a document. There is one version at most, 1.1 or 1.2, and one
expansion at most for each handle. -/
def takePrologue? (said : Prologue) : List Token → Option (Prologue × List Token)
  | .versionDirective major minor :: rest =>
    if said.versioned ∨ major ≠ 1 ∨ (minor ≠ 1 ∧ minor ≠ 2) then none
    else takePrologue? { said with versioned := true } rest
  | .tagDirective handle expansion :: rest =>
    if (said.handles.lookup handle).isSome then none
    else takePrologue? { said with handles := said.handles ++ [(handle, expansion)] } rest
  | tokens => some (said, tokens)

/-- Whether a token is a directive or the start of a document. -/
def Token.opensDocument : Token → Bool
  | versionDirective .. | tagDirective .. | documentStart => true
  | _ => false

/-- Takes the root of a document. After an explicit start there may be none. -/
def takeRoot? (tokens : List Token) : Option (Node String × List Token) := do
  let fuel := 4 * tokens.length + 4
  if tokens.head?.any Token.opensDocument then do
    let (said, rest) ← takePrologue? ⟨false, []⟩ tokens
    match rest with
    | .documentStart :: rest =>
      if rest.head?.all fun token => token.opensDocument || token = .documentEnd then
        return (.blank, rest)
      else takeNode? (said.handles ++ defaultHandles) .block fuel rest
    | _ => none
  else takeNode? defaultHandles .block fuel tokens

/-! ## References -/

/-- The names that are known and their numbers. -/
abbrev KnownAnchors := List (String × Nat)

/-- A numbered node, the anchored nodes in it with those further out first, and the names known
behind it. -/
structure Numbered (α : Type) where
  value : α
  anchored : List (Nat × Node Nat)
  known : KnownAnchors

/-- Gives a name the number of names that are known. -/
def KnownAnchors.add (known : KnownAnchors) (name : String) : KnownAnchors :=
  (name, known.length) :: known.filter (·.1 ≠ name)

/-- The names known inside a node and behind its anchor. -/
def KnownAnchors.enter (known : KnownAnchors) (anchor : Option String) : KnownAnchors :=
  (anchor.map known.add).getD known

/-- Lists a node under the number of its anchor. -/
def anchoredAt (known : KnownAnchors) (anchor : Option String) (node : Node Nat) :
    List (Nat × Node Nat) :=
  (anchor.map fun _ => (known.length, node)).toList

mutual

/-- Numbers the references of a node; none may use a name that is not known yet. -/
def Node.number? (known : KnownAnchors) : Node String → Option (Numbered (Node Nat))
  | .reference name => (known.lookup name).map fun target => ⟨.reference target, [], known⟩
  | .scalar anchor tag style text =>
    let node := .scalar anchor tag style text
    some ⟨node, anchoredAt known anchor node, known.enter anchor⟩
  | .sequence anchor tag items => do
    let inside ← numberItems? (known.enter anchor) items
    let node := .sequence anchor tag inside.value
    return ⟨node, anchoredAt known anchor node ++ inside.anchored, inside.known⟩
  | .mapping anchor tag entries => do
    let inside ← numberEntries? (known.enter anchor) entries
    let node := .mapping anchor tag inside.value
    return ⟨node, anchoredAt known anchor node ++ inside.anchored, inside.known⟩

/-- Numbers the references of items in order. -/
def numberItems? (known : KnownAnchors) : List (Node String) → Option (Numbered (List (Node Nat)))
  | [] => some ⟨[], [], known⟩
  | item :: rest => do
    let first ← item.number? known
    let others ← numberItems? first.known rest
    return ⟨first.value :: others.value, first.anchored ++ others.anchored, others.known⟩

/-- Numbers the references of an entry, the key first. -/
def numberEntry? (known : KnownAnchors) :
    Node String × Node String → Option (Numbered (Node Nat × Node Nat))
  | (key, value) => do
    let key ← key.number? known
    let value ← value.number? key.known
    return ⟨(key.value, value.value), key.anchored ++ value.anchored, value.known⟩

/-- Numbers the references of entries in order. -/
def numberEntries? (known : KnownAnchors) :
    List (Node String × Node String) → Option (Numbered (List (Node Nat × Node Nat)))
  | [] => some ⟨[], [], known⟩
  | entry :: rest => do
    let first ← numberEntry? known entry
    let others ← numberEntries? first.known rest
    return ⟨first.value :: others.value, first.anchored ++ others.anchored, others.known⟩

end

namespace Document

/-- The document that tokens make up, if they make up one at most. -/
def ofTokens? (tokens : List Token) : Option Document := do
  if tokens.isEmpty then return ⟨none, []⟩
  else do
    let (root, rest) ← takeRoot? tokens
    if rest.all (· = .documentEnd) then do
      let numbered ← root.number? []
      return ⟨some numbered.value, numbered.anchored⟩
    else none

/-- Reads a text that holds one document at most. -/
def ofText? (text : String) : Option Document := do
  ofTokens? (← tokensOf? (← Source.ofText? text))

/-- The node that a node stands for. No reference leads to another one. -/
def follow? (document : Document) : Node Nat → Option (Node Nat)
  | .reference target => document.anchored.reverse.lookup target
  | node => some node

end Document

end ExpenseReport.Yaml
