import ExpenseReport.Yaml.Token

/-!
# Nodes

A document is a tree of scalars, sequences and mappings. A node may be named by an anchor, and a
reference may stand for it further on.
-/

namespace ExpenseReport.Yaml

/-- A node that refers to others by references of some type. -/
inductive Node (Ref : Type) where
  | reference (target : Ref)
  | scalar (anchor : Option String) (tag : Option Tag) (style : Style) (text : String)
  | sequence (anchor : Option String) (tag : Option Tag) (items : List (Node Ref))
  | mapping (anchor : Option String) (tag : Option Tag) (entries : List (Node Ref × Node Ref))
deriving Inhabited

namespace Node

/-- A node of which nothing is written. -/
def blank {Ref : Type} : Node Ref :=
  scalar none none .plain ""

end Node

/-! ## From tokens to nodes -/

/-- The handles of tags and what they stand for. -/
abbrev TagHandles := List (String × Tag)

/-- The handles that need no directive. -/
def defaultHandles : TagHandles :=
  [("!", Tag.ofText "!"), ("!!", Tag.ofText "tag:yaml.org,2002:")]

/-- The tag with a handle and a suffix. -/
def resolveTag? (handles : TagHandles) (handle : String) (suffix : Tag) : Option Tag :=
  if handle = "" then some suffix else (handles.lookup handle).map (· ++ suffix)

/-- Takes an anchor and a tag, in either order. -/
def takeProperties? (handles : TagHandles) :
    List Token → Option (Option String × Option Tag × List Token)
  | .anchor name :: .tag handle suffix :: rest
  | .tag handle suffix :: .anchor name :: rest => do
    return (some name, some (← resolveTag? handles handle suffix), rest)
  | .anchor name :: rest => some (some name, none, rest)
  | .tag handle suffix :: rest => do
    return (none, some (← resolveTag? handles handle suffix), rest)
  | tokens => some (none, none, tokens)

/-- Whether the next token is one of some; the end of the text counts as one. -/
def endsAt (ends : List Token) (tokens : List Token) : Bool :=
  tokens.head?.all (ends.contains ·)

/-- What a node can stand inside of, as far as that matters for its form. -/
inductive Context where
  /-- Between brackets, where indentation does not count. -/
  | flow
  | block
  /-- In a block mapping, where the items of a sequence need no indentation. -/
  | entry
deriving DecidableEq

mutual

def takeNode? (handles : TagHandles) (context : Context) :
    Nat → List Token → Option (Node String × List Token)
  | 0, _ => none
  | _ + 1, .reference name :: rest => some (.reference name, rest)
  | fuel + 1, tokens => do
    let (anchor, tag, content) ← takeProperties? handles tokens
    match content with
    | .scalar style text :: rest => return (.scalar anchor tag style text, rest)
    | .flowSequenceStart :: rest => do
      let (items, rest) ← takeFlowItems? handles fuel true rest
      return (.sequence anchor tag items, rest)
    | .flowMappingStart :: rest => do
      let (entries, rest) ← takeFlowEntries? handles fuel true rest
      return (.mapping anchor tag entries, rest)
    | _ =>
      match context, content with
      | .entry, .blockEntry :: _ => do
        let (items, rest) ← takeLooseItems? handles fuel content
        return (.sequence anchor tag items, rest)
      | .block, .blockSequenceStart :: rest | .entry, .blockSequenceStart :: rest => do
        let (items, rest) ← takeBlockItems? handles fuel rest
        return (.sequence anchor tag items, rest)
      | .block, .blockMappingStart :: rest | .entry, .blockMappingStart :: rest => do
        let (entries, rest) ← takeBlockEntries? handles fuel rest
        return (.mapping anchor tag entries, rest)
      | _, _ =>
        if anchor.isSome || tag.isSome then return (.scalar anchor tag .plain "", content)
        else none

/-- Takes a node unless one of some tokens shows that there is none. -/
def takeOptional? (handles : TagHandles) (context : Context) (ends : List Token) :
    Nat → List Token → Option (Node String × List Token)
  | 0, _ => none
  | fuel + 1, tokens =>
    if endsAt ends tokens then some (.blank, tokens) else takeNode? handles context fuel tokens

/-- Takes the items of an indented sequence and its end. -/
def takeBlockItems? (handles : TagHandles) :
    Nat → List Token → Option (List (Node String) × List Token)
  | 0, _ => none
  | fuel + 1, .blockEntry :: rest => do
    let (item, rest) ← takeOptional? handles .block [.blockEntry, .blockEnd] fuel rest
    let (items, rest) ← takeBlockItems? handles fuel rest
    return (item :: items, rest)
  | _ + 1, .blockEnd :: rest => some ([], rest)
  | _ + 1, _ => none

/-- Takes the items of a sequence that is not indented. -/
def takeLooseItems? (handles : TagHandles) :
    Nat → List Token → Option (List (Node String) × List Token)
  | 0, _ => none
  | fuel + 1, .blockEntry :: rest => do
    let (item, rest) ←
      takeOptional? handles .block [.blockEntry, .key, .value, .blockEnd] fuel rest
    let (items, rest) ← takeLooseItems? handles fuel rest
    return (item :: items, rest)
  | _ + 1, tokens => some ([], tokens)

/-- Takes the entries of a block mapping and its end. -/
def takeBlockEntries? (handles : TagHandles) :
    Nat → List Token → Option (List (Node String × Node String) × List Token)
  | 0, _ => none
  | fuel + 1, .key :: rest => do
    let (key, rest) ← takeOptional? handles .entry [.key, .value, .blockEnd] fuel rest
    let (value, rest) ← takeBlockValue? handles fuel rest
    let (entries, rest) ← takeBlockEntries? handles fuel rest
    return ((key, value) :: entries, rest)
  | _ + 1, .blockEnd :: rest => some ([], rest)
  | _ + 1, _ => none

/-- Takes the value of an entry, if there is a colon. -/
def takeBlockValue? (handles : TagHandles) :
    Nat → List Token → Option (Node String × List Token)
  | 0, _ => none
  | fuel + 1, .value :: rest => takeOptional? handles .entry [.key, .value, .blockEnd] fuel rest
  | _ + 1, tokens => some (.blank, tokens)

/-- Takes the items of a sequence in brackets and the closing one. A comma stands in front of every
item but the first, and may also stand behind the last. -/
def takeFlowItems? (handles : TagHandles) :
    Nat → (first : Bool) → List Token → Option (List (Node String) × List Token)
  | 0, _, _ => none
  | _ + 1, _, .flowSequenceEnd :: rest => some ([], rest)
  | fuel + 1, first, tokens => do
    let tokens ←
      match first, tokens with
      | true, _ => some tokens
      | false, .flowEntry :: rest => some rest
      | false, _ => none
    match tokens with
    | .flowSequenceEnd :: rest => return ([], rest)
    | .key :: rest => do
      let (entry, rest) ← takeFlowPair? handles fuel rest
      let (items, rest) ← takeFlowItems? handles fuel false rest
      return (.mapping none none [entry] :: items, rest)
    | _ => do
      let (item, rest) ← takeNode? handles .flow fuel tokens
      let (items, rest) ← takeFlowItems? handles fuel false rest
      return (item :: items, rest)

/-- Takes an entry that is an item of a sequence in brackets. When the key is left out, the token
that shows it goes with it. -/
def takeFlowPair? (handles : TagHandles) :
    Nat → List Token → Option ((Node String × Node String) × List Token)
  | 0, _ => none
  | fuel + 1, tokens => do
    let (key, rest) ←
      if endsAt [.value, .flowEntry, .flowSequenceEnd] tokens then some (.blank, tokens.drop 1)
      else takeNode? handles .flow fuel tokens
    let (value, rest) ← takeFlowValue? handles [.flowEntry, .flowSequenceEnd] fuel rest
    return ((key, value), rest)

/-- Takes the value of an entry in brackets, if there is a colon. -/
def takeFlowValue? (handles : TagHandles) (ends : List Token) :
    Nat → List Token → Option (Node String × List Token)
  | 0, _ => none
  | fuel + 1, .value :: rest => takeOptional? handles .flow ends fuel rest
  | _ + 1, tokens => some (.blank, tokens)

/-- Takes the entries of a mapping in braces and the closing one. An entry without a question mark
and without a colon is a key alone. -/
def takeFlowEntries? (handles : TagHandles) :
    Nat → (first : Bool) → List Token →
      Option (List (Node String × Node String) × List Token)
  | 0, _, _ => none
  | _ + 1, _, .flowMappingEnd :: rest => some ([], rest)
  | fuel + 1, first, tokens => do
    let tokens ←
      match first, tokens with
      | true, _ => some tokens
      | false, .flowEntry :: rest => some rest
      | false, _ => none
    match tokens with
    | .flowMappingEnd :: rest => return ([], rest)
    | .key :: rest => do
      let (key, rest) ←
        takeOptional? handles .flow [.value, .flowEntry, .flowMappingEnd] fuel rest
      let (value, rest) ← takeFlowValue? handles [.flowEntry, .flowMappingEnd] fuel rest
      let (entries, rest) ← takeFlowEntries? handles fuel false rest
      return ((key, value) :: entries, rest)
    | _ => do
      let (key, rest) ← takeNode? handles .flow fuel tokens
      let (entries, rest) ← takeFlowEntries? handles fuel false rest
      return ((key, .blank) :: entries, rest)

end

end ExpenseReport.Yaml
