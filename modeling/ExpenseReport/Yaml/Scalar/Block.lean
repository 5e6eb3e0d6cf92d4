import ExpenseReport.Text.Digits
import ExpenseReport.Yaml.Source

/-!
# Block scalars

Indented lines behind a bar are text as they are; behind an angle bracket they are folded. A sign in
the header says what happens to the line breaks at the end, a digit how deep the lines are indented.
-/

namespace ExpenseReport.Yaml.Block

/-- What becomes of the line breaks at the end. -/
inductive Chomping where
  | strip
  | clip
  | keep
deriving DecidableEq

/-- What the header of a block scalar says. -/
structure Header where
  chomping : Chomping
  /-- How much deeper the lines are indented; zero leaves it to the first line. -/
  increment : Nat

def takeChomping? : Source → Option (Chomping × Source)
  | [] => none
  | here :: rest =>
    if here.char = '+' then some (.keep, rest)
    else if here.char = '-' then some (.strip, rest)
    else none

def takeIncrement? : Source → Option (Nat × Source)
  | [] => none
  | here :: rest => (Text.digitValue? here.char).map (·, rest)

/-- Takes a sign and a digit in either order. -/
def takeIndicators (source : Source) : Option Nat × Chomping × Source :=
  match takeChomping? source with
  | some (chomping, rest) =>
    match takeIncrement? rest with
    | some (increment, rest) => (some increment, chomping, rest)
    | none => (none, chomping, rest)
  | none =>
    match takeIncrement? source with
    | some (increment, rest) =>
      match takeChomping? rest with
      | some (chomping, rest) => (some increment, chomping, rest)
      | none => (some increment, .clip, rest)
    | none => (none, .clip, source)

/-- Takes a header up to the end of its line. An increment of zero is none. -/
def takeHeader? (source : Source) : Option (Header × Source) :=
  let (increment, chomping, rest) := takeIndicators source
  let rest := rest.skipGap.skipComment
  if increment = some 0 ∨ !rest.atLineEnd then none
  else some (⟨chomping, increment.getD 0⟩, rest.drop 1)

/-- Takes empty lines and the indentation of the next one. Tells the deepest indentation met. An
indentation of zero is one not known yet. No tab may indent. -/
def takeBreaks? (indent deepest : Nat) : Source → Option (List Char × Nat × Source)
  | [] => some ([], deepest, [])
  | here :: rest =>
    let indenting := indent = 0 || here.column < indent
    if indenting && here.char = ' ' then takeBreaks? indent deepest rest
    else if indenting && here.char = '\t' then none
    else
      let deepest := max deepest here.column
      if isBreak here.char then
        (takeBreaks? indent deepest rest).map fun (breaks, after) => (here.char :: breaks, after)
      else some ([], deepest, here :: rest)

/-- The end of a scalar: the break of its last line and those of the empty lines behind it. -/
def Chomping.apply (chomping : Chomping) (last trailing : List Char) : List Char :=
  match chomping with
  | .strip => []
  | .clip => last
  | .keep => last ++ trailing

/-- Takes the lines of a scalar. `last` is the line break before the current line, `lastBlank` says
whether the line before started with a blank, and `trailing` are the empty lines between. Every line
uses up `fuel`. -/
def takeLines? (folded : Bool) (chomping : Chomping) (indent : Nat) :
    Nat → (last : List Char) → (lastBlank : Bool) → (trailing : List Char) → Source →
      Option (List Char × Source)
  | 0, _, _, _, _ => none
  | fuel + 1, last, lastBlank, trailing, source =>
    if source.head?.any (·.column = indent) then do
      let blank := source.startsWith isGap
      let joint :=
        if folded ∧ last = ['\n'] ∧ !lastBlank ∧ !blank then
          if trailing = [] then [' '] else []
        else last
      let line := source.takeChars (!isBreak ·)
      let ended := source.skipLine
      let (breaks, _, next) ← takeBreaks? indent 0 (ended.drop 1)
      let (more, rest) ← takeLines? folded chomping indent fuel
        ((ended.take 1).map Located.char) blank breaks next
      return (joint ++ trailing ++ line ++ more, rest)
    else some (chomping.apply last trailing, source)

/-- Takes a block scalar behind its indicator, inside a block indented by `outer`, or by nothing
at all. One more `fuel` than the length of the text is enough. -/
def take? (folded : Bool) (outer : Option Nat) (fuel : Nat) (source : Source) :
    Option (List Char × Source) := do
  let (header, lines) ← takeHeader? source
  let fixed := if header.increment = 0 then 0 else outer.getD 0 + header.increment
  let (breaks, deepest, first) ← takeBreaks? fixed 0 lines
  let least := max 1 ((outer.map (· + 1)).getD 0)
  let indent := if fixed = 0 then max deepest least else fixed
  takeLines? folded header.chomping indent fuel [] false breaks first

end ExpenseReport.Yaml.Block
