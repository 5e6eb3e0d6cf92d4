import ExpenseReport.Text.Digits
import ExpenseReport.Yaml.Source
import ExpenseReport.Yaml.Token

/-!
# Names, tags and directives

The parts of a YAML text that are identifiers: the names of anchors, the tags of nodes with their
handles, and the directives in front of a document.
-/

namespace ExpenseReport.Yaml

/-- What the names of anchors, handles and directives consist of. -/
def isWordChar (c : Char) : Bool :=
  c.isAlphanum || c = '_' || c = '-'

/-- What a tag consists of, apart from escapes. -/
def isTagChar (c : Char) : Bool :=
  isWordChar c || ";/?:@&=+$.!~*'()".toList.contains c

/-- What a tag in angle brackets or the expansion of a handle consists of, apart from escapes. -/
def isUriChar (c : Char) : Bool :=
  isTagChar c || ",[]".toList.contains c

/-- Takes the name of an anchor or a reference. -/
def takeName? (source : Source) : Option (String × Source) :=
  let name := source.takeChars isWordChar
  let rest := source.dropChars isWordChar
  if name ≠ [] ∧ (rest.atSeparator ∨ rest.startsWith ("?:,]\x7d%@`".toList.contains ·)) then
    some (String.ofList name, rest)
  else none

/-! ## Tags -/

/-- Takes the byte denoted by a percent sign and two hexadecimal digits. -/
def takeByte? : Source → Option (UInt8 × Source)
  | percent :: high :: low :: rest =>
    if percent.char = '%' then do
      let value := 16 * (← Text.hexValue? high.char) + (← Text.hexValue? low.char)
      return (UInt8.ofNat value, rest)
    else none
  | _ => none

/-- How many bytes follow the first one of a character. -/
def following? (byte : UInt8) : Option Nat :=
  if byte < 0x80 then some 0
  else if 0xc0 ≤ byte ∧ byte < 0xe0 then some 1
  else if 0xe0 ≤ byte ∧ byte < 0xf0 then some 2
  else if 0xf0 ≤ byte ∧ byte < 0xf8 then some 3
  else none

/-- Takes the bytes that continue a character. -/
def takeFollowing? : Nat → Source → Option (Tag × Source)
  | 0, source => some ([], source)
  | count + 1, source => do
    let (byte, rest) ← takeByte? source
    if 0x80 ≤ byte ∧ byte < 0xc0 then do
      let (bytes, rest) ← takeFollowing? count rest
      return (byte :: bytes, rest)
    else none

/-- Takes the bytes of a character. They need only be as many as the first one says; there may be no
such character. -/
def takeEscaped? (source : Source) : Option (Tag × Source) := do
  let (byte, rest) ← takeByte? source
  let (bytes, rest) ← takeFollowing? (← following? byte) rest
  return (byte :: bytes, rest)

/-- Takes the bytes of a tag, as far as they go. -/
def takeUri? (allowed : Char → Bool) : Nat → Source → Option (Tag × Source)
  | 0, _ => none
  | fuel + 1, source =>
    match source with
    | [] => some ([], [])
    | here :: rest =>
      if here.char = '%' then do
        let (bytes, after) ← takeEscaped? source
        let (more, after) ← takeUri? allowed fuel after
        return (bytes ++ more, after)
      else if allowed here.char then do
        let (more, after) ← takeUri? allowed fuel rest
        return (UInt8.ofNat here.char.toNat :: more, after)
      else some ([], source)

/-- A tag ends at its first zero byte. -/
def Tag.cut (tag : Tag) : Tag :=
  tag.takeWhile (· ≠ 0)

/-- Takes a run of word characters between exclamation marks; the second mark may be missing. -/
def takeHandle (source : Source) : List Char × Source :=
  let name := source.takeChars isWordChar
  let rest := source.dropChars isWordChar
  if rest.startsWithChar '!' then ('!' :: name ++ ['!'], rest.drop 1) else ('!' :: name, rest)

/-- Takes a tag in angle brackets, behind the opening one. -/
def takeVerbatimTag? (source : Source) : Option (String × Tag × Source) := do
  let (uri, rest) ← takeUri? isUriChar (source.length + 1) source
  if uri ≠ [] ∧ rest.startsWithChar '>' then some ("", uri.cut, rest.drop 1) else none

/-- Takes a tag made of a handle and a suffix, behind the first exclamation mark. What looks like a
handle without its second mark belongs to the suffix. A lone mark is a tag of its own. -/
def takeShortTag? (source : Source) : Option (String × Tag × Source) := do
  let (handle, rest) := takeHandle source
  let (uri, after) ← takeUri? isTagChar (rest.length + 1) rest
  if 1 < handle.length ∧ handle.getLast? = some '!' then
    if uri = [] then none else return (String.ofList handle, uri.cut, after)
  else
    let suffix := Tag.ofText (String.ofList (handle.drop 1)) ++ uri.cut
    if suffix = [] then return ("", Tag.ofText "!", after) else return ("!", suffix, after)

/-- Takes a tag, behind the first exclamation mark. -/
def takeTag? (inFlow : Bool) (source : Source) : Option (String × Tag × Source) := do
  let (handle, suffix, rest) ←
    if source.startsWithChar '<' then takeVerbatimTag? (source.drop 1) else takeShortTag? source
  if rest.atSeparator || (inFlow && rest.startsWithChar ',') then
    some (handle, suffix, rest)
  else none

/-! ## Directives -/

/-- Takes a number of nine digits at most. -/
def takeVersionNumber? (source : Source) : Option (Nat × Source) := do
  let run := source.takeChars Text.isDigit
  if 9 < run.length then none
  else return (← Text.value? run, source.dropChars Text.isDigit)

/-- Takes the two numbers of a version. -/
def takeVersion? (source : Source) : Option (Nat × Nat × Source) := do
  let (major, rest) ← takeVersionNumber? source
  if !rest.startsWithChar '.' then none
  else do
    let (minor, rest) ← takeVersionNumber? (rest.drop 1)
    return (major, minor, rest)

/-- Takes a handle and its expansion. -/
def takeTagDirective? (source : Source) : Option (String × Tag × Source) := do
  if !source.startsWithChar '!' then none
  else do
    let (handle, rest) := takeHandle (source.drop 1)
    if handle.length ≠ 1 ∧ handle.getLast? ≠ some '!' then none
    else if !rest.startsWith isGap then none
    else do
      let rest := rest.skipGap
      let (uri, after) ← takeUri? isUriChar (rest.length + 1) rest
      if uri ≠ [] ∧ after.atSeparator then return (String.ofList handle, uri.cut, after)
      else none

end ExpenseReport.Yaml
