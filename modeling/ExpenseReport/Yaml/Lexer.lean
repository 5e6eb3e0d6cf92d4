import ExpenseReport.Yaml.Scalar.Block
import ExpenseReport.Yaml.Scalar.Plain
import ExpenseReport.Yaml.Scalar.Quoted
import ExpenseReport.Yaml.Tag
import ExpenseReport.Yaml.Token

/-!
# From characters to tokens

A key without a question mark is known for one only when its colon is met, so the place of a token
that may be one is kept until then, and the tokens that open it are put in front of it afterwards.
Such a key stays on one line and is at most 1024 bytes long.
-/

namespace ExpenseReport.Yaml

/-- A token that turns into a key if a colon follows. -/
structure KeyCandidate where
  /-- How many tokens stand before it. -/
  index : Nat
  line : Nat
  column : Nat
  offset : Nat
  /-- Nothing but a key can stand where it stands. -/
  required : Bool

/-- The state of reading tokens. -/
structure Lexer where
  rest : Source
  tokens : Array Token
  /-- The column of the innermost block collection. -/
  indent : Option Nat
  /-- The columns of the block collections around it. -/
  outerIndents : List (Option Nat)
  /-- Whether the next token may be a key. -/
  keyAllowed : Bool
  /-- The candidate in the innermost brackets. -/
  candidate : Option KeyCandidate
  /-- The candidates outside those brackets, one for each pair of brackets. -/
  outerCandidates : List (Option KeyCandidate)

namespace Lexer

/-- The state before the first token. -/
def start (source : Source) : Lexer where
  rest := source
  tokens := #[]
  indent := none
  outerIndents := []
  keyAllowed := true
  candidate := none
  outerCandidates := []

/-- Whether some bracket is open. -/
def inFlow (s : Lexer) : Bool :=
  !s.outerCandidates.isEmpty

/-- Adds a token at the end. -/
def emit (s : Lexer) (token : Token) : Lexer :=
  { s with tokens := s.tokens.push token }

/-- Whether a column is to the right of an indentation. -/
def isDeeper (indent : Option Nat) (column : Nat) : Bool :=
  indent.all (· < column)

/-- Opens a block collection at a column, unless one is open there. Its token goes to an index. -/
def openBlock (s : Lexer) (column index : Nat) (token : Token) : Lexer :=
  if !s.inFlow && isDeeper s.indent column then
    { s with
      indent := some column
      outerIndents := s.indent :: s.outerIndents
      tokens := s.tokens.insertIdxIfInBounds index token }
  else s

/-- Closes blocks from the inside while they satisfy a condition. -/
def closeWhile (p : Nat → Bool) (s : Lexer) : List (Option Nat) → Lexer
  | [] => s
  | outer :: rest =>
    if s.indent.any p then
      closeWhile p ({ s with indent := outer, outerIndents := rest }.emit .blockEnd) rest
    else s

/-- Closes the blocks to the right of a column. -/
def closeBlocks (s : Lexer) (column : Nat) : Lexer :=
  if s.inFlow then s else closeWhile (column < ·) s s.outerIndents

/-- Closes all blocks. -/
def closeAllBlocks (s : Lexer) : Lexer :=
  if s.inFlow then s else closeWhile (fun _ => true) s s.outerIndents

/-- Gives up the current candidate, unless it had to be a key. -/
def dropCandidate? (s : Lexer) : Option Lexer :=
  if s.candidate.any (·.required) then none else some { s with candidate := none }

/-- Whether a candidate can no longer become a key when reading has come to a place. -/
def KeyCandidate.isStale (key : KeyCandidate) (here : Located) : Bool :=
  key.line < here.line || key.offset + 1024 < here.offset

/-- Gives up one candidate if it can no longer become a key. -/
def refresh? (here : Located) : Option KeyCandidate → Option (Option KeyCandidate)
  | none => some none
  | some key =>
    if KeyCandidate.isStale key here then if key.required then none else some none
    else some (some key)

/-- Gives up the candidates that can no longer become keys. -/
def dropStale? (s : Lexer) (here : Located) : Option Lexer := do
  return { s with
    candidate := ← refresh? here s.candidate
    outerCandidates := ← s.outerCandidates.mapM (refresh? here) }

/-- Remembers that the next token may be a key. -/
def markCandidate? (s : Lexer) (here : Located) : Option Lexer :=
  if s.keyAllowed then do
    let s ← s.dropCandidate?
    return { s with
      candidate := some
        { index := s.tokens.size
          line := here.line
          column := here.column
          offset := here.offset
          required := !s.inFlow && s.indent = some here.column } }
  else some s

/-! ## Kinds of tokens -/

/-- Drops blanks, comments and line breaks, and byte order marks in front of a line. In a block a
new line may start with a key, and then no tab may stand in front of it. Every line uses up
`fuel`. -/
def skipToToken (inFlow : Bool) : Nat → (keyAllowed : Bool) → Source → Bool × Source
  | 0, keyAllowed, source => (keyAllowed, source)
  | fuel + 1, keyAllowed, source =>
    let isSkipped (c : Char) : Bool := c = ' ' || ((inFlow || !keyAllowed) && c = '\t')
    let rest := (source.skipByteOrderMark.dropChars isSkipped).skipComment
    if rest.startsWith isBreak then skipToToken inFlow fuel (keyAllowed || !inFlow) (rest.drop 1)
    else (keyAllowed, rest)

/-- A directive, and nothing else on its line. -/
def takeDirective? (s : Lexer) : Option Lexer := do
  let s ← s.closeAllBlocks.dropCandidate?
  let source : Source := s.rest.drop 1
  let name := source.takeChars isWordChar
  let behind := source.dropChars isWordChar
  if !behind.atSeparator then none
  else do
    let (token, rest) ←
      if name = "YAML".toList then do
        let (major, minor, rest) ← takeVersion? behind.skipGap
        some (Token.versionDirective major minor, rest)
      else if name = "TAG".toList then do
        let (handle, expansion, rest) ← takeTagDirective? behind.skipGap
        some (Token.tagDirective handle expansion, rest)
      else none
    let rest := rest.skipGap.skipComment
    if rest.atLineEnd then
      return { s with rest := rest.drop 1, keyAllowed := false }.emit token
    else none

/-- The start or end of a document. -/
def takeDocumentMarker? (s : Lexer) (token : Token) : Option Lexer := do
  let s ← s.closeAllBlocks.dropCandidate?
  return { s with rest := s.rest.drop 3, keyAllowed := false }.emit token

/-- An opening bracket. -/
def takeOpening? (s : Lexer) (here : Located) (token : Token) : Option Lexer := do
  let s ← s.markCandidate? here
  return { s with
    rest := s.rest.drop 1
    keyAllowed := true
    candidate := none
    outerCandidates := s.candidate :: s.outerCandidates }.emit token

/-- A closing bracket. -/
def takeClosing? (s : Lexer) (token : Token) : Option Lexer := do
  let s ← s.dropCandidate?
  let s := { s with rest := s.rest.drop 1, keyAllowed := false }
  match s.outerCandidates with
  | [] => return s.emit token
  | candidate :: rest => return { s with candidate, outerCandidates := rest }.emit token

/-- A comma between items. -/
def takeFlowEntry? (s : Lexer) : Option Lexer := do
  let s ← s.dropCandidate?
  return { s with rest := s.rest.drop 1, keyAllowed := true }.emit .flowEntry

/-- The hyphen of an item. -/
def takeBlockEntry? (s : Lexer) (here : Located) : Option Lexer := do
  if !s.inFlow && !s.keyAllowed then none
  else do
    let s ← (s.openBlock here.column s.tokens.size .blockSequenceStart).dropCandidate?
    return { s with rest := s.rest.drop 1, keyAllowed := true }.emit .blockEntry

/-- The question mark of a key. -/
def takeKey? (s : Lexer) (here : Located) : Option Lexer := do
  if !s.inFlow && !s.keyAllowed then none
  else do
    let s ← (s.openBlock here.column s.tokens.size .blockMappingStart).dropCandidate?
    return { s with rest := s.rest.drop 1, keyAllowed := !s.inFlow }.emit .key

/-- The colon of a value. It makes the candidate a key. -/
def takeValue? (s : Lexer) (here : Located) : Option Lexer :=
  match s.candidate with
  | some key =>
    let keyed := { s with tokens := s.tokens.insertIdxIfInBounds key.index .key }
    let opened := keyed.openBlock key.column key.index .blockMappingStart
    some ({ opened with rest := s.rest.drop 1, keyAllowed := false, candidate := none }.emit .value)
  | none =>
    if !s.inFlow && !s.keyAllowed then none
    else
      let opened := s.openBlock here.column s.tokens.size .blockMappingStart
      some ({ opened with rest := s.rest.drop 1, keyAllowed := !s.inFlow }.emit .value)

/-- A reference or an anchor, and its name. -/
def takeNamed? (s : Lexer) (here : Located) (token : String → Token) : Option Lexer := do
  let s ← s.markCandidate? here
  let (name, rest) ← takeName? (s.rest.drop 1)
  return { s with rest, keyAllowed := false }.emit (token name)

def takeTag? (s : Lexer) (here : Located) : Option Lexer := do
  let s ← s.markCandidate? here
  let (handle, suffix, rest) ← Yaml.takeTag? s.inFlow (s.rest.drop 1)
  return { s with rest, keyAllowed := false }.emit (.tag handle suffix)

def takeBlockScalar? (fuel : Nat) (s : Lexer) (folded : Bool) : Option Lexer := do
  let s ← s.dropCandidate?
  let (text, rest) ← Block.take? folded s.indent fuel (s.rest.drop 1)
  let style := if folded then Style.folded else Style.literal
  return { s with rest, keyAllowed := true }.emit (.scalar style (String.ofList text))

def takeQuotedScalar? (fuel : Nat) (s : Lexer) (here : Located) (double : Bool) : Option Lexer := do
  let s ← s.markCandidate? here
  let (text, rest) ← Quoted.take? double fuel (s.rest.drop 1)
  return { s with rest, keyAllowed := false }.emit (.scalar .quoted (String.ofList text))

def takePlainScalar? (fuel : Nat) (s : Lexer) (here : Located) : Option Lexer := do
  let s ← s.markCandidate? here
  let result ← Plain.take? s.inFlow ((s.indent.map (· + 1)).getD 0) fuel s.rest
  return { s with rest := result.rest, keyAllowed := result.endsLine }.emit
    (.scalar .plain (String.ofList result.text))

/-! ## Reading all tokens -/

/-- The signs that no plain scalar starts with, unless something else allows it. -/
def isIndicator (c : Char) : Bool :=
  "-?:,[]\x7b\x7d#&*!|>'\"%@`".toList.contains c

/-- Whether a plain scalar starts here. -/
def startsPlain (s : Lexer) (here : Located) (behind : Source) : Bool :=
  let c := here.char
  !(isSeparator c || isIndicator c)
    || (c = '-' && !behind.startsWith isGap)
    || (!s.inFlow && (c = '?' || c = ':') && !behind.atSeparator)

/-- Takes the token that starts with the next character, which is no blank. The `fuel` is for what a
scalar is made of. -/
def takeToken? (fuel : Nat) (s : Lexer) (here : Located) (behind : Source) : Option Lexer :=
  let c := here.char
  if here.column = 0 ∧ c = '%' then s.takeDirective?
  else if s.rest.atMarker '-' then s.takeDocumentMarker? .documentStart
  else if s.rest.atMarker '.' then s.takeDocumentMarker? .documentEnd
  else if c = '[' then s.takeOpening? here .flowSequenceStart
  else if c = '{' then s.takeOpening? here .flowMappingStart
  else if c = ']' then s.takeClosing? .flowSequenceEnd
  else if c = '}' then s.takeClosing? .flowMappingEnd
  else if c = ',' then s.takeFlowEntry?
  else if c = '-' ∧ behind.atSeparator then s.takeBlockEntry? here
  else if c = '?' ∧ (s.inFlow ∨ behind.atSeparator) then s.takeKey? here
  else if c = ':' ∧ (s.inFlow ∨ behind.atSeparator) then s.takeValue? here
  else if c = '*' then s.takeNamed? here .reference
  else if c = '&' then s.takeNamed? here .anchor
  else if c = '!' then s.takeTag? here
  else if c = '|' ∧ !s.inFlow then s.takeBlockScalar? fuel false
  else if c = '>' ∧ !s.inFlow then s.takeBlockScalar? fuel true
  else if c = '\'' then s.takeQuotedScalar? fuel here false
  else if c = '"' then s.takeQuotedScalar? fuel here true
  else if s.startsPlain here behind then s.takePlainScalar? fuel here
  else none

/-- Takes all tokens that are left. Every token uses up `fuel`; one more than the length of the text
is enough of it. -/
def takeTokens? : Nat → Lexer → Option (List Token)
  | 0, _ => none
  | fuel + 1, s =>
    let (keyAllowed, rest) := skipToToken s.inFlow (fuel + 1) s.keyAllowed s.rest
    let s := { s with keyAllowed, rest }
    match rest with
    | [] => do
      let s ← s.closeAllBlocks.dropCandidate?
      return s.tokens.toList
    | here :: behind => do
      let s ← s.dropStale? here
      takeTokens? fuel (← (s.closeBlocks here.column).takeToken? (fuel + 1) here behind)

end Lexer

def tokensOf? (source : Source) : Option (List Token) :=
  (Lexer.start source).takeTokens? (source.length + 1)

end ExpenseReport.Yaml
