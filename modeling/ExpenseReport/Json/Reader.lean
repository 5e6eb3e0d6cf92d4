import ExpenseReport.Json.Value
import ExpenseReport.Text.Digits

/-!
# Reading JSON

The strict grammar: one value with blanks around it and nothing else. Control characters stand in no
string, and numbers have no superfluous zeros in front.
-/

namespace ExpenseReport.Json

open Text

/-! ## Strings -/

/-- One element of a written string. -/
inductive Piece where
  | char (c : Char)
  /-- A 16-bit unit given by its number. -/
  | unit (n : Nat)
deriving DecidableEq

/-- The number with four hexadecimal digits. -/
def hexUnit? (a b c d : Char) : Option Nat := do
  return 0x1000 * (← hexValue? a) + 0x100 * (← hexValue? b) + 0x10 * (← hexValue? c)
    + (← hexValue? d)

/-- The character behind a backslash, unless it is given by number. -/
def unescape? (c : Char) : Option Char :=
  if c = '"' ∨ c = '\\' ∨ c = '/' then some c
  else if c = 'b' then some '\x08'
  else if c = 'f' then some '\x0c'
  else if c = 'n' then some '\n'
  else if c = 'r' then some '\r'
  else if c = 't' then some '\t'
  else none

/-- The elements of a string up to the closing quote. -/
def readPieces? : List Char → Option (List Piece × List Char)
  | [] => none
  | '"' :: rest => some ([], rest)
  | '\\' :: 'u' :: a :: b :: c :: d :: rest => do
    let unit ← hexUnit? a b c d
    let (pieces, rest) ← readPieces? rest
    return (.unit unit :: pieces, rest)
  | '\\' :: c :: rest => do
    let char ← unescape? c
    let (pieces, rest) ← readPieces? rest
    return (.char char :: pieces, rest)
  | c :: rest =>
    if c.toNat < 0x20 then none
    else do
      let (pieces, rest) ← readPieces? rest
      return (.char c :: pieces, rest)

def isHighSurrogate (n : Nat) : Bool :=
  0xd800 ≤ n && n < 0xdc00

def isLowSurrogate (n : Nat) : Bool :=
  0xdc00 ≤ n && n < 0xe000

/-- The text of a string. Surrogates count only in pairs. -/
def join? : List Piece → Option (List Char)
  | [] => some []
  | .char c :: rest => (join? rest).map (c :: ·)
  | .unit high :: .unit low :: rest =>
    if isHighSurrogate high then
      if isLowSurrogate low then
        (join? rest).map (Char.ofNat (0x10000 + 0x400 * (high - 0xd800) + (low - 0xdc00)) :: ·)
      else none
    else if isLowSurrogate high then none
    else (join? (.unit low :: rest)).map (Char.ofNat high :: ·)
  | .unit n :: rest =>
    if isHighSurrogate n ∨ isLowSurrogate n then none
    else (join? rest).map (Char.ofNat n :: ·)

/-- A string behind its opening quote. -/
def readString? (cs : List Char) : Option (Option String × List Char) := do
  let (pieces, rest) ← readPieces? cs
  return ((join? pieces).map String.ofList, rest)

/-! ## Numbers -/

/-- Splits off the digits in front. -/
def spanDigits (cs : List Char) : List Char × List Char :=
  cs.span isDigit

/-- Splits off at least one digit. -/
def readDigits? (cs : List Char) : Option (List Char × List Char) :=
  let (run, rest) := spanDigits cs
  if run.isEmpty then none else some (run, rest)

def readMinus : List Char → List Char × List Char
  | '-' :: rest => (['-'], rest)
  | cs => ([], cs)

/-- The digits in front of the point: a single zero, or a run that does not start with one. -/
def readInteger? : List Char → Option (List Char × List Char)
  | '0' :: rest => if rest.head?.any isDigit then none else some (['0'], rest)
  | cs => readDigits? cs

/-- A point and the digits behind it, if there are any. -/
def readFraction? : List Char → Option (List Char × List Char)
  | '.' :: rest => (readDigits? rest).map fun (run, rest) => ('.' :: run, rest)
  | cs => some ([], cs)

def readExponentSign : List Char → List Char × List Char
  | '+' :: rest => (['+'], rest)
  | '-' :: rest => (['-'], rest)
  | cs => ([], cs)

/-- An exponent, if there is one. -/
def readExponent? : List Char → Option (List Char × List Char)
  | c :: rest =>
    if c = 'e' ∨ c = 'E' then do
      let (sign, rest) := readExponentSign rest
      let (run, rest) ← readDigits? rest
      return (c :: sign ++ run, rest)
    else some ([], c :: rest)
  | [] => some ([], [])

def readNumber? (cs : List Char) : Option (List Char × List Char) := do
  let (sign, rest) := readMinus cs
  let (integer, rest) ← readInteger? rest
  let (fraction, rest) ← readFraction? rest
  let (exponent, rest) ← readExponent? rest
  return (sign ++ integer ++ fraction ++ exponent, rest)

/-! ## Values -/

/-- What follows a word, if the text starts with it. -/
def dropWord? (word : String) (cs : List Char) : Option (List Char) :=
  if word.toList.isPrefixOf cs then some (cs.drop word.length) else none

mutual

/-- A value with blanks in front. Every step into a value or to its next item uses up `fuel`; the
length of the text is enough of it. -/
def readValue? : Nat → List Char → Option (Value × List Char)
  | 0, _ => none
  | fuel + 1, cs =>
    match skipSpace cs with
    | '"' :: rest => (readString? rest).map fun (text, rest) => (.string text, rest)
    | '[' :: rest =>
      match skipSpace rest with
      | ']' :: rest => some (.array [], rest)
      | _ => (readItems? fuel rest).map fun (items, rest) => (.array items, rest)
    | '{' :: rest =>
      match skipSpace rest with
      | '}' :: rest => some (.object [], rest)
      | _ => (readMembers? fuel rest).map fun (members, rest) => (.object members, rest)
    | 'n' :: rest => (dropWord? "ull" rest).map (.null, ·)
    | 't' :: rest => (dropWord? "rue" rest).map (.bool true, ·)
    | 'f' :: rest => (dropWord? "alse" rest).map (.bool false, ·)
    | cs => (readNumber? cs).map fun (literal, rest) => (.number literal, rest)

/-- The items of an array up to its closing bracket, at least one. -/
def readItems? : Nat → List Char → Option (List Value × List Char)
  | 0, _ => none
  | fuel + 1, cs => do
    let (item, rest) ← readValue? fuel cs
    match skipSpace rest with
    | ']' :: rest => some ([item], rest)
    | ',' :: rest => do
      let (items, rest) ← readItems? fuel rest
      return (item :: items, rest)
    | _ => none

/-- The members of an object up to its closing brace, at least one. -/
def readMembers? : Nat → List Char → Option (List (Option String × Value) × List Char)
  | 0, _ => none
  | fuel + 1, cs => do
    let .cons '"' rest := skipSpace cs | none
    let (name, rest) ← readString? rest
    let .cons ':' rest := skipSpace rest | none
    let (value, rest) ← readValue? fuel rest
    match skipSpace rest with
    | '}' :: rest => some ([(name, value)], rest)
    | ',' :: rest => do
      let (members, rest) ← readMembers? fuel rest
      return ((name, value) :: members, rest)
    | _ => none

end

/-- Reads a text that is one value. -/
def read? (cs : List Char) : Option Value := do
  let (value, rest) ← readValue? (2 * cs.length + 1) cs
  if (skipSpace rest).isEmpty then some value else none

def ofText? (text : String) : Option Value :=
  read? text.toList

end ExpenseReport.Json
