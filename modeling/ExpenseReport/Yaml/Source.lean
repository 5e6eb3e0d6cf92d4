/-!
# Characters and their places

YAML depends on where things stand. A text is read as characters with their line and column; the
ways to break a line become a line feed, except for the two separators of Unicode, which stay what
they are.
-/

namespace ExpenseReport.Yaml

/-- A character and where it stands. -/
structure Located where
  char : Char
  line : Nat
  column : Nat
  /-- How many bytes stand before it. -/
  offset : Nat

/-- What is left to be read. -/
abbrev Source := List Located

/-- Whether a character may occur in a YAML text at all. -/
def isPrintable (c : Char) : Bool :=
  let n := c.toNat
  n = 0x09 || n = 0x0a || n = 0x0d || (0x20 ≤ n && n ≤ 0x7e) || n = 0x85
    || (0xa0 ≤ n && n ≤ 0xd7ff) || (0xe000 ≤ n && n ≤ 0xfffd) || 0x10000 ≤ n

/-- A blank within a line. -/
def isGap (c : Char) : Bool :=
  c = ' ' || c = '\t'

/-- The end of a line. -/
def isBreak (c : Char) : Bool :=
  c = '\n' || c = '\u2028' || c = '\u2029'

/-- A blank or the end of a line. -/
def isSeparator (c : Char) : Bool :=
  isGap c || isBreak c

/-- Characters with their places, from a line, a column and an offset on. -/
def locate (line column offset : Nat) : List Char → Source
  | [] => []
  | '\r' :: '\n' :: rest => ⟨'\n', line, column, offset⟩ :: locate (line + 1) 0 (offset + 2) rest
  | c :: rest =>
    let next := offset + c.utf8Size
    if c = '\r' ∨ c = '\u0085' then ⟨'\n', line, column, offset⟩ :: locate (line + 1) 0 next rest
    else if isBreak c then ⟨c, line, column, offset⟩ :: locate (line + 1) 0 next rest
    else ⟨c, line, column, offset⟩ :: locate line (column + 1) next rest

/-- The characters of a text, if YAML admits them all. -/
def Source.ofText? (text : String) : Option Source :=
  if text.toList.all isPrintable then some (locate 0 0 0 text.toList) else none

namespace Source

/-- Whether the next character, if any, has a property. -/
def startsWith (p : Char → Bool) (source : Source) : Bool :=
  source.head?.any fun here => p here.char

/-- Whether the next character is a certain one. -/
def startsWithChar (c : Char) (source : Source) : Bool :=
  source.startsWith (· = c)

/-- Whether nothing is left in front of the next blank or line break. -/
def atSeparator (source : Source) : Bool :=
  source.head?.all fun here => isSeparator here.char

/-- Whether nothing is left in front of the next line break. -/
def atLineEnd (source : Source) : Bool :=
  source.head?.all fun here => isBreak here.char

/-- The characters up to the first without a property. -/
def takeChars (p : Char → Bool) (source : Source) : List Char :=
  (source.takeWhile fun here => p here.char).map Located.char

/-- What is left from the first character without a property. -/
def dropChars (p : Char → Bool) (source : Source) : Source :=
  source.dropWhile fun here => p here.char

/-- Drops the blanks in front. -/
def skipGap (source : Source) : Source :=
  source.dropChars isGap

/-- Drops all that is in front of the next line break. -/
def skipLine (source : Source) : Source :=
  source.dropChars (!isBreak ·)

/-- Drops a byte order mark at the start of a line. It still takes up its column. -/
def skipByteOrderMark : Source → Source
  | [] => []
  | here :: rest => if here.column = 0 ∧ here.char = '\ufeff' then rest else here :: rest

def skipComment (source : Source) : Source :=
  if source.startsWithChar '#' then source.skipLine else source

/-- Whether a line starts here with three of a character and nothing right behind them. -/
def atMarker (mark : Char) : Source → Bool
  | a :: b :: c :: rest =>
    a.column = 0 && a.char = mark && b.char = mark && c.char = mark && atSeparator rest
  | _ => false

/-- Whether a document starts or ends here. -/
def atDocumentMarker (source : Source) : Bool :=
  source.atMarker '-' || source.atMarker '.'

end Source

end ExpenseReport.Yaml
