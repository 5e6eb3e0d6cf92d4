import ExpenseReport.Text.Digits
import ExpenseReport.Yaml.Scalar.Folding

/-!
# Quoted scalars

In single quotes only the quote itself is special and is written twice. In double quotes a backslash
opens an escape; in front of a line break it takes the break away. In both, lines are folded.
-/

namespace ExpenseReport.Yaml.Quoted

/-- The characters that an escape names by a letter or a sign. -/
def namedEscapes : List (Char × Char) :=
  [('0', '\x00'), ('a', '\x07'), ('b', '\x08'), ('t', '\t'), ('\t', '\t'), ('n', '\n'),
    ('v', '\x0b'), ('f', '\x0c'), ('r', '\r'), ('e', '\x1b'), (' ', ' '), ('"', '"'), ('/', '/'),
    ('\\', '\\'), ('N', '\u0085'), ('_', '\u00a0'), ('L', '\u2028'), ('P', '\u2029')]

/-- How many hexadecimal digits follow the letter of an escape. -/
def escapeLengths : List (Char × Nat) :=
  [('x', 2), ('u', 4), ('U', 8)]

/-- The number denoted by hexadecimal digits. -/
def hexNumber? (digits : List Char) : Option Nat :=
  digits.foldlM (fun n c => (Text.hexValue? c).map (16 * n + ·)) 0

/-- The character with a number, if there is one. -/
def charOfNumber? (n : Nat) : Option Char :=
  if n.isValidChar then some (Char.ofNat n) else none

/-- Takes what follows a backslash. -/
def takeEscape? : Source → Option (Char × Source)
  | [] => none
  | mark :: rest =>
    match namedEscapes.lookup mark.char, escapeLengths.lookup mark.char with
    | some c, _ => some (c, rest)
    | none, some count => do
      let digits := (rest.take count).map Located.char
      if digits.length < count then none
      else do return (← charOfNumber? (← hexNumber? digits), rest.drop count)
    | none, none => none

/-- Takes a stretch without blanks. Tells whether it ended with a line break that was escaped. Every
character of it uses up `fuel`. -/
def takeStretch? (double : Bool) : Nat → Source → Option (List Char × Bool × Source)
  | 0, _ => none
  | fuel + 1, source =>
    match source with
    | [] => some ([], false, [])
    | here :: rest =>
      if isSeparator here.char then some ([], false, source)
      else if double then
        if here.char = '"' then some ([], false, source)
        else if here.char = '\\' then
          if Source.startsWith isBreak rest then some ([], true, rest.drop 1)
          else do
            let (c, after) ← takeEscape? rest
            let (stretch, escaped, after) ← takeStretch? double fuel after
            return (c :: stretch, escaped, after)
        else do
          let (stretch, escaped, after) ← takeStretch? double fuel rest
          return (here.char :: stretch, escaped, after)
      else if here.char = '\'' then
        if Source.startsWithChar '\'' rest then do
          let (stretch, escaped, after) ← takeStretch? double fuel (rest.drop 1)
          return ('\'' :: stretch, escaped, after)
        else some ([], false, source)
      else do
        let (stretch, escaped, after) ← takeStretch? double fuel rest
        return (here.char :: stretch, escaped, after)

/-- Takes a quoted scalar behind its opening quote, up to and including the closing one. Every
stretch uses up `fuel`; one more than the length of the text is enough of it. -/
def take? (double : Bool) : Nat → Source → Option (List Char × Source)
  | 0, _ => none
  | fuel + 1, source =>
    if source.isEmpty || source.atDocumentMarker then none
    else do
      let (stretch, escaped, after) ← takeStretch? double (fuel + 1) source
      if after.startsWithChar (if double then '"' else '\'') then return (stretch, after.drop 1)
      else do
        let (gap, after) := takeSeparation 0 escaped after
        let (more, after) ← take? double fuel after
        return (stretch ++ (if escaped then gap.breaks else gap.folded) ++ more, after)

end ExpenseReport.Yaml.Quoted
