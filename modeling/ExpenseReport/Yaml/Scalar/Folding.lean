import ExpenseReport.Yaml.Source

/-!
# Folding

Between the words of a scalar that runs over several lines, a single line break becomes a blank and
of several the first is dropped. Blanks next to a line break do not count.
-/

namespace ExpenseReport.Yaml

/-- What separates two words: the blanks up to the first line break, and the line breaks. -/
structure Separation where
  blanks : List Char
  breaks : List Char
  /-- A tab that is used to indent a line, in a column below a limit. -/
  badTab : Bool

/-- Takes the blanks and line breaks in front. -/
def takeSeparation (indent : Nat) : (broken : Bool) → Source → Separation × Source
  | _, [] => (⟨[], [], false⟩, [])
  | broken, here :: rest =>
    if isGap here.char then
      let (gap, after) := takeSeparation indent broken rest
      if broken then
        ({ gap with badTab := gap.badTab || (here.char = '\t' && here.column < indent) }, after)
      else ({ gap with blanks := here.char :: gap.blanks }, after)
    else if isBreak here.char then
      let (gap, after) := takeSeparation indent true rest
      ({ gap with breaks := here.char :: gap.breaks }, after)
    else (⟨[], [], false⟩, here :: rest)

/-- What line breaks between two words turn into. -/
def foldBreaks : List Char → List Char
  | ['\n'] => [' ']
  | '\n' :: breaks => breaks
  | breaks => breaks

/-- What stands for a separation in the value of a scalar. -/
def Separation.folded (gap : Separation) : List Char :=
  if gap.breaks = [] then gap.blanks else foldBreaks gap.breaks

end ExpenseReport.Yaml
