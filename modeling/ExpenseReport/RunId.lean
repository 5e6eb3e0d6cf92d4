import ExpenseReport.Text.Digits

/-!
# Run identifiers

Sixteen bytes that tell one export from another, written as 32 hexadecimal digits in groups of 8, 4,
4, 4 and 12. Reading also takes the digits without hyphens, and the groups in braces or behind the
words that mark them as a name.
-/

namespace ExpenseReport

/-- The 32 hexadecimal digits of a run, by value. -/
structure RunId where
  digits : List Nat

namespace RunId

/-- Hexadecimal digits of either case, 32 of them. -/
def ofDigits? (cs : List Char) : Option RunId := do
  if cs.length = 32 then return ⟨← cs.mapM Text.hexValue?⟩ else none

/-- The characters of a text in groups of given lengths with one hyphen between two of them. -/
def ungroup? : List Nat → List Char → Option (List Char)
  | [], cs => if cs.isEmpty then some [] else none
  | [last], cs => if cs.length = last then some cs else none
  | count :: counts, cs =>
    match cs.drop count with
    | '-' :: rest => (ungroup? counts rest).map (cs.take count ++ ·)
    | _ => none

def groups : List Nat := [8, 4, 4, 4, 12]

/-- What may stand in front of the groups to mark them as a name. -/
def marker : List Char := "urn:uuid:".toList

def ofText? (text : String) : Option RunId :=
  let cs := text.toList
  if cs.length = 32 then ofDigits? cs
  else
    let bare :=
      if marker.isPrefixOf cs then cs.drop marker.length
      else if cs.head? = some '{' ∧ cs.getLast? = some '}' then (cs.drop 1).dropLast
      else cs
    (ungroup? groups bare).bind ofDigits?

/-- Digits in groups with hyphens between them. -/
def group : List Nat → List Char → List Char
  | [], cs => cs
  | [_], cs => cs
  | count :: counts, cs => cs.take count ++ '-' :: group counts (cs.drop count)

/-- An identifier in groups, with small letters. -/
def toText (run : RunId) : String :=
  String.ofList (group groups (run.digits.map Text.hexDigit))

end RunId

end ExpenseReport
