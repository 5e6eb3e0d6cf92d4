import ExpenseReport.Yaml.Scalar.Folding

/-!
# Plain scalars

Text without quotes ends at a colon or a comment behind a blank, at a line that is not indented
enough, and inside brackets at what structures them.
-/

namespace ExpenseReport.Yaml.Plain

/-- What ends a plain scalar inside brackets. -/
def isFlowIndicator (c : Char) : Bool :=
  c = ',' || c = '[' || c = ']' || c = '{' || c = '}'

/-- Takes a word. Inside brackets a colon must not stand right in front of what structures them. -/
def takeWord? (inFlow : Bool) : Source → Option (List Char × Source)
  | [] => some ([], [])
  | here :: rest =>
    if isSeparator here.char then some ([], here :: rest)
    else if inFlow ∧ here.char = ':'
        ∧ Source.startsWith (fun c => isFlowIndicator c || c = '?') rest then none
    else if here.char = ':' ∧ Source.atSeparator rest then some ([], here :: rest)
    else if inFlow ∧ isFlowIndicator here.char then some ([], here :: rest)
    else (takeWord? inFlow rest).map fun (word, after) => (here.char :: word, after)

/-- What was read of a plain scalar, whether it ended behind a line break, and what is left. -/
structure Result where
  text : List Char
  endsLine : Bool
  rest : Source

/-- Continues a scalar behind one of its words. Every word uses up `fuel`. -/
def takeMore? (inFlow : Bool) (indent : Nat) : Nat → Source → Option Result
  | 0, _ => none
  | fuel + 1, source =>
    if !source.startsWith isSeparator then some ⟨[], false, source⟩
    else
      let (gap, after) := takeSeparation indent false source
      let ended : Result := ⟨[], gap.breaks ≠ [], after⟩
      if gap.badTab then none
      else if (!inFlow && after.head?.any fun here => here.column < indent)
          || after.atDocumentMarker || after.startsWithChar '#' then some ended
      else do
        let (word, behind) ← takeWord? inFlow after
        if word = [] then some ended
        else do
          let more ← takeMore? inFlow indent fuel behind
          some { more with text := gap.folded ++ word ++ more.text }

/-- Takes a plain scalar, of which further lines are indented by `indent` at least. One more `fuel`
than the length of the text is enough. -/
def take? (inFlow : Bool) (indent fuel : Nat) (source : Source) : Option Result := do
  let (word, rest) ← takeWord? inFlow source
  let more ← takeMore? inFlow indent fuel rest
  return { more with text := word ++ more.text }

end ExpenseReport.Yaml.Plain
