/-!
# Tokens

The indicators of a YAML text. Indentation shows up as tokens of its own, which open and close block
collections.
-/

namespace ExpenseReport.Yaml

/-- A tag by its bytes, since its escapes may give bytes that are no text. -/
abbrev Tag := List UInt8

def Tag.ofText (text : String) : Tag :=
  text.toUTF8.toList

/-- How a scalar is written. -/
inductive Style where
  | plain
  | quoted
  | literal
  | folded
deriving DecidableEq

/-- An element of a YAML text. -/
inductive Token where
  | versionDirective (major minor : Nat)
  | tagDirective (handle : String) (expansion : Tag)
  | documentStart
  | documentEnd
  | blockSequenceStart
  | blockMappingStart
  | blockEnd
  | flowSequenceStart
  | flowSequenceEnd
  | flowMappingStart
  | flowMappingEnd
  | blockEntry
  | flowEntry
  | key
  | value
  | reference (name : String)
  | anchor (name : String)
  | tag (handle : String) (suffix : Tag)
  | scalar (style : Style) (text : String)
deriving DecidableEq

end ExpenseReport.Yaml
