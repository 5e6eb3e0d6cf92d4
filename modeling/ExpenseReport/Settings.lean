import ExpenseReport.Exporter

/-!
# Export settings

The format, the directory and the style of dates that a configuration asks for. The file name comes
from the format; only the directory is free.
-/

namespace ExpenseReport

/-- How a configuration wants its ledger exported. -/
structure Settings where
  /-- The key of a format, known or not. -/
  format : String
  outputDir : String
  dateStyle : DateStyle
deriving DecidableEq

namespace Settings

def defaultOutputDir : String := "."

/-- The serializer that the settings choose and the file it writes to. -/
def exporter (settings : Settings) : Serializer × String :=
  let (serializer, fileName) := Serializer.ofKey settings.format settings.dateStyle
  (serializer, Path.join settings.outputDir fileName)

/-- The file that the settings write to. -/
def destination (settings : Settings) : String :=
  settings.exporter.2

end Settings

end ExpenseReport
