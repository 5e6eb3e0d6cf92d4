import ExpenseReport.Document.Csv
import ExpenseReport.Document.Json
import ExpenseReport.Document.Xml
import ExpenseReport.Event
import ExpenseReport.Files.Basic

/-!
# Exporting

An export judges a batch, puts the accepted expenses into a document, and writes it to a file. All
of the batch is judged before anything is written, and only a document that is complete is written.
Each step leaves its events behind, whether or not a later one fails.
-/

namespace ExpenseReport

/-- Puts records into a document of some format, or says why it cannot. -/
structure Serializer where
  format : Format
  serialize : List Record → Except Fault String

/-- The serializer of a format. The style matters to JSON alone. -/
def Serializer.ofFormat (format : Format) (style : DateStyle) : Serializer where
  format := format
  serialize records :=
    .ok <|
      match format with
      | .csv => Csv.document records
      | .xml => Xml.document records
      | .json => Json.document style records

/-- The serializer chosen by a key and the file its documents go to. A key of no format gives JSON
under the fallback name. -/
def Serializer.ofKey (key : String) (style : DateStyle) : Serializer × String :=
  match Format.ofKey? key with
  | some format => (ofFormat format style, format.fileName)
  | none => (ofFormat .json style, Format.fallbackFileName)

/-- A complete document that was written nowhere, and what was left out of it. -/
structure Rendered where
  content : String
  accepted : Nat
  errors : List String
deriving DecidableEq

/-- What an export reports once its document is in the file. -/
structure ExportResult where
  destination : String
  accepted : Nat
  errors : List String
deriving DecidableEq

/-- Whether anything was left out. -/
def ExportResult.hasErrors (result : ExportResult) : Bool :=
  !result.errors.isEmpty

/-- A result together with the events on the way to it. -/
structure Logged (α : Type) where
  events : List Event
  result : Except Fault α

namespace Serializer

/-- Puts the accepted expenses of a batch into a document. -/
def documentOf (s : Serializer) (directory : Directory) (batch : Batch) :
    Except Fault Rendered := do
  let records ← Record.shape directory batch.accepted
  let content ← s.serialize records
  return ⟨content, records.length, batch.errors⟩

/-- The events from the start of an export until every expense is judged. -/
def judgingEvents (s : Serializer) (employees : List Employee) (expenses : List Expense) :
    List Event :=
  let directory := Directory.ofList employees
  .opened s.format :: .started employees.length expenses.length ::
    expenses.map fun expense => Event.ofVerdict expense (directory.judge expense)

/-- Judges a batch and renders what was accepted. -/
def render (s : Serializer) (employees : List Employee) (expenses : List Expense) :
    Logged Rendered :=
  let directory := Directory.ofList employees
  let judging := s.judgingEvents employees expenses
  match s.documentOf directory (Batch.judgedBy directory expenses) with
  | .ok rendered =>
    ⟨judging ++ [.rendered rendered.accepted rendered.errors.length], .ok rendered⟩
  | .error fault => ⟨judging, .error fault⟩

/-- Renders a batch and writes the document to a file. When either fails, all files stay as they
are. -/
def exportTo (s : Serializer) (employees : List Employee) (expenses : List Expense)
    (destination : String) (files : Files) : Logged ExportResult × Files :=
  let run := s.render employees expenses
  match run.result with
  | .error fault => (⟨run.events, .error fault⟩, files)
  | .ok rendered =>
    match files.write destination rendered.content with
    | .error error => (⟨run.events, .error (.writeFailed destination error)⟩, files)
    | .ok files =>
      (⟨run.events ++ [.written destination rendered.content.utf8ByteSize],
        .ok ⟨destination, rendered.accepted, rendered.errors⟩⟩, files)

end Serializer

end ExpenseReport
