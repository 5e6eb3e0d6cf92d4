import ExpenseReport.Proofs.Configuration.Loading
import ExpenseReport.Proofs.Export

/-!
# Loading after an export

A configuration may be exported into its own directory. What it is loaded from survives this: the
name at the end of the destination comes from the format, and it is none of the three names that
are read, however the directories in front of them are spelled.
-/

namespace ExpenseReport

/-! ## Where a configuration is exported to -/

namespace Settings

/-- The names that documents go by. -/
def fileNames : List String :=
  Format.fallbackFileName :: Format.all.map Format.fileName

theorem ofKey_mem_fileNames (key : String) (style : DateStyle) :
    (Serializer.ofKey key style).2 ∈ fileNames := by
  unfold Serializer.ofKey
  split
  next format _ =>
    change format.fileName ∈ fileNames
    cases format <;> decide
  next =>
    change Format.fallbackFileName ∈ fileNames
    decide

theorem isFileName_of_mem_fileNames {file : String} (hfile : file ∈ fileNames) :
    Path.IsFileName file := by
  revert file
  decide

theorem destination_eq (settings : Settings) :
    settings.destination =
      Path.join settings.outputDir
        (Serializer.ofKey settings.format settings.dateStyle).2 := by
  rw [destination, exporter]

theorem exporter_eq (settings : Settings) :
    settings.exporter =
      ((Serializer.ofKey settings.format settings.dateStyle).1, settings.destination) := by
  rw [destination_eq, exporter]

/-- The destination is in the directory and has the name that goes with the key. -/
theorem steps_destination (settings : Settings) :
    Path.steps settings.destination =
      Path.steps settings.outputDir ++
        [.down (Serializer.ofKey settings.format settings.dateStyle).2] := by
  have hfile := isFileName_of_mem_fileNames
    (ofKey_mem_fileNames settings.format settings.dateStyle)
  rw [destination_eq, Path.steps_join _ hfile]

/-- Whatever the directory, the destination ends in one of the names for documents. -/
theorem exists_getLast?_steps_destination (settings : Settings) :
    ∃ file ∈ fileNames, (Path.steps settings.destination).getLast? = some (.down file) := by
  refine ⟨_, ofKey_mem_fileNames settings.format settings.dateStyle, ?_⟩
  rw [steps_destination, List.getLast?_concat]

theorem exists_exporter_eq (settings : Settings) :
    ∃ format, settings.exporter.1 = Serializer.ofFormat format settings.dateStyle := by
  cases hkey : Format.ofKey? settings.format with
  | none => exact ⟨.json, by rw [exporter, Serializer.ofKey, hkey]⟩
  | some format => exact ⟨format, by rw [exporter, Serializer.ofKey, hkey]⟩

end Settings

namespace Configuration

variable {files : Files} {directory : String} {stored : Configuration}

theorem exportLedger_eq (c : Configuration) (files : Files) :
    c.exportLedger files = c.settings.exporter.1.exportTo c.employees c.expenses
      c.settings.destination files := by
  rw [exportLedger, Settings.destination]

theorem exportLedger_files (c : Configuration) (files : Files) :
    (c.exportLedger files).2 = files ∨
      ∃ text, files.write c.settings.destination text = .ok (c.exportLedger files).2 := by
  rw [exportLedger_eq]
  exact Serializer.exportTo_files _ _ _ _ _

/-! ## What an export leaves of a directory -/

/-- A file that goes by no name for documents holds after an export what it held before. -/
theorem Holds.exportLedger {α : Type} {decode? : String → Option α} {file : String} {value : α}
    (hvalue : Holds files decode? (Path.join directory file) value) (hfile : Path.IsFileName file)
    (hname : file ∉ Settings.fileNames) (c : Configuration) :
    Holds (c.exportLedger files).2 decode? (Path.join directory file) value := by
  rcases c.exportLedger_files files with hsame | ⟨text, hwrite⟩
  · rwa [hsame]
  · obtain ⟨content, hread, hdecode⟩ := hvalue
    refine ⟨content, ?_, hdecode⟩
    apply Files.readText?_write_of_ne hwrite hread
    obtain ⟨other, hother, hlast⟩ := c.settings.exists_getLast?_steps_destination
    rw [hlast, Path.steps_join directory hfile, List.getLast?_concat]
    rintro heq
    cases heq
    exact hname hother

/-- Exporting any configuration leaves every directory as loadable as it was. -/
theorem IsStored.exportLedger (hstored : stored.IsStored files directory)
    (c : Configuration) : stored.IsStored (c.exportLedger files).2 directory where
  settings := hstored.settings.exportLedger (by decide) (by decide) c
  employees := hstored.employees.exportLedger (by decide) (by decide) c
  expenses := hstored.expenses.exportLedger (by decide) (by decide) c

theorem load_exportLedger (hload : (load files directory).result = .ok stored)
    (c : Configuration) : load (c.exportLedger files).2 directory = load files directory := by
  obtain ⟨hstored, hfit⟩ := load_eq_ok_iff.mp hload
  apply load_eq_of_result_eq
  rw [hload, load_eq_ok_iff]
  exact ⟨hstored.exportLedger c, hfit⟩

theorem exportLedger_exportLedger (c : Configuration) (files : Files) :
    c.exportLedger (c.exportLedger files).2 = c.exportLedger files := by
  simp only [exportLedger_eq, Serializer.exportTo_exportTo]

/-- Only the destination can make the export of a configuration fail. -/
theorem exportLedger_result (c : Configuration) (files : Files) :
    (c.exportLedger files).1.result =
      match files.target c.settings.destination with
      | .error error => .error (.writeFailed c.settings.destination error)
      | .ok _ =>
        .ok ⟨c.settings.destination, (Batch.validate c.employees c.expenses).accepted.length,
          (Batch.validate c.employees c.expenses).errors⟩ := by
  obtain ⟨records, hjoined, _, hrender⟩ := Serializer.exists_render c.employees c.expenses
  obtain ⟨format, hformat⟩ := c.settings.exists_exporter_eq
  have hrendered := hrender c.settings.exporter.1
  rw [hformat] at hrendered
  rw [exportLedger_eq, hformat, hjoined.length_eq]
  have hwrite := files.write_eq_map c.settings.destination
  cases htarget : files.target c.settings.destination with
  | error error =>
      simp only [htarget] at hwrite
      rw [Serializer.exportTo_of_unwritten hrendered (hwrite _)]
  | ok place =>
      simp only [htarget] at hwrite
      rw [Serializer.exportTo_of_written hrendered (hwrite _)]

/-- A loaded configuration can export as often as it likes. The directory is loaded afterwards as it
was before, wherever the document went and whether or not it got there, and another export reports
the same and leaves the files as they are. It succeeds as long as the destination can be written. -/
theorem export_keeps_the_configuration {files : Files} {directory : String} {c : Configuration}
    (hload : (load files directory).result = .ok c) :
    let run := c.exportLedger files
    load run.2 directory = load files directory ∧
      (load run.2 directory).result = .ok c ∧
      c.exportLedger run.2 = run ∧
      match files.target c.settings.destination with
      | .error error =>
        run.1.result = .error (.writeFailed c.settings.destination error) ∧ run.2 = files
      | .ok _ =>
        run.1.result = .ok ⟨c.settings.destination,
          (Batch.validate c.employees c.expenses).accepted.length,
          (Batch.validate c.employees c.expenses).errors⟩ := by
  have hagain := load_exportLedger hload c
  have hsecond := c.exportLedger_exportLedger files
  have hresult := c.exportLedger_result files
  have hfiles := c.exportLedger_files files
  -- What the run is made of is not needed, and unfolding it takes long.
  generalize c.exportLedger files = run at hagain hsecond hresult hfiles ⊢
  refine ⟨hagain, by rw [hagain, hload], hsecond, ?_⟩
  cases htarget : files.target c.settings.destination with
  | error error =>
      simp only [htarget] at hresult ⊢
      refine ⟨hresult, ?_⟩
      rcases hfiles with hsame | ⟨text, hwrite⟩
      · exact hsame
      · rw [Files.write_eq_map, htarget] at hwrite
        cases hwrite
  | ok place =>
      simp only [htarget] at hresult ⊢
      exact hresult

/-- A directory that its own ledger is exported to, by the path from the root and in place of a
longer text. -/
def sharedDirectory : Files where
  workingDirectory := ⟨["home"]⟩
  entries :=
    [(⟨["home", "books"]⟩, .directory),
      (⟨["home", "books", "export.yaml"]⟩,
        .file "format: csv\noutput_dir: /home/books/".toUTF8),
      (⟨["home", "books", "employees.yaml"]⟩, .file ("employees:\n- id: 1\n  full_name: Ivan\n"
        ++ "  position: Clerk\n  salary: 40\n  validation_mode: fixed_amount\n"
        ++ "  max_allowed_amount: 10").toUTF8),
      (⟨["home", "books", "expenses.yaml"]⟩, .file ("expenses:\n- id: 1\n  employee_id: 1\n"
        ++ "  amount: 10\n  date: 2025-03-14").toUTF8),
      (⟨["home", "books", "expenses.csv"]⟩, .file ("Whatever was exported here before is longer "
        ++ "than what is exported now, and nothing of it is left when the new text is written, "
        ++ "not even the end.").toUTF8)]

theorem export_keeps_the_configuration_in_sharedDirectory :
    ∃ c : Configuration, (load sharedDirectory "books").result = .ok c ∧
      c.settings.destination = "/home/books/expenses.csv" ∧
      sharedDirectory.target "/home/books/expenses.csv" =
        sharedDirectory.target "books/expenses.csv" ∧
      let run := c.exportLedger sharedDirectory
      load run.2 "books" = load sharedDirectory "books" ∧ c.exportLedger run.2 = run ∧
        run.1.result = .ok ⟨"/home/books/expenses.csv", 1, []⟩ := by
  let owner : Employee :=
    ⟨1, "Ivan", "Clerk", ⟨false, 40, 0, by decide, by decide⟩, .fixedAmount,
      ⟨false, 10, 0, by decide, by decide⟩, .zero, none⟩
  let trip : Expense :=
    ⟨1, 1, "", ⟨false, 10, 0, by decide, by decide⟩,
      ⟨2025, 3, 14, by decide, by decide, by decide, by decide⟩⟩
  let c : Configuration := ⟨⟨"csv", "/home/books/", .calendarDate⟩, [owner], [trip]⟩
  have hload : (load sharedDirectory "books").result = .ok c := by decide +kernel
  have hresult : (c.exportLedger sharedDirectory).1.result =
      .ok ⟨"/home/books/expenses.csv", 1, []⟩ := by
    decide +kernel
  have hplace : sharedDirectory.target "/home/books/expenses.csv" =
      sharedDirectory.target "books/expenses.csv" :=
    Files.target_eq_of_steps_eq ⟨rfl, by decide, rfl, rfl, rfl, by decide⟩
      ⟨rfl, by decide, rfl, rfl, rfl, by decide⟩ rfl rfl (by decide) rfl
  obtain ⟨hagain, _, hsame, _⟩ := export_keeps_the_configuration hload
  exact ⟨c, hload, by decide +kernel, hplace, hagain, hsame, hresult⟩

end Configuration

end ExpenseReport
