import ExpenseReport.Proofs.Files.Writing
import ExpenseReport.Proofs.Rendering

/-!
# Exporting to a file

An export can stop at two points, and at both all files are as they were before. Past them it is the
rendering of the same batch, put into one file as a whole, whatever that file held.
-/

namespace ExpenseReport.Serializer

variable {s : Serializer} {employees : List Employee} {expenses : List Expense}
  {destination : String} {files after : Files} {rendered : Rendered}

/-! ## How far an export gets -/

theorem exportTo_of_unrendered (destination : String) (files : Files) {fault : Fault}
    (hrender : (s.render employees expenses).result = .error fault) :
    s.exportTo employees expenses destination files =
      (⟨(s.render employees expenses).events, .error fault⟩, files) := by
  simp only [exportTo, hrender]

theorem exportTo_of_unwritten {error : WriteError}
    (hrender : (s.render employees expenses).result = .ok rendered)
    (hwrite : files.write destination rendered.content = .error error) :
    s.exportTo employees expenses destination files =
      (⟨(s.render employees expenses).events, .error (.writeFailed destination error)⟩, files) := by
  simp only [exportTo, hrender, hwrite]

theorem exportTo_of_written (hrender : (s.render employees expenses).result = .ok rendered)
    (hwrite : files.write destination rendered.content = .ok after) :
    s.exportTo employees expenses destination files =
      (⟨(s.render employees expenses).events ++
          [.written destination rendered.content.utf8ByteSize],
        .ok ⟨destination, rendered.accepted, rendered.errors⟩⟩, after) := by
  simp only [exportTo, hrender, hwrite]

/-- The only file that an export can touch is the one that it writes. -/
theorem exportTo_files (s : Serializer) (employees : List Employee) (expenses : List Expense)
    (destination : String) (files : Files) :
    (s.exportTo employees expenses destination files).2 = files ∨
      ∃ text, files.write destination text =
        .ok (s.exportTo employees expenses destination files).2 := by
  cases hrender : (s.render employees expenses).result with
  | error fault =>
      left
      rw [exportTo_of_unrendered destination files hrender]
  | ok rendered =>
      cases hwrite : files.write destination rendered.content with
      | error error =>
          left
          rw [exportTo_of_unwritten hrender hwrite]
      | ok after =>
          right
          refine ⟨rendered.content, ?_⟩
          rw [exportTo_of_written hrender hwrite, hwrite]

/-- The same export once more ends the same way, in the files that the first one left. -/
theorem exportTo_exportTo (s : Serializer) (employees : List Employee) (expenses : List Expense)
    (destination : String) (files : Files) :
    s.exportTo employees expenses destination
        (s.exportTo employees expenses destination files).2 =
      s.exportTo employees expenses destination files := by
  cases hrender : (s.render employees expenses).result with
  | error fault =>
      rw [exportTo_of_unrendered destination files hrender,
        exportTo_of_unrendered destination files hrender]
  | ok rendered =>
      cases hwrite : files.write destination rendered.content with
      | error error =>
          rw [exportTo_of_unwritten hrender hwrite, exportTo_of_unwritten hrender hwrite]
      | ok after =>
          rw [exportTo_of_written hrender hwrite,
            exportTo_of_written hrender (Files.write_write hwrite)]

/-- An export leaves all files alone when the serializer fails or the destination cannot be written.
Otherwise the file there holds exactly the document that rendering gives, whatever it held before,
no other file is different, and the result counts what rendering counts. -/
theorem export_overwrites_one_file_or_none (s : Serializer) (employees : List Employee)
    (expenses : List Expense) (destination : String) (files : Files) :
    ∃ records : List Record,
      Record.shape (Directory.ofList employees) (Batch.validate employees expenses).accepted =
        .ok records ∧
      let run := s.exportTo employees expenses destination files
      match s.serialize records with
      | .error fault => run.1.result = .error fault ∧ run.2 = files
      | .ok content =>
        ∃ rendered : Rendered,
          (s.render employees expenses).result = .ok rendered ∧ rendered.content = content ∧
          match files.target destination with
          | .error error =>
            run.1.result = .error (.writeFailed destination error) ∧ run.2 = files
          | .ok place =>
            run.1.result = .ok ⟨destination, rendered.accepted, rendered.errors⟩ ∧
            run.2.get? place = some (.file content.toUTF8) ∧
            run.2.readText? destination = some content ∧
            ∀ other, other ≠ place → run.2.get? other = files.get? other := by
  obtain ⟨records, _, hshape, hrender⟩ := exists_render employees expenses
  refine ⟨records, hshape, ?_⟩
  have hresult := hrender s
  cases hserialize : s.serialize records with
  | error fault =>
      rw [hserialize] at hresult
      have hexport := exportTo_of_unrendered destination files hresult
      exact ⟨by rw [hexport], by rw [hexport]⟩
  | ok content =>
      rw [hserialize] at hresult
      refine ⟨_, hresult, rfl, ?_⟩
      have hmap := files.write_eq_map destination content
      cases htarget : files.target destination with
      | error error =>
          rw [htarget] at hmap
          have hexport := exportTo_of_unwritten hresult hmap
          exact ⟨by rw [hexport], by rw [hexport]⟩
      | ok place =>
          rw [htarget] at hmap
          have hexport := exportTo_of_written hresult hmap
          simp only [hexport]
          refine ⟨trivial, ?_, Files.readText?_write hmap, ?_⟩
          · exact Files.get?_put_self (Files.get?_ne_directory_of_target htarget)
          · intro other hother
            exact Files.get?_put_of_ne hother

end ExpenseReport.Serializer
