import ExpenseReport.Exporter
import ExpenseReport.Proofs.Calendar.DateText
import ExpenseReport.Proofs.Decimal.Writing

/-!
# Reading CSV documents back

A reader takes a document character by character. Commas end fields, and line ends of all three
kinds end rows, unless they stand in quotes; within quotes a quote is written twice. An empty line
is no row, so a line feed behind a carriage return is part of one line end. What this reader finds
in a document are the rows that were written, and ids, amounts and dates are read from their fields.
-/

namespace ExpenseReport.Csv

/-- Where in a document a reader stands. -/
inductive Place where
  | rowStart
  | fieldStart
  | inField
  | inQuotes
  /-- Behind a quote in quotes, which ends them unless a second one follows. -/
  | afterQuote
deriving DecidableEq

/-- What was read: the current field, the fields of the row before it, and the rows before that. -/
structure Reader where
  place : Place
  field : List Char
  row : List (List Char)
  rows : List (List (List Char))
deriving DecidableEq

namespace Reader

def initial : Reader :=
  ⟨.rowStart, [], [], []⟩

def isLineEnd (c : Char) : Bool :=
  c = '\n' || c = '\r'

def push (r : Reader) (place : Place) (c : Char) : Reader :=
  ⟨place, r.field ++ [c], r.row, r.rows⟩

def endField (r : Reader) : Reader :=
  ⟨.fieldStart, [], r.row ++ [r.field], r.rows⟩

def endRow (r : Reader) : Reader :=
  ⟨.rowStart, [], [], r.rows ++ [r.row ++ [r.field]]⟩

/-- Takes a character outside quotes that opens none. -/
def stepPlain (r : Reader) (c : Char) : Reader :=
  if c = ',' then r.endField
  else if isLineEnd c then r.endRow
  else r.push .inField c

/-- Takes one character. -/
def step (r : Reader) (c : Char) : Reader :=
  match r.place with
  | .rowStart =>
    if isLineEnd c then r else if c = '"' then { r with place := .inQuotes } else r.stepPlain c
  | .fieldStart => if c = '"' then { r with place := .inQuotes } else r.stepPlain c
  | .inField => r.stepPlain c
  | .inQuotes => if c = '"' then { r with place := .afterQuote } else r.push .inQuotes c
  | .afterQuote => if c = '"' then r.push .inQuotes c else r.stepPlain c

def run (r : Reader) (cs : List Char) : Reader :=
  cs.foldl step r

/-- All rows, the last one also when no line end follows it. -/
def finish (r : Reader) : List (List (List Char)) :=
  if r.place = .rowStart then r.rows else r.endRow.rows

theorem run_nil (r : Reader) : r.run [] = r := rfl

theorem run_cons (r : Reader) (c : Char) (cs : List Char) : r.run (c :: cs) = (r.step c).run cs :=
  rfl

theorem run_append (r : Reader) (cs ds : List Char) : r.run (cs ++ ds) = (r.run cs).run ds :=
  List.foldl_append

end Reader

/-- The rows that a reader finds in a document. -/
def read (text : String) : List (List String) :=
  (Reader.initial.run text.toList).finish.map fun row => row.map String.ofList

example : read "a,\"b\"\"\r\n\"\r\n\n,c\rd" = [["a", "b\"\r\n"], ["", "c"], ["d"]] := by
  decide +kernel

/-! ## Fields -/

namespace Reader

variable {field : List Char} {row : List (List Char)} {done : List (List (List Char))}

/-- Quotes that are written twice are read once. -/
theorem run_doubleQuotes (cs : List Char) :
    run ⟨.inQuotes, field, row, done⟩ (doubleQuotes cs) = ⟨.inQuotes, field ++ cs, row, done⟩ := by
  induction cs using doubleQuotes.induct generalizing field with
  | case1 => simp [doubleQuotes, run_nil]
  | case2 rest ih =>
      have hstep : step (step ⟨.inQuotes, field, row, done⟩ '"') '"' =
          ⟨.inQuotes, field ++ ['"'], row, done⟩ := rfl
      rw [doubleQuotes, run_cons, run_cons, hstep, ih, List.append_assoc, List.singleton_append]
  | case3 c rest hc ih =>
      have hne : c ≠ '"' := hc
      have hstep : step ⟨.inQuotes, field, row, done⟩ c = ⟨.inQuotes, field ++ [c], row, done⟩ := by
        simp [step, push, hne]
      rw [doubleQuotes.eq_3 _ _ hc, run_cons, hstep, ih, List.append_assoc, List.singleton_append]

/-- What needs no quotes is read as it is. -/
theorem run_plain {cs : List Char} (hcs : ∀ c ∈ cs, isSpecial c = false) :
    run ⟨.inField, field, row, done⟩ cs = ⟨.inField, field ++ cs, row, done⟩ := by
  induction cs generalizing field with
  | nil => simp [run_nil]
  | cons c rest ih =>
      obtain ⟨hc, hrest⟩ := List.forall_mem_cons.mp hcs
      simp only [isSpecial, Bool.or_eq_false_iff, decide_eq_false_iff_not] at hc
      have hstep : step ⟨.inField, field, row, done⟩ c = ⟨.inField, field ++ [c], row, done⟩ := by
        simp [step, stepPlain, push, isLineEnd, hc]
      rw [run_cons, hstep, ih hrest, List.append_assoc, List.singleton_append]

/-- A written field is read whole, and what follows is outside its quotes. -/
theorem run_writeField {start : Place} (hstart : start = .rowStart ∨ start = .fieldStart)
    (row : List (List Char)) (done : List (List (List Char))) (cs : List Char) :
    ∃ place, run ⟨start, [], row, done⟩ (writeField cs) = ⟨place, cs, row, done⟩ ∧
      place ≠ .inQuotes ∧ (start = .fieldStart → place ≠ .rowStart) := by
  unfold writeField
  split
  next =>
    -- Behind the closing quote the reader still waits for a second one.
    refine ⟨.afterQuote, ?_, by decide, fun _ => by decide⟩
    have hopen : step ⟨start, [], row, done⟩ '"' = ⟨.inQuotes, [], row, done⟩ := by
      rcases hstart with rfl | rfl <;> rfl
    rw [List.cons_append, run_cons, hopen, run_append, run_doubleQuotes]
    rfl
  next hplain =>
    have hcs : ∀ c ∈ cs, isSpecial c = false := by simpa using hplain
    cases cs with
    | nil =>
        -- Nothing is written, so the reader stays where the field starts.
        refine ⟨start, rfl, ?_, ?_⟩
        · rcases hstart with rfl | rfl <;> decide
        · rintro rfl
          decide
    | cons c rest =>
        refine ⟨.inField, ?_, by decide, fun _ => by decide⟩
        obtain ⟨hc, hrest⟩ := List.forall_mem_cons.mp hcs
        simp only [isSpecial, Bool.or_eq_false_iff, decide_eq_false_iff_not] at hc
        have hfirst : step ⟨start, [], row, done⟩ c = ⟨.inField, [c], row, done⟩ := by
          rcases hstart with rfl | rfl <;> simp [step, stepPlain, push, isLineEnd, hc]
        rw [run_cons, hfirst, run_plain hrest]
        rfl

theorem step_comma {place : Place} (hplace : place ≠ .inQuotes) :
    step ⟨place, field, row, done⟩ ',' = ⟨.fieldStart, [], row ++ [field], done⟩ := by
  cases place with
  | inQuotes => exact absurd rfl hplace
  | _ => rfl

theorem step_lineFeed {place : Place} (hplace : place ≠ .inQuotes) (hstart : place ≠ .rowStart) :
    step ⟨place, field, row, done⟩ '\n' = ⟨.rowStart, [], [], done ++ [row ++ [field]]⟩ := by
  cases place with
  | inQuotes => exact absurd rfl hplace
  | rowStart => exact absurd rfl hstart
  | _ => rfl

/-! ## Rows -/

/-- Fields behind a comma are read to the end of their row. -/
theorem run_writeFields {fields : List (List Char)} (hne : fields ≠ []) :
    run ⟨.fieldStart, [], row, done⟩ (writeFields fields) =
      ⟨.rowStart, [], [], done ++ [row ++ fields]⟩ := by
  induction fields using writeFields.induct generalizing row with
  | case1 => exact absurd rfl hne
  | case2 field =>
      obtain ⟨place, hrun, hplace, hstart⟩ := run_writeField (Or.inr rfl) row done field
      rw [writeFields, run_append, hrun, run_cons, step_lineFeed hplace (hstart rfl), run_nil]
  | case3 field rest hrest ih =>
      obtain ⟨place, hrun, hplace, _⟩ := run_writeField (Or.inr rfl) row done field
      rw [writeFields.eq_3 _ _ hrest, run_append, hrun, run_cons, step_comma hplace, ih hrest,
        List.append_assoc, List.singleton_append]

/-- A row is read whole. One empty field alone would be taken for no row. -/
theorem run_writeFields_of_two_le {fields : List (List Char)} (hlength : 2 ≤ fields.length) :
    run ⟨.rowStart, [], [], done⟩ (writeFields fields) =
      ⟨.rowStart, [], [], done ++ [fields]⟩ := by
  match fields, hlength with
  | field :: next :: rest, _ =>
      obtain ⟨place, hrun, hplace, _⟩ := run_writeField (Or.inl rfl) [] done field
      have hrest : run ⟨.fieldStart, [], [field], done⟩ (writeFields (next :: rest)) =
          ⟨.rowStart, [], [], done ++ [[field] ++ next :: rest]⟩ :=
        run_writeFields (List.cons_ne_nil next rest)
      rw [writeFields.eq_3 _ _ (List.cons_ne_nil next rest), run_append, hrun, run_cons,
        step_comma hplace, List.nil_append, hrest, List.singleton_append]

/-- Rows are read one after the other. -/
theorem run_flatMap_writeFields {rows : List (List (List Char))}
    (hrows : ∀ fields ∈ rows, 2 ≤ fields.length) :
    run ⟨.rowStart, [], [], done⟩ (rows.flatMap writeFields) =
      ⟨.rowStart, [], [], done ++ rows⟩ := by
  induction rows generalizing done with
  | nil => simp [run_nil]
  | cons fields rest ih =>
      obtain ⟨hfields, hrest⟩ := List.forall_mem_cons.mp hrows
      rw [List.flatMap_cons, run_append, run_writeFields_of_two_le hfields, ih hrest,
        List.append_assoc, List.singleton_append]

end Reader

/-! ## Documents -/

theorem two_le_length_of_mem_rows {records : List Record} :
    ∀ row ∈ rows records, 2 ≤ row.length := by
  intro row hrow
  rw [rows, List.mem_cons, List.mem_map] at hrow
  rcases hrow with rfl | ⟨record, _, rfl⟩
  · decide
  · simp [fields]

theorem fields_eq (record : Record) :
    fields record =
      [toString record.expenseId.toNat, record.employeeName, record.position, record.description,
        record.amount.toText, record.date.toText] := by
  rw [← Text.numeral_eq_toString]
  rfl

theorem read_document (records : List Record) : read (document records) = rows records := by
  have hrows : ∀ row ∈ (rows records).map (·.map String.toList), 2 ≤ row.length := by
    intro row hrow
    obtain ⟨texts, htexts, rfl⟩ := List.mem_map.mp hrow
    rw [List.length_map]
    exact two_le_length_of_mem_rows texts htexts
  have hrun := @Reader.run_flatMap_writeFields [] _ hrows
  rw [List.flatMap_map, List.nil_append] at hrun
  rw [read, document, String.toList_ofList, Reader.initial, hrun]
  simp [Reader.finish, Function.comp_def]

/-- An export to CSV loses nothing: whatever the texts are, a reader finds the column names and then
a row with the six fields of each record. Its id, its amount and its date are read from their
fields, but for the sign of a zero. So records with different fields have different documents. -/
theorem csv_export_reads_back (style : DateStyle) (records : List Record) :
    (∃ text, (Serializer.ofFormat .csv style).serialize records = .ok text ∧
      read text = ["ExpenseId", "EmployeeName", "Position", "Description", "Amount", "Date"] ::
        records.map fun record =>
          [toString record.expenseId.toNat, record.employeeName, record.position,
            record.description, record.amount.toText, record.date.toText]) ∧
      (∀ record : Record,
        Text.value? (toString record.expenseId.toNat).toList = some record.expenseId.toNat ∧
        Decimal.ofText? record.amount.toText = some record.amount.withoutZeroSign ∧
        Date.ofText? record.date.toText = some record.date) ∧
      ∀ others : List Record, others.map fields ≠ records.map fields →
        (Serializer.ofFormat .csv style).serialize others ≠
          (Serializer.ofFormat .csv style).serialize records := by
  have hread : read (document records) = header :: records.map fun record =>
      [toString record.expenseId.toNat, record.employeeName, record.position, record.description,
        record.amount.toText, record.date.toText] := by
    rw [read_document, rows, funext fields_eq]
  refine ⟨⟨document records, rfl, hread⟩, ?_, ?_⟩
  · intro record
    exact ⟨Text.value?_toString _, Decimal.ofText?_toText _, Date.ofText?_toText _⟩
  intro others hne heq
  have hdocument : document others = document records := Except.ok.inj heq
  have hrows := congrArg read hdocument
  rw [read_document, read_document] at hrows
  exact hne (List.cons.inj hrows).2

end ExpenseReport.Csv
