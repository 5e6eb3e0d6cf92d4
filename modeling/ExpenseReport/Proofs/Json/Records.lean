import ExpenseReport.Json.Dialect
import ExpenseReport.Json.Records
import ExpenseReport.Proofs.Calendar.DateText
import ExpenseReport.Proofs.Decimal.Writing
import ExpenseReport.Proofs.Dialect.Members
import ExpenseReport.Proofs.Json.RoundTrip

/-!
# Records written and read

Employees and expenses are read from what they are written as, in every layout. A decimal keeps its
digits and their number behind the point. Only a zero with a sign is read as the plain zero, which
is the same amount. The order of the members and members of other names do not matter.
-/

namespace ExpenseReport

open Json (Value)

/-! ## What is read -/

/-- A decimal with the same digits, sign included, and as many of them behind the point. -/
structure Decimal.IsReadAs (d other : Decimal) : Prop where
  coefficient_eq : other.coefficient = d.coefficient
  scale_eq : other.scale = d.scale

theorem Decimal.isReadAs_withoutZeroSign (d : Decimal) : d.IsReadAs d.withoutZeroSign :=
  ⟨coefficient_withoutZeroSign d, rfl⟩

/-- The same expense, its amount without a sign if it is zero. -/
def Expense.withoutZeroSign (expense : Expense) : Expense :=
  { expense with amount := expense.amount.withoutZeroSign }

/-- What an expense is read as from a document: the same but for the sign of a zero. -/
structure Expense.IsReadAs (expense other : Expense) : Prop where
  id_eq : other.id = expense.id
  employeeId_eq : other.employeeId = expense.employeeId
  description_eq : other.description = expense.description
  coefficient_eq : other.amount.coefficient = expense.amount.coefficient
  scale_eq : other.amount.scale = expense.amount.scale
  date_eq : other.date = expense.date

theorem Expense.isReadAs_withoutZeroSign (expense : Expense) :
    expense.IsReadAs expense.withoutZeroSign :=
  ⟨rfl, rfl, rfl, Decimal.coefficient_withoutZeroSign expense.amount, rfl, rfl⟩

namespace Employee

/-- The same employee, the decimals without a sign where they are zero. -/
def withoutZeroSigns (e : Employee) : Employee :=
  { e with
    salary := e.salary.withoutZeroSign
    maxAllowedAmount := e.maxAllowedAmount.withoutZeroSign
    maxPercentOfSalary := e.maxPercentOfSalary.withoutZeroSign }

/-- What an employee is read as: the same but for the signs of zeros. -/
structure IsReadAs (e other : Employee) : Prop where
  id_eq : other.id = e.id
  fullName_eq : other.fullName = e.fullName
  position_eq : other.position = e.position
  salary : e.salary.IsReadAs other.salary
  mode_eq : other.mode = e.mode
  maxAllowedAmount : e.maxAllowedAmount.IsReadAs other.maxAllowedAmount
  maxPercentOfSalary : e.maxPercentOfSalary.IsReadAs other.maxPercentOfSalary
  customFormula_eq : other.customFormula = e.customFormula

theorem isReadAs_withoutZeroSigns (e : Employee) : e.IsReadAs e.withoutZeroSigns :=
  ⟨rfl, rfl, rfl, e.salary.isReadAs_withoutZeroSign, rfl,
    e.maxAllowedAmount.isReadAs_withoutZeroSign, e.maxPercentOfSalary.isReadAs_withoutZeroSign, rfl⟩

theorem withoutZeroSigns_eq_self {e : Employee} (hsalary : ¬ e.salary.IsSignedZero)
    (hamount : ¬ e.maxAllowedAmount.IsSignedZero)
    (hpercent : ¬ e.maxPercentOfSalary.IsSignedZero) : e.withoutZeroSigns = e := by
  rw [withoutZeroSigns, Decimal.withoutZeroSign_eq_self_iff.mpr hsalary,
    Decimal.withoutZeroSign_eq_self_iff.mpr hamount,
    Decimal.withoutZeroSign_eq_self_iff.mpr hpercent]

end Employee

namespace Json

/-! ## Values of fields -/

theorem asId?_ofId (id : Id) : (Value.ofId id).asId? = some id := by
  have hlt : id.toNat < UInt32.size := id.toNat_lt
  simp [Value.asId?, Value.ofId, Value.ofNat, Text.value?_digits, hlt]

/-- The text of a string and the literal of a number. -/
def Value.spelling? : Value → Option (List Char)
  | .string (some text) => some text.toList
  | .number literal => some literal
  | _ => none

theorem asDecimal?_eq_of_spelling? {value : Value} {cs : List Char}
    (hspelling : value.spelling? = some cs) : value.asDecimal? = Decimal.read? cs := by
  unfold Value.spelling? at hspelling
  split at hspelling
  next => exact Option.some.inj hspelling ▸ rfl
  next => exact Option.some.inj hspelling ▸ rfl
  next => cases hspelling

theorem asDecimal?_ofDecimal (d : Decimal) :
    (Value.ofDecimal d).asDecimal? = some d.withoutZeroSign := by
  have hspelling : (Value.ofDecimal d).spelling? = some d.write := by
    simp [Value.ofDecimal, Value.text, Value.spelling?, Decimal.toText]
  rw [asDecimal?_eq_of_spelling? hspelling, Decimal.read?_write]

theorem isUnsigned_writeMagnitude (magnitude scale : Nat) :
    IsUnsigned (Decimal.writeMagnitude magnitude scale) := by
  by_cases hscale : scale = 0
  · rw [Decimal.writeMagnitude, if_pos hscale]
    exact .whole (Text.isShortest_digits magnitude) Text.isDigit_of_mem_digits
  · obtain ⟨whole, fraction, hwrite, hwhole, hlength, hvalue⟩ :=
      Decimal.writeMagnitude_eq magnitude hscale
    have hfraction : fraction ≠ [] := by
      rintro rfl
      exact hscale hlength.symm
    rw [hwrite]
    exact .fractional hwhole (Text.isDigit_of_valueFrom?_eq_some hvalue) hfraction

theorem isLiteral_write (d : Decimal) : IsLiteral d.write := by
  have hmagnitude := isUnsigned_writeMagnitude d.magnitude d.scale
  unfold Decimal.write Decimal.writeSign
  split
  next => exact .negative hmagnitude
  next => exact .positive hmagnitude

theorem isWritable_ofId (id : Id) : (Value.ofId id).IsWritable :=
  .number (.positive (.whole (Text.isShortest_digits _) Text.isDigit_of_mem_digits))

/-- A record can be written if the values of its members can. -/
theorem isWritable_record {members : List (String × Value)}
    (hmembers : ∀ member ∈ members, member.2.IsWritable) : (Value.record members).IsWritable := by
  apply Value.IsWritable.object
  · intro member hmember
    obtain ⟨_, _, rfl⟩ := List.mem_map.mp hmember
    rfl
  · intro member hmember
    obtain ⟨original, horiginal, rfl⟩ := List.mem_map.mp hmember
    exact hmembers original horiginal

theorem members?_record (names : List String) (members : List (String × Value)) :
    dialect.members? names (.record members) = some members := by
  have hnames : members.mapM (fun member => some (member.1, member.2)) = some members := by
    simpa using List.mapM_pure (m := Option) (l := members) (f := id)
  simpa [dialect, Value.asMembers?, Value.record, List.mapM_map, Function.comp_def] using hnames

/-! ## Employees -/

theorem isWritable_employee (e : Employee) : e.toJson.IsWritable := by
  apply isWritable_record
  simp only [List.forall_mem_cons]
  refine ⟨isWritable_ofId _, .string _, .string _, .string _, .string _, .string _, .string _, ?_,
    by simp⟩
  cases e.customFormula with
  | none => exact .null
  | some formula => exact .string formula

theorem employee?_toJson (e : Employee) :
    dialect.employee? e.toJson = some e.withoutZeroSigns := by
  have hid := asId?_ofId e.id
  have hsalary := asDecimal?_ofDecimal e.salary
  have hamount := asDecimal?_ofDecimal e.maxAllowedAmount
  have hpercent := asDecimal?_ofDecimal e.maxPercentOfSalary
  have hmode := Mode.ofName_name e.mode
  have hformula : Value.asOptionalText? ((e.customFormula.map Value.text).getD .null) =
      some e.customFormula := by
    cases e.customFormula <;> rfl
  rw [Dialect.employee?, Employee.toJson, members?_record]
  simp [Dialect.required?, Dialect.optional?, Dialect.member?, Dialect.mode?, dialect,
    Value.asText?, Value.asChoice?, Value.text, hid, hsalary, hamount, hpercent, hmode, hformula,
    Employee.withoutZeroSigns]

/-! ## Expenses -/

theorem isWritable_expenseRecord (e : Expense) : e.toJson.IsWritable := by
  apply isWritable_record
  simp only [List.forall_mem_cons]
  exact ⟨isWritable_ofId _, isWritable_ofId _, .string _, .string _, .string _, by simp⟩

theorem expense?_toJson (e : Expense) : dialect.expense? e.toJson = some e.withoutZeroSign := by
  have hid := asId?_ofId e.id
  have hemployee := asId?_ofId e.employeeId
  have hamount := asDecimal?_ofDecimal e.amount
  have hdate := Date.ofText?_toText e.date
  rw [Dialect.expense?, Expense.toJson, members?_record]
  simp [Dialect.required?, Dialect.optional?, Dialect.member?, Dialect.date?, dialect,
    Value.asText?, Value.text, hid, hemployee, hamount, hdate, Expense.withoutZeroSign]

/-! ## Texts -/

/-- Two texts of objects that have the same members under some names. The order may differ, and so
may the members of other names, the layout and the escapes. -/
def SameRecords (names : List String) (text other : String) : Prop :=
  ∃ members others, ofText? text = some (.record members) ∧
    ofText? other = some (.record others) ∧ Dialect.SameMembers names members others

theorem sameRecords_toText {names : List String} {members others : List (String × Value)}
    (hmembers : ∀ member ∈ members, member.2.IsWritable)
    (hothers : ∀ member ∈ others, member.2.IsWritable)
    (hsame : Dialect.SameMembers names members others) (layout layout' : Layout) :
    SameRecords names ((Value.record members).toText layout)
      ((Value.record others).toText layout') :=
  ⟨members, others, ofText?_toText (isWritable_record hmembers) layout,
    ofText?_toText (isWritable_record hothers) layout', hsame⟩

theorem SameRecords.decode?_eq {α : Type} {names : List String} {read : Value → Option α}
    {text other : String} (hsame : SameRecords names text other)
    (hread : ∀ {node node' : Value} {members others : List (String × Value)},
      dialect.members? names node = some members → dialect.members? names node' = some others →
        Dialect.SameMembers names members others → read node = read node') :
    decode? read text = decode? read other := by
  obtain ⟨members, others, htext, hother, hmembers⟩ := hsame
  rw [decode?, decode?, htext, hother, Option.bind_some, Option.bind_some]
  exact hread (members?_record names members) (members?_record names others) hmembers

/-- Every employee and every expense is read from its own text as what it was, with all the digits
of its decimals. What is read from a text, or that nothing is, depends on the members of the known
names alone. -/
theorem records_survive_their_text :
    (∀ (e : Employee) (layout : Layout), ∃ other,
      decode? dialect.employee? (e.toJson.toText layout) = some other ∧ e.IsReadAs other ∧
      ((∀ d ∈ [e.salary, e.maxAllowedAmount, e.maxPercentOfSalary], ¬ d.IsSignedZero) →
        other = e)) ∧
    (∀ (e : Expense) (layout : Layout), ∃ other,
      decode? dialect.expense? (e.toJson.toText layout) = some other ∧ e.IsReadAs other ∧
      (¬ e.amount.IsSignedZero → other = e)) ∧
    ∀ text other : String,
      (SameRecords Dialect.employeeFields text other →
        decode? dialect.employee? text = decode? dialect.employee? other) ∧
      (SameRecords Dialect.expenseFields text other →
        decode? dialect.expense? text = decode? dialect.expense? other) := by
  refine ⟨?employees, ?expenses, ?members⟩
  case employees =>
    intro e layout
    refine ⟨e.withoutZeroSigns, ?_, e.isReadAs_withoutZeroSigns, ?_⟩
    · rw [decode?, ofText?_toText (isWritable_employee e), Option.bind_some, employee?_toJson]
    · intro hsigns
      simp only [List.forall_mem_cons] at hsigns
      exact Employee.withoutZeroSigns_eq_self hsigns.1 hsigns.2.1 hsigns.2.2.1
  case expenses =>
    intro e layout
    refine ⟨e.withoutZeroSign, ?_, e.isReadAs_withoutZeroSign, ?_⟩
    · rw [decode?, ofText?_toText (isWritable_expenseRecord e), Option.bind_some, expense?_toJson]
    · intro hsign
      rw [Expense.withoutZeroSign, Decimal.withoutZeroSign_eq_self_iff.mpr hsign]
  case members =>
    intro text other
    refine ⟨?_, ?_⟩
    · intro hsame
      exact hsame.decode?_eq dialect.employee?_eq_of_sameMembers
    · intro hsame
      exact hsame.decode?_eq dialect.expense?_eq_of_sameMembers

/-- Members in another order, with a note among them. -/
theorem records_survive_their_text_with_note :
    let intern : Employee :=
      ⟨1, "Maria Georgieva", "Intern", ⟨false, 120000, 2, by decide, by decide⟩, .unrecognized,
        .zero, .hundred, some "AMOUNT <= 50"⟩
    let trip : Expense :=
      ⟨7, 1, "Transport", ⟨false, 4550, 2, by decide, by decide⟩,
        ⟨2025, 3, 12, by decide, by decide, by decide, by decide⟩⟩
    let internMembers : List (String × Value) :=
      [("id", .ofId intern.id), ("full_name", .text intern.fullName),
        ("position", .text intern.position), ("salary", .ofDecimal intern.salary),
        ("validation_mode", .text "unrecognized"),
        ("max_allowed_amount", .ofDecimal intern.maxAllowedAmount),
        ("max_percent_of_salary", .ofDecimal intern.maxPercentOfSalary),
        ("custom_formula", .text "AMOUNT <= 50")]
    let tripMembers : List (String × Value) :=
      [("id", .ofId trip.id), ("employee_id", .ofId trip.employeeId),
        ("description", .text trip.description), ("amount", .ofDecimal trip.amount),
        ("date", .text trip.date.toText)]
    decode? dialect.employee?
        ((Value.record (("note", .null) :: internMembers.reverse)).toText .compact) =
      some intern ∧
    decode? dialect.expense?
        ((Value.record (("note", .null) :: tripMembers.reverse)).toText .compact) =
      some trip := by
  intro intern trip internMembers tripMembers
  have hwritable {members : List (String × Value)}
      (hmembers : ∀ member ∈ members, member.2.IsWritable) :
      ∀ member ∈ ("note", Value.null) :: members.reverse, member.2.IsWritable := by
    simpa [Value.IsWritable.null] using hmembers
  have hsame {names : List String} (hnote : "note" ∉ names) (members : List (String × Value)) :
      Dialect.SameMembers names (("note", Value.null) :: members.reverse) members :=
    .cons hnote (.of_perm members.reverse_perm)
  have hemployee : ∀ member ∈ internMembers, member.2.IsWritable := by
    simp only [internMembers, List.forall_mem_cons]
    exact ⟨isWritable_ofId _, .string _, .string _, .string _, .string _, .string _, .string _,
      .string _, by simp⟩
  have hexpense : ∀ member ∈ tripMembers, member.2.IsWritable := by
    simp only [tripMembers, List.forall_mem_cons]
    exact ⟨isWritable_ofId _, isWritable_ofId _, .string _, .string _, .string _, by simp⟩
  obtain ⟨hemployees, hexpenses, hmembers⟩ := records_survive_their_text
  constructor
  · obtain ⟨other, hdecode, _, hother⟩ := hemployees intern .indented
    rw [(hmembers _ (intern.toJson.toText .indented)).1
      (sameRecords_toText (hwritable hemployee) hemployee (hsame (by decide) _) _ _), hdecode,
      hother (by decide)]
  · obtain ⟨other, hdecode, _, hother⟩ := hexpenses trip .indented
    rw [(hmembers _ (trip.toJson.toText .indented)).2
      (sameRecords_toText (hwritable hexpense) hexpense (hsame (by decide) _) _ _), hdecode,
      hother (by decide)]

end Json

end ExpenseReport
