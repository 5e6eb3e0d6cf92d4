import ExpenseReport.Batch
import ExpenseReport.Proofs.Decimal.Writing
import ExpenseReport.Proofs.Formula.Constant
import ExpenseReport.Proofs.Formula.Writing
import ExpenseReport.Proofs.Rule.Limit

/-!
# Messages say one thing

Names and formulas are put into messages as they are, so a name could look like the rest of a
message. Names come last, so it is enough that what stands in front of them ends where it seems to
end. Amounts and percentages have only the characters of numbers. A formula that was exceeded is one
that was understood, and such a text has no quotation mark.
-/

namespace ExpenseReport

open Text

/-! ## Formulas that were understood -/

namespace Formula

theorem Literal.Spelled.isDigit_or_isMark {l : Literal} {word : List Char}
    (hword : l.Spelled word) : ∀ c ∈ word, isDigit c ∨ isMark c := by
  cases hword with
  | whole hwhole => exact fun c hc => Or.inl (hwhole.2 c hc)
  | marked hwhole hmark hfraction =>
      rw [List.forall_mem_append, List.forall_mem_cons]
      exact ⟨fun c hc => Or.inl (hwhole.2 c hc), Or.inr hmark,
        fun c hc => Or.inl (hfraction.2 c hc)⟩
  | leading hmark hfraction =>
      rw [List.forall_mem_cons]
      exact ⟨Or.inr hmark, fun c hc => Or.inl (hfraction.2 c hc)⟩

theorem Literal.Spelled.quote_notMem {l : Literal} {word : List Char} (hword : l.Spelled word) :
    '"' ∉ word :=
  fun hquote => absurd (hword.isDigit_or_isMark '"' hquote) (by decide)

theorem Operand.Spelled.quote_notMem {o : Operand} {word : List Char} (hword : o.Spelled word) :
    '"' ∉ word := by
  cases hword with
  | number hnumber => exact hnumber.quote_notMem
  | percent hnumber =>
      rw [List.mem_append, not_or]
      exact ⟨hnumber.quote_notMem, by decide⟩

theorem Sentence.quote_notMem {cs : List Char} {shape : Shape} (hcs : Sentence cs shape) :
    '"' ∉ cs := by
  cases hcs with
  | salary => decide
  | constant hword | salaryTimes hword =>
      rw [List.mem_append, not_or]
      exact ⟨by decide, hword.quote_notMem⟩
  | timesSalary hword =>
      rw [List.mem_append, List.mem_append, not_or, not_or]
      exact ⟨by decide, hword.quote_notMem, by decide⟩

end Formula

/-! ## What a message shows -/

namespace Rejection

section Details

variable {percent percent' limit limit' : Decimal} {formula formula' employee employee' : String}

end Details

/-! ## What the whole message says -/

variable {r r' : Rejection} {amount amount' : Decimal} {details details' : List Char}

namespace Reports

end Reports

-- With a quotation mark in a formula it could not be told where the formula ends.
example :
    (formulaLimitExceeded .one .zero "AMOUNT\" (limit 0.00) for Maria" "Ivan").message =
      (formulaLimitExceeded .one .zero "AMOUNT" "Maria\" (limit 0.00) for Ivan").message := by
  decide +kernel

end Rejection

/-! ## Messages of rules -/

namespace Rule

end Rule

end ExpenseReport
