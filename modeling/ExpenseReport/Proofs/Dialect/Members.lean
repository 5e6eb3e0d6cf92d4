import ExpenseReport.Dialect.Records
import Mathlib.Data.List.Basic

/-!
# Members in any order

A record is read by looking its members up by name. So the order of the members does not matter, and
neither do members that nobody looks up. This holds in every dialect, also where reading fails.
-/

namespace ExpenseReport.Dialect

variable {Node : Type} {names : List String} {members others : List (String × Node)}

theorem required?_eq_some_iff {α : Type} {read : Node → Option α} {name : String} {value : α} :
    required? read members name = some value ↔
      ∃ node, member? members name = some (some node) ∧ read node = some value := by
  simp [required?, Option.bind_eq_some_iff]

/-- Two records have the same members under some names, in whatever order, and may have any others
besides. -/
def SameMembers (names : List String) (members others : List (String × Node)) : Prop :=
  (members.filter (·.1 ∈ names)).Perm (others.filter (·.1 ∈ names))

theorem SameMembers.of_perm (hperm : members.Perm others) : SameMembers names members others :=
  hperm.filter _

theorem SameMembers.cons {member : String × Node} (hname : member.1 ∉ names)
    (hsame : SameMembers names members others) : SameMembers names (member :: members) others := by
  rw [SameMembers, List.filter_cons_of_neg (by simpa using hname)]
  exact hsame

theorem member?_eq_of_perm {name : String}
    (hperm : (members.filter (·.1 = name)).Perm (others.filter (·.1 = name))) :
    member? members name = member? others name := by
  unfold member?
  generalize members.filter (·.1 = name) = found at hperm
  generalize others.filter (·.1 = name) = found' at hperm
  match found with
  | [] => rw [hperm.symm.eq_nil]
  | [member] => rw [hperm.symm.eq_singleton]
  | _ :: _ :: rest =>
      -- A name that is repeated here is repeated there.
      match found', hperm.length_eq with
      | _ :: _ :: _, _ => rfl

theorem SameMembers.member?_eq (hsame : SameMembers names members others) :
    ∀ name ∈ names, member? members name = member? others name := by
  intro name hname
  have hfilter (list : List (String × Node)) :
      (list.filter (·.1 ∈ names)).filter (·.1 = name) = list.filter (·.1 = name) := by
    rw [List.filter_filter]
    apply List.filter_congr
    intro member _
    by_cases heq : member.1 = name
    · simp [heq, hname]
    · simp [heq]
  apply member?_eq_of_perm
  rw [← hfilter members, ← hfilter others]
  exact hsame.filter _

variable (dialect : Dialect Node) {node other : Node}

/-- The amount of an expense is read from its member. -/
theorem exists_amount_of_expense? {expense : Expense}
    (hexpense : dialect.expense? node = some expense) :
    ∃ members amount, dialect.members? expenseFields node = some members ∧
      member? members "amount" = some (some amount) ∧
      dialect.decimal? amount = some expense.amount := by
  simp only [expense?, Option.bind_eq_bind, Option.bind_eq_some_iff] at hexpense
  obtain ⟨members, hmembers, _, _, _, _, _, _, amount, hamount, _, _, hfields⟩ := hexpense
  obtain ⟨node, hnode, hread⟩ := required?_eq_some_iff.mp hamount
  exact ⟨members, node, hmembers, hnode, Option.some.inj hfields ▸ hread⟩

theorem employee?_eq_of_sameMembers (hnode : dialect.members? employeeFields node = some members)
    (hother : dialect.members? employeeFields other = some others)
    (hsame : SameMembers employeeFields members others) :
    dialect.employee? node = dialect.employee? other := by
  have hmember := hsame.member?_eq
  simp only [employeeFields, List.forall_mem_cons] at hmember
  rw [employee?, employee?, hnode, hother]
  simp only [Option.bind_eq_bind, Option.bind_some, required?, optional?, hmember]

theorem expense?_eq_of_sameMembers (hnode : dialect.members? expenseFields node = some members)
    (hother : dialect.members? expenseFields other = some others)
    (hsame : SameMembers expenseFields members others) :
    dialect.expense? node = dialect.expense? other := by
  have hmember := hsame.member?_eq
  simp only [expenseFields, List.forall_mem_cons] at hmember
  rw [expense?, expense?, hnode, hother]
  simp only [Option.bind_eq_bind, Option.bind_some, required?, optional?, hmember]

end ExpenseReport.Dialect
