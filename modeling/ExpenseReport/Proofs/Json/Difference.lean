import ExpenseReport.Json.Writer
import Mathlib.Data.List.Basic

/-!
# Documents that differ in some places

Two objects with one member that differs have texts that differ in that member, and so have two
arrays of such objects, once for each object.
-/

namespace ExpenseReport.Json

/-- The first text has the one and the second has the other in each of some places, which are in
order, and the texts agree everywhere else. -/
inductive AgreeBut : List (List Char × List Char) → List Char → List Char → Prop where
  | rest (cs : List Char) : AgreeBut [] cs cs
  | place (gap old new : List Char) {places : List (List Char × List Char)} {cs ds : List Char}
      (h : AgreeBut places cs ds) :
      AgreeBut ((old, new) :: places) (gap ++ old ++ cs) (gap ++ new ++ ds)

namespace AgreeBut

variable {ps qs : List (List Char × List Char)} {as bs cs ds : List Char}

theorem append_left (gap : List Char) (h : AgreeBut ps as bs) :
    AgreeBut ps (gap ++ as) (gap ++ bs) := by
  cases h with
  | rest => exact .rest (gap ++ as)
  | place front old new h =>
      rw [← List.append_assoc, ← List.append_assoc, ← List.append_assoc, ← List.append_assoc]
      exact .place (gap ++ front) old new h

theorem append (h : AgreeBut ps as bs) (hnext : AgreeBut qs cs ds) :
    AgreeBut (ps ++ qs) (as ++ cs) (bs ++ ds) := by
  induction h with
  | rest gap => exact hnext.append_left gap
  | place gap old new _ ih =>
      rw [List.append_assoc, List.append_assoc _ _ ds]
      exact .place gap old new ih

theorem append_right (h : AgreeBut ps as bs) (tail : List Char) :
    AgreeBut ps (as ++ tail) (bs ++ tail) := by
  have happend := h.append (.rest tail)
  rwa [List.append_nil] at happend

theorem single (old new : List Char) : AgreeBut [(old, new)] old new := by
  have hplace := AgreeBut.place [] old new (.rest [])
  rwa [List.append_nil, List.append_nil] at hplace

theorem length_le (h : AgreeBut ps as bs) (hle : ∀ p ∈ ps, p.2.length ≤ p.1.length) :
    bs.length ≤ as.length := by
  induction h with
  | rest => exact Nat.le_refl _
  | place gap old new _ ih =>
      obtain ⟨hfirst, hothers⟩ := List.forall_mem_cons.mp hle
      have hplace : new.length ≤ old.length := hfirst
      have hrest := ih hothers
      simp only [List.length_append]
      omega

/-- What is never longer in the second text is of one length in both if the texts are equal. -/
theorem forall_length_eq (h : AgreeBut ps as bs) (hle : ∀ p ∈ ps, p.2.length ≤ p.1.length)
    (heq : as.length = bs.length) : ∀ p ∈ ps, p.1.length = p.2.length := by
  induction h with
  | rest => simp
  | place gap old new h ih =>
      obtain ⟨hfirst, hothers⟩ := List.forall_mem_cons.mp hle
      have hplace : new.length ≤ old.length := hfirst
      have hrest := h.length_le hothers
      simp only [List.length_append] at heq
      have hsame : old.length = new.length := by omega
      exact List.forall_mem_cons.mpr ⟨hsame, ih hothers (by omega)⟩

end AgreeBut

variable {layout : Layout} {depth : Nat}

theorem layOutMembers_append (layout : Layout) (depth : Nat)
    (front back : List (Option String × Value)) :
    layOutMembers layout depth (front ++ back) =
      layOutMembers layout depth front ++ layOutMembers layout depth back := by
  induction front with
  | nil => rfl
  | cons member front ih => simp [layOutMembers, ih]

/-- Objects that differ in one member. -/
theorem agreeBut_object (first : Option String × Value) (front back : List (Option String × Value))
    (old new : Option String × Value) :
    AgreeBut [(layOutMember layout (depth + 1) old, layOutMember layout (depth + 1) new)]
      ((Value.object (first :: (front ++ old :: back))).layOut layout depth)
      ((Value.object (first :: (front ++ new :: back))).layOut layout depth) := by
  have hmember : AgreeBut
      [(layOutMember layout (depth + 1) old, layOutMember layout (depth + 1) new)]
      (layOutMember layout (depth + 1) old ++ layOutMembers layout (depth + 1) back)
      (layOutMember layout (depth + 1) new ++ layOutMembers layout (depth + 1) back) :=
    (AgreeBut.single _ _).append_right _
  have hmembers := hmember.append_left (layOutMembers layout (depth + 1) front
    ++ (',' :: layout.lineBreak (depth + 1)))
  have hobject := (hmembers.append_left ('{' :: layout.lineBreak (depth + 1)
    ++ layOutMember layout (depth + 1) first)).append_right (layout.lineBreak depth ++ ['}'])
  simpa only [Value.layOut, layOutMembers_append, layOutMembers, List.append_assoc,
    List.cons_append] using hobject

/-- Arrays whose items differ in one place each. -/
theorem agreeBut_array {α : Type} {f g : α → Value} {place : α → List Char × List Char}
    (hitem : ∀ a, AgreeBut [place a] ((f a).layOut layout (depth + 1))
      ((g a).layOut layout (depth + 1))) (as : List α) :
    AgreeBut (as.map place) ((Value.array (as.map f)).layOut layout depth)
      ((Value.array (as.map g)).layOut layout depth) := by
  have hitems : ∀ as : List α, AgreeBut (as.map place) (layOutItems layout (depth + 1) (as.map f))
      (layOutItems layout (depth + 1) (as.map g)) := by
    intro as
    induction as with
    | nil => exact .rest []
    | cons a as ih =>
        simp only [List.map_cons, layOutItems]
        exact ((hitem a).append_left _).append ih
  cases as with
  | nil => exact .rest _
  | cons a as =>
      simp only [List.map_cons, Value.layOut]
      exact ((((hitem a).append_left _).append (hitems as)).append_right _).append_right _

end ExpenseReport.Json
