import ExpenseReport.Text.Blank
import ExpenseReport.Text.Uppercase
import Mathlib

/-!
# Spellings of a text

The letters of ASCII can be spelled small or as capitals, and a text can have blanks around it. One
spelling has capitals only and no such blanks. Texts become each other by changes of these two kinds
exactly when this spelling is the same for both.
-/

namespace ExpenseReport.Text

/-- One change in the spelling of a text. -/
inductive Respelling : List Char → List Char → Prop
  /-- A capital of ASCII becomes small. -/
  | lower {c : Char} (front back : List Char) (hc : c.isUpper) :
      Respelling (front ++ c :: back) (front ++ c.toLower :: back)
  /-- A blank comes in front. -/
  | lead {c : Char} (cs : List Char) (hc : isBlank c) : Respelling cs (c :: cs)
  /-- A blank comes behind. -/
  | trail {c : Char} (cs : List Char) (hc : isBlank c) : Respelling cs (cs ++ [c])

/-- Two texts become each other by any number of changes in spelling, made or taken back. -/
def SpelledAlike : List Char → List Char → Prop :=
  Relation.EqvGen Respelling

/-- The spelling in capitals, without blanks at the ends. -/
def canonicalSpelling (cs : List Char) : List Char :=
  asciiUppercase (trim cs)

variable {cs ds es : List Char} {c : Char}

theorem SpelledAlike.symm (h : SpelledAlike cs ds) : SpelledAlike ds cs :=
  Relation.EqvGen.symm _ _ h

theorem SpelledAlike.trans (hleft : SpelledAlike cs ds) (hright : SpelledAlike ds es) :
    SpelledAlike cs es :=
  Relation.EqvGen.trans _ _ _ hleft hright

/-! ## Blanks at the ends -/

theorem trim_eq_rdropWhile (cs : List Char) : trim cs = (dropBlanks cs).rdropWhile isBlank :=
  rfl

theorem trim_cons_of_isBlank (hc : isBlank c) : trim (c :: cs) = trim cs := by
  have hfront : dropBlanks (c :: cs) = dropBlanks cs := List.dropWhile_cons_of_pos hc
  rw [trim, trim, hfront]

theorem trim_append_of_isBlank (hc : isBlank c) : trim (cs ++ [c]) = trim cs := by
  rw [trim_eq_rdropWhile, trim_eq_rdropWhile, dropBlanks, List.dropWhile_append]
  split
  next hnil =>
    rw [dropBlanks, List.isEmpty_iff.mp hnil, List.dropWhile_cons_of_pos hc, List.dropWhile_nil]
  next => exact List.rdropWhile_concat_pos _ _ _ hc

theorem isBlank_eq_false_of_isAlpha (hc : c.isAlpha) : isBlank c = false := by
  have hletter : 0x41 ≤ c.toNat ∧ c.toNat ≤ 0x5a ∨ 0x61 ≤ c.toNat ∧ c.toNat ≤ 0x7a := by
    simpa [Char.isAlpha, Char.isUpper, Char.isLower, UInt32.le_iff_toNat_le] using hc
  have houtside : ∀ range ∈ blankRanges, range.2 < 0x41 ∨ 0x7a < range.1 := by decide
  rw [isBlank, List.any_eq_false]
  intro range hrange
  have hrange := houtside range hrange
  simp only [Bool.and_eq_true, decide_eq_true_eq]
  omega

/-- Upper case makes no blanks and takes none away. -/
theorem isBlank_toUpper (c : Char) : isBlank c.toUpper = isBlank c := by
  by_cases hc : c.isAlpha
  · have hcapital : c.toUpper.isAlpha := by rwa [Char.isAlpha_toUpper_eq_isAlpha]
    rw [isBlank_eq_false_of_isAlpha hcapital, isBlank_eq_false_of_isAlpha hc]
  · have hlower : ¬ c.isLower := fun hlower => hc (by simp [Char.isAlpha, hlower])
    rw [Char.toUpper_eq_of_not_isLower hlower]

theorem trim_asciiUppercase (cs : List Char) :
    trim (asciiUppercase cs) = asciiUppercase (trim cs) := by
  have hblank : isBlank ∘ Char.toUpper = isBlank := by
    funext c
    exact isBlank_toUpper c
  simp only [trim, dropBlanks, asciiUppercase, List.dropWhile_map, hblank, ← List.map_reverse]

/-! ## Changes keep the canonical spelling -/

theorem Respelling.canonicalSpelling_eq (h : Respelling cs ds) :
    canonicalSpelling cs = canonicalSpelling ds := by
  cases h with
  | @lower c front back hc =>
      -- Trimming can wait until all letters are capitals, and then there is no difference.
      have hcapitals : asciiUppercase (front ++ c :: back) =
          asciiUppercase (front ++ c.toLower :: back) := by
        simp [asciiUppercase, Char.toUpper_toLower_eq_toUpper]
      rw [canonicalSpelling, canonicalSpelling, ← trim_asciiUppercase, ← trim_asciiUppercase,
        hcapitals]
  | lead cs hc => rw [canonicalSpelling, canonicalSpelling, trim_cons_of_isBlank hc]
  | trail cs hc => rw [canonicalSpelling, canonicalSpelling, trim_append_of_isBlank hc]

theorem SpelledAlike.canonicalSpelling_eq (h : SpelledAlike cs ds) :
    canonicalSpelling cs = canonicalSpelling ds := by
  induction h with
  | rel _ _ hchange => exact hchange.canonicalSpelling_eq
  | refl _ => rfl
  | symm _ _ _ ih => exact ih.symm
  | trans _ _ _ _ _ ihleft ihright => exact ihleft.trans ihright

/-! ## Changes lead to the canonical spelling -/

theorem spelledAlike_dropBlanks (cs : List Char) : SpelledAlike (dropBlanks cs) cs := by
  induction cs with
  | nil => exact .refl _
  | cons c cs ih =>
      by_cases hc : isBlank c
      · rw [dropBlanks, List.dropWhile_cons_of_pos hc]
        exact ih.trans (.rel _ _ (.lead cs hc))
      · rw [dropBlanks, List.dropWhile_cons_of_neg hc]
        exact .refl _

/-- The blanks behind a text go one by one from its end. -/
theorem spelledAlike_rdropWhile (cs : List Char) :
    SpelledAlike (cs.rdropWhile isBlank) cs := by
  induction cs using List.reverseRecOn with
  | nil => exact .refl _
  | append_singleton cs c ih =>
      by_cases hc : isBlank c
      · rw [List.rdropWhile_concat_pos _ _ _ hc]
        exact ih.trans (.rel _ _ (.trail cs hc))
      · rw [List.rdropWhile_concat_neg _ _ _ hc]
        exact .refl _

theorem spelledAlike_toUpper (front back : List Char) (c : Char) :
    SpelledAlike (front ++ c.toUpper :: back) (front ++ c :: back) := by
  by_cases hc : c.isLower
  · have hcapital : c.toUpper.isUpper := by simp [Char.isAlpha, hc]
    have hsmall : c.toUpper.toLower = c := by
      rw [Char.toLower_toUpper_eq_toLower,
        Char.toLower_eq_of_not_isUpper (Char.not_isUpper_of_isLower hc)]
    have hchange := Respelling.lower front back hcapital
    rw [hsmall] at hchange
    exact .rel _ _ hchange
  · rw [Char.toUpper_eq_of_not_isLower hc]
    exact .refl _

/-- The letters are changed one by one from the front. What was changed before stays in front. -/
theorem spelledAlike_asciiUppercase (front cs : List Char) :
    SpelledAlike (front ++ asciiUppercase cs) (front ++ cs) := by
  induction cs generalizing front with
  | nil => exact .refl _
  | cons c cs ih =>
      have hrest : SpelledAlike (front ++ c.toUpper :: asciiUppercase cs)
          (front ++ c.toUpper :: cs) := by
        simpa using ih (front ++ [c.toUpper])
      exact hrest.trans (spelledAlike_toUpper front cs c)

theorem spelledAlike_canonicalSpelling (cs : List Char) :
    SpelledAlike (canonicalSpelling cs) cs := by
  have hcapitals : SpelledAlike (canonicalSpelling cs) (trim cs) :=
    spelledAlike_asciiUppercase [] (trim cs)
  have hback : SpelledAlike (trim cs) (dropBlanks cs) := spelledAlike_rdropWhile (dropBlanks cs)
  exact hcapitals.trans (hback.trans (spelledAlike_dropBlanks cs))

theorem spelledAlike_iff :
    SpelledAlike cs ds ↔ canonicalSpelling cs = canonicalSpelling ds := by
  constructor
  · exact SpelledAlike.canonicalSpelling_eq
  · intro hsame
    have hleft := spelledAlike_canonicalSpelling cs
    rw [hsame] at hleft
    exact hleft.symm.trans (spelledAlike_canonicalSpelling ds)

instance (cs ds : List Char) : Decidable (SpelledAlike cs ds) :=
  decidable_of_iff _ spelledAlike_iff.symm

example : SpelledAlike "CSV".toList "\u3000cSv\n".toList := by decide

example : ¬ SpelledAlike "CSV".toList "c sv".toList ∧ ¬ SpelledAlike "CSV".toList "cſv".toList := by
  decide

end ExpenseReport.Text
