import ExpenseReport.Json.Reader
import ExpenseReport.Json.Writer
import ExpenseReport.Proofs.Text.Digits
import Mathlib.Data.List.TakeDrop

/-!
# Strings and numbers of JSON

What a string is written as is read as the same string, whatever characters it has: each of them
stands for itself, or behind a backslash, or as a number. A number literal is taken up to its last
digit when nothing follows that could continue it.
-/

namespace ExpenseReport.Json

open Text

/-! ## Characters of strings -/

/-- A character that stands for itself inside a string. -/
def IsPlain (c : Char) : Prop :=
  c ≠ '"' ∧ c ≠ '\\' ∧ 0x20 ≤ c.toNat

instance (c : Char) : Decidable (IsPlain c) :=
  inferInstanceAs (Decidable (_ ∧ _))

theorem isPlain_of_isDigit {c : Char} (hc : isDigit c) : IsPlain c := by
  obtain ⟨d, hd, rfl⟩ := exists_digitChar_eq hc
  revert d
  decide

/-- A character is escaped by a letter, by its number, or not at all. -/
theorem escape_cases (c : Char) :
    (∃ letter, escape c = ['\\', letter] ∧ letter ≠ 'u' ∧ unescape? letter = some c ∧
        ¬ IsPlain c) ∨
      (escape c = ['\\', 'u', '0', '0', hexDigit (c.toNat / 16), hexDigit (c.toNat % 16)] ∧
        c.toNat < 0x20) ∨
      (escape c = [c] ∧ IsPlain c) := by
  have hletters : ∀ c ∈ ['"', '\\', '\x08', '\t', '\n', '\x0c', '\r'],
      ∃ letter, escape c = ['\\', letter] ∧ letter ≠ 'u' ∧ unescape? letter = some c ∧
        ¬ IsPlain c := by
    simp only [List.forall_mem_cons]
    exact ⟨⟨'"', by decide⟩, ⟨'\\', by decide⟩, ⟨'b', by decide⟩, ⟨'t', by decide⟩,
      ⟨'n', by decide⟩, ⟨'f', by decide⟩, ⟨'r', by decide⟩, by simp⟩
  by_cases hc : c ∈ ['"', '\\', '\x08', '\t', '\n', '\x0c', '\r']
  · exact Or.inl (hletters c hc)
  · right
    simp only [List.mem_cons, List.not_mem_nil, or_false, not_or] at hc
    obtain ⟨hquote, hbackslash, hb, ht, hn, hf, hr⟩ := hc
    have hescape : escape c = if c.toNat < 0x20 then
        ['\\', 'u', '0', '0', hexDigit (c.toNat / 16), hexDigit (c.toNat % 16)] else [c] := by
      simp only [escape, hquote, hbackslash, hb, ht, hn, hf, hr, if_false]
    by_cases hcontrol : c.toNat < 0x20
    · rw [if_pos hcontrol] at hescape
      exact Or.inl ⟨hescape, hcontrol⟩
    · rw [if_neg hcontrol] at hescape
      exact Or.inr ⟨hescape, hquote, hbackslash, Nat.le_of_not_lt hcontrol⟩

/-- A piece that stands for a character: the character itself, or its number. -/
def Piece.Denotes (c : Char) : Piece → Prop
  | .char d => d = c
  | .unit n => n = c.toNat ∧ n < 0xd800

theorem join?_cons {c : Char} {piece : Piece} (hpiece : piece.Denotes c) (rest : List Piece) :
    join? (piece :: rest) = (join? rest).map (c :: ·) := by
  cases piece with
  | char d => rw [join?, show d = c from hpiece]
  | unit n =>
      obtain ⟨rfl, hlow⟩ := hpiece
      -- A number below the surrogates needs no partner, whatever comes next.
      have hsingle : isHighSurrogate c.toNat = false ∧ isLowSurrogate c.toNat = false := by
        simp only [isHighSurrogate, isLowSurrogate, Bool.and_eq_false_iff, decide_eq_false_iff_not]
        omega
      rcases rest with _ | ⟨d | low, rest⟩
      · simp [join?, hsingle, Char.ofNat_toNat]
      · simp [join?, hsingle, Char.ofNat_toNat]
      · simp [join?, hsingle, Char.ofNat_toNat]

/-- What one character was written as is one piece, which stands for it. -/
theorem readPieces?_escape (c : Char) (rest : List Char) :
    ∃ piece : Piece, piece.Denotes c ∧
      readPieces? (escape c ++ rest) =
        (readPieces? rest).map fun (pieces, rest) => (piece :: pieces, rest) := by
  rcases escape_cases c with
    ⟨letter, hescape, hletter, hunescape, _⟩ | ⟨hescape, hcontrol⟩ |
      ⟨hescape, hquote, hbackslash, hvisible⟩
  · refine ⟨.char c, rfl, ?_⟩
    rw [hescape]
    rw [List.cons_append, List.singleton_append, readPieces?]
    · rw [hunescape]
      cases readPieces? rest <;> rfl
    · exact fun _ _ _ _ _ hu => absurd hu hletter
  · refine ⟨.unit c.toNat, ⟨rfl, by omega⟩, ?_⟩
    have hunit : hexUnit? '0' '0' (hexDigit (c.toNat / 16)) (hexDigit (c.toNat % 16)) =
        some c.toNat := by
      have hvalue : 0x10 * (c.toNat / 16) + c.toNat % 16 = c.toNat := Nat.div_add_mod c.toNat 16
      have hzero : hexValue? '0' = some 0 := rfl
      simp only [hexUnit?, hzero, hexValue?_hexDigit (show c.toNat / 16 < 16 by omega),
        hexValue?_hexDigit (show c.toNat % 16 < 16 by omega)]
      simp [hvalue]
    rw [hescape]
    simp only [List.cons_append, List.nil_append, readPieces?, hunit]
    cases readPieces? rest <;> rfl
  · refine ⟨.char c, rfl, ?_⟩
    rw [hescape, List.singleton_append, readPieces?]
    · rw [if_neg (Nat.not_lt_of_le hvisible)]
      cases readPieces? rest <;> rfl
    · exact hquote
    · exact fun _ _ _ _ _ heq => absurd heq hbackslash
    · exact fun _ _ heq => absurd heq hbackslash

theorem flatMap_escape_eq_self {cs : List Char} (hcs : ∀ c ∈ cs, IsPlain c) :
    cs.flatMap escape = cs := by
  induction cs with
  | nil => rfl
  | cons c cs ih =>
      obtain ⟨hplain, hothers⟩ := List.forall_mem_cons.mp hcs
      rcases escape_cases c with ⟨_, _, _, _, hspecial⟩ | ⟨_, hcontrol⟩ | ⟨hescape, _⟩
      · exact absurd hplain hspecial
      · exact absurd hplain.2.2 (Nat.not_le_of_lt hcontrol)
      · rw [List.flatMap_cons, hescape, ih hothers, List.singleton_append]

/-! ## Strings -/

theorem readPieces?_flatMap_escape (cs rest : List Char) :
    ∃ pieces, readPieces? (cs.flatMap escape ++ '"' :: rest) = some (pieces, rest) ∧
      join? pieces = some cs := by
  induction cs with
  | nil => exact ⟨[], by simp [readPieces?], rfl⟩
  | cons c cs ih =>
      obtain ⟨pieces, hread, hjoin⟩ := ih
      obtain ⟨piece, hpiece, hescape⟩ := readPieces?_escape c (cs.flatMap escape ++ '"' :: rest)
      refine ⟨piece :: pieces, ?_, ?_⟩
      · rw [List.flatMap_cons, List.append_assoc, hescape, hread]
        rfl
      · rw [join?_cons hpiece, hjoin]
        rfl

theorem quote_append (text : String) (rest : List Char) :
    quote text ++ rest = '"' :: (text.toList.flatMap escape ++ '"' :: rest) := by
  simp [quote]

/-- A text of plain characters stands between quotes as it is. -/
theorem quote_eq_of_forall {text : String} (htext : ∀ c ∈ text.toList, IsPlain c) :
    quote text = '"' :: text.toList ++ ['"'] := by
  rw [quote, flatMap_escape_eq_self htext]

/-- A string is read up to its closing quote as the text that was written. -/
theorem readString?_flatMap_escape (text : String) (rest : List Char) :
    readString? (text.toList.flatMap escape ++ '"' :: rest) = some (some text, rest) := by
  obtain ⟨pieces, hread, hjoin⟩ := readPieces?_flatMap_escape text.toList rest
  simp [readString?, hread, hjoin]

/-! ## Numbers -/

/-- The literal of a number without sign and exponent. -/
inductive IsUnsigned : List Char → Prop where
  | whole {ds : List Char} (hds : IsShortest ds) (hdigits : ∀ c ∈ ds, isDigit c) : IsUnsigned ds
  | fractional {ds fs : List Char} (hds : IsShortest ds) (hdigits : ∀ c ∈ ds ++ fs, isDigit c)
      (hfs : fs ≠ []) : IsUnsigned (ds ++ '.' :: fs)

/-- The literal of a number without exponent. -/
inductive IsLiteral : List Char → Prop where
  | positive {cs : List Char} (hcs : IsUnsigned cs) : IsLiteral cs
  | negative {cs : List Char} (hcs : IsUnsigned cs) : IsLiteral ('-' :: cs)

/-- Nothing that could belong to a number comes next. -/
def EndsNumber (rest : List Char) : Prop :=
  ∀ c ∈ rest.head?, isDigit c = false ∧ c ≠ '.' ∧ c ≠ 'e' ∧ c ≠ 'E'

theorem EndsNumber.endsRun {rest : List Char} (hrest : EndsNumber rest) : EndsRun rest :=
  fun c hc => (hrest c hc).1

theorem readDigits?_append {ds rest : List Char} (hds : ds ≠ []) (hdigits : ∀ c ∈ ds, isDigit c)
    (hrest : EndsRun rest) : readDigits? (ds ++ rest) = some (ds, rest) := by
  have hspan : spanDigits (ds ++ rest) = (ds, rest) := by
    rw [spanDigits, List.span_eq_takeWhile_dropWhile, takeWhile_isDigit_append hdigits hrest,
      dropWhile_isDigit_append hdigits hrest]
  simp [readDigits?, hspan, hds]

theorem readInteger?_append {ds rest : List Char} (hds : IsShortest ds)
    (hdigits : ∀ c ∈ ds, isDigit c) (hrest : EndsRun rest) :
    readInteger? (ds ++ rest) = some (ds, rest) := by
  rcases hds with rfl | ⟨hne, hhead⟩
  · have hany : rest.head?.any isDigit = false := by
      cases hfirst : rest.head? with
      | none => rfl
      | some c => exact hrest c hfirst
    simp [readInteger?, hany]
  · rw [readInteger?]
    · exact readDigits?_append hne hdigits hrest
    · intro tail heq
      apply hhead
      rw [← List.head?_append_of_ne_nil ds hne, heq]
      rfl

theorem readExponent?_of_endsNumber {rest : List Char} (hrest : EndsNumber rest) :
    readExponent? rest = some ([], rest) := by
  cases rest with
  | nil => rfl
  | cons c rest =>
      obtain ⟨_, _, hsmall, hcapital⟩ := hrest c rfl
      simp [readExponent?, hsmall, hcapital]

theorem readFraction?_of_endsNumber {rest : List Char} (hrest : EndsNumber rest) :
    readFraction? rest = some ([], rest) := by
  rw [readFraction?]
  rintro tail rfl
  exact (hrest '.' rfl).2.1 rfl

theorem IsUnsigned.exists_cons {cs : List Char} (hcs : IsUnsigned cs) :
    ∃ c tail, cs = c :: tail ∧ isDigit c := by
  have hhead : ∀ {ds rest : List Char}, IsShortest ds → (∀ c ∈ ds, isDigit c) →
      ∃ c tail, ds ++ rest = c :: tail ∧ isDigit c := by
    intro ds rest hds hdigits
    cases ds with
    | nil => exact absurd rfl hds.ne_nil
    | cons c ds => exact ⟨c, ds ++ rest, rfl, hdigits c List.mem_cons_self⟩
  cases hcs with
  | whole hds hdigits =>
      rw [← List.append_nil cs]
      exact hhead hds hdigits
  | fractional hds hdigits => exact hhead hds fun c hc => hdigits c (List.mem_append_left _ hc)

/-- The parts of a number, one after the other. -/
theorem readNumber?_of_readMinus {text sign cs rest : List Char} (hcs : IsUnsigned cs)
    (hsign : readMinus text = (sign, cs ++ rest)) (hrest : EndsNumber rest) :
    readNumber? text = some (sign ++ cs, rest) := by
  rw [readNumber?, hsign]
  cases hcs with
  | whole hds hdigits =>
      simp [readInteger?_append hds hdigits hrest.endsRun, readFraction?_of_endsNumber hrest,
        readExponent?_of_endsNumber hrest]
  | @fractional ds fs hds hdigits hfs =>
      have hpoint : EndsRun ('.' :: (fs ++ rest)) := by
        simp [EndsRun, isDigit, digitValue?]
      have hinteger := readInteger?_append hds
        (fun c hc => hdigits c (List.mem_append_left fs hc)) hpoint
      have hfraction : readFraction? ('.' :: (fs ++ rest)) = some ('.' :: fs, rest) := by
        rw [readFraction?, readDigits?_append hfs
          (fun c hc => hdigits c (List.mem_append_right ds hc)) hrest.endsRun]
        rfl
      simp [hinteger, hfraction, readExponent?_of_endsNumber hrest]

/-- A literal is taken as it stands. -/
theorem readNumber?_append {literal rest : List Char} (hliteral : IsLiteral literal)
    (hrest : EndsNumber rest) : readNumber? (literal ++ rest) = some (literal, rest) := by
  cases hliteral with
  | positive hcs =>
      have hminus : readMinus (literal ++ rest) = ([], literal ++ rest) := by
        obtain ⟨c, tail, rfl, hc⟩ := hcs.exists_cons
        rw [List.cons_append, readMinus]
        rintro _ heq
        obtain ⟨rfl, _⟩ := List.cons.inj heq
        exact absurd hc (by decide)
      exact readNumber?_of_readMinus hcs hminus hrest
  | @negative cs hcs =>
      have hminus : readMinus ('-' :: cs ++ rest) = (['-'], cs ++ rest) := rfl
      exact readNumber?_of_readMinus hcs hminus hrest

end ExpenseReport.Json
