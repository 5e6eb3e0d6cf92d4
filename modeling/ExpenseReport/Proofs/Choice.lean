import ExpenseReport.Proofs.Configuration.Export
import ExpenseReport.Proofs.Text.Spelling

/-!
# Choosing a format

A format is chosen by reading a key, by asking for the serializer of a key, or by settings that hold
one. All of these choose a format exactly when the key is a spelling of the key of that format.
Other keys are reported when they are read, and elsewhere JSON under a file name of its own takes
their place.
-/

namespace ExpenseReport

open Text (SpelledAlike canonicalSpelling spelledAlike_iff)

variable {key other : String} {format : Format} {style : DateStyle}

namespace Format

/-! ## Reading a key -/

theorem canonicalSpelling_key (format : Format) :
    canonicalSpelling format.key.toList = format.key.toList := by
  cases format <;> decide

theorem find?_key_eq_some_iff {text : String} :
    all.find? (·.key = text) = some format ↔ format.key = text := by
  constructor
  · intro hfound
    simpa using List.find?_some hfound
  · rintro rfl
    cases format <;> decide

theorem ofKey?_eq (key : String) :
    ofKey? key = all.find? (·.key = String.ofList (canonicalSpelling key.toList)) :=
  rfl

/-- A key is read as a format exactly when it is a spelling of the key of that format. -/
theorem ofKey?_eq_some_iff :
    ofKey? key = some format ↔ SpelledAlike format.key.toList key.toList := by
  rw [spelledAlike_iff, canonicalSpelling_key, ofKey?_eq, find?_key_eq_some_iff,
    ← String.toList_inj, String.toList_ofList]

theorem ofKey?_congr (halike : SpelledAlike key.toList other.toList) :
    ofKey? other = ofKey? key := by
  rw [ofKey?_eq, ofKey?_eq, halike.canonicalSpelling_eq]

theorem ofKey_eq_ok_iff : ofKey key = .ok format ↔ ofKey? key = some format := by
  unfold ofKey
  cases ofKey? key <;> simp

theorem ofKey_eq_error_iff {error : UnknownKey} :
    ofKey key = .error error ↔ ofKey? key = none ∧ error = ⟨key⟩ := by
  unfold ofKey
  cases ofKey? key <;> simp [eq_comm]

theorem fileName_ne_fallbackFileName (format : Format) :
    format.fileName ≠ fallbackFileName := by
  cases format <;> decide

end Format

namespace Serializer

open Format (ofKey?)

/-! ## The serializer of a key -/

theorem ofKey_of_eq_some (hkey : ofKey? key = some format) :
    ofKey key style = (ofFormat format style, format.fileName) := by
  rw [ofKey, hkey]

theorem ofKey_of_eq_none (hkey : ofKey? key = none) :
    ofKey key style = (ofFormat .json style, Format.fallbackFileName) := by
  rw [ofKey, hkey]

theorem ofKey_congr (halike : SpelledAlike key.toList other.toList) :
    ofKey other style = ofKey key style := by
  rw [ofKey, ofKey, Format.ofKey?_congr halike]

/-- The file name tells whether the key was read. -/
theorem exists_ofKey?_eq_some_iff :
    (∃ format, ofKey? key = some format) ↔ (ofKey key style).2 ≠ Format.fallbackFileName := by
  cases hkey : ofKey? key with
  | none => simp [ofKey_of_eq_none hkey]
  | some format => simp [ofKey_of_eq_some hkey, Format.fileName_ne_fallbackFileName]

end Serializer

namespace Format

/-! ## All choices -/

/-- Blanks around a key and the case of its ASCII letters change nothing that is chosen by it. A key
is read as a format exactly when it is a spelling of the key of that format. Then its serializer is
the one of this format and has the file of this format. Otherwise it is the one for JSON with the
fallback file, and the key is reported as it was given. Settings with the key have the same
serializer, and their destination is the same file in their directory. -/
theorem choices_by_key_agree (key outputDir : String) (style : DateStyle) :
    let chosen := Serializer.ofKey key style
    let settings : Settings := ⟨key, outputDir, style⟩
    (∀ other, SpelledAlike key.toList other.toList →
      Serializer.ofKey other style = chosen ∧
        Settings.destination ⟨other, outputDir, style⟩ = settings.destination) ∧
    (∀ format, (ofKey key = .ok format ↔ ofKey? key = some format) ∧
      (ofKey key = .ok format ↔ SpelledAlike format.key.toList key.toList)) ∧
    ((∃ format, ofKey key = .ok format) ↔ chosen.2 ≠ fallbackFileName) ∧
    (∀ format, ofKey key = .ok format →
      chosen = (Serializer.ofFormat format style, format.fileName) ∧ chosen.1.format = format ∧
        ofKey format.key = .ok format) ∧
    (∀ error, ofKey key = .error error →
      chosen = (Serializer.ofFormat .json style, "expenses.txt") ∧ chosen.1.format = .json ∧
        error.message = "Unknown export format: " ++ key) ∧
    settings.exporter = (chosen.1, settings.destination) ∧
      settings.destination = Path.join outputDir chosen.2 ∧
      Path.steps settings.destination = Path.steps outputDir ++ [.down chosen.2] := by
  intro chosen settings
  refine ⟨?_, ?_, ?_, ?_, ?_, settings.exporter_eq, settings.destination_eq,
    settings.steps_destination⟩
  · intro other halike
    have hchosen : Serializer.ofKey other style = chosen := Serializer.ofKey_congr halike
    refine ⟨hchosen, ?_⟩
    rw [settings.destination_eq, Settings.destination_eq, hchosen]
  · intro format
    exact ⟨ofKey_eq_ok_iff, ofKey_eq_ok_iff.trans ofKey?_eq_some_iff⟩
  · simp only [ofKey_eq_ok_iff]
    exact Serializer.exists_ofKey?_eq_some_iff
  · intro format hok
    have hchosen : chosen = (Serializer.ofFormat format style, format.fileName) :=
      Serializer.ofKey_of_eq_some (ofKey_eq_ok_iff.mp hok)
    refine ⟨hchosen, by rw [hchosen]; rfl, ?_⟩
    exact ofKey_eq_ok_iff.mpr (ofKey?_eq_some_iff.mpr (.refl _))
  · intro error herror
    obtain ⟨hunread, rfl⟩ := ofKey_eq_error_iff.mp herror
    have hchosen : chosen = (Serializer.ofFormat .json style, fallbackFileName) :=
      Serializer.ofKey_of_eq_none hunread
    exact ⟨hchosen, by rw [hchosen]; rfl, rfl⟩

/-- One key has blanks around it, the other a letter whose upper case is a letter of ASCII. -/
theorem choices_by_key_agree_on_padded_and_foreign_key :
    let padded := "\u3000cSv\n"
    let foreign := "cſv"
    (SpelledAlike padded.toList "CSV".toList ∧
      Serializer.ofKey "CSV" .dateTime = Serializer.ofKey padded .dateTime ∧
      Settings.destination ⟨"CSV", "out/", .dateTime⟩ =
        Settings.destination ⟨padded, "out/", .dateTime⟩) ∧
    (ofKey padded = .ok .csv ∧
      Serializer.ofKey padded .dateTime = (Serializer.ofFormat .csv .dateTime, "expenses.csv")) ∧
    ofKey foreign = .error ⟨foreign⟩ ∧
      Serializer.ofKey foreign .dateTime =
        (Serializer.ofFormat .json .dateTime, "expenses.txt") := by
  intro padded foreign
  obtain ⟨hinvariant, _, _, hread, _⟩ := choices_by_key_agree padded "out/" .dateTime
  obtain ⟨_, _, _, _, hunread, _⟩ := choices_by_key_agree foreign "out/" .dateTime
  have halike : SpelledAlike padded.toList "CSV".toList := by decide
  have hpadded : ofKey padded = .ok .csv := by decide
  have hforeign : ofKey foreign = .error ⟨foreign⟩ := by decide
  exact ⟨⟨halike, hinvariant "CSV" halike⟩, ⟨hpadded, (hread .csv hpadded).1⟩, hforeign,
    (hunread _ hforeign).1⟩

end Format

end ExpenseReport
