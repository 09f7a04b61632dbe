import ManagementUnit.Proofs.Detection.Texts
import ManagementUnit.Proofs.Text.Decimal
import ManagementUnit.Proofs.Version.Components
import ManagementUnit.Proofs.Version.Spelling

/-!
# Texts of a version

The text of a version spells its components, whatever comes after it. It is read back if the minor
component fits in a byte, as it does in all versions that were read. The longest such text has
eleven bytes, so that the excerpt that detection reads has all of it.

* `Version.text_injective` — different versions have different texts.
* `Version.text_roundtrip` — texts that are read back.
-/

namespace ManagementUnit

open Dialogue Simulation

namespace Version

open Ascii

variable {version other : Version}

/-! ### Texts -/

/-- The text of a version as it is read. -/
def spell (version : Version) (rest : Bytes) (undigited : Undigited rest) : Spelling :=
  ⟨decimal version.major.toNat, decimal version.minor.toNat, decimal version.revision.toNat, rest,
    undigited⟩

theorem encode_text (version : Version) :
    Utf8.encode version.text = (decimal version.major.toNat).text ++ 0x2E ::
      ((decimal version.minor.toNat).text ++ 0x2E :: (decimal version.revision.toNat).text) := by
  simp only [Version.text, Utf8.encode_append, Utf8.encode_dot, ← text_decimal, List.append_assoc,
    List.cons_append, List.nil_append]

variable {rest : Bytes}

theorem text_spell (version : Version) (undigited : Undigited rest) :
    (version.spell rest undigited).text = Utf8.encode version.text ++ rest := by
  rw [encode_text]
  simp [spell, Spelling.text]

/-- The text of a version is read back if its components are bytes. Only the minor component may be
none, and then the text is refused. -/
theorem parse_text (version : Version) (undigited : Undigited rest) :
    parse (Utf8.encode version.text ++ rest) =
      if version.minor.toNat ≤ 255 then .ok version else .error .transferFailed := by
  have major := version.major_le
  have revision := version.revision_le
  rw [← text_spell version undigited, parse_spelling]
  simp only [spell, value_decimal]
  by_cases short : version.minor.toNat ≤ 255
  · rw [if_pos ⟨major, short, revision⟩, if_pos short]
    exact congrArg Except.ok (ofParts_components short)
  · rw [if_neg (fun all => short all.2.1), if_neg short]

/-- The longest text that is read back has eleven bytes. -/
theorem length_encode_text (short : version.minor.toNat ≤ 255) :
    (Utf8.encode version.text).length ≤ 11 := by
  have majors := length_decimal version.major_le
  have minors := length_decimal short
  have revisions := length_decimal version.revision_le
  rw [encode_text]
  simp only [List.length_append, List.length_cons]
  omega

/-- So the first twelve bytes spell the version too. -/
theorem parse_take_text (short : version.minor.toNat ≤ 255) (undigited : Undigited rest) :
    parse ((Utf8.encode version.text ++ rest).take 12) = .ok version := by
  have long := length_encode_text short
  rw [List.take_append, List.take_of_length_le (by omega),
    parse_text version (undigited.take _), if_pos short]

/-- Different versions have different texts. -/
theorem text_injective (same : version.text = other.text) : version = other := by
  have spelled : version.spell [] undigited_nil = other.spell [] undigited_nil :=
    Spelling.text_injective (by rw [text_spell, text_spell, same])
  obtain ⟨majors, minors, revisions, -⟩ := Spelling.mk.inj spelled
  apply ext_components
  · rw [← value_decimal version.major.toNat, majors, value_decimal]
  · rw [← value_decimal version.minor.toNat, minors, value_decimal]
  · rw [← value_decimal version.revision.toNat, revisions, value_decimal]

/-! ### Round trips -/

/-- A version is read back from its text with something behind it, and twelve bytes are enough for
that. A detection that reads these twelve bytes detects the version, whatever else is replied; it
reads them if the driver's file has that content and no fault waits for the read. -/
structure Restored (version : Version) (rest : Bytes) : Prop where
  whole : parse (Utf8.encode version.text ++ rest) = .ok version
  excerpt : parse ((Utf8.encode version.text ++ rest).take 12) = .ok version
  detected : ∀ (trace : Trace) (capabilities : Capabilities),
    Capabilities.detect.run.Produces trace (.ok capabilities) →
      trace.texts .version = [(Utf8.encode version.text ++ rest).take 12] →
        capabilities.version = version
  scripted : ∀ (state : Scripted) (capabilities : Capabilities),
    state.files .version = some (Utf8.encode version.text ++ rest) →
      (state.takeFault .version .read).1 = .none →
        (Capabilities.detect.run.run Scripted.driver state).value = .ok capabilities →
          capabilities.version = version

/-- The longest text of three bytes has eleven characters, so a cut behind the twelfth leaves every
digit in place, and what detection reads is enough. -/
theorem restored (short : version.minor.toNat ≤ 255) (undigited : Undigited rest) :
    version.Restored rest := by
  have excerpt := parse_take_text short undigited
  have detected {trace : Trace} {capabilities : Capabilities}
      (detects : Capabilities.Detects trace (.ok capabilities))
      (read : trace.texts .version = [(Utf8.encode version.text ++ rest).take 12]) :
      capabilities.version = version := by
    obtain ⟨text, name, told⟩ := detects.exists_told
    obtain rfl := List.singleton_inj.mp (told.version_texts.symm.trans read)
    exact Except.ok.inj (told.version_parsed.symm.trans excerpt)
  constructor
  · rw [parse_text version undigited, if_pos short]
  · exact excerpt
  · intro trace capabilities produced read
    exact detected (Capabilities.Detects.of_produces produced) read
  · intro state capabilities file unfaulted succeeded
    obtain ⟨produced, answers⟩ := run_spec Scripted.driver Capabilities.detect.run state
    rw [succeeded] at produced
    have detects := Capabilities.Detects.of_produces produced
    refine detected detects ?_
    rw [Scripted.texts_of_detects detects answers unfaulted, file]
    rfl

/-- Versions of three bytes are read back from their texts, also by detection. Other versions have
texts that are refused, and no two versions have the same text. -/
theorem text_roundtrip :
    (∀ (major minor revision : UInt8) (rest : Bytes), Undigited rest →
      (ofParts major minor revision).Restored rest) ∧
    (∀ version : Version,
      (version.ShortMinor → parse (Utf8.encode version.text) = .ok version) ∧
      (¬ version.ShortMinor → parse (Utf8.encode version.text) = .error .transferFailed)) ∧
    ∀ version other : Version, version.text = other.text → version = other := by
  refine ⟨fun major minor revision rest undigited => ?_, fun version => ?_,
    fun _ _ => text_injective⟩
  · exact restored (shortMinor_iff.mp (shortMinor_ofParts major minor revision)) undigited
  · have parsed := version.parse_text undigited_nil
    rw [List.append_nil] at parsed
    rw [parsed, shortMinor_iff]
    exact ⟨fun short => if_pos short, fun long => if_neg long⟩

end Version

end ManagementUnit
