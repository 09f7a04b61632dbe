import ManagementUnit.Proofs.Codename.Spelling
import ManagementUnit.Proofs.Detection.Texts
import ManagementUnit.Proofs.Version.Spelling

/-!
# Excerpts of the descriptive files

Of the version at most twelve bytes are read, and of the codename at most three. An excerpt that is
accepted tells the same as the whole file: the grammars let anything come after the last number, so
all that matters is that the number itself is not cut in two.

* `Version.parse_of_parse_take`, `Codename.parse_of_parse_take` — a text and its first bytes.
* `Capabilities.excerpts_suffice` — the files, and what was detected from excerpts of them.
-/

namespace ManagementUnit

open Dialogue

namespace Ascii

/-- There are digits on both sides of a cut. -/
def Splits (text : Bytes) (cut : Nat) : Prop :=
  ∃ before after, 0 < cut ∧ text[cut - 1]? = some before ∧ text[cut]? = some after ∧
    Digit before ∧ Digit after

/-- A number before a cut does not go on behind it, unless the cut is between two digits. -/
theorem undigited_append_drop {text front digits rest : Bytes} {cut : Nat}
    (taken : text.take cut = front ++ (digits ++ rest)) (nonempty : digits ≠ [])
    (digit : ∀ byte ∈ digits, Digit byte) (undigited : Undigited rest)
    (unsplit : ¬ Splits text cut) : Undigited (rest ++ text.drop cut) := by
  cases rest with
  | cons byte rest => exact fun first isFirst => undigited first isFirst
  | nil =>
      -- The digits end at the cut, so the last of them is the byte before it.
      intro after isAfter goesOn
      rw [List.nil_append, List.head?_drop, Option.mem_def] at isAfter
      rw [List.append_nil] at taken
      have inside : cut < text.length := (List.getElem?_eq_some_iff.mp isAfter).1
      have length : (text.take cut).length = cut := List.length_take_of_le (Nat.le_of_lt inside)
      have positive : 0 < cut := by
        have some := List.length_pos_iff.mpr nonempty
        rw [← length, taken, List.length_append]
        omega
      have before : text[cut - 1]? = some (digits.getLast nonempty) := by
        calc text[cut - 1]? = (text.take cut)[cut - 1]? :=
              (List.getElem?_take_of_lt (by omega)).symm
          _ = (text.take cut).getLast? := by rw [List.getLast?_eq_getElem?, length]
          _ = some (digits.getLast nonempty) := by
              rw [taken, List.getLast?_append, List.getLast?_eq_some_getLast nonempty]
              rfl
      have member := List.getLast_mem nonempty
      exact unsplit ⟨_, after, positive, before, isAfter, digit _ member, goesOn⟩

end Ascii

open Ascii

variable {text : Bytes} {cut : Nat}

namespace Version

/-- A spelling with more text behind it. -/
def Spelling.append (spelling : Spelling) (more : Bytes)
    (undigited : Undigited (spelling.rest ++ more)) : Spelling :=
  { spelling with rest := spelling.rest ++ more, undigited }

theorem Spelling.text_append (spelling : Spelling) (more : Bytes)
    (undigited : Undigited (spelling.rest ++ more)) :
    (spelling.append more undigited).text = spelling.text ++ more := by
  simp [append, text]

/-- A version that a text's first bytes spell is the version that it spells. -/
theorem parse_of_parse_take {version : Version} (unsplit : ¬ Splits text cut)
    (parsed : parse (text.take cut) = .ok version) : parse text = .ok version := by
  obtain ⟨spelling, major, minor, revision, spelled, denoted, rfl⟩ := parse_eq_ok_iff.mp parsed
  have ended : text.take cut =
      (spelling.first.text ++ 0x2E :: (spelling.second.text ++ 0x2E :: spelling.third.blanks)) ++
        (spelling.third.digits ++ spelling.rest) := by
    rw [spelled]
    simp [Spelling.text, Numeral.text]
  have undigited := undigited_append_drop ended spelling.third.nonempty spelling.third.digit
    spelling.undigited unsplit
  refine parse_eq_ok_iff.mpr
    ⟨spelling.append (text.drop cut) undigited, major, minor, revision, ?_, denoted, rfl⟩
  rw [Spelling.text_append, ← spelled, List.take_append_drop]

/-- A number that is cut in two spells another version. -/
example :
    parse ([0x31, 0x2E, 0x31, 0x2E, 0x31, 0x32, 0x33].take 6) = .ok (.ofParts 1 1 12) ∧
      parse [0x31, 0x2E, 0x31, 0x2E, 0x31, 0x32, 0x33] = .ok (.ofParts 1 1 123) :=
  ⟨rfl, rfl⟩

end Version

namespace Codename

/-- A spelling with more text behind it. There have to be digits before that text, or it could go on
with blanks or a sign. -/
def Spelling.append (spelling : Spelling) (more : Bytes) (nonempty : spelling.digits ≠ [])
    (undigited : Undigited (spelling.rest ++ more)) : Spelling :=
  have head?_eq (rest : Bytes) : (spelling.digits ++ rest).head? = spelling.digits.head? := by
    cases listed : spelling.digits with
    | nil => exact absurd listed nonempty
    | cons digit digits => rfl
  { spelling with
    rest := spelling.rest ++ more
    visible := by
      have visible := spelling.visible
      rw [List.head?_append, head?_eq] at visible ⊢
      exact visible
    unsigned := fun absent => by
      have unsigned := spelling.unsigned absent
      unfold Unsigned at unsigned ⊢
      rw [head?_eq] at unsigned ⊢
      exact unsigned
    undigited }

theorem Spelling.text_append (spelling : Spelling) (more : Bytes)
    (nonempty : spelling.digits ≠ []) (undigited : Undigited (spelling.rest ++ more)) :
    (spelling.append more nonempty undigited).text = spelling.text ++ more := by
  simp [append, text]

/-- A family that a text's first bytes name is the family that it names. -/
theorem parse_of_parse_take {codename : Codename} (unsplit : ¬ Splits text cut)
    (parsed : parse (text.take cut) = .ok codename) : parse text = .ok codename := by
  obtain ⟨spelling, spelled⟩ := exists_spelling (text.take cut)
  rw [spelled] at parsed
  have denoted := parse_spelling_eq_ok_iff.mp parsed
  have nonempty : spelling.digits ≠ [] := by
    intro nothing
    have zero : spelling.value = 0 := by rw [Spelling.value, nothing]; rfl
    omega
  have ended : text.take cut =
      (spelling.blanks ++ spelling.sign.text) ++ (spelling.digits ++ spelling.rest) := by
    rw [spelled, Spelling.text, List.append_assoc]
  have undigited := undigited_append_drop ended nonempty spelling.digit spelling.undigited unsplit
  have whole : text = (spelling.append (text.drop cut) nonempty undigited).text := by
    rw [Spelling.text_append, ← spelled, List.take_append_drop]
  rw [whole]
  exact parse_spelling_eq_ok_iff.mpr denoted

end Codename

/-! ### Detection -/

namespace Capabilities

open Simulation

/-- The capabilities are those that the files denote, unless a number was cut in two. -/
structure Vouched (capabilities : Capabilities) (trace : Trace) (version codename : Bytes) :
    Prop where
  version : ∃ count ≤ 12, trace.texts .version = [version.take count] ∧
    (¬ Splits version count → Version.parse version = .ok capabilities.version)
  codename : ∃ count ≤ 3, trace.texts .codename = [codename.take count] ∧
    (¬ Splits codename count → Codename.parse codename = .ok capabilities.codename)

/-- Detection reads a front of each file, so what it was told is what the whole file denotes. -/
theorem Told.vouched {capabilities : Capabilities} {trace : Trace}
    {excerpt name version codename : Bytes} (told : capabilities.Told trace excerpt name)
    (front : excerpt <+: version) (also : name <+: codename) :
    capabilities.Vouched trace version codename := by
  have excerpted := List.prefix_iff_eq_take.mp front
  have named := List.prefix_iff_eq_take.mp also
  constructor
  · refine ⟨excerpt.length, told.version_length, ?_, fun unsplit => ?_⟩
    · rw [← excerpted, told.version_texts]
    · exact Version.parse_of_parse_take unsplit (by rw [← excerpted, told.version_parsed])
  · refine ⟨name.length, told.codename_length, ?_, fun unsplit => ?_⟩
    · rw [← named, told.codename_texts]
    · exact Codename.parse_of_parse_take unsplit (by rw [← named, told.codename_parsed])

/-- What the first bytes of a text are accepted as is what the text is accepted as, unless the cut
is between two digits. So whatever driver serves the files, and however little of them it delivers,
what is detected is what they denote. -/
theorem excerpts_suffice :
    (∀ (text : Bytes) (cut : Nat) (version : Version), ¬ Splits text cut →
      Version.parse (text.take cut) = .ok version → Version.parse text = .ok version) ∧
    (∀ (text : Bytes) (cut : Nat) (codename : Codename), ¬ Splits text cut →
      Codename.parse (text.take cut) = .ok codename → Codename.parse text = .ok codename) ∧
    (∀ (trace : Trace) (capabilities : Capabilities) (version codename : Bytes),
      detect.run.Produces trace (.ok capabilities) →
      (∀ excerpt ∈ trace.texts .version, excerpt <+: version) →
      (∀ excerpt ∈ trace.texts .codename, excerpt <+: codename) →
        capabilities.Vouched trace version codename) ∧
    ∀ (state : Scripted) (capabilities : Capabilities) (version codename : Bytes),
      (detect.run.run Scripted.driver state).value = .ok capabilities →
      state.files .version = some version → state.files .codename = some codename →
        capabilities.Vouched (detect.run.run Scripted.driver state).trace version codename := by
  refine ⟨fun _ _ _ => Version.parse_of_parse_take, fun _ _ _ => Codename.parse_of_parse_take,
    ?_, ?_⟩
  · intro trace capabilities version codename produced fronts names
    obtain ⟨excerpt, name, told⟩ := (Detects.of_produces produced).exists_told
    exact told.vouched (fronts excerpt (by simp [told.version_texts]))
      (names name (by simp [told.codename_texts]))
  · intro state capabilities version codename detected versions codenames
    obtain ⟨produced, answers⟩ := run_spec Scripted.driver detect.run state
    rw [detected] at produced
    obtain ⟨excerpt, name, told⟩ := (Detects.of_produces produced).exists_told
    have front : excerpt <+: (state.files .version).getD [] :=
      Scripted.prefix_of_mem_texts (by decide) answers (by simp [told.version_texts])
    have also : name <+: (state.files .codename).getD [] :=
      Scripted.prefix_of_mem_texts (by decide) answers (by simp [told.codename_texts])
    rw [versions] at front
    rw [codenames] at also
    exact told.vouched front also

/-- The version 46.54.0 and the family 4, each in a file with a remark after it. -/
def remarkedVersion : Bytes := [0x34, 0x36, 0x2E, 0x35, 0x34, 0x2E, 0x30, 0x0A, 0x72, 0x31, 0x37]

def remarkedCodename : Bytes := [0x34, 0x0A, 0x72, 0x31, 0x37]

/-- A driver with these files that delivers only seven bytes of the version. -/
def remarked : Scripted :=
  ((Scripted.initial.apply (.setFile .version remarkedVersion)).apply
    (.setFile .codename remarkedCodename)).apply (.addFaults .version .read [.short 4])

/-- Neither excerpt ends between two digits, and each stands for its whole text: a version cut
behind its last digit, and a family number cut inside the remark behind it. -/
theorem excerpts_suffice_remarked :
    ¬ Splits remarkedVersion 7 ∧
      Version.parse (remarkedVersion.take 7) = .ok (.ofParts 46 54 0) ∧
      Version.parse remarkedVersion = .ok (.ofParts 46 54 0) ∧
      ¬ Splits remarkedCodename 3 ∧
      Codename.parse (remarkedCodename.take 3) = .ok .matisse ∧
      Codename.parse remarkedCodename = .ok .matisse ∧
      (detect.run.run Scripted.driver remarked).value = .ok ⟨.ofParts 46 54 0, .matisse, .none⟩ ∧
      Vouched ⟨.ofParts 46 54 0, .matisse, .none⟩ (detect.run.run Scripted.driver remarked).trace
        remarkedVersion remarkedCodename := by
  have unsplit : ¬ Splits remarkedVersion 7 := by
    rintro ⟨before, after, -, -, behind, -, digit⟩
    cases behind
    exact absurd digit (by decide)
  have whole : ¬ Splits remarkedCodename 3 := by
    rintro ⟨before, after, -, front, -, digit, -⟩
    cases front
    exact absurd digit (by decide)
  have accepted : Version.parse (remarkedVersion.take 7) = .ok (.ofParts 46 54 0) := rfl
  have named : Codename.parse (remarkedCodename.take 3) = .ok .matisse := rfl
  have detected : (detect.run.run Scripted.driver remarked).value =
      .ok ⟨.ofParts 46 54 0, .matisse, .none⟩ := rfl
  obtain ⟨versions, codenames, -, detections⟩ := excerpts_suffice
  exact ⟨unsplit, accepted, versions _ 7 _ unsplit accepted, whole, named,
    codenames _ 3 _ whole named, detected, detections remarked _ _ _ detected rfl rfl⟩

end Capabilities

end ManagementUnit
