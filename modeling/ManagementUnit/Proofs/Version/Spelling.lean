import ManagementUnit.Proofs.Detection
import ManagementUnit.Proofs.Text.Numeral

/-!
# Spellings of a version

`Version.Spelling` is the grammar of version texts: three numerals with dots between them, and then
anything that is no further digit. The numbers may be of any size; a version is what a spelling of
three bytes denotes.

* `Version.component?_eq_some_iff` — what is read as a component.
* `Version.Spelling.text_injective` — a text has at most one spelling.
* `Version.parse_grammar` — parsing accepts the spellings of three bytes and nothing else.
-/

namespace ManagementUnit

namespace Ascii

variable {digits : Bytes}

/-- The accumulated word tells the numbers of bytes from all larger ones. -/
theorem lt_saturate_iff : 255 < saturate digits ↔ 255 < number digits := by
  rw [UInt32.lt_iff_toNat_lt, toNat_saturate]
  change 255 < min (number digits) 0xFFFFFFFF ↔ 255 < number digits
  omega

theorem toUInt8_saturate (small : ¬ 255 < number digits) :
    (saturate digits).toUInt8 = UInt8.ofNat (number digits) := by
  apply UInt8.toNat_inj.mp
  rw [UInt32.toNat_toUInt8, toNat_saturate, UInt8.toNat_ofNat']
  omega

end Ascii

namespace Version

open Ascii

/-! ### Components -/

section Components

variable {text rest : Bytes} {part : UInt8}

/-- A numeral is read as a component by the number that it denotes, however long it is. -/
theorem component?_numeral (numeral : Numeral) (undigited : Undigited rest) :
    component? (numeral.text ++ rest) =
      if 255 < numeral.value then none else some (UInt8.ofNat numeral.value, rest) := by
  have nonempty : numeral.digits.isEmpty = false := by
    simpa [List.isEmpty_eq_false_iff] using numeral.nonempty
  unfold component?
  simp only [numeral.dropWhile_isBlank, takeWhile_digits numeral.digit undigited,
    dropWhile_digits numeral.digit undigited, nonempty, Bool.false_or, decide_eq_true_eq]
  by_cases large : 255 < numeral.value
  · rw [if_pos (lt_saturate_iff.mpr large), if_pos large]
  · rw [if_neg (mt lt_saturate_iff.mp large), if_neg large, toUInt8_saturate large, Numeral.value]

/-- A component is the longest numeral at the front. What stands behind it cannot begin with a
digit, and its value fits a byte. -/
theorem component?_eq_some_iff :
    component? text = some (part, rest) ↔
      ∃ numeral : Numeral, text = numeral.text ++ rest ∧ Undigited rest ∧
        numeral.value = part.toNat := by
  constructor
  · intro read
    by_cases nothing : (text.dropWhile isBlank).takeWhile isDigit = []
    · unfold component? at read
      simp [nothing] at read
    · obtain ⟨numeral, -, spelled⟩ := exists_numeral text nothing
      have undigited := undigited_dropWhile (text.dropWhile isBlank)
      rw [spelled, component?_numeral numeral undigited] at read
      split at read
      · cases read
      · cases read
        refine ⟨numeral, spelled, undigited, ?_⟩
        rw [UInt8.toNat_ofNat']
        omega
  · rintro ⟨numeral, rfl, undigited, denoted⟩
    have small := part.toNat_lt
    rw [component?_numeral numeral undigited, if_neg (by omega), denoted, UInt8.ofNat_toNat]

theorem afterDot?_eq_some_iff : afterDot? text = some rest ↔ text = 0x2E :: rest := by
  unfold afterDot?
  split
  · simp
  · rename_i undotted
    constructor
    · intro impossible
      cases impossible
    · exact fun dotted => absurd dotted (undotted rest)

theorem undigited_dot (rest : Bytes) : Undigited (0x2E :: rest) :=
  undigited_cons (isDigit_eq_false_iff.mp rfl)

end Components

/-! ### Spellings -/

/-- Three numerals with dots between them, and whatever comes after. -/
@[ext] structure Spelling where
  first : Numeral
  second : Numeral
  third : Numeral
  rest : Bytes
  undigited : Undigited rest

namespace Spelling

/-- The bytes of a spelling. -/
def text (spelling : Spelling) : Bytes :=
  spelling.first.text ++ 0x2E ::
    (spelling.second.text ++ 0x2E :: (spelling.third.text ++ spelling.rest))

/-- The numbers of a spelling are those of three bytes. -/
def Denotes (spelling : Spelling) (major minor revision : UInt8) : Prop :=
  spelling.first.value = major.toNat ∧ spelling.second.value = minor.toNat ∧
    spelling.third.value = revision.toNat

/-- A text has at most one spelling. -/
theorem text_injective {spelling other : Spelling} (same : spelling.text = other.text) :
    spelling = other := by
  obtain ⟨first, after⟩ := Numeral.append_inj (undigited_dot _) (undigited_dot _) same
  obtain ⟨second, last⟩ :=
    Numeral.append_inj (undigited_dot _) (undigited_dot _) (List.tail_eq_of_cons_eq after)
  obtain ⟨third, rest⟩ :=
    Numeral.append_inj spelling.undigited other.undigited (List.tail_eq_of_cons_eq last)
  exact Spelling.ext first second third rest

end Spelling

/-! ### Parsing -/

variable {text : Bytes}

/-- Component by component, the three numerals and what is between them make a spelling. -/
theorem parse?_eq_some_iff {version : Version} :
    parse? text = some version ↔ ∃ (spelling : Spelling) (major minor revision : UInt8),
      text = spelling.text ∧ spelling.Denotes major minor revision ∧
        version = ofParts major minor revision := by
  simp only [parse?, Option.bind_eq_bind, Option.pure_def, Option.bind_eq_some_iff,
    component?_eq_some_iff, afterDot?_eq_some_iff, Option.some.injEq, Prod.exists]
  constructor
  · rintro ⟨major, -, ⟨first, rfl, -, majors⟩, -, rfl, minor, -, ⟨second, rfl, -, minors⟩, -, rfl,
      revision, rest, ⟨third, rfl, undigited, revisions⟩, rfl⟩
    exact ⟨⟨first, second, third, rest, undigited⟩, major, minor, revision, rfl,
      ⟨majors, minors, revisions⟩, rfl⟩
  · rintro ⟨spelling, major, minor, revision, rfl, ⟨majors, minors, revisions⟩, rfl⟩
    exact ⟨major, _, ⟨spelling.first, rfl, undigited_dot _, majors⟩, _, rfl,
      minor, _, ⟨spelling.second, rfl, undigited_dot _, minors⟩, _, rfl,
      revision, _, ⟨spelling.third, rfl, spelling.undigited, revisions⟩, rfl⟩

theorem parse_eq_ok_iff {version : Version} :
    parse text = .ok version ↔ ∃ (spelling : Spelling) (major minor revision : UInt8),
      text = spelling.text ∧ spelling.Denotes major minor revision ∧
        version = ofParts major minor revision :=
  elim_eq_ok_iff.trans parse?_eq_some_iff

/-- A text that spells no version is refused. -/
theorem parse_eq_error (unspelled : ∀ (spelling : Spelling) (major minor revision : UInt8),
    text = spelling.text → ¬ spelling.Denotes major minor revision) :
    parse text = .error .transferFailed := by
  cases outcome : parse text with
  | ok version =>
      obtain ⟨spelling, major, minor, revision, spelled, denoted, -⟩ :=
        parse_eq_ok_iff.mp outcome
      exact absurd denoted (unspelled spelling major minor revision spelled)
  | error error => rw [error_of_parse outcome]

/-- Versions of different components are different. -/
theorem ofParts_inj {major minor revision other middle last : UInt8}
    (same : ofParts major minor revision = ofParts other middle last) :
    major = other ∧ minor = middle ∧ revision = last := by
  have sums := congrArg (fun version => version.packed.toNat) same
  simp only [toNat_packed_ofParts] at sums
  have hminor := minor.toNat_lt
  have hmiddle := middle.toNat_lt
  have hrevision := revision.toNat_lt
  have hlast := last.toNat_lt
  refine ⟨UInt8.toNat_inj.mp ?_, UInt8.toNat_inj.mp ?_, UInt8.toNat_inj.mp ?_⟩ <;> omega

/-- What a text spells is decided by the numbers, however many digits they have. -/
theorem parse_spelling (spelling : Spelling) :
    parse spelling.text =
      if spelling.first.value ≤ 255 ∧ spelling.second.value ≤ 255 ∧ spelling.third.value ≤ 255 then
        .ok (ofParts (UInt8.ofNat spelling.first.value) (UInt8.ofNat spelling.second.value)
          (UInt8.ofNat spelling.third.value))
      else .error .transferFailed := by
  split
  · rename_i small
    obtain ⟨majors, minors, revisions⟩ := small
    refine parse_eq_ok_iff.mpr ⟨spelling, _, _, _, rfl, ⟨?_, ?_, ?_⟩, rfl⟩ <;>
      rw [UInt8.toNat_ofNat'] <;> omega
  · rename_i large
    refine parse_eq_error fun other major minor revision same denoted => large ?_
    obtain rfl := Spelling.text_injective same
    obtain ⟨majors, minors, revisions⟩ := denoted
    have hmajor := major.toNat_lt
    have hminor := minor.toNat_lt
    have hrevision := revision.toNat_lt
    omega

/-! ### What is refused -/

/-- Numerals with a dot after each, and then the rest of a text. -/
def dotted : List Numeral → Bytes → Bytes
  | [], rest => rest
  | numeral :: numerals, rest => numeral.text ++ 0x2E :: dotted numerals rest

/-- In a spelling there is a numeral at the front and after each of the dots, and the first two have
a dot behind them. -/
theorem Spelling.exists_numeral_of_dotted {spelling : Spelling} {numerals : List Numeral}
    {rest : Bytes} (few : numerals.length ≤ 2) (same : dotted numerals rest = spelling.text) :
    ∃ (numeral : Numeral) (next : Bytes), rest = numeral.text ++ next ∧ Undigited next ∧
      (numerals.length < 2 → next.head? = some 0x2E) := by
  match numerals, few, same with
  | [], _, same => exact ⟨spelling.first, _, same, undigited_dot _, fun _ => rfl⟩
  | [_], _, same =>
      obtain ⟨-, after⟩ := Numeral.append_inj (undigited_dot _) (undigited_dot _) same
      exact ⟨spelling.second, _, List.tail_eq_of_cons_eq after, undigited_dot _, fun _ => rfl⟩
  | [_, _], _, same =>
      obtain ⟨-, after⟩ := Numeral.append_inj (undigited_dot _) (undigited_dot _) same
      obtain ⟨-, last⟩ := Numeral.append_inj (undigited_dot _) (undigited_dot _)
        (List.tail_eq_of_cons_eq after)
      exact ⟨spelling.third, _, List.tail_eq_of_cons_eq last, spelling.undigited,
        fun impossible => absurd impossible (by simp)⟩

/-- Where a number has to begin, nothing but blanks and a digit is read. -/
theorem parse_dotted_of_not_digit {numerals : List Numeral} {blanks rest : Bytes} {byte : UInt8}
    (few : numerals.length ≤ 2) (blank : ∀ byte ∈ blanks, Blank byte) (visible : ¬ Blank byte)
    (undigited : ¬ Digit byte) :
    parse (dotted numerals (blanks ++ byte :: rest)) = .error .transferFailed := by
  refine parse_eq_error fun spelling _ _ _ same _ => ?_
  obtain ⟨numeral, next, split, -, -⟩ := spelling.exists_numeral_of_dotted few same
  have front : byte :: rest = numeral.digits ++ next := by
    rw [← numeral.dropWhile_isBlank, ← split, dropWhile_blanks blank]
    intro first isFirst
    cases isFirst
    exact visible
  cases listed : numeral.digits with
  | nil => exact numeral.nonempty listed
  | cons digit digits =>
      rw [listed] at front
      obtain ⟨rfl, -⟩ := List.cons.inj front
      exact undigited (numeral.digit byte (by simp [listed]))

/-- Where a dot has to stand, nothing else is read. -/
theorem parse_dotted_of_ne_dot {numerals : List Numeral} {numeral : Numeral} {rest : Bytes}
    {byte : UInt8} (few : numerals.length < 2) (undigited : ¬ Digit byte) (other : byte ≠ 0x2E) :
    parse (dotted numerals (numeral.text ++ byte :: rest)) = .error .transferFailed := by
  refine parse_eq_error fun spelling _ _ _ same _ => other ?_
  obtain ⟨found, next, split, after, dot⟩ := spelling.exists_numeral_of_dotted (by omega) same
  obtain ⟨-, rfl⟩ := Numeral.append_inj (undigited_cons undigited) after split
  exact Option.some.inj (dot few)

/-! ### Decision -/

/-- What parsing makes of a text. The versions that are read are those that the text spells, in one
way at most, and any other text counts as a failed transfer. A number is too large by its value, not
by its digits. No blank is allowed before a dot, and no number has a sign. -/
structure Decides (text : Bytes) : Prop where
  ok_iff : ∀ major minor revision : UInt8, parse text = .ok (ofParts major minor revision) ↔
    ∃ spelling : Spelling, text = spelling.text ∧ spelling.Denotes major minor revision
  refused : (∀ (spelling : Spelling) (major minor revision : UInt8), text = spelling.text →
    ¬ spelling.Denotes major minor revision) → parse text = .error .transferFailed
  unique : ∀ spelling other : Spelling, text = spelling.text → text = other.text →
    spelling = other
  large : ∀ spelling : Spelling, text = spelling.text → (255 < spelling.first.value ∨
    255 < spelling.second.value ∨ 255 < spelling.third.value) →
      parse text = .error .transferFailed
  undotted : ∀ (numerals : List Numeral) (numeral : Numeral) (blank : UInt8) (rest : Bytes),
    numerals.length < 2 → Blank blank → text = dotted numerals (numeral.text ++ blank :: rest) →
      parse text = .error .transferFailed
  signed : ∀ (numerals : List Numeral) (blanks : Bytes) (sign : UInt8) (rest : Bytes),
    numerals.length ≤ 2 → (∀ byte ∈ blanks, Blank byte) → sign = 0x2B ∨ sign = 0x2D →
      text = dotted numerals (blanks ++ sign :: rest) → parse text = .error .transferFailed

/-- A version is read from exactly the texts that spell three bytes. -/
theorem parse_grammar (text : Bytes) : Decides text where
  ok_iff major minor revision := by
    rw [parse_eq_ok_iff]
    constructor
    · rintro ⟨spelling, a, b, c, spelled, denoted, same⟩
      obtain ⟨rfl, rfl, rfl⟩ := ofParts_inj same
      exact ⟨spelling, spelled, denoted⟩
    · rintro ⟨spelling, spelled, denoted⟩
      exact ⟨spelling, major, minor, revision, spelled, denoted, rfl⟩
  refused := parse_eq_error
  unique _ _ spelled also := Spelling.text_injective (spelled.symm.trans also)
  large spelling spelled large := by
    rw [spelled, parse_spelling, if_neg (by omega)]
  undotted _ _ blank _ few isBlank spelled := by
    rw [spelled]
    exact parse_dotted_of_ne_dot few (fun digit => digit.not_blank isBlank) fun dot => by
      subst dot
      exact absurd (isBlank_iff.mpr isBlank) (by decide)
  signed _ _ sign _ few blanks isSign spelled := by
    rw [spelled]
    rcases isSign with rfl | rfl
    · exact parse_dotted_of_not_digit few blanks (isBlank_eq_false_iff.mp rfl)
        (isDigit_eq_false_iff.mp rfl)
    · exact parse_dotted_of_not_digit few blanks (isBlank_eq_false_iff.mp rfl)
        (isDigit_eq_false_iff.mp rfl)

end Version

end ManagementUnit
