import ManagementUnit.Proofs.Detection
import ManagementUnit.Proofs.Text.Numeral

/-!
# Spellings of a codename

`Codename.Spelling` cuts a text as a signed number is read: all its blanks first, then a sign if
there is one, then all the digits that follow at once. The digits may be none or very many.

* `Codename.exists_spelling` — every text can be cut so.
* `Codename.parse_spelling` — the number alone decides, unless there is a minus.
* `Codename.parse_signed` — parsing names the families of the numbers from one to ten.
-/

namespace ManagementUnit.Codename

open Ascii

/-! ### Families and their numbers -/

theorem ofNumber_eq_ok_iff {number : UInt32} {codename : Codename} :
    ofNumber number = .ok codename ↔ codename.number = number ∧ 1 ≤ number ∧ number ≤ 10 := by
  constructor
  · intro named
    obtain rfl := number_of_ofNumber named
    exact ⟨rfl, number_of_mem_families (mem_families_of_ofNumber named)⟩
  · rintro ⟨rfl, least, -⟩
    apply ofNumber_number
    cases codename with
    | undefined => exact absurd least (by decide)
    | _ => decide

/-- Each number from one to ten is the number of a family. -/
theorem exists_number_eq {value : Nat} (least : 1 ≤ value) (most : value ≤ 10) :
    ∃ codename : Codename, codename.number.toNat = value := by
  match value, least, most with
  | 1, _, _ => exact ⟨.colfax, rfl⟩
  | 2, _, _ => exact ⟨.renoir, rfl⟩
  | 3, _, _ => exact ⟨.picasso, rfl⟩
  | 4, _, _ => exact ⟨.matisse, rfl⟩
  | 5, _, _ => exact ⟨.threadripper, rfl⟩
  | 6, _, _ => exact ⟨.castlePeak, rfl⟩
  | 7, _, _ => exact ⟨.ravenRidge, rfl⟩
  | 8, _, _ => exact ⟨.ravenRidge2, rfl⟩
  | 9, _, _ => exact ⟨.summitRidge, rfl⟩
  | 10, _, _ => exact ⟨.pinnacleRidge, rfl⟩

/-! ### Spellings -/

/-- What may stand between the blanks and the digits. -/
inductive Sign where
  | absent
  | plus
  | minus
deriving DecidableEq, Repr

/-- The bytes of a sign. -/
def Sign.text : Sign → Bytes
  | .absent => []
  | .plus => [0x2B]
  | .minus => [0x2D]

/-- A text that does not begin with a sign. -/
def Unsigned (text : Bytes) : Prop :=
  ∀ byte ∈ text.head?, byte ≠ 0x2B ∧ byte ≠ 0x2D

/-- A text as a signed number is read from it. Blanks, sign and digits each go on as far as they
can. -/
structure Spelling where
  blanks : Bytes
  sign : Sign
  digits : Bytes
  rest : Bytes
  blank : ∀ byte ∈ blanks, Blank byte
  visible : ∀ byte ∈ (sign.text ++ (digits ++ rest)).head?, ¬ Blank byte
  unsigned : sign = .absent → Unsigned (digits ++ rest)
  digit : ∀ byte ∈ digits, Digit byte
  undigited : Undigited rest

namespace Spelling

/-- The bytes of a spelling. -/
def text (spelling : Spelling) : Bytes :=
  spelling.blanks ++ (spelling.sign.text ++ (spelling.digits ++ spelling.rest))

/-- The number of a spelling without its sign, zero if there are no digits. -/
def value (spelling : Spelling) : Nat :=
  Ascii.number spelling.digits

end Spelling

variable {text : Bytes}

/-- A sign is split off if there is one. -/
theorem sign_text (sign : Sign) (unsigned : sign = .absent → Unsigned text) :
    Codename.sign (sign.text ++ text) = (sign == .minus, text) := by
  cases sign with
  | plus | minus => rfl
  | absent =>
      change Codename.sign text = (false, text)
      unfold Codename.sign
      split
      · exact absurd rfl (unsigned rfl 0x2D rfl).2
      · exact absurd rfl (unsigned rfl 0x2B rfl).1
      · rfl

theorem unsigned_cons {byte : UInt8} (plus : byte ≠ 0x2B) (minus : byte ≠ 0x2D) :
    Unsigned (byte :: text) := by
  intro first isFirst
  cases isFirst
  exact ⟨plus, minus⟩

theorem exists_sign (text : Bytes) : ∃ (sign : Sign) (rest : Bytes),
    text = sign.text ++ rest ∧ (sign = .absent → Unsigned rest) := by
  cases text with
  | nil => exact ⟨.absent, [], rfl, fun _ _ impossible => nomatch impossible⟩
  | cons byte rest =>
      by_cases plus : byte = 0x2B
      · exact ⟨.plus, rest, by rw [plus]; rfl, fun impossible => nomatch impossible⟩
      · by_cases minus : byte = 0x2D
        · exact ⟨.minus, rest, by rw [minus]; rfl, fun impossible => nomatch impossible⟩
        · exact ⟨.absent, byte :: rest, rfl, fun _ => unsigned_cons plus minus⟩

/-- Every text can be cut into blanks, sign, digits and a rest. -/
theorem exists_spelling (text : Bytes) : ∃ spelling : Spelling, text = spelling.text := by
  obtain ⟨sign, rest, split, unsigned⟩ := exists_sign (text.dropWhile isBlank)
  have whole : rest.takeWhile isDigit ++ rest.dropWhile isDigit = rest :=
    List.takeWhile_append_dropWhile
  refine ⟨⟨text.takeWhile isBlank, sign, rest.takeWhile isDigit, rest.dropWhile isDigit,
    fun byte member => ?_, fun byte first => ?_, ?_, fun byte member => ?_,
    undigited_dropWhile rest⟩, ?_⟩
  · exact isBlank_iff.mp (eq_true_of_mem_takeWhile member)
  · rw [whole, ← split] at first
    exact isBlank_eq_false_iff.mp (eq_false_of_mem_head?_dropWhile first)
  · rw [whole]
    exact unsigned
  · exact isDigit_iff.mp (eq_true_of_mem_takeWhile member)
  · change text = text.takeWhile isBlank ++
      (sign.text ++ (rest.takeWhile isDigit ++ rest.dropWhile isDigit))
    rw [whole, ← split, List.takeWhile_append_dropWhile]

/-! ### Parsing -/

/-- The number alone decides, unless there is a minus: minus zero is zero, which is no family. -/
theorem parse_spelling (spelling : Spelling) :
    parse spelling.text =
      if spelling.sign = .minus then .error .unsupported
      else ofNumber (saturate spelling.digits) := by
  unfold parse
  rw [Spelling.text, dropWhile_blanks spelling.blank spelling.visible,
    sign_text spelling.sign spelling.unsigned]
  dsimp only
  rw [takeWhile_digits spelling.digit spelling.undigited]
  by_cases minus : spelling.sign = .minus
  · rw [if_pos minus]
    by_cases zero : saturate spelling.digits = 0
    · rw [if_neg (by simp [zero]), zero]
      rfl
    · rw [if_pos (by simp [minus, zero])]
  · rw [if_neg minus, if_neg (by simp [minus])]

/-- The accumulated word tells the numbers of families from all others. -/
theorem saturate_bounds {digits : Bytes} :
    1 ≤ saturate digits ∧ saturate digits ≤ 10 ↔
      1 ≤ Ascii.number digits ∧ Ascii.number digits ≤ 10 := by
  rw [UInt32.le_iff_toNat_le, UInt32.le_iff_toNat_le, toNat_saturate]
  change 1 ≤ min (Ascii.number digits) 0xFFFFFFFF ∧ min (Ascii.number digits) 0xFFFFFFFF ≤ 10 ↔ _
  omega

/-- The saturated number that parsing looks up is the true one as far as the families go. -/
theorem parse_spelling_eq_ok_iff {spelling : Spelling} {codename : Codename} :
    parse spelling.text = .ok codename ↔ spelling.sign ≠ .minus ∧ 1 ≤ spelling.value ∧
      spelling.value ≤ 10 ∧ codename.number.toNat = spelling.value := by
  rw [parse_spelling]
  by_cases minus : spelling.sign = .minus
  · simp [minus]
  · rw [if_neg minus, ofNumber_eq_ok_iff, saturate_bounds, ← UInt32.toNat_inj, toNat_saturate,
      Spelling.value]
    constructor
    · rintro ⟨same, least, most⟩
      exact ⟨minus, least, most, by omega⟩
    · rintro ⟨-, least, most, same⟩
      exact ⟨by omega, least, most⟩

theorem parse_spelling_eq_error {spelling : Spelling}
    (foreign : spelling.sign = .minus ∨ ¬ (1 ≤ spelling.value ∧ spelling.value ≤ 10)) :
    parse spelling.text = .error .unsupported := by
  cases outcome : parse spelling.text with
  | ok codename =>
      obtain ⟨sign, least, most, -⟩ := parse_spelling_eq_ok_iff.mp outcome
      rcases foreign with minus | outside
      · exact absurd minus sign
      · exact absurd ⟨least, most⟩ outside
  | error error => rw [error_of_parse outcome]

/-- Behind the blanks and the sign nothing but a digit is read. -/
theorem parse_of_not_digit {blanks rest : Bytes} {byte : UInt8} {sign : Sign}
    (blank : ∀ byte ∈ blanks, Blank byte)
    (foreign : sign = .absent → ¬ Blank byte ∧ byte ≠ 0x2B ∧ byte ≠ 0x2D)
    (undigited : ¬ Digit byte) :
    parse (blanks ++ (sign.text ++ byte :: rest)) = .error .unsupported := by
  have visible : ∀ first ∈ (sign.text ++ ([] ++ byte :: rest)).head?, ¬ Blank first := by
    intro first isFirst
    cases sign with
    | absent =>
        cases isFirst
        exact (foreign rfl).1
    | plus | minus =>
        cases isFirst
        exact isBlank_eq_false_iff.mp rfl
  have unsigned (absent : sign = .absent) : Unsigned ([] ++ byte :: rest) :=
    unsigned_cons (foreign absent).2.1 (foreign absent).2.2
  let spelling : Spelling :=
    ⟨blanks, sign, [], byte :: rest, blank, visible, unsigned, List.forall_mem_nil _,
      undigited_cons undigited⟩
  have zero : spelling.value = 0 := rfl
  have refused : parse spelling.text = .error .unsupported :=
    parse_spelling_eq_error (Or.inr (by omega))
  exact refused

/-! ### Decision -/

/-- What parsing makes of a text. Every text is spelled by blanks, a sign, digits and a rest, and
any of its spellings decides: without a minus, a number from one to ten names the family that has
it, and there is such a family. A minus is refused even before a zero, and so is any other number
and a text without digits.

Between a sign and its number there is no second sign, no blank and nothing else; where there is no
sign, nothing but blanks is skipped, and a vertical tab is no blank. -/
structure Decides (text : Bytes) : Prop where
  spelled : ∃ spelling : Spelling, text = spelling.text
  ok_iff : ∀ spelling : Spelling, text = spelling.text → ∀ codename : Codename,
    parse text = .ok codename ↔ spelling.sign ≠ .minus ∧ 1 ≤ spelling.value ∧
      spelling.value ≤ 10 ∧ codename.number.toNat = spelling.value
  named : ∀ spelling : Spelling, text = spelling.text → spelling.sign ≠ .minus →
    1 ≤ spelling.value → spelling.value ≤ 10 →
      ∃ codename, parse text = .ok codename ∧ codename.number.toNat = spelling.value
  refused : ∀ spelling : Spelling, text = spelling.text →
    (spelling.sign = .minus ∨ spelling.digits = [] ∨ spelling.value = 0 ∨ 11 ≤ spelling.value) →
      parse text = .error .unsupported
  interrupted : ∀ (blanks : Bytes) (sign : Sign) (byte : UInt8) (rest : Bytes),
    (∀ byte ∈ blanks, Blank byte) →
      (sign = .absent → ¬ Blank byte ∧ byte ≠ 0x2B ∧ byte ≠ 0x2D) → ¬ Digit byte →
        text = blanks ++ (sign.text ++ byte :: rest) → parse text = .error .unsupported

/-- The families that are read are those with the numbers that the texts spell. -/
theorem parse_signed (text : Bytes) : Decides text where
  spelled := exists_spelling text
  ok_iff spelling spelled codename := by
    rw [spelled]
    exact parse_spelling_eq_ok_iff
  named spelling spelled positive least most := by
    obtain ⟨codename, number⟩ := exists_number_eq least most
    refine ⟨codename, ?_, number⟩
    rw [spelled]
    exact parse_spelling_eq_ok_iff.mpr ⟨positive, least, most, number⟩
  refused spelling spelled foreign := by
    rw [spelled]
    apply parse_spelling_eq_error
    rcases foreign with minus | nothing | zero | large
    · exact Or.inl minus
    · have zero : spelling.value = 0 := by rw [Spelling.value, nothing]; rfl
      exact Or.inr (by omega)
    · exact Or.inr (by omega)
    · exact Or.inr (by omega)
  interrupted _ _ _ _ blank foreign undigited spelled := by
    rw [spelled]
    exact parse_of_not_digit blank foreign undigited

end ManagementUnit.Codename
