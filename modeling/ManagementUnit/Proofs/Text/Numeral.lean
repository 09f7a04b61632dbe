import ManagementUnit.Text.Ascii

/-!
# Numerals

A numeral is a run of digits, however long, behind any number of blanks. In a text it goes on as far
as there are digits, so the text that follows it must not begin with one.

* `Ascii.Numeral.append_inj` — a text begins with at most one numeral.
* `Ascii.exists_numeral` — it begins with one if there is a digit behind its blanks.
-/

namespace ManagementUnit.Ascii

/-! ### Bytes of a text -/

/-- The bytes that may stand before a number. -/
def Blank (byte : UInt8) : Prop :=
  byte ∈ ([0x09, 0x0A, 0x0C, 0x0D, 0x20] : Bytes)

/-- The bytes from `0` to `9`. -/
def Digit (byte : UInt8) : Prop :=
  0x30 ≤ byte ∧ byte ≤ 0x39

instance (byte : UInt8) : Decidable (Digit byte) :=
  inferInstanceAs (Decidable (_ ∧ _))

/-- A text that does not begin with a digit. -/
def Undigited (text : Bytes) : Prop :=
  ∀ byte ∈ text.head?, ¬ Digit byte

section Bytes

variable {byte : UInt8}

theorem isBlank_iff : isBlank byte = true ↔ Blank byte := by
  simp [isBlank, Blank, or_assoc]

theorem isBlank_eq_false_iff : isBlank byte = false ↔ ¬ Blank byte := by
  rw [← isBlank_iff, Bool.not_eq_true]

theorem isDigit_iff : isDigit byte = true ↔ Digit byte := by
  simp [isDigit, Digit]

theorem isDigit_eq_false_iff : isDigit byte = false ↔ ¬ Digit byte := by
  rw [← isDigit_iff, Bool.not_eq_true]

theorem Digit.not_blank (digit : Digit byte) : ¬ Blank byte := by
  obtain ⟨least, -⟩ := digit
  intro blank
  simp only [Blank, List.mem_cons, List.not_mem_nil, or_false] at blank
  rcases blank with rfl | rfl | rfl | rfl | rfl <;> revert least <;> decide

theorem undigited_nil : Undigited [] :=
  fun _ impossible => nomatch impossible

theorem undigited_cons {text : Bytes} (undigited : ¬ Digit byte) : Undigited (byte :: text) := by
  intro first isFirst
  cases isFirst
  exact undigited

theorem Undigited.take {text : Bytes} (undigited : Undigited text) (count : Nat) :
    Undigited (text.take count) := by
  cases text with
  | nil => rwa [List.take_nil]
  | cons byte text =>
      cases count with
      | zero => exact undigited_nil
      | succ count => exact undigited_cons (undigited byte rfl)

end Bytes

/-! ### Runs -/

section Runs

variable {p : UInt8 → Bool} {byte : UInt8} {run rest text : Bytes}

/-- A run ends where the text goes on with something else. -/
theorem takeWhile_run (all : ∀ byte ∈ run, p byte = true)
    (stops : ∀ byte ∈ rest.head?, p byte = false) : (run ++ rest).takeWhile p = run := by
  rw [List.takeWhile_append_of_pos all]
  cases rest with
  | nil => exact List.append_nil run
  | cons byte rest => rw [List.takeWhile_cons_of_neg (by simp [stops byte rfl]), List.append_nil]

theorem dropWhile_run (all : ∀ byte ∈ run, p byte = true)
    (stops : ∀ byte ∈ rest.head?, p byte = false) : (run ++ rest).dropWhile p = rest := by
  rw [List.dropWhile_append_of_pos all]
  cases rest with
  | nil => rfl
  | cons byte rest => rw [List.dropWhile_cons_of_neg (by simp [stops byte rfl])]

theorem eq_true_of_mem_takeWhile (member : byte ∈ text.takeWhile p) : p byte = true :=
  List.all_eq_true.mp List.all_takeWhile byte member

theorem eq_false_of_mem_head?_dropWhile (first : byte ∈ (text.dropWhile p).head?) :
    p byte = false := by
  have stopped := List.head?_dropWhile_not p text
  rw [Option.mem_def.mp first] at stopped
  exact stopped

theorem takeWhile_blanks (blanks : ∀ byte ∈ run, Blank byte)
    (unblanked : ∀ byte ∈ rest.head?, ¬ Blank byte) : (run ++ rest).takeWhile isBlank = run :=
  takeWhile_run (fun byte member => isBlank_iff.mpr (blanks byte member))
    fun byte first => isBlank_eq_false_iff.mpr (unblanked byte first)

theorem dropWhile_blanks (blanks : ∀ byte ∈ run, Blank byte)
    (unblanked : ∀ byte ∈ rest.head?, ¬ Blank byte) : (run ++ rest).dropWhile isBlank = rest :=
  dropWhile_run (fun byte member => isBlank_iff.mpr (blanks byte member))
    fun byte first => isBlank_eq_false_iff.mpr (unblanked byte first)

theorem takeWhile_digits (digits : ∀ byte ∈ run, Digit byte) (undigited : Undigited rest) :
    (run ++ rest).takeWhile isDigit = run :=
  takeWhile_run (fun byte member => isDigit_iff.mpr (digits byte member))
    fun byte first => isDigit_eq_false_iff.mpr (undigited byte first)

theorem dropWhile_digits (digits : ∀ byte ∈ run, Digit byte) (undigited : Undigited rest) :
    (run ++ rest).dropWhile isDigit = rest :=
  dropWhile_run (fun byte member => isDigit_iff.mpr (digits byte member))
    fun byte first => isDigit_eq_false_iff.mpr (undigited byte first)

theorem undigited_dropWhile (text : Bytes) : Undigited (text.dropWhile isDigit) :=
  fun _ first => isDigit_eq_false_iff.mp (eq_false_of_mem_head?_dropWhile first)

end Runs

/-! ### Numerals -/

/-- Blanks and digits behind them. -/
@[ext] structure Numeral where
  blanks : Bytes
  digits : Bytes
  blank : ∀ byte ∈ blanks, Blank byte
  digit : ∀ byte ∈ digits, Digit byte
  nonempty : digits ≠ []

namespace Numeral

/-- The bytes of a numeral. -/
def text (numeral : Numeral) : Bytes :=
  numeral.blanks ++ numeral.digits

/-- The number that a numeral denotes. -/
def value (numeral : Numeral) : Nat :=
  number numeral.digits

theorem unblanked (numeral : Numeral) (rest : Bytes) :
    ∀ byte ∈ (numeral.digits ++ rest).head?, ¬ Blank byte := by
  intro byte first
  cases listed : numeral.digits with
  | nil => exact absurd listed numeral.nonempty
  | cons digit digits =>
      rw [listed] at first
      cases first
      have member : byte ∈ numeral.digits := by simp [listed]
      exact (numeral.digit byte member).not_blank

theorem dropWhile_isBlank (numeral : Numeral) (rest : Bytes) :
    (numeral.text ++ rest).dropWhile isBlank = numeral.digits ++ rest := by
  rw [text, List.append_assoc, dropWhile_blanks numeral.blank (numeral.unblanked rest)]

theorem takeWhile_isBlank (numeral : Numeral) (rest : Bytes) :
    (numeral.text ++ rest).takeWhile isBlank = numeral.blanks := by
  rw [text, List.append_assoc, takeWhile_blanks numeral.blank (numeral.unblanked rest)]

/-- A text begins with at most one numeral. -/
theorem append_inj {first second : Numeral} {after next : Bytes} (undigited : Undigited after)
    (also : Undigited next) (same : first.text ++ after = second.text ++ next) :
    first = second ∧ after = next := by
  have digits : first.digits ++ after = second.digits ++ next := by
    rw [← dropWhile_isBlank, same, dropWhile_isBlank]
  constructor
  · apply Numeral.ext
    · rw [← first.takeWhile_isBlank after, same, takeWhile_isBlank]
    · rw [← takeWhile_digits first.digit undigited, digits, takeWhile_digits second.digit also]
  · rw [← dropWhile_digits first.digit undigited, digits, dropWhile_digits second.digit also]

end Numeral

/-- A text begins with a numeral if there is a digit behind its blanks. -/
theorem exists_numeral (text : Bytes)
    (nonempty : (text.dropWhile isBlank).takeWhile isDigit ≠ []) :
    ∃ numeral : Numeral, numeral.digits = (text.dropWhile isBlank).takeWhile isDigit ∧
      text = numeral.text ++ (text.dropWhile isBlank).dropWhile isDigit := by
  refine ⟨⟨text.takeWhile isBlank, _, fun byte member => ?_, fun byte member => ?_,
    nonempty⟩, rfl, ?_⟩
  · exact isBlank_iff.mp (eq_true_of_mem_takeWhile member)
  · exact isDigit_iff.mp (eq_true_of_mem_takeWhile member)
  · rw [Numeral.text, List.append_assoc, List.takeWhile_append_dropWhile,
      List.takeWhile_append_dropWhile]

end ManagementUnit.Ascii
