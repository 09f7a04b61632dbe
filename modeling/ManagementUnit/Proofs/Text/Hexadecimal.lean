import Mathlib.Data.List.Basic
import ManagementUnit.Text.Hex

/-!
# Hexadecimal numerals

A number is shown by digits in lower case, with zeros in front only as far as a least width asks
for them. It is read back from what is shown.

* `Hex.numeral_toDigits` — the digits of a number are its numeral of width one.
* `Hex.Numeral.leftpad` — zeros in front make a numeral wider and keep the number.
* `Hex.digits_injective` — different numbers have different numerals.
* `Hex.lists_list`, `Hex.Lists.unique` — a list of bytes is written as one, and read back from it.
-/

namespace ManagementUnit.Hex

/-- The digits `0` to `9`, and `a` to `f` in lower case. -/
def Digit (char : Char) : Prop :=
  ('0' ≤ char ∧ char ≤ '9') ∨ ('a' ≤ char ∧ char ≤ 'f')

instance (char : Char) : Decidable (Digit char) :=
  inferInstanceAs (Decidable (_ ∨ _))

/-- What a digit counts. -/
def digitValue (char : Char) : Nat :=
  if char ≤ '9' then char.toNat - '0'.toNat else 10 + (char.toNat - 'a'.toNat)

/-- The number that a run of digits denotes. -/
def number (digits : List Char) : Nat :=
  digits.foldl (fun value digit => 16 * value + digitValue digit) 0

/-- The characters write a number in hexadecimal, with a least width. A zero in front is there for
the width only. -/
structure Numeral (width : Nat) (chars : List Char) (value : Nat) : Prop where
  digit : ∀ char ∈ chars, Digit char
  width_le : width ≤ chars.length
  tight : width < chars.length → chars.head? ≠ some '0'
  number_eq : number chars = value

variable {width value : Nat} {chars : List Char}

/-! ### Single digits -/

theorem digit_digitChar : ∀ value < 16, Digit (Nat.digitChar value) := by
  decide

theorem digitValue_digitChar : ∀ value < 16, digitValue (Nat.digitChar value) = value := by
  decide

theorem number_singleton (char : Char) : number [char] = digitValue char := by
  simp [number]

/-! ### Digits behind and zeros in front -/

theorem number_append_singleton (chars : List Char) (char : Char) :
    number (chars ++ [char]) = 16 * number chars + digitValue char := by
  simp [number, List.foldl_append]

theorem number_replicate_append (count : Nat) (chars : List Char) :
    number (List.replicate count '0' ++ chars) = number chars := by
  induction count with
  | zero => rfl
  | succ count ih => exact ih

/-- Only the number zero is written with a zero in front. -/
theorem Numeral.head?_ne_zero (numeral : Numeral 1 chars value) (positive : 0 < value) :
    chars.head? ≠ some '0' := by
  by_cases longer : 1 < chars.length
  · exact numeral.tight longer
  · intro zero
    match chars, numeral, longer, zero with
    | [_], numeral, _, rfl =>
        have value_eq : digitValue '0' = value := by
          rw [← number_singleton, numeral.number_eq]
        exact absurd value_eq (Nat.ne_of_lt positive)
    | _ :: _ :: _, _, longer, _ => simp at longer

/-- One more digit behind a numeral that does not begin with zero. -/
theorem Numeral.append_singleton (numeral : Numeral 1 chars value) (positive : 0 < value)
    {last : Nat} (small : last < 16) :
    Numeral 1 (chars ++ [Nat.digitChar last]) (16 * value + last) where
  digit := by
    intro char member
    rcases List.mem_append.mp member with member | member
    · exact numeral.digit char member
    · rw [List.mem_singleton.mp member]
      exact digit_digitChar last small
  width_le := by simp
  tight := by
    intro _
    obtain ⟨first, rest, rfl⟩ := List.exists_cons_of_length_pos numeral.width_le
    exact numeral.head?_ne_zero positive
  number_eq := by
    rw [number_append_singleton, numeral.number_eq, digitValue_digitChar last small]

/-! ### Numerals of numbers -/

theorem numeral_digitChar (small : value < 16) : Numeral 1 [Nat.digitChar value] value where
  digit := List.forall_mem_singleton.mpr (digit_digitChar value small)
  width_le := Nat.le_refl 1
  tight := fun longer => absurd longer (Nat.lt_irrefl 1)
  number_eq := by rw [number_singleton, digitValue_digitChar value small]

/-- By induction on the number without its last digit. -/
theorem numeral_toDigits (value : Nat) : Numeral 1 (Nat.toDigits 16 value) value := by
  induction value using Nat.strongRecOn with
  | ind value ih =>
      by_cases small : value < 16
      · rw [Nat.toDigits_of_lt_base small]
        exact numeral_digitChar small
      · have large : 16 ≤ value := Nat.le_of_not_lt small
        have front := ih (value / 16) (Nat.div_lt_self (by omega) (by decide))
        have whole : 16 * (value / 16) + value % 16 = value := Nat.div_add_mod value 16
        rw [Nat.toDigits_of_base_le (by decide) large]
        have numeral := front.append_singleton (by omega) (Nat.mod_lt value (by decide))
        rw [whole] at numeral
        exact numeral

/-- Zeros in front fill a numeral up to a width. -/
theorem Numeral.leftpad (numeral : Numeral 1 chars value) (positive : 0 < width) :
    Numeral width (chars.leftpad width '0') value where
  digit := by
    intro char member
    rcases List.mem_append.mp member with zero | member
    · rw [List.eq_of_mem_replicate zero]
      decide
    · exact numeral.digit char member
  width_le := by
    rw [List.length_leftpad]
    exact Nat.le_max_left _ _
  tight := by
    intro longer
    rw [List.length_leftpad] at longer
    have unfilled : width - chars.length = 0 := by omega
    rw [List.leftpad, unfilled]
    exact numeral.tight (by omega)
  number_eq := by
    rw [List.leftpad, number_replicate_append, numeral.number_eq]

/-- What is shown of a number is its numeral. -/
theorem exists_numeral_digits (positive : 0 < width) (value : Nat) :
    ∃ shown : List Char, digits width value = String.ofList shown ∧ Numeral width shown value :=
  ⟨_, rfl, (numeral_toDigits value).leftpad positive⟩

theorem digits_injective {other : Nat} (positive : 0 < width)
    (same : Hex.digits width value = Hex.digits width other) : value = other := by
  have shown := String.ofList_injective same
  rw [← ((numeral_toDigits value).leftpad positive).number_eq, shown,
    ((numeral_toDigits other).leftpad positive).number_eq]

/-! ### Lists of bytes -/

/-- The characters are numerals of two digits, one for each byte, with a comma and a space between
one and the next. -/
inductive Enumerates : List Char → Bytes → Prop where
  | none : Enumerates [] []
  | last {high low : Char} {byte : UInt8} (numeral : Numeral 2 [high, low] byte.toNat) :
      Enumerates [high, low] [byte]
  | more {high low : Char} {byte : UInt8} {rest : List Char} {bytes : Bytes}
      (numeral : Numeral 2 [high, low] byte.toNat) (nonempty : bytes ≠ [])
      (others : Enumerates rest bytes) :
      Enumerates (high :: low :: ',' :: ' ' :: rest) (byte :: bytes)

/-- The text is a list of the bytes, in brackets. -/
def Lists (text : String) (bytes : Bytes) : Prop :=
  ∃ entries, text.toList = '[' :: (entries ++ [']']) ∧ Enumerates entries bytes

/-- A byte has a numeral of two digits. -/
theorem exists_numeral_byte (byte : UInt8) :
    ∃ high low, (Hex.byte byte).toList = [high, low] ∧ Numeral 2 [high, low] byte.toNat := by
  have numeral : Numeral 2 ((Nat.toDigits 16 byte.toNat).leftpad 2 '0') byte.toNat :=
    (numeral_toDigits byte.toNat).leftpad (by decide)
  have short : (Nat.toDigits 16 byte.toNat).length ≤ 2 :=
    (Nat.length_toDigits_le_iff (by decide) (by decide)).mpr byte.toNat_lt
  have length : ((Nat.toDigits 16 byte.toNat).leftpad 2 '0').length = 2 := by
    rw [List.length_leftpad]
    exact Nat.max_eq_left short
  obtain ⟨high, low, pair⟩ := List.length_eq_two.mp length
  refine ⟨high, low, ?_, pair ▸ numeral⟩
  rw [Hex.byte, digits, String.toList_ofList, pair]

/-- A numeral after another is set off by a comma, so by induction the joined texts enumerate the
bytes. -/
theorem enumerates_intercalate (bytes : Bytes) :
    Enumerates (", ".intercalate (bytes.map byte)).toList bytes := by
  induction bytes with
  | nil => exact .none
  | cons first bytes ih =>
      obtain ⟨high, low, shown, numeral⟩ := exists_numeral_byte first
      cases bytes with
      | nil =>
          have whole : (", ".intercalate ([first].map byte)).toList = [high, low] := by
            rw [List.map_singleton, String.intercalate_singleton, shown]
          rw [whole]
          exact .last numeral
      | cons second bytes =>
          have whole : (", ".intercalate ((first :: second :: bytes).map byte)).toList =
              high :: low :: ',' :: ' ' ::
                (", ".intercalate ((second :: bytes).map byte)).toList := by
            rw [List.map_cons, List.map_cons, String.intercalate_cons_cons, String.toList_append,
              String.toList_append, shown]
            rfl
          rw [whole]
          exact .more numeral (List.cons_ne_nil second bytes) ih

theorem lists_list (bytes : Bytes) : Lists (list bytes) bytes := by
  refine ⟨_, ?_, enumerates_intercalate bytes⟩
  rw [list, String.toList_append, String.toList_append]
  rfl

/-- The number of the two digits decides the byte. -/
theorem Numeral.byte_unique {byte other : UInt8} (numeral : Numeral width chars byte.toNat)
    (also : Numeral width chars other.toNat) : byte = other :=
  UInt8.toNat_inj.mp (numeral.number_eq.symm.trans also.number_eq)

theorem Enumerates.unique {bytes other : Bytes} (enumerates : Enumerates chars bytes)
    (also : Enumerates chars other) : bytes = other := by
  induction enumerates generalizing other with
  | none =>
      cases also with
      | none => rfl
  | last numeral =>
      cases also with
      | last again => rw [numeral.byte_unique again]
  | more numeral _ _ ih =>
      cases also with
      | more again _ others => rw [numeral.byte_unique again, ih others]

theorem Lists.unique {text : String} {bytes other : Bytes} (lists : Lists text bytes)
    (also : Lists text other) : bytes = other := by
  obtain ⟨entries, shown, enumerates⟩ := lists
  obtain ⟨others, again, enumerated⟩ := also
  rw [shown, List.cons.injEq, List.append_left_inj] at again
  obtain ⟨-, rfl⟩ := again
  exact enumerates.unique enumerated

end ManagementUnit.Hex
