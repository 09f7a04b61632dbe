import ManagementUnit.Proofs.Text.Numeral

/-!
# Decimals

The bytes of a number that is written in decimal are a numeral without blanks. It denotes that
number, so different numbers are written differently.

* `Utf8.encode_ofList` — the bytes of an ASCII text, one for each character.
* `Ascii.value_decimal` — the number that a decimal denotes.
* `Ascii.length_decimal` — the length of the decimal of a byte.
-/

namespace ManagementUnit

namespace Utf8

/-- The bytes of a text. -/
def encode (text : String) : Bytes :=
  text.toUTF8.data.toList

theorem encode_append (first rest : String) :
    encode (first ++ rest) = encode first ++ encode rest := by
  simp only [encode, String.toUTF8_eq_toByteArray, String.toByteArray_append,
    ByteArray.data_append, Array.toList_append]

/-- An ASCII character is one byte. -/
theorem encode_ofList {chars : List Char} (ascii : ∀ char ∈ chars, char.val ≤ 127) :
    encode (String.ofList chars) = chars.map Char.toUInt8 := by
  rw [encode, String.toUTF8_eq_toByteArray, String.toByteArray_ofList, List.utf8Encode,
    List.data_toByteArray]
  induction chars with
  | nil => rfl
  | cons char chars ih =>
      obtain ⟨first, rest⟩ := List.forall_mem_cons.mp ascii
      have single := String.utf8EncodeChar_eq_singleton (Char.utf8Size_eq_one_iff.mpr first)
      rw [List.flatMap_cons, single, List.map_cons]
      exact congrArg (char.toUInt8 :: ·) (ih rest)

theorem encode_dot : encode "." = [0x2E] := by
  have ascii : ∀ char ∈ ['.'], char.val ≤ 127 := List.forall_mem_singleton.mpr (by decide)
  exact encode_ofList ascii

end Utf8

namespace Ascii

/-! ### Digits -/

section Digits

variable {char : Char} {chars : List Char}

theorem bounds_of_isDigit (digit : char.isDigit = true) :
    0x30 ≤ char.val.toNat ∧ char.val.toNat ≤ 0x39 := by
  simp only [Char.isDigit, Bool.and_eq_true, decide_eq_true_eq] at digit
  exact ⟨UInt32.le_iff_toNat_le.mp digit.1, UInt32.le_iff_toNat_le.mp digit.2⟩

theorem toNat_toUInt8_of_isDigit (digit : char.isDigit = true) :
    char.toUInt8.toNat = char.val.toNat := by
  obtain ⟨-, most⟩ := bounds_of_isDigit digit
  rw [Char.toUInt8, UInt32.toNat_toUInt8]
  omega

theorem digit_of_isDigit (digit : char.isDigit = true) : Digit char.toUInt8 := by
  obtain ⟨least, most⟩ := bounds_of_isDigit digit
  rw [← toNat_toUInt8_of_isDigit digit] at least most
  exact ⟨UInt8.le_iff_toNat_le.mpr least, UInt8.le_iff_toNat_le.mpr most⟩

/-- The digits of a number count as the bytes of these digits do. -/
theorem number_map (digits : ∀ char ∈ chars, char.isDigit = true) :
    number (chars.map Char.toUInt8) = Nat.ofDigitChars 10 chars 0 := by
  unfold number Nat.ofDigitChars
  generalize 0 = value
  induction chars generalizing value with
  | nil => rfl
  | cons char chars ih =>
      obtain ⟨first, rest⟩ := List.forall_mem_cons.mp digits
      have counted : digitValue char.toUInt8 = char.toNat - '0'.toNat :=
        congrArg (· - 0x30) (toNat_toUInt8_of_isDigit first)
      rw [List.map_cons, List.foldl_cons, List.foldl_cons, counted]
      exact ih rest _

end Digits

/-! ### Decimals -/

variable {value : Nat}

theorem isDigit_of_mem_toDigits (value : Nat) :
    ∀ char ∈ Nat.toDigits 10 value, char.isDigit = true :=
  fun _ member => Nat.isDigit_of_mem_toDigits (by decide) (by decide) member

theorem encode_repr (value : Nat) :
    Utf8.encode (Nat.repr value) = (Nat.toDigits 10 value).map Char.toUInt8 := by
  rw [Nat.repr_eq_ofList_toDigits]
  refine Utf8.encode_ofList fun char member => ?_
  obtain ⟨-, most⟩ := bounds_of_isDigit (isDigit_of_mem_toDigits value char member)
  exact UInt32.le_iff_toNat_le.mpr (Nat.le_trans most (by decide))

/-- A number written in decimal. -/
def decimal (value : Nat) : Numeral where
  blanks := []
  digits := Utf8.encode (Nat.repr value)
  blank := List.forall_mem_nil _
  digit byte member := by
    rw [encode_repr] at member
    obtain ⟨char, isDigit, rfl⟩ := List.mem_map.mp member
    exact digit_of_isDigit (isDigit_of_mem_toDigits value char isDigit)
  nonempty := by
    rw [encode_repr]
    exact mt List.map_eq_nil_iff.mp Nat.toDigits_ne_nil

theorem text_decimal (value : Nat) : (decimal value).text = Utf8.encode (Nat.repr value) := rfl

theorem value_decimal (value : Nat) : (decimal value).value = value := by
  change number (Utf8.encode (Nat.repr value)) = value
  rw [encode_repr, number_map (isDigit_of_mem_toDigits value),
    Nat.ofDigitChars_toDigits (by decide) (by decide)]

theorem length_decimal (small : value ≤ 255) : (decimal value).text.length ≤ 3 := by
  rw [text_decimal, encode_repr, List.length_map,
    Nat.length_toDigits_le_iff (by decide) (by decide)]
  omega

end Ascii

end ManagementUnit
