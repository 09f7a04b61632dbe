import ManagementUnit.Word

/-!
# Blanks and decimal digits in a byte text

The driver's descriptive files are short texts of ASCII digits. A number is read by accumulating
digits in a 32-bit word that stops at its largest value instead of wrapping; `Ascii.number` is the
number that the digits denote, without any bound.

* `Ascii.toNat_saturate` — the accumulated word is the true number, cut off at the largest word, so
  a run of digits of any length is told apart from every smaller word correctly.
-/

namespace ManagementUnit.Ascii

/-- Tab, line feed, form feed, carriage return and space. The vertical tab is no blank. -/
def isBlank (byte : UInt8) : Bool :=
  byte == 0x09 || byte == 0x0A || byte == 0x0C || byte == 0x0D || byte == 0x20

/-- The digits `0` to `9`. -/
def isDigit (byte : UInt8) : Bool :=
  0x30 ≤ byte && byte ≤ 0x39

/-- What a digit counts. -/
def digitValue (byte : UInt8) : Nat :=
  byte.toNat - 0x30

/-- The number that a run of digits denotes, however long it is. -/
def number (digits : Bytes) : Nat :=
  digits.foldl (fun value digit => 10 * value + digitValue digit) 0

/-- One more digit on an accumulated word, which stays at the largest word once it is reached. -/
def saturateDigit (value : UInt32) (digit : UInt8) : UInt32 :=
  UInt32.ofNat (min (10 * value.toNat + digitValue digit) 0xFFFFFFFF)

/-- The word accumulated over a run of digits. -/
def saturate (digits : Bytes) : UInt32 :=
  digits.foldl saturateDigit 0

theorem toNat_saturateDigit (value : UInt32) (digit : UInt8) :
    (saturateDigit value digit).toNat
      = min (10 * value.toNat + digitValue digit) 0xFFFFFFFF := by
  rw [saturateDigit, UInt32.toNat_ofNat_of_lt']
  exact Nat.lt_of_le_of_lt (Nat.min_le_right _ _) (by decide)

theorem toNat_foldl_saturateDigit (digits : Bytes) (word : UInt32) (value : Nat)
    (h : word.toNat = min value 0xFFFFFFFF) :
    (digits.foldl saturateDigit word).toNat
      = min (digits.foldl (fun value digit => 10 * value + digitValue digit) value)
          0xFFFFFFFF := by
  induction digits generalizing word value with
  | nil => exact h
  | cons digit digits ih =>
    apply ih
    show _ = min (10 * value + digitValue digit) 0xFFFFFFFF
    rw [toNat_saturateDigit, h]
    omega

theorem toNat_saturate (digits : Bytes) :
    (saturate digits).toNat = min (number digits) 0xFFFFFFFF :=
  toNat_foldl_saturateDigit digits 0 0 rfl

end ManagementUnit.Ascii
