import ManagementUnit.Word

/-!
# Hexadecimal text

Words and bytes are shown in lower-case hexadecimal, filled with zeros to a least width.
-/

namespace ManagementUnit.Hex

/-- The digits of a number, at least `width` of them. -/
def digits (width number : Nat) : String :=
  String.ofList ((Nat.toDigits 16 number).leftpad width '0')

/-- A word behind `0x`, with at least `width` digits. -/
def word (width : Nat) (word : UInt32) : String :=
  "0x" ++ digits width word.toNat

/-- The two digits of a byte. -/
def byte (byte : UInt8) : String :=
  digits 2 byte.toNat

/-- Bytes as one run of digits. -/
def run (bytes : Bytes) : String :=
  String.join (bytes.map byte)

/-- Bytes as a bracketed list. -/
def list (bytes : Bytes) : String :=
  "[" ++ ", ".intercalate (bytes.map byte) ++ "]"

end ManagementUnit.Hex
