import ManagementUnit.Word

/-!
# Reading UTF-8 with replacement

A byte text need not be valid UTF-8. `Utf8.decode` reads it with one replacement character U+FFFD
for each maximal run of bytes that begins like a character and is broken off, and one for each byte
that can begin none. The byte that breaks a run off is read again from the start.
-/

namespace ManagementUnit.Utf8

/-- A character whose first bytes are read: how many bytes are still to come, the bits so far, and
the range that the next byte has to lie in. The range keeps out overlong forms, surrogates and
numbers beyond the last code point. -/
structure Pending where
  missing : Nat
  point : Nat
  least : UInt8
  greatest : UInt8

/-- The character that stands for what cannot be read. -/
def replacement : Char := '\uFFFD'

/-- What a byte does at the start of a character: it is one, it begins one, or neither. -/
def start (byte : UInt8) : List Char × Option Pending :=
  if byte < 0x80 then ([Char.ofNat byte.toNat], none)
  else if byte < 0xC2 then ([replacement], none)
  else if byte < 0xE0 then ([], some ⟨1, (byte &&& 0x1F).toNat, 0x80, 0xBF⟩)
  else if byte < 0xF0 then
    ([], some ⟨2, (byte &&& 0x0F).toNat,
      if byte = 0xE0 then 0xA0 else 0x80, if byte = 0xED then 0x9F else 0xBF⟩)
  else if byte < 0xF5 then
    ([], some ⟨3, (byte &&& 0x07).toNat,
      if byte = 0xF0 then 0x90 else 0x80, if byte = 0xF4 then 0x8F else 0xBF⟩)
  else ([replacement], none)

/-- A further byte of a character, with six more bits of it. -/
def Pending.extend (pending : Pending) (byte : UInt8) : List Char × Option Pending :=
  let point := pending.point * 64 + (byte &&& 0x3F).toNat
  if pending.missing ≤ 1 then ([Char.ofNat point], none)
  else ([], some ⟨pending.missing - 1, point, 0x80, 0xBF⟩)

/-- The characters of the remaining bytes, a begun character before them. -/
def decodeFrom : Option Pending → Bytes → List Char
  | none, [] => []
  | some _, [] => [replacement]
  | none, byte :: bytes =>
    let (chars, pending) := start byte
    chars ++ decodeFrom pending bytes
  | some pending, byte :: bytes =>
    let (chars, pending) :=
      if pending.least ≤ byte && byte ≤ pending.greatest then pending.extend byte
      else (replacement :: (start byte).1, (start byte).2)
    chars ++ decodeFrom pending bytes

/-- The characters of a byte text, with replacements for what is no UTF-8. -/
def decode (bytes : Bytes) : List Char :=
  decodeFrom none bytes

end ManagementUnit.Utf8
