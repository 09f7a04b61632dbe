import ManagementUnit.Error
import ManagementUnit.Text.Ascii

/-!
# Firmware versions

A firmware version is packed into one word: eight bits of major, sixteen of minor and eight of
revision, from the top. The driver publishes it as a text such as `46.54.0`.

`Version.parse` reads that text: three decimal numbers up to 255, a dot between them, blanks allowed
before each number and anything after the last.
-/

namespace ManagementUnit

/-- A packed firmware version. -/
structure Version where
  packed : UInt32
deriving DecidableEq, Repr

namespace Version

/-- Versions are ordered as their packed words. -/
instance : Ord Version := ⟨fun a b => compare a.packed b.packed⟩

/-- The version with these three components. -/
def ofParts (major minor revision : UInt8) : Version :=
  ⟨major.toUInt32 <<< 24 ||| minor.toUInt32 <<< 8 ||| revision.toUInt32⟩

/-- No version yet. -/
def zero : Version := ⟨0⟩

/-- The upper eight bits. -/
def major (version : Version) : UInt32 :=
  version.packed >>> 24

/-- The sixteen bits between major and revision. -/
def minor (version : Version) : UInt32 :=
  (version.packed >>> 8) &&& 0xFFFF

/-- The lower eight bits. -/
def revision (version : Version) : UInt32 :=
  version.packed &&& 0xFF

/-- The three components in decimal, with dots. -/
def text (version : Version) : String :=
  Nat.repr version.major.toNat ++ "." ++ Nat.repr version.minor.toNat ++ "."
    ++ Nat.repr version.revision.toNat

/-- A version with its packed word beside it. -/
def inspect (version : Version) : String :=
  "SmuVersion(" ++ version.text ++ ", " ++ Hex.word 8 version.packed ++ ")"

/-- The most bytes a version text has: three numbers of three digits, two dots and a line end. -/
def textLimit : Nat := 12

/-- Reads one component, after any blanks, and gives the rest of the text. There must be a digit,
and all digits together must denote at most 255. -/
def component? (text : Bytes) : Option (UInt8 × Bytes) :=
  let text := text.dropWhile Ascii.isBlank
  let digits := text.takeWhile Ascii.isDigit
  let value := Ascii.saturate digits
  if digits.isEmpty || 255 < value then none
  else some (value.toUInt8, text.dropWhile Ascii.isDigit)

/-- What follows a dot. -/
def afterDot? : Bytes → Option Bytes
  | 0x2E :: rest => some rest
  | _ => none

/-- The version that a text begins with. -/
def parse? (text : Bytes) : Option Version := do
  let (major, rest) ← component? text
  let (minor, rest) ← component? (← afterDot? rest)
  let (revision, _) ← component? (← afterDot? rest)
  return ofParts major minor revision

/-- The version that a text begins with; any other text counts as a failed transfer. -/
def parse (text : Bytes) : Except Error Version :=
  (parse? text).elim (.error .transferFailed) .ok

end Version

end ManagementUnit
