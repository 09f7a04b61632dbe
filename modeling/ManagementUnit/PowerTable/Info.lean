import ManagementUnit.Text.Hex

/-!
# Power table metadata

The power table is a block of telemetry whose layout goes by its version. The driver publishes the
version and the size in bytes as words; a table can be read only if neither is zero.
-/

namespace ManagementUnit.PowerTable

/-- Version and size of the power table. -/
structure Info where
  version : UInt32
  size : UInt32
deriving DecidableEq, Repr

namespace Info

/-- The metadata of a platform without power tables. -/
def none : Info := ⟨0, 0⟩

/-- The metadata written by the two files. -/
def decode (version size : Bytes) : Info :=
  ⟨Word.decode version, Word.decode size⟩

/-- Whether the table can be read: both words are known. -/
def supported (info : Info) : Bool :=
  info.version != 0 && info.size != 0

/-- The bytes that the table takes. -/
def length (info : Info) : Nat :=
  info.size.toNat

/-- Whether the table has no bytes. -/
def isEmpty (info : Info) : Bool :=
  info.size == 0

/-- The metadata for people. -/
def text (info : Info) : String :=
  "version " ++ Hex.word 8 info.version ++ ", " ++ Nat.repr info.size.toNat ++ " bytes"

/-- The metadata field by field. -/
def inspect (info : Info) : String :=
  "PmTableInfo \x7b version: " ++ Nat.repr info.version.toNat ++ ", size: "
    ++ Nat.repr info.size.toNat ++ " \x7d"

end Info

end ManagementUnit.PowerTable
