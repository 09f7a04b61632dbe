import ManagementUnit.Word

/-!
# Register requests

Registers of the system management network are reached through one file. An address alone selects
the register that the next read gives; an address followed by a value stores the value there.
-/

namespace ManagementUnit.RegisterRequest

/-- The request that selects a register for reading. -/
def select (address : UInt32) : Bytes :=
  Word.encode address

/-- The request that stores a value in a register. -/
def store (address value : UInt32) : Bytes :=
  Word.encode address ++ Word.encode value

/-- The value that a read of the selected register delivers. -/
def value (bytes : Bytes) : UInt32 :=
  Word.decode bytes

end ManagementUnit.RegisterRequest
