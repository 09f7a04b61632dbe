/-!
# Driver files

The driver shows itself as eight files in one directory. Four describe the platform and are read
once; the power table is read whole; the other three are registers that are written and read.
-/

namespace ManagementUnit

/-- How a file is opened. -/
inductive Access where
  | readOnly
  | readWrite
deriving DecidableEq, Repr

/-- The tag of an access mode. -/
def Access.tag : Access → String
  | .readOnly => "ReadOnly"
  | .readWrite => "ReadWrite"

/-- A file of the driver. `version` and `codename` are texts, the latter the number of the processor
family. The two words that describe the power table, and the table itself, are absent where there
are no power tables. `smn` takes and gives the address and value of a register of the system
management network. `smuArgs` holds the argument block of a command; `smuCmd` takes the opcode of a
command when written and gives its status word when read. -/
inductive Node where
  | version
  | codename
  | pmTableVersion
  | pmTableSize
  | pmTable
  | smn
  | smuArgs
  | smuCmd
deriving DecidableEq, Repr

namespace Node

/-- All files. -/
def all : List Node :=
  [.version, .codename, .pmTableVersion, .pmTableSize, .pmTable, .smn, .smuArgs, .smuCmd]

/-- The name of a file in the driver's directory. -/
def fileName : Node → String
  | .version => "version"
  | .codename => "codename"
  | .pmTableVersion => "pm_table_version"
  | .pmTableSize => "pm_table_size"
  | .pmTable => "pm_table"
  | .smn => "smn"
  | .smuArgs => "smu_args"
  | .smuCmd => "smu_cmd"

/-- The tag of a file. -/
def tag : Node → String
  | .version => "Version"
  | .codename => "Codename"
  | .pmTableVersion => "PmTableVersion"
  | .pmTableSize => "PmTableSize"
  | .pmTable => "PmTable"
  | .smn => "Smn"
  | .smuArgs => "SmuArgs"
  | .smuCmd => "SmuCmd"

/-- The access mode a client opens a file with: the registers are written as well as read. -/
def access : Node → Access
  | .smn | .smuArgs | .smuCmd => .readWrite
  | _ => .readOnly

/-- The file of a given name. -/
def named? (name : String) : Option Node :=
  all.find? fun node => node.fileName == name

/-- Every file is found by its name. -/
theorem named?_fileName (node : Node) : named? node.fileName = some node := by
  cases node <;> rfl

theorem fileName_injective {one other : Node} (same : one.fileName = other.fileName) :
    one = other := by
  have found := named?_fileName one
  rw [same, named?_fileName] at found
  exact (Option.some.inj found).symm

end Node

end ManagementUnit
