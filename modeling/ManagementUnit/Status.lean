/-!
# Status words

The driver reports the outcome of a command as a 32-bit status word. `StatusCode` names the words
that have a meaning; every other word stays a bare number.

* `StatusCode.ofWord?_word`, `StatusCode.word_of_ofWord?` — codes and the words of the table
  correspond one to one.
-/

namespace ManagementUnit

/-- An outcome that has a status word of its own: the success of a command and every reason for a
refusal that the driver or the firmware can name. -/
inductive StatusCode where
  | ok
  | failed
  | unknownCommand
  | prerequisiteUnmet
  | busy
  | timedOut
  | invalidArgument
  | unsupported
  | wrongSize
  | mappingFailed
  | driverAbsent
  | transferFailed
deriving DecidableEq, Repr

namespace StatusCode

/-- All codes, in the order of the table. -/
def all : List StatusCode :=
  [.ok, .failed, .unknownCommand, .prerequisiteUnmet, .busy, .timedOut, .invalidArgument,
    .unsupported, .wrongSize, .mappingFailed, .driverAbsent, .transferFailed]

/-- The status word of a code. -/
def word : StatusCode → UInt32
  | .ok => 0x01
  | .failed => 0xFF
  | .unknownCommand => 0xFE
  | .prerequisiteUnmet => 0xFD
  | .busy => 0xFC
  | .timedOut => 0xFB
  | .invalidArgument => 0xFA
  | .unsupported => 0xF9
  | .wrongSize => 0xF8
  | .mappingFailed => 0xF7
  | .driverAbsent => 0xF0
  | .transferFailed => 0xE9

/-- The code that a status word stands for, if the table names it. -/
def ofWord? : UInt32 → Option StatusCode
  | 0x01 => some .ok
  | 0xFF => some .failed
  | 0xFE => some .unknownCommand
  | 0xFD => some .prerequisiteUnmet
  | 0xFC => some .busy
  | 0xFB => some .timedOut
  | 0xFA => some .invalidArgument
  | 0xF9 => some .unsupported
  | 0xF8 => some .wrongSize
  | 0xF7 => some .mappingFailed
  | 0xF0 => some .driverAbsent
  | 0xE9 => some .transferFailed
  | _ => none

/-- What a code means, for people. -/
def description : StatusCode → String
  | .ok => "OK"
  | .failed => "Failed"
  | .unknownCommand => "Unknown Command"
  | .prerequisiteUnmet => "Command Rejected - Prerequisite Unmet"
  | .busy => "Command Rejected - Busy"
  | .timedOut => "Command Timed Out"
  | .invalidArgument => "Invalid Argument Specified"
  | .unsupported => "Unsupported Platform Or Feature"
  | .wrongSize => "Insufficient Buffer Size Provided"
  | .mappingFailed => "Memory Mapping I/O Error"
  | .driverAbsent => "SMU Driver Not Present Or Fault"
  | .transferFailed => "Read Or Write Error"

/-- The short tag of a code. -/
def tag : StatusCode → String
  | .ok => "Ok"
  | .failed => "Failed"
  | .unknownCommand => "UnknownCmd"
  | .prerequisiteUnmet => "CmdRejectedPrereq"
  | .busy => "CmdRejectedBusy"
  | .timedOut => "CommandTimeout"
  | .invalidArgument => "InvalidArgument"
  | .unsupported => "Unsupported"
  | .wrongSize => "InsufficientSize"
  | .mappingFailed => "MappedError"
  | .driverAbsent => "DriverNotPresent"
  | .transferFailed => "RwError"

/-- What any status word means, also one that the table does not name. -/
def describe (status : UInt32) : String :=
  (ofWord? status).elim "Unspecified Error" description

@[simp] theorem ofWord?_word (code : StatusCode) : ofWord? code.word = some code := by
  cases code <;> rfl

theorem word_of_ofWord? {status : UInt32} {code : StatusCode} (h : ofWord? status = some code) :
    code.word = status := by
  unfold ofWord? at h
  split at h <;> cases h <;> rfl

end StatusCode

end ManagementUnit
