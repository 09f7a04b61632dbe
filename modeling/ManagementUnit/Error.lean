import ManagementUnit.Status
import ManagementUnit.Text.Hex

/-!
# Errors

Whatever keeps a request from succeeding is an `Error`: either the driver reported a status word
other than success, which is passed on as it is, or the client itself found the fault.

* `Error.ofStatus?` reads a status word, with none for success.
* `Error.message` is the one text of each error. An unnamed status word shows its number.
-/

namespace ManagementUnit

/-- Why a request did not succeed. Each reason but `unknown` has a status word of its own; `unknown`
carries one that the table does not name. An incomplete transfer with a driver file is a
`transferFailed`, like a failed one. -/
inductive Error where
  | failed
  | unknownCommand
  | prerequisiteUnmet
  | busy
  | timedOut
  | invalidArgument
  | unknown (status : UInt32)
  | unsupported
  | wrongSize
  | mappingFailed
  | driverAbsent
  | transferFailed
deriving DecidableEq, Repr

namespace Error

/-- The error for a code; success is none. -/
def ofCode? : StatusCode → Option Error
  | .ok => none
  | .failed => some .failed
  | .unknownCommand => some .unknownCommand
  | .prerequisiteUnmet => some .prerequisiteUnmet
  | .busy => some .busy
  | .timedOut => some .timedOut
  | .invalidArgument => some .invalidArgument
  | .unsupported => some .unsupported
  | .wrongSize => some .wrongSize
  | .mappingFailed => some .mappingFailed
  | .driverAbsent => some .driverAbsent
  | .transferFailed => some .transferFailed

/-- The error for a code; a code that is no error is given back. -/
def ofCode (code : StatusCode) : Except StatusCode Error :=
  (ofCode? code).elim (.error code) .ok

/-- The error that a status word reports; success reports none. -/
def ofStatus? (status : UInt32) : Option Error :=
  match StatusCode.ofWord? status with
  | some code => ofCode? code
  | none => some (.unknown status)

/-- The code of an error, if its status word has one. -/
def code? : Error → Option StatusCode
  | .failed => some .failed
  | .unknownCommand => some .unknownCommand
  | .prerequisiteUnmet => some .prerequisiteUnmet
  | .busy => some .busy
  | .timedOut => some .timedOut
  | .invalidArgument => some .invalidArgument
  | .unknown _ => none
  | .unsupported => some .unsupported
  | .wrongSize => some .wrongSize
  | .mappingFailed => some .mappingFailed
  | .driverAbsent => some .driverAbsent
  | .transferFailed => some .transferFailed

/-- The status word of an error. -/
def word : Error → UInt32
  | .unknown status => status
  | error => error.code?.elim 0 StatusCode.word

/-- What the status word of an error means. An unknown error describes its bare word, so one that
carries a word of the table describes that. -/
def description (error : Error) : String :=
  StatusCode.describe error.word

/-- The text of an error. -/
def message : Error → String
  | .unknown status => "Unspecified Error (status " ++ Hex.word 2 status ++ ")"
  | error => error.description

/-- The short tag of an error, with the status word in decimal if it is unknown. -/
def tag : Error → String
  | .unknown status => "Unknown(" ++ Nat.repr status.toNat ++ ")"
  | error => error.code?.elim "" StatusCode.tag

end Error

end ManagementUnit
