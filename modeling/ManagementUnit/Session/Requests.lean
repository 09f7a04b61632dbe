import ManagementUnit.ArgumentBlock
import ManagementUnit.PowerTable.Snapshot
import ManagementUnit.RegisterRequest
import ManagementUnit.Session.Basic

/-!
# Requests

A session takes requests on three paths that share nothing: the registers of the system management
network, the commands of the firmware, and the power table. A request leaves the session as it is,
and one whose channel is not open fails without a call.
-/

namespace ManagementUnit.Session

/-- The channel of a request, if it is open. -/
def channel (held : Option Handle) : Attempt Handle :=
  match held with
  | some handle => return handle
  | none => throw .transferFailed

/-! ### Registers -/

/-- Reads a register: its address is written, and its value is read. -/
def readRegister (session : Session) (address : UInt32) : Attempt UInt32 := do
  let smn ← channel session.smn
  smn.writeBlock (RegisterRequest.select address)
  return RegisterRequest.value (← smn.readBlock 4)

/-- Writes a register. -/
def writeRegister (session : Session) (address value : UInt32) : Attempt Unit := do
  let smn ← channel session.smn
  smn.writeBlock (RegisterRequest.store address value)

/-! ### Commands -/

/-- Sends a command and reads its response: the arguments are written, then the opcode, which starts
the command; the status word is read, and on success the response. -/
def exchange (session : Session) (opcode : UInt32) (arguments : ArgumentBlock) :
    Attempt ArgumentBlock := do
  let smuCmd ← channel session.smuCmd
  let smuArgs ← channel session.smuArgs
  smuArgs.writeBlock arguments.encode
  smuCmd.writeBlock (Word.encode opcode)
  let status := Word.decode (← smuCmd.readBlock 4)
  match Error.ofStatus? status with
  | some error => Attempt.fail (.commandFailed opcode status error) error
  | none => return .decode (← smuArgs.readBlock ArgumentBlock.size)

/-- Executes a command on a block of arguments. The block holds the response afterwards, or the
arguments as they were if there is an error. -/
def execute (session : Session) (opcode : UInt32) (arguments : ArgumentBlock) :
    Dialogue (Except Error Unit × ArgumentBlock) := do
  match ← (session.exchange opcode arguments).run with
  | .ok response => return (.ok (), response)
  | .error error => return (.error error, arguments)

/-! ### The power table -/

/-- Reads the power table into a buffer of `length` bytes, which has to be the size of the table. -/
def readTable (session : Session) (length : Nat) : Dialogue Delivery :=
  if length = session.capabilities.table.length then
    match session.pmTable with
    | some handle => handle.fill length
    | none => return ⟨.error .transferFailed, []⟩
  else return ⟨.error .wrongSize, []⟩

/-- Takes a snapshot of the power table. -/
def takeSnapshot (session : Session) : Attempt PowerTable.Snapshot :=
  let info := session.capabilities.table
  if info.supported then
    return ⟨info, ← ExceptT.mk (Delivery.block <$> session.readTable info.length)⟩
  else throw .unsupported

end ManagementUnit.Session
