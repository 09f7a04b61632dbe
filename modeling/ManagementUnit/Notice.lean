import ManagementUnit.Capabilities
import ManagementUnit.ChannelSet
import ManagementUnit.IoError
import ManagementUnit.Node
import ManagementUnit.Text.Blank
import ManagementUnit.Text.Quoted
import ManagementUnit.Text.Utf8

/-!
# Log notices

Everything a client logs is one of the notices below. `Notice.level` and `Notice.message` give the
level and the text of each, so that a log line is decided by what happened and by nothing else.
-/

namespace ManagementUnit

/-- How much a log line matters. -/
inductive Level where
  | trace
  | debug
  | info
  | warn
deriving DecidableEq, Repr

/-- The name of a level. -/
def Level.name : Level → String
  | .trace => "trace"
  | .debug => "debug"
  | .info => "info"
  | .warn => "warn"

/-- Something a client logs.

Of transfers it logs each block that was written in full, each read with the bytes it delivered, and
each way a transfer fails: `shortWrite` and `shortRead` carry the count that was reported and the
length of the block. Of detections it logs each file that cannot be read or has no meaning; a
missing version of the power table only says that there is no power table. Of sessions it logs the
channels that are refused, those about to be closed, and what a ready session supports; of commands
the errors that the driver reports. -/
inductive Notice where
  | wrote (node : Node) (bytes : Bytes)
  | delivered (node : Node) (bytes : Bytes)
  | shortWrite (node : Node) (count length : Nat)
  | writeFailed (node : Node) (reason : IoError)
  | shortRead (node : Node) (count length : Nat)
  | readFailed (node : Node) (reason : IoError)
  | rewindFailed (node : Node) (reason : IoError)
  | undescribed (node : Node) (reason : IoError)
  | malformedVersion (text : Bytes)
  | unsupportedCodename (text : Bytes)
  | tableUndescribed (reason : IoError)
  | tableSizeMissing (reason : IoError)
  | channelRefused (node : Node) (reason : IoError)
  | commandFailed (opcode status : UInt32) (error : Error)
  | closing (channels : ChannelSet)
  | ready (codename : Codename) (version : Version)
  | tableReady (info : PowerTable.Info)
  | tableUnsupported
deriving DecidableEq, Repr

namespace Notice

/-- How much a notice matters. -/
def level : Notice → Level
  | wrote .. | delivered .. => .trace
  | shortWrite .. | writeFailed .. | shortRead .. | readFailed .. | rewindFailed .. => .debug
  | undescribed .. | tableUndescribed .. | commandFailed .. | closing .. => .debug
  | malformedVersion .. | unsupportedCodename .. | tableSizeMissing .. | channelRefused .. => .warn
  | ready .. | tableReady .. | tableUnsupported => .info

/-- The text of a notice. An incomplete transfer shows how much of its block was moved. -/
def message : Notice → String
  | wrote node bytes => "SMU: " ++ node.fileName ++ " <- " ++ Hex.list bytes
  | delivered node bytes => "SMU: " ++ node.fileName ++ " -> " ++ Hex.list bytes
  | shortWrite node count length =>
    "SMU: short write on " ++ node.fileName ++ shortfall count length
  | writeFailed node reason =>
    "SMU: write on " ++ node.fileName ++ " failed: " ++ reason.message
  | shortRead node count length => "SMU: short read on " ++ node.fileName ++ shortfall count length
  | readFailed node reason => "SMU: read on " ++ node.fileName ++ " failed: " ++ reason.message
  | rewindFailed node reason =>
    "SMU: rewind of " ++ node.fileName ++ " failed: " ++ reason.message
  | undescribed node reason => "SMU: cannot open " ++ node.fileName ++ ": " ++ reason.message
  | malformedVersion text => "SMU: malformed version " ++ Quoted.quote (Utf8.decode text)
  | unsupportedCodename text =>
    "SMU: unsupported processor codename " ++ Quoted.quote (Blank.trim (Utf8.decode text))
  | tableUndescribed reason =>
    "SMU: no " ++ Node.pmTableVersion.fileName ++ " (" ++ reason.message
      ++ "), PM tables unsupported"
  | tableSizeMissing reason =>
    "SMU: " ++ Node.pmTableVersion.fileName ++ " present but " ++ Node.pmTableSize.fileName
      ++ " missing: " ++ reason.message
  | channelRefused node reason => "SMU: cannot open " ++ node.fileName ++ ": " ++ reason.message
  | commandFailed opcode status error =>
    "SMU: command " ++ Hex.word 2 opcode ++ " returned " ++ Hex.word 2 status
      ++ " (" ++ error.message ++ ")"
  | closing channels => "SMU: closing channels " ++ channels.inspect
  | ready codename version =>
    "SMU: " ++ codename.name ++ " firmware " ++ version.text
      ++ " (" ++ Hex.word 8 version.packed ++ ")"
  | tableReady info => "SMU: PM table " ++ info.text
  | tableUnsupported => "SMU: PM tables unsupported"
where
  shortfall (count length : Nat) : String :=
    " (" ++ Nat.repr count ++ " of " ++ Nat.repr length ++ " bytes)"

/-- The log line of a notice, its level before its text. -/
def line (notice : Notice) : String :=
  notice.level.name ++ " " ++ notice.message

end Notice

end ManagementUnit
