import ManagementUnit.Dialogue.Driver
import ManagementUnit.PowerTable.Pattern
import ManagementUnit.Simulation.Registers

/-!
# A driver that records what is done to it

A simulated driver of a working platform, every file present. It writes down all operations and all
opcodes, and each file can be told to fall short by one byte on every read or on every write.
-/

namespace ManagementUnit.Simulation

/-- An operation on a file, with the length of the block that was to be moved. -/
inductive Operation where
  | opened
  | rewound
  | read (limit : Nat)
  | written (length : Nat)
  | closed
deriving DecidableEq, Repr

/-- The text of an operation. -/
def Operation.text : Operation → String
  | .opened => "Open"
  | .rewound => "Rewind"
  | .read limit => "Read(" ++ Nat.repr limit ++ ")"
  | .written length => "Write(" ++ Nat.repr length ++ ")"
  | .closed => "Close"

/-- A driver that records what is done to it. `contents` is of the files that are no registers.
Reads and writes of the files in `shortReads` and `shortWrites` fall short.

All operations are in `log`, in order; an opening that failed is none. In `attempts` is every file
that was to be opened, also one that was refused, and in `opcodes` every opcode that was run.
`openCount` is how many files are open. -/
structure Recorder where
  present : Node → Bool
  contents : Node → Bytes
  registers : Registers
  shortReads : Node → Bool
  shortWrites : Node → Bool
  log : List (Node × Operation)
  attempts : List Node
  openCount : Nat
  opcodes : List UInt32

namespace Recorder

/-- The size of the recorder's own power table. -/
def tableSize : UInt32 := 0x7E4

/-- The version of the recorder's own power table. -/
def tableVersion : UInt32 := 0x240903

/-- What the recorder's files hold at first: firmware `46.54.0`, family `4` and a power table that
counts. -/
def initialContents : Node → Bytes
  | .version => [0x34, 0x36, 0x2E, 0x35, 0x34, 0x2E, 0x30, 0x0A]
  | .codename => [0x34, 0x0A]
  | .pmTableVersion => Word.encode tableVersion
  | .pmTableSize => Word.encode tableSize
  | .pmTable => PowerTable.pattern tableSize.toNat
  | _ => []

/-- A recorder to which nothing was done yet. -/
def initial : Recorder where
  present _ := true
  contents := initialContents
  registers := .initial
  shortReads _ := false
  shortWrites _ := false
  log := []
  attempts := []
  openCount := 0
  opcodes := []

/-- Something that is set on a recorder from outside, between the calls of a client. Other contents
do not bring back a file that is gone, and a shortened file stays so from then on. -/
inductive Change where
  | registers (change : Registers.Change)
  | setFile (node : Node) (contents : Bytes)
  | removeFile (node : Node)
  | shortenReads (node : Node)
  | shortenWrites (node : Node)
deriving DecidableEq, Repr

/-- The recorder after a change. -/
def apply (recorder : Recorder) : Change → Recorder
  | .registers change => { recorder with registers := recorder.registers.apply change }
  | .setFile node contents => { recorder with contents := assign recorder.contents node contents }
  | .removeFile node => { recorder with present := assign recorder.present node false }
  | .shortenReads node => { recorder with shortReads := assign recorder.shortReads node true }
  | .shortenWrites node => { recorder with shortWrites := assign recorder.shortWrites node true }

/-- The recorder with one more operation in its log. -/
def record (recorder : Recorder) (node : Node) (operation : Operation) : Recorder :=
  { recorder with log := recorder.log ++ [(node, operation)] }

/-- The operations on one file, in order. -/
def operations (recorder : Recorder) (node : Node) : List Operation :=
  (recorder.log.filter fun entry => entry.1 = node).map Prod.snd

/-- Opens a file. One that is only read is not opened for writing. -/
def acquire (node : Node) (access : Access) (recorder : Recorder) :
    Except IoError Nat × Recorder :=
  let recorder := { recorder with attempts := recorder.attempts ++ [node] }
  if !recorder.present node then (.error (.kind .notFound), recorder)
  else if access = .readWrite ∧ node.access = .readOnly then
    (.error (.kind .permissionDenied), recorder)
  else
    (.ok recorder.log.length,
      { recorder with openCount := recorder.openCount + 1 }.record node .opened)

/-- Repositions a file, which never fails. -/
def rewind (handle : Handle) (recorder : Recorder) : Except IoError Unit × Recorder :=
  (.ok (), recorder.record handle.node .rewound)

/-- Reads from the start of a file. -/
def read (handle : Handle) (limit : Nat) (recorder : Recorder) :
    Except IoError { bytes : Bytes // bytes.length ≤ limit } × Recorder :=
  let contents := (recorder.registers.contents? handle.node).getD (recorder.contents handle.node)
  let whole := min contents.length limit
  let count := if recorder.shortReads handle.node then whole - 1 else whole
  (.ok ⟨contents.take count, by grind⟩, recorder.record handle.node (.read limit))

/-- Writes to a file. A write that falls short stores nothing and is not looked at further. -/
def write (handle : Handle) (bytes : Bytes) (recorder : Recorder) :
    Except IoError Nat × Recorder :=
  let recorder := recorder.record handle.node (.written bytes.length)
  if recorder.shortWrites handle.node then (.ok (bytes.length - 1), recorder)
  else
    match recorder.registers.store? handle.node bytes with
    | some registers =>
      let run := if handle.node = .smuCmd then [Word.decode bytes] else []
      (.ok bytes.length, { recorder with registers, opcodes := recorder.opcodes ++ run })
    | none => (.error (.kind .invalidInput), recorder)

/-- Closes a file. -/
def close (handle : Handle) (recorder : Recorder) : Recorder :=
  { recorder with openCount := recorder.openCount - 1 }.record handle.node .closed

/-- The recorder's answers. -/
def driver : Driver Recorder where
  acquire := acquire
  rewind := rewind
  read := read
  write := write
  close := close

end Recorder

end ManagementUnit.Simulation
