import ManagementUnit.ArgumentBlock
import ManagementUnit.Assign
import ManagementUnit.Node

/-!
# Simulated registers

The three request files of a simulated driver. The register file latches the address of the next
read and keeps a word for each address; the argument file keeps one block; writing an opcode runs a
command, which answers by a response set beforehand and reports a status word set beforehand.
-/

namespace ManagementUnit.Simulation

/-- What a simulated driver keeps behind its request files: the words stored so far, the address of
the next read, the argument block, what a command leaves there if not its arguments, and the status
word of every command. -/
structure Registers where
  memory : UInt32 → Option UInt32
  latched : UInt32
  arguments : ArgumentBlock
  response : Option ArgumentBlock
  status : UInt32

namespace Registers

/-- Nothing stored, no response, and success as the status word. -/
def initial : Registers :=
  ⟨fun _ => none, 0, .zero, none, 1⟩

/-- The word at an address; a word never stored is zero. -/
def word (registers : Registers) (address : UInt32) : UInt32 :=
  (registers.memory address).getD 0

/-- The registers with another word at an address. -/
def setWord (registers : Registers) (address value : UInt32) : Registers :=
  { registers with memory := assign registers.memory address (some value) }

/-- Something that is set on the registers from outside, between the calls of a client: the status
word of the commands to come, the response to them, or the word at an address. -/
inductive Change where
  | setStatus (status : UInt32)
  | setResponse (response : Option ArgumentBlock)
  | setWord (address value : UInt32)
deriving DecidableEq, Repr

/-- The registers after a change. -/
def apply (registers : Registers) : Change → Registers
  | .setStatus status => { registers with status }
  | .setResponse response => { registers with response }
  | .setWord address value => registers.setWord address value

/-- What a request file gives when it is read; the other files are not registers. -/
def contents? (registers : Registers) : Node → Option Bytes
  | .smn => some (Word.encode (registers.word registers.latched))
  | .smuCmd => some (Word.encode registers.status)
  | .smuArgs => some registers.arguments.encode
  | _ => none

/-- The registers after a write on a file, if it is a write that the driver takes: an address, or an
address and a value, a whole argument block, or an opcode. -/
def store? (registers : Registers) (node : Node) (bytes : Bytes) : Option Registers :=
  match node, bytes.length with
  | .smn, 4 => some { registers with latched := Word.decode bytes }
  | .smn, 8 => some (registers.setWord (Word.decode (bytes.take 4)) (Word.decode (bytes.drop 4)))
  | .smuArgs, 24 => some { registers with arguments := .decode bytes }
  | .smuCmd, 4 =>
    some { registers with arguments := registers.response.getD registers.arguments }
  | _, _ => none

end Registers

end ManagementUnit.Simulation
