import ManagementUnit.Dialogue.Driver
import ManagementUnit.Simulation.Registers

/-!
# A driver with scripted faults

A simulated driver all of whose calls can be told to go wrong. For each file and kind of call there
is a queue of faults; a call takes the first fault of its queue and obeys it.
-/

namespace ManagementUnit.Simulation

/-- What a call is told to do: nothing special, to fail, or to fall short, where a read delivers and
a write reports so many bytes fewer. With `count` a write reports a count of its own. A write that
falls short or reports a count of its own stores nothing. -/
inductive Fault where
  | none
  | fail (reason : IoError)
  | short (bytes : Nat)
  | count (bytes : Nat)
deriving DecidableEq, Repr

/-- The kinds of calls that take faults. -/
inductive CallKind where
  | acquire
  | rewind
  | read
  | write
deriving DecidableEq, Repr

/-- The kind of call of a given name. -/
def CallKind.named? : String → Option CallKind
  | "open" => some .acquire
  | "rewind" => some .rewind
  | "read" => some .read
  | "write" => some .write
  | _ => .none

/-- A driver with scripted faults. `files` holds the files that exist; the contents of a register
there do not matter. `faults` are the faults to come, and `opened` is how many files were opened. -/
structure Scripted where
  files : Node → Option Bytes
  registers : Registers
  faults : Node → CallKind → List Fault
  opened : Nat

namespace Scripted

/-- A driver without files and without faults. -/
def initial : Scripted :=
  ⟨fun _ => none, .initial, fun _ _ => [], 0⟩

/-- The next fault of a call, and the driver without it. -/
def takeFault (driver : Scripted) (node : Node) (call : CallKind) : Fault × Scripted :=
  match driver.faults node call with
  | [] => (.none, driver)
  | fault :: faults =>
    (fault, { driver with
      faults := assign driver.faults node (assign (driver.faults node) call faults) })

/-- Something that is set on a driver from outside, between the calls of a client. New faults go to
the end of their queue. -/
inductive Change where
  | registers (change : Registers.Change)
  | setFile (node : Node) (contents : Bytes)
  | removeFile (node : Node)
  | addFaults (node : Node) (call : CallKind) (faults : List Fault)
deriving DecidableEq, Repr

/-- The driver after a change. -/
def apply (driver : Scripted) : Change → Scripted
  | .registers change => { driver with registers := driver.registers.apply change }
  | .setFile node contents => { driver with files := assign driver.files node (some contents) }
  | .removeFile node => { driver with files := assign driver.files node none }
  | .addFaults node call faults =>
    { driver with
      faults := assign driver.faults node
        (assign (driver.faults node) call (driver.faults node call ++ faults)) }

/-- What a file gives when it is read. A file that is gone gives nothing. -/
def contents (driver : Scripted) (node : Node) : Bytes :=
  (driver.registers.contents? node).getD ((driver.files node).getD [])

/-- Opens a file. -/
def acquire (node : Node) (_access : Access) (driver : Scripted) :
    Except IoError Nat × Scripted :=
  match driver.takeFault node .acquire with
  | (.fail reason, driver) => (.error reason, driver)
  | (_, driver) =>
    if (driver.files node).isSome then
      (.ok driver.opened, { driver with opened := driver.opened + 1 })
    else (.error (.kind .notFound), driver)

/-- Repositions a file. -/
def rewind (handle : Handle) (driver : Scripted) : Except IoError Unit × Scripted :=
  match driver.takeFault handle.node .rewind with
  | (.fail reason, driver) => (.error reason, driver)
  | (_, driver) => (.ok (), driver)

/-- Reads from the start of a file. -/
def read (handle : Handle) (limit : Nat) (driver : Scripted) :
    Except IoError { bytes : Bytes // bytes.length ≤ limit } × Scripted :=
  match driver.takeFault handle.node .read with
  | (.fail reason, driver) => (.error reason, driver)
  | (.short missing, driver) =>
    let delivered := (driver.contents handle.node).take limit
    (.ok ⟨delivered.take (delivered.length - missing), by grind⟩, driver)
  | (_, driver) => (.ok ⟨(driver.contents handle.node).take limit, by grind⟩, driver)

/-- Writes to a file. -/
def write (handle : Handle) (bytes : Bytes) (driver : Scripted) :
    Except IoError Nat × Scripted :=
  match driver.takeFault handle.node .write with
  | (.fail reason, driver) => (.error reason, driver)
  | (.short missing, driver) => (.ok (bytes.length - missing), driver)
  | (.count count, driver) => (.ok count, driver)
  | (.none, driver) =>
    match driver.registers.store? handle.node bytes with
    | some registers => (.ok bytes.length, { driver with registers })
    | none => (.error (.kind .invalidInput), driver)

/-- The driver's answers. Closing a file changes nothing. -/
def driver : Driver Scripted where
  acquire := acquire
  rewind := rewind
  read := read
  write := write
  close _ state := state

end Scripted

end ManagementUnit.Simulation
