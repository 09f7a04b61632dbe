import ManagementUnit.Session.Step

/-!
# Workbenches

A workbench holds one session and, beside it, handles under names of one's own. It serves for using
a session and looking at the driver's files at the same time, step by step.
-/

namespace ManagementUnit

/-- A session and named handles beside it. A name occurs once. -/
structure Workbench where
  session : Session
  slots : List (String × Handle)

namespace Workbench

/-- A workbench with nothing on it. -/
def empty : Workbench := ⟨.zero, []⟩

/-- One use of a workbench: a step of its session, a new connected session in the place of the
session, or the opening, the use and the closing of a named handle. -/
inductive Request where
  | step (step : Session.Step)
  | start
  | acquire (slot : String) (node : Node) (access : Access)
  | write (slot : String) (bytes : Bytes)
  | readBlock (slot : String) (length : Nat)
  | readSome (slot : String) (limit : Nat)
  | close (slot : String)
deriving Repr

/-- What a use of a workbench tells. A closing tells whether there was a handle of the name, and a
transfer without one is `vacant`. -/
inductive Answer where
  | step (result : Session.Result)
  | settled (status : Except Error Unit)
  | acquired (handle : Except IoError Handle)
  | bytes (bytes : Except Error Bytes)
  | closed (found : Bool)
  | vacant

/-- The handle of a name. -/
def slot? (bench : Workbench) (slot : String) : Option Handle :=
  bench.slots.lookup slot

/-- The workbench without the handle of a name. -/
def clear (bench : Workbench) (slot : String) : Workbench :=
  { bench with slots := bench.slots.filter fun entry => entry.1 != slot }

/-- The workbench with a handle under a name. -/
def place (bench : Workbench) (slot : String) (handle : Handle) : Workbench :=
  { bench.clear slot with slots := (slot, handle) :: (bench.clear slot).slots }

/-- Serves one use. A handle whose name is taken by another is closed once the other is open. A new
session that cannot be connected leaves the old one in its place. -/
def perform (bench : Workbench) : Request → Dialogue (Answer × Workbench)
  | .step step => do
    let (result, session) ← bench.session.perform step
    return (.step result, { bench with session })
  | .start => do
    match ← Session.start.run with
    | .ok session =>
      bench.session.release
      return (.settled (.ok ()), { bench with session })
    | .error error => return (.settled (.error error), bench)
  | .acquire slot node access => do
    match ← Dialogue.acquire node access with
    | .ok handle =>
      Dialogue.closeAll (bench.slot? slot).toList
      return (.acquired (.ok handle), bench.place slot handle)
    | .error reason => return (.acquired (.error reason), bench)
  | .write slot bytes =>
    match bench.slot? slot with
    | some handle => return (.settled (← (handle.writeBlock bytes).run), bench)
    | none => return (.vacant, bench)
  | .readBlock slot length =>
    match bench.slot? slot with
    | some handle => return (.bytes (← (handle.readBlock length).run), bench)
    | none => return (.vacant, bench)
  | .readSome slot limit =>
    match bench.slot? slot with
    | some handle => return (.bytes (← (handle.readSome limit).run), bench)
    | none => return (.vacant, bench)
  | .close slot => do
    Dialogue.closeAll (bench.slot? slot).toList
    return (.closed (bench.slot? slot).isSome, bench.clear slot)

end Workbench

end ManagementUnit
