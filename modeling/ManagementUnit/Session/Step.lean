import ManagementUnit.Dialogue.Trace
import ManagementUnit.Session.Requests

/-!
# Runs of a session

A `Session.Step` is anything a client does with its session, and a run is a list of steps. Every
step tells its result and leaves a session; a run gives all results and the last session.
-/

namespace ManagementUnit.Session

/-- One use of a session. `renew` gives the session up for a new one, `detect` detects the
capabilities beside the session, and `readTable` reads the power table into a buffer of a length. -/
inductive Step where
  | connect
  | disconnect
  | renew
  | detect
  | readRegister (address : UInt32)
  | writeRegister (address value : UInt32)
  | execute (opcode : UInt32) (arguments : ArgumentBlock)
  | readTable (length : Nat)
  | takeSnapshot
deriving DecidableEq, Repr

/-- What a step tells: only whether it succeeded, or with it what it read. A command tells the
argument block after it whether it succeeded or not. -/
inductive Result where
  | settled (status : Except Error Unit)
  | detected (capabilities : Except Error Capabilities)
  | value (word : Except Error UInt32)
  | executed (status : Except Error Unit) (block : ArgumentBlock)
  | table (delivery : Delivery)
  | snapshot (copy : Except Error PowerTable.Snapshot)

/-- Whether a step succeeded, and its error if not. -/
def Result.status : Result → Except Error Unit
  | .settled status => status
  | .detected capabilities => capabilities.map fun _ => ()
  | .value word => word.map fun _ => ()
  | .executed status _ => status
  | .table delivery => delivery.status
  | .snapshot copy => copy.map fun _ => ()

/-- Takes a step: its result, and the session after it. -/
def perform (session : Session) : Step → Dialogue (Result × Session)
  | .connect => do
    let (status, session) ← session.connect
    return (.settled status, session)
  | .disconnect => do
    return (.settled (.ok ()), ← session.disconnect)
  | .renew => do
    session.release
    return (.settled (.ok ()), zero)
  | .detect => do
    return (.detected (← Capabilities.detect.run), session)
  | .readRegister address => do
    return (.value (← (session.readRegister address).run), session)
  | .writeRegister address value => do
    return (.settled (← (session.writeRegister address value).run), session)
  | .execute opcode arguments => do
    let (status, block) ← session.execute opcode arguments
    return (.executed status block, session)
  | .readTable length => do
    return (.table (← session.readTable length), session)
  | .takeSnapshot => do
    return (.snapshot (← session.takeSnapshot.run), session)

/-- Takes steps one after the other. -/
def performAll (session : Session) : List Step → Dialogue (List Result × Session)
  | [] => return ([], session)
  | step :: steps => do
    let (result, session) ← session.perform step
    let (results, session) ← performAll session steps
    return (result :: results, session)

/-- A session that some run leaves, starting from nothing, whatever the driver replies. -/
def Reachable (session : Session) : Prop :=
  ∃ steps trace results, (zero.performAll steps).Produces trace (results, session)

end ManagementUnit.Session
