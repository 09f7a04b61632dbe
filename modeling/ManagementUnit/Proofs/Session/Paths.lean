import ManagementUnit.Proofs.Session.Invariant
import ManagementUnit.Proofs.Session.Steps

/-!
# The request paths

A request takes one of three paths, each with files of its own. It calls no others, neither opens
nor closes a file, and leaves the session as it is.

* `Performs.within` — a request keeps to its path.
-/

namespace ManagementUnit

/-- The paths that requests take: reading and writing registers, executing commands, and reading the
power table. -/
inductive RequestPath where
  | registers
  | commands
  | table
deriving DecidableEq, Repr

/-- The path that a file belongs to. -/
def Node.requestPath? : Node → Option RequestPath
  | .smn => some .registers
  | .smuCmd => some .commands
  | .smuArgs => some .commands
  | .pmTable => some .table
  | _ => none

/-- The action is a call on an open file of this part, or no call. -/
def Action.Within (part : Option RequestPath) : Action → Prop
  | .rewind handle => handle.node.requestPath? = part
  | .read handle _ => handle.node.requestPath? = part
  | .write handle _ => handle.node.requestPath? = part
  | .note _ => True
  | .acquire .. => False
  | .close _ => False

/-- All actions of the trace are within a part. -/
def Trace.Within (part : Option RequestPath) (trace : Trace) : Prop :=
  ∀ event ∈ trace, event.action.Within part

namespace Trace.Within

variable {part : Option RequestPath}

theorem nil : Within part [] :=
  List.forall_mem_nil _

theorem cons {event : Event} {trace : Trace} (first : event.action.Within part)
    (rest : Within part trace) : Within part (event :: trace) :=
  List.forall_mem_cons.mpr ⟨first, rest⟩

theorem append {first rest : Trace} (before : Within part first) (after : Within part rest) :
    Within part (first ++ rest) :=
  List.forall_mem_append.mpr ⟨before, after⟩

end Trace.Within

variable {part : Option RequestPath} {trace : Trace}

/-! ### Transfers -/

namespace Handle

variable {handle : Handle}

theorem Writes.within {bytes : Bytes} {result : Except Error Unit}
    (writes : handle.Writes bytes trace result) (place : handle.node.requestPath? = part) :
    trace.Within part := by
  cases writes <;> simp [Trace.Within, Action.Within, place]

theorem ReadsSome.within {limit : Nat} {result : Except Error Bytes}
    (reads : handle.ReadsSome limit trace result) (place : handle.node.requestPath? = part) :
    trace.Within part := by
  cases reads <;> simp [Trace.Within, Action.Within, place]

theorem Fills.within {length : Nat} {delivery : Delivery}
    (fills : handle.Fills length trace delivery) (place : handle.node.requestPath? = part) :
    trace.Within part := by
  cases fills with
  | failed reads | whole reads full => exact reads.within place
  | short reads partly => exact (reads.within place).append (.cons trivial .nil)

end Handle

namespace Session

open Dialogue

/-- The path of a step that is a request. -/
def Step.requestPath? : Step → Option RequestPath
  | .readRegister _ => some .registers
  | .writeRegister _ _ => some .registers
  | .execute _ _ => some .commands
  | .readTable _ => some .table
  | .takeSnapshot => some .table
  | .connect => none
  | .disconnect => none
  | .renew => none
  | .detect => none

variable {session next : Session} {step : Step} {result : Result} {path : RequestPath}

/-! ### Requests -/

theorem Fetches.within {smn : Handle} {address : UInt32} {result : Except Error UInt32}
    (fetches : Fetches smn address trace result) (place : smn.node.requestPath? = part) :
    trace.Within part := by
  cases fetches with
  | unselected selects => exact selects.within place
  | unread selects reads | fetched selects reads =>
      exact (selects.within place).append (reads.within place)

section Commands

variable {smuCmd smuArgs : Handle} {opcode : UInt32} {arguments : ArgumentBlock}

theorem Begins.within (begins : Begins smuCmd smuArgs opcode arguments trace)
    (command : smuCmd.node.requestPath? = part) (arguing : smuArgs.node.requestPath? = part) :
    trace.Within part := by
  cases begins with
  | begun sends starts => exact (sends.within arguing).append (starts.within command)

theorem Exchanges.within {result : Except Error ArgumentBlock}
    (exchanges : Exchanges smuCmd smuArgs opcode arguments trace result)
    (command : smuCmd.node.requestPath? = part) (arguing : smuArgs.node.requestPath? = part) :
    trace.Within part := by
  cases exchanges with
  | unsent sends => exact sends.within arguing
  | unstarted sends starts => exact (sends.within arguing).append (starts.within command)
  | unreported begins reports =>
      exact (begins.within command arguing).append (reports.within command)
  | refused begins reports refusal =>
      exact ((begins.within command arguing).append (reports.within command)).append
        (.cons trivial .nil)
  | unanswered begins reports success answers | answered begins reports success answers =>
      exact ((begins.within command arguing).append (reports.within command)).append
        (answers.within arguing)

end Commands

/-- A request calls only the files of its path. -/
theorem Performs.within (consistent : session.Consistent) (asks : step.requestPath? = some path)
    (performs : session.Performs step trace result next) : trace.Within (some path) := by
  have place (node : Node) {handle : Handle} (held : session.held node = some handle) :
      handle.node.requestPath? = node.requestPath? :=
    congrArg Node.requestPath? (consistent.node_of_held held)
  rw [← asks]
  cases performs with
  | connect | disconnect | renew | detect => cases asks
  | readRegister isOpen fetches => exact fetches.within (place .smn isOpen)
  | writeRegister isOpen writes => exact writes.within (place .smn isOpen)
  | execute command arguing exchanges =>
      exact exchanges.within (place .smuCmd command) (place .smuArgs arguing)
  | readTable isOpen fills | takeSnapshot supported isOpen fills =>
      exact fills.within (place .pmTable isOpen)
  | refused refuses => exact .nil

/-- A request leaves the session as it is. -/
theorem Performs.next_eq (asks : step.requestPath? = some path)
    (performs : session.Performs step trace result next) : next = session := by
  cases performs with
  | connect | disconnect | renew => cases asks
  | detect | readRegister | writeRegister | execute | readTable | takeSnapshot | refused => rfl

end Session

end ManagementUnit
