import ManagementUnit.Proofs.Dialogue.Only
import ManagementUnit.Proofs.Session.Connection

/-!
# What is written, and by whom

Detecting capabilities, connecting and disconnecting, and reading the power table write nothing. The
other requests write only blocks of their own.

* `Session.outgoing_of_mem` — the blocks that a step can write.
-/

namespace ManagementUnit

open Dialogue

/-- The action writes nothing. -/
def Action.Quiet : Action → Prop
  | .write .. => False
  | _ => True

variable {P : Action → Prop}

namespace Handle

variable {handle : Handle}

theorem only_readSome {limit : Nat} : Only Action.Quiet (handle.readSome limit).run := by
  intro trace result produced
  cases produces_readSome_iff.mp produced <;> simp [Action.Quiet]

theorem only_fill {length : Nat} : Only Action.Quiet (handle.fill length) := by
  refine only_readSome.bind ?_
  intro result
  cases result with
  | ok bytes =>
      dsimp only
      split
      · exact only_done _
      · exact (only_ask trivial).bind fun _ => only_done _
  | error error => exact only_done _

theorem only_readBlock {length : Nat} : Only Action.Quiet (handle.readBlock length).run :=
  only_fill.map

theorem only_writeBlock {bytes : Bytes} (quiet : ∀ action, action.Quiet → P action)
    (write : P (.write handle bytes)) : Only P (handle.writeBlock bytes).run := by
  have rewind := quiet (.rewind handle) trivial
  have note := fun notice => quiet (.note notice) trivial
  intro trace result produced
  cases produces_writeBlock_iff.mp produced <;> simp [rewind, note, write]

theorem only_closing {α : Type} {attempt : Attempt α} (only : Only Action.Quiet attempt.run) :
    Only Action.Quiet (handle.closing attempt).run :=
  only.bind fun _ => (only_ask trivial).bind fun _ => only_done _

end Handle

theorem Node.only_acquire {node : Node} : Only Action.Quiet node.acquire :=
  (only_ask trivial).bind fun _ => only_done _

namespace Capabilities

theorem only_acquireDescription {node : Node} :
    Only Action.Quiet (acquireDescription node).run := by
  refine Attempt.only_bind (Attempt.only_lift Node.only_acquire) ?_
  intro result
  cases result with
  | ok handle => exact Attempt.only_pure handle
  | error reason => exact Attempt.only_fail trivial

theorem only_describe {α : Type} {node : Node} {limit : Nat} {parse : Bytes → Except Error α}
    {malformed : Bytes → Notice} :
    Only Action.Quiet (describe node limit parse malformed).run := by
  refine Attempt.only_bind only_acquireDescription fun handle => Handle.only_closing ?_
  refine Attempt.only_bind Handle.only_readSome ?_
  intro text
  cases parse text with
  | ok value => exact Attempt.only_pure value
  | error error => exact Attempt.only_fail trivial

theorem only_detectTable : Only Action.Quiet detectTable.run := by
  refine Attempt.only_bind (Attempt.only_lift Node.only_acquire) ?_
  intro result
  cases result with
  | error reason =>
      exact Attempt.only_bind (Attempt.only_lift (only_ask trivial)) fun _ => only_done _
  | ok handle =>
      refine Attempt.only_bind (Handle.only_closing Handle.only_readBlock) fun version => ?_
      refine Attempt.only_bind (Attempt.only_lift Node.only_acquire) ?_
      intro result
      cases result with
      | error reason => exact Attempt.only_fail trivial
      | ok handle =>
          exact Attempt.only_bind (Handle.only_closing Handle.only_readBlock) fun _ => only_done _

theorem only_detect : Only Action.Quiet detect.run :=
  Attempt.only_bind only_describe fun _ => Attempt.only_bind only_describe fun _ =>
    Attempt.only_bind only_detectTable fun _ => only_done _

end Capabilities

namespace Session

variable {session : Session}

theorem only_release : Only Action.Quiet session.release :=
  only_closeAll fun _ => trivial

theorem only_disconnect : Only Action.Quiet session.disconnect := by
  have closing : Only Action.Quiet (session.release >>= fun _ => return zero) :=
    only_release.bind fun _ => only_done _
  unfold disconnect
  cases session.channels.isEmpty with
  | true => exact closing
  | false => exact (only_ask trivial).bind fun _ => closing

theorem only_openChannels {nodes : List Node} : Only Action.Quiet (openChannels nodes session) := by
  induction nodes generalizing session with
  | nil => exact only_done _
  | cons node nodes ih =>
      refine Node.only_acquire.bind ?_
      intro result
      cases result with
      | ok handle => exact ih
      | error reason => exact (only_ask trivial).bind fun _ => only_done _

theorem only_announce {capabilities : Capabilities} :
    Only Action.Quiet (announce capabilities) := by
  refine (only_ask trivial).bind fun _ => ?_
  split
  · exact only_ask trivial
  · exact only_ask trivial

theorem only_connect : Only Action.Quiet session.connect := by
  refine only_disconnect.bind fun freed => Capabilities.only_detect.bind ?_
  intro result
  cases result with
  | error error => exact only_done _
  | ok capabilities =>
      refine only_openChannels.bind ?_
      rintro ⟨status, filled⟩
      cases status with
      | error error => exact only_done _
      | ok done => exact only_announce.bind fun _ => only_done _

theorem only_readTable {length : Nat} : Only Action.Quiet (session.readTable length) := by
  unfold readTable
  split
  · split
    · exact Handle.only_fill
    · exact only_done _
  · exact only_done _

theorem only_takeSnapshot : Only Action.Quiet session.takeSnapshot.run := by
  unfold takeSnapshot
  dsimp only
  split
  · exact Attempt.only_bind only_readTable.map fun _ => only_done _
  · exact Attempt.only_throw _

/-! ### Requests that write -/

theorem only_channel_bind {α : Type} {held : Option Handle} {f : Handle → Attempt α}
    (only : ∀ handle, held = some handle → Only P (f handle).run) :
    Only P (channel held >>= f).run := by
  cases held with
  | none => exact only_done _
  | some handle => exact only handle rfl

theorem only_readRegister {address : UInt32} (quiet : ∀ action, action.Quiet → P action)
    (write : ∀ smn, session.smn = some smn → P (.write smn (RegisterRequest.select address))) :
    Only P (session.readRegister address).run := by
  refine only_channel_bind fun smn held => ?_
  refine Attempt.only_bind (Handle.only_writeBlock quiet (write smn held)) fun _ => ?_
  exact Attempt.only_bind (Handle.only_readBlock.mono quiet) fun _ => only_done _

/-- A command writes two blocks, one on each of its channels. -/
theorem only_exchange {opcode : UInt32} {arguments : ArgumentBlock}
    (quiet : ∀ action, action.Quiet → P action)
    (command : ∀ smuCmd, session.smuCmd = some smuCmd → P (.write smuCmd (Word.encode opcode)))
    (arguing : ∀ smuArgs, session.smuArgs = some smuArgs → P (.write smuArgs arguments.encode)) :
    Only P (session.exchange opcode arguments).run := by
  refine only_channel_bind fun smuCmd commanded => only_channel_bind fun smuArgs argued => ?_
  refine Attempt.only_bind (Handle.only_writeBlock quiet (arguing smuArgs argued)) fun _ => ?_
  refine Attempt.only_bind (Handle.only_writeBlock quiet (command smuCmd commanded)) fun _ => ?_
  refine Attempt.only_bind (Handle.only_readBlock.mono quiet) fun word => ?_
  dsimp only
  split
  · exact Attempt.only_fail (quiet _ trivial)
  · exact Attempt.only_bind (Handle.only_readBlock.mono quiet) fun _ => only_done _

/-- The blocks that a step may write, and where. -/
inductive Outgoing (session : Session) : Step → Handle → Bytes → Prop where
  | select {smn : Handle} (held : session.smn = some smn) (address : UInt32) :
      Outgoing session (.readRegister address) smn (RegisterRequest.select address)
  | store {smn : Handle} (held : session.smn = some smn) (address value : UInt32) :
      Outgoing session (.writeRegister address value) smn (RegisterRequest.store address value)
  | opcode {smuCmd : Handle} (held : session.smuCmd = some smuCmd) (opcode : UInt32)
      (arguments : ArgumentBlock) :
      Outgoing session (.execute opcode arguments) smuCmd (Word.encode opcode)
  | arguments {smuArgs : Handle} (held : session.smuArgs = some smuArgs) (opcode : UInt32)
      (arguments : ArgumentBlock) :
      Outgoing session (.execute opcode arguments) smuArgs arguments.encode

/-- Whatever a step writes is one of its outgoing blocks. -/
theorem outgoing_of_mem {step : Step} {trace : Trace} {result : Result × Session} {handle : Handle}
    {bytes : Bytes} {reply : Except IoError Nat}
    (produced : (session.perform step).Produces trace result)
    (member : ⟨.write handle bytes, reply⟩ ∈ trace) : session.Outgoing step handle bytes := by
  -- A quiet action is no write, so whatever is quiet needs no further look.
  have quiet : ∀ action : Action, action.Quiet → ∀ handle bytes, action = .write handle bytes →
      session.Outgoing step handle bytes := by
    rintro _ still handle bytes rfl
    exact still.elim
  have only : Only (fun action => ∀ handle bytes, action = .write handle bytes →
      session.Outgoing step handle bytes) (session.perform step) := by
    cases step with
    | connect => exact (only_connect.mono quiet).bind fun _ => only_done _
    | disconnect => exact (only_disconnect.mono quiet).bind fun _ => only_done _
    | renew => exact (only_release.mono quiet).bind fun _ => only_done _
    | detect => exact (Capabilities.only_detect.mono quiet).bind fun _ => only_done _
    | readRegister address =>
        refine Only.bind (only_readRegister quiet ?_) fun _ => only_done _
        rintro smn held _ _ ⟨⟩
        exact .select held address
    | writeRegister address value =>
        refine Only.bind (only_channel_bind fun smn held => ?_) fun _ => only_done _
        refine Handle.only_writeBlock quiet ?_
        rintro _ _ ⟨⟩
        exact .store held address value
    | execute opcode arguments =>
        refine Only.bind ?_ fun _ => only_done _
        refine Only.bind (only_exchange quiet ?_ ?_) ?_
        · rintro smuCmd held _ _ ⟨⟩
          exact .opcode held opcode arguments
        · rintro smuArgs held _ _ ⟨⟩
          exact .arguments held opcode arguments
        · intro result
          cases result with
          | ok response => exact only_done _
          | error error => exact only_done _
    | readTable length => exact (only_readTable.mono quiet).bind fun _ => only_done _
    | takeSnapshot => exact (only_takeSnapshot.mono quiet).bind fun _ => only_done _
  exact only trace result produced _ member handle bytes rfl

end Session

end ManagementUnit
