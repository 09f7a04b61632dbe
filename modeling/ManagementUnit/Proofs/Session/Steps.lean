import ManagementUnit.Proofs.Detection.Visits
import ManagementUnit.Proofs.Session.Exchange
import ManagementUnit.Proofs.Session.Registers
import ManagementUnit.Proofs.Session.Table

/-!
# What a step can do

`Session.Performs` lists the ways in which a step goes: its trace, its result and the session that
it leaves. A request whose channel is not open, and a power table request that does not fit the
table, is refused without an event.

* `Session.Performs.of_produces` — the list is complete.
-/

namespace ManagementUnit.Session

open Dialogue

/-- The requests that are refused, with the result that says so. -/
inductive Refuses (session : Session) : Step → Result → Prop where
  | readRegister (closed : session.smn = none) (address : UInt32) :
      Refuses session (.readRegister address) (.value (.error .transferFailed))
  | writeRegister (closed : session.smn = none) (address value : UInt32) :
      Refuses session (.writeRegister address value) (.settled (.error .transferFailed))
  | execute (closed : session.smuCmd = none ∨ session.smuArgs = none) (opcode : UInt32)
      (arguments : ArgumentBlock) :
      Refuses session (.execute opcode arguments)
        (.executed (.error .transferFailed) arguments)
  | readTable (closed : session.pmTable = none) :
      Refuses session (.readTable session.capabilities.table.length)
        (.table ⟨.error .transferFailed, []⟩)
  | misfit {length : Nat} (misfit : length ≠ session.capabilities.table.length) :
      Refuses session (.readTable length) (.table ⟨.error .wrongSize, []⟩)
  | takeSnapshot (supported : session.tableSupported = true) (closed : session.pmTable = none) :
      Refuses session .takeSnapshot (.snapshot (.error .transferFailed))
  | unsupported (unsupported : session.tableSupported = false) :
      Refuses session .takeSnapshot (.snapshot (.error .unsupported))

/-- The closings of a session that is given up. -/
def closings (session : Session) : Trace :=
  session.handles.map fun handle => ⟨.close handle, ()⟩

/-- The ways in which a step goes. -/
inductive Performs (session : Session) : Step → Trace → Result → Session → Prop where
  | connect {rest : Trace} {status : Except Error Unit} {next : Session}
      (connects : Connects rest status next) :
      Performs session .connect (session.farewell ++ session.closings ++ rest) (.settled status)
        next
  | disconnect :
      Performs session .disconnect (session.farewell ++ session.closings) (.settled (.ok ())) zero
  | renew : Performs session .renew session.closings (.settled (.ok ())) zero
  | detect {trace : Trace} {result : Except Error Capabilities}
      (detects : Capabilities.Detects trace result) :
      Performs session .detect trace (.detected result) session
  | readRegister {smn : Handle} {address : UInt32} {trace : Trace} {result : Except Error UInt32}
      (isOpen : session.smn = some smn) (fetches : Fetches smn address trace result) :
      Performs session (.readRegister address) trace (.value result) session
  | writeRegister {smn : Handle} {address value : UInt32} {trace : Trace}
      {status : Except Error Unit} (isOpen : session.smn = some smn)
      (writes : smn.Writes (RegisterRequest.store address value) trace status) :
      Performs session (.writeRegister address value) trace (.settled status) session
  | execute {smuCmd smuArgs : Handle} {opcode : UInt32} {arguments : ArgumentBlock} {trace : Trace}
      {result : Except Error ArgumentBlock} (command : session.smuCmd = some smuCmd)
      (arguing : session.smuArgs = some smuArgs)
      (exchanges : Exchanges smuCmd smuArgs opcode arguments trace result) :
      Performs session (.execute opcode arguments) trace
        (.executed (result.map fun _ => ()) (result.toOption.getD arguments)) session
  | readTable {handle : Handle} {trace : Trace} {delivery : Delivery}
      (isOpen : session.pmTable = some handle)
      (fills : handle.Fills session.capabilities.table.length trace delivery) :
      Performs session (.readTable session.capabilities.table.length) trace (.table delivery)
        session
  | takeSnapshot {handle : Handle} {trace : Trace} {delivery : Delivery}
      (supported : session.tableSupported = true) (isOpen : session.pmTable = some handle)
      (fills : handle.Fills session.capabilities.table.length trace delivery) :
      Performs session .takeSnapshot trace
        (.snapshot (delivery.block.map (PowerTable.Snapshot.mk session.capabilities.table))) session
  | refused {step : Step} {result : Result} (refuses : session.Refuses step result) :
      Performs session step [] result session

/-- The ways that `Performs` lists are all there are. Whatever a step can do is known from here on
by cases of it, and no definition of a request is opened again. -/
theorem Performs.of_produces {session next : Session} {step : Step} {trace : Trace}
    {result : Result} (produced : (session.perform step).Produces trace (result, next)) :
    session.Performs step trace result next := by
  cases step with
  | connect =>
      obtain ⟨⟨status, reached⟩, connected, same⟩ := produces_bind_done_iff.mp produced
      cases same
      obtain ⟨rest, rfl, connects⟩ := produces_connect_iff.mp connected
      exact .connect connects
  | disconnect =>
      obtain ⟨reached, disconnected, same⟩ := produces_bind_done_iff.mp produced
      cases same
      obtain ⟨rfl, rfl⟩ := produces_disconnect_iff.mp disconnected
      exact .disconnect
  | renew =>
      obtain ⟨released, done, same⟩ := produces_bind_done_iff.mp produced
      cases same
      rw [produces_release_iff.mp done]
      exact .renew
  | detect =>
      obtain ⟨value, detected, same⟩ := produces_bind_done_iff.mp produced
      cases same
      exact .detect (.of_produces detected)
  | readRegister address =>
      obtain ⟨value, read, same⟩ := produces_bind_done_iff.mp produced
      cases same
      rcases produces_readRegister_iff.mp read with ⟨smn, isOpen, fetches⟩ | ⟨closed, rfl, rfl⟩
      · exact .readRegister isOpen fetches
      · exact .refused (.readRegister closed address)
  | writeRegister address value =>
      obtain ⟨status, written, same⟩ := produces_bind_done_iff.mp produced
      cases same
      rcases produces_writeRegister_iff.mp written with ⟨smn, isOpen, writes⟩ | ⟨closed, rfl, rfl⟩
      · exact .writeRegister isOpen writes
      · exact .refused (.writeRegister closed address value)
  | execute opcode arguments =>
      obtain ⟨⟨status, block⟩, executed, same⟩ := produces_bind_done_iff.mp produced
      cases same
      obtain ⟨result, exchanged, rfl, rfl⟩ := produces_execute_iff.mp executed
      rcases produces_exchange_cases exchanged with
        ⟨closed, rfl, rfl⟩ | ⟨smuCmd, smuArgs, command, arguing, exchanges⟩
      · exact .refused (.execute closed opcode arguments)
      · exact .execute command arguing exchanges
  | readTable length =>
      obtain ⟨delivery, read, same⟩ := produces_bind_done_iff.mp produced
      cases same
      rcases produces_readTable_iff.mp read with
        ⟨rfl, ⟨handle, isOpen, fills⟩ | ⟨closed, rfl, rfl⟩⟩ | ⟨misfit, rfl, rfl⟩
      · exact .readTable isOpen fills
      · exact .refused (.readTable closed)
      · exact .refused (.misfit misfit)
  | takeSnapshot =>
      obtain ⟨copy, taken, same⟩ := produces_bind_done_iff.mp produced
      cases same
      rcases produces_takeSnapshot_iff.mp taken with
        ⟨supported, delivery, read, rfl⟩ | ⟨unsupported, rfl, rfl⟩
      · rcases produces_readTable_iff.mp read with
          ⟨-, ⟨handle, isOpen, fills⟩ | ⟨closed, rfl, rfl⟩⟩ | ⟨misfit, -, -⟩
        · exact .takeSnapshot supported isOpen fills
        · exact .refused (.takeSnapshot supported closed)
        -- The buffer of a snapshot has the right size by itself.
        · exact absurd rfl misfit
      · exact .refused (.unsupported unsupported)

section Lifecycle

variable {session next : Session} {trace : Trace} {result : Result}

theorem Performs.of_connect (performs : session.Performs .connect trace result next) :
    ∃ status rest, Connects rest status next ∧
      trace = session.farewell ++ session.closings ++ rest := by
  cases performs with
  | connect connects => exact ⟨_, _, connects, rfl⟩
  | refused refuses => cases refuses

theorem Performs.of_disconnect (performs : session.Performs .disconnect trace result next) :
    trace = session.farewell ++ session.closings ∧ next = zero := by
  cases performs with
  | disconnect => exact ⟨rfl, rfl⟩
  | refused refuses => cases refuses

theorem Performs.of_renew (performs : session.Performs .renew trace result next) :
    trace = session.closings ∧ next = zero := by
  cases performs with
  | renew => exact ⟨rfl, rfl⟩
  | refused refuses => cases refuses

end Lifecycle

/-- A run takes its first step and goes on from there. -/
theorem exists_of_produces_performAll_cons {session next : Session} {step : Step}
    {steps : List Step} {trace : Trace} {results : List Result}
    (produced : (session.performAll (step :: steps)).Produces trace (results, next)) :
    ∃ first rest result middle others, trace = first ++ rest ∧ results = result :: others ∧
      (session.perform step).Produces first (result, middle) ∧
      (middle.performAll steps).Produces rest (others, next) := by
  obtain ⟨first, rest, ⟨result, middle⟩, rfl, performed, after⟩ := produces_bind_iff.mp produced
  obtain ⟨⟨others, last⟩, performedAll, same⟩ := produces_bind_done_iff.mp after
  cases same
  exact ⟨first, rest, result, middle, others, rfl, rfl, performed, performedAll⟩

end ManagementUnit.Session
