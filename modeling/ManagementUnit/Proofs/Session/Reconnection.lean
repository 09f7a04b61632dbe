import ManagementUnit.Proofs.Dialogue.Run
import ManagementUnit.Proofs.Session.Accounts
import ManagementUnit.Simulation.Scripted

/-!
# Connecting anew

What a connection comes to depends on the driver alone. Of the session that it starts from nothing
is left but the closing of its channels, and a driver that does not mind closings is not even told
apart from one that nobody used before.

* `connect_run_eq` — connecting anew is connecting for the first time, after the closings.
* `Connects.established` — what a connection comes to, by how the detection went.
* `connect_forgets` — both for every session, driver and state.
-/

namespace ManagementUnit

open Dialogue

/-- The state of a driver after handles were closed. -/
def Driver.closeAll {σ : Type} (driver : Driver σ) (handles : List Handle) (state : σ) : σ :=
  handles.foldl (fun state handle => driver.close handle state) state

/-- The same outcome with something before it. -/
def Outcome.after {σ α : Type} (outcome : Outcome σ α) (past : Trace) : Outcome σ α :=
  { outcome with trace := past ++ outcome.trace }

theorem Driver.answers_closeAll {σ : Type} (driver : Driver σ) (handles : List Handle) (state : σ) :
    driver.Answers state (handles.map fun handle => ⟨.close handle, ()⟩)
      (driver.closeAll handles state) := by
  induction handles generalizing state with
  | nil => exact .nil state
  | cons handle handles ih => exact .cons (ih _)

/-- Closing a file does nothing to the scripted driver. -/
theorem Simulation.Scripted.closeAll_eq (handles : List Handle) (state : Simulation.Scripted) :
    Simulation.Scripted.driver.closeAll handles state = state := by
  induction handles with
  | nil => rfl
  | cons handle handles ih => exact ih

namespace Session

variable {σ : Type} {driver : Driver σ} {session next : Session} {trace : Trace}

/-! ### What is left of the session before -/

theorem answers_farewell (driver : Driver σ) (session : Session) (state : σ) :
    driver.Answers state session.farewell state := by
  unfold farewell
  split
  · exact .nil state
  · exact Driver.answers_note_iff.mpr (.nil state)

/-- Once the old channels are closed, a connection goes as it does from a session that is zero. -/
theorem connect_run_eq (driver : Driver σ) (session : Session) (state : σ) :
    session.connect.run driver state =
      (zero.connect.run driver (driver.closeAll session.handles state)).after
        (session.farewell ++ session.closings) := by
  obtain ⟨produced, answers⟩ :=
    run_spec driver zero.connect (driver.closeAll session.handles state)
  -- A session that holds nothing closes nothing.
  obtain ⟨rest, same, connects⟩ := produces_connect_iff.mp produced
  obtain rfl : _ = rest := same
  refine run_eq_iff.mpr ⟨produces_connect_iff.mpr ⟨_, rfl, connects⟩, ?_⟩
  rw [Driver.answers_append_iff]
  refine ⟨_, ?_, answers⟩
  rw [Driver.answers_append_iff]
  exact ⟨state, answers_farewell driver session state, driver.answers_closeAll _ state⟩

/-! ### What the connection comes to -/

/-- Channels are opened one after the other, each in its own mode, up to the first refusal. -/
theorem Opens.follows {nodes : List Node} {handles : List Handle} {status : Except Error Unit}
    (opens : Opens nodes trace handles status) :
    Trace.Follows Event.Whole (nodes.map fun node => .acquire node node.access) trace.calls
      status.isOk := by
  induction opens with
  | finished => exact .finished
  | refused node nodes reason => exact .stopped (by simp [Event.Whole])
  | opened serial rest ih => exact .continued ⟨serial, rfl⟩ ih

theorem Opens.opened_eq {nodes : List Node} {handles : List Handle} {status : Except Error Unit}
    (opens : Opens nodes trace handles status) : trace.opened = handles := by
  induction opens with
  | finished => rfl
  | refused node nodes reason => rfl
  | @opened node nodes trace handles status serial rest ih =>
      exact congrArg (⟨node, serial⟩ :: ·) ih

theorem Opens.error_eq {nodes : List Node} {handles : List Handle} {error : Error}
    (opens : Opens nodes trace handles (.error error)) : error = .transferFailed := by
  generalize failed : Except.error error = status at opens
  induction opens with
  | finished => cases failed
  | refused node nodes reason =>
      cases failed
      rfl
  | opened serial rest ih => exact ih failed

/-- How channels of these files are opened, and what the session keeps of it. At least one file is
opened, and they are opened in order, each in its own mode; an opening is the last one if it fails
or if there is no other file. The session keeps what was detected, and holds and shows what was
opened. It is ready if everything was opened, and the status tells whether it is. -/
structure Equipped (nodes : List Node) (capabilities : Capabilities) (opening : Trace)
    (status : Except Error Unit) (next : Session) : Prop where
  kept : next.capabilities = capabilities
  in_order : opening.calls ≠ [] ∧
    opening.calls.map Event.action <+: nodes.map fun node => .acquire node node.access
  last_iff : ∀ index event, opening.calls[index]? = some event →
    (opening.calls.length = index + 1 ↔ ¬ event.Whole ∨ index + 1 = nodes.length)
  held : next.handles = opening.opened
  shown : next.channels.nodes = opening.opened.map Handle.node
  ready_iff : next.ready = true ↔
    opening.calls.map Event.action = (nodes.map fun node => .acquire node node.access) ∧
      ∀ event ∈ opening.calls, event.Whole
  status_eq : status = if next.ready then .ok () else .error .transferFailed

/-- What a connection comes to, by how the detection goes: without capabilities nothing is opened
and the session is zero; otherwise the request channels of the platform are opened. -/
structure Established (driver : Driver σ) (state : σ)
    (outcome : Outcome σ (Except Error Unit × Session)) : Prop where
  undetected : ∀ error, (Capabilities.detect.run.run driver state).value = .error error →
    outcome.value = (.error error, zero) ∧
      outcome.state = (Capabilities.detect.run.run driver state).state ∧
      outcome.trace = (Capabilities.detect.run.run driver state).trace
  detected : ∀ capabilities,
    (Capabilities.detect.run.run driver state).value = .ok capabilities →
      ∃ opening, outcome.trace = (Capabilities.detect.run.run driver state).trace ++ opening ∧
        Equipped ([.smn, .smuCmd, .smuArgs] ++
            if capabilities.table.version ≠ 0 ∧ capabilities.table.size ≠ 0 then [.pmTable] else [])
          capabilities opening outcome.value.1 outcome.value.2

theorem requestNodes_eq (capabilities : Capabilities) :
    requestNodes capabilities = [.smn, .smuCmd, .smuArgs] ++
      if capabilities.table.version ≠ 0 ∧ capabilities.table.size ≠ 0 then [.pmTable] else [] := by
  simp [requestNodes, PowerTable.Info.supported]

/-- A connection that opened these channels has filled the session with them, and announcing the
session changes nothing. -/
theorem Opens.equipped {opening announcing : Trace} {capabilities : Capabilities}
    {opened : List Handle} {status : Except Error Unit}
    (opens : Opens (requestNodes capabilities) opening opened status)
    (silent : announcing.calls = [] ∧ announcing.opened = [])
    (consistent : (filled capabilities opened).Consistent) :
    Equipped (requestNodes capabilities) capabilities (opening ++ announcing) status
      (filled capabilities opened) := by
  have ordered := opens.nodes_isPrefix
  have calls : (opening ++ announcing).calls = opening.calls := by
    rw [Trace.calls_append, silent.1, List.append_nil]
  have held : (filled capabilities opened).handles = (opening ++ announcing).opened := by
    rw [Trace.opened_append, silent.2, List.append_nil, opens.opened_eq, handles_filled ordered]
  have ready : (filled capabilities opened).ready = status.isOk := by
    have all := opens.status_eq_ok_iff
    unfold filled
    cases status with
    | ok done => exact decide_eq_true (all.mp rfl)
    | error error => exact decide_eq_false fun complete => nomatch all.mpr complete
  refine { kept := ?_, in_order := ?_, last_iff := ?_, held, shown := ?_, ready_iff := ?_,
           status_eq := ?_ }
  · rw [filled_eq ordered]
  · rw [calls]
    exact ⟨opens.follows.ne_nil (List.cons_ne_nil _ _), opens.follows.actions_isPrefix⟩
  · rw [calls]
    intro index event found
    rw [opens.follows.length_eq_iff found, List.length_map]
  · rw [← held, consistent.map_node_handles]
  · rw [calls, ready]
    exact opens.follows.finished_iff
  · rw [ready]
    cases status with
    | ok done => rfl
    | error error => rw [opens.error_eq]; rfl

/-- The detection at the front of a connection goes as it does alone, since the driver answers it
from the same state. -/
theorem Connects.established {state last : σ} {status : Except Error Unit}
    (connects : Connects trace status next) (answers : driver.Answers state trace last) :
    Established driver state ⟨(status, next), last, trace⟩ := by
  have consistent := connects.consistent
  obtain ⟨error, detects, rfl, rfl⟩ |
    ⟨detecting, opening, announcing, capabilities, opened, rfl, detects, opens, announced, rfl⟩ :=
    connects.filled_cases
  · have probed := run_eq_iff.mpr ⟨detects, answers⟩
    constructor
    · rw [probed]
      rintro _ ⟨⟩
      exact ⟨rfl, rfl, rfl⟩
    · rw [probed]
      rintro _ ⟨⟩
  · obtain ⟨middle, probing, -⟩ := Driver.answers_append_iff.mp answers
    have probed := run_eq_iff.mpr ⟨detects, probing⟩
    constructor
    · rw [probed]
      rintro _ ⟨⟩
    · rw [probed]
      rintro _ ⟨⟩
      refine ⟨opening ++ announcing, rfl, ?_⟩
      rw [← requestNodes_eq]
      refine opens.equipped ?_ consistent
      rcases announced with rfl | rfl <;> exact ⟨rfl, rfl⟩

/-- A connection forgets what the session was before. With the scripted driver, whatever faults are
to come, it goes as the first connection of a new session would, but for the closings before it. -/
theorem connect_forgets (session : Session) :
    (∀ state, session.connect.run Simulation.Scripted.driver state =
      (zero.connect.run Simulation.Scripted.driver state).after
        (session.farewell ++ session.closings)) ∧
    ∀ {σ : Type} (driver : Driver σ) (state : σ),
      session.connect.run driver state =
        (zero.connect.run driver (driver.closeAll session.handles state)).after
          (session.farewell ++ session.closings) ∧
      Established driver state (zero.connect.run driver state) := by
  constructor
  · intro state
    rw [connect_run_eq, Simulation.Scripted.closeAll_eq]
  · intro σ driver state
    refine ⟨connect_run_eq driver session state, ?_⟩
    obtain ⟨produced, answers⟩ := run_spec driver zero.connect state
    obtain ⟨rest, same, connects⟩ := produces_connect_iff.mp produced
    obtain rfl : _ = rest := same
    exact connects.established answers

end Session

end ManagementUnit
