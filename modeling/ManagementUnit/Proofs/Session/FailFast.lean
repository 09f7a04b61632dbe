import ManagementUnit.Proofs.Detection.Prompt
import ManagementUnit.Proofs.Session.Paths
import ManagementUnit.Proofs.Session.Reconnection

/-!
# Failing fast

Every step gives up at the first call that does not go well: at most, files are closed after that,
and the error is the one for the call. The one exception is a connection, or a detection, that
misses the version file of the power table. It goes on as on a platform without power tables.

* `Performs.prompt` — every step gives up at once.
* `Performs.untabled` — the exception.
* `fails_fast` — both for all reachable sessions.
-/

namespace ManagementUnit

open Dialogue

theorem Trace.Idle.strict {trace : Trace} (idle : trace.Idle) : trace.Strict := by
  rintro ⟨action, reply⟩ member excused
  cases action with
  | acquire node access => exact idle _ member trivial
  | rewind handle | read handle limit | write handle bytes | close handle | note notice =>
      exact excused

/-- A request opens no file, and so it misses none. -/
theorem Trace.Within.strict {part : Option RequestPath} {trace : Trace}
    (within : trace.Within part) : trace.Strict := by
  rintro ⟨action, reply⟩ member excused
  cases action with
  | acquire node access => exact within _ member
  | rewind handle | read handle limit | write handle bytes | close handle | note notice =>
      exact excused

namespace Session

variable {session next : Session} {trace before after : Trace} {event : Event} {step : Step}
  {result : Result}

/-! ### Giving up -/

/-- Opening channels stops at the first that is refused. No refusal here is excused, which only that
of a descriptive file can be. -/
theorem Opens.prompt {nodes : List Node} {handles : List Handle} {status : Except Error Unit}
    (opens : Opens nodes trace handles status) (request : ∀ node ∈ nodes, node ∉ Node.descriptive) :
    Prompt trace status := by
  induction opens with
  | finished => exact .ended _
  | refused node nodes reason =>
      have other := request node List.mem_cons_self
      have failure : ¬ Event.Passable ⟨.acquire node node.access, .error reason⟩ := by
        rw [Event.passable_acquire_error_iff]
        rintro rfl
        exact other (by decide)
      have blamed : Event.blame ⟨.acquire node node.access, .error reason⟩ = .transferFailed := by
        cases node with
        | version | codename => exact absurd (by decide) other
        | pmTableVersion | pmTableSize | pmTable | smn | smuArgs | smuCmd => rfl
      rw [← blamed]
      exact .stopped failure Trace.idle_note
  | opened serial rest ih =>
      exact .continued Event.passable_acquire_ok
        (ih fun node member => request node (List.mem_cons_of_mem _ member))

theorem Opens.strict {nodes : List Node} {handles : List Handle} {status : Except Error Unit}
    (opens : Opens nodes trace handles status) (request : ∀ node ∈ nodes, node ∉ Node.descriptive) :
    trace.Strict := by
  induction opens with
  | finished => exact List.forall_mem_nil _
  | refused node nodes reason =>
      refine List.forall_mem_cons.mpr ⟨?_, Trace.strict_note⟩
      rintro ⟨rfl, -⟩
      exact request _ List.mem_cons_self (by decide)
  | opened serial rest ih =>
      refine List.forall_mem_cons.mpr ⟨?_, ?_⟩
      · rintro ⟨-, reason, impossible⟩
        cases impossible
      · exact ih fun node member => request node (List.mem_cons_of_mem _ member)

theorem not_mem_descriptive_of_mem_requestNodes {capabilities : Capabilities} :
    ∀ node ∈ requestNodes capabilities, node ∉ Node.descriptive := by
  have apart : ∀ node ∈ [Node.smn, .smuCmd, .smuArgs, .pmTable], node ∉ Node.descriptive := by
    decide
  intro node member
  exact apart node ((requestNodes_isPrefix capabilities).subset member)

theorem idle_announcement (capabilities : Capabilities) : (announcement capabilities).Idle :=
  List.forall_mem_cons.mpr ⟨id, Trace.idle_note⟩

theorem Connects.prompt {status : Except Error Unit} (connects : Connects trace status next) :
    Prompt trace status := by
  cases connects with
  | undetected detects => exact (Capabilities.Detects.of_produces detects).prompt
  | refused detects opens =>
      have detected : Prompt _ (.ok ()) := (Capabilities.Detects.of_produces detects).prompt
      exact detected.append (opens.prompt not_mem_descriptive_of_mem_requestNodes)
  | ready detects opens =>
      have detected : Prompt _ (.ok ()) := (Capabilities.Detects.of_produces detects).prompt
      have opened := opens.prompt not_mem_descriptive_of_mem_requestNodes
      exact (detected.append opened).append_idle (idle_announcement _)

theorem Fetches.prompt {smn : Handle} {address : UInt32} {result : Except Error UInt32}
    (fetches : Fetches smn address trace result) (block : smn.node.textual = false) :
    Prompt trace (result.map fun _ => ()) := by
  cases fetches with
  | unselected selects => exact selects.prompt
  | unread selects reads | fetched selects reads => exact selects.prompt.append (reads.prompt block)

section Commands

variable {smuCmd smuArgs : Handle} {opcode : UInt32} {arguments : ArgumentBlock}

theorem Begins.prompt (begins : Begins smuCmd smuArgs opcode arguments trace) :
    Prompt trace (.ok ()) := by
  cases begins with
  | begun sends starts => exact sends.prompt.append starts.prompt

theorem Exchanges.prompt {result : Except Error ArgumentBlock}
    (exchanges : Exchanges smuCmd smuArgs opcode arguments trace result)
    (command : smuCmd.node.textual = false) (arguing : smuArgs.node.textual = false) :
    Prompt trace (result.map fun _ => ()) := by
  cases exchanges with
  | unsent sends => exact sends.prompt
  | unstarted sends starts => exact sends.prompt.append starts.prompt
  | unreported begins reports => exact begins.prompt.append (reports.prompt command)
  | refused begins reports refusal =>
      exact (begins.prompt.append (reports.prompt command)).append (.of_idle Trace.idle_note _)
  | unanswered begins reports success answers | answered begins reports success answers =>
      exact (begins.prompt.append (reports.prompt command)).append (answers.prompt arguing)

end Commands

theorem idle_closings (session : Session) : session.closings.Idle := by
  intro event member
  obtain ⟨handle, -, rfl⟩ := List.mem_map.mp member
  exact id

theorem idle_leaving (session : Session) : (session.farewell ++ session.closings).Idle := by
  refine List.forall_mem_append.mpr ⟨?_, idle_closings session⟩
  unfold farewell
  split
  · exact Trace.idle_nil
  · exact Trace.idle_note

/-- The session after a step tells of its first failure. -/
theorem Performs.prompt (consistent : session.Consistent)
    (performs : session.Performs step trace result next) : Prompt trace result.status := by
  have block (node : Node) {handle : Handle} (held : session.held node = some handle)
      (block : node.textual = false) : handle.node.textual = false := by
    rwa [consistent.node_of_held held]
  cases performs with
  | connect connects =>
      exact (Prompt.of_idle (idle_leaving session) (.ok ())).append connects.prompt
  | disconnect => exact .of_idle (idle_leaving session) _
  | renew => exact .of_idle (idle_closings session) _
  | detect detects => exact detects.prompt
  | readRegister isOpen fetches => exact fetches.prompt (block .smn isOpen rfl)
  | writeRegister isOpen writes => exact writes.prompt
  | execute command arguing exchanges =>
      exact exchanges.prompt (block .smuCmd command rfl) (block .smuArgs arguing rfl)
  | readTable isOpen fills => exact fills.prompt (block .pmTable isOpen rfl)
  | @takeSnapshot handle trace delivery supported isOpen fills =>
      have prompt := fills.prompt (block .pmTable isOpen rfl)
      obtain ⟨status, bytes⟩ := delivery
      cases status with
      | ok done | error error => exact prompt
  | refused refuses => exact .ended _

/-! ### Going on without a power table -/

/-- How a step goes on after it has missed the version file of the power table: detection makes no
further call, and a connection opens the other request channels. -/
inductive Untabled : Step → Trace → Result → Session → Prop where
  | detect {after : Trace} {version : Version} {codename : Codename} {session : Session}
      (silent : after.calls = []) :
      Untabled .detect after (.detected (.ok ⟨version, codename, .none⟩)) session
  | connect {after : Trace} {status : Except Error Unit} {next : Session}
      (untabled : next.capabilities.table = .none)
      (follows : Trace.Follows Event.Whole
        ([Node.smn, .smuCmd, .smuArgs].map fun node => .acquire node node.access) after.calls
        status.isOk) :
      Untabled .connect after (.settled status) next

/-- A missing version of the power table leaves detection with no table, and then the connection
goes on with the other channels or fails at them. -/
theorem Connects.untabled {status : Except Error Unit} (connects : Connects trace status next)
    (split : trace = before ++ event :: after) (excused : event.Excused) :
    Untabled .connect after (.settled status) next := by
  obtain ⟨error, detects, rfl, rfl⟩ |
    ⟨detecting, opening, announcing, capabilities, opened, rfl, detects, opens, announced, rfl⟩ :=
    connects.filled_cases
  · obtain ⟨-, version, codename, impossible⟩ :=
      (Capabilities.Detects.of_produces detects).of_excused split excused
    cases impossible
  · have idle : announcing.Idle := by
      rcases announced with rfl | rfl
      · exact Trace.idle_nil
      · exact idle_announcement capabilities
    have quiet : announcing.calls = [] := by
      rcases announced with rfl | rfl <;> rfl
    -- The request channels are other files, so it was the detection that missed this one.
    have strict := (opens.strict not_mem_descriptive_of_mem_requestNodes).append idle.strict
    obtain ⟨middle, rfl, rfl⟩ := strict.exists_left excused split
    obtain ⟨silent, version, codename, same⟩ :=
      (Capabilities.Detects.of_produces detects).of_excused rfl excused
    cases same
    refine .connect ?_ ?_
    · rw [filled_eq opens.nodes_isPrefix]
    · rw [Trace.calls_append, silent, Trace.calls_append, quiet, List.append_nil]
      exact opens.follows

/-- Only detection opens the version file of the power table, so only two steps can miss it. -/
theorem Performs.untabled (consistent : session.Consistent)
    (performs : session.Performs step trace result next)
    (split : trace = before ++ event :: after) (excused : event.Excused) :
    Untabled step after result next := by
  have missed : ¬ trace.Strict := fun strict => (split ▸ strict).not_mem excused
  cases asks : step.requestPath? with
  | some path => exact absurd (performs.within consistent asks).strict missed
  | none =>
      cases performs with
      | connect connects =>
          obtain ⟨middle, split⟩ := (idle_leaving session).strict.exists_right excused split
          exact connects.untabled split excused
      | disconnect => exact absurd (idle_leaving session).strict missed
      | renew => exact absurd (idle_closings session).strict missed
      | detect detects =>
          obtain ⟨silent, version, codename, rfl⟩ := detects.of_excused split excused
          exact .detect silent
      | readRegister | writeRegister | execute | readTable | takeSnapshot => cases asks
      | refused refuses => simp at split

/-! ### Every step -/

/-- How a step takes a call that does not go well: it is the last call that can fail, and the error
is the one for it, unless the version file of the power table is missed, and the step goes on
without a table. If the step succeeds, nothing else went wrong. -/
structure FailsFast (step : Step) (trace : Trace) (result : Result) (next : Session) : Prop where
  last : ∀ before event (after : Trace), trace = before ++ event :: after → ¬ event.Sufficient →
    ¬ event.Excused → after.Idle ∧ result.status = .error event.blame
  excused : ∀ before event after, trace = before ++ event :: after → event.Excused →
    Untabled step after result next
  of_ok : result.status = .ok () → ∀ event ∈ trace, event.Sufficient ∨ event.Excused

/-- Whatever the driver replies, every step of every reachable session gives up at the first call
that does not go well. -/
theorem fails_fast (reachable : session.Reachable)
    (produced : (session.perform step).Produces trace (result, next)) :
    FailsFast step trace result next := by
  have performs := Performs.of_produces produced
  have prompt := performs.prompt reachable.consistent
  constructor
  · intro before event after split insufficient unexcused
    exact prompt.last split fun passable => passable.elim insufficient unexcused
  · intro before event after split excused
    exact performs.untabled reachable.consistent split excused
  · intro succeeded
    rw [succeeded] at prompt
    exact prompt.passable_of_ok

/-- A connection of a client whose driver lacks the version file of the power table and a request
channel. -/
def hampered : Outcome Simulation.Recorder (Result × Session) :=
  (unfinished.perform .connect).run Simulation.Recorder.driver
    ((Simulation.Recorder.initial.apply (.removeFile .pmTableVersion)).apply (.removeFile .smuCmd))

theorem fails_fast_hampered :
    unfinished.Reachable ∧ hampered.value.1.status = .error .transferFailed ∧
      hampered.value.2.channels.names = ["SMN"] ∧
      FailsFast .connect hampered.trace hampered.value.1 hampered.value.2 :=
  ⟨reachable_unfinished, rfl, by decide +kernel,
    fails_fast reachable_unfinished (produces_run _ _ _)⟩

end Session

end ManagementUnit
