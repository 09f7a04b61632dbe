import ManagementUnit.Proofs.Detection.Log
import ManagementUnit.Proofs.Session.Accounts
import ManagementUnit.Proofs.Session.FailFast

/-!
# The log of a session

Every request and every connection logs its transfers and the reason of its failure. A connection
that succeeds is announced besides, after everything else, and a session that is disconnected says
which channels it is about to close. Nothing is logged by a request that makes no call.

* `Narrated`, `Performs.narrated` — the log of a step other than these two.
* `Connects.announced`, `recounts_leaving` — the log of these two.
* `Narrated.recounts` — what a log tells of the step.
-/

namespace ManagementUnit

open Trace

variable {closed : Option ChannelSet} {trace : Trace}

/-! ### Calls that can fail -/

theorem Trace.not_idle_append {first : Trace} (active : ¬ first.Idle) (rest : Trace) :
    ¬ (first ++ rest).Idle :=
  fun idle => active (List.forall_mem_append.mp idle).1

theorem Trace.not_idle_append_right {rest : Trace} (first : Trace) (active : ¬ rest.Idle) :
    ¬ (first ++ rest).Idle :=
  fun idle => active (List.forall_mem_append.mp idle).2

theorem Trace.not_idle_acquire {node : Node} {access : Access} {reply : Except IoError Nat}
    {rest : Trace} : ¬ Trace.Idle (⟨.acquire node access, reply⟩ :: rest) :=
  fun idle => idle _ List.mem_cons_self trivial

theorem Capabilities.Detects.not_idle {result : Except Error Capabilities}
    (detects : Capabilities.Detects trace result) : ¬ trace.Idle := by
  obtain ⟨reply, rest, rfl⟩ := detects.exists_cons
  exact not_idle_acquire

namespace Handle

variable {handle : Handle}

theorem Writes.not_idle {bytes : Bytes} {result : Except Error Unit}
    (writes : handle.Writes bytes trace result) : ¬ trace.Idle := by
  intro idle
  cases writes <;> exact idle _ List.mem_cons_self trivial

theorem ReadsSome.not_idle {limit : Nat} {result : Except Error Bytes}
    (reads : handle.ReadsSome limit trace result) : ¬ trace.Idle := by
  intro idle
  cases reads <;> exact idle _ List.mem_cons_self trivial

theorem Fills.not_idle {length : Nat} {delivery : Delivery}
    (fills : handle.Fills length trace delivery) : ¬ trace.Idle := by
  cases fills with
  | failed reads | whole reads full => exact reads.not_idle
  | short reads partly => exact not_idle_append reads.not_idle _

end Handle

/-! ### What a log tells -/

/-- What the log of a trace tells of what came of it. Every completed transfer is traced, in order.
After a success there is no complaint; after a failure with a call that can fail there is one, and
it is the last word. What is no complaint has an occasion, and without a call nothing is logged. -/
structure Recounts (closed : Option ChannelSet) (trace : Trace) (status : Except Error Unit) :
    Prop where
  traced : trace.ofLevel .trace = trace.traced
  quiet : status = .ok () → trace.complaints = []
  complaint : ∀ error, status = .error error → ¬ trace.Idle →
    ∃ notice, trace.complaints = [notice] ∧ trace.notices.getLast? = some notice
  occasioned : ∀ notice ∈ trace.notices, notice.Occasioned closed trace
  silent : trace.calls = [] → trace.notices = []

/-- The ways in which a log goes that announces nothing: nothing happened, nothing was worth a word,
or a call was made that can fail. -/
inductive Narrated (closed : Option ChannelSet) : Trace → Except Error Unit → Prop where
  | refused (status : Except Error Unit) : Narrated closed [] status
  | silent {trace : Trace} (silent : trace.Silent) : Narrated closed trace (.ok ())
  | called {trace : Trace} {status : Except Error Unit} (logged : Logged closed trace status)
      (active : ¬ trace.Idle) : Narrated closed trace status

theorem Trace.calls_ne_nil (active : ¬ trace.Idle) : trace.calls ≠ [] := by
  intro none
  refine active fun event member fallible => ?_
  obtain ⟨action, reply⟩ := event
  have call : Event.isCall ⟨action, reply⟩ = true := by
    cases action with
    | acquire | rewind | read | write | close => rfl
    | note notice => exact fallible.elim
  have found := List.mem_filter.mpr ⟨member, call⟩
  rw [calls] at none
  exact List.not_mem_nil (none ▸ found)

namespace Narrated

variable {status : Except Error Unit}

/-- Where something was logged, the complaints are those of the log; in the other two ways nothing
was traced and nothing complained of. -/
theorem recounts (narrated : Narrated closed trace status) : Recounts closed trace status where
  traced := by
    cases narrated with
    | refused => rfl
    | silent silent => rw [silent.ofLevel_eq, silent.traced_eq]
    | called logged active => exact logged.traced
  quiet := by
    rintro rfl
    cases narrated with
    | refused => rfl
    | silent silent => exact silent.complaints_eq
    | called logged active => exact logged.complaints_eq
  complaint := by
    rintro error rfl active
    cases narrated with
    | refused => exact absurd Trace.idle_nil active
    | called logged active => exact logged.exists_complaint
  occasioned := by
    cases narrated with
    | refused => exact List.forall_mem_nil _
    | silent silent =>
        rw [silent.notices_eq]
        exact List.forall_mem_nil _
    | called logged active => exact logged.occasioned
  silent := by
    intro none
    cases narrated with
    | refused => rfl
    | silent silent => exact silent.notices_eq
    | called logged active => exact absurd none (calls_ne_nil active)

theorem uninformed (narrated : Narrated closed trace status) : trace.ofLevel .info = [] := by
  cases narrated with
  | refused => rfl
  | silent silent => exact silent.ofLevel_eq .info
  | called logged active => exact logged.uninformed

/-- Where no call can fail nothing is logged. -/
theorem reserved (narrated : Narrated closed trace status) (idle : trace.Idle) :
    trace.notices = [] := by
  cases narrated with
  | refused => rfl
  | silent silent => exact silent.notices_eq
  | called logged active => exact absurd idle active

end Narrated

namespace Session

variable {session next : Session} {step : Step} {result : Result}

/-! ### Leaving -/

theorem logged_farewell (session : Session) :
    Logged (some session.channels) session.farewell (.ok ()) := by
  unfold farewell
  split
  · exact .of_silent Silent.nil
  · exact ⟨rfl, .quiet rfl, List.forall_mem_singleton.mpr rfl, rfl⟩

theorem logged_leaving (session : Session) :
    Logged (some session.channels) (session.farewell ++ session.closings) (.ok ()) :=
  (logged_farewell session).append_silent (silent_close session.handles)

/-- A session that holds nothing has nothing to say. -/
theorem farewell_of_handles_eq_nil (settled : session.handles = []) : session.farewell = [] := by
  obtain ⟨smn, smuCmd, smuArgs, pmTable⟩ : session.smn = none ∧ session.smuCmd = none ∧
      session.smuArgs = none ∧ session.pmTable = none := by
    simpa [handles, and_assoc] using settled
  have empty : session.channels.isEmpty = true := by
    rw [channels, smn, smuCmd, smuArgs, pmTable]
    decide
  exact if_pos empty

/-- Giving up channels logs nothing but that they are closed. -/
theorem recounts_leaving (session : Session) :
    Recounts (some session.channels) (session.farewell ++ session.closings) (.ok ()) where
  traced := (logged_leaving session).traced
  quiet := fun _ => (logged_leaving session).complaints_eq
  complaint := by
    intro error impossible
    cases impossible
  occasioned := (logged_leaving session).occasioned
  silent := by
    intro none
    rw [calls_append] at none
    have unclosed := (List.append_eq_nil_iff.mp none).2
    have settled : session.handles = [] := by
      cases handles : session.handles with
      | nil => rfl
      | cons handle handles =>
          rw [closings, handles] at unclosed
          cases unclosed
    rw [farewell_of_handles_eq_nil settled, closings, settled]
    rfl

/-! ### Connections -/

theorem Opens.logged {nodes : List Node} {handles : List Handle} {status : Except Error Unit}
    (opens : Opens nodes trace handles status) : Logged closed trace status := by
  induction opens with
  | finished => exact .of_silent Silent.nil
  | refused node nodes reason => exact Capabilities.logged_refusal rfl _
  | @opened node nodes trace handles status serial rest ih =>
      exact (Logged.of_silent (silent_acquire node node.access serial)).append ih

theorem Connects.not_idle {status : Except Error Unit} (connects : Connects trace status next) :
    ¬ trace.Idle := by
  obtain ⟨reply, rest, rfl⟩ := connects.exists_cons
  exact not_idle_acquire

theorem Connects.logged {error : Error} (connects : Connects trace (.error error) next) :
    Logged closed trace (.error error) := by
  cases connects with
  | undetected detects => exact (Capabilities.Detects.of_produces detects).logged
  | refused detects opens =>
      have detected : Logged closed _ (.ok ()) := (Capabilities.Detects.of_produces detects).logged
      exact detected.append opens.logged

/-- An announcement is information and nothing else. -/
theorem announcement_informs (capabilities : Capabilities) :
    (announcement capabilities).ofLevel .trace = [] ∧ (announcement capabilities).traced = [] ∧
      (announcement capabilities).complaints = [] := by
  unfold announcement
  cases capabilities.table.supported with
  | true | false => exact ⟨rfl, rfl, rfl⟩

theorem ofLevel_info_announcement (capabilities : Capabilities) :
    (announcement capabilities).ofLevel .info = (announcement capabilities).notices := by
  unfold announcement
  cases capabilities.table.supported with
  | true | false => rfl

theorem occasioned_announcement (capabilities : Capabilities) :
    ∀ notice ∈ (announcement capabilities).notices, notice.Occasioned closed trace := by
  unfold announcement
  cases capabilities.table.supported with
  | true | false => exact List.forall_mem_cons.mpr ⟨trivial, List.forall_mem_singleton.mpr trivial⟩

/-- A connection that succeeds is announced at its end. -/
theorem Connects.announced (connects : Connects trace (.ok ()) next) :
    ∃ earlier, trace = earlier ++ announcement next.capabilities ∧ Logged closed earlier (.ok ()) ∧
      ¬ earlier.Idle := by
  cases connects with
  | @ready detecting opening capabilities handles detects opens =>
      have kept : (filled capabilities handles).capabilities = capabilities := by
        rw [filled_eq opens.nodes_isPrefix]
      have detects := Capabilities.Detects.of_produces detects
      have detected : Logged closed detecting (.ok ()) := detects.logged
      refine ⟨_, congrArg (detecting ++ opening ++ announcement ·) kept.symm,
        detected.append opens.logged, not_idle_append detects.not_idle _⟩

/-! ### Requests -/

section Registers

variable {smn : Handle} {address : UInt32} {result : Except Error UInt32}

theorem Fetches.logged (fetches : Fetches smn address trace result) :
    Logged closed trace (result.map fun _ => ()) := by
  cases fetches with
  | unselected selects => exact selects.logged
  | unread selects reads | fetched selects reads => exact selects.logged.append reads.logged

theorem Fetches.not_idle (fetches : Fetches smn address trace result) : ¬ trace.Idle := by
  cases fetches with
  | unselected selects => exact selects.not_idle
  | unread selects reads | fetched selects reads => exact not_idle_append selects.not_idle _

end Registers

section Commands

variable {smuCmd smuArgs : Handle} {opcode : UInt32} {arguments : ArgumentBlock}
  {result : Except Error ArgumentBlock}

theorem Begins.logged (begins : Begins smuCmd smuArgs opcode arguments trace) :
    Logged closed trace (.ok ()) := by
  cases begins with
  | begun sends starts => exact sends.logged.append starts.logged

theorem Begins.not_idle (begins : Begins smuCmd smuArgs opcode arguments trace) :
    ¬ trace.Idle := by
  cases begins with
  | begun sends starts => exact not_idle_append sends.not_idle _

theorem Exchanges.logged (exchanges : Exchanges smuCmd smuArgs opcode arguments trace result) :
    Logged closed trace (result.map fun _ => ()) := by
  cases exchanges with
  | unsent sends => exact sends.logged
  | unstarted sends starts => exact sends.logged.append starts.logged
  | unreported begins reports => exact begins.logged.append reports.logged
  | refused begins reports refusal =>
      exact (begins.logged.append reports.logged).append (.of_complaint Silent.nil rfl _)
  | unanswered begins reports success answers | answered begins reports success answers =>
      exact (begins.logged.append reports.logged).append answers.logged

theorem Exchanges.not_idle (exchanges : Exchanges smuCmd smuArgs opcode arguments trace result) :
    ¬ trace.Idle := by
  cases exchanges with
  | unsent sends => exact sends.not_idle
  | unstarted sends starts => exact not_idle_append sends.not_idle _
  | unreported begins reports => exact not_idle_append begins.not_idle _
  | refused begins reports | unanswered begins reports | answered begins reports =>
      exact not_idle_append (not_idle_append begins.not_idle _) _

end Commands

/-! ### Steps -/

/-- The channels that a step closes with a word. -/
def dismissed (session : Session) : Step → Option ChannelSet
  | .connect | .disconnect => some session.channels
  | _ => none

/-- Every step but a disconnection and a successful connection is narrated: it is a silent one, one
refused without a call, or one whose calls are logged. -/
theorem Performs.narrated (performs : session.Performs step trace result next)
    (stays : step ≠ .disconnect) (unconnected : ¬ (step = .connect ∧ result.status = .ok ())) :
    Narrated (session.dismissed step) trace result.status := by
  cases performs with
  | @connect rest status next connects =>
      cases status with
      | ok done => exact absurd ⟨rfl, rfl⟩ unconnected
      | error error =>
          exact .called ((logged_leaving session).append connects.logged)
            (not_idle_append_right _ connects.not_idle)
  | disconnect => exact absurd rfl stays
  | renew => exact .silent (silent_close session.handles)
  | detect detects => exact .called detects.logged detects.not_idle
  | readRegister isOpen fetches => exact .called fetches.logged fetches.not_idle
  | writeRegister isOpen writes => exact .called writes.logged writes.not_idle
  | execute command arguing exchanges => exact .called exchanges.logged exchanges.not_idle
  | readTable isOpen fills => exact .called fills.logged fills.not_idle
  | @takeSnapshot handle trace delivery supported isOpen fills =>
      refine .called ?_ fills.not_idle
      have logged : Logged none trace delivery.status := fills.logged
      obtain ⟨status, bytes⟩ := delivery
      cases status with
      | ok done | error error => exact logged
  | refused refuses => exact .refused _

end Session

end ManagementUnit
