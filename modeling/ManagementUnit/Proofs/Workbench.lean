import ManagementUnit.Proofs.Dialogue.Lines
import ManagementUnit.Proofs.Session.Log
import ManagementUnit.Workbench

/-!
# The log of a workbench

Everything that a client asks of the library is a request to a workbench: the steps of its session,
a session in the place of the old one, and transfers on handles of its own. Whatever the driver
replies, the log of a request recounts it.

* `Workbench.produces_start_cases` — the ways in which a new session is started.
* `Workbench.recounted` — what the notices of every request tell.
* `Workbench.log_recounts` — what the lines of its log tell.
-/

namespace ManagementUnit

open Dialogue Trace

namespace Workbench

/-- Whether a request succeeded, and the error of the library if not. A client that opens a file
itself gets the reason of the driver, and no error. -/
def Answer.status : Answer → Except Error Unit
  | .step result => result.status
  | .settled status => status
  | .bytes block => block.map fun _ => ()
  | .acquired _ | .closed _ | .vacant => .ok ()

/-- Whether the request connects a session. -/
def Request.connects : Request → Bool
  | .step .connect | .start => true
  | _ => false

/-- What is closed once a new session is connected: the channels of the session that it replaces. -/
def retired (bench : Workbench) : Request → Trace
  | .start => bench.session.closings
  | _ => []

/-- The channels that a request closes with a word. -/
def dismissed (bench : Workbench) : Request → Option ChannelSet
  | .step step => bench.session.dismissed step
  | _ => none

variable {closed : Option ChannelSet} {bench next : Workbench} {request : Request} {trace : Trace}
  {answer : Answer}

/-- What the log of a request tells. Only a disconnection has something to say where no call can
fail. A session that is connected is announced, after everything else, and nothing else is. -/
structure Recounted (bench : Workbench) (request : Request) (trace : Trace) (answer : Answer)
    (next : Workbench) : Prop extends
    Recounts (bench.dismissed request) trace answer.status where
  reserved : trace.Idle → request ≠ .step .disconnect → trace.notices = []
  announced : request.connects = true → answer.status = .ok () →
    ∃ earlier, trace = earlier ++ Session.announcement next.session.capabilities ++
      bench.retired request ∧ earlier.ofLevel .info = []
  uninformed : ¬ (request.connects = true ∧ answer.status = .ok ()) → trace.ofLevel .info = []

/-! ### The three kinds of logs -/

theorem Recounted.of_narrated (narrated : Narrated (bench.dismissed request) trace answer.status)
    (unconnected : ¬ (request.connects = true ∧ answer.status = .ok ())) :
    Recounted bench request trace answer next where
  toRecounts := narrated.recounts
  reserved := fun idle _ => narrated.reserved idle
  announced := fun connects succeeded => absurd ⟨connects, succeeded⟩ unconnected
  uninformed := fun _ => narrated.uninformed

theorem Recounted.of_leaving (succeeded : answer.status = .ok ()) :
    Recounted bench (.step .disconnect) (bench.session.farewell ++ bench.session.closings) answer
      next where
  toRecounts := by
    rw [succeeded]
    exact Session.recounts_leaving bench.session
  reserved := fun _ other => absurd rfl other
  announced := fun impossible => by cases impossible
  uninformed := fun _ => (Session.logged_leaving bench.session).uninformed

theorem silent_retired (bench : Workbench) (request : Request) :
    (bench.retired request).Silent := by
  cases request with
  | start => exact silent_close bench.session.handles
  | step | acquire | write | readBlock | readSome | close => exact Silent.nil

/-- An announcement adds nothing but information. -/
theorem Recounted.of_announced {earlier : Trace}
    (split : trace = earlier ++ Session.announcement next.session.capabilities ++
      bench.retired request)
    (logged : Logged (bench.dismissed request) earlier (.ok ())) (active : ¬ earlier.Idle)
    (connects : request.connects = true) (succeeded : answer.status = .ok ()) :
    Recounted bench request trace answer next where
  traced := by
    have informs := Session.announcement_informs next.session.capabilities
    have retired := silent_retired bench request
    simp only [split, ofLevel_append, traced_append, logged.traced, informs.1, informs.2.1,
      retired.ofLevel_eq, retired.traced_eq]
  quiet := by
    have informs := Session.announcement_informs next.session.capabilities
    have retired := silent_retired bench request
    simp only [split, complaints_append, logged.complaints_eq, informs.2.2, retired.complaints_eq,
      List.append_nil, implies_true]
  complaint := by
    intro error failed
    rw [succeeded] at failed
    cases failed
  occasioned := by
    have retired := silent_retired bench request
    intro notice member
    rw [split] at member ⊢
    rw [notices_append, notices_append, retired.notices_eq, List.append_nil] at member
    rcases List.mem_append.mp member with member | member
    · refine (logged.occasioned notice member).mono fun event before => ?_
      exact List.mem_append_left _ (List.mem_append_left _ before)
    · exact Session.occasioned_announcement _ notice member
  silent := fun none => by
    rw [split] at none
    exact absurd none (calls_ne_nil (not_idle_append (not_idle_append active _) _))
  reserved := fun idle => by
    rw [split] at idle
    exact absurd idle (not_idle_append (not_idle_append active _) _)
  announced := fun _ _ => ⟨earlier, split, logged.uninformed⟩
  uninformed := fun unconnected => absurd ⟨connects, succeeded⟩ unconnected

/-! ### Every request -/

/-- A new session is connected, and if that fails its channels are closed again. -/
theorem produces_start_cases {result : Except Error Session}
    (produced : Session.start.run.Produces trace result) :
    (∃ session, Session.Connects trace (.ok ()) session ∧ result = .ok session) ∨
      ∃ rest session error, trace = rest ++ session.closings ∧
        Session.Connects rest (.error error) session ∧ result = .error error := by
  unfold Session.start at produced
  rw [ExceptT.run_mk] at produced
  obtain ⟨first, last, ⟨status, session⟩, rfl, connected, after⟩ := produces_bind_iff.mp produced
  obtain ⟨rest, nothing, connects⟩ := Session.produces_connect_iff.mp connected
  rw [Session.farewell_of_handles_eq_nil rfl] at nothing
  obtain rfl : first = rest := nothing
  cases status with
  | ok done =>
      obtain ⟨rfl, rfl⟩ := produces_done_iff.mp after
      rw [List.append_nil]
      exact Or.inl ⟨session, connects, rfl⟩
  | error error =>
      obtain ⟨done, released, rfl⟩ := produces_bind_done_iff.mp after
      rw [Session.produces_release_iff.mp released]
      exact Or.inr ⟨first, session, error, rfl, connects, rfl⟩

/-- The three kinds of steps with logs of their own: a disconnection, a connection that succeeds,
and any other step. -/
theorem recounted_step {step : Session.Step}
    (produced : (bench.perform (.step step)).Produces trace (answer, next)) :
    Recounted bench (.step step) trace answer next := by
  obtain ⟨⟨result, session⟩, performed, same⟩ := produces_bind_done_iff.mp produced
  cases same
  have performs := Session.Performs.of_produces performed
  by_cases leaves : step = .disconnect
  · subst leaves
    cases performs with
    | disconnect => exact .of_leaving rfl
    | refused refuses => cases refuses
  by_cases connected : step = .connect ∧ result.status = .ok ()
  · obtain ⟨rfl, succeeded⟩ := connected
    cases performs with
    | @connect rest status session connects =>
        obtain rfl : status = .ok () := succeeded
        obtain ⟨earlier, rfl, logged, active⟩ := connects.announced
        refine .of_announced ?_ ((Session.logged_leaving bench.session).append logged)
          (not_idle_append_right _ active) rfl rfl
        have nothing : bench.retired (.step .connect) = [] := rfl
        rw [nothing, List.append_nil, List.append_assoc _ earlier]
    | refused refuses => cases refuses
  · refine .of_narrated (performs.narrated leaves connected) ?_
    rintro ⟨connects, succeeded⟩
    cases step <;> first | exact connected ⟨rfl, succeeded⟩ | cases connects

/-- A new session has no channels to close, so its connection logs what it comes to and no more. -/
theorem recounted_start (produced : (bench.perform .start).Produces trace (answer, next)) :
    Recounted bench .start trace answer next := by
  obtain ⟨first, rest, result, rfl, started, after⟩ := produces_bind_iff.mp produced
  rcases produces_start_cases started with
    ⟨session, connects, rfl⟩ | ⟨opening, session, error, rfl, connects, rfl⟩
  · obtain ⟨done, released, same⟩ := produces_bind_done_iff.mp after
    cases same
    rw [Session.produces_release_iff.mp released]
    obtain ⟨earlier, rfl, logged, active⟩ := connects.announced
    exact .of_announced rfl logged active rfl rfl
  · obtain ⟨rfl, same⟩ := produces_done_iff.mp after
    cases same
    rw [List.append_nil]
    refine .of_narrated (.called ?_ (not_idle_append connects.not_idle _)) ?_
    · exact connects.logged.append_silent (silent_close session.handles)
    · rintro ⟨-, impossible⟩
      cases impossible

/-- A client that opens a file itself is told the reason of a failure, and nothing is logged. -/
theorem narrated_acquire {slot : String} {node : Node} {access : Access}
    (produced : (bench.perform (.acquire slot node access)).Produces trace (answer, next)) :
    Narrated closed trace answer.status := by
  obtain ⟨first, rest, result, rfl, acquired, after⟩ := produces_bind_iff.mp produced
  obtain ⟨reply, rfl, rfl⟩ := produces_acquire_iff.mp acquired
  cases reply with
  | ok serial =>
      obtain ⟨done, closing, same⟩ := produces_bind_done_iff.mp after
      cases same
      rw [produces_closeAll_iff.mp closing]
      exact .silent ((silent_acquire node access serial).append (silent_close _))
  | error reason =>
      obtain ⟨rfl, same⟩ := produces_done_iff.mp after
      cases same
      exact .silent ⟨rfl, rfl⟩

/-- A transfer on a named handle is logged as the transfer, if there is a handle of the name. -/
theorem narrated_transfer {α : Type} {held : Option Handle} {transfer : Handle → Dialogue α}
    {tell : α → Answer}
    (produced : (match held with
      | some handle => (fun result => (tell result, bench)) <$> transfer handle
      | none => pure (.vacant, bench)).Produces trace (answer, next))
    (each : ∀ handle result, (transfer handle).Produces trace result →
      Logged closed trace (tell result).status ∧ ¬ trace.Idle) :
    Narrated closed trace answer.status := by
  cases held with
  | some handle =>
      obtain ⟨result, transferred, same⟩ := produces_map_iff.mp produced
      cases same
      obtain ⟨logged, active⟩ := each handle result transferred
      exact .called logged active
  | none =>
      obtain ⟨rfl, -⟩ := produces_done_iff.mp produced
      exact .refused _

/-- Whatever the driver replies, the notices of a request tell what came of it. -/
theorem recounted (produced : (bench.perform request).Produces trace (answer, next)) :
    Recounted bench request trace answer next := by
  have unconnected (other : request.connects = false) :
      ¬ (request.connects = true ∧ answer.status = .ok ()) := by
    rw [other]
    rintro ⟨impossible, -⟩
    cases impossible
  cases request with
  | step step => exact recounted_step produced
  | start => exact recounted_start produced
  | acquire slot node access => exact .of_narrated (narrated_acquire produced) (unconnected rfl)
  | write slot bytes =>
      refine .of_narrated (narrated_transfer produced fun handle status written => ?_)
        (unconnected rfl)
      have writes := Handle.produces_writeBlock_iff.mp written
      exact ⟨writes.logged, writes.not_idle⟩
  | readBlock slot length =>
      refine .of_narrated (narrated_transfer produced fun handle block read => ?_)
        (unconnected rfl)
      obtain ⟨⟨status, bytes⟩, fills, rfl⟩ := Handle.produces_readBlock_iff.mp read
      have logged : Logged none trace status := fills.logged
      refine ⟨?_, fills.not_idle⟩
      cases status with
      | ok done | error error => exact logged
  | readSome slot limit =>
      refine .of_narrated (narrated_transfer produced fun handle block read => ?_)
        (unconnected rfl)
      have reads := Handle.produces_readSome_iff.mp read
      exact ⟨reads.logged, reads.not_idle⟩
  | close slot =>
      refine .of_narrated ?_ (unconnected rfl)
      obtain ⟨done, closed, same⟩ := produces_bind_done_iff.mp produced
      cases same
      rw [produces_closeAll_iff.mp closed]
      exact .silent (silent_close _)

/-! ### Lines -/

/-- What the lines of a request tell. Every movement has its line at the level of traces, which
gives the file, the way and the bytes, and the lines are in the order of the movements. A success
leaves no complaint, and a failure after a call that can fail leaves one, as the last line; the
lines that are excused have their occasion. Nothing is logged without a call, and only a
disconnection has something to say where no call can fail. A session that is connected is announced
by the last two lines, and there is no other line for information. -/
structure Transcribed (bench : Workbench) (request : Request) (trace : Trace) (answer : Answer)
    (next : Workbench) : Prop where
  told : List.Forall₂ Movement.Tells (trace.logOf .trace) trace.movements
  quiet : answer.status = .ok () → trace.log.filter Line.complains = []
  complaint : ∀ error, answer.status = .error error → ¬ trace.Idle →
    ∃ line, trace.log.filter Line.complains = [line] ∧ trace.log.getLast? = some line
  occasioned : ∀ line ∈ trace.log, Line.excused line = true →
    Line.Occasioned (bench.dismissed request) trace line
  silent : trace.calls = [] → trace.log = []
  reserved : trace.Idle → request ≠ .step .disconnect → trace.log = []
  announced : request.connects = true → answer.status = .ok () →
    ∃ earlier firmware table, trace = earlier ++
        Session.announcement next.session.capabilities ++ bench.retired request ∧
      trace.log = Trace.log earlier ++ [firmware, table] ∧ Trace.logOf .info earlier = [] ∧
      trace.logOf .info = [firmware, table]
  uninformed : ¬ (request.connects = true ∧ answer.status = .ok ()) → trace.logOf .info = []

/-- What the notices tell can be read in the lines. -/
theorem Recounted.transcribed (recounted : Recounted bench request trace answer next) :
    Transcribed bench request trace answer next where
  told := tells_logOf recounted.traced
  quiet succeeded := by
    rw [filter_complains_log, recounted.quiet succeeded, List.map_nil]
  complaint error failed active := by
    obtain ⟨notice, complaints, last⟩ := recounted.complaint error failed active
    refine ⟨notice.line, ?_, ?_⟩
    · rw [filter_complains_log, complaints, List.map_singleton]
    · rw [log, List.getLast?_map, last, Option.map_some]
  occasioned line member excused := by
    obtain ⟨notice, noted, rfl⟩ := List.mem_map.mp member
    exact (recounted.occasioned notice noted).line excused
  silent uncalled := by
    rw [log, recounted.silent uncalled, List.map_nil]
  reserved idle other := by
    rw [log, recounted.reserved idle other, List.map_nil]
  announced connects succeeded := by
    obtain ⟨earlier, split, uninformed⟩ := recounted.announced connects succeeded
    have retired := silent_retired bench request
    obtain ⟨firmware, table, lines⟩ : ∃ firmware table : String,
      (Session.announcement next.session.capabilities).log = [firmware, table] := ⟨_, _, rfl⟩
    refine ⟨earlier, firmware, table, split, ?_, ?_, ?_⟩
    · rw [← lines, log, split, notices_append, notices_append, retired.notices_eq, List.append_nil,
        List.map_append, log, log]
    · rw [logOf_eq, uninformed, List.map_nil]
    · rw [← lines, logOf_eq, split, ofLevel_append, ofLevel_append, uninformed, retired.ofLevel_eq,
        List.append_nil, List.nil_append, Session.ofLevel_info_announcement, log]
  uninformed unconnected := by
    rw [logOf_eq, recounted.uninformed unconnected, List.map_nil]

/-- Whatever the driver replies, the log of every request tells what came of it. -/
theorem log_recounts (produced : (bench.perform request).Produces trace (answer, next)) :
    Transcribed bench request trace answer next :=
  (recounted produced).transcribed

/-- A register read of a client whose register file falls short: the short block is traced, and then
it is complained of. -/
def clipped : Outcome Simulation.Recorder (Answer × Workbench) :=
  (perform ⟨Session.unfinished, []⟩ (.step (.readRegister 5))).run Simulation.Recorder.driver
    (Simulation.Recorder.initial.apply (.shortenReads .smn))

theorem log_recounts_clipped :
    clipped.value.1.status = .error .transferFailed ∧
      clipped.trace.log =
        ["trace SMU: smn <- [05, 00, 00, 00]", "trace SMU: smn -> [00, 00, 00]",
          "debug SMU: short read on smn (3 of 4 bytes)"] ∧
      Transcribed ⟨Session.unfinished, []⟩ (.step (.readRegister 5)) clipped.trace clipped.value.1
        clipped.value.2 :=
  ⟨rfl, by decide +kernel, log_recounts (produces_run _ _ _)⟩

end Workbench

end ManagementUnit
