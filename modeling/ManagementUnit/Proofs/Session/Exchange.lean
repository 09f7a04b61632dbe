import ManagementUnit.Proofs.Error
import ManagementUnit.Proofs.Session.Invariant

/-!
# Commands

A command is four transfers: the arguments and the opcode are written, the status word is read, and
on success the response. `Session.Exchanges` lists the ways in which that goes.

* `produces_exchange_cases`, `produces_execute_iff` — the list is complete.
* `Exchanges.follows` — the calls follow a script of eight, up to the first that is not accepted.
* `execute_order` — the same for all reachable sessions, with what decides the status.
-/

namespace ManagementUnit.Session

open Dialogue

/-- The arguments and the opcode are written. -/
inductive Begins (smuCmd smuArgs : Handle) (opcode : UInt32) (arguments : ArgumentBlock) :
    Trace → Prop where
  | begun {sending starting : Trace} (sends : smuArgs.Writes arguments.encode sending (.ok ()))
      (starts : smuCmd.Writes (Word.encode opcode) starting (.ok ())) :
      Begins smuCmd smuArgs opcode arguments (sending ++ starting)

/-- The ways in which a command goes on two open channels, by how far it gets: the arguments are
written, the opcode is written, the status word is read and reports success, and the response is
read. Only a status word that reports an error is logged by the command itself. -/
inductive Exchanges (smuCmd smuArgs : Handle) (opcode : UInt32) (arguments : ArgumentBlock) :
    Trace → Except Error ArgumentBlock → Prop where
  | unsent {sending : Trace} {error : Error}
      (sends : smuArgs.Writes arguments.encode sending (.error error)) :
      Exchanges smuCmd smuArgs opcode arguments sending (.error error)
  | unstarted {sending starting : Trace} {error : Error}
      (sends : smuArgs.Writes arguments.encode sending (.ok ()))
      (starts : smuCmd.Writes (Word.encode opcode) starting (.error error)) :
      Exchanges smuCmd smuArgs opcode arguments (sending ++ starting) (.error error)
  | unreported {beginning reporting : Trace} {bytes : Bytes} {error : Error}
      (begins : Begins smuCmd smuArgs opcode arguments beginning)
      (reports : smuCmd.Fills 4 reporting ⟨.error error, bytes⟩) :
      Exchanges smuCmd smuArgs opcode arguments (beginning ++ reporting) (.error error)
  | refused {beginning reporting : Trace} {word : Bytes} {error : Error}
      (begins : Begins smuCmd smuArgs opcode arguments beginning)
      (reports : smuCmd.Fills 4 reporting ⟨.ok (), word⟩)
      (refusal : Error.ofStatus? (Word.decode word) = some error) :
      Exchanges smuCmd smuArgs opcode arguments
        (beginning ++ reporting ++ [⟨.note (.commandFailed opcode (Word.decode word) error), ()⟩])
        (.error error)
  | unanswered {beginning reporting answering : Trace} {word bytes : Bytes} {error : Error}
      (begins : Begins smuCmd smuArgs opcode arguments beginning)
      (reports : smuCmd.Fills 4 reporting ⟨.ok (), word⟩) (success : Word.decode word = 1)
      (answers : smuArgs.Fills ArgumentBlock.size answering ⟨.error error, bytes⟩) :
      Exchanges smuCmd smuArgs opcode arguments (beginning ++ reporting ++ answering)
        (.error error)
  | answered {beginning reporting answering : Trace} {word bytes : Bytes}
      (begins : Begins smuCmd smuArgs opcode arguments beginning)
      (reports : smuCmd.Fills 4 reporting ⟨.ok (), word⟩) (success : Word.decode word = 1)
      (answers : smuArgs.Fills ArgumentBlock.size answering ⟨.ok (), bytes⟩) :
      Exchanges smuCmd smuArgs opcode arguments (beginning ++ reporting ++ answering)
        (.ok (.decode bytes))

variable {session : Session} {trace : Trace} {opcode : UInt32} {arguments block : ArgumentBlock}
  {smuCmd smuArgs : Handle}

/-- The ways that `Exchanges` lists are all there are. -/
theorem Exchanges.of_produces {result : Except Error ArgumentBlock}
    (command : session.smuCmd = some smuCmd) (arguing : session.smuArgs = some smuArgs)
    (produced : (session.exchange opcode arguments).run.Produces trace result) :
    Exchanges smuCmd smuArgs opcode arguments trace result := by
  unfold exchange at produced
  rw [command, arguing] at produced
  unfold channel at produced
  simp only [pure_bind] at produced
  rcases Attempt.produces_bind_iff.mp produced with
    ⟨sending, rest, _, rfl, sent, afterSending⟩ | ⟨error, unsent, rfl⟩
  · have sends := Handle.produces_writeBlock_iff.mp sent
    rcases Attempt.produces_bind_iff.mp afterSending with
      ⟨starting, rest, _, rfl, started, afterStarting⟩ | ⟨error, unstarted, rfl⟩
    · have begins := Begins.begun sends (Handle.produces_writeBlock_iff.mp started)
      rw [← List.append_assoc]
      rcases Attempt.produces_bind_iff.mp afterStarting with
        ⟨reporting, rest, word, rfl, reported, afterReporting⟩ | ⟨error, unreported, rfl⟩
      · have reports := Handle.produces_readBlock_ok_iff.mp reported
        rw [← List.append_assoc]
        cases outcome : Error.ofStatus? (Word.decode word) with
        | some error =>
            simp only [outcome] at afterReporting
            obtain ⟨rfl, rfl⟩ := Attempt.produces_fail_iff.mp afterReporting
            exact .refused begins reports outcome
        | none =>
            simp only [outcome] at afterReporting
            have success := Error.ofStatus?_eq_none_iff.mp outcome
            rcases Attempt.produces_bind_iff.mp afterReporting with
              ⟨answering, rest, bytes, rfl, answered, returned⟩ | ⟨error, unanswered, rfl⟩
            · obtain ⟨rfl, rfl⟩ := Attempt.produces_pure_iff.mp returned
              rw [List.append_nil]
              exact .answered begins reports success
                (Handle.produces_readBlock_ok_iff.mp answered)
            · obtain ⟨bytes, answers⟩ := Handle.produces_readBlock_error_iff.mp unanswered
              exact .unanswered begins reports success answers
      · obtain ⟨bytes, reports⟩ := Handle.produces_readBlock_error_iff.mp unreported
        exact .unreported begins reports
    · exact .unstarted sends (Handle.produces_writeBlock_iff.mp unstarted)
  · exact .unsent (Handle.produces_writeBlock_iff.mp unsent)

/-- A command goes its way if its channels are open, and does nothing if one of them is not. -/
theorem produces_exchange_cases {result : Except Error ArgumentBlock}
    (produced : (session.exchange opcode arguments).run.Produces trace result) :
    ((session.smuCmd = none ∨ session.smuArgs = none) ∧ trace = [] ∧
        result = .error .transferFailed) ∨
      ∃ smuCmd smuArgs, session.smuCmd = some smuCmd ∧ session.smuArgs = some smuArgs ∧
        Exchanges smuCmd smuArgs opcode arguments trace result := by
  have chosen := produced
  unfold exchange at chosen
  rcases produces_channel_bind_iff.mp chosen with ⟨smuCmd, command, next⟩ | ⟨missing, nothing⟩
  · rcases produces_channel_bind_iff.mp next with ⟨smuArgs, arguing, -⟩ | ⟨missing, nothing⟩
    · exact Or.inr ⟨smuCmd, smuArgs, command, arguing, .of_produces command arguing produced⟩
    · exact Or.inl ⟨Or.inr missing, nothing⟩
  · exact Or.inl ⟨Or.inl missing, nothing⟩

/-- The block is the response on success and the arguments otherwise. -/
theorem produces_execute_iff {status : Except Error Unit} :
    (session.execute opcode arguments).Produces trace (status, block) ↔
      ∃ result, (session.exchange opcode arguments).run.Produces trace result ∧
        status = result.map (fun _ => ()) ∧ block = result.toOption.getD arguments := by
  unfold execute
  rw [produces_bind_iff]
  constructor
  · rintro ⟨first, rest, result, rfl, exchanged, returned⟩
    refine ⟨result, ?_⟩
    cases result with
    | ok response | error error =>
        obtain ⟨rfl, same⟩ := produces_done_iff.mp returned
        cases same
        rw [List.append_nil]
        exact ⟨exchanged, rfl, rfl⟩
  · rintro ⟨result, exchanged, rfl, rfl⟩
    refine ⟨trace, [], result, (List.append_nil _).symm, exchanged, ?_⟩
    cases result with
    | ok response | error error => exact .done _

/-! ### The order of the calls -/

/-- The calls of a command that nothing interrupts. -/
def exchangeScript (smuCmd smuArgs : Handle) (opcode : UInt32) (arguments : ArgumentBlock) :
    List Action :=
  [.rewind smuArgs, .write smuArgs arguments.encode,
    .rewind smuCmd, .write smuCmd (Word.encode opcode),
    .rewind smuCmd, .read smuCmd 4,
    .rewind smuArgs, .read smuArgs ArgumentBlock.size]

/-- The event is the report of a status word other than success. -/
def Refusal (smuCmd : Handle) : Event → Prop
  | ⟨.read handle _, reply⟩ =>
    handle = smuCmd ∧ ∃ bytes, reply = .ok bytes ∧ Word.decode bytes.val ≠ 1
  | _ => False

/-- The event lets a command go on. -/
def Accepted (smuCmd : Handle) (event : Event) : Prop :=
  event.Whole ∧ ¬ Refusal smuCmd event

/-- Where nothing is refused, only the transfers themselves matter. -/
theorem follows_accepted {script : List Action} {done : Bool}
    (follows : Trace.Follows Event.Whole script trace done)
    (unrefused : ∀ event ∈ trace, event.Whole → ¬ Refusal smuCmd event) :
    Trace.Follows (Accepted smuCmd) script trace done := by
  refine follows.congr ?_
  intro event member
  exact ⟨fun whole => ⟨whole, unrefused event member whole⟩, And.left⟩

theorem follows_accepted_of_writes {handle : Handle} {bytes : Bytes}
    {result : Except Error Unit} (writes : handle.Writes bytes trace result) :
    Trace.Follows (Accepted smuCmd) [.rewind handle, .write handle bytes] trace.calls
      result.isOk := by
  apply follows_accepted writes.follows
  cases writes <;> simp [Refusal]

/-- A command goes on after a status word of success, -/
theorem follows_accepted_of_success {reporting : Trace} {word : Bytes}
    (reports : smuCmd.Fills 4 reporting ⟨.ok (), word⟩) (success : Word.decode word = 1) :
    Trace.Follows (Accepted smuCmd) [.rewind smuCmd, .read smuCmd 4] reporting.calls true := by
  obtain ⟨full, rfl⟩ := reports.trace_eq
  refine .continued ⟨rfl, id⟩ (.continued ⟨⟨_, rfl, full⟩, ?_⟩ .finished)
  rintro ⟨-, bytes, same, refused⟩
  cases same
  exact refused success

/-- and stops after any other. -/
theorem follows_accepted_of_refusal {reporting : Trace} {word : Bytes}
    (reports : smuCmd.Fills 4 reporting ⟨.ok (), word⟩) (refused : Word.decode word ≠ 1) :
    Trace.Follows (Accepted smuCmd) [.rewind smuCmd, .read smuCmd 4] reporting.calls false := by
  obtain ⟨full, rfl⟩ := reports.trace_eq
  refine .continued ⟨rfl, id⟩ (.stopped ?_)
  rintro ⟨-, unrefused⟩
  exact unrefused ⟨rfl, _, rfl, refused⟩

/-- Other blocks are not looked at. -/
theorem follows_accepted_of_fills {handle : Handle} {length : Nat} {delivery : Delivery}
    (fills : handle.Fills length trace delivery)
    (unread : handle = smuCmd → delivery.status ≠ .ok ()) :
    Trace.Follows (Accepted smuCmd) [.rewind handle, .read handle length] trace.calls
      delivery.status.isOk := by
  apply follows_accepted fills.follows
  cases fills with
  | failed reads => cases reads <;> simp [Refusal]
  | short reads partly =>
      cases reads with
      | delivered bytes =>
          simp only [Trace.calls_append, Trace.calls_cons_rewind, Trace.calls_cons_read,
            Trace.calls_cons_note, Trace.calls_nil, List.append_nil, List.mem_cons,
            List.not_mem_nil, or_false]
          rintro event (rfl | rfl) whole
          · exact id
          · obtain ⟨given, same, full⟩ := whole
            cases same
            exact absurd full partly
  | whole reads full =>
      intro event member whole refusal
      cases reads with
      | delivered bytes =>
          simp only [Trace.calls_cons_rewind, Trace.calls_cons_read, Trace.calls_cons_note,
            Trace.calls_nil, List.mem_cons, List.not_mem_nil, or_false] at member
          rcases member with rfl | rfl
          · exact refusal
          · exact unread refusal.1 rfl

theorem Begins.follows (begins : Begins smuCmd smuArgs opcode arguments trace) :
    Trace.Follows (Accepted smuCmd)
      [.rewind smuArgs, .write smuArgs arguments.encode,
        .rewind smuCmd, .write smuCmd (Word.encode opcode)] trace.calls true := by
  cases begins with
  | begun sends starts =>
      rw [Trace.calls_append]
      exact (follows_accepted_of_writes sends).append (follows_accepted_of_writes starts)

/-- The calls of a command follow the script up to the first that is not accepted, where the status
word is accepted only if it reports success. -/
theorem Exchanges.follows {result : Except Error ArgumentBlock} (distinct : smuCmd ≠ smuArgs)
    (exchanges : Exchanges smuCmd smuArgs opcode arguments trace result) :
    Trace.Follows (Accepted smuCmd) (exchangeScript smuCmd smuArgs opcode arguments) trace.calls
      result.isOk := by
  cases exchanges with
  | unsent sends => exact (follows_accepted_of_writes sends).append_of_stopped _
  | unstarted sends starts =>
      rw [Trace.calls_append]
      exact (follows_accepted_of_writes sends).append
        ((follows_accepted_of_writes starts).append_of_stopped _)
  | unreported begins reports =>
      have stopped : Trace.Follows (Accepted smuCmd) _ _ _ :=
        follows_accepted_of_fills reports (by simp)
      rw [Trace.calls_append]
      exact begins.follows.append (stopped.append_of_stopped _)
  | refused begins reports refusal =>
      have stopped := follows_accepted_of_refusal reports (Error.ne_one_of_ofStatus? refusal)
      simp only [Trace.calls_append, Trace.calls_cons_note, Trace.calls_nil, List.append_nil]
      exact begins.follows.append (stopped.append_of_stopped _)
  | unanswered begins reports success answers =>
      have read := follows_accepted_of_success reports success
      have stopped : Trace.Follows (Accepted smuCmd) _ _ _ :=
        follows_accepted_of_fills answers (by simp)
      simp only [Trace.calls_append]
      exact (begins.follows.append read).append stopped
  | answered begins reports success answers =>
      have read := follows_accepted_of_success reports success
      have answered := follows_accepted_of_fills answers fun same => absurd same.symm distinct
      simp only [Trace.calls_append]
      exact (begins.follows.append read).append answered

/-- How the calls of a command on open channels go, and how that decides its status. At least one
call is made, and the calls are the first few of the script. A call is the last one if it is not
whole, if it reports a refusal, or if it is the eighth. The command succeeds exactly if all eight
calls are made and whole. -/
structure Orderly (smuCmd smuArgs : Handle) (opcode : UInt32) (arguments : ArgumentBlock)
    (calls : Trace) (status : Except Error Unit) : Prop where
  own_files : smuCmd.node = .smuCmd ∧ smuArgs.node = .smuArgs
  in_order : calls ≠ [] ∧
    calls.map Event.action <+: exchangeScript smuCmd smuArgs opcode arguments
  last_iff : ∀ index event, calls[index]? = some event →
    (calls.length = index + 1 ↔ ¬ event.Whole ∨ Refusal smuCmd event ∨ index = 7)
  ok_iff : status = .ok () ↔
    calls.map Event.action = exchangeScript smuCmd smuArgs opcode arguments ∧
      ∀ event ∈ calls, event.Whole

/-- A script that is followed says all of it but one thing: a refused status word ends the calls and
is not the eighth, so eight whole calls were all accepted. -/
theorem Orderly.of_follows {status : Except Error Unit} (command : smuCmd.node = .smuCmd)
    (arguing : smuArgs.node = .smuArgs)
    (follows : Trace.Follows (Accepted smuCmd) (exchangeScript smuCmd smuArgs opcode arguments)
      trace status.isOk) :
    Orderly smuCmd smuArgs opcode arguments trace status where
  own_files := ⟨command, arguing⟩
  in_order := ⟨follows.ne_nil (List.cons_ne_nil _ _), follows.actions_isPrefix⟩
  last_iff := by
    intro index event found
    have last := follows.length_eq_iff found
    have eight : index + 1 = (exchangeScript smuCmd smuArgs opcode arguments).length ↔ index = 7 :=
      Nat.succ_inj
    rw [last, eight, Accepted, Classical.not_and_iff_not_or_not, Classical.not_not, or_assoc]
  ok_iff := by
    have finished := follows.finished_iff
    constructor
    · rintro rfl
      obtain ⟨all, accepted⟩ := finished.mp rfl
      exact ⟨all, fun event member => (accepted event member).1⟩
    · rintro ⟨all, whole⟩
      have succeeded : status.isOk = true := by
        refine finished.mpr ⟨all, fun event member => ⟨whole event member, ?_⟩⟩
        intro refusal
        -- A refusal ends the calls, and the eighth of them reads the other file.
        obtain ⟨index, found⟩ := List.getElem?_of_mem member
        have last := (follows.length_eq_iff found).mpr (Or.inl fun accepted => accepted.2 refusal)
        rw [← List.length_map Event.action, all] at last
        obtain rfl : index = 7 := (Nat.succ.inj last).symm
        have eighth : (trace.map Event.action)[7]? = some event.action := by
          rw [List.getElem?_map, found]
          rfl
        rw [all] at eighth
        obtain ⟨action, reply⟩ := event
        cases Option.some.inj eighth
        rw [refusal.1, command] at arguing
        cases arguing
      cases status with
      | ok done => rfl
      | error error => cases succeeded

/-- Whatever the driver replies, a command makes the calls of its script, in order, up to the first
that is not whole or reports a refusal. -/
theorem execute_order {status : Except Error Unit} (reachable : session.Reachable)
    (produced : (session.execute opcode arguments).Produces trace (status, block)) :
    (session.smuCmd = none ∨ session.smuArgs = none →
      trace.calls = [] ∧ status = .error .transferFailed) ∧
    ∀ smuCmd smuArgs, session.smuCmd = some smuCmd → session.smuArgs = some smuArgs →
      Orderly smuCmd smuArgs opcode arguments trace.calls status := by
  obtain ⟨result, exchanged, rfl, -⟩ := produces_execute_iff.mp produced
  rcases produces_exchange_cases exchanged with
    ⟨missing, rfl, rfl⟩ | ⟨command, arguing, isOpen, alsoOpen, exchanges⟩
  · refine ⟨fun _ => ⟨rfl, rfl⟩, ?_⟩
    intro smuCmd smuArgs command arguing
    rw [command, arguing] at missing
    simp at missing
  · constructor
    · rw [isOpen, alsoOpen]
      simp
    · intro smuCmd smuArgs command arguing
      cases isOpen.symm.trans command
      cases alsoOpen.symm.trans arguing
      have distinct := reachable.consistent.smuCmd_ne_smuArgs command arguing
      refine .of_follows (reachable.consistent.node_of_held command)
        (reachable.consistent.node_of_held arguing) ?_
      have status : (result.map fun _ => ()).isOk = result.isOk := by
        cases result <;> rfl
      rw [status]
      exact exchanges.follows distinct

/-- The command of a client whose driver is busy. -/
def refusedRun : Outcome Simulation.Recorder (Except Error Unit × ArgumentBlock) :=
  (unfinished.execute 5 (.single 1)).run Simulation.Recorder.driver
    (Simulation.Recorder.initial.apply (.registers (.setStatus StatusCode.busy.word)))

theorem execute_order_refused :
    unfinished.Reachable ∧ refusedRun.trace.calls.length = 6 ∧
      refusedRun.value = (.error .busy, .single 1) ∧
      Orderly ⟨.smuCmd, 17⟩ ⟨.smuArgs, 18⟩ 5 (.single 1) refusedRun.trace.calls
        refusedRun.value.1 :=
  ⟨reachable_unfinished, rfl, rfl,
    (execute_order reachable_unfinished (produces_run _ _ _)).2 _ _ rfl rfl⟩

end ManagementUnit.Session
