import ManagementUnit.Proofs.ArgumentBlock
import ManagementUnit.Proofs.Session.Exchange
import ManagementUnit.Proofs.Simulation.Scripted

/-!
# What a command leaves behind

The block of a command is its input and its output. It is the response if the command succeeded, and
it is as it was if the command failed, wherever that happened.

* `Consistent.atomic` — what becomes of the block, whatever the driver replies.
* `Unhindered.of_exchanges` — with the scripted driver a command succeeds unless faults wait for it.
* `execute_outcome` — both of these for all reachable sessions.
-/

namespace ManagementUnit

namespace Simulation

theorem Registers.store?_smuArgs {bytes : Bytes} (registers : Registers)
    (block : bytes.length = ArgumentBlock.size) :
    registers.store? .smuArgs bytes = some { registers with arguments := .decode bytes } := by
  unfold store?
  rw [block]
  rfl

end Simulation

namespace Session

open Dialogue Driver Simulation

variable {session : Session} {trace : Trace} {opcode : UInt32} {arguments block : ArgumentBlock}
  {smuCmd smuArgs : Handle} {state last : Scripted}

/-! ### With any driver -/

theorem Begins.not_mem_read {asked : Nat} {handle : Handle}
    {reply : Except IoError { bytes : Bytes // bytes.length ≤ asked }}
    (begins : Begins smuCmd smuArgs opcode arguments trace) :
    ⟨.read handle asked, reply⟩ ∉ trace := by
  cases begins with
  | begun sends starts =>
      rw [List.mem_append, not_or]
      exact ⟨sends.not_mem_read, starts.not_mem_read⟩

/-- A status word other than success is the word of the error. -/
theorem Exchanges.word_of_read {result : Except Error ArgumentBlock} {asked : Nat}
    {bytes : { bytes : Bytes // bytes.length ≤ asked }} (distinct : smuCmd ≠ smuArgs)
    (exchanges : Exchanges smuCmd smuArgs opcode arguments trace result)
    (member : ⟨.read smuCmd asked, .ok bytes⟩ ∈ trace) (four : bytes.val.length = 4)
    (refused : Word.decode bytes.val ≠ 1) :
    ∃ error, result = .error error ∧ error.word = Word.decode bytes.val := by
  cases exchanges with
  | unsent sends => exact absurd member sends.not_mem_read
  | unstarted sends starts =>
      rcases List.mem_append.mp member with member | member
      · exact absurd member sends.not_mem_read
      · exact absurd member starts.not_mem_read
  | unreported begins reports =>
      rcases List.mem_append.mp member with member | member
      · exact absurd member begins.not_mem_read
      · cases (reports.of_mem_read member).2.2 four
  | refused begins reports refusal =>
      simp only [List.mem_append, begins.not_mem_read, false_or] at member
      rcases member with member | impossible
      · obtain ⟨-, same, -⟩ := reports.of_mem_read member
        rw [same]
        exact ⟨_, rfl, Error.word_of_ofStatus? refusal⟩
      · cases List.mem_singleton.mp impossible
  | unanswered begins reports success answers | answered begins reports success answers =>
      simp only [List.mem_append, begins.not_mem_read, false_or] at member
      rcases member with member | member
      · obtain ⟨-, same, -⟩ := reports.of_mem_read member
        rw [same] at refused
        exact absurd success refused
      -- The response is read on the other channel.
      · exact absurd (answers.of_mem_read member).1 distinct

/-- The calls of a command that succeeds, with their replies. -/
def answeredCalls (smuCmd smuArgs : Handle) (opcode : UInt32) (arguments : ArgumentBlock)
    (word : { bytes : Bytes // bytes.length ≤ 4 })
    (response : { bytes : Bytes // bytes.length ≤ ArgumentBlock.size }) : Trace :=
  [⟨.rewind smuArgs, .ok ()⟩, ⟨.write smuArgs arguments.encode, .ok ArgumentBlock.size⟩,
    ⟨.rewind smuCmd, .ok ()⟩, ⟨.write smuCmd (Word.encode opcode), .ok 4⟩,
    ⟨.rewind smuCmd, .ok ()⟩, ⟨.read smuCmd 4, .ok word⟩,
    ⟨.rewind smuArgs, .ok ()⟩, ⟨.read smuArgs ArgumentBlock.size, .ok response⟩]

/-- A command succeeds with what was read after the opcode was written. -/
theorem Exchanges.calls_of_ok
    (exchanges : Exchanges smuCmd smuArgs opcode arguments trace (.ok block)) :
    ∃ word response, response.val.length = ArgumentBlock.size ∧
      trace.calls = answeredCalls smuCmd smuArgs opcode arguments word response ∧
      block = .decode response.val := by
  cases exchanges with
  | answered begins reports success answers =>
      cases begins with
      | begun sends starts =>
          obtain ⟨four, read⟩ := reports.trace_eq
          obtain ⟨full, delivered⟩ := answers.trace_eq
          refine ⟨⟨_, Nat.le_of_eq four⟩, ⟨_, Nat.le_of_eq full⟩, full, ?_, rfl⟩
          rw [sends.trace_eq, starts.trace_eq, read, delivered, arguments.length_encode]
          rfl

/-- How a command leaves its block and reports its status. A command that fails leaves its block
alone, and a command that succeeds leaves the response there, which it read after all its other
calls. A status word other than success is the word of the error. -/
structure Atomic (session : Session) (opcode : UInt32) (arguments : ArgumentBlock) (trace : Trace)
    (status : Except Error Unit) (block : ArgumentBlock) : Prop where
  unchanged_of_error : ∀ error, status = .error error → block = arguments
  decoded_of_ok : status = .ok () → ∃ smuCmd smuArgs word response,
    session.smuCmd = some smuCmd ∧ session.smuArgs = some smuArgs ∧
    response.val.length = ArgumentBlock.size ∧
    trace.calls = answeredCalls smuCmd smuArgs opcode arguments word response ∧
    block = .decode response.val
  error_of_status : ∀ smuCmd bytes, session.smuCmd = some smuCmd →
    ⟨.read smuCmd 4, .ok bytes⟩ ∈ trace → bytes.val.length = 4 → Word.decode bytes.val ≠ 1 →
    ∃ error, status = .error error ∧ error.word = Word.decode bytes.val

/-- The block is replaced at the end of the last way that an exchange goes, and only there. -/
theorem Consistent.atomic {status : Except Error Unit} (consistent : session.Consistent)
    (produced : (session.execute opcode arguments).Produces trace (status, block)) :
    session.Atomic opcode arguments trace status block := by
  obtain ⟨result, exchanged, rfl, rfl⟩ := produces_execute_iff.mp produced
  rcases produces_exchange_cases exchanged with
    ⟨-, rfl, rfl⟩ | ⟨smuCmd, smuArgs, command, arguing, exchanges⟩
  · exact {
      unchanged_of_error := fun _ _ => rfl
      decoded_of_ok := fun impossible => nomatch impossible
      error_of_status := fun _ _ _ impossible => nomatch impossible }
  · have distinct := consistent.smuCmd_ne_smuArgs command arguing
    exact {
      unchanged_of_error := by
        intro error failed
        cases result with
        | ok response => cases failed
        | error failure => rfl
      decoded_of_ok := by
        intro succeeded
        cases result with
        | ok response =>
            obtain ⟨word, delivered, full, calls, same⟩ := exchanges.calls_of_ok
            exact ⟨smuCmd, smuArgs, word, delivered, command, arguing, full, calls, same⟩
        | error failure => cases succeeded
      error_of_status := by
        intro other bytes held member four refused
        cases command.symm.trans held
        obtain ⟨error, rfl, word⟩ := exchanges.word_of_read distinct member four refused
        exact ⟨error, rfl, word⟩ }

/-! ### With the scripted driver -/

/-- Nothing keeps a command on these channels from succeeding. -/
structure Unhindered (smuCmd smuArgs : Handle) (state : Scripted) : Prop where
  command : smuCmd.node = .smuCmd
  arguing : smuArgs.node = .smuArgs
  calmCommand : state.Calm .smuCmd
  calmArguments : state.Calm .smuArgs
  success : state.registers.status = 1

/-- The driver with a block in its argument file. -/
def withArguments (state : Scripted) (arguments : ArgumentBlock) : Scripted :=
  { state with registers := { state.registers with arguments } }

namespace Unhindered

theorem withArguments (unhindered : Unhindered smuCmd smuArgs state) (arguments : ArgumentBlock) :
    Unhindered smuCmd smuArgs (withArguments state arguments) :=
  ⟨unhindered.command, unhindered.arguing, unhindered.calmCommand, unhindered.calmArguments,
    unhindered.success⟩

theorem of_sends {result : Except Error Unit} (unhindered : Unhindered smuCmd smuArgs state)
    (sends : smuArgs.Writes arguments.encode trace result)
    (answers : Scripted.driver.Answers state trace last) :
    result = .ok () ∧ last = Session.withArguments state arguments := by
  have own := unhindered.arguing
  refine Scripted.writes_of_calm (by rw [own]; exact unhindered.calmArguments) ?_ sends answers
  rw [own, Registers.store?_smuArgs state.registers arguments.length_encode,
    ArgumentBlock.decode_encode]

theorem of_starts {result : Except Error Unit} (unhindered : Unhindered smuCmd smuArgs state)
    (starts : smuCmd.Writes (Word.encode opcode) trace result)
    (answers : Scripted.driver.Answers state trace last) :
    result = .ok () ∧
      last = Session.withArguments state
        (state.registers.response.getD state.registers.arguments) := by
  have own := unhindered.command
  refine Scripted.writes_of_calm (by rw [own]; exact unhindered.calmCommand) ?_ starts answers
  rw [own]
  rfl

theorem of_reports {delivery : Delivery} (unhindered : Unhindered smuCmd smuArgs state)
    (reports : smuCmd.Fills 4 trace delivery)
    (answers : Scripted.driver.Answers state trace last) :
    delivery = ⟨.ok (), Word.encode 1⟩ ∧ last = state := by
  have own := unhindered.command
  have contents : state.contents smuCmd.node = Word.encode 1 := by
    rw [own, ← unhindered.success]
    rfl
  rw [← contents]
  refine Scripted.fills_of_calm (by rw [own]; exact unhindered.calmCommand) ?_ reports answers
  rw [contents]
  rfl

theorem of_answers {delivery : Delivery} (unhindered : Unhindered smuCmd smuArgs state)
    (answered : smuArgs.Fills ArgumentBlock.size trace delivery)
    (answers : Scripted.driver.Answers state trace last) :
    delivery = ⟨.ok (), state.registers.arguments.encode⟩ ∧ last = state := by
  have own := unhindered.arguing
  have contents : state.contents smuArgs.node = state.registers.arguments.encode := by
    rw [own]
    rfl
  rw [← contents]
  refine Scripted.fills_of_calm (by rw [own]; exact unhindered.calmArguments) ?_ answered answers
  rw [contents]
  exact state.registers.arguments.length_encode

theorem of_begins (unhindered : Unhindered smuCmd smuArgs state)
    (begins : Begins smuCmd smuArgs opcode arguments trace)
    (answers : Scripted.driver.Answers state trace last) :
    last = Session.withArguments state (state.registers.response.getD arguments) := by
  cases begins with
  | begun sends starts =>
      obtain ⟨middle, sending, starting⟩ := answers_append_iff.mp answers
      obtain ⟨-, rfl⟩ := unhindered.of_sends sends sending
      exact ((unhindered.withArguments arguments).of_starts starts starting).2

theorem of_begins_reports {beginning reporting : Trace} {delivery : Delivery}
    (unhindered : Unhindered smuCmd smuArgs state)
    (begins : Begins smuCmd smuArgs opcode arguments beginning)
    (reports : smuCmd.Fills 4 reporting delivery)
    (answers : Scripted.driver.Answers state (beginning ++ reporting) last) :
    delivery = ⟨.ok (), Word.encode 1⟩ ∧
      last = Session.withArguments state (state.registers.response.getD arguments) := by
  obtain ⟨middle, before, after⟩ := answers_append_iff.mp answers
  obtain rfl := unhindered.of_begins begins before
  exact (unhindered.withArguments _).of_reports reports after

/-- A command that nothing hinders succeeds with the configured response, or with its arguments if
there is none. -/
theorem of_exchanges {result : Except Error ArgumentBlock}
    (unhindered : Unhindered smuCmd smuArgs state)
    (exchanges : Exchanges smuCmd smuArgs opcode arguments trace result)
    (answers : Scripted.driver.Answers state trace last) :
    result = .ok (state.registers.response.getD arguments) := by
  have begun := unhindered.withArguments (state.registers.response.getD arguments)
  cases exchanges with
  | unsent sends => cases (unhindered.of_sends sends answers).1
  | unstarted sends starts =>
      obtain ⟨middle, sending, starting⟩ := answers_append_iff.mp answers
      obtain ⟨-, rfl⟩ := unhindered.of_sends sends sending
      cases ((unhindered.withArguments arguments).of_starts starts starting).1
  | unreported begins reports => cases (unhindered.of_begins_reports begins reports answers).1
  | refused begins reports refusal =>
      obtain ⟨middle, before, -⟩ := answers_append_iff.mp answers
      cases (unhindered.of_begins_reports begins reports before).1
      cases refusal
  | unanswered begins reports success answered =>
      obtain ⟨middle, before, answering⟩ := answers_append_iff.mp answers
      obtain ⟨-, rfl⟩ := unhindered.of_begins_reports begins reports before
      cases (begun.of_answers answered answering).1
  | answered begins reports success answered =>
      obtain ⟨middle, before, answering⟩ := answers_append_iff.mp answers
      obtain ⟨-, rfl⟩ := unhindered.of_begins_reports begins reports before
      cases (begun.of_answers answered answering).1
      exact congrArg Except.ok (ArgumentBlock.decode_encode _)

end Unhindered

/-- Whatever the driver replies, a command that fails leaves its block alone, and one that succeeds
leaves the response in it. With the scripted driver, whatever happened to it before, a command
succeeds unless something hinders it. -/
theorem execute_outcome (reachable : session.Reachable) (opcode : UInt32)
    (arguments : ArgumentBlock) :
    (∀ trace status block, (session.execute opcode arguments).Produces trace (status, block) →
      session.Atomic opcode arguments trace status block) ∧
    ∀ state : Scripted, session.smuCmd.isSome = true → session.smuArgs.isSome = true →
      state.Calm .smuCmd → state.Calm .smuArgs → state.registers.status = 1 →
      ((session.execute opcode arguments).run Scripted.driver state).value =
        (.ok (), state.registers.response.getD arguments) := by
  have consistent := reachable.consistent
  refine ⟨fun _ _ _ => consistent.atomic, ?_⟩
  intro state commanded argued calmCommand calmArguments success
  obtain ⟨smuCmd, command⟩ := Option.isSome_iff_exists.mp commanded
  obtain ⟨smuArgs, arguing⟩ := Option.isSome_iff_exists.mp argued
  have unhindered : Unhindered smuCmd smuArgs state := {
    command := consistent.node_of_held command
    arguing := consistent.node_of_held arguing
    calmCommand, calmArguments, success }
  obtain ⟨produced, answers⟩ :=
    run_spec Scripted.driver (session.execute opcode arguments) state
  obtain ⟨result, exchanged, status, block⟩ := produces_execute_iff.mp produced
  have exchanges := Exchanges.of_produces command arguing exchanged
  rw [unhindered.of_exchanges exchanges answers] at status block
  exact Prod.ext status block

/-- A driver that answers every command by one block. -/
def responsive : Scripted :=
  Scripted.initial.apply (.registers (.setResponse (some (.single 7))))

theorem execute_outcome_responsive :
    unfinished.Reachable ∧ responsive.Calm .smuCmd ∧ responsive.Calm .smuArgs ∧
      ((unfinished.execute 5 (.single 1)).run Scripted.driver responsive).value =
        (.ok (), .single 7) ∧
      unfinished.Atomic 5 (.single 1) refusedRun.trace refusedRun.value.1 refusedRun.value.2 :=
  ⟨reachable_unfinished, fun _ => rfl, fun _ => rfl,
    (execute_outcome reachable_unfinished 5 (.single 1)).2 responsive rfl rfl (fun _ => rfl)
      (fun _ => rfl) rfl,
    (execute_outcome reachable_unfinished 5 (.single 1)).1 _ _ _ (produces_run _ _ _)⟩

end Session

end ManagementUnit
