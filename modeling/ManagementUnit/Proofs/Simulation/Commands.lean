import ManagementUnit.Proofs.Session.Outcome
import ManagementUnit.Proofs.Simulation.Recorder

/-!
# Commands on a recorder

A recorder runs an opcode the moment it is written, with whatever arguments its block holds by then.
Those are the arguments of the same call: a call whose arguments fell short writes no opcode, so an
opcode never meets a block that another call left behind.

* `Recorder.of_exchanges` — what a command on open channels does, and what comes of it.
* `Recorder.meets_exchanges` — what its opcode meets.
-/

namespace ManagementUnit.Simulation

open Driver Session

variable {trace : Trace} {opcode : UInt32} {arguments : ArgumentBlock} {smuCmd smuArgs : Handle}

theorem Registers.store?_smuCmd (registers : Registers) (opcode : UInt32) :
    registers.store? .smuCmd (Word.encode opcode) =
      some { registers with arguments := registers.response.getD registers.arguments } := rfl

namespace Recorder

/-! ### What a command does -/

/-- The recorder with other arguments. -/
def withArguments (recorder : Recorder) (arguments : ArgumentBlock) : Recorder :=
  { recorder with registers := { recorder.registers with arguments } }

/-- The recorder after an opcode was run: the response that was set beforehand replaces the
arguments. -/
def started (recorder : Recorder) (opcode : UInt32) : Recorder :=
  { recorder.withArguments (recorder.registers.response.getD recorder.registers.arguments) with
    opcodes := recorder.opcodes ++ [opcode] }

/-- Whether a command gets through to the recorder. -/
def accepts (recorder : Recorder) : Bool :=
  !recorder.shortWrites .smuArgs && !recorder.shortWrites .smuCmd

/-- The recorder after a command on open channels. -/
def commanded (recorder : Recorder) (opcode : UInt32) (arguments : ArgumentBlock) : Recorder :=
  if recorder.shortWrites .smuArgs then recorder
  else if recorder.shortWrites .smuCmd then recorder.withArguments arguments
  else (recorder.withArguments arguments).started opcode

theorem commanded_of_accepts {recorder : Recorder} (accepts : recorder.accepts = true) :
    recorder.commanded opcode arguments = (recorder.withArguments arguments).started opcode := by
  obtain ⟨argued, commanded⟩ : recorder.shortWrites .smuArgs = false ∧
      recorder.shortWrites .smuCmd = false := by
    simpa [Recorder.accepts] using accepts
  simp [Recorder.commanded, argued, commanded]

/-- What comes of a command that got through. -/
def verdict (status : UInt32) (shortCommand shortArguments : Bool) : Except Error Unit :=
  if shortCommand then .error .transferFailed
  else
    match Error.ofStatus? status with
    | some error => .error error
    | none => if shortArguments then .error .transferFailed else .ok ()

/-! ### The transfers of a command -/

variable {state last : Recorder}

/-- The arguments are stored unless writes of their file fall short. -/
theorem of_sends {result : Except Error Unit} (own : smuArgs.node = .smuArgs)
    (sends : smuArgs.Writes arguments.encode trace result)
    (answers : driver.Answers state trace last) :
    (state.shortWrites .smuArgs = true ∧ result = .error .transferFailed ∧
        last.unlogged = state.unlogged) ∨
      (state.shortWrites .smuArgs = false ∧ result = .ok () ∧
        last.unlogged = (state.withArguments arguments).unlogged) := by
  have block : arguments.encode ≠ [] := by
    rw [← List.length_pos_iff, arguments.length_encode]
    decide
  have takes := Registers.store?_smuArgs state.registers arguments.length_encode
  rw [ArgumentBlock.decode_encode, ← own] at takes
  have written := of_writes sends answers block takes
  have stored : state.stored smuArgs.node arguments.encode { state.registers with arguments } =
      state.withArguments arguments := by
    rw [own, stored, if_neg (by decide), List.append_nil]
    rfl
  rwa [stored, own] at written

/-- The opcode is run unless writes of its file fall short. -/
theorem of_starts {result : Except Error Unit} (own : smuCmd.node = .smuCmd)
    (starts : smuCmd.Writes (Word.encode opcode) trace result)
    (answers : driver.Answers state trace last) :
    (state.shortWrites .smuCmd = true ∧ result = .error .transferFailed ∧
        last.unlogged = state.unlogged) ∨
      (state.shortWrites .smuCmd = false ∧ result = .ok () ∧
        last.unlogged = (state.started opcode).unlogged) := by
  have takes := Registers.store?_smuCmd state.registers opcode
  rw [← own] at takes
  have written := of_writes starts answers (by simp [Word.encode]) takes
  have stored : state.stored smuCmd.node (Word.encode opcode)
      { state.registers with
        arguments := state.registers.response.getD state.registers.arguments } =
      state.started opcode := by
    rw [own, stored, if_pos rfl, Word.decode_encode]
    rfl
  rwa [stored, own] at written

/-- A command that has begun fell short in neither of its writes. -/
theorem of_begins (command : smuCmd.node = .smuCmd) (arguing : smuArgs.node = .smuArgs)
    (begins : Begins smuCmd smuArgs opcode arguments trace)
    (answers : driver.Answers state trace last) :
    state.accepts = true ∧
      last.unlogged = ((state.withArguments arguments).started opcode).unlogged := by
  cases begins with
  | begun sends starts =>
      obtain ⟨middle, sending, starting⟩ := answers_append_iff.mp answers
      obtain ⟨-, impossible, -⟩ | ⟨argued, -, sent⟩ := of_sends arguing sends sending
      · cases impossible
      obtain ⟨-, impossible, -⟩ | ⟨commanded, -, begun⟩ := of_starts command starts starting
      · cases impossible
      have sameWrites : middle.shortWrites = state.shortWrites :=
        (alike_of_unlogged sent).shortWrites_eq
      rw [sameWrites] at commanded
      rw [accepts, argued, commanded]
      exact ⟨rfl, begun.trans (congrArg (fun recorder => recorder.started opcode) sent)⟩

theorem of_reports {delivery : Delivery} (own : smuCmd.node = .smuCmd)
    (reports : smuCmd.Fills 4 trace delivery) (answers : driver.Answers state trace last) :
    last.unlogged = state.unlogged ∧
      ((state.shortReads .smuCmd = true ∧ delivery.status = .error .transferFailed) ∨
        (state.shortReads .smuCmd = false ∧
          delivery = ⟨.ok (), Word.encode state.registers.status⟩)) := by
  have read := of_fills reports answers (by decide) (by rw [own]; rfl)
  rwa [own] at read

theorem of_answers {delivery : Delivery} (own : smuArgs.node = .smuArgs)
    (answered : smuArgs.Fills ArgumentBlock.size trace delivery)
    (answers : driver.Answers state trace last) :
    last.unlogged = state.unlogged ∧
      ((state.shortReads .smuArgs = true ∧ delivery.status = .error .transferFailed) ∨
        (state.shortReads .smuArgs = false ∧
          delivery = ⟨.ok (), state.registers.arguments.encode⟩)) := by
  have size : (state.shown smuArgs.node).length = ArgumentBlock.size := by
    rw [own]
    exact state.registers.arguments.length_encode
  have read := of_fills answered answers (by decide) size
  rwa [own] at read

/-- What comes of a command on open channels. -/
structure Concludes (state last : Recorder) (opcode : UInt32) (arguments : ArgumentBlock)
    (result : Except Error ArgumentBlock) : Prop where
  state_eq : last.unlogged = (state.commanded opcode arguments).unlogged
  status_eq : (result.map fun _ => ()) =
    if state.accepts then
      verdict state.registers.status (state.shortReads .smuCmd) (state.shortReads .smuArgs)
    else .error .transferFailed
  response_eq : ∀ response, result = .ok response →
    response = state.registers.response.getD arguments

theorem Concludes.of_refused
    (kept : last.unlogged = (state.commanded opcode arguments).unlogged)
    (refused : state.accepts = false) :
    Concludes state last opcode arguments (.error .transferFailed) where
  state_eq := kept
  status_eq := by
    rw [refused]
    rfl
  response_eq := fun _ impossible => nomatch impossible

theorem Concludes.of_accepted {result : Except Error ArgumentBlock} (accepts : state.accepts = true)
    (kept : last.unlogged = ((state.withArguments arguments).started opcode).unlogged)
    (status : (result.map fun _ => ()) =
      verdict state.registers.status (state.shortReads .smuCmd) (state.shortReads .smuArgs))
    (response : ∀ response, result = .ok response →
      response = state.registers.response.getD arguments) :
    Concludes state last opcode arguments result where
  state_eq := by rw [kept, commanded_of_accepts accepts]
  status_eq := by rw [if_pos accepts, status]
  response_eq := response

/-- An exchange that gets to its status word has stored the arguments and started the opcode, so
only a short read keeps it from the word. -/
theorem of_begins_reports {beginning reporting : Trace} {delivery : Delivery}
    (command : smuCmd.node = .smuCmd) (arguing : smuArgs.node = .smuArgs)
    (begins : Begins smuCmd smuArgs opcode arguments beginning)
    (reports : smuCmd.Fills 4 reporting delivery)
    (answers : driver.Answers state (beginning ++ reporting) last) :
    state.accepts = true ∧
      last.unlogged = ((state.withArguments arguments).started opcode).unlogged ∧
      ((state.shortReads .smuCmd = true ∧ delivery.status = .error .transferFailed) ∨
        (state.shortReads .smuCmd = false ∧
          delivery = ⟨.ok (), Word.encode state.registers.status⟩)) := by
  obtain ⟨middle, beginning, reporting⟩ := answers_append_iff.mp answers
  obtain ⟨accepts, begun⟩ := of_begins command arguing begins beginning
  obtain ⟨kept, reported⟩ := of_reports command reports reporting
  have alike := alike_of_unlogged begun
  have sameReads : middle.shortReads = state.shortReads := alike.shortReads_eq
  have sameStatus : middle.registers.status = state.registers.status := by
    rw [alike.registers_eq]
    rfl
  rw [sameReads, sameStatus] at reported
  exact ⟨accepts, kept.trans begun, reported⟩

/-- After the opcode was run the response is what the block holds. -/
theorem of_begun_answers {middle : Recorder} {delivery : Delivery} (own : smuArgs.node = .smuArgs)
    (begun : middle.unlogged = ((state.withArguments arguments).started opcode).unlogged)
    (answered : smuArgs.Fills ArgumentBlock.size trace delivery)
    (answers : driver.Answers middle trace last) :
    last.unlogged = ((state.withArguments arguments).started opcode).unlogged ∧
      ((state.shortReads .smuArgs = true ∧ delivery.status = .error .transferFailed) ∨
        (state.shortReads .smuArgs = false ∧
          delivery = ⟨.ok (), (state.registers.response.getD arguments).encode⟩)) := by
  obtain ⟨kept, read⟩ := of_answers own answered answers
  have alike := alike_of_unlogged begun
  have sameReads : middle.shortReads = state.shortReads := alike.shortReads_eq
  have sameBlock : middle.registers.arguments = state.registers.response.getD arguments := by
    rw [alike.registers_eq]
    rfl
  rw [sameReads, sameBlock] at read
  exact ⟨kept.trans begun, read⟩

theorem ofStatus?_of_success {status : UInt32} (success : Word.decode (Word.encode status) = 1) :
    Error.ofStatus? status = none := by
  rw [Word.decode_encode] at success
  exact Error.ofStatus?_eq_none_iff.mpr success

/-- The four transfers of an exchange fall short only on files that are marked. By the way it goes,
this says which of them do, and what is stored until then. -/
theorem of_exchanges {result : Except Error ArgumentBlock} (command : smuCmd.node = .smuCmd)
    (arguing : smuArgs.node = .smuArgs)
    (exchanges : Exchanges smuCmd smuArgs opcode arguments trace result)
    (answers : driver.Answers state trace last) : Concludes state last opcode arguments result := by
  cases exchanges with
  | unsent sends =>
      obtain ⟨argued, same, kept⟩ | ⟨-, impossible, -⟩ := of_sends arguing sends answers
      · cases same
        exact .of_refused (by rw [kept, commanded, if_pos argued]) (by rw [accepts, argued]; rfl)
      · cases impossible
  | unstarted sends starts =>
      obtain ⟨middle, sending, starting⟩ := answers_append_iff.mp answers
      obtain ⟨-, impossible, -⟩ | ⟨argued, -, sent⟩ := of_sends arguing sends sending
      · cases impossible
      obtain ⟨fell, same, kept⟩ | ⟨-, impossible, -⟩ := of_starts command starts starting
      · cases same
        have sameWrites : middle.shortWrites = state.shortWrites :=
          (alike_of_unlogged sent).shortWrites_eq
        rw [sameWrites] at fell
        -- The arguments are stored all the same.
        refine .of_refused ?_ (by rw [accepts, fell, Bool.not_true, Bool.and_false])
        rw [kept, sent, commanded, if_neg (by simp [argued]), if_pos fell]
      · cases impossible
  | unreported begins reports =>
      obtain ⟨accepts, begun, ⟨short, same⟩ | ⟨-, impossible⟩⟩ :=
        of_begins_reports command arguing begins reports answers
      · cases same
        refine .of_accepted accepts begun ?_ fun _ impossible => nomatch impossible
        rw [short]
        rfl
      · cases impossible
  | refused begins reports refusal =>
      obtain ⟨middle, before, noted⟩ := answers_append_iff.mp answers
      obtain rfl := answers_nil_iff.mp (answers_note_iff.mp noted)
      obtain ⟨accepts, begun, ⟨-, impossible⟩ | ⟨full, same⟩⟩ :=
        of_begins_reports command arguing begins reports before
      · cases impossible
      · cases same
        rw [Word.decode_encode] at refusal
        refine .of_accepted accepts begun ?_ fun _ impossible => nomatch impossible
        rw [verdict, full, refusal]
        rfl
  | unanswered begins reports success answered =>
      obtain ⟨middle, before, answering⟩ := answers_append_iff.mp answers
      obtain ⟨accepts, begun, ⟨-, impossible⟩ | ⟨full, same⟩⟩ :=
        of_begins_reports command arguing begins reports before
      · cases impossible
      · cases same
        obtain ⟨kept, ⟨short, same⟩ | ⟨-, impossible⟩⟩ :=
          of_begun_answers arguing begun answered answering
        · cases same
          refine .of_accepted accepts kept ?_ fun _ impossible => nomatch impossible
          rw [verdict, full, ofStatus?_of_success success, short]
          rfl
        · cases impossible
  | answered begins reports success answered =>
      obtain ⟨middle, before, answering⟩ := answers_append_iff.mp answers
      obtain ⟨accepts, begun, ⟨-, impossible⟩ | ⟨full, same⟩⟩ :=
        of_begins_reports command arguing begins reports before
      · cases impossible
      · cases same
        obtain ⟨kept, ⟨-, impossible⟩ | ⟨whole, same⟩⟩ :=
          of_begun_answers arguing begun answered answering
        · cases impossible
        · cases same
          refine .of_accepted accepts kept ?_ ?_
          · rw [verdict, full, ofStatus?_of_success success, whole]
            rfl
          · rintro response same
            rw [ArgumentBlock.decode_encode] at same
            exact (Except.ok.inj same).symm

/-! ### What an opcode meets -/

/-- If the action records an opcode it is this one, and these are the arguments in the block. -/
def Matched (opcode : UInt32) (arguments : ArgumentBlock) (met : Recorder)
    (action : Action) : Prop :=
  (driver.reply action met).2.opcodes ≠ met.opcodes →
    met.registers.arguments = arguments ∧
      (driver.reply action met).2.opcodes = met.opcodes ++ [opcode]

theorem matched_of_spares {action : Action} (spares : Spares [.smuCmd] action) (met : Recorder) :
    Matched opcode arguments met action :=
  fun changed => absurd (opcodes_reply spares met) changed

theorem matched_of_quiet (action : Action) (quiet : action.Quiet) (met : Recorder) :
    Matched opcode arguments met action :=
  matched_of_spares (spares_of_quiet quiet) met

theorem meets_sends {result : Except Error Unit} (own : smuArgs.node = .smuArgs)
    (sends : smuArgs.Writes arguments.encode trace result) :
    driver.Meets (Matched opcode arguments) state trace := by
  have only : Dialogue.Only (Spares [.smuCmd]) (smuArgs.writeBlock arguments.encode).run := by
    refine Handle.only_writeBlock (fun action => spares_of_quiet) ?_
    rintro _ _ ⟨⟩
    rw [own]
    decide
  refine .of_forall fun event member => matched_of_spares ?_
  exact only _ _ (Handle.produces_writeBlock_iff.mpr sends) event member

theorem meets_fills {handle : Handle} {length : Nat} {delivery : Delivery}
    (fills : handle.Fills length trace delivery) :
    driver.Meets (Matched opcode arguments) state trace := by
  refine .of_forall fun event member => matched_of_quiet _ ?_
  exact Handle.only_fill _ _ (Handle.produces_fill_iff.mpr fills) event member

theorem meets_note {notice : Notice} :
    driver.Meets (Matched opcode arguments) state [⟨.note notice, ()⟩] :=
  .cons (matched_of_quiet (.note notice) trivial state) .nil

/-- The opcode is run with what the block holds, which is what was written before it. -/
theorem matched_write (own : smuCmd.node = .smuCmd) (met : Recorder)
    (holds : met.registers.arguments = arguments) :
    Matched opcode arguments met (.write smuCmd (Word.encode opcode)) := by
  intro changed
  cases short : met.shortWrites smuCmd.node with
  | true =>
      have kept := alike_of_unlogged (write_of_short smuCmd (Word.encode opcode) met short).2
      exact absurd kept.opcodes_eq changed
  | false =>
      have takes := Registers.store?_smuCmd met.registers opcode
      rw [← own] at takes
      have stored := (write_of_stored smuCmd (Word.encode opcode) met short takes).2
      have ran := (alike_of_unlogged stored).opcodes_eq
      rw [own, Recorder.stored, if_pos rfl, Word.decode_encode] at ran
      exact ⟨holds, ran⟩

theorem meets_starts {result : Except Error Unit} (own : smuCmd.node = .smuCmd)
    (holds : state.registers.arguments = arguments)
    (starts : smuCmd.Writes (Word.encode opcode) trace result) :
    driver.Meets (Matched opcode arguments) state trace := by
  have rewound : Matched opcode arguments state (.rewind smuCmd) :=
    matched_of_quiet (.rewind smuCmd) trivial state
  have written : Matched opcode arguments (driver.reply (.rewind smuCmd) state).2
      (.write smuCmd (Word.encode opcode)) := matched_write own _ holds
  cases starts with
  | rewindFailed reason => exact .cons rewound meets_note
  | failed reason | short count partly | whole => exact .cons rewound (.cons written meets_note)

/-- The opcode is written after the arguments. -/
theorem meets_started {sending starting : Trace} {result : Except Error Unit}
    (command : smuCmd.node = .smuCmd) (arguing : smuArgs.node = .smuArgs)
    (sends : smuArgs.Writes arguments.encode sending (.ok ()))
    (starts : smuCmd.Writes (Word.encode opcode) starting result) :
    driver.Meets (Matched opcode arguments) state (sending ++ starting) := by
  refine (meets_sends arguing sends).append fun middle answers => ?_
  obtain ⟨-, impossible, -⟩ | ⟨-, -, sent⟩ := of_sends arguing sends answers
  · cases impossible
  · have block := congrArg Registers.arguments (alike_of_unlogged sent).registers_eq
    exact meets_starts command block starts

theorem meets_begins (command : smuCmd.node = .smuCmd) (arguing : smuArgs.node = .smuArgs)
    (begins : Begins smuCmd smuArgs opcode arguments trace) :
    driver.Meets (Matched opcode arguments) state trace := by
  cases begins with
  | begun sends starts => exact meets_started command arguing sends starts

theorem meets_reported {beginning reporting : Trace} {delivery : Delivery}
    (command : smuCmd.node = .smuCmd) (arguing : smuArgs.node = .smuArgs)
    (begins : Begins smuCmd smuArgs opcode arguments beginning)
    (reports : smuCmd.Fills 4 reporting delivery) :
    driver.Meets (Matched opcode arguments) state (beginning ++ reporting) :=
  (meets_begins command arguing begins).append fun _ _ => meets_fills reports

/-- An opcode that is recorded in the course of a command is that of the command, and it meets the
arguments of the command. -/
theorem meets_exchanges {result : Except Error ArgumentBlock} (command : smuCmd.node = .smuCmd)
    (arguing : smuArgs.node = .smuArgs)
    (exchanges : Exchanges smuCmd smuArgs opcode arguments trace result) :
    driver.Meets (Matched opcode arguments) state trace := by
  cases exchanges with
  | unsent sends => exact meets_sends arguing sends
  | unstarted sends starts => exact meets_started command arguing sends starts
  | unreported begins reports => exact meets_reported command arguing begins reports
  | refused begins reports refusal =>
      exact (meets_reported command arguing begins reports).append fun _ _ => meets_note
  | unanswered begins reports success answered | answered begins reports success answered =>
      exact (meets_reported command arguing begins reports).append fun _ _ => meets_fills answered

end Recorder

end ManagementUnit.Simulation
