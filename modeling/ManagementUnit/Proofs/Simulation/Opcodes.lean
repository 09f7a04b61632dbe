import Mathlib.Data.List.Basic
import ManagementUnit.Proofs.Simulation.Commands
import ManagementUnit.Proofs.Simulation.Scenario

/-!
# The opcodes of a scenario

Whatever a client does with a recorder, and whatever is changed on the recorder in between, the
opcodes that were run are those of the commands that got through, in order, and each was run with
the arguments of its own call.

* `Scene.obedient` — what a scene does to the opcodes and to the argument block.
* `opcodes_recorded` — whole scenarios.
-/

namespace ManagementUnit.Simulation

open Driver

namespace Recorder

variable {state last : Recorder} {trace : Trace} {opcode : UInt32} {arguments : ArgumentBlock}

/-- The recorder, with the changes that can be made on it. -/
def setting : Setting Recorder Change := ⟨driver, apply⟩

theorem kept_of_answers (answers : driver.Answers state trace last)
    (spares : ∀ event ∈ trace, Spares [.smuCmd, .smuArgs] event.action) :
    last.opcodes = state.opcodes ∧ last.registers.arguments = state.registers.arguments := by
  induction answers with
  | nil state => exact ⟨rfl, rfl⟩
  | @cons action state last trace rest ih =>
      obtain ⟨first, others⟩ := List.forall_mem_cons.mp spares
      obtain ⟨opcodes, arguments⟩ := ih others
      rw [opcodes, arguments]
      exact ⟨opcodes_reply first.weaken state, arguments_reply first state⟩

/-- Only a command writes on the command files. -/
theorem spares_of_produces {session next : Session} {step : Session.Step}
    {result : Session.Result} (consistent : session.Consistent)
    (other : ∀ opcode arguments, step ≠ .execute opcode arguments)
    (produced : (session.perform step).Produces trace (result, next)) :
    ∀ event ∈ trace, Spares [.smuCmd, .smuArgs] event.action := by
  rintro ⟨action, reply⟩ member handle bytes rfl
  cases Session.outgoing_of_mem produced member with
  | select held address | store held address value =>
      have own : handle.node = .smn := consistent.node_of_held held
      rw [own]
      decide
  | opcode held opcode arguments | arguments held opcode arguments =>
      exact absurd rfl (other opcode arguments)

theorem opcodes_commanded (recorder : Recorder) (opcode : UInt32) (arguments : ArgumentBlock) :
    (recorder.commanded opcode arguments).opcodes =
      recorder.opcodes ++ if recorder.accepts then [opcode] else [] := by
  unfold commanded accepts
  cases recorder.shortWrites .smuArgs with
  | true => simp
  | false =>
      cases recorder.shortWrites .smuCmd with
      | true => simp [withArguments]
      | false => simp [withArguments, started]

/-- A command leaves the block alone, or with its arguments, or with the response. -/
theorem arguments_commanded (recorder : Recorder) (opcode : UInt32) (arguments : ArgumentBlock) :
    (recorder.commanded opcode arguments).registers.arguments = recorder.registers.arguments ∨
      (recorder.commanded opcode arguments).registers.arguments = arguments ∨
      recorder.registers.response =
        some (recorder.commanded opcode arguments).registers.arguments := by
  unfold commanded
  split
  · exact Or.inl rfl
  · split
    · exact Or.inr (Or.inl rfl)
    · cases response : recorder.registers.response with
      | none => exact Or.inr (Or.inl (by simp [started, withArguments, response]))
      | some block => exact Or.inr (Or.inr (by simp [started, withArguments, response]))

end Recorder

namespace Scene

open Recorder

/-- The opcode of a scene in which a command gets through: it is made with both command files open,
and neither falls short when it is written. -/
def accepted? (scene : Scene Recorder Change) : Option UInt32 :=
  match scene.turn with
  | .step (.execute opcode _) =>
    if scene.before.session.smuCmd.isSome && scene.before.session.smuArgs.isSome &&
        scene.before.state.accepts then some opcode
    else none
  | _ => none

/-- What comes of a command: it depends on the status word and on what falls short when it is read,
if the command gets through, and otherwise a transfer failed. -/
def verdict (scene : Scene Recorder Change) : Except Error Unit :=
  if scene.accepted?.isSome then
    Recorder.verdict scene.before.state.registers.status (scene.before.state.shortReads .smuCmd)
      (scene.before.state.shortReads .smuArgs)
  else .error .transferFailed

/-- What a scene does to the opcodes and to the argument block of the recorder. The opcode that is
recorded is that of a command that gets through, and at that moment the block holds the arguments of
the same call. The block changes to the arguments of a call, or to the response that was set
beforehand. A command tells the verdict, and the response if that is success. -/
structure Obedient (scene : Scene Recorder Change) : Prop where
  recorded : scene.after.state.opcodes = scene.before.state.opcodes ++ scene.accepted?.toList
  matched : driver.Meets (fun met action =>
      (driver.reply action met).2.opcodes ≠ met.opcodes →
        ∃ opcode arguments, scene.turn = .step (.execute opcode arguments) ∧
          met.registers.arguments = arguments ∧
          (driver.reply action met).2.opcodes = met.opcodes ++ [opcode])
    scene.before.state scene.trace
  block : scene.after.state.registers.arguments = scene.before.state.registers.arguments ∨
    ∃ opcode arguments, scene.turn = .step (.execute opcode arguments) ∧
      (scene.after.state.registers.arguments = arguments ∨
        scene.before.state.registers.response = some scene.after.state.registers.arguments)
  told : ∀ opcode arguments, scene.turn = .step (.execute opcode arguments) →
    scene.result = some (.executed scene.verdict
      (if scene.verdict.isOk then scene.before.state.registers.response.getD arguments
      else arguments))

/-- A command on channels that are not both open does nothing. -/
theorem obedient_of_closed {stage : Stage Recorder} {scene : Scene Recorder Change}
    {opcode : UInt32} {arguments : ArgumentBlock} (before : scene.before = stage)
    (turn : scene.turn = .step (.execute opcode arguments))
    (missing : stage.session.smuCmd = none ∨ stage.session.smuArgs = none)
    (silent : scene.trace = []) (kept : scene.after.state = stage.state)
    (told : scene.result = some (.executed (.error .transferFailed) arguments)) :
    scene.Obedient := by
  have none : scene.accepted? = none := by
    unfold accepted?
    rw [turn, before]
    rcases missing with closed | closed <;> simp [closed]
  constructor
  · rw [none, kept, before]
    exact (List.append_nil _).symm
  · rw [silent]
    exact .nil
  · rw [kept, before]
    exact Or.inl rfl
  · intro opcode block same
    cases turn.symm.trans same
    rw [told, verdict, none]
    rfl

/-- The verdict is the recorder's flags and status word read in the order of the exchange, so it
agrees with what the exchange concludes. -/
theorem obedient_of_open {scene : Scene Recorder Change} {opcode : UInt32}
    {arguments : ArgumentBlock} {smuCmd smuArgs : Handle}
    {outcome : Except Error ArgumentBlock}
    (turn : scene.turn = .step (.execute opcode arguments))
    (command : scene.before.session.smuCmd = some smuCmd)
    (arguing : scene.before.session.smuArgs = some smuArgs)
    (concludes : Concludes scene.before.state scene.after.state opcode arguments outcome)
    (meets : driver.Meets (Matched opcode arguments) scene.before.state scene.trace)
    (told : scene.result =
      some (.executed (outcome.map fun _ => ()) (outcome.toOption.getD arguments))) :
    scene.Obedient := by
  have accepted : scene.accepted? =
      if scene.before.state.accepts then some opcode else none := by
    unfold accepted?
    rw [turn, command, arguing]
    rfl
  have alike := alike_of_unlogged concludes.state_eq
  constructor
  · refine alike.opcodes_eq.trans ((opcodes_commanded _ opcode arguments).trans ?_)
    rw [accepted]
    cases scene.before.state.accepts with
    | true | false => rfl
  · intro before event after met split answers changed
    exact ⟨opcode, arguments, turn, meets before event after met split answers changed⟩
  · rw [alike.registers_eq]
    exact (arguments_commanded scene.before.state opcode arguments).imp_right fun changed =>
      ⟨opcode, arguments, turn, changed⟩
  · intro opcode block same
    cases turn.symm.trans same
    have verdict : scene.verdict = outcome.map fun _ => () := by
      rw [concludes.status_eq, Scene.verdict, accepted]
      cases scene.before.state.accepts with
      | true | false => rfl
    rw [told, verdict]
    cases outcome with
    | ok response =>
        rw [concludes.response_eq response rfl]
        rfl
    | error error => rfl

/-- A command goes its way on open channels and does nothing on closed ones. -/
theorem obedient_of_execute {stage : Stage Recorder} {opcode : UInt32} {arguments : ArgumentBlock}
    (consistent : stage.session.Consistent) :
    (setting.scene stage (.step (.execute opcode arguments))).Obedient := by
  obtain ⟨result, told, produced, answers⟩ :=
    setting.scene_step_spec stage (.execute opcode arguments)
  obtain ⟨⟨status, block⟩, executed, same⟩ := Dialogue.produces_bind_done_iff.mp produced
  cases (Prod.mk.inj same).1
  obtain ⟨outcome, exchanged, rfl, rfl⟩ := Session.produces_execute_iff.mp executed
  rcases Session.produces_exchange_cases exchanged with
    ⟨missing, silent, rfl⟩ | ⟨smuCmd, smuArgs, command, arguing, exchanges⟩
  · rw [silent] at answers
    exact obedient_of_closed (Setting.scene_before _ _ _) (Setting.scene_turn _ _ _) missing silent
      (answers_nil_iff.mp answers) told
  · have ownCommand : smuCmd.node = .smuCmd := consistent.node_of_held command
    have ownArguments : smuArgs.node = .smuArgs := consistent.node_of_held arguing
    exact obedient_of_open (Setting.scene_turn _ _ _) command arguing
      (of_exchanges ownCommand ownArguments exchanges answers)
      (meets_exchanges ownCommand ownArguments exchanges) told

/-- A step that is no command writes to neither of the command files, so opcodes and block stay. -/
theorem obedient_of_other {stage : Stage Recorder} {step : Session.Step}
    (consistent : stage.session.Consistent)
    (other : ∀ opcode arguments, step ≠ .execute opcode arguments) :
    (setting.scene stage (.step step)).Obedient := by
  obtain ⟨result, told, produced, answers⟩ := setting.scene_step_spec stage step
  have spares := spares_of_produces consistent other produced
  obtain ⟨ran, held⟩ := kept_of_answers answers spares
  have none : (setting.scene stage (.step step)).accepted? = none := by
    unfold accepted?
    rw [Setting.scene_turn]
    cases step with
    | execute opcode arguments => exact absurd rfl (other opcode arguments)
    | connect | disconnect | renew | detect | readRegister | writeRegister | readTable
    | takeSnapshot => rfl
  constructor
  · rw [none, ran, Setting.scene_before]
    exact (List.append_nil _).symm
  · refine .of_forall fun event member met changed => absurd ?_ changed
    exact opcodes_reply (spares event member).weaken met
  · rw [Setting.scene_before]
    exact Or.inl held
  · intro opcode arguments same
    rw [Setting.scene_turn] at same
    exact absurd (Turn.step.inj same) (other opcode arguments)

/-- Nothing that is changed on a recorder from outside is an opcode or an argument. -/
theorem obedient_of_change (stage : Stage Recorder) (change : Change) :
    (setting.scene stage (.change change)).Obedient := by
  have kept : (stage.state.apply change).opcodes = stage.state.opcodes ∧
      (stage.state.apply change).registers.arguments = stage.state.registers.arguments := by
    cases change with
    | registers change =>
        cases change with
        | setStatus status | setResponse response | setWord address value => exact ⟨rfl, rfl⟩
    | setFile node contents | removeFile node | shortenReads node | shortenWrites node =>
        exact ⟨rfl, rfl⟩
  exact {
    recorded := kept.1.trans (List.append_nil _).symm
    matched := .nil
    block := Or.inl kept.2
    told := fun _ _ impossible => nomatch impossible }

theorem obedient (stage : Stage Recorder) (turn : Turn Change)
    (consistent : stage.session.Consistent) : (setting.scene stage turn).Obedient := by
  cases turn with
  | change change => exact obedient_of_change stage change
  | step step =>
      cases step with
      | execute opcode arguments => exact obedient_of_execute consistent
      | connect | disconnect | renew | detect | readRegister | writeRegister | readTable
      | takeSnapshot => exact obedient_of_other consistent (by simp)

/-- After a scene the opcodes are those of the scenes up to it. -/
theorem opcodes_after {stage : Stage Recorder} {turns : List (Turn Change)}
    (consistent : stage.session.Consistent) {earlier later : List (Scene Recorder Change)}
    {scene : Scene Recorder Change}
    (played : setting.play stage turns = earlier ++ scene :: later) :
    scene.after.state.opcodes =
      stage.state.opcodes ++ (earlier ++ [scene]).filterMap accepted? := by
  -- By induction on the scenes before, for every stage: the first scene leaves a consistent
  -- session, and the others are played from there.
  induction earlier generalizing stage turns with
  | nil =>
      cases turns with
      | nil => cases played
      | cons turn turns =>
          obtain ⟨rfl, -⟩ := List.cons.inj played
          have recorded := (obedient stage turn consistent).recorded
          rw [Setting.scene_before] at recorded
          rw [recorded, List.nil_append, List.filterMap_eq_flatMap_toList, List.flatMap_singleton]
  | cons first earlier ih =>
      cases turns with
      | nil => cases played
      | cons turn turns =>
          obtain ⟨rfl, rest⟩ := List.cons.inj played
          have recorded := (obedient stage turn consistent).recorded
          rw [Setting.scene_before] at recorded
          rw [ih (Setting.consistent_scene consistent turn) rest, recorded, List.append_assoc,
            List.filterMap_eq_flatMap_toList, List.filterMap_eq_flatMap_toList, List.cons_append,
            List.flatMap_cons]

end Scene

/-- In every scenario the opcodes that a recorder has run are those of the commands that got
through, in order, and no opcode is run with the arguments of another call. -/
theorem opcodes_recorded {session : Session} (reachable : session.Reachable) (recorder : Recorder)
    (turns : List (Turn Recorder.Change)) :
    (∀ scene ∈ Recorder.setting.play ⟨session, recorder⟩ turns, scene.Obedient) ∧
    ∀ earlier scene later,
      Recorder.setting.play ⟨session, recorder⟩ turns = earlier ++ scene :: later →
      scene.after.state.opcodes =
        recorder.opcodes ++ (earlier ++ [scene]).filterMap Scene.accepted? := by
  have consistent : (Stage.mk session recorder).session.Consistent := reachable.consistent
  refine ⟨Setting.forall_mem_play Scene.obedient consistent turns, ?_⟩
  intro earlier scene later played
  exact Scene.opcodes_after consistent played

/-- Two commands with the argument file falling short in between, and a third after it. -/
def interrupted : List (Scene Recorder Recorder.Change) :=
  Recorder.setting.play ⟨Session.unfinished, .initial⟩
    [.step (.execute 5 (.single 1)), .change (.shortenWrites .smuArgs),
      .step (.execute 6 (.single 2)), .step .disconnect, .step (.execute 7 (.single 3))]

theorem opcodes_recorded_interrupted :
    Session.unfinished.Reachable ∧ (∀ scene ∈ interrupted, scene.Obedient) ∧
      (interrupted[2]?.bind Scene.result) = some (.executed (.error .transferFailed) (.single 2)) ∧
      (interrupted[4]?.map fun scene => scene.after.state.opcodes) = some [5] ∧
      [5] = [] ++ (interrupted.take 4 ++ interrupted.drop 4).filterMap Scene.accepted? := by
  have recorded := opcodes_recorded Session.reachable_unfinished .initial
    [.step (.execute 5 (.single 1)), .change (.shortenWrites .smuArgs),
      .step (.execute 6 (.single 2)), .step .disconnect, .step (.execute 7 (.single 3))]
  exact ⟨Session.reachable_unfinished, recorded.1, rfl, by decide +kernel,
    recorded.2 (interrupted.take 4) _ [] rfl⟩

end ManagementUnit.Simulation
