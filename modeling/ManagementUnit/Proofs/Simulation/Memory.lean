import ManagementUnit.Proofs.Session.Outgoing
import ManagementUnit.Proofs.Session.Registers
import ManagementUnit.Proofs.Simulation.Scenario
import ManagementUnit.Proofs.Simulation.Scripted

/-!
# Registers as memory

To a client of the scripted driver the registers are a memory: a word that was read is the word that
is stored at the address, whatever was selected before, and nothing but a successful write stores a
word. This holds in every scenario, whatever faults are met, as long as no write is told to lie.

* `Scripted.memory_of_answers` — what cannot change the memory.
* `Scripted.word_of_fetches`, `Scripted.memory_of_writes_ok` — single requests.
* `play_refines` — whole scenarios.
-/

namespace ManagementUnit.Simulation

namespace Registers

variable {registers next : Registers} {node : Node} {bytes : Bytes}

/-- Only eight bytes on the register file store a word. -/
theorem memory_of_store? (stored : registers.store? node bytes = some next)
    (other : ¬ (node = .smn ∧ bytes.length = 8)) : next.memory = registers.memory := by
  unfold store? at stored
  split at stored
  · cases stored
    rfl
  · rename_i eight
    exact absurd ⟨rfl, eight⟩ other
  · cases stored
    rfl
  · cases stored
    rfl
  · cases stored

theorem store?_select (registers : Registers) (address : UInt32) :
    registers.store? .smn (RegisterRequest.select address) =
      some { registers with latched := address } := by
  show some { registers with latched := Word.decode (Word.encode address) } = _
  rw [Word.decode_encode]

theorem store?_store (registers : Registers) (address value : UInt32) :
    registers.store? .smn (RegisterRequest.store address value) =
      some (registers.setWord address value) := by
  show some (registers.setWord (Word.decode (Word.encode address))
    (Word.decode (Word.encode value))) = _
  rw [Word.decode_encode, Word.decode_encode]

end Registers

namespace Scripted

open Driver

variable {state last : Scripted} {trace : Trace}

/-- The action stores a word, if the driver takes it. -/
def Stores : Action → Prop
  | .write handle bytes => handle.node = .smn ∧ bytes.length = 8
  | _ => False

theorem memory_reply {action : Action} (idle : ¬ Stores action) :
    (driver.reply action state).2.registers.memory = state.registers.memory := by
  cases action with
  | acquire node access => exact congrArg _ (registers_acquire node access state)
  | rewind handle => exact congrArg _ (registers_rewind handle state)
  | read handle limit => exact congrArg _ (registers_read handle limit state)
  | close handle => rfl
  | note notice => rfl
  | write handle bytes =>
      rcases write_cases handle bytes state with ⟨-, stored⟩ | ⟨kept, -⟩
      · exact Registers.memory_of_store? stored idle
      · exact congrArg _ kept

/-- Without a store the memory stays. -/
theorem memory_of_answers (answers : driver.Answers state trace last)
    (idle : ∀ event ∈ trace, ¬ Stores event.action) :
    last.registers.memory = state.registers.memory := by
  induction answers with
  | nil state => rfl
  | cons rest ih =>
      rw [ih fun event member => idle event (List.mem_cons_of_mem _ member)]
      exact memory_reply (idle _ List.mem_cons_self)

/-- Only writing a register stores a word. -/
theorem idle_of_produces {session next : Session} {step : Session.Step} {result : Session.Result}
    (other : ∀ address value, step ≠ .writeRegister address value)
    (produced : (session.perform step).Produces trace (result, next)) :
    ∀ event ∈ trace, ¬ Stores event.action := by
  rintro ⟨action, reply⟩ member stores
  cases action with
  | write handle bytes =>
      obtain ⟨-, eight⟩ := stores
      cases Session.outgoing_of_mem produced member with
      | select held address => cases eight
      | store held address value => exact other address value rfl
      | opcode held opcode arguments => cases eight
      | arguments held opcode arguments =>
          rw [arguments.length_encode] at eight
          cases eight
  | acquire node access | rewind handle | read handle limit | close handle | note notice =>
      exact stores

/-- The register that was selected is the one that is read. -/
theorem word_of_fetches {smn : Handle} {address value : UInt32} (own : smn.node = .smn)
    (fetches : Session.Fetches smn address trace (.ok value))
    (answers : driver.Answers state trace last) (truthful : state.honest trace = true) :
    value = state.registers.word address := by
  cases fetches with
  | fetched selects reads =>
      obtain ⟨middle, selecting, reading⟩ := answers_append_iff.mp answers
      rw [honest_append selecting, Bool.and_eq_true] at truthful
      have stored := stored_of_writes_ok own selects selecting truthful.1
      rw [Registers.store?_select] at stored
      have latched : middle.contents smn.node = Word.encode (state.registers.word address) := by
        rw [own, contents, ← Option.some.inj stored]
        rfl
      rw [delivered_of_fills_ok reads reading (by rw [latched]; rfl), latched]
      exact Word.decode_encode _

/-- A word that was written is stored. -/
theorem memory_of_writes_ok {smn : Handle} {address value : UInt32} (own : smn.node = .smn)
    (writes : smn.Writes (RegisterRequest.store address value) trace (.ok ()))
    (answers : driver.Answers state trace last) (truthful : state.honest trace = true) :
    last.registers.memory = assign state.registers.memory address (some value) := by
  have stored := stored_of_writes_ok own writes answers truthful
  rw [Registers.store?_store] at stored
  rw [← Option.some.inj stored]
  rfl

/-! ### Scenes -/

/-- The scripted driver, with the changes that can be made on it. -/
def setting : Setting Scripted Change := ⟨driver, apply⟩

end Scripted

namespace Scene

variable {scene : Scene Scripted Scripted.Change}

/-- No write of the scene was told to lie about the register file. -/
def Truthful (scene : Scene Scripted Scripted.Change) : Prop :=
  scene.before.state.honest scene.trace = true

/-- What a scene makes of the memory, and what it tells of it: a word that was read is the one in
memory, and a word that was written is stored at its address and nowhere else. A write that fails
stores nothing, and neither does any other step. -/
structure Refines (scene : Scene Scripted Scripted.Change) : Prop where
  read_ok : ∀ address value, scene.turn = .step (.readRegister address) →
    scene.result = some (.value (.ok value)) → value = scene.before.state.registers.word address
  write_ok : ∀ address value, scene.turn = .step (.writeRegister address value) →
    scene.result = some (.settled (.ok ())) →
    scene.after.state.registers.memory =
      assign scene.before.state.registers.memory address (some value)
  write_error : ∀ address value error, scene.turn = .step (.writeRegister address value) →
    scene.result = some (.settled (.error error)) →
    scene.after.state.registers.memory = scene.before.state.registers.memory
  idle : ∀ step, scene.turn = .step step → (∀ address value, step ≠ .writeRegister address value) →
    scene.after.state.registers.memory = scene.before.state.registers.memory

/-- Only the two requests on registers concern the memory; what they tell and store is known from
their transfers. -/
theorem refines_of_step {stage : Stage Scripted} {step : Session.Step}
    (consistent : stage.session.Consistent)
    (truthful : (Scripted.setting.scene stage (.step step)).Truthful) :
    (Scripted.setting.scene stage (.step step)).Refines := by
  obtain ⟨result, told, produced, answers⟩ := Scripted.setting.scene_step_spec stage step
  unfold Truthful at truthful
  have idle : (∀ address value, step ≠ .writeRegister address value) → _ := fun other =>
    Scripted.memory_of_answers answers (Scripted.idle_of_produces other produced)
  constructor
  all_goals simp only [Setting.scene_before, Setting.scene_turn, told, Turn.step.injEq,
    Option.some.injEq] at truthful ⊢
  · rintro address value rfl rfl
    obtain ⟨word, read, same⟩ := Dialogue.produces_bind_done_iff.mp produced
    cases (Prod.mk.inj same).1
    rcases Session.produces_readRegister_iff.mp read with ⟨smn, held, fetches⟩ | ⟨-, -, impossible⟩
    · exact Scripted.word_of_fetches (consistent.node_of_held held) fetches answers truthful
    · cases impossible
  · rintro address value rfl rfl
    obtain ⟨status, written, same⟩ := Dialogue.produces_bind_done_iff.mp produced
    cases (Prod.mk.inj same).1
    rcases Session.produces_writeRegister_iff.mp written with
      ⟨smn, held, writes⟩ | ⟨-, -, impossible⟩
    · exact Scripted.memory_of_writes_ok (consistent.node_of_held held) writes answers truthful
    · cases impossible
  · rintro address value error rfl rfl
    obtain ⟨status, written, same⟩ := Dialogue.produces_bind_done_iff.mp produced
    cases (Prod.mk.inj same).1
    rcases Session.produces_writeRegister_iff.mp written with ⟨smn, held, writes⟩ | ⟨-, nothing, -⟩
    · exact congrArg _ (Scripted.registers_of_writes_error writes answers)
    · rw [nothing] at answers
      rw [Driver.answers_nil_iff.mp answers]
  · rintro _ rfl other
    exact idle other

/-- Every scene treats the registers as a memory. -/
theorem refines_scene (stage : Stage Scripted) (turn : Turn Scripted.Change)
    (consistent : stage.session.Consistent)
    (truthful : (Scripted.setting.scene stage turn).Truthful) :
    (Scripted.setting.scene stage turn).Refines := by
  cases turn with
  | step step => exact refines_of_step consistent truthful
  | change change =>
      exact {
        read_ok := fun _ _ impossible => nomatch impossible
        write_ok := fun _ _ impossible => nomatch impossible
        write_error := fun _ _ _ impossible => nomatch impossible
        idle := fun _ impossible => nomatch impossible }

/-- The word that a scene stores at an address: one that was written, or one that was set on the
driver from outside. -/
def storedAt (address : UInt32) (scene : Scene Scripted Scripted.Change) : Option UInt32 :=
  match scene.turn, scene.result with
  | .step (.writeRegister place value), some (.settled (.ok ())) =>
    if place = address then some value else none
  | .change (.registers (.setWord place value)), _ => if place = address then some value else none
  | _, _ => none

/-- The last word that scenes store at an address. -/
def lastStored (address : UInt32) : List (Scene Scripted Scripted.Change) → Option UInt32
  | [] => none
  | scene :: scenes => (lastStored address scenes).or (scene.storedAt address)

end Scene

theorem Registers.word_of_memory_eq_assign {registers next : Registers} {place value : UInt32}
    (stored : next.memory = assign registers.memory place (some value)) (address : UInt32) :
    next.word address = (if place = address then some value else none).getD
      (registers.word address) := by
  unfold word
  rw [stored]
  by_cases same : place = address
  · rw [same, assign_self, if_pos rfl]
    rfl
  · rw [assign_of_ne _ _ (Ne.symm same), if_neg same]
    rfl

namespace Scene

/-- A scene changes no word but the one that it stores. -/
theorem word_after (stage : Stage Scripted) (turn : Turn Scripted.Change)
    (consistent : stage.session.Consistent)
    (truthful : (Scripted.setting.scene stage turn).Truthful) (address : UInt32) :
    (Scripted.setting.scene stage turn).after.state.registers.word address =
      ((Scripted.setting.scene stage turn).storedAt address).getD
        (stage.state.registers.word address) := by
  have refines := refines_scene stage turn consistent truthful
  cases turn with
  | change change =>
      cases change with
      | registers change =>
          cases change with
          | setWord place value => exact Registers.word_of_memory_eq_assign rfl address
          | setStatus status | setResponse response => rfl
      | setFile node contents | removeFile node | addFaults node call faults => rfl
  | step step =>
      cases step with
      | writeRegister place value =>
          obtain ⟨result, told, produced, -⟩ :=
            Scripted.setting.scene_step_spec stage (.writeRegister place value)
          obtain ⟨status, -, same⟩ := Dialogue.produces_bind_done_iff.mp produced
          cases (Prod.mk.inj same).1
          unfold storedAt
          rw [Setting.scene_turn, told]
          cases status with
          | ok done =>
              have stored := refines.write_ok place value (Setting.scene_turn _ _ _) told
              exact Registers.word_of_memory_eq_assign stored address
          | error error =>
              have kept := refines.write_error place value error (Setting.scene_turn _ _ _) told
              exact congrArg (fun memory => (memory address).getD 0) kept
      | connect | disconnect | renew | detect | readRegister place | execute opcode arguments
      | readTable length | takeSnapshot =>
          have kept := refines.idle _ (Setting.scene_turn _ _ _) (by simp)
          exact congrArg (fun memory => (memory address).getD 0) kept

/-- Before a scene an address holds the last word that was stored there, or the first of all. -/
theorem word_before {stage : Stage Scripted} {turns : List (Turn Scripted.Change)}
    (consistent : stage.session.Consistent)
    (truthful : ∀ scene ∈ Scripted.setting.play stage turns, scene.Truthful)
    {earlier later : List (Scene Scripted Scripted.Change)}
    {scene : Scene Scripted Scripted.Change}
    (played : Scripted.setting.play stage turns = earlier ++ scene :: later) (address : UInt32) :
    scene.before.state.registers.word address =
      (lastStored address earlier).getD (stage.state.registers.word address) := by
  -- By induction on the scenes before, for every stage: what the first scene stores counts unless a
  -- later one stores at the address.
  induction earlier generalizing stage turns with
  | nil =>
      cases turns with
      | nil => cases played
      | cons turn turns =>
          obtain ⟨rfl, -⟩ := List.cons.inj played
          rw [Setting.scene_before]
          rfl
  | cons first earlier ih =>
      cases turns with
      | nil => cases played
      | cons turn turns =>
          obtain ⟨rfl, rest⟩ := List.cons.inj played
          have after := word_after stage turn consistent (truthful _ List.mem_cons_self) address
          rw [ih (Setting.consistent_scene consistent turn)
            (fun scene member => truthful scene (List.mem_cons_of_mem _ member)) rest, after]
          exact Option.getD_or.symm

end Scene

/-- In every scenario in which no write is told to lie, the registers are a memory to the client,
and a word that is read is the last one that was stored. -/
theorem play_refines {session : Session} (reachable : session.Reachable) {state : Scripted}
    {turns : List (Turn Scripted.Change)}
    (truthful : ∀ scene ∈ Scripted.setting.play ⟨session, state⟩ turns, scene.Truthful) :
    (∀ scene ∈ Scripted.setting.play ⟨session, state⟩ turns, scene.Refines) ∧
    ∀ earlier scene later address value,
      Scripted.setting.play ⟨session, state⟩ turns = earlier ++ scene :: later →
      scene.turn = .step (.readRegister address) → scene.result = some (.value (.ok value)) →
      value = (Scene.lastStored address earlier).getD (state.registers.word address) := by
  have consistent : (Stage.mk session state).session.Consistent := reachable.consistent
  have refines : ∀ scene ∈ Scripted.setting.play ⟨session, state⟩ turns, scene.Refines := by
    intro scene member
    exact Setting.forall_mem_play (P := fun scene => scene.Truthful → scene.Refines)
      Scene.refines_scene consistent turns scene member (truthful scene member)
  refine ⟨refines, ?_⟩
  intro earlier scene later address value played read told
  have member : scene ∈ Scripted.setting.play ⟨session, state⟩ turns := by
    rw [played]
    exact List.mem_append_right _ List.mem_cons_self
  rw [(refines scene member).read_ok address value read told]
  exact Scene.word_before consistent truthful played address

instance : DecidablePred Scene.Truthful :=
  fun scene => inferInstanceAs (Decidable (scene.before.state.honest scene.trace = true))

/-- Two reads after a write, the first of another register and broken off. -/
def brokenRead : List (Scene Scripted Scripted.Change) :=
  Scripted.setting.play ⟨Session.unfinished, .initial⟩
    [.step (.writeRegister 5 7), .change (.addFaults .smn .read [.fail (.kind .timedOut)]),
      .step (.readRegister 6), .step (.readRegister 5)]

theorem play_refines_brokenRead :
    Session.unfinished.Reachable ∧ (∀ scene ∈ brokenRead, scene.Truthful) ∧
      (∀ scene ∈ brokenRead, scene.Refines) ∧
      (brokenRead[2]?.bind Scene.result) = some (.value (.error .transferFailed)) ∧
      (brokenRead[3]?.bind Scene.result) = some (.value (.ok 7)) ∧
      7 = (Scene.lastStored 5 (brokenRead.take 3)).getD 0 := by
  have truthful : ∀ scene ∈ brokenRead, scene.Truthful := by decide +kernel
  have refines := play_refines Session.reachable_unfinished truthful
  exact ⟨Session.reachable_unfinished, truthful, refines.1, rfl, rfl,
    refines.2 (brokenRead.take 3) _ [] 5 7 rfl rfl rfl⟩

end ManagementUnit.Simulation
