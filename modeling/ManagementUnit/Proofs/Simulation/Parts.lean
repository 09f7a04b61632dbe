import Mathlib.Data.Option.Basic
import ManagementUnit.Proofs.Session.Paths
import ManagementUnit.Proofs.Simulation.Scripted

/-!
# Parts of the scripted driver

The scripted driver keeps something apart for each of the three request paths: the words and the
latched address for the registers, the argument block and what was set for the commands, and for
each path its own files with the faults that wait there. What belongs to no path is a part too.

Calls on the files of a path go by that path's part alone, and change no other.

* `Scripted.reply_agree`, `Scripted.agree_reply` — the two laws for one call.
* `Scripted.answers_agree`, `Scripted.agree_of_answers` — and for the calls of a trace.
-/

namespace ManagementUnit.Simulation

variable {part own foreign : Option RequestPath} {node : Node}

/-! ### Registers -/

namespace Registers

/-- Two states of the registers have the same part. -/
structure Agree (part : Option RequestPath) (one other : Registers) : Prop where
  memory : part = some .registers → one.memory = other.memory
  latched : part = some .registers → one.latched = other.latched
  arguments : part = some .commands → one.arguments = other.arguments
  response : part = some .commands → one.response = other.response
  status : part = some .commands → one.status = other.status

variable {one other third next : Registers} {bytes : Bytes}

theorem Agree.rfl : Agree part one one := ⟨fun _ => .refl _, fun _ => .refl _, fun _ => .refl _,
  fun _ => .refl _, fun _ => .refl _⟩

theorem Agree.symm (agree : Agree part one other) : Agree part other one where
  memory place := (agree.memory place).symm
  latched place := (agree.latched place).symm
  arguments place := (agree.arguments place).symm
  response place := (agree.response place).symm
  status place := (agree.status place).symm

theorem Agree.trans (agree : Agree part one other) (also : Agree part other third) :
    Agree part one third where
  memory place := (agree.memory place).trans (also.memory place)
  latched place := (agree.latched place).trans (also.latched place)
  arguments place := (agree.arguments place).trans (also.arguments place)
  response place := (agree.response place).trans (also.response place)
  status place := (agree.status place).trans (also.status place)

/-- The registers are put together from their parts. -/
theorem eq_of_agree (agree : ∀ path, Agree (some path) one other) : one = other := by
  obtain ⟨memory, latched, arguments, response, status⟩ := one
  obtain rfl := (agree .registers).memory rfl
  obtain rfl := (agree .registers).latched rfl
  obtain rfl := (agree .commands).arguments rfl
  obtain rfl := (agree .commands).response rfl
  obtain rfl := (agree .commands).status rfl
  rfl

/-- What a file of a part gives depends on that part. -/
theorem contents?_agree (place : node.requestPath? = part) (agree : Agree part one other) :
    one.contents? node = other.contents? node := by
  subst place
  cases node with
  | smn => simp only [contents?, word, agree.memory rfl, agree.latched rfl]
  | smuCmd => simp only [contents?, agree.status rfl]
  | smuArgs => simp only [contents?, agree.arguments rfl]
  | version | codename | pmTableVersion | pmTableSize | pmTable => rfl

/-- A write on a file of a part is taken or not taken by that part, -/
theorem store?_agree (place : node.requestPath? = part) (agree : Agree part one other)
    (bytes : Bytes) :
    Option.Rel (Agree part) (one.store? node bytes) (other.store? node bytes) := by
  subst place
  unfold store?
  split
  · exact .some { agree with latched := fun _ => rfl }
  · exact .some { agree with memory := fun place => by simp only [setWord, agree.memory place] }
  · exact .some { agree with arguments := fun _ => rfl }
  · refine .some { agree with arguments := fun place => ?_ }
    simp only [agree.response place, agree.arguments place]
  · exact .none

/-- and leaves the other parts alone. -/
theorem agree_store? (place : node.requestPath? ≠ part)
    (stored : one.store? node bytes = some next) : Agree part one next := by
  unfold store? at stored
  split at stored <;> cases stored
  · exact { Agree.rfl with latched := fun same => absurd same.symm place }
  · exact { Agree.rfl with memory := fun same => absurd same.symm place }
  · exact { Agree.rfl with arguments := fun same => absurd same.symm place }
  · exact { Agree.rfl with arguments := fun same => absurd same.symm place }

end Registers

namespace Scripted

open Driver

/-- Two states of the driver have the same part. -/
structure Agree (part : Option RequestPath) (one other : Scripted) : Prop where
  files : ∀ node, node.requestPath? = part → one.files node = other.files node
  faults : ∀ node, node.requestPath? = part → one.faults node = other.faults node
  registers : one.registers.Agree part other.registers
  opened : part = none → one.opened = other.opened

variable {one other third state last : Scripted} {handle : Handle} {trace : Trace}

theorem Agree.rfl : Agree part one one :=
  ⟨fun _ _ => .refl _, fun _ _ => .refl _, .rfl, fun _ => .refl _⟩

theorem Agree.symm (agree : Agree part one other) : Agree part other one where
  files node place := (agree.files node place).symm
  faults node place := (agree.faults node place).symm
  registers := agree.registers.symm
  opened place := (agree.opened place).symm

theorem Agree.trans (agree : Agree part one other) (also : Agree part other third) :
    Agree part one third where
  files node place := (agree.files node place).trans (also.files node place)
  faults node place := (agree.faults node place).trans (also.faults node place)
  registers := agree.registers.trans also.registers
  opened place := (agree.opened place).trans (also.opened place)

/-- The driver is put together from its parts. -/
theorem eq_of_agree (agree : ∀ part, Agree part one other) : one = other := by
  have files : one.files = other.files := funext fun node => (agree _).files node rfl
  have faults : one.faults = other.faults := funext fun node => (agree _).faults node rfl
  have registers := Registers.eq_of_agree fun path => (agree (some path)).registers
  have opened := (agree none).opened rfl
  cases one
  cases other
  cases files
  cases faults
  cases registers
  cases opened
  rfl

/-! ### Calls -/

theorem contents_agree (place : node.requestPath? = part) (agree : Agree part one other) :
    one.contents node = other.contents node := by
  unfold contents
  rw [Registers.contents?_agree place agree.registers, agree.files node place]

/-- The faults of a part's files are part of it. -/
theorem takeFault_agree (place : node.requestPath? = part) (agree : Agree part one other)
    (call : CallKind) :
    ∃ fault next twin, one.takeFault node call = (fault, next) ∧
      other.takeFault node call = (fault, twin) ∧ Agree part next twin := by
  have same := agree.faults node place
  unfold takeFault
  rw [← same]
  split
  · exact ⟨_, _, _, rfl, rfl, agree⟩
  · refine ⟨_, _, _, rfl, rfl, { agree with faults := fun node place => ?_ }⟩
    simp only [assign, same, agree.faults node place]

theorem agree_takeFault (place : node.requestPath? ≠ part) (state : Scripted) (call : CallKind) :
    ∃ fault next, state.takeFault node call = (fault, next) ∧ Agree part state next := by
  unfold takeFault
  split
  · exact ⟨_, _, rfl, .rfl⟩
  · refine ⟨_, _, rfl, { Agree.rfl with faults := fun other elsewhere => ?_ }⟩
    have apart : other ≠ node := fun same => place (same ▸ elsewhere)
    exact (assign_of_ne _ _ apart).symm

theorem rewind_agree (place : handle.node.requestPath? = part) (agree : Agree part one other) :
    (rewind handle one).1 = (rewind handle other).1 ∧
      Agree part (rewind handle one).2 (rewind handle other).2 := by
  obtain ⟨fault, next, twin, taken, also, rest⟩ := takeFault_agree place agree .rewind
  unfold rewind
  rw [taken, also]
  cases fault with
  | fail reason | none | short missing | count reported => exact ⟨rfl, rest⟩

theorem read_agree (place : handle.node.requestPath? = part) (agree : Agree part one other)
    (limit : Nat) :
    (read handle limit one).1 = (read handle limit other).1 ∧
      Agree part (read handle limit one).2 (read handle limit other).2 := by
  obtain ⟨fault, next, twin, taken, also, rest⟩ := takeFault_agree place agree .read
  unfold read
  rw [taken, also]
  have contents : next.contents handle.node = twin.contents handle.node :=
    contents_agree place rest
  cases fault with
  | fail reason => exact ⟨rfl, rest⟩
  | short missing | none | count reported =>
      dsimp only
      simp only [contents]
      exact ⟨trivial, rest⟩

theorem write_agree (place : handle.node.requestPath? = part) (agree : Agree part one other)
    (bytes : Bytes) :
    (write handle bytes one).1 = (write handle bytes other).1 ∧
      Agree part (write handle bytes one).2 (write handle bytes other).2 := by
  obtain ⟨fault, next, twin, taken, also, rest⟩ := takeFault_agree place agree .write
  unfold write
  rw [taken, also]
  cases fault with
  | fail reason | short missing | count reported => exact ⟨rfl, rest⟩
  | none =>
      have stored := Registers.store?_agree place rest.registers bytes
      dsimp only at stored ⊢
      generalize next.registers.store? handle.node bytes = kept at stored ⊢
      generalize twin.registers.store? handle.node bytes = other at stored ⊢
      cases stored with
      | some registers => exact ⟨rfl, { rest with registers }⟩
      | none => exact ⟨rfl, rest⟩

/-- A call within a part is answered by that part and goes on with it. -/
theorem reply_agree {action : Action} (within : action.Within part) (agree : Agree part one other) :
    (driver.reply action one).1 = (driver.reply action other).1 ∧
      Agree part (driver.reply action one).2 (driver.reply action other).2 := by
  cases action with
  | rewind handle => exact rewind_agree within agree
  | read handle limit => exact read_agree within agree limit
  | write handle bytes => exact write_agree within agree bytes
  | note notice => exact ⟨rfl, agree⟩
  | acquire node access | close handle => exact within.elim

theorem agree_rewind (place : handle.node.requestPath? ≠ part) (state : Scripted) :
    Agree part state (rewind handle state).2 := by
  obtain ⟨fault, next, taken, kept⟩ := agree_takeFault place state .rewind
  unfold rewind
  rw [taken]
  cases fault with
  | fail reason | none | short missing | count reported => exact kept

theorem agree_read (place : handle.node.requestPath? ≠ part) (state : Scripted) (limit : Nat) :
    Agree part state (read handle limit state).2 := by
  obtain ⟨fault, next, taken, kept⟩ := agree_takeFault place state .read
  unfold read
  rw [taken]
  cases fault with
  | fail reason | none | short missing | count reported => exact kept

/-- A write takes a fault and stores a block, both of its own part. -/
theorem agree_write (place : handle.node.requestPath? ≠ part) (state : Scripted) (bytes : Bytes) :
    Agree part state (write handle bytes state).2 := by
  obtain ⟨fault, next, taken, kept⟩ := agree_takeFault place state .write
  unfold write
  rw [taken]
  cases fault with
  | fail reason | short missing | count reported => exact kept
  | none =>
      dsimp only
      cases stored : next.registers.store? handle.node bytes with
      | some registers =>
          exact kept.trans { Agree.rfl with registers := Registers.agree_store? place stored }
      | none => exact kept

/-- A call within a part leaves every other part alone. -/
theorem agree_reply {action : Action} (within : action.Within own) (apart : own ≠ foreign)
    (state : Scripted) : Agree foreign state (driver.reply action state).2 := by
  cases action with
  | rewind handle => exact agree_rewind (within.symm ▸ apart) state
  | read handle limit => exact agree_read (within.symm ▸ apart) state limit
  | write handle bytes => exact agree_write (within.symm ▸ apart) state bytes
  | note notice => exact .rfl
  | acquire node access | close handle => exact within.elim

/-! ### Traces -/

/-- What was answered within a part is answered by every state with that part. -/
theorem answers_agree {twin : Scripted} (within : trace.Within part)
    (answers : driver.Answers state trace last) (agree : Agree part state twin) :
    ∃ final, driver.Answers twin trace final ∧ Agree part last final := by
  -- Call by call the twin gives the same reply and keeps agreeing on the part.
  induction answers generalizing twin with
  | nil state => exact ⟨twin, .nil twin, agree⟩
  | @cons action state last trace rest ih =>
      obtain ⟨first, within⟩ := List.forall_mem_cons.mp within
      obtain ⟨same, after⟩ := reply_agree first agree
      obtain ⟨final, answers, agreed⟩ := ih within after
      exact ⟨final, answers_cons_iff.mpr ⟨same, answers⟩, agreed⟩

/-- What was answered within a part left every other part alone. -/
theorem agree_of_answers (within : trace.Within own) (apart : own ≠ foreign)
    (answers : driver.Answers state trace last) : Agree foreign state last := by
  induction answers with
  | nil state => exact .rfl
  | @cons action state last trace rest ih =>
      obtain ⟨first, within⟩ := List.forall_mem_cons.mp within
      exact (agree_reply first apart state).trans (ih within)

end Scripted

end ManagementUnit.Simulation
