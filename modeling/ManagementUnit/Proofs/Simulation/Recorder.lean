import ManagementUnit.Proofs.Session.Outgoing
import ManagementUnit.Proofs.Simulation.Transfer
import ManagementUnit.Simulation.Recorder

/-!
# Transfers with the recorder

What a transfer makes of a recorder, and what comes of it. Nothing but a file that was told to fall
short keeps a transfer from succeeding if the recorder takes the block. Every call is written down,
which is left out of account here: `Recorder.unlogged` is a recorder without what it wrote down.

* `Recorder.opcodes_reply`, `Recorder.arguments_reply` — what cannot change a recorder's commands.
* `Recorder.of_writes`, `Recorder.of_fills` — transfers.
-/

namespace ManagementUnit.Simulation

namespace Registers

variable {registers next : Registers} {node : Node} {bytes : Bytes}

/-- Only the two command files change the argument block. -/
theorem arguments_of_store? (stored : registers.store? node bytes = some next)
    (other : node ∉ [.smuCmd, .smuArgs]) : next.arguments = registers.arguments := by
  unfold store? at stored
  split at stored
  · cases stored
    rfl
  · cases stored
    rfl
  · exact absurd (by decide) other
  · exact absurd (by decide) other
  · cases stored

end Registers

namespace Recorder

open Driver

variable {state last : Recorder} {handle : Handle} {bytes : Bytes} {trace : Trace}

/-- The recorder without what it wrote down of the calls made on it. -/
def unlogged (recorder : Recorder) : Recorder :=
  { recorder with log := [], attempts := [], openCount := 0 }

/-- What recorders have in common that differ in nothing but what they wrote down. -/
structure Alike (one other : Recorder) : Prop where
  registers_eq : one.registers = other.registers
  shortReads_eq : one.shortReads = other.shortReads
  shortWrites_eq : one.shortWrites = other.shortWrites
  opcodes_eq : one.opcodes = other.opcodes

theorem alike_of_unlogged {one other : Recorder} (same : one.unlogged = other.unlogged) :
    Alike one other := by
  obtain ⟨_, _, registers, shortReads, shortWrites, _, _, _, opcodes⟩ := one
  cases same
  exact ⟨rfl, rfl, rfl, rfl⟩

/-- What a file gives when it is read. -/
def shown (recorder : Recorder) (node : Node) : Bytes :=
  (recorder.registers.contents? node).getD (recorder.contents node)

/-- The recorder after a write that it takes, with the registers that the write leads to. -/
def stored (recorder : Recorder) (node : Node) (bytes : Bytes) (registers : Registers) : Recorder :=
  { recorder with
    registers
    opcodes := recorder.opcodes ++ if node = .smuCmd then [Word.decode bytes] else [] }

/-! ### Single calls -/

theorem unlogged_acquire (node : Node) (access : Access) (recorder : Recorder) :
    (acquire node access recorder).2.unlogged = recorder.unlogged := by
  unfold acquire
  dsimp only
  split
  · rfl
  · split <;> rfl

/-- A write that falls short is reported so and stores nothing. -/
theorem write_of_short (handle : Handle) (bytes : Bytes) (recorder : Recorder)
    (short : recorder.shortWrites handle.node = true) :
    (write handle bytes recorder).1 = .ok (bytes.length - 1) ∧
      (write handle bytes recorder).2.unlogged = recorder.unlogged := by
  have told :
      (recorder.record handle.node (.written bytes.length)).shortWrites handle.node = true := short
  unfold write
  dsimp only
  rw [if_pos told]
  exact ⟨rfl, rfl⟩

/-- Any other write that is taken is reported whole. -/
theorem write_of_stored (handle : Handle) (bytes : Bytes) (recorder : Recorder)
    {registers : Registers} (full : recorder.shortWrites handle.node = false)
    (takes : recorder.registers.store? handle.node bytes = some registers) :
    (write handle bytes recorder).1 = .ok bytes.length ∧
      (write handle bytes recorder).2.unlogged =
        (recorder.stored handle.node bytes registers).unlogged := by
  have told :
      ¬ (recorder.record handle.node (.written bytes.length)).shortWrites handle.node = true := by
    simp [record, full]
  have taken :
      (recorder.record handle.node (.written bytes.length)).registers.store? handle.node bytes =
        some registers := takes
  unfold write
  dsimp only
  rw [if_neg told, taken]
  exact ⟨rfl, rfl⟩

/-- The action writes on none of the files. -/
def Spares (nodes : List Node) (action : Action) : Prop :=
  ∀ handle bytes, action = .write handle bytes → handle.node ∉ nodes

theorem spares_of_quiet {nodes : List Node} {action : Action} (quiet : action.Quiet) :
    Spares nodes action := by
  rintro handle bytes rfl
  exact quiet.elim

theorem Spares.weaken {node : Node} {nodes : List Node} {action : Action}
    (spares : Spares (node :: nodes) action) : Spares [node] action := by
  intro handle bytes same member
  obtain rfl := List.mem_singleton.mp member
  exact spares handle bytes same List.mem_cons_self

/-- Only a write of an opcode is recorded as one. -/
theorem opcodes_reply {action : Action} (spares : Spares [.smuCmd] action)
    (recorder : Recorder) : (driver.reply action recorder).2.opcodes = recorder.opcodes := by
  cases action with
  | acquire node access =>
      exact (alike_of_unlogged (unlogged_acquire node access recorder)).opcodes_eq
  | rewind handle | read handle limit | close handle | note notice => rfl
  | write handle bytes =>
      show (write handle bytes recorder).2.opcodes = recorder.opcodes
      unfold write
      dsimp only
      split
      · rfl
      · split
        · have other : handle.node ≠ .smuCmd := fun same =>
            spares handle bytes rfl (List.mem_singleton.mpr same)
          rw [if_neg other, List.append_nil]
          rfl
        · rfl

/-- Only a write on one of the two command files changes the argument block. -/
theorem arguments_reply {action : Action} (spares : Spares [.smuCmd, .smuArgs] action)
    (recorder : Recorder) :
    (driver.reply action recorder).2.registers.arguments = recorder.registers.arguments := by
  cases action with
  | acquire node access =>
      have kept := (alike_of_unlogged (unlogged_acquire node access recorder)).registers_eq
      exact congrArg Registers.arguments kept
  | rewind handle | read handle limit | close handle | note notice => rfl
  | write handle bytes =>
      show (write handle bytes recorder).2.registers.arguments = recorder.registers.arguments
      unfold write
      dsimp only
      split
      · rfl
      · split
        · rename_i taken
          exact Registers.arguments_of_store? taken (spares handle bytes rfl)
        · rfl

/-- How many bytes a read gives. -/
def given (recorder : Recorder) (node : Node) (limit : Nat) : Nat :=
  let whole := min (recorder.shown node).length limit
  if recorder.shortReads node then whole - 1 else whole

theorem exists_read_eq (handle : Handle) (limit : Nat) (recorder : Recorder) :
    ∃ bytes : { bytes : Bytes // bytes.length ≤ limit },
      (read handle limit recorder).1 = .ok bytes ∧
        bytes.val = (recorder.shown handle.node).take (recorder.given handle.node limit) ∧
        (read handle limit recorder).2.unlogged = recorder.unlogged :=
  ⟨_, rfl, rfl, rfl⟩

/-! ### Transfers -/

/-- A block that the recorder takes is written, unless the file falls short. -/
theorem of_writes {registers : Registers} {result : Except Error Unit}
    (writes : handle.Writes bytes trace result) (answers : driver.Answers state trace last)
    (block : bytes ≠ []) (takes : state.registers.store? handle.node bytes = some registers) :
    (state.shortWrites handle.node = true ∧ result = .error .transferFailed ∧
        last.unlogged = state.unlogged) ∨
      (state.shortWrites handle.node = false ∧ result = .ok () ∧
        last.unlogged = (state.stored handle.node bytes registers).unlogged) := by
  have rewound : driver.reply (.rewind handle) state = (.ok (), (rewind handle state).2) := rfl
  cases short : state.shortWrites handle.node with
  | true =>
      have partly : bytes.length - 1 ≠ bytes.length := by
        have some := List.length_pos_iff.mpr block
        omega
      obtain ⟨counts, kept⟩ := write_of_short handle bytes (rewind handle state).2 short
      obtain ⟨rfl, rfl⟩ := writes.of_replies answers rewound (Prod.ext counts rfl)
      rw [if_neg partly]
      exact Or.inl ⟨rfl, rfl, kept⟩
  | false =>
      obtain ⟨counts, kept⟩ := write_of_stored handle bytes (rewind handle state).2 short takes
      obtain ⟨rfl, rfl⟩ := writes.of_replies answers rewound (Prod.ext counts rfl)
      rw [if_pos rfl]
      exact Or.inr ⟨rfl, rfl, kept⟩

/-- A file of the size of the block is read, unless it falls short. -/
theorem of_fills {length : Nat} {delivery : Delivery} (fills : handle.Fills length trace delivery)
    (answers : driver.Answers state trace last) (some : 0 < length)
    (size : (state.shown handle.node).length = length) :
    last.unlogged = state.unlogged ∧
      ((state.shortReads handle.node = true ∧ delivery.status = .error .transferFailed) ∨
        (state.shortReads handle.node = false ∧ delivery = ⟨.ok (), state.shown handle.node⟩)) := by
  have rewound : driver.reply (.rewind handle) state = (.ok (), (rewind handle state).2) := rfl
  obtain ⟨bytes, gives, same, kept⟩ := exists_read_eq handle length (rewind handle state).2
  obtain ⟨rfl, rfl⟩ := fills.of_replies answers rewound (Prod.ext gives rfl)
  refine ⟨kept, ?_⟩
  have shown : bytes.val = (state.shown handle.node).take (state.given handle.node length) := same
  cases short : state.shortReads handle.node with
  | true =>
      have partly : bytes.val.length ≠ length := by
        rw [shown, given, short, if_pos rfl, List.length_take]
        omega
      exact Or.inl ⟨rfl, if_neg partly⟩
  | false =>
      have whole : bytes.val = state.shown handle.node := by
        rw [shown, given, short, size, Nat.min_self]
        exact List.take_of_length_le (Nat.le_of_eq size)
      have full : bytes.val.length = length := by rw [whole, size]
      rw [if_pos full, whole]
      exact Or.inr ⟨rfl, rfl⟩

end Recorder

end ManagementUnit.Simulation
