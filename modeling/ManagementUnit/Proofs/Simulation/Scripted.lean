import ManagementUnit.Proofs.Simulation.Transfer
import ManagementUnit.Simulation.Scripted

/-!
# Transfers with the scripted driver

What a transfer makes of the scripted driver's registers, and what it delivers. A transfer that
fails leaves the registers as they are. One that succeeds did what was asked of it, but for a write
that the script makes tell a lie.

* `Scripted.registers_of_writes_error`, `Scripted.stored_of_writes_ok` — blocks that are written.
* `Scripted.delivered_of_fills_ok` — blocks that are read.
* `Scripted.writes_of_calm`, `Scripted.fills_of_calm` — transfers that no fault waits for.
-/

namespace ManagementUnit.Simulation

/-- Whether a fault makes a write of `length` bytes report them all and store nothing. -/
def Fault.deceives (length : Nat) : Fault → Bool
  | .short missing => length - missing == length
  | .count reported => reported == length
  | _ => false

namespace Scripted

variable {state last : Scripted} {handle : Handle} {bytes : Bytes} {trace : Trace}

/-! ### Single calls -/

@[simp] theorem reply_rewind (handle : Handle) (state : Scripted) :
    driver.reply (.rewind handle) state = rewind handle state := rfl

@[simp] theorem reply_read (handle : Handle) (limit : Nat) (state : Scripted) :
    driver.reply (.read handle limit) state = read handle limit state := rfl

@[simp] theorem reply_write (handle : Handle) (bytes : Bytes) (state : Scripted) :
    driver.reply (.write handle bytes) state = write handle bytes state := rfl

@[simp] theorem registers_takeFault (state : Scripted) (node : Node) (call : CallKind) :
    (state.takeFault node call).2.registers = state.registers := by
  unfold takeFault
  split <;> rfl

@[simp] theorem files_takeFault (state : Scripted) (node : Node) (call : CallKind) :
    (state.takeFault node call).2.files = state.files := by
  unfold takeFault
  split <;> rfl

@[simp] theorem contents_takeFault (state : Scripted) (node other : Node) (call : CallKind) :
    (state.takeFault node call).2.contents other = state.contents other := by
  unfold contents
  rw [registers_takeFault, files_takeFault]

@[simp] theorem registers_acquire (node : Node) (access : Access) (state : Scripted) :
    (acquire node access state).2.registers = state.registers := by
  have kept := registers_takeFault state node .acquire
  unfold acquire
  cases taken : state.takeFault node .acquire with
  | mk fault rest =>
      rw [taken] at kept
      cases fault with
      | fail reason => exact kept
      | none | short missing | count reported =>
          dsimp only
          by_cases present : (rest.files node).isSome
          · rw [if_pos present]
            exact kept
          · rw [if_neg present]
            exact kept

@[simp] theorem registers_rewind (handle : Handle) (state : Scripted) :
    (rewind handle state).2.registers = state.registers := by
  have kept := registers_takeFault state handle.node .rewind
  unfold rewind
  split <;> simp_all

@[simp] theorem contents_rewind (handle : Handle) (state : Scripted) (node : Node) :
    (rewind handle state).2.contents node = state.contents node := by
  have kept := contents_takeFault state handle.node node .rewind
  unfold rewind
  split <;> simp_all

@[simp] theorem registers_read (handle : Handle) (limit : Nat) (state : Scripted) :
    (read handle limit state).2.registers = state.registers := by
  have kept := registers_takeFault state handle.node .read
  unfold read
  split <;> simp_all

/-- A read gives no other bytes than those of the file. -/
theorem prefix_of_read {limit : Nat} {delivered : { bytes : Bytes // bytes.length ≤ limit }}
    (replied : (read handle limit state).1 = .ok delivered) :
    delivered.val <+: state.contents handle.node := by
  have same := contents_takeFault state handle.node handle.node .read
  unfold read at replied
  cases taken : state.takeFault handle.node .read with
  | mk fault rest =>
      rw [taken] at same
      simp only [taken] at replied
      rw [← same]
      cases fault with
      | fail reason => cases replied
      | short missing =>
          cases replied
          exact (List.take_prefix _ _).trans (List.take_prefix _ _)
      | none | count reported =>
          cases replied
          exact List.take_prefix _ _

/-- A write stores its block and reports it whole, or stores nothing. It reports the whole block
without storing it only if it is told to. -/
theorem write_cases (handle : Handle) (bytes : Bytes) (state : Scripted) :
    ((write handle bytes state).1 = .ok bytes.length ∧
      state.registers.store? handle.node bytes = some (write handle bytes state).2.registers) ∨
    ((write handle bytes state).2.registers = state.registers ∧
      ((write handle bytes state).1 = .ok bytes.length →
        (state.takeFault handle.node .write).1.deceives bytes.length = true)) := by
  have same := registers_takeFault state handle.node .write
  unfold write
  cases taken : state.takeFault handle.node .write with
  | mk fault rest =>
      rw [taken] at same
      dsimp only at same ⊢
      cases fault with
      | fail reason => exact Or.inr ⟨same, fun impossible => nomatch impossible⟩
      | short missing =>
          refine Or.inr ⟨same, fun whole => ?_⟩
          exact beq_iff_eq.mpr (Except.ok.inj whole)
      | count reported =>
          refine Or.inr ⟨same, fun whole => ?_⟩
          exact beq_iff_eq.mpr (Except.ok.inj whole)
      | none =>
          dsimp only
          rw [← same]
          cases stored : rest.registers.store? handle.node bytes with
          | some registers => exact Or.inl ⟨rfl, rfl⟩
          | none => exact Or.inr ⟨rfl, fun impossible => nomatch impossible⟩

/-- A write that does not report the whole block stores nothing. -/
theorem registers_write_of_ne (partly : (write handle bytes state).1 ≠ .ok bytes.length) :
    (write handle bytes state).2.registers = state.registers := by
  rcases write_cases handle bytes state with ⟨whole, -⟩ | ⟨kept, -⟩
  · exact absurd whole partly
  · exact kept

/-- A write that reports the whole block stores it, unless the report is a lie. -/
theorem stored_of_write (whole : (write handle bytes state).1 = .ok bytes.length)
    (truthful : (state.takeFault handle.node .write).1.deceives bytes.length = false) :
    state.registers.store? handle.node bytes = some (write handle bytes state).2.registers := by
  rcases write_cases handle bytes state with ⟨-, stored⟩ | ⟨-, lie⟩
  · exact stored
  · cases truthful.symm.trans (lie whole)

/-! ### Transfers -/

open Driver

/-- A block that was not written leaves the registers as they were. -/
theorem registers_of_writes_error {error : Error}
    (writes : handle.Writes bytes trace (.error error))
    (answers : driver.Answers state trace last) : last.registers = state.registers := by
  have rewound := registers_rewind handle state
  cases writes with
  | rewindFailed reason =>
      rw [answers_cons_iff, answers_note_iff, answers_nil_iff] at answers
      obtain ⟨-, rfl⟩ := answers
      exact rewound
  | failed reason =>
      rw [answers_cons_iff, answers_cons_iff, answers_note_iff, answers_nil_iff] at answers
      obtain ⟨-, replied, rfl⟩ := answers
      refine (registers_write_of_ne ?_).trans rewound
      exact fun whole => nomatch replied.trans whole
  | short count partly =>
      rw [answers_cons_iff, answers_cons_iff, answers_note_iff, answers_nil_iff] at answers
      obtain ⟨-, replied, rfl⟩ := answers
      refine (registers_write_of_ne ?_).trans rewound
      exact fun whole => partly (Except.ok.inj (replied.trans whole))

/-- Whether the next write is told to lie about the register file. -/
def deceives (state : Scripted) : Action → Bool
  | .write handle bytes =>
    handle.node == .smn && (state.takeFault .smn .write).1.deceives bytes.length
  | _ => false

/-- Whether no write of a trace is told to lie about the register file. -/
def honest (state : Scripted) : Trace → Bool
  | [] => true
  | event :: trace =>
    !state.deceives event.action && honest (driver.reply event.action state).2 trace

theorem honest_append {first rest : Trace} {middle : Scripted}
    (answers : driver.Answers state first middle) :
    state.honest (first ++ rest) = (state.honest first && middle.honest rest) := by
  induction answers with
  | nil state => rfl
  | cons after ih => rw [List.cons_append, honest, honest, ih, Bool.and_assoc]

/-- A block that was written is stored. -/
theorem stored_of_writes_ok (own : handle.node = .smn)
    (writes : handle.Writes bytes trace (.ok ())) (answers : driver.Answers state trace last)
    (truthful : state.honest trace = true) :
    state.registers.store? .smn bytes = some last.registers := by
  have rewound := registers_rewind handle state
  obtain rfl := writes.trace_eq
  rw [answers_cons_iff, answers_cons_iff, answers_note_iff, answers_nil_iff] at answers
  obtain ⟨-, replied, rfl⟩ := answers
  simp only [honest, deceives, own, beq_self_eq_true, Bool.true_and, Bool.and_eq_true,
    Bool.not_eq_true'] at truthful
  rw [← rewound, ← own]
  exact stored_of_write replied.symm (by rw [own]; exact truthful.2.1)

/-- A block that was read is what the file begins with. -/
theorem take_of_fills_ok {length : Nat}
    (fills : handle.Fills length trace ⟨.ok (), bytes⟩)
    (answers : driver.Answers state trace last) :
    bytes = (state.contents handle.node).take length := by
  obtain ⟨full, rfl⟩ := fills.trace_eq
  rw [answers_cons_iff, answers_cons_iff] at answers
  have delivered := prefix_of_read answers.2.1.symm
  rw [reply_rewind, contents_rewind] at delivered
  rw [← full]
  exact List.prefix_iff_eq_take.mp delivered

/-- A block of the file's length that was read is what the file holds. -/
theorem delivered_of_fills_ok {length : Nat}
    (fills : handle.Fills length trace ⟨.ok (), bytes⟩) (answers : driver.Answers state trace last)
    (exactly : (state.contents handle.node).length = length) :
    bytes = state.contents handle.node := by
  rw [take_of_fills_ok fills answers]
  exact List.take_of_length_le (Nat.le_of_eq exactly)

/-! ### Transfers without faults -/

/-- No fault waits for the calls on a file. -/
def Calm (state : Scripted) (node : Node) : Prop :=
  ∀ call, state.faults node call = []

theorem takeFault_of_calm {node : Node} (calm : state.Calm node) (call : CallKind) :
    state.takeFault node call = (.none, state) := by
  unfold takeFault
  rw [calm call]

theorem rewind_of_calm (calm : state.Calm handle.node) : rewind handle state = (.ok (), state) := by
  unfold rewind
  rw [takeFault_of_calm calm]

theorem read_of_calm (calm : state.Calm handle.node) (limit : Nat) :
    read handle limit state = (.ok ⟨(state.contents handle.node).take limit, by grind⟩, state) := by
  unfold read
  rw [takeFault_of_calm calm]

theorem write_of_calm {registers : Registers} (calm : state.Calm handle.node)
    (stores : state.registers.store? handle.node bytes = some registers) :
    write handle bytes state = (.ok bytes.length, { state with registers }) := by
  unfold write
  rw [takeFault_of_calm calm]
  dsimp only
  rw [stores]

/-- A block that the file takes is written. -/
theorem writes_of_calm {registers : Registers} {result : Except Error Unit}
    (calm : state.Calm handle.node)
    (stores : state.registers.store? handle.node bytes = some registers)
    (writes : handle.Writes bytes trace result) (answers : driver.Answers state trace last) :
    result = .ok () ∧ last = { state with registers } := by
  obtain ⟨rfl, rfl⟩ :=
    writes.of_replies answers (rewind_of_calm calm) (write_of_calm calm stores)
  exact ⟨if_pos rfl, rfl⟩

/-- A file of the right length is read whole. -/
theorem fills_of_calm {length : Nat} {delivery : Delivery} (calm : state.Calm handle.node)
    (exactly : (state.contents handle.node).length = length)
    (fills : handle.Fills length trace delivery) (answers : driver.Answers state trace last) :
    delivery = ⟨.ok (), state.contents handle.node⟩ ∧ last = state := by
  have all : (state.contents handle.node).take length = state.contents handle.node :=
    List.take_of_length_le (Nat.le_of_eq exactly)
  obtain ⟨rfl, rfl⟩ := fills.of_replies answers (rewind_of_calm calm) (read_of_calm calm length)
  simp only [all, exactly, if_true, and_self]

end Scripted

end ManagementUnit.Simulation
