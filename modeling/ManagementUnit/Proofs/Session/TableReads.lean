import ManagementUnit.Proofs.Session.Invariant
import ManagementUnit.Proofs.Session.Table
import ManagementUnit.Proofs.Simulation.Scripted

/-!
# Reading the power table

A buffer is filled with the power table if it has the size that the session knows, the table's
channel is open, and one read delivers exactly that size; it holds the front of the file then,
whatever was read before. A snapshot is such a read with a buffer of its own.

Where no power table can be read, no buffer gets it and no call is made. The session may know a size
nonetheless: the size word is kept beside a version word of zero.

* `unsupported_rejects` — sessions without a power table.
* `Consistent.fillsBuffer`, `copiesTable` — both requests with the scripted driver.
* `table_reads` — both of these for all reachable sessions.
-/

namespace ManagementUnit

open Dialogue

/-! ### Blocks -/

/-- A buffer of the delivered length holds what was delivered. -/
theorem Delivery.into_eq {delivery : Delivery} {buffer : Bytes}
    (full : delivery.bytes.length = buffer.length) : delivery.into buffer = delivery.bytes := by
  unfold into
  rw [List.drop_of_length_le (Nat.le_of_eq full.symm), List.append_nil]

namespace Handle

variable {σ : Type} {driver : Driver σ} {state last : σ} {handle : Handle} {trace : Trace}

/-- A text is read if neither of the two calls fails. -/
theorem ReadsSome.eq_ok_iff {limit : Nat} {result : Except Error Bytes} {bytes : Bytes}
    (reads : handle.ReadsSome limit trace result) (answers : driver.Answers state trace last) :
    result = .ok bytes ↔ (driver.rewind handle state).1 = .ok () ∧
      ∃ given, (driver.read handle limit (driver.rewind handle state).2).1 = .ok given ∧
        given.val = bytes := by
  cases reads with
  | rewindFailed reason =>
      have rewound : .error reason = (driver.rewind handle state).1 :=
        (Driver.answers_cons_iff.mp answers).1
      simp [← rewound]
  | failed reason =>
      obtain ⟨-, rest⟩ := Driver.answers_cons_iff.mp answers
      have read : .error reason = (driver.read handle limit (driver.rewind handle state).2).1 :=
        (Driver.answers_cons_iff.mp rest).1
      simp [← read]
  | delivered given =>
      obtain ⟨rewound, rest⟩ := Driver.answers_cons_iff.mp answers
      have rewound : .ok () = (driver.rewind handle state).1 := rewound
      have read : .ok given = (driver.read handle limit (driver.rewind handle state).2).1 :=
        (Driver.answers_cons_iff.mp rest).1
      simp [← rewound, ← read]

/-- A block is read if neither call fails and the whole block is delivered. -/
theorem Fills.status_eq_ok_iff {length : Nat} {delivery : Delivery}
    (fills : handle.Fills length trace delivery) (answers : driver.Answers state trace last) :
    delivery.status = .ok () ↔ (driver.rewind handle state).1 = .ok () ∧
      ∃ given, (driver.read handle length (driver.rewind handle state).2).1 = .ok given ∧
        given.val.length = length := by
  cases fills with
  | failed reads =>
      constructor
      · intro impossible
        cases impossible
      · rintro ⟨rewound, given, read, -⟩
        cases (reads.eq_ok_iff answers).mpr ⟨rewound, given, read, rfl⟩
  | short reads partly =>
      obtain ⟨middle, answered, -⟩ := Driver.answers_append_iff.mp answers
      constructor
      · intro impossible
        cases impossible
      · rintro ⟨rewound, given, read, full⟩
        cases (reads.eq_ok_iff answered).mpr ⟨rewound, given, read, rfl⟩
        exact absurd full partly
  | whole reads full =>
      obtain ⟨rewound, given, read, rfl⟩ := (reads.eq_ok_iff answers).mp rfl
      exact ⟨fun _ => ⟨rewound, given, read, full⟩, fun _ => rfl⟩

end Handle

namespace Session

open Simulation

variable {session : Session} {length : Nat}

/-! ### What becomes of a request -/

theorem readTable_of_misfit (misfit : length ≠ session.capabilities.table.length) :
    session.readTable length = .done ⟨.error .wrongSize, []⟩ := by
  unfold readTable
  rw [if_neg misfit, pure_eq_done]

theorem readTable_of_closed (closed : session.pmTable = none) :
    session.readTable session.capabilities.table.length = .done ⟨.error .transferFailed, []⟩ := by
  unfold readTable
  rw [if_pos rfl, closed, pure_eq_done]

theorem readTable_of_open {handle : Handle} (isOpen : session.pmTable = some handle) :
    session.readTable session.capabilities.table.length =
      handle.fill session.capabilities.table.length := by
  unfold readTable
  rw [if_pos rfl, isOpen]

/-! ### Sessions without a power table -/

theorem Consistent.pmTable_eq_none (consistent : session.Consistent)
    (unsupported : session.tableSupported = false) : session.pmTable = none := by
  have isOpen : session.pmTable.isSome = true ↔
      session.ready = true ∧ session.tableSupported = true := by
    rw [← contains_pmTable_channels]
    exact consistent.sound.table_iff
  rw [unsupported] at isOpen
  simpa using isOpen

/-- No buffer gets any bytes, and no call is made. The error tells whether the length is the one
that the session knows. -/
theorem Consistent.readTable_of_unsupported (consistent : session.Consistent)
    (unsupported : session.tableSupported = false) (length : Nat) :
    session.readTable length = .done ⟨.error
      (if length = session.capabilities.table.length then .transferFailed else .wrongSize),
      []⟩ := by
  by_cases fits : length = session.capabilities.table.length
  · rw [if_pos fits, fits]
    exact readTable_of_closed (consistent.pmTable_eq_none unsupported)
  · rw [if_neg fits]
    exact readTable_of_misfit fits

/-- What a session without a power table makes of buffers: every one is refused without a call. The
size is zero, unless it was read beside a version word of zero. If it is zero, and only then, every
other buffer than the empty one has the wrong size. -/
structure Rejects (session : Session) : Prop where
  refused : ∀ length, session.readTable length = .done ⟨.error
    (if length = session.capabilities.table.length then .transferFailed else .wrongSize), []⟩
  empty : session = zero ∨ session.capabilities.table.version ≠ 0 →
    session.capabilities.table.length = 0
  empty_iff : session.capabilities.table.length = 0 ↔ ∀ length, session.readTable length =
    .done ⟨.error (if length = 0 then .transferFailed else .wrongSize), []⟩

/-- No buffer gets a power table that cannot be read. -/
theorem unsupported_rejects (reachable : session.Reachable)
    (unsupported : session.tableSupported = false) : session.Rejects := by
  have refused := reachable.consistent.readTable_of_unsupported unsupported
  refine ⟨refused, ?_, ?_⟩
  · rintro (rfl | versioned)
    · rfl
    · have empty : session.capabilities.table.size = 0 := by
        simpa [tableSupported, PowerTable.Info.supported, versioned] using unsupported
      exact congrArg UInt32.toNat empty
  · constructor
    · intro empty length
      rw [refused length, empty]
    · intro documented
      by_cases empty : session.capabilities.table.length = 0
      · exact empty
      · have both := (refused session.capabilities.table.length).symm.trans (documented _)
        rw [if_pos rfl, if_neg empty] at both
        cases both

/-- A session of a platform whose driver reports a table of sixteen bytes and the version zero. -/
def versionless : Session where
  capabilities := ⟨.ofParts 46 54 0, .matisse, ⟨0, 16⟩⟩
  smn := some ⟨.smn, 16⟩
  smuCmd := some ⟨.smuCmd, 17⟩
  smuArgs := some ⟨.smuArgs, 18⟩
  pmTable := none
  ready := true

theorem reachable_versionless : versionless.Reachable := by
  have left : ((zero.performAll [.connect]).run Recorder.driver
      ((Recorder.initial.apply (.setFile .pmTableVersion (Word.encode 0))).apply
        (.setFile .pmTableSize (Word.encode 16)))).value.2 = versionless := by
    decide +kernel
  rw [← left]
  exact reachable_run Recorder.driver _ [.connect]

/-- The size that is known decides the error even where there is no table to read. -/
theorem readTable_versionless :
    versionless.Reachable ∧ versionless.tableSupported = false ∧
      versionless.capabilities.table.length = 16 ∧
      versionless.readTable 16 = .done ⟨.error .transferFailed, []⟩ ∧
      versionless.readTable 0 = .done ⟨.error .wrongSize, []⟩ :=
  ⟨reachable_versionless, rfl, rfl, rfl, rfl⟩

theorem unsupported_rejects_versionless :
    versionless.Reachable ∧ versionless.tableSupported = false ∧ versionless.Rejects :=
  ⟨reachable_versionless, rfl, unsupported_rejects reachable_versionless rfl⟩

/-! ### Filling a buffer -/

/-- What becomes of a buffer. A buffer of another size is refused without a call and is left as it
is, and so is any buffer if the table's channel is not open. Otherwise the file is repositioned and
read once, and the read has to deliver all of it. Then the buffer is filled with what the file
begins with. -/
structure FillsBuffer (session : Session) (state : Scripted) (buffer : Bytes)
    (outcome : Outcome Scripted Delivery) : Prop where
  misfit : buffer.length ≠ session.capabilities.table.length →
    outcome = ⟨⟨.error .wrongSize, []⟩, state, []⟩ ∧ outcome.value.into buffer = buffer
  closed : buffer.length = session.capabilities.table.length → session.pmTable = none →
    outcome = ⟨⟨.error .transferFailed, []⟩, state, []⟩ ∧ outcome.value.into buffer = buffer
  reads : buffer.length = session.capabilities.table.length →
    ∀ handle, session.pmTable = some handle →
      outcome.trace.calls.map Event.action <+: [.rewind handle, .read handle buffer.length] ∧
      (outcome.value.status = .ok () ↔ (Scripted.rewind handle state).1 = .ok () ∧
        ∃ given,
          (Scripted.read handle buffer.length (Scripted.rewind handle state).2).1 = .ok given ∧
            given.val.length = session.capabilities.table.length)
  filled : outcome.value.status = .ok () →
    (outcome.value.into buffer).length = session.capabilities.table.length ∧
      outcome.value.into buffer =
        ((state.files .pmTable).getD []).take session.capabilities.table.length

/-- The delivery is known from the driver's two replies, whose read gives the front of the table's
file. -/
theorem Consistent.fillsBuffer (consistent : session.Consistent) (state : Scripted)
    (buffer : Bytes) :
    session.FillsBuffer state buffer
      ((session.readTable buffer.length).run Scripted.driver state) := by
  constructor
  · intro misfit
    rw [readTable_of_misfit misfit]
    exact ⟨rfl, rfl⟩
  · intro fits closed
    rw [fits, readTable_of_closed closed]
    exact ⟨rfl, rfl⟩
  · intro fits handle isOpen
    rw [fits, readTable_of_open isOpen]
    obtain ⟨produced, answers⟩ := run_spec Scripted.driver
      (handle.fill session.capabilities.table.length) state
    have fills := Handle.produces_fill_iff.mp produced
    exact ⟨fills.follows.actions_isPrefix, fills.status_eq_ok_iff answers⟩
  · obtain ⟨produced, answers⟩ := run_spec Scripted.driver (session.readTable buffer.length) state
    generalize (session.readTable buffer.length).run Scripted.driver state = outcome
      at produced answers ⊢
    obtain ⟨⟨status, bytes⟩, last, trace⟩ := outcome
    rintro (rfl : status = .ok ())
    rcases produces_readTable_iff.mp produced with
      ⟨fits, ⟨handle, isOpen, fills⟩ | ⟨-, -, impossible⟩⟩ | ⟨-, -, impossible⟩
    · obtain ⟨full, -⟩ := fills.trace_eq
      have own : handle.node = .pmTable := consistent.node_of_held isOpen
      have front := Scripted.take_of_fills_ok fills answers
      rw [own] at front
      rw [Delivery.into_eq full, ← fits]
      exact ⟨full, front⟩
    · cases impossible
    · cases impossible

/-! ### Taking a snapshot -/

/-- What a snapshot comes to. Without a power table it is refused without a call, and it always has
the right size. It goes as reading into any buffer of that size does, and it is a copy of what the
buffer holds then. -/
structure CopiesTable (session : Session) (state : Scripted)
    (outcome : Outcome Scripted (Except Error PowerTable.Snapshot)) : Prop where
  unsupported : session.tableSupported = false → outcome = ⟨.error .unsupported, state, []⟩
  ne_wrongSize : outcome.value ≠ .error .wrongSize
  supported : session.tableSupported = true → ∀ buffer : Bytes,
    buffer.length = session.capabilities.table.length →
      outcome.trace = ((session.readTable buffer.length).run Scripted.driver state).trace ∧
      outcome.state = ((session.readTable buffer.length).run Scripted.driver state).state ∧
      outcome.value =
        ((session.readTable buffer.length).run Scripted.driver state).value.status.map fun _ =>
          ⟨session.capabilities.table,
            ((session.readTable buffer.length).run Scripted.driver state).value.into buffer⟩

/-- A read that has the size of the table fills it or fails as a transfer. -/
theorem readTable_cases {trace : Trace} {delivery : Delivery}
    (produced : (session.readTable session.capabilities.table.length).Produces trace delivery) :
    delivery.status = .ok () ∧ delivery.bytes.length = session.capabilities.table.length ∨
      delivery.status = .error .transferFailed := by
  rcases produces_readTable_iff.mp produced with
    ⟨-, ⟨handle, -, fills⟩ | ⟨-, -, rfl⟩⟩ | ⟨misfit, -, -⟩
  · obtain ⟨status, bytes⟩ := delivery
    cases status with
    | ok done =>
        obtain ⟨full, -⟩ := fills.trace_eq
        exact Or.inl ⟨rfl, full⟩
    | error error =>
        rw [fills.error_eq]
        exact Or.inr rfl
  · exact Or.inr rfl
  · exact absurd rfl misfit

/-- A snapshot reads into a buffer of the size that was detected, so the size never is the reason
for a failure. -/
theorem copiesTable (session : Session) (state : Scripted) :
    session.CopiesTable state (session.takeSnapshot.run.run Scripted.driver state) := by
  obtain ⟨produced, answers⟩ := run_spec Scripted.driver session.takeSnapshot.run state
  generalize session.takeSnapshot.run.run Scripted.driver state = outcome at produced answers ⊢
  obtain ⟨result, last, trace⟩ := outcome
  rcases produces_takeSnapshot_iff.mp produced with
    ⟨supported, ⟨status, bytes⟩, read, same⟩ | ⟨unsupported, nothing, refused⟩
  · obtain rfl : result = _ := same
    have ran : (session.readTable session.capabilities.table.length).run Scripted.driver state =
        ⟨⟨status, bytes⟩, last, trace⟩ := run_eq_iff.mpr ⟨read, answers⟩
    have ended := readTable_cases read
    constructor
    · intro unsupported
      cases supported.symm.trans unsupported
    · rcases ended with ⟨rfl : status = _, -⟩ | (rfl : status = _)
      · simp [Delivery.block, Except.map]
      · simp [Delivery.block, Except.map]
    · intro _ buffer fits
      rw [fits, ran]
      refine ⟨rfl, rfl, ?_⟩
      rcases ended with ⟨rfl : status = _, full⟩ | (rfl : status = _)
      · rw [Delivery.into_eq (full.trans fits.symm)]
        rfl
      · rfl
  · obtain rfl : trace = [] := nothing
    obtain rfl : result = _ := refused
    obtain rfl : last = state := Driver.answers_nil_iff.mp answers
    constructor
    · exact fun _ => rfl
    · simp
    · intro supported
      cases unsupported.symm.trans supported

/-- In all reachable sessions, whatever the driver holds and whatever faults are to come, a buffer
is filled by one whole read of its own size, and a snapshot is a copy of what such a buffer gets. -/
theorem table_reads (reachable : session.Reachable) (state : Scripted) :
    (∀ buffer : Bytes, session.FillsBuffer state buffer
      ((session.readTable buffer.length).run Scripted.driver state)) ∧
    session.CopiesTable state (session.takeSnapshot.run.run Scripted.driver state) :=
  ⟨reachable.consistent.fillsBuffer state, session.copiesTable state⟩

/-- A driver whose power table has grown by two bytes, with a short read to come. -/
def grown : Scripted :=
  (Scripted.initial.apply (.setFile .pmTable [1, 2, 3, 4, 5, 6, 7, 8, 9, 10])).apply
    (.addFaults .pmTable .read [.none, .short 1])

theorem table_reads_grown :
    complete.Reachable ∧
      complete.FillsBuffer grown (List.replicate 8 0)
        ((complete.readTable 8).run Scripted.driver grown) ∧
      complete.CopiesTable grown (complete.takeSnapshot.run.run Scripted.driver grown) ∧
      (complete.takeSnapshot.run.run Scripted.driver grown).value =
        .ok ⟨⟨0x240903, 8⟩, [1, 2, 3, 4, 5, 6, 7, 8]⟩ :=
  ⟨reachable_complete, (table_reads reachable_complete grown).1 (List.replicate 8 0),
    (table_reads reachable_complete grown).2, rfl⟩

end Session

end ManagementUnit
