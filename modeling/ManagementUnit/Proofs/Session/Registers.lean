import ManagementUnit.Proofs.Session.Connection

/-!
# Register requests

A register is written by one transfer and read by two, of which the first selects it.
`Session.Fetches` lists the ways in which reading goes.

* `Session.produces_readRegister_iff`, `Session.produces_writeRegister_iff` — the lists are
  complete.
-/

namespace ManagementUnit.Session

open Dialogue

/-- The ways in which reading a register goes on an open channel: the register is selected, and then
its value is read. -/
inductive Fetches (smn : Handle) (address : UInt32) : Trace → Except Error UInt32 → Prop where
  | unselected {selecting : Trace} {error : Error}
      (selects : smn.Writes (RegisterRequest.select address) selecting (.error error)) :
      Fetches smn address selecting (.error error)
  | unread {selecting reading : Trace} {bytes : Bytes} {error : Error}
      (selects : smn.Writes (RegisterRequest.select address) selecting (.ok ()))
      (reads : smn.Fills 4 reading ⟨.error error, bytes⟩) :
      Fetches smn address (selecting ++ reading) (.error error)
  | fetched {selecting reading : Trace} {bytes : Bytes}
      (selects : smn.Writes (RegisterRequest.select address) selecting (.ok ()))
      (reads : smn.Fills 4 reading ⟨.ok (), bytes⟩) :
      Fetches smn address (selecting ++ reading) (.ok (RegisterRequest.value bytes))

variable {session : Session} {trace : Trace} {address : UInt32}

/-- On an open channel a register is read in one of the ways that `Fetches` lists; without one
nothing is called. -/
theorem produces_readRegister_iff {result : Except Error UInt32} :
    (session.readRegister address).run.Produces trace result ↔
      (∃ smn, session.smn = some smn ∧ Fetches smn address trace result) ∨
      session.smn = none ∧ trace = [] ∧ result = .error .transferFailed := by
  unfold readRegister
  rw [produces_channel_bind_iff]
  refine or_congr_left (exists_congr fun smn => and_congr_right fun _ => ?_)
  constructor
  · intro produced
    rcases Attempt.produces_bind_iff.mp produced with
      ⟨selecting, rest, _, rfl, selected, after⟩ | ⟨error, unselected, rfl⟩
    · have selects := Handle.produces_writeBlock_iff.mp selected
      rcases Attempt.produces_bind_iff.mp after with
        ⟨reading, rest, bytes, rfl, read, returned⟩ | ⟨error, unread, rfl⟩
      · obtain ⟨rfl, rfl⟩ := Attempt.produces_pure_iff.mp returned
        rw [List.append_nil]
        exact .fetched selects (Handle.produces_readBlock_ok_iff.mp read)
      · obtain ⟨bytes, reads⟩ := Handle.produces_readBlock_error_iff.mp unread
        exact .unread selects reads
    · exact .unselected (Handle.produces_writeBlock_iff.mp unselected)
  · intro fetches
    refine Attempt.produces_bind_iff.mpr ?_
    cases fetches with
    | unselected selects => exact Or.inr ⟨_, Handle.produces_writeBlock_iff.mpr selects, rfl⟩
    | unread selects reads =>
        exact Or.inl ⟨_, _, (), rfl, Handle.produces_writeBlock_iff.mpr selects,
          Attempt.produces_bind_iff.mpr (Or.inr
            ⟨_, Handle.produces_readBlock_error_iff.mpr ⟨_, reads⟩, rfl⟩)⟩
    | fetched selects reads =>
        exact Or.inl ⟨_, _, (), rfl, Handle.produces_writeBlock_iff.mpr selects,
          Attempt.produces_bind_iff.mpr (Or.inl
            ⟨_, [], _, (List.append_nil _).symm, Handle.produces_readBlock_ok_iff.mpr reads,
              Attempt.produces_pure_iff.mpr ⟨rfl, rfl⟩⟩)⟩

theorem produces_writeRegister_iff {value : UInt32} {result : Except Error Unit} :
    (session.writeRegister address value).run.Produces trace result ↔
      (∃ smn, session.smn = some smn ∧
        smn.Writes (RegisterRequest.store address value) trace result) ∨
      session.smn = none ∧ trace = [] ∧ result = .error .transferFailed := by
  unfold writeRegister
  simp only [produces_channel_bind_iff, Handle.produces_writeBlock_iff]

end ManagementUnit.Session
