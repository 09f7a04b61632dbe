import ManagementUnit.Proofs.Session.Connection

/-!
# Power table requests

The power table is read in one transfer, if the buffer has its size and its channel is open. A
snapshot is such a read with a buffer of its own.

* `Session.produces_readTable_iff`, `Session.produces_takeSnapshot_iff` — the ways in which the two
  requests go.
-/

namespace ManagementUnit.Session

open Dialogue

variable {session : Session} {trace : Trace}

/-- The size of the buffer is looked at first, then the channel. -/
theorem produces_readTable_iff {length : Nat} {delivery : Delivery} :
    (session.readTable length).Produces trace delivery ↔
      (length = session.capabilities.table.length ∧
        ((∃ handle, session.pmTable = some handle ∧ handle.Fills length trace delivery) ∨
          session.pmTable = none ∧ trace = [] ∧ delivery = ⟨.error .transferFailed, []⟩)) ∨
      length ≠ session.capabilities.table.length ∧ trace = [] ∧
        delivery = ⟨.error .wrongSize, []⟩ := by
  unfold readTable
  by_cases fits : length = session.capabilities.table.length
  · rw [if_pos fits]
    cases session.pmTable with
    | some handle => simp [fits, Handle.produces_fill_iff]
    | none => simp [fits, produces_done_iff]
  · rw [if_neg fits, pure_eq_done, produces_done_iff]
    simp [fits]

/-- A snapshot reads into a buffer of its own, of the size that was detected. -/
theorem produces_takeSnapshot_iff {result : Except Error PowerTable.Snapshot} :
    session.takeSnapshot.run.Produces trace result ↔
      (session.tableSupported = true ∧ ∃ delivery,
        (session.readTable session.capabilities.table.length).Produces trace delivery ∧
          result = delivery.block.map (PowerTable.Snapshot.mk session.capabilities.table)) ∨
      session.tableSupported = false ∧ trace = [] ∧ result = .error .unsupported := by
  unfold takeSnapshot tableSupported
  by_cases supported : session.capabilities.table.supported = true
  · dsimp only
    rw [if_pos supported, bind_pure_comp, ExceptT.run_map, ExceptT.run_mk]
    simp [supported, produces_map_iff]
  · dsimp only
    rw [if_neg supported, Attempt.produces_throw_iff]
    simp [supported]

end ManagementUnit.Session
