import ManagementUnit.Binary32
import ManagementUnit.PowerTable.Info

/-!
# Power table snapshots

A snapshot is a copy of the power table with the metadata it was read under. Its entries are
single-precision numbers, four bytes each; a last partial entry does not count.
-/

namespace ManagementUnit.PowerTable

/-- A copy of the power table. -/
structure Snapshot where
  info : Info
  data : Bytes
deriving DecidableEq, Repr

namespace Snapshot

/-- The number of complete entries. -/
def count (snapshot : Snapshot) : Nat :=
  snapshot.data.length / 4

/-- Whether there is no complete entry. -/
def isEmpty (snapshot : Snapshot) : Bool :=
  snapshot.count == 0

/-- The entry at an index, if there is a complete one. -/
def entry? (snapshot : Snapshot) (index : Nat) : Option Binary32 :=
  match (snapshot.data.drop (4 * index)).take 4 with
  | [a, b, c, d] => some ⟨Word.decode [a, b, c, d]⟩
  | _ => Option.none

/-- A place in memory, if 64 bits can hold it. -/
def place? (number : Nat) : Option UInt64 :=
  if number < UInt64.size then some (.ofNat number) else Option.none

/-- The entry at an index of 64 bits, found by the places where its bytes begin and end. There is
none if 64 bits cannot hold these places. -/
def entryAt? (snapshot : Snapshot) (index : UInt64) : Option Binary32 := do
  let start ← place? (index.toNat * 4)
  let stop ← place? (start.toNat + 4)
  if stop.toNat ≤ snapshot.data.length then
    some ⟨Word.decode ((snapshot.data.drop start.toNat).take 4)⟩
  else Option.none

/-- All complete entries, in order. -/
def entries (snapshot : Snapshot) : List Binary32 :=
  (Word.words snapshot.data).map Binary32.mk

end Snapshot

end ManagementUnit.PowerTable
