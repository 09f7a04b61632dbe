import Mathlib.Data.List.Basic
import ManagementUnit.PowerTable.Snapshot
import ManagementUnit.Proofs.Word

/-!
# Entries of a snapshot

The entries of a snapshot can be had in two ways: one by one, by an index, and all at once, in
order. Both give the same words of the table, whatever its length, and no index reaches further than
the last complete entry, even where its place in memory is no number of 64 bits.

* `Snapshot.entry?_eq`, `Snapshot.entryAt?_eq` — the entry at an index is the one in the list.
* `Snapshot.accessors_agree` — what all accessors say of the data.
-/

namespace ManagementUnit.PowerTable.Snapshot

variable {snapshot : Snapshot} {index : Nat}

theorem length_entries (snapshot : Snapshot) : snapshot.entries.length = snapshot.count := by
  rw [entries, List.length_map, Word.length_words, count]

theorem lt_count_iff : index < snapshot.count ↔ 4 * index + 4 ≤ snapshot.data.length := by
  rw [count]
  omega

/-- The entries are the full slots of the data. -/
theorem getElem?_entries (snapshot : Snapshot) (index : Nat) :
    snapshot.entries[index]? =
      if index < snapshot.count then some ⟨Word.decode (Word.slot snapshot.data index)⟩
      else Option.none := by
  rw [entries, List.getElem?_map, Word.getElem?_words]
  simp only [lt_count_iff]
  split <;> rfl

/-! ### One by one -/

theorem entry?_eq (snapshot : Snapshot) (index : Nat) :
    snapshot.entry? index = snapshot.entries[index]? := by
  rw [getElem?_entries]
  unfold entry?
  rw [← Word.slot]
  split
  · rename_i a b c d slot
    have full : (Word.slot snapshot.data index).length = 4 := by rw [slot]; rfl
    have inside : index < snapshot.count := by
      rw [Word.slot, List.length_take, List.length_drop] at full
      exact lt_count_iff.mpr (by omega)
    rw [if_pos inside, slot]
  · rename_i partly
    have beyond : ¬ index < snapshot.count := by
      intro inside
      have whole := Word.length_slot (lt_count_iff.mp inside)
      obtain ⟨a, b, c, d, slot⟩ := List.length_eq_four.mp whole
      exact partly a b c d slot
    rw [if_neg beyond]

/-- A place that fits is found. -/
theorem place?_of_lt {number : Nat} (fits : number < UInt64.size) :
    place? number = some (.ofNat number) :=
  if_pos fits

theorem place?_of_le {number : Nat} (beyond : UInt64.size ≤ number) : place? number = Option.none :=
  if_neg (Nat.not_lt.mpr beyond)

/-- Where the data fits into memory, no entry is missed for its place. -/
theorem entryAt?_eq (fits : snapshot.data.length < UInt64.size) (index : UInt64) :
    snapshot.entryAt? index = snapshot.entries[index.toNat]? := by
  have beyond (large : UInt64.size ≤ index.toNat * 4 + 4) : ¬ index.toNat < snapshot.count := by
    rw [lt_count_iff]
    omega
  rw [getElem?_entries]
  unfold entryAt?
  by_cases starts : index.toNat * 4 < UInt64.size
  · rw [place?_of_lt starts, Option.bind_eq_bind, Option.bind_some,
      UInt64.toNat_ofNat_of_lt' starts]
    by_cases stops : index.toNat * 4 + 4 < UInt64.size
    · rw [place?_of_lt stops, Option.bind_some, UInt64.toNat_ofNat_of_lt' stops, Nat.mul_comm,
        Word.slot]
      simp only [lt_count_iff]
    · have past := Nat.not_lt.mp stops
      rw [place?_of_le past, if_neg (beyond past)]
      rfl
  · have past := Nat.not_lt.mp starts
    rw [place?_of_le past, if_neg (beyond (Nat.le_add_right_of_le past))]
    rfl

/-! ### All accessors -/

/-- What the accessors say of the data: the indices that have an entry are those below the number of
entries, and the entry is the one at that place of the list. The same goes for every index of 64
bits, also where its place in memory is no such number. An entry is a word of the data, its least
significant byte in front, and the data is its entries and the last few bytes that make no entry. -/
structure Coherent (snapshot : Snapshot) : Prop where
  count_eq : snapshot.count = snapshot.data.length / 4
  length_eq : snapshot.entries.length = snapshot.count
  isEmpty_iff : snapshot.isEmpty = true ↔ snapshot.data.length < 4
  isSome_iff : ∀ index, (snapshot.entry? index).isSome = true ↔ index < snapshot.count
  entry?_eq : ∀ index, snapshot.entry? index = snapshot.entries[index]?
  entryAt?_eq : snapshot.data.length < 2 ^ 64 → ∀ index : UInt64,
    snapshot.entryAt? index = snapshot.entry? index.toNat
  byte_eq : ∀ index entry, snapshot.entries[index]? = some entry → ∀ place, place < 4 →
    snapshot.data[4 * index + place]? = some (Word.byte entry.bits place)
  data_eq : snapshot.entries.flatMap (fun entry => Word.encode entry.bits) ++
    snapshot.data.drop (snapshot.data.length - snapshot.data.length % 4) = snapshot.data

/-- The bytes of an entry. -/
theorem byte_of_getElem?_entries {entry : Binary32} (found : snapshot.entries[index]? = some entry)
    {place : Nat} (inside : place < 4) :
    snapshot.data[4 * index + place]? = some (Word.byte entry.bits place) := by
  rw [getElem?_entries] at found
  split at found
  · rename_i within
    have full := Word.length_slot (lt_count_iff.mp within)
    rw [← Word.getElem?_slot _ _ inside, ← Option.some.inj found, ← Word.getElem?_encode _ inside,
      Word.encode_decode full]
  · cases found

/-- For every snapshot, by whatever accessor and at whatever index, the entries are the words of the
data. -/
theorem accessors_agree (snapshot : Snapshot) : snapshot.Coherent where
  count_eq := rfl
  length_eq := length_entries snapshot
  isEmpty_iff := by
    rw [isEmpty, beq_iff_eq, count]
    omega
  isSome_iff index := by
    rw [Snapshot.entry?_eq, isSome_getElem?, length_entries]
  entry?_eq := Snapshot.entry?_eq snapshot
  entryAt?_eq fits index := by
    rw [Snapshot.entryAt?_eq fits, Snapshot.entry?_eq]
  byte_eq _ _ found _ inside := byte_of_getElem?_entries found inside
  data_eq := by
    rw [entries, List.flatMap_map]
    exact Word.flatMap_encode_words snapshot.data

/-- A table of six bytes, one entry and a half. -/
def uneven : Snapshot := ⟨⟨1, 6⟩, [0, 0, 0x80, 0x3F, 7, 8]⟩

/-- At the index 2 ^ 62 the place would be that of the first entry if 64 bits wrapped around. -/
theorem accessors_agree_uneven :
    uneven.data.length < 2 ^ 64 ∧ uneven.Coherent ∧ uneven.entries = [⟨0x3F800000⟩] ∧
      uneven.entryAt? 0x4000000000000000 = uneven.entry? (0x4000000000000000 : UInt64).toNat ∧
      uneven.entryAt? 0x4000000000000000 = Option.none :=
  ⟨by decide, accessors_agree uneven, rfl,
    (accessors_agree uneven).entryAt?_eq (by decide) 0x4000000000000000, rfl⟩

end ManagementUnit.PowerTable.Snapshot
