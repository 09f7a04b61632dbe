import ManagementUnit.PowerTable.Pattern
import ManagementUnit.Proofs.Binary32
import ManagementUnit.Proofs.Word

/-!
# Entries of the counting pattern

A table with the counting pattern has the size that was asked for, and its entries are the numbers
0, 1, 2 and so on, without any rounding as long as the significand has room for all digits.

* `PowerTable.slot_pattern` — the bytes of an entry.
* `PowerTable.pattern_counts` — what the table holds, for every size.
-/

namespace ManagementUnit.PowerTable

variable {size index : Nat}

/-- The number at an index of a table. -/
def entry (table : Bytes) (index : Nat) : Binary32 :=
  ⟨Word.decode (Word.slot table index)⟩

/-- The words of the numbers below a limit. -/
def counting (limit : Nat) : List UInt32 :=
  (List.range limit).map fun index => (Binary32.ofNat index).bits

theorem pattern_eq (size : Nat) :
    pattern size = (counting (size / 4)).flatMap Word.encode ++ List.replicate (size % 4) 0 := by
  rw [pattern, counting, List.flatMap_map]

/-- The complete entries take all bytes but the last few. -/
theorem length_counting (size : Nat) :
    ((counting (size / 4)).flatMap Word.encode).length = size - size % 4 := by
  rw [Word.length_flatMap_encode, counting, List.length_map, List.length_range]
  omega

theorem length_pattern (size : Nat) : (pattern size).length = size := by
  rw [pattern_eq, List.length_append, length_counting, List.length_replicate]
  omega

theorem drop_pattern (size : Nat) :
    (pattern size).drop (size - size % 4) = List.replicate (size % 4) 0 := by
  rw [pattern_eq, List.drop_left' (length_counting size)]

theorem slot_pattern (inside : index < size / 4) :
    Word.slot (pattern size) index = Word.encode (Binary32.ofNat index).bits := by
  have full : 4 * index + 4 ≤ ((counting (size / 4)).flatMap Word.encode).length := by
    rw [length_counting]
    omega
  have bound : index < (counting (size / 4)).length := by
    rw [counting, List.length_map, List.length_range]
    exact inside
  rw [pattern_eq, Word.slot_append_left full, Word.slot_flatMap_encode _ bound]
  simp only [counting, List.getElem_map, List.getElem_range]

theorem entry_pattern (inside : index < size / 4) :
    entry (pattern size) index = Binary32.ofNat index := by
  rw [entry, slot_pattern inside, Word.decode_encode]

/-- A table of the given size in bytes that counts its entries. Every entry is its own index, which
has an exact representation up to `2 ^ 24`, and so the words of the entries increase. The last
bytes, which make no entry, are zero. -/
structure Counts (table : Bytes) (size : Nat) : Prop where
  length_eq : table.length = size
  rest_eq : table.drop (size - size % 4) = List.replicate (size % 4) 0
  represents : ∀ index, index < size / 4 → index ≤ 2 ^ 24 → (entry table index).Represents index
  bits_lt : ∀ earlier later, earlier < later → later < size / 4 → later ≤ 2 ^ 24 →
    (entry table earlier).bits < (entry table later).bits

theorem represents_entry_pattern (inside : index < size / 4) (small : index ≤ 2 ^ 24) :
    (entry (pattern size) index).Represents index := by
  rw [entry_pattern inside]
  exact Binary32.represents_ofNat (Nat.lt_of_le_of_lt small (by decide))
    (Binary32.short_of_le small)

/-- The pattern of every size is as large as that and counts its entries. -/
theorem pattern_counts (size : Nat) : Counts (pattern size) size where
  length_eq := length_pattern size
  rest_eq := drop_pattern size
  represents _ inside small := represents_entry_pattern inside small
  bits_lt earlier later lt inside small := by
    have first : (entry (pattern size) earlier).Represents earlier :=
      represents_entry_pattern (Nat.lt_trans lt inside) (Nat.le_trans (Nat.le_of_lt lt) small)
    exact first.lt (represents_entry_pattern inside small) lt

example : pattern 11 = [0, 0, 0, 0, 0, 0, 0x80, 0x3F, 0, 0, 0] := by decide

/-- The entry at `2 ^ 24` has one digit more than a significand; three bytes are left after it. -/
theorem pattern_counts_widest :
    (2 ^ 24 < (2 ^ 26 + 7) / 4 ∧ 2 ^ 24 - 1 < 2 ^ 24) ∧
      Counts (pattern (2 ^ 26 + 7)) (2 ^ 26 + 7) ∧
      (entry (pattern (2 ^ 26 + 7)) (2 ^ 24)).Represents (2 ^ 24) ∧
      entry (pattern (2 ^ 26 + 7)) (2 ^ 24) = ⟨0x4B800000⟩ ∧
      (entry (pattern (2 ^ 26 + 7)) (2 ^ 24 - 1)).bits <
        (entry (pattern (2 ^ 26 + 7)) (2 ^ 24)).bits := by
  have counts := pattern_counts (2 ^ 26 + 7)
  have inside : 2 ^ 24 < (2 ^ 26 + 7) / 4 := by decide
  have below : 2 ^ 24 - 1 < 2 ^ 24 := by decide
  exact ⟨⟨inside, below⟩, counts, counts.represents (2 ^ 24) inside (Nat.le_refl _),
    entry_pattern inside, counts.bits_lt (2 ^ 24 - 1) (2 ^ 24) below inside (Nat.le_refl _)⟩

end ManagementUnit.PowerTable
