import ManagementUnit.ArgumentBlock
import ManagementUnit.Proofs.Word

/-!
# Argument blocks on the wire

Blocks and texts of 24 bytes are the same thing written in two ways. Storing words in a block
changes the slots at which they are stored.

* `ArgumentBlock.decode_encode`, `ArgumentBlock.encode_decode` — a block is read back from its
  bytes, and 24 bytes from their block.
* `ArgumentBlock.exists_storeAll` — the words of a block after a run of stores.
* `ArgumentBlock.storeAll_eq_error` — a run of stores is refused where it leaves the block.
-/

namespace ManagementUnit.ArgumentBlock

variable {block : ArgumentBlock} {bytes : Bytes} {index : Nat}

/-! ### Bytes -/

theorem slot_encode (block : ArgumentBlock) (inside : index < 6) :
    Word.slot block.encode index = Word.encode block.words[index] := by
  have bound : index < block.words.toList.length := by simpa using inside
  rw [encode, Word.slot_flatMap_encode block.words.toList bound, Vector.getElem_toList]

theorem words_decode (bytes : Bytes) (inside : index < 6) :
    (decode bytes).words[index] = Word.decode (Word.slot bytes index) := by
  simp only [decode, Word.slot, Vector.getElem_ofFn]

theorem decode_encode (block : ArgumentBlock) : decode block.encode = block := by
  have words : (decode block.encode).words = block.words := by
    apply Vector.ext
    intro index inside
    rw [words_decode block.encode inside, slot_encode block inside, Word.decode_encode]
  exact congrArg mk words

theorem encode_decode (full : bytes.length = size) : (decode bytes).encode = bytes := by
  have bound : bytes.length = 24 := full
  apply Word.ext_slot
  intro index
  by_cases inside : index < 6
  · have whole : (Word.slot bytes index).length = 4 := Word.length_slot (by omega)
    rw [slot_encode _ inside, words_decode bytes inside, Word.encode_decode whole]
  · have beyond := (decode bytes).length_encode
    rw [size] at beyond
    rw [Word.slot_of_length_le (by omega), Word.slot_of_length_le (by omega)]

theorem getElem?_encode (block : ArgumentBlock) (inside : index < 6) {place : Nat}
    (within : place < 4) :
    block.encode[4 * index + place]? = some (Word.byte block.words[index] place) := by
  rw [← Word.getElem?_slot block.encode index within, slot_encode block inside,
    Word.getElem?_encode _ within]

/-! ### Stores -/

variable {word : UInt32} {stores rest : List (Nat × UInt32)}

theorem store_of_lt (block : ArgumentBlock) (inside : index < 6) (word : UInt32) :
    block.store index word = .ok ⟨block.words.set index word⟩ :=
  dif_pos inside

theorem store_of_le (block : ArgumentBlock) (outside : 6 ≤ index) (word : UInt32) :
    block.store index word = .error ⟨index⟩ :=
  dif_neg (Nat.not_lt.mpr outside)

theorem storeAll_cons (block : ArgumentBlock) (store : Nat × UInt32) :
    block.storeAll (store :: stores) =
      (block.store store.1 store.2).bind fun next => next.storeAll stores :=
  rfl

/-- The word that a run of stores leaves at an index, if there is one: the last one stored there. -/
def lastStored? (stores : List (Nat × UInt32)) (index : Nat) : Option UInt32 :=
  stores.reverse.lookup index

theorem lastStored?_cons (store : Nat × UInt32) (stores : List (Nat × UInt32)) (index : Nat) :
    lastStored? (store :: stores) index =
      (lastStored? stores index).or (if store.1 = index then some store.2 else none) := by
  obtain ⟨place, word⟩ := store
  rw [lastStored?, List.reverse_cons, List.lookup_append, lastStored?]
  congr 1
  by_cases here : place = index
  · simp [here]
  · have elsewhere : (index == place) = false := beq_eq_false_iff_ne.mpr (Ne.symm here)
    simp [List.lookup_cons, elsewhere, here]

/-- Stores inside a block are all done, and the last one at each index counts. -/
theorem exists_storeAll (block : ArgumentBlock) (inside : ∀ store ∈ stores, store.1 < 6) :
    ∃ result, block.storeAll stores = .ok result ∧
      ∀ (index : Nat) (_ : index < 6),
        result.words[index] = (lastStored? stores index).getD block.words[index] := by
  induction stores generalizing block with
  | nil => exact ⟨block, rfl, fun _ _ => rfl⟩
  | cons store stores ih =>
      obtain ⟨first, others⟩ := List.forall_mem_cons.mp inside
      obtain ⟨result, stored, words⟩ := ih ⟨block.words.set store.1 store.2⟩ others
      refine ⟨result, ?_, fun index bound => ?_⟩
      · rw [storeAll_cons, store_of_lt block first]
        exact stored
      -- The first store counts at its index only if no later one overwrites it.
      · rw [words index bound, lastStored?_cons, Vector.getElem_set]
        cases lastStored? stores index with
        | some word => rfl
        | none => split <;> rfl

/-- Stores are refused at the first index outside the block, whatever comes after it. -/
theorem storeAll_eq_error (block : ArgumentBlock) (inside : ∀ store ∈ stores, store.1 < 6)
    (outside : 6 ≤ index) :
    block.storeAll (stores ++ (index, word) :: rest) = .error ⟨index⟩ := by
  induction stores generalizing block with
  | nil =>
      rw [List.nil_append, storeAll_cons, store_of_le block outside]
      rfl
  | cons store stores ih =>
      obtain ⟨first, others⟩ := List.forall_mem_cons.mp inside
      rw [List.cons_append, storeAll_cons, store_of_lt block first]
      exact ih _ others

end ManagementUnit.ArgumentBlock
