import ManagementUnit.Proofs.ArgumentBlock
import ManagementUnit.RegisterRequest

/-!
# Formats of the request files

What goes into the request files is put together from words, and each word is found again at its
place: the six of an argument block, and the address and the value of a register request.

* `ArgumentBlock.laidOut` — where the bytes of a block are.
* `ArgumentBlock.overwritten` — what a run of stores does to these bytes.
* `RegisterRequest.recovered` — address and value are read off a request.
* `wire_roundtrips` — all of these, and both directions between texts and words.
-/

namespace ManagementUnit

namespace ArgumentBlock

/-- Where the bytes of a block are: the words follow one another, the least significant byte of each
in front. -/
structure LaidOut (block : ArgumentBlock) : Prop where
  length_eq : block.encode.length = 24
  byte_eq : ∀ (index place : Nat) (_ : index < 6), place < 4 →
    block.encode[4 * index + place]? = some (Word.byte block.words[index] place)
  decode_eq : decode block.encode = block

theorem laidOut (block : ArgumentBlock) : block.LaidOut where
  length_eq := block.length_encode
  byte_eq _ _ inside within := block.getElem?_encode inside within
  decode_eq := block.decode_encode

/-- What a run of stores does to a block. Stores inside the block are done: each slot has the last
word stored at its index, or the word that was there. With an index outside the block the run ends
at the first such store. -/
structure Overwritten (block : ArgumentBlock) (stores : List (Nat × UInt32)) : Prop where
  stored : (∀ store ∈ stores, store.1 < 6) → ∃ result, block.storeAll stores = .ok result ∧
    ∀ (index : Nat) (_ : index < 6), Word.slot result.encode index =
      Word.encode ((lastStored? stores index).getD block.words[index])
  refused : (∃ store ∈ stores, 6 ≤ store.1) → ∃ done index word rest reached,
    stores = done ++ (index, word) :: rest ∧ (∀ store ∈ done, store.1 < 6) ∧ 6 ≤ index ∧
    block.storeAll done = .ok reached ∧ reached.store index word = .error ⟨index⟩ ∧
    block.storeAll stores = .error ⟨index⟩

/-- Every store inside the block is done, so a run can only stop at the first one outside. -/
theorem overwritten (block : ArgumentBlock) (stores : List (Nat × UInt32)) :
    block.Overwritten stores where
  stored inside := by
    obtain ⟨result, stored, words⟩ := exists_storeAll block inside
    refine ⟨result, stored, fun index bound => ?_⟩
    rw [slot_encode result bound, words index bound]
  refused outside := by
    obtain ⟨store, member, beyond⟩ := outside
    -- The first store that leaves the block splits the run.
    have found : (stores.find? fun store => decide (6 ≤ store.1)).isSome = true :=
      List.find?_isSome.mpr ⟨store, member, decide_eq_true beyond⟩
    obtain ⟨⟨index, word⟩, first⟩ := Option.isSome_iff_exists.mp found
    obtain ⟨leaves, done, rest, rfl, inside⟩ := List.find?_eq_some_iff_append.mp first
    have bound : ∀ store ∈ done, store.1 < 6 := by
      intro store before
      simpa using inside store before
    have last : 6 ≤ index := of_decide_eq_true leaves
    obtain ⟨reached, stored, -⟩ := exists_storeAll block bound
    exact ⟨done, index, word, rest, reached, rfl, bound, last, stored,
      store_of_le reached last word, storeAll_eq_error block bound last⟩

end ArgumentBlock

namespace RegisterRequest

theorem value_select (address : UInt32) : value (select address) = address :=
  Word.decode_encode address

theorem select_value {bytes : Bytes} (four : bytes.length = 4) : select (value bytes) = bytes :=
  Word.encode_decode four

/-- What is read off a request to store: behind the selection of the address come the only four
bytes that have the value. So no other request looks the same. -/
structure Recovered (address word : UInt32) : Prop where
  layout : ∃ bytes : Bytes, store address word = select address ++ bytes ∧ bytes.length = 4 ∧
    ∀ other : Bytes, other.length = 4 → (value other = word ↔ other = bytes)
  address_eq : value ((store address word).take 4) = address
  word_eq : value ((store address word).drop 4) = word
  unique : ∀ other last : UInt32, store other last = store address word →
    other = address ∧ last = word

theorem value_take_store (address word : UInt32) : value ((store address word).take 4) = address :=
  value_select address

theorem value_drop_store (address word : UInt32) : value ((store address word).drop 4) = word :=
  value_select word

/-- The eight bytes of a request are two words, and each is read back from its own four bytes. -/
theorem recovered (address word : UInt32) : Recovered address word where
  layout := by
    refine ⟨Word.encode word, rfl, rfl, fun other four => ⟨?_, ?_⟩⟩
    · rintro rfl
      exact (select_value four).symm
    · rintro rfl
      exact value_select word
  address_eq := value_take_store address word
  word_eq := value_drop_store address word
  unique other last same := by
    constructor
    · rw [← value_take_store other last, same, value_take_store]
    · rw [← value_drop_store other last, same, value_drop_store]

end RegisterRequest

/-- Blocks and texts of 24 bytes correspond, and so do words and texts of four bytes; stores and
requests put each word at its place. -/
theorem wire_roundtrips :
    (∀ block : ArgumentBlock, block.LaidOut) ∧
    (∀ bytes : Bytes, bytes.length = 24 → (ArgumentBlock.decode bytes).encode = bytes) ∧
    (∀ (block : ArgumentBlock) (stores : List (Nat × UInt32)), block.Overwritten stores) ∧
    (∀ address word : UInt32, RegisterRequest.Recovered address word) ∧
    (∀ address : UInt32, RegisterRequest.value (RegisterRequest.select address) = address) ∧
    ∀ bytes : Bytes, bytes.length = 4 →
      RegisterRequest.select (RegisterRequest.value bytes) = bytes :=
  ⟨ArgumentBlock.laidOut, fun _ => ArgumentBlock.encode_decode, ArgumentBlock.overwritten,
    RegisterRequest.recovered, RegisterRequest.value_select,
    fun _ => RegisterRequest.select_value⟩

end ManagementUnit
