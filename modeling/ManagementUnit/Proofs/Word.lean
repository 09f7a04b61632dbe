import Mathlib.Algebra.Group.Nat.Defs
import ManagementUnit.Word

/-!
# Bytes of words

A text of words has a slot of four bytes for each word. The least significant byte of the word comes
first in it.

* `Word.getElem?_encode` — the bytes of a word.
* `Word.slot_flatMap_encode` — the slots of a text that is made of words.
* `Word.ext_slot` — a text is known by its slots.
* `Word.getElem?_words`, `Word.flatMap_encode_words` — the words of a text are those of its full
  slots, and the text is them and what is left over.
-/

namespace ManagementUnit.Word

/-- A byte of a word, counted from the least significant one. -/
def byte (word : UInt32) (place : Nat) : UInt8 :=
  UInt8.ofNat (word.toNat / 256 ^ place)

/-- The four bytes that a text has for the word at an index, fewer at the end of the text. -/
def slot (bytes : Bytes) (index : Nat) : Bytes :=
  (bytes.drop (4 * index)).take 4

variable {bytes other : Bytes} {index place : Nat}

theorem getElem?_encode (word : UInt32) (inside : place < 4) :
    (encode word)[place]? = some (byte word place) := by
  have bytes_eq : encode word = [byte word 0, byte word 1, byte word 2, byte word 3] := by
    simp only [encode, byte, List.cons.injEq, and_true]
    refine ⟨?_, ?_, ?_, ?_⟩ <;> apply UInt8.toNat_inj.mp <;>
      simp [UInt32.toNat_shiftRight, Nat.shiftRight_eq_div_pow]
  rw [bytes_eq]
  obtain rfl | rfl | rfl | rfl : place = 0 ∨ place = 1 ∨ place = 2 ∨ place = 3 := by omega
  all_goals rfl

/-! ### Slots -/

theorem getElem?_slot (bytes : Bytes) (index : Nat) (inside : place < 4) :
    (slot bytes index)[place]? = bytes[4 * index + place]? := by
  rw [slot, List.getElem?_take_of_lt inside, List.getElem?_drop]

theorem length_slot (full : 4 * index + 4 ≤ bytes.length) : (slot bytes index).length = 4 := by
  rw [slot, List.length_take, List.length_drop]
  omega

theorem slot_of_length_le (beyond : bytes.length ≤ 4 * index) : slot bytes index = [] := by
  rw [slot, List.drop_of_length_le beyond]
  rfl

/-- Every byte of a text is in one of its slots. -/
theorem ext_slot (same : ∀ index, slot bytes index = slot other index) : bytes = other := by
  apply List.ext_getElem?
  intro position
  have inside : position % 4 < 4 := Nat.mod_lt position (by decide)
  rw [← Nat.div_add_mod position 4, ← getElem?_slot bytes _ inside, ← getElem?_slot other _ inside,
    same]

/-- What follows a text does not change its full slots. -/
theorem slot_append_left (full : 4 * index + 4 ≤ bytes.length) :
    slot (bytes ++ other) index = slot bytes index := by
  rw [slot, slot, List.drop_append_of_le_length (by omega),
    List.take_append_of_le_length (by rw [List.length_drop]; omega)]

theorem length_flatMap_encode (words : List UInt32) :
    (words.flatMap encode).length = 4 * words.length := by
  rw [List.length_flatMap]
  simp only [length_encode, List.map_const', List.sum_replicate_nat, Nat.mul_comm]

/-- Each word takes one slot. -/
theorem slot_flatMap_encode (words : List UInt32) {index : Nat} (inside : index < words.length) :
    slot (words.flatMap encode) index = encode words[index] := by
  induction words generalizing index with
  | nil => cases inside
  | cons word words ih =>
      cases index with
      | zero => rfl
      | succ index => exact ih (Nat.lt_of_succ_lt_succ inside)

/-! ### Words -/

theorem length_lt_of_words_eq_nil (wordless : words bytes = []) : bytes.length < 4 := by
  have counted := length_words bytes
  rw [wordless, List.length_nil] at counted
  omega

/-- The words of a text are those of its full slots. -/
theorem getElem?_words (bytes : Bytes) (index : Nat) :
    (words bytes)[index]? =
      if 4 * index + 4 ≤ bytes.length then some (decode (slot bytes index)) else none := by
  fun_induction words bytes generalizing index with
  | case1 a b c d bytes ih =>
      cases index with
      | zero => rw [if_pos (by simp)]; rfl
      | succ index =>
          have behind : slot (a :: b :: c :: d :: bytes) (index + 1) = slot bytes index := rfl
          rw [List.getElem?_cons_succ, ih, behind]
          simp only [List.length_cons, Nat.mul_add, Nat.mul_one, Nat.add_le_add_iff_right]
  | case2 bytes partly =>
      have few := length_lt_of_words_eq_nil (words.eq_2 bytes partly)
      rw [if_neg (by omega)]
      rfl

/-- A text is its words and what is left over. -/
theorem flatMap_encode_words (bytes : Bytes) :
    (words bytes).flatMap encode ++ bytes.drop (bytes.length - bytes.length % 4) = bytes := by
  fun_induction words bytes with
  | case1 a b c d bytes ih =>
      have places : (a :: b :: c :: d :: bytes).length - (a :: b :: c :: d :: bytes).length % 4
          = bytes.length - bytes.length % 4 + 4 := by
        simp only [List.length_cons]
        omega
      have word : encode (decode [a, b, c, d]) = [a, b, c, d] := encode_decode rfl
      rw [places, List.flatMap_cons, word]
      simpa only [List.cons_append, List.nil_append, List.drop_succ_cons, List.cons.injEq,
        true_and] using ih
  | case2 bytes partly =>
      have few := length_lt_of_words_eq_nil (words.eq_2 bytes partly)
      rw [Nat.mod_eq_of_lt few, Nat.sub_self]
      rfl

end ManagementUnit.Word
