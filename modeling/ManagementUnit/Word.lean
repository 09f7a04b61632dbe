/-!
# Words on the wire

The driver's files carry 32-bit words as four bytes, least significant byte first. `Word.encode`
writes a word so, `Word.decode` reads the number that a run of bytes denotes, and `Word.words` cuts
a run of bytes into the words it holds.

* `Word.decode_encode`, `Word.encode_decode` — the two are inverse on words and on four-byte texts.
* `Word.length_words` — a text holds a quarter as many words as bytes, a last partial word not
  counted.
-/

namespace ManagementUnit

/-- Bytes in the order in which they travel. -/
abbrev Bytes := List UInt8

namespace Word

/-- The four bytes of a word, least significant first. -/
def encode (word : UInt32) : Bytes :=
  [word.toUInt8, (word >>> 8).toUInt8, (word >>> 16).toUInt8, (word >>> 24).toUInt8]

/-- The number written by `bytes`, least significant first; bytes beyond the fourth do not count. -/
def decode : Bytes → UInt32
  | [] => 0
  | byte :: bytes => byte.toUInt32 + 256 * decode bytes

/-- The words that `bytes` holds, in order. A rest of fewer than four bytes is no word. -/
def words : Bytes → List UInt32
  | a :: b :: c :: d :: bytes => decode [a, b, c, d] :: words bytes
  | _ => []

@[simp] theorem length_encode (word : UInt32) : (encode word).length = 4 := rfl

theorem toNat_decode_four (a b c d : UInt8) :
    (decode [a, b, c, d]).toNat
      = a.toNat + 256 * (b.toNat + 256 * (c.toNat + 256 * d.toNat)) := by
  have ha := a.toNat_lt
  have hb := b.toNat_lt
  have hc := c.toNat_lt
  have hd := d.toNat_lt
  simp only [decode, UInt32.toNat_add, UInt32.toNat_mul, UInt8.toNat_toUInt32,
    UInt32.toNat_zero, UInt32.reduceToNat]
  omega

@[simp] theorem decode_encode (word : UInt32) : decode (encode word) = word := by
  apply UInt32.toNat_inj.mp
  have h := word.toNat_lt
  simp only [encode, toNat_decode_four, UInt32.toNat_toUInt8, UInt32.toNat_shiftRight,
    UInt32.reduceToNat, Nat.shiftRight_eq_div_pow, Nat.reduceMod, Nat.reducePow]
  omega

theorem encode_decode {bytes : Bytes} (h : bytes.length = 4) : encode (decode bytes) = bytes := by
  match bytes, h with
  | [a, b, c, d], _ =>
    have ha := a.toNat_lt
    have hb := b.toNat_lt
    have hc := c.toNat_lt
    have hd := d.toNat_lt
    simp only [encode, List.cons.injEq, and_true]
    refine ⟨?_, ?_, ?_, ?_⟩ <;> apply UInt8.toNat_inj.mp <;>
      simp only [UInt32.toNat_toUInt8, UInt32.toNat_shiftRight, toNat_decode_four,
        UInt32.reduceToNat, Nat.shiftRight_eq_div_pow, Nat.reduceMod, Nat.reducePow] <;> omega

theorem length_words (bytes : Bytes) : (words bytes).length = bytes.length / 4 := by
  fun_induction words bytes with
  | case1 a b c d bytes ih => simp [ih]; omega
  | case2 bytes h =>
    match bytes, h with
    | [], _ => rfl
    | [_], _ => simp
    | [_, _], _ => simp
    | [_, _, _], _ => simp
    | a :: b :: c :: d :: r, h => exact absurd rfl (h a b c d r)

end Word

end ManagementUnit
