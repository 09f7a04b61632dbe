import ManagementUnit.Word

/-!
# Argument blocks

Every command takes six words of arguments, and the firmware answers in the same block. On the wire
a block is its words one after the other.

* `ArgumentBlock.length_encode` — a block takes 24 bytes.
* `ArgumentBlock.store`, `ArgumentBlock.fetch` — a word is reached by its index below six; any other
  index is refused by name.
-/

namespace ManagementUnit

/-- The six words of arguments of a command, or of its response. -/
structure ArgumentBlock where
  words : Vector UInt32 6
deriving DecidableEq, Repr

namespace ArgumentBlock

/-- The bytes a block takes on the wire. -/
def size : Nat := 24

/-- A block of zeros. -/
def zero : ArgumentBlock := ⟨Vector.replicate 6 0⟩

/-- A block with a single argument. -/
def single (word : UInt32) : ArgumentBlock := ⟨zero.words.set 0 word⟩

/-- The bytes of a block, its words in order. -/
def encode (block : ArgumentBlock) : Bytes :=
  block.words.toList.flatMap Word.encode

/-- The block written by 24 bytes. -/
def decode (bytes : Bytes) : ArgumentBlock :=
  ⟨Vector.ofFn fun index => Word.decode ((bytes.drop (4 * index)).take 4)⟩

/-- An index at which a block has no word. -/
structure OutOfRange where
  index : Nat
deriving DecidableEq, Repr

/-- The text of a refused index. -/
def OutOfRange.message (refusal : OutOfRange) : String :=
  "index out of bounds: the len is 6 but the index is " ++ Nat.repr refusal.index

/-- The word at an index. -/
def fetch (block : ArgumentBlock) (index : Nat) : Except OutOfRange UInt32 :=
  if h : index < 6 then .ok block.words[index] else .error ⟨index⟩

/-- A block with another word at an index. -/
def store (block : ArgumentBlock) (index : Nat) (word : UInt32) :
    Except OutOfRange ArgumentBlock :=
  if h : index < 6 then .ok ⟨block.words.set index word⟩ else .error ⟨index⟩

/-- A block after storing words one after the other, up to the first index that is refused. -/
def storeAll (block : ArgumentBlock) (stores : List (Nat × UInt32)) :
    Except OutOfRange ArgumentBlock :=
  stores.foldlM (fun block (index, word) => block.store index word) block

theorem length_encode (block : ArgumentBlock) : block.encode.length = size := by
  simp [encode, List.length_flatMap, size, List.map_const']

end ArgumentBlock

end ManagementUnit
