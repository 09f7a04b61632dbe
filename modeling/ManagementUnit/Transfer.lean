import ManagementUnit.Dialogue.Basic

/-!
# Transfers

The driver's files are registers, not streams: every transfer starts at the beginning of the file
and moves one block in one call. A call that fails, and a block that is not moved whole, ends the
attempt with `Error.transferFailed`, and the reason is logged.
-/

namespace ManagementUnit

/-- What came of reading a block: whether it was whole, and the bytes that were delivered. -/
structure Delivery where
  status : Except Error Unit
  bytes : Bytes

namespace Delivery

/-- The block, if it was delivered whole. -/
def block (delivery : Delivery) : Except Error Bytes :=
  delivery.status.map fun _ => delivery.bytes

/-- A buffer after the delivery: what was delivered lies at its front, the rest is as before. -/
def into (delivery : Delivery) (buffer : Bytes) : Bytes :=
  delivery.bytes ++ buffer.drop delivery.bytes.length

end Delivery

namespace Handle

variable {α : Type}

/-- Repositions at the start of the file. -/
def rewind (handle : Handle) : Attempt Unit := do
  match ← Dialogue.ask (.rewind handle) with
  | .ok () => return
  | .error reason => Attempt.fail (.rewindFailed handle.node reason) .transferFailed

/-- Writes a block. -/
def writeBlock (handle : Handle) (bytes : Bytes) : Attempt Unit := do
  handle.rewind
  match ← Dialogue.ask (.write handle bytes) with
  | .ok count =>
    if count = bytes.length then
      Dialogue.note (.wrote handle.node bytes)
    else
      Attempt.fail (.shortWrite handle.node count bytes.length) .transferFailed
  | .error reason => Attempt.fail (.writeFailed handle.node reason) .transferFailed

/-- Reads at most `limit` bytes. -/
def readSome (handle : Handle) (limit : Nat) : Attempt Bytes := do
  handle.rewind
  match ← Dialogue.ask (.read handle limit) with
  | .ok bytes =>
    Dialogue.note (.delivered handle.node bytes)
    return bytes
  | .error reason => Attempt.fail (.readFailed handle.node reason) .transferFailed

/-- Reads a block of `length` bytes and keeps what was delivered of one that is not whole. -/
def fill (handle : Handle) (length : Nat) : Dialogue Delivery := do
  match ← (handle.readSome length).run with
  | .ok bytes =>
    if bytes.length = length then
      return ⟨.ok (), bytes⟩
    else
      Dialogue.note (.shortRead handle.node bytes.length length)
      return ⟨.error .transferFailed, bytes⟩
  | .error error => return ⟨.error error, []⟩

/-- Reads a block of `length` bytes. -/
def readBlock (handle : Handle) (length : Nat) : Attempt Bytes :=
  ExceptT.mk (Delivery.block <$> handle.fill length)

/-- Closes the handle after an attempt, whatever came of it. -/
def closing (handle : Handle) (attempt : Attempt α) : Attempt α :=
  ExceptT.mk do
    let result ← attempt.run
    Dialogue.close handle
    return result

end Handle

end ManagementUnit
