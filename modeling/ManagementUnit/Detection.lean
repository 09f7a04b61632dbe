import ManagementUnit.Transfer

/-!
# Detecting capabilities

Before any request the driver's descriptive files are read, each closed before the next is opened:

1. `version` has to exist and to begin with a version,
2. `codename` has to exist and to name a supported family,
3. `pm_table_version` may be absent, and then the platform has no power tables,
4. `pm_table_size` has to exist wherever a table version does.
-/

namespace ManagementUnit

/-- Opens a file in the access mode that is its own. -/
def Node.acquire (node : Node) : Dialogue (Except IoError Handle) :=
  Dialogue.acquire node node.access

namespace Capabilities

/-- Opens a file that every driver has. -/
def acquireDescription (node : Node) : Attempt Handle := do
  match ← node.acquire with
  | .ok handle => return handle
  | .error reason => Attempt.fail (.undescribed node reason) .driverAbsent

/-- What a descriptive file tells: its text, up to `limit` bytes, as `parse` reads it. A text that
cannot be read is logged as `malformed`. -/
def describe {α : Type} (node : Node) (limit : Nat) (parse : Bytes → Except Error α)
    (malformed : Bytes → Notice) : Attempt α := do
  let handle ← acquireDescription node
  handle.closing do
    let text ← handle.readSome limit
    match parse text with
    | .ok value => return value
    | .error error => Attempt.fail (malformed text) error

/-- The firmware version. -/
def detectVersion : Attempt Version :=
  describe .version Version.textLimit Version.parse .malformedVersion

/-- The processor family. -/
def detectCodename : Attempt Codename :=
  describe .codename Codename.textLimit Codename.parse .unsupportedCodename

/-- The metadata of the power table, none where its version is absent. -/
def detectTable : Attempt PowerTable.Info := do
  match ← Node.pmTableVersion.acquire with
  | .error reason =>
    Dialogue.note (.tableUndescribed reason)
    return .none
  | .ok handle =>
    let version ← handle.closing (handle.readBlock 4)
    match ← Node.pmTableSize.acquire with
    | .error reason => Attempt.fail (.tableSizeMissing reason) .transferFailed
    | .ok handle =>
      let size ← handle.closing (handle.readBlock 4)
      return .decode version size

/-- What the driver's descriptive files tell. -/
def detect : Attempt Capabilities := do
  let version ← detectVersion
  let codename ← detectCodename
  let table ← detectTable
  return ⟨version, codename, table⟩

end Capabilities

end ManagementUnit
