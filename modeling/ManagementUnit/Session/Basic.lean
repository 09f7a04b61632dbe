import ManagementUnit.Detection

/-!
# Sessions

A session is what a client keeps between requests: the capabilities of the platform and the request
channels that are open. It starts out zero. `Session.connect` fills it and `Session.disconnect`
makes it zero again.

A connection that fails keeps the channels that were opened before the failure, until the session is
disconnected, released or connected again.
-/

namespace ManagementUnit

/-- A client's session with the driver: what was detected, a handle for each channel that is open,
and whether a connection was completed. -/
structure Session where
  capabilities : Capabilities
  smn : Option Handle
  smuCmd : Option Handle
  smuArgs : Option Handle
  pmTable : Option Handle
  ready : Bool
deriving DecidableEq, Repr

namespace Session

/-- A session that holds nothing. -/
def zero : Session := ⟨.zero, none, none, none, none, false⟩

/-- Whether the power table can be read on this platform. -/
def tableSupported (session : Session) : Bool :=
  session.capabilities.table.supported

/-- The open channels, in the order in which they are closed. -/
def handles (session : Session) : List Handle :=
  session.smn.toList ++ session.smuCmd.toList ++ session.smuArgs.toList ++ session.pmTable.toList

/-- The open channels as a set. -/
def channels (session : Session) : ChannelSet :=
  (ChannelSet.when session.smn.isSome .smn)
    |>.union (.when session.smuCmd.isSome .smuCmd)
    |>.union (.when session.smuArgs.isSome .smuArgs)
    |>.union (.when session.pmTable.isSome .pmTable)

/-- The session with one more channel, the one of the handle's file. -/
def hold (session : Session) (handle : Handle) : Session :=
  match handle.node with
  | .smn => { session with smn := some handle }
  | .smuCmd => { session with smuCmd := some handle }
  | .smuArgs => { session with smuArgs := some handle }
  | .pmTable => { session with pmTable := some handle }
  | _ => session

/-- Closes the open channels of a session that is given up. Nothing is logged. -/
def release (session : Session) : Dialogue Unit :=
  Dialogue.closeAll session.handles

/-- Closes the open channels and makes the session zero. On a session without open channels this
neither logs nor calls anything. -/
def disconnect (session : Session) : Dialogue Session := do
  unless session.channels.isEmpty do
    Dialogue.note (.closing session.channels)
  session.release
  return zero

/-- The request channels of a platform, in the order in which they are opened. The power table is
among them only where it can be read. -/
def requestNodes (capabilities : Capabilities) : List Node :=
  [.smn, .smuCmd, .smuArgs] ++ if capabilities.table.supported then [.pmTable] else []

/-- Opens channels one after the other, up to the first that is refused. The session keeps those
opened before. -/
def openChannels : List Node → Session → Dialogue (Except Error Unit × Session)
  | [], session => return (.ok (), session)
  | node :: nodes, session => do
    match ← node.acquire with
    | .ok handle => openChannels nodes (session.hold handle)
    | .error reason =>
      Dialogue.note (.channelRefused node reason)
      return (.error .transferFailed, session)

/-- Logs that a session is ready. -/
def announce (capabilities : Capabilities) : Dialogue Unit := do
  Dialogue.note (.ready capabilities.codename capabilities.version)
  if capabilities.table.supported then
    Dialogue.note (.tableReady capabilities.table)
  else
    Dialogue.note .tableUnsupported

/-- Connects anew: disconnects, detects the capabilities and opens the request channels. If the
detection fails the session stays zero. -/
def connect (session : Session) : Dialogue (Except Error Unit × Session) := do
  let session ← session.disconnect
  match ← Capabilities.detect.run with
  | .error error => return (.error error, session)
  | .ok capabilities =>
    match ← openChannels (requestNodes capabilities) { session with capabilities } with
    | (.error error, session) => return (.error error, session)
    | (.ok (), session) =>
      announce capabilities
      return (.ok (), { session with ready := true })

/-- A new connected session. If the connection fails, what it had opened is closed again. -/
def start : Attempt Session :=
  ExceptT.mk do
    match ← zero.connect with
    | (.ok (), session) => return .ok session
    | (.error error, session) =>
      session.release
      return .error error

end Session

end ManagementUnit
