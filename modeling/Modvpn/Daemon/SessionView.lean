/-
# The session logic in its own terms

Of everything the daemon shares, four things carry the life of a session: the
rows of the session table, the status in memory, the commands given to the
tunnel, and the sessions reported to the server as connected. This module says
what one event does to these four while the database works. It is the abstract
counterpart of the event handlers; that they agree is proved in
`Modvpn.Analysis.Daemon.Handling`.

An event without an outcome is one the daemon does not survive.
-/

import Modvpn.Daemon.Handlers

namespace Modvpn

namespace Entity.VpnSession

/-- The texts in a row are the ones the daemon writes. -/
def WellFormed (row : VpnSession) : Prop :=
  (∃ requestId : Uuid, row.requestId = requestId.toText) ∧
    ∀ text, row.sessionUuid = some text → ∃ sessionUuid : Uuid, text = sessionUuid.toText

/-- The first row no end-session has claimed. -/
def current (rows : List VpnSession) : Option VpnSession :=
  (unmarked rows).head?

/-- The row a server status is about, unless it is claimed. -/
def currentById (requestId : Uuid) (rows : List VpnSession) : Option VpnSession :=
  (unmarked rows).find? (·.requestId = requestId.toText)

/-- Claim the current row. -/
def markCurrent (rows : List VpnSession) : List VpnSession :=
  match current rows with
  | none => rows
  | some row => updateById row.requestId mark rows

/-- The session a row stands for, once the server accepted it. -/
def sessionInfo (row : VpnSession) : Option SessionInfo := do
  let requestId ← Uuid.parseStr row.requestId
  let vpnSessionId ← Uuid.parseStr (← row.sessionUuid)
  return { requestId, vpnSessionId }

end Entity.VpnSession

/-- The session table, the status, and what tunnel and server were told. -/
structure SessionView where
  rows : List Entity.VpnSession
  status : VpnStatus
  commands : List TunnelCommand
  clients : List SessionInfo

/-- A status in which disconnecting commands the tunnel to stop. -/
def VpnStatus.isUp : VpnStatus → Bool
  | .serverReady _ | .connecting _ | .connected _ _ => true
  | _ => false

/-- The session a spawned task reports as connected. -/
def Task.client : Task → Option SessionInfo
  | .clientConnected sessionInfo => some sessionInfo
  | _ => none

def World.view (world : World) : SessionView where
  rows := world.vpnSession
  status := world.state.vpnStatus
  commands := world.tunnelCommands
  clients := world.spawned.filterMap Task.client

@[simp]
theorem World.view_rows (world : World) : world.view.rows = world.vpnSession := rfl

@[simp]
theorem World.view_status (world : World) : world.view.status = world.state.vpnStatus := rfl

@[simp]
theorem World.view_commands (world : World) : world.view.commands = world.tunnelCommands := rfl

namespace SessionView

open Entity (VpnSession)

def connect (env : Env) (location : Location) (view : SessionView) : SessionView :=
  if view.status ≠ .disconnected then view
  else if VpnSession.hasId env.uuid.toText view.rows then view
  else
    match env.newSession with
    | .ok accepted =>
        { view with
          rows := VpnSession.updateById accepted.requestId.toText
            (.setAccepted accepted.vpnSessionUuid)
            (view.rows ++ [VpnSession.requested env.uuid location])
          status := .accepted location }
    | .error _ => view

def disconnect (view : SessionView) : SessionView :=
  { view with
    rows := VpnSession.markCurrent view.rows
    status := DaemonState.statusOnDisconnect view.status
    commands := if view.status.isUp then view.commands ++ [.disconnect] else view.commands }

/-- The columns a server status writes, for a status that keeps the row. -/
def statusUpdate : VpnSessionStatus → Option Entity.VpnSessionPatch
  | .accepted _ => some (VpnSessionStorage.statusPatch .accepted)
  | .serverCreated _ => some (VpnSessionStorage.statusPatch .serverCreated)
  | .serverRunning _ => some (VpnSessionStorage.statusPatch .serverRunning)
  | .serverReady serverReady => some
      { serverStatus := some StorageServerStatus.serverReady.toText
        serverIpv4Endpoint := some serverReady.ipv4Endpoint.toText
        serverPrivateIpv4 := some serverReady.privateIpv4.toText
        serverPublicKey := some serverReady.publicKey }
  | .clientConnected _ => some (VpnSessionStorage.statusPatch .clientConnected)
  | .failed _ | .ended _ => none

/-- The status in memory after a server status about a row in this location. -/
def statusAfter (location : Location) : VpnSessionStatus → Option VpnStatus
  | .serverCreated _ => some (.serverCreated location)
  | .serverRunning _ => some (.serverRunning location)
  | .serverReady _ => some (.serverReady location)
  | .failed _ | .ended _ => some .disconnected
  | .accepted _ | .clientConnected _ => none

/-- The server has built what the tunnel connects to. -/
def isServerReady : VpnSessionStatus → Bool
  | .serverReady _ => true
  | _ => false

def serverStatus (status : VpnSessionStatus) (view : SessionView) : SessionView :=
  match VpnSession.currentById (VpnSessionStorage.getSessionInfo status).requestId view.rows with
  | none => view
  | some row =>
      { view with
        rows :=
          match statusUpdate status with
          | some set => VpnSession.updateById row.requestId (·.patch set) view.rows
          | none => VpnSession.deleteById row.requestId view.rows
        status := (statusAfter row.toLocation status).getD view.status
        commands :=
          if isServerReady status then view.commands ++ [.connect] else view.commands }

def transition (now : DateTimeUtc) (transition : TunnelStateTransition) (view : SessionView) :
    Option SessionView :=
  match transition, VpnSession.current view.rows with
  | .disconnected, _ => some { view with status := .disconnected }
  | .connecting, some row => some { view with status := .connecting row.toLocation }
  | .connecting, none => some { view with status := .disconnected }
  | .connected, some row =>
      match row.sessionInfo with
      | some info => some { view with
          rows := VpnSession.updateById row.requestId
            (·.patch (VpnSessionStorage.statusPatch .clientConnected)) view.rows
          status := .connected row.toLocation now
          clients := view.clients ++ [info] }
      | none => none
  | .connected, none => some { view with status := .disconnected }
  | .disconnecting _, some row => some { view with status := .disconnecting row.toLocation }
  | .disconnecting _, none =>
      match view.status with
      | .disconnecting _ => some view
      | _ => none
  | .error _, _ => some { view with
      rows := VpnSession.markCurrent view.rows
      status := .disconnected
      commands := view.commands ++ [.disconnect] }

/-- What one event does. -/
def handle (env : Env) (event : DaemonEvent) (view : SessionView) : Option SessionView :=
  match event with
  | .command (.connect location) => some (view.connect env location)
  | .command .disconnect | .shutdown => some view.disconnect
  | .command _ => some view
  | .vpnSessionStatus status => some (view.serverStatus status)
  | .tunnelStateTransition transition => view.transition env.now transition

end SessionView

end Modvpn
