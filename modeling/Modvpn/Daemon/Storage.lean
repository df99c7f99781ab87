/-
# The session table as the daemon uses it

`VpnSessionStorage`, one database statement an operation. A lookup that the
source ends with `.one()` takes the first row that matches; nothing in the
source says that there is only one.
-/

import Modvpn.Daemon.World

namespace Modvpn

namespace VpnSessionStorage

/-- What a server status asks the daemon loop to do. -/
structure VpnSessionStatusProcessed where
  vpnStatus : Option VpnStatus
  notification : Option Notification

/-- What a tunnel transition asks the daemon loop to do. -/
structure TunnelTransitionProcessed where
  vpnStatus : VpnStatus
  tunnelCommand : Option TunnelCommand
  endSession : Option String
  notification : Option Notification
  clientConnected : Option SessionInfo

def newSession (location : Location) : Fallible DbErr Uuid := do
  let requestId ← ExceptT.lift (perform .newUuid)
  ExceptT.mk (perform (.insertVpnSession requestId location))
  return requestId

def endSession : Fallible DbErr (Option SessionInfo) := do
  let vpnSession ← ExceptT.mk (perform .findUnmarked)
  if let some vpnSession := vpnSession then
    ExceptT.mk (perform (.markForDeletion vpnSession.requestId))
    if let some vpnSessionUuid := vpnSession.sessionUuid then
      let requestId ← Fallible.parsed vpnSession.requestId
      let vpnSessionId ← Fallible.parsed vpnSessionUuid
      return some { requestId, vpnSessionId }
  return none

def reclaim : Fallible DbErr Unit :=
  ExceptT.mk (perform .markAllForDeletion)

/-- The identifiers of a marked row, if it has both. -/
def reclaimable (session : Entity.VpnSession) : Option SessionInfo := do
  let vpnSessionId ← session.sessionUuid.bind Uuid.parseStr
  let requestId ← Uuid.parseStr session.requestId
  return { requestId, vpnSessionId }

def toReclaim : Fallible DbErr (List SessionInfo) := do
  let sessions ← ExceptT.mk (perform .findMarked)
  return sessions.filterMap reclaimable

def updateOnAccepted (accepted : Accepted) : Fallible DbErr Unit :=
  ExceptT.mk (perform (.setAccepted accepted.requestId accepted.vpnSessionUuid))

def delete (requestId : Uuid) : Fallible DbErr Unit :=
  ExceptT.mk (perform (.deleteVpnSession requestId.toText))

def getSessionInfo : VpnSessionStatus → SessionInfo
  | .accepted accepted => ⟨accepted.requestId, accepted.vpnSessionUuid⟩
  | .failed failed => ⟨failed.requestId, failed.vpnSessionUuid⟩
  | .serverCreated serverCreated => ⟨serverCreated.requestId, serverCreated.vpnSessionUuid⟩
  | .serverRunning serverRunning => ⟨serverRunning.requestId, serverRunning.vpnSessionUuid⟩
  | .serverReady serverReady => ⟨serverReady.requestId, serverReady.vpnSessionUuid⟩
  | .clientConnected clientConnected =>
      ⟨clientConnected.requestId, clientConnected.vpnSessionUuid⟩
  | .ended ended => ⟨ended.requestId, ended.vpnSessionUuid⟩

/-- The row update a status makes, for the statuses that keep the row. -/
def statusPatch (status : StorageServerStatus) : Entity.VpnSessionPatch :=
  { serverStatus := some status.toText }

def updatedServerStatus (vpnSessionStatus : VpnSessionStatus) :
    Fallible DbErr VpnSessionStatusProcessed := do
  let sessionInfo := getSessionInfo vpnSessionStatus
  match ← ExceptT.mk (perform (.findUnmarkedById sessionInfo.requestId)) with
  | none => return { vpnStatus := none, notification := none }
  | some vpnSession =>
      let location := vpnSession.toLocation
      match vpnSessionStatus with
      | .accepted _ =>
          ExceptT.mk (perform (.updateVpnSession vpnSession.requestId (statusPatch .accepted)))
          return { vpnStatus := none, notification := none }
      | .failed _ =>
          ExceptT.mk (perform (.deleteVpnSession vpnSession.requestId))
          let timestamp ← ExceptT.lift (perform .utcNow)
          return {
            vpnStatus := some .disconnected
            notification := some {
              id := "failed-" ++ sessionInfo.requestId.toText
              message := "Server could not be provisioned, please try again later"
              notificationType := .serverFailed
              timestamp } }
      | .serverCreated _ =>
          ExceptT.mk
            (perform (.updateVpnSession vpnSession.requestId (statusPatch .serverCreated)))
          return { vpnStatus := some (.serverCreated location), notification := none }
      | .serverRunning _ =>
          ExceptT.mk
            (perform (.updateVpnSession vpnSession.requestId (statusPatch .serverRunning)))
          return { vpnStatus := some (.serverRunning location), notification := none }
      | .serverReady serverReady =>
          ExceptT.mk (perform (.updateVpnSession vpnSession.requestId
            { serverStatus := some StorageServerStatus.serverReady.toText
              serverIpv4Endpoint := some serverReady.ipv4Endpoint.toText
              serverPrivateIpv4 := some serverReady.privateIpv4.toText
              serverPublicKey := some serverReady.publicKey }))
          return { vpnStatus := some (.serverReady location), notification := none }
      | .clientConnected _ =>
          ExceptT.mk
            (perform (.updateVpnSession vpnSession.requestId (statusPatch .clientConnected)))
          return { vpnStatus := none, notification := none }
      | .ended _ =>
          ExceptT.mk (perform (.deleteVpnSession vpnSession.requestId))
          return { vpnStatus := some .disconnected, notification := none }

def messageFromError (errorState : ErrorState) : String := errorState.cause

/-- The answer to a transition that only moves the status. -/
def TunnelTransitionProcessed.onlyStatus (vpnStatus : VpnStatus) :
    TunnelTransitionProcessed where
  vpnStatus
  tunnelCommand := none
  endSession := none
  notification := none
  clientConnected := none

/-- The answer to a tunnel that gave up: stop it and end the session. -/
def TunnelTransitionProcessed.ofError (id : String) (errorState : ErrorState)
    (timestamp : DateTimeUtc) : TunnelTransitionProcessed where
  vpnStatus := .disconnected
  tunnelCommand := some .disconnect
  endSession := some (messageFromError errorState)
  notification := some {
    id
    message := messageFromError errorState
    notificationType := .clientFailed
    timestamp }
  clientConnected := none

def tunnelStateTransition (transition : TunnelStateTransition) (currentState : VpnStatus) :
    Fallible DbErr TunnelTransitionProcessed := do
  match ← ExceptT.mk (perform .findUnmarked) with
  | some vpnSession =>
      let location := vpnSession.toLocation
      match transition with
      | .disconnected => return .onlyStatus .disconnected
      | .connecting => return .onlyStatus (.connecting location)
      | .connected =>
          ExceptT.mk
            (perform (.updateVpnSession vpnSession.requestId (statusPatch .clientConnected)))
          let since ← ExceptT.lift (perform .utcNow)
          let requestId ← Fallible.parsed vpnSession.requestId
          let vpnSessionId ← Fallible.parsed (← Fallible.unwrap vpnSession.sessionUuid)
          return {
            TunnelTransitionProcessed.onlyStatus (.connected location since) with
            clientConnected := some { requestId, vpnSessionId } }
      | .disconnecting _ => return .onlyStatus (.disconnecting location)
      | .error errorState =>
          let timestamp ← ExceptT.lift (perform .utcNow)
          return .ofError ("ce-" ++ vpnSession.requestId) errorState timestamp
  | none =>
      match transition with
      | .disconnected => return .onlyStatus .disconnected
      | .connecting => return .onlyStatus .disconnected
      | .connected => return .onlyStatus .disconnected
      | .disconnecting _ =>
          match currentState with
          | .disconnecting location => return .onlyStatus (.disconnecting location)
          | _ =>
              ExceptT.lift (.panic ("No vpn session found; current state is " ++
                currentState.toText ++ " and tunnel transitioned to disconnecting"))
      | .error errorState =>
          let timestamp ← ExceptT.lift (perform .utcNow)
          return .ofError "unknown" errorState timestamp

end VpnSessionStorage

end Modvpn
