/-
# The daemon's event handlers

One event is handled at a time, from one FIFO channel. What a handler leaves to
the runtime is a `Task`; the tasks are in `Modvpn.Daemon.Tasks`. The status is
written before it is broadcast, and it is the only thing the guards look at.
-/

import Modvpn.Daemon.Storage
import Modvpn.Daemon.Device

namespace Modvpn

open Modvpn.Protocol

inductive DaemonCommand
  | accountSignIn (userCreds : UserCredentials)
  | accountSignOut
  | connect (location : Location)
  | disconnect
  | getVpnStatus
  | getNotifications
  | ackNotification (id : String)
  deriving DecidableEq

inductive DaemonEvent
  | command (command : DaemonCommand)
  | shutdown
  | vpnSessionStatus (status : VpnSessionStatus)
  | tunnelStateTransition (transition : TunnelStateTransition)
  deriving DecidableEq

namespace Daemon

/-- Apply a pure update to the in-memory state. -/
def modifyState (update : DaemonState → DaemonState) : Async Unit := do
  let state ← perform .readState
  perform (.writeState (update state))

def sendTunnelCommand (command : TunnelCommand) : Async Unit :=
  perform (.sendTunnelCommand command)

def addNotification (notification : Notification) : Async Unit := do
  modifyState (·.addNotification notification)
  perform (.broadcast (.notification notification))

def setVpnStatus (vpnStatus : VpnStatus) : Async Unit := do
  modifyState (·.setVpnStatus vpnStatus)
  perform (.broadcast (.vpnStatus vpnStatus))

/-! ## Connecting -/

def onConnectInner (location : Location) : Fallible DaemonError VpnStatus := do
  if let some location := (← ExceptT.lift (perform .readState)).vpnSessionInProgress then
    throw (.anotherVpnSessionInProgress location)
  let requestId ← ExceptT.adapt .dbErr (VpnSessionStorage.newSession location)
  let deviceUniqueId ← ExceptT.adapt .dbErr DeviceStorage.getDeviceUniqueId
  let newSession : NewSession := { requestId, deviceUniqueId, locationCode := location.code }
  ExceptT.lift (perform (.sendNewSession newSession))
  match ← ExceptT.lift (perform (.awaitNewSession newSession)) with
  | .ok accepted =>
      -- update local record
      ExceptT.adapt .dbErr (VpnSessionStorage.updateOnAccepted accepted)
      -- update state
      ExceptT.lift (modifyState (·.accepted location))
      return .accepted location
  | .error err =>
      -- remove local record
      ExceptT.adapt .dbErr (VpnSessionStorage.delete newSession.requestId)
      -- add notification about it
      let timestamp ← ExceptT.lift (perform .utcNow)
      let state ← ExceptT.lift (perform .readState)
      let (notification, state) :=
        state.addNotificationForFailedNewSession requestId location err timestamp
      ExceptT.lift (perform (.writeState state))
      ExceptT.lift (addNotification notification)
      return .disconnected

def onConnect (location : Location) : Async Unit := do
  perform (.spawn (.addRecent location))
  let result ← (onConnectInner location).run
  perform (.respond (.vpnStatus result))

/-! ## Disconnecting -/

def tunnelCommandOnDisconnect : Async Unit := do
  match (← perform .readState).vpnStatus with
  | .serverReady _ | .connecting _ | .connected _ _ => sendTunnelCommand .disconnect
  | .accepted _ | .serverCreated _ | .serverRunning _ | .disconnecting _ | .disconnected =>
      return ()

/-- Mark the session for deletion and leave the call to the server to a task. -/
def endSession (endReason : String) : Fallible DaemonError Unit := do
  let sessionInfo ← ExceptT.adapt .dbErr VpnSessionStorage.endSession
  ExceptT.lift (perform (.spawn (.endSession sessionInfo endReason)))

def clientConnected (sessionInfo : SessionInfo) : Async Unit :=
  perform (.spawn (.clientConnected sessionInfo))

def onDisconnectInner (endReason : String) : Fallible DaemonError VpnStatus := do
  ExceptT.lift tunnelCommandOnDisconnect
  endSession endReason
  let state := (← ExceptT.lift (perform .readState)).updateStateOnDisconnect
  ExceptT.lift (perform (.writeState state))
  ExceptT.lift (perform (.broadcast (.vpnStatus state.vpnStatus)))
  return state.vpnStatus

def onDisconnect : Async Unit := do
  let result ← (onDisconnectInner "client requested").run
  perform (.respond (.vpnStatus result))

/-- What the loop does when it leaves; the rest waits for other parts to stop. -/
def handleShutdown : Async Unit := do
  let _ ← (onDisconnectInner "daemon shutdown").run
  return ()

/-! ## Other commands -/

def onGetVpnStatus : Async Unit := do
  perform (.respond (.vpnStatus (.ok (← perform .readState).vpnStatus)))

def onGetNotifications : Async Unit := do
  perform (.respond (.notifications (← perform .readState).notifications))

def onAckNotification (id : String) : Async Unit := do
  modifyState (·.removeNotification id)
  perform (.respond (.done (.ok ())))

def onAccountSignIn (userCreds : UserCredentials) : Async Unit := do
  -- if a session is in progress do not sign in
  match (← perform .readState).vpnSessionInProgress with
  | some location =>
      perform (.respond (.done (.error (.invalidOpVpnSessionInProgress
        ("cannot sign in when a vpn session is in progress (to city " ++
          location.city ++ ")")))))
  | none => perform (.spawn (.signIn userCreds))

def onAccountSignOut : Async Unit := do
  -- if a session is in progress do not sign out
  match (← perform .readState).vpnSessionInProgress with
  | some location =>
      perform (.respond (.done (.error (.invalidOpVpnSessionInProgress
        ("cannot sign out when a vpn session is in progress (to city " ++
          location.city ++ ")")))))
  | none => perform (.spawn .signOut)

def handleCommand : DaemonCommand → Async Unit
  | .accountSignIn userCreds => onAccountSignIn userCreds
  | .accountSignOut => onAccountSignOut
  | .connect location => onConnect location
  | .disconnect => onDisconnect
  | .getVpnStatus => onGetVpnStatus
  | .getNotifications => onGetNotifications
  | .ackNotification id => onAckNotification id

/-! ## Server and tunnel -/

def updateTunnelOnNewStatus : VpnStatus → Async Unit
  | .serverReady _ => sendTunnelCommand .connect
  | _ => return ()

def handleVpnSessionStatus (vpnSessionStatus : VpnSessionStatus) : Async Unit := do
  match ← (VpnSessionStorage.updatedServerStatus vpnSessionStatus).run with
  | .error _ => Program.panic "unrecoverable db error in handle_vpn_session_status"
  | .ok processed =>
      if let some notification := processed.notification then
        addNotification notification
      if let some newVpnStatus := processed.vpnStatus then
        setVpnStatus newVpnStatus
        updateTunnelOnNewStatus newVpnStatus

def handleTunnelStateTransition (transition : TunnelStateTransition) : Async Unit := do
  let currentState := (← perform .readState).vpnStatus
  match ← (VpnSessionStorage.tunnelStateTransition transition currentState).run with
  | .error _ => Program.panic "failed to process tunnel state transition"
  | .ok processed =>
      if let some sessionInfo := processed.clientConnected then
        clientConnected sessionInfo
      if let some tunnelCommand := processed.tunnelCommand then
        sendTunnelCommand tunnelCommand
      if let some notification := processed.notification then
        addNotification notification
      if let some reason := processed.endSession then
        -- a failure is logged and the transition goes on
        let _ ← (endSession reason).run
      setVpnStatus processed.vpnStatus

def handleEvent : DaemonEvent → Async Unit
  | .command command => handleCommand command
  | .vpnSessionStatus vpnSessionStatus => handleVpnSessionStatus vpnSessionStatus
  | .tunnelStateTransition transition => handleTunnelStateTransition transition
  -- leaving the loop is part of `run`, which handles shutdown and nothing after it
  | .shutdown => handleShutdown

end Daemon

end Modvpn
