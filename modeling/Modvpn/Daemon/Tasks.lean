/-
# Background tasks, the reclaimer, and startup

These run beside the daemon loop and share the database with it. Delays before
the first statement are scheduling and are not modelled: a task may always be
scheduled late.
-/

import Modvpn.Daemon.Handlers

namespace Modvpn

open Modvpn.Protocol

namespace Task

/-- End a session on the server and, only if that worked, forget its row. -/
def callEndSession (sessionInfo : Option SessionInfo) (endReason : String) : Async Unit := do
  match sessionInfo with
  | none => return ()
  | some sessionInfo =>
      match ← DeviceStorage.getDeviceUniqueId.run with
      | .error _ => return ()
      | .ok deviceUniqueId =>
          match ← perform (.endSession .daemon {
              requestId := sessionInfo.requestId
              deviceUniqueId
              vpnSessionUuid := sessionInfo.vpnSessionId
              reason := endReason }) with
          | .ok _ =>
              let _ ← (VpnSessionStorage.delete sessionInfo.requestId).run
              return ()
          -- the reclaimer should eventually clean up
          | .error _ => return ()

def callClientConnected (sessionInfo : SessionInfo) : Async Unit := do
  match ← DeviceStorage.getDeviceUniqueId.run with
  | .error _ => return ()
  | .ok deviceUniqueId =>
      let _ ← perform (.clientConnected {
        requestId := sessionInfo.requestId
        deviceUniqueId
        vpnSessionUuid := sessionInfo.vpnSessionId })
      return ()

/-- What the runtime executes for a spawned task. -/
def program : Task → Async Unit
  | .addRecent location => do
      let _ ← (LocationStorage.addRecent location).run
      return ()
  | .endSession sessionInfo endReason => callEndSession sessionInfo endReason
  | .clientConnected sessionInfo => callClientConnected sessionInfo
  | .signIn userCreds => perform (.sendDeviceCommand (.signIn userCreds))
  | .signOut => perform (.sendDeviceCommand .signOut)

end Task

namespace Reclaimer

/-- End one marked session. Only an error of the connection keeps the row. -/
def reclaimSession (deviceUniqueId : Uuid) (session : SessionInfo) : Async Unit := do
  match ← perform (.endSession .reclaimer {
      requestId := session.requestId
      deviceUniqueId
      vpnSessionUuid := session.vpnSessionId
      reason := "reclaimed" }) with
  | .ok _ =>
      let _ ← (VpnSessionStorage.delete session.requestId).run
      return ()
  | .error .vpnSessionServiceDown => return ()
  | .error (.connection _) => return ()
  | .error (.server _) =>
      -- did the best we can, delete it from local storage
      let _ ← (VpnSessionStorage.delete session.requestId).run
      return ()

def reclaimSessions (deviceUniqueId : Uuid) : List SessionInfo → Async Unit
  | [] => return ()
  | session :: sessions => do
      reclaimSession deviceUniqueId session
      reclaimSessions deviceUniqueId sessions

/-- One pass. -/
def reclaim (codecs : Codecs) : Async Unit := do
  match ← VpnSessionStorage.toReclaim.run with
  | .error _ => return ()
  | .ok sessions =>
      match ← (DeviceStorage.getDevice codecs).run with
      | .ok (some deviceDetails) => reclaimSessions deviceDetails.uniqueId sessions
      | _ => return ()

end Reclaimer

/-- The startup of a new process, as far as it touches the database. -/
def createDaemon (codecs : Codecs) : Fallible String Unit := do
  let _ ← DeviceStorage.init codecs
  let token ← ExceptT.adapt
    (fun e => "failed to start device handler: " ++ DeviceStorage.dbErrText e)
    TokenStorage.getToken
  ExceptT.lift (perform (.writeServiceToken token))
  ExceptT.adapt (fun e => "failed to reclaim " ++ DeviceStorage.dbErrText e)
    VpnSessionStorage.reclaim
  ExceptT.lift (perform (.writeState DaemonState.new))

end Modvpn
