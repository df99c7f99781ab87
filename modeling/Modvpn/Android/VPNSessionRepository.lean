/-
# The coroutines of the Android client

Each suspending function is a program over single operations: a statement of the
database, a call of the server in two parts, a message to the orchestrator, a coroutine
that is launched. A loop ends an iteration with `again`.

The server is not in the repository. It receives the two kinds of requests in any order,
accepts a request id at most once, ends only a session it has accepted, and answers
not_found to an end request for a session that is not running. Its answers carry the
request id they are about. A call may fail at any time, whatever becomes of the request.

A service started anew in the same process has an orchestrator, a repository and scopes
of its own; they share a number. `promised` are the sessions that were marked when
`runReclaimer` last returned and have been marked ever since.
-/

import Modvpn.Android.VPNOrchestrator
import Modvpn.Android.VpnSessionDao
import Modvpn.Protocol.Cancellation

namespace Modvpn.Android

open Modvpn.Protocol

/-! ## Messages -/

structure NewSession where
  requestId : Uuid
  deviceUniqueId : Uuid
  locationCode : String
  deriving DecidableEq

structure EndSessionApi where
  requestId : Uuid
  deviceUniqueId : Uuid
  vpnSessionUuid : Option Uuid
  reason : String
  deriving DecidableEq

structure VpnSessionStatusRequest where
  requestId : Uuid
  deviceUniqueId : Uuid
  vpnSessionUuid : Uuid
  deriving DecidableEq

structure ApiError where
  errorType : String
  message : String
  deriving DecidableEq

/-- What the clients of the service send. -/
inductive Request
  | connect (location : Location)
  | disconnect
  | registerListener (messenger : Messenger)
  | deregisterListener (id : Nat)
  deriving DecidableEq

/-- What the coroutines of a session send. -/
inductive OrchestratorMessage
  | connectResponse (location : Location) (result : Except String (Accepted × Interface))
  | vpnSessionUpdate (location : Location) (status : VpnSessionStatus)
  deriving DecidableEq

/-- A message of a coroutine waits together with the session it was produced for. -/
inductive LooperMessage
  | request (request : Request)
  | orchestrator (requestId : Uuid) (message : OrchestratorMessage)
  deriving DecidableEq

namespace LooperMessage

def isOrchestrator : LooperMessage → Bool
  | .orchestrator _ _ => true
  | .request _ => false

end LooperMessage

/-! ## Operations -/

inductive Coroutine
  /-- `AppContainer.init`, in the process of the service or of the user interface. -/
  | init (ofService : Bool)
  | newVpnSession (service : Nat) (requestId : Uuid) (location : Location)
  | watch (service : Nat) (location : Location) (request : VpnSessionStatusRequest)
  | endVpnSession (service : Nat) (requestId : Uuid) (reason : String)
  | reclaim (service reclaimer : Nat)
  deriving DecidableEq

inductive Op
  -- statements
  | getDevice
  | insertDevice
  | insert (vpnSession : Db.VpnSession)
  | update (vpnSession : Db.VpnSession)
  | delete (vpnSession : Db.VpnSession)
  | withRequestId (requestId : Uuid)
  | deleteWithRequestId (requestId : Uuid)
  | markAllForDeletion
  | toReclaim
  -- remote calls
  | sendNewVpnSession (request : NewSession)
  | awaitNewVpnSession (request : NewSession)
  | sendEndVpnSession (request : EndSessionApi)
  | awaitEndVpnSession (request : EndSessionApi)
  | getVpnSessionStatus (request : VpnSessionStatusRequest)
  -- within the process
  | delay
  | sendOrchestratorMessage (service : Nat) (requestId : Uuid) (message : OrchestratorMessage)
  | launchWatch (service : Nat) (location : Location) (request : VpnSessionStatusRequest)
  | endVpnSession (service : Nat) (requestId : Uuid) (reason : String)
  | runReclaimer (service : Nat)
  | stopRunning (reclaimer : Nat)
  | again

@[reducible]
def Op.Resp : Op → Type
  | .getDevice => Option Db.Device
  | .withRequestId _ => Option Db.VpnSession
  | .toReclaim => List Uuid
  | .awaitNewVpnSession _ => Except ApiError Accepted
  | .awaitEndVpnSession _ => Except ApiError Ended
  | .getVpnSessionStatus _ => Except ApiError VpnSessionStatus
  | .insertDevice | .insert _ | .update _ | .delete _ | .deleteWithRequestId _
  | .markAllForDeletion | .sendNewVpnSession _ | .sendEndVpnSession _ | .delay
  | .sendOrchestratorMessage _ _ _ | .launchWatch _ _ _ | .endVpnSession _ _ _
  | .runReclaimer _ | .stopRunning _ | .again => Unit

@[reducible]
def ops : Signature where
  Op := Op
  Resp := Op.Resp

/-- A suspending function. -/
abbrev Suspend (α : Type) := Program ops α

def perform (op : Op) : Suspend op.Resp := Program.perform (S := ops) op .pure

/-- A cancelled coroutine is not resumed after a call; a statement or a request that is
under way may still take effect; what does not suspend goes on. -/
def interruption : Op → Interruption
  | .getDevice | .insertDevice | .insert _ | .update _ | .delete _ | .withRequestId _
  | .deleteWithRequestId _ | .markAllForDeletion | .toReclaim | .sendNewVpnSession _
  | .sendEndVpnSession _ => .finishes
  | .awaitNewVpnSession _ | .awaitEndVpnSession _ | .getVpnSessionStatus _ | .delay => .stops
  | .sendOrchestratorMessage _ _ _ | .launchWatch _ _ _ | .endVpnSession _ _ _
  | .runReclaimer _ | .stopRunning _ | .again => .goesOn

/-! ## Coroutines -/

/-- The interface of the device. The builder throws where it cannot be parsed. -/
def toInterface (wireGuard : WireGuard) (device : Db.Device) : Except String Interface :=
  match device.ipv4Address with
  | none => .error "NullPointerException"
  | some ipv4Address =>
      if !wireGuard.inetNetwork ipv4Address then .error "ParseException"
      else if !wireGuard.key device.privateKey then .error "BadConfigException"
      else
        .ok {
          address := ipv4Address
          dnsServer := "1.1.1.1"
          privateKey := device.privateKey
          mtu := 1280 }

namespace VPNSessionRepository

def newVpnSession (wireGuard : WireGuard) (service : Nat) (requestId : Uuid)
    (location : Location) : Suspend Unit := do
  let vpnSessionDb := Db.VpnSession.new requestId location
  perform (.insert vpnSessionDb)
  match ← perform .getDevice with
  | none => Program.panic "NullPointerException"
  | some deviceDb =>
      let newSession : NewSession :=
        { requestId, deviceUniqueId := deviceDb.uniqueId, locationCode := vpnSessionDb.code }
      perform (.sendNewVpnSession newSession)
      match ← perform (.awaitNewVpnSession newSession) with
      | .ok accepted =>
          perform (.update { vpnSessionDb with sessionUUID := some accepted.vpnSessionUuid })
          match toInterface wireGuard deviceDb with
          | .error thrown => Program.panic thrown
          | .ok interFace =>
              perform (.sendOrchestratorMessage service requestId
                (.connectResponse location (.ok (accepted, interFace))))
              perform (.launchWatch service location
                { requestId := accepted.requestId
                  deviceUniqueId := deviceDb.uniqueId
                  vpnSessionUuid := accepted.vpnSessionUuid })
      | .error error =>
          perform (.sendOrchestratorMessage service requestId
            (.connectResponse location (.error error.message)))
          perform (.delete vpnSessionDb)

/-- One round of the loop. -/
def watch (service : Nat) (location : Location) (request : VpnSessionStatusRequest) :
    Suspend Unit := do
  perform .delay
  match ← perform (.getVpnSessionStatus request) with
  | .error _ => perform .again
  | .ok status =>
      perform (.sendOrchestratorMessage service request.requestId
        (.vpnSessionUpdate location status))
      if status.isFailed || status.isEnded then
        perform (.deleteWithRequestId request.requestId)
      else if status.isServerReady then return ()
      else perform .again

def endVpnSession (service : Nat) (requestId : Uuid) (reason : String) : Suspend Unit := do
  let device ← perform .getDevice
  let vpnSession ← perform (.withRequestId requestId)
  match device with
  | none => return ()
  | some device =>
      let request : EndSessionApi :=
        { requestId
          deviceUniqueId := device.uniqueId
          vpnSessionUuid := vpnSession.bind (·.sessionUUID)
          reason }
      perform (.sendEndVpnSession request)
      match ← perform (.awaitEndVpnSession request) with
      | .ok _ =>
          match vpnSession with
          | some vpnSession => perform (.delete vpnSession)
          | none => return ()
      | .error error =>
          if error.errorType = "not_found" then
            match vpnSession with
            | some vpnSession => perform (.delete vpnSession)
            | none => return ()
          else
            if vpnSession.isSome then perform .markAllForDeletion
            perform (.runReclaimer service)

end VPNSessionRepository

namespace VpnSessionReclaimer

/-- The `for` loop, and the delay after it. -/
def sweep (service : Nat) : List Uuid → Suspend Unit
  | [] => do
      perform .delay
      perform .again
  | requestId :: requestIds => do
      perform (.endVpnSession service requestId "reclaimed")
      sweep service requestIds

/-- One round of the loop, or its end. -/
def reclaim (service reclaimer : Nat) : Suspend Unit := do
  let requestIds ← perform .toReclaim
  if requestIds.isEmpty then perform (.stopRunning reclaimer) else sweep service requestIds

end VpnSessionReclaimer

namespace AppContainer

def init : Suspend Unit := do
  let device ← perform .getDevice
  if device.isNone then perform .insertDevice
  perform .markAllForDeletion

end AppContainer

def Coroutine.program (wireGuard : WireGuard) : Coroutine → Suspend Unit
  | .init _ => AppContainer.init
  | .newVpnSession service requestId location =>
      VPNSessionRepository.newVpnSession wireGuard service requestId location
  | .watch service location request => VPNSessionRepository.watch service location request
  | .endVpnSession service requestId reason =>
      VPNSessionRepository.endVpnSession service requestId reason
  | .reclaim service reclaimer => VpnSessionReclaimer.reclaim service reclaimer

end Modvpn.Android
