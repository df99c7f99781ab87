/-
# The Android client and its server

Two processes share the database. In the process of the service the coroutines take
turns at performing single operations, and the handlers of the orchestrator run on the
looper; either process may be killed and started at any time, and an exception that
nobody catches kills the process of the service. A service may also be destroyed and
created again in the same process, and the user may sign in and out.

`session` is the session of the last request to connect that was let through, while the
orchestrator has not been disconnected since.
-/

import Modvpn.Android.VPNSessionRepository
import Modvpn.Protocol.Pool

namespace Modvpn.Android

open Modvpn.Protocol
open VPNOrchestrator (Invocation)

/-! ## The server -/

structure Server where
  /-- Requests that are on their way. -/
  newRequests : List Uuid
  endRequests : List Uuid
  /-- Accepted and not ended. -/
  running : List Uuid
  ended : List Uuid
  /-- Sessions about which an end request was answered with not_found. -/
  notFound : List Uuid
  deriving DecidableEq

inductive ServerLabel
  | accept (requestId : Uuid)
  /-- The request is lost, or refused. -/
  | dismiss (requestId : Uuid)
  | finish (requestId : Uuid)
  | notFound (requestId : Uuid)
  /-- The end request is lost, or answered with another error. -/
  | ignore (requestId : Uuid)
  /-- The session fails, or ends otherwise. -/
  | expire (requestId : Uuid)
  deriving DecidableEq

def Server.step (server : Server) : ServerLabel → Option Server
  | .accept requestId =>
      if requestId ∈ server.newRequests ∧ requestId ∉ server.running ∧ requestId ∉ server.ended then
        some { server with
          newRequests := server.newRequests.erase requestId
          running := requestId :: server.running }
      else none
  | .dismiss requestId =>
      some { server with newRequests := server.newRequests.erase requestId }
  | .finish requestId =>
      if requestId ∈ server.endRequests ∧ requestId ∈ server.running then
        some { server with
          endRequests := server.endRequests.erase requestId
          running := server.running.filter (· ≠ requestId)
          ended := requestId :: server.ended }
      else none
  | .notFound requestId =>
      if requestId ∈ server.endRequests ∧ requestId ∉ server.running then
        some { server with
          endRequests := server.endRequests.erase requestId
          notFound := requestId :: server.notFound }
      else none
  | .ignore requestId =>
      some { server with endRequests := server.endRequests.erase requestId }
  | .expire requestId =>
      if requestId ∈ server.running then
        some { server with
          running := server.running.filter (· ≠ requestId)
          ended := requestId :: server.ended }
      else none

/-! ## What the coroutines share -/

structure World where
  device : List Db.Device
  vpnSession : List Db.VpnSession
  server : Server
  /-- Request ids that were generated so far. -/
  issued : List Uuid
  /-- Sessions whose call was answered with an error. -/
  failed : List Uuid
  /-- The process of the service has initialized. -/
  booted : Bool
  service : Option VPNService
  /-- The number of the last service of this process. -/
  number : Nat
  queue : List LooperMessage
  /-- By number of the service. -/
  sessionReclaimer : List (Option Nat)
  /-- By number of the reclaimer. -/
  running : List Bool
  session : Option Uuid
  promised : List Uuid
  deriving DecidableEq

/-- What the environment answers to an operation. -/
structure Env where
  createdDevice : Db.Device
  newVpnSession : Except ApiError Accepted
  endVpnSession : Except ApiError Ended
  vpnSessionStatus : Except ApiError VpnSessionStatus

namespace World

/-- The table after a statement. A mark that is gone is no longer promised anything. -/
def store (rows : List Db.VpnSession) (world : World) : World :=
  { world with
    vpnSession := rows
    promised := world.promised.filter (· ∈ VpnSessionDao.toReclaim rows) }

/-- There is no reclaimer, or it has cleared its flag. -/
def needsReclaimer (service : Nat) (world : World) : Bool :=
  match world.sessionReclaimer[service]? with
  | some (some reclaimer) => world.running[reclaimer]? ≠ some true
  | _ => true

def runReclaimer (service : Nat) (world : World) : World :=
  let promised := VpnSessionDao.toReclaim world.vpnSession
  if world.needsReclaimer service then
    { world with
      sessionReclaimer := world.sessionReclaimer.set service (some world.running.length)
      running := world.running ++ [true]
      promised }
  else { world with promised }

/-- A message to a service that was destroyed has no effect. -/
def sendOrchestratorMessage (service : Nat) (requestId : Uuid) (message : OrchestratorMessage)
    (world : World) : World :=
  if world.service.isSome && service = world.number then
    { world with queue := world.queue ++ [.orchestrator requestId message] }
  else world

def answer : (op : Op) → Env → World → op.Resp × World
  | .getDevice, _, world => (world.device.head?, world)
  | .insertDevice, env, world =>
      ((), { world with
        device := world.device.filter (·.uniqueId ≠ env.createdDevice.uniqueId) ++
          [env.createdDevice] })
  | .insert vpnSession, _, world =>
      ((), world.store (VpnSessionDao.insert vpnSession world.vpnSession))
  | .update vpnSession, _, world =>
      ((), world.store (VpnSessionDao.update vpnSession world.vpnSession))
  | .delete vpnSession, _, world =>
      ((), world.store (VpnSessionDao.delete vpnSession world.vpnSession))
  | .withRequestId requestId, _, world =>
      (VpnSessionDao.withRequestId requestId world.vpnSession, world)
  | .deleteWithRequestId requestId, _, world =>
      ((), world.store (VpnSessionDao.deleteWithRequestId requestId world.vpnSession))
  | .markAllForDeletion, _, world =>
      ((), world.store (VpnSessionDao.markAllForDeletion world.vpnSession))
  | .toReclaim, _, world => (VpnSessionDao.toReclaim world.vpnSession, world)
  | .sendNewVpnSession request, _, world =>
      ((), { world with
        server := { world.server with
          newRequests := request.requestId :: world.server.newRequests } })
  | .awaitNewVpnSession request, env, world =>
      match env.newVpnSession with
      | .ok accepted => (.ok accepted, world)
      | .error error => (.error error, { world with failed := request.requestId :: world.failed })
  | .sendEndVpnSession request, _, world =>
      ((), { world with
        server := { world.server with
          endRequests := request.requestId :: world.server.endRequests } })
  | .awaitEndVpnSession _, env, world => (env.endVpnSession, world)
  | .getVpnSessionStatus _, env, world => (env.vpnSessionStatus, world)
  | .delay, _, world => ((), world)
  | .sendOrchestratorMessage service requestId message, _, world =>
      ((), world.sendOrchestratorMessage service requestId message)
  | .launchWatch _ _ _, _, world => ((), world)
  | .endVpnSession _ _ _, _, world => ((), world)
  | .runReclaimer service, _, world => ((), world.runReclaimer service)
  | .stopRunning reclaimer, _, world =>
      ((), { world with running := world.running.set reclaimer false })
  | .again, _, world => ((), world)

/-- Answers the environment may give. -/
def allows (env : Env) (world : World) : Op → Bool
  | .awaitNewVpnSession request =>
      match env.newVpnSession with
      | .ok accepted => accepted.requestId = request.requestId &&
          (request.requestId ∈ world.server.running || request.requestId ∈ world.server.ended)
      | .error _ => true
  | .awaitEndVpnSession request =>
      match env.endVpnSession with
      | .ok ended => ended.requestId = request.requestId && request.requestId ∈ world.server.ended
      | .error error => error.errorType ≠ "not_found" || request.requestId ∈ world.server.notFound
  | .getVpnSessionStatus request =>
      match env.vpnSessionStatus with
      | .ok status => status.requestId = request.requestId &&
          (!(status.isFailed || status.isEnded) || request.requestId ∈ world.server.ended)
      | .error _ => true
  | _ => true

/-- The coroutines that an operation launches. -/
def launched (world : World) : Op → List Coroutine
  | .launchWatch service location request => [.watch service location request]
  | .endVpnSession service requestId reason => [.endVpnSession service requestId reason]
  | .runReclaimer service =>
      if world.needsReclaimer service then [.reclaim service world.running.length] else []
  | _ => []

/-- The process of the service is gone. -/
def killed (world : World) : World :=
  { world with
    booted := false
    service := none
    number := 0
    queue := []
    sessionReclaimer := []
    running := []
    session := none
    promised := [] }

/-- A new service, with a repository of its own. -/
def creating (world : World) : World :=
  { world with
    service := some .new
    number := world.sessionReclaimer.length
    sessionReclaimer := world.sessionReclaimer ++ [none]
    queue := [] }

/-- The orchestrator has run the reclaimer. -/
def created (world : World) : World := world.creating.runReclaimer world.creating.number

/-- The session that is in progress. -/
def held (world : World) : Option Uuid :=
  world.service.bind (·.vpnOrchestratorState.requestId)

end World

/-- What the operations of the coroutines do. -/
@[reducible]
def semantics : Semantics ops Env World where
  answer := World.answer

/-! ## Both processes -/

structure Role where
  coroutine : Coroutine
  cancelled : Bool
  deriving DecidableEq

/-- A child of the scope that disconnecting cancels. -/
def Coroutine.inSession (service : Nat) : Coroutine → Bool
  | .newVpnSession number _ _ | .watch number _ _ => number = service
  | .init _ | .endVpnSession _ _ _ | .reclaim _ _ => false

structure Phone where
  world : World
  jobs : List (Job ops Role)

inductive PhoneLabel
  | startApp
  | startService
  /-- The process of the service is killed. -/
  | kill
  | createService
  | destroyService (env : HandlerEnv)
  | send (request : Request)
  | handle (env : HandlerEnv)
  | revoke (env : HandlerEnv)
  | perform (index : Nat) (env : Env)
  /-- A cancelled coroutine ends. -/
  | abandon (index : Nat)
  | server (label : ServerLabel)
  /-- The user signs in or out. -/
  | setDevice (device : List Db.Device)

def LooperMessage.invocation : LooperMessage → Invocation
  | .request (.connect location) => .connect location
  | .request .disconnect => .disconnect
  | .request (.registerListener messenger) => .registerListener messenger
  | .request (.deregisterListener id) => .deregisterListener id
  | .orchestrator _ (.connectResponse location result) => .connectResponse location result
  | .orchestrator _ (.vpnSessionUpdate location status) => .vpnSessionUpdate location status

namespace Phone

variable (wireGuard : WireGuard)

def launch (coroutine : Coroutine) : Job ops Role where
  role := { coroutine, cancelled := false }
  program := coroutine.program wireGuard

def cancel (job : Job ops Role) : Job ops Role where
  role := { job.role with cancelled := true }
  program := job.program.cut interruption

/-- Coroutines that have nothing left to do are gone. -/
def cancelChildren (service : Nat) (jobs : List (Job ops Role)) : List (Job ops Role) :=
  (jobs.map fun job => if job.role.coroutine.inSession service then cancel job else job).filter
    (·.program.isRunning)

def killed (phone : Phone) : Phone where
  world := phone.world.killed
  jobs := phone.jobs.filter (·.role.coroutine = .init false)

/-- What a handler asks of the coroutines. -/
def carryOut (phone : Phone) : Effect → Phone
  | .cancelChildren => { phone with jobs := cancelChildren phone.world.number phone.jobs }
  | .cleanupIPC => { phone with world := { phone.world with queue := [] } }
  | .newVpnSession requestId location =>
      { world := { phone.world with
          issued := requestId :: phone.world.issued
          session := some requestId }
        jobs := phone.jobs ++
          [launch wireGuard (.newVpnSession phone.world.number requestId location)] }
  | .endVpnSession requestId reason =>
      { phone with jobs := phone.jobs ++
          [launch wireGuard (.endVpnSession phone.world.number requestId reason)] }
  | .sendEvent _ _ | .startForeground _ | .stopService | .turnOnVPN _ | .wgTurnOn _ => phone

/-- A handler has returned. -/
def handled (service : VPNService) (phone : Phone) : Phone :=
  let next := service.effects.foldl (carryOut wireGuard)
    { phone with world := { phone.world with service := some service } }
  { next with world := { next.world with
    session := if service.vpnOrchestratorState.isDisconnected then none else next.world.session } }

def invoke (env : HandlerEnv) (invocation : Invocation) (phone : Phone) : Option Phone :=
  match phone.world.service with
  | none => none
  | some service =>
      if service.offers env && env.randomUuid ∉ phone.world.issued then
        match VPNOrchestrator.handle env wireGuard { service with effects := [] } invocation with
        | .error _ => some phone.killed
        | .ok next => some (phone.handled wireGuard next)
      else none

/-- What is left of a coroutine after an operation. -/
def remaining (op : Op) (role : Role) (next : Suspend Unit) : Suspend Unit :=
  match op with
  | .again =>
      if role.cancelled then (role.coroutine.program wireGuard).cut interruption
      else role.coroutine.program wireGuard
  | _ => next

/-- A coroutine has performed an operation and launched others. -/
def settle (index : Nat) (job : Job ops Role) (launched : List (Job ops Role)) (phone : Phone) :
    Phone :=
  match job.program with
  | .perform _ _ => { phone with jobs := phone.jobs.set index job ++ launched }
  | .pure _ =>
      { world := { phone.world with
          booted := phone.world.booted || job.role.coroutine = .init true }
        jobs := phone.jobs.eraseIdx index ++ launched }
  | .panic _ => phone.killed

def step (phone : Phone) : PhoneLabel → Option Phone
  | .startApp => some { phone with
      jobs := phone.jobs.filter (·.role.coroutine ≠ .init false) ++ [launch wireGuard (.init false)] }
  | .startService => some { phone.killed with
      jobs := phone.killed.jobs ++ [launch wireGuard (.init true)] }
  | .kill => some phone.killed
  | .createService =>
      match phone.world.service with
      | some _ => none
      | none =>
          if phone.world.booted then
            some {
              world := phone.world.created
              jobs := phone.jobs ++ (phone.world.creating.launched
                (.runReclaimer phone.world.creating.number)).map (launch wireGuard) }
          else none
  | .destroyService env =>
      match phone.invoke wireGuard env .destroy with
      | none => none
      | some next => some { next with world := { next.world with service := none, session := none } }
  | .send request =>
      if phone.world.service.isSome then
        some { phone with
          world := { phone.world with queue := phone.world.queue ++ [.request request] } }
      else none
  | .handle env =>
      match phone.world.queue with
      | [] => none
      | message :: rest => Phone.invoke wireGuard env message.invocation
          { phone with world := { phone.world with queue := rest } }
  | .revoke env => phone.invoke wireGuard env .revoke
  | .perform index env =>
      match phone.jobs[index]? with
      | none => none
      | some job =>
          match job.program with
          | .pure _ | .panic _ => none
          | .perform op next =>
              if phone.world.allows env op then
                let answered := World.answer op env phone.world
                let program := remaining wireGuard op job.role (next answered.1)
                some (settle index { job with program }
                  ((phone.world.launched op).map (launch wireGuard))
                  { phone with world := answered.2 })
              else none
  | .abandon index =>
      match phone.jobs[index]? with
      | none => none
      | some job =>
          if job.role.cancelled then some { phone with jobs := phone.jobs.eraseIdx index }
          else none
  | .server label =>
      match phone.world.server.step label with
      | none => none
      | some server => some { phone with world := { phone.world with server } }
  | .setDevice device => some { phone with world := { phone.world with device } }

/-- Nothing is stored, and nothing runs. -/
def installed : Phone where
  world :=
    { device := []
      vpnSession := []
      server := { newRequests := [], endRequests := [], running := [], ended := [], notFound := [] }
      issued := []
      failed := []
      booted := false
      service := none
      number := 0
      queue := []
      sessionReclaimer := []
      running := []
      session := none
      promised := [] }
  jobs := []

/-- The client from its installation on. -/
def system : TransitionSystem Phone PhoneLabel where
  Init phone := phone = installed
  step := step wireGuard

end Phone

/-! ## A new installation at work -/

namespace Sample

def device : Db.Device where
  uniqueId := .replicate 3
  ipv4Address := some "10.0.0.2"
  privateKey := "key"

/-- The server accepts the session, and cannot be reached when it is to be ended. -/
def answers : Env where
  createdDevice := { device with ipv4Address := none }
  newVpnSession := .ok { requestId, vpnSessionUuid }
  endVpnSession := .error { errorType := "client_exception", message := "Network issue." }
  vpnSessionStatus := .ok (.serverReady serverReady)

/-- This many operations of one coroutine. -/
def performing (index : Nat) (env : Env) (operations : Nat) : List PhoneLabel :=
  List.replicate operations (.perform index env)

/-- The process of the service starts, the user is signed in, the service is created, and
there is nothing to reclaim. -/
def starting : List PhoneLabel :=
  [.startService] ++ performing 0 answers 3 ++ [.setDevice [device], .createService] ++
    performing 0 answers 2

def requesting : List PhoneLabel := [.send (.connect location), .handle granted]

/-- A later id, should one be needed. -/
def grantedAgain : HandlerEnv := { granted with randomUuid := .replicate 9 }

def disconnecting : List PhoneLabel := [.send .disconnect, .handle grantedAgain]

end Sample

end Modvpn.Android
