/-
# Everything the daemon's tasks share, one statement at a time

`Op` lists the points at which a task of the daemon touches something another
task or the outside can see: one database statement, one remote call, one
message. `semantics` says what each does to the shared `World`. Statements that
filter on several rows return them in insertion order, which is how SQLite scans
a table that has a row id.

Three fields are not in the program and nothing in it reads them: `tunnelCommands`
keeps what was sent rather than what is unread, `history` records which sessions
were accepted and how end-session calls were answered, and `live` remembers what
the database held when the last session was requested, until that session is
refused, or the status becomes `Disconnected` and its row is marked or gone.
-/

import Modvpn.Daemon.State
import Modvpn.Protocol.Program

namespace Modvpn

open Modvpn.Protocol

/-- Background work handed to the runtime. -/
inductive Task
  | addRecent (location : Location)
  | endSession (sessionInfo : Option SessionInfo) (endReason : String)
  | clientConnected (sessionInfo : SessionInfo)
  | signIn (userCreds : UserCredentials)
  | signOut
  deriving DecidableEq

/-- What the device service is asked to do. -/
inductive DeviceCommand
  | signIn (userCreds : UserCredentials)
  | signOut
  deriving DecidableEq

/-- What event subscribers are told. -/
inductive Broadcast
  | vpnStatus (vpnStatus : VpnStatus)
  | notification (notification : Notification)
  deriving DecidableEq

/-- What the sender of a command is told. -/
inductive Response
  | vpnStatus (result : Except DaemonError VpnStatus)
  | notifications (result : List Notification)
  | done (result : Except DaemonError Unit)

/-- Who makes an end-session call. -/
inductive EndCaller
  | daemon
  | reclaimer
  deriving DecidableEq

/-- Facts recorded about the run. -/
inductive Happened
  | received (status : VpnSessionStatus)
  | accepted (requestId : Uuid)
  | endReply (caller : EndCaller) (requestId : Uuid) (reply : Except VpnSessionError Ended)

/-- What was true when a session was requested with this device. -/
structure LiveSession where
  requestId : Uuid
  deviceUniqueId : Uuid
  privateKey : Option String
  hadToken : Bool
  deriving DecidableEq

structure World where
  vpnSession : List Entity.VpnSession
  device : List Entity.Device
  token : List Entity.Token
  tokenSequence : Nat
  recentLocations : List Entity.RecentLocation
  recentSequence : Nat
  state : DaemonState
  serviceToken : Option String
  deviceCommands : List DeviceCommand
  spawned : List Task
  broadcasts : List Broadcast
  responses : List Response
  tunnelCommands : List TunnelCommand
  history : List Happened
  live : Option LiveSession

/-- The environment's choices at one operation; an operation uses the ones it
needs. A database statement fails exactly when `dbErr` is set. -/
structure Env where
  dbErr : Option DbErr
  uuid : Uuid
  now : DateTimeUtc
  newSession : Except VpnSessionError Accepted
  endSession : Except VpnSessionError Ended
  endSessionRetries : List (Except VpnSessionError Ended)
  clientConnected : Except VpnSessionError Unit
  createNew : Except String DeviceDetails
  connect : Except String Unit
  addDevice : Except Status AddDeviceResponse
  signOut : Except Status Unit

/-- The same choices with every database statement succeeding. -/
def Env.dbSucceeds (env : Env) : Env := { env with dbErr := none }

/-- `backoff::future::retry`: every error is transient, so attempts go on until
one succeeds or the time is up, and the last error is the answer. -/
def retry (attempt : Except VpnSessionError Ended) :
    List (Except VpnSessionError Ended) → Except VpnSessionError Ended
  | [] => attempt
  | next :: rest =>
      match attempt with
      | .ok ended => .ok ended
      | .error _ => retry next rest

inductive Op
  -- choices of the environment
  | newUuid
  | utcNow
  -- vpn_session
  | insertVpnSession (requestId : Uuid) (location : Location)
  | findUnmarked
  | findUnmarkedById (requestId : Uuid)
  | findVpnSession
  | findMarked
  | markForDeletion (requestId : String)
  | markAllForDeletion
  | setAccepted (requestId vpnSessionUuid : Uuid)
  | updateVpnSession (requestId : String) (set : Entity.VpnSessionPatch)
  | deleteVpnSession (requestId : String)
  -- device
  | findDevice
  | findDeviceUniqueId
  | findDeviceById (uniqueId : String)
  | insertDevice (device : Entity.Device)
  | updateDeviceIpv4 (uniqueId : String) (ipv4Address : String)
  | deleteDevices
  | createNew
  -- token
  | findToken
  | insertToken (token : String)
  | deleteTokensBelow (id : Nat)
  | deleteTokens
  -- recent_locations
  | deleteRecent (code : String)
  | insertRecent (location : Location)
  | trimRecent (limit : Nat)
  -- memory of the daemon loop and of the device service
  | readState
  | writeState (state : DaemonState)
  | writeServiceToken (token : Option String)
  -- messages
  | sendTunnelCommand (command : TunnelCommand)
  | broadcast (event : Broadcast)
  | respond (response : Response)
  | spawn (task : Task)
  | sendDeviceCommand (command : DeviceCommand)
  -- remote calls
  | sendNewSession (request : NewSession)
  | awaitNewSession (request : NewSession)
  | endSession (caller : EndCaller) (request : EndSession)
  | clientConnected (request : ClientConnected)
  | connectServer
  | addDevice (userCreds : UserCredentials)
  | signOut

@[reducible]
def Op.Resp : Op → Type
  | .newUuid => Uuid
  | .utcNow => DateTimeUtc
  | .findUnmarked | .findUnmarkedById _ | .findVpnSession =>
      Except DbErr (Option Entity.VpnSession)
  | .findMarked => Except DbErr (List Entity.VpnSession)
  | .insertVpnSession _ _ | .markForDeletion _ | .markAllForDeletion
  | .setAccepted _ _ | .updateVpnSession _ _ | .deleteVpnSession _
  | .insertDevice _ | .deleteDevices | .deleteTokensBelow _ | .deleteTokens
  | .deleteRecent _ | .insertRecent _ | .trimRecent _ => Except DbErr Unit
  | .findDevice | .findDeviceById _ => Except DbErr (Option Entity.Device)
  | .findDeviceUniqueId => Except DbErr (Option String)
  | .updateDeviceIpv4 _ _ => Except DbErr Entity.Device
  | .createNew => Except String DeviceDetails
  | .findToken => Except DbErr (Option Entity.Token)
  | .insertToken _ => Except DbErr Entity.Token
  | .readState => DaemonState
  | .writeState _ | .writeServiceToken _ | .sendTunnelCommand _ | .broadcast _
  | .respond _ | .spawn _ | .sendDeviceCommand _ | .sendNewSession _ => Unit
  | .awaitNewSession _ => Except VpnSessionError Accepted
  | .endSession _ _ => Except VpnSessionError Ended
  | .clientConnected _ => Except VpnSessionError Unit
  | .connectServer => Except String Unit
  | .addDevice _ => Except Status AddDeviceResponse
  | .signOut => Except Status Unit

/-- The operations of the daemon. -/
@[reducible]
def ops : Signature where
  Op := Op
  Resp := Op.Resp

/-- An asynchronous function of the daemon. -/
abbrev Async (α : Type) := Program ops α

/-- An asynchronous function whose caller may use the question mark on it. -/
abbrev Fallible (ε α : Type) := ExceptT ε (Program ops) α

/-- Await one operation. -/
def perform (op : Op) : Async op.Resp := Program.perform (S := ops) op .pure

namespace Fallible

/-- `Option::unwrap`. -/
def unwrap {ε α : Type} : Option α → Fallible ε α
  | some value => ExceptT.lift (.pure value)
  | none => ExceptT.lift (.panic "called `Option::unwrap()` on a `None` value")

/-- `Uuid::parse_str(..).unwrap()`. -/
def parsed {ε : Type} (text : String) : Fallible ε Uuid :=
  match Uuid.parseStr text with
  | some id => ExceptT.lift (.pure id)
  | none => ExceptT.lift (.panic "called `Result::unwrap()` on an `Err` value")

@[simp]
theorem unwrap_some {ε α : Type} (value : α) :
    (unwrap (some value) : Fallible ε α) = pure value := rfl

@[simp]
theorem parsed_toText {ε : Type} (id : Uuid) :
    (parsed id.toText : Fallible ε Uuid) = pure id := by
  simp only [parsed, Uuid.parseStr_toText]
  rfl

end Fallible

attribute [simp] ExceptT.run_bind ExceptT.run_adapt Except.map Except.mapError

/-! ## Tables -/

namespace Entity

/-- Rows that no end-session has claimed. -/
def VpnSession.unmarked (rows : List VpnSession) : List VpnSession :=
  rows.filter fun row => !row.markForDeletion

/-- `UPDATE ... WHERE request_id = ?`. -/
def VpnSession.updateById (requestId : String) (set : VpnSession → VpnSession)
    (rows : List VpnSession) : List VpnSession :=
  rows.map fun row => if row.requestId = requestId then set row else row

/-- `DELETE ... WHERE request_id = ?`. -/
def VpnSession.deleteById (requestId : String) (rows : List VpnSession) :
    List VpnSession :=
  rows.filter fun row => row.requestId ≠ requestId

def VpnSession.mark (row : VpnSession) : VpnSession := { row with markForDeletion := true }

def VpnSession.setAccepted (vpnSessionUuid : Uuid) (row : VpnSession) : VpnSession :=
  { row with
    serverStatus := some StorageServerStatus.accepted.toText
    sessionUuid := some vpnSessionUuid.toText }

/-- Some row has this request id. -/
def VpnSession.hasId (requestId : String) (rows : List VpnSession) : Bool :=
  rows.any fun row => row.requestId = requestId

end Entity

namespace World

/-- A statement that cannot violate a constraint. -/
def statement {α : Type} (env : Env) (world : World) (effect : World → α × World) :
    Except DbErr α × World :=
  match env.dbErr with
  | some error => (.error error, world)
  | none => (.ok (effect world).1, (effect world).2)

/-- A statement that may be refused although the database works. -/
def checked {α : Type} (env : Env) (world : World)
    (effect : World → Except DbErr (α × World)) : Except DbErr α × World :=
  match env.dbErr with
  | some error => (.error error, world)
  | none =>
      match effect world with
      | .error error => (.error error, world)
      | .ok (value, next) => (.ok value, next)

/-- The facts `live` keeps about the database at the moment of a request. -/
def requesting (world : World) (request : NewSession) : LiveSession where
  requestId := request.requestId
  deviceUniqueId := request.deviceUniqueId
  privateKey := world.device.head?.map (·.privateKey)
  hadToken := !world.token.isEmpty

/-- The row of the session is still unmarked. -/
def isClaimless (world : World) (session : LiveSession) : Bool :=
  (Entity.VpnSession.unmarked world.vpnSession).any (·.requestId = session.requestId.toText)

def answer : (op : Op) → Env → World → op.Resp × World
  | .newUuid, env, world => (env.uuid, world)
  | .utcNow, env, world => (env.now, world)
  | .insertVpnSession requestId location, env, world =>
      checked env world fun w =>
        if Entity.VpnSession.hasId requestId.toText w.vpnSession then
          .error (.exec "UNIQUE constraint failed: vpn_session.request_id")
        else
          .ok ((), { w with
            vpnSession := w.vpnSession ++ [Entity.VpnSession.requested requestId location] })
  | .findUnmarked, env, world =>
      statement env world fun w => ((Entity.VpnSession.unmarked w.vpnSession).head?, w)
  | .findUnmarkedById requestId, env, world =>
      statement env world fun w =>
        ((Entity.VpnSession.unmarked w.vpnSession).find? (·.requestId = requestId.toText), w)
  | .findVpnSession, env, world =>
      statement env world fun w => (w.vpnSession.head?, w)
  | .findMarked, env, world =>
      statement env world fun w => (w.vpnSession.filter (·.markForDeletion), w)
  | .markForDeletion requestId, env, world =>
      statement env world fun w =>
        ((), { w with
          vpnSession := Entity.VpnSession.updateById requestId .mark w.vpnSession })
  | .markAllForDeletion, env, world =>
      statement env world fun w =>
        ((), { w with vpnSession := w.vpnSession.map .mark })
  | .setAccepted requestId vpnSessionUuid, env, world =>
      statement env world fun w =>
        ((), { w with
          vpnSession := Entity.VpnSession.updateById requestId.toText
            (.setAccepted vpnSessionUuid) w.vpnSession
          history :=
            if Entity.VpnSession.hasId requestId.toText w.vpnSession then
              w.history ++ [.accepted requestId]
            else w.history })
  | .updateVpnSession requestId set, env, world =>
      checked env world fun w =>
        if Entity.VpnSession.hasId requestId w.vpnSession then
          .ok ((), { w with
            vpnSession := Entity.VpnSession.updateById requestId (·.patch set) w.vpnSession })
        else .error .recordNotUpdated
  | .deleteVpnSession requestId, env, world =>
      statement env world fun w =>
        ((), { w with vpnSession := Entity.VpnSession.deleteById requestId w.vpnSession })
  | .findDevice, env, world => statement env world fun w => (w.device.head?, w)
  | .findDeviceUniqueId, env, world =>
      statement env world fun w => (w.device.head?.map (·.uniqueId), w)
  | .findDeviceById uniqueId, env, world =>
      statement env world fun w => (w.device.find? (·.uniqueId = uniqueId), w)
  | .insertDevice device, env, world =>
      checked env world fun w =>
        if w.device.any (·.uniqueId = device.uniqueId) then
          .error (.exec "UNIQUE constraint failed: device.unique_id")
        else .ok ((), { w with device := w.device ++ [device] })
  | .updateDeviceIpv4 uniqueId ipv4Address, env, world =>
      checked env world fun w =>
        match w.device.find? (·.uniqueId = uniqueId) with
        | none => .error .recordNotUpdated
        | some device =>
            let updated := { device with ipv4Address := some ipv4Address }
            .ok (updated, { w with
              device := w.device.map fun d => if d.uniqueId = uniqueId then updated else d })
  | .deleteDevices, env, world =>
      statement env world fun w => ((), { w with device := [] })
  | .createNew, env, world => (env.createNew, world)
  | .findToken, env, world => statement env world fun w => (w.token.head?, w)
  | .insertToken token, env, world =>
      statement env world fun w =>
        let row : Entity.Token := { id := w.tokenSequence + 1, token }
        (row, { w with token := w.token ++ [row], tokenSequence := w.tokenSequence + 1 })
  | .deleteTokensBelow id, env, world =>
      statement env world fun w =>
        ((), { w with token := w.token.filter fun row => !(row.id < id) })
  | .deleteTokens, env, world =>
      statement env world fun w => ((), { w with token := [] })
  | .deleteRecent code, env, world =>
      statement env world fun w =>
        ((), { w with recentLocations := w.recentLocations.filter (·.code ≠ code) })
  | .insertRecent location, env, world =>
      statement env world fun w =>
        ((), { w with
          recentLocations := w.recentLocations ++
            [{ id := w.recentSequence + 1
               code := location.code
               city := location.city
               cityCode := location.cityCode
               country := location.country
               countryCode := location.countryCode
               state := location.state
               stateCode := location.stateCode }]
          recentSequence := w.recentSequence + 1 })
  | .trimRecent limit, env, world =>
      statement env world fun w =>
        let kept := ((w.recentLocations.map (·.id)).insertionSort (· ≥ ·)).take limit
        ((), { w with recentLocations := w.recentLocations.filter (·.id ∈ kept) })
  | .readState, _, world => (world.state, world)
  | .writeState state, _, world =>
      ((), { world with
        state
        live := if state.vpnStatus = .disconnected then world.live.filter world.isClaimless
          else world.live })
  | .writeServiceToken token, _, world => ((), { world with serviceToken := token })
  | .sendTunnelCommand command, _, world =>
      ((), { world with tunnelCommands := world.tunnelCommands ++ [command] })
  | .broadcast event, _, world =>
      ((), { world with broadcasts := world.broadcasts ++ [event] })
  | .respond response, _, world =>
      ((), { world with responses := world.responses ++ [response] })
  | .spawn task, _, world => ((), { world with spawned := world.spawned ++ [task] })
  | .sendDeviceCommand command, _, world =>
      ((), { world with deviceCommands := world.deviceCommands ++ [command] })
  | .sendNewSession request, _, world =>
      ((), { world with live := some (world.requesting request) })
  | .awaitNewSession _, env, world =>
      match env.newSession with
      | .ok accepted => (.ok accepted, world)
      | .error error => (.error error, { world with live := none })
  | .endSession caller request, env, world =>
      let reply := retry env.endSession env.endSessionRetries
      (reply, { world with
        history := world.history ++ [.endReply caller request.requestId reply] })
  | .clientConnected _, env, world => (env.clientConnected, world)
  | .connectServer, env, world => (env.connect, world)
  | .addDevice _, env, world => (env.addDevice, world)
  | .signOut, env, world => (env.signOut, world)

end World

/-- What the operations of the daemon do. -/
@[reducible]
def semantics : Semantics ops Env World where
  answer := World.answer

end Modvpn
