/-
# Rows of the daemon's database and the state it keeps in memory

The database outlives the process; the status and the notifications do not. A
notification map is an association list with at most one entry a key, because
insertion replaces, and its order carries no meaning until it is sorted.
-/

import Mathlib.Data.List.Sort
import Modvpn.Types.Session

namespace Modvpn

namespace Entity

/-- A row of `vpn_session`, less the request time, which nothing reads. -/
structure VpnSession where
  requestId : String
  locationCode : String
  locationCity : String
  locationCityCode : String
  locationCountry : String
  locationCountryCode : String
  locationState : Option String
  locationStateCode : Option String
  serverStatus : Option String
  sessionUuid : Option String
  serverIpv4Endpoint : Option String
  serverPrivateIpv4 : Option String
  serverPublicKey : Option String
  markForDeletion : Bool
  deriving DecidableEq

/-- `From<vpn_session::Model> for Location`: the estimate is not stored. -/
def VpnSession.toLocation (row : VpnSession) : Location where
  code := row.locationCode
  country := row.locationCountry
  countryCode := row.locationCountryCode
  city := row.locationCity
  cityCode := row.locationCityCode
  state := row.locationState
  stateCode := row.locationStateCode
  estimate := none

/-- The active model that `new_session` inserts. -/
def VpnSession.requested (requestId : Uuid) (location : Location) : VpnSession where
  requestId := requestId.toText
  locationCode := location.code
  locationCity := location.city
  locationCityCode := location.cityCode
  locationCountry := location.country
  locationCountryCode := location.countryCode
  locationState := location.state
  locationStateCode := location.stateCode
  serverStatus := none
  sessionUuid := none
  serverIpv4Endpoint := none
  serverPrivateIpv4 := none
  serverPublicKey := none
  markForDeletion := false

/-- The columns an active model sets before it is updated; `none` is a column
that stays as it is in the table. -/
structure VpnSessionPatch where
  serverStatus : Option String := none
  serverIpv4Endpoint : Option String := none
  serverPrivateIpv4 : Option String := none
  serverPublicKey : Option String := none
  deriving DecidableEq

/-- Write the columns that are set and no others. -/
def VpnSession.patch (row : VpnSession) (set : VpnSessionPatch) : VpnSession :=
  { row with
    serverStatus := set.serverStatus.or row.serverStatus
    serverIpv4Endpoint := set.serverIpv4Endpoint.or row.serverIpv4Endpoint
    serverPrivateIpv4 := set.serverPrivateIpv4.or row.serverPrivateIpv4
    serverPublicKey := set.serverPublicKey.or row.serverPublicKey }

/-- A row of `device`. -/
structure Device where
  uniqueId : String
  name : String
  version : String
  arch : String
  deviceType : String
  privateKey : String
  ipv4Address : Option String
  createdAt : String
  deriving DecidableEq

/-- A row of `token`. -/
structure Token where
  id : Nat
  token : String
  deriving DecidableEq

/-- A row of `recent_locations`. -/
structure RecentLocation where
  id : Nat
  code : String
  city : String
  cityCode : String
  country : String
  countryCode : String
  state : Option String
  stateCode : Option String
  deriving DecidableEq

end Entity

/-! ## Server status as the database spells it -/

inductive StorageServerStatus
  | accepted
  | failed
  | serverCreated
  | serverRunning
  | serverReady
  | clientConnected
  | ended
  deriving DecidableEq

/-- `From<StorageServerStatus> for String`. -/
def StorageServerStatus.toText : StorageServerStatus → String
  | .accepted => "Accepted"
  | .failed => "Failed"
  | .serverCreated => "ServerCreated"
  | .serverRunning => "ServerRunning"
  | .serverReady => "ServerReady"
  | .clientConnected => "ClientConnected"
  | .ended => "Ended"

/-- The identifiers of one server session. -/
structure SessionInfo where
  requestId : Uuid
  vpnSessionId : Uuid
  deriving DecidableEq

/-! ## The in-memory state -/

def serverUnavailablePleaseTryAgainLater : String :=
  "server is unavailable, please try again later"

def vpnSessionServiceUnavailable : String :=
  "daemon is partially up: vpn session service unavailable"

/-- Later moments first; leap seconds sort after the second they extend. -/
def DateTimeUtc.notBefore (first second : DateTimeUtc) : Prop :=
  second.timestamp < first.timestamp ∨
    (second.timestamp = first.timestamp ∧ second.nanos ≤ first.nanos)

instance : DecidableRel DateTimeUtc.notBefore := fun first second =>
  inferInstanceAs (Decidable (second.timestamp < first.timestamp ∨
    (second.timestamp = first.timestamp ∧ second.nanos ≤ first.nanos)))

structure DaemonState where
  vpnStatus : VpnStatus
  notificationMap : List (String × Notification)
  deriving DecidableEq

namespace DaemonState

def new : DaemonState where
  vpnStatus := .disconnected
  notificationMap := []

def setVpnStatus (state : DaemonState) (vpnStatus : VpnStatus) : DaemonState :=
  { state with vpnStatus }

/-- The status a disconnect request leads to. -/
def statusOnDisconnect : VpnStatus → VpnStatus
  | .accepted _ | .serverCreated _ | .serverRunning _ | .disconnected => .disconnected
  | .serverReady location | .connecting location | .connected location _
  | .disconnecting location => .disconnecting location

def updateStateOnDisconnect (state : DaemonState) : DaemonState :=
  state.setVpnStatus (statusOnDisconnect state.vpnStatus)

def vpnSessionInProgress (state : DaemonState) : Option Location :=
  match state.vpnStatus with
  | .accepted location | .serverCreated location | .serverRunning location
  | .serverReady location | .connecting location | .connected location _
  | .disconnecting location => some location
  | .disconnected => none

def accepted (state : DaemonState) (location : Location) : DaemonState :=
  state.setVpnStatus (.accepted location)

/-- `HashMap::insert`. -/
def insertNotification (state : DaemonState) (id : String)
    (notification : Notification) : DaemonState :=
  { state with
    notificationMap := (id, notification) :: state.notificationMap.filter (·.1 ≠ id) }

def addNotification (state : DaemonState) (notification : Notification) : DaemonState :=
  state.insertNotification notification.id notification

/-- The user facing message of a session the server did not accept. -/
def messageOfError : VpnSessionError → String
  | .vpnSessionServiceDown => vpnSessionServiceUnavailable
  | .connection _ => serverUnavailablePleaseTryAgainLater
  | .server status => status.message

def addNotificationForFailedNewSession (state : DaemonState) (requestId : Uuid)
    (_location : Location) (error : VpnSessionError) (timestamp : DateTimeUtc) :
    Notification × DaemonState :=
  let notification : Notification :=
    { id := requestId.toText
      message := messageOfError error
      notificationType := .serverFailed
      timestamp }
  (notification, state.insertNotification requestId.toText notification)

def removeNotification (state : DaemonState) (id : String) : DaemonState :=
  { state with notificationMap := state.notificationMap.filter (·.1 ≠ id) }

def notifications (state : DaemonState) : List Notification :=
  (state.notificationMap.map (·.2)).insertionSort fun first second =>
    first.timestamp.notBefore second.timestamp

/-! ## The two lemmas every guard rests on -/

@[simp]
theorem vpnSessionInProgress_eq_none {state : DaemonState} :
    state.vpnSessionInProgress = none ↔ state.vpnStatus = .disconnected := by
  unfold vpnSessionInProgress
  split <;> simp_all

@[simp]
theorem setVpnStatus_vpnStatus (state : DaemonState) (vpnStatus : VpnStatus) :
    (state.setVpnStatus vpnStatus).vpnStatus = vpnStatus := rfl

@[simp]
theorem addNotification_vpnStatus (state : DaemonState) (notification : Notification) :
    (state.addNotification notification).vpnStatus = state.vpnStatus := rfl

@[simp]
theorem removeNotification_vpnStatus (state : DaemonState) (id : String) :
    (state.removeNotification id).vpnStatus = state.vpnStatus := rfl

@[simp]
theorem updateStateOnDisconnect_vpnStatus (state : DaemonState) :
    state.updateStateOnDisconnect.vpnStatus = statusOnDisconnect state.vpnStatus := rfl

@[simp]
theorem accepted_vpnStatus (state : DaemonState) (location : Location) :
    (state.accepted location).vpnStatus = .accepted location := rfl

@[simp]
theorem addNotificationForFailedNewSession_vpnStatus (state : DaemonState)
    (requestId : Uuid) (location : Location) (error : VpnSessionError)
    (timestamp : DateTimeUtc) :
    (state.addNotificationForFailedNewSession requestId location error
      timestamp).2.vpnStatus = state.vpnStatus := rfl

end DaemonState

end Modvpn
