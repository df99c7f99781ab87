/-
# What the daemon and its clients send each other

The messages of the controller service as protobuf has them, with the conversions from
the daemon's types and back. A time is two numbers on the wire, and to read it back the
client asks chrono whether they are a time at all. Where they are not, a status panics and
a notification is an error.
-/

import Modvpn.Server.Conversions

namespace Modvpn

/-! ## Times -/

namespace Chrono

/-- The seconds for which there is a date. -/
structure DateRange where
  first : Int
  last : Int
  i64_first : Int64.minValue.toInt ≤ first
  last_i64 : last ≤ Int64.maxValue.toInt

/-- The value has a date. -/
def DateRange.Holds (range : DateRange) (value : DateTimeUtc) : Prop :=
  range.first ≤ value.timestamp ∧ value.timestamp ≤ range.last

/-- A mapping of local time, which `Utc` never finds ambiguous. -/
inductive LocalResult
  | single (value : DateTimeUtc)
  | ambiguous (earliest latest : DateTimeUtc)
  | none

/-- `DateTime::timestamp`. -/
def timestamp (value : DateTimeUtc) : Int64 := .ofInt value.timestamp

/-- `DateTime::timestamp_subsec_nanos`. -/
def timestampSubsecNanos (value : DateTimeUtc) : UInt32 := .ofNat value.nanos

/-- `Utc.timestamp_opt`: leap seconds are accepted at the end of a minute. -/
def timestampOpt (range : DateRange) (secs : Int64) (nsecs : UInt32) : LocalResult :=
  if h : (range.first ≤ secs.toInt ∧ secs.toInt ≤ range.last) ∧ nsecs.toNat < 2000000000 ∧
      (1000000000 ≤ nsecs.toNat → secs.toInt % 60 = 59) then
    .single { timestamp := secs.toInt, nanos := nsecs.toNat, nanos_lt := h.2.1 }
  else .none

end Chrono

namespace Controller

/-- `prost_types::Timestamp`. -/
structure Timestamp where
  seconds : Int64
  nanos : Int32
  deriving DecidableEq

variable (range : Chrono.DateRange)

def timestampToDatetimeUtc (timestamp : Option Timestamp) : Except String DateTimeUtc :=
  match timestamp with
  | none => .error "no timestamp"
  | some timestamp =>
      match Chrono.timestampOpt range timestamp.seconds timestamp.nanos.toUInt32 with
      | .single dtu => .ok dtu
      | .none => .error "invalid utc time none"
      | .ambiguous a _ => .ok a

def datetimeUtcToTimestamp (datetimeUtc : DateTimeUtc) : Timestamp where
  seconds := Chrono.timestamp datetimeUtc
  nanos := max (Chrono.timestampSubsecNanos datetimeUtc).toInt32 0

/-! ## Messages -/

structure Location where
  code : String
  country : String
  countryCode : String
  city : String
  cityCode : String
  state : Option String
  stateCode : Option String
  estimate : Option UInt32
  deriving DecidableEq

structure Locations where
  location : List Location
  deriving DecidableEq

/-- The `oneof` of a status. All but two of its messages have a location only. -/
inductive OneofVpnStatus
  | accepted (location : Option Location)
  | connecting (location : Option Location)
  | serverCreated (location : Option Location)
  | serverRunning (location : Option Location)
  | serverReady (location : Option Location)
  | connected (location : Option Location) (timestamp : Option Timestamp)
  | disconnecting (location : Option Location)
  | disconnected
  deriving DecidableEq

structure VpnStatus where
  vpnStatus : Option OneofVpnStatus
  deriving DecidableEq

structure Notification where
  id : String
  /-- An enumeration is a number. -/
  notificationType : Int32
  message : String
  timestamp : Option Timestamp
  deriving DecidableEq

structure Notifications where
  notification : List Notification
  deriving DecidableEq

/-! ## Conversions -/

def Location.ofLocation (value : Modvpn.Location) : Location where
  code := value.code
  country := value.country
  countryCode := value.countryCode
  city := value.city
  cityCode := value.cityCode
  state := value.state
  stateCode := value.stateCode
  estimate := value.estimate

def Location.into (value : Location) : Modvpn.Location where
  code := value.code
  country := value.country
  countryCode := value.countryCode
  city := value.city
  cityCode := value.cityCode
  state := value.state
  stateCode := value.stateCode
  estimate := value.estimate

def Locations.ofLocations (value : List Modvpn.Location) : Locations where
  location := value.map .ofLocation

def Locations.into (value : Locations) : List Modvpn.Location := value.location.map Location.into

def VpnStatus.ofVpnStatus (value : Modvpn.VpnStatus) : VpnStatus where
  vpnStatus := some <| match value with
    | .accepted location => .accepted (some (.ofLocation location))
    | .connecting location => .connecting (some (.ofLocation location))
    | .serverRunning location => .serverRunning (some (.ofLocation location))
    | .serverReady location => .serverReady (some (.ofLocation location))
    | .connected location connectedTime =>
        .connected (some (.ofLocation location)) (some (datetimeUtcToTimestamp connectedTime))
    | .disconnecting location => .disconnecting (some (.ofLocation location))
    | .disconnected => .disconnected
    | .serverCreated location => .serverCreated (some (.ofLocation location))

/-- `Result::unwrap` of a text, which the panic shows. -/
def unwrapShown {α : Type} : Except String α → Conversion α
  | .ok value => .ok value
  | .error error => .error ("called `Result::unwrap()` on an `Err` value: " ++ error.quote)

/-- `location.unwrap().into()`. -/
def located (location : Option Location) : Conversion Modvpn.Location :=
  Location.into <$> Conversion.unwrapOption location

def VpnStatus.into (value : VpnStatus) : Conversion Modvpn.VpnStatus := do
  match ← Conversion.unwrapOption value.vpnStatus with
  | .accepted location => return .accepted (← located location)
  | .connecting location => return .connecting (← located location)
  | .serverRunning location => return .serverRunning (← located location)
  | .serverReady location => return .serverReady (← located location)
  | .connected location timestamp =>
      let location ← located location
      let since ← unwrapShown (timestampToDatetimeUtc range timestamp)
      return .connected location since
  | .disconnecting location => return .disconnecting (← located location)
  | .disconnected => return .disconnected
  | .serverCreated location => return .serverCreated (← located location)

/-- `From<NotificationType> for i32`. -/
def notificationTypeOfType : NotificationType → Int32
  | .serverFailed => 0
  | .clientFailed => 1

/-- `TryFrom<i32> for NotificationType`. -/
def notificationTypeTryFrom (value : Int32) : Except String NotificationType :=
  if value = 0 then .ok .serverFailed
  else if value = 1 then .ok .clientFailed
  else .error ("invalid notification type value: " ++ toString value)

def Notification.ofNotification (value : Modvpn.Notification) : Notification :=
  let seconds := Chrono.timestamp value.timestamp
  let nanos := Chrono.timestampSubsecNanos value.timestamp
  { id := value.id
    notificationType := notificationTypeOfType value.notificationType
    message := value.message
    timestamp := some { seconds, nanos := nanos.toInt32 } }

def Notification.tryInto (value : Notification) : Except String Modvpn.Notification := do
  let notificationType ← notificationTypeTryFrom value.notificationType
  let timestamp ← timestampToDatetimeUtc range value.timestamp
  return { id := value.id, message := value.message, notificationType, timestamp }

def Notifications.ofNotifications (value : List Modvpn.Notification) : Notifications where
  notification := value.map .ofNotification

def Notifications.tryInto (value : Notifications) : Except String (List Modvpn.Notification) :=
  value.notification.mapM (Notification.tryInto range)

end Controller

end Modvpn
