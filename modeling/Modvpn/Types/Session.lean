/-
# The shared vocabulary of daemon, server and clients

Locations, the daemon's VPN status, notifications, and the messages exchanged
with the server. Every message names the request it belongs to and, once the
server has accepted, the server's session.
-/

import Modvpn.Types.Uuid
import Modvpn.Types.Net

namespace Modvpn

/-- `DateTime<Utc>`: seconds since the epoch and the nanoseconds within. Values
from one thousand million on are leap seconds. -/
structure DateTimeUtc where
  timestamp : Int
  nanos : Nat
  nanos_lt : nanos < 2000000000
  deriving DecidableEq

/-- A server location as clients see it. -/
structure Location where
  code : String
  country : String
  countryCode : String
  city : String
  cityCode : String
  state : Option String
  stateCode : Option String
  estimate : Option UInt32
  deriving DecidableEq

/-- The daemon's in-memory status of server and tunnel. -/
inductive VpnStatus
  | accepted (location : Location)
  | serverCreated (location : Location)
  | serverRunning (location : Location)
  | serverReady (location : Location)
  | connecting (location : Location)
  | connected (location : Location) (since : DateTimeUtc)
  | disconnecting (location : Location)
  | disconnected
  deriving DecidableEq

namespace VpnStatus

/-- `Display`, as far as it is part of a message. -/
def toText : VpnStatus → String
  | .accepted location => "Status: Accepted, City: " ++ location.city
  | .connected location _ => "Status: Connected, City: " ++ location.city
  | .connecting location => "Status: Connecting, City: " ++ location.city
  | .disconnected => "Status: Disconnected"
  | .disconnecting location => "Status: Disconnecting, City: " ++ location.city
  | .serverCreated location => "Status: ServerCreated, City: " ++ location.city
  | .serverRunning location => "Status: ServerRunning, City: " ++ location.city
  | .serverReady location => "Status: ServerReady, City: " ++ location.city

end VpnStatus

inductive NotificationType
  | serverFailed
  | clientFailed
  deriving DecidableEq

structure Notification where
  id : String
  message : String
  notificationType : NotificationType
  timestamp : DateTimeUtc
  deriving DecidableEq

/-! ## Messages to and from the server -/

structure NewSession where
  requestId : Uuid
  deviceUniqueId : Uuid
  locationCode : String
  deriving DecidableEq

structure EndSession where
  requestId : Uuid
  deviceUniqueId : Uuid
  vpnSessionUuid : Uuid
  reason : String
  deriving DecidableEq

structure ClientConnected where
  requestId : Uuid
  deviceUniqueId : Uuid
  vpnSessionUuid : Uuid
  deriving DecidableEq

structure Accepted where
  requestId : Uuid
  vpnSessionUuid : Uuid
  deriving DecidableEq

structure Failed where
  requestId : Uuid
  vpnSessionUuid : Uuid
  deriving DecidableEq

structure ServerCreated where
  requestId : Uuid
  vpnSessionUuid : Uuid
  deriving DecidableEq

structure ServerRunning where
  requestId : Uuid
  vpnSessionUuid : Uuid
  deriving DecidableEq

structure ServerReady where
  requestId : Uuid
  vpnSessionUuid : Uuid
  publicKey : String
  ipv4Endpoint : SocketAddr
  privateIpv4 : Ipv4Addr
  deriving DecidableEq

structure Ended where
  requestId : Uuid
  vpnSessionUuid : Uuid
  reason : String
  deriving DecidableEq

/-- What the server reports about a session when it is polled. -/
inductive VpnSessionStatus
  | accepted (accepted : Accepted)
  | failed (failed : Failed)
  | serverCreated (serverCreated : ServerCreated)
  | serverRunning (serverRunning : ServerRunning)
  | serverReady (serverReady : ServerReady)
  | clientConnected (clientConnected : ClientConnected)
  | ended (ended : Ended)
  deriving DecidableEq

structure UserCredentials where
  email : String
  password : String
  deriving DecidableEq

inductive DeviceType
  | linux
  | macOS
  | windows
  | ios
  | android
  deriving DecidableEq

structure DeviceAddresses where
  ipv4Address : Ipv4Addr
  deriving DecidableEq

/-- The 32 bytes of a WireGuard key. -/
abbrev Key := Vector UInt8 32

structure WireguardMetadata where
  privateKey : Key
  deviceAddresses : Option DeviceAddresses
  deriving DecidableEq

structure DeviceDetails where
  name : String
  version : String
  arch : String
  uniqueId : Uuid
  deviceType : DeviceType
  wireguardMeta : WireguardMetadata
  createdAt : DateTimeUtc
  deriving DecidableEq

structure AddDeviceResponse where
  token : String
  deviceAddresses : DeviceAddresses
  deriving DecidableEq

/-! ## Errors of remote calls -/

/-- gRPC status codes. -/
inductive Code
  | ok
  | cancelled
  | unknown
  | invalidArgument
  | deadlineExceeded
  | notFound
  | alreadyExists
  | permissionDenied
  | resourceExhausted
  | failedPrecondition
  | aborted
  | outOfRange
  | unimplemented
  | internal
  | unavailable
  | dataLoss
  | unauthenticated
  deriving DecidableEq

structure Status where
  code : Code
  message : String
  deriving DecidableEq

/-- Why a call through the session service failed. -/
inductive VpnSessionError
  | vpnSessionServiceDown
  | connection (error : String)
  | server (status : Status)
  deriving DecidableEq

/-- A failed database statement. -/
inductive DbErr
  | conn (message : String)
  | exec (message : String)
  | query (message : String)
  | recordNotFound (message : String)
  | recordNotUpdated
  | custom (message : String)
  deriving DecidableEq

inductive DeviceError
  | deviceServiceUnavailable
  | server (status : Status)
  | connection (error : String)
  | dbErr (error : DbErr)
  | initError (message : String)
  deriving DecidableEq

inductive DaemonError
  | daemonUnavailable
  | anotherVpnSessionInProgress (location : Location)
  | invalidOpVpnSessionInProgress (message : String)
  | dbErr (error : DbErr)
  | deviceError (error : DeviceError)
  | vpnSessionError (error : VpnSessionError)
  deriving DecidableEq

/-! ## The tunnel's vocabulary -/

inductive TunnelCommand
  | connect
  | disconnect
  deriving DecidableEq

inductive ActionAfterDisconnect
  | nothing
  | block
  | reconnect
  deriving DecidableEq

/-- The state of a tunnel that gave up; only its cause is ever shown. -/
structure ErrorState where
  cause : String
  deriving DecidableEq

inductive TunnelStateTransition
  | disconnected
  | connecting
  | connected
  | disconnecting (action : ActionAfterDisconnect)
  | error (errorState : ErrorState)
  deriving DecidableEq

end Modvpn
