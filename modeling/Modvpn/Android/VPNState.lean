/-
# The states of the Android client

`VPNOrchestratorState` is what the orchestrator knows of its session, and `VPNState`
is what its clients are shown. A session is named by the request id that the server's
answers carry, and each state after the first takes its name from such an answer.

The WireGuard library parses keys and endpoints, and throws on text it does not
accept; which text that is stays a parameter.
-/

import Modvpn.Types.Net
import Modvpn.Types.Uuid

namespace Modvpn.Android

structure Location where
  code : String
  country : String
  countryCode : String
  city : String
  cityCode : String
  state : Option String
  stateCode : Option String
  estimate : Option Int16
  deriving DecidableEq

/-! ## Answers of the server -/

structure Accepted where
  requestId : Uuid
  vpnSessionUuid : Uuid
  deriving DecidableEq

structure Failed where
  requestId : Uuid
  vpnSessionUuid : Uuid
  deriving DecidableEq

structure ServerCreated where
  requestId : Uuid
  vpnSessionUuid : Uuid
  deriving DecidableEq

structure ServerRunning where
  requestId : Uuid
  vpnSessionUuid : Uuid
  deriving DecidableEq

structure ServerReady where
  requestId : Uuid
  vpnSessionUuid : Uuid
  publicKey : String
  ipv4Endpoint : String
  privateIpv4 : Ipv4Addr
  deriving DecidableEq

structure ClientConnected where
  requestId : Uuid
  deviceUniqueId : Uuid
  vpnSessionUuid : Uuid
  deriving DecidableEq

structure Ended where
  requestId : Uuid
  vpnSessionUuid : Uuid
  reason : String
  deriving DecidableEq

inductive VpnSessionStatus
  | accepted (content : Accepted)
  | failed (content : Failed)
  | serverCreated (content : ServerCreated)
  | serverRunning (content : ServerRunning)
  | serverReady (content : ServerReady)
  | clientConnected (content : ClientConnected)
  | ended (content : Ended)
  deriving DecidableEq

namespace VpnSessionStatus

def requestId : VpnSessionStatus → Uuid
  | .accepted content => content.requestId
  | .failed content => content.requestId
  | .serverCreated content => content.requestId
  | .serverRunning content => content.requestId
  | .serverReady content => content.requestId
  | .clientConnected content => content.requestId
  | .ended content => content.requestId

def isFailed : VpnSessionStatus → Bool
  | .failed _ => true
  | _ => false

def isEnded : VpnSessionStatus → Bool
  | .ended _ => true
  | _ => false

def isServerReady : VpnSessionStatus → Bool
  | .serverReady _ => true
  | _ => false

end VpnSessionStatus

/-! ## Configuration of the tunnel -/

/-- The text that the WireGuard library accepts. -/
structure WireGuard where
  inetNetwork : String → Bool
  key : String → Bool
  inetEndpoint : String → Bool

structure Interface where
  address : String
  dnsServer : String
  privateKey : String
  mtu : Nat
  deriving DecidableEq

structure Peer where
  endpoint : String
  publicKey : String
  allowedIps : String
  persistentKeepalive : Nat
  deriving DecidableEq

structure Config where
  interFace : Interface
  peer : Peer
  deriving DecidableEq

/-- The builder throws where the server sent an endpoint or a key it does not accept. -/
def toConfig (wireGuard : WireGuard) (interFace : Interface) (serverReady : ServerReady) :
    Except String Config :=
  if !wireGuard.inetEndpoint serverReady.ipv4Endpoint then .error "BadConfigException"
  else if !wireGuard.key serverReady.publicKey then .error "BadConfigException"
  else
    .ok {
      interFace
      peer := {
        endpoint := serverReady.ipv4Endpoint
        publicKey := serverReady.publicKey
        allowedIps := "0.0.0.0/0, ::0/0"
        persistentKeepalive := 25 } }

/-! ## The orchestrator's state -/

/-- What the clients of the service are shown. -/
inductive VPNState
  | disconnected
  | requesting (location : Location)
  | accepted (location : Location)
  | serverCreated (location : Location)
  | serverRunning (location : Location)
  | serverReady (location : Location)
  | connecting (location : Location)
  | connected (location : Location) (time : Nat)
  | disconnecting (location : Location)
  deriving DecidableEq

def VPNState.progress : VPNState → Nat
  | .requesting _ => 10
  | .accepted _ => 25
  | .serverCreated _ => 50
  | .serverRunning _ => 75
  | .serverReady _ => 80
  | .connecting _ => 95
  | .connected _ _ => 100
  | .disconnecting _ | .disconnected => 0

inductive VPNOrchestratorState
  | disconnected
  | requesting (requestId : Uuid) (location : Location)
  | accepted (location : Location) (accepted : Accepted) (interFace : Interface)
  | serverCreated (location : Location) (serverCreated : ServerCreated) (interFace : Interface)
  | serverRunning (location : Location) (serverRunning : ServerRunning) (interFace : Interface)
  | serverReady (location : Location) (serverReady : ServerReady) (config : Config)
  | connecting (location : Location) (serverReady : ServerReady) (config : Config)
  | connected (location : Location) (time : Nat) (serverReady : ServerReady) (config : Config)
  | disconnecting (location : Location)
  deriving DecidableEq

namespace VPNOrchestratorState

def isDisconnected : VPNOrchestratorState → Bool
  | .disconnected => true
  | _ => false

def isConnected : VPNOrchestratorState → Bool
  | .connected _ _ _ _ => true
  | _ => false

def isDisconnectingOrDisconnected : VPNOrchestratorState → Bool
  | .disconnected | .disconnecting _ => true
  | _ => false

/-- The session in progress, if there is one. -/
def requestId : VPNOrchestratorState → Option Uuid
  | .disconnected | .disconnecting _ => none
  | .requesting requestId _ => some requestId
  | .accepted _ content _ => some content.requestId
  | .serverCreated _ content _ => some content.requestId
  | .serverRunning _ content _ => some content.requestId
  | .serverReady _ content _ | .connecting _ content _ | .connected _ _ content _ =>
      some content.requestId

def toVPNState : VPNOrchestratorState → VPNState
  | .disconnected => .disconnected
  | .requesting _ location => .requesting location
  | .accepted location _ _ => .accepted location
  | .serverCreated location _ _ => .serverCreated location
  | .serverRunning location _ _ => .serverRunning location
  | .serverReady location _ _ => .serverReady location
  | .connecting location _ _ => .connecting location
  | .connected location time _ _ => .connected location time
  | .disconnecting location => .disconnecting location

/-- The next state, whether the tunnel is to be turned off, and the session to end. -/
def transitionOnDisconnect : VPNOrchestratorState → VPNOrchestratorState × Bool × Option Uuid
  | .disconnected => (.disconnected, false, none)
  | .requesting requestId _ => (.disconnected, false, some requestId)
  | .accepted _ content _ => (.disconnected, false, some content.requestId)
  | .serverCreated _ content _ => (.disconnected, false, some content.requestId)
  | .serverRunning _ content _ => (.disconnected, false, some content.requestId)
  | .serverReady _ content _ => (.disconnected, false, some content.requestId)
  -- the previous disconnect would already be in progress
  | .disconnecting location => (.disconnecting location, false, none)
  | .connecting location content _ => (.disconnecting location, true, some content.requestId)
  | .connected location _ content _ => (.disconnecting location, true, some content.requestId)

/-- Moves forward only, except that any session may have failed. -/
def newStateFromUpdate (wireGuard : WireGuard) (state : VPNOrchestratorState)
    (location : Location) : VpnSessionStatus → Except String (Option VPNOrchestratorState)
  | .accepted _ =>
      match state with
      | .accepted _ _ _ => .ok (some state)
      | _ => .ok none
  | .failed _ => .ok (some .disconnected)
  | .serverCreated content =>
      match state with
      | .accepted _ _ interFace => .ok (some (.serverCreated location content interFace))
      | .serverCreated _ _ _ => .ok (some state)
      | _ => .ok none
  | .serverRunning content =>
      match state with
      | .accepted _ _ interFace | .serverCreated _ _ interFace =>
          .ok (some (.serverRunning location content interFace))
      | .serverRunning _ _ _ => .ok (some state)
      | _ => .ok none
  | .serverReady content =>
      match state with
      | .accepted _ _ interFace | .serverCreated _ _ interFace | .serverRunning _ _ interFace =>
          (toConfig wireGuard interFace content).map fun config =>
            some (.serverReady location content config)
      | .serverReady _ _ _ => .ok (some state)
      | _ => .ok none
  | .clientConnected _ | .ended _ => .ok none

end VPNOrchestratorState

end Modvpn.Android
