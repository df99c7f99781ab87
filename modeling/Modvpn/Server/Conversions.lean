/-
# Replies on the wire

The messages with which the server answers, as protobuf decodes them: every string and
number is there, a message inside another may be missing, and so may the one of several.
Conversions into the daemon's own types unwrap what they read, so a conversion returns a
value or panics with a message.
-/

import Modvpn.Types.Session

namespace Modvpn

/-- What a conversion evaluates to, or the message it panics with. -/
abbrev Conversion (α : Type) := Except String α

namespace Conversion

/-- `Option::unwrap`. -/
def unwrapOption {α : Type} : Option α → Conversion α
  | some value => .ok value
  | none => .error "called `Option::unwrap()` on a `None` value"

/-- `Result::unwrap`, of a reader whose error is not looked at. -/
def unwrapResult {α : Type} : Option α → Conversion α
  | some value => .ok value
  | none => .error "called `Result::unwrap()` on an `Err` value"

end Conversion

namespace Proto

structure Accepted where
  requestId : String
  vpnSessionUuid : String
  deriving DecidableEq

structure ServerCreated where
  requestId : String
  vpnSessionUuid : String
  deriving DecidableEq

structure Failed where
  requestId : String
  vpnSessionUuid : String
  deriving DecidableEq

structure ServerRunning where
  requestId : String
  vpnSessionUuid : String
  deriving DecidableEq

structure ServerReady where
  requestId : String
  vpnSessionUuid : String
  publicKey : String
  ipv4Endpoint : String
  privateIpv4 : String
  deriving DecidableEq

structure ClientConnected where
  requestId : String
  deviceUniqueId : String
  vpnSessionUuid : String
  deriving DecidableEq

structure Ended where
  requestId : String
  vpnSessionUuid : String
  reason : String
  deriving DecidableEq

/-- The `oneof` of a status. -/
inductive State
  | accepted (accepted : Accepted)
  | failed (failed : Failed)
  | serverCreated (serverCreated : ServerCreated)
  | serverRunning (serverRunning : ServerRunning)
  | serverReady (serverReady : ServerReady)
  | clientConnected (clientConnected : ClientConnected)
  | ended (ended : Ended)
  deriving DecidableEq

structure VpnSessionStatus where
  state : Option State
  deriving DecidableEq

structure DeviceAddresses where
  ipv4Address : UInt32
  deriving DecidableEq

structure AddDeviceResponse where
  token : String
  deviceAddresses : Option DeviceAddresses
  deriving DecidableEq

/-! ## Conversions -/

/-- The two ids of a message, the request id first. -/
def ids (requestId vpnSessionUuid : String) : Conversion (Uuid × Uuid) := do
  let request ← Conversion.unwrapResult (Uuid.parseStr requestId)
  let session ← Conversion.unwrapResult (Uuid.parseStr vpnSessionUuid)
  return (request, session)

def Accepted.into (value : Accepted) : Conversion Modvpn.Accepted := do
  let (requestId, vpnSessionUuid) ← ids value.requestId value.vpnSessionUuid
  return { requestId, vpnSessionUuid }

def Ended.into (value : Ended) : Conversion Modvpn.Ended := do
  let (requestId, vpnSessionUuid) ← ids value.requestId value.vpnSessionUuid
  return { requestId, vpnSessionUuid, reason := value.reason }

def ServerRunning.into (value : ServerRunning) : Conversion Modvpn.ServerRunning := do
  let (requestId, vpnSessionUuid) ← ids value.requestId value.vpnSessionUuid
  return { requestId, vpnSessionUuid }

def ServerReady.into (value : ServerReady) : Conversion Modvpn.ServerReady := do
  let (requestId, vpnSessionUuid) ← ids value.requestId value.vpnSessionUuid
  let ipv4Endpoint ← Conversion.unwrapResult (SocketAddr.parse value.ipv4Endpoint)
  let privateIpv4 ← Conversion.unwrapResult (Ipv4Addr.parse value.privateIpv4)
  return { requestId, vpnSessionUuid, publicKey := value.publicKey, ipv4Endpoint, privateIpv4 }

def ServerCreated.into (value : ServerCreated) : Conversion Modvpn.ServerCreated := do
  let (requestId, vpnSessionUuid) ← ids value.requestId value.vpnSessionUuid
  return { requestId, vpnSessionUuid }

def Failed.into (value : Failed) : Conversion Modvpn.Failed := do
  let (requestId, vpnSessionUuid) ← ids value.requestId value.vpnSessionUuid
  return { requestId, vpnSessionUuid }

def ClientConnected.into (value : ClientConnected) : Conversion Modvpn.ClientConnected := do
  let requestId ← Conversion.unwrapResult (Uuid.parseStr value.requestId)
  let deviceUniqueId ← Conversion.unwrapResult (Uuid.parseStr value.deviceUniqueId)
  let vpnSessionUuid ← Conversion.unwrapResult (Uuid.parseStr value.vpnSessionUuid)
  return { requestId, deviceUniqueId, vpnSessionUuid }

def VpnSessionStatus.into (value : VpnSessionStatus) : Conversion Modvpn.VpnSessionStatus := do
  match ← Conversion.unwrapOption value.state with
  | .accepted accepted => return .accepted (← accepted.into)
  | .failed failed => return .failed (← failed.into)
  | .serverCreated serverCreated => return .serverCreated (← serverCreated.into)
  | .serverRunning serverRunning => return .serverRunning (← serverRunning.into)
  | .serverReady serverReady => return .serverReady (← serverReady.into)
  | .clientConnected clientConnected => return .clientConnected (← clientConnected.into)
  | .ended ended => return .ended (← ended.into)

/-- `Ipv4Addr::from` of a number, the first octet on top. -/
def ipv4OfBits (bits : UInt32) : Ipv4Addr where
  first := (bits >>> 24).toUInt8
  second := (bits >>> 16).toUInt8
  third := (bits >>> 8).toUInt8
  fourth := bits.toUInt8

def DeviceAddresses.into (value : DeviceAddresses) : Modvpn.DeviceAddresses where
  ipv4Address := ipv4OfBits value.ipv4Address

def AddDeviceResponse.into (value : AddDeviceResponse) : Conversion Modvpn.AddDeviceResponse := do
  let deviceAddresses ← Conversion.unwrapOption value.deviceAddresses
  return { token := value.token, deviceAddresses := deviceAddresses.into }

/-- `.map(|response| response.into_inner().into())` on the outcome of a call. -/
def received {ε α β : Type} (into : α → Conversion β) (reply : Except ε α) :
    Conversion (Except ε β) :=
  match reply with
  | .error error => .ok (.error error)
  | .ok response => (into response).map .ok

/-! ## Well-formed replies -/

/-- Both texts are identifiers. -/
def HasIds (requestId vpnSessionUuid : String) : Prop :=
  (Uuid.parseStr requestId).isSome = true ∧ (Uuid.parseStr vpnSessionUuid).isSome = true

instance (requestId vpnSessionUuid : String) : Decidable (HasIds requestId vpnSessionUuid) :=
  inferInstanceAs (Decidable (_ ∧ _))

def Accepted.WellFormed (value : Accepted) : Prop := HasIds value.requestId value.vpnSessionUuid

instance (value : Accepted) : Decidable value.WellFormed :=
  inferInstanceAs (Decidable (HasIds _ _))

def Ended.WellFormed (value : Ended) : Prop := HasIds value.requestId value.vpnSessionUuid

/-- The ids, and in `ServerReady` the two addresses, can be read. -/
def State.WellFormed : State → Prop
  | .accepted value => HasIds value.requestId value.vpnSessionUuid
  | .failed value => HasIds value.requestId value.vpnSessionUuid
  | .serverCreated value => HasIds value.requestId value.vpnSessionUuid
  | .serverRunning value => HasIds value.requestId value.vpnSessionUuid
  | .serverReady value => HasIds value.requestId value.vpnSessionUuid ∧
      (SocketAddr.parse value.ipv4Endpoint).isSome = true ∧
      (Ipv4Addr.parse value.privateIpv4).isSome = true
  | .clientConnected value => HasIds value.requestId value.vpnSessionUuid ∧
      (Uuid.parseStr value.deviceUniqueId).isSome = true
  | .ended value => HasIds value.requestId value.vpnSessionUuid

instance : ∀ state : State, Decidable state.WellFormed
  | .accepted _ | .failed _ | .serverCreated _ | .serverRunning _ | .ended _ =>
      inferInstanceAs (Decidable (HasIds _ _))
  | .serverReady _ | .clientConnected _ => inferInstanceAs (Decidable (_ ∧ _))

/-- A status says something, and what it says is well formed. -/
def VpnSessionStatus.WellFormed (value : VpnSessionStatus) : Prop :=
  ∃ state, value.state = some state ∧ state.WellFormed

instance (value : VpnSessionStatus) : Decidable value.WellFormed :=
  match h : value.state with
  | none => .isFalse (by rintro ⟨state, hstate, -⟩; rw [h] at hstate; cases hstate)
  | some state => decidable_of_iff state.WellFormed
      ⟨fun hformed => ⟨state, h, hformed⟩, fun ⟨other, hother, hformed⟩ => by
        rw [h] at hother; cases hother; exact hformed⟩

def AddDeviceResponse.WellFormed (value : AddDeviceResponse) : Prop :=
  value.deviceAddresses.isSome = true

instance (value : AddDeviceResponse) : Decidable value.WellFormed :=
  inferInstanceAs (Decidable (_ = _))

end Proto

end Modvpn
