/-
# The parameters the tunnel is built from

`generate_parameter` reads the session table and the device table whenever the
tunnel state machine asks for parameters. The options the source fixes are part
of the result; the tunnel's mark is an argument of the platform.
-/

import Modvpn.Daemon.Device

namespace Modvpn

/-- `TunnelConfig`, with its only address. -/
structure TunnelConfig where
  privateKey : Key
  addresses : List Ipv4Addr
  deriving DecidableEq

inductive IpNetwork
  | allIpv4
  | allIpv6
  deriving DecidableEq

/-- `all_of_the_internet`. -/
def allOfTheInternet : List IpNetwork := [.allIpv4, .allIpv6]

structure PeerConfig where
  publicKey : Key
  allowedIps : List IpNetwork
  endpoint : SocketAddr
  psk : Option Key
  deriving DecidableEq

structure ConnectionConfig where
  tunnel : TunnelConfig
  peer : PeerConfig
  exitPeer : Option PeerConfig
  ipv4Gateway : Ipv4Addr
  ipv6Gateway : Option Ipv6Addr
  deriving DecidableEq

structure TunnelOptions where
  mtu : Option UInt16
  quantumResistant : Bool
  deriving DecidableEq

structure TunnelParameters where
  connection : ConnectionConfig
  options : TunnelOptions
  enableIpv6 : Bool
  deriving DecidableEq

namespace ParameterGenerator

/-- `ok_or`. -/
def okOr {α : Type} (value : Option α) (message : String) : Except String α :=
  match value with
  | some value => .ok value
  | none => .error message

/-- The pure part of `generate_parameter`, in the order the source evaluates it. -/
def assemble (codecs : Codecs) (vpnSession : Entity.VpnSession) (deviceDetails : DeviceDetails) :
    Except String TunnelParameters := do
  let deviceAddresses ← okOr deviceDetails.wireguardMeta.deviceAddresses
    "no device addresses found in wireguard metadata"
  let serverPublicKey ← okOr vpnSession.serverPublicKey
    "no server public key found in vpn session model"
  let publicKey ← (codecs.publicKey serverPublicKey).mapError
    fun e => "failed to convert public key from base64: " ++ e
  let serverIpv4Endpoint ← okOr vpnSession.serverIpv4Endpoint
    "no server ipv4 endpoint found in vpn session model"
  let endpoint ← okOr (SocketAddr.parse serverIpv4Endpoint)
    "failed to parse server ipv4 endpoint in vpn session model: AddrParseError(Socket)"
  let serverPrivateIpv4 ← okOr vpnSession.serverPrivateIpv4
    "no server private ipv4 found in vpn session model"
  let ipv4Gateway ← okOr (Ipv4Addr.parse serverPrivateIpv4)
    "failed to parse server ipv4 in vpn session model: AddrParseError(Ipv4)"
  return {
    connection := {
      tunnel := {
        privateKey := deviceDetails.wireguardMeta.privateKey
        addresses := [deviceAddresses.ipv4Address] }
      peer := { publicKey, allowedIps := allOfTheInternet, endpoint, psk := none }
      exitPeer := none
      ipv4Gateway
      ipv6Gateway := none }
    options := { mtu := none, quantumResistant := false }
    enableIpv6 := true }

def generateParameter (codecs : Codecs) : Fallible String TunnelParameters := do
  let vpnSession ← ExceptT.adapt DeviceStorage.dbErrText (ExceptT.mk (perform .findVpnSession))
  let vpnSession ← ExceptT.mk (pure (okOr vpnSession
    "no vpn session found during parameter generation"))
  let device ← ExceptT.adapt DeviceStorage.dbErrText (ExceptT.mk (perform .findDevice))
  let device ← ExceptT.mk (pure (okOr device "no device found during parameter generation"))
  let deviceDetails ← ExceptT.mk (pure (DeviceDetails.tryFrom codecs device))
  ExceptT.mk (pure (assemble codecs vpnSession deviceDetails))

end ParameterGenerator

end Modvpn
