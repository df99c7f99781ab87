/-
# The configuration of the tunnel, as the library builds it

The coroutine of a new session builds the interface of the device, and an update that
says that the server is ready adds the one peer. Both are built from texts, each of which
may be refused. The system is asked for an interface with the addresses and the routes of
the configuration before the tunnel is turned on with its settings.
-/

import Modvpn.Android.VpnSessionDao
import Modvpn.Wireguard.Config

namespace Modvpn.Android

open Wireguard (Platform InetNetwork InetEndpoint ParseException
  BadConfigException)

/-- The texts that the parsers of the library accept. -/
def WireGuard.ofPlatform (platform : Platform) : WireGuard where
  inetNetwork text := (InetNetwork.parse platform text).isOk
  key text := (Wireguard.Key.fromBase64 text).isOk
  inetEndpoint text := (InetEndpoint.parse platform text).isOk

/-- What is thrown while the configuration is built. -/
inductive Thrown
  | nullPointer
  | parse (cause : ParseException)
  | badConfig (cause : BadConfigException)
  deriving DecidableEq

def Thrown.getName : Thrown → String
  | .nullPointer => "NullPointerException"
  | .parse _ => "ParseException"
  | .badConfig _ => "BadConfigException"

/-- The families of addresses that an interface may carry. -/
inductive Family
  | inet
  | inet6
  deriving DecidableEq

/-- What the system is asked for. -/
structure VpnBuilder (platform : Platform) where
  session : String
  mtu : Int
  allowedFamilies : List Family
  blocking : Bool
  addresses : List (platform.Address × Int)
  routes : List (platform.Address × Int)
  dnsServers : List platform.Address

namespace Library

variable (platform : Platform)

/-- The interface of the device. -/
def toInterface (device : Db.Device) : Except Thrown (Wireguard.Interface platform) := do
  let ipv4Address ← device.ipv4Address.elim (throw .nullPointer) pure
  let address ← (InetNetwork.parse platform ipv4Address).mapError .parse
  let builder := ({} : Wireguard.Interface.Builder platform).addAddress address
  let dnsServer ← (Wireguard.InetAddresses.parse platform "1.1.1.1").mapError .parse
  let builder := builder.addDnsServer dnsServer
  let builder ← (builder.parsePrivateKey device.privateKey).mapError .badConfig
  let builder ← (builder.setMtu 1280).mapError .badConfig
  builder.build.mapError .badConfig

variable {platform}

/-- The interface with the server as its peer. -/
def toConfig (interFace : Wireguard.Interface platform) (serverReady : ServerReady) :
    Except BadConfigException (Wireguard.Config platform) := do
  let builder ← ({} : Wireguard.Peer.Builder platform).parseEndpoint serverReady.ipv4Endpoint
  let builder ← builder.parsePublicKey serverReady.publicKey
  let builder ← builder.parseAllowedIPs "0.0.0.0/0, ::0/0"
  let builder ← builder.setPersistentKeepalive 25
  let peer ← builder.build
  return { interfaze := interFace, peers := [peer] }

/-- The interface that the system is asked for. -/
def toBuilder (config : Wireguard.Config platform) : VpnBuilder platform where
  session := "modvpn"
  mtu := config.interfaze.mtu.getD 1280
  allowedFamilies := [.inet, .inet6]
  blocking := true
  addresses := config.interfaze.addresses.elements.map fun network => (network.address, network.mask)
  routes := config.peers.flatMap fun peer =>
    peer.allowedIps.elements.map fun allowedIp => (allowedIp.address, allowedIp.mask)
  dnsServers := config.interfaze.dnsServers.elements

end Library

end Modvpn.Android
