/-
# Configurations

A `wg-quick` file has interface sections, which are combined, and peer sections, which
are not. The builders take the attributes one by one and check each. A configuration is
written as such a file, and as the settings that the tunnel is turned on with.
-/

import Modvpn.Wireguard.Attribute
import Modvpn.Wireguard.KeyPair

namespace Modvpn.Wireguard

open Java
open BadConfigException (ofParse ofNumberFormat ofKeyFormat)

variable (platform : Platform)

/-- A line of a file. -/
def attributeLine (key value : String) : String := key ++ " = " ++ value ++ "\n"

/-- A line of the settings. -/
def settingLine (key value : String) : String := key ++ "=" ++ value ++ "\n"

/-! ## Interfaces -/

structure Interface where
  addresses : LinkedHashSet (InetNetwork platform)
  dnsServers : LinkedHashSet platform.Address
  dnsSearchDomains : LinkedHashSet String
  excludedApplications : LinkedHashSet String
  includedApplications : LinkedHashSet String
  keyPair : KeyPair
  listenPort : Option Int
  mtu : Option Int

namespace Interface

structure Builder where
  addresses : LinkedHashSet (InetNetwork platform) := .empty
  dnsServers : LinkedHashSet platform.Address := .empty
  dnsSearchDomains : LinkedHashSet String := .empty
  excludedApplications : LinkedHashSet String := .empty
  includedApplications : LinkedHashSet String := .empty
  keyPair : Option KeyPair := none
  listenPort : Option Int := none
  mtu : Option Int := none

namespace Builder

variable {platform}

def addAddress (builder : Builder platform) (address : InetNetwork platform) : Builder platform :=
  { builder with addresses := builder.addresses.add address }

def addDnsServer (builder : Builder platform) (dnsServer : platform.Address) : Builder platform :=
  { builder with dnsServers := builder.dnsServers.add dnsServer }

def addDnsSearchDomain (builder : Builder platform) (dnsSearchDomain : String) :
    Builder platform :=
  { builder with dnsSearchDomains := builder.dnsSearchDomains.add dnsSearchDomain }

def excludeApplications (builder : Builder platform) (applications : List String) :
    Builder platform :=
  { builder with excludedApplications := builder.excludedApplications.addAll applications }

def includeApplications (builder : Builder platform) (applications : List String) :
    Builder platform :=
  { builder with includedApplications := builder.includedApplications.addAll applications }

def setKeyPair (builder : Builder platform) (keyPair : KeyPair) : Builder platform :=
  { builder with keyPair := some keyPair }

def setListenPort (builder : Builder platform) (listenPort : Int) :
    Except BadConfigException (Builder platform) :=
  if listenPort < 0 ∨ 65535 < listenPort then
    .error ⟨.interface, .listenPort, .invalidValue, some (valueOf listenPort)⟩
  else .ok { builder with listenPort := if listenPort = 0 then none else some listenPort }

/-- The exception names the port. -/
def setMtu (builder : Builder platform) (mtu : Int) :
    Except BadConfigException (Builder platform) :=
  if mtu < 0 then .error ⟨.interface, .listenPort, .invalidValue, some (valueOf mtu)⟩
  else .ok { builder with mtu := if mtu = 0 then none else some mtu }

def parseAddresses (builder : Builder platform) (addresses : String) :
    Except BadConfigException (Builder platform) :=
  (Attribute.split platform addresses).foldlM (fun builder address =>
    match InetNetwork.parse platform address with
    | .ok network => .ok (builder.addAddress network)
    | .error e => .error (ofParse .interface .address e)) builder

/-- What is no address may be a domain to search. -/
def parseDnsServers (builder : Builder platform) (dnsServers : String) :
    Except BadConfigException (Builder platform) :=
  (Attribute.split platform dnsServers).foldlM (fun builder dnsServer =>
    match InetAddresses.parse platform dnsServer with
    | .ok address => .ok (builder.addDnsServer address)
    | .error e =>
        if e.parsingClass ≠ .inetAddress || !InetAddresses.isHostname dnsServer then
          .error (ofParse .interface .dns e)
        else .ok (builder.addDnsSearchDomain dnsServer)) builder

def parseExcludedApplications (builder : Builder platform) (apps : String) : Builder platform :=
  builder.excludeApplications (Attribute.split platform apps)

def parseIncludedApplications (builder : Builder platform) (apps : String) : Builder platform :=
  builder.includeApplications (Attribute.split platform apps)

def parseListenPort (builder : Builder platform) (listenPort : String) :
    Except BadConfigException (Builder platform) :=
  match parseInt platform listenPort with
  | some value => builder.setListenPort value
  | none => .error (ofNumberFormat .interface .listenPort listenPort)

def parseMtu (builder : Builder platform) (mtu : String) :
    Except BadConfigException (Builder platform) :=
  match parseInt platform mtu with
  | some value => builder.setMtu value
  | none => .error (ofNumberFormat .interface .mtu mtu)

def parsePrivateKey (builder : Builder platform) (privateKey : String) :
    Except BadConfigException (Builder platform) :=
  match Key.fromBase64 privateKey with
  | .ok key => .ok (builder.setKeyPair (.ofPrivateKey key))
  | .error e => .error (ofKeyFormat .interface .privateKey e)

def build (builder : Builder platform) : Except BadConfigException (Interface platform) :=
  match builder.keyPair with
  | none => .error ⟨.interface, .privateKey, .missingAttribute, none⟩
  | some keyPair =>
      if !builder.includedApplications.isEmpty && !builder.excludedApplications.isEmpty then
        .error ⟨.interface, .includedApplications, .invalidKey, none⟩
      else
        .ok {
          addresses := builder.addresses
          dnsServers := builder.dnsServers
          dnsSearchDomains := builder.dnsSearchDomains
          excludedApplications := builder.excludedApplications
          includedApplications := builder.includedApplications
          keyPair
          listenPort := builder.listenPort
          mtu := builder.mtu }

/-- One attribute of the section. -/
def parseAttribute (builder : Builder platform) (entry : Attribute) :
    Except BadConfigException (Builder platform) :=
  match platform.toLowerCase entry.key with
  | "address" => builder.parseAddresses entry.value
  | "dns" => builder.parseDnsServers entry.value
  | "excludedapplications" => .ok (builder.parseExcludedApplications entry.value)
  | "includedapplications" => .ok (builder.parseIncludedApplications entry.value)
  | "listenport" => builder.parseListenPort entry.value
  | "mtu" => builder.parseMtu entry.value
  | "privatekey" => builder.parsePrivateKey entry.value
  | _ => .error ⟨.interface, .topLevel, .unknownAttribute, some entry.key⟩

def parseLine (builder : Builder platform) (line : String) :
    Except BadConfigException (Builder platform) :=
  match Attribute.parse platform line with
  | none => .error ⟨.interface, .topLevel, .syntaxError, some line⟩
  | some entry => builder.parseAttribute entry

end Builder

def parse (lines : List String) : Except BadConfigException (Interface platform) := do
  let builder ← lines.foldlM Builder.parseLine ({} : Builder platform)
  builder.build

variable {platform}

/-- The search domains go with the servers, and only with them. -/
def toWgQuickString (interfaze : Interface platform) : String :=
  (if interfaze.addresses.isEmpty then ""
    else attributeLine "Address"
      (Attribute.join (interfaze.addresses.elements.map InetNetwork.toString))) ++
  (if interfaze.dnsServers.isEmpty then ""
    else attributeLine "DNS" (Attribute.join
      (interfaze.dnsServers.elements.map platform.getHostAddress ++
        interfaze.dnsSearchDomains.elements))) ++
  (if interfaze.excludedApplications.isEmpty then ""
    else attributeLine "ExcludedApplications"
      (Attribute.join interfaze.excludedApplications.elements)) ++
  (if interfaze.includedApplications.isEmpty then ""
    else attributeLine "IncludedApplications"
      (Attribute.join interfaze.includedApplications.elements)) ++
  (interfaze.listenPort.elim "" fun lp => attributeLine "ListenPort" (valueOf lp)) ++
  (interfaze.mtu.elim "" fun m => attributeLine "MTU" (valueOf m)) ++
  attributeLine "PrivateKey" interfaze.keyPair.privateKey.toBase64

def toWgUserspaceString (interfaze : Interface platform) : String :=
  settingLine "private_key" interfaze.keyPair.privateKey.toHex ++
  (interfaze.listenPort.elim "" fun lp => settingLine "listen_port" (valueOf lp))

end Interface

/-! ## Peers -/

structure Peer where
  allowedIps : LinkedHashSet (InetNetwork platform)
  endpoint : Option InetEndpoint
  persistentKeepalive : Option Int
  preSharedKey : Option Key
  publicKey : Key

namespace Peer

structure Builder where
  allowedIps : LinkedHashSet (InetNetwork platform) := .empty
  endpoint : Option InetEndpoint := none
  persistentKeepalive : Option Int := none
  preSharedKey : Option Key := none
  publicKey : Option Key := none

namespace Builder

variable {platform}

def addAllowedIp (builder : Builder platform) (allowedIp : InetNetwork platform) :
    Builder platform :=
  { builder with allowedIps := builder.allowedIps.add allowedIp }

def setEndpoint (builder : Builder platform) (endpoint : InetEndpoint) : Builder platform :=
  { builder with endpoint := some endpoint }

def setPersistentKeepalive (builder : Builder platform) (persistentKeepalive : Int) :
    Except BadConfigException (Builder platform) :=
  if persistentKeepalive < 0 ∨ 65535 < persistentKeepalive then
    .error ⟨.peer, .persistentKeepalive, .invalidValue, some (valueOf persistentKeepalive)⟩
  else
    .ok { builder with
      persistentKeepalive := if persistentKeepalive = 0 then none else some persistentKeepalive }

def setPreSharedKey (builder : Builder platform) (preSharedKey : Key) : Builder platform :=
  { builder with preSharedKey := some preSharedKey }

def setPublicKey (builder : Builder platform) (publicKey : Key) : Builder platform :=
  { builder with publicKey := some publicKey }

def parseAllowedIPs (builder : Builder platform) (allowedIps : String) :
    Except BadConfigException (Builder platform) :=
  (Attribute.split platform allowedIps).foldlM (fun builder allowedIp =>
    match InetNetwork.parse platform allowedIp with
    | .ok network => .ok (builder.addAllowedIp network)
    | .error e => .error (ofParse .peer .allowedIps e)) builder

def parseEndpoint (builder : Builder platform) (endpoint : String) :
    Except BadConfigException (Builder platform) :=
  match InetEndpoint.parse platform endpoint with
  | .ok value => .ok (builder.setEndpoint value)
  | .error e => .error (ofParse .peer .endpoint e)

def parsePersistentKeepalive (builder : Builder platform) (persistentKeepalive : String) :
    Except BadConfigException (Builder platform) :=
  match parseInt platform persistentKeepalive with
  | some value => builder.setPersistentKeepalive value
  | none => .error (ofNumberFormat .peer .persistentKeepalive persistentKeepalive)

def parsePreSharedKey (builder : Builder platform) (preSharedKey : String) :
    Except BadConfigException (Builder platform) :=
  match Key.fromBase64 preSharedKey with
  | .ok key => .ok (builder.setPreSharedKey key)
  | .error e => .error (ofKeyFormat .peer .preSharedKey e)

def parsePublicKey (builder : Builder platform) (publicKey : String) :
    Except BadConfigException (Builder platform) :=
  match Key.fromBase64 publicKey with
  | .ok key => .ok (builder.setPublicKey key)
  | .error e => .error (ofKeyFormat .peer .publicKey e)

def build (builder : Builder platform) : Except BadConfigException (Peer platform) :=
  match builder.publicKey with
  | none => .error ⟨.peer, .publicKey, .missingAttribute, none⟩
  | some publicKey =>
      .ok {
        allowedIps := builder.allowedIps
        endpoint := builder.endpoint
        persistentKeepalive := builder.persistentKeepalive
        preSharedKey := builder.preSharedKey
        publicKey }

/-- One attribute of the section. -/
def parseAttribute (builder : Builder platform) (entry : Attribute) :
    Except BadConfigException (Builder platform) :=
  match platform.toLowerCase entry.key with
  | "allowedips" => builder.parseAllowedIPs entry.value
  | "endpoint" => builder.parseEndpoint entry.value
  | "persistentkeepalive" => builder.parsePersistentKeepalive entry.value
  | "presharedkey" => builder.parsePreSharedKey entry.value
  | "publickey" => builder.parsePublicKey entry.value
  | _ => .error ⟨.peer, .topLevel, .unknownAttribute, some entry.key⟩

def parseLine (builder : Builder platform) (line : String) :
    Except BadConfigException (Builder platform) :=
  match Attribute.parse platform line with
  | none => .error ⟨.peer, .topLevel, .syntaxError, some line⟩
  | some entry => builder.parseAttribute entry

end Builder

def parse (lines : List String) : Except BadConfigException (Peer platform) := do
  let builder ← lines.foldlM Builder.parseLine ({} : Builder platform)
  builder.build

variable {platform}

def toWgQuickString (peer : Peer platform) : String :=
  (if peer.allowedIps.isEmpty then ""
    else attributeLine "AllowedIPs"
      (Attribute.join (peer.allowedIps.elements.map InetNetwork.toString))) ++
  (peer.endpoint.elim "" fun ep => attributeLine "Endpoint" ep.toString) ++
  (peer.persistentKeepalive.elim "" fun pk => attributeLine "PersistentKeepalive" (valueOf pk)) ++
  (peer.preSharedKey.elim "" fun psk => attributeLine "PreSharedKey" psk.toBase64) ++
  attributeLine "PublicKey" peer.publicKey.toBase64

def toWgUserspaceString (getAllByName : String → List platform.Address)
    (peer : Peer platform) : String :=
  settingLine "public_key" peer.publicKey.toHex ++
  String.join (peer.allowedIps.elements.map fun allowedIp =>
    settingLine "allowed_ip" allowedIp.toString) ++
  ((peer.endpoint.bind (InetEndpoint.getResolved platform getAllByName)).elim "" fun ep =>
    settingLine "endpoint" ep.toString) ++
  (peer.persistentKeepalive.elim "" fun pk =>
    settingLine "persistent_keepalive_interval" (valueOf pk)) ++
  (peer.preSharedKey.elim "" fun psk => settingLine "preshared_key" psk.toHex)

end Peer

/-! ## Files -/

structure Config where
  interfaze : Interface platform
  peers : List (Peer platform)

namespace Config

/-- Where the loop over the lines is. -/
structure Reader where
  peers : List (Peer platform) := []
  interfaceLines : List String := []
  peerLines : List String := []
  inInterfaceSection : Bool := false
  inPeerSection : Bool := false
  seenInterfaceSection : Bool := false

namespace Reader

variable {platform}

/-- Consumes the lines of a peer section that has come to its end. -/
def parsePeer (reader : Reader platform) : Except BadConfigException (Reader platform) :=
  if reader.inPeerSection then do
    let peer ← Peer.parse platform reader.peerLines
    return { reader with peers := reader.peers ++ [peer], peerLines := [] }
  else .ok reader

/-- A line without its comment and the space around it. -/
def readLine (reader : Reader platform) (line : String) :
    Except BadConfigException (Reader platform) :=
  if line = "" then .ok reader
  else if line.toList.head? = some '[' then do
    let reader ← reader.parsePeer
    if platform.equalsIgnoreCase "[Interface]" line then
      return { reader with
        inInterfaceSection := true, inPeerSection := false, seenInterfaceSection := true }
    else if platform.equalsIgnoreCase "[Peer]" line then
      return { reader with inInterfaceSection := false, inPeerSection := true }
    else throw ⟨.config, .topLevel, .unknownSection, some line⟩
  else if reader.inInterfaceSection then
    .ok { reader with interfaceLines := reader.interfaceLines ++ [line] }
  else if reader.inPeerSection then .ok { reader with peerLines := reader.peerLines ++ [line] }
  else .error ⟨.config, .topLevel, .unknownSection, some line⟩

end Reader

/-- The part of a line before a comment, without the space around it. -/
def content (line : List Char) : String := String.ofList (trim (line.takeWhile (· ≠ '#')))

def parse (text : String) : Except BadConfigException (Config platform) := do
  let reader ← ((readLines [] text.toList).map content).foldlM Reader.readLine
    ({} : Reader platform)
  let reader ← reader.parsePeer
  if !reader.seenInterfaceSection then throw ⟨.config, .topLevel, .missingSection, none⟩
  let interfaze ← Interface.parse platform reader.interfaceLines
  return { interfaze, peers := reader.peers }

variable {platform}

def toWgQuickString (config : Config platform) : String :=
  "[Interface]\n" ++ config.interfaze.toWgQuickString ++
    String.join (config.peers.map fun peer => "\n[Peer]\n" ++ peer.toWgQuickString)

def toWgUserspaceString (getAllByName : String → List platform.Address)
    (config : Config platform) : String :=
  config.interfaze.toWgUserspaceString ++ "replace_peers=true\n" ++
    String.join (config.peers.map (Peer.toWgUserspaceString getAllByName))

end Config

end Modvpn.Wireguard
