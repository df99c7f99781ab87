/-
# The tunnel of a session that is connected

The orchestrator keeps the texts of its configuration, the library what it has read from
them. Both go the same way: the texts are refused with the same exception, or each field
that is built is what its text is read as. So in every run the tunnel of a connected
session is told the key of a device that was stored, and the key and the endpoint of the
server's answer, and takes all traffic of both families.
-/

import Modvpn.Android.TunnelConfig
import Modvpn.Analysis.Android.Configured
import Modvpn.Analysis.Wireguard.AsciiPlatform
import Modvpn.Analysis.Wireguard.Settings

namespace Modvpn.Android

open Modvpn.Protocol
open Wireguard (Platform KeyPair InetNetwork InetEndpoint LinkedHashSet)

/-! ## Two computations that go the same way -/

/-- Both return, with related values, or both throw, with related exceptions. -/
inductive Alongside {ε ε' α β : Type} (E : ε → ε' → Prop) (R : α → β → Prop) :
    Except ε α → Except ε' β → Prop
  | ok {x : α} {y : β} (h : R x y) : Alongside E R (.ok x) (.ok y)
  | error {e : ε} {e' : ε'} (h : E e e') : Alongside E R (.error e) (.error e')

namespace Alongside

variable {ε ε' α β γ δ : Type} {E : ε → ε' → Prop} {R : α → β → Prop} {Q : γ → δ → Prop}
  {first : Except ε α} {second : Except ε' β}

theorem bind {f : α → Except ε γ} {g : β → Except ε' δ} (h : Alongside E R first second)
    (hnext : ∀ x y, R x y → Alongside E Q (f x) (g y)) :
    Alongside E Q (first.bind f) (second.bind g) := by
  cases h with
  | ok h => exact hnext _ _ h
  | error h => exact .error h

theorem of_eq_ok {x : α} (h : Alongside E R first second) (hfirst : first = .ok x) :
    ∃ y, second = .ok y ∧ R x y := by
  subst hfirst
  cases h with
  | ok h => exact ⟨_, rfl, h⟩

end Alongside

variable {platform : Platform}

/-! ## What the texts are read as -/

/-- The interface that is built has what its texts are read as, and nothing more. -/
structure Interface.Denotes (texts : Interface) (built : Wireguard.Interface platform) : Prop where
  address : ∃ network, InetNetwork.parse platform texts.address = .ok network ∧
    built.addresses.elements = [network]
  dnsServer : ∃ server, Wireguard.InetAddresses.parse platform texts.dnsServer = .ok server ∧
    built.dnsServers.elements = [server]
  privateKey : Wireguard.Key.fromBase64 texts.privateKey = .ok built.keyPair.privateKey
  publicKey : built.keyPair.publicKey = built.keyPair.privateKey.generatePublicKey
  mtu : built.mtu = some (texts.mtu : Int)
  listenPort : built.listenPort = none
  dnsSearchDomains : built.dnsSearchDomains.elements = []
  applications : built.includedApplications.elements = [] ∧
    built.excludedApplications.elements = []

structure Peer.Denotes (texts : Peer) (built : Wireguard.Peer platform) : Prop where
  endpoint : ∃ endpoint, InetEndpoint.parse platform texts.endpoint = .ok endpoint ∧
    built.endpoint = some endpoint
  publicKey : Wireguard.Key.fromBase64 texts.publicKey = .ok built.publicKey
  allowedIps : (Wireguard.Attribute.split platform texts.allowedIps).mapM
    (InetNetwork.parse platform) = .ok built.allowedIps.elements
  persistentKeepalive : built.persistentKeepalive = some (texts.persistentKeepalive : Int)
  preSharedKey : built.preSharedKey = none

structure Config.Denotes (texts : Config) (built : Wireguard.Config platform) : Prop where
  interFace : texts.interFace.Denotes built.interfaze
  peer : ∃ peer, built.peers = [peer] ∧ texts.peer.Denotes peer

/-- The addresses that the client names. -/
structure Known (platform : Platform) where
  anyInet : platform.Address
  anyInet6 : platform.Address
  dnsServer : platform.Address
  parse_anyInet : platform.parseNumericAddress "0.0.0.0" = some anyInet
  parse_anyInet6 : platform.parseNumericAddress "::0" = some anyInet6
  parse_dnsServer : platform.parseNumericAddress "1.1.1.1" = some dnsServer
  distinct : platform.sameAddress anyInet6 anyInet = false

namespace Known

variable (known : Known platform)

/-- Networks of every address of a family. -/
def routes : List (InetNetwork platform) := [⟨known.anyInet, 0⟩, ⟨known.anyInet6, 0⟩]

theorem parse_of_numeric {text : String} {address : platform.Address} (hne : text ≠ "")
    (h : platform.parseNumericAddress text = some address) :
    Wireguard.InetAddresses.parse platform text = .ok address := by
  rw [Wireguard.InetAddresses.parse, if_neg hne, h]

theorem parse_route (hplatform : platform.Lawful) {text : String} {address : platform.Address}
    (hne : text ≠ "") (h : platform.parseNumericAddress text = some address) :
    InetNetwork.parse platform (text ++ "/" ++ Wireguard.Java.valueOf 0) = .ok ⟨address, 0⟩ :=
  InetNetwork.parse_slash hplatform (parse_of_numeric hne h) (Int.le_refl 0)
    (InetNetwork.maxMask_bounds address).1

/-- Text of characters that mean nothing to the reader of a list. -/
theorem plainText_of_all (hplatform : platform.Lawful) {text : String} (hne : text ≠ "")
    (h : text.toList.all (fun c => 32 < c.toNat && c.toNat < 127 && c ≠ ',' && c ≠ '#') = true) :
    Wireguard.PlainText platform text := by
  constructor
  · exact hne
  · intro c hc
    have hchar := List.all_eq_true.mp h c hc
    simp only [Bool.and_eq_true, decide_eq_true_eq] at hchar
    exact hplatform.plain hchar.1.1.1 hchar.1.1.2 hchar.1.2 hchar.2

theorem split_routes (hplatform : platform.Lawful) :
    Wireguard.Attribute.split platform "0.0.0.0/0, ::0/0" = ["0.0.0.0/0", "::0/0"] := by
  have htext : "0.0.0.0/0, ::0/0" = Wireguard.Attribute.join ["0.0.0.0/0", "::0/0"] := by decide
  rw [htext]
  apply Wireguard.Attribute.split_join hplatform
  · simp
  · intro value hvalue
    rcases List.mem_pair.mp hvalue with rfl | rfl
    · exact plainText_of_all hplatform (by decide) (by decide)
    · exact plainText_of_all hplatform (by decide) (by decide)

theorem parse_routes (hplatform : platform.Lawful) :
    InetNetwork.parse platform "0.0.0.0/0" = .ok ⟨known.anyInet, 0⟩ ∧
      InetNetwork.parse platform "::0/0" = .ok ⟨known.anyInet6, 0⟩ := by
  have hinet : "0.0.0.0/0" = "0.0.0.0" ++ "/" ++ Wireguard.Java.valueOf 0 := by decide
  have hinet6 : "::0/0" = "::0" ++ "/" ++ Wireguard.Java.valueOf 0 := by decide
  constructor
  · rw [hinet]
    exact parse_route hplatform (by decide) known.parse_anyInet
  · rw [hinet6]
    exact parse_route hplatform (by decide) known.parse_anyInet6

/-- The second route does not displace the first. -/
theorem elements_routes : (LinkedHashSet.empty.addAll known.routes).elements = known.routes := by
  rw [LinkedHashSet.elements_addAll]
  · rfl
  · have hdistinct : ((⟨known.anyInet6, 0⟩ : InetNetwork platform) == ⟨known.anyInet, 0⟩) =
        false := by
      show (platform.sameAddress known.anyInet6 known.anyInet && _) = false
      rw [known.distinct, Bool.false_and]
    simp [LinkedHashSet.elements_empty, routes, hdistinct]

end Known

namespace Library

variable (known : Known platform)

/-- The interface of an address and a key. -/
def interFaceOf (address : InetNetwork platform) (privateKey : Wireguard.Key) :
    Wireguard.Interface platform where
  addresses := LinkedHashSet.empty.add address
  dnsServers := LinkedHashSet.empty.add known.dnsServer
  dnsSearchDomains := .empty
  excludedApplications := .empty
  includedApplications := .empty
  keyPair := .ofPrivateKey privateKey
  listenPort := none
  mtu := some 1280

/-- The server as a peer. -/
def peerOf (endpoint : InetEndpoint) (publicKey : Wireguard.Key) : Wireguard.Peer platform where
  allowedIps := LinkedHashSet.empty.addAll known.routes
  endpoint := some endpoint
  persistentKeepalive := some 25
  preSharedKey := none
  publicKey := publicKey

theorem toInterface_eq {device : Db.Device} {text : String}
    (hdevice : device.ipv4Address = some text) :
    toInterface platform device =
      ((InetNetwork.parse platform text).mapError Thrown.parse).bind fun address =>
        ((Wireguard.Key.fromBase64 device.privateKey).mapError fun e =>
          Thrown.badConfig (.ofKeyFormat .interface .privateKey e)).map fun privateKey =>
            interFaceOf known address privateKey := by
  have hdnsServer := Known.parse_of_numeric (by decide) known.parse_dnsServer
  simp only [toInterface, hdevice, Option.elim_some, pure_bind, hdnsServer,
    Wireguard.Interface.Builder.parsePrivateKey]
  cases InetNetwork.parse platform text with
  | error e => rfl
  | ok address =>
      cases Wireguard.Key.fromBase64 device.privateKey with
      | error e => rfl
      | ok privateKey => rfl

theorem toConfig_eq (hplatform : platform.Lawful) (interFace : Wireguard.Interface platform)
    (serverReady : ServerReady) :
    toConfig interFace serverReady =
      ((InetEndpoint.parse platform serverReady.ipv4Endpoint).mapError
        (Wireguard.BadConfigException.ofParse .peer .endpoint)).bind fun endpoint =>
          ((Wireguard.Key.fromBase64 serverReady.publicKey).mapError
            (Wireguard.BadConfigException.ofKeyFormat .peer .publicKey)).map fun publicKey =>
              { interfaze := interFace, peers := [peerOf known endpoint publicKey] } := by
  obtain ⟨hinet, hinet6⟩ := known.parse_routes hplatform
  have hallowedIps (builder : Wireguard.Peer.Builder platform) :
      builder.parseAllowedIPs "0.0.0.0/0, ::0/0" =
        .ok ((builder.addAllowedIp ⟨known.anyInet, 0⟩).addAllowedIp ⟨known.anyInet6, 0⟩) := by
    rw [Wireguard.Peer.Builder.parseAllowedIPs, Known.split_routes hplatform]
    simp only [List.foldlM_cons, List.foldlM_nil, hinet, hinet6]
    rfl
  simp only [toConfig, Wireguard.Peer.Builder.parseEndpoint,
    Wireguard.Peer.Builder.parsePublicKey, hallowedIps]
  cases InetEndpoint.parse platform serverReady.ipv4Endpoint with
  | error e => rfl
  | ok endpoint =>
      cases Wireguard.Key.fromBase64 serverReady.publicKey with
      | error e => rfl
      | ok publicKey => rfl

end Library

/-! ## A session that is connected -/

namespace SampleTunnel

open Android.Sample

open Wireguard.Platform (parse_toText_dual)

def known : Known .dual where
  anyInet := some ⟨0, 0, 0, 0⟩
  anyInet6 := none
  dnsServer := some ⟨1, 1, 1, 1⟩
  parse_anyInet := by
    have htext : Ipv4Addr.toText ⟨0, 0, 0, 0⟩ = "0.0.0.0" := by decide +kernel
    rw [← htext]
    exact parse_toText_dual (some ⟨0, 0, 0, 0⟩)
  parse_anyInet6 := rfl
  parse_dnsServer := by
    have htext : Ipv4Addr.toText ⟨1, 1, 1, 1⟩ = "1.1.1.1" := by decide +kernel
    rw [← htext]
    exact parse_toText_dual (some ⟨1, 1, 1, 1⟩)
  distinct := rfl

/-- A key of zeros. -/
def zeros : String := "AAAAAAAAAAAAAAAAAAAAAAAAAAAAAAAAAAAAAAAAAAA="

def registered : Db.Device := { device with privateKey := zeros }

def ready : ServerReady := { serverReady with publicKey := zeros }

/-- The server accepts the session and is ready. -/
def readyAnswers : Env := { answers with
  createdDevice := { registered with ipv4Address := none }
  vpnSessionStatus := .ok (.serverReady ready) }

def connecting : List PhoneLabel :=
  [.startService] ++ performing 0 readyAnswers 3 ++ [.setDevice [registered], .createService] ++
    performing 0 readyAnswers 2 ++ requesting ++ performing 0 readyAnswers 3 ++
    [.server (.accept requestId)] ++ performing 0 readyAnswers 3 ++ [.handle grantedAgain] ++
    performing 0 readyAnswers 4 ++ [.handle grantedAgain]

def config : Config where
  interFace := { interFace with privateKey := zeros }
  peer :=
    { endpoint := ready.ipv4Endpoint
      publicKey := zeros
      allowedIps := "0.0.0.0/0, ::0/0"
      persistentKeepalive := 25 }

end SampleTunnel

/-! ## The texts and what is built of them -/

/-- The configuration for a device and the server's answer, as texts. -/
def configure (wireGuard : WireGuard) (device : Db.Device) (serverReady : ServerReady) :
    Except String Config :=
  (toInterface wireGuard device).bind fun interFace => toConfig wireGuard interFace serverReady

variable (platform) in
/-- The same with the builders of the library. -/
def Library.configure (device : Db.Device) (serverReady : ServerReady) :
    Except Thrown (Wireguard.Config platform) :=
  (Library.toInterface platform device).bind fun interFace =>
    (Library.toConfig interFace serverReady).mapError .badConfig

/-- The exception goes by this name. -/
def Names (name : String) (thrown : Thrown) : Prop := thrown.getName = name

section Alongside

variable (known : Known platform)

include known

theorem toInterface_alongside (device : Db.Device) :
    Alongside Names (Interface.Denotes : Interface → Wireguard.Interface platform → Prop)
      (toInterface (.ofPlatform platform) device) (Library.toInterface platform device) := by
  have hdnsServer := Known.parse_of_numeric (by decide) known.parse_dnsServer
  cases hdevice : device.ipv4Address with
  | none =>
      have hthrown : Library.toInterface platform device = .error .nullPointer := by
        rw [Library.toInterface, hdevice]
        rfl
      rw [toInterface, hdevice, hthrown]
      exact .error rfl
  | some text =>
      rw [Library.toInterface_eq known hdevice]
      cases haddress : InetNetwork.parse platform text with
      | error e =>
          have hrefused : toInterface (.ofPlatform platform) device = .error "ParseException" := by
            simp [toInterface, hdevice, WireGuard.ofPlatform, haddress, Except.isOk, Except.toBool]
          rw [hrefused]
          exact .error rfl
      | ok address =>
          cases hprivateKey : Wireguard.Key.fromBase64 device.privateKey with
          | error e =>
              have hrefused : toInterface (.ofPlatform platform) device =
                  .error "BadConfigException" := by
                simp [toInterface, hdevice, WireGuard.ofPlatform, haddress, hprivateKey,
                  Except.isOk, Except.toBool]
              rw [hrefused]
              exact .error rfl
          | ok privateKey =>
              have hread : toInterface (.ofPlatform platform) device =
                  .ok ⟨text, "1.1.1.1", device.privateKey, 1280⟩ := by
                simp [toInterface, hdevice, WireGuard.ofPlatform, haddress, hprivateKey,
                  Except.isOk, Except.toBool]
              rw [hread]
              apply Alongside.ok
              constructor
              · exact ⟨address, haddress, rfl⟩
              · exact ⟨known.dnsServer, hdnsServer, rfl⟩
              · exact hprivateKey
              · rfl
              · rfl
              · rfl
              · rfl
              · exact ⟨rfl, rfl⟩

theorem peerOf_denotes (hplatform : platform.Lawful) {texts : Peer} {endpoint : InetEndpoint}
    {publicKey : Wireguard.Key} (hendpoint : InetEndpoint.parse platform texts.endpoint = .ok endpoint)
    (hpublicKey : Wireguard.Key.fromBase64 texts.publicKey = .ok publicKey)
    (hallowedIps : texts.allowedIps = "0.0.0.0/0, ::0/0")
    (hpersistentKeepalive : texts.persistentKeepalive = 25) :
    texts.Denotes (Library.peerOf known endpoint publicKey) := by
  constructor
  · exact ⟨endpoint, hendpoint, rfl⟩
  · exact hpublicKey
  · obtain ⟨hinet, hinet6⟩ := known.parse_routes hplatform
    rw [hallowedIps, Known.split_routes hplatform, Library.peerOf, known.elements_routes]
    simp only [List.mapM_cons, List.mapM_nil, hinet, hinet6]
    rfl
  · rw [hpersistentKeepalive]
    rfl
  · rfl

theorem toConfig_alongside (hplatform : platform.Lawful) {texts : Interface}
    {interFace : Wireguard.Interface platform} (h : texts.Denotes interFace)
    (serverReady : ServerReady) :
    Alongside Names (Config.Denotes : Config → Wireguard.Config platform → Prop)
      (toConfig (.ofPlatform platform) texts serverReady)
      ((Library.toConfig interFace serverReady).mapError .badConfig) := by
  rw [Library.toConfig_eq known hplatform]
  cases hendpoint : InetEndpoint.parse platform serverReady.ipv4Endpoint with
  | error e =>
      have hrefused : toConfig (.ofPlatform platform) texts serverReady =
          .error "BadConfigException" := by
        simp [toConfig, WireGuard.ofPlatform, hendpoint, Except.isOk, Except.toBool]
      rw [hrefused]
      exact .error rfl
  | ok endpoint =>
      cases hpublicKey : Wireguard.Key.fromBase64 serverReady.publicKey with
      | error e =>
          have hrefused : toConfig (.ofPlatform platform) texts serverReady =
              .error "BadConfigException" := by
            simp [toConfig, WireGuard.ofPlatform, hendpoint, hpublicKey, Except.isOk, Except.toBool]
          rw [hrefused]
          exact .error rfl
      | ok publicKey =>
          have hread : toConfig (.ofPlatform platform) texts serverReady =
              .ok ⟨texts, ⟨serverReady.ipv4Endpoint, serverReady.publicKey,
                "0.0.0.0/0, ::0/0", 25⟩⟩ := by
            simp [toConfig, WireGuard.ofPlatform, hendpoint, hpublicKey, Except.isOk, Except.toBool]
          rw [hread]
          exact .ok ⟨h, _, rfl, peerOf_denotes known hplatform hendpoint hpublicKey rfl rfl⟩

/-- The texts are refused with the exception that the builders throw, or denote what the
builders build. -/
theorem configure_alongside (hplatform : platform.Lawful) (device : Db.Device)
    (serverReady : ServerReady) :
    Alongside Names (Config.Denotes : Config → Wireguard.Config platform → Prop)
      (configure (.ofPlatform platform) device serverReady)
      (Library.configure platform device serverReady) :=
  (toInterface_alongside known device).bind fun _ _ h =>
    toConfig_alongside known hplatform h serverReady

end Alongside

theorem configure_alongside_sample :
    Alongside Names (Config.Denotes : Config → Wireguard.Config .dual → Prop)
      (configure (.ofPlatform .dual) SampleTunnel.registered SampleTunnel.ready)
      (Library.configure .dual SampleTunnel.registered SampleTunnel.ready) :=
  configure_alongside SampleTunnel.known Wireguard.Platform.lawful_dual SampleTunnel.registered
    SampleTunnel.ready

/-! ## What the tunnel is told -/

namespace Known

variable (known : Known platform)

/-- What is said of a private key, a server and its key. -/
def settings (privateKey publicKey : Wireguard.Key) (endpoint : Option InetEndpoint) :
    List (String × String) :=
  [("private_key", privateKey.toHex), ("replace_peers", "true"),
    ("public_key", publicKey.toHex)] ++
    (known.routes.map fun route => ("allowed_ip", route.toString)) ++
    (endpoint.elim [] fun endpoint => [("endpoint", endpoint.toString)]) ++
    [("persistent_keepalive_interval", "25")]

/-- The system is asked for an address, and for all routes. -/
def builder (address : InetNetwork platform) : VpnBuilder platform where
  session := "modvpn"
  mtu := 1280
  allowedFamilies := [.inet, .inet6]
  blocking := true
  addresses := [(address.address, address.mask)]
  routes := [(known.anyInet, 0), (known.anyInet6, 0)]
  dnsServers := [known.dnsServer]

end Known

/-- The tunnel for a device and the server's answer. -/
structure Told (known : Known platform) (device : Db.Device) (content : ServerReady)
    (built : Wireguard.Config platform) : Prop where
  settings : ∃ privateKey publicKey endpoint,
    Wireguard.Key.fromBase64 device.privateKey = .ok privateKey ∧
    Wireguard.Key.fromBase64 content.publicKey = .ok publicKey ∧
    InetEndpoint.parse platform content.ipv4Endpoint = .ok endpoint ∧
    ∀ getAllByName, built.toWgUserspaceString getAllByName =
      Wireguard.terminated ((known.settings privateKey publicKey
        (endpoint.getResolved platform getAllByName)).map Wireguard.settingText)
  builder : ∃ text address, device.ipv4Address = some text ∧
    InetNetwork.parse platform text = .ok address ∧
    Library.toBuilder built = known.builder address

variable (known : Known platform)

theorem elements_singleton {α : Type} [BEq α] (x : α) :
    (LinkedHashSet.empty.add x).elements = [x] := by
  simp [LinkedHashSet.add, LinkedHashSet.elements_empty]

theorem settings_built (address : InetNetwork platform) (privateKey publicKey : Wireguard.Key)
    (endpoint : InetEndpoint) (getAllByName : String → List platform.Address) :
    (Wireguard.Config.tunnel getAllByName
      { interfaze := Library.interFaceOf known address privateKey
        peers := [Library.peerOf known endpoint publicKey] }).settings =
      known.settings privateKey publicKey (endpoint.getResolved platform getAllByName) := by
  have hinterval : Wireguard.Java.valueOf 25 = "25" := by decide
  have hendpoint : (((some endpoint).bind (InetEndpoint.getResolved platform getAllByName)).map
      InetEndpoint.toString).elim [] (fun ep => [("endpoint", ep)]) =
      (endpoint.getResolved platform getAllByName).elim [] fun ep =>
        [("endpoint", ep.toString)] := by
    cases h : endpoint.getResolved platform getAllByName <;> simp [h]
  simp only [Wireguard.Config.tunnel, Wireguard.Tunnel.settings, Library.interFaceOf,
    Library.peerOf, List.map_cons, List.map_nil, Wireguard.Peer.tunnel,
    Wireguard.TunnelPeer.settings, known.elements_routes, hendpoint, Option.elim_some,
    Option.elim_none, hinterval, Known.settings]
  simp [KeyPair.ofPrivateKey]

/-- What has been built, and from which texts. -/
theorem exists_of_configure (hplatform : platform.Lawful) {device : Db.Device}
    {content : ServerReady} {built : Wireguard.Config platform}
    (h : Library.configure platform device content = .ok built) :
    ∃ text address privateKey endpoint publicKey, device.ipv4Address = some text ∧
      InetNetwork.parse platform text = .ok address ∧
      Wireguard.Key.fromBase64 device.privateKey = .ok privateKey ∧
      InetEndpoint.parse platform content.ipv4Endpoint = .ok endpoint ∧
      Wireguard.Key.fromBase64 content.publicKey = .ok publicKey ∧
      built = { interfaze := Library.interFaceOf known address privateKey
                peers := [Library.peerOf known endpoint publicKey] } := by
  cases hdevice : device.ipv4Address with
  | none =>
      rw [Library.configure, Library.toInterface, hdevice] at h
      cases h
  | some text =>
      rw [Library.configure, Library.toInterface_eq known hdevice] at h
      simp only [Library.toConfig_eq known hplatform] at h
      cases haddress : InetNetwork.parse platform text with
      | error e =>
          rw [haddress] at h
          cases h
      | ok address =>
          rw [haddress] at h
          cases hprivateKey : Wireguard.Key.fromBase64 device.privateKey with
          | error e =>
              rw [hprivateKey] at h
              cases h
          | ok privateKey =>
              rw [hprivateKey] at h
              cases hendpoint : InetEndpoint.parse platform content.ipv4Endpoint with
              | error e =>
                  rw [hendpoint] at h
                  cases h
              | ok endpoint =>
                  rw [hendpoint] at h
                  cases hpublicKey : Wireguard.Key.fromBase64 content.publicKey with
                  | error e =>
                      rw [hpublicKey] at h
                      cases h
                  | ok publicKey =>
                      rw [hpublicKey] at h
                      cases h
                      exact ⟨text, address, privateKey, endpoint, publicKey, rfl, haddress, rfl,
                        rfl, rfl, rfl⟩

theorem told_of_configure (hplatform : platform.Lawful) {device : Db.Device}
    {content : ServerReady} {built : Wireguard.Config platform}
    (h : Library.configure platform device content = .ok built) :
    Told known device content built := by
  obtain ⟨text, address, privateKey, endpoint, publicKey, hdevice, haddress, hprivateKey,
    hendpoint, hpublicKey, rfl⟩ := exists_of_configure known hplatform h
  constructor
  · refine ⟨privateKey, publicKey, endpoint, hprivateKey, hpublicKey, hendpoint, ?_⟩
    intro getAllByName
    rw [Wireguard.Config.toWgUserspaceString_eq, settings_built]
  · refine ⟨text, address, hdevice, haddress, ?_⟩
    simp only [Library.toBuilder, Library.interFaceOf, Library.peerOf, List.flatMap_cons,
      List.flatMap_nil, known.elements_routes, elements_singleton]
    rfl

/-- A connected session has been set up for a device that was stored and the answer of its
server. -/
theorem told_of_connected (hplatform : platform.Lawful) {D : Db.Device → Prop} {phone : Phone}
    {trace : (Phone.system (.ofPlatform platform)).Trace phone}
    (hstores : trace.Obeys (Configured.Stores D)) {service : VPNService}
    (hservice : phone.world.service = some service) {location : Location} {time : Nat}
    {content : ServerReady} {config : Config}
    (hstate : service.vpnOrchestratorState = .connected location time content config) :
    ∃ device built, D device ∧ Library.configure platform device content = .ok built ∧
      config.Denotes built ∧ Told known device content built := by
  have hsound := (Configured.sound_of_stores hstores).service service hservice
  rw [hstate] at hsound
  obtain ⟨interFace, ⟨device, hdevice, hinterFace⟩, hconfig⟩ := hsound
  have htexts : configure (.ofPlatform platform) device content = .ok config := by
    rw [configure, hinterFace]
    exact hconfig
  obtain ⟨built, hbuilt, hdenotes⟩ :=
    (configure_alongside known hplatform device content).of_eq_ok htexts
  exact ⟨device, built, hdevice, hbuilt, hdenotes, told_of_configure known hplatform hbuilt⟩

instance {D : Db.Device → Prop} [DecidablePred D] (env : Env) :
    DecidablePred (Configured.Created D env)
  | .insertDevice => inferInstanceAs (Decidable (D env.createdDevice))
  | .getDevice | .insert _ | .update _ | .delete _ | .withRequestId _ | .deleteWithRequestId _
  | .markAllForDeletion | .toReclaim | .sendNewVpnSession _ | .awaitNewVpnSession _
  | .sendEndVpnSession _ | .awaitEndVpnSession _ | .getVpnSessionStatus _ | .delay
  | .sendOrchestratorMessage _ _ _ | .launchWatch _ _ _ | .endVpnSession _ _ _
  | .runReclaimer _ | .stopRunning _ | .again => .isTrue trivial

instance {D : Db.Device → Prop} [DecidablePred D] (phone : Phone) :
    DecidablePred (Configured.Stores D phone)
  | .setDevice devices => inferInstanceAs (Decidable (∀ device ∈ devices, D device))
  | .perform index env =>
      inferInstanceAs (Decidable (∀ op ∈ phone.nextOp index, Configured.Created D env op))
  | .startApp | .startService | .kill | .createService | .destroyService _ | .send _
  | .handle _ | .revoke _ | .abandon _ | .server _ => .isTrue trivial

open Android.Sample SampleTunnel in
theorem told_of_connected_sample : ∃ phone service,
    ∃ trace : (Phone.system (.ofPlatform .dual)).Trace phone,
      trace.Obeys (Configured.Stores (·.privateKey = zeros)) ∧
      phone.world.service = some service ∧
      service.vpnOrchestratorState = .connected location 0 ready config ∧
      ∃ device built, device.privateKey = zeros ∧
        Library.configure .dual device ready = .ok built ∧ config.Denotes built ∧
        Told SampleTunnel.known device ready built := by
  obtain ⟨phone, trace, hobeys, hcheck⟩ :=
    (Phone.system (.ofPlatform .dual)).exists_trace_of_run
      (Configured.Stores (·.privateKey = zeros)) (Phone.init_installed _) SampleTunnel.connecting
      (fun phone => phone.world.service.any fun service : VPNService =>
        decide (service.vpnOrchestratorState = .connected location 0 ready SampleTunnel.config))
      (by decide +kernel)
  obtain ⟨service, hservice, hstate⟩ := (Option.any_eq_true _ _).mp hcheck
  have hstate := of_decide_eq_true hstate
  exact ⟨phone, service, trace, hobeys, hservice, hstate,
    told_of_connected SampleTunnel.known Wireguard.Platform.lawful_dual hobeys hservice hstate⟩

end Modvpn.Android
