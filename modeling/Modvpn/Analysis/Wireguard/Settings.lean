/-
# What the tunnel is told

The tunnel is turned on with a text of settings, one to a line, where a public key begins
a new peer. What it is told of a configuration is made explicit here, and the text
determines it: no value breaks a line, the keys tell the values apart, and the peers come
apart again at their public keys.
-/

import Modvpn.Analysis.Wireguard.ConfigText

namespace Modvpn.Wireguard

open Java

variable {platform : Platform}

/-! ## Lists in blocks -/

/-- An element of a kind, and elements that are not of that kind. -/
def Block {α : Type} (starts : α → Prop) (block : List α) : Prop :=
  ∃ x rest, block = x :: rest ∧ starts x ∧ ∀ y ∈ rest, ¬ starts y

/-- What follows a block is empty or begins with the next one. -/
theorem starts_of_flatten {α : Type} {starts : α → Prop} {blocks : List (List α)}
    (h : ∀ block ∈ blocks, Block starts block) {x : α} {rest : List α}
    (hflatten : blocks.flatten = x :: rest) : starts x := by
  cases blocks with
  | nil => cases hflatten
  | cons block blocks =>
      obtain ⟨y, others, rfl, hy, -⟩ := h block (List.mem_cons_self ..)
      rw [List.flatten_cons, List.cons_append] at hflatten
      rwa [← (List.cons.inj hflatten).1]

theorem eq_of_append_eq {α : Type} (starts : α → Prop) {xs ys rest others : List α}
    (hxs : ∀ x ∈ xs, ¬ starts x) (hys : ∀ y ∈ ys, ¬ starts y)
    (hrest : ∀ x after, rest = x :: after → starts x)
    (hothers : ∀ x after, others = x :: after → starts x) (h : xs ++ rest = ys ++ others) :
    xs = ys ∧ rest = others := by
  rcases List.append_eq_append_iff.mp h with ⟨between, rfl, rfl⟩ | ⟨between, rfl, rfl⟩
  · cases between with
    | nil => simp
    | cons x between => exact absurd (hrest x _ rfl) (hys x (by simp))
  · cases between with
    | nil => simp
    | cons x between => exact absurd (hothers x _ rfl) (hxs x (by simp))

/-- Blocks come apart again. -/
theorem flatten_injective {α : Type} {starts : α → Prop} {blocks others : List (List α)}
    (hblocks : ∀ block ∈ blocks, Block starts block)
    (hothers : ∀ block ∈ others, Block starts block) (h : blocks.flatten = others.flatten) :
    blocks = others := by
  induction blocks generalizing others with
  | nil =>
      cases others with
      | nil => rfl
      | cons other others =>
          obtain ⟨y, after, rfl, -, -⟩ := hothers other (List.mem_cons_self ..)
          cases h
  | cons block blocks ih =>
      obtain ⟨x, rest, rfl, -, hrest⟩ := hblocks block (List.mem_cons_self ..)
      replace hblocks := (List.forall_mem_cons.mp hblocks).2
      cases others with
      | nil => cases h
      | cons other others =>
          obtain ⟨y, after, rfl, -, hafter⟩ := hothers other (List.mem_cons_self ..)
          replace hothers := (List.forall_mem_cons.mp hothers).2
          rw [List.flatten_cons, List.flatten_cons, List.cons_append, List.cons_append] at h
          obtain ⟨hhead, happend⟩ := List.cons.inj h
          obtain ⟨hrests, htails⟩ := eq_of_append_eq starts hrest hafter
            (fun _ _ => starts_of_flatten hblocks) (fun _ _ => starts_of_flatten hothers) happend
          rw [hhead, hrests, ih hblocks hothers htails]

/-! ## Settings -/

/-- A line of the settings without its end. -/
def settingText (setting : String × String) : String := setting.1 ++ "=" ++ setting.2

theorem terminated_settingText (key value : String) (rest : List (String × String)) :
    terminated (((key, value) :: rest).map settingText) =
      settingLine key value ++ terminated (rest.map settingText) := by
  rw [List.map_cons, terminated_cons]
  rfl

/-- What the tunnel is told of a peer. -/
structure TunnelPeer (platform : Platform) where
  publicKey : Key
  allowedIps : List (InetNetwork platform)
  endpoint : Option String
  persistentKeepalive : Option Int
  preSharedKey : Option Key

/-- What the tunnel is told. -/
structure Tunnel (platform : Platform) where
  privateKey : Key
  listenPort : Option Int
  peers : List (TunnelPeer platform)

def TunnelPeer.settings (peer : TunnelPeer platform) : List (String × String) :=
  ("public_key", peer.publicKey.toHex) ::
    ((peer.allowedIps.map fun allowedIp => ("allowed_ip", allowedIp.toString)) ++
      (peer.endpoint.elim [] fun ep => [("endpoint", ep)]) ++
      (peer.persistentKeepalive.elim [] fun pk =>
        [("persistent_keepalive_interval", valueOf pk)]) ++
      (peer.preSharedKey.elim [] fun psk => [("preshared_key", psk.toHex)]))

def Tunnel.settings (tunnel : Tunnel platform) : List (String × String) :=
  ("private_key", tunnel.privateKey.toHex) ::
    ((tunnel.listenPort.elim [] fun lp => [("listen_port", valueOf lp)]) ++
      ("replace_peers", "true") :: (tunnel.peers.map TunnelPeer.settings).flatten)

variable (getAllByName : String → List platform.Address)

def Peer.tunnel (peer : Peer platform) : TunnelPeer platform where
  publicKey := peer.publicKey
  allowedIps := peer.allowedIps.elements
  endpoint :=
    (peer.endpoint.bind (InetEndpoint.getResolved platform getAllByName)).map InetEndpoint.toString
  persistentKeepalive := peer.persistentKeepalive
  preSharedKey := peer.preSharedKey

def Config.tunnel (config : Config platform) : Tunnel platform where
  privateKey := config.interfaze.keyPair.privateKey
  listenPort := config.interfaze.listenPort
  peers := config.peers.map (Peer.tunnel getAllByName)

/-! ## The text of the settings -/

theorem terminated_elim {α : Type} (field : Option α) (key : String) (value : α → String) :
    terminated ((field.elim [] fun x => [(key, value x)] : List (String × String)).map
      settingText) = field.elim "" fun x => settingLine key (value x) := by
  cases field with
  | none => rfl
  | some x =>
      show terminated (((key, value x) :: []).map settingText) = settingLine key (value x)
      rw [terminated_settingText, List.map_nil, terminated_nil, String.append_empty]

theorem terminated_map_settings {α : Type} (xs : List α) (key : String) (value : α → String) :
    terminated ((xs.map fun x => (key, value x)).map settingText) =
      String.join (xs.map fun x => settingLine key (value x)) := by
  induction xs with
  | nil => rfl
  | cons x xs ih => rw [List.map_cons, terminated_settingText, ih, List.map_cons, String.join_cons]

theorem Peer.toWgUserspaceString_eq (peer : Peer platform) :
    peer.toWgUserspaceString getAllByName =
      terminated ((peer.tunnel getAllByName).settings.map settingText) := by
  rw [TunnelPeer.settings, terminated_settingText]
  simp only [List.map_append, terminated_append, terminated_elim, terminated_map_settings,
    Peer.tunnel, toWgUserspaceString, String.append_assoc]
  cases peer.endpoint.bind (InetEndpoint.getResolved platform getAllByName) <;> rfl

theorem Config.toWgUserspaceString_eq (config : Config platform) :
    config.toWgUserspaceString getAllByName =
      terminated ((config.tunnel getAllByName).settings.map settingText) := by
  have hpeers : String.join (config.peers.map (Peer.toWgUserspaceString getAllByName)) =
      terminated (((config.tunnel getAllByName).peers.map
        TunnelPeer.settings).flatten.map settingText) := by
    rw [List.map_flatten, List.map_map, ← List.flatMap_def, terminated_flatMap, Config.tunnel,
      List.map_map]
    congr 1
    apply List.map_congr_left
    intro peer _
    exact Peer.toWgUserspaceString_eq getAllByName peer
  rw [Tunnel.settings, terminated_settingText, List.map_append, terminated_append, terminated_elim,
    terminated_settingText, ← hpeers, toWgUserspaceString, Interface.toWgUserspaceString]
  simp only [String.append_assoc]
  rfl

/-! ## The settings from their text -/

/-- A value that stays on its line. -/
def Unbroken (text : String) : Prop := ∀ c ∈ text.toList, c ≠ '\n' ∧ c ≠ '\r'

theorem unbroken_of_plain {text : String} (h : ∀ c ∈ text.toList, platform.Plain c) :
    Unbroken text := by
  intro c hc
  have hlow := (h c hc).2.1
  constructor <;> rintro rfl <;> simp at hlow

/-- The key is what stands before the first equals sign. -/
theorem settingText_injective {setting other : String × String} (h : '=' ∉ setting.1.toList)
    (hother : '=' ∉ other.1.toList) (heq : settingText setting = settingText other) :
    setting = other := by
  have hlist : setting.1.toList ++ '=' :: setting.2.toList =
      other.1.toList ++ '=' :: other.2.toList := by
    have htext := congrArg String.toList heq
    simpa [settingText] using htext
  have hkeys := eq_of_append_eq (· = '=') (fun x hx heq => h (heq ▸ hx))
    (fun y hy heq => hother (heq ▸ hy)) (fun _ _ heq => (List.cons.inj heq).1.symm)
    (fun _ _ heq => (List.cons.inj heq).1.symm) hlist
  exact Prod.ext (String.toList_inj.mp hkeys.1) (String.toList_inj.mp (List.cons.inj hkeys.2).2)

/-- A setting that is a line of its own. -/
structure WellFormedSetting (setting : String × String) : Prop where
  key : setting.1.toList.all (fun c => c ≠ '=' && c ≠ '\n' && c ≠ '\r') = true
  value : Unbroken setting.2

theorem wellFormedSetting {key value : String}
    (hkey : key.toList.all (fun c => c ≠ '=' && c ≠ '\n' && c ≠ '\r') = true)
    (hvalue : Unbroken value) : WellFormedSetting (key, value) := ⟨hkey, hvalue⟩

theorem map_injective_of_mem {α β : Type} {f : α → β} {P : α → Prop}
    (hf : ∀ {x y}, P x → P y → f x = f y → x = y) {xs ys : List α} (hxs : ∀ x ∈ xs, P x)
    (hys : ∀ y ∈ ys, P y) (h : xs.map f = ys.map f) : xs = ys := by
  induction xs generalizing ys with
  | nil => exact (List.map_eq_nil_iff.mp h.symm).symm
  | cons x xs ih =>
      cases ys with
      | nil => cases h
      | cons y ys =>
          rw [List.map_cons, List.map_cons] at h
          obtain ⟨hhead, htail⟩ := List.cons.inj h
          rw [List.forall_mem_cons] at hxs hys
          rw [hf hxs.1 hys.1 hhead, ih hxs.2 hys.2 htail]

/-- Settings are read back from their text. -/
theorem terminated_settings_injective {settings others : List (String × String)}
    (h : ∀ setting ∈ settings, WellFormedSetting setting)
    (hothers : ∀ setting ∈ others, WellFormedSetting setting)
    (heq : terminated (settings.map settingText) = terminated (others.map settingText)) :
    settings = others := by
  have hunbroken {settings : List (String × String)}
      (h : ∀ setting ∈ settings, WellFormedSetting setting) :
      ∀ line ∈ settings.map settingText, Unbroken line := by
    intro line hline c hc
    obtain ⟨setting, hsetting, rfl⟩ := List.mem_map.mp hline
    simp only [settingText, String.toList_append, List.mem_append] at hc
    rcases hc with (hc | hc) | hc
    · have hkey := List.all_eq_true.mp (h setting hsetting).key c hc
      simp only [Bool.and_eq_true, decide_eq_true_eq] at hkey
      exact ⟨hkey.1.2, hkey.2⟩
    · obtain rfl : c = '=' := by simpa using hc
      decide
    · exact (h setting hsetting).value c hc
  have hlines : settings.map settingText = others.map settingText := by
    have hread := congrArg (fun text => readLines [] text.toList) heq
    simp only [readLines_terminated (hunbroken h), readLines_terminated (hunbroken hothers)] at hread
    exact List.map_injective_iff.mpr (fun _ _ => String.toList_inj.mp) hread
  have hkey {setting : String × String} (h : WellFormedSetting setting) : '=' ∉ setting.1.toList := by
    intro hmem
    have := List.all_eq_true.mp h.key '=' hmem
    simp at this
  exact map_injective_of_mem (fun hx hy => settingText_injective (hkey hx) (hkey hy)) h hothers
    hlines

/-! ## The tunnel from its settings -/

/-- The values that are set for a key. -/
def values (key : String) (settings : List (String × String)) : List String :=
  (settings.filter (·.1 = key)).map (·.2)

theorem values_nil (key : String) : values key [] = [] := rfl

theorem values_cons (key name value : String) (rest : List (String × String)) :
    values key ((name, value) :: rest) =
      if name = key then value :: values key rest else values key rest := by
  unfold values
  by_cases h : name = key <;> simp [h]

theorem values_append (key : String) (settings others : List (String × String)) :
    values key (settings ++ others) = values key settings ++ values key others := by
  rw [values, List.filter_append, List.map_append]
  rfl

theorem values_map {α : Type} (key name : String) (value : α → String) (xs : List α) :
    values key (xs.map fun x => (name, value x)) = if name = key then xs.map value else [] := by
  induction xs with
  | nil => simp [values]
  | cons x xs ih =>
      rw [List.map_cons, values_cons, ih]
      split <;> rfl

theorem values_elim {α : Type} (key name : String) (value : α → String) (field : Option α) :
    values key (field.elim [] fun x => [(name, value x)]) =
      if name = key then field.toList.map value else [] := by
  cases field with
  | none => simp [values]
  | some x => simp [values_cons, values_nil]

theorem eq_of_toList_eq {α : Type} {field other : Option α} (h : field.toList = other.toList) :
    field = other := by
  simpa using congrArg List.head? h

theorem unbroken_valueOf (hplatform : platform.Lawful) {n : Int} (h : 1 ≤ n) :
    Unbroken (valueOf n) :=
  unbroken_of_plain (plainText_valueOf_of_le hplatform h).plain

structure TunnelPeer.WellFormed (peer : TunnelPeer platform) : Prop where
  allowedIps : ∀ network ∈ peer.allowedIps, network.WellFormed
  endpoint : ∀ endpoint ∈ peer.endpoint, Unbroken endpoint
  persistentKeepalive : ∀ interval ∈ peer.persistentKeepalive, 1 ≤ interval ∧ interval ≤ 65535

structure Tunnel.WellFormed (tunnel : Tunnel platform) : Prop where
  listenPort : ∀ port ∈ tunnel.listenPort, 1 ≤ port ∧ port ≤ 65535
  peers : ∀ peer ∈ tunnel.peers, peer.WellFormed

theorem InetNetwork.toString_injective (hplatform : platform.Lawful)
    {network other : InetNetwork platform} (h : network.WellFormed) (hother : other.WellFormed)
    (heq : network.toString = other.toString) : network = other := by
  have hfirst := parse_toString hplatform h
  rw [heq, parse_toString hplatform hother] at hfirst
  exact (Except.ok.inj hfirst).symm

theorem Key.lowerCode_hexCode {d : Nat} (h : d < 16) : lowerCode (hexCode d) = hexCode d := by
  unfold hexCode lowerCode
  split_ifs <;> omega

theorem Key.fromHex_toHex (key : Key) : fromHex key.toHex = .ok key := by
  have hlower : (hexCodes key.bytes).map lowerCode = hexCodes key.bytes := by
    conv_rhs => rw [← List.map_id (hexCodes key.bytes)]
    apply List.map_congr_left
    intro n hn
    obtain ⟨b, -, hn⟩ := List.mem_flatMap.mp hn
    have hb := b.isLt
    simp only [List.mem_cons, List.not_mem_nil, or_false] at hn
    rcases hn with rfl | rfl
    · exact lowerCode_hexCode (by omega)
    · exact lowerCode_hexCode (by omega)
  rw [fromHex_eq_ok, toCharArray_toHex, List.length_map, length_hexCodes, key.length_bytes]
  exact ⟨rfl, readPairs_of_lower key.bytes _ (fun _ => hexCodes_lt) hlower⟩

theorem Key.toHex_injective {key other : Key} (h : key.toHex = other.toHex) : key = other := by
  have hfirst := fromHex_toHex key
  rw [h, fromHex_toHex] at hfirst
  exact (Except.ok.inj hfirst).symm

theorem Key.unbroken_toHex (key : Key) : Unbroken key.toHex := by
  intro c hc
  have hcode : c.toNat ∈ hexCodes key.bytes := by
    rw [← map_toNat_toHex]
    exact List.mem_map_of_mem hc
  obtain ⟨b, -, hcode⟩ := List.mem_flatMap.mp hcode
  have hlow : 48 ≤ c.toNat := by
    simp only [List.mem_cons, List.not_mem_nil, or_false, hexCode] at hcode
    rcases hcode with hcode | hcode <;> split at hcode <;> omega
  constructor <;> rintro rfl <;> simp at hlow

theorem valueOf_injective (hplatform : platform.Lawful) {n m : Int} (hn : 1 ≤ n ∧ n ≤ 65535)
    (hm : 1 ≤ m ∧ m ≤ 65535) (h : valueOf n = valueOf m) : n = m := by
  have hfirst := parseInt_valueOf_of_le hplatform (show 0 ≤ n by omega) (by omega)
  have hsecond := parseInt_valueOf_of_le hplatform (show 0 ≤ m by omega) (by omega)
  rw [h, hsecond] at hfirst
  exact (Option.some.inj hfirst).symm

namespace TunnelPeer

variable (peer : TunnelPeer platform)

theorem values_publicKey : values "public_key" peer.settings = [peer.publicKey.toHex] := by
  simp [settings, values_cons, values_append, values_map, values_elim]

theorem values_allowedIp :
    values "allowed_ip" peer.settings = peer.allowedIps.map InetNetwork.toString := by
  simp [settings, values_cons, values_append, values_map, values_elim]

theorem values_endpoint : values "endpoint" peer.settings = peer.endpoint.toList := by
  simp [settings, values_cons, values_append, values_map, values_elim]

theorem values_persistentKeepalive :
    values "persistent_keepalive_interval" peer.settings =
      peer.persistentKeepalive.toList.map valueOf := by
  simp [settings, values_cons, values_append, values_map, values_elim]

theorem values_presharedKey :
    values "preshared_key" peer.settings = peer.preSharedKey.toList.map Key.toHex := by
  simp [settings, values_cons, values_append, values_map, values_elim]

variable {peer} {other : TunnelPeer platform}

/-- The settings of a peer say all of it. -/
theorem settings_injective (hplatform : platform.Lawful) (h : peer.WellFormed)
    (hother : other.WellFormed) (heq : peer.settings = other.settings) : peer = other := by
  have hpublicKey : peer.publicKey = other.publicKey := by
    have hvalues := congrArg (values "public_key") heq
    rw [values_publicKey, values_publicKey] at hvalues
    exact Key.toHex_injective (List.cons.inj hvalues).1
  have hallowedIps : peer.allowedIps = other.allowedIps := by
    have hvalues := congrArg (values "allowed_ip") heq
    rw [values_allowedIp, values_allowedIp] at hvalues
    exact map_injective_of_mem (InetNetwork.toString_injective hplatform) h.allowedIps
      hother.allowedIps hvalues
  have hendpoint : peer.endpoint = other.endpoint := by
    have hvalues := congrArg (values "endpoint") heq
    rw [values_endpoint, values_endpoint] at hvalues
    exact eq_of_toList_eq hvalues
  have hkeepalive : peer.persistentKeepalive = other.persistentKeepalive := by
    have hvalues := congrArg (values "persistent_keepalive_interval") heq
    rw [values_persistentKeepalive, values_persistentKeepalive] at hvalues
    exact eq_of_toList_eq (map_injective_of_mem (valueOf_injective hplatform)
      (by simpa using h.persistentKeepalive) (by simpa using hother.persistentKeepalive) hvalues)
  have hpreSharedKey : peer.preSharedKey = other.preSharedKey := by
    have hvalues := congrArg (values "preshared_key") heq
    rw [values_presharedKey, values_presharedKey] at hvalues
    exact eq_of_toList_eq
      (List.map_injective_iff.mpr (fun _ _ => Key.toHex_injective) hvalues)
  cases peer
  cases other
  congr

theorem block_settings (peer : TunnelPeer platform) :
    Block (fun setting => setting.1 = "public_key") peer.settings := by
  refine ⟨_, _, rfl, rfl, ?_⟩
  intro setting hsetting
  have hvalues := values_publicKey peer
  rw [settings, values_cons, if_pos rfl] at hvalues
  have hnone := (List.cons.inj hvalues).2
  intro hkey
  have hmem : setting.2 ∈ values "public_key" _ :=
    List.mem_map_of_mem (List.mem_filter.mpr ⟨hsetting, by simpa using hkey⟩)
  rw [hnone] at hmem
  cases hmem

theorem WellFormed.settings (h : peer.WellFormed) (hplatform : platform.Lawful) :
    ∀ setting ∈ peer.settings, WellFormedSetting setting := by
  intro setting hsetting
  simp only [TunnelPeer.settings, List.mem_cons, List.mem_append, List.mem_map] at hsetting
  rcases hsetting with rfl | ((⟨network, hnetwork, rfl⟩ | hsetting) | hsetting) | hsetting
  · exact wellFormedSetting (by decide) (Key.unbroken_toHex _)
  · exact wellFormedSetting (by decide) (unbroken_of_plain
      (InetNetwork.plainText_toString hplatform (h.allowedIps network hnetwork)).plain)
  · cases hendpoint : peer.endpoint with
    | none => simp [hendpoint] at hsetting
    | some endpoint =>
        obtain rfl : setting = ("endpoint", endpoint) := by simpa [hendpoint] using hsetting
        exact wellFormedSetting (by decide) (h.endpoint endpoint hendpoint)
  · cases hkeepalive : peer.persistentKeepalive with
    | none => simp [hkeepalive] at hsetting
    | some interval =>
        obtain rfl : setting = ("persistent_keepalive_interval", valueOf interval) := by
          simpa [hkeepalive] using hsetting
        exact wellFormedSetting (by decide)
          (unbroken_valueOf hplatform (h.persistentKeepalive interval hkeepalive).1)
  · cases hpsk : peer.preSharedKey with
    | none => simp [hpsk] at hsetting
    | some key =>
        obtain rfl : setting = ("preshared_key", key.toHex) := by simpa [hpsk] using hsetting
        exact wellFormedSetting (by decide) (Key.unbroken_toHex _)

end TunnelPeer

namespace Tunnel

variable {tunnel other : Tunnel platform}

theorem WellFormed.settings (h : tunnel.WellFormed) (hplatform : platform.Lawful) :
    ∀ setting ∈ tunnel.settings, WellFormedSetting setting := by
  intro setting hsetting
  simp only [Tunnel.settings, List.mem_cons, List.mem_append, List.mem_flatten,
    List.mem_map] at hsetting
  rcases hsetting with rfl | hsetting | rfl | ⟨settings, ⟨peer, hpeer, rfl⟩, hsetting⟩
  · exact wellFormedSetting (by decide) (Key.unbroken_toHex _)
  · cases hport : tunnel.listenPort with
    | none => simp [hport] at hsetting
    | some port =>
        obtain rfl : setting = ("listen_port", valueOf port) := by simpa [hport] using hsetting
        exact wellFormedSetting (by decide) (unbroken_valueOf hplatform (h.listenPort port hport).1)
  · have hvalue : "true".toList.all (fun c => c ≠ '\n' && c ≠ '\r') = true := by decide
    apply wellFormedSetting (by decide)
    intro c hc
    simpa using List.all_eq_true.mp hvalue c hc
  · exact (h.peers peer hpeer).settings hplatform setting hsetting

/-- The settings say all of it. -/
theorem settings_injective (hplatform : platform.Lawful) (h : tunnel.WellFormed)
    (hother : other.WellFormed) (heq : tunnel.settings = other.settings) : tunnel = other := by
  have hport {tunnel : Tunnel platform} : ∀ setting ∈
      (tunnel.listenPort.elim [] fun lp => [("listen_port", valueOf lp)] : List (String × String)),
      ¬ setting.1 = "replace_peers" := by
    intro setting hsetting
    cases hport : tunnel.listenPort <;> simp [hport] at hsetting
    simp [hsetting]
  obtain ⟨hprivateKey, hrest⟩ := List.cons.inj heq
  obtain ⟨hlistenPort, hpeers⟩ := eq_of_append_eq
    (fun setting : String × String => setting.1 = "replace_peers") hport hport
    (fun _ _ heq => by rw [← (List.cons.inj heq).1]) (fun _ _ heq => by rw [← (List.cons.inj heq).1])
    hrest
  have hblocks {tunnel : Tunnel platform} : ∀ block ∈ tunnel.peers.map TunnelPeer.settings,
      Block (fun setting => setting.1 = "public_key") block := by
    intro block hblock
    obtain ⟨peer, -, rfl⟩ := List.mem_map.mp hblock
    exact peer.block_settings
  have hprivateKey : tunnel.privateKey = other.privateKey :=
    Key.toHex_injective (congrArg Prod.snd hprivateKey)
  have hlistenPort : tunnel.listenPort = other.listenPort := by
    have hvalues := congrArg (values "listen_port") hlistenPort
    simp only [values_elim, if_true] at hvalues
    exact eq_of_toList_eq (map_injective_of_mem (valueOf_injective hplatform)
      (by simpa using h.listenPort) (by simpa using hother.listenPort) hvalues)
  have hpeers : tunnel.peers = other.peers :=
    map_injective_of_mem (TunnelPeer.settings_injective hplatform) h.peers hother.peers
      (flatten_injective hblocks hblocks (List.cons.inj hpeers).2)
  cases tunnel
  cases other
  congr

end Tunnel

/-! ## Configurations -/

/-- The addresses that a name is looked up as have a text. -/
def Found (platform : Platform) (getAllByName : String → List platform.Address) : Prop :=
  ∀ host, ∀ address ∈ getAllByName host, ∃ text, platform.parseNumericAddress text = some address

variable {getAllByName : String → List platform.Address}

theorem unbroken_append {text other : String} (h : Unbroken text) (hother : Unbroken other) :
    Unbroken (text ++ other) := by
  intro c hc
  rw [String.toList_append, List.mem_append] at hc
  rcases hc with hc | hc
  · exact h c hc
  · exact hother c hc

theorem unbroken_toString {endpoint : InetEndpoint} (hhost : Unbroken endpoint.host)
    (hport : Unbroken (valueOf endpoint.port)) : Unbroken endpoint.toString := by
  have hmark {mark : String} (h : mark.toList.all (fun c => c ≠ '\n' && c ≠ '\r') = true) :
      Unbroken mark := by
    intro c hc
    simpa using List.all_eq_true.mp h c hc
  apply unbroken_append (unbroken_append ?_ (hmark (by decide))) hport
  split
  · exact unbroken_append (unbroken_append (hmark (by decide)) hhost) (hmark (by decide))
  · exact hhost

theorem InetEndpoint.mem_of_prefer {candidates : List platform.Address}
    {address : platform.Address} (h : prefer platform candidates = some address) :
    address ∈ candidates := by
  rcases Option.or_eq_some_iff.mp h with hfind | ⟨-, hhead⟩
  · exact List.mem_of_find?_eq_some hfind
  · exact List.mem_of_mem_head? hhead

theorem unbroken_getResolved (hplatform : platform.Lawful) (hfound : Found platform getAllByName)
    {endpoint resolved : InetEndpoint} (h : endpoint.WellFormed platform)
    (hresolved : endpoint.getResolved platform getAllByName = some resolved) :
    Unbroken resolved.toString := by
  unfold InetEndpoint.getResolved at hresolved
  split at hresolved
  · cases hresolved
    exact unbroken_of_plain fun c hc => ((InetEndpoint.plain_toString hplatform h).2 c hc).1
  · obtain ⟨address, hprefer, rfl⟩ := Option.map_eq_some_iff.mp hresolved
    obtain ⟨text, htext⟩ := hfound endpoint.host address (InetEndpoint.mem_of_prefer hprefer)
    have hport := plainText_valueOf hplatform endpoint.port.toNat
    rw [Int.toNat_of_nonneg h.port_nonneg] at hport
    exact unbroken_toString
      (unbroken_of_plain (InetAddresses.plainText_getHostAddress hplatform htext).plain)
      (unbroken_of_plain hport.plain)

theorem Config.WellFormed.tunnel {config : Config platform} (h : config.WellFormed)
    (hplatform : platform.Lawful) (hfound : Found platform getAllByName) :
    (config.tunnel getAllByName).WellFormed := by
  constructor
  · exact h.interfaze.listenPort
  · intro peer hpeer
    obtain ⟨peer, hmem, rfl⟩ := List.mem_map.mp hpeer
    have hpeer := h.peers peer hmem
    constructor
    · exact hpeer.allowedIps
    · intro text htext
      obtain ⟨resolved, hresolved, rfl⟩ := Option.map_eq_some_iff.mp htext
      obtain ⟨endpoint, hendpoint, hresolved⟩ := Option.bind_eq_some_iff.mp hresolved
      exact unbroken_getResolved hplatform hfound (hpeer.endpoint endpoint hendpoint) hresolved
    · exact hpeer.persistentKeepalive

/-- The settings of two configurations that have been read are the same text exactly where the
tunnel is told the same. -/
theorem Config.toWgUserspaceString_eq_iff (hplatform : platform.Lawful)
    (hfound : Found platform getAllByName) {text other : String} {config again : Config platform}
    (h : parse platform text = .ok config) (hagain : parse platform other = .ok again) :
    config.toWgUserspaceString getAllByName = again.toWgUserspaceString getAllByName ↔
      config.tunnel getAllByName = again.tunnel getAllByName := by
  have hconfig := (wellFormed_of_parse h).tunnel hplatform hfound
  have hother := (wellFormed_of_parse hagain).tunnel hplatform hfound
  rw [toWgUserspaceString_eq, toWgUserspaceString_eq]
  constructor
  · intro heq
    exact Tunnel.settings_injective hplatform hconfig hother
      (terminated_settings_injective (hconfig.settings hplatform) (hother.settings hplatform) heq)
  · intro heq
    rw [heq]

namespace Config

/-- The sample with a second server. -/
def roaming (endpoint : InetEndpoint) : Config .ascii where
  interfaze := sample.interfaze
  peers := sample.peers ++
    [{ allowedIps := .add .empty ⟨(⟨10, 64, 0, 0⟩ : Ipv4Addr), 16⟩
       endpoint := some endpoint
       persistentKeepalive := none
       preSharedKey := some sampleKey
       publicKey := .mixed }]

def named : InetEndpoint := { host := "gw.vpn.internal", isResolved := false, port := 51820 }

def numbered : InetEndpoint := { host := "192.0.2.8", isResolved := true, port := 51820 }

/-- Only one name is known. -/
def lookup (host : String) : List Platform.ascii.Address :=
  if host = "gw.vpn.internal" then [(⟨192, 0, 2, 8⟩ : Ipv4Addr)] else []

theorem found_lookup : Found .ascii lookup := fun _ address _ =>
  ⟨_, Platform.parse_toText_ascii address⟩

theorem wellFormed_named : named.WellFormed .ascii where
  server := ⟨"gw.vpn.internal:51820", by rw [Platform.uri_ascii]; decide +kernel⟩
  port_nonneg := by decide
  port_le := by decide
  isResolved := by decide +kernel

theorem wellFormed_numbered : numbered.WellFormed .ascii where
  server := ⟨"192.0.2.8:51820", by rw [Platform.uri_ascii]; decide +kernel⟩
  port_nonneg := by decide
  port_le := by decide
  isResolved := by decide +kernel

theorem parse_roaming {endpoint : InetEndpoint} (h : endpoint.WellFormed .ascii) :
    parse .ascii (roaming endpoint).toWgQuickString = .ok (roaming endpoint) := by
  have hroaming : (roaming endpoint).WellFormed := by
    refine ⟨wellFormed_sample.interfaze, ?_⟩
    intro peer hpeer
    rcases List.mem_append.mp hpeer with hpeer | hpeer
    · exact wellFormed_sample.peers peer hpeer
    · obtain rfl := List.mem_singleton.mp hpeer
      constructor
      · intro network hnetwork
        obtain rfl := List.mem_singleton.mp hnetwork
        exact ⟨⟨_, Platform.parse_toText_ascii _⟩, by decide, by decide⟩
      · intro other hother
        cases hother
        exact h
      · intro interval hinterval
        cases hinterval
  rw [parse_written Platform.lawful_ascii hroaming plainApplications_sample]
  rfl

/-- One file names the second server and another one has its address: the tunnel is told the
same. -/
theorem toWgUserspaceString_eq_iff_roaming :
    Found .ascii lookup ∧
      parse .ascii (roaming named).toWgQuickString = .ok (roaming named) ∧
      parse .ascii (roaming numbered).toWgQuickString = .ok (roaming numbered) ∧
      roaming named ≠ roaming numbered ∧
      (roaming named).tunnel lookup = (roaming numbered).tunnel lookup ∧
      ((roaming named).toWgUserspaceString lookup = (roaming numbered).toWgUserspaceString lookup ↔
        (roaming named).tunnel lookup = (roaming numbered).tunnel lookup) := by
  refine ⟨found_lookup, parse_roaming wellFormed_named, parse_roaming wellFormed_numbered, ?_, ?_,
    toWgUserspaceString_eq_iff Platform.lawful_ascii found_lookup
      (parse_roaming wellFormed_named) (parse_roaming wellFormed_numbered)⟩
  · intro heq
    have hendpoints := congrArg (fun config => config.peers.map Peer.endpoint) heq
    revert hendpoints
    decide
  · have hresolved : named.getResolved .ascii lookup = numbered.getResolved .ascii lookup := by
      decide +kernel
    simp only [tunnel, roaming, List.map_append, List.map_cons, Peer.tunnel, Option.bind_some,
      hresolved]

end Config

end Modvpn.Wireguard
