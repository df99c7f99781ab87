/-
# What a configuration that has been read is made of

Every attribute leaves the builder with values that were read, in their bounds, and the
sections hand them on. The search domains are the names that are no addresses.
-/

import Modvpn.Analysis.Wireguard.AttributeText
import Modvpn.Analysis.Wireguard.Sections

namespace Modvpn.Wireguard

open Java

variable {platform : Platform}

/-- What each step keeps holds after a loop that throws nothing. -/
theorem foldlM_induction {σ α ε : Type} {f : σ → α → Except ε σ} {P : σ → Prop}
    (hstep : ∀ {s x next}, P s → f s x = .ok next → P next) :
    ∀ (xs : List α) {s final : σ}, P s → xs.foldlM f s = .ok final → P final
  | [], s, final, hs, h => by
      cases h
      exact hs
  | x :: xs, s, final, hs, h => by
      rw [List.foldlM_cons] at h
      cases hx : f s x with
      | error e => simp [hx, bind, Except.bind] at h
      | ok next =>
          rw [hx] at h
          exact foldlM_induction hstep xs (hstep hs hx) h

/-! ## Sets -/

namespace LinkedHashSet

variable {α : Type} [BEq α]

theorem elements_empty : (empty : LinkedHashSet α).elements = [] := rfl

theorem mem_add {set : LinkedHashSet α} {x y : α} (h : y ∈ (set.add x).elements) :
    y ∈ set.elements ∨ y = x := by
  unfold add at h
  split at h
  · exact .inl h
  · simpa using h

theorem forall_add {set : LinkedHashSet α} {x : α} {P : α → Prop}
    (hset : ∀ y ∈ set.elements, P y) (hx : P x) : ∀ y ∈ (set.add x).elements, P y := by
  intro y hy
  rcases mem_add hy with hy | rfl
  · exact hset y hy
  · exact hx

/-- Elements that differ are all added, in their order. -/
theorem elements_addAll (set : LinkedHashSet α) (xs : List α)
    (h : (set.elements ++ xs).Pairwise fun x y => (y == x) = false) :
    (set.addAll xs).elements = set.elements ++ xs := by
  induction xs generalizing set with
  | nil => simp [addAll]
  | cons x xs ih =>
      have hnew : ∀ y ∈ set.elements, (x == y) = false := fun y hy =>
        (List.pairwise_append.mp h).2.2 y hy x (List.mem_cons_self ..)
      have hadd : (set.add x).elements = set.elements ++ [x] := by
        rw [add, dif_neg]
        rw [List.any_eq_true]
        rintro ⟨y, hy, heq⟩
        rw [hnew y hy] at heq
        cases heq
      show ((set.add x).addAll xs).elements = _
      rw [ih (set.add x) (by rw [hadd]; simpa using h), hadd]
      simp

theorem ext_elements {set other : LinkedHashSet α} (h : set.elements = other.elements) :
    set = other := by
  cases set
  cases other
  cases h
  rfl

theorem addAll_elements (set : LinkedHashSet α) : empty.addAll set.elements = set := by
  apply ext_elements
  rw [elements_addAll, elements_empty, List.nil_append]
  simpa [elements_empty] using set.distinct

theorem eq_empty_of_isEmpty {set : LinkedHashSet α} (h : set.isEmpty = true) : set = empty :=
  ext_elements (List.isEmpty_iff.mp h)

end LinkedHashSet

/-! ## Values -/

theorem parseInt_le {text : String} {value : Int} (h : parseInt platform text = some value) :
    value ≤ 2147483647 := by
  simp only [parseInt] at h
  split at h
  · cases h
  · simp only [Option.bind_eq_bind, Option.bind_eq_some_iff] at h
    obtain ⟨values, _, h⟩ := h
    rw [Option.ite_none_right_eq_some] at h
    rw [← Option.some.inj h.2]
    exact h.1.2

theorem InetAddresses.parseNumericAddress_of_error {text : String} {e : ParseException}
    (hname : isHostname text = true) (h : parse platform text = .error e) :
    platform.parseNumericAddress text = none := by
  unfold parse at h
  split at h
  · rename_i hempty
    rw [hempty, show isHostname "" = false by decide] at hname
    cases hname
  · split at h
    · cases h
    · assumption

/-! ## Interfaces -/

namespace Interface

/-- The values that the attributes of an interface have set. -/
structure Builder.WellFormed (builder : Builder platform) : Prop where
  addresses : ∀ network ∈ builder.addresses.elements, network.WellFormed
  dnsServers : ∀ address ∈ builder.dnsServers.elements,
    ∃ text, platform.parseNumericAddress text = some address
  dnsSearchDomains : ∀ domain ∈ builder.dnsSearchDomains.elements,
    InetAddresses.isHostname domain = true ∧ platform.parseNumericAddress domain = none
  keyPair : ∀ pair ∈ builder.keyPair, pair = .ofPrivateKey pair.privateKey
  listenPort : ∀ port ∈ builder.listenPort, 1 ≤ port ∧ port ≤ 65535
  mtu : ∀ size ∈ builder.mtu, 1 ≤ size ∧ size ≤ 2147483647

structure WellFormed (interfaze : Interface platform) : Prop where
  addresses : ∀ network ∈ interfaze.addresses.elements, network.WellFormed
  dnsServers : ∀ address ∈ interfaze.dnsServers.elements,
    ∃ text, platform.parseNumericAddress text = some address
  dnsSearchDomains : ∀ domain ∈ interfaze.dnsSearchDomains.elements,
    InetAddresses.isHostname domain = true ∧ platform.parseNumericAddress domain = none
  applications : interfaze.includedApplications.isEmpty = true ∨
    interfaze.excludedApplications.isEmpty = true
  keyPair : interfaze.keyPair = .ofPrivateKey interfaze.keyPair.privateKey
  listenPort : ∀ port ∈ interfaze.listenPort, 1 ≤ port ∧ port ≤ 65535
  mtu : ∀ size ∈ interfaze.mtu, 1 ≤ size ∧ size ≤ 2147483647

namespace Builder.WellFormed

variable {builder next : Builder platform} (hbuilder : builder.WellFormed)
include hbuilder

theorem parseAddresses {text : String} (h : builder.parseAddresses text = .ok next) :
    next.WellFormed := by
  apply foldlM_induction _ _ hbuilder h
  intro builder address next hbuilder hstep
  split at hstep
  · rename_i network hnetwork
    cases hstep
    exact { hbuilder with
      addresses := LinkedHashSet.forall_add hbuilder.addresses
        (InetNetwork.wellFormed_of_parse hnetwork) }
  · cases hstep

theorem parseDnsServers {text : String} (h : builder.parseDnsServers text = .ok next) :
    next.WellFormed := by
  apply foldlM_induction _ _ hbuilder h
  intro builder dnsServer next hbuilder hstep
  split at hstep
  · rename_i address haddress
    cases hstep
    exact { hbuilder with
      dnsServers := LinkedHashSet.forall_add hbuilder.dnsServers
        ⟨dnsServer, InetAddresses.parse_eq_ok haddress⟩ }
  · rename_i e hparse
    split at hstep
    · cases hstep
    · rename_i hname
      cases hstep
      have hhostname : InetAddresses.isHostname dnsServer = true := by
        simp only [Bool.or_eq_true, not_or] at hname
        simpa using hname.2
      exact { hbuilder with
        dnsSearchDomains := LinkedHashSet.forall_add hbuilder.dnsSearchDomains
          ⟨hhostname, InetAddresses.parseNumericAddress_of_error hhostname hparse⟩ }

theorem parseListenPort {text : String} (h : builder.parseListenPort text = .ok next) :
    next.WellFormed := by
  unfold Builder.parseListenPort at h
  split at h
  · unfold Builder.setListenPort at h
    split at h
    · cases h
    · cases h
      refine { hbuilder with listenPort := ?_ }
      intro port hport
      split at hport <;> cases hport
      omega
  · cases h

theorem parseMtu {text : String} (h : builder.parseMtu text = .ok next) : next.WellFormed := by
  unfold Builder.parseMtu at h
  split at h
  · rename_i value hvalue
    have hle := parseInt_le hvalue
    unfold Builder.setMtu at h
    split at h
    · cases h
    · cases h
      refine { hbuilder with mtu := ?_ }
      intro size hsize
      split at hsize <;> cases hsize
      omega
  · cases h

theorem parsePrivateKey {text : String} (h : builder.parsePrivateKey text = .ok next) :
    next.WellFormed := by
  unfold Builder.parsePrivateKey at h
  split at h
  · cases h
    refine { hbuilder with keyPair := ?_ }
    intro pair hpair
    cases hpair
    rfl
  · cases h

theorem parseAttribute {entry : Attribute} (h : builder.parseAttribute entry = .ok next) :
    next.WellFormed := by
  unfold Builder.parseAttribute at h
  split at h
  · exact hbuilder.parseAddresses h
  · exact hbuilder.parseDnsServers h
  · cases h
    exact { hbuilder with }
  · cases h
    exact { hbuilder with }
  · exact hbuilder.parseListenPort h
  · exact hbuilder.parseMtu h
  · exact hbuilder.parsePrivateKey h
  · cases h

theorem parseLine {line : String} (h : builder.parseLine line = .ok next) : next.WellFormed := by
  unfold Builder.parseLine at h
  split at h
  · cases h
  · exact hbuilder.parseAttribute h

theorem build {interfaze : Interface platform} (h : builder.build = .ok interfaze) :
    interfaze.WellFormed := by
  unfold Builder.build at h
  split at h
  · cases h
  · rename_i keyPair hkeyPair
    split at h
    · cases h
    · rename_i happlications
      cases h
      exact { hbuilder with
        keyPair := hbuilder.keyPair keyPair hkeyPair
        applications := by simpa [Classical.or_iff_not_imp_left] using happlications }

end Builder.WellFormed

theorem Builder.wellFormed_initial : ({} : Builder platform).WellFormed where
  addresses := by simp [LinkedHashSet.empty]
  dnsServers := by simp [LinkedHashSet.empty]
  dnsSearchDomains := by simp [LinkedHashSet.empty]
  keyPair := by simp
  listenPort := by simp
  mtu := by simp

theorem wellFormed_of_parse {lines : List String} {interfaze : Interface platform}
    (h : parse platform lines = .ok interfaze) : interfaze.WellFormed := by
  unfold parse at h
  cases hlines : lines.foldlM Builder.parseLine ({} : Builder platform) with
  | error e => simp [hlines, bind, Except.bind] at h
  | ok builder =>
      rw [hlines] at h
      have hbuilder : builder.WellFormed :=
        foldlM_induction (fun hbuilder hline => hbuilder.parseLine hline) lines
          Builder.wellFormed_initial hlines
      exact hbuilder.build h

end Interface

/-! ## Peers -/

namespace Peer

/-- The values that the attributes of a peer have set. -/
structure Builder.WellFormed (builder : Builder platform) : Prop where
  allowedIps : ∀ network ∈ builder.allowedIps.elements, network.WellFormed
  endpoint : ∀ endpoint ∈ builder.endpoint, endpoint.WellFormed platform
  persistentKeepalive : ∀ interval ∈ builder.persistentKeepalive, 1 ≤ interval ∧ interval ≤ 65535

structure WellFormed (peer : Peer platform) : Prop where
  allowedIps : ∀ network ∈ peer.allowedIps.elements, network.WellFormed
  endpoint : ∀ endpoint ∈ peer.endpoint, endpoint.WellFormed platform
  persistentKeepalive : ∀ interval ∈ peer.persistentKeepalive, 1 ≤ interval ∧ interval ≤ 65535

namespace Builder.WellFormed

variable {builder next : Builder platform} (hbuilder : builder.WellFormed)
include hbuilder

theorem parseAllowedIPs {text : String} (h : builder.parseAllowedIPs text = .ok next) :
    next.WellFormed := by
  apply foldlM_induction _ _ hbuilder h
  intro builder allowedIp next hbuilder hstep
  split at hstep
  · rename_i network hnetwork
    cases hstep
    exact { hbuilder with
      allowedIps := LinkedHashSet.forall_add hbuilder.allowedIps
        (InetNetwork.wellFormed_of_parse hnetwork) }
  · cases hstep

theorem parseEndpoint {text : String} (h : builder.parseEndpoint text = .ok next) :
    next.WellFormed := by
  unfold Builder.parseEndpoint at h
  split at h
  · rename_i value hvalue
    cases h
    refine { hbuilder with endpoint := ?_ }
    intro endpoint hendpoint
    cases hendpoint
    exact InetEndpoint.wellFormed_of_parse hvalue
  · cases h

theorem parsePersistentKeepalive {text : String}
    (h : builder.parsePersistentKeepalive text = .ok next) : next.WellFormed := by
  unfold Builder.parsePersistentKeepalive at h
  split at h
  · unfold Builder.setPersistentKeepalive at h
    split at h
    · cases h
    · cases h
      refine { hbuilder with persistentKeepalive := ?_ }
      intro interval hinterval
      split at hinterval <;> cases hinterval
      omega
  · cases h

theorem parseAttribute {entry : Attribute} (h : builder.parseAttribute entry = .ok next) :
    next.WellFormed := by
  unfold Builder.parseAttribute at h
  split at h
  · exact hbuilder.parseAllowedIPs h
  · exact hbuilder.parseEndpoint h
  · exact hbuilder.parsePersistentKeepalive h
  · unfold Builder.parsePreSharedKey at h
    split at h
    · cases h
      exact { hbuilder with }
    · cases h
  · unfold Builder.parsePublicKey at h
    split at h
    · cases h
      exact { hbuilder with }
    · cases h
  · cases h

theorem parseLine {line : String} (h : builder.parseLine line = .ok next) : next.WellFormed := by
  unfold Builder.parseLine at h
  split at h
  · cases h
  · exact hbuilder.parseAttribute h

theorem build {peer : Peer platform} (h : builder.build = .ok peer) : peer.WellFormed := by
  unfold Builder.build at h
  split at h
  · cases h
  · cases h
    exact { hbuilder with }

end Builder.WellFormed

theorem Builder.wellFormed_initial : ({} : Builder platform).WellFormed where
  allowedIps := by simp [LinkedHashSet.empty]
  endpoint := by simp
  persistentKeepalive := by simp

theorem wellFormed_of_parse {lines : List String} {peer : Peer platform}
    (h : parse platform lines = .ok peer) : peer.WellFormed := by
  unfold parse at h
  cases hlines : lines.foldlM Builder.parseLine ({} : Builder platform) with
  | error e => simp [hlines, bind, Except.bind] at h
  | ok builder =>
      rw [hlines] at h
      have hbuilder : builder.WellFormed :=
        foldlM_induction (fun hbuilder hline => hbuilder.parseLine hline) lines
          Builder.wellFormed_initial hlines
      exact hbuilder.build h

end Peer

/-! ## Files -/

namespace Config

structure WellFormed (config : Config platform) : Prop where
  interfaze : config.interfaze.WellFormed
  peers : ∀ peer ∈ config.peers, peer.WellFormed

namespace Reader

/-- The peers that have been read by then. -/
def WellFormed (reader : Reader platform) : Prop := ∀ peer ∈ reader.peers, peer.WellFormed

variable {reader next : Reader platform} (hreader : reader.WellFormed)
include hreader

theorem WellFormed.parsePeer (h : reader.parsePeer = .ok next) : next.WellFormed := by
  unfold Reader.parsePeer at h
  split at h
  · cases hpeer : Peer.parse platform reader.peerLines with
    | error e => simp [hpeer, bind, Except.bind] at h
    | ok peer =>
        simp only [hpeer, bind, Except.bind, pure, Except.pure, Except.ok.injEq] at h
        subst h
        intro other hother
        rcases List.mem_append.mp hother with hother | hother
        · exact hreader other hother
        · obtain rfl := List.mem_singleton.mp hother
          exact Peer.wellFormed_of_parse hpeer
  · cases h
    exact hreader

theorem WellFormed.readLine {line : String} (h : reader.readLine line = .ok next) :
    next.WellFormed := by
  unfold Reader.readLine at h
  split at h
  · cases h
    exact hreader
  split at h
  · cases hpeer : reader.parsePeer with
    | error e => simp [hpeer, bind, Except.bind] at h
    | ok consumed =>
        have hconsumed := hreader.parsePeer hpeer
        rw [hpeer] at h
        change ite _ _ _ = _ at h
        split at h
        · cases h
          exact hconsumed
        split at h
        · cases h
          exact hconsumed
        · cases h
  split at h
  · cases h
    exact hreader
  split at h
  · cases h
    exact hreader
  · cases h

theorem WellFormed.finish {config : Config platform} (h : reader.finish = .ok config) :
    config.WellFormed := by
  unfold Reader.finish at h
  cases hpeer : reader.parsePeer with
  | error e => simp [hpeer, bind, Except.bind] at h
  | ok last =>
      have hlast := hreader.parsePeer hpeer
      rw [hpeer] at h
      change (ite _ _ _ : Except _ _) = _ at h
      split at h
      · cases h
      · cases hinterface : Interface.parse platform last.interfaceLines with
        | error e => simp [hinterface, bind, Except.bind] at h
        | ok interfaze =>
            simp only [hinterface, bind, Except.bind, pure, Except.pure, Except.ok.injEq] at h
            subst h
            exact ⟨Interface.wellFormed_of_parse hinterface, hlast⟩

end Reader

theorem wellFormed_of_parse {text : String} {config : Config platform}
    (h : parse platform text = .ok config) : config.WellFormed := by
  change ((Java.readLines [] text.toList).map content).foldlM Reader.readLine
    ({} : Reader platform) >>= Reader.finish = _ at h
  cases hlines : ((Java.readLines [] text.toList).map content).foldlM Reader.readLine
      ({} : Reader platform) with
  | error e => simp [hlines, bind, Except.bind] at h
  | ok reader =>
      rw [hlines] at h
      have hreader : reader.WellFormed :=
        foldlM_induction (fun hreader hline => Reader.WellFormed.readLine hreader hline) _
          (fun _ hpeer => by simp at hpeer) hlines
      exact hreader.finish h

end Config

end Modvpn.Wireguard
