/-
# What an exception says about the file

A file that is not accepted is answered with one exception. Its section, location and
text lead to a line of the file: the location is the key of the line, and the text is a
part of its value or the number that it is. The size that is below zero is the one that
is put down to another attribute.
-/

import Mathlib.Data.List.Infix
import Modvpn.Analysis.Wireguard.AsciiPlatform
import Modvpn.Analysis.Wireguard.WellFormed

namespace Modvpn.Wireguard

open Java
open BadConfigException (ofParse ofNumberFormat ofKeyFormat Section)

variable {platform : Platform}

/-! ## Attributes -/

/-- How the value of an attribute is read. -/
inductive Kind
  | name
  | value
  | number
  | key

namespace BadConfigException

def Location.kind : Location → Kind
  | .topLevel | .excludedApplications | .includedApplications => .name
  | .address | .allowedIps | .dns | .endpoint => .value
  | .listenPort | .mtu | .persistentKeepalive => .number
  | .preSharedKey | .privateKey | .publicKey => .key

/-- The numbers that an attribute takes. -/
def Location.Allows (location : Location) (n : Int) : Prop :=
  0 ≤ n ∧ (location = .mtu ∨ n ≤ 65535)

/-- The attributes of a section. -/
def Section.attributes : Section → List Location
  | .config => []
  | .interface =>
      [.address, .dns, .excludedApplications, .includedApplications, .listenPort, .mtu, .privateKey]
  | .peer => [.allowedIps, .endpoint, .persistentKeepalive, .preSharedKey, .publicKey]

/-- The attribute that a section cannot do without. -/
def Section.required : Section → Option Location
  | .config => none
  | .interface => some .privateKey
  | .peer => some .publicKey

end BadConfigException

/-- One of the lines gives the attribute this value. -/
def Gives (platform : Platform) (lines : List String)
    (location : BadConfigException.Location) (value : String) : Prop :=
  ∃ line ∈ lines, ∃ entry, Attribute.parse platform line = some entry ∧
    platform.toLowerCase entry.key = location.getName.toLower ∧ entry.value = value

/-- Why the lines of a section are not accepted. -/
inductive Cause (platform : Platform) (inSection : Section) (lines : List String) :
    BadConfigException → Prop
  | syntaxError {line : String} (hline : line ∈ lines)
      (hparse : Attribute.parse platform line = none) :
      Cause platform inSection lines ⟨inSection, .topLevel, .syntaxError, some line⟩
  | unknownAttribute {line : String} {entry : Attribute} (hline : line ∈ lines)
      (hparse : Attribute.parse platform line = some entry)
      (hkey : ∀ location ∈ inSection.attributes,
        platform.toLowerCase entry.key ≠ location.getName.toLower) :
      Cause platform inSection lines ⟨inSection, .topLevel, .unknownAttribute, some entry.key⟩
  | invalidValue {location : BadConfigException.Location} {value text : String}
      (hlocation : location ∈ inSection.attributes ∧ location.kind = .value)
      (hgives : Gives platform lines location value) (htext : text.toList <:+: value.toList) :
      Cause platform inSection lines ⟨inSection, location, .invalidValue, some text⟩
  | invalidNumber {location : BadConfigException.Location} {value : String}
      (hlocation : location ∈ inSection.attributes ∧ location.kind = .number)
      (hgives : Gives platform lines location value) (hparse : parseInt platform value = none) :
      Cause platform inSection lines ⟨inSection, location, .invalidNumber, some value⟩
  /-- A size is put down to the port. -/
  | outOfRange {location : BadConfigException.Location} {value : String} {n : Int}
      (hlocation : location ∈ inSection.attributes ∧ location.kind = .number)
      (hgives : Gives platform lines location value) (hparse : parseInt platform value = some n)
      (hrange : ¬ location.Allows n) :
      Cause platform inSection lines
        ⟨inSection, if location = .mtu then .listenPort else location, .invalidValue,
          some (valueOf n)⟩
  | invalidKey {location : BadConfigException.Location} {value : String}
      {cause : KeyFormatException}
      (hlocation : location ∈ inSection.attributes ∧ location.kind = .key)
      (hgives : Gives platform lines location value)
      (hparse : Key.fromBase64 value = .error cause) :
      Cause platform inSection lines ⟨inSection, location, .invalidKey, none⟩
  | missingAttribute {location : BadConfigException.Location}
      (hrequired : inSection.required = some location)
      (hmissing : ∀ value, ¬ Gives platform lines location value) :
      Cause platform inSection lines ⟨inSection, location, .missingAttribute, none⟩
  | bothApplications {included excluded : String}
      (hsection : .includedApplications ∈ inSection.attributes)
      (hincluded : Gives platform lines .includedApplications included)
      (hexcluded : Gives platform lines .excludedApplications excluded) :
      Cause platform inSection lines ⟨inSection, .includedApplications, .invalidKey, none⟩

/-! ## Loops that throw -/

/-- A loop throws what one of its steps throws. -/
theorem exists_of_foldlM_error {σ α ε : Type} {f : σ → α → Except ε σ} {e : ε} :
    ∀ {xs : List α} {s : σ}, xs.foldlM f s = .error e → ∃ x ∈ xs, ∃ s', f s' x = .error e
  | [], s, h => by cases h
  | x :: xs, s, h => by
      rw [List.foldlM_cons] at h
      cases hx : f s x with
      | error other =>
          rw [hx] at h
          cases h
          exact ⟨x, List.mem_cons_self .., s, hx⟩
      | ok next =>
          rw [hx] at h
          obtain ⟨y, hy, s', hs'⟩ := exists_of_foldlM_error h
          exact ⟨y, List.mem_cons_of_mem _ hy, s', hs'⟩

/-- A loop that throws nothing, by what it has seen. -/
theorem foldlM_seen {σ α ε : Type} {f : σ → α → Except ε σ} {P : List α → σ → Prop}
    (hstep : ∀ {seen s x next}, P seen s → f s x = .ok next → P (seen ++ [x]) next) :
    ∀ {xs seen : List α} {s final : σ}, P seen s → xs.foldlM f s = .ok final →
      P (seen ++ xs) final
  | [], seen, s, final, hs, h => by
      cases h
      simpa using hs
  | x :: xs, seen, s, final, hs, h => by
      rw [List.foldlM_cons] at h
      cases hx : f s x with
      | error e =>
          rw [hx] at h
          cases h
      | ok next =>
          rw [hx] at h
          have hrest := foldlM_seen hstep (hstep hs hx) h
          simpa using hrest

/-! ## Parts of a value -/

theorem infix_intercalate {α : Type} {separator xs : List α} {lists : List (List α)}
    (h : xs ∈ lists) : xs <:+: separator.intercalate lists := by
  induction lists with
  | nil => cases h
  | cons first rest ih =>
      by_cases hrest : rest = []
      · rw [hrest] at h
        rw [hrest, List.intercalate_singleton, List.mem_singleton.mp h]
      · rw [List.intercalate_cons_of_ne_nil hrest]
        rcases List.mem_cons.mp h with rfl | h
        · exact (List.prefix_append _ _).isInfix.trans (List.prefix_append _ _).isInfix
        · exact (ih h).trans (List.suffix_append _ _).isInfix

theorem infix_of_mem_strip {isFirst : Bool} {pieces : List (List Char)} {piece : List Char}
    (h : piece ∈ Attribute.strip platform isFirst pieces) :
    ∃ original ∈ pieces, piece <:+: original := by
  induction pieces generalizing isFirst with
  | nil => cases h
  | cons first rest ih =>
      have hleft : (if isFirst then first else first.dropWhile platform.isSpace) <:+: first := by
        split
        · exact List.infix_refl first
        · exact (List.dropWhile_suffix _).isInfix
      rcases List.mem_cons.mp h with rfl | h
      · refine ⟨first, List.mem_cons_self .., ?_⟩
        split
        · exact hleft
        · exact (List.rdropWhile_prefix _ _).isInfix.trans hleft
      · obtain ⟨original, horiginal, hinfix⟩ := ih h
        exact ⟨original, List.mem_cons_of_mem _ horiginal, hinfix⟩

theorem infix_of_mem_split {value piece : String} (h : piece ∈ Attribute.split platform value) :
    piece.toList <:+: value.toList := by
  unfold Attribute.split at h
  split at h
  · rw [List.mem_singleton.mp h]
  · obtain ⟨chars, hchars, rfl⟩ := List.mem_map.mp h
    have hstrip := (List.rdropWhile_prefix _ _).subset hchars
    obtain ⟨original, horiginal, hinfix⟩ := infix_of_mem_strip hstrip
    rw [String.toList_ofList]
    apply hinfix.trans
    rw [show value.toList = [','].intercalate (value.toList.splitOn ',') from
      (List.intercalate_splitOn ',').symm]
    exact infix_intercalate horiginal

theorem InetAddresses.text_of_parse {text : String} {e : ParseException}
    (h : parse platform text = .error e) : e.text = text ∧ e.parsingClass = .inetAddress := by
  unfold parse at h
  split at h
  · cases h
    exact ⟨rfl, rfl⟩
  · split at h
    · cases h
    · cases h
      exact ⟨rfl, rfl⟩

theorem InetNetwork.text_of_parse {text : String} {e : ParseException}
    (h : parse platform text = .error e) : e.text.toList <:+: text.toList := by
  have hmask : text.toList.rtakeWhile (· ≠ '/') <:+: text.toList :=
    (List.rtakeWhile_suffix _ _).isInfix
  have haddress : (text.toList.rdropWhile (· ≠ '/')).dropLast <:+: text.toList :=
    (List.dropLast_prefix _).isInfix.trans (List.rdropWhile_prefix _ _).isInfix
  have hparts : (∀ error, parts platform text = .error error → error.text.toList <:+: text.toList) ∧
      ∀ raw, parts platform text = .ok raw →
        raw.1.toList <:+: text.toList ∧ raw.2.1.toList <:+: text.toList := by
    unfold parts
    split
    · simp only
      split
      · refine ⟨?_, by simp⟩
        intro error herror
        cases herror
        rwa [String.toList_ofList]
      · refine ⟨by simp, ?_⟩
        intro raw hraw
        cases hraw
        rw [String.toList_ofList, String.toList_ofList]
        exact ⟨haddress, hmask⟩
    · refine ⟨by simp, ?_⟩
      intro raw hraw
      cases hraw
      exact ⟨List.infix_refl _, by simp⟩
  unfold parse at h
  split at h
  · rename_i herror
    cases h
    exact hparts.1 _ herror
  · rename_i rawAddress maskString rawMask hraw
    obtain ⟨hrawAddress, hmaskString⟩ := hparts.2 _ hraw
    split at h
    · rename_i herror
      cases h
      rwa [(InetAddresses.text_of_parse herror).1]
    · split at h
      · cases h
        exact hmaskString
      · cases h

theorem InetEndpoint.text_of_parse {text : String} {e : ParseException}
    (h : parse platform text = .error e) : e.text = text := by
  unfold parse at h
  split at h
  · cases h
    rfl
  · split at h
    · cases h
      rfl
    · cases h
      rfl
    · split at h
      · cases h
        rfl
      · split at h <;> cases h

/-! ## Lines of an interface -/

theorem toLower_eq {text lower : String} (h : text.toList.map Char.toLower = lower.toList) :
    text.toLower = lower := by
  apply String.toList_inj.mp
  rw [Key.toLower_eq_map, String.toList_map, h]

/-- The line that an attribute is on gives its value. -/
theorem gives_of_line {lines : List String} {line : String} (hline : line ∈ lines)
    {entry : Attribute} (hparse : Attribute.parse platform line = some entry)
    {location : BadConfigException.Location} {lower : String}
    (hkey : platform.toLowerCase entry.key = lower)
    (hlower : location.getName.toList.map Char.toLower = lower.toList) :
    Gives platform lines location entry.value :=
  ⟨line, hline, entry, hparse, by rw [hkey, toLower_eq hlower], rfl⟩

theorem Gives.append {seen : List String} {location : BadConfigException.Location} {value : String}
    (h : Gives platform seen location value) (lines : List String) :
    Gives platform (seen ++ lines) location value := by
  obtain ⟨line, hline, hrest⟩ := h
  exact ⟨line, List.mem_append_left _ hline, hrest⟩

variable {lines : List String} {line : String} {e : BadConfigException}

/-- A line that gives another attribute changes nothing for this one. -/
theorem not_gives_append {seen : List String} {location : BadConfigException.Location}
    {entry : Attribute} (h : ∀ value, ¬ Gives platform seen location value)
    (hentry : Attribute.parse platform line = some entry)
    (hkey : platform.toLowerCase entry.key ≠ location.getName.toLower) (value : String) :
    ¬ Gives platform (seen ++ [line]) location value := by
  rintro ⟨found, hfound, other, hother, hlocation, hvalue⟩
  rcases List.mem_append.mp hfound with hfound | hfound
  · exact h value ⟨found, hfound, other, hother, hlocation, hvalue⟩
  · rw [List.mem_singleton.mp hfound, hentry] at hother
    cases hother
    exact hkey hlocation

namespace Interface.Builder

variable {builder next : Builder platform}

theorem cause_of_parseAddresses {value : String}
    (hgives : Gives platform lines .address value) (h : builder.parseAddresses value = .error e) :
    Cause platform .interface lines e := by
  obtain ⟨address, haddress, _, hstep⟩ := exists_of_foldlM_error h
  split at hstep
  · cases hstep
  · rename_i cause hcause
    cases hstep
    exact .invalidValue ⟨by decide, rfl⟩ hgives
      ((InetNetwork.text_of_parse hcause).trans (infix_of_mem_split haddress))

theorem cause_of_parseDnsServers {value : String} (hgives : Gives platform lines .dns value)
    (h : builder.parseDnsServers value = .error e) : Cause platform .interface lines e := by
  obtain ⟨dnsServer, hserver, _, hstep⟩ := exists_of_foldlM_error h
  split at hstep
  · cases hstep
  · rename_i cause hcause
    split at hstep
    · cases hstep
      refine .invalidValue ⟨by decide, rfl⟩ hgives ?_
      rw [(InetAddresses.text_of_parse hcause).1]
      exact infix_of_mem_split hserver
    · cases hstep

theorem cause_of_parseListenPort {value : String}
    (hgives : Gives platform lines .listenPort value)
    (h : builder.parseListenPort value = .error e) : Cause platform .interface lines e := by
  unfold parseListenPort at h
  split at h
  · rename_i n hn
    unfold setListenPort at h
    split at h
    · rename_i hrange
      cases h
      have hnot : ¬ BadConfigException.Location.listenPort.Allows n := by
        rintro ⟨hlow, hmtu | hhigh⟩
        · cases hmtu
        · omega
      exact Cause.outOfRange ⟨by decide, rfl⟩ hgives hn hnot
    · cases h
  · rename_i hnone
    cases h
    exact .invalidNumber ⟨by decide, rfl⟩ hgives hnone

theorem cause_of_parseMtu {value : String} (hgives : Gives platform lines .mtu value)
    (h : builder.parseMtu value = .error e) : Cause platform .interface lines e := by
  unfold parseMtu at h
  split at h
  · rename_i n hn
    unfold setMtu at h
    split at h
    · rename_i hrange
      cases h
      have hnot : ¬ BadConfigException.Location.mtu.Allows n := by
        rintro ⟨hlow, -⟩
        omega
      exact Cause.outOfRange ⟨by decide, rfl⟩ hgives hn hnot
    · cases h
  · rename_i hnone
    cases h
    exact .invalidNumber ⟨by decide, rfl⟩ hgives hnone

theorem cause_of_parsePrivateKey {value : String} (hgives : Gives platform lines .privateKey value)
    (h : builder.parsePrivateKey value = .error e) : Cause platform .interface lines e := by
  unfold parsePrivateKey at h
  split at h
  · cases h
  · rename_i cause hcause
    cases h
    exact .invalidKey ⟨by decide, rfl⟩ hgives hcause

theorem cause_of_parseLine (hline : line ∈ lines) (h : builder.parseLine line = .error e) :
    Cause platform .interface lines e := by
  unfold parseLine at h
  split at h
  · rename_i hnone
    cases h
    exact .syntaxError hline hnone
  · rename_i entry hentry
    unfold parseAttribute at h
    split at h
    · rename_i hkey
      exact cause_of_parseAddresses (gives_of_line hline hentry hkey (by decide)) h
    · rename_i hkey
      exact cause_of_parseDnsServers (gives_of_line hline hentry hkey (by decide)) h
    · cases h
    · cases h
    · rename_i hkey
      exact cause_of_parseListenPort (gives_of_line hline hentry hkey (by decide)) h
    · rename_i hkey
      exact cause_of_parseMtu (gives_of_line hline hentry hkey (by decide)) h
    · rename_i hkey
      exact cause_of_parsePrivateKey (gives_of_line hline hentry hkey (by decide)) h
    · rename_i haddress hdns hexcluded hincluded hport hmtu hkey
      cases h
      refine .unknownAttribute hline hentry ?_
      intro location hlocation
      simp only [Section.attributes, List.mem_cons, List.not_mem_nil, or_false] at hlocation
      rcases hlocation with rfl | rfl | rfl | rfl | rfl | rfl | rfl
      · rwa [toLower_eq (show _ = "address".toList by decide)]
      · rwa [toLower_eq (show _ = "dns".toList by decide)]
      · rwa [toLower_eq (show _ = "excludedapplications".toList by decide)]
      · rwa [toLower_eq (show _ = "includedapplications".toList by decide)]
      · rwa [toLower_eq (show _ = "listenport".toList by decide)]
      · rwa [toLower_eq (show _ = "mtu".toList by decide)]
      · rwa [toLower_eq (show _ = "privatekey".toList by decide)]

/-- The fields that decide whether an interface can be built. -/
structure Same (builder next : Builder platform) : Prop where
  keyPair : next.keyPair = builder.keyPair
  includedApplications : next.includedApplications = builder.includedApplications
  excludedApplications : next.excludedApplications = builder.excludedApplications

theorem same_of_parseAddresses {value : String} (h : builder.parseAddresses value = .ok next) :
    Same builder next := by
  apply foldlM_induction _ _ (⟨rfl, rfl, rfl⟩ : Same builder builder) h
  intro current address next hsame hstep
  split at hstep
  · cases hstep
    exact ⟨hsame.1, hsame.2, hsame.3⟩
  · cases hstep

theorem same_of_parseDnsServers {value : String} (h : builder.parseDnsServers value = .ok next) :
    Same builder next := by
  apply foldlM_induction _ _ (⟨rfl, rfl, rfl⟩ : Same builder builder) h
  intro current dnsServer next hsame hstep
  split at hstep
  · cases hstep
    exact ⟨hsame.1, hsame.2, hsame.3⟩
  · split at hstep
    · cases hstep
    · cases hstep
      exact ⟨hsame.1, hsame.2, hsame.3⟩

theorem same_of_parseListenPort {value : String} (h : builder.parseListenPort value = .ok next) :
    Same builder next := by
  unfold parseListenPort at h
  split at h
  · unfold setListenPort at h
    split at h <;> cases h
    exact ⟨rfl, rfl, rfl⟩
  · cases h

theorem same_of_parseMtu {value : String} (h : builder.parseMtu value = .ok next) :
    Same builder next := by
  unfold parseMtu at h
  split at h
  · unfold setMtu at h
    split at h <;> cases h
    exact ⟨rfl, rfl, rfl⟩
  · cases h

/-- What the lines that have been read say of the fields that decide. -/
structure Seen (seen : List String) (builder : Builder platform) : Prop where
  keyPair : builder.keyPair = none → ∀ value, ¬ Gives platform seen .privateKey value
  includedApplications : builder.includedApplications.isEmpty = false →
    ∃ value, Gives platform seen .includedApplications value
  excludedApplications : builder.excludedApplications.isEmpty = false →
    ∃ value, Gives platform seen .excludedApplications value

theorem Seen.of_same {seen : List String} (hseen : Seen seen builder) (hsame : Same builder next)
    {entry : Attribute} (hentry : Attribute.parse platform line = some entry)
    (hkey : platform.toLowerCase entry.key ≠ "privatekey") : Seen (seen ++ [line]) next := by
  constructor
  · intro hnone
    rw [hsame.keyPair] at hnone
    refine not_gives_append (hseen.keyPair hnone) hentry ?_
    rwa [toLower_eq (show _ = "privatekey".toList by decide)]
  · rw [hsame.includedApplications]
    intro hsome
    obtain ⟨value, hvalue⟩ := hseen.includedApplications hsome
    exact ⟨value, hvalue.append _⟩
  · rw [hsame.excludedApplications]
    intro hsome
    obtain ⟨value, hvalue⟩ := hseen.excludedApplications hsome
    exact ⟨value, hvalue.append _⟩

theorem Seen.parseLine {seen : List String} (hseen : Seen seen builder)
    (h : builder.parseLine line = .ok next) : Seen (seen ++ [line]) next := by
  have hline : line ∈ seen ++ [line] := by simp
  unfold Builder.parseLine at h
  split at h
  · cases h
  · rename_i entry hentry
    unfold parseAttribute at h
    split at h
    · rename_i hkey
      exact hseen.of_same (same_of_parseAddresses h) hentry (by rw [hkey]; decide)
    · rename_i hkey
      exact hseen.of_same (same_of_parseDnsServers h) hentry (by rw [hkey]; decide)
    · rename_i hkey
      have hsame := hseen.of_same ⟨rfl, rfl, rfl⟩ hentry (by rw [hkey]; decide)
      cases h
      exact ⟨hsame.keyPair, hsame.includedApplications,
        fun _ => ⟨_, gives_of_line hline hentry hkey (by decide)⟩⟩
    · rename_i hkey
      have hsame := hseen.of_same ⟨rfl, rfl, rfl⟩ hentry (by rw [hkey]; decide)
      cases h
      exact ⟨hsame.keyPair, fun _ => ⟨_, gives_of_line hline hentry hkey (by decide)⟩,
        hsame.excludedApplications⟩
    · rename_i hkey
      exact hseen.of_same (same_of_parseListenPort h) hentry (by rw [hkey]; decide)
    · rename_i hkey
      exact hseen.of_same (same_of_parseMtu h) hentry (by rw [hkey]; decide)
    · unfold parsePrivateKey at h
      split at h
      · cases h
        constructor
        · intro hnone
          cases hnone
        · intro hsome
          obtain ⟨value, hvalue⟩ := hseen.includedApplications hsome
          exact ⟨value, hvalue.append _⟩
        · intro hsome
          obtain ⟨value, hvalue⟩ := hseen.excludedApplications hsome
          exact ⟨value, hvalue.append _⟩
      · cases h
    · cases h

end Interface.Builder

theorem Interface.cause_of_error (h : parse platform lines = .error e) :
    Cause platform .interface lines e := by
  unfold parse at h
  cases hlines : lines.foldlM Builder.parseLine ({} : Builder platform) with
  | error other =>
      rw [hlines] at h
      cases h
      obtain ⟨line, hline, _, hstep⟩ := exists_of_foldlM_error hlines
      exact Builder.cause_of_parseLine hline hstep
  | ok builder =>
      rw [hlines] at h
      have hinitial : Builder.Seen [] ({} : Builder platform) := by
        constructor
        · rintro _ value ⟨line, hline, -⟩
          cases hline
        · intro hsome
          cases hsome
        · intro hsome
          cases hsome
      have hseen := foldlM_seen (fun hseen hstep => Builder.Seen.parseLine hseen hstep) hinitial
        hlines
      rw [List.nil_append] at hseen
      change builder.build = _ at h
      unfold Builder.build at h
      split at h
      · rename_i hnone
        cases h
        exact .missingAttribute rfl (hseen.keyPair hnone)
      · split at h
        · rename_i hboth
          cases h
          simp only [Bool.and_eq_true, Bool.not_eq_true'] at hboth
          obtain ⟨included, hincluded⟩ := hseen.includedApplications hboth.1
          obtain ⟨excluded, hexcluded⟩ := hseen.excludedApplications hboth.2
          exact .bothApplications (by decide) hincluded hexcluded
        · cases h

/-! ## Lines of a peer -/

namespace Peer.Builder

variable {builder next : Builder platform}

theorem cause_of_parseAllowedIPs {value : String}
    (hgives : Gives platform lines .allowedIps value)
    (h : builder.parseAllowedIPs value = .error e) : Cause platform .peer lines e := by
  obtain ⟨allowedIp, hallowedIp, _, hstep⟩ := exists_of_foldlM_error h
  split at hstep
  · cases hstep
  · rename_i cause hcause
    cases hstep
    exact .invalidValue ⟨by decide, rfl⟩ hgives
      ((InetNetwork.text_of_parse hcause).trans (infix_of_mem_split hallowedIp))

theorem cause_of_parseEndpoint {value : String} (hgives : Gives platform lines .endpoint value)
    (h : builder.parseEndpoint value = .error e) : Cause platform .peer lines e := by
  unfold parseEndpoint at h
  split at h
  · cases h
  · rename_i cause hcause
    cases h
    refine .invalidValue ⟨by decide, rfl⟩ hgives ?_
    rw [InetEndpoint.text_of_parse hcause]

theorem cause_of_parsePersistentKeepalive {value : String}
    (hgives : Gives platform lines .persistentKeepalive value)
    (h : builder.parsePersistentKeepalive value = .error e) : Cause platform .peer lines e := by
  unfold parsePersistentKeepalive at h
  split at h
  · rename_i n hn
    unfold setPersistentKeepalive at h
    split at h
    · rename_i hrange
      cases h
      have hnot : ¬ BadConfigException.Location.persistentKeepalive.Allows n := by
        rintro ⟨hlow, hmtu | hhigh⟩
        · cases hmtu
        · omega
      exact Cause.outOfRange ⟨by decide, rfl⟩ hgives hn hnot
    · cases h
  · rename_i hnone
    cases h
    exact .invalidNumber ⟨by decide, rfl⟩ hgives hnone

theorem cause_of_parseLine (hline : line ∈ lines) (h : builder.parseLine line = .error e) :
    Cause platform .peer lines e := by
  unfold parseLine at h
  split at h
  · rename_i hnone
    cases h
    exact .syntaxError hline hnone
  · rename_i entry hentry
    unfold parseAttribute at h
    split at h
    · rename_i hkey
      exact cause_of_parseAllowedIPs (gives_of_line hline hentry hkey (by decide)) h
    · rename_i hkey
      exact cause_of_parseEndpoint (gives_of_line hline hentry hkey (by decide)) h
    · rename_i hkey
      exact cause_of_parsePersistentKeepalive (gives_of_line hline hentry hkey (by decide)) h
    · rename_i hkey
      unfold parsePreSharedKey at h
      split at h
      · cases h
      · rename_i cause hcause
        cases h
        exact .invalidKey ⟨by decide, rfl⟩ (gives_of_line hline hentry hkey (by decide)) hcause
    · rename_i hkey
      unfold parsePublicKey at h
      split at h
      · cases h
      · rename_i cause hcause
        cases h
        exact .invalidKey ⟨by decide, rfl⟩ (gives_of_line hline hentry hkey (by decide)) hcause
    · rename_i hallowedIps hendpoint hkeepalive hpreSharedKey hpublicKey
      cases h
      refine .unknownAttribute hline hentry ?_
      intro location hlocation
      simp only [Section.attributes, List.mem_cons, List.not_mem_nil, or_false] at hlocation
      rcases hlocation with rfl | rfl | rfl | rfl | rfl
      · rwa [toLower_eq (show _ = "allowedips".toList by decide)]
      · rwa [toLower_eq (show _ = "endpoint".toList by decide)]
      · rwa [toLower_eq (show _ = "persistentkeepalive".toList by decide)]
      · rwa [toLower_eq (show _ = "presharedkey".toList by decide)]
      · rwa [toLower_eq (show _ = "publickey".toList by decide)]

theorem publicKey_of_parseAllowedIPs {value : String}
    (h : builder.parseAllowedIPs value = .ok next) : next.publicKey = builder.publicKey := by
  refine foldlM_induction (P := fun current => current.publicKey = builder.publicKey) ?_ _ rfl h
  intro current allowedIp next hsame hstep
  split at hstep
  · cases hstep
    exact hsame
  · cases hstep

/-- A line that leaves a peer without a public key gives none. -/
theorem none_of_parseLine (h : builder.parseLine line = .ok next) (hnone : next.publicKey = none) :
    builder.publicKey = none ∧ ∃ entry, Attribute.parse platform line = some entry ∧
      platform.toLowerCase entry.key ≠ "publickey" := by
  unfold parseLine at h
  split at h
  · cases h
  · rename_i entry hentry
    unfold parseAttribute at h
    split at h
    · rename_i hkey
      rw [publicKey_of_parseAllowedIPs h] at hnone
      exact ⟨hnone, entry, hentry, by rw [hkey]; decide⟩
    · rename_i hkey
      unfold parseEndpoint at h
      split at h <;> cases h
      exact ⟨hnone, entry, hentry, by rw [hkey]; decide⟩
    · rename_i hkey
      unfold parsePersistentKeepalive setPersistentKeepalive at h
      split at h
      · split at h <;> cases h
        exact ⟨hnone, entry, hentry, by rw [hkey]; decide⟩
      · cases h
    · rename_i hkey
      unfold parsePreSharedKey at h
      split at h <;> cases h
      exact ⟨hnone, entry, hentry, by rw [hkey]; decide⟩
    · unfold parsePublicKey at h
      split at h <;> cases h
      cases hnone
    · cases h

end Peer.Builder

theorem Peer.cause_of_error (h : parse platform lines = .error e) :
    Cause platform .peer lines e := by
  unfold parse at h
  cases hlines : lines.foldlM Builder.parseLine ({} : Builder platform) with
  | error other =>
      rw [hlines] at h
      cases h
      obtain ⟨line, hline, _, hstep⟩ := exists_of_foldlM_error hlines
      exact Builder.cause_of_parseLine hline hstep
  | ok builder =>
      rw [hlines] at h
      have hinitial : ({} : Builder platform).publicKey = none →
          ∀ value, ¬ Gives platform [] .publicKey value := by
        rintro _ value ⟨line, hline, -⟩
        cases hline
      have hseen := foldlM_seen
        (P := fun seen builder => builder.publicKey = none →
          ∀ value, ¬ Gives platform seen .publicKey value) (by
        intro seen builder line next hseen hstep hnone
        obtain ⟨hbefore, entry, hentry, hkey⟩ := Builder.none_of_parseLine hstep hnone
        refine not_gives_append (hseen hbefore) hentry ?_
        rwa [toLower_eq (show _ = "publickey".toList by decide)]) hinitial hlines
      change builder.build = _ at h
      unfold Builder.build at h
      split at h
      · rename_i hnone
        cases h
        exact .missingAttribute rfl (hseen hnone)
      · cases h

/-! ## Files -/

namespace Config

variable (platform) in
/-- The lines of all interface sections. -/
def interfaceLines (sections : List FileSection) : List String :=
  (sections.filter fun found => platform.equalsIgnoreCase "[Interface]" found.header).flatMap
    FileSection.lines

/-- Why a file is not accepted. -/
inductive Cause (platform : Platform) (lines : List String) : BadConfigException → Prop
  | beforeSections {line : String} (hline : (sections lines).1.head? = some line) :
      Cause platform lines ⟨.config, .topLevel, .unknownSection, some line⟩
  | unknownSection {found : FileSection} (hsection : found ∈ (sections lines).2)
      (hinterface : platform.equalsIgnoreCase "[Interface]" found.header = false)
      (hpeer : platform.equalsIgnoreCase "[Peer]" found.header = false) :
      Cause platform lines ⟨.config, .topLevel, .unknownSection, some found.header⟩
  | missingSection (hmissing : ∀ found ∈ (sections lines).2,
        platform.equalsIgnoreCase "[Interface]" found.header = false) :
      Cause platform lines ⟨.config, .topLevel, .missingSection, none⟩
  | peer {found : FileSection} {e : BadConfigException} (hsection : found ∈ (sections lines).2)
      (hpeer : platform.equalsIgnoreCase "[Peer]" found.header = true)
      (hcause : Wireguard.Cause platform .peer found.lines e) : Cause platform lines e
  | interface {e : BadConfigException}
      (hcause : Wireguard.Cause platform .interface
        (interfaceLines platform (sections lines).2) e) : Cause platform lines e

theorem exists_of_mapM_error {α β ε : Type} {f : α → Except ε β} {e : ε} :
    ∀ {xs : List α}, xs.mapM f = .error e → ∃ x ∈ xs, f x = .error e
  | [], h => by cases h
  | x :: xs, h => by
      rw [List.mapM_cons] at h
      cases hx : f x with
      | error other =>
          rw [hx] at h
          cases h
          exact ⟨x, List.mem_cons_self .., hx⟩
      | ok y =>
          rw [hx] at h
          cases hxs : xs.mapM f with
          | error other =>
              rw [hxs] at h
              cases h
              obtain ⟨z, hz, hf⟩ := exists_of_mapM_error hxs
              exact ⟨z, List.mem_cons_of_mem _ hz, hf⟩
          | ok ys =>
              rw [hxs] at h
              cases h

theorem cause_of_parseSection {found : FileSection} (h : parseSection platform found = .error e)
    (hsection : found ∈ (sections lines).2) : Cause platform lines e := by
  unfold parseSection at h
  split at h
  · cases h
  · rename_i hinterface
    split at h
    · rename_i hpeer
      cases hparse : Peer.parse platform found.lines with
      | error other =>
          rw [hparse] at h
          cases h
          exact .peer hsection hpeer (Peer.cause_of_error hparse)
      | ok peer =>
          rw [hparse] at h
          cases h
    · rename_i hpeer
      cases h
      exact .unknownSection hsection (by simpa using hinterface) (by simpa using hpeer)

theorem interfaceLines_of_parseSection {found : FileSection} {content : Content platform}
    (h : parseSection platform found = .ok content) :
    content.interfaceLines? =
      if platform.equalsIgnoreCase "[Interface]" found.header then some found.lines else none := by
  unfold parseSection at h
  split at h
  · rename_i hinterface
    cases h
    rw [if_pos hinterface]
    rfl
  · rename_i hinterface
    rw [if_neg hinterface]
    split at h
    · cases hparse : Peer.parse platform found.lines with
      | error other =>
          rw [hparse] at h
          cases h
      | ok peer =>
          rw [hparse] at h
          cases h
          rfl
    · cases h

/-- The interface lines are those of the interface sections, in their order. -/
theorem interfaceLines_of_mapM :
    ∀ {found : List FileSection} {contents : List (Content platform)},
      found.mapM (parseSection platform) = .ok contents →
      contents.filterMap Content.interfaceLines? =
        (found.filter fun found => platform.equalsIgnoreCase "[Interface]" found.header).map
          FileSection.lines
  | [], contents, h => by
      cases h
      rfl
  | first :: rest, contents, h => by
      rw [List.mapM_cons] at h
      cases hfirst : parseSection platform first with
      | error e =>
          rw [hfirst] at h
          cases h
      | ok content =>
          rw [hfirst] at h
          cases hrest : rest.mapM (parseSection platform) with
          | error e =>
              rw [hrest] at h
              cases h
          | ok others =>
              rw [hrest] at h
              cases h
              rw [List.filterMap_cons, interfaceLines_of_parseSection hfirst,
                interfaceLines_of_mapM hrest, List.filter_cons]
              cases platform.equalsIgnoreCase "[Interface]" first.header <;> rfl

/-- The exception for a file that is not accepted leads to the line that is to blame. -/
theorem cause_of_parse {text : String} (h : parse platform text = .error e) :
    Cause platform (contentLines text) e := by
  rw [parse_eq_remaining, remaining_initial] at h
  generalize contentLines text = lines at h
  unfold parseSections at h
  split at h
  · rename_i line rest hbefore
    cases h
    exact .beforeSections (by rw [hbefore]; rfl)
  · cases hcontents : (sections lines).2.mapM (parseSection platform) with
    | error other =>
        rw [hcontents] at h
        cases h
        obtain ⟨found, hsection, hparse⟩ := exists_of_mapM_error hcontents
        exact cause_of_parseSection hparse hsection
    | ok contents =>
        rw [hcontents] at h
        have hlines := interfaceLines_of_mapM hcontents
        change assemble platform false [] [] contents = _ at h
        unfold assemble at h
        rw [hlines] at h
        simp only [Bool.not_false, Bool.true_and, List.nil_append] at h
        split at h
        · rename_i hempty
          cases h
          refine .missingSection ?_
          intro found hsection
          simp only [List.isEmpty_iff, List.map_eq_nil_iff, List.filter_eq_nil_iff] at hempty
          simpa using hempty found hsection
        · rw [← List.flatMap_def] at h
          cases hinterface : Interface.parse platform
              (interfaceLines platform (sections lines).2) with
          | error other =>
              rw [interfaceLines] at hinterface
              rw [hinterface] at h
              cases h
              exact .interface (Interface.cause_of_error hinterface)
          | ok interfaze =>
              rw [interfaceLines] at hinterface
              rw [hinterface] at h
              cases h

/-- The exception, where there is one. -/
def thrown {ε α : Type} : Except ε α → Option ε
  | .error e => some e
  | .ok _ => none

theorem eq_error_of_thrown {ε α : Type} {result : Except ε α} {e : ε} (h : thrown result = some e) :
    result = .error e := by
  cases result with
  | error other =>
      cases h
      rfl
  | ok x => cases h

/-- A size below zero, which is put down to the port. -/
theorem cause_of_parse_negativeMtu :
    parse .ascii "[Interface]\nMTU = -1\n" =
        .error ⟨.interface, .listenPort, .invalidValue, some "-1"⟩ ∧
      Cause .ascii (contentLines "[Interface]\nMTU = -1\n")
        ⟨.interface, .listenPort, .invalidValue, some "-1"⟩ := by
  have hparse : parse .ascii "[Interface]\nMTU = -1\n" =
      .error ⟨.interface, .listenPort, .invalidValue, some "-1"⟩ :=
    eq_error_of_thrown (by decide +kernel)
  exact ⟨hparse, cause_of_parse hparse⟩

end Config

end Modvpn.Wireguard
