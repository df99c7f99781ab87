/-
# Configurations read back from their file

A configuration is written as lines of attributes under headers. The lines are read as
they were written, each attribute as its key and its values, and the sections in their
order, so that what comes back is the configuration. Only search domains without a
server are not written.
-/

import Modvpn.Analysis.Wireguard.AsciiPlatform
import Modvpn.Analysis.Wireguard.WellFormed

namespace Modvpn.Wireguard

open Java

variable {platform : Platform}

/-! ## Lines -/

/-- A text of whole lines. -/
def terminated (lines : List String) : String := String.join (lines.map (· ++ "\n"))

@[simp] theorem terminated_nil : terminated [] = "" := String.join_nil

theorem terminated_cons (line : String) (lines : List String) :
    terminated (line :: lines) = line ++ "\n" ++ terminated lines := String.join_cons

theorem terminated_append (lines others : List String) :
    terminated (lines ++ others) = terminated lines ++ terminated others := by
  rw [terminated, List.map_append, String.join_append]
  rfl

theorem terminated_flatMap {α : Type} (f : α → List String) (xs : List α) :
    terminated (xs.flatMap f) = String.join (xs.map fun x => terminated (f x)) := by
  induction xs with
  | nil => rfl
  | cons x xs ih => rw [List.flatMap_cons, terminated_append, ih, List.map_cons, String.join_cons]

/-- Printable at both ends, and without a comment or a line break. -/
structure Written (line : String) : Prop where
  ne_empty : line ≠ ""
  head : ∀ c ∈ line.toList.head?, 32 < c.toNat
  last : ∀ c ∈ line.toList.getLast?, 32 < c.toNat
  inner : ∀ c ∈ line.toList, c ≠ '\n' ∧ c ≠ '\r' ∧ c ≠ '#'

/-- What has been read of a line goes before the rest of it. -/
theorem readLines_append {chars : List Char} (h : ∀ c ∈ chars, c ≠ '\n' ∧ c ≠ '\r')
    (line rest : List Char) : readLines line (chars ++ '\n' :: rest) =
      (line ++ chars) :: readLines [] rest := by
  induction chars generalizing line with
  | nil => rw [List.append_nil, List.nil_append, readLines]
  | cons c chars ih =>
      obtain ⟨hnewline, hreturn⟩ := h c (List.mem_cons_self ..)
      rw [List.cons_append, readLines, ih fun d hd => h d (List.mem_cons_of_mem _ hd)]
      · simp
      · exact hnewline
      · intro after heq
        exact absurd heq hreturn
      · exact hreturn

theorem readLines_terminated {lines : List String}
    (h : ∀ line ∈ lines, ∀ c ∈ line.toList, c ≠ '\n' ∧ c ≠ '\r') :
    readLines [] (terminated lines).toList = lines.map String.toList := by
  induction lines with
  | nil => rfl
  | cons line lines ih =>
      have htext : (terminated (line :: lines)).toList =
          line.toList ++ '\n' :: (terminated lines).toList := by
        simp [terminated_cons]
      rw [htext, readLines_append (h line (List.mem_cons_self ..)),
        ih fun other hother => h other (List.mem_cons_of_mem _ hother)]
      rfl

/-- Nothing is removed from a line that was written. -/
theorem content_of_written {line : String} (h : Written line) :
    Config.content line.toList = line := by
  have hcomment : line.toList.takeWhile (· ≠ '#') = line.toList := by
    rw [List.takeWhile_eq_self_iff]
    intro c hc
    simpa using (h.inner c hc).2.2
  have hleft : line.toList.dropWhile (fun c => c.toNat ≤ 32) = line.toList := by
    cases hlist : line.toList with
    | nil => rfl
    | cons c rest =>
        apply List.dropWhile_cons_of_neg
        simpa using h.head c (by simp [hlist])
  have hright : line.toList.rdropWhile (fun c => c.toNat ≤ 32) = line.toList := by
    apply List.rdropWhile_eq_self_iff.mpr
    intro hne
    simpa using h.last _ (List.getLast?_eq_some_getLast hne)
  rw [Config.content, hcomment, trim, hleft, hright, String.ofList_toList]

theorem mem_intercalate {α : Type} {separator : List α} {lists : List (List α)} {x : α}
    (h : x ∈ separator.intercalate lists) : x ∈ separator ∨ ∃ list ∈ lists, x ∈ list := by
  induction lists with
  | nil => simp at h
  | cons first rest ih =>
      by_cases hrest : rest = []
      · rw [hrest, List.intercalate_singleton] at h
        exact .inr ⟨first, List.mem_cons_self .., h⟩
      · rw [List.intercalate_cons_of_ne_nil hrest, List.mem_append, List.mem_append] at h
        rcases h with (h | h) | h
        · exact .inr ⟨first, List.mem_cons_self .., h⟩
        · exact .inl h
        · apply (ih h).imp_right
          rintro ⟨list, hlist, hx⟩
          exact ⟨list, List.mem_cons_of_mem _ hlist, hx⟩

/-! ## Attributes -/

namespace Attribute

def line (entry : Attribute) : String := entry.key ++ " = " ++ entry.value

theorem attributeLine_eq (key value : String) :
    attributeLine key value = terminated [line { key, value }] := by
  rw [terminated_cons, terminated_nil, String.append_empty]
  rfl

/-- A key of letters and a list of plain texts. -/
structure WellFormed (platform : Platform) (entry : Attribute) : Prop where
  key_ne : entry.key ≠ ""
  key : ∀ c ∈ entry.key.toList, c.isAlpha = true
  value : ∃ values ≠ [], entry.value = join values ∧ ∀ text ∈ values, PlainText platform text

theorem join_singleton (text : String) : join [text] = text := String.intercalate_singleton

theorem join_cons (first : String) {rest : List String} (h : rest ≠ []) :
    join (first :: rest) = first ++ ", " ++ join rest := String.intercalate_cons_of_ne_nil h

theorem mem_join {values : List String} {c : Char} (h : c ∈ (join values).toList) :
    c = ',' ∨ c = ' ' ∨ ∃ text ∈ values, c ∈ text.toList := by
  rw [join, String.toList_intercalate] at h
  rcases mem_intercalate h with h | ⟨chars, hchars, hc⟩
  · have hseparator : c = ',' ∨ c = ' ' := by simpa using h
    exact hseparator.imp_right .inl
  · obtain ⟨text, htext, rfl⟩ := List.mem_map.mp hchars
    exact .inr (.inr ⟨text, htext, hc⟩)

theorem head_join {values : List String} (hne : values ≠ [])
    (h : ∀ text ∈ values, PlainText platform text) :
    ∃ c rest, (join values).toList = c :: rest ∧ platform.Plain c := by
  cases values with
  | nil => exact absurd rfl hne
  | cons first rest =>
      have hfirst := h first (List.mem_cons_self ..)
      cases hlist : first.toList with
      | nil => exact absurd hlist hfirst.toList_ne_nil
      | cons c chars =>
          have hplain : platform.Plain c := hfirst.plain c (by simp [hlist])
          by_cases hrest : rest = []
          · exact ⟨c, chars, by rw [hrest, join_singleton, hlist], hplain⟩
          · exact ⟨c, _, by
              rw [join_cons first hrest, String.toList_append, String.toList_append, hlist]
              rfl, hplain⟩

theorem last_join {values : List String} (hne : values ≠ [])
    (h : ∀ text ∈ values, PlainText platform text) :
    ∃ chars c, (join values).toList = chars ++ [c] ∧ platform.Plain c := by
  induction values with
  | nil => exact absurd rfl hne
  | cons first rest ih =>
      by_cases hrest : rest = []
      · have hfirst := h first (List.mem_cons_self ..)
        have hlist := List.dropLast_append_getLast hfirst.toList_ne_nil
        exact ⟨_, _, by rw [hrest, join_singleton, hlist],
          hfirst.plain _ (List.getLast_mem hfirst.toList_ne_nil)⟩
      · obtain ⟨chars, c, hlist, hplain⟩ :=
          ih hrest fun text htext => h text (List.mem_cons_of_mem _ htext)
        exact ⟨(first ++ ", ").toList ++ chars, c, by
          rw [join_cons first hrest, String.toList_append, hlist, List.append_assoc], hplain⟩

namespace WellFormed

theorem toList_line (entry : Attribute) : entry.line.toList =
    entry.key.toList ++ ' ' :: '=' :: ' ' :: entry.value.toList := by
  simp [line]

variable {entry : Attribute} (h : entry.WellFormed platform)
include h

/-- The first letter of the key. -/
theorem head_line : ∃ c ∈ entry.line.toList.head?, c.isAlpha = true := by
  cases hkey : entry.key.toList with
  | nil => exact absurd (String.toList_eq_nil_iff.mp hkey) h.key_ne
  | cons c rest =>
      exact ⟨c, by simp [toList_line, hkey], h.key c (by simp [hkey])⟩

theorem head_ne : entry.line.toList.head? ≠ some '[' := by
  obtain ⟨c, hhead, halpha⟩ := h.head_line
  intro hbracket
  rw [Option.mem_def.mp hhead] at hbracket
  obtain rfl : c = '[' := Option.some.inj hbracket
  revert halpha
  decide

theorem written : Written entry.line := by
  obtain ⟨values, hne, hvalue, hplain⟩ := h.value
  obtain ⟨c, hhead, halpha⟩ := h.head_line
  constructor
  · intro hempty
    simp [hempty] at hhead
  · intro d hd
    obtain rfl : c = d := Option.some.inj (hhead.symm.trans hd)
    have := (bounds_of_isAlpha halpha).1
    omega
  · intro d hd
    obtain ⟨chars, last, hlast, hlastPlain⟩ := last_join hne hplain
    rw [toList_line, hvalue, hlast, ← List.cons_append, ← List.cons_append, ← List.cons_append,
      ← List.append_assoc, List.getLast?_concat] at hd
    rw [← Option.some.inj hd]
    exact hlastPlain.2.1
  · intro d hd
    have hd : d ∈ entry.key.toList ∨ d = ' ' ∨ d = '=' ∨ d = ' ' ∨ d ∈ (join values).toList := by
      simpa [toList_line, hvalue] using hd
    rcases hd with hd | rfl | rfl | rfl | hd
    · have hbounds := bounds_of_isAlpha (h.key d hd)
      refine ⟨?_, ?_, ?_⟩ <;> rintro rfl <;> simp at hbounds
    · decide
    · decide
    · decide
    · rcases mem_join hd with rfl | rfl | ⟨text, htext, hd⟩
      · decide
      · decide
      · obtain ⟨_, hlow, _, hcomment⟩ := (hplain text htext).plain d hd
        refine ⟨?_, ?_, hcomment⟩ <;> rintro rfl <;> simp at hlow

theorem parse_line (hplatform : platform.Lawful) : parse platform entry.line = some entry := by
  obtain ⟨values, hne, hvalue, hplain⟩ := h.value
  obtain ⟨c, rest, hhead, hc⟩ := head_join hne hplain
  apply Attribute.parse_line hplatform h.key_ne h.key ⟨c, rest, by rw [hvalue, hhead], hc.1⟩
  intro hcomment
  rw [hvalue] at hcomment
  rcases mem_join hcomment with hcomma | hspace | ⟨text, htext, hmem⟩
  · cases hcomma
  · cases hspace
  · exact ((hplain text htext).plain '#' hmem).2.2.2 rfl

end WellFormed

/-- An attribute that is written only where there is something to write. -/
theorem terminated_ite (absent : Bool) (key value : String) :
    terminated ((if absent then [] else [{ key, value }] : List Attribute).map line) =
      if absent then "" else attributeLine key value := by
  cases absent with
  | false => exact (attributeLine_eq key value).symm
  | true => rfl

theorem terminated_elim {α : Type} (field : Option α) (key : String) (value : α → String) :
    terminated ((field.elim [] fun x => [{ key, value := value x }] : List Attribute).map line) =
      field.elim "" fun x => attributeLine key (value x) := by
  cases field with
  | none => rfl
  | some x => exact (attributeLine_eq key (value x)).symm

theorem letters_of_all {key : String} (h : (key ≠ "" && key.toList.all Char.isAlpha) = true) :
    key ≠ "" ∧ ∀ c ∈ key.toList, c.isAlpha = true := by
  simpa using h

theorem wellFormed_of_plainText {key value : String}
    (hkey : (key ≠ "" && key.toList.all Char.isAlpha) = true) (h : PlainText platform value) :
    WellFormed platform { key, value } :=
  ⟨(letters_of_all hkey).1, (letters_of_all hkey).2, [value], List.cons_ne_nil _ _,
    (join_singleton value).symm, by simpa using h⟩

theorem wellFormed_of_mem_ite {entry : Attribute} {absent : Bool} {key : String}
    {values : List String}
    (hentry : entry ∈ (if absent then [] else [{ key, value := join values }] : List Attribute))
    (hkey : (key ≠ "" && key.toList.all Char.isAlpha) = true) (hne : absent = false → values ≠ [])
    (h : ∀ text ∈ values, PlainText platform text) : entry.WellFormed platform := by
  cases absent with
  | true => cases hentry
  | false =>
      obtain rfl := List.mem_singleton.mp hentry
      exact ⟨(letters_of_all hkey).1, (letters_of_all hkey).2, values, hne rfl, rfl, h⟩

theorem wellFormed_of_mem_elim {entry : Attribute} {α : Type} {field : Option α} {key : String}
    {value : α → String}
    (hentry : entry ∈ (field.elim [] fun x => [{ key, value := value x }] : List Attribute))
    (hkey : (key ≠ "" && key.toList.all Char.isAlpha) = true)
    (h : ∀ x ∈ field, PlainText platform (value x)) : entry.WellFormed platform := by
  cases field with
  | none => cases hentry
  | some x =>
      obtain rfl := List.mem_singleton.mp hentry
      exact wellFormed_of_plainText hkey (h x rfl)

end Attribute

theorem Platform.Lawful.toLowerCase (hplatform : platform.Lawful) {key lower : String}
    (hascii : (key.toList.all fun c => c.toNat < 128) = true)
    (h : key.toList.map Char.toLower = lower.toList) : platform.toLowerCase key = lower := by
  rw [hplatform.toLowerCase_eq key (by simpa using hascii)]
  apply String.toList_inj.mp
  rw [Key.toLower_eq_map, String.toList_map, h]

theorem plainText_valueOf_of_le (hplatform : platform.Lawful) {value : Int} (h : 1 ≤ value) :
    PlainText platform (valueOf value) := by
  have hvalue := plainText_valueOf hplatform value.toNat
  rwa [Int.toNat_of_nonneg (by omega)] at hvalue

theorem parseInt_valueOf_of_le (hplatform : platform.Lawful) {value : Int} (h : 0 ≤ value)
    (hle : value ≤ 2147483647) : parseInt platform (valueOf value) = some value := by
  have hvalue := parseInt_valueOf hplatform (show value.toNat ≤ 2147483647 by omega)
  rwa [Int.toNat_of_nonneg h] at hvalue

theorem InetAddresses.plainText_of_isHostname (hplatform : platform.Lawful) {name : String}
    (h : isHostname name = true) : PlainText platform name := by
  constructor
  · rintro rfl
    revert h
    decide
  · intro c hc
    simp only [isHostname, Bool.and_eq_true, List.all_eq_true] at h
    rw [show name.toList = ['.'].intercalate (name.toList.splitOn '.') from
      (List.intercalate_splitOn '.').symm] at hc
    rcases mem_intercalate hc with hc | ⟨label, hlabel, hc⟩
    · obtain rfl := List.mem_singleton.mp hc
      exact hplatform.plain (by decide) (by decide) (by decide) (by decide)
    · have hletters : isLabel label = true := by
        apply h.2 label
        split
        · rename_i hdot
          rw [← List.dropLast_append_getLast? [] hdot.2] at hlabel
          rcases List.mem_append.mp hlabel with hlabel | hlabel
          · exact hlabel
          · rw [List.mem_singleton.mp hlabel] at hc
            cases hc
        · exact hlabel
      simp only [isLabel, Bool.and_eq_true, List.all_eq_true, Bool.or_eq_true] at hletters
      rcases hletters.2 c hc with halphanum | hhyphen
      · rcases Bool.or_eq_true_iff.mp halphanum with halpha | hdigit
        · have hbounds := Attribute.bounds_of_isAlpha halpha
          apply hplatform.plain (by omega) (by omega) <;> rintro rfl <;> simp at hbounds
        · exact hplatform.plain_of_isDigit hdigit
      · obtain rfl : c = '-' := by simpa using hhyphen
        exact hplatform.plain (by decide) (by decide) (by decide) (by decide)

theorem Platform.Lawful.equalsIgnoreCase (hplatform : platform.Lawful) {text other : String}
    (htext : (text.toList.all fun c => c.toNat < 128) = true)
    (hother : (other.toList.all fun c => c.toNat < 128) = true) :
    platform.equalsIgnoreCase text other = true ↔
      text.toList.map Char.toLower = other.toList.map Char.toLower := by
  rw [hplatform.equalsIgnoreCase_iff text other (by simpa using htext) (by simpa using hother),
    ← String.toList_inj, Key.toLower_eq_map, Key.toLower_eq_map, String.toList_map,
    String.toList_map]

/-! ## Interfaces -/

/-- A loop in which every step does what is expected of it. -/
theorem foldlM_ok {σ α ε : Type} {f : σ → α → Except ε σ} (step : σ → α → σ) {xs : List α}
    (h : ∀ x ∈ xs, ∀ s, f s x = .ok (step s x)) (s : σ) :
    xs.foldlM f s = .ok (xs.foldl step s) := by
  induction xs generalizing s with
  | nil => rfl
  | cons x xs ih =>
      rw [List.foldlM_cons, h x (List.mem_cons_self ..)]
      exact ih (fun y hy => h y (List.mem_cons_of_mem _ hy)) (step s x)

/-- Two loops whose steps agree. -/
theorem foldlM_map_congr {σ α β ε : Type} {f : σ → β → Except ε σ} {g : σ → α → Except ε σ}
    {value : α → β} {xs : List α} (h : ∀ x ∈ xs, ∀ s, f s (value x) = g s x) (s : σ) :
    (xs.map value).foldlM f s = xs.foldlM g s := by
  induction xs generalizing s with
  | nil => rfl
  | cons x xs ih =>
      rw [List.map_cons, List.foldlM_cons, List.foldlM_cons, h x (List.mem_cons_self ..)]
      apply bind_congr
      exact ih fun y hy => h y (List.mem_cons_of_mem _ hy)

theorem foldlM_append_ok {σ α ε : Type} {f : σ → α → Except ε σ} {xs ys : List α} {s next : σ}
    (h : xs.foldlM f s = .ok next) : (xs ++ ys).foldlM f s = ys.foldlM f next := by
  rw [List.foldlM_append, h]
  rfl

namespace Interface

/-- The attributes that an interface is written as. -/
def attributes (interfaze : Interface platform) : List Attribute :=
  (if interfaze.addresses.isEmpty then []
    else [⟨"Address", Attribute.join (interfaze.addresses.elements.map InetNetwork.toString)⟩]) ++
  (if interfaze.dnsServers.isEmpty then []
    else [⟨"DNS", Attribute.join (interfaze.dnsServers.elements.map platform.getHostAddress ++
      interfaze.dnsSearchDomains.elements)⟩]) ++
  (if interfaze.excludedApplications.isEmpty then []
    else [⟨"ExcludedApplications", Attribute.join interfaze.excludedApplications.elements⟩]) ++
  (if interfaze.includedApplications.isEmpty then []
    else [⟨"IncludedApplications", Attribute.join interfaze.includedApplications.elements⟩]) ++
  (interfaze.listenPort.elim [] fun lp => [⟨"ListenPort", valueOf lp⟩]) ++
  (interfaze.mtu.elim [] fun m => [⟨"MTU", valueOf m⟩]) ++
  [⟨"PrivateKey", interfaze.keyPair.privateKey.toBase64⟩]

theorem toWgQuickString_eq (interfaze : Interface platform) :
    interfaze.toWgQuickString = terminated (interfaze.attributes.map Attribute.line) := by
  simp only [attributes, List.map_append, terminated_append, Attribute.terminated_ite,
    Attribute.terminated_elim]
  rw [List.map_singleton, ← Attribute.attributeLine_eq]
  rfl

/-- The names of applications that can be elements of a list. -/
def PlainApplications (interfaze : Interface platform) : Prop :=
  (∀ app ∈ interfaze.excludedApplications.elements, PlainText platform app) ∧
    ∀ app ∈ interfaze.includedApplications.elements, PlainText platform app

variable {interfaze : Interface platform}

theorem WellFormed.attributes (h : interfaze.WellFormed) (hplatform : platform.Lawful)
    (happlications : interfaze.PlainApplications) :
    ∀ entry ∈ interfaze.attributes, entry.WellFormed platform := by
  intro entry hentry
  simp only [Interface.attributes, List.mem_append] at hentry
  rcases hentry with (((((hentry | hentry) | hentry) | hentry) | hentry) | hentry) | hentry
  · apply Attribute.wellFormed_of_mem_ite hentry (by decide)
    · simp [LinkedHashSet.isEmpty]
    · intro text htext
      obtain ⟨network, hnetwork, rfl⟩ := List.mem_map.mp htext
      exact InetNetwork.plainText_toString hplatform (h.addresses network hnetwork)
  · apply Attribute.wellFormed_of_mem_ite hentry (by decide)
    · simp +contextual [LinkedHashSet.isEmpty]
    · intro text htext
      rcases List.mem_append.mp htext with htext | htext
      · obtain ⟨address, haddress, rfl⟩ := List.mem_map.mp htext
        obtain ⟨source, hsource⟩ := h.dnsServers address haddress
        exact InetAddresses.plainText_getHostAddress hplatform hsource
      · exact InetAddresses.plainText_of_isHostname hplatform (h.dnsSearchDomains text htext).1
  · exact Attribute.wellFormed_of_mem_ite hentry (by decide) (by simp [LinkedHashSet.isEmpty])
      happlications.1
  · exact Attribute.wellFormed_of_mem_ite hentry (by decide) (by simp [LinkedHashSet.isEmpty])
      happlications.2
  · exact Attribute.wellFormed_of_mem_elim hentry (by decide) fun port hport =>
      plainText_valueOf_of_le hplatform (h.listenPort port hport).1
  · exact Attribute.wellFormed_of_mem_elim hentry (by decide) fun size hsize =>
      plainText_valueOf_of_le hplatform (h.mtu size hsize).1
  · obtain rfl := List.mem_singleton.mp hentry
    exact Attribute.wellFormed_of_plainText (by decide) (plainText_toBase64 hplatform _)

/-- What is left of an interface once it has been written. -/
def written (interfaze : Interface platform) : Interface platform :=
  { interfaze with
    dnsSearchDomains :=
      if interfaze.dnsServers.isEmpty then .empty else interfaze.dnsSearchDomains }

namespace Builder

variable {builder : Builder platform}

theorem foldl_addAddress (networks : List (InetNetwork platform)) (builder : Builder platform) :
    networks.foldl addAddress builder =
      { builder with addresses := builder.addresses.addAll networks } := by
  induction networks generalizing builder with
  | nil => rfl
  | cons network networks ih =>
      rw [List.foldl_cons, ih]
      rfl

theorem foldl_addDnsServer (servers : List platform.Address) (builder : Builder platform) :
    servers.foldl addDnsServer builder =
      { builder with dnsServers := builder.dnsServers.addAll servers } := by
  induction servers generalizing builder with
  | nil => rfl
  | cons server servers ih =>
      rw [List.foldl_cons, ih]
      rfl

theorem foldl_addDnsSearchDomain (domains : List String) (builder : Builder platform) :
    domains.foldl addDnsSearchDomain builder =
      { builder with dnsSearchDomains := builder.dnsSearchDomains.addAll domains } := by
  induction domains generalizing builder with
  | nil => rfl
  | cons domain domains ih =>
      rw [List.foldl_cons, ih]
      rfl

theorem parseAddresses_join (hplatform : platform.Lawful) {networks : List (InetNetwork platform)}
    (hne : networks ≠ []) (h : ∀ network ∈ networks, network.WellFormed)
    (builder : Builder platform) :
    builder.parseAddresses (Attribute.join (networks.map InetNetwork.toString)) =
      .ok { builder with addresses := builder.addresses.addAll networks } := by
  have hplain : ∀ text ∈ networks.map InetNetwork.toString, PlainText platform text := by
    intro text htext
    obtain ⟨network, hnetwork, rfl⟩ := List.mem_map.mp htext
    exact InetNetwork.plainText_toString hplatform (h network hnetwork)
  rw [parseAddresses, Attribute.split_join hplatform (by simpa using hne) hplain,
    List.foldlM_map, foldlM_ok addAddress, foldl_addAddress]
  intro network hnetwork builder
  simp only [InetNetwork.parse_toString hplatform (h network hnetwork)]

theorem parseDnsServers_join (hplatform : platform.Lawful) {servers : List platform.Address}
    {domains : List String} (hne : servers ≠ [])
    (hservers : ∀ address ∈ servers, ∃ text, platform.parseNumericAddress text = some address)
    (hdomains : ∀ domain ∈ domains,
      InetAddresses.isHostname domain = true ∧ platform.parseNumericAddress domain = none)
    (builder : Builder platform) :
    builder.parseDnsServers (Attribute.join (servers.map platform.getHostAddress ++ domains)) =
      .ok { builder with
        dnsServers := builder.dnsServers.addAll servers
        dnsSearchDomains := builder.dnsSearchDomains.addAll domains } := by
  have hplain : ∀ text ∈ servers.map platform.getHostAddress ++ domains,
      PlainText platform text := by
    intro text htext
    rcases List.mem_append.mp htext with htext | htext
    · obtain ⟨address, haddress, rfl⟩ := List.mem_map.mp htext
      obtain ⟨source, hsource⟩ := hservers address haddress
      exact InetAddresses.plainText_getHostAddress hplatform hsource
    · exact InetAddresses.plainText_of_isHostname hplatform (hdomains text htext).1
  rw [parseDnsServers, Attribute.split_join hplatform (by simp [hne]) hplain, List.foldlM_append,
    List.foldlM_map, foldlM_ok addDnsServer, foldl_addDnsServer]
  · show domains.foldlM _ _ = _
    rw [foldlM_ok addDnsSearchDomain, foldl_addDnsSearchDomain]
    intro domain hdomain builder
    obtain ⟨hname, hnone⟩ := hdomains domain hdomain
    have hne' := (InetAddresses.plainText_of_isHostname hplatform hname).ne_empty
    simp [InetAddresses.parse, hne', hnone, hname]
  · intro address haddress builder
    obtain ⟨source, hsource⟩ := hservers address haddress
    simp only [InetAddresses.parse_getHostAddress hplatform hsource]

/-- The attributes that are written, one by one. -/
theorem parseAttribute_addresses (hplatform : platform.Lawful) {interfaze : Interface platform}
    (h : interfaze.WellFormed) (hbuilder : builder.addresses = .empty) :
    (if interfaze.addresses.isEmpty then []
      else [⟨"Address", Attribute.join (interfaze.addresses.elements.map InetNetwork.toString)⟩] :
        List Attribute).foldlM parseAttribute builder =
      .ok { builder with addresses := interfaze.addresses } := by
  have hkey : platform.toLowerCase "Address" = "address" :=
    hplatform.toLowerCase (by decide) (by decide)
  cases hempty : interfaze.addresses.isEmpty with
  | true =>
      rw [LinkedHashSet.eq_empty_of_isEmpty hempty, ← hbuilder]
      rfl
  | false =>
      have hne : interfaze.addresses.elements ≠ [] := by
        simpa [LinkedHashSet.isEmpty] using hempty
      have hparse := parseAddresses_join hplatform hne h.addresses builder
      rw [hbuilder, LinkedHashSet.addAll_elements] at hparse
      simp [parseAttribute, hkey, hparse]

theorem parseAttribute_dns (hplatform : platform.Lawful) {interfaze : Interface platform}
    (h : interfaze.WellFormed) (hservers : builder.dnsServers = .empty)
    (hdomains : builder.dnsSearchDomains = .empty) :
    (if interfaze.dnsServers.isEmpty then []
      else [⟨"DNS", Attribute.join (interfaze.dnsServers.elements.map platform.getHostAddress ++
        interfaze.dnsSearchDomains.elements)⟩] : List Attribute).foldlM parseAttribute builder =
      .ok { builder with
        dnsServers := interfaze.dnsServers
        dnsSearchDomains := interfaze.written.dnsSearchDomains } := by
  have hkey : platform.toLowerCase "DNS" = "dns" := hplatform.toLowerCase (by decide) (by decide)
  cases hempty : interfaze.dnsServers.isEmpty with
  | true =>
      simp only [written, hempty, if_true]
      rw [LinkedHashSet.eq_empty_of_isEmpty hempty]
      conv_rhs => rw [← hdomains, ← hservers]
      rfl
  | false =>
      have hne : interfaze.dnsServers.elements ≠ [] := by
        simpa [LinkedHashSet.isEmpty] using hempty
      have hparse := parseDnsServers_join hplatform hne h.dnsServers h.dnsSearchDomains builder
      rw [hservers, hdomains, LinkedHashSet.addAll_elements, LinkedHashSet.addAll_elements] at hparse
      simp [parseAttribute, hkey, hparse, written, hempty]

theorem parseAttribute_excludedApplications (hplatform : platform.Lawful)
    {apps : LinkedHashSet String} (h : ∀ app ∈ apps.elements, PlainText platform app)
    (hbuilder : builder.excludedApplications = .empty) :
    (if apps.isEmpty then [] else [⟨"ExcludedApplications", Attribute.join apps.elements⟩] :
        List Attribute).foldlM parseAttribute builder =
      .ok { builder with excludedApplications := apps } := by
  have hkey : platform.toLowerCase "ExcludedApplications" = "excludedapplications" :=
    hplatform.toLowerCase (by decide) (by decide)
  cases hempty : apps.isEmpty with
  | true =>
      rw [LinkedHashSet.eq_empty_of_isEmpty hempty, ← hbuilder]
      rfl
  | false =>
      have hne : apps.elements ≠ [] := by simpa [LinkedHashSet.isEmpty] using hempty
      simp [parseAttribute, hkey, parseExcludedApplications, excludeApplications, hbuilder,
        Attribute.split_join hplatform hne h, LinkedHashSet.addAll_elements]

theorem parseAttribute_includedApplications (hplatform : platform.Lawful)
    {apps : LinkedHashSet String} (h : ∀ app ∈ apps.elements, PlainText platform app)
    (hbuilder : builder.includedApplications = .empty) :
    (if apps.isEmpty then [] else [⟨"IncludedApplications", Attribute.join apps.elements⟩] :
        List Attribute).foldlM parseAttribute builder =
      .ok { builder with includedApplications := apps } := by
  have hkey : platform.toLowerCase "IncludedApplications" = "includedapplications" :=
    hplatform.toLowerCase (by decide) (by decide)
  cases hempty : apps.isEmpty with
  | true =>
      rw [LinkedHashSet.eq_empty_of_isEmpty hempty, ← hbuilder]
      rfl
  | false =>
      have hne : apps.elements ≠ [] := by simpa [LinkedHashSet.isEmpty] using hempty
      simp [parseAttribute, hkey, parseIncludedApplications, includeApplications, hbuilder,
        Attribute.split_join hplatform hne h, LinkedHashSet.addAll_elements]

theorem parseAttribute_listenPort (hplatform : platform.Lawful) {listenPort : Option Int}
    (h : ∀ port ∈ listenPort, 1 ≤ port ∧ port ≤ 65535) (hbuilder : builder.listenPort = none) :
    (listenPort.elim [] fun lp => [⟨"ListenPort", valueOf lp⟩] :
        List Attribute).foldlM parseAttribute builder =
      .ok { builder with listenPort } := by
  have hkey : platform.toLowerCase "ListenPort" = "listenport" :=
    hplatform.toLowerCase (by decide) (by decide)
  cases listenPort with
  | none =>
      conv_rhs => rw [← hbuilder]
      rfl
  | some port =>
      obtain ⟨hlow, hhigh⟩ := h port rfl
      have hparse := parseInt_valueOf_of_le hplatform (by omega : 0 ≤ port) (by omega)
      have hbounds : ¬ (port < 0 ∨ 65535 < port) := by omega
      have hzero : port ≠ 0 := by omega
      simp [parseAttribute, hkey, parseListenPort, hparse, setListenPort, hbounds, hzero]

theorem parseAttribute_mtu (hplatform : platform.Lawful) {mtu : Option Int}
    (h : ∀ size ∈ mtu, 1 ≤ size ∧ size ≤ 2147483647) (hbuilder : builder.mtu = none) :
    (mtu.elim [] fun m => [⟨"MTU", valueOf m⟩] : List Attribute).foldlM parseAttribute builder =
      .ok { builder with mtu } := by
  have hkey : platform.toLowerCase "MTU" = "mtu" := hplatform.toLowerCase (by decide) (by decide)
  cases mtu with
  | none =>
      conv_rhs => rw [← hbuilder]
      rfl
  | some size =>
      obtain ⟨hlow, hhigh⟩ := h size rfl
      have hparse := parseInt_valueOf_of_le hplatform (by omega : 0 ≤ size) hhigh
      have hbounds : ¬ size < 0 := by omega
      have hzero : size ≠ 0 := by omega
      simp [parseAttribute, hkey, parseMtu, hparse, setMtu, hbounds, hzero]

theorem parseAttribute_privateKey (hplatform : platform.Lawful) (key : Key) :
    [(⟨"PrivateKey", key.toBase64⟩ : Attribute)].foldlM parseAttribute builder =
      .ok { builder with keyPair := some (.ofPrivateKey key) } := by
  have hkey : platform.toLowerCase "PrivateKey" = "privatekey" :=
    hplatform.toLowerCase (by decide) (by decide)
  simp [parseAttribute, hkey, parsePrivateKey, Key.fromBase64_toBase64, setKeyPair]

/-- Lines that were written are read as their attributes. -/
theorem foldlM_parseLine (hplatform : platform.Lawful) {entries : List Attribute}
    (h : ∀ entry ∈ entries, entry.WellFormed platform) (builder : Builder platform) :
    (entries.map Attribute.line).foldlM parseLine builder =
      entries.foldlM parseAttribute builder := by
  apply foldlM_map_congr
  intro entry hentry builder
  rw [parseLine, (h entry hentry).parse_line hplatform]

end Builder

theorem parse_attributes (hplatform : platform.Lawful) (h : interfaze.WellFormed)
    (happlications : interfaze.PlainApplications) :
    parse platform (interfaze.attributes.map Attribute.line) = .ok interfaze.written := by
  rw [parse, Builder.foldlM_parseLine hplatform (h.attributes hplatform happlications), attributes]
  simp only [List.append_assoc]
  rw [foldlM_append_ok (Builder.parseAttribute_addresses hplatform h rfl),
    foldlM_append_ok (Builder.parseAttribute_dns hplatform h rfl rfl),
    foldlM_append_ok (Builder.parseAttribute_excludedApplications hplatform happlications.1 rfl),
    foldlM_append_ok (Builder.parseAttribute_includedApplications hplatform happlications.2 rfl),
    foldlM_append_ok (Builder.parseAttribute_listenPort hplatform h.listenPort rfl),
    foldlM_append_ok (Builder.parseAttribute_mtu hplatform h.mtu rfl),
    Builder.parseAttribute_privateKey hplatform, ← h.keyPair]
  have hexclusive : (!interfaze.includedApplications.isEmpty &&
      !interfaze.excludedApplications.isEmpty) = false := by
    rcases h.applications with happs | happs <;> simp [happs]
  simp only [bind, Except.bind, Builder.build, hexclusive]
  rfl

end Interface

/-! ## Peers -/

namespace Peer

/-- The attributes that a peer is written as. -/
def attributes (peer : Peer platform) : List Attribute :=
  (if peer.allowedIps.isEmpty then []
    else [⟨"AllowedIPs", Attribute.join (peer.allowedIps.elements.map InetNetwork.toString)⟩]) ++
  (peer.endpoint.elim [] fun ep => [⟨"Endpoint", ep.toString⟩]) ++
  (peer.persistentKeepalive.elim [] fun pk => [⟨"PersistentKeepalive", valueOf pk⟩]) ++
  (peer.preSharedKey.elim [] fun psk => [⟨"PreSharedKey", psk.toBase64⟩]) ++
  [⟨"PublicKey", peer.publicKey.toBase64⟩]

theorem toWgQuickString_eq (peer : Peer platform) :
    peer.toWgQuickString = terminated (peer.attributes.map Attribute.line) := by
  simp only [attributes, List.map_append, terminated_append, Attribute.terminated_ite,
    Attribute.terminated_elim]
  rw [List.map_singleton, ← Attribute.attributeLine_eq]
  rfl

variable {peer : Peer platform}

theorem WellFormed.attributes (h : peer.WellFormed) (hplatform : platform.Lawful) :
    ∀ entry ∈ peer.attributes, entry.WellFormed platform := by
  intro entry hentry
  simp only [Peer.attributes, List.mem_append] at hentry
  rcases hentry with (((hentry | hentry) | hentry) | hentry) | hentry
  · apply Attribute.wellFormed_of_mem_ite hentry (by decide)
    · simp [LinkedHashSet.isEmpty]
    · intro text htext
      obtain ⟨network, hnetwork, rfl⟩ := List.mem_map.mp htext
      exact InetNetwork.plainText_toString hplatform (h.allowedIps network hnetwork)
  · apply Attribute.wellFormed_of_mem_elim hentry (by decide)
    intro endpoint hendpoint
    have hplain := InetEndpoint.plain_toString hplatform (h.endpoint endpoint hendpoint)
    exact ⟨hplain.1, fun c hc => (hplain.2 c hc).1⟩
  · exact Attribute.wellFormed_of_mem_elim hentry (by decide) fun interval hinterval =>
      plainText_valueOf_of_le hplatform (h.persistentKeepalive interval hinterval).1
  · exact Attribute.wellFormed_of_mem_elim hentry (by decide) fun key _ =>
      plainText_toBase64 hplatform key
  · obtain rfl := List.mem_singleton.mp hentry
    exact Attribute.wellFormed_of_plainText (by decide) (plainText_toBase64 hplatform _)

namespace Builder

variable {builder : Builder platform}

theorem foldl_addAllowedIp (networks : List (InetNetwork platform)) (builder : Builder platform) :
    networks.foldl addAllowedIp builder =
      { builder with allowedIps := builder.allowedIps.addAll networks } := by
  induction networks generalizing builder with
  | nil => rfl
  | cons network networks ih =>
      rw [List.foldl_cons, ih]
      rfl

theorem parseAllowedIPs_join (hplatform : platform.Lawful) {networks : List (InetNetwork platform)}
    (hne : networks ≠ []) (h : ∀ network ∈ networks, network.WellFormed)
    (builder : Builder platform) :
    builder.parseAllowedIPs (Attribute.join (networks.map InetNetwork.toString)) =
      .ok { builder with allowedIps := builder.allowedIps.addAll networks } := by
  have hplain : ∀ text ∈ networks.map InetNetwork.toString, PlainText platform text := by
    intro text htext
    obtain ⟨network, hnetwork, rfl⟩ := List.mem_map.mp htext
    exact InetNetwork.plainText_toString hplatform (h network hnetwork)
  rw [parseAllowedIPs, Attribute.split_join hplatform (by simpa using hne) hplain,
    List.foldlM_map, foldlM_ok addAllowedIp, foldl_addAllowedIp]
  intro network hnetwork builder
  simp only [InetNetwork.parse_toString hplatform (h network hnetwork)]

theorem parseAttribute_allowedIps (hplatform : platform.Lawful) {peer : Peer platform}
    (h : peer.WellFormed) (hbuilder : builder.allowedIps = .empty) :
    (if peer.allowedIps.isEmpty then []
      else [⟨"AllowedIPs", Attribute.join (peer.allowedIps.elements.map InetNetwork.toString)⟩] :
        List Attribute).foldlM parseAttribute builder =
      .ok { builder with allowedIps := peer.allowedIps } := by
  have hkey : platform.toLowerCase "AllowedIPs" = "allowedips" :=
    hplatform.toLowerCase (by decide) (by decide)
  cases hempty : peer.allowedIps.isEmpty with
  | true =>
      rw [LinkedHashSet.eq_empty_of_isEmpty hempty, ← hbuilder]
      rfl
  | false =>
      have hne : peer.allowedIps.elements ≠ [] := by simpa [LinkedHashSet.isEmpty] using hempty
      have hparse := parseAllowedIPs_join hplatform hne h.allowedIps builder
      rw [hbuilder, LinkedHashSet.addAll_elements] at hparse
      simp [parseAttribute, hkey, hparse]

theorem parseAttribute_endpoint (hplatform : platform.Lawful) {endpoint : Option InetEndpoint}
    (h : ∀ ep ∈ endpoint, ep.WellFormed platform) (hbuilder : builder.endpoint = none) :
    (endpoint.elim [] fun ep => [⟨"Endpoint", ep.toString⟩] :
        List Attribute).foldlM parseAttribute builder = .ok { builder with endpoint } := by
  have hkey : platform.toLowerCase "Endpoint" = "endpoint" :=
    hplatform.toLowerCase (by decide) (by decide)
  cases endpoint with
  | none =>
      conv_rhs => rw [← hbuilder]
      rfl
  | some ep =>
      have hparse := InetEndpoint.parse_toString hplatform (h ep rfl)
      simp [parseAttribute, hkey, parseEndpoint, hparse, setEndpoint]

theorem parseAttribute_persistentKeepalive (hplatform : platform.Lawful)
    {persistentKeepalive : Option Int}
    (h : ∀ interval ∈ persistentKeepalive, 1 ≤ interval ∧ interval ≤ 65535)
    (hbuilder : builder.persistentKeepalive = none) :
    (persistentKeepalive.elim [] fun pk => [⟨"PersistentKeepalive", valueOf pk⟩] :
        List Attribute).foldlM parseAttribute builder =
      .ok { builder with persistentKeepalive } := by
  have hkey : platform.toLowerCase "PersistentKeepalive" = "persistentkeepalive" :=
    hplatform.toLowerCase (by decide) (by decide)
  cases persistentKeepalive with
  | none =>
      conv_rhs => rw [← hbuilder]
      rfl
  | some interval =>
      obtain ⟨hlow, hhigh⟩ := h interval rfl
      have hparse := parseInt_valueOf_of_le hplatform (by omega : 0 ≤ interval) (by omega)
      have hbounds : ¬ (interval < 0 ∨ 65535 < interval) := by omega
      have hzero : interval ≠ 0 := by omega
      simp [parseAttribute, hkey, parsePersistentKeepalive, hparse, setPersistentKeepalive, hbounds,
        hzero]

theorem parseAttribute_preSharedKey (hplatform : platform.Lawful) {preSharedKey : Option Key}
    (hbuilder : builder.preSharedKey = none) :
    (preSharedKey.elim [] fun psk => [⟨"PreSharedKey", psk.toBase64⟩] :
        List Attribute).foldlM parseAttribute builder = .ok { builder with preSharedKey } := by
  have hkey : platform.toLowerCase "PreSharedKey" = "presharedkey" :=
    hplatform.toLowerCase (by decide) (by decide)
  cases preSharedKey with
  | none =>
      conv_rhs => rw [← hbuilder]
      rfl
  | some key =>
      simp [parseAttribute, hkey, parsePreSharedKey, Key.fromBase64_toBase64, setPreSharedKey]

theorem parseAttribute_publicKey (hplatform : platform.Lawful) (key : Key) :
    [(⟨"PublicKey", key.toBase64⟩ : Attribute)].foldlM parseAttribute builder =
      .ok { builder with publicKey := some key } := by
  have hkey : platform.toLowerCase "PublicKey" = "publickey" :=
    hplatform.toLowerCase (by decide) (by decide)
  simp [parseAttribute, hkey, parsePublicKey, Key.fromBase64_toBase64, setPublicKey]

theorem foldlM_parseLine (hplatform : platform.Lawful) {entries : List Attribute}
    (h : ∀ entry ∈ entries, entry.WellFormed platform) (builder : Builder platform) :
    (entries.map Attribute.line).foldlM parseLine builder =
      entries.foldlM parseAttribute builder := by
  apply foldlM_map_congr
  intro entry hentry builder
  rw [parseLine, (h entry hentry).parse_line hplatform]

end Builder

theorem parse_attributes (hplatform : platform.Lawful) (h : peer.WellFormed) :
    parse platform (peer.attributes.map Attribute.line) = .ok peer := by
  rw [parse, Builder.foldlM_parseLine hplatform (h.attributes hplatform), attributes]
  simp only [List.append_assoc]
  rw [foldlM_append_ok (Builder.parseAttribute_allowedIps hplatform h rfl),
    foldlM_append_ok (Builder.parseAttribute_endpoint hplatform h.endpoint rfl),
    foldlM_append_ok
      (Builder.parseAttribute_persistentKeepalive hplatform h.persistentKeepalive rfl),
    foldlM_append_ok (Builder.parseAttribute_preSharedKey hplatform rfl),
    Builder.parseAttribute_publicKey hplatform]
  rfl

end Peer

/-! ## Files -/

namespace Config

/-- A configuration that has been written and read. -/
def written (config : Config platform) : Config platform :=
  { config with interfaze := config.interfaze.written }

/-- The lines of a file that are not empty. -/
def lines (config : Config platform) : List String :=
  "[Interface]" :: config.interfaze.attributes.map Attribute.line ++
    config.peers.flatMap fun peer => "[Peer]" :: peer.attributes.map Attribute.line

variable {config : Config platform}

theorem toWgQuickString_eq (config : Config platform) : config.toWgQuickString =
    terminated ("[Interface]" :: config.interfaze.attributes.map Attribute.line ++
      config.peers.flatMap fun peer => "" :: "[Peer]" :: peer.attributes.map Attribute.line) := by
  rw [List.cons_append, terminated_cons, terminated_append, terminated_flatMap,
    ← Interface.toWgQuickString_eq, toWgQuickString, String.append_assoc]
  congr 3
  apply List.map_congr_left
  intro peer _
  rw [terminated_cons, terminated_cons, ← Peer.toWgQuickString_eq]
  simp [← String.append_assoc]

theorem written_attribute {entries : List Attribute}
    (h : ∀ entry ∈ entries, entry.WellFormed platform) :
    ∀ line ∈ entries.map Attribute.line, Written line := by
  intro line hline
  obtain ⟨entry, hentry, rfl⟩ := List.mem_map.mp hline
  exact (h entry hentry).written

theorem written_of_all {line : String}
    (h : (line ≠ "" && line.toList.all fun c => 32 < c.toNat && c ≠ '#') = true) :
    Written line := by
  simp only [Bool.and_eq_true, decide_eq_true_eq, List.all_eq_true] at h
  constructor
  · exact h.1
  · exact fun c hc => (h.2 c (List.mem_of_mem_head? hc)).1
  · exact fun c hc => (h.2 c (List.mem_of_getLast? hc)).1
  · intro c hc
    obtain ⟨hlow, hcomment⟩ := h.2 c hc
    refine ⟨?_, ?_, hcomment⟩ <;> rintro rfl <;> simp at hlow

/-- Lines that were written are read as they are, but for the empty ones. -/
theorem contentLines_terminated {lines : List String}
    (h : ∀ line ∈ lines, line = "" ∨ Written line) :
    contentLines (terminated lines) = lines.filter (· ≠ "") := by
  rw [contentLines, readLines_terminated]
  · congr 1
    rw [List.map_map]
    conv_rhs => rw [← List.map_id lines]
    apply List.map_congr_left
    intro line hline
    rcases h line hline with rfl | hwritten
    · rfl
    · exact content_of_written hwritten
  · intro line hline c hc
    rcases h line hline with rfl | hwritten
    · cases hc
    · exact ⟨(hwritten.inner c hc).1, (hwritten.inner c hc).2.1⟩

theorem filter_of_written {lines : List String} (h : ∀ line ∈ lines, Written line) :
    lines.filter (· ≠ "") = lines := by
  rw [List.filter_eq_self]
  intro line hline
  simpa using (h line hline).ne_empty

theorem contentLines_toWgQuickString (hplatform : platform.Lawful) (h : config.WellFormed)
    (happlications : config.interfaze.PlainApplications) :
    contentLines config.toWgQuickString = config.lines := by
  have hinterface : ∀ line ∈ "[Interface]" :: config.interfaze.attributes.map Attribute.line,
      Written line := by
    rw [List.forall_mem_cons]
    exact ⟨written_of_all (by decide),
      written_attribute (h.interfaze.attributes hplatform happlications)⟩
  have hpeer : ∀ peer ∈ config.peers, ∀ line ∈ "[Peer]" :: peer.attributes.map Attribute.line,
      Written line := by
    intro peer hmem
    rw [List.forall_mem_cons]
    exact ⟨written_of_all (by decide), written_attribute ((h.peers peer hmem).attributes hplatform)⟩
  rw [toWgQuickString_eq, contentLines_terminated, List.filter_append, List.filter_flatMap,
    filter_of_written hinterface, lines]
  · congr 1
    apply List.flatMap_congr
    intro peer hmem
    rw [List.filter_cons_of_neg (by simp), filter_of_written (hpeer peer hmem)]
  · intro line hline
    rcases List.mem_append.mp hline with hline | hline
    · exact .inr (hinterface line hline)
    · obtain ⟨peer, hmem, hline⟩ := List.mem_flatMap.mp hline
      exact (List.mem_cons.mp hline).imp_right (hpeer peer hmem line)

theorem sections_append {lines : List String} (h : ∀ line ∈ lines, line.toList.head? ≠ some '[')
    (rest : List String) :
    sections (lines ++ rest) = (lines ++ (sections rest).1, (sections rest).2) := by
  induction lines with
  | nil => rfl
  | cons line lines ih =>
      rw [List.cons_append, sections, if_neg (h line (List.mem_cons_self ..)),
        ih fun other hother => h other (List.mem_cons_of_mem _ hother)]
      rfl

theorem head_attribute {entries : List Attribute}
    (h : ∀ entry ∈ entries, entry.WellFormed platform) :
    ∀ line ∈ entries.map Attribute.line, line.toList.head? ≠ some '[' := by
  intro line hline
  obtain ⟨entry, hentry, rfl⟩ := List.mem_map.mp hline
  exact (h entry hentry).head_ne

theorem sections_header {line : String} (hheader : line.toList.head? = some '[')
    (rest : List String) :
    sections (line :: rest) = ([], ⟨line, (sections rest).1⟩ :: (sections rest).2) := by
  rw [sections, if_pos hheader]

theorem sections_peers {peers : List (Peer platform)} (hplatform : platform.Lawful)
    (h : ∀ peer ∈ peers, peer.WellFormed) :
    sections (peers.flatMap fun peer => "[Peer]" :: peer.attributes.map Attribute.line) =
      ([], peers.map fun peer => ⟨"[Peer]", peer.attributes.map Attribute.line⟩) := by
  induction peers with
  | nil => rfl
  | cons peer peers ih =>
      have hpeer := (h peer (List.mem_cons_self ..)).attributes hplatform
      rw [List.flatMap_cons, List.cons_append, sections_header (by decide),
        sections_append (head_attribute hpeer),
        ih fun other hother => h other (List.mem_cons_of_mem _ hother), List.append_nil]
      rfl

theorem sections_lines (hplatform : platform.Lawful) (h : config.WellFormed)
    (happlications : config.interfaze.PlainApplications) :
    sections config.lines =
      ([], ⟨"[Interface]", config.interfaze.attributes.map Attribute.line⟩ ::
        config.peers.map fun peer => ⟨"[Peer]", peer.attributes.map Attribute.line⟩) := by
  have hinterface := h.interfaze.attributes hplatform happlications
  rw [lines, List.cons_append, sections_header (by decide),
    sections_append (head_attribute hinterface), sections_peers hplatform h.peers, List.append_nil]

theorem parseSection_interface (hplatform : platform.Lawful) (lines : List String) :
    parseSection platform ⟨"[Interface]", lines⟩ = .ok (.interface lines) := by
  have hheader : platform.equalsIgnoreCase "[Interface]" "[Interface]" = true :=
    (hplatform.equalsIgnoreCase (by decide) (by decide)).mpr rfl
  rw [parseSection, if_pos hheader]

theorem parseSection_peer (hplatform : platform.Lawful) {peer : Peer platform}
    (h : peer.WellFormed) :
    parseSection platform ⟨"[Peer]", peer.attributes.map Attribute.line⟩ = .ok (.peer peer) := by
  have hother : ¬ platform.equalsIgnoreCase "[Interface]" "[Peer]" = true := by
    rw [hplatform.equalsIgnoreCase (by decide) (by decide)]
    decide
  have hheader : platform.equalsIgnoreCase "[Peer]" "[Peer]" = true :=
    (hplatform.equalsIgnoreCase (by decide) (by decide)).mpr rfl
  rw [parseSection, if_neg hother, if_pos hheader, Peer.parse_attributes hplatform h]
  rfl

theorem mapM_parseSection (hplatform : platform.Lawful) {peers : List (Peer platform)}
    (h : ∀ peer ∈ peers, peer.WellFormed) :
    (peers.map fun peer => ⟨"[Peer]", peer.attributes.map Attribute.line⟩).mapM
      (parseSection platform) = .ok (peers.map Content.peer) := by
  induction peers with
  | nil => rfl
  | cons peer peers ih =>
      rw [List.map_cons, List.mapM_cons,
        parseSection_peer hplatform (h peer (List.mem_cons_self ..)),
        ih fun other hother => h other (List.mem_cons_of_mem _ hother)]
      rfl

/-- A configuration is read back but for its search domains without a server. -/
theorem parse_written (hplatform : platform.Lawful) (h : config.WellFormed)
    (happlications : config.interfaze.PlainApplications) :
    parse platform config.toWgQuickString = .ok config.written := by
  have hcontents : (sections config.lines).2.mapM (parseSection platform) =
      .ok (.interface (config.interfaze.attributes.map Attribute.line) ::
        config.peers.map Content.peer) := by
    rw [sections_lines hplatform h happlications, List.mapM_cons,
      parseSection_interface hplatform, mapM_parseSection hplatform h.peers]
    rfl
  have hpeers : (config.peers.map Content.peer).filterMap Content.peer? = config.peers := by
    rw [List.filterMap_map]
    exact List.filterMap_some
  have hlines : (config.peers.map Content.peer).filterMap Content.interfaceLines? = [] := by
    rw [List.filterMap_map]
    exact List.filterMap_none _
  rw [parse_eq_remaining, contentLines_toWgQuickString hplatform h happlications,
    Reader.remaining, hcontents, sections_lines hplatform h happlications]
  show assemble platform false [] []
    (.interface (config.interfaze.attributes.map Attribute.line) ::
      config.peers.map Content.peer) = _
  rw [assemble_interface, assemble, hlines, hpeers, List.flatten_nil, List.nil_append,
    List.append_nil, Interface.parse_attributes hplatform h.interfaze happlications]
  rfl

theorem written_eq_iff : config.written = config ↔
    (config.interfaze.dnsServers.isEmpty = true →
      config.interfaze.dnsSearchDomains.isEmpty = true) := by
  constructor
  · intro h hservers
    have hdomains : config.written.interfaze.dnsSearchDomains =
        config.interfaze.dnsSearchDomains := by rw [h]
    rw [← hdomains, written, Interface.written, if_pos hservers]
    rfl
  · intro h
    have hdomains : (if config.interfaze.dnsServers.isEmpty then .empty
        else config.interfaze.dnsSearchDomains) = config.interfaze.dnsSearchDomains := by
      split
      · rename_i hservers
        exact (LinkedHashSet.eq_empty_of_isEmpty (h hservers)).symm
      · rfl
    rw [written, Interface.written, hdomains]

/-- The text is the same once more. -/
theorem toWgQuickString_written : config.written.toWgQuickString = config.toWgQuickString := by
  have hinterface : config.interfaze.written.attributes = config.interfaze.attributes := by
    rw [Interface.attributes, Interface.attributes]
    cases hservers : config.interfaze.dnsServers.isEmpty <;>
      simp [Interface.written, hservers]
  rw [toWgQuickString, toWgQuickString, written, Interface.toWgQuickString_eq, hinterface,
    ← Interface.toWgQuickString_eq]

/-! ## A tunnel to one server -/

/-- The server's public key and the device's private key are not what matters here. -/
def sampleKey : Key := ⟨List.replicate 32 7, rfl⟩

def sample : Config .ascii where
  interfaze :=
    { addresses := .add .empty ⟨(⟨10, 64, 0, 2⟩ : Ipv4Addr), 32⟩
      dnsServers := .add .empty (⟨1, 1, 1, 1⟩ : Ipv4Addr)
      dnsSearchDomains := .add .empty "vpn.internal"
      excludedApplications := .empty
      includedApplications := .add .empty "browser"
      keyPair := .ofPrivateKey sampleKey
      listenPort := none
      mtu := some 1280 }
  peers :=
    [{ allowedIps := .add .empty ⟨(⟨0, 0, 0, 0⟩ : Ipv4Addr), 0⟩
       endpoint := some { host := "192.0.2.7", isResolved := true, port := 51820 }
       persistentKeepalive := some 25
       preSharedKey := none
       publicKey := sampleKey }]

theorem wellFormed_sample : sample.WellFormed := by
  have hread (address : Ipv4Addr) :
      ∃ text, Platform.ascii.parseNumericAddress text = some address :=
    ⟨_, Platform.parse_toText_ascii address⟩
  constructor
  · constructor
    · intro network hnetwork
      obtain rfl := List.mem_singleton.mp hnetwork
      exact ⟨hread _, by decide, by decide⟩
    · intro address haddress
      obtain rfl := List.mem_singleton.mp haddress
      exact hread _
    · intro domain hdomain
      obtain rfl := List.mem_singleton.mp hdomain
      exact ⟨by decide, by decide +kernel⟩
    · exact .inr rfl
    · rfl
    · intro port hport
      cases hport
    · intro size hsize
      cases hsize
      decide
  · intro peer hpeer
    obtain rfl := List.mem_singleton.mp hpeer
    constructor
    · intro network hnetwork
      obtain rfl := List.mem_singleton.mp hnetwork
      exact ⟨hread _, by decide, by decide⟩
    · intro endpoint hendpoint
      cases hendpoint
      constructor
      · exact ⟨"192.0.2.7:51820", by rw [Platform.uri_ascii]; decide +kernel⟩
      · decide
      · decide
      · decide +kernel
    · intro interval hinterval
      cases hinterval
      decide

theorem plainApplications_sample : sample.interfaze.PlainApplications := by
  constructor
  · intro app happ
    cases happ
  · intro app happ
    obtain rfl := List.mem_singleton.mp happ
    constructor
    · decide
    · have hletters : ("browser".toList.all fun c => 45 ≤ c.toNat) = true := by decide
      intro c hc
      exact Platform.ascii_plain (by simpa using List.all_eq_true.mp hletters c hc)

theorem parse_sample : parse .ascii sample.toWgQuickString = .ok sample := by
  rw [parse_written Platform.lawful_ascii wellFormed_sample plainApplications_sample]
  rfl

/-- A configuration that has been read, from whatever text, is written as a text that is read as
the same configuration. Only search domains are not written where there is no server. -/
theorem parse_toWgQuickString (hplatform : platform.Lawful) {text : String}
    (h : parse platform text = .ok config) (happlications : config.interfaze.PlainApplications) :
    ∃ again, parse platform config.toWgQuickString = .ok again ∧
      again.toWgQuickString = config.toWgQuickString ∧
      (again = config ↔ (config.interfaze.dnsServers.isEmpty = true →
        config.interfaze.dnsSearchDomains.isEmpty = true)) := by
  have hconfig := wellFormed_of_parse h
  exact ⟨config.written, parse_written hplatform hconfig happlications, toWgQuickString_written,
    written_eq_iff⟩

theorem parse_toWgQuickString_sample :
    parse .ascii sample.toWgQuickString = .ok sample ∧
      ∃ again, parse .ascii sample.toWgQuickString = .ok again ∧
        again.toWgQuickString = sample.toWgQuickString ∧
        (again = sample ↔ (sample.interfaze.dnsServers.isEmpty = true →
          sample.interfaze.dnsSearchDomains.isEmpty = true)) :=
  ⟨parse_sample,
    parse_toWgQuickString Platform.lawful_ascii parse_sample plainApplications_sample⟩

end Config

end Modvpn.Wireguard
