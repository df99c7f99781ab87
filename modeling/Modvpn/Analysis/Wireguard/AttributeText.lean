/-
# Values of a configuration read back from their text

What is written for a number, a list, a network, an endpoint or a key is read as the
same. Each of these texts is plain, so that it is no comment, does not end a list
element and has no space at its ends.
-/

import Modvpn.Analysis.AddressText
import Modvpn.Analysis.Wireguard.KeyText
import Modvpn.Wireguard.Attribute

namespace Modvpn.Wireguard

open Java

variable {platform : Platform}

/-- A text that can be an element of a list. -/
structure PlainText (platform : Platform) (text : String) : Prop where
  ne_empty : text ≠ ""
  plain : ∀ c ∈ text.toList, platform.Plain c

namespace Platform.Lawful

variable (hplatform : platform.Lawful)
include hplatform

/-- Printable ASCII characters have no meaning of their own, but for the comma and the `#`. -/
theorem plain {c : Char} (hlow : 32 < c.toNat) (hhigh : c.toNat < 127) (hcomma : c ≠ ',')
    (hhash : c ≠ '#') : platform.Plain c := by
  refine ⟨?_, hlow, hcomma, hhash⟩
  rw [← Bool.not_eq_true, hplatform.isSpace_iff c (by omega)]
  rintro (rfl | h)
  · simp at hlow
  · omega

theorem plain_of_isDigit {c : Char} (h : c.isDigit = true) : platform.Plain c := by
  simp only [Char.isDigit, Bool.and_eq_true, decide_eq_true_eq] at h
  have hlow : 48 ≤ c.toNat := h.1
  have hhigh : c.toNat ≤ 57 := h.2
  apply hplatform.plain (by omega) (by omega)
  · rintro rfl
    simp at hlow
  · rintro rfl
    simp at hlow

theorem isSpace_space : platform.isSpace ' ' = true := by
  rw [hplatform.isSpace_iff ' ' (by decide)]
  exact .inl rfl

end Platform.Lawful

/-! ## Numbers -/

theorem toList_valueOf (n : Nat) : (valueOf n).toList = Nat.toDigits 10 n := by
  simp [valueOf, digitsText]

theorem plainText_valueOf (hplatform : platform.Lawful) (n : Nat) :
    PlainText platform (valueOf n) := by
  constructor
  · intro hempty
    have hlist := toList_valueOf n
    rw [hempty] at hlist
    simp at hlist
  · intro c hc
    rw [toList_valueOf] at hc
    exact hplatform.plain_of_isDigit (isDigit_of_mem_toDigits hc)

theorem mapM_digit (hplatform : platform.Lawful) {digits : List Char}
    (h : ∀ c ∈ digits, c.isDigit = true) :
    digits.mapM platform.digit = some (digits.map fun c => c.toNat - 48) := by
  induction digits with
  | nil => rfl
  | cons c digits ih =>
      rw [List.mapM_cons, hplatform.digit_eq c (h c (List.mem_cons_self ..)),
        ih fun other hother => h other (List.mem_cons_of_mem _ hother)]
      rfl

theorem foldl_digits (digits : List Char) (sum : Nat) :
    (digits.map fun c => c.toNat - 48).foldl (fun sum d => sum * 10 + d) sum =
      Nat.ofDigitChars 10 digits sum := by
  induction digits generalizing sum with
  | nil => simp
  | cons c digits ih =>
      rw [List.map_cons, List.foldl_cons, Nat.ofDigitChars_cons, ← ih, Nat.mul_comm]
      rfl

theorem sign_of_isDigit {chars : List Char} (h : ∀ c ∈ chars, c.isDigit = true) :
    sign chars = (false, chars) := by
  cases chars with
  | nil => rfl
  | cons c rest =>
      have hdigit := h c (List.mem_cons_self ..)
      unfold sign
      split
      · rename_i heq
        obtain rfl := (List.cons.inj heq).1
        simp [Char.isDigit] at hdigit
      · rename_i heq
        obtain rfl := (List.cons.inj heq).1
        simp [Char.isDigit] at hdigit
      · rfl

theorem parseInt_valueOf (hplatform : platform.Lawful) {n : Nat} (hn : n ≤ 2147483647) :
    parseInt platform (valueOf n) = some (n : Int) := by
  have hdigits : ∀ c ∈ Nat.toDigits 10 n, c.isDigit = true := fun _ => isDigit_of_mem_toDigits
  have hvalue : ((Nat.toDigits 10 n).map fun c => c.toNat - 48).foldl
      (fun sum d => sum * 10 + d) 0 = n := by
    rw [foldl_digits, Nat.ofDigitChars_ten_toDigits]
  simp only [parseInt, toList_valueOf, sign_of_isDigit hdigits, mapM_digit hplatform hdigits]
  simp [hvalue]
  omega

/-! ## Lists -/

theorem PlainText.toList_ne_nil {text : String} (h : PlainText platform text) :
    text.toList ≠ [] := fun hnil => h.ne_empty (String.toList_eq_nil_iff.mp hnil)

/-- Plain text has no space at its ends. -/
theorem PlainText.dropWhile {text : String} (h : PlainText platform text) :
    text.toList.dropWhile platform.isSpace = text.toList := by
  cases hlist : text.toList with
  | nil => rfl
  | cons c rest =>
      apply List.dropWhile_cons_of_neg
      simp [(h.plain c (by simp [hlist])).1]

theorem PlainText.rdropWhile {text : String} (h : PlainText platform text) :
    text.toList.rdropWhile platform.isSpace = text.toList := by
  apply List.rdropWhile_eq_self_iff.mpr
  intro hne
  simp [(h.plain _ (List.getLast_mem hne)).1]

theorem PlainText.comma_notMem {text : String} (h : PlainText platform text) :
    ',' ∉ text.toList := fun hmem => (h.plain _ hmem).2.2.1 rfl

namespace Attribute

/-- The space after a comma belongs to the next piece as well. -/
theorem intercalate_comma_space (first : List Char) (rest : List (List Char)) :
    [',', ' '].intercalate (first :: rest) =
      [','].intercalate (first :: rest.map fun piece => ' ' :: piece) := by
  induction rest generalizing first with
  | nil => simp
  | cons next rest ih =>
      rw [List.map_cons, List.intercalate_cons_cons, List.intercalate_cons_cons, ih,
        List.intercalate_cons_cons_left]
      simp

theorem splitOn_join {first : String} {rest : List String}
    (h : ∀ value ∈ first :: rest, PlainText platform value) :
    (join (first :: rest)).toList.splitOn ',' =
      first.toList :: rest.map fun value => ' ' :: value.toList := by
  rw [join, String.toList_intercalate, List.map_cons]
  show ([',', ' '].intercalate _).splitOn ',' = _
  rw [intercalate_comma_space, List.splitOn_intercalate]
  · simp
  · intro piece hpiece hcomma
    rcases List.mem_cons.mp hpiece with rfl | hpiece
    · exact (h first (List.mem_cons_self ..)).comma_notMem hcomma
    · rw [List.map_map] at hpiece
      obtain ⟨value, hvalue, rfl⟩ := List.mem_map.mp hpiece
      exact (h value (List.mem_cons_of_mem _ hvalue)).comma_notMem (by simpa using hcomma)
  · simp

theorem strip_false (hplatform : platform.Lawful) {values : List String}
    (h : ∀ value ∈ values, PlainText platform value) :
    strip platform false (values.map fun value => ' ' :: value.toList) =
      values.map String.toList := by
  induction values with
  | nil => rfl
  | cons value values ih =>
      have hvalue := h value (List.mem_cons_self ..)
      rw [List.map_cons, List.map_cons, strip, ih fun other hother =>
        h other (List.mem_cons_of_mem _ hother)]
      simp [List.dropWhile_cons_of_pos hplatform.isSpace_space, hvalue.dropWhile,
        hvalue.rdropWhile]

/-- A list is split into the values that it was joined of. -/
theorem split_join (hplatform : platform.Lawful) {values : List String} (hne : values ≠ [])
    (h : ∀ value ∈ values, PlainText platform value) :
    split platform (join values) = values := by
  cases values with
  | nil => exact absurd rfl hne
  | cons first rest =>
      have hsplit := splitOn_join h
      cases rest with
      | nil =>
          rw [split, hsplit]
          simp [join]
      | cons next rest =>
          have hfirst := h first (List.mem_cons_self ..)
          have hrest := strip_false hplatform fun value hvalue =>
            h value (List.mem_cons_of_mem first hvalue)
          have hstrip : strip platform true
              (first.toList :: (next :: rest).map fun value => ' ' :: value.toList) =
              (first :: next :: rest).map String.toList := by
            rw [strip, hrest]
            simp [hfirst.rdropWhile]
          have hlast : ((first :: next :: rest).map String.toList).rdropWhile List.isEmpty =
              (first :: next :: rest).map String.toList := by
            apply List.rdropWhile_eq_self_iff.mpr
            intro hne'
            obtain ⟨value, hvalue, heq⟩ := List.mem_map.mp (List.getLast_mem hne')
            rw [← heq]
            simpa using (h value hvalue).ne_empty
          rw [split, hsplit]
          simp only [List.map_cons] at hstrip ⊢
          rw [hstrip]
          simp only [List.map_cons] at hlast
          rw [hlast]
          simp

theorem bounds_of_isAlpha {c : Char} (h : c.isAlpha = true) : 65 ≤ c.toNat ∧ c.toNat ≤ 122 := by
  have h : (c.isUpper || c.isLower) = true := h
  rcases Bool.or_eq_true_iff.mp h with hupper | hlower
  · have hbounds : 65 ≤ c.toNat ∧ c.toNat ≤ 90 := of_decide_eq_true hupper
    omega
  · obtain ⟨hlow, hhigh⟩ := Bool.and_eq_true_iff.mp hlower
    have hlow : 97 ≤ c.toNat := of_decide_eq_true hlow
    have hhigh : c.toNat ≤ 122 := of_decide_eq_true hhigh
    omega

/-- A line that was written is read as its key and its value. -/
theorem parse_line (hplatform : platform.Lawful) {key value : String} (hkey : key ≠ "")
    (hword : ∀ c ∈ key.toList, c.isAlpha = true)
    (hvalue : ∃ c rest, value.toList = c :: rest ∧ platform.isSpace c = false)
    (hcomment : '#' ∉ value.toList) :
    parse platform (key ++ " = " ++ value) = some { key, value } := by
  obtain ⟨c, rest, hvalue, hspace⟩ := hvalue
  have hline : (key ++ " = " ++ value).toList = key.toList ++ ' ' :: '=' :: ' ' :: value.toList := by
    simp
  have hletters : ∀ c ∈ key.toList, platform.isWord c = true := by
    intro c hc
    have hbounds := bounds_of_isAlpha (hword c hc)
    apply (hplatform.isWord_iff c (by omega)).mpr
    left
    simp [Char.isAlphanum, hword c hc]
  have hnoword : platform.isWord ' ' = false := by
    rw [← Bool.not_eq_true, hplatform.isWord_iff ' ' (by decide)]
    decide
  have hnospace : platform.isSpace '=' = false := by
    rw [← Bool.not_eq_true, hplatform.isSpace_iff '=' (by decide)]
    decide
  have htake : (key.toList ++ ' ' :: '=' :: ' ' :: value.toList).takeWhile platform.isWord =
      key.toList := by
    rw [List.takeWhile_append_of_pos hletters, List.takeWhile_cons_of_neg (by simp [hnoword]),
      List.append_nil]
  have hdrop : (key.toList ++ ' ' :: '=' :: ' ' :: value.toList).dropWhile platform.isWord =
      ' ' :: '=' :: ' ' :: value.toList := by
    rw [List.dropWhile_append_of_pos hletters, List.dropWhile_cons_of_neg (by simp [hnoword])]
  have hspaces : (' ' :: '=' :: ' ' :: value.toList).dropWhile platform.isSpace =
      '=' :: ' ' :: value.toList := by
    rw [List.dropWhile_cons_of_pos hplatform.isSpace_space,
      List.dropWhile_cons_of_neg (by simp [hnospace])]
  have hrest : (' ' :: value.toList).dropWhile platform.isSpace = value.toList := by
    rw [List.dropWhile_cons_of_pos hplatform.isSpace_space, hvalue,
      List.dropWhile_cons_of_neg (by simp [hspace])]
  rw [parse, hline, htake, hdrop, hspaces]
  simp only [hrest]
  have hkeyList : key.toList ≠ [] := fun hnil => hkey (String.toList_eq_nil_iff.mp hnil)
  have hvalueList : value.toList ≠ [] := by simp [hvalue]
  rw [if_neg]
  · simp
  · simp [hkeyList, hvalueList, hcomment]

end Attribute

/-! ## Networks -/

namespace InetAddresses

theorem parse_eq_ok {text : String} {address : platform.Address}
    (h : parse platform text = .ok address) : platform.parseNumericAddress text = some address := by
  unfold parse at h
  split at h
  · cases h
  · split at h
    · rename_i result hresult
      cases h
      exact hresult
    · cases h

/-- The text of an address that has been read is read as that address. -/
theorem parse_getHostAddress (hplatform : platform.Lawful) {text : String}
    {address : platform.Address} (h : platform.parseNumericAddress text = some address) :
    parse platform (platform.getHostAddress address) = .ok address := by
  have hne := (hplatform.getHostAddress_plain text address h).1
  rw [parse, if_neg hne, hplatform.parseNumericAddress_getHostAddress text address h]

theorem plainText_getHostAddress (hplatform : platform.Lawful) {text : String}
    {address : platform.Address} (h : platform.parseNumericAddress text = some address) :
    PlainText platform (platform.getHostAddress address) :=
  ⟨(hplatform.getHostAddress_plain text address h).1,
    (hplatform.getHostAddress_plain text address h).2⟩

end InetAddresses

namespace InetNetwork

/-- What a network that has been read is made of. -/
structure WellFormed (network : InetNetwork platform) : Prop where
  address : ∃ text, platform.parseNumericAddress text = some network.address
  mask_nonneg : 0 ≤ network.mask
  mask_le : network.mask ≤ maxMask platform network.address

theorem maxMask_bounds (address : platform.Address) :
    0 ≤ maxMask platform address ∧ maxMask platform address ≤ 128 := by
  unfold maxMask
  split <;> omega

theorem wellFormed_of_parse {text : String} {network : InetNetwork platform}
    (h : parse platform text = .ok network) : network.WellFormed := by
  unfold parse at h
  split at h
  · cases h
  · rename_i rawAddress maskString rawMask hparts
    split at h
    · cases h
    · rename_i address haddress
      split at h
      · cases h
      · rename_i hle
        cases h
        have hmax := maxMask_bounds address
        constructor
        · exact ⟨rawAddress, InetAddresses.parse_eq_ok haddress⟩
        · show (0 : Int) ≤ if _ then _ else _
          split <;> omega
        · show (if _ then _ else _ : Int) ≤ maxMask platform address
          split <;> omega

/-- The parts of a text at the last place of a character. -/
theorem rtakeWhile_last {c : Char} (before : List Char) {after : List Char} (h : c ∉ after) :
    (before ++ c :: after).rtakeWhile (· ≠ c) = after ∧
      (before ++ c :: after).rdropWhile (· ≠ c) = before ++ [c] := by
  have hafter : ∀ d ∈ after.reverse, decide (d ≠ c) = true := by
    intro d hd
    rw [decide_eq_true_eq]
    rintro rfl
    exact h (List.mem_reverse.mp hd)
  have hreverse : (before ++ c :: after).reverse = after.reverse ++ c :: before.reverse := by simp
  constructor
  · rw [List.rtakeWhile, hreverse, List.takeWhile_append_of_pos hafter]
    simp
  · rw [List.rdropWhile, hreverse, List.dropWhile_append_of_pos hafter]
    simp

theorem plainText_toString (hplatform : platform.Lawful) {network : InetNetwork platform}
    (h : network.WellFormed) : PlainText platform network.toString := by
  obtain ⟨text, haddress⟩ := h.address
  have haddressText := InetAddresses.plainText_getHostAddress hplatform haddress
  have hmask : network.mask = (network.mask.toNat : Int) := (Int.toNat_of_nonneg h.mask_nonneg).symm
  have hmaskText := plainText_valueOf hplatform network.mask.toNat
  rw [← hmask] at hmaskText
  constructor
  · simp [toString]
  · intro c hc
    simp only [toString, String.toList_append, List.mem_append] at hc
    rcases hc with (hc | hc) | hc
    · exact haddressText.plain c hc
    · obtain rfl : c = '/' := by simpa using hc
      exact hplatform.plain (by decide) (by decide) (by decide) (by decide)
    · exact hmaskText.plain c hc

theorem parse_slash (hplatform : platform.Lawful) {text : String} {address : platform.Address}
    (haddress : InetAddresses.parse platform text = .ok address) {mask : Int}
    (hnonneg : 0 ≤ mask) (hle : mask ≤ maxMask platform address) :
    parse platform (text ++ "/" ++ valueOf mask) = .ok { address, mask } := by
  have hmask : mask = (mask.toNat : Int) := (Int.toNat_of_nonneg hnonneg).symm
  have hsmall := (maxMask_bounds address).2
  have hnoslash : '/' ∉ (valueOf mask).toList := by
    intro hc
    rw [hmask, toList_valueOf] at hc
    have hdigit := isDigit_of_mem_toDigits hc
    simp [Char.isDigit] at hdigit
  have hlist : (text ++ "/" ++ valueOf mask).toList =
      text.toList ++ '/' :: (valueOf mask).toList := by simp
  have hparts : parts platform (text ++ "/" ++ valueOf mask) =
      .ok (text, valueOf mask, mask) := by
    have hlast := rtakeWhile_last text.toList hnoslash
    rw [← hlist] at hlast
    have hparse : parseInt platform (valueOf mask) = some mask := by
      rw [hmask]
      exact parseInt_valueOf hplatform (by omega)
    rw [parts, if_pos (by simp [hlist]), hlast.1, hlast.2]
    simp [hparse]
  rw [parse, hparts]
  simp only [haddress]
  rw [if_neg (by omega), if_pos hnonneg]

theorem parse_toString (hplatform : platform.Lawful) {network : InetNetwork platform}
    (h : network.WellFormed) : parse platform network.toString = .ok network := by
  obtain ⟨text, haddress⟩ := h.address
  exact parse_slash hplatform (InetAddresses.parse_getHostAddress hplatform haddress) h.mask_nonneg
    h.mask_le

end InetNetwork

/-! ## Endpoints -/

namespace InetEndpoint

/-- What an endpoint that has been read is made of. -/
structure WellFormed (platform : Platform) (endpoint : InetEndpoint) : Prop where
  server : ∃ text, platform.uri ("wg://" ++ text) = some (.server endpoint.host endpoint.port)
  port_nonneg : 0 ≤ endpoint.port
  port_le : endpoint.port ≤ 65535
  isResolved : endpoint.isResolved = (InetAddresses.parse platform endpoint.host).isOk

theorem wellFormed_of_parse {text : String} {endpoint : InetEndpoint}
    (h : parse platform text = .ok endpoint) : endpoint.WellFormed platform := by
  unfold parse at h
  split at h
  · cases h
  · split at h
    · cases h
    · cases h
    · rename_i host port huri
      split at h
      · cases h
      · rename_i hport
        have hbounds : 0 ≤ port ∧ port ≤ 65535 := by omega
        split at h
        · rename_i address haddress
          cases h
          exact ⟨⟨text, huri⟩, hbounds.1, hbounds.2, by rw [haddress]; rfl⟩
        · rename_i e haddress
          cases h
          exact ⟨⟨text, huri⟩, hbounds.1, hbounds.2, by rw [haddress]; rfl⟩

variable {endpoint : InetEndpoint}

/-- A host that has been read needs no brackets that it does not have. -/
theorem toString_eq (hplatform : platform.Lawful) (h : endpoint.WellFormed platform) :
    endpoint.toString = endpoint.host ++ ":" ++ valueOf endpoint.port := by
  obtain ⟨text, huri⟩ := h.server
  have hbracket := (hplatform.host_plain text _ _ huri).2.1
  have hbare : isBareIpv6 endpoint.host = false := by
    rw [← Bool.not_eq_true, isBareIpv6, Bool.and_eq_true, List.any_eq_true, List.all_eq_true]
    rintro ⟨⟨c, hc, hcolon⟩, hall⟩
    obtain rfl : c = ':' := by simpa using hcolon
    simpa using hall '[' (hbracket hc)
  simp [toString, hbare]

theorem plain_toString (hplatform : platform.Lawful) (h : endpoint.WellFormed platform) :
    endpoint.toString ≠ "" ∧
      ∀ c ∈ endpoint.toString.toList, platform.Plain c ∧ c ≠ '/' ∧ c ≠ '?' := by
  obtain ⟨text, huri⟩ := h.server
  have hhost := (hplatform.host_plain text _ _ huri).2.2
  have hport : endpoint.port = (endpoint.port.toNat : Int) := (Int.toNat_of_nonneg h.port_nonneg).symm
  rw [toString_eq hplatform h]
  constructor
  · simp
  · intro c hc
    simp only [String.toList_append, List.mem_append] at hc
    rcases hc with (hc | hc) | hc
    · exact hhost c hc
    · obtain rfl : c = ':' := by simpa using hc
      exact ⟨hplatform.plain (by decide) (by decide) (by decide) (by decide), by decide, by decide⟩
    · rw [hport, toList_valueOf] at hc
      have hdigit := isDigit_of_mem_toDigits hc
      refine ⟨hplatform.plain_of_isDigit hdigit, ?_, ?_⟩ <;> rintro rfl <;>
        simp [Char.isDigit] at hdigit

theorem parse_toString (hplatform : platform.Lawful) (h : endpoint.WellFormed platform) :
    parse platform endpoint.toString = .ok endpoint := by
  have hplain := (plain_toString hplatform h).2
  obtain ⟨text, huri⟩ := h.server
  have hagain := hplatform.uri_server text _ _ huri h.port_nonneg
  have hport : valueOf endpoint.port = digitsText 10 endpoint.port.toNat := by
    conv_lhs => rw [← Int.toNat_of_nonneg h.port_nonneg]
    rfl
  have hforbidden : (endpoint.toString.toList.any fun c => c = '/' || c = '?' || c = '#') = false := by
    rw [← Bool.not_eq_true, List.any_eq_true]
    rintro ⟨c, hc, hbad⟩
    obtain ⟨⟨_, _, _, hhash⟩, hslash, hquestion⟩ := hplain c hc
    simp [hhash, hslash, hquestion] at hbad
  rw [parse, hforbidden, if_neg Bool.false_ne_true, toString_eq hplatform h, hport]
  simp only [hagain]
  rw [if_neg (by have := h.port_nonneg; have := h.port_le; omega)]
  split
  · rename_i address haddress
    have hresolved : endpoint.isResolved = true := by rw [h.isResolved, haddress]; rfl
    rw [← hresolved]
  · rename_i e haddress
    have hresolved : endpoint.isResolved = false := by rw [h.isResolved, haddress]; rfl
    rw [← hresolved]

end InetEndpoint

/-! ## Keys -/

theorem plainText_toBase64 (hplatform : platform.Lawful) (key : Key) :
    PlainText platform key.toBase64 := by
  constructor
  · intro hempty
    have hread := Key.fromBase64_toBase64 key
    rw [hempty] at hread
    cases hread
  · intro c hc
    have hchar := key.isBase64Char_of_mem_toBase64 hc
    unfold Key.IsBase64Char at hchar
    apply hplatform.plain (by omega) (by omega)
    · rintro rfl
      revert hchar
      decide
    · rintro rfl
      revert hchar
      decide

end Modvpn.Wireguard
