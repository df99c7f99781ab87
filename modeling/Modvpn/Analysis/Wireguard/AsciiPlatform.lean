/-
# Platforms of ASCII text

The smallest platform that behaves as documented: every character beyond ASCII is
neither a letter nor a space, and addresses are four octets. A file can be read and
written with it. A second one has one more address, the unspecified one of version 6.
-/

import Modvpn.Analysis.Wireguard.AttributeText
import Modvpn.Wireguard.Platform

namespace Modvpn.Wireguard.Platform

/-- Letters, digits, hyphens and dots. -/
def isHostChar (c : Char) : Bool := c.isAlphanum || c = '-' || c = '.'

/-- A host and its port, or a negative port without one. -/
def authority (text : List Char) : Option Authority :=
  let host := text.takeWhile isHostChar
  if host.isEmpty then none
  else
    match text.dropWhile isHostChar with
    | [] => some (.server (String.ofList host) (-1))
    | ':' :: digits =>
        if digits.isEmpty then some (.server (String.ofList host) (-1))
        else if digits.all Char.isDigit then
          some (.server (String.ofList host) (Nat.ofDigitChars 10 digits 0))
        else some .registry
    | _ => some .registry

/-- What follows the scheme. -/
def afterScheme : List Char → Option Authority
  | 'w' :: 'g' :: ':' :: '/' :: '/' :: rest => authority rest
  | _ => none

def ascii : Platform where
  isWord c := c.isAlphanum || c = '_'
  isSpace c := c = ' ' || 9 ≤ c.toNat && c.toNat ≤ 13
  digit c := if c.isDigit then some (c.toNat - 48) else none
  toLowerCase := String.toLower
  equalsIgnoreCase text other := text.toLower = other.toLower
  Address := Ipv4Addr
  sameAddress address other := address = other
  isInet4 _ := true
  getHostAddress := Ipv4Addr.toText
  parseNumericAddress := Ipv4Addr.parse
  uri text := afterScheme text.toList

theorem isHostChar_bounds {c : Char} (h : isHostChar c = true) :
    45 ≤ c.toNat ∧ c ≠ '/' ∧ c ≠ ':' ∧ c ≠ '?' := by
  constructor
  · simp only [isHostChar, Char.isAlphanum, Char.isDigit, Bool.or_eq_true, Bool.and_eq_true,
      decide_eq_true_eq] at h
    rcases h with ((h | h) | rfl) | rfl
    · have := (Attribute.bounds_of_isAlpha h).1
      omega
    · have hlow : 48 ≤ c.toNat := h.1
      omega
    · decide
    · decide
  · refine ⟨?_, ?_, ?_⟩ <;> rintro rfl <;> revert h <;> decide

theorem ascii_plain {c : Char} (hlow : 45 ≤ c.toNat) : ascii.Plain c := by
  refine ⟨?_, by omega, ?_, ?_⟩
  · show (decide (c = ' ') || decide (9 ≤ c.toNat) && decide (c.toNat ≤ 13)) = false
    have hspace : ¬ c = ' ' := by
      rintro rfl
      simp at hlow
    have hcontrol : ¬ c.toNat ≤ 13 := by omega
    simp [hspace, hcontrol]
  · rintro rfl
    simp at hlow
  · rintro rfl
    simp at hlow

theorem authority_server {text : List Char} {host : String} {port : Int}
    (h : authority text = some (.server host port)) :
    host ≠ "" ∧ ∀ c ∈ host.toList, isHostChar c = true := by
  have hhost : host = String.ofList (text.takeWhile isHostChar) ∧
      text.takeWhile isHostChar ≠ [] := by
    simp only [authority] at h
    rw [Option.ite_none_left_eq_some] at h
    obtain ⟨hne, h⟩ := h
    have hne : text.takeWhile isHostChar ≠ [] := by simpa [List.isEmpty_iff] using hne
    split at h
    · cases h
      exact ⟨rfl, hne⟩
    · split at h
      · cases h
        exact ⟨rfl, hne⟩
      · split at h <;> cases h
        exact ⟨rfl, hne⟩
    · cases h
  rw [hhost.1]
  constructor
  · simpa using hhost.2
  · intro c hc
    exact List.mem_takeWhile_imp (by simpa using hc)

theorem authority_written {host : String} (hne : host ≠ "")
    (h : ∀ c ∈ host.toList, isHostChar c = true) (port : Nat) :
    authority (host.toList ++ ':' :: Nat.toDigits 10 port) = some (.server host port) := by
  have htake : (host.toList ++ ':' :: Nat.toDigits 10 port).takeWhile isHostChar = host.toList := by
    rw [List.takeWhile_append_of_pos h, List.takeWhile_cons_of_neg (by decide), List.append_nil]
  have hdrop : (host.toList ++ ':' :: Nat.toDigits 10 port).dropWhile isHostChar =
      ':' :: Nat.toDigits 10 port := by
    rw [List.dropWhile_append_of_pos h, List.dropWhile_cons_of_neg (by decide)]
  have hdigits : (Nat.toDigits 10 port).all Char.isDigit = true := by
    rw [List.all_eq_true]
    exact fun c hc => isDigit_of_mem_toDigits hc
  simp [authority, htake, hdrop, hdigits, hne, Nat.ofDigitChars_ten_toDigits]

theorem uri_ascii (endpoint : String) :
    ascii.uri ("wg://" ++ endpoint) = authority endpoint.toList := by
  show afterScheme ("wg://" ++ endpoint).toList = _
  rw [String.toList_append]
  rfl

theorem parse_toText_ascii (address : Ipv4Addr) :
    ascii.parseNumericAddress (ascii.getHostAddress address) = some address := by
  have hparse : ascii.parseNumericAddress = Ipv4Addr.parse := rfl
  exact (congrFun hparse _).trans (Ipv4Addr.parse_toText address)

theorem plain_toText (address : Ipv4Addr) :
    address.toText ≠ "" ∧ ∀ c ∈ address.toText.toList, ascii.Plain c := by
  have hlist := Ipv4Addr.toList_toText address
  constructor
  · intro hempty
    rw [hempty] at hlist
    simp at hlist
  · intro c hc
    apply ascii_plain
    have hchar : c.isDigit = true ∨ c = '.' := by
      simp only [hlist, List.mem_append, List.mem_cons] at hc
      rcases hc with hc | rfl | hc | rfl | hc | rfl | hc
      · exact .inl (isDigit_of_mem_toDigits hc)
      · exact .inr rfl
      · exact .inl (isDigit_of_mem_toDigits hc)
      · exact .inr rfl
      · exact .inl (isDigit_of_mem_toDigits hc)
      · exact .inr rfl
      · exact .inl (isDigit_of_mem_toDigits hc)
    rcases hchar with hdigit | rfl
    · simp only [Char.isDigit, Bool.and_eq_true, decide_eq_true_eq] at hdigit
      have hlow : 48 ≤ c.toNat := hdigit.1
      omega
    · decide

theorem lawful_ascii : ascii.Lawful where
  isSpace_iff c _ := by simp [ascii]
  isWord_iff c _ := by simp [ascii]
  digit_eq c h := by simp [ascii, h]
  toLowerCase_eq _ _ := rfl
  equalsIgnoreCase_iff _ _ _ _ := by simp [ascii]
  parseNumericAddress_getHostAddress _ address _ := parse_toText_ascii address
  getHostAddress_plain _ address _ := plain_toText address
  uri_server endpoint host port h hport := by
    rw [uri_ascii] at h ⊢
    have hhost := authority_server h
    have hwritten := authority_written hhost.1 hhost.2 port.toNat
    rw [Int.toNat_of_nonneg hport] at hwritten
    simpa [digitsText] using hwritten
  host_plain endpoint host port h := by
    rw [uri_ascii] at h
    have hhost := authority_server h
    refine ⟨hhost.1, ?_, ?_⟩
    · intro hcolon
      exact absurd rfl (isHostChar_bounds (hhost.2 ':' hcolon)).2.2.1
    · intro c hc
      obtain ⟨hlow, hslash, _, hquestion⟩ := isHostChar_bounds (hhost.2 c hc)
      exact ⟨ascii_plain hlow, hslash, hquestion⟩

/-- The addresses of version 4 and `::`. -/
def dual : Platform where
  isWord := ascii.isWord
  isSpace := ascii.isSpace
  digit := ascii.digit
  toLowerCase := ascii.toLowerCase
  equalsIgnoreCase := ascii.equalsIgnoreCase
  Address := Option Ipv4Addr
  sameAddress address other := address = other
  isInet4 := Option.isSome
  getHostAddress address := address.elim "::" Ipv4Addr.toText
  parseNumericAddress text :=
    if text = "::" ∨ text = "::0" then some none else (ascii.parseNumericAddress text).map some
  uri := ascii.uri

theorem dot_mem_toText (address : Ipv4Addr) : '.' ∈ address.toText.toList := by
  simp [Ipv4Addr.toList_toText]

theorem parse_toText_dual (address : Option Ipv4Addr) :
    dual.parseNumericAddress (dual.getHostAddress address) = some address := by
  cases address with
  | none =>
      show (if "::" = "::" ∨ "::" = "::0" then some none
        else (ascii.parseNumericAddress "::").map some) = _
      exact if_pos (.inl rfl)
  | some address =>
      have hdot := dot_mem_toText address
      have hinet6 : ¬ (address.toText = "::" ∨ address.toText = "::0") := by
        rintro (heq | heq) <;> rw [heq] at hdot <;> revert hdot <;> decide
      have hparse := congrArg (Option.map some) (parse_toText_ascii address)
      exact (if_neg hinet6).trans hparse

theorem lawful_dual : dual.Lawful where
  isSpace_iff := lawful_ascii.isSpace_iff
  isWord_iff := lawful_ascii.isWord_iff
  digit_eq := lawful_ascii.digit_eq
  toLowerCase_eq := lawful_ascii.toLowerCase_eq
  equalsIgnoreCase_iff := lawful_ascii.equalsIgnoreCase_iff
  parseNumericAddress_getHostAddress _ address _ := parse_toText_dual address
  getHostAddress_plain _ address _ := by
    cases address with
    | some address => exact plain_toText address
    | none =>
        refine ⟨by decide, fun c hc => ?_⟩
        obtain rfl : c = ':' := by rcases List.mem_pair.mp hc with rfl | rfl <;> rfl
        have hlow : 45 ≤ ':'.toNat := by decide
        exact ascii_plain hlow
  uri_server := lawful_ascii.uri_server
  host_plain := lawful_ascii.host_plain

end Modvpn.Wireguard.Platform
