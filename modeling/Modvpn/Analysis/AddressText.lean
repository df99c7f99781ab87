/-
# Addresses read back from their text

What `Display` writes for an IPv4 address, alone or with a port, `FromStr` reads
back. The daemon stores addresses in this form.
-/

import Mathlib.Algebra.Group.Nat.Defs
import Modvpn.Types.Net

namespace Modvpn

/-! ## Decimal numbers -/

theorem digitValue_of_isDigit {c : Char} (h : c.isDigit = true) :
    digitValue 10 c = some (c.toNat - 48) := by
  simp only [Char.isDigit, Bool.and_eq_true, decide_eq_true_eq] at h
  have hlow : '0' ≤ c := h.1
  have hhigh : c ≤ '9' := h.2
  have hvalue : c.toNat - 48 < 10 := by
    have hbound : c.toNat ≤ 57 := hhigh
    omega
  simp [digitValue, hlow, hhigh, hvalue]

theorem isDigit_of_mem_toDigits {n : Nat} {c : Char} (h : c ∈ Nat.toDigits 10 n) :
    c.isDigit = true :=
  Nat.isDigit_of_mem_toDigits (by decide) (by decide) h

theorem eq_zero_of_digitChar : ∀ n < 10, Nat.digitChar n = '0' → n = 0 := by decide

/-- Only zero is written with a zero in front. -/
theorem eq_zero_of_head_toDigits {n : Nat} (h : (Nat.toDigits 10 n).head? = some '0') :
    n = 0 := by
  induction n using Nat.strongRecOn with
  | ind n ih =>
      by_cases hn : n < 10
      · rw [Nat.toDigits_of_lt_base hn] at h
        exact eq_zero_of_digitChar n hn (by simpa using h)
      · have hrest : n / 10 = 0 := by
          refine ih (n / 10) (by omega) ?_
          rwa [Nat.toDigits_of_base_le (by decide) (by omega),
            List.head?_append_of_ne_nil _ Nat.toDigits_ne_nil] at h
        omega

/-- What follows a number does not continue it. -/
def Stops (rest : List Char) : Prop := ∀ c ∈ rest.head?, digitValue 10 c = none

theorem takeWhile_toDigits {n : Nat} {rest : List Char} (hrest : Stops rest) :
    (Nat.toDigits 10 n ++ rest).takeWhile (fun c => (digitValue 10 c).isSome) =
      Nat.toDigits 10 n := by
  rw [List.takeWhile_append_of_pos fun c hc => by
    simp [digitValue_of_isDigit (isDigit_of_mem_toDigits hc)]]
  cases rest with
  | nil => simp
  | cons c rest => simp [hrest c (by simp)]

theorem foldl_digitValue {digits : List Char} (hdigits : ∀ c ∈ digits, c.isDigit = true)
    (sum : Nat) :
    (digits.filterMap (digitValue 10)).foldl (fun sum d => sum * 10 + d) sum =
      Nat.ofDigitChars 10 digits sum := by
  induction digits generalizing sum with
  | nil => simp
  | cons c digits ih =>
      rw [List.filterMap_cons_some (digitValue_of_isDigit (hdigits c (List.mem_cons_self ..)))]
      rw [List.foldl_cons, ih fun other hother => hdigits other (List.mem_cons_of_mem _ hother)]
      rw [Nat.ofDigitChars_cons, Nat.mul_comm]
      rfl

theorem readNumber_toDigits (maxDigits : Option Nat) (allowZeroPrefix : Bool) {bound n : Nat}
    {rest : List Char} (hbound : n < bound)
    (hdigits : ∀ limit ∈ maxDigits, 0 < limit ∧ n < 10 ^ limit) (hrest : Stops rest) :
    readNumber 10 maxDigits allowZeroPrefix bound (Nat.toDigits 10 n ++ rest) =
      some (n, rest) := by
  have hvalue : ((Nat.toDigits 10 n).filterMap (digitValue 10)).foldl
      (fun sum d => sum * 10 + d) 0 = n := by
    rw [foldl_digitValue fun c hc => isDigit_of_mem_toDigits hc, Nat.ofDigitChars_ten_toDigits]
  have hlength : ¬ maxDigits.any (· < (Nat.toDigits 10 n).length) = true := by
    cases maxDigits with
    | none => simp
    | some limit =>
        obtain ⟨hlimit, hn⟩ := hdigits limit rfl
        simpa using (Nat.length_toDigits_le_iff (by decide) hlimit).mpr hn
  have hzero : ¬ ((Nat.toDigits 10 n).head? = some '0' ∧ 1 < (Nat.toDigits 10 n).length) := by
    rintro ⟨hhead, hmore⟩
    rw [eq_zero_of_head_toDigits hhead] at hmore
    simp at hmore
  have hsome : (Nat.toDigits 10 n).length ≠ 0 := by simp
  simp only [readNumber, takeWhile_toDigits hrest, hvalue]
  rw [if_neg, List.drop_left]
  rintro (hnone | hlong | hlarge | ⟨-, hprefix⟩)
  · exact hsome hnone
  · exact hlength hlong
  · omega
  · exact hzero hprefix

/-! ## Addresses -/

theorem stops_cons {c : Char} {rest : List Char} (h : digitValue 10 c = none) :
    Stops (c :: rest) := by
  simpa [Stops] using h

theorem stops_nil : Stops [] := nofun

namespace Ipv4Addr

theorem toList_toText (ip : Ipv4Addr) : ip.toText.toList =
    Nat.toDigits 10 ip.first.toNat ++ '.' :: (Nat.toDigits 10 ip.second.toNat ++ '.' ::
      (Nat.toDigits 10 ip.third.toNat ++ '.' :: Nat.toDigits 10 ip.fourth.toNat)) := by
  simp [toText, digitsText]

theorem readIpv4Addr_toText (ip : Ipv4Addr) {rest : List Char} (hrest : Stops rest) :
    readIpv4Addr (ip.toText.toList ++ rest) = some (ip, rest) := by
  have hoctet (octet : UInt8) {rest : List Char} (hrest : Stops rest) :
      readNumber 10 (some 3) false 256 (Nat.toDigits 10 octet.toNat ++ rest) =
        some (octet.toNat, rest) := by
    have hbound := octet.toNat_lt
    exact readNumber_toDigits (some 3) false hbound (by simp; omega) hrest
  have hdot {rest : List Char} : Stops ('.' :: rest) := stops_cons (by decide)
  simp [toList_toText, readIpv4Addr, hoctet, hdot, hrest, readGivenChar]

theorem utf8ByteSize_digits : ∀ n < 256, (digitsText 10 n).utf8ByteSize ≤ 3 := by
  decide +kernel

theorem utf8ByteSize_toText (ip : Ipv4Addr) : ip.toText.utf8ByteSize ≤ 15 := by
  have hoctet (octet : UInt8) := utf8ByteSize_digits octet.toNat octet.toNat_lt
  have hfirst := hoctet ip.first
  have hsecond := hoctet ip.second
  have hthird := hoctet ip.third
  have hfourth := hoctet ip.fourth
  have hdot : ".".utf8ByteSize = 1 := rfl
  simp [toText, hdot]
  omega

/-- An address is read back from its text. -/
theorem parse_toText (ip : Ipv4Addr) : parse ip.toText = some ip := by
  have hread := readIpv4Addr_toText ip stops_nil
  rw [List.append_nil] at hread
  simp [parse, hread, utf8ByteSize_toText ip]

end Ipv4Addr

/-- An address with a port is read back from its text. -/
theorem SocketAddr.parse_toText_v4 (ip : Ipv4Addr) (port : UInt16) :
    parse (toText (.v4 ip port)) = some (.v4 ip port) := by
  have hport : readNumber 10 none true 65536 (Nat.toDigits 10 port.toNat) =
      some (port.toNat, []) := by
    have hread := readNumber_toDigits none true port.toNat_lt nofun stops_nil
    rwa [List.append_nil] at hread
  have haddress : readIpv4Addr (ip.toText.toList ++ ':' :: Nat.toDigits 10 port.toNat) =
      some (ip, ':' :: Nat.toDigits 10 port.toNat) :=
    Ipv4Addr.readIpv4Addr_toText ip (stops_cons (by decide))
  have htext : (toText (.v4 ip port)).toList =
      ip.toText.toList ++ ':' :: Nat.toDigits 10 port.toNat := by
    simp [toText, digitsText]
  simp [parse, readV4, readPort, readGivenChar, htext, haddress, hport]

end Modvpn
