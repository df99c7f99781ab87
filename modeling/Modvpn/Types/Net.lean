/-
# Internet addresses and their text

`Ipv4Addr`, `SocketAddr` and their `Display` and `FromStr` follow the standard
library: decimal octets without leading zeros, at most fifteen characters for an
IPv4 address, IPv6 groups with one `::` and an optional trailing IPv4 part, and
brackets around the address of a version 6 socket.

Readers take the remaining characters and return the value together with what
they left over, so that `FromStr` can insist that nothing is left.
-/

import Mathlib.Data.List.Basic

namespace Modvpn

/-- An IPv4 address as its four octets. -/
structure Ipv4Addr where
  first : UInt8
  second : UInt8
  third : UInt8
  fourth : UInt8
  deriving DecidableEq

/-- An IPv6 address as its eight 16-bit groups. -/
structure Ipv6Addr where
  segments : List UInt16
  length_segments : segments.length = 8
  deriving DecidableEq

/-- An address with a port; version 6 also carries a scope. -/
inductive SocketAddr
  | v4 (ip : Ipv4Addr) (port : UInt16)
  | v6 (ip : Ipv6Addr) (port : UInt16) (scopeId : UInt32)
  deriving DecidableEq

/-! ## Display -/

/-- Lower-case digits of a number without leading zeros. -/
def digitsText (radix value : Nat) : String := String.ofList (Nat.toDigits radix value)

namespace Ipv4Addr

def toText (ip : Ipv4Addr) : String :=
  ".".intercalate ([ip.first, ip.second, ip.third, ip.fourth].map fun octet =>
    digitsText 10 octet.toNat)

end Ipv4Addr

namespace Ipv6Addr

/-- Length of the run of zero groups at the head. -/
def zeroRun : List UInt16 → Nat
  | [] => 0
  | group :: rest => if group = 0 then zeroRun rest + 1 else 0

/-- Start and length of the first longest run of zero groups. -/
def longestZeroRun : Nat → List UInt16 → Nat × Nat
  | start, [] => (start, 0)
  | start, group :: rest =>
      let here := zeroRun (group :: rest)
      let later := longestZeroRun (start + 1) rest
      if later.2 ≤ here then (start, here) else later

def groupsText (groups : List UInt16) : String :=
  ":".intercalate (groups.map fun group => digitsText 16 group.toNat)

def toText (ip : Ipv6Addr) : String :=
  match ip.segments with
  | [0, 0, 0, 0, 0, 0xffff, high, low] =>
      "::ffff:" ++ (Ipv4Addr.mk (high / 256).toUInt8 high.toUInt8 (low / 256).toUInt8
        low.toUInt8).toText
  | groups =>
      let run := longestZeroRun 0 groups
      if 1 < run.2 then
        groupsText (groups.take run.1) ++ "::" ++ groupsText (groups.drop (run.1 + run.2))
      else groupsText groups

end Ipv6Addr

namespace SocketAddr

def toText : SocketAddr → String
  | .v4 ip port => ip.toText ++ ":" ++ digitsText 10 port.toNat
  | .v6 ip port scopeId =>
      let scope := if scopeId = 0 then "" else "%" ++ digitsText 10 scopeId.toNat
      "[" ++ ip.toText ++ scope ++ "]:" ++ digitsText 10 port.toNat

end SocketAddr

/-! ## FromStr -/

/-- `char::to_digit`. -/
def digitValue (radix : Nat) (c : Char) : Option Nat :=
  let value :=
    if '0' ≤ c ∧ c ≤ '9' then c.toNat - 48
    else if 'a' ≤ c ∧ c ≤ 'z' then c.toNat - 87
    else if 'A' ≤ c ∧ c ≤ 'Z' then c.toNat - 55
    else radix
  if value < radix then some value else none

/-- A number below `bound`. Too many digits, or a zero in front of others where
that is not allowed, is an error and not a shorter number. -/
def readNumber (radix : Nat) (maxDigits : Option Nat) (allowZeroPrefix : Bool)
    (bound : Nat) (chars : List Char) : Option (Nat × List Char) :=
  let digits := chars.takeWhile fun c => (digitValue radix c).isSome
  let value := (digits.filterMap (digitValue radix)).foldl (fun sum d => sum * radix + d) 0
  if digits.length = 0 ∨ maxDigits.any (· < digits.length) ∨ bound ≤ value ∨
      (allowZeroPrefix = false ∧ digits.head? = some '0' ∧ 1 < digits.length) then none
  else some (value, chars.drop digits.length)

/-- One expected character. -/
def readGivenChar (expected : Char) : List Char → Option (List Char)
  | [] => none
  | c :: rest => if c = expected then some rest else none

def readIpv4Addr (chars : List Char) : Option (Ipv4Addr × List Char) := do
  let octet := readNumber 10 (some 3) false 256
  let (first, rest) ← octet chars
  let (second, rest) ← octet (← readGivenChar '.' rest)
  let (third, rest) ← octet (← readGivenChar '.' rest)
  let (fourth, rest) ← octet (← readGivenChar '.' rest)
  return (⟨.ofNat first, .ofNat second, .ofNat third, .ofNat fourth⟩, rest)

/-- Up to `limit` groups separated by colons, the last two of which may be
written as an IPv4 address; the flag tells whether they were. The separator is
read before every group but the first. -/
def readGroups : Nat → Bool → List Char → List UInt16 × Bool × List Char
  | 0, _, chars => ([], false, chars)
  | limit + 1, isFirst, chars =>
      let separated := if isFirst then some chars else readGivenChar ':' chars
      match if 0 < limit then separated.bind readIpv4Addr else none with
      | some (ip, rest) =>
          ([.ofNat (ip.first.toNat * 256 + ip.second.toNat),
            .ofNat (ip.third.toNat * 256 + ip.fourth.toNat)], true, rest)
      | none =>
          match separated.bind (readNumber 16 (some 4) true 65536) with
          | none => ([], false, chars)
          | some (group, rest) =>
              let later := readGroups limit false rest
              (.ofNat group :: later.1, later.2)

def readIpv6Addr (chars : List Char) : Option (Ipv6Addr × List Char) :=
  let (head, headIpv4, rest) := readGroups 8 true chars
  if length_segments : head.length = 8 then some (⟨head, length_segments⟩, rest)
  else if headIpv4 then none
  else
    match (readGivenChar ':' rest).bind (readGivenChar ':') with
    | none => none
    | some rest =>
        let (tail, _, rest) := readGroups (8 - (head.length + 1)) true rest
        let segments := head ++ List.replicate (8 - head.length - tail.length) 0 ++ tail
        if length_segments : segments.length = 8 then
          some (⟨segments, length_segments⟩, rest)
        else none

namespace Ipv4Addr

/-- `Ipv4Addr::from_str`. -/
def parse (text : String) : Option Ipv4Addr :=
  if 15 < text.utf8ByteSize then none
  else
    match readIpv4Addr text.toList with
    | some (ip, []) => some ip
    | _ => none

end Ipv4Addr

namespace SocketAddr

/-- A colon and a port. -/
def readPort (chars : List Char) : Option (UInt16 × List Char) := do
  let (port, rest) ← readNumber 10 none true 65536 (← readGivenChar ':' chars)
  return (.ofNat port, rest)

def readV4 (chars : List Char) : Option (SocketAddr × List Char) := do
  let (ip, rest) ← readIpv4Addr chars
  let (port, rest) ← readPort rest
  return (.v4 ip port, rest)

def readV6 (chars : List Char) : Option (SocketAddr × List Char) := do
  let (ip, rest) ← readIpv6Addr (← readGivenChar '[' chars)
  let (scopeId, rest) :=
    match (readGivenChar '%' rest).bind (readNumber 10 none true 4294967296) with
    | some (scopeId, rest) => (scopeId, rest)
    | none => (0, rest)
  let (port, rest) ← readPort (← readGivenChar ']' rest)
  return (.v6 ip port (.ofNat scopeId), rest)

/-- `SocketAddr::from_str`. -/
def parse (text : String) : Option SocketAddr :=
  match (readV4 text.toList).orElse fun _ => readV6 text.toList with
  | some (address, []) => some address
  | _ => none

end SocketAddr

example : SocketAddr.parse "10.1.2.3:51820" =
    some (.v4 ⟨10, 1, 2, 3⟩ 51820) := by decide +kernel

example : (SocketAddr.parse "[2001:db8::1]:443").map SocketAddr.toText =
    some "[2001:db8::1]:443" := by decide +kernel

example : Ipv4Addr.parse "10.01.2.3" = none := by decide +kernel

end Modvpn
