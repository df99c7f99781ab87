/-
# What the configuration of WireGuard takes from its platform

The classes of characters in a pattern, digits and letter case go by Unicode, network
addresses and URIs are parsed by the platform, and addresses have an `equals` of their
own. All of it is a parameter. What the configuration relies on is its documented
behaviour on plain text, and that the texts of an address and of a server are read
back.
-/

import Modvpn.Types.Net
import Modvpn.Wireguard.Java
import Mathlib.Data.List.DropRight

namespace Modvpn.Wireguard

/-- The authority of a URI names a server, or is left as it is. -/
inductive Authority
  | server (host : String) (port : Int)
  | registry
  deriving DecidableEq

structure Platform where
  /-- `\w` in a pattern. -/
  isWord : Char → Bool
  /-- `\s` in a pattern. -/
  isSpace : Char → Bool
  /-- `Character.digit` in base ten. -/
  digit : Char → Option Nat
  toLowerCase : String → String
  equalsIgnoreCase : String → String → Bool
  /-- `InetAddress`. -/
  Address : Type
  /-- Its `equals`, which does not look at the scope of an address. -/
  sameAddress : Address → Address → Bool
  isInet4 : Address → Bool
  getHostAddress : Address → String
  parseNumericAddress : String → Option Address
  /-- `new URI`, where the URI has an authority. -/
  uri : String → Option Authority

namespace Platform

instance (platform : Platform) : BEq platform.Address := ⟨platform.sameAddress⟩

/-- Printable, and with no meaning of its own in a configuration file. -/
def Plain (platform : Platform) (c : Char) : Prop :=
  platform.isSpace c = false ∧ 32 < c.toNat ∧ c ≠ ',' ∧ c ≠ '#'

structure Lawful (platform : Platform) : Prop where
  isSpace_iff : ∀ c : Char, c.toNat < 128 →
    (platform.isSpace c = true ↔ c = ' ' ∨ 9 ≤ c.toNat ∧ c.toNat ≤ 13)
  isWord_iff : ∀ c : Char, c.toNat < 128 →
    (platform.isWord c = true ↔ c.isAlphanum = true ∨ c = '_')
  digit_eq : ∀ c : Char, c.isDigit = true → platform.digit c = some (c.toNat - 48)
  toLowerCase_eq : ∀ text : String, (∀ c ∈ text.toList, c.toNat < 128) →
    platform.toLowerCase text = text.toLower
  equalsIgnoreCase_iff : ∀ text other : String, (∀ c ∈ text.toList, c.toNat < 128) →
    (∀ c ∈ other.toList, c.toNat < 128) →
    (platform.equalsIgnoreCase text other = true ↔ text.toLower = other.toLower)
  /-- The text of an address is numeric, and read as that address. -/
  parseNumericAddress_getHostAddress : ∀ text address,
    platform.parseNumericAddress text = some address →
    platform.parseNumericAddress (platform.getHostAddress address) = some address
  getHostAddress_plain : ∀ text address, platform.parseNumericAddress text = some address →
    platform.getHostAddress address ≠ "" ∧
      ∀ c ∈ (platform.getHostAddress address).toList, platform.Plain c
  /-- The host and the port of a server are all that makes it. -/
  uri_server : ∀ endpoint host port, platform.uri ("wg://" ++ endpoint) = some (.server host port) →
    0 ≤ port → platform.uri ("wg://" ++ (host ++ ":" ++ digitsText 10 port.toNat)) =
      some (.server host port)
  /-- An address of version 6 is in brackets there. -/
  host_plain : ∀ endpoint host port, platform.uri ("wg://" ++ endpoint) = some (.server host port) →
    host ≠ "" ∧ (':' ∈ host.toList → '[' ∈ host.toList) ∧
      ∀ c ∈ host.toList, platform.Plain c ∧ c ≠ '/' ∧ c ≠ '?'

end Platform

namespace Java

/-- `String.valueOf` of an `int`. -/
def valueOf : Int → String
  | .ofNat n => digitsText 10 n
  | .negSucc n => "-" ++ digitsText 10 (n + 1)

/-- Whether there is a minus sign, and what follows the sign. -/
def sign : List Char → Bool × List Char
  | '-' :: rest => (true, rest)
  | '+' :: rest => (false, rest)
  | chars => (false, chars)

/-- `Integer.parseInt`, or none where it throws. -/
def parseInt (platform : Platform) (text : String) : Option Int :=
  let signed := sign text.toList
  if signed.2.isEmpty then none
  else do
    let values ← signed.2.mapM platform.digit
    let magnitude : Nat := values.foldl (fun sum d => sum * 10 + d) 0
    let value : Int := if signed.1 then -(magnitude : Int) else magnitude
    if -2147483648 ≤ value ∧ value ≤ 2147483647 then some value else none

/-- `String.trim` removes everything up to the space. -/
def trim (chars : List Char) : List Char :=
  (chars.dropWhile fun c => c.toNat ≤ 32).rdropWhile fun c => c.toNat ≤ 32

/-- The lines that `BufferedReader.readLine` returns, where `line` has been read of the first. -/
def readLines : List Char → List Char → List (List Char)
  | line, [] => if line.isEmpty then [] else [line]
  | line, '\n' :: rest => line :: readLines [] rest
  | line, '\r' :: '\n' :: rest => line :: readLines [] rest
  | line, '\r' :: rest => line :: readLines [] rest
  | line, c :: rest => readLines (line ++ [c]) rest

end Java

/-- A set in the order of insertion. -/
structure LinkedHashSet (α : Type) [BEq α] where
  elements : List α
  distinct : elements.Pairwise fun x y => (y == x) = false

namespace LinkedHashSet

variable {α : Type} [BEq α]

def empty : LinkedHashSet α := ⟨[], .nil⟩

/-- An element that is there already stays. -/
def add (set : LinkedHashSet α) (x : α) : LinkedHashSet α :=
  if h : set.elements.any (x == ·) then set
  else
    { elements := set.elements ++ [x]
      distinct := by
        rw [List.pairwise_append]
        refine ⟨set.distinct, List.pairwise_singleton _ _, ?_⟩
        intro y hy z hz
        obtain rfl := List.mem_singleton.mp hz
        simpa using fun heq => h (List.any_eq_true.mpr ⟨y, hy, heq⟩) }

def addAll (set : LinkedHashSet α) (xs : List α) : LinkedHashSet α := xs.foldl add set

def isEmpty (set : LinkedHashSet α) : Bool := set.elements.isEmpty

end LinkedHashSet

end Modvpn.Wireguard
