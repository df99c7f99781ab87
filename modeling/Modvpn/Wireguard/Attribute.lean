/-
# Attributes and the values they are read as

A line of a configuration is a key and a value, and a value may be a list. Addresses,
networks and endpoints are read from the text of a value and written back to text.
Every exception says where in the configuration the text stood that it is about.
-/

import Modvpn.Wireguard.Key
import Modvpn.Wireguard.Platform

namespace Modvpn.Wireguard

open Java

/-! ## Exceptions -/

inductive ParsingClass
  | integer
  | inetAddress
  | inetEndpoint
  | inetNetwork
  deriving DecidableEq

structure ParseException where
  parsingClass : ParsingClass
  text : String
  message : Option String
  deriving DecidableEq

namespace BadConfigException

inductive Section
  | config
  | interface
  | peer
  deriving DecidableEq

inductive Location
  | topLevel
  | address
  | allowedIps
  | dns
  | endpoint
  | excludedApplications
  | includedApplications
  | listenPort
  | mtu
  | persistentKeepalive
  | preSharedKey
  | privateKey
  | publicKey
  deriving DecidableEq

def Location.getName : Location → String
  | .topLevel => ""
  | .address => "Address"
  | .allowedIps => "AllowedIPs"
  | .dns => "DNS"
  | .endpoint => "Endpoint"
  | .excludedApplications => "ExcludedApplications"
  | .includedApplications => "IncludedApplications"
  | .listenPort => "ListenPort"
  | .mtu => "MTU"
  | .persistentKeepalive => "PersistentKeepalive"
  | .preSharedKey => "PresharedKey"
  | .privateKey => "PrivateKey"
  | .publicKey => "PublicKey"

inductive Reason
  | invalidKey
  | invalidNumber
  | invalidValue
  | missingAttribute
  | missingSection
  | syntaxError
  | unknownAttribute
  | unknownSection
  deriving DecidableEq

end BadConfigException

structure BadConfigException where
  inSection : BadConfigException.Section
  location : BadConfigException.Location
  reason : BadConfigException.Reason
  text : Option String
  deriving DecidableEq

namespace BadConfigException

/-- For a value that could not be parsed. -/
def ofParse (inSection : Section) (location : Location) (cause : ParseException) :
    BadConfigException :=
  { inSection, location, reason := .invalidValue, text := some cause.text }

/-- For a number that could not be parsed. -/
def ofNumberFormat (inSection : Section) (location : Location) (text : String) :
    BadConfigException :=
  { inSection, location, reason := .invalidNumber, text := some text }

/-- For a key that could not be decoded. -/
def ofKeyFormat (inSection : Section) (location : Location) (_cause : KeyFormatException) :
    BadConfigException :=
  { inSection, location, reason := .invalidKey, text := none }

end BadConfigException

variable (platform : Platform)

/-! ## Attributes -/

structure Attribute where
  key : String
  value : String
  deriving DecidableEq

namespace Attribute

def join (values : List String) : String := ", ".intercalate values

/-- A line that is a word, an equals sign and a value without a comment. -/
def parse (line : String) : Option Attribute :=
  let key := line.toList.takeWhile platform.isWord
  match (line.toList.dropWhile platform.isWord).dropWhile platform.isSpace with
  | '=' :: rest =>
      let value := rest.dropWhile platform.isSpace
      if key.isEmpty || value.isEmpty || value.any (· = '#') then none
      else some { key := String.ofList key, value := String.ofList value }
  | _ => none

/-- The space around the separators goes with them. -/
def strip : Bool → List (List Char) → List (List Char)
  | _, [] => []
  | isFirst, piece :: rest =>
      let piece := if isFirst then piece else piece.dropWhile platform.isSpace
      let piece := if rest.isEmpty then piece else piece.rdropWhile platform.isSpace
      piece :: strip false rest

/-- Empty pieces at the end are not returned, unless there is no separator. -/
def split (value : String) : List String :=
  match value.toList.splitOn ',' with
  | [_] => [value]
  | pieces => ((strip platform true pieces).rdropWhile List.isEmpty).map String.ofList

end Attribute

/-! ## Addresses -/

namespace InetAddresses

/-- One label of a name: up to 63 letters, digits and hyphens, without a hyphen at either
end. -/
def isLabel (label : List Char) : Bool :=
  label.head?.any Char.isAlphanum && label.getLast?.any Char.isAlphanum && label.length ≤ 63 &&
    label.all fun c => c.isAlphanum || c = '-'

/-- A name may end in a dot. -/
def isHostname (maybeHostname : String) : Bool :=
  let labels := maybeHostname.toList.splitOn '.'
  let labels := if 1 < labels.length ∧ labels.getLast? = some [] then labels.dropLast else labels
  maybeHostname.toList.length ≤ 255 && labels.all isLabel

def parse (address : String) : Except ParseException platform.Address :=
  if address = "" then .error ⟨.inetAddress, address, some "Empty address"⟩
  else
    match platform.parseNumericAddress address with
    | some result => .ok result
    | none => .error ⟨.inetAddress, address, none⟩

end InetAddresses

structure InetNetwork where
  address : platform.Address
  mask : Int

namespace InetNetwork

instance : BEq (InetNetwork platform) where
  beq network other := network.address == other.address && network.mask == other.mask

variable {platform} in
def toString (network : InetNetwork platform) : String :=
  platform.getHostAddress network.address ++ "/" ++ valueOf network.mask

/-- The text before the last slash, the text after it, and the number that it is. Without a
slash the number is negative. -/
def parts (network : String) : Except ParseException (String × String × Int) :=
  if '/' ∈ network.toList then
    let maskString := String.ofList (network.toList.rtakeWhile (· ≠ '/'))
    match parseInt platform maskString with
    | none => .error ⟨.integer, maskString, none⟩
    | some rawMask =>
        .ok (String.ofList (network.toList.rdropWhile (· ≠ '/')).dropLast, maskString, rawMask)
  else .ok (network, "", -1)

/-- The mask of a single address. -/
def maxMask (address : platform.Address) : Int := if platform.isInet4 address then 32 else 128

/-- A negative number stands for the mask of a single address. -/
def parse (network : String) : Except ParseException (InetNetwork platform) :=
  match parts platform network with
  | .error e => .error e
  | .ok (rawAddress, maskString, rawMask) =>
      match InetAddresses.parse platform rawAddress with
      | .error e => .error e
      | .ok address =>
          if maxMask platform address < rawMask then
            .error ⟨.inetNetwork, maskString, some "Invalid network mask"⟩
          else .ok { address, mask := if 0 ≤ rawMask then rawMask else maxMask platform address }

end InetNetwork

/-! ## Endpoints -/

structure InetEndpoint where
  host : String
  isResolved : Bool
  port : Int
  deriving DecidableEq

namespace InetEndpoint

/-- A host without brackets but with a colon. -/
def isBareIpv6 (host : String) : Bool :=
  host.toList.any (· = ':') && host.toList.all fun c => c ≠ '[' && c ≠ ']'

def parse (endpoint : String) : Except ParseException InetEndpoint :=
  if endpoint.toList.any fun c => c = '/' || c = '?' || c = '#' then
    .error ⟨.inetEndpoint, endpoint, some "Forbidden characters"⟩
  else
    match platform.uri ("wg://" ++ endpoint) with
    | none => .error ⟨.inetEndpoint, endpoint, none⟩
    | some .registry => .error ⟨.inetEndpoint, endpoint, some "Missing/invalid port number"⟩
    | some (.server host port) =>
        if port < 0 ∨ 65535 < port then
          .error ⟨.inetEndpoint, endpoint, some "Missing/invalid port number"⟩
        else
          match InetAddresses.parse platform host with
          | .ok _ => .ok { host, isResolved := true, port }
          | .error _ => .ok { host, isResolved := false, port }

/-- The address of version 4 that comes first, or else the first address. -/
def prefer (candidates : List platform.Address) : Option platform.Address :=
  (candidates.find? platform.isInet4).or candidates.head?

/-- The endpoint with its host looked up, where `getAllByName` finds no address for a host that is
unknown. -/
def getResolved (getAllByName : String → List platform.Address) (endpoint : InetEndpoint) :
    Option InetEndpoint :=
  if endpoint.isResolved then some endpoint
  else
    (prefer platform (getAllByName endpoint.host)).map fun address =>
      { host := platform.getHostAddress address, isResolved := true, port := endpoint.port }

def toString (endpoint : InetEndpoint) : String :=
  let isBareIpv6 := endpoint.isResolved && isBareIpv6 endpoint.host
  (if isBareIpv6 then "[" ++ endpoint.host ++ "]" else endpoint.host) ++ ":" ++
    valueOf endpoint.port

end InetEndpoint

end Modvpn.Wireguard
