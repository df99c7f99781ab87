/-
# The device, its token, and the service that signs in and out

The device row holds the private key the tunnel is built with and the address
the server assigned. Signing out deletes the row and creates a new one; signing
in keeps it. Decoding the JSON that wraps the key and parsing a timestamp are
third-party code and stay parameters.
-/

import Modvpn.Daemon.World

namespace Modvpn

/-- Third-party readers and writers of stored text. -/
structure Codecs where
  /-- `serde_json::from_value` on the private key and the address, if any. -/
  wireguardMeta : String → Option String → Except String WireguardMetadata
  /-- `DateTime<Utc>::from_str`. -/
  createdAt : String → Except String DateTimeUtc
  /-- `DateTime::to_rfc3339`. -/
  createdAtText : DateTimeUtc → String
  /-- `PrivateKey::to_base64`. -/
  privateKeyText : Key → String
  /-- `PublicKey::from_base64`. -/
  publicKey : String → Except String Key

/-- `From<DeviceType> for String`. -/
def DeviceType.toText : DeviceType → String
  | .linux => "linux"
  | .macOS => "macos"
  | .windows => "windows"
  | .ios => "ios"
  | .android => "android"

/-- `TryFrom<&str> for DeviceType`. -/
def DeviceType.tryFrom (value : String) : Except String DeviceType :=
  match value.toLower with
  | "linux" => .ok .linux
  | "macos" => .ok .macOS
  | "windows" => .ok .windows
  | "android" => .ok .android
  | "ios" => .ok .ios
  | val => .error ("invalid device type: " ++ val)

/-- `TryFrom<Device> for DeviceDetails`. -/
def DeviceDetails.tryFrom (codecs : Codecs) (value : Entity.Device) :
    Except String DeviceDetails := do
  let wireguardMeta ← (codecs.wireguardMeta value.privateKey value.ipv4Address).mapError
    fun e => "failed to read wireguard meta from db: " ++ e
  let uniqueId ← match Uuid.parseStr value.uniqueId with
    | some uniqueId => .ok uniqueId
    | none => .error "invalid unique id"
  let deviceType ← DeviceType.tryFrom value.deviceType
  let createdAt ← (codecs.createdAt value.createdAt).mapError
    fun e => "cannot convert created_at for device: " ++ e
  return {
    name := value.name
    version := value.version
    arch := value.arch
    uniqueId
    deviceType
    wireguardMeta
    createdAt }

/-- `From<DeviceDetails> for Device`. -/
def Entity.Device.ofDetails (codecs : Codecs) (value : DeviceDetails) : Entity.Device where
  uniqueId := value.uniqueId.toText
  name := value.name
  version := value.version
  arch := value.arch
  deviceType := value.deviceType.toText
  privateKey := codecs.privateKeyText value.wireguardMeta.privateKey
  ipv4Address := value.wireguardMeta.deviceAddresses.map (·.ipv4Address.toText)
  createdAt := codecs.createdAtText value.createdAt

namespace DeviceStorage

variable (codecs : Codecs)

/-- The text of a database error inside another message. -/
def dbErrText : DbErr → String
  | .conn message | .exec message | .query message | .recordNotFound message
  | .custom message => message
  | .recordNotUpdated => "None of the records are updated"

def init : Fallible String DeviceDetails := do
  let device ← ExceptT.adapt (fun e => "unable to get device details: " ++ dbErrText e)
    (ExceptT.mk (perform .findDevice))
  if let some device := device then
    return ← ExceptT.mk (pure (DeviceDetails.tryFrom codecs device))
  let deviceDetails ← ExceptT.mk (perform .createNew)
  ExceptT.adapt (fun e => "failed to save device detail " ++ dbErrText e)
    (ExceptT.mk (perform (.insertDevice (Entity.Device.ofDetails codecs deviceDetails))))
  return deviceDetails

/-- The reason only goes into the log. -/
def reinitialize (_reason : String) : Fallible DbErr Unit := do
  ExceptT.mk (perform .deleteDevices)
  let _ ← ExceptT.lift (init codecs).run
  return ()

/-- Assumes that the device was initialized. -/
def getDeviceUniqueId : Fallible DbErr Uuid := do
  let id ← ExceptT.mk (perform .findDeviceUniqueId)
  Fallible.parsed (← Fallible.unwrap id)

def getDevice : Fallible DbErr (Option DeviceDetails) := do
  match ← ExceptT.mk (perform .findDevice) with
  | none => return none
  | some device =>
      let deviceDetails ← ExceptT.mk (pure ((DeviceDetails.tryFrom codecs device).mapError .custom))
      return some deviceDetails

def updateIpv4Address (uniqueId : Uuid) (ipv4Address : Ipv4Addr) :
    Fallible DbErr DeviceDetails := do
  match ← ExceptT.mk (perform (.findDeviceById uniqueId.toText)) with
  | none => throw (.recordNotFound ("device with unique id " ++ uniqueId.toText ++ " not found"))
  | some device =>
      let device ← ExceptT.mk (perform (.updateDeviceIpv4 device.uniqueId ipv4Address.toText))
      ExceptT.mk (pure ((DeviceDetails.tryFrom codecs device).mapError .custom))

end DeviceStorage

namespace TokenStorage

def getToken : Fallible DbErr (Option String) := do
  let token ← ExceptT.mk (perform .findToken)
  return token.map (·.token)

def saveToken (token : String) : Fallible DbErr Unit := do
  let newToken ← ExceptT.mk (perform (.insertToken token))
  ExceptT.mk (perform (.deleteTokensBelow newToken.id))

def removeAll : Fallible DbErr Unit :=
  ExceptT.mk (perform .deleteTokens)

end TokenStorage

namespace LocationStorage

def recentLimit : Nat := 2

def addRecent (location : Location) : Fallible DbErr Unit := do
  ExceptT.mk (perform (.deleteRecent location.code))
  ExceptT.mk (perform (.insertRecent location))
  ExceptT.mk (perform (.trimRecent recentLimit))

end LocationStorage

namespace DeviceService

variable (codecs : Codecs)

def handleSignInInner (userCreds : UserCredentials) : Fallible DeviceError Unit := do
  ExceptT.adapt .connection (ExceptT.mk (perform .connectServer))
  let _ ← ExceptT.adapt .initError (DeviceStorage.init codecs)
  let deviceDetails ← Fallible.unwrap
    (← ExceptT.adapt .dbErr (DeviceStorage.getDevice codecs))
  let addDeviceResponse ← ExceptT.adapt .server (ExceptT.mk (perform (.addDevice userCreds)))
  ExceptT.adapt .dbErr (TokenStorage.saveToken addDeviceResponse.token)
  let _ ← ExceptT.adapt .dbErr (DeviceStorage.updateIpv4Address codecs
    deviceDetails.uniqueId addDeviceResponse.deviceAddresses.ipv4Address)
  ExceptT.lift (perform (.writeServiceToken (some addDeviceResponse.token)))

def handleSignOutInner : Fallible DeviceError Unit := do
  ExceptT.adapt .connection (ExceptT.mk (perform .connectServer))
  let status ← ExceptT.lift (perform .signOut)
  -- any error other than unauthenticated leaves the device signed in
  if let .error status := status then
    if status.code ≠ .unauthenticated then
      throw (.server status)
  ExceptT.adapt .dbErr (DeviceStorage.reinitialize codecs "sign out")
  ExceptT.adapt .dbErr TokenStorage.removeAll
  ExceptT.lift (perform (.writeServiceToken none))

/-- Answer one command. The task that sent it only forwards the answer. -/
def handleMessage : DeviceCommand → Async Unit
  | .signIn userCreds => do
      let result ← (handleSignInInner codecs userCreds).run
      perform (.respond (.done (result.mapError .deviceError)))
  | .signOut => do
      let result ← (handleSignOutInner codecs).run
      perform (.respond (.done (result.mapError .deviceError)))

end DeviceService

end Modvpn
