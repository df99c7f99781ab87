/-
# The orchestrator of the Android service

The handlers of the orchestrator run one after another on the looper of the service.
Each reads and writes the orchestrator's state and the handle of the device tunnel, and
asks other parties for something: an event is sent to a listener, a session is begun or
ended, the coroutines of the session are cancelled, the service is to turn the tunnel on.
These effects are collected in the order in which they are asked for. A handler in which a
library throws does not return.

`tunnels` are the tunnels that are up in the WireGuard library. The library hands out a
fresh handle, or -1.
-/

import Modvpn.Android.VPNState
import Modvpn.Protocol.TransitionSystem

namespace Modvpn.Android

open Modvpn.Protocol

/-- A client's end of a channel. -/
abbrev Messenger := Nat

inductive Event
  | listenerRegistered (id : Nat)
  | vpnState (vpnState : VPNState)
  | vpnNotification (msg : String)
  deriving DecidableEq

/-- What a handler asks of other parties. -/
inductive Effect
  | sendEvent (messenger : Messenger) (event : Event)
  | startForeground (vpnState : VPNState)
  | stopService
  | cancelChildren
  | cleanupIPC
  | newVpnSession (requestId : Uuid) (location : Location)
  | endVpnSession (requestId : Uuid) (reason : String)
  /-- A call of the service's method. -/
  | turnOnVPN (config : Config)
  /-- The library is handed the settings of the configuration. -/
  | wgTurnOn (config : Config)
  deriving DecidableEq

/-- The service with its orchestrator. -/
structure VPNService where
  vpnOrchestratorState : VPNOrchestratorState
  /-- In the order in which they registered. -/
  listeners : List (Nat × Messenger)
  listenerId : Nat
  currentTunnelHandle : Int
  tunnels : List Int
  effects : List Effect
  deriving DecidableEq

/-- What the system answers while a handler runs. -/
structure HandlerEnv where
  /-- The permission is present at the first check, and at the second. -/
  prepared : Bool
  preparedAgain : Bool
  randomUuid : Uuid
  /-- The interface could be created. -/
  established : Bool
  tunnelHandle : Int
  elapsedRealtime : Nat
  /-- The process at the other end is alive. -/
  reachable : Messenger → Bool

namespace VPNService

def new : VPNService where
  vpnOrchestratorState := .disconnected
  listeners := []
  listenerId := 0
  currentTunnelHandle := -1
  tunnels := []
  effects := []

def ask (effect : Effect) (service : VPNService) : VPNService :=
  { service with effects := service.effects ++ [effect] }

/-- A handle that is not in use, or the error. -/
def offers (env : HandlerEnv) (service : VPNService) : Bool :=
  env.tunnelHandle = -1 || 0 ≤ env.tunnelHandle && env.tunnelHandle ∉ service.tunnels

/-- A handle that is in use is overwritten like any other. -/
def turnOnVPN (env : HandlerEnv) (config : Config) (service : VPNService) :
    Except String Unit × VPNService :=
  let service := service.ask (.turnOnVPN config)
  if !env.established then (.error "Failed to create VPN interface", service)
  else
    let service := service.ask (.wgTurnOn config)
    let service := { service with
      currentTunnelHandle := env.tunnelHandle
      tunnels := if 0 ≤ env.tunnelHandle then env.tunnelHandle :: service.tunnels
        else service.tunnels }
    if service.currentTunnelHandle < 0 then
      (.error s!"WireGuard activation error: {env.tunnelHandle}", service)
    else (.ok (), service)

def turnOffVPN (service : VPNService) : VPNService :=
  if service.currentTunnelHandle ≠ -1 then
    { service with
      tunnels := service.tunnels.erase service.currentTunnelHandle
      currentTunnelHandle := -1 }
  else service

end VPNService

namespace VPNOrchestrator

variable (env : HandlerEnv)

/-- Listeners that cannot be reached are dropped. -/
def dispatchEvent (event : Event) (service : VPNService) : VPNService :=
  let alive := service.listeners.filter fun listener => env.reachable listener.2
  { service with
    listeners := alive
    effects := service.effects ++ alive.map fun listener => .sendEvent listener.2 event }

def dispatchVpnNotification (msg : String) : VPNService → VPNService :=
  dispatchEvent env (.vpnNotification msg)

def updateStateAndNotifyClients (state : VPNOrchestratorState) (service : VPNService) :
    VPNService :=
  dispatchEvent env (.vpnState state.toVPNState)
    { service with vpnOrchestratorState := state }

def ifNoListenersAndDisconnectedThenStopService (service : VPNService) : VPNService :=
  if service.vpnOrchestratorState.isDisconnected && service.listeners.isEmpty then
    service.ask .stopService
  else service

def turnOffVPN (service : VPNService) : VPNService :=
  updateStateAndNotifyClients env .disconnected service.turnOffVPN

def onDisconnect (reason : String) (service : VPNService) : VPNService :=
  if service.vpnOrchestratorState.isDisconnected then service
  else
    let service := service.ask .cancelChildren
    let (newOrchestratorState, shouldTurnOff, requestId) :=
      service.vpnOrchestratorState.transitionOnDisconnect
    let service := updateStateAndNotifyClients env newOrchestratorState service
    let service := match requestId with
      | some requestId => service.ask (.endVpnSession requestId reason)
      | none => service
    let service := if shouldTurnOff then turnOffVPN env service else service
    ifNoListenersAndDisconnectedThenStopService service

def onConnect (location : Location) (service : VPNService) : VPNService :=
  if !service.vpnOrchestratorState.isDisconnected then
    dispatchVpnNotification env "VPN session is already in progress" service
  else if !env.prepared then dispatchVpnNotification env "No VPN permission" service
  else
    let service := service.ask (.startForeground service.vpnOrchestratorState.toVPNState)
    let service :=
      updateStateAndNotifyClients env (.requesting env.randomUuid location) service
    service.ask (.newVpnSession env.randomUuid location)

def onConnectResponse (location : Location) (result : Except String (Accepted × Interface))
    (service : VPNService) : VPNService :=
  if service.vpnOrchestratorState.isDisconnectingOrDisconnected then service
  else
    match result with
    | .ok (accepted, interFace) =>
        updateStateAndNotifyClients env (.accepted location accepted interFace) service
    | .error message =>
        updateStateAndNotifyClients env .disconnected
          (dispatchVpnNotification env message service)

/-- Whether the permission was missing. -/
def disconnectAndNotifyIfNoVPNPermission (prepared : Bool) (service : VPNService) :
    Bool × VPNService :=
  if !prepared then
    (true, onDisconnect env "no vpn perms" (dispatchVpnNotification env "No VPN permission" service))
  else (false, service)

def turnOnVPN (location : Location) (serverReady : ServerReady) (config : Config)
    (service : VPNService) : VPNService :=
  match disconnectAndNotifyIfNoVPNPermission env env.preparedAgain service with
  | (true, service) => service
  | (false, service) =>
      let service :=
        updateStateAndNotifyClients env (.connecting location serverReady config) service
      match service.turnOnVPN env config with
      | (.error message, service) =>
          onDisconnect env message (dispatchVpnNotification env message service)
      | (.ok (), service) =>
          updateStateAndNotifyClients env
            (.connected location env.elapsedRealtime serverReady config) service

def onVpnSessionUpdate (wireGuard : WireGuard) (location : Location) (status : VpnSessionStatus)
    (service : VPNService) : Except String VPNService :=
  if service.vpnOrchestratorState.isDisconnectingOrDisconnected then .ok service
  else
    let service :=
      if status.isFailed then
        dispatchVpnNotification env "Can't provision server. Please try again." service
      else service
    match disconnectAndNotifyIfNoVPNPermission env env.prepared service with
    | (true, service) => .ok service
    | (false, service) =>
        match service.vpnOrchestratorState.newStateFromUpdate wireGuard location status with
        | .error thrown => .error thrown
        | .ok none => .ok service
        | .ok (some newOrchestratorState) =>
            let service := updateStateAndNotifyClients env newOrchestratorState service
            match newOrchestratorState with
            | .serverReady location content config =>
                .ok (turnOnVPN env location content config service)
            | _ => .ok service

def onDestroy (service : VPNService) : VPNService :=
  onDisconnect env "destroyed" (service.ask .cleanupIPC)

def onRevoke (service : VPNService) : VPNService :=
  onDisconnect env "revoked" (service.ask .cleanupIPC)

def onRegisterListener (listener : Messenger) (service : VPNService) : VPNService :=
  let id := service.listenerId + 1
  if env.reachable listener then
    { service with
      listenerId := id
      listeners := service.listeners ++ [(id, listener)]
      effects := service.effects ++
        [.sendEvent listener (.vpnState service.vpnOrchestratorState.toVPNState),
          .sendEvent listener (.listenerRegistered id)] }
  else { service with listenerId := id }

def onDeregisterListener (id : Nat) (service : VPNService) : VPNService :=
  ifNoListenersAndDisconnectedThenStopService
    { service with listeners := service.listeners.filter (·.1 ≠ id) }

/-- A call of a handler. -/
inductive Invocation
  | connect (location : Location)
  | disconnect
  | connectResponse (location : Location) (result : Except String (Accepted × Interface))
  | vpnSessionUpdate (location : Location) (status : VpnSessionStatus)
  | registerListener (listener : Messenger)
  | deregisterListener (id : Nat)
  | revoke
  | destroy
  deriving DecidableEq

def handle (wireGuard : WireGuard) (service : VPNService) :
    Invocation → Except String VPNService
  | .connect location => .ok (onConnect env location service)
  | .disconnect => .ok (onDisconnect env "user requested" service)
  | .connectResponse location result => .ok (onConnectResponse env location result service)
  | .vpnSessionUpdate location status => onVpnSessionUpdate env wireGuard location status service
  | .registerListener listener => .ok (onRegisterListener env listener service)
  | .deregisterListener id => .ok (onDeregisterListener id service)
  | .revoke => .ok (onRevoke env service)
  | .destroy => .ok (onDestroy env service)

/-- One handler after another. -/
def system (wireGuard : WireGuard) : TransitionSystem VPNService (Invocation × HandlerEnv) where
  Init service := service = .new
  step service label :=
    if service.offers label.2 then
      (handle label.2 wireGuard { service with effects := [] } label.1).toOption
    else none

end VPNOrchestrator

/-! ## A session at work -/

namespace Sample

/-- The library accepts everything. -/
def wireGuard : WireGuard where
  inetNetwork _ := true
  key _ := true
  inetEndpoint _ := true

def location : Location where
  code := "de_berlin"
  country := "Germany"
  countryCode := "de"
  city := "Berlin"
  cityCode := "ber"
  state := none
  stateCode := none
  estimate := none

def requestId : Uuid := .replicate 1

def vpnSessionUuid : Uuid := .replicate 2

/-- The permission is present, and the tunnel can be set up. -/
def granted : HandlerEnv where
  prepared := true
  preparedAgain := true
  randomUuid := requestId
  established := true
  tunnelHandle := 3
  elapsedRealtime := 0
  reachable _ := true

def interFace : Interface where
  address := "10.0.0.2"
  dnsServer := "1.1.1.1"
  privateKey := "key"
  mtu := 1280

def serverReady : ServerReady where
  requestId := requestId
  vpnSessionUuid := vpnSessionUuid
  publicKey := "key"
  ipv4Endpoint := "192.0.2.1:51820"
  privateIpv4 := ⟨10, 0, 0, 1⟩

end Sample

end Modvpn.Android
