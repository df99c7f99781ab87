/-
# The home screen of the Android client

The home screen shows what its view model holds. The view model writes its guess when the
user acts, and what the service reports when that reaches it: an event is delivered on the
main looper and sets the state of `VPNManager`; a collector picks that state up, unless it
equals the one picked up last, and hands it on to the view model.

`disconnect` reads the state and writes it back later; the main thread does nothing else
in between, but the collector runs on another one.
-/

import Modvpn.Android.VPNSessionRepository
import Modvpn.Android.Phone

namespace Modvpn.Android

open Modvpn.Protocol

inductive VpnUiState
  | checking
  | disconnected
  | requesting (location : Location)
  | accepted (location : Location)
  | serverCreated (location : Location)
  | serverRunning (location : Location)
  | serverReady (location : Location)
  | connecting (location : Location)
  | connected (location : Location) (time : Nat)
  | disconnecting (location : Location)
  deriving DecidableEq

def VPNState.toVPNUiState : VPNState → VpnUiState
  | .disconnected => .disconnected
  | .requesting location => .requesting location
  | .accepted location => .accepted location
  | .serverCreated location => .serverCreated location
  | .serverRunning location => .serverRunning location
  | .serverReady location => .serverReady location
  | .connecting location => .connecting location
  | .connected location time => .connected location time
  | .disconnecting location => .disconnecting location

namespace VpnUiState

def transitionToDisconnecting : VpnUiState → Option VpnUiState
  | .disconnected | .checking => none
  | .requesting location | .accepted location | .serverCreated location
  | .serverRunning location | .serverReady location | .connecting location
  | .connected location _ | .disconnecting location => some (.disconnecting location)

end VpnUiState

/-- The flow of the client's manager. -/
structure VPNManager where
  vpnState : Option VPNState
  /-- What the collector picked up last. -/
  collected : Option VPNState
  /-- On its way to the view model. -/
  emitted : List VPNState
  deriving DecidableEq

structure HomeViewModel where
  vpnUiState : VpnUiState
  /-- Pressing connect has not led to a request or to a refusal by the user yet. -/
  askingPermission : Bool
  /-- What `disconnect` has read and will write. -/
  disconnecting : Option (Option VpnUiState)
  deriving DecidableEq

namespace HomeViewModel

def new : HomeViewModel where
  vpnUiState := .checking
  askingPermission := false
  disconnecting := none

def connectPreVpnPermission (selectedLocation : Option Location) (viewModel : HomeViewModel) :
    HomeViewModel :=
  { viewModel with
    vpnUiState := match selectedLocation with
      | some location => .requesting location
      | none => viewModel.vpnUiState
    askingPermission := true }

/-- Also what is asked of the service. -/
def connectPostVpnPermission (granted : Bool) (selectedLocation : Option Location)
    (viewModel : HomeViewModel) : HomeViewModel × List Request :=
  let viewModel := { viewModel with askingPermission := false }
  if granted then (viewModel, (selectedLocation.map Request.connect).toList)
  else ({ viewModel with vpnUiState := .disconnected }, [])

/-- The first half of `disconnect`. -/
def readUiState (viewModel : HomeViewModel) : HomeViewModel :=
  { viewModel with disconnecting := some viewModel.vpnUiState.transitionToDisconnecting }

/-- The second half of `disconnect`. -/
def writeUiState (newVpnUiState : Option VpnUiState) (viewModel : HomeViewModel) :
    HomeViewModel :=
  { viewModel with
    vpnUiState := newVpnUiState.getD viewModel.vpnUiState
    disconnecting := none }

end HomeViewModel

/-- The home screen with the service it is bound to. -/
structure Home where
  viewModel : HomeViewModel
  vpnManager : VPNManager
  service : VPNService
  requests : List Request
  events : List Event
  deriving DecidableEq

inductive HomeLabel
  | connectPreVpnPermission (selectedLocation : Option Location)
  | connectPostVpnPermission (granted : Bool) (selectedLocation : Option Location)
  | readUiState
  | disconnect
  /-- The service handles the next request of the client. -/
  | serve (env : HandlerEnv)
  /-- The service handles something else. -/
  | handle (invocation : VPNOrchestrator.Invocation) (env : HandlerEnv)
  /-- The next event is delivered. -/
  | deliver
  /-- The collector picks up the state of the manager. -/
  | collect
  /-- The view model writes what was collected. -/
  | update

namespace Home

/-- The events for one client. -/
def mail (messenger : Messenger) (effects : List Effect) : List Event :=
  effects.filterMap fun
    | .sendEvent receiver event => if receiver = messenger then some event else none
    | _ => none

/-- A handler has returned. -/
def handled (messenger : Messenger) (service : VPNService) (home : Home) : Home :=
  { home with
    service
    requests := if .cleanupIPC ∈ service.effects then [] else home.requests
    events := home.events ++ mail messenger service.effects }

/-- The service stays bound, and this client its listener. -/
def concernsOthers (messenger : Messenger) (service : VPNService) :
    VPNOrchestrator.Invocation → Bool
  | .registerListener other => other ≠ messenger
  | .deregisterListener id => (id, messenger) ∉ service.listeners
  | .destroy => false
  | .connect _ | .disconnect | .connectResponse _ _ | .vpnSessionUpdate _ _ | .revoke => true

variable (wireGuard : WireGuard) (messenger : Messenger)

def invoke (env : HandlerEnv) (invocation : VPNOrchestrator.Invocation) (home : Home) :
    Option Home :=
  if env.reachable messenger && home.service.offers env then
    match VPNOrchestrator.handle env wireGuard { home.service with effects := [] } invocation with
    | .ok service => some (home.handled messenger service)
    | .error _ => none
  else none

/-- The next event is delivered to the manager. -/
def deliver (home : Home) : Option Home :=
  match home.events with
  | .vpnState vpnState :: events =>
      some { home with vpnManager := { home.vpnManager with vpnState := some vpnState }, events }
  | .listenerRegistered _ :: events | .vpnNotification _ :: events => some { home with events }
  | [] => none

/-- The collector skips what equals the state it picked up last. -/
def collect (home : Home) : Option Home :=
  match home.vpnManager.vpnState with
  | some vpnState =>
      if home.vpnManager.collected = some vpnState then none
      else
        some { home with vpnManager := { home.vpnManager with
          collected := some vpnState
          emitted := home.vpnManager.emitted ++ [vpnState] } }
  | none => none

def update (home : Home) : Option Home :=
  match home.vpnManager.emitted with
  | vpnState :: emitted =>
      some { home with
        viewModel := { home.viewModel with vpnUiState := vpnState.toVPNUiState }
        vpnManager := { home.vpnManager with emitted } }
  | [] => none

/-- What happens on the main thread of the client. -/
def onMainThread : HomeLabel → Bool
  | .connectPreVpnPermission _ | .connectPostVpnPermission _ _ | .readUiState | .deliver => true
  | .disconnect | .serve _ | .handle _ _ | .collect | .update => false

def act (home : Home) : HomeLabel → Option Home
  | .connectPreVpnPermission selectedLocation =>
      some { home with viewModel := home.viewModel.connectPreVpnPermission selectedLocation }
  | .connectPostVpnPermission granted selectedLocation =>
      let (viewModel, requests) :=
        home.viewModel.connectPostVpnPermission granted selectedLocation
      some { home with viewModel, requests := home.requests ++ requests }
  | .readUiState => some { home with viewModel := home.viewModel.readUiState }
  | .disconnect =>
      match home.viewModel.disconnecting with
      | some newVpnUiState =>
          some { home with
            viewModel := home.viewModel.writeUiState newVpnUiState
            requests := home.requests ++ [.disconnect] }
      | none => none
  | .serve env =>
      match home.requests with
      | request :: requests =>
          { home with requests }.invoke wireGuard messenger env
            (LooperMessage.request request).invocation
      | [] => none
  | .handle invocation env =>
      if concernsOthers messenger home.service invocation then
        home.invoke wireGuard messenger env invocation
      else none
  | .deliver => home.deliver
  | .collect => home.collect
  | .update => home.update

/-- The client is bound to a service that may have been running before. -/
def system : TransitionSystem Home HomeLabel where
  Init home := (VPNOrchestrator.system wireGuard).Reachable home.service ∧
    (∀ listener ∈ home.service.listeners, listener.2 ≠ messenger) ∧
    home.viewModel = .new ∧
    home.vpnManager = { vpnState := none, collected := none, emitted := [] } ∧
    home.requests = [.registerListener messenger] ∧ home.events = []
  step home label :=
    if home.viewModel.disconnecting.isSome && onMainThread label then none
    else home.act wireGuard messenger label

end Home

end Modvpn.Android
