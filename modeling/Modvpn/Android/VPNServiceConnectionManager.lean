/-
# The connection of the user interface to the service

Binding leads, some time later, to a client of its own with a messenger of its own, which
asks to be registered as a listener at once and learns its id from the answer. Unbinding
drops the client. The messages for a messenger are delivered in the order in which they
were sent, also to a client that was dropped; the order between two messengers is open.

The service goes on running: it is not destroyed, and its process is not killed. It has
other clients in other processes.
-/

import Modvpn.Android.HomeViewModel

namespace Modvpn.Android

open Modvpn.Protocol

structure VPNServiceClient where
  clientMessenger : Messenger
  listenerId : Option Nat
  deriving DecidableEq

structure VPNServiceConnectionManager where
  bindCalled : Bool
  vpnServiceClient : Option VPNServiceClient
  /-- The system has yet to call `onServiceConnected`. -/
  connecting : Bool
  deriving DecidableEq

namespace VPNServiceClient

/-- Deregisters if the id is known. -/
def cleanup (client : VPNServiceClient) : List Request :=
  match client.listenerId with
  | some id => [.deregisterListener id]
  | none => []

end VPNServiceClient

namespace VPNServiceConnectionManager

def new : VPNServiceConnectionManager where
  bindCalled := false
  vpnServiceClient := none
  connecting := false

def bind (manager : VPNServiceConnectionManager) : VPNServiceConnectionManager :=
  if !manager.bindCalled && manager.vpnServiceClient.isNone then
    { manager with connecting := true, bindCalled := true }
  else manager

/-- There is something to unbind from. -/
def isBound (manager : VPNServiceConnectionManager) : Bool :=
  manager.bindCalled || manager.vpnServiceClient.isSome

end VPNServiceConnectionManager

/-- The user interface and the service. -/
structure ServiceBinding where
  manager : VPNServiceConnectionManager
  service : VPNService
  requests : List Request
  events : List (Messenger × Event)
  /-- The messengers of all clients so far. -/
  messengers : List Messenger
  /-- The messengers of those that were unbound. -/
  unbound : List Messenger
  deriving DecidableEq

inductive BindingLabel
  | bind
  | onServiceConnected (messenger : Messenger)
  | unbind
  /-- The client asks to connect or to disconnect. -/
  | send (request : Request)
  /-- The service handles the next request. -/
  | serve (env : HandlerEnv)
  /-- The service handles something else. -/
  | handle (invocation : VPNOrchestrator.Invocation) (env : HandlerEnv)
  /-- The next event for this messenger is delivered. -/
  | deliver (messenger : Messenger)

namespace ServiceBinding

/-- The events, each with the messenger it is for. -/
def posted (effects : List Effect) : List (Messenger × Event) :=
  effects.filterMap fun
    | .sendEvent messenger event => some (messenger, event)
    | .startForeground _ | .stopService | .cancelChildren | .cleanupIPC | .newVpnSession _ _
    | .endVpnSession _ _ | .turnOnVPN _ | .wgTurnOn _ => none

/-- Nobody has used the messenger yet. -/
def isFresh (messenger : Messenger) (binding : ServiceBinding) : Bool :=
  messenger ∉ binding.messengers && binding.service.listeners.all (·.2 ≠ messenger) &&
    binding.events.all (·.1 ≠ messenger)

/-- The client's constructor registers it. -/
def onServiceConnected (messenger : Messenger) (binding : ServiceBinding) : ServiceBinding :=
  { binding with
    manager := { binding.manager with
      vpnServiceClient := some { clientMessenger := messenger, listenerId := none }
      connecting := false }
    requests := binding.requests ++ [.registerListener messenger]
    messengers := messenger :: binding.messengers }

def unbind (binding : ServiceBinding) : ServiceBinding :=
  if binding.manager.isBound then
    match binding.manager.vpnServiceClient with
    | some client =>
        { binding with
          manager := .new
          requests := binding.requests ++ client.cleanup
          unbound := client.clientMessenger :: binding.unbound }
    | none => { binding with manager := .new }
  else binding

/-- A client that was dropped may learn its id, too. -/
def deliver (messenger : Messenger) (binding : ServiceBinding) : Option ServiceBinding :=
  match binding.events.find? (·.1 = messenger) with
  | some (_, event) =>
      let vpnServiceClient := binding.manager.vpnServiceClient.map fun client =>
        match event with
        | .listenerRegistered id =>
            if client.clientMessenger = messenger then { client with listenerId := some id }
            else client
        | .vpnState _ | .vpnNotification _ => client
      some { binding with
        manager := { binding.manager with vpnServiceClient }
        events := binding.events.eraseP (·.1 = messenger) }
  | none => none

/-- A handler has returned. -/
def handled (service : VPNService) (binding : ServiceBinding) : ServiceBinding :=
  { binding with
    service
    requests := if .cleanupIPC ∈ service.effects then [] else binding.requests
    events := binding.events ++ posted service.effects }

/-- What is done for other clients, and by the system. -/
def concernsOthers (messengers : List Messenger) : VPNOrchestrator.Invocation → Bool
  | .registerListener other => other ∉ messengers
  | .destroy => false
  | .deregisterListener _ | .connect _ | .disconnect | .connectResponse _ _
  | .vpnSessionUpdate _ _ | .revoke => true

variable (wireGuard : WireGuard)

def invoke (env : HandlerEnv) (invocation : VPNOrchestrator.Invocation)
    (binding : ServiceBinding) : Option ServiceBinding :=
  if binding.messengers.all env.reachable && binding.service.offers env then
    match VPNOrchestrator.handle env wireGuard { binding.service with effects := [] }
      invocation with
    | .ok service => some (binding.handled service)
    | .error _ => none
  else none

def step (binding : ServiceBinding) : BindingLabel → Option ServiceBinding
  | .bind => some { binding with manager := binding.manager.bind }
  | .onServiceConnected messenger =>
      if binding.manager.connecting && binding.isFresh messenger then
        some (binding.onServiceConnected messenger)
      else none
  | .unbind => some binding.unbind
  | .send request =>
      match request with
      | .connect _ | .disconnect =>
          if binding.manager.vpnServiceClient.isSome then
            some { binding with requests := binding.requests ++ [request] }
          else none
      | .registerListener _ | .deregisterListener _ => none
  | .serve env =>
      match binding.requests with
      | request :: requests =>
          { binding with requests }.invoke wireGuard env (LooperMessage.request request).invocation
      | [] => none
  | .handle invocation env =>
      if concernsOthers binding.messengers invocation then
        binding.invoke wireGuard env invocation
      else none
  | .deliver messenger => binding.deliver messenger

/-- The service may have been running before. -/
def system : TransitionSystem ServiceBinding BindingLabel where
  Init binding := (VPNOrchestrator.system wireGuard).Reachable binding.service ∧
    binding.manager = .new ∧ binding.requests = [] ∧ binding.events = [] ∧
    binding.messengers = [] ∧ binding.unbound = []
  step := step wireGuard

end ServiceBinding

end Modvpn.Android
