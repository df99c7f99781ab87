/-
# The states an update passes through

An update may set several states before its handler returns. They are what a client is
told that is there all the time, and the state at the end does not depend on who listens.
Between two handlers the orchestrator never rests while it sets up a tunnel or takes one
down, so each update leads along one of a few passages.
-/

import Modvpn.Analysis.Android.Handling
import Modvpn.Analysis.Android.TunnelHandle
import Mathlib.Data.List.Chain

namespace Modvpn.Android

open Modvpn.Protocol

namespace VPNOrchestratorState

/-- A handler may leave the orchestrator in this state. -/
def isResting : VPNOrchestratorState → Bool
  | .serverReady _ _ _ | .connecting _ _ _ | .disconnecting _ => false
  | .disconnected | .requesting _ _ | .accepted _ _ _ | .serverCreated _ _ _
  | .serverRunning _ _ _ | .connected _ _ _ _ => true

/-- The server is not ready yet. -/
def isProvisioning : VPNOrchestratorState → Bool
  | .requesting _ _ | .accepted _ _ _ | .serverCreated _ _ _ | .serverRunning _ _ _ => true
  | .disconnected | .serverReady _ _ _ | .connecting _ _ _ | .connected _ _ _ _
  | .disconnecting _ => false

end VPNOrchestratorState

/-- The session is being left, or is over. -/
def VPNState.isGone : VPNState → Bool
  | .disconnecting _ | .disconnected => true
  | .requesting _ | .accepted _ | .serverCreated _ | .serverRunning _ | .serverReady _
  | .connecting _ | .connected _ _ => false

namespace VPNOrchestrator

/-- The states among what the clients are told. -/
def told (effects : List Effect) : List VPNState :=
  effects.filterMap fun
    | .sendEvent _ (.vpnState vpnState) => some vpnState
    | _ => none

@[simp]
theorem told_append (effects more : List Effect) :
    told (effects ++ more) = told effects ++ told more :=
  List.filterMap_append

@[simp]
theorem told_nil : told [] = [] := rfl

@[simp]
theorem told_vpnState (messenger : Messenger) (vpnState : VPNState) :
    told [.sendEvent messenger (.vpnState vpnState)] = [vpnState] := rfl

@[simp]
theorem told_vpnNotification (messenger : Messenger) (msg : String) :
    told [.sendEvent messenger (.vpnNotification msg)] = [] := rfl

/-- The calls of `VPNService.turnOnVPN` among what was asked for, with their arguments. -/
def turnOnCalls (effects : List Effect) : List Config :=
  effects.filterMap fun
    | .turnOnVPN config => some config
    | _ => none

@[simp]
theorem turnOnCalls_append (effects more : List Effect) :
    turnOnCalls (effects ++ more) = turnOnCalls effects ++ turnOnCalls more :=
  List.filterMap_append

@[simp]
theorem turnOnCalls_nil : turnOnCalls [] = [] := rfl

/-- Telling the clients is no call. -/
@[simp]
theorem turnOnCalls_sendEvent (listeners : List (Nat × Messenger)) (event : Event) :
    turnOnCalls (listeners.map fun listener => .sendEvent listener.2 event) = [] := by
  simp [turnOnCalls]

/-- One client is there all the time. -/
def observed (service : VPNService) : VPNService :=
  { service with listeners := [(0, 0)], effects := [] }

def observing (env : HandlerEnv) : HandlerEnv := { env with reachable := fun _ => true }

/-- The states that an update passes through. -/
def passed (wireGuard : WireGuard) (env : HandlerEnv) (location : Location)
    (status : VpnSessionStatus) (service : VPNService) : List VPNState :=
  match onVpnSessionUpdate (observing env) wireGuard location status (observed service) with
  | .ok next => told next.effects
  | .error _ => []

variable {wireGuard : WireGuard} {env : HandlerEnv} {service next : VPNService}
  {location : Location} {status : VpnSessionStatus}

/-! ## Calls of the service -/

theorem turnOnCalls_ask (effect : Effect) (h : turnOnCalls [effect] = []) :
    turnOnCalls (service.ask effect).effects = turnOnCalls service.effects := by
  rw [VPNService.ask, turnOnCalls_append, h, List.append_nil]

@[simp]
theorem turnOnCalls_dispatchEvent (event : Event) :
    turnOnCalls (dispatchEvent env event service).effects = turnOnCalls service.effects := by
  simp only [dispatchEvent, turnOnCalls_append, turnOnCalls_sendEvent, List.append_nil]

@[simp]
theorem turnOnCalls_dispatchVpnNotification (msg : String) :
    turnOnCalls (dispatchVpnNotification env msg service).effects =
      turnOnCalls service.effects := turnOnCalls_dispatchEvent _

@[simp]
theorem turnOnCalls_updateStateAndNotifyClients (state : VPNOrchestratorState) :
    turnOnCalls (updateStateAndNotifyClients env state service).effects =
      turnOnCalls service.effects := turnOnCalls_dispatchEvent _

@[simp]
theorem turnOnCalls_toldOfFailure :
    turnOnCalls (toldOfFailure env status service).effects = turnOnCalls service.effects := by
  unfold toldOfFailure
  split
  · exact turnOnCalls_dispatchVpnNotification _
  · rfl

@[simp]
theorem turnOnCalls_stopService :
    turnOnCalls (ifNoListenersAndDisconnectedThenStopService service).effects =
      turnOnCalls service.effects := by
  unfold ifNoListenersAndDisconnectedThenStopService
  split
  · exact turnOnCalls_ask .stopService rfl
  · rfl

@[simp]
theorem turnOnCalls_turnOffVPN :
    turnOnCalls (turnOffVPN env service).effects = turnOnCalls service.effects := by
  rw [turnOffVPN, turnOnCalls_updateStateAndNotifyClients]
  unfold VPNService.turnOffVPN
  split <;> rfl

theorem turnOnCalls_of_isFarewell {farewell : List Effect}
    (h : ∀ effect ∈ farewell, effect.isFarewell = true) : turnOnCalls farewell = [] := by
  apply List.filterMap_eq_nil_iff.2
  intro effect hmem
  have hleaving := h effect hmem
  cases effect <;> first | rfl | cases hleaving

/-- Leaving a session does not turn the tunnel on. -/
@[simp]
theorem turnOnCalls_onDisconnect (reason : String) :
    turnOnCalls (onDisconnect env reason service).effects = turnOnCalls service.effects := by
  cases hdisconnected : service.vpnOrchestratorState.isDisconnected with
  | true => simp only [onDisconnect, hdisconnected, ↓reduceIte]
  | false =>
      obtain ⟨asked, heq, -, -, -, farewell, heffects, hfarewell⟩ :=
        onDisconnect_eq env reason hdisconnected
      have hasked : turnOnCalls asked.effects = turnOnCalls service.effects := by
        rw [heffects, turnOnCalls_append, turnOnCalls_of_isFarewell hfarewell, List.append_nil]
      rw [heq, turnOnCalls_stopService]
      split
      · rw [turnOnCalls_turnOffVPN, hasked]
      · exact hasked

/-- The service's method is one call. -/
@[simp]
theorem turnOnCalls_serviceTurnOnVPN (config : Config) :
    turnOnCalls (service.turnOnVPN env config).2.effects =
      turnOnCalls service.effects ++ [config] := by
  rw [serviceTurnOnVPN_effects, turnOnCalls_append]
  cases env.established <;> rfl

/-! ## What does not depend on who listens -/

/-- The same orchestrator with other clients. -/
structure Alike (service other : VPNService) : Prop where
  state : other.vpnOrchestratorState = service.vpnOrchestratorState
  handle : other.currentTunnelHandle = service.currentTunnelHandle
  tunnels : other.tunnels = service.tunnels
  calls : turnOnCalls other.effects = turnOnCalls service.effects

theorem alike_observed (service : VPNService) :
    Alike { service with effects := [] } (observed service) := ⟨rfl, rfl, rfl, rfl⟩

section Alike

variable {listening : HandlerEnv} {other : VPNService}

theorem Alike.ask (h : Alike service other) (effect : Effect) :
    Alike (service.ask effect) (other.ask effect) :=
  ⟨h.state, h.handle, h.tunnels, by simp only [VPNService.ask, turnOnCalls_append, h.calls]⟩

theorem Alike.dispatchEvent (h : Alike service other) (event : Event) :
    Alike (dispatchEvent env event service) (dispatchEvent listening event other) :=
  ⟨h.state, h.handle, h.tunnels, by simp only [turnOnCalls_dispatchEvent, h.calls]⟩

theorem Alike.updateState (h : Alike service other) (state : VPNOrchestratorState) :
    Alike (updateStateAndNotifyClients env state service)
      (updateStateAndNotifyClients listening state other) :=
  ⟨rfl, h.handle, h.tunnels, by simp only [turnOnCalls_updateStateAndNotifyClients, h.calls]⟩

theorem alike_stopService (service : VPNService) :
    Alike service (ifNoListenersAndDisconnectedThenStopService service) := by
  refine ⟨?_, ?_, ?_, turnOnCalls_stopService⟩ <;>
    unfold ifNoListenersAndDisconnectedThenStopService <;> split <;> rfl

theorem Alike.symm (h : Alike service other) : Alike other service :=
  ⟨h.state.symm, h.handle.symm, h.tunnels.symm, h.calls.symm⟩

theorem Alike.trans {last : VPNService} (h : Alike service other) (hlast : Alike other last) :
    Alike service last :=
  ⟨hlast.state.trans h.state, hlast.handle.trans h.handle, hlast.tunnels.trans h.tunnels,
    hlast.calls.trans h.calls⟩

theorem Alike.stopService (h : Alike service other) :
    Alike (ifNoListenersAndDisconnectedThenStopService service)
      (ifNoListenersAndDisconnectedThenStopService other) :=
  (alike_stopService service).symm.trans (h.trans (alike_stopService other))

theorem Alike.turnOffVPN (h : Alike service other) :
    Alike (turnOffVPN env service) (turnOffVPN listening other) := by
  apply Alike.updateState
  unfold VPNService.turnOffVPN
  rw [h.handle]
  split
  · exact ⟨h.state, rfl, by rw [h.tunnels], h.calls⟩
  · exact h

theorem Alike.onDisconnect (h : Alike service other) (reason : String) :
    Alike (onDisconnect env reason service) (onDisconnect listening reason other) := by
  cases hdisconnected : service.vpnOrchestratorState.isDisconnected with
  | true =>
      simp only [VPNOrchestrator.onDisconnect, h.state, hdisconnected, ↓reduceIte]
      exact h
  | false =>
      obtain ⟨asked, heq, hstate, hhandle, htunnels, farewell, heffects, hfarewell⟩ :=
        onDisconnect_eq env reason hdisconnected
      rw [← h.state] at hdisconnected
      obtain ⟨asked', heq', hstate', hhandle', htunnels', farewell', heffects', hfarewell'⟩ :=
        onDisconnect_eq listening reason hdisconnected
      have hcalls : turnOnCalls asked'.effects = turnOnCalls asked.effects := by
        rw [heffects, heffects', turnOnCalls_append, turnOnCalls_append,
          turnOnCalls_of_isFarewell hfarewell, turnOnCalls_of_isFarewell hfarewell', h.calls]
      rw [heq, heq', h.state]
      have hasked : Alike asked asked' :=
        ⟨by rw [hstate', hstate, h.state], by rw [hhandle', hhandle, h.handle],
          by rw [htunnels', htunnels, h.tunnels], hcalls⟩
      apply Alike.stopService
      split
      · exact hasked.turnOffVPN
      · exact hasked

theorem Alike.toldOfFailure (h : Alike service other) :
    Alike (toldOfFailure env status service) (toldOfFailure listening status other) := by
  unfold VPNOrchestrator.toldOfFailure
  split
  · exact h.dispatchEvent _
  · exact h

/-- The library is asked with the same result. -/
theorem Alike.serviceTurnOnVPN (h : Alike service other) (config : Config) :
    (other.turnOnVPN (observing env) config).1 = (service.turnOnVPN env config).1 ∧
      Alike (service.turnOnVPN env config).2 (other.turnOnVPN (observing env) config).2 := by
  have hcalled := h.ask (.turnOnVPN config)
  have hhanded := hcalled.ask (.wgTurnOn config)
  by_cases hestablished : env.established = true
  · by_cases hhandle : env.tunnelHandle < 0
    · simp only [VPNService.turnOnVPN, observing, hestablished, Bool.not_true, Bool.false_eq_true,
        ↓reduceIte, hhandle]
      exact ⟨trivial, hhanded.state, rfl, by rw [hhanded.tunnels], hhanded.calls⟩
    · simp only [VPNService.turnOnVPN, observing, hestablished, Bool.not_true, Bool.false_eq_true,
        ↓reduceIte, hhandle]
      exact ⟨trivial, hhanded.state, rfl, by rw [hhanded.tunnels], hhanded.calls⟩
  · simp only [VPNService.turnOnVPN, observing, hestablished, Bool.not_false, ↓reduceIte]
    exact ⟨trivial, hcalled⟩

/-- What follows on the library's result. -/
def onTurnedOn (env : HandlerEnv) (location : Location) (content : ServerReady) (config : Config) :
    Except String Unit × VPNService → VPNService
  | (.error message, service) =>
      VPNOrchestrator.onDisconnect env message (dispatchVpnNotification env message service)
  | (.ok (), service) =>
      updateStateAndNotifyClients env (.connected location env.elapsedRealtime content config)
        service

theorem turnOnVPN_of_prepared (env : HandlerEnv) (content : ServerReady) (config : Config)
    (h : env.preparedAgain = true) :
    VPNOrchestrator.turnOnVPN env location content config service =
      onTurnedOn env location content config
        ((updateStateAndNotifyClients env (.connecting location content config)
          service).turnOnVPN env config) := by
  simp only [VPNOrchestrator.turnOnVPN, disconnectAndNotifyIfNoVPNPermission, h, Bool.not_true,
    Bool.false_eq_true, ↓reduceIte]
  split <;> rename_i heq <;> rw [heq] <;> rfl

theorem turnOnCalls_onTurnedOn (content : ServerReady) (config : Config)
    (turned : Except String Unit × VPNService) :
    turnOnCalls (onTurnedOn env location content config turned).effects =
      turnOnCalls turned.2.effects := by
  obtain ⟨result, service⟩ := turned
  cases result with
  | error message =>
      exact (turnOnCalls_onDisconnect _).trans (turnOnCalls_dispatchVpnNotification _)
  | ok _ => exact turnOnCalls_updateStateAndNotifyClients _

theorem turnOnVPN_of_revoked (env : HandlerEnv) (content : ServerReady) (config : Config)
    (h : env.preparedAgain = false) :
    VPNOrchestrator.turnOnVPN env location content config service =
      VPNOrchestrator.onDisconnect env "no vpn perms"
        (dispatchVpnNotification env "No VPN permission" service) := by
  simp only [VPNOrchestrator.turnOnVPN, disconnectAndNotifyIfNoVPNPermission, h, Bool.not_false,
    ↓reduceIte]

theorem Alike.onTurnedOn {turned turned' : Except String Unit × VPNService}
    (hresult : turned'.1 = turned.1) (h : Alike turned.2 turned'.2) (content : ServerReady)
    (config : Config) :
    Alike (onTurnedOn env location content config turned)
      (onTurnedOn (observing env) location content config turned') := by
  obtain ⟨result, service⟩ := turned
  obtain ⟨_, other⟩ := turned'
  cases hresult
  cases result with
  | error message => exact (h.dispatchEvent _).onDisconnect _
  | ok _ => exact h.updateState _

theorem Alike.turnOnVPN (h : Alike service other) (content : ServerReady) (config : Config) :
    Alike (turnOnVPN env location content config service)
      (turnOnVPN (observing env) location content config other) := by
  cases hprepared : env.preparedAgain with
  | true =>
      rw [turnOnVPN_of_prepared env content config hprepared,
        turnOnVPN_of_prepared (observing env) content config hprepared]
      have hconnecting : Alike
          (updateStateAndNotifyClients env (.connecting location content config) service)
          (updateStateAndNotifyClients (observing env) (.connecting location content config)
            other) := h.updateState _
      obtain ⟨hresult, hturned⟩ := @Alike.serviceTurnOnVPN env _ _ hconnecting config
      exact hturned.onTurnedOn hresult content config
  | false =>
      rw [turnOnVPN_of_revoked env content config hprepared,
        turnOnVPN_of_revoked (observing env) content config hprepared]
      exact (h.dispatchEvent _).onDisconnect _

/-- The same clients are told the same, and others besides. -/
theorem Alike.onVpnSessionUpdate (h : Alike service other)
    (hok : onVpnSessionUpdate env wireGuard location status service = .ok next) :
    ∃ observed, VPNOrchestrator.onVpnSessionUpdate (observing env) wireGuard location status
      other = .ok observed ∧ Alike next observed := by
  have htold : Alike (VPNOrchestrator.toldOfFailure env status service)
      (VPNOrchestrator.toldOfFailure (observing env) status other) := h.toldOfFailure
  cases updates_of_eq_ok hok with
  | drops hgone =>
      exact ⟨_, eq_ok_of_updates (.drops (by rwa [h.state])), h⟩
  | revoked hlive hprepared =>
      exact ⟨_, eq_ok_of_updates (.revoked (by rwa [h.state]) hprepared),
        (htold.dispatchEvent _).onDisconnect _⟩
  | ignores hlive hprepared hnew =>
      exact ⟨_, eq_ok_of_updates (.ignores (by rwa [h.state]) hprepared (by rwa [h.state])), htold⟩
  | moves state hlive hprepared hnew hready =>
      exact ⟨_, eq_ok_of_updates (.moves state (by rwa [h.state]) hprepared (by rwa [h.state])
        hready), htold.updateState _⟩
  | readies place content config hlive hprepared hnew =>
      exact ⟨_, eq_ok_of_updates (.readies place content config (by rwa [h.state]) hprepared
        (by rwa [h.state])), (htold.updateState _).turnOnVPN content config⟩

end Alike

/-! ## What a client is told -/

/-- The states that a client is told of when the session is left. -/
def leaving (state : VPNOrchestratorState) : List VPNState :=
  match state with
  | .disconnected => []
  | .requesting _ _ | .accepted _ _ _ | .serverCreated _ _ _ | .serverRunning _ _ _
  | .serverReady _ _ _ => [.disconnected]
  | .disconnecting location => [.disconnecting location]
  | .connecting location _ _ | .connected location _ _ _ =>
      [.disconnecting location, .disconnected]

/-- The client is still there, and was told of these states since. -/
structure Tells (service : VPNService) (states : List VPNState) (next : VPNService) : Prop where
  listeners : next.listeners = [(0, 0)]
  told : told next.effects = told service.effects ++ states

section Tells

variable {last : VPNService} {states more : List VPNState}

theorem Tells.refl (h : service.listeners = [(0, 0)]) : Tells service [] service :=
  ⟨h, (List.append_nil _).symm⟩

theorem Tells.trans (h : Tells service states next) (hlast : Tells next more last) :
    Tells service (states ++ more) last :=
  ⟨hlast.listeners, by rw [hlast.told, h.told, List.append_assoc]⟩

theorem Tells.ask {effect : Effect} (h : service.listeners = [(0, 0)])
    (hsilent : VPNOrchestrator.told [effect] = []) : Tells service [] (service.ask effect) :=
  ⟨h, by rw [VPNService.ask, told_append, hsilent]⟩

theorem Tells.dispatchVpnNotification (h : service.listeners = [(0, 0)]) (msg : String) :
    Tells service [] (dispatchVpnNotification (observing env) msg service) := by
  constructor <;>
    simp [VPNOrchestrator.dispatchVpnNotification, dispatchEvent, observing, h]

theorem Tells.updateState (h : service.listeners = [(0, 0)]) (state : VPNOrchestratorState) :
    Tells service [state.toVPNState]
      (updateStateAndNotifyClients (observing env) state service) := by
  constructor <;> simp [updateStateAndNotifyClients, dispatchEvent, observing, h]

theorem Tells.stopService (h : service.listeners = [(0, 0)]) :
    Tells service [] (ifNoListenersAndDisconnectedThenStopService service) := by
  unfold ifNoListenersAndDisconnectedThenStopService
  split
  · exact .ask h rfl
  · exact .refl h

theorem Tells.turnOffVPN (h : service.listeners = [(0, 0)]) :
    Tells service [.disconnected] (turnOffVPN (observing env) service) := by
  have hturned : Tells service [] service.turnOffVPN := by
    unfold VPNService.turnOffVPN
    split
    · exact ⟨h, (List.append_nil _).symm⟩
    · exact .refl h
  exact hturned.trans (.updateState hturned.listeners .disconnected)

theorem Tells.turnOffVPNIf (h : service.listeners = [(0, 0)]) (shouldTurnOff : Bool) :
    Tells service (if shouldTurnOff then [.disconnected] else [])
      (if shouldTurnOff then VPNOrchestrator.turnOffVPN (observing env) service
        else service) := by
  cases shouldTurnOff with
  | true => exact .turnOffVPN h
  | false => exact .refl h

theorem Tells.endVpnSession (h : service.listeners = [(0, 0)]) (requestId : Option Uuid)
    (reason : String) :
    Tells service [] (match requestId with
      | some requestId => service.ask (.endVpnSession requestId reason)
      | none => service) := by
  cases requestId with
  | some requestId => exact .ask h rfl
  | none => exact .refl h

theorem Tells.onDisconnect (h : service.listeners = [(0, 0)]) (reason : String) :
    Tells service (leaving service.vpnOrchestratorState)
      (onDisconnect (observing env) reason service) := by
  by_cases hdisconnected : service.vpnOrchestratorState.isDisconnected = true
  · have hleaving : leaving service.vpnOrchestratorState = [] := by
      cases hstate : service.vpnOrchestratorState <;> simp_all [VPNOrchestratorState.isDisconnected,
        leaving]
    simp only [VPNOrchestrator.onDisconnect, hdisconnected, ↓reduceIte, hleaving]
    exact .refl h
  · simp only [VPNOrchestrator.onDisconnect, hdisconnected, Bool.false_eq_true, ↓reduceIte,
      ask_state]
    have hcancelled : Tells service [] (service.ask .cancelChildren) := .ask h rfl
    have hmoved := hcancelled.trans
      (@Tells.updateState env _ hcancelled.listeners
        service.vpnOrchestratorState.transitionOnDisconnect.1)
    have hended := hmoved.trans (.endVpnSession hmoved.listeners
      service.vpnOrchestratorState.transitionOnDisconnect.2.2 reason)
    have hturned := hended.trans (@Tells.turnOffVPNIf env _ hended.listeners
      service.vpnOrchestratorState.transitionOnDisconnect.2.1)
    have hstopped := hturned.trans (.stopService hturned.listeners)
    have hleaving : leaving service.vpnOrchestratorState = [] ++
        [service.vpnOrchestratorState.transitionOnDisconnect.1.toVPNState] ++ [] ++
        (if service.vpnOrchestratorState.transitionOnDisconnect.2.1 then [.disconnected]
          else []) ++ [] := by
      cases hstate : service.vpnOrchestratorState <;>
        simp_all [VPNOrchestratorState.isDisconnected, leaving,
          VPNOrchestratorState.transitionOnDisconnect, VPNOrchestratorState.toVPNState]
    rw [hleaving]
    exact hstopped

theorem Tells.toldOfFailure (h : service.listeners = [(0, 0)]) :
    Tells service [] (toldOfFailure (observing env) status service) := by
  unfold VPNOrchestrator.toldOfFailure
  split
  · exact .dispatchVpnNotification h _
  · exact .refl h

theorem Tells.serviceTurnOnVPN (h : service.listeners = [(0, 0)]) (config : Config) :
    Tells service [] (service.turnOnVPN env config).2 := by
  constructor
  · simp only [VPNService.turnOnVPN]
    split
    · exact h
    · split <;> exact h
  · rw [serviceTurnOnVPN_effects, told_append]
    split <;> rfl

end Tells

/-! ## The passages of an update -/

/-- What an update does from one rest to the next: the configurations the tunnel is set up
with, the states passed through, and the state in the end. -/
inductive Passage (state : VPNOrchestratorState) :
    List Config → List VPNState → VPNOrchestratorState → Prop
  | stays : Passage state [] [] state
  | moves (next : VPNOrchestratorState) (hprovisioning : next.isProvisioning = true)
      (hprogress : state.isProvisioning = true ∧
        state.toVPNState.progress ≤ next.toVPNState.progress) :
      Passage state [] [next.toVPNState] next
  | leaves (hlive : state.isDisconnectingOrDisconnected = false) :
      Passage state [] (leaving state) .disconnected
  | drops (hlive : state.isDisconnectingOrDisconnected = false) :
      Passage state [] [.disconnected] .disconnected
  | loses (location : Location) (hprovisioning : state.isProvisioning = true) :
      Passage state [] [.serverReady location, .disconnected] .disconnected
  | fails (location : Location) (config : Config) (hprovisioning : state.isProvisioning = true) :
      Passage state [config] [.serverReady location, .connecting location, .disconnecting location,
        .disconnected] .disconnected
  | connects (location : Location) (time : Nat) (content : ServerReady) (config : Config)
      (hprovisioning : state.isProvisioning = true) :
      Passage state [config] [.serverReady location, .connecting location, .connected location time]
        (.connected location time content config)

theorem onDisconnect_state (env : HandlerEnv) (reason : String)
    (h : ∀ location, service.vpnOrchestratorState ≠ .disconnecting location) :
    (onDisconnect env reason service).vpnOrchestratorState = .disconnected := by
  by_cases hdisconnected : service.vpnOrchestratorState.isDisconnected = true
  · simp only [onDisconnect, hdisconnected, ↓reduceIte]
    cases hstate : service.vpnOrchestratorState <;>
      simp_all [VPNOrchestratorState.isDisconnected]
  · rw [Bool.not_eq_true] at hdisconnected
    obtain ⟨asked, heq, hstate, -, -, -⟩ := onDisconnect_eq env reason hdisconnected
    rw [heq, stopService_state]
    split
    · rfl
    · rename_i hturn
      rw [hstate]
      cases hbefore : service.vpnOrchestratorState <;>
        simp_all [VPNOrchestratorState.transitionOnDisconnect]

section Setup

variable {state : VPNOrchestratorState} {content : ServerReady} {config : Config}

/-- The library's result connects or disconnects. -/
theorem passage_onTurnedOn {turned : Except String Unit × VPNService}
    (hheard : turned.2.listeners = [(0, 0)])
    (hstate : turned.2.vpnOrchestratorState = .connecting location content config)
    (hprovisioning : state.isProvisioning = true) :
    ∃ states,
      Tells turned.2 states (onTurnedOn (observing env) location content config turned) ∧
      Passage state [config] (.serverReady location :: .connecting location :: states)
        (onTurnedOn (observing env) location content config turned).vpnOrchestratorState := by
  obtain ⟨result, service⟩ := turned
  simp only at hheard hstate
  cases result with
  | error message =>
      have hnotified := @Tells.dispatchVpnNotification env _ hheard message
      have hleft := hnotified.trans (@Tells.onDisconnect env _ hnotified.listeners message)
      have hnext := @onDisconnect_state
        (dispatchVpnNotification (observing env) message service) (observing env) message
        (by simp [hstate])
      rw [dispatchVpnNotification_state, hstate] at hleft
      refine ⟨_, hleft, ?_⟩
      rw [onTurnedOn, hnext]
      exact .fails location config hprovisioning
  | ok _ =>
      exact ⟨_, .updateState hheard _, .connects location _ content config hprovisioning⟩

/-- Setting up the tunnel ends connected or disconnected. -/
theorem passage_turnOnVPN (hheard : service.listeners = [(0, 0)])
    (hstate : service.vpnOrchestratorState = .serverReady location content config)
    (hprovisioning : state.isProvisioning = true) :
    ∃ states, Tells service states (turnOnVPN (observing env) location content config service) ∧
      Passage state (if env.preparedAgain then [config] else []) (.serverReady location :: states)
        (turnOnVPN (observing env) location content config service).vpnOrchestratorState := by
  cases hprepared : env.preparedAgain with
  | false =>
      rw [turnOnVPN_of_revoked (observing env) content config hprepared]
      have hnotified := @Tells.dispatchVpnNotification env _ hheard "No VPN permission"
      have hleft := hnotified.trans (@Tells.onDisconnect env _ hnotified.listeners "no vpn perms")
      rw [onDisconnect_state (observing env) "no vpn perms" (by simp [hstate])]
      rw [dispatchVpnNotification_state, hstate] at hleft
      exact ⟨_, hleft, .loses location hprovisioning⟩
  | true =>
      rw [turnOnVPN_of_prepared (observing env) content config hprepared]
      have hconnecting := @Tells.updateState env _ hheard (.connecting location content config)
      have hasked := hconnecting.trans (@Tells.serviceTurnOnVPN (observing env) _
        hconnecting.listeners config)
      obtain ⟨states, htells, hpassage⟩ := @passage_onTurnedOn env _ _ _ _ _ hasked.listeners
        (by rw [serviceTurnOnVPN_state]; rfl) hprovisioning
      exact ⟨_, hasked.trans htells, hpassage⟩

end Setup

/-- At rest, an update fails the session or moves it forward. -/
theorem newStateFromUpdate_forward {state next : VPNOrchestratorState}
    (hresting : state.isResting = true)
    (h : state.newStateFromUpdate wireGuard location status = .ok (some next)) :
    next = .disconnected ∨ state.isProvisioning = true ∧
      (next.isProvisioning = true ∧ state.toVPNState.progress ≤ next.toVPNState.progress ∨
        ∃ place content config, next = .serverReady place content config) := by
  cases status with
  | failed content =>
      cases h
      exact .inl rfl
  | clientConnected content | ended content => cases h
  | accepted content | serverCreated content | serverRunning content =>
      cases state <;> cases h
      all_goals simp [VPNOrchestratorState.isProvisioning, VPNOrchestratorState.toVPNState,
        VPNState.progress]
  | serverReady content =>
      cases state <;> simp only [VPNOrchestratorState.newStateFromUpdate] at h
      case serverReady => cases hresting
      all_goals first
        | obtain ⟨config, rfl⟩ := map_ready_eq_ok h
          exact .inr ⟨rfl, .inr ⟨_, _, _, rfl⟩⟩
        | cases h

/-- Setting up the tunnel calls the service once, unless the permission is gone. -/
theorem turnOnCalls_turnOnVPN (env : HandlerEnv) (location : Location) (content : ServerReady)
    (config : Config) (service : VPNService) :
    turnOnCalls (turnOnVPN env location content config service).effects =
      turnOnCalls service.effects ++ if env.preparedAgain then [config] else [] := by
  cases hprepared : env.preparedAgain with
  | false =>
      rw [turnOnVPN_of_revoked env content config hprepared, turnOnCalls_onDisconnect,
        turnOnCalls_dispatchVpnNotification]
      exact (List.append_nil _).symm
  | true =>
      rw [turnOnVPN_of_prepared env content config hprepared, turnOnCalls_onTurnedOn,
        turnOnCalls_serviceTurnOnVPN, turnOnCalls_updateStateAndNotifyClients]
      rfl

theorem passage_of_updates (hheard : service.listeners = [(0, 0)]) (hnone : service.effects = [])
    (hresting : service.vpnOrchestratorState.isResting = true)
    (h : Updates wireGuard (observing env) location status service next) :
    ∃ states, Tells service states next ∧
      Passage service.vpnOrchestratorState (turnOnCalls next.effects) states
        next.vpnOrchestratorState := by
  have htold : Tells service [] (toldOfFailure (observing env) status service) :=
    .toldOfFailure hheard
  cases h with
  | drops hgone =>
      rw [hnone]
      exact ⟨_, .refl hheard, .stays⟩
  | revoked hlive hprepared =>
      have hnotified := htold.trans
        (@Tells.dispatchVpnNotification env _ htold.listeners "No VPN permission")
      have hleft := hnotified.trans (@Tells.onDisconnect env _ hnotified.listeners "no vpn perms")
      rw [dispatchVpnNotification_state, toldOfFailure_state] at hleft
      rw [turnOnCalls_onDisconnect, turnOnCalls_dispatchVpnNotification,
        turnOnCalls_toldOfFailure, hnone, onDisconnect_state (observing env) "no vpn perms" _]
      · exact ⟨_, hleft, .leaves hlive⟩
      · intro location heq
        rw [dispatchVpnNotification_state, toldOfFailure_state] at heq
        rw [heq] at hlive
        cases hlive
  | ignores hlive hprepared hnew =>
      rw [turnOnCalls_toldOfFailure, hnone, toldOfFailure_state]
      exact ⟨_, htold, .stays⟩
  | moves state hlive hprepared hnew hready =>
      rw [turnOnCalls_updateStateAndNotifyClients, turnOnCalls_toldOfFailure, hnone,
        updateStateAndNotifyClients_state]
      refine ⟨_, htold.trans (.updateState htold.listeners _), ?_⟩
      rcases newStateFromUpdate_forward hresting hnew with rfl | ⟨hprovisioning, hnext | hnext⟩
      · exact .drops hlive
      · exact .moves state hnext.1 ⟨hprovisioning, hnext.2⟩
      · obtain ⟨place, content, config, rfl⟩ := hnext
        exact absurd rfl (hready place content config)
  | readies place content config hlive hprepared hnew =>
      rcases newStateFromUpdate_forward hresting hnew with hgone | ⟨hprovisioning, -⟩
      · cases hgone
      · have hready := htold.trans (@Tells.updateState env _ htold.listeners
          (.serverReady place content config))
        obtain ⟨states, htells, hpassage⟩ := @passage_turnOnVPN env _ _ _ _ _
          hready.listeners rfl hprovisioning
        rw [turnOnCalls_turnOnVPN, turnOnCalls_updateStateAndNotifyClients,
          turnOnCalls_toldOfFailure, hnone]
        exact ⟨_, hready.trans htells, hpassage⟩

/-- An update follows a passage, and makes the calls that are on it. -/
theorem passage_of_update (hresting : service.vpnOrchestratorState.isResting = true)
    (hok : onVpnSessionUpdate env wireGuard location status { service with effects := [] } =
      .ok next) :
    Passage service.vpnOrchestratorState (turnOnCalls next.effects)
      (passed wireGuard env location status service) next.vpnOrchestratorState := by
  obtain ⟨seen, hseen, halike⟩ := (alike_observed service).onVpnSessionUpdate hok
  obtain ⟨states, htells, hpassage⟩ := @passage_of_updates wireGuard env (observed service) seen
    location status rfl rfl hresting (updates_of_eq_ok hseen)
  have hpassed : passed wireGuard env location status service = states := by
    simp only [passed, hseen]
    exact htells.told
  rw [hpassed, ← halike.state, ← halike.calls]
  exact hpassage

/-! ## Forward within a session -/

/-- A later state of the same session. -/
def Forward (earlier later : VPNState) : Prop :=
  (later.isGone = true ∨ earlier.isGone = false ∧ earlier.progress ≤ later.progress) ∧
    (earlier = .disconnected → later = .disconnected)

/-- A message about the session, and what the system answers while it is handled. -/
structure Update where
  env : HandlerEnv
  location : Location
  status : VpnSessionStatus

/-- The states passed through, and the calls of `VPNService.turnOnVPN`. -/
structure Course where
  states : List VPNState
  calls : List Config

/-- One update after another. The process dies where a library throws. -/
def follow (wireGuard : WireGuard) : List Update → VPNService → Course
  | [], _ => ⟨[], []⟩
  | update :: updates, service =>
      match onVpnSessionUpdate update.env wireGuard update.location update.status
        { service with effects := [] } with
      | .error _ => ⟨[], []⟩
      | .ok next =>
          let course := follow wireGuard updates next
          { states := passed wireGuard update.env update.location update.status service ++
              course.states
            calls := turnOnCalls next.effects ++ course.calls }

instance : IsTrans VPNState Forward where
  trans first second third hfirst hsecond := by
    refine ⟨?_, fun h => hsecond.2 (hfirst.2 h)⟩
    rcases hsecond.1 with hgone | ⟨hlive, hle⟩
    · exact .inl hgone
    · rcases hfirst.1 with hgone | ⟨hfirstLive, hfirstLe⟩
      · rw [hgone] at hlive
        cases hlive
      · exact .inr ⟨hfirstLive, Nat.le_trans hfirstLe hle⟩

section Passage

variable {state after : VPNOrchestratorState} {calls : List Config} {states : List VPNState}

/-- A passage that is not a stay ends at the state it leads to. -/
theorem Passage.ends (h : Passage state calls states after) :
    states = [] ∧ after = state ∨ ∃ before, states = before ++ [after.toVPNState] := by
  cases h with
  | stays => exact .inl ⟨rfl, rfl⟩
  | moves next hprovisioning hprogress => exact .inr ⟨[], rfl⟩
  | leaves hlive =>
      cases state <;> first
        | exact .inr ⟨[], rfl⟩
        | exact .inr ⟨[_], rfl⟩
        | cases hlive
  | drops hlive => exact .inr ⟨[], rfl⟩
  | loses location hprovisioning => exact .inr ⟨[_], rfl⟩
  | fails location config hprovisioning => exact .inr ⟨[_, _, _], rfl⟩
  | connects location time content config hprovisioning => exact .inr ⟨[_, _], rfl⟩

theorem forward_disconnected (earlier : VPNState) : Forward earlier .disconnected :=
  ⟨.inl rfl, fun _ => rfl⟩

/-- A live session may be left. -/
theorem forward_disconnecting {earlier : VPNState} (h : earlier.isGone = false)
    (location : Location) : Forward earlier (.disconnecting location) := by
  refine ⟨.inl rfl, ?_⟩
  rintro rfl
  cases h

theorem forward_of_progress {earlier later : VPNState} (h : earlier.isGone = false)
    (hprogress : earlier.progress ≤ later.progress) : Forward earlier later := by
  refine ⟨.inr ⟨h, hprogress⟩, ?_⟩
  rintro rfl
  cases h

theorem isGone_of_isProvisioning (h : state.isProvisioning = true) :
    state.toVPNState.isGone = false := by
  cases state <;> first | rfl | cases h

/-- Before the server is ready, readiness lies ahead. -/
theorem forward_serverReady (h : state.isProvisioning = true) (location : Location) :
    Forward state.toVPNState (.serverReady location) := by
  apply forward_of_progress (isGone_of_isProvisioning h)
  cases state <;> first
    | simp [VPNOrchestratorState.toVPNState, VPNState.progress]; done
    | cases h

theorem forward_connecting (location : Location) :
    Forward (.serverReady location) (.connecting location) :=
  forward_of_progress rfl (by simp [VPNState.progress])

theorem Passage.isChain (h : Passage state calls states after) :
    (state.toVPNState :: states).IsChain Forward := by
  cases h with
  | stays => exact .singleton _
  | moves next hprovisioning hprogress =>
      exact .cons_cons
        (forward_of_progress (isGone_of_isProvisioning hprogress.1) hprogress.2) (.singleton _)
  | leaves hlive =>
      cases state <;> first
        | exact .cons_cons (forward_disconnected _) (.singleton _)
        | exact .cons_cons (forward_disconnecting rfl _)
            (.cons_cons (forward_disconnected _) (.singleton _))
        | cases hlive
  | drops hlive => exact .cons_cons (forward_disconnected _) (.singleton _)
  | loses location hprovisioning =>
      exact .cons_cons (forward_serverReady hprovisioning location)
        (.cons_cons (forward_disconnected _) (.singleton _))
  | fails location config hprovisioning =>
      exact .cons_cons (forward_serverReady hprovisioning location)
        (.cons_cons (forward_connecting location)
          (.cons_cons (forward_disconnecting rfl location)
            (.cons_cons (forward_disconnected _) (.singleton _))))
  | connects location time content config hprovisioning =>
      have hconnected : Forward (.connecting location) (.connected location time) :=
        forward_of_progress rfl (by simp [VPNState.progress])
      exact .cons_cons (forward_serverReady hprovisioning location)
        (.cons_cons (forward_connecting location) (.cons_cons hconnected (.singleton _)))

theorem Passage.isResting (h : Passage state calls states after)
    (hresting : state.isResting = true) : after.isResting = true := by
  cases h with
  | stays => exact hresting
  | moves next hprovisioning hprogress => cases after <;> first | rfl | cases hprovisioning
  | leaves _ | drops _ | loses _ _ | fails _ _ _ | connects _ _ _ _ _ => rfl

/-- The tunnel is set up for the last time. -/
theorem Passage.calls_le (h : Passage state calls states after) :
    calls.length + after.isProvisioning.toNat ≤ state.isProvisioning.toNat := by
  cases h with
  | stays => simp
  | moves next hprovisioning hprogress => simp [hprovisioning, hprogress.1]
  | leaves _ | drops _ => exact Nat.zero_le _
  | loses location hprovisioning => exact Nat.zero_le _
  | fails location config hprovisioning =>
      rw [hprovisioning]
      exact Nat.le_refl 1
  | connects location time content config hprovisioning =>
      rw [hprovisioning]
      exact Nat.le_refl 1

theorem Passage.settled {config : Config} (h : Passage state [config] states after) :
    after.isProvisioning = false := by
  cases h <;> rfl

end Passage

/-- From a rest, updates lead forward and set up the tunnel at most once. -/
theorem follow_of_isResting (updates : List Update)
    (hresting : service.vpnOrchestratorState.isResting = true) :
    (service.vpnOrchestratorState.toVPNState ::
        (follow wireGuard updates service).states).IsChain Forward ∧
      (follow wireGuard updates service).calls.length ≤
        service.vpnOrchestratorState.isProvisioning.toNat := by
  induction updates generalizing service with
  | nil => exact ⟨.singleton _, Nat.zero_le _⟩
  | cons update updates ih =>
      cases hok : onVpnSessionUpdate update.env wireGuard update.location update.status
        { service with effects := [] } with
      | error thrown =>
          simp only [follow, hok]
          exact ⟨.singleton _, Nat.zero_le _⟩
      | ok next =>
          have hpassage := passage_of_update hresting hok
          obtain ⟨hchain, hcalls⟩ := ih (hpassage.isResting hresting)
          have hcall := hpassage.calls_le
          simp only [follow, hok, List.length_append]
          refine ⟨?_, by omega⟩
          rcases hpassage.ends with ⟨hnone, hsame⟩ | ⟨before, hends⟩
          · rw [hnone, List.nil_append, ← hsame]
            exact hchain
          · have hfirst := hpassage.isChain
            rw [hends] at hfirst ⊢
            rw [List.append_assoc, List.singleton_append, List.isChain_cons_split]
            exact ⟨hfirst, hchain⟩

/-- No handler leaves the orchestrator in the middle of a passage. -/
theorem isResting_of_handle {invocation : Invocation}
    (hresting : service.vpnOrchestratorState.isResting = true)
    (h : handle env wireGuard { service with effects := [] } invocation = .ok next) :
    next.vpnOrchestratorState.isResting = true := by
  have hdisconnects : ∀ reason (asked : VPNService),
      asked.vpnOrchestratorState = service.vpnOrchestratorState →
      (onDisconnect env reason asked).vpnOrchestratorState.isResting = true := by
    intro reason asked hasked
    rw [onDisconnect_state env reason]
    · rfl
    · intro location heq
      rw [← hasked, heq] at hresting
      cases hresting
  cases invocation with
  | connect location =>
      cases h
      unfold onConnect
      split
      · exact hresting
      · split
        · exact hresting
        · rfl
  | disconnect =>
      cases h
      exact hdisconnects "user requested" _ rfl
  | revoke =>
      cases h
      exact hdisconnects "revoked" _ rfl
  | destroy =>
      cases h
      exact hdisconnects "destroyed" _ rfl
  | connectResponse location result =>
      cases h
      unfold onConnectResponse
      split
      · exact hresting
      · split <;> rfl
  | vpnSessionUpdate location status => exact (passage_of_update hresting h).isResting hresting
  | registerListener listener =>
      cases h
      unfold onRegisterListener
      split <;> exact hresting
  | deregisterListener id =>
      cases h
      rw [onDeregisterListener, stopService_state]
      exact hresting

theorem isResting_of_reachable (h : (system wireGuard).Reachable service) :
    service.vpnOrchestratorState.isResting = true := by
  apply h.invariant
  · rintro _ rfl
    rfl
  · intro source label target hstep hresting
    exact isResting_of_handle hresting (handle_of_step hstep).2

/-- Within a session the orchestrator only moves forward, and calls the service to set up the
tunnel at most once. -/
theorem forward_of_follow (hreachable : (system wireGuard).Reachable service)
    (updates : List Update) :
    (service.vpnOrchestratorState.toVPNState ::
        (follow wireGuard updates service).states).Pairwise Forward ∧
      (follow wireGuard updates service).calls.length ≤ 1 := by
  obtain ⟨hchain, hcalls⟩ := follow_of_isResting updates (isResting_of_reachable hreachable)
  exact ⟨List.isChain_iff_pairwise.1 hchain, hcalls.trans (Bool.toNat_le _)⟩

end VPNOrchestrator

namespace VPNOrchestrator

/-! ## A server that is ready more than once -/

open Android.Sample

/-- The server becomes ready and says so twice, the interface cannot be created, and the
server says it once more. -/
def repeatedly : List Update :=
  [⟨granted, location, .serverRunning ⟨requestId, vpnSessionUuid⟩⟩,
    ⟨{ granted with established := false }, location, .serverReady serverReady⟩,
    ⟨granted, location, .serverReady serverReady⟩]

theorem exists_follow_repeatedly : ∃ service : VPNService,
    (system Sample.wireGuard).Reachable service ∧
    (follow Sample.wireGuard repeatedly service).states =
      [.serverRunning location, .serverReady location, .connecting location,
        .disconnecting location, .disconnected] ∧
    (service.vpnOrchestratorState.toVPNState ::
        (follow Sample.wireGuard repeatedly service).states).Pairwise Forward ∧
    (follow Sample.wireGuard repeatedly service).calls.length ≤ 1 := by
  obtain ⟨service, trace, -, hcheck⟩ := (system Sample.wireGuard).exists_trace_of_run
    (fun _ _ => True) (init_new Sample.wireGuard)
    [(.connect location, granted),
      (.connectResponse location (.ok (⟨requestId, vpnSessionUuid⟩, interFace)), granted)]
    (fun service => decide ((follow Sample.wireGuard repeatedly service).states =
      [.serverRunning location, .serverReady location, .connecting location,
        .disconnecting location, .disconnected])) (by decide +kernel)
  exact ⟨service, ⟨trace⟩, of_decide_eq_true hcheck, forward_of_follow ⟨trace⟩ repeatedly⟩

end VPNOrchestrator

end Modvpn.Android
