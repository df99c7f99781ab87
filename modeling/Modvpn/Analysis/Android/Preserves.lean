/-
# What the parts of a handler preserve, the handler preserves

A handler asks for effects, notifies the clients, sets the state and turns the tunnel on or
off, in an order that depends on what it finds. A property that each of these parts
preserves holds after the handler if it held before. Registering a listener and
deregistering one are for the property itself to say.
-/

import Modvpn.Analysis.Android.Passages

namespace Modvpn.Android

open Modvpn.Protocol

/-- Asked of the system or of a coroutine, and not of the clients' messages. -/
def Effect.isSilent : Effect → Bool
  | .sendEvent _ _ | .cleanupIPC => false
  | .startForeground _ | .stopService | .cancelChildren | .newVpnSession _ _
  | .endVpnSession _ _ | .turnOnVPN _ | .wgTurnOn _ => true

namespace VPNOrchestrator

/-- Each part of a handler preserves the property. -/
structure Preserves (env : HandlerEnv) (P : VPNService → Prop) : Prop where
  ask : ∀ {service : VPNService} (effect : Effect), effect.isSilent = true → P service →
    P (service.ask effect)
  notify : ∀ {service : VPNService} (msg : String), P service →
    P (dispatchVpnNotification env msg service)
  update : ∀ {service : VPNService} (state : VPNOrchestratorState), P service →
    P (updateStateAndNotifyClients env state service)
  tunnel : ∀ {service : VPNService} (currentTunnelHandle : Int) (tunnels : List Int), P service →
    P { service with currentTunnelHandle, tunnels }

namespace Preserves

variable {wireGuard : WireGuard} {env : HandlerEnv} {P : VPNService → Prop}
  {service next : VPNService} (preserves : Preserves env P)

include preserves

theorem stopService (h : P service) : P (ifNoListenersAndDisconnectedThenStopService service) := by
  unfold ifNoListenersAndDisconnectedThenStopService
  split
  · exact preserves.ask .stopService rfl h
  · exact h

theorem turnOffVPN (h : P service) : P (turnOffVPN env service) := by
  apply preserves.update
  unfold VPNService.turnOffVPN
  split
  · exact preserves.tunnel _ _ h
  · exact h

theorem endVpnSession (h : P service) (requestId : Option Uuid) (reason : String) :
    P (match requestId with
      | some requestId => service.ask (.endVpnSession requestId reason)
      | none => service) := by
  cases requestId with
  | some requestId => exact preserves.ask _ rfl h
  | none => exact h

theorem onDisconnect (h : P service) (reason : String) : P (onDisconnect env reason service) := by
  by_cases hdisconnected : service.vpnOrchestratorState.isDisconnected = true
  · simp only [VPNOrchestrator.onDisconnect, hdisconnected, ↓reduceIte]
    exact h
  · simp only [VPNOrchestrator.onDisconnect, hdisconnected, Bool.false_eq_true, ↓reduceIte,
      ask_state]
    have hcancelled := preserves.ask .cancelChildren rfl h
    have hmoved := preserves.update
      service.vpnOrchestratorState.transitionOnDisconnect.1 hcancelled
    have hended := preserves.endVpnSession hmoved
      service.vpnOrchestratorState.transitionOnDisconnect.2.2 reason
    apply preserves.stopService
    by_cases hturn : service.vpnOrchestratorState.transitionOnDisconnect.2.1 = true
    · simp only [hturn, ↓reduceIte]
      exact preserves.turnOffVPN hended
    · simp only [hturn, Bool.false_eq_true, ↓reduceIte]
      exact hended

theorem toldOfFailure (h : P service) (status : VpnSessionStatus) :
    P (toldOfFailure env status service) := by
  unfold VPNOrchestrator.toldOfFailure
  split
  · exact preserves.notify _ h
  · exact h

theorem serviceTurnOnVPN (h : P service) (config : Config) :
    P (service.turnOnVPN env config).2 := by
  have hcalled := preserves.ask (.turnOnVPN config) rfl h
  simp only [VPNService.turnOnVPN]
  split
  · exact hcalled
  · have hhanded := preserves.ask (.wgTurnOn config) rfl hcalled
    split <;> exact preserves.tunnel _ _ hhanded

theorem onTurnedOn {turned : Except String Unit × VPNService} (h : P turned.2)
    (location : Location) (content : ServerReady) (config : Config) :
    P (onTurnedOn env location content config turned) := by
  obtain ⟨result, service⟩ := turned
  cases result with
  | error message => exact preserves.onDisconnect (preserves.notify message h) message
  | ok _ => exact preserves.update _ h

theorem turnOnVPN (h : P service) (location : Location) (content : ServerReady)
    (config : Config) : P (turnOnVPN env location content config service) := by
  cases hprepared : env.preparedAgain with
  | false =>
      rw [turnOnVPN_of_revoked env content config hprepared]
      exact preserves.onDisconnect (preserves.notify _ h) _
  | true =>
      rw [turnOnVPN_of_prepared env content config hprepared]
      have hconnecting := preserves.update (.connecting location content config) h
      exact preserves.onTurnedOn (preserves.serviceTurnOnVPN hconnecting config) location content
        config

theorem onConnect (h : P service) (location : Location) : P (onConnect env location service) := by
  unfold VPNOrchestrator.onConnect
  split
  · exact preserves.notify _ h
  · split
    · exact preserves.notify _ h
    · have hforeground := preserves.ask
        (.startForeground service.vpnOrchestratorState.toVPNState) rfl h
      exact preserves.ask _ rfl (preserves.update _ hforeground)

theorem onConnectResponse (h : P service) (location : Location)
    (result : Except String (Accepted × Interface)) :
    P (onConnectResponse env location result service) := by
  unfold VPNOrchestrator.onConnectResponse
  split
  · exact h
  · split
    · exact preserves.update _ h
    · exact preserves.update _ (preserves.notify _ h)

theorem onVpnSessionUpdate {location : Location} {status : VpnSessionStatus} (h : P service)
    (hok : onVpnSessionUpdate env wireGuard location status service = .ok next) : P next := by
  have htold := preserves.toldOfFailure h status
  cases updates_of_eq_ok hok with
  | drops _ => exact h
  | revoked _ _ => exact preserves.onDisconnect (preserves.notify _ htold) _
  | ignores _ _ _ => exact htold
  | moves state _ _ _ _ => exact preserves.update state htold
  | readies location content config _ _ _ =>
      exact preserves.turnOnVPN (preserves.update _ htold) location content config

/-- The handlers other than those about listeners. Two of them clean up first. -/
theorem handle {invocation : Invocation} (h : P service)
    (hcleanup : invocation = .revoke ∨ invocation = .destroy → P (service.ask .cleanupIPC))
    (hregister : ∀ listener, invocation = .registerListener listener →
      P (onRegisterListener env listener service))
    (hderegister : ∀ id, invocation = .deregisterListener id →
      P { service with listeners := service.listeners.filter (·.1 ≠ id) })
    (hok : handle env wireGuard service invocation = .ok next) : P next := by
  cases invocation with
  | connect location =>
      cases hok
      exact preserves.onConnect h location
  | disconnect =>
      cases hok
      exact preserves.onDisconnect h _
  | connectResponse location result =>
      cases hok
      exact preserves.onConnectResponse h location result
  | vpnSessionUpdate location status => exact preserves.onVpnSessionUpdate h hok
  | revoke =>
      cases hok
      exact preserves.onDisconnect (hcleanup (.inl rfl)) _
  | destroy =>
      cases hok
      exact preserves.onDisconnect (hcleanup (.inr rfl)) _
  | registerListener listener =>
      cases hok
      exact hregister listener rfl
  | deregisterListener id =>
      cases hok
      exact preserves.stopService (hderegister id rfl)

end Preserves

end VPNOrchestrator

end Modvpn.Android
