/-
# What a handler does to the session

A handler leaves the session in progress alone, or leaves it, or takes over the session
that an answer names, or begins one. Only the last asks for a new session. Nobody compares
the session that an answer names with the one in progress.
-/

import Modvpn.Analysis.Android.PhoneStep

namespace Modvpn.Android

open Modvpn.Protocol

/-- Asked for while a session is left. -/
def Effect.isFarewell : Effect → Bool
  | .sendEvent _ _ | .cancelChildren | .endVpnSession _ _ => true
  | .startForeground _ | .stopService | .cleanupIPC | .newVpnSession _ _ | .turnOnVPN _
  | .wgTurnOn _ => false

namespace VPNOrchestrator

/-- The session that an answer is about. -/
def Invocation.names : Invocation → Option Uuid
  | .connectResponse _ (.ok (accepted, _)) => some accepted.requestId
  | .vpnSessionUpdate _ status => some status.requestId
  | .connectResponse _ (.error _) | .connect _ | .disconnect | .registerListener _
  | .deregisterListener _ | .revoke | .destroy => none

/-- The session that an answer puts in the place of the one in progress. -/
def replacement (wireGuard : WireGuard) (state : VPNOrchestratorState) : Invocation → Option Uuid
  | .connectResponse _ (.ok (accepted, _)) =>
      if state.isDisconnectingOrDisconnected then none else some accepted.requestId
  | .vpnSessionUpdate location status =>
      if state.isDisconnectingOrDisconnected then none
      else match state.newStateFromUpdate wireGuard location status with
        | .ok (some next) => next.requestId
        | .ok none | .error _ => none
  | .connectResponse _ (.error _) | .connect _ | .disconnect | .registerListener _
  | .deregisterListener _ | .revoke | .destroy => none

/-- Nobody is asked for a new session. -/
def Quiet (effects : List Effect) : Prop :=
  ∀ requestId location, Effect.newVpnSession requestId location ∉ effects

/-- What a handler does to the session. -/
inductive Turns (wireGuard : WireGuard) (env : HandlerEnv)
    (state : VPNOrchestratorState) : Invocation → VPNService → Prop
  | keeps {invocation : Invocation} {next : VPNService}
      (hstate : next.vpnOrchestratorState = state)
      (hquiet : Quiet next.effects) : Turns wireGuard env state invocation next
  | leaves {invocation : Invocation} {next : VPNService}
      (hstate : next.vpnOrchestratorState.isDisconnectingOrDisconnected = true)
      (hquiet : Quiet next.effects) : Turns wireGuard env state invocation next
  | adopts {invocation : Invocation} {next : VPNService} (requestId : Uuid)
      (hreplaces : requestId ∈ replacement wireGuard state invocation)
      (hstate : next.vpnOrchestratorState.requestId = some requestId)
      (hquiet : Quiet next.effects) : Turns wireGuard env state invocation next
  | begins {next : VPNService} (location : Location) (asked : List Effect)
      (hidle : state.isDisconnected = true)
      (hprepared : env.prepared = true)
      (hstate : next.vpnOrchestratorState = .requesting env.randomUuid location)
      (hquiet : Quiet asked)
      (heffects : next.effects = asked ++ [.newVpnSession env.randomUuid location]) :
      Turns wireGuard env state (.connect location) next

variable {wireGuard : WireGuard} {env : HandlerEnv} {service next : VPNService}

/-! ## The parts of a handler -/

@[simp]
theorem ask_state (effect : Effect) :
    (service.ask effect).vpnOrchestratorState = service.vpnOrchestratorState := rfl

@[simp]
theorem dispatchEvent_state (event : Event) :
    (dispatchEvent env event service).vpnOrchestratorState = service.vpnOrchestratorState := rfl

@[simp]
theorem dispatchVpnNotification_state (msg : String) :
    (dispatchVpnNotification env msg service).vpnOrchestratorState =
      service.vpnOrchestratorState := rfl

@[simp]
theorem updateStateAndNotifyClients_state (state : VPNOrchestratorState) :
    (updateStateAndNotifyClients env state service).vpnOrchestratorState = state := rfl

@[simp]
theorem stopService_state : (ifNoListenersAndDisconnectedThenStopService service).vpnOrchestratorState =
    service.vpnOrchestratorState := by
  unfold ifNoListenersAndDisconnectedThenStopService
  split <;> rfl

theorem Quiet.append {effects more : List Effect} (h : Quiet effects) (hmore : Quiet more) :
    Quiet (effects ++ more) := by
  intro requestId location hmem
  rcases List.mem_append.1 hmem with hmem | hmem
  · exact h requestId location hmem
  · exact hmore requestId location hmem

theorem quiet_nil : Quiet [] := nofun

theorem quiet_of_isFarewell {effects : List Effect}
    (h : ∀ effect ∈ effects, effect.isFarewell = true) : Quiet effects := by
  intro requestId location hmem
  cases h _ hmem

theorem quiet_sendEvent (listeners : List (Nat × Messenger)) (event : Event) :
    Quiet (listeners.map fun listener => .sendEvent listener.2 event) := by
  intro requestId location hmem
  obtain ⟨listener, -, heq⟩ := List.mem_map.1 hmem
  cases heq

theorem quiet_dispatchEvent (event : Event) (h : Quiet service.effects) :
    Quiet (dispatchEvent env event service).effects :=
  h.append (quiet_sendEvent _ event)

theorem quiet_ask (effect : Effect) (h : Quiet service.effects)
    (heffect : ∀ requestId location, effect ≠ .newVpnSession requestId location) :
    Quiet (service.ask effect).effects := by
  apply h.append
  intro requestId location hmem
  exact heffect requestId location (List.mem_singleton.1 hmem).symm

theorem quiet_updateStateAndNotifyClients (env : HandlerEnv) (state : VPNOrchestratorState)
    (h : Quiet service.effects) :
    Quiet (updateStateAndNotifyClients env state service).effects :=
  h.append (quiet_sendEvent _ _)

theorem quiet_stopService (h : Quiet service.effects) :
    Quiet (ifNoListenersAndDisconnectedThenStopService service).effects := by
  unfold ifNoListenersAndDisconnectedThenStopService
  split
  · exact quiet_ask .stopService h nofun
  · exact h

theorem quiet_turnOffVPN (h : Quiet service.effects) : Quiet (turnOffVPN env service).effects := by
  apply quiet_updateStateAndNotifyClients env
  unfold VPNService.turnOffVPN
  split <;> exact h

theorem transitionOnDisconnect_leaves (state : VPNOrchestratorState) :
    state.transitionOnDisconnect.1.isDisconnectingOrDisconnected = true := by
  cases state <;> rfl

theorem isDisconnectingOrDisconnected_of_isDisconnected {state : VPNOrchestratorState}
    (h : state.isDisconnected = true) : state.isDisconnectingOrDisconnected = true := by
  cases state <;> first | rfl | cases h

/-- A session is in progress unless the orchestrator disconnects or is disconnected. -/
theorem requestId_eq_none {state : VPNOrchestratorState} :
    state.requestId = none ↔ state.isDisconnectingOrDisconnected = true := by
  cases state <;> simp [VPNOrchestratorState.requestId,
    VPNOrchestratorState.isDisconnectingOrDisconnected]

/-- The session is left, its end may be asked for, and the tunnel may be turned off. Nothing
else is asked for before that. -/
theorem onDisconnect_eq (env : HandlerEnv) (reason : String)
    (h : service.vpnOrchestratorState.isDisconnected = false) :
    ∃ asked : VPNService,
      onDisconnect env reason service = ifNoListenersAndDisconnectedThenStopService
        (if service.vpnOrchestratorState.transitionOnDisconnect.2.1 then turnOffVPN env asked
          else asked) ∧
      asked.vpnOrchestratorState = service.vpnOrchestratorState.transitionOnDisconnect.1 ∧
      asked.currentTunnelHandle = service.currentTunnelHandle ∧
      asked.tunnels = service.tunnels ∧
      ∃ farewell, asked.effects = service.effects ++ farewell ∧
        ∀ effect ∈ farewell, effect.isFarewell = true := by
  simp only [onDisconnect, h, Bool.false_eq_true, ↓reduceIte, ask_state]
  refine ⟨_, rfl, ?_, ?_, ?_, ?_⟩
  · split <;> rfl
  · split <;> rfl
  · split <;> rfl
  · let told : List Effect := (service.listeners.filter fun listener =>
      env.reachable listener.2).map fun listener => .sendEvent listener.2
        (.vpnState service.vpnOrchestratorState.transitionOnDisconnect.1.toVPNState)
    have htold : ∀ effect ∈ .cancelChildren :: told, effect.isFarewell = true := by
      intro effect hmem
      rcases List.mem_cons.1 hmem with rfl | hmem
      · rfl
      · obtain ⟨listener, -, rfl⟩ := List.mem_map.1 hmem
        rfl
    split
    · rename_i requestId _
      refine ⟨.cancelChildren :: told ++ [.endVpnSession requestId reason], ?_, ?_⟩
      · simp [VPNService.ask, updateStateAndNotifyClients, dispatchEvent, told]
      · intro effect hmem
        rcases List.mem_append.1 hmem with hmem | hmem
        · exact htold effect hmem
        · rw [List.mem_singleton.1 hmem]
          rfl
    · exact ⟨.cancelChildren :: told, List.append_assoc _ _ _, htold⟩

/-- Whoever disconnects leaves the session. -/
theorem onDisconnect_leaves (env : HandlerEnv) (reason : String) (h : Quiet service.effects) :
    (onDisconnect env reason service).vpnOrchestratorState.isDisconnectingOrDisconnected = true ∧
      Quiet (onDisconnect env reason service).effects := by
  cases hdisconnected : service.vpnOrchestratorState.isDisconnected with
  | true =>
      simp only [onDisconnect, hdisconnected, ↓reduceIte]
      exact ⟨isDisconnectingOrDisconnected_of_isDisconnected hdisconnected, h⟩
  | false =>
      obtain ⟨asked, heq, hstate, -, -, farewell, heffects, hfarewell⟩ :=
        onDisconnect_eq env reason hdisconnected
      have hquiet : Quiet asked.effects := by
        rw [heffects]
        exact h.append (quiet_of_isFarewell hfarewell)
      rw [heq, stopService_state]
      split
      · exact ⟨rfl, quiet_stopService (quiet_turnOffVPN hquiet)⟩
      · rw [hstate]
        exact ⟨transitionOnDisconnect_leaves _, quiet_stopService hquiet⟩

@[simp]
theorem serviceTurnOnVPN_state (config : Config) :
    (service.turnOnVPN env config).2.vpnOrchestratorState = service.vpnOrchestratorState := by
  simp only [VPNService.turnOnVPN]
  split
  · rfl
  · split <;> rfl

/-- The service is called, and the library as well if there is an interface. -/
theorem serviceTurnOnVPN_effects (env : HandlerEnv) (config : Config) (service : VPNService) :
    (service.turnOnVPN env config).2.effects = service.effects ++
      (.turnOnVPN config :: if env.established then [.wgTurnOn config] else []) := by
  cases hestablished : env.established with
  | false =>
      simp only [VPNService.turnOnVPN, hestablished, Bool.not_false, ↓reduceIte,
        Bool.false_eq_true]
      rfl
  | true =>
      simp only [VPNService.turnOnVPN, hestablished, Bool.not_true, Bool.false_eq_true,
        ↓reduceIte]
      split <;> exact List.append_assoc _ _ _

theorem quiet_serviceTurnOnVPN (env : HandlerEnv) (config : Config) (h : Quiet service.effects) :
    Quiet (service.turnOnVPN env config).2.effects := by
  rw [serviceTurnOnVPN_effects]
  apply h.append
  intro requestId location hmem
  split at hmem <;> simp at hmem

/-- Turning the tunnel on keeps the session, or leaves it. -/
theorem turnOnVPN_turns (location : Location) (content : ServerReady) (config : Config)
    (h : Quiet service.effects) :
    ((turnOnVPN env location content config service).vpnOrchestratorState.isDisconnectingOrDisconnected =
        true ∨
      (turnOnVPN env location content config service).vpnOrchestratorState.requestId =
        some content.requestId) ∧
      Quiet (turnOnVPN env location content config service).effects := by
  have hnotified : ∀ {asked : VPNService} (msg : String), Quiet asked.effects →
      Quiet (dispatchVpnNotification env msg asked).effects :=
    fun msg hasked => quiet_dispatchEvent _ hasked
  unfold turnOnVPN disconnectAndNotifyIfNoVPNPermission
  by_cases hprepared : env.preparedAgain = true
  · simp only [hprepared, Bool.not_true, Bool.false_eq_true, ↓reduceIte]
    have hconnecting := quiet_updateStateAndNotifyClients env
      (.connecting location content config) h
    generalize updateStateAndNotifyClients env (.connecting location content config) service =
      connecting at hconnecting
    have hconnecting := quiet_serviceTurnOnVPN env config hconnecting
    split
    · rename_i message failed hfailed
      rw [hfailed] at hconnecting
      obtain ⟨hleft, hquiet⟩ := onDisconnect_leaves env message (hnotified message hconnecting)
      exact ⟨.inl hleft, hquiet⟩
    · rename_i turnedOn hon
      rw [hon] at hconnecting
      exact ⟨.inr rfl, quiet_updateStateAndNotifyClients env _ hconnecting⟩
  · simp only [hprepared, Bool.not_false, ↓reduceIte]
    obtain ⟨hleft, hquiet⟩ := onDisconnect_leaves env "no vpn perms"
      (hnotified "No VPN permission" h)
    exact ⟨.inl hleft, hquiet⟩

/-! ## Handlers -/

theorem onConnectResponse_turns (location : Location)
    (result : Except String (Accepted × Interface)) (h : Quiet service.effects) :
    Turns wireGuard env service.vpnOrchestratorState (.connectResponse location result)
      (onConnectResponse env location result service) := by
  unfold onConnectResponse
  split
  · exact .keeps rfl h
  · rename_i hlive
    cases result with
    | ok answer =>
        apply Turns.adopts answer.1.requestId
        · simp [replacement, hlive]
        · rfl
        · exact quiet_updateStateAndNotifyClients env _ h
    | error message =>
        apply Turns.leaves
        · rfl
        · exact quiet_updateStateAndNotifyClients env _ (quiet_dispatchEvent _ h)

theorem onConnect_turns (location : Location) (h : Quiet service.effects) :
    Turns wireGuard env service.vpnOrchestratorState (.connect location)
      (onConnect env location service) := by
  unfold onConnect
  split
  · exact .keeps rfl (quiet_dispatchEvent _ h)
  · rename_i hidle
    split
    · exact .keeps rfl (quiet_dispatchEvent _ h)
    · rename_i hprepared
      refine .begins location _ (by simpa using hidle) (by simpa using hprepared) rfl ?_ rfl
      exact quiet_updateStateAndNotifyClients env _ (quiet_ask (.startForeground _) h nofun)

/-- The clients are told of a failure before anything else is looked at. -/
def toldOfFailure (env : HandlerEnv) (status : VpnSessionStatus) (service : VPNService) : VPNService :=
  if status.isFailed then
    dispatchVpnNotification env "Can't provision server. Please try again." service
  else service

@[simp]
theorem toldOfFailure_state (status : VpnSessionStatus) :
    (toldOfFailure env status service).vpnOrchestratorState = service.vpnOrchestratorState := by
  unfold toldOfFailure
  split <;> rfl

theorem quiet_toldOfFailure (status : VpnSessionStatus) (h : Quiet service.effects) :
    Quiet (toldOfFailure env status service).effects := by
  unfold toldOfFailure
  split
  · exact quiet_dispatchEvent _ h
  · exact h

/-- The outcomes of an update. -/
inductive Updates (wireGuard : WireGuard) (env : HandlerEnv) (location : Location)
    (status : VpnSessionStatus) (service : VPNService) : VPNService → Prop
  | drops (hgone : service.vpnOrchestratorState.isDisconnectingOrDisconnected = true) :
      Updates wireGuard env location status service service
  | revoked (hlive : service.vpnOrchestratorState.isDisconnectingOrDisconnected = false)
      (hprepared : env.prepared = false) :
      Updates wireGuard env location status service
        (onDisconnect env "no vpn perms"
          (dispatchVpnNotification env "No VPN permission" (toldOfFailure env status service)))
  | ignores (hlive : service.vpnOrchestratorState.isDisconnectingOrDisconnected = false)
      (hprepared : env.prepared = true)
      (hnew : service.vpnOrchestratorState.newStateFromUpdate wireGuard location status = .ok none) :
      Updates wireGuard env location status service (toldOfFailure env status service)
  | moves (state : VPNOrchestratorState)
      (hlive : service.vpnOrchestratorState.isDisconnectingOrDisconnected = false)
      (hprepared : env.prepared = true)
      (hnew : service.vpnOrchestratorState.newStateFromUpdate wireGuard location status =
        .ok (some state))
      (hready : ∀ location content config, state ≠ .serverReady location content config) :
      Updates wireGuard env location status service
        (updateStateAndNotifyClients env state (toldOfFailure env status service))
  | readies (place : Location) (content : ServerReady) (config : Config)
      (hlive : service.vpnOrchestratorState.isDisconnectingOrDisconnected = false)
      (hprepared : env.prepared = true)
      (hnew : service.vpnOrchestratorState.newStateFromUpdate wireGuard location status =
        .ok (some (.serverReady place content config))) :
      Updates wireGuard env location status service
        (turnOnVPN env place content config (updateStateAndNotifyClients env
          (.serverReady place content config) (toldOfFailure env status service)))

theorem updates_of_eq_ok {location : Location} {status : VpnSessionStatus}
    (h : onVpnSessionUpdate env wireGuard location status service = .ok next) :
    Updates wireGuard env location status service next := by
  unfold onVpnSessionUpdate at h
  split at h
  · rename_i hgone
    cases h
    exact .drops hgone
  · rename_i hlive
    rw [Bool.not_eq_true] at hlive
    have htold : (if status.isFailed = true then
        dispatchVpnNotification env "Can't provision server. Please try again." service
        else service) = toldOfFailure env status service := rfl
    rw [htold] at h
    cases hprepared : env.prepared with
    | false =>
        simp only [disconnectAndNotifyIfNoVPNPermission, hprepared, Bool.not_false, ↓reduceIte] at h
        cases h
        exact .revoked hlive hprepared
    | true =>
        simp only [disconnectAndNotifyIfNoVPNPermission, hprepared, Bool.not_true,
          Bool.false_eq_true, ↓reduceIte, toldOfFailure_state] at h
        split at h
        · cases h
        · rename_i hnew
          cases h
          exact .ignores hlive hprepared hnew
        · rename_i state hnew
          split at h
          · cases h
            exact .readies _ _ _ hlive hprepared hnew
          · rename_i hready
            cases h
            exact .moves state hlive hprepared hnew hready

theorem eq_ok_of_updates {location : Location} {status : VpnSessionStatus}
    (h : Updates wireGuard env location status service next) :
    onVpnSessionUpdate env wireGuard location status service = .ok next := by
  have htold : (if status.isFailed = true then
      dispatchVpnNotification env "Can't provision server. Please try again." service
      else service) = toldOfFailure env status service := rfl
  unfold onVpnSessionUpdate
  cases h with
  | drops hgone => simp only [hgone, ↓reduceIte]
  | revoked hlive hprepared =>
      simp only [hlive, Bool.false_eq_true, ↓reduceIte, htold,
        disconnectAndNotifyIfNoVPNPermission, hprepared, Bool.not_false]
  | ignores hlive hprepared hnew =>
      simp only [hlive, Bool.false_eq_true, ↓reduceIte, htold,
        disconnectAndNotifyIfNoVPNPermission, hprepared, Bool.not_true, toldOfFailure_state, hnew]
  | moves state hlive hprepared hnew hready =>
      simp only [hlive, Bool.false_eq_true, ↓reduceIte, htold,
        disconnectAndNotifyIfNoVPNPermission, hprepared, Bool.not_true, toldOfFailure_state, hnew]
  | readies place content config hlive hprepared hnew =>
      simp only [hlive, Bool.false_eq_true, ↓reduceIte, htold,
        disconnectAndNotifyIfNoVPNPermission, hprepared, Bool.not_true, toldOfFailure_state, hnew]

theorem onVpnSessionUpdate_turns {location : Location} {status : VpnSessionStatus}
    (h : onVpnSessionUpdate env wireGuard location status service = .ok next)
    (hquiet : Quiet service.effects) :
    Turns wireGuard env service.vpnOrchestratorState (.vpnSessionUpdate location status) next := by
  have htold : Quiet (toldOfFailure env status service).effects := quiet_toldOfFailure status hquiet
  cases updates_of_eq_ok h with
  | drops hgone => exact .keeps rfl hquiet
  | revoked hlive hprepared =>
      obtain ⟨hleft, hquiet⟩ := onDisconnect_leaves env "no vpn perms" (quiet_dispatchEvent _ htold)
      exact .leaves hleft hquiet
  | ignores hlive hprepared hnew => exact .keeps (toldOfFailure_state status) htold
  | moves state hlive hprepared hnew hready =>
      have hmoved := quiet_updateStateAndNotifyClients env state htold
      cases hname : state.requestId with
      | none =>
          exact .leaves (requestId_eq_none.1 hname) hmoved
      | some requestId =>
          apply Turns.adopts requestId _ hname hmoved
          simp [replacement, hlive, hnew, hname]
  | readies location content config hlive hprepared hnew =>
      obtain ⟨hturned, hquiet⟩ := turnOnVPN_turns location content config
        (quiet_updateStateAndNotifyClients env (.serverReady location content config) htold)
      rcases hturned with hleft | hname
      · exact .leaves hleft hquiet
      · apply Turns.adopts content.requestId _ hname hquiet
        simp [replacement, hlive, hnew, VPNOrchestratorState.requestId]

/-- What a handler does to the session. -/
theorem handle_turns {invocation : Invocation}
    (h : handle env wireGuard service invocation = .ok next) (hquiet : Quiet service.effects) :
    Turns wireGuard env service.vpnOrchestratorState invocation next := by
  cases invocation with
  | connect location =>
      cases h
      exact onConnect_turns location hquiet
  | connectResponse location result =>
      cases h
      exact onConnectResponse_turns location result hquiet
  | vpnSessionUpdate location status => exact onVpnSessionUpdate_turns h hquiet
  | disconnect =>
      cases h
      obtain ⟨hleft, hquiet⟩ := onDisconnect_leaves env "user requested" hquiet
      exact .leaves hleft hquiet
  | revoke =>
      cases h
      obtain ⟨hleft, hquiet⟩ := onDisconnect_leaves env "revoked"
        (quiet_ask .cleanupIPC hquiet nofun)
      exact .leaves hleft hquiet
  | destroy =>
      cases h
      obtain ⟨hleft, hquiet⟩ := onDisconnect_leaves env "destroyed"
        (quiet_ask .cleanupIPC hquiet nofun)
      exact .leaves hleft hquiet
  | registerListener listener =>
      cases h
      unfold onRegisterListener
      split
      · refine .keeps rfl (hquiet.append ?_)
        simp [Quiet]
      · exact .keeps rfl hquiet
  | deregisterListener id =>
      cases h
      refine .keeps ?_ (quiet_stopService hquiet)
      rw [onDeregisterListener, stopService_state]

theorem map_ready_eq_ok {wireGuard : WireGuard} {interFace : Interface} {location : Location}
    {content : ServerReady} {next : VPNOrchestratorState}
    (h : (toConfig wireGuard interFace content).map (fun config =>
      some (VPNOrchestratorState.serverReady location content config)) = .ok (some next)) :
    ∃ config, next = .serverReady location content config := by
  cases hconfig : toConfig wireGuard interFace content with
  | error thrown =>
      rw [hconfig] at h
      cases h
  | ok config =>
      rw [hconfig] at h
      cases h
      exact ⟨config, rfl⟩

theorem names_of_newStateFromUpdate {state next : VPNOrchestratorState} {location : Location}
    {status : VpnSessionStatus} {requestId : Uuid}
    (h : state.newStateFromUpdate wireGuard location status = .ok (some next))
    (hname : next.requestId = some requestId) :
    requestId = status.requestId ∨ state.requestId = some requestId := by
  cases status with
  | failed content =>
      cases h
      cases hname
  | clientConnected content | ended content => cases h
  | accepted content =>
      cases state <;> cases h
      exact .inr hname
  | serverCreated content | serverRunning content =>
      cases state <;> cases h <;> first | exact .inr hname | (cases hname; exact .inl rfl)
  | serverReady content =>
      cases state <;> simp only [VPNOrchestratorState.newStateFromUpdate] at h
      case serverReady =>
        cases h
        exact .inr hname
      all_goals first
        | obtain ⟨config, rfl⟩ := map_ready_eq_ok h
          cases hname
          exact .inl rfl
        | cases h

/-- An answer puts the session it names in the place of the one in progress, or keeps that. -/
theorem names_of_replacement {state : VPNOrchestratorState} {invocation : Invocation}
    {requestId : Uuid} (h : requestId ∈ replacement wireGuard state invocation) :
    state.isDisconnectingOrDisconnected = false ∧
      (requestId ∈ invocation.names ∨ state.requestId = some requestId) := by
  cases invocation with
  | connectResponse location result =>
      cases result with
      | error message => cases h
      | ok answer =>
          simp only [replacement] at h
          split at h
          · cases h
          · rename_i hlive
            exact ⟨by simpa using hlive, .inl h⟩
  | vpnSessionUpdate location status =>
      simp only [replacement] at h
      split at h
      · cases h
      · rename_i hlive
        refine ⟨by simpa using hlive, ?_⟩
        split at h
        · rename_i next hnew
          rcases names_of_newStateFromUpdate hnew h with rfl | hsame
          · exact .inl rfl
          · exact .inr hsame
        · cases h
        · cases h
  | connect location | disconnect | registerListener listener | deregisterListener id | revoke
  | destroy => cases h

/-- A handler that starts with nothing asked for. -/
theorem turns_of_handle {invocation : Invocation}
    (h : handle env wireGuard { service with effects := [] } invocation = .ok next) :
    Turns wireGuard env service.vpnOrchestratorState invocation next := by
  have hturns := handle_turns h quiet_nil
  exact hturns

end VPNOrchestrator

/-! ## The world after a handler -/

namespace Phone

open VPNOrchestrator

variable {wireGuard : WireGuard} {env : HandlerEnv} {phone : Phone} {service next : VPNService}
  {invocation : Invocation}

/-- What is done for a handler other than beginning a session. -/
theorem foldl_carryOut_quiet {effects : List Effect} (h : Quiet effects) :
    (effects.foldl (carryOut wireGuard) phone).world.session = phone.world.session ∧
      (effects.foldl (carryOut wireGuard) phone).world.issued = phone.world.issued := by
  induction effects generalizing phone with
  | nil => exact ⟨rfl, rfl⟩
  | cons effect effects ih =>
      obtain ⟨hsession, hissued⟩ := @ih (phone.carryOut wireGuard effect)
        fun requestId location hmem => h requestId location (List.mem_cons_of_mem _ hmem)
      rw [List.foldl_cons, hsession, hissued]
      cases effect with
      | newVpnSession requestId location =>
          exact absurd (List.mem_cons_self ..) (h requestId location)
      | sendEvent messenger event | startForeground vpnState | stopService | cancelChildren
      | cleanupIPC | endVpnSession requestId reason | turnOnVPN config | wgTurnOn config =>
          exact ⟨rfl, rfl⟩

theorem foldl_carryOut_service (wireGuard : WireGuard) (phone : Phone) (effects : List Effect) :
    (effects.foldl (carryOut wireGuard) phone).world.service = phone.world.service ∧
      (effects.foldl (carryOut wireGuard) phone).world.queue ⊆ phone.world.queue := by
  induction effects generalizing phone with
  | nil => exact ⟨rfl, List.Subset.refl _⟩
  | cons effect effects ih =>
      obtain ⟨hservice, hqueue⟩ := ih (phone.carryOut wireGuard effect)
      rw [List.foldl_cons, hservice]
      cases effect with
      | cleanupIPC => exact ⟨rfl, List.Subset.trans hqueue (List.nil_subset _)⟩
      | newVpnSession requestId location | sendEvent messenger event | startForeground vpnState
      | stopService | cancelChildren | endVpnSession requestId reason | turnOnVPN config
      | wgTurnOn config => exact ⟨rfl, hqueue⟩

theorem handled_service : (phone.handled wireGuard service).world.service = some service :=
  (foldl_carryOut_service wireGuard _ service.effects).1

theorem handled_queue : (phone.handled wireGuard service).world.queue ⊆ phone.world.queue :=
  (foldl_carryOut_service wireGuard
    { phone with world := { phone.world with service := some service } } service.effects).2

theorem handled_held :
    (phone.handled wireGuard service).world.held = service.vpnOrchestratorState.requestId := by
  rw [World.held, handled_service]
  rfl

/-- The session goes on until the orchestrator is disconnected. -/
theorem handled_session_of_quiet (h : Quiet service.effects) :
    (phone.handled wireGuard service).world.session =
      if service.vpnOrchestratorState.isDisconnected then none else phone.world.session := by
  simp only [handled, (foldl_carryOut_quiet h).1]

/-- The session that a request to connect begins. -/
theorem handled_session_of_begins {asked : List Effect} {requestId : Uuid} {location : Location}
    (heffects : service.effects = asked ++ [.newVpnSession requestId location])
    (hstate : service.vpnOrchestratorState = .requesting requestId location) :
    (phone.handled wireGuard service).world.session = some requestId := by
  simp only [handled, heffects, List.foldl_append, List.foldl_cons, List.foldl_nil, hstate,
    VPNOrchestratorState.isDisconnected, Bool.false_eq_true, ↓reduceIte]
  rfl

end Phone

end Modvpn.Android
