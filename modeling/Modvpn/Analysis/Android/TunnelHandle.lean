/-
# The tunnel of the device and the orchestrator's state

To the tunnel a handler does one of few things: nothing, turning it off, turning it on,
turning it on in vain. While these are all, the tunnel is up exactly when the
orchestrator is connected. There is one more thing a handler may do: leave the connected
state and forget the tunnel. A failed session does so, and so does a second answer to a
request to connect.
-/

import Modvpn.Analysis.Android.Handling

namespace Modvpn.Android

open Modvpn.Protocol

/-! ## The tunnel as the handlers see it -/

structure Link where
  handle : Int
  tunnels : List Int
  connected : Bool

namespace Link

def on (handle : Int) (link : Link) : Link where
  handle := handle
  tunnels := handle :: link.tunnels
  connected := true

def off (link : Link) : Link where
  handle := -1
  tunnels := if link.handle ≠ -1 then link.tunnels.erase link.handle else link.tunnels
  connected := false

def forgotten (link : Link) : Link := { link with connected := false }

/-- The tunnel is up exactly when the orchestrator is connected, and there is no other. -/
def Consistent (link : Link) : Prop :=
  (link.handle ≠ -1 ↔ link.connected = true) ∧
    ∀ tunnel ∈ link.tunnels, tunnel = link.handle

/-- Handles are handed out once. -/
def Sane (link : Link) : Prop :=
  link.tunnels.Nodup ∧ ∀ tunnel ∈ link.tunnels, 0 ≤ tunnel

/-- What a handler does to the tunnel. -/
inductive Acts (env : HandlerEnv) (may : Prop) (link : Link) : Link → Prop
  | stays : Acts env may link link
  | turnsOff : Acts env may link link.off
  | turnsOn (h : link.connected = false) (hhandle : 0 ≤ env.tunnelHandle) :
      Acts env may link (link.on env.tunnelHandle)
  /-- The library has no tunnel to offer. -/
  | fails (h : link.connected = false) (hhandle : env.tunnelHandle < 0) :
      Acts env may link { link with handle := env.tunnelHandle }.off
  | forgets (h : may) : Acts env may link link.forgotten

variable {link target : Link} {env : HandlerEnv} {may : Prop}

theorem Consistent.tunnels_eq_nil (h : link.Consistent) (hsane : link.Sane)
    (hconnected : link.connected = false) : link.handle = -1 ∧ link.tunnels = [] := by
  obtain ⟨hiff, honly⟩ := h
  rw [hconnected] at hiff
  have hhandle : link.handle = -1 := by simpa using hiff
  refine ⟨hhandle, List.eq_nil_iff_forall_not_mem.2 fun tunnel htunnel => ?_⟩
  have hnonneg := hsane.2 tunnel htunnel
  rw [honly tunnel htunnel, hhandle] at hnonneg
  omega

theorem Consistent.off (h : link.Consistent) (hsane : link.Sane) : link.off.Consistent := by
  refine ⟨by simp [Link.off], fun tunnel htunnel => ?_⟩
  simp only [Link.off] at htunnel
  split at htunnel
  · have hne := (hsane.1.mem_erase_iff.1 htunnel)
    exact absurd (h.2 tunnel hne.2) hne.1
  · rename_i hhandle
    rw [h.2 tunnel htunnel]
    exact not_not.1 hhandle

/-- Forgetting the tunnel leaves it up. -/
theorem forgotten_not_consistent (h : link.Consistent) (hconnected : link.connected = true) :
    ¬ link.forgotten.Consistent := by
  intro hforgotten
  have hhandle := h.1.2 hconnected
  cases hforgotten.1.1 hhandle

theorem Acts.sane (h : Acts env may link target) (hsane : link.Sane)
    (hoffers : env.tunnelHandle = -1 ∨ 0 ≤ env.tunnelHandle ∧ env.tunnelHandle ∉ link.tunnels) :
    target.Sane := by
  have herase : ∀ handle, ({ link with handle } : Link).off.Sane := by
    intro handle
    simp only [Sane, off]
    split
    · exact ⟨hsane.1.erase _, fun tunnel htunnel => hsane.2 tunnel (List.mem_of_mem_erase htunnel)⟩
    · exact hsane
  cases h with
  | stays | forgets _ => exact hsane
  | turnsOff => exact herase link.handle
  | fails _ _ => exact herase env.tunnelHandle
  | turnsOn _ hhandle =>
      have hfresh : env.tunnelHandle ∉ link.tunnels := by
        rcases hoffers with hnone | ⟨-, hfresh⟩
        · omega
        · exact hfresh
      refine ⟨List.nodup_cons.2 ⟨hfresh, hsane.1⟩, fun tunnel htunnel => ?_⟩
      rcases List.mem_cons.1 htunnel with rfl | htunnel
      · exact hhandle
      · exact hsane.2 tunnel htunnel

/-- A handler that does not forget the tunnel keeps it as the orchestrator says. -/
theorem Acts.consistent (h : Acts env may link target) (hsane : link.Sane)
    (hoffers : env.tunnelHandle = -1 ∨ 0 ≤ env.tunnelHandle ∧ env.tunnelHandle ∉ link.tunnels)
    (hsource : link.Consistent) (hnot : ¬ may) : target.Consistent := by
  cases h with
  | stays => exact hsource
  | turnsOff => exact hsource.off hsane
  | forgets hforgets => exact absurd hforgets hnot
  | turnsOn hconnected hhandle =>
      obtain ⟨-, hnil⟩ := hsource.tunnels_eq_nil hsane hconnected
      simp only [Consistent, on, hnil]
      refine ⟨?_, by simp⟩
      simp only [iff_true]
      omega
  | fails hconnected hhandle =>
      obtain ⟨-, hnil⟩ := hsource.tunnels_eq_nil hsane hconnected
      have hnone : env.tunnelHandle = -1 := by
        rcases hoffers with hnone | ⟨hnonneg, -⟩
        · exact hnone
        · omega
      simp [Consistent, off, hnone, hnil]

end Link

/-! ## What each handler does to the tunnel -/

def VPNService.link (service : VPNService) : Link where
  handle := service.currentTunnelHandle
  tunnels := service.tunnels
  connected := service.vpnOrchestratorState.isConnected

namespace VPNOrchestrator

variable {env : HandlerEnv} {service target : VPNService} {may : Prop}

@[simp]
theorem ask_link (effect : Effect) : (service.ask effect).link = service.link := rfl

@[simp]
theorem dispatchEvent_link (event : Event) :
    (dispatchEvent env event service).link = service.link := rfl

@[simp]
theorem dispatchVpnNotification_link (msg : String) :
    (dispatchVpnNotification env msg service).link = service.link := rfl

@[simp]
theorem updateStateAndNotifyClients_link (state : VPNOrchestratorState) :
    (updateStateAndNotifyClients env state service).link =
      { service.link with connected := state.isConnected } := rfl

@[simp]
theorem stopService_link :
    (ifNoListenersAndDisconnectedThenStopService service).link = service.link := by
  unfold ifNoListenersAndDisconnectedThenStopService
  split <;> rfl

theorem turnOffVPN_link : (turnOffVPN env service).link = service.link.off := by
  by_cases hhandle : service.currentTunnelHandle = -1
  · simp [turnOffVPN, VPNService.turnOffVPN, VPNService.link, Link.off, hhandle,
      VPNOrchestratorState.isConnected, updateStateAndNotifyClients, dispatchEvent]
  · simp [turnOffVPN, VPNService.turnOffVPN, VPNService.link, Link.off, hhandle,
      VPNOrchestratorState.isConnected, updateStateAndNotifyClients, dispatchEvent]

/-- A state that is not connected, as long as the orchestrator is not. -/
theorem link_eq {connected : Bool} (h : service.vpnOrchestratorState.isConnected = connected) :
    { service.link with connected } = service.link := by
  rw [← h]
  rfl

theorem transitionOnDisconnect_isConnected {state : VPNOrchestratorState}
    (h : state.transitionOnDisconnect.2.1 = false) :
    state.transitionOnDisconnect.1.isConnected = state.isConnected := by
  cases state <;> first | rfl | cases h

/-- Disconnecting turns the tunnel off where the orchestrator has turned it on. -/
theorem onDisconnect_link (reason : String) :
    (onDisconnect env reason service).link =
      if service.vpnOrchestratorState.transitionOnDisconnect.2.1 then service.link.off
      else service.link := by
  cases hdisconnected : service.vpnOrchestratorState.isDisconnected with
  | true =>
      have hstate : service.vpnOrchestratorState = .disconnected := by
        revert hdisconnected
        cases service.vpnOrchestratorState <;> simp [VPNOrchestratorState.isDisconnected]
      simp [onDisconnect, hstate, VPNOrchestratorState.isDisconnected,
        VPNOrchestratorState.transitionOnDisconnect]
  | false =>
      obtain ⟨asked, heq, hstate, hhandle, htunnels, -⟩ := onDisconnect_eq env reason hdisconnected
      have hasked : asked.link = { service.link with
          connected := service.vpnOrchestratorState.transitionOnDisconnect.1.isConnected } := by
        simp only [VPNService.link, hstate, hhandle, htunnels]
      rw [heq, stopService_link]
      split
      · rw [turnOffVPN_link, hasked]
        rfl
      · rename_i hoff
        rw [hasked]
        exact link_eq (transitionOnDisconnect_isConnected (eq_false_of_ne_true hoff)).symm

theorem onDisconnect_acts {asked : VPNService} (reason : String)
    (h : asked.link = service.link) :
    Link.Acts env may service.link (onDisconnect env reason asked).link := by
  rw [onDisconnect_link, h]
  split
  · exact .turnsOff
  · exact .stays

theorem turnOnVPN_acts (location : Location) (content : ServerReady) (config : Config)
    (h : service.vpnOrchestratorState.isConnected = false) :
    Link.Acts env may service.link (turnOnVPN env location content config service).link := by
  simp only [turnOnVPN, disconnectAndNotifyIfNoVPNPermission]
  by_cases hprepared : env.preparedAgain = true
  · simp only [hprepared, Bool.not_true, Bool.false_eq_true, ↓reduceIte, VPNService.turnOnVPN]
    have hconnected : service.link.connected = false := h
    by_cases hestablished : env.established = true
    · simp only [hestablished, Bool.not_true, Bool.false_eq_true, ↓reduceIte]
      by_cases hhandle : env.tunnelHandle < 0
      · have hnot : ¬ 0 ≤ env.tunnelHandle := by omega
        simp only [hhandle, ↓reduceIte, hnot, onDisconnect_link,
          dispatchVpnNotification_state]
        exact .fails hconnected hhandle
      · have hnonneg : 0 ≤ env.tunnelHandle := by omega
        simp only [hhandle, ↓reduceIte, hnonneg]
        exact .turnsOn hconnected hnonneg
    · simp only [hestablished, Bool.not_false, ↓reduceIte, onDisconnect_link]
      exact .turnsOff
  · simp only [hprepared, Bool.not_false, ↓reduceIte]
    exact onDisconnect_acts _ rfl

/-- An update does not lead to the connected state, and only a failure leads out of it. -/
theorem newStateFromUpdate_isConnected {wireGuard : WireGuard} {state next : VPNOrchestratorState}
    {location : Location} {status : VpnSessionStatus}
    (h : state.newStateFromUpdate wireGuard location status = .ok (some next)) :
    next.isConnected = false ∧ (state.isConnected = true → status.isFailed = true) := by
  cases status with
  | serverReady content =>
      cases state <;> simp only [VPNOrchestratorState.newStateFromUpdate] at h <;>
        first
        | obtain ⟨config, rfl⟩ := map_ready_eq_ok h
          exact ⟨rfl, fun hconnected => by cases hconnected⟩
        | cases h
          try exact ⟨rfl, fun hconnected => by cases hconnected⟩
  | failed content =>
      cases h
      exact ⟨rfl, fun _ => rfl⟩
  | accepted content | serverCreated content | serverRunning content | clientConnected content
  | ended content =>
      cases state <;> cases h <;> exact ⟨rfl, fun hconnected => by cases hconnected⟩

theorem newStateFromUpdate_of_isFailed {wireGuard : WireGuard}
    {state next : VPNOrchestratorState} {location : Location} {status : VpnSessionStatus}
    (hfailed : status.isFailed = true)
    (h : state.newStateFromUpdate wireGuard location status = .ok (some next)) :
    next = .disconnected := by
  cases status with
  | failed content =>
      cases h
      rfl
  | accepted content | serverCreated content | serverRunning content | serverReady content
  | clientConnected content | ended content => cases hfailed

/-- The handler leaves the connected state and does not turn the tunnel off. -/
def forgets (service : VPNService) (label : Invocation × HandlerEnv) : Bool :=
  service.vpnOrchestratorState.isConnected &&
    match label.1 with
    | .connectResponse _ _ => true
    | .vpnSessionUpdate _ status => status.isFailed && label.2.prepared
    | _ => false

/-- A new state that is not connected. -/
theorem acts_of_update (h : service.vpnOrchestratorState.isConnected = true → may) :
    Link.Acts env may service.link { service.link with connected := false } := by
  cases hconnected : service.vpnOrchestratorState.isConnected with
  | true => exact .forgets (h hconnected)
  | false =>
      rw [link_eq hconnected]
      exact .stays

theorem isConnected_of_isDisconnectingOrDisconnected {state : VPNOrchestratorState}
    (h : state.isConnected = true) : state.isDisconnectingOrDisconnected = false := by
  cases state <;> first | rfl | cases h

theorem isDisconnected_of_isConnected {state : VPNOrchestratorState}
    (h : state.isConnected = true) : state.isDisconnected = false := by
  cases state <;> first | rfl | cases h

theorem onConnectResponse_link (location : Location)
    (result : Except String (Accepted × Interface)) :
    (onConnectResponse env location result service).link =
      if service.vpnOrchestratorState.isDisconnectingOrDisconnected then service.link
      else service.link.forgotten := by
  unfold onConnectResponse
  split
  · rfl
  · cases result <;> rfl

@[simp]
theorem toldOfFailure_link (status : VpnSessionStatus) :
    (toldOfFailure env status service).link = service.link := by
  unfold toldOfFailure
  split <;> rfl

theorem onVpnSessionUpdate_acts {wireGuard : WireGuard} {location : Location}
    {status : VpnSessionStatus}
    (h : onVpnSessionUpdate env wireGuard location status service = .ok target) :
    Link.Acts env (forgets service (.vpnSessionUpdate location status, env) = true)
      service.link target.link := by
  cases updates_of_eq_ok h with
  | drops hgone => exact .stays
  | revoked hlive hprepared => exact onDisconnect_acts _ (toldOfFailure_link status)
  | ignores hlive hprepared hnew =>
      rw [toldOfFailure_link]
      exact .stays
  | moves state hlive hprepared hnew hready =>
      -- the orchestrator leaves the connected state only for a failure
      obtain ⟨hnot, hfailed⟩ := newStateFromUpdate_isConnected hnew
      rw [updateStateAndNotifyClients_link, hnot, toldOfFailure_link]
      apply acts_of_update
      intro hconnected
      simp [forgets, hconnected, hfailed hconnected, hprepared]
  | readies place content config hlive hprepared hnew =>
      obtain ⟨hnot, hfailed⟩ := newStateFromUpdate_isConnected hnew
      have hidle : service.vpnOrchestratorState.isConnected = false := by
        by_contra hconnected
        have hlost := newStateFromUpdate_of_isFailed
          (hfailed (Bool.not_eq_false _ ▸ hconnected)) hnew
        cases hlost
      have hsame : (updateStateAndNotifyClients env (.serverReady place content config)
          (toldOfFailure env status service)).link = service.link := by
        rw [updateStateAndNotifyClients_link, hnot, toldOfFailure_link]
        exact link_eq hidle
      rw [← hsame]
      exact turnOnVPN_acts place content config hnot

theorem handle_acts {wireGuard : WireGuard} {invocation : Invocation}
    (h : handle env wireGuard service invocation = .ok target) :
    Link.Acts env (forgets service (invocation, env) = true) service.link target.link := by
  cases invocation with
  | connect location =>
      cases h
      unfold onConnect
      split
      · exact .stays
      · split
        · exact .stays
        · rename_i hdisconnected _
          apply acts_of_update
          intro hconnected
          rw [isDisconnected_of_isConnected hconnected] at hdisconnected
          exact absurd rfl hdisconnected
  | disconnect =>
      cases h
      exact onDisconnect_acts _ rfl
  | connectResponse location result =>
      cases h
      rw [onConnectResponse_link]
      split
      · exact .stays
      · apply acts_of_update
        intro hconnected
        simp [VPNOrchestrator.forgets, hconnected]
  | vpnSessionUpdate location status => exact onVpnSessionUpdate_acts h
  | registerListener listener =>
      cases h
      unfold onRegisterListener
      split <;> exact .stays
  | deregisterListener id =>
      cases h
      rw [onDeregisterListener, stopService_link]
      exact .stays
  | revoke | destroy =>
      cases h
      exact onDisconnect_acts _ rfl

/-- What the handler then does. -/
theorem handle_forgets {wireGuard : WireGuard} {invocation : Invocation}
    (h : handle env wireGuard service invocation = .ok target)
    (hforgets : forgets service (invocation, env) = true) :
    target.link = service.link.forgotten := by
  rw [forgets, Bool.and_eq_true] at hforgets
  obtain ⟨hconnected, hforgets⟩ := hforgets
  have hprogress := isConnected_of_isDisconnectingOrDisconnected hconnected
  cases invocation with
  | connectResponse location result =>
      cases h
      simp [onConnectResponse_link, hprogress]
  | vpnSessionUpdate location status =>
      cases status with
      | failed content =>
          have hprepared : env.prepared = true := hforgets
          simp only [handle, onVpnSessionUpdate, hprogress, VpnSessionStatus.isFailed,
            disconnectAndNotifyIfNoVPNPermission, hprepared, Bool.not_true, Bool.false_eq_true,
            ↓reduceIte, VPNOrchestratorState.newStateFromUpdate] at h
          cases h
          rfl
      | accepted content | serverCreated content | serverRunning content | serverReady content
      | clientConnected content | ended content => cases hforgets
  | connect _ | disconnect | registerListener _ | deregisterListener _ | revoke | destroy =>
      cases hforgets

/-! ## Runs -/

/-- The handler leaves the tunnel to a state that knows of it. -/
def Keeps (service : VPNService) (label : Invocation × HandlerEnv) : Prop :=
  forgets service label = false

/-- The handle is set exactly while the orchestrator is connected, and no other tunnel is up. -/
def Consistent (service : VPNService) : Prop :=
  (service.currentTunnelHandle ≠ -1 ↔ service.vpnOrchestratorState.isConnected = true) ∧
    ∀ tunnel ∈ service.tunnels, tunnel = service.currentTunnelHandle

/-- A step is one handler. -/
theorem handle_of_step {wireGuard : WireGuard} {service target : VPNService}
    {label : Invocation × HandlerEnv} (h : (system wireGuard).step service label = some target) :
    service.offers label.2 = true ∧
      handle label.2 wireGuard { service with effects := [] } label.1 = .ok target := by
  simp only [system] at h
  split at h
  · rename_i hoffers
    refine ⟨hoffers, ?_⟩
    cases hhandle : handle label.2 wireGuard { service with effects := [] } label.1 with
    | error thrown =>
        rw [hhandle] at h
        cases h
    | ok next =>
        rw [hhandle] at h
        cases h
        rfl
  · cases h

/-- What a step does to the tunnel, and what it does when it forgets the tunnel. -/
theorem step_acts {wireGuard : WireGuard} {label : Invocation × HandlerEnv}
    (h : (system wireGuard).step service label = some target) :
    (label.2.tunnelHandle = -1 ∨
        0 ≤ label.2.tunnelHandle ∧ label.2.tunnelHandle ∉ service.link.tunnels) ∧
      Link.Acts label.2 (forgets service label = true) service.link target.link ∧
      (forgets service label = true → target.link = service.link.forgotten) := by
  obtain ⟨hoffers, hhandle⟩ := handle_of_step h
  have hoffers : label.2.tunnelHandle = -1 ∨
      0 ≤ label.2.tunnelHandle ∧ label.2.tunnelHandle ∉ service.link.tunnels := by
    simpa [VPNService.offers, VPNService.link] using hoffers
  have hacts := handle_acts hhandle
  refine ⟨hoffers, hacts, fun hlost => ?_⟩
  have hlink := handle_forgets hhandle hlost
  exact hlink

/-- The tunnel is up exactly while the orchestrator is connected, in the whole run, if and
only if no handler forgets the tunnel. -/
theorem visits_consistent_iff_keeps {wireGuard : WireGuard}
    (trace : (system wireGuard).Trace service) :
    trace.Visits Consistent ↔ trace.Obeys Keeps := by
  apply TransitionSystem.Trace.visits_iff_obeys (I := fun service => service.link.Sane)
  · rintro _ rfl
    exact ⟨⟨List.nodup_nil, nofun⟩, by decide, nofun⟩
  · intro source label target hstep hsane
    obtain ⟨hoffers, hacts, -⟩ := step_acts hstep
    exact hacts.sane hsane hoffers
  · intro source label target hstep hsane hsource
    obtain ⟨hoffers, hacts, hforgets⟩ := step_acts hstep
    constructor
    · intro htarget
      cases hlost : forgets source label with
      | false => exact hlost
      | true =>
          have hconnected := (Bool.and_eq_true_iff.1 hlost).1
          have hsource : source.link.Consistent := hsource
          have hleft := Link.forgotten_not_consistent hsource hconnected
          rw [← hforgets hlost] at hleft
          exact absurd htarget hleft
    · intro hkeeps
      apply hacts.consistent hsane hoffers hsource
      rw [hkeeps]
      exact Bool.false_ne_true

/-! ## A session that fails after it was connected -/

open Android.Sample

/-- The session is connected. -/
def connecting : List (Invocation × HandlerEnv) :=
  [.connect location, .connectResponse location (.ok (⟨requestId, vpnSessionUuid⟩, interFace)),
    .vpnSessionUpdate location (.serverReady serverReady)].map (·, granted)

theorem init_new (wireGuard : WireGuard) : (system wireGuard).Init .new := rfl

theorem not_forall_tunnelConsistent : ¬ ∀ (wireGuard : WireGuard) (service : VPNService),
    (system wireGuard).Reachable service → Consistent service := by
  intro h
  obtain ⟨service, trace, -, hcheck⟩ := (system wireGuard).exists_trace_of_run
    (fun _ _ => True) (init_new wireGuard)
    (connecting ++
      [(.vpnSessionUpdate location (.failed ⟨requestId, vpnSessionUuid⟩),
        { granted with tunnelHandle := 4 })])
    (fun service => decide (service.currentTunnelHandle = 3 ∧
      service.vpnOrchestratorState = .disconnected)) (by decide +kernel)
  obtain ⟨hhandle, hstate⟩ := of_decide_eq_true hcheck
  have hconsistent := (h wireGuard service ⟨trace⟩).1
  rw [hhandle, hstate] at hconsistent
  cases hconsistent.1 (by decide)

end VPNOrchestrator

end Modvpn.Android
