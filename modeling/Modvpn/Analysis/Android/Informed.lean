/-
# What a client of the service is told

Every change of the orchestrator's state is sent to a client that listens, so the last
state that the client was told is the orchestrator's. A client that does not listen is
told nothing.
-/

import Modvpn.Android.HomeViewModel
import Modvpn.Analysis.Android.Preserves

namespace Modvpn.Android

open Modvpn.Protocol
open VPNOrchestrator

namespace Home

/-- The states among the events. -/
def states (events : List Event) : List VPNState :=
  events.filterMap fun
    | .vpnState vpnState => some vpnState
    | .listenerRegistered _ | .vpnNotification _ => none

@[simp]
theorem states_append (first second : List Event) :
    states (first ++ second) = states first ++ states second := List.filterMap_append

@[simp]
theorem mail_append (messenger : Messenger) (first second : List Effect) :
    mail messenger (first ++ second) = mail messenger first ++ mail messenger second :=
  List.filterMap_append

def listens (messenger : Messenger) (service : VPNService) : Prop :=
  ∃ id, (id, messenger) ∈ service.listeners

/-- The client listens or does not. If it does, the last state it was told, or else the
initial one, is the orchestrator's; if it does not, it is told nothing. -/
structure Informed (messenger : Messenger) (listening revoked : Prop) (initial : VPNState)
    (service : VPNService) : Prop where
  listens : listens messenger service ↔ listening
  told : listening → (states (mail messenger service.effects)).getLast?.getD initial =
    service.vpnOrchestratorState.toVPNState
  unheard : ¬ listening → mail messenger service.effects = []
  cleanup : .cleanupIPC ∈ service.effects → revoked

section Informed

variable {wireGuard : WireGuard} {env : HandlerEnv} {service next : VPNService}
  {messenger : Messenger} {listening revoked : Prop} {initial : VPNState}

theorem informed_nil (h : listens messenger service ↔ listening) :
    Informed messenger listening revoked service.vpnOrchestratorState.toVPNState
      { service with effects := [] } where
  listens := h
  told _ := rfl
  unheard _ := rfl
  cleanup := nofun

theorem listens_dispatchEvent (h : env.reachable messenger = true) (event : Event) :
    listens messenger (dispatchEvent env event service) ↔ listens messenger service := by
  simp [listens, dispatchEvent, h]

/-- A client that listens is sent the event, once or more often; one that does not is not. -/
theorem mail_dispatch (listeners : List (Nat × Messenger)) (event : Event) :
    mail messenger ((listeners.filter fun listener => env.reachable listener.2).map
      fun listener => .sendEvent listener.2 event) =
      List.replicate (listeners.countP fun listener =>
        env.reachable listener.2 && listener.2 = messenger) event := by
  induction listeners with
  | nil => rfl
  | cons listener listeners ih =>
      by_cases hreachable : env.reachable listener.2 = true
      · by_cases hmessenger : listener.2 = messenger
        · simp_all [mail, List.replicate_succ]
        · simp_all [mail]
      · simp_all

theorem countP_pos_of_listens (h : env.reachable messenger = true)
    (hlistens : listens messenger service) :
    0 < service.listeners.countP fun listener =>
      env.reachable listener.2 && listener.2 = messenger := by
  obtain ⟨id, hmem⟩ := hlistens
  rw [List.countP_pos_iff]
  exact ⟨(id, messenger), hmem, by simp [h]⟩

theorem countP_eq_zero_of_not_listens (h : ¬ listens messenger service) :
    (service.listeners.countP fun listener =>
      env.reachable listener.2 && listener.2 = messenger) = 0 := by
  rw [List.countP_eq_zero]
  rintro ⟨id, receiver⟩ hmem hreceiver
  simp only [Bool.and_eq_true, decide_eq_true_eq] at hreceiver
  obtain ⟨-, rfl⟩ := hreceiver
  exact h ⟨id, hmem⟩

theorem Informed.ask (h : Informed messenger listening revoked initial service) {effect : Effect}
    (hmail : mail messenger [effect] = []) (hcleanup : effect = .cleanupIPC → revoked) :
    Informed messenger listening revoked initial (service.ask effect) where
  listens := h.listens
  told hlistening := by
    rw [VPNService.ask, mail_append, hmail, List.append_nil]
    exact h.told hlistening
  unheard hlistening := by rw [VPNService.ask, mail_append, hmail, h.unheard hlistening]; rfl
  cleanup hmem := by
    rcases List.mem_append.1 hmem with hmem | hmem
    · exact h.cleanup hmem
    · exact hcleanup (List.mem_singleton.1 hmem).symm

theorem Informed.dispatchEvent (hreachable : env.reachable messenger = true)
    (h : Informed messenger listening revoked initial service) (next : VPNService) {event : Event}
    (htold : listening → (states (mail messenger service.effects) ++ states (List.replicate
        (service.listeners.countP fun listener =>
          env.reachable listener.2 && listener.2 = messenger) event)).getLast?.getD initial =
      next.vpnOrchestratorState.toVPNState)
    (hnext : next.listeners = service.listeners) (heffects : next.effects = service.effects) :
    Informed messenger listening revoked initial (dispatchEvent env event next) where
  listens := by
    rw [listens_dispatchEvent hreachable, ← h.listens, Home.listens, Home.listens, hnext]
  told hlistening := by
    simp only [VPNOrchestrator.dispatchEvent, mail_append, mail_dispatch, states_append, hnext,
      heffects]
    exact htold hlistening
  unheard hlistening := by
    have hnot : ¬ Home.listens messenger service := mt h.listens.1 hlistening
    simp only [VPNOrchestrator.dispatchEvent, mail_append, mail_dispatch, hnext, heffects,
      h.unheard hlistening, countP_eq_zero_of_not_listens hnot]
    rfl
  cleanup hmem := by
    simp only [VPNOrchestrator.dispatchEvent, heffects, List.mem_append, List.mem_map,
      reduceCtorEq, and_false, exists_false, or_false] at hmem
    exact h.cleanup hmem

theorem Informed.notification (hreachable : env.reachable messenger = true)
    (h : Informed messenger listening revoked initial service) (msg : String) :
    Informed messenger listening revoked initial (dispatchVpnNotification env msg service) := by
  apply h.dispatchEvent hreachable service _ rfl rfl
  intro hlistening
  have hsilent : ∀ count, states (List.replicate count (.vpnNotification msg)) = [] := by
    intro count
    simp [states]
  rw [hsilent, List.append_nil]
  exact h.told hlistening

theorem Informed.updateState (hreachable : env.reachable messenger = true)
    (h : Informed messenger listening revoked initial service) (state : VPNOrchestratorState) :
    Informed messenger listening revoked initial (updateStateAndNotifyClients env state service) := by
  apply h.dispatchEvent hreachable { service with vpnOrchestratorState := state } _ rfl rfl
  intro hlistening
  have hpos := countP_pos_of_listens hreachable (h.listens.2 hlistening)
  have hstates : ∀ count, states (List.replicate count (.vpnState state.toVPNState)) =
      List.replicate count state.toVPNState := by
    intro count
    simp [states]
  rw [hstates, List.getLast?_append, List.getLast?_replicate]
  simp only [Nat.ne_of_gt hpos, ↓reduceIte]
  rfl

theorem Informed.congr (h : Informed messenger listening revoked initial service)
    (hstate : next.vpnOrchestratorState = service.vpnOrchestratorState)
    (hlisteners : next.listeners = service.listeners) (heffects : next.effects = service.effects) :
    Informed messenger listening revoked initial next where
  listens := by rw [← h.listens, Home.listens, Home.listens, hlisteners]
  told := by rw [hstate, heffects]; exact h.told
  unheard := by rw [heffects]; exact h.unheard
  cleanup := by rw [heffects]; exact h.cleanup

/-- A client stays informed through the parts of a handler. -/
theorem informed_preserves (hreachable : env.reachable messenger = true) :
    Preserves env (Informed messenger listening revoked initial) where
  ask effect hsilent h := by
    apply h.ask
    · cases effect <;> first | rfl | cases hsilent
    · rintro rfl
      cases hsilent
  notify msg h := h.notification hreachable msg
  update state h := h.updateState hreachable state
  tunnel _ _ h := h.congr rfl rfl rfl

theorem Informed.registerOther (h : Informed messenger listening revoked initial service)
    {other : Messenger} (hother : other ≠ messenger) :
    Informed messenger listening revoked initial (onRegisterListener env other service) := by
  unfold onRegisterListener
  split
  · refine ⟨?_, fun hlistening => ?_, fun hlistening => ?_, fun hmem => h.cleanup ?_⟩
    · rw [← h.listens]
      simp [Home.listens, hother.symm]
    · rw [← h.told hlistening]
      simp [mail, hother]
    · rw [mail_append, h.unheard hlistening]
      simp [mail, hother]
    · simpa using hmem
  · exact h.congr rfl rfl rfl

theorem Informed.deregisterOther (h : Informed messenger listening revoked initial service)
    {id : Nat} (hid : (id, messenger) ∉ service.listeners) :
    Informed messenger listening revoked initial
      { service with listeners := service.listeners.filter (·.1 ≠ id) } := by
  refine ⟨?_, h.told, h.unheard, h.cleanup⟩
  rw [← h.listens]
  constructor
  · rintro ⟨other, hmem⟩
    exact ⟨other, (List.mem_filter.1 hmem).1⟩
  · rintro ⟨other, hmem⟩
    refine ⟨other, List.mem_filter.2 ⟨hmem, ?_⟩⟩
    have hne : other ≠ id := by
      rintro rfl
      exact hid hmem
    simpa using hne

/-- A handler that does not concern the client leaves it informed. -/
theorem Informed.handle {invocation : Invocation} (hreachable : env.reachable messenger = true)
    (hothers : concernsOthers messenger service invocation = true)
    (hrevoked : invocation = .revoke → revoked)
    (h : Informed messenger listening revoked initial service)
    (hok : handle env wireGuard service invocation = .ok next) :
    Informed messenger listening revoked initial next := by
  apply (informed_preserves hreachable).handle h _ _ _ hok
  · rintro (hrevoke | rfl)
    · exact h.ask rfl fun _ => hrevoked hrevoke
    · cases hothers
  · rintro other rfl
    exact h.registerOther (by simpa [concernsOthers] using hothers)
  · rintro id rfl
    exact h.deregisterOther (by simpa [concernsOthers] using hothers)

/-- A client that registers is told the state. -/
theorem informed_registerListener (hreachable : env.reachable messenger = true)
    (hcleanup : .cleanupIPC ∈ service.effects → revoked) :
    Informed messenger True revoked initial (onRegisterListener env messenger service) := by
  simp only [onRegisterListener, hreachable, ↓reduceIte]
  refine ⟨⟨fun _ => trivial, fun _ => ⟨_, List.mem_append_right _ (List.mem_singleton_self _)⟩⟩,
    fun _ => ?_, fun h => absurd trivial h, fun hmem => hcleanup ?_⟩
  · simp [mail, states]
  · simpa using hmem

end Informed

end Home

end Modvpn.Android
