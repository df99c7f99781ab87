/-
# The listeners that unbinding leaves behind

A client can deregister once it has learnt its id. Until then the request to register it,
or the answer, is on its way, and a client that is dropped meanwhile stays a listener: its
messenger is alive, so nobody removes it. A request to deregister a client may also be
thrown away when the permission is revoked.
-/

import Modvpn.Android.VPNServiceConnectionManager
import Modvpn.Analysis.Android.Preserves

namespace Modvpn.Android

open Modvpn.Protocol
open VPNOrchestrator

namespace ServiceBinding

/-- All messages about the client are delivered. -/
structure Delivered (messenger : Messenger) (binding : ServiceBinding) : Prop where
  registered : .registerListener messenger ∉ binding.requests
  deregistered : ∀ id, (id, messenger) ∈ binding.service.listeners →
    .deregisterListener id ∉ binding.requests
  events : ∀ posted ∈ binding.events, posted.1 ≠ messenger

/-- No client that was unbound is left behind. -/
def Clean (binding : ServiceBinding) : Prop :=
  ∀ messenger ∈ binding.unbound, binding.Delivered messenger →
    ∀ id, (id, messenger) ∉ binding.service.listeners

/-- A client is unbound when it knows its id, or if it will never have one; and no request to
deregister a client is thrown away. -/
def Answered (binding : ServiceBinding) : BindingLabel → Prop
  | .unbind => ∀ client ∈ binding.manager.vpnServiceClient, client.listenerId ≠ none ∨
      .registerListener client.clientMessenger ∉ binding.requests ∧
        ∀ listener ∈ binding.service.listeners, listener.2 ≠ client.clientMessenger
  | .handle .revoke _ => ∀ listener ∈ binding.service.listeners, listener.2 ∉ binding.unbound
  | .handle _ _ | .bind | .onServiceConnected _ | .send _ | .serve _ | .deliver _ => True

instance (binding : ServiceBinding) (label : BindingLabel) :
    Decidable (binding.Answered label) := by
  unfold Answered
  split <;> infer_instance

/-! ## What holds in every state -/

/-- The client that a request registers. -/
def registers : Request → Option Messenger
  | .registerListener messenger => some messenger
  | .deregisterListener _ | .connect _ | .disconnect => none

/-- The client is not registered again, and under no other id. -/
def Registered (messenger : Messenger) (id : Nat) (binding : ServiceBinding) : Prop :=
  .registerListener messenger ∉ binding.requests ∧
    ∀ other, (other, messenger) ∈ binding.service.listeners → other = id

structure Sound (binding : ServiceBinding) : Prop where
  once : (binding.requests.filterMap registers).Nodup
  waiting : ∀ messenger, .registerListener messenger ∈ binding.requests →
    messenger ∈ binding.messengers ∧ ∀ id, (id, messenger) ∉ binding.service.listeners
  answered : ∀ messenger id, (messenger, .listenerRegistered id) ∈ binding.events →
    messenger ∈ binding.messengers → binding.Registered messenger id
  client : ∀ client, binding.manager.vpnServiceClient = some client →
    client.clientMessenger ∈ binding.messengers ∧
      ∀ id, client.listenerId = some id → binding.Registered client.clientMessenger id
  gone : ∀ messenger ∈ binding.unbound, messenger ∈ binding.messengers ∧
    .registerListener messenger ∉ binding.requests ∧
    ∀ id, (id, messenger) ∈ binding.service.listeners → .deregisterListener id ∈ binding.requests

variable {wireGuard : WireGuard} {env : HandlerEnv} {binding next : ServiceBinding}
  {service : VPNService}

theorem Sound.clean (h : binding.Sound) : binding.Clean := by
  intro messenger hmem hdelivered id hlistens
  exact hdelivered.deregistered id hlistens ((h.gone messenger hmem).2.2 id hlistens)

theorem mem_posted {effects : List Effect} {messenger : Messenger} {event : Event} :
    (messenger, event) ∈ posted effects ↔ .sendEvent messenger event ∈ effects := by
  simp only [posted, List.mem_filterMap]
  constructor
  · rintro ⟨effect, hmem, heq⟩
    cases effect <;> cases heq
    exact hmem
  · intro hmem
    exact ⟨_, hmem, rfl⟩

/-! ## The service -/

/-- Nobody is added to these listeners or told an id. -/
structure Keeps (listeners : List (Nat × Messenger)) (revoked : Prop) (service : VPNService) :
    Prop where
  listeners : service.listeners ⊆ listeners
  silent : ∀ messenger id, .sendEvent messenger (.listenerRegistered id) ∉ service.effects
  cleanup : .cleanupIPC ∈ service.effects → revoked

theorem Keeps.dispatchEvent {listeners : List (Nat × Messenger)} {revoked : Prop}
    (h : Keeps listeners revoked service) {event : Event}
    (hevent : ∀ id, event ≠ .listenerRegistered id) :
    Keeps listeners revoked (dispatchEvent env event service) where
  listeners := List.Subset.trans (List.filter_subset_self _) h.listeners
  silent messenger id hmem := by
    rcases List.mem_append.1 hmem with hmem | hmem
    · exact h.silent messenger id hmem
    · obtain ⟨listener, -, heq⟩ := List.mem_map.1 hmem
      cases heq
      exact hevent id rfl
  cleanup hmem := by
    rcases List.mem_append.1 hmem with hmem | hmem
    · exact h.cleanup hmem
    · obtain ⟨listener, -, heq⟩ := List.mem_map.1 hmem
      cases heq

theorem Keeps.updateState {listeners : List (Nat × Messenger)} {revoked : Prop}
    (h : Keeps listeners revoked service) (state : VPNOrchestratorState) :
    Keeps listeners revoked (updateStateAndNotifyClients env state service) := by
  have hstate : Keeps listeners revoked { service with vpnOrchestratorState := state } :=
    ⟨h.listeners, h.silent, h.cleanup⟩
  exact hstate.dispatchEvent nofun

theorem keeps_preserves {listeners : List (Nat × Messenger)} {revoked : Prop} :
    Preserves env (Keeps listeners revoked) where
  ask effect hsilent h := by
    refine ⟨h.listeners, fun messenger id hmem => ?_, fun hmem => ?_⟩
    · rcases List.mem_append.1 hmem with hmem | hmem
      · exact h.silent messenger id hmem
      · cases List.mem_singleton.1 hmem
        cases hsilent
    · rcases List.mem_append.1 hmem with hmem | hmem
      · exact h.cleanup hmem
      · cases List.mem_singleton.1 hmem
        cases hsilent
  notify msg h := h.dispatchEvent nofun
  update state h := h.updateState state
  tunnel _ _ h := ⟨h.listeners, h.silent, h.cleanup⟩

/-- The handlers other than registering a listener. -/
theorem keeps_of_handle {invocation : Invocation} {revoked : Prop}
    (hrevoked : invocation = .revoke ∨ invocation = .destroy → revoked)
    (hregister : ∀ listener, invocation ≠ .registerListener listener)
    {after : VPNService}
    (hok : handle env wireGuard { service with effects := [] } invocation = .ok after) :
    Keeps service.listeners revoked after := by
  have hbefore : Keeps service.listeners revoked { service with effects := [] } :=
    ⟨List.Subset.refl _, nofun, nofun⟩
  apply keeps_preserves.handle hbefore _ _ _ hok
  · intro hcleanup
    refine ⟨List.Subset.refl _, fun messenger id hmem => ?_, fun _ => hrevoked hcleanup⟩
    cases List.mem_singleton.1 hmem
  · intro listener heq
    exact absurd heq (hregister listener)
  · intro id _
    exact ⟨List.filter_subset_self _, nofun, nofun⟩

theorem handle_of_invoke {invocation : Invocation}
    (h : binding.invoke wireGuard env invocation = some next) :
    binding.messengers.all env.reachable = true ∧ ∃ service,
      handle env wireGuard { binding.service with effects := [] } invocation = .ok service ∧
      next = binding.handled service := by
  unfold invoke at h
  split at h
  · rename_i hguard
    split at h
    · rename_i service hok
      cases h
      exact ⟨(Bool.and_eq_true_iff.1 hguard).1, service, hok, rfl⟩
    · cases h
  · cases h

/-- Fewer requests, fewer listeners, and no id that was not told before. -/
theorem Sound.shrink {requests : List Request} {service : VPNService}
    {events : List (Messenger × Event)} (h : binding.Sound)
    (hrequests : requests.Sublist binding.requests)
    (hlisteners : service.listeners ⊆ binding.service.listeners)
    (hevents : ∀ messenger id, (messenger, .listenerRegistered id) ∈ events →
      (messenger, .listenerRegistered id) ∈ binding.events)
    (hgone : ∀ messenger ∈ binding.unbound, ∀ id, (id, messenger) ∈ service.listeners →
      .deregisterListener id ∈ binding.requests → .deregisterListener id ∈ requests) :
    Sound { binding with requests, service, events } := by
  have hregistered : ∀ messenger id, binding.Registered messenger id →
      Registered messenger id { binding with requests, service, events } := fun messenger id h =>
    ⟨fun hmem => h.1 (hrequests.subset hmem), fun other hmem => h.2 other (hlisteners hmem)⟩
  refine ⟨h.once.sublist (hrequests.filterMap _), ?_, ?_, ?_, ?_⟩
  · intro messenger hmem
    obtain ⟨hmessenger, hnone⟩ := h.waiting messenger (hrequests.subset hmem)
    exact ⟨hmessenger, fun id hlistens => hnone id (hlisteners hlistens)⟩
  · intro messenger id hmem hmessenger
    exact hregistered messenger id (h.answered messenger id (hevents messenger id hmem) hmessenger)
  · intro client hclient
    obtain ⟨hmessenger, hid⟩ := h.client client hclient
    exact ⟨hmessenger, fun id heq => hregistered _ id (hid id heq)⟩
  · intro messenger hmem
    obtain ⟨hmessenger, hnot, hleft⟩ := h.gone messenger hmem
    refine ⟨hmessenger, fun hregister => hnot (hrequests.subset hregister), fun id hlistens => ?_⟩
    exact hgone messenger hmem id hlistens (hleft id (hlisteners hlistens))

/-- A client is registered that is not about to be registered otherwise. -/
theorem Sound.registered {requests : List Request} {service : VPNService}
    {events : List (Messenger × Event)} (h : binding.Sound) (messenger : Messenger)
    (hrequests : requests.Sublist binding.requests)
    (hgone : ∀ id, .deregisterListener id ∈ binding.requests → .deregisterListener id ∈ requests)
    (hnew : .registerListener messenger ∉ requests)
    (hlisteners : ∀ id other, (id, other) ∈ service.listeners →
      (id, other) ∈ binding.service.listeners ∨ other = messenger ∧ id = service.listenerId)
    (hevents : ∀ other id, (other, .listenerRegistered id) ∈ events →
      (other, .listenerRegistered id) ∈ binding.events ∨
        other = messenger ∧ id = service.listenerId)
    (hmessenger : messenger ∈ binding.messengers → .registerListener messenger ∈ binding.requests) :
    Sound { binding with requests, service, events } := by
  have hold : ∀ other ∈ binding.messengers, .registerListener other ∉ binding.requests →
      other ≠ messenger := by
    rintro other hmem hnot rfl
    exact hnot (hmessenger hmem)
  have hregistered : ∀ other id, other ∈ binding.messengers → binding.Registered other id →
      Registered other id { binding with requests, service, events } := by
    intro other id hmem h
    refine ⟨fun hwaits => h.1 (hrequests.subset hwaits), fun later hlistens => ?_⟩
    rcases hlisteners later other hlistens with hbefore | ⟨hsame, -⟩
    · exact h.2 later hbefore
    · exact absurd hsame (hold other hmem h.1)
  refine ⟨h.once.sublist (hrequests.filterMap _), ?_, ?_, ?_, ?_⟩
  · intro other hmem
    obtain ⟨hother, hnone⟩ := h.waiting other (hrequests.subset hmem)
    refine ⟨hother, fun id hlistens => ?_⟩
    rcases hlisteners id other hlistens with hbefore | ⟨rfl, -⟩
    · exact hnone id hbefore
    · exact hnew hmem
  · intro other id hmem hother
    rcases hevents other id hmem with hbefore | ⟨rfl, rfl⟩
    · exact hregistered other id hother (h.answered other id hbefore hother)
    · refine ⟨hnew, fun later hlistens => ?_⟩
      rcases hlisteners later other hlistens with hbefore | ⟨-, hid⟩
      · exact absurd hbefore ((h.waiting other (hmessenger hother)).2 later)
      · exact hid
  · intro client hclient
    obtain ⟨hmem, hid⟩ := h.client client hclient
    exact ⟨hmem, fun id heq => hregistered _ id hmem (hid id heq)⟩
  · intro other hmem
    obtain ⟨hother, hnot, hleft⟩ := h.gone other hmem
    refine ⟨hother, fun hregister => hnot (hrequests.subset hregister), fun id hlistens => ?_⟩
    rcases hlisteners id other hlistens with hbefore | ⟨hsame, -⟩
    · exact hgone id (hleft id hbefore)
    · exact absurd hsame (hold other hother hnot)

theorem mem_listeners_register {messenger other : Messenger} {id : Nat}
    (h : (id, other) ∈ (onRegisterListener env messenger service).listeners) :
    (id, other) ∈ service.listeners ∨
      other = messenger ∧ id = (onRegisterListener env messenger service).listenerId := by
  unfold onRegisterListener at h ⊢
  split at h
  · rcases List.mem_append.1 h with h | h
    · exact .inl h
    · cases List.mem_singleton.1 h
      simp_all
  · exact .inl h

/-- Registering a client tells it its id. -/
theorem effects_register {messenger other : Messenger} {id : Nat}
    (h : .sendEvent other (.listenerRegistered id) ∈
      (onRegisterListener env messenger { service with effects := [] }).effects) :
    other = messenger ∧
      id = (onRegisterListener env messenger { service with effects := [] }).listenerId := by
  unfold onRegisterListener at h ⊢
  split at h
  · simp_all
  · cases h

theorem cleanup_register {messenger : Messenger} :
    .cleanupIPC ∉ (onRegisterListener env messenger { service with effects := [] }).effects := by
  unfold onRegisterListener
  split <;> simp

/-- Another client is registered. -/
theorem Sound.registerOther {other : Messenger} (h : binding.Sound)
    (hother : other ∉ binding.messengers) :
    (binding.handled (onRegisterListener env other
      { binding.service with effects := [] })).Sound := by
  simp only [handled, if_neg cleanup_register]
  apply h.registered other (List.Sublist.refl _) (fun _ => id)
  · exact fun hmem => hother (h.waiting other hmem).1
  · exact fun id messenger => mem_listeners_register
  · intro messenger id hmem
    rcases List.mem_append.1 hmem with hmem | hmem
    · exact .inl hmem
    · exact .inr (effects_register (mem_posted.1 hmem))
  · exact fun hmem => absurd hmem hother

/-- The client whose turn it is, is registered. -/
theorem Sound.register {messenger : Messenger} {requests : List Request} (h : binding.Sound)
    (hrequests : binding.requests = .registerListener messenger :: requests) :
    (({ binding with requests } : ServiceBinding).handled (onRegisterListener env messenger
      { binding.service with effects := [] })).Sound := by
  simp only [handled, if_neg cleanup_register]
  have honce := h.once
  rw [hrequests] at honce
  apply h.registered messenger
  · rw [hrequests]
    exact List.sublist_cons_self _ _
  · intro id hmem
    rw [hrequests] at hmem
    rcases List.mem_cons.1 hmem with heq | hmem
    · cases heq
    · exact hmem
  · intro hmem
    exact (List.nodup_cons.1 honce).1 (List.mem_filterMap.2 ⟨_, hmem, rfl⟩)
  · exact fun id other => mem_listeners_register
  · intro other id hmem
    rcases List.mem_append.1 hmem with hmem | hmem
    · exact .inl hmem
    · exact .inr (effects_register (mem_posted.1 hmem))
  · intro _
    rw [hrequests]
    exact List.mem_cons_self ..

/-- A handler that registers nobody. -/
theorem Sound.kept {requests : List Request} {service : VPNService} {revoked : Prop}
    (h : binding.Sound) (hrequests : requests.Sublist binding.requests)
    (hkeeps : Keeps binding.service.listeners revoked service)
    (hgone : ∀ messenger ∈ binding.unbound, ∀ id, (id, messenger) ∈ service.listeners →
      .deregisterListener id ∈ binding.requests →
      .cleanupIPC ∉ service.effects ∧ .deregisterListener id ∈ requests) :
    (({ binding with requests } : ServiceBinding).handled service).Sound := by
  have hevents : ∀ messenger id, (messenger, .listenerRegistered id) ∈
      binding.events ++ posted service.effects →
      (messenger, .listenerRegistered id) ∈ binding.events := by
    intro messenger id hmem
    rcases List.mem_append.1 hmem with hmem | hmem
    · exact hmem
    · exact absurd (mem_posted.1 hmem) (hkeeps.silent messenger id)
  unfold handled
  split
  · rename_i hcleanup
    refine h.shrink (List.nil_sublist _) hkeeps.listeners hevents ?_
    intro messenger hmem id hlistens hwaits
    exact absurd hcleanup (hgone messenger hmem id hlistens hwaits).1
  · exact h.shrink hrequests hkeeps.listeners hevents fun messenger hmem id hlistens hwaits =>
      (hgone messenger hmem id hlistens hwaits).2

/-- The service handles something that is not the client's. -/
theorem Sound.handle {invocation : Invocation} (hsound : binding.Sound)
    (h : binding.invoke wireGuard env invocation = some next)
    (hothers : concernsOthers binding.messengers invocation = true)
    (hanswered : binding.Answered (.handle invocation env)) : next.Sound := by
  obtain ⟨-, service, hok, rfl⟩ := handle_of_invoke h
  by_cases hregister : ∃ other, invocation = .registerListener other
  · obtain ⟨other, rfl⟩ := hregister
    cases hok
    exact hsound.registerOther (by simpa [concernsOthers] using hothers)
  · have hkeeps := keeps_of_handle (fun h => h) (fun other heq => hregister ⟨other, heq⟩) hok
    apply hsound.kept (List.Sublist.refl _) hkeeps
    intro messenger hmem id hlistens hwaits
    refine ⟨fun hcleanup => ?_, hwaits⟩
    rcases hkeeps.cleanup hcleanup with rfl | rfl
    · exact absurd hmem (hanswered _ (hkeeps.listeners hlistens))
    · cases hothers

/-- The service handles the next request. -/
theorem Sound.serve {request : Request} {requests : List Request} (hsound : binding.Sound)
    (hrequests : binding.requests = request :: requests)
    (h : ({ binding with requests } : ServiceBinding).invoke wireGuard env
      (LooperMessage.request request).invocation = some next) : next.Sound := by
  obtain ⟨-, service, hok, rfl⟩ := handle_of_invoke h
  have htail : requests.Sublist binding.requests := by
    rw [hrequests]
    exact List.sublist_cons_self _ _
  have hlater : ∀ id, request ≠ .deregisterListener id →
      .deregisterListener id ∈ binding.requests → .deregisterListener id ∈ requests := by
    intro id hne hmem
    rw [hrequests] at hmem
    exact (List.mem_cons.1 hmem).resolve_left fun heq => hne heq.symm
  cases request with
  | registerListener messenger =>
      cases hok
      exact hsound.register hrequests
  | deregisterListener id =>
      cases hok
      have hkeeps : Keeps (binding.service.listeners.filter (·.1 ≠ id)) False
          (onDeregisterListener id { binding.service with effects := [] }) :=
        (@keeps_preserves env _ _).stopService ⟨List.Subset.refl _, nofun, nofun⟩
      apply hsound.kept htail
        ⟨List.Subset.trans hkeeps.listeners (List.filter_subset_self _), hkeeps.silent,
          hkeeps.cleanup⟩
      intro messenger hmem other hlistens hwaits
      have hother : other ≠ id := by simpa using (List.mem_filter.1 (hkeeps.listeners hlistens)).2
      exact ⟨hkeeps.cleanup, hlater other (fun heq => hother (by cases heq; rfl)) hwaits⟩
  | connect location | disconnect =>
      have hkeeps := @keeps_of_handle wireGuard env binding.service _ False
        (by rintro (heq | heq) <;> cases heq) (by rintro listener heq; cases heq) service hok
      apply hsound.kept htail hkeeps
      intro messenger hmem id hlistens hwaits
      exact ⟨hkeeps.cleanup, hlater id nofun hwaits⟩

/-! ## The client -/

/-- The system has connected: a new client asks to be registered. -/
theorem Sound.onServiceConnected {messenger : Messenger} (h : binding.Sound)
    (hfresh : binding.isFresh messenger = true) :
    (binding.onServiceConnected messenger).Sound := by
  simp only [isFresh, Bool.and_eq_true, List.all_eq_true, decide_eq_true_eq] at hfresh
  obtain ⟨⟨hnew, hlisteners⟩, hevents⟩ := hfresh
  have hwaits : .registerListener messenger ∉ binding.requests :=
    fun hmem => hnew (h.waiting messenger hmem).1
  have hregistered : ∀ other id, other ≠ messenger → binding.Registered other id →
      Registered other id (binding.onServiceConnected messenger) := by
    intro other id hne hregistered
    refine ⟨fun hmem => ?_, hregistered.2⟩
    rcases List.mem_append.1 hmem with hmem | hmem
    · exact hregistered.1 hmem
    · cases List.mem_singleton.1 hmem
      exact hne rfl
  refine ⟨?_, ?_, ?_, ?_, ?_⟩
  · rw [ServiceBinding.onServiceConnected, List.filterMap_append]
    refine List.nodup_append.2 ⟨h.once, List.pairwise_singleton _ _, ?_⟩
    intro other hother later hlater heq
    obtain ⟨request, hmem, hregisters⟩ := List.mem_filterMap.1 hother
    cases List.mem_singleton.1 hlater
    subst heq
    cases request <;> cases hregisters
    exact hwaits hmem
  · intro other hmem
    rcases List.mem_append.1 hmem with hmem | hmem
    · obtain ⟨hother, hnone⟩ := h.waiting other hmem
      exact ⟨List.mem_cons_of_mem _ hother, hnone⟩
    · cases List.mem_singleton.1 hmem
      exact ⟨List.mem_cons_self .., fun id hlistens => hlisteners _ hlistens rfl⟩
  · intro other id hmem hother
    have hne : other ≠ messenger := hevents _ hmem
    exact hregistered other id hne (h.answered other id hmem
      ((List.mem_cons.1 hother).resolve_left hne))
  · intro client hclient
    cases hclient
    exact ⟨List.mem_cons_self .., nofun⟩
  · intro other hmem
    obtain ⟨hother, hnot, hleft⟩ := h.gone other hmem
    have hne : other ≠ messenger := by
      rintro rfl
      exact hnew hother
    refine ⟨List.mem_cons_of_mem _ hother, fun hregister => ?_, fun id hlistens =>
      List.mem_append_left _ (hleft id hlistens)⟩
    rcases List.mem_append.1 hregister with hregister | hregister
    · exact hnot hregister
    · cases List.mem_singleton.1 hregister
      exact hne rfl

/-- More requests that register nobody. -/
theorem Sound.append (h : binding.Sound) (manager : VPNServiceConnectionManager)
    (requests : List Request) (unbound : List Messenger)
    (hrequests : requests.filterMap registers = [])
    (hclient : ∀ client, manager.vpnServiceClient = some client →
      binding.manager.vpnServiceClient = some client)
    (hunbound : ∀ messenger ∈ unbound, messenger ∈ binding.unbound ∨
      messenger ∈ binding.messengers ∧ .registerListener messenger ∉ binding.requests ∧
        ∀ id, (id, messenger) ∈ binding.service.listeners → .deregisterListener id ∈ requests) :
    Sound { binding with manager, requests := binding.requests ++ requests, unbound } := by
  have hmore : ∀ messenger, .registerListener messenger ∈ binding.requests ++ requests →
      .registerListener messenger ∈ binding.requests := by
    intro messenger hmem
    rcases List.mem_append.1 hmem with hmem | hmem
    · exact hmem
    · have hnone : messenger ∈ requests.filterMap registers :=
        List.mem_filterMap.2 ⟨_, hmem, rfl⟩
      rw [hrequests] at hnone
      cases hnone
  have hregistered : ∀ messenger id, binding.Registered messenger id →
      Registered messenger id
        { binding with manager, requests := binding.requests ++ requests, unbound } :=
    fun messenger id h => ⟨fun hmem => h.1 (hmore messenger hmem), h.2⟩
  refine ⟨?_, fun messenger hmem => h.waiting messenger (hmore messenger hmem),
    fun messenger id hmem hmessenger =>
      hregistered messenger id (h.answered messenger id hmem hmessenger), ?_, ?_⟩
  · rw [List.filterMap_append, hrequests, List.append_nil]
    exact h.once
  · intro client heq
    obtain ⟨hmessenger, hid⟩ := h.client client (hclient client heq)
    exact ⟨hmessenger, fun id heq => hregistered _ id (hid id heq)⟩
  · intro messenger hmem
    rcases hunbound messenger hmem with hbefore | ⟨hmessenger, hnot, hleft⟩
    · obtain ⟨hmessenger, hnot, hleft⟩ := h.gone messenger hbefore
      exact ⟨hmessenger, fun hregister => hnot (hmore messenger hregister),
        fun id hlistens => List.mem_append_left _ (hleft id hlistens)⟩
    · exact ⟨hmessenger, fun hregister => hnot (hmore messenger hregister),
        fun id hlistens => List.mem_append_right _ (hleft id hlistens)⟩

theorem Sound.unbind (h : binding.Sound) (hanswered : binding.Answered .unbind) :
    binding.unbind.Sound := by
  unfold ServiceBinding.unbind
  split
  · split
    · rename_i client hclient
      obtain ⟨hmessenger, hid⟩ := h.client client hclient
      apply h.append .new client.cleanup _ _ nofun
      · intro messenger hmem
        rcases List.mem_cons.1 hmem with rfl | hmem
        · right
          refine ⟨hmessenger, ?_⟩
          rcases hanswered client hclient with hknown | ⟨hnot, hnone⟩
          · obtain ⟨id, hlistenerId⟩ := Option.ne_none_iff_exists'.1 hknown
            obtain ⟨hnot, honly⟩ := hid id hlistenerId
            refine ⟨hnot, fun other hlistens => ?_⟩
            rw [honly other hlistens, VPNServiceClient.cleanup, hlistenerId]
            exact List.mem_singleton_self _
          · exact ⟨hnot, fun other hlistens => absurd rfl (hnone _ hlistens)⟩
        · exact .inl hmem
      · unfold VPNServiceClient.cleanup
        split <;> rfl
    · have hnew := h.append .new [] binding.unbound rfl nofun fun messenger hmem => .inl hmem
      rwa [List.append_nil] at hnew
  · exact h

/-- The client may learn its id. -/
theorem Sound.deliver {messenger : Messenger} (h : binding.Sound)
    (hstep : binding.deliver messenger = some next) : next.Sound := by
  unfold ServiceBinding.deliver at hstep
  split at hstep
  · rename_i receiver event hfind
    cases hstep
    have hmem := List.mem_of_find?_eq_some hfind
    have hreceiver : receiver = messenger := by simpa using List.find?_some hfind
    subst hreceiver
    refine ⟨h.once, h.waiting, ?_, ?_, h.gone⟩
    · intro other id hlater hother
      exact h.answered other id (List.mem_of_mem_eraseP hlater) hother
    · intro client hclient
      obtain ⟨before, hbefore, rfl⟩ := Option.map_eq_some_iff.1 hclient
      obtain ⟨hmessenger, hid⟩ := h.client before hbefore
      cases event with
      | vpnState vpnState | vpnNotification msg => exact ⟨hmessenger, hid⟩
      | listenerRegistered id =>
          by_cases hsame : before.clientMessenger = receiver
          · simp only [hsame, ↓reduceIte]
            rw [hsame] at hmessenger
            refine ⟨hmessenger, fun later heq => ?_⟩
            cases heq
            exact h.answered receiver id hmem hmessenger
          · simp only [hsame, ↓reduceIte]
            exact ⟨hmessenger, hid⟩
  · cases hstep

theorem Sound.step {label : BindingLabel} (h : binding.Sound)
    (hstep : binding.step wireGuard label = some next) (hanswered : binding.Answered label) :
    next.Sound := by
  cases label with
  | bind =>
      cases hstep
      have hbound := h.append binding.manager.bind [] binding.unbound rfl
        (fun client hclient => by
          simp only [VPNServiceConnectionManager.bind] at hclient
          split at hclient <;> exact hclient)
        fun messenger hmem => .inl hmem
      rwa [List.append_nil] at hbound
  | onServiceConnected messenger =>
      simp only [ServiceBinding.step] at hstep
      split at hstep
      · rename_i hguard
        cases hstep
        exact h.onServiceConnected (Bool.and_eq_true_iff.1 hguard).2
      · cases hstep
  | unbind =>
      cases hstep
      exact h.unbind hanswered
  | send request =>
      cases request with
      | registerListener messenger | deregisterListener id => cases hstep
      | connect location | disconnect =>
          simp only [ServiceBinding.step] at hstep
          split at hstep
          · cases hstep
            exact h.append binding.manager [_] binding.unbound rfl (fun _ => id)
              fun messenger hmem => .inl hmem
          · cases hstep
  | serve env =>
      simp only [ServiceBinding.step] at hstep
      split at hstep
      · rename_i request requests hrequests
        exact h.serve hrequests hstep
      · cases hstep
  | handle invocation env =>
      simp only [ServiceBinding.step] at hstep
      split at hstep
      · rename_i hothers
        exact h.handle hstep hothers hanswered
      · cases hstep
  | deliver messenger => exact h.deliver hstep

/-- No client that was unbound stays a listener, if each is unbound when it knows its id and
no request to deregister one is thrown away. -/
theorem visits_clean_of_answered (trace : (system wireGuard).Trace binding)
    (h : trace.Obeys Answered) : trace.Visits Clean := by
  have hsound : trace.Visits Sound := by
    apply TransitionSystem.Trace.visits_of_obeys _ _ h
    · rintro binding ⟨-, hmanager, hrequests, hevents, hmessengers, hunbound⟩
      refine ⟨by simp [hrequests], ?_, ?_, ?_, ?_⟩
      · simp [hrequests]
      · simp [hevents]
      · simp [hmanager, VPNServiceConnectionManager.new]
      · simp [hunbound]
    · intro source label target hstep hanswered hsource
      exact hsource.step hstep hanswered
  exact hsound.mono fun _ => Sound.clean

end ServiceBinding

/-! ## An unbinding in time, and one too early -/

namespace ServiceBinding

open Android.Sample

/-- The service has just been created. -/
def idle : ServiceBinding where
  manager := .new
  service := .new
  requests := []
  events := []
  messengers := []
  unbound := []

theorem init_idle (wireGuard : WireGuard) : (system wireGuard).Init idle :=
  ⟨⟨.start rfl⟩, rfl, rfl, rfl, rfl, rfl⟩

/-- The client is registered, and both events are delivered to it. -/
def registering (messenger : Messenger) : List BindingLabel :=
  [.serve granted, .deliver messenger, .deliver messenger]

theorem exists_answered : ∃ (binding : ServiceBinding)
    (trace : (system Sample.wireGuard).Trace binding), trace.Obeys Answered ∧
    binding.unbound = [2, 1] ∧ trace.Visits Clean := by
  obtain ⟨binding, trace, hanswered, hcheck⟩ := (system Sample.wireGuard).exists_trace_of_run
    Answered (init_idle Sample.wireGuard)
    ([.bind, .onServiceConnected 1] ++ registering 1 ++ [.unbind, .bind, .serve granted,
      .onServiceConnected 2] ++ registering 2 ++ [.unbind, .serve granted])
    (fun binding => decide (binding.unbound = [2, 1])) (by decide +kernel)
  exact ⟨binding, trace, hanswered, of_decide_eq_true hcheck,
    visits_clean_of_answered trace hanswered⟩

/-- The client is unbound while the answer to its registration is on its way. -/
theorem not_forall_clean : ¬ ∀ (wireGuard : WireGuard) (binding : ServiceBinding),
    (system wireGuard).Reachable binding → binding.Clean := by
  intro h
  obtain ⟨binding, trace, -, hcheck⟩ := (system Sample.wireGuard).exists_trace_of_run
    (fun _ _ => True) (init_idle Sample.wireGuard)
    ([.bind, .onServiceConnected 1, .serve granted, .unbind, .deliver 1, .deliver 1])
    (fun binding => decide (binding.unbound = [1] ∧ binding.requests = [] ∧
      binding.events = [] ∧ binding.service.listeners = [(1, 1)])) (by decide +kernel)
  obtain ⟨hunbound, hrequests, hevents, hlisteners⟩ := of_decide_eq_true hcheck
  have hdelivered : binding.Delivered 1 := by
    refine ⟨?_, ?_, ?_⟩
    · simp [hrequests]
    · simp [hrequests]
    · simp [hevents]
  apply h Sample.wireGuard binding ⟨trace⟩ 1 (by simp [hunbound]) hdelivered 1
  simp [hlisteners]

end ServiceBinding

end Modvpn.Android
