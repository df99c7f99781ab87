/-
# Whether the home screen shows the orchestrator's state

What the home screen shows in the end is the orchestrator's state if the view model's last
write was what the service reported. The user's guess is overwritten if a state that
differs from the one collected last follows it. A request that changes nothing is not
followed by one, and neither is a request whose change was undone before the collector
looked.
-/

import Modvpn.Analysis.Android.Informed

namespace Modvpn.Android

open Modvpn.Protocol
open VPNOrchestrator

namespace Home

/-- The home screen shows the orchestrator's state. -/
def Shows (home : Home) : Prop :=
  home.viewModel.vpnUiState = home.service.vpnOrchestratorState.toVPNState.toVPNUiState

/-- The user has not finished. -/
def UserActs (home : Home) : Prop :=
  home.viewModel.askingPermission = true ∨ home.viewModel.disconnecting ≠ none

/-- No request and no event is in flight, and the view model has written what was collected. -/
structure Quiet (home : Home) : Prop where
  user : ¬ home.UserActs
  requests : home.requests = []
  events : home.events = []
  collected : home.vpnManager.collected = home.vpnManager.vpnState
  emitted : home.vpnManager.emitted = []

def Converged (home : Home) : Prop := home.Quiet → home.Shows

/-- A state is on its way that the view model will write. -/
def Unseen (home : Home) : Prop :=
  home.vpnManager.emitted ≠ [] ∨ home.vpnManager.collected ≠ home.vpnManager.vpnState ∨
    ∃ vpnState ∈ states home.events, home.vpnManager.vpnState ≠ some vpnState

/-! ## The condition -/

/-- The request changes the orchestrator's state. -/
def answers (env : HandlerEnv) (state : VPNOrchestratorState) : Request → Bool
  | .connect _ => state.isDisconnected && env.prepared
  | .disconnect => !state.isDisconnected
  | .registerListener _ => true
  | .deregisterListener _ => false

/-- The state that is delivered next. -/
def nextState (home : Home) : Option VPNState :=
  match home.events with
  | .vpnState vpnState :: _ => some vpnState
  | .listenerRegistered _ :: _ | .vpnNotification _ :: _ | [] => none

def isUsers : Request → Bool
  | .connect _ | .disconnect => true
  | .registerListener _ | .deregisterListener _ => false

/-- Nothing leaves the user's guess standing: every request changes the session, the
permission goes only while there is one, and no state comes back uncollected. -/
def Effective (home : Home) : HomeLabel → Prop
  | .serve env => ∀ request ∈ home.requests.head?,
      answers env home.service.vpnOrchestratorState request = true
  | .handle .revoke _ => (∀ request ∈ home.requests, isUsers request = true) ∧
      home.service.vpnOrchestratorState.isDisconnected = false
  | .connectPostVpnPermission false _ => home.service.vpnOrchestratorState.isDisconnected = true
  | .connectPostVpnPermission true selectedLocation => selectedLocation.isSome = true
  | .deliver => ∀ vpnState ∈ home.nextState,
      home.vpnManager.collected = some vpnState → home.vpnManager.vpnState = some vpnState
  | .handle _ _ | .connectPreVpnPermission _ | .readUiState | .disconnect | .collect
  | .update => True

/-- Nothing that leaves the user's guess standing is the last to happen. -/
def Heard (home : Home) : HomeLabel → Prop
  -- a request that is refused, or finds the session over
  | .serve env => ∀ request ∈ home.requests.head?,
      answers env home.service.vpnOrchestratorState request = true ∨ home.requests.tail ≠ [] ∨
        home.UserActs ∨ home.Unseen ∨ home.Shows
  -- the requests that wait are thrown away
  | .handle .revoke _ => (∀ request ∈ home.requests, isUsers request = true) ∧
      (home.service.vpnOrchestratorState.isDisconnected = false ∨ home.UserActs ∨ home.Unseen ∨
        home.Shows)
  -- the user denies the permission, or has selected nothing
  | .connectPostVpnPermission false _ => home.requests ≠ [] ∨ home.Unseen ∨
      home.service.vpnOrchestratorState.isDisconnected = true
  | .connectPostVpnPermission true none => home.requests ≠ [] ∨ home.Unseen ∨ home.Shows
  -- the state that was collected last comes back before the collector has looked
  | .deliver => ∀ vpnState ∈ home.nextState,
      home.vpnManager.collected = some vpnState → home.vpnManager.vpnState ≠ some vpnState →
      home.requests ≠ [] ∨ home.UserActs ∨ home.vpnManager.emitted ≠ [] ∨
        (∃ later ∈ states home.events.tail, later ≠ vpnState) ∨ home.Shows
  | .handle _ _ | .connectPostVpnPermission true (some _) | .connectPreVpnPermission _
  | .readUiState | .disconnect | .collect | .update => True

instance (home : Home) : Decidable home.Shows := inferInstanceAs (Decidable (_ = _))

instance (home : Home) : Decidable home.UserActs := inferInstanceAs (Decidable (_ ∨ _))

instance (home : Home) : Decidable home.Unseen := inferInstanceAs (Decidable (_ ∨ _ ∨ _))

instance (home : Home) (label : HomeLabel) : Decidable (home.Heard label) := by
  unfold Heard
  split <;> infer_instance

/-! ## What holds in every state -/

/-- What the client will be told last. -/
def latest (home : Home) : Option VPNState :=
  match (states home.events).getLast? with
  | some vpnState => some vpnState
  | none => home.vpnManager.vpnState

/-- The client waits to be registered, or is informed of every change. -/
inductive Link (messenger : Messenger) (home : Home) : Prop
  | registering (requests : List Request)
      (hrequests : home.requests = .registerListener messenger :: requests)
      (husers : ∀ request ∈ requests, isUsers request = true)
      (hlistens : ¬ listens messenger home.service) (hevents : home.events = [])
      (hmanager : home.vpnManager = { vpnState := none, collected := none, emitted := [] })
  | bound (husers : ∀ request ∈ home.requests, isUsers request = true)
      (hlistens : listens messenger home.service)
      (hlatest : home.latest = some home.service.vpnOrchestratorState.toVPNState)

structure Sound (messenger : Messenger) (home : Home) : Prop where
  resting : home.service.vpnOrchestratorState.isResting = true
  link : home.Link messenger
  emitted : ∀ vpnState ∈ home.vpnManager.emitted.getLast?,
    home.vpnManager.collected = some vpnState
  settled : home.requests ≠ [] ∨ home.UserActs ∨ home.Unseen ∨ home.Shows

variable {wireGuard : WireGuard} {env : HandlerEnv} {messenger : Messenger}
  {home next : Home} {service : VPNService}

/-- If no state is on its way, the manager has the state that the client was told last. -/
theorem latest_of_not_unseen (h : ¬ home.Unseen) : home.latest = home.vpnManager.vpnState := by
  unfold latest
  split
  · rename_i vpnState hlast
    by_contra hne
    exact h (.inr (.inr ⟨vpnState, List.mem_of_getLast? hlast, Ne.symm hne⟩))
  · rfl

theorem unseen_of_events_append {events : List Event} (h : home.Unseen)
    (hmanager : next.vpnManager = home.vpnManager) (hevents : next.events = home.events ++ events) :
    next.Unseen := by
  rcases h with hemitted | hcollected | ⟨vpnState, hmem, hne⟩
  · exact .inl (by rwa [hmanager])
  · exact .inr (.inl (by rwa [hmanager]))
  · refine .inr (.inr ⟨vpnState, ?_, by rwa [hmanager]⟩)
    rw [hevents, states_append]
    exact List.mem_append_left _ hmem

section Handled

variable {revoked : Prop}
  (hinformed : Informed messenger True revoked home.service.vpnOrchestratorState.toVPNState service)
  (hlatest : home.latest = some home.service.vpnOrchestratorState.toVPNState)

include hinformed hlatest

/-- The client will be told the new state last. -/
theorem latest_handled : (home.handled messenger service).latest =
    some service.vpnOrchestratorState.toVPNState := by
  have htold := hinformed.told trivial
  simp only [latest, handled, states_append, List.getLast?_append]
  cases hmail : (states (mail messenger service.effects)).getLast? with
  | some vpnState =>
      rw [hmail] at htold
      rw [← htold]
      rfl
  | none =>
      rw [hmail] at htold
      rw [← htold]
      exact hlatest

/-- A change of the state is on its way to the view model. -/
theorem unseen_handled (hchanged : service.vpnOrchestratorState.toVPNState ≠
    home.service.vpnOrchestratorState.toVPNState) :
    (home.handled messenger service).Unseen := by
  by_contra hnone
  have hbefore : ¬ home.Unseen := fun h => hnone (unseen_of_events_append h rfl rfl)
  have hafter := latest_of_not_unseen hnone
  rw [latest_handled hinformed hlatest] at hafter
  rw [latest_of_not_unseen hbefore] at hlatest
  exact hchanged (Option.some.inj (hafter.trans hlatest))

end Handled

/-- A handler that changes nothing leaves what was on its way on its way. -/
theorem settled_handled {revoked : Prop}
    (hinformed : Informed messenger True revoked home.service.vpnOrchestratorState.toVPNState
      service)
    (hlatest : home.latest = some home.service.vpnOrchestratorState.toVPNState)
    (h : .cleanupIPC ∉ service.effects ∧ home.requests ≠ [] ∨ home.UserActs ∨ home.Unseen ∨
      home.Shows ∨ service.vpnOrchestratorState.toVPNState ≠
        home.service.vpnOrchestratorState.toVPNState) :
    (home.handled messenger service).requests ≠ [] ∨ (home.handled messenger service).UserActs ∨
      (home.handled messenger service).Unseen ∨ (home.handled messenger service).Shows := by
  by_cases hsame : service.vpnOrchestratorState.toVPNState =
      home.service.vpnOrchestratorState.toVPNState
  · rcases h with ⟨hcleanup, hrequests⟩ | huser | hunseen | hshows | hchanged
    · simp only [handled, hcleanup, ↓reduceIte]
      exact .inl hrequests
    · exact .inr (.inl huser)
    · exact .inr (.inr (.inl (unseen_of_events_append hunseen rfl rfl)))
    · refine .inr (.inr (.inr ?_))
      rw [Shows] at hshows ⊢
      simp only [handled, hsame]
      exact hshows
    · exact absurd hsame hchanged
  · exact .inr (.inr (.inl (unseen_handled hinformed hlatest hsame)))

/-- The handler of a bound service. -/
theorem Sound.handled {revoked : Prop}
    (hinformed : Informed messenger True revoked home.service.vpnOrchestratorState.toVPNState
      service)
    (hlatest : home.latest = some home.service.vpnOrchestratorState.toVPNState)
    (husers : ∀ request ∈ home.requests, isUsers request = true)
    (hresting : service.vpnOrchestratorState.isResting = true)
    (hemitted : ∀ vpnState ∈ home.vpnManager.emitted.getLast?,
      home.vpnManager.collected = some vpnState)
    (h : .cleanupIPC ∉ service.effects ∧ home.requests ≠ [] ∨ home.UserActs ∨ home.Unseen ∨
      home.Shows ∨ service.vpnOrchestratorState.toVPNState ≠
        home.service.vpnOrchestratorState.toVPNState) :
    Sound messenger (home.handled messenger service) where
  resting := hresting
  link := by
    refine .bound ?_ (hinformed.listens.2 trivial) (latest_handled hinformed hlatest)
    intro request hmem
    simp only [Home.handled] at hmem
    split at hmem
    · cases hmem
    · exact husers request hmem
  emitted := hemitted
  settled := settled_handled hinformed hlatest h

/-! ## The service -/

theorem handle_of_invoke {invocation : Invocation}
    (h : home.invoke wireGuard messenger env invocation = some next) :
    env.reachable messenger = true ∧ ∃ service,
      handle env wireGuard { home.service with effects := [] } invocation = .ok service ∧
      next = home.handled messenger service := by
  unfold invoke at h
  split at h
  · rename_i hguard
    split at h
    · rename_i service hok
      cases h
      exact ⟨(Bool.and_eq_true_iff.1 hguard).1, service, hok, rfl⟩
    · cases h
  · cases h

theorem toVPNState_ne_disconnected {state : VPNOrchestratorState}
    (h : state.isDisconnected = false) : state.toVPNState ≠ .disconnected := by
  intro heq
  cases state <;> first | (cases heq; done) | cases h

/-- Revoking the permission leaves the session. -/
theorem state_of_revoke (hresting : service.vpnOrchestratorState.isResting = true) :
    (onRevoke env service).vpnOrchestratorState = .disconnected := by
  apply onDisconnect_state env "revoked"
  intro location heq
  have hstate : service.vpnOrchestratorState = .disconnecting location := heq
  rw [hstate] at hresting
  cases hresting

/-- The service handles something that is not the client's. -/
theorem Sound.handle {invocation : Invocation} (hsound : home.Sound messenger)
    (h : home.invoke wireGuard messenger env invocation = some next)
    (hothers : concernsOthers messenger home.service invocation = true)
    (hheard : home.Heard (.handle invocation env)) : next.Sound messenger := by
  obtain ⟨hreachable, service, hok, rfl⟩ := handle_of_invoke h
  have hresting : service.vpnOrchestratorState.isResting = true :=
    @isResting_of_handle _ _ { home.service with effects := [] } _ _ hsound.resting hok
  have hinformed : ∀ listening revoked : Prop, (listens messenger home.service ↔ listening) →
      (invocation = .revoke → revoked) →
      Informed messenger listening revoked home.service.vpnOrchestratorState.toVPNState service :=
    fun listening revoked hlistens hrevoked =>
      @Informed.handle wireGuard env { home.service with effects := [] } service messenger
        listening revoked _ _ hreachable hothers hrevoked (informed_nil hlistens) hok
  by_cases hrevoke : invocation = .revoke
  · subst hrevoke
    obtain ⟨hregistered, hheard⟩ := hheard
    cases hsound.link with
    | registering requests hrequests husers hlistens hevents hmanager =>
        have hregister := hregistered (.registerListener messenger)
          (hrequests ▸ List.mem_cons_self ..)
        cases hregister
    | bound husers hlistens hlatest =>
        have hinformed := hinformed True True (iff_true_intro hlistens) fun _ => trivial
        apply Sound.handled hinformed hlatest husers hresting hsound.emitted
        rcases hheard with hlive | huser | hunseen | hshows
        · have hstate : service.vpnOrchestratorState = .disconnected := by
            cases hok
            exact @state_of_revoke env { home.service with effects := [] } hsound.resting
          rw [hstate]
          exact .inr (.inr (.inr (.inr (toVPNState_ne_disconnected hlive).symm)))
        · exact .inr (.inl huser)
        · exact .inr (.inr (.inl hunseen))
        · exact .inr (.inr (.inr (.inl hshows)))
  · cases hsound.link with
    | registering requests hrequests husers hlistens hevents hmanager =>
        have hinformed := hinformed False False (iff_false_intro hlistens) hrevoke
        have hkept : (home.handled messenger service).requests = home.requests := by
          simp only [Home.handled, if_neg hinformed.cleanup]
        refine ⟨hresting, ?_, hsound.emitted, .inl ?_⟩
        · refine .registering requests (hkept.trans hrequests) husers
            (fun hlistens => hinformed.listens.1 hlistens) ?_ hmanager
          simp only [Home.handled, hevents, hinformed.unheard not_false, List.append_nil]
        · rw [hkept, hrequests]
          exact List.cons_ne_nil _ _
    | bound husers hlistens hlatest =>
        have hinformed := hinformed True False (iff_true_intro hlistens) hrevoke
        apply Sound.handled hinformed hlatest husers hresting hsound.emitted
        rcases hsound.settled with hrequests | huser | hunseen | hshows
        · exact .inl ⟨hinformed.cleanup, hrequests⟩
        · exact .inr (.inl huser)
        · exact .inr (.inr (.inl hunseen))
        · exact .inr (.inr (.inr (.inl hshows)))

/-- A request that is let through changes the state. -/
theorem changes_of_answers {request : Request} (husers : isUsers request = true)
    (hresting : home.service.vpnOrchestratorState.isResting = true)
    (hanswers : answers env home.service.vpnOrchestratorState request = true)
    (hok : VPNOrchestrator.handle env wireGuard { home.service with effects := [] }
      (LooperMessage.request request).invocation = .ok service) :
    service.vpnOrchestratorState.toVPNState ≠
      home.service.vpnOrchestratorState.toVPNState := by
  cases request with
  | registerListener other | deregisterListener id => cases husers
  | disconnect =>
      cases hok
      have hlive : home.service.vpnOrchestratorState.isDisconnected = false := by
        simpa [answers] using hanswers
      have hstate := @onDisconnect_state { home.service with effects := [] } env "user requested"
        (by
          intro location heq
          have hstate : home.service.vpnOrchestratorState = .disconnecting location := heq
          rw [hstate] at hresting
          cases hresting)
      rw [hstate]
      exact (toVPNState_ne_disconnected hlive).symm
  | connect place =>
      cases hok
      simp only [answers, Bool.and_eq_true] at hanswers
      obtain ⟨hdisconnected, hprepared⟩ := hanswers
      have hlocation : (onConnect env place { home.service with effects := [] }).vpnOrchestratorState =
          .requesting env.randomUuid place := by
        simp [onConnect, hdisconnected, hprepared]
      rw [hlocation]
      intro heq
      cases hstate : home.service.vpnOrchestratorState <;> rw [hstate] at hdisconnected heq <;>
        first | (cases heq; done) | cases hdisconnected

/-- The service handles a request of the client. -/
theorem Sound.serve {request : Request} {requests : List Request} (hsound : home.Sound messenger)
    (hrequests : home.requests = request :: requests)
    (h : ({ home with requests } : Home).invoke wireGuard messenger env
      (LooperMessage.request request).invocation = some next)
    (hheard : home.Heard (.serve env)) : next.Sound messenger := by
  obtain ⟨hreachable, service, hok, rfl⟩ := handle_of_invoke h
  have hresting : service.vpnOrchestratorState.isResting = true :=
    @isResting_of_handle _ _ { home.service with effects := [] } _ _ hsound.resting hok
  cases hsound.link with
  | registering waiting hwaiting husers hlistens hevents hmanager =>
      rw [hwaiting] at hrequests
      cases hrequests
      have hinformed : Informed messenger True False
          home.service.vpnOrchestratorState.toVPNState service := by
        cases hok
        exact informed_registerListener hreachable (by simp)
      have hstates : states (mail messenger service.effects) =
          [service.vpnOrchestratorState.toVPNState] := by
        cases hok
        simp only [onRegisterListener, hreachable, ↓reduceIte]
        simp [mail, states]
      have hkept : (Home.handled messenger service { home with requests }).requests = requests := by
        simp only [Home.handled, if_neg hinformed.cleanup]
      refine ⟨hresting, .bound (by rwa [hkept]) (hinformed.listens.2 trivial) ?_, hsound.emitted,
        .inr (.inr (.inl (.inr (.inr
          ⟨service.vpnOrchestratorState.toVPNState, ?_, ?_⟩))))⟩
      · simp only [latest, Home.handled, hevents, List.nil_append, hstates, List.getLast?_singleton]
      · simp only [Home.handled, hevents, List.nil_append, hstates, List.mem_singleton]
      · simp only [Home.handled, hmanager]
        intro hnone
        cases hnone
  | bound husers hlistens hlatest =>
      have husers : ∀ waiting ∈ request :: requests, isUsers waiting = true := hrequests ▸ husers
      have hothers : concernsOthers messenger home.service
          (LooperMessage.request request).invocation = true := by
        have hrequest := husers request (List.mem_cons_self ..)
        cases request with
        | connect place | disconnect => rfl
        | registerListener other | deregisterListener id => cases hrequest
      have hrevoke : (LooperMessage.request request).invocation = .revoke → False := by
        intro hinvocation
        cases request <;> cases hinvocation
      have hinformed := @Informed.handle wireGuard env { home.service with effects := [] } service
        messenger True False _ _ hreachable hothers hrevoke
        (informed_nil (iff_true_intro hlistens)) hok
      apply @Sound.handled messenger { home with requests } service False hinformed hlatest
        (fun waiting hmem => husers waiting (List.mem_cons_of_mem _ hmem)) hresting hsound.emitted
      have hheard := hheard request (by rw [hrequests]; rfl)
      rw [hrequests, List.tail_cons] at hheard
      rcases hheard with hanswers | hmore | huser | hunseen | hshows
      · exact .inr (.inr (.inr (.inr (changes_of_answers (husers request (List.mem_cons_self ..))
          hsound.resting hanswers hok))))
      · exact .inl ⟨hinformed.cleanup, hmore⟩
      · exact .inr (.inl huser)
      · exact .inr (.inr (.inl hunseen))
      · exact .inr (.inr (.inr (.inl hshows)))

/-! ## The client -/

theorem Link.congr (h : home.Link messenger) (hrequests : next.requests = home.requests)
    (hservice : next.service = home.service) (hevents : next.events = home.events)
    (hmanager : next.vpnManager = home.vpnManager) : next.Link messenger := by
  cases h with
  | registering requests hwaiting husers hlistens hnone hidle =>
      exact .registering requests (hrequests.trans hwaiting) husers (by rwa [hservice])
        (hevents.trans hnone) (hmanager.trans hidle)
  | bound husers hlistens hlatest =>
      refine .bound (by rwa [hrequests]) (by rwa [hservice]) ?_
      simpa only [latest, hevents, hmanager, hservice] using hlatest

/-- The user asks for something more. -/
theorem Link.append (h : home.Link messenger) (requests : List Request)
    (hmore : ∀ request ∈ requests, isUsers request = true)
    (hrequests : next.requests = home.requests ++ requests)
    (hservice : next.service = home.service) (hevents : next.events = home.events)
    (hmanager : next.vpnManager = home.vpnManager) : next.Link messenger := by
  have hall : ∀ before : List Request, (∀ request ∈ before, isUsers request = true) →
      ∀ request ∈ before ++ requests, isUsers request = true := by
    intro before hbefore request hmem
    rcases List.mem_append.1 hmem with hmem | hmem
    · exact hbefore request hmem
    · exact hmore request hmem
  cases h with
  | registering waiting hwaiting husers hlistens hnone hidle =>
      refine .registering (waiting ++ requests) ?_ (hall waiting husers) (by rwa [hservice])
        (hevents.trans hnone) (hmanager.trans hidle)
      rw [hrequests, hwaiting, List.cons_append]
  | bound husers hlistens hlatest =>
      refine .bound (by rw [hrequests]; exact hall home.requests husers) (by rwa [hservice]) ?_
      simpa only [latest, hevents, hmanager, hservice] using hlatest

/-- An event that is not a state changes nothing. -/
theorem Sound.skip {event : Event} {events : List Event} (hsound : home.Sound messenger)
    (hevents : home.events = event :: events) (hstate : states [event] = []) :
    Sound messenger { home with events } := by
  have hstates : states home.events = states events := by
    rw [hevents, ← List.singleton_append, states_append, hstate, List.nil_append]
  refine ⟨hsound.resting, ?_, hsound.emitted, ?_⟩
  · cases hsound.link with
    | registering requests hrequests husers hlistens hnone hmanager =>
        rw [hnone] at hevents
        cases hevents
    | bound husers hlistens hlatest =>
        exact .bound husers hlistens (by simpa only [latest, hstates] using hlatest)
  · rcases hsound.settled with hrequests | huser | hunseen | hshows
    · exact .inl hrequests
    · exact .inr (.inl huser)
    · exact .inr (.inr (.inl (by simpa only [Unseen, hstates] using hunseen)))
    · exact .inr (.inr (.inr hshows))

/-- A state is delivered to the manager. -/
theorem Sound.report {vpnState : VPNState} {events : List Event} (hsound : home.Sound messenger)
    (hevents : home.events = .vpnState vpnState :: events) (hheard : home.Heard .deliver) :
    Sound messenger { home with
      vpnManager := { home.vpnManager with vpnState := some vpnState }, events } := by
  have hstates : states home.events = vpnState :: states events := by rw [hevents]; rfl
  refine ⟨hsound.resting, ?_, hsound.emitted, ?_⟩
  · cases hsound.link with
    | registering requests hrequests husers hlistens hnone hmanager =>
        rw [hnone] at hevents
        cases hevents
    | bound husers hlistens hlatest =>
        refine .bound husers hlistens ?_
        simp only [latest, hstates, List.getLast?_cons] at hlatest ⊢
        cases hlast : (states events).getLast? with
        | none =>
            rw [hlast] at hlatest
            exact hlatest
        | some last =>
            rw [hlast] at hlatest
            exact hlatest
  · rcases hsound.settled with hrequests | huser | hunseen | hshows
    · exact .inl hrequests
    · exact .inr (.inl huser)
    · by_cases hsame : home.vpnManager.vpnState = some vpnState
      · refine .inr (.inr (.inl ?_))
        rcases hunseen with hemitted | hcollected | ⟨later, hmem, hne⟩
        · exact .inl hemitted
        · exact .inr (.inl (by rwa [hsame] at hcollected))
        · rw [hstates] at hmem
          rw [hsame] at hne
          rcases List.mem_cons.1 hmem with rfl | hmem
          · exact absurd rfl hne
          · exact .inr (.inr ⟨later, hmem, hne⟩)
      · by_cases hcollected : home.vpnManager.collected = some vpnState
        · have hheard := hheard vpnState (by simp [nextState, hevents]) hcollected hsame
          rw [hevents, List.tail_cons] at hheard
          rcases hheard with hrequests | huser | hemitted | ⟨later, hmem, hne⟩ | hshows
          · exact .inl hrequests
          · exact .inr (.inl huser)
          · exact .inr (.inr (.inl (.inl hemitted)))
          · refine .inr (.inr (.inl (.inr (.inr ⟨later, hmem, ?_⟩))))
            intro heq
            exact hne (Option.some.inj heq).symm
          · exact .inr (.inr (.inr hshows))
        · exact .inr (.inr (.inl (.inr (.inl hcollected))))
    · exact .inr (.inr (.inr hshows))

/-- The next event is delivered. -/
theorem Sound.deliver (hsound : home.Sound messenger) (h : home.deliver = some next)
    (hheard : home.Heard .deliver) : next.Sound messenger := by
  unfold Home.deliver at h
  split at h
  · rename_i vpnState events hevents
    cases h
    exact hsound.report hevents hheard
  · rename_i id events hevents
    cases h
    exact hsound.skip hevents rfl
  · rename_i msg events hevents
    cases h
    exact hsound.skip hevents rfl
  · cases h

/-- The collector picks up a state. -/
theorem Sound.collect (hsound : home.Sound messenger) (h : home.collect = some next) :
    next.Sound messenger := by
  unfold Home.collect at h
  split at h
  · rename_i vpnState hvpnState
    split at h
    · cases h
    · cases h
      refine ⟨hsound.resting, ?_, ?_, .inr (.inr (.inl (.inl ?_)))⟩
      · cases hsound.link with
        | registering requests hrequests husers hlistens hevents hmanager =>
            rw [hmanager] at hvpnState
            cases hvpnState
        | bound husers hlistens hlatest => exact .bound husers hlistens hlatest
      · intro last hmem
        simpa using hmem
      · simp
  · cases h

/-- The view model writes what was collected. -/
theorem Sound.update (hsound : home.Sound messenger) (h : home.update = some next) :
    next.Sound messenger := by
  unfold Home.update at h
  split at h
  · rename_i vpnState emitted hemitted
    cases h
    have hlast := hsound.emitted
    rw [hemitted] at hlast
    cases hsound.link with
    | registering requests hrequests husers hlistens hevents hmanager =>
        rw [hmanager] at hemitted
        cases hemitted
    | bound husers hlistens hlatest =>
        refine ⟨hsound.resting, .bound husers hlistens hlatest, ?_, ?_⟩
        · intro last hmem
          exact hlast last (List.mem_getLast?_cons hmem)
        · by_cases hunseen : Home.Unseen { home with
              viewModel := { home.viewModel with vpnUiState := vpnState.toVPNUiState }
              vpnManager := { home.vpnManager with emitted } }
          · exact .inr (.inr (.inl hunseen))
          · refine .inr (.inr (.inr ?_))
            have hnone : emitted = [] := by
              by_contra hne
              exact hunseen (.inl hne)
            have hcollected : home.vpnManager.collected = home.vpnManager.vpnState := by
              by_contra hne
              exact hunseen (.inr (.inl hne))
            have hold := latest_of_not_unseen hunseen
            have hold : home.latest = home.vpnManager.vpnState := hold
            rw [hlatest, ← hcollected, hlast vpnState (by rw [hnone]; rfl)] at hold
            simp only [Shows, Option.some.inj hold]
  · cases h

/-- The user acts, or the main thread is in the middle of it. -/
theorem Sound.act {label : HomeLabel} (hsound : home.Sound messenger)
    (h : home.act wireGuard messenger label = some next) (hheard : home.Heard label) :
    next.Sound messenger := by
  cases label with
  | connectPreVpnPermission selectedLocation =>
      cases h
      exact ⟨hsound.resting, hsound.link.congr rfl rfl rfl rfl, hsound.emitted,
        .inr (.inl (.inl rfl))⟩
  | connectPostVpnPermission granted selectedLocation =>
      cases h
      cases granted with
      | false =>
          refine ⟨hsound.resting, hsound.link.congr (List.append_nil _) rfl rfl rfl,
            hsound.emitted, ?_⟩
          rcases hheard with hrequests | hunseen | hdisconnected
          · exact .inl fun heq => hrequests (List.append_eq_nil_iff.1 heq).1
          · exact .inr (.inr (.inl hunseen))
          · refine .inr (.inr (.inr ?_))
            cases hstate : home.service.vpnOrchestratorState <;> rw [hstate] at hdisconnected <;>
              first | (simp only [Shows, hstate]; rfl) | cases hdisconnected
      | true =>
          cases selectedLocation with
          | none =>
              refine ⟨hsound.resting, hsound.link.congr (List.append_nil _) rfl rfl rfl,
                hsound.emitted, ?_⟩
              rcases hheard with hrequests | hunseen | hshows
              · exact .inl fun heq => hrequests (List.append_eq_nil_iff.1 heq).1
              · exact .inr (.inr (.inl hunseen))
              · exact .inr (.inr (.inr hshows))
          | some location =>
              refine ⟨hsound.resting, hsound.link.append [.connect location] ?_ rfl
                rfl rfl rfl, hsound.emitted, .inl ?_⟩
              · intro request hmem
                rw [List.mem_singleton.1 hmem]
                rfl
              · exact fun heq => nomatch (List.append_eq_nil_iff.1 heq).2
  | readUiState =>
      cases h
      exact ⟨hsound.resting, hsound.link.congr rfl rfl rfl rfl, hsound.emitted,
        .inr (.inl (.inr nofun))⟩
  | disconnect =>
      simp only [Home.act] at h
      split at h
      · cases h
        refine ⟨hsound.resting, hsound.link.append [.disconnect] ?_ rfl rfl rfl rfl,
          hsound.emitted, .inl ?_⟩
        · intro request hmem
          rw [List.mem_singleton.1 hmem]
          rfl
        · simp
      · cases h
  | serve env =>
      simp only [Home.act] at h
      split at h
      · rename_i request requests hrequests
        exact hsound.serve hrequests h hheard
      · cases h
  | handle invocation env =>
      simp only [Home.act] at h
      split at h
      · rename_i hothers
        exact hsound.handle h hothers hheard
      · cases h
  | deliver => exact hsound.deliver h hheard
  | collect => exact hsound.collect h
  | update => exact hsound.update h

theorem Sound.converged (hsound : home.Sound messenger) : home.Converged := by
  intro hquiet
  rcases hsound.settled with hrequests | huser | hunseen | hshows
  · exact absurd hquiet.requests hrequests
  · exact absurd huser hquiet.user
  · rcases hunseen with hemitted | hcollected | ⟨vpnState, hmem, -⟩
    · exact absurd hquiet.emitted hemitted
    · exact absurd hquiet.collected hcollected
    · rw [hquiet.events] at hmem
      cases hmem
  · exact hshows

theorem sound_of_init (h : (system wireGuard messenger).Init home) : home.Sound messenger := by
  obtain ⟨hreachable, hlisteners, hviewModel, hmanager, hrequests, hevents⟩ := h
  refine ⟨isResting_of_reachable hreachable, ?_, ?_, .inl ?_⟩
  · refine .registering [] hrequests nofun ?_ hevents hmanager
    rintro ⟨id, hmem⟩
    exact hlisteners _ hmem rfl
  · rw [hmanager]
    exact nofun
  · rw [hrequests]
    exact List.cons_ne_nil _ _

theorem visits_sound (trace : (system wireGuard messenger).Trace home) (h : trace.Obeys Heard) :
    trace.Visits fun home => home.Sound messenger := by
  apply TransitionSystem.Trace.visits_of_obeys (fun _ => sound_of_init) _ h
  intro source label target hstep hheard hsound
  simp only [system] at hstep
  split at hstep
  · cases hstep
  · exact hsound.act hstep hheard

/-- Whenever nothing is in flight, the home screen shows the orchestrator's state, if nothing
that leaves the user's guess standing is ever the last to happen. -/
theorem visits_converged_of_heard (trace : (system wireGuard messenger).Trace home)
    (h : trace.Obeys Heard) : trace.Visits Converged :=
  (visits_sound trace h).mono fun _ => Sound.converged

theorem heard_of_effective (label : HomeLabel) (h : home.Effective label) : home.Heard label := by
  cases label with
  | serve env => exact fun request hmem => .inl (h request hmem)
  | handle invocation env =>
      cases invocation with
      | revoke => exact ⟨h.1, .inl h.2⟩
      | connect _ | disconnect | connectResponse _ _ | vpnSessionUpdate _ _
      | registerListener _ | deregisterListener _ | destroy => trivial
  | connectPostVpnPermission granted selectedLocation =>
      cases granted with
      | false => exact .inr (.inr h)
      | true =>
          cases selectedLocation with
          | none => cases h
          | some location => trivial
  | deliver =>
      intro vpnState hmem hcollected hother
      exact absurd (h vpnState hmem hcollected) hother
  | connectPreVpnPermission _ | readUiState | disconnect | collect | update => trivial

/-- The same where nothing at all leaves the user's guess standing. -/
theorem visits_converged_of_effective (trace : (system wireGuard messenger).Trace home)
    (h : trace.Obeys Effective) : trace.Visits Converged :=
  (visits_sound trace (h.mono fun _ => heard_of_effective)).mono fun _ => Sound.converged

end Home

/-! ## A connect and a disconnect, and a refusal -/

namespace Home

open Android.Sample

/-- The service has just been created. -/
def bound : Home where
  viewModel := .new
  vpnManager := { vpnState := none, collected := none, emitted := [] }
  service := .new
  requests := [.registerListener 1]
  events := []

theorem init_bound (wireGuard : WireGuard) : (system wireGuard 1).Init bound :=
  ⟨⟨.start rfl⟩, nofun, rfl, rfl, rfl, rfl⟩

/-- A request is handled, and the state it leads to is shown. -/
def serving (env : HandlerEnv) : List HomeLabel := [.serve env, .deliver, .collect, .update]

def opening : List HomeLabel := serving granted ++ [.deliver]

def pressing : List HomeLabel :=
  [.connectPreVpnPermission (some location), .connectPostVpnPermission true (some location)]

theorem exists_heard : ∃ (home : Home) (trace : (system Sample.wireGuard 1).Trace home),
    trace.Obeys Heard ∧ home.service.vpnOrchestratorState = .disconnected ∧
    trace.Visits Converged := by
  obtain ⟨home, trace, hheard, hcheck⟩ := (system Sample.wireGuard 1).exists_trace_of_run
    Heard (init_bound Sample.wireGuard)
    (opening ++ pressing ++ serving granted ++ [.readUiState, .disconnect] ++ serving granted)
    (fun home => decide (home.service.vpnOrchestratorState = .disconnected)) (by decide +kernel)
  exact ⟨home, trace, hheard, of_decide_eq_true hcheck, visits_converged_of_heard trace hheard⟩

/-- The service finds that the permission is missing, and tells so in a notification. -/
theorem not_forall_shows : ¬ ∀ (wireGuard : WireGuard) (messenger : Messenger) (home : Home),
    (system wireGuard messenger).Reachable home → home.Converged := by
  intro h
  obtain ⟨home, trace, -, hcheck⟩ := (system Sample.wireGuard 1).exists_trace_of_run
    (fun _ _ => True) (init_bound Sample.wireGuard)
    (opening ++ pressing ++ [.serve { granted with prepared := false }, .deliver])
    (fun home => decide (home.requests = [] ∧ home.events = [] ∧ ¬ home.UserActs ∧
      home.vpnManager.collected = home.vpnManager.vpnState ∧ home.vpnManager.emitted = [] ∧
      ¬ home.Shows)) (by decide +kernel)
  obtain ⟨hrequests, hevents, huser, hcollected, hemitted, hshows⟩ := of_decide_eq_true hcheck
  exact hshows (h _ _ home ⟨trace⟩ ⟨huser, hrequests, hevents, hcollected, hemitted⟩)

end Home

end Modvpn.Android
