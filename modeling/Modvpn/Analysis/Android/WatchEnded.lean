/-
# The end of the watch

The watch posts each status to the looper and ends with the first on which it stops. The
orchestrator's answer to the request comes before all of them, so it is handled first and
no status is lost. Of the statuses on which the watch stops, the orchestrator ignores the
one that says that the session has ended.
-/

import Modvpn.Analysis.Android.Passages

namespace Modvpn.Android

open Modvpn.Protocol
open VPNOrchestrator

/-- The watch ends with this status. -/
def VpnSessionStatus.stops (status : VpnSessionStatus) : Bool :=
  status.isFailed || status.isEnded || status.isServerReady

/-- The orchestrator heeds updates. -/
def VPNOrchestratorState.isHeeding : VPNOrchestratorState → Bool
  | .accepted _ _ _ | .serverCreated _ _ _ | .serverRunning _ _ _ => true
  | .disconnected | .requesting _ _ | .serverReady _ _ _ | .connecting _ _ _
  | .connected _ _ _ _ | .disconnecting _ => false

/-- A session that was accepted, the watch of it, and what was polled so far. -/
structure WatchedSession where
  world : World
  watching : Suspend Unit
  polled : List (Except ApiError VpnSessionStatus)

namespace WatchedSession

inductive Label
  | watcher (env : Env)
  | looper (env : HandlerEnv)

variable (wireGuard : WireGuard) (location : Location) (request : VpnSessionStatusRequest)

/-- The watch performs an operation. -/
def watch (env : Env) (session : WatchedSession) : Option WatchedSession :=
  match session.watching with
  | .perform op next =>
      let (answer, world) := World.answer op env session.world
      some {
        world
        watching := match op with
          | .again => VPNSessionRepository.watch session.world.number location request
          | _ => next answer
        polled := match op with
          | .getVpnSessionStatus _ => session.polled ++ [env.vpnSessionStatus]
          | _ => session.polled }
  | .pure _ | .panic _ => none

/-- The looper handles a message, with the permission granted. -/
def loop (env : HandlerEnv) (session : WatchedSession) : Option WatchedSession :=
  match session.world.service, session.world.queue with
  | some service, message :: queue =>
      if env.prepared && env.preparedAgain && service.offers env then
        match handle env wireGuard { service with effects := [] } message.invocation with
        | .ok next =>
            some { session with world := { session.world with service := some next, queue } }
        | .error _ => none
      else none
  | _, _ => none

/-- The watch is launched after the orchestrator was answered. -/
def system : TransitionSystem WatchedSession Label where
  Init session := ∃ service place accepted interFace,
    session.world.service = some service ∧
    service.vpnOrchestratorState = .requesting request.requestId place ∧
    session.world.queue =
      [.orchestrator request.requestId (.connectResponse location (.ok (accepted, interFace)))] ∧
    session.watching = VPNSessionRepository.watch session.world.number location request ∧
    session.polled = []
  step session
    | .watcher env => session.watch location request env
    | .looper env => session.loop wireGuard env

/-! ## Where the watch stands -/

def Unstopped (polled : List (Except ApiError VpnSessionStatus)) : Prop :=
  ∀ status, .ok status ∈ polled → status.stops = false

/-- What is left of a round once a status is posted. -/
def informed (status : VpnSessionStatus) : Suspend Unit :=
  if status.isFailed || status.isEnded then perform (.deleteWithRequestId request.requestId)
  else if status.isServerReady then return ()
  else perform .again

/-- What the watch does with an answer of the server. -/
def onPolled (number : Nat) : Except ApiError VpnSessionStatus → Suspend Unit
  | .error _ => perform .again
  | .ok status => do
      perform (.sendOrchestratorMessage number request.requestId
        (.vpnSessionUpdate location status))
      informed request status

/-- The watch polled this much, posted the status on which it stops, and has this left. -/
inductive Stage (number : Nat) : List (Except ApiError VpnSessionStatus) →
    Option VpnSessionStatus → Suspend Unit → Prop
  | delaying {polled} (hpolled : Unstopped polled) :
      Stage number polled none (VPNSessionRepository.watch number location request)
  | polling {polled} (hpolled : Unstopped polled) :
      Stage number polled none
        (Program.perform (S := ops) (.getVpnSessionStatus request)
          (onPolled location request number))
  | restarting {polled} (hpolled : Unstopped polled) : Stage number polled none (perform .again)
  | informing {polled} (status : VpnSessionStatus) (hpolled : Unstopped polled) :
      Stage number (polled ++ [.ok status]) none (onPolled location request number (.ok status))
  | deleting {polled} (status : VpnSessionStatus) (hpolled : Unstopped polled)
      (hstops : status.stops = true) :
      Stage number (polled ++ [.ok status]) (some status)
        (perform (.deleteWithRequestId request.requestId))
  | over {polled} (status : VpnSessionStatus) (hpolled : Unstopped polled)
      (hstops : status.stops = true) :
      Stage number (polled ++ [.ok status]) (some status) (.pure ())

/-- The statuses wait to be handled. -/
def updates (statuses : List VpnSessionStatus) : List LooperMessage :=
  statuses.map fun status => .orchestrator request.requestId (.vpnSessionUpdate location status)

/-- What waits for the orchestrator, up to the status on which the watch stops. -/
inductive Ahead (stop : Option VpnSessionStatus) :
    VPNOrchestratorState → List LooperMessage → Prop
  | accepting (requestId : Uuid) (place : Location) (accepted : Accepted) (interFace : Interface)
      (statuses : List VpnSessionStatus) (hstatuses : ∀ status ∈ statuses, status.stops = false) :
      Ahead stop (.requesting requestId place)
        (.orchestrator request.requestId (.connectResponse location (.ok (accepted, interFace))) ::
          updates location request (statuses ++ stop.toList))
  | heeding (state : VPNOrchestratorState) (hheeding : state.isHeeding = true)
      (statuses : List VpnSessionStatus) (hstatuses : ∀ status ∈ statuses, status.stops = false) :
      Ahead stop state (updates location request (statuses ++ stop.toList))
  | settled (state : VPNOrchestratorState) (status : VpnSessionStatus) (hstop : stop = some status)
      (hsettled : state.isProvisioning = status.isEnded) : Ahead stop state []

/-- The watch and the looper are in step. -/
def InStep (session : WatchedSession) : Prop :=
  ∃ service stop, session.world.service = some service ∧
    Stage location request session.world.number session.polled stop session.watching ∧
    Ahead location request stop service.vpnOrchestratorState session.world.queue

variable {wireGuard location request} {session next : WatchedSession}

/-! ## The watch -/

/-- A status on which the watch does not stop is one more to be handled. -/
theorem Ahead.append {state : VPNOrchestratorState} {queue : List LooperMessage}
    (h : Ahead location request none state queue) (status : VpnSessionStatus)
    (hstops : status.stops = false) :
    Ahead location request none state (queue ++ updates location request [status]) := by
  have hall : ∀ statuses : List VpnSessionStatus,
      (∀ status ∈ statuses, status.stops = false) →
      ∀ before ∈ statuses ++ [status], before.stops = false := by
    intro statuses hstatuses before hmem
    rcases List.mem_append.1 hmem with hmem | hmem
    · exact hstatuses before hmem
    · rwa [List.mem_singleton.1 hmem]
  cases h with
  | accepting requestId place accepted interFace statuses hstatuses =>
      have hlater : Ahead location request none _ _ :=
        .accepting requestId place accepted interFace _ (hall statuses hstatuses)
      simpa [updates] using hlater
  | heeding state hheeding statuses hstatuses =>
      have hlater : Ahead location request none _ _ :=
        .heeding state hheeding _ (hall statuses hstatuses)
      simpa [updates] using hlater
  | settled _ _ hstop _ => cases hstop

/-- The status on which the watch stops is the last to be handled. -/
theorem Ahead.stop {state : VPNOrchestratorState} {queue : List LooperMessage}
    (h : Ahead location request none state queue) (status : VpnSessionStatus) :
    Ahead location request (some status) state (queue ++ updates location request [status]) := by
  cases h with
  | accepting requestId place accepted interFace statuses hstatuses =>
      have hlast : Ahead location request (some status) _ _ :=
        .accepting requestId place accepted interFace statuses hstatuses
      simpa [updates] using hlast
  | heeding state hheeding statuses hstatuses =>
      have hlast : Ahead location request (some status) _ _ :=
        .heeding state hheeding statuses hstatuses
      simpa [updates] using hlast
  | settled _ _ hstop _ => cases hstop

theorem Unstopped.append {polled : List (Except ApiError VpnSessionStatus)}
    (h : Unstopped polled) {outcome : Except ApiError VpnSessionStatus}
    (houtcome : ∀ status, outcome = .ok status → status.stops = false) :
    Unstopped (polled ++ [outcome]) := by
  intro status hmem
  rcases List.mem_append.1 hmem with hmem | hmem
  · exact h status hmem
  · exact houtcome status (List.mem_singleton.1 hmem).symm

/-- One round of the watch. -/
theorem watch_eq (number : Nat) :
    VPNSessionRepository.watch number location request =
      Program.perform (S := ops) .delay fun _ =>
        Program.perform (S := ops) (.getVpnSessionStatus request)
          (onPolled location request number) := by
  show Program.perform _ _ = _
  congr 1
  funext _
  show Program.perform _ _ = _
  congr 1
  funext answer
  cases answer <;> rfl

theorem inStep_watch {env : Env} (h : session.watch location request env = some next)
    (hinstep : InStep location request session) : InStep location request next := by
  obtain ⟨service, stop, hservice, hstage, hahead⟩ := hinstep
  obtain ⟨world, watching, polled⟩ := session
  simp only at hservice hstage hahead
  cases hstage with
  | delaying hpolled =>
      rw [watch_eq] at h
      cases h
      exact ⟨service, none, hservice, .polling hpolled, hahead⟩
  | polling hpolled =>
      cases h
      refine ⟨service, none, hservice, ?_, hahead⟩
      simp only
      cases env.vpnSessionStatus with
      | error error => exact .restarting (hpolled.append nofun)
      | ok status => exact .informing status hpolled
  | restarting hpolled =>
      cases h
      exact ⟨service, none, hservice, .delaying hpolled, hahead⟩
  | @informing before status hpolled =>
      cases h
      have hposted : world.sendOrchestratorMessage world.number request.requestId
          (.vpnSessionUpdate location status) =
          { world with queue := world.queue ++ updates location request [status] } := by
        simp [World.sendOrchestratorMessage, hservice, updates]
      simp only [hposted]
      cases hstops : status.stops with
      | false =>
          have hpolled : Unstopped (before ++ [.ok status]) := hpolled.append fun _ heq => by
            cases heq
            exact hstops
          refine ⟨service, none, hservice, ?_, hahead.append status hstops⟩
          have hagain : informed request status = perform .again := by
            simp only [VpnSessionStatus.stops, Bool.or_eq_false_iff] at hstops
            simp [informed, hstops]
          show Stage location request world.number _ none (informed request status)
          rw [hagain]
          exact .restarting hpolled
      | true =>
          refine ⟨service, some status, hservice, ?_, hahead.stop status⟩
          show Stage location request world.number _ (some status) (informed request status)
          unfold informed
          split
          · exact .deleting status hpolled hstops
          · rename_i hgone
            have hready : status.isServerReady = true := by
              simpa [VpnSessionStatus.stops, hgone] using hstops
            rw [hready]
            exact .over status hpolled hstops
  | deleting status hpolled hstops =>
      cases h
      exact ⟨service, some status, hservice, .over status hpolled hstops, hahead⟩
  | «over» status hpolled hstops => cases h

theorem Stage.stops {number : Nat} {polled : List (Except ApiError VpnSessionStatus)}
    {stop : Option VpnSessionStatus} {watching : Suspend Unit}
    (h : Stage location request number polled stop watching) (status : VpnSessionStatus)
    (hstop : stop = some status) : status.stops = true := by
  cases h with
  | deleting last hpolled hstops | «over» last hpolled hstops =>
      cases hstop
      exact hstops
  | delaying hpolled | polling hpolled | restarting hpolled | informing last hpolled => cases hstop

/-! ## The looper -/

/-- What a heeding orchestrator makes of a status. -/
inductive Outcome (status : VpnSessionStatus) : Option VPNOrchestratorState → Prop
  | ignored (hfailed : status.isFailed = false) (hready : status.isServerReady = false) :
      Outcome status none
  | failed (hfailed : status.isFailed = true) (hended : status.isEnded = false) :
      Outcome status (some .disconnected)
  | ready (place : Location) (content : ServerReady) (config : Config)
      (hready : status.isServerReady = true) (hended : status.isEnded = false) :
      Outcome status (some (.serverReady place content config))
  | moved (next : VPNOrchestratorState) (hheeding : next.isHeeding = true)
      (hstops : status.stops = false) : Outcome status (some next)

theorem outcome_of_isHeeding {state : VPNOrchestratorState} {status : VpnSessionStatus}
    {place : Location} {outcome : Option VPNOrchestratorState} (h : state.isHeeding = true)
    (hnew : state.newStateFromUpdate wireGuard place status = .ok outcome) :
    Outcome status outcome := by
  cases status with
  | failed content =>
      cases hnew
      exact .failed rfl rfl
  | clientConnected content | ended content =>
      cases hnew
      exact .ignored rfl rfl
  | accepted content | serverCreated content | serverRunning content =>
      cases state <;> cases hnew <;> first
        | exact .ignored rfl rfl
        | exact .moved _ rfl rfl
  | serverReady content =>
      have hmap : ∀ interFace, (toConfig wireGuard interFace content).map (fun config =>
          some (VPNOrchestratorState.serverReady place content config)) = .ok outcome →
          Outcome (.serverReady content) outcome := by
        intro interFace hmap
        cases hconfig : toConfig wireGuard interFace content with
        | error thrown =>
            rw [hconfig] at hmap
            cases hmap
        | ok config =>
            rw [hconfig] at hmap
            cases hmap
            exact .ready place content config rfl rfl
      cases state <;> first
        | exact hmap _ hnew
        | cases h

/-- An update moves the orchestrator on, or out of provisioning if the session does not end. -/
theorem heeds_of_update {service handled : VPNService} {env : HandlerEnv} {place : Location}
    {status : VpnSessionStatus}
    (hheeding : service.vpnOrchestratorState.isHeeding = true)
    (hprepared : env.prepared = true) (hpreparedAgain : env.preparedAgain = true)
    (hok : onVpnSessionUpdate env wireGuard place status { service with effects := [] } =
      .ok handled) :
    if status.stops then handled.vpnOrchestratorState.isProvisioning = status.isEnded
    else handled.vpnOrchestratorState.isHeeding = true := by
  have hprovisioning : ∀ state : VPNOrchestratorState, state.isHeeding = true →
      state.isProvisioning = true ∧ state.isResting = true ∧
        state.isDisconnectingOrDisconnected = false := by
    intro state h
    cases state <;> first
      | exact ⟨rfl, rfl, rfl⟩
      | cases h
  obtain ⟨hprovisions, hresting, hlive⟩ := hprovisioning _ hheeding
  cases updates_of_eq_ok hok with
  | drops hgone =>
      rw [hlive] at hgone
      cases hgone
  | revoked _ hrevoked =>
      rw [hprepared] at hrevoked
      cases hrevoked
  | ignores _ _ hnew =>
      rw [toldOfFailure_state]
      cases outcome_of_isHeeding hheeding hnew with
      | ignored hfailed hready =>
          split
          · rename_i hstops
            simp only [VpnSessionStatus.stops, hfailed, hready, Bool.false_or, Bool.or_false]
              at hstops
            rw [hprovisions, hstops]
          · exact hheeding
  | moves state _ _ hnew hready =>
      rw [updateStateAndNotifyClients_state]
      cases outcome_of_isHeeding hheeding hnew with
      | failed hfailed hended =>
          simp only [VpnSessionStatus.stops, hfailed, hended, Bool.true_or, ↓reduceIte]
          rfl
      | ready place content config _ _ => exact absurd rfl (hready place content config)
      | moved _ hheeding hstops => simp [hstops, hheeding]
  | readies place' content config _ _ hnew =>
      cases outcome_of_isHeeding hheeding hnew with
      | moved _ hheeding _ => cases hheeding
      | ready _ _ _ hready hended =>
          have hpassage := passage_of_update hresting hok
          rw [turnOnCalls_turnOnVPN, turnOnCalls_updateStateAndNotifyClients,
            turnOnCalls_toldOfFailure, hpreparedAgain] at hpassage
          simp only [VpnSessionStatus.stops, hready, hended, Bool.or_true, ↓reduceIte]
          exact hpassage.settled

/-- The looper handles what is ahead in turn. -/
theorem Ahead.handled {stop : Option VpnSessionStatus} {env : HandlerEnv}
    {service handled : VPNService} {message : LooperMessage} {queue : List LooperMessage}
    (h : Ahead location request stop service.vpnOrchestratorState (message :: queue))
    (hstops : ∀ status, stop = some status → status.stops = true)
    (hprepared : env.prepared = true) (hpreparedAgain : env.preparedAgain = true)
    (hok : handle env wireGuard { service with effects := [] } message.invocation =
      .ok handled) :
    Ahead location request stop handled.vpnOrchestratorState queue := by
  generalize hstate : service.vpnOrchestratorState = state at h
  generalize hall : message :: queue = all at h
  cases h with
  | accepting requestId place accepted interFace statuses hstatuses =>
      cases hall
      cases hok
      have haccepted : (onConnectResponse env location (.ok (accepted, interFace))
          { service with effects := [] }).vpnOrchestratorState =
          .accepted location accepted interFace := by
        simp [onConnectResponse, hstate, VPNOrchestratorState.isDisconnectingOrDisconnected]
      rw [haccepted]
      exact .heeding _ rfl statuses hstatuses
  | heeding _ hheeding statuses hstatuses =>
      have hheeds : ∀ status, message =
          .orchestrator request.requestId (.vpnSessionUpdate location status) →
          if status.stops then handled.vpnOrchestratorState.isProvisioning = status.isEnded
          else handled.vpnOrchestratorState.isHeeding = true := by
        intro status heq
        rw [heq] at hok
        rw [← hstate] at hheeding
        exact heeds_of_update hheeding hprepared hpreparedAgain hok
      cases statuses with
      | nil =>
          cases stop with
          | none => cases hall
          | some status =>
              cases hall
              have hlast := hheeds status rfl
              rw [hstops status rfl] at hlast
              exact .settled _ status rfl hlast
      | cons status statuses =>
          cases hall
          have hnext := hheeds status rfl
          rw [hstatuses status (List.mem_cons_self ..)] at hnext
          exact .heeding _ hnext statuses fun later hmem =>
            hstatuses later (List.mem_cons_of_mem _ hmem)
  | settled _ status hstop hsettled => cases hall

theorem inStep_loop {env : HandlerEnv} (h : session.loop wireGuard env = some next)
    (hinstep : InStep location request session) : InStep location request next := by
  obtain ⟨service, stop, hservice, hstage, hahead⟩ := hinstep
  obtain ⟨world, watching, polled⟩ := session
  simp only at hservice hstage hahead
  simp only [loop, hservice] at h
  split at h
  · rename_i hsome hqueue
    cases hsome
    split at h
    · rename_i hgranted
      simp only [Bool.and_eq_true] at hgranted
      split at h
      · rename_i handled hok
        cases h
        rw [hqueue] at hahead
        exact ⟨handled, stop, rfl, hstage, hahead.handled hstage.stops hgranted.1.1
          hgranted.1.2 hok⟩
      · cases h
    · cases h
  · cases h

/-! ## Once the watch has ended -/

theorem Stage.isOver {number : Nat} {polled : List (Except ApiError VpnSessionStatus)}
    {stop : Option VpnSessionStatus}
    (h : Stage location request number polled stop (.pure ())) :
    ∃ before status, polled = before ++ [.ok status] ∧ Unstopped before ∧ stop = some status := by
  generalize hwatching : Program.pure () = watching at h
  cases h with
  | delaying hpolled =>
      rw [watch_eq] at hwatching
      cases hwatching
  | polling hpolled | restarting hpolled | informing status hpolled
  | deleting status hpolled hstops => cases hwatching
  | «over» status hpolled hstops => exact ⟨_, status, rfl, hpolled, rfl⟩

/-- With everything handled, the orchestrator has answered to the last status. -/
theorem Ahead.isSettled {stop : Option VpnSessionStatus} {status : VpnSessionStatus}
    {state : VPNOrchestratorState} (h : Ahead location request stop state [])
    (hstop : stop = some status) : state.isProvisioning = status.isEnded := by
  generalize hqueue : [] = queue at h
  cases h with
  | accepting requestId place accepted interFace statuses hstatuses => cases hqueue
  | heeding _ hheeding statuses hstatuses =>
      rw [hstop] at hqueue
      simp [updates] at hqueue
  | settled _ last hlast hsettled =>
      rw [hlast] at hstop
      cases hstop
      exact hsettled

theorem inStep_of_reachable (h : (system wireGuard location request).Reachable session) :
    InStep location request session := by
  apply h.invariant
  · rintro session ⟨service, place, accepted, interFace, hservice, hstate, hqueue, hwatching,
      hpolled⟩
    refine ⟨service, none, hservice, ?_, ?_⟩
    · rw [hpolled, hwatching]
      exact .delaying nofun
    · rw [hstate, hqueue]
      exact .accepting request.requestId place accepted interFace [] nofun
  · intro source label target hstep hinstep
    cases label with
    | watcher env => exact inStep_watch hstep hinstep
    | looper env => exact inStep_loop hstep hinstep

/-- Once the watch has ended and everything is handled, the orchestrator has left
provisioning if and only if the server never answered that the session has ended. -/
theorem not_isProvisioning_iff (h : (system wireGuard location request).Reachable session)
    (hended : session.watching = .pure ()) (hhandled : session.world.queue = [])
    {service : VPNService} (hservice : session.world.service = some service) :
    service.vpnOrchestratorState.isProvisioning = false ↔
      ∀ content, .ok (.ended content) ∉ session.polled := by
  obtain ⟨running, stop, hrunning, hstage, hahead⟩ := inStep_of_reachable h
  rw [hservice] at hrunning
  cases hrunning
  rw [hhandled] at hahead
  rw [hended] at hstage
  obtain ⟨before, status, hpolled, hbefore, hstop⟩ := hstage.isOver
  have hsettled := hahead.isSettled hstop
  rw [hsettled, hpolled]
  constructor
  · intro hgoes content hmem
    rcases List.mem_append.1 hmem with hmem | hmem
    · cases hbefore _ hmem
    · cases List.mem_singleton.1 hmem
      cases hgoes
  · intro hnot
    cases status with
    | ended content =>
        have hlast := List.mem_append_right before (List.mem_singleton_self (.ok (.ended content)))
        exact absurd hlast (hnot content)
    | accepted _ | failed _ | serverCreated _ | serverRunning _ | serverReady _
    | clientConnected _ => rfl

end WatchedSession

namespace WatchedSession

/-! ## Two ends of a watch -/

open Android.Sample

def request : VpnSessionStatusRequest where
  requestId := requestId
  deviceUniqueId := device.uniqueId
  vpnSessionUuid := vpnSessionUuid

/-- The session was just accepted. -/
def accepted : WatchedSession where
  world := { Phone.installed.world with
    service := some { VPNService.new with
      vpnOrchestratorState := .requesting requestId location }
    queue := [.orchestrator requestId
      (.connectResponse location (.ok (⟨requestId, vpnSessionUuid⟩, interFace)))] }
  watching := VPNSessionRepository.watch 0 location request
  polled := []

theorem init_accepted (wireGuard : WireGuard) : (system wireGuard location request).Init accepted :=
  ⟨_, location, _, interFace, rfl, rfl, rfl, rfl, rfl⟩

/-- The first answer to the watch is this one, and both messages are handled. -/
def answering (status : VpnSessionStatus) (operations : Nat) : List Label :=
  List.replicate operations (.watcher { answers with vpnSessionStatus := .ok status }) ++
    List.replicate 2 (.looper granted)

/-- Everything is handled, and the orchestrator is provisioning, or is not. -/
def leaves (provisioning : Bool) (session : WatchedSession) : Bool :=
  match session.watching, session.world.queue, session.world.service with
  | .pure (), [], some service =>
      service.vpnOrchestratorState.isProvisioning == provisioning
  | _, _, _ => false

theorem eq_of_leaves {provisioning : Bool} {session : WatchedSession}
    (h : leaves provisioning session = true) :
    ∃ service, session.watching = .pure () ∧ session.world.queue = [] ∧
      session.world.service = some service ∧
      service.vpnOrchestratorState.isProvisioning = provisioning := by
  unfold leaves at h
  split at h
  · rename_i service hwatching hqueue hservice
    exact ⟨service, hwatching, hqueue, hservice, by simpa using h⟩
  · cases h

theorem exists_not_ended : ∃ session service,
    (system Sample.wireGuard location request).Reachable session ∧
    session.watching = .pure () ∧ session.world.service = some service ∧
    (service.vpnOrchestratorState.isProvisioning = false ↔
      ∀ content, .ok (.ended content) ∉ session.polled) := by
  obtain ⟨session, trace, -, hcheck⟩ := (system Sample.wireGuard location
    request).exists_trace_of_run (fun _ _ => True) (init_accepted Sample.wireGuard)
    (answering (.serverReady serverReady) 3) (leaves false) (by decide +kernel)
  obtain ⟨service, hended, hhandled, hservice, -⟩ := eq_of_leaves hcheck
  exact ⟨session, service, ⟨trace⟩, hended, hservice,
    not_isProvisioning_iff ⟨trace⟩ hended hhandled hservice⟩

/-- The server answers that the session has ended. -/
theorem not_forall_leaves : ¬ ∀ (wireGuard : WireGuard) (location : Location)
    (request : VpnSessionStatusRequest) (session : WatchedSession) (service : VPNService),
    (system wireGuard location request).Reachable session → session.watching = .pure () →
    session.world.queue = [] → session.world.service = some service →
    service.vpnOrchestratorState.isProvisioning = false := by
  intro h
  obtain ⟨session, trace, -, hcheck⟩ := (system Sample.wireGuard location
    request).exists_trace_of_run (fun _ _ => True) (init_accepted Sample.wireGuard)
    (answering (.ended ⟨requestId, vpnSessionUuid, "expired"⟩) 4) (leaves true) (by decide +kernel)
  obtain ⟨service, hended, hhandled, hservice, hprovisioning⟩ := eq_of_leaves hcheck
  have hleft := h Sample.wireGuard location request session service ⟨trace⟩ hended hhandled hservice
  rw [hprovisioning] at hleft
  cases hleft

end WatchedSession

end Modvpn.Android
