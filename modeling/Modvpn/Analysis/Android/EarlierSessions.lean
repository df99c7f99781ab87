/-
# Messages of earlier sessions

Cancelling the coroutines of a session takes back no message, neither one that waits nor
one that a coroutine is about to send, and a coroutine that is about to launch a watcher
still launches it. The handlers take every answer to be about the session in progress. So
answers reach their own session while none waits when a session begins, and none is sent
for an earlier session while a later one is in progress.
-/

import Modvpn.Analysis.Android.Handling

namespace Modvpn.Android

open Modvpn.Protocol
open VPNOrchestrator (Turns replacement)

namespace EarlierSessions

/-! ## Answers name the session they were produced for -/

def Echoes (requestId : Uuid) : OrchestratorMessage → Prop
  | .connectResponse _ (.ok (accepted, _)) => accepted.requestId = requestId
  | .connectResponse _ (.error _) => True
  | .vpnSessionUpdate _ status => status.requestId = requestId

def Owed : Op → Prop
  | .sendOrchestratorMessage _ requestId message => Echoes requestId message
  | _ => True

@[reducible]
def contract : Contract ops Env World where
  rely _ _ := True
  admits op env world := world.allows env op = true
  duty op _ _ := Owed op
  rely_refl _ := trivial
  rely_trans _ _ := trivial

def Echoing (world : World) : Prop :=
  ∀ requestId message, LooperMessage.orchestrator requestId message ∈ world.queue →
    Echoes requestId message

variable {world moved : World}

/-- Only sending adds an answer to the queue, and the session stays. -/
theorem answer_queue (op : Op) (env : Env) (world : World) :
    (World.answer op env world).2.session = world.session ∧
      (World.answer op env world).2.held = world.held ∧
      ∀ requestId message,
        LooperMessage.orchestrator requestId message ∈ (World.answer op env world).2.queue →
        LooperMessage.orchestrator requestId message ∈ world.queue ∨
          op = .sendOrchestratorMessage world.number requestId message := by
  have hmoves := Phone.moves_answer op env world
  generalize (World.answer op env world).2 = moved at hmoves ⊢
  cases hmoves with
  | delivers other sent =>
      refine ⟨rfl, rfl, fun requestId message hmem => ?_⟩
      rcases List.mem_append.1 hmem with hmem | hmem
      · exact .inl hmem
      · cases List.mem_singleton.1 hmem
        exact .inr rfl
  | reclaims service =>
      have huntouched := Phone.untouched_runReclaimer world service
      rw [huntouched.queue]
      exact ⟨huntouched.session, huntouched.held, fun _ _ => .inl⟩
  | stays | writes _ | insertsDevice | requests request | requestsEnd request | fails request _
  | stops reclaimer => exact ⟨rfl, rfl, fun _ _ => .inl⟩

theorem perform_echoing {op : Op} {env : Env} (h : Echoing world)
    (_ : contract.admits op env world) (hduty : contract.duty op env world) :
    Echoing (World.answer op env world).2 ∧ contract.rely world (World.answer op env world).2 := by
  refine ⟨fun requestId message hmem => ?_, trivial⟩
  rcases (answer_queue op env world).2.2 requestId message hmem with hmem | rfl
  · exact h requestId message hmem
  · exact hduty

def terms : Terms semantics where
  contract := contract
  invariant := Echoing
  perform := perform_echoing

/-- The server answers with the id it was asked about. -/
def Echoed : ∀ op : Op, op.Resp → Prop
  | .awaitNewVpnSession request, .ok accepted => accepted.requestId = request.requestId
  | .getVpnSessionStatus request, .ok status => status.requestId = request.requestId
  | _, _ => True

theorem echoed_of_allows {op : Op} {env : Env} (h : world.allows env op = true) :
    Echoed op (World.answer op env world).1 := by
  cases op with
  | awaitNewVpnSession request =>
      cases hreply : env.newVpnSession with
      | error error =>
          simp only [World.answer, hreply]
          trivial
      | ok accepted =>
          simp only [World.allows, hreply, Bool.and_eq_true, decide_eq_true_eq] at h
          simp only [World.answer, hreply]
          exact h.1
  | getVpnSessionStatus request =>
      cases hreply : env.vpnSessionStatus with
      | error error =>
          simp only [World.answer, hreply]
          trivial
      | ok status =>
          simp only [World.allows, hreply, Bool.and_eq_true, decide_eq_true_eq] at h
          simp only [World.answer, hreply]
          exact h.1
  | getDevice | insertDevice | insert vpnSession | update vpnSession | delete vpnSession
  | withRequestId requestId | deleteWithRequestId requestId | markAllForDeletion | toReclaim
  | sendNewVpnSession request | sendEndVpnSession request | awaitEndVpnSession request | delay
  | sendOrchestratorMessage service requestId message | launchWatch service location request
  | endVpnSession service requestId reason | runReclaimer service | stopRunning reclaimer
  | again => trivial

section Coroutines

variable {wireGuard : WireGuard}

/-- What is made of such answers names its session. -/
theorem owed_of_tells {op : Op} (h : Tells wireGuard Echoed op) : Owed op := by
  cases op with
  | sendOrchestratorMessage service requestId message =>
      cases message with
      | connectResponse location result =>
          cases result with
          | error error => trivial
          | ok accepted =>
              obtain ⟨-, request, hname, hreply⟩ := h
              exact hreply.trans hname
      | vpnSessionUpdate location status =>
          obtain ⟨request, hname, hreply⟩ := h
          exact hreply.trans hname
  | getDevice | insertDevice | insert vpnSession | update vpnSession | delete vpnSession
  | withRequestId requestId | deleteWithRequestId requestId | markAllForDeletion | toReclaim
  | sendNewVpnSession request | awaitNewVpnSession request | sendEndVpnSession request
  | awaitEndVpnSession request | getVpnSessionStatus request | delay
  | launchWatch service location request | endVpnSession service requestId reason
  | runReclaimer service | stopRunning reclaimer | again => trivial

theorem program_keeps (coroutine : Coroutine) (world : World) :
    terms.Keeps (coroutine.program wireGuard) world := by
  have htells : (coroutine.program wireGuard).OnlyGiven Echoed (Tells wireGuard Echoed) :=
    program_tells coroutine
  apply Terms.keeps_of_onlyGiven htells _ _ world
  · exact fun _ _ htells => owed_of_tells htells
  · exact fun hallows => echoed_of_allows hallows

/-! ## The session in progress -/

/-- Answers that wait while a session is in progress are its own, and so is the request id
of the orchestrator. -/
structure Governed (world : World) : Prop where
  own : ∀ session ∈ world.session, ∀ requestId message,
    LooperMessage.orchestrator requestId message ∈ world.queue → requestId = session
  named : ∀ requestId, world.held = some requestId → world.session = some requestId

def isConnect : LooperMessage → Bool
  | .request (.connect _) => true
  | _ => false

/-- A request to connect is let through next. -/
def begins (env : HandlerEnv) (phone : Phone) : Bool :=
  phone.world.queue.head?.any isConnect &&
    phone.world.service.any (·.vpnOrchestratorState.isDisconnected) && env.prepared

/-- The session of an answer that is sent to this service. -/
def sent (service : Nat) : Op → Option Uuid
  | .sendOrchestratorMessage number requestId _ => if number = service then some requestId else none
  | _ => none

/-- No answer waits when a session begins, and none is sent for an earlier one while a later
one is in progress. -/
def Apart (phone : Phone) : PhoneLabel → Prop
  | .handle env => begins env phone = true →
      ∀ message ∈ phone.world.queue.tail, message.isOrchestrator = false
  | .perform index _ => ∀ op ∈ phone.nextOp index, ∀ requestId ∈ sent phone.world.number op,
      ∀ session ∈ phone.world.session, requestId = session
  | _ => True

/-- After a handler the answers that wait are among those that waited. -/
theorem governed_handled (phone : Phone) {env : HandlerEnv} {service next : VPNService}
    {invocation : VPNOrchestrator.Invocation} (h : Governed phone.world)
    (hservice : phone.world.service = some service)
    (hturns : Turns wireGuard env service.vpnOrchestratorState invocation next)
    (hadopts : ∀ requestId ∈ replacement wireGuard service.vpnOrchestratorState invocation,
      phone.world.session = some requestId)
    (hbegins : ∀ location, invocation = .connect location →
      service.vpnOrchestratorState.isDisconnected = true → env.prepared = true →
        ∀ message ∈ phone.world.queue, message.isOrchestrator = false) :
    Governed (phone.handled wireGuard next).world := by
  have hqueue := @Phone.handled_queue wireGuard phone next
  have hstill : VPNOrchestrator.Quiet next.effects →
      ∀ session, (phone.handled wireGuard next).world.session = some session →
        phone.world.session = some session := by
    intro hquiet session hsession
    rw [Phone.handled_session_of_quiet hquiet] at hsession
    split at hsession
    · cases hsession
    · exact hsession
  have hown : VPNOrchestrator.Quiet next.effects →
      ∀ session ∈ (phone.handled wireGuard next).world.session, ∀ requestId message, LooperMessage.orchestrator requestId message ∈
        (phone.handled wireGuard next).world.queue → requestId = session :=
    fun hquiet session hsession requestId message hmem =>
      h.own session (hstill hquiet session hsession) requestId message (hqueue hmem)
  -- the session goes on while the orchestrator holds its id
  have hnamed : VPNOrchestrator.Quiet next.effects →
      (∀ requestId, next.vpnOrchestratorState.requestId = some requestId →
        phone.world.session = some requestId) →
      ∀ requestId, (phone.handled wireGuard next).world.held = some requestId →
        (phone.handled wireGuard next).world.session = some requestId := by
    intro hquiet hbefore requestId hheld
    rw [Phone.handled_held] at hheld
    rw [Phone.handled_session_of_quiet hquiet]
    split
    · rename_i hdisconnected
      rw [VPNOrchestrator.requestId_eq_none.2
        (VPNOrchestrator.isDisconnectingOrDisconnected_of_isDisconnected hdisconnected)] at hheld
      cases hheld
    · exact hbefore requestId hheld
  cases hturns with
  | keeps hstate hquiet =>
      refine ⟨hown hquiet, hnamed hquiet fun requestId hname => h.named requestId ?_⟩
      rw [hstate] at hname
      rw [World.held, hservice]
      exact hname
  | leaves hstate hquiet =>
      refine ⟨hown hquiet, hnamed hquiet fun requestId hname => ?_⟩
      rw [VPNOrchestrator.requestId_eq_none.2 hstate] at hname
      cases hname
  | adopts adopted hadopted hstate hquiet =>
      refine ⟨hown hquiet, hnamed hquiet fun requestId hname => ?_⟩
      rw [hstate] at hname
      cases hname
      exact hadopts _ hadopted
  | begins location asked hidle hprepared hstate hquiet heffects =>
      have hsession := @Phone.handled_session_of_begins wireGuard phone next _ _ _ heffects hstate
      refine ⟨fun session _ requestId message hmem => ?_, fun requestId hheld => ?_⟩
      · have hrequest := hbegins location rfl hidle hprepared _ (hqueue hmem)
        cases hrequest
      · rw [Phone.handled_held, hstate] at hheld
        cases hheld
        exact hsession

/-- A queue with no other answers, and the same session. -/
theorem Governed.of_queue (h : Governed world) (hsession : moved.session = world.session)
    (hheld : moved.held = world.held)
    (hqueue : ∀ requestId message, LooperMessage.orchestrator requestId message ∈ moved.queue →
      LooperMessage.orchestrator requestId message ∈ world.queue ∨
        ∀ session ∈ world.session, requestId = session) : Governed moved := by
  refine ⟨fun session hmoved requestId message hmem => ?_, fun requestId hmoved => ?_⟩
  · rw [hsession] at hmoved
    rcases hqueue requestId message hmem with hmem | hown
    · exact h.own session hmoved requestId message hmem
    · exact hown session hmoved
  · rw [hsession]
    rw [hheld] at hmoved
    exact h.named requestId hmoved

/-- Nothing is in progress. -/
theorem governed_of_held (hsession : moved.session = none ∨ moved.queue = [])
    (hheld : moved.held = none) : Governed moved := by
  refine ⟨fun session hmoved requestId message hmem => ?_, fun requestId hmoved => ?_⟩
  · rcases hsession with hnone | hempty
    · rw [hnone] at hmoved
      cases hmoved
    · rw [hempty] at hmem
      cases hmem
  · rw [hheld] at hmoved
    cases hmoved

theorem governed_perform {phone target : Phone} {index : Nat} {env : Env}
    (h : Governed phone.world) (hstep : phone.step wireGuard (.perform index env) = some target)
    (hapart : Apart phone (.perform index env)) : Governed target.world := by
  obtain ⟨job, op, next, hjob, hprogram, -, rfl⟩ := Phone.perform_eq_some hstep
  obtain ⟨hsession, hheld, hqueue⟩ := answer_queue op env phone.world
  rcases Phone.settle_world index _ _ _ with ⟨booted, hworld⟩ | hworld
  · have hanswered : Governed (World.answer op env phone.world).2 := by
      apply h.of_queue hsession hheld
      intro requestId message hmem
      rcases hqueue requestId message hmem with hmem | rfl
      · exact .inl hmem
      · exact .inr (hapart _ (Phone.mem_nextOp hjob hprogram) requestId (by simp [sent]))
    rw [hworld]
    exact hanswered.of_queue rfl rfl fun _ _ => .inl
  · rw [hworld]
    exact governed_of_held (.inl rfl) rfl

/-- What an answer puts in the place of the session in progress is that session. -/
theorem session_of_replacement {phone : Phone} {service : VPNService} {message : LooperMessage}
    {requestId : Uuid} (h : Governed phone.world) (hechoing : Echoing phone.world)
    (hmem : message ∈ phone.world.queue) (hservice : phone.world.service = some service)
    (hreplaces : requestId ∈ replacement wireGuard service.vpnOrchestratorState message.invocation) :
    phone.world.session = some requestId := by
  have hheld : phone.world.held = service.vpnOrchestratorState.requestId := by
    rw [World.held, hservice]
    rfl
  obtain ⟨hlive, hnames | hsame⟩ := VPNOrchestrator.names_of_replacement hreplaces
  · obtain ⟨current, hcurrent⟩ : ∃ current, service.vpnOrchestratorState.requestId = some current := by
      rw [← Option.isSome_iff_exists, Option.isSome_iff_ne_none]
      intro hnone
      rw [VPNOrchestrator.requestId_eq_none.1 hnone] at hlive
      cases hlive
    have hsession := h.named current (hheld.trans hcurrent)
    cases message with
    | request request => cases request <;> cases hnames
    | orchestrator origin answer =>
        have hown := h.own current hsession origin answer hmem
        have hechoes := hechoing origin answer hmem
        rw [hsession, ← hown]
        cases answer with
        | connectResponse location result =>
            cases result with
            | error error => cases hnames
            | ok accepted =>
                cases hnames
                exact congrArg some (Eq.symm hechoes)
        | vpnSessionUpdate location status =>
            cases hnames
            exact congrArg some (Eq.symm hechoes)
  · exact h.named requestId (hheld.trans hsame)

theorem governed_turn {phone : Phone} {label : PhoneLabel} (h : Governed phone.world)
    (hechoing : Echoing phone.world) (hturn : Phone.Turn wireGuard phone label moved)
    (hapart : Apart phone label) : Governed moved := by
  cases hturn with
  | stays | serves label server _ | signs device => exact h.of_queue rfl rfl fun _ _ => .inl
  | sends request =>
      refine h.of_queue rfl rfl fun requestId message hmem => .inl ?_
      rcases List.mem_append.1 hmem with hmem | hmem
      · exact hmem
      · cases List.mem_singleton.1 hmem
  | dies => exact governed_of_held (.inl rfl) rfl
  | creates hservice =>
      exact governed_of_held (.inr (Phone.untouched_created phone.world).queue)
        (Phone.held_created phone.world)
  | destroys service next hservice hoffers hfresh hnext => exact governed_of_held (.inl rfl) rfl
  | revokes service next hservice hoffers hfresh hnext =>
      apply governed_handled phone h hservice (VPNOrchestrator.turns_of_handle hnext)
      · exact fun requestId hreplaces => by cases hreplaces
      · exact fun location hconnect => by cases hconnect
  | handles message rest service next hqueue hservice hoffers hfresh hnext =>
      have hrest : Governed { phone.world with queue := rest } := by
        refine h.of_queue rfl rfl fun requestId message hmem => .inl ?_
        rw [hqueue]
        exact List.mem_cons_of_mem _ hmem
      have hown : ∀ requestId ∈ replacement wireGuard service.vpnOrchestratorState message.invocation,
          phone.world.session = some requestId := fun requestId hreplaces =>
        session_of_replacement h hechoing (by rw [hqueue]; exact List.mem_cons_self ..) hservice
          hreplaces
      apply governed_handled { phone with world := { phone.world with queue := rest } } hrest hservice
        (VPNOrchestrator.turns_of_handle hnext) hown
      intro location hinvocation hidle hprepared
      cases message with
      | request request =>
          cases request <;> cases hinvocation
          rw [Apart, hqueue] at hapart
          apply hapart
          simp [begins, hqueue, hservice, hidle, hprepared, isConnect]
      | orchestrator requestId answer => cases answer <;> cases hinvocation

/-! ## Runs -/

/-- A state change by an answer is caused by an answer to the session in progress. -/
def Caused (wireGuard : WireGuard) (phone : Phone) : PhoneLabel → Prop
  | .handle env => ∀ requestId message rest service next session,
      phone.world.queue = .orchestrator requestId message :: rest →
      phone.world.service = some service → phone.world.session = some session →
      VPNOrchestrator.handle env wireGuard { service with effects := [] }
        (LooperMessage.orchestrator requestId message).invocation = .ok next →
      next.vpnOrchestratorState ≠ service.vpnOrchestratorState → requestId = session
  | _ => True

/-- While a session is in progress the orchestrator holds no other request id. -/
def Named (phone : Phone) : Prop :=
  ∀ session ∈ phone.world.session, ∀ requestId ∈ phone.world.held, requestId = session

structure Sound (phone : Phone) : Prop where
  abides : Phone.Abides terms phone
  governed : Governed phone.world

/-- Answers are not sent when no coroutine performs anything. -/
theorem tolerated_of_queue (h : ∀ requestId message,
    LooperMessage.orchestrator requestId message ∈ moved.queue →
      LooperMessage.orchestrator requestId message ∈ world.queue) : terms.Tolerates world moved :=
  ⟨trivial, fun hechoing requestId message hmem =>
    hechoing requestId message (h requestId message hmem)⟩

theorem turn_tolerated {phone : Phone} {label : PhoneLabel}
    (hturn : Phone.Turn wireGuard phone label moved) : terms.Tolerates phone.world moved := by
  apply tolerated_of_queue
  intro requestId message hmem
  cases hturn with
  | stays | serves label server _ | signs device => exact hmem
  | dies => cases hmem
  | sends request =>
      rcases List.mem_append.1 hmem with hmem | hmem
      · exact hmem
      · cases List.mem_singleton.1 hmem
  | creates hservice =>
      rw [(Phone.untouched_created phone.world).queue] at hmem
      cases hmem
  | handles message rest service next hqueue hservice hoffers hfresh hnext =>
      rw [hqueue]
      exact List.mem_cons_of_mem _ (Phone.handled_queue hmem)
  | revokes service next hservice hoffers hfresh hnext
  | destroys service next hservice hoffers hfresh hnext => exact Phone.handled_queue hmem

theorem upholds : Phone.Upholds wireGuard terms Apart where
  keeps coroutine _ := program_keeps coroutine _
  admits _ _ hallows _ := hallows
  booted _ _ := tolerated_of_queue fun _ _ => id
  killed _ := tolerated_of_queue nofun
  turn _ hturn := turn_tolerated hturn

theorem Sound.step {phone target : Phone} {label : PhoneLabel} (h : Sound phone)
    (hstep : phone.step wireGuard label = some target) (hapart : Apart phone label) :
    Sound target := by
  refine ⟨upholds.step hstep hapart h.abides, ?_⟩
  rcases Phone.performs_or_turns hstep with ⟨index, env, -, -, -, rfl, -⟩ | ⟨-, hturn⟩
  · exact governed_perform h.governed hstep hapart
  · exact governed_turn h.governed h.abides.sound.invariant hturn hapart

theorem Sound.caused {phone : Phone} (h : Sound phone) (label : PhoneLabel) :
    Caused wireGuard phone label := by
  cases label with
  | handle env =>
      intro requestId message rest service next session hqueue _ hsession _ _
      apply h.governed.own session hsession requestId message
      rw [hqueue]
      exact List.mem_cons_self ..
  | startApp | startService | kill | createService | destroyService env | send request
  | perform index env | revoke env | abandon index | server label | setDevice device => trivial

theorem Sound.hasName {phone : Phone} (h : Sound phone) : Named phone := by
  intro session hsession requestId hheld
  have hnamed := h.governed.named requestId hheld
  rw [hnamed] at hsession
  exact Option.some.inj hsession

theorem caused_and_named_of_apart {phone : Phone} {trace : (Phone.system wireGuard).Trace phone}
    (h : trace.Obeys Apart) : trace.Obeys (Caused wireGuard) ∧ trace.Visits Named := by
  have hinit : ∀ phone, (Phone.system wireGuard).Init phone → Sound phone := by
    rintro _ rfl
    constructor
    · exact .of_jobs rfl fun _ _ hmem => by cases hmem
    · exact ⟨fun _ hsession => (by cases hsession), fun _ hheld => by cases hheld⟩
  constructor
  · exact TransitionSystem.Trace.obeys_of_obeys hinit
      (fun source label target hstep hapart hsource =>
        ⟨hsource.step hstep hapart, hsource.caused label⟩) h
  · exact (TransitionSystem.Trace.visits_of_obeys hinit
      (fun source label target hstep hapart hsource => hsource.step hstep hapart) h).mono
      fun phone => Sound.hasName

end Coroutines

/-! ## An answer to an earlier session -/

instance (phone : Phone) : DecidablePred (Apart phone)
  | .handle _ => inferInstanceAs (Decidable (_ → ∀ message ∈ _, _))
  | .perform _ _ => inferInstanceAs (Decidable (∀ op ∈ phone.nextOp _, ∀ requestId ∈ sent _ op,
      ∀ session ∈ phone.world.session, _))
  | .startApp | .startService | .kill | .createService | .destroyService _ | .send _
  | .revoke _ | .abandon _ | .server _ | .setDevice _ => .isTrue trivial

open Android.Sample

/-- The server accepts the session, and the coroutine is about to say so. -/
def accepting : List PhoneLabel :=
  starting ++ requesting ++ performing 0 answers 3 ++ [.server (.accept requestId)] ++
    performing 0 answers 2

/-- The user disconnects and connects again, and the answer to the first request comes in. -/
def crossing : List PhoneLabel :=
  accepting ++ [.send .disconnect, .send (.connect location)] ++ performing 0 answers 1 ++
    [.handle grantedAgain, .handle grantedAgain,
      .handle { grantedAgain with randomUuid := .replicate 8 }]

theorem not_forall_caused_and_named : ¬ ∀ (wireGuard : WireGuard) (phone : Phone)
    (trace : (Phone.system wireGuard).Trace phone),
      trace.Obeys (Caused wireGuard) ∧ trace.Visits Named := by
  intro h
  obtain ⟨phone, trace, -, hcheck⟩ := (Phone.system wireGuard).exists_trace_of_run
    (fun _ _ => True) (Phone.init_installed wireGuard) crossing
    (fun phone => decide (phone.world.session = some grantedAgain.randomUuid ∧
      phone.world.held = some requestId)) (by decide +kernel)
  obtain ⟨hsession, hheld⟩ := of_decide_eq_true hcheck
  have hsame := (h wireGuard phone trace).2.last _ hsession _ hheld
  revert hsame
  decide

/-- The same, where the answer comes in before the user disconnects. -/
def consecutive : List PhoneLabel :=
  accepting ++ performing 0 answers 1 ++ [.handle grantedAgain] ++ disconnecting ++
    [.send (.connect location), .handle grantedAgain]

theorem exists_apart : ∃ phone, ∃ trace : (Phone.system wireGuard).Trace phone,
    trace.Obeys Apart ∧ phone.world.held = some grantedAgain.randomUuid ∧
      trace.Obeys (Caused wireGuard) ∧ trace.Visits Named := by
  obtain ⟨phone, trace, hobeys, hcheck⟩ := (Phone.system wireGuard).exists_trace_of_run
    Apart (Phone.init_installed wireGuard) consecutive
    (fun phone => decide (phone.world.held = some grantedAgain.randomUuid)) (by decide +kernel)
  exact ⟨phone, trace, hobeys, of_decide_eq_true hcheck, caused_and_named_of_apart hobeys⟩

end EarlierSessions

end Modvpn.Android
