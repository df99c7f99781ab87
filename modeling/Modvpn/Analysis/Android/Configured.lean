/-
# What the orchestrator's configuration is made of

A session that was accepted carries the interface of a device, and one that is ready a
configuration of such an interface and the server's answer. The coroutine of the session
builds the interface of the device that it finds in the table before it says anything, and a
handler takes over what it is told. So whatever is true of every device that is ever
stored is true of the device that the tunnel is set up for.
-/

import Modvpn.Analysis.Android.EarlierSessions
import Modvpn.Analysis.Android.Passages

namespace Modvpn.Android

open Modvpn.Protocol
open VPNOrchestrator

variable (wireGuard : WireGuard) (D : Db.Device → Prop)

/-- An interface that could be built for such a device. -/
def Interface.Built (interFace : Interface) : Prop :=
  ∃ device, D device ∧ toInterface wireGuard device = .ok interFace

/-- A configuration that could be built for such a device and the server's answer. -/
def Config.Built (config : Config) (content : ServerReady) : Prop :=
  ∃ interFace : Interface, interFace.Built wireGuard D ∧
    toConfig wireGuard interFace content = .ok config

/-- What the state carries could be built, and from the answer in the state. -/
def VPNOrchestratorState.Configured : VPNOrchestratorState → Prop
  | .disconnected | .requesting _ _ | .disconnecting _ => True
  | .accepted _ _ interFace | .serverCreated _ _ interFace | .serverRunning _ _ interFace =>
      interFace.Built wireGuard D
  | .serverReady _ content config | .connecting _ content config
  | .connected _ _ content config => config.Built wireGuard D content

/-- The interface that is told of could be built. -/
def VPNOrchestrator.Invocation.Configured : Invocation → Prop
  | .connectResponse _ (.ok (_, interFace)) => interFace.Built wireGuard D
  | .connectResponse _ (.error _) | .connect _ | .disconnect | .vpnSessionUpdate _ _
  | .registerListener _ | .deregisterListener _ | .revoke | .destroy => True

variable {wireGuard D} {env : HandlerEnv} {service next : VPNService} {location : Location}

/-! ## Handlers -/

theorem configured_of_gone {state : VPNOrchestratorState}
    (h : state.isDisconnectingOrDisconnected = true) : state.Configured wireGuard D := by
  cases state with
  | disconnected | disconnecting _ => trivial
  | requesting _ _ | accepted _ _ _ | serverCreated _ _ _ | serverRunning _ _ _
  | serverReady _ _ _ | connecting _ _ _ | connected _ _ _ _ => cases h

/-- An update hands the interface on, or makes a configuration of it. -/
theorem configured_of_newStateFromUpdate {state target : VPNOrchestratorState}
    {status : VpnSessionStatus} (h : state.Configured wireGuard D)
    (hnew : state.newStateFromUpdate wireGuard location status = .ok (some target)) :
    target.Configured wireGuard D := by
  have hready : ∀ {interFace : Interface} {content : ServerReady}, interFace.Built wireGuard D →
      (toConfig wireGuard interFace content).map (fun config =>
        some (VPNOrchestratorState.serverReady location content config)) = .ok (some target) →
      target.Configured wireGuard D := by
    intro interFace content hbuilt hmap
    cases hconfig : toConfig wireGuard interFace content with
    | error thrown =>
        rw [hconfig] at hmap
        cases hmap
    | ok config =>
        rw [hconfig] at hmap
        cases hmap
        exact ⟨interFace, hbuilt, hconfig⟩
  cases status with
  | accepted content =>
      cases state <;> cases hnew
      exact h
  | failed content =>
      cases hnew
      trivial
  | serverCreated content | serverRunning content => cases state <;> cases hnew <;> exact h
  | serverReady content =>
      cases state with
      | accepted _ _ interFace | serverCreated _ _ interFace | serverRunning _ _ interFace =>
          exact hready h hnew
      | serverReady _ _ _ =>
          cases hnew
          exact h
      | disconnected | requesting _ _ | connecting _ _ _ | connected _ _ _ _ | disconnecting _ =>
          cases hnew
  | clientConnected content | ended content => cases hnew

theorem configured_of_turnOnVPN {content : ServerReady} {config : Config}
    (h : config.Built wireGuard D content) (hquiet : Quiet service.effects) :
    (turnOnVPN env location content config service).vpnOrchestratorState.Configured
      wireGuard D := by
  cases hprepared : env.preparedAgain with
  | false =>
      rw [turnOnVPN_of_revoked env content config hprepared]
      exact configured_of_gone (onDisconnect_leaves env _ (quiet_dispatchEvent _ hquiet)).1
  | true =>
      rw [turnOnVPN_of_prepared env content config hprepared]
      have hconnecting := quiet_updateStateAndNotifyClients env
        (.connecting location content config) hquiet
      have hconnecting := quiet_serviceTurnOnVPN env config hconnecting
      generalize (updateStateAndNotifyClients env (.connecting location content config)
        service).turnOnVPN env config = turned at hconnecting ⊢
      obtain ⟨result, turnedOn⟩ := turned
      cases result with
      | error message =>
          exact configured_of_gone
            (onDisconnect_leaves env message (quiet_dispatchEvent _ hconnecting)).1
      | ok _ => exact h

theorem configured_of_update (service : VPNService) {status : VpnSessionStatus}
    (h : service.vpnOrchestratorState.Configured wireGuard D) (hquiet : Quiet service.effects)
    (hok : onVpnSessionUpdate env wireGuard location status service = .ok next) :
    next.vpnOrchestratorState.Configured wireGuard D := by
  have htold : Quiet (toldOfFailure env status service).effects := quiet_toldOfFailure status hquiet
  cases updates_of_eq_ok hok with
  | drops hgone => exact h
  | revoked hlive hprepared =>
      exact configured_of_gone (onDisconnect_leaves env _ (quiet_dispatchEvent _ htold)).1
  | ignores hlive hprepared hnew =>
      rw [toldOfFailure_state]
      exact h
  | moves state hlive hprepared hnew hready => exact configured_of_newStateFromUpdate h hnew
  | readies place content config hlive hprepared hnew =>
      have hconfig : config.Built wireGuard D content := configured_of_newStateFromUpdate h hnew
      exact configured_of_turnOnVPN hconfig (quiet_updateStateAndNotifyClients env _ htold)

/-- A handler takes over what it is told. -/
theorem configured_of_handle {invocation : Invocation}
    (h : service.vpnOrchestratorState.Configured wireGuard D)
    (hinvocation : invocation.Configured wireGuard D)
    (hok : handle env wireGuard { service with effects := [] } invocation = .ok next) :
    next.vpnOrchestratorState.Configured wireGuard D := by
  cases turns_of_handle hok with
  | keeps hstate _ =>
      rw [hstate]
      exact h
  | leaves hstate _ => exact configured_of_gone hstate
  | begins location asked _ _ hstate _ _ =>
      rw [hstate]
      trivial
  | adopts requestId hreplaces _ _ =>
      cases invocation with
      | connectResponse location result =>
          obtain ⟨hlive, -⟩ := names_of_replacement hreplaces
          cases result with
          | error message => cases hreplaces
          | ok answer =>
              cases hok
              simp only [onConnectResponse, hlive, Bool.false_eq_true, ↓reduceIte]
              exact hinvocation
      | vpnSessionUpdate location status =>
          exact configured_of_update { service with effects := [] } h quiet_nil hok
      | connect location | disconnect | registerListener listener | deregisterListener id
      | revoke | destroy => cases hreplaces

namespace Configured

/-! ## The terms -/

variable (wireGuard D)

/-- The orchestrator is told of no other interface. -/
def Owed : Op → Prop
  | .sendOrchestratorMessage _ requestId message =>
      (LooperMessage.orchestrator requestId message).invocation.Configured wireGuard D
  | _ => True

/-- The device that is created, should one be needed. -/
def Created (env : Env) : Op → Prop
  | .insertDevice => D env.createdDevice
  | _ => True

/-- The devices, the orchestrator and the messages to it. -/
structure Sound (world : World) : Prop where
  device : ∀ device ∈ world.device, D device
  service : ∀ service ∈ world.service, service.vpnOrchestratorState.Configured wireGuard D
  queue : ∀ message ∈ world.queue, message.invocation.Configured wireGuard D

@[reducible]
def contract : Contract ops Env World where
  rely _ _ := True
  admits op env world := Created D env op ∧ Sound wireGuard D world
  duty op _ _ := Owed wireGuard D op
  rely_refl _ := trivial
  rely_trans _ _ := trivial

variable {wireGuard D} {world moved : World}

/-- A request of a client carries no interface. -/
theorem configured_of_request (request : Request) :
    (LooperMessage.request request).invocation.Configured wireGuard D := by
  cases request <;> trivial

theorem answer_device (op : Op) (env : Env) (world : World) :
    (World.answer op env world).2.service = world.service ∧
      ∀ device ∈ (World.answer op env world).2.device,
        device ∈ world.device ∨ op = .insertDevice ∧ device = env.createdDevice := by
  have hmoves := Phone.moves_answer op env world
  generalize (World.answer op env world).2 = moved at hmoves ⊢
  cases hmoves with
  | insertsDevice =>
      refine ⟨rfl, fun device hdevice => ?_⟩
      rcases List.mem_append.1 hdevice with hdevice | hdevice
      · exact .inl (List.mem_of_mem_filter hdevice)
      · exact .inr ⟨rfl, List.mem_singleton.1 hdevice⟩
  | reclaims service =>
      have huntouched := Phone.untouched_runReclaimer world service
      rw [huntouched.device]
      exact ⟨huntouched.service, fun _ => .inl⟩
  | stays | writes _ | requests request | requestsEnd request | fails request _
  | delivers requestId message | stops reclaimer => exact ⟨rfl, fun _ => .inl⟩

theorem perform_sound {op : Op} {env : Env} (h : Sound wireGuard D world)
    (hadmits : (contract wireGuard D).admits op env world)
    (hduty : (contract wireGuard D).duty op env world) :
    Sound wireGuard D (World.answer op env world).2 := by
  obtain ⟨hservice, hdevice⟩ := answer_device op env world
  obtain ⟨-, -, hqueue⟩ := EarlierSessions.answer_queue op env world
  constructor
  · intro device hmem
    rcases hdevice device hmem with hmem | ⟨rfl, rfl⟩
    · exact h.device device hmem
    · exact hadmits.1
  · rw [hservice]
    exact h.service
  · intro message hmem
    cases message with
    | request request => exact configured_of_request request
    | orchestrator requestId sent =>
        rcases hqueue requestId sent hmem with hmem | rfl
        · exact h.queue _ hmem
        · exact hduty

variable (wireGuard D) in
def terms : Terms semantics where
  contract := contract wireGuard D
  invariant := Sound wireGuard D
  perform h hadmits hduty := ⟨perform_sound h hadmits hduty, trivial⟩

/-! ## The coroutines -/

variable (D) in
/-- The device that is found is one of these. -/
def Found : ∀ op : Op, op.Resp → Prop
  | .getDevice, some device => D device
  | _, _ => True

theorem found_of_sound {op : Op} {env : Env} (h : Sound wireGuard D world) :
    Found D op (World.answer op env world).1 := by
  cases op with
  | getDevice =>
      simp only [World.answer]
      cases hhead : world.device.head? with
      | none => trivial
      | some device => exact h.device device (List.mem_of_mem_head? hhead)
  | insertDevice | insert vpnSession | update vpnSession | delete vpnSession
  | withRequestId requestId | deleteWithRequestId requestId | markAllForDeletion | toReclaim
  | sendNewVpnSession request | awaitNewVpnSession request | sendEndVpnSession request
  | awaitEndVpnSession request | getVpnSessionStatus request | delay
  | sendOrchestratorMessage service requestId message | launchWatch service location request
  | endVpnSession service requestId reason | runReclaimer service | stopRunning reclaimer
  | again => trivial

/-- The interface of a device that was found could be built. -/
theorem owed_of_tells {op : Op} (h : Tells wireGuard (Found D) op) : Owed wireGuard D op := by
  cases op with
  | sendOrchestratorMessage service requestId message =>
      cases message with
      | connectResponse location result =>
          cases result with
          | error error => trivial
          | ok accepted => exact h.1
      | vpnSessionUpdate location status => trivial
  | getDevice | insertDevice | insert vpnSession | update vpnSession | delete vpnSession
  | withRequestId requestId | deleteWithRequestId requestId | markAllForDeletion | toReclaim
  | sendNewVpnSession request | awaitNewVpnSession request | sendEndVpnSession request
  | awaitEndVpnSession request | getVpnSessionStatus request | delay
  | launchWatch service location request | endVpnSession service requestId reason
  | runReclaimer service | stopRunning reclaimer | again => trivial

theorem program_keeps (coroutine : Coroutine) (world : World) :
    (terms wireGuard D).Keeps (coroutine.program wireGuard) world := by
  have htells : (coroutine.program wireGuard).OnlyGiven (Found D) (Tells wireGuard (Found D)) :=
    program_tells coroutine
  apply Terms.keeps_of_onlyGiven htells _ _ world
  · exact fun _ _ htells => owed_of_tells htells
  · exact fun hadmits => found_of_sound hadmits.2

/-! ## Steps that are not operations -/

variable (D) in
/-- Only such devices are stored. -/
def Stores (phone : Phone) : PhoneLabel → Prop
  | .setDevice devices => ∀ device ∈ devices, D device
  | .perform index env => ∀ op ∈ phone.nextOp index, Created D env op
  | _ => True

variable {phone target : Phone} {label : PhoneLabel}

/-- What a handler makes of what it is told. -/
theorem Sound.handled (invocation : Invocation) {phone : Phone} (h : Sound wireGuard D world)
    (hservice : world.service = some service) (hdevice : phone.world.device = world.device)
    (hqueue : phone.world.queue ⊆ world.queue) (hinvocation : invocation.Configured wireGuard D)
    (hnext : handle env wireGuard { service with effects := [] } invocation = .ok next) :
    Sound wireGuard D (phone.handled wireGuard next).world := by
  constructor
  · rw [(Phone.handled_undisturbed wireGuard next phone).device, hdevice]
    exact h.device
  · intro held hheld
    rw [Phone.handled_service] at hheld
    cases hheld
    exact configured_of_handle (h.service service hservice) hinvocation hnext
  · exact fun message hmessage => h.queue message (hqueue (Phone.handled_queue hmessage))

theorem Sound.turn (h : Sound wireGuard D phone.world)
    (hturn : Phone.Turn wireGuard phone label moved) (hstores : Stores D phone label) :
    Sound wireGuard D moved := by
  cases hturn with
  | stays => exact h
  | serves label server _ => exact ⟨h.device, h.service, h.queue⟩
  | signs device => exact ⟨hstores, h.service, h.queue⟩
  | dies => exact ⟨h.device, fun _ hnone => (by cases hnone), List.forall_mem_nil _⟩
  | creates _ =>
      have hcreated := Phone.untouched_created phone.world
      constructor
      · rw [hcreated.device]
        exact h.device
      · intro service hmem
        rw [hcreated.service] at hmem
        cases hmem
        trivial
      · rw [hcreated.queue]
        exact List.forall_mem_nil _
  | sends request =>
      refine ⟨h.device, h.service, fun message hmessage => ?_⟩
      rcases List.mem_append.1 hmessage with hmessage | hmessage
      · exact h.queue message hmessage
      · rw [List.mem_singleton.1 hmessage]
        exact configured_of_request request
  | handles message rest service next hqueue hservice _ _ hnext =>
      apply h.handled _ hservice _ _ _ hnext
      · rfl
      · show rest ⊆ phone.world.queue
        rw [hqueue]
        exact List.subset_cons_self _ _
      · exact h.queue message (by rw [hqueue]; exact List.mem_cons_self ..)
  | revokes service next hservice _ _ hnext =>
      exact h.handled .revoke hservice rfl (List.Subset.refl _) trivial hnext
  | destroys service next hservice _ _ hnext =>
      have hhandled := h.handled .destroy hservice rfl (List.Subset.refl _) trivial hnext
      exact ⟨hhandled.device, fun _ hnone => (by cases hnone), hhandled.queue⟩

/-! ## Runs -/

theorem upholds : Phone.Upholds wireGuard (terms wireGuard D) (Stores D) where
  keeps coroutine _ := program_keeps coroutine _
  admits hstores hop _ hsound := ⟨hstores _ hop, hsound⟩
  booted _ _ := ⟨trivial, fun h => ⟨h.device, h.service, h.queue⟩⟩
  killed _ := ⟨trivial, fun h =>
    ⟨h.device, fun _ hnone => (by cases hnone), List.forall_mem_nil _⟩⟩
  turn hstores hturn := ⟨trivial, fun h => h.turn hturn hstores⟩

/-- As long as only such devices are stored, everything is built for such a device. -/
theorem sound_of_stores {trace : (Phone.system wireGuard).Trace phone}
    (h : trace.Obeys (Stores D)) : Sound wireGuard D phone.world := by
  have hinit : Sound wireGuard D Phone.installed.world :=
    ⟨List.forall_mem_nil _, fun _ hnone => (by cases hnone), List.forall_mem_nil _⟩
  exact (upholds.visits hinit h).last.sound.invariant

end Configured

end Modvpn.Android
