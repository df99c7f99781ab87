/-
# Replies that take a task down

A conversion panics exactly on a malformed reply: an id that cannot be read, an endpoint
or address of `ServerReady` that cannot be read, a status that says nothing, a response
to `AddDevice` without addresses. The session service and a watcher are taken down by
the first malformed reply they convert, and by nothing else; the device service likewise,
because after `init` there is a device to be found.
-/

import Modvpn.Daemon.ReplyLoops

namespace Modvpn

open Modvpn.Protocol
open Program (Survives)

/-! ## Conversions -/

namespace Proto

variable {α β : Type}

/-- What is unwrapped is there, and then the rest is converted. -/
theorem isOk_unwrapOption {read : Option α} {rest : α → Conversion β} {P : Prop}
    (hrest : ∀ value, (rest value).isOk = true ↔ P) :
    (Conversion.unwrapOption read >>= rest).isOk = true ↔ read.isSome = true ∧ P := by
  cases read with
  | none => exact ⟨nofun, nofun⟩
  | some value => exact (hrest value).trans (and_iff_right rfl).symm

theorem isOk_unwrapResult {read : Option α} {rest : α → Conversion β} {P : Prop}
    (hrest : ∀ value, (rest value).isOk = true ↔ P) :
    (Conversion.unwrapResult read >>= rest).isOk = true ↔ read.isSome = true ∧ P := by
  cases read with
  | none => exact ⟨nofun, nofun⟩
  | some value => exact (hrest value).trans (and_iff_right rfl).symm

theorem isOk_pure (value : α) : (pure value : Conversion α).isOk = true ↔ True :=
  ⟨fun _ => trivial, fun _ => rfl⟩

/-- Both ids can be read, and then the rest is converted. -/
theorem isOk_ids {requestId vpnSessionUuid : String} {rest : Uuid × Uuid → Conversion β}
    {P : Prop} (hrest : ∀ pair, (rest pair).isOk = true ↔ P) :
    (ids requestId vpnSessionUuid >>= rest).isOk = true ↔ HasIds requestId vpnSessionUuid ∧ P := by
  rw [ids, bind_assoc, HasIds, and_assoc]
  refine isOk_unwrapResult fun request => ?_
  rw [bind_assoc]
  exact isOk_unwrapResult fun session => hrest (request, session)

/-- A message of two ids, whatever is made of them. -/
theorem isOk_ids_pure {requestId vpnSessionUuid : String} (make : Uuid × Uuid → β) :
    (ids requestId vpnSessionUuid >>= fun pair => pure (make pair)).isOk = true ↔
      HasIds requestId vpnSessionUuid :=
  (isOk_ids fun _ => isOk_pure _).trans (and_iff_left trivial)

theorem Accepted.isOk_into (value : Accepted) : value.into.isOk = true ↔ value.WellFormed :=
  isOk_ids_pure _

theorem Ended.isOk_into (value : Ended) : value.into.isOk = true ↔ value.WellFormed :=
  isOk_ids_pure _

theorem ServerReady.isOk_into (value : ServerReady) :
    value.into.isOk = true ↔ (State.serverReady value).WellFormed := by
  refine isOk_ids fun pair => isOk_unwrapResult fun ipv4Endpoint => ?_
  exact (isOk_unwrapResult fun privateIpv4 => isOk_pure _).trans (and_iff_left trivial)

theorem ClientConnected.isOk_into (value : ClientConnected) :
    value.into.isOk = true ↔ (State.clientConnected value).WellFormed := by
  have hread : value.into.isOk = true ↔ (Uuid.parseStr value.requestId).isSome = true ∧
      (Uuid.parseStr value.deviceUniqueId).isSome = true ∧
        (Uuid.parseStr value.vpnSessionUuid).isSome = true ∧ True :=
    isOk_unwrapResult fun _ => isOk_unwrapResult fun _ => isOk_unwrapResult fun _ => isOk_pure _
  rw [hread, and_true, State.WellFormed, HasIds]
  exact ⟨fun ⟨hrequest, hdevice, hsession⟩ => ⟨⟨hrequest, hsession⟩, hdevice⟩,
    fun ⟨⟨hrequest, hsession⟩, hdevice⟩ => ⟨hrequest, hdevice, hsession⟩⟩

theorem isOk_bind_pure (conversion : Conversion α) (make : α → β) :
    (conversion >>= fun value => pure (make value)).isOk = true ↔ conversion.isOk = true := by
  cases conversion <;> exact Iff.rfl

theorem VpnSessionStatus.isOk_into (value : VpnSessionStatus) :
    value.into.isOk = true ↔ value.WellFormed := by
  obtain ⟨state⟩ := value
  cases state with
  | none => exact ⟨nofun, fun ⟨_, hstate, _⟩ => nomatch hstate⟩
  | some state =>
      have hvalue : WellFormed ⟨some state⟩ ↔ state.WellFormed :=
        ⟨fun ⟨_, hstate, hformed⟩ => Option.some.inj hstate ▸ hformed,
          fun hformed => ⟨state, rfl, hformed⟩⟩
      rw [hvalue]
      cases state with
      | accepted value => exact (isOk_bind_pure value.into _).trans (isOk_ids_pure _)
      | failed value => exact (isOk_bind_pure value.into _).trans (isOk_ids_pure _)
      | serverCreated value => exact (isOk_bind_pure value.into _).trans (isOk_ids_pure _)
      | serverRunning value => exact (isOk_bind_pure value.into _).trans (isOk_ids_pure _)
      | serverReady value => exact (isOk_bind_pure value.into _).trans value.isOk_into
      | clientConnected value => exact (isOk_bind_pure value.into _).trans value.isOk_into
      | ended value => exact (isOk_bind_pure value.into _).trans (isOk_ids_pure _)

theorem AddDeviceResponse.isOk_into (value : AddDeviceResponse) :
    value.into.isOk = true ↔ value.WellFormed :=
  (isOk_unwrapOption fun _ => isOk_pure _).trans (and_iff_left trivial)

/-- What came of the call, if it is a reply, is well formed. -/
def Readable {ε : Type} (WellFormed : α → Prop) (reply : Except ε α) : Prop :=
  ∀ response, reply = .ok response → WellFormed response

theorem isOk_received {ε : Type} {into : α → Conversion β} {WellFormed : α → Prop}
    (hinto : ∀ response, (into response).isOk = true ↔ WellFormed response)
    (reply : Except ε α) :
    (received into reply).isOk = true ↔ Readable WellFormed reply := by
  cases reply with
  | error error => exact ⟨fun _ => nofun, fun _ => rfl⟩
  | ok response =>
      have hmap : (received (ε := ε) into (.ok response)).isOk = (into response).isOk := by
        rw [received]
        cases into response <;> rfl
      rw [hmap, hinto]
      exact ⟨fun h _ heq => Except.ok.inj heq ▸ h, fun h => h response rfl⟩

end Proto

/-! ## The session service -/

namespace VpnSessionService

/-- The task of the service is alive, or it has returned. -/
def Alive (service : VpnSessionService) : Prop := ∀ message, service.phase ≠ .panicked message

/-- A reply to a new session is well formed. -/
def Readable (_ : VpnSessionService) : SessionServiceLabel → Prop
  | .recv (.newSession _) reply => Proto.Readable Proto.Accepted.WellFormed reply
  | _ => True

variable {service source target : VpnSessionService}

theorem alive_drop : (service.drop .returned).Alive := nofun

/-- Only the conversion of a reply panics. -/
theorem alive_handleCommand (h : service.Alive) (command : VpnSessionCommand)
    (reply : Except VpnSessionError Proto.Accepted) :
    (service.handleCommand command reply).Alive ↔ service.Readable (.recv command reply) := by
  cases command with
  | newSession newSession =>
      have hreceived := Proto.isOk_received Proto.Accepted.isOk_into reply
      simp only [handleCommand, onNewSession, onNewSessionInner, Readable]
      rw [← hreceived]
      cases Proto.received Proto.Accepted.into reply with
      | error message =>
          refine ⟨fun halive => absurd rfl (halive message), nofun⟩
      | ok accepted => cases accepted <;> exact ⟨fun _ => rfl, fun _ => h⟩
  | endSession _ | clientConnected _ | listLocations | shutdown => exact ⟨fun _ => trivial, fun _ => h⟩

theorem alive_step (h : source.Alive) {label : SessionServiceLabel}
    (hstep : step source label = some target) : target.Alive ↔ source.Readable label := by
  cases label with
  | recv command reply =>
      simp only [step] at hstep
      split at hstep
      · cases hstep
        rw [← alive_handleCommand h]
        simp only [onCommand]
        split
        · rename_i hleaves
          refine ⟨fun _ message heq => ?_, fun _ => alive_drop⟩
          rw [hleaves.1] at heq
          cases heq
        · exact Iff.rfl
      · cases hstep
  | closed =>
      simp only [step] at hstep
      split at hstep
      · cases hstep
        exact ⟨fun _ => trivial, fun _ => alive_drop⟩
      · cases hstep
  | watcherEnds index how =>
      simp only [step] at hstep
      split at hstep
      · cases hstep
      · split at hstep
        · cases hstep
          exact ⟨fun _ => trivial, fun _ => h⟩
        · cases hstep

/-- The service is taken down by the first malformed reply to a new session. -/
theorem visits_alive_iff (trace : system.Trace service) :
    trace.Visits Alive ↔ trace.Obeys Readable :=
  TransitionSystem.Trace.visits_iff_obeys (I := fun _ => True)
    (fun _ hinit => ⟨trivial, by rw [show _ = new from hinit]; exact nofun⟩)
    (fun _ _ _ _ _ => trivial) (fun _ _ _ hstep _ halive => alive_step halive hstep) trace

end VpnSessionService

/-! ## A watcher -/

namespace WatcherLoop

def Alive (loop : WatcherLoop) : Prop := ∀ message, loop.phase ≠ .panicked message

/-- A reply to a poll is well formed. -/
def Readable (_ : WatcherLoop) : WatcherLabel → Prop
  | .tick reply _ => Proto.Readable Proto.VpnSessionStatus.WellFormed reply
  | .shutdown => True

variable {loop source target : WatcherLoop}

theorem alive_step {label : WatcherLabel} (hstep : step source label = some target) :
    target.Alive ↔ source.Readable label := by
  cases label with
  | tick reply daemonOpen =>
      have hreceived := Proto.isOk_received Proto.VpnSessionStatus.isOk_into reply
      simp only [step] at hstep
      split at hstep
      · simp only [Readable]
        rw [← hreceived]
        split at hstep
        · rename_i message heq
          cases hstep
          rw [heq]
          exact ⟨fun halive => absurd rfl (halive message), by intros; contradiction⟩
        · rename_i converted heq
          cases hstep
          rw [heq]
          refine ⟨fun _ => rfl, fun _ message => ?_⟩
          simp only
          split <;> simp
      · cases hstep
  | shutdown =>
      simp only [step] at hstep
      split at hstep
      · cases hstep
        exact ⟨fun _ => trivial, fun _ _ hmessage => by cases hmessage⟩
      · cases hstep

/-- A watcher is taken down by the first malformed reply to a poll. -/
theorem visits_alive_iff (trace : system.Trace loop) :
    trace.Visits Alive ↔ trace.Obeys Readable := by
  refine TransitionSystem.Trace.visits_iff_obeys (I := fun _ => True) ?_
    (fun _ _ _ _ _ => trivial) (fun _ _ _ hstep _ _ => alive_step hstep) trace
  rintro _ ⟨request, rfl⟩
  exact ⟨trivial, nofun⟩

end WatcherLoop

/-! ## The device service -/

namespace DeviceLoop

variable {codecs : Codecs} {loop source target : ServiceLoop} {world : World}

/-- `init` finds a device or creates one. -/
theorem init_survives : Survives semantics
    (fun result moved => ∀ details, result = .ok details → moved.device ≠ [])
    (DeviceStorage.init codecs).run world := by
  refine .exceptBind (.adapt fun finding => ?_)
  cases hfind : finding.dbErr with
  | some error =>
      simp only [World.answer, World.statement, hfind]
      exact ⟨nofun, fun _ _ => nofun⟩
  | none =>
      simp only [World.answer, World.statement, hfind]
      refine ⟨fun device hdevice => ?_, nofun⟩
      obtain rfl : world.device.head? = device := Except.ok.inj hdevice
      cases hdevices : world.device with
      | cons found others =>
          have hkept : world.device ≠ [] := by rw [hdevices]; exact List.cons_ne_nil _ _
          exact fun _ _ => hkept
      | nil =>
          refine .exceptBind fun creating => ⟨fun deviceDetails _ => ?_, fun _ _ => nofun⟩
          refine .exceptBind (.adapt fun inserting => ?_)
          cases hinsert : inserting.dbErr with
          | some error =>
              simp only [World.answer, World.checked, hinsert]
              exact ⟨nofun, fun _ _ => nofun⟩
          | none =>
              simp only [World.answer, World.checked, hinsert, hdevices, List.any_nil,
                Bool.false_eq_true, if_false]
              exact ⟨fun _ _ _ _ => List.append_ne_nil_of_right_ne_nil _ (List.cons_ne_nil _ _),
                nofun⟩

theorem getDevice_survives (h : world.device ≠ []) : Survives semantics
    (fun result _ => ∀ device, result = .ok device → device.isSome = true)
    (DeviceStorage.getDevice codecs).run world := by
  refine .exceptBind fun finding => ?_
  cases hfind : finding.dbErr with
  | some error =>
      simp only [World.answer, World.statement, hfind]
      exact ⟨nofun, fun _ _ => nofun⟩
  | none =>
      simp only [World.answer, World.statement, hfind]
      refine ⟨fun device hdevice => ?_, nofun⟩
      obtain rfl : world.device.head? = device := Except.ok.inj hdevice
      obtain ⟨found, others, hdevices⟩ := List.exists_cons_of_ne_nil h
      rw [hdevices]
      refine .exceptBind ?_
      refine ⟨fun _ _ device heq => ?_, fun _ _ => nofun⟩
      rw [← Except.ok.inj heq]
      rfl

/-- Nothing is unwrapped once the server has answered. -/
theorem saveToken_averts (token : String) :
    (TokenStorage.saveToken token).run.Averts fun _ => True :=
  Program.Averts.exceptBind (fun _ => trivial) fun _ _ => trivial

theorem updateIpv4Address_averts (uniqueId : Uuid) (ipv4Address : Ipv4Addr) :
    (DeviceStorage.updateIpv4Address codecs uniqueId ipv4Address).run.Averts fun _ => True := by
  refine Program.Averts.exceptBind (fun _ => trivial) fun device => ?_
  cases device with
  | none => trivial
  | some device => exact Program.Averts.exceptBind (fun _ => trivial) fun _ => trivial

theorem handleSignInInner_survives (userCreds : UserCredentials) :
    Survives semantics (fun _ _ => True) (DeviceService.handleSignInInner codecs userCreds).run
      world := by
  refine .exceptBind (.adapt fun connecting => ⟨fun _ _ => ?_, fun _ _ => trivial⟩)
  refine .exceptBind (.adapt (init_survives.mono fun result moved hdevice =>
    ⟨fun details hdetails => ?_, fun _ _ => trivial⟩))
  have hkept : moved.device ≠ [] := by
    cases result with
    | error error => cases hdetails
    | ok found => exact hdevice found rfl
  refine .exceptBind (.adapt ((getDevice_survives hkept).mono fun result moved hfound =>
    ⟨fun device hdevice => ?_, fun _ _ => trivial⟩))
  have hsome : device.isSome = true := by
    cases result with
    | error error => cases hdevice
    | ok found => exact Except.ok.inj hdevice ▸ hfound found rfl
  obtain ⟨deviceDetails, rfl⟩ := Option.isSome_iff_exists.mp hsome
  refine .exceptBind ?_
  refine ⟨fun _ _ => ?_, fun _ _ => trivial⟩
  refine .exceptBind (.adapt fun adding => ⟨fun _ _ => ?_, fun _ _ => trivial⟩)
  refine .exceptBind (.adapt ((saveToken_averts _).survives.mono fun _ _ _ =>
    ⟨fun _ _ => ?_, fun _ _ => trivial⟩))
  refine .exceptBind (.adapt ((updateIpv4Address_averts _ _).survives.mono fun _ _ _ =>
    ⟨fun _ _ => ?_, fun _ _ => trivial⟩))
  exact fun _ => trivial

theorem init_averts : (DeviceStorage.init codecs).run.Averts fun _ => True := by
  refine Program.Averts.exceptBind (fun _ => trivial) fun device => ?_
  cases device with
  | some device => trivial
  | none =>
      refine Program.Averts.exceptBind (fun _ => trivial) fun deviceDetails => ?_
      exact Program.Averts.exceptBind (fun _ => trivial) fun _ => trivial

theorem handleSignOutInner_averts :
    (DeviceService.handleSignOutInner codecs).run.Averts fun _ => True := by
  have hanew (reason : String) :
      (DeviceStorage.reinitialize codecs reason).run.Averts fun _ => True :=
    Program.Averts.exceptBind (fun _ => trivial) fun _ =>
      Program.Averts.exceptBind (Program.Averts.bind init_averts fun _ => trivial) fun _ => trivial
  have hrest : (do
      ExceptT.adapt .dbErr (DeviceStorage.reinitialize codecs "sign out")
      ExceptT.adapt .dbErr TokenStorage.removeAll
      ExceptT.lift (perform (.writeServiceToken none)) : Fallible DeviceError Unit).run.Averts
        fun _ => True := by
    refine Program.Averts.exceptBind ?_ fun _ => ?_
    · rw [ExceptT.run_adapt]
      exact Program.Averts.bind (hanew _) fun _ => trivial
    · exact Program.Averts.exceptBind (fun _ => trivial) fun _ _ => trivial
  refine Program.Averts.exceptBind (fun _ => trivial) fun _ => ?_
  refine Program.Averts.exceptBind (fun _ => trivial) fun status => ?_
  cases status with
  | ok value => exact hrest
  | error status =>
      by_cases hcode : status.code = .unauthenticated
      · simp only [hcode, ne_eq, not_true_eq_false, if_false]
        exact hrest
      · simp only [hcode, ne_eq, not_false_eq_true, if_true]
        trivial

theorem handleMessage_survives (command : DeviceCommand) :
    (DeviceService.handleMessage codecs command).Survives semantics (fun _ _ => True) world := by
  cases command with
  | signIn userCreds =>
      exact .bind ((handleSignInInner_survives userCreds).mono fun _ _ _ _ => trivial)
  | signOut => exact .bind (handleSignOutInner_averts.survives.mono fun _ _ _ _ => trivial)

/-- A reply to `AddDevice` is well formed. -/
def Readable (loop : ServiceLoop) : DeviceLabel → Prop
  | .handleMessage _ => True
  | .perform _ reply => ∀ userCreds, loop.nextOp = some (.addDevice userCreds) →
      Proto.Readable Proto.AddDeviceResponse.WellFormed reply

/-- The handler goes on to its end, unless a reply has made it panic. -/
def Sound (loop : ServiceLoop) : Prop :=
  ∀ program, loop.handler = some program →
    (∃ message, program = .panic message) ∨
      program.Survives semantics (fun _ _ => True) loop.world

/-- What is left of a handler that survives. -/
theorem sound_perform {env : Env} (h : Sound source)
    (hstep : ServiceLoop.step codecs source (.perform env) = some target) :
    Sound target ∧ Alive target := by
  simp only [ServiceLoop.step] at hstep
  split at hstep
  · rename_i op next hhandler
    cases hstep
    have hnext : (next (World.answer op env source.world).1).Survives semantics (fun _ _ => True)
        (World.answer op env source.world).2 := by
      rcases h _ hhandler with ⟨message, hpanic⟩ | hsurvives
      · cases hpanic
      · exact hsurvives env
    cases hrest : next (World.answer op env source.world).1 with
    | pure value =>
        refine ⟨fun program hprogram => ?_, fun message hmessage => ?_⟩
        · simp [ServiceLoop.handlerAfter] at hprogram
        · simp [ServiceLoop.handlerAfter] at hmessage
    | panic message =>
        rw [hrest] at hnext
        exact hnext.elim
    | perform op later =>
        rw [hrest] at hnext
        refine ⟨fun program hprogram => .inr ?_, fun message hmessage => ?_⟩
        · obtain rfl : Program.perform op later = program := by
            simpa [hrest, ServiceLoop.handlerAfter] using hprogram
          exact hnext
        · simp [ServiceLoop.handlerAfter] at hmessage
  · cases hstep

theorem sound_step (h : Sound source) {label : DeviceLabel}
    (hstep : step codecs source label = some target) :
    Sound target ∧ (Alive target ↔ Readable source label) := by
  cases label with
  | handleMessage command =>
      simp only [step, ServiceLoop.step] at hstep
      split at hstep
      · cases hstep
        have hsurvives : (DeviceService.handleMessage codecs command).Survives semantics
            (fun _ _ => True) source.world := handleMessage_survives command
        refine ⟨?_, fun _ => trivial, fun _ message hmessage => ?_⟩
        · rintro program hprogram
          exact .inr (Option.some.inj hprogram ▸ hsurvives)
        · rw [Option.some.inj hmessage] at hsurvives
          exact hsurvives
      · cases hstep
  | perform env reply =>
      have hreceived := Proto.isOk_received Proto.AddDeviceResponse.isOk_into reply
      simp only [step] at hstep
      split at hstep
      · rename_i userCreds hnext
        split at hstep
        · rename_i message heq
          cases hstep
          rw [heq] at hreceived
          refine ⟨fun program hprogram => .inl ⟨message, (Option.some.inj hprogram).symm⟩, ?_⟩
          exact ⟨fun halive => absurd rfl (halive message),
            fun hreadable => nomatch hreceived.mpr (hreadable userCreds hnext)⟩
        · rename_i converted heq
          rw [heq] at hreceived
          obtain ⟨hsound, halive⟩ := sound_perform h hstep
          exact ⟨hsound, fun _ _ _ => hreceived.mp rfl, fun _ => halive⟩
      · rename_i hother
        obtain ⟨hsound, halive⟩ := sound_perform h hstep
        exact ⟨hsound, fun _ userCreds hnext => absurd hnext (hother userCreds), fun _ => halive⟩

/-- The device service is taken down by the first malformed reply to `AddDevice`. -/
theorem visits_alive_iff (trace : (system codecs).Trace loop) :
    trace.Visits Alive ↔ trace.Obeys Readable := by
  refine TransitionSystem.Trace.visits_iff_obeys (I := Sound) ?_
    (fun _ _ _ hstep hsound => (sound_step hsound hstep).1)
    (fun _ _ _ hstep hsound _ => (sound_step hsound hstep).2) trace
  intro loop hinit
  have hnone : loop.handler = none := hinit
  refine ⟨fun program hprogram => ?_, fun message hmessage => ?_⟩
  · rw [hnone] at hprogram
    cases hprogram
  · rw [hnone] at hmessage
    cases hmessage

end DeviceLoop

/-! ## All of them -/

namespace Proto

/-- A reply is converted exactly when it is well formed, and the three tasks that convert
replies go on exactly as long as the replies they convert are. -/
theorem isOk_into_iff_wellFormed (codecs : Codecs) :
    ((∀ reply : Accepted, reply.into.isOk = true ↔ reply.WellFormed) ∧
      (∀ reply : Ended, reply.into.isOk = true ↔ reply.WellFormed) ∧
      (∀ reply : VpnSessionStatus, reply.into.isOk = true ↔ reply.WellFormed) ∧
      ∀ reply : AddDeviceResponse, reply.into.isOk = true ↔ reply.WellFormed) ∧
    (∀ service (trace : VpnSessionService.system.Trace service),
      trace.Visits VpnSessionService.Alive ↔ trace.Obeys VpnSessionService.Readable) ∧
    (∀ loop (trace : WatcherLoop.system.Trace loop),
      trace.Visits WatcherLoop.Alive ↔ trace.Obeys WatcherLoop.Readable) ∧
    ∀ loop (trace : (DeviceLoop.system codecs).Trace loop),
      trace.Visits DeviceLoop.Alive ↔ trace.Obeys DeviceLoop.Readable :=
  ⟨⟨Accepted.isOk_into, Ended.isOk_into, VpnSessionStatus.isOk_into, AddDeviceResponse.isOk_into⟩,
    fun _ => VpnSessionService.visits_alive_iff, fun _ => WatcherLoop.visits_alive_iff,
    fun _ => DeviceLoop.visits_alive_iff⟩

/-- The server accepts a session without saying which: every text is empty. -/
theorem not_forall_isOk_into :
    ¬ ((∀ reply : Accepted, reply.into.isOk = true) ∧
      ∀ service, VpnSessionService.system.Reachable service → service.Alive) := by
  rintro ⟨-, halive⟩
  obtain ⟨service, trace, -, hcheck⟩ := VpnSessionService.system.exists_trace_of_run
    (fun _ _ => True) rfl
    [.recv (.newSession {
      requestId := .replicate 1, deviceUniqueId := .replicate 0, locationCode := "x" })
      (.ok { requestId := "", vpnSessionUuid := "" })]
    (fun service => service.phase =
      .panicked "called `Result::unwrap()` on an `Err` value") (by decide +kernel)
  rw [decide_eq_true_eq] at hcheck
  exact halive service ⟨trace⟩ _ hcheck

end Proto

end Modvpn
