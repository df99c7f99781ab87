/-
# Reading a row and then writing it

`updatedServerStatus` and `tunnelStateTransition` look up an unmarked row and write it
in a later statement, outside a transaction. Between the two only others act, and they
leave unmarked rows alone. So the row is still there, the write finds it, and the two
functions fail only when a statement of the database does.
-/

import Modvpn.Analysis.Daemon.Custody

namespace Modvpn

open Modvpn.Protocol
open Entity (VpnSession)
open Program (Averts)

/-- The unmarked row that a lookup of the loop answers. -/
def Op.lookup (world : World) : Op → Option VpnSession
  | .findUnmarked => (VpnSession.unmarked world.vpnSession).head?
  | .findUnmarkedById requestId =>
      (VpnSession.unmarked world.vpnSession).find? (·.requestId = requestId.toText)
  | _ => none

theorem Op.mem_of_lookup {op : Op} {world : World} {row : VpnSession}
    (h : op.lookup world = some row) : row ∈ VpnSession.unmarked world.vpnSession := by
  cases op with
  | findUnmarked => exact List.mem_of_mem_head? h
  | findUnmarkedById requestId => exact List.mem_of_find?_eq_some h
  | _ => cases h

theorem Op.writesSessions_of_lookup {op : Op} {world : World} {row : VpnSession}
    (h : op.lookup world = some row) : op.writesSessions = false := by
  cases op <;> first | rfl | cases h

namespace Daemon

/-- The messages of the two expectations. -/
def expects (message : String) : Prop :=
  message = "unrecoverable db error in handle_vpn_session_status" ∨
    message = "failed to process tunnel state transition"

/-- A program that is alone with the unmarked rows, on a database that works. -/
@[reducible]
def alone : Contract ops Env World where
  rely world moved :=
    VpnSession.unmarked moved.vpnSession = VpnSession.unmarked world.vpnSession
  admits _ env _ := env.dbErr = none
  duty _ _ _ := True
  rely_refl _ := rfl
  rely_trans first second := second.trans first

variable {world : World}

/-- What follows a conversion that panics or has a value. -/
theorem parsed_ensures {ε α : Type} {text : String} {rest : Uuid → Fallible ε α}
    {post : Except ε α → World → Prop}
    (h : ∀ id, Program.Ensures semantics alone post (rest id).run world) :
    Program.Ensures semantics alone post (Fallible.parsed text >>= rest).run world := by
  unfold Fallible.parsed
  split
  · exact h _
  · trivial

theorem unwrap_ensures {ε α β : Type} {value : Option β} {rest : β → Fallible ε α}
    {post : Except ε α → World → Prop}
    (h : ∀ value, Program.Ensures semantics alone post (rest value).run world) :
    Program.Ensures semantics alone post (Fallible.unwrap value >>= rest).run world := by
  cases value with
  | none => trivial
  | some value => exact h value

/-- A row that was found can be updated. -/
theorem updateVpnSession_alone {row : VpnSession} {set : Entity.VpnSessionPatch}
    (hrow : row ∈ VpnSession.unmarked world.vpnSession) :
    (perform (.updateVpnSession row.requestId set)).Ensures semantics alone
      (fun result _ => result = .ok ()) world := by
  intro moved choice hrely hadmits
  have hdb : choice.dbErr = none := hadmits
  have hmem : row ∈ VpnSession.unmarked moved.vpnSession := hrely ▸ hrow
  have hid : VpnSession.hasId row.requestId moved.vpnSession = true :=
    VpnSession.hasId_of_mem (VpnSession.mem_unmarked.mp hmem).1
  refine ⟨trivial, fun _ _ => ?_⟩
  simp only [World.answer, World.checked, hdb, hid]
  rfl

theorem deleteVpnSession_alone {requestId : String} :
    (perform (.deleteVpnSession requestId)).Ensures semantics alone
      (fun result _ => result = .ok ()) world := by
  intro moved choice _ hadmits
  have hdb : choice.dbErr = none := hadmits
  refine ⟨trivial, fun _ _ => ?_⟩
  simp only [World.answer, World.statement, hdb]

theorem utcNow_alone :
    (perform .utcNow).Ensures semantics alone (fun _ _ => True) world :=
  fun _ _ _ _ => ⟨trivial, fun _ _ => trivial⟩

/-- The lookup of a row by its id, and what follows it. -/
theorem updatedServerStatus_alone (status : VpnSessionStatus) :
    Program.Ensures semantics alone (fun result _ => ∃ processed, result = .ok processed)
      (VpnSessionStorage.updatedServerStatus status).run world := by
  refine .exceptBind ?_
  intro moved choice _ hadmits
  have hdb : choice.dbErr = none := hadmits
  refine ⟨trivial, ?_⟩
  simp only [World.answer, World.statement, hdb]
  intro later hlater
  cases hrow : (VpnSession.unmarked moved.vpnSession).find?
      (·.requestId = (VpnSessionStorage.getSessionInfo status).requestId.toText) with
  | none => exact fun _ _ => ⟨_, rfl⟩
  | some row =>
      have hmem : row ∈ VpnSession.unmarked later.vpnSession :=
        hlater ▸ List.mem_of_find?_eq_some hrow
      simp only [Program.EnsuresRest]
      cases status with
      | failed failed =>
          refine .exceptBind (deleteVpnSession_alone.mono fun result _ hresult => ?_)
          rw [hresult]
          exact .liftBind (utcNow_alone.mono fun _ _ _ _ _ => ⟨_, rfl⟩)
      | ended ended =>
          refine .exceptBind (deleteVpnSession_alone.mono fun result _ hresult => ?_)
          rw [hresult]
          exact fun _ _ => ⟨_, rfl⟩
      | _ =>
          refine .exceptBind ((updateVpnSession_alone hmem).mono fun result _ hresult => ?_)
          rw [hresult]
          exact fun _ _ => ⟨_, rfl⟩

theorem tunnelStateTransition_alone (transition : TunnelStateTransition)
    (currentState : VpnStatus) :
    Program.Ensures semantics alone (fun result _ => ∃ processed, result = .ok processed)
      (VpnSessionStorage.tunnelStateTransition transition currentState).run world := by
  refine .exceptBind ?_
  intro moved choice _ hadmits
  have hdb : choice.dbErr = none := hadmits
  refine ⟨trivial, ?_⟩
  simp only [World.answer, World.statement, hdb]
  intro later hlater
  cases hrow : (VpnSession.unmarked moved.vpnSession).head? with
  | none =>
      simp only [Program.EnsuresRest]
      cases transition with
      | disconnecting action =>
          cases currentState <;> first | trivial | exact fun _ _ => ⟨_, rfl⟩
      | error errorState => exact .liftBind (utcNow_alone.mono fun _ _ _ _ _ => ⟨_, rfl⟩)
      | _ => exact fun _ _ => ⟨_, rfl⟩
  | some row =>
      have hmem : row ∈ VpnSession.unmarked later.vpnSession :=
        hlater ▸ List.mem_of_mem_head? hrow
      simp only [Program.EnsuresRest]
      cases transition with
      | connected =>
          refine .exceptBind ((updateVpnSession_alone hmem).mono fun result _ hresult => ?_)
          rw [hresult]
          refine .liftBind (utcNow_alone.mono fun since _ _ => ?_)
          refine parsed_ensures fun requestId => unwrap_ensures fun text => ?_
          exact parsed_ensures fun vpnSessionId => fun _ _ => ⟨_, rfl⟩
      | error errorState => exact .liftBind (utcNow_alone.mono fun _ _ _ _ _ => ⟨_, rfl⟩)
      | _ => exact fun _ _ => ⟨_, rfl⟩

/-! ## Panics that have other reasons -/

theorem not_expects_unwrap : ¬ expects "called `Option::unwrap()` on a `None` value" := by
  unfold expects
  decide

theorem not_expects_parse : ¬ expects "called `Result::unwrap()` on an `Err` value" := by
  unfold expects
  decide

theorem not_expects_current (text : String) :
    ¬ expects ("No vpn session found; current state is " ++ text) := by
  rintro (h | h) <;> simpa using congrArg (·.toList.head?) h

theorem parsed_averts {ε : Type} (text : String) :
    Averts expects (Fallible.parsed text : Fallible ε Uuid).run := by
  unfold Fallible.parsed
  split
  · trivial
  · exact not_expects_parse

theorem perform_averts {op : Op} : (perform op).Averts expects := fun _ => trivial

theorem updatedServerStatus_averts (status : VpnSessionStatus) :
    Averts expects (VpnSessionStorage.updatedServerStatus status).run := by
  refine .exceptBind perform_averts fun vpnSession => ?_
  cases vpnSession with
  | none => trivial
  | some vpnSession =>
      cases status with
      | failed failed =>
          refine .exceptBind perform_averts fun _ => ?_
          exact .exceptBind (.bind perform_averts fun _ => trivial) fun _ => trivial
      | _ => exact .exceptBind perform_averts fun _ => trivial

theorem tunnelStateTransition_averts (transition : TunnelStateTransition)
    (currentState : VpnStatus) :
    Averts expects (VpnSessionStorage.tunnelStateTransition transition currentState).run := by
  have htimed {α : Type} {rest : DateTimeUtc → Fallible DbErr α}
      (hrest : ∀ timestamp, Averts expects (rest timestamp).run) :
      Averts expects (ExceptT.lift (perform .utcNow) >>= rest).run :=
    .exceptBind (.bind perform_averts fun _ => trivial) hrest
  refine .exceptBind perform_averts fun vpnSession => ?_
  cases vpnSession with
  | none =>
      cases transition with
      | disconnecting action =>
          cases currentState with
          | disconnecting location => trivial
          | _ =>
              simp only [String.append_assoc]
              exact not_expects_current _
      | error errorState => exact htimed fun _ => trivial
      | _ => trivial
  | some vpnSession =>
      cases transition with
      | connected =>
          refine .exceptBind perform_averts fun _ => htimed fun since => ?_
          refine .exceptBind (parsed_averts _) fun requestId => ?_
          refine .exceptBind ?_ fun text => .exceptBind (parsed_averts _) fun _ => trivial
          unfold Fallible.unwrap
          split
          · trivial
          · exact not_expects_unwrap
      | error errorState => exact htimed fun _ => trivial
      | _ => trivial

theorem modifyState_averts (update : DaemonState → DaemonState) :
    (modifyState update).Averts expects :=
  .bind perform_averts fun _ => perform_averts

theorem setVpnStatus_averts (vpnStatus : VpnStatus) : (setVpnStatus vpnStatus).Averts expects :=
  .bind (modifyState_averts _) fun _ => perform_averts

theorem addNotification_averts (notification : Notification) :
    (addNotification notification).Averts expects :=
  .bind (modifyState_averts _) fun _ => perform_averts

theorem endSession_averts (endReason : String) :
    Averts expects (endSession endReason).run := by
  have hstorage : Averts expects VpnSessionStorage.endSession.run := by
    refine .exceptBind perform_averts fun vpnSession => ?_
    cases vpnSession with
    | none => trivial
    | some vpnSession =>
        refine .exceptBind perform_averts fun _ => ?_
        cases vpnSession.sessionUuid with
        | none => trivial
        | some text =>
            exact .exceptBind (parsed_averts _) fun _ => .exceptBind (parsed_averts _) fun _ => trivial
  refine .exceptBind ?_ fun _ => .bind perform_averts fun _ => trivial
  rw [ExceptT.run_adapt]
  exact .bind hstorage fun _ => trivial

theorem statusProcessed_averts (processed : VpnSessionStorage.VpnSessionStatusProcessed) :
    Averts expects (do
      if let some notification := processed.notification then
        addNotification notification
      if let some newVpnStatus := processed.vpnStatus then
        setVpnStatus newVpnStatus
        updateTunnelOnNewStatus newVpnStatus : Async Unit) := by
  apply statusProcessed_composes (Q := fun _ => Averts expects) .bind trivial processed
    addNotification_averts setVpnStatus_averts
  intro newVpnStatus _
  unfold updateTunnelOnNewStatus
  split <;> first | trivial | exact perform_averts

theorem transitionProcessed_averts (processed : VpnSessionStorage.TunnelTransitionProcessed) :
    Averts expects (do
      if let some sessionInfo := processed.clientConnected then
        clientConnected sessionInfo
      if let some tunnelCommand := processed.tunnelCommand then
        sendTunnelCommand tunnelCommand
      if let some notification := processed.notification then
        addNotification notification
      if let some reason := processed.endSession then
        let _ ← (endSession reason).run
      setVpnStatus processed.vpnStatus) := by
  exact transitionProcessed_composes (Q := fun _ => Averts expects) .bind processed
    (fun _ => perform_averts) (fun _ _ => perform_averts) addNotification_averts endSession_averts
    (setVpnStatus_averts _)

/-! ## The two handlers -/

/-- A handler whose first part succeeds and whose rest panics for other reasons only. -/
theorem expected_alone {ε α : Type} {first : Fallible ε α} {rest : Except ε α → Async Unit}
    (hfirst : Program.Ensures semantics alone (fun result _ => ∃ value, result = .ok value)
      first.run world)
    (hfirstAverts : Averts expects first.run) (hrest : ∀ value, (rest (.ok value)).Averts expects) :
    (first.run.bind rest).caught.Ensures semantics alone
      (fun result _ => ∀ message, result = .error message → ¬ expects message) world := by
  refine .caughtBind ((hfirst.caught hfirstAverts).mono fun result moved hresult => ⟨?_, ?_⟩)
  · rintro value rfl
    obtain ⟨value, rfl⟩ := hresult.1 _ rfl
    exact ((Program.ensures_of_duty (fun _ _ _ => trivial) _ moved).caught (hrest value)).mono
      fun _ _ hlast => hlast.2
  · rintro message rfl _ ⟨⟩
    exact hresult.2 message rfl

theorem handleVpnSessionStatus_alone (status : VpnSessionStatus) :
    (handleVpnSessionStatus status).caught.Ensures semantics alone
      (fun result _ => ∀ message, result = .error message → ¬ expects message) world :=
  expected_alone (updatedServerStatus_alone status) (updatedServerStatus_averts status)
    statusProcessed_averts

theorem handleTunnelStateTransition_alone (transition : TunnelStateTransition) :
    (handleTunnelStateTransition transition).caught.Ensures semantics alone
      (fun result _ => ∀ message, result = .error message → ¬ expects message) world := by
  intro moved choice _ _
  refine ⟨trivial, ?_⟩
  exact expected_alone (tunnelStateTransition_alone transition _)
    (tunnelStateTransition_averts transition _) transitionProcessed_averts

end Daemon

/-! ## Runs -/

theorem Op.writesState_of_inBackground {op : Op} (h : op.inBackground = true) :
    op.writesState = false := by
  cases op <;> first | rfl | cases h

/-- Its handler expects the database to work. -/
def DaemonEvent.isReport : DaemonEvent → Bool
  | .vpnSessionStatus _ | .tunnelStateTransition _ => true
  | .command _ | .shutdown => false

namespace Machine

/-- A step of anyone but the loop, which neither goes on nor is started again. -/
def Aside (_machine : Machine) : MachineLabel → Prop
  | .loop _ | .take | .restart => False
  | .ready | .post _ | .start _ | .serve | .reclaim | .job _ _ => True

/-- The same, or an operation of the loop on a database that works. -/
def Working (machine : Machine) : MachineLabel → Prop
  | .loop env => env.dbErr = none
  | label => machine.Aside label

variable {codecs : Codecs} {source target : Machine}

theorem Aside.not_loop {label : MachineLabel} (h : source.Aside label) (env : Env) :
    label ≠ .loop env := by
  rintro rfl
  exact h

/-- The loop waits while the others take steps. -/
theorem Aside.loop_eq {label : MachineLabel} (h : source.Aside label)
    (hstep : step codecs source label = some target) : target.loop = source.loop := by
  cases steps_of_step hstep with
  | restart | take | loop => exact h.elim
  | post | ready | start | serve | reclaim => rfl
  | job => exact settle_loop ..

/-- Programs beside the loop do what belongs in the background. -/
theorem jobs_within (h : (system codecs).Reachable source) :
    ∀ job ∈ source.jobs, Within Op.inBackground job.program := by
  refine TransitionSystem.Reachable.invariant (system codecs)
    (I := fun machine => ∀ job ∈ machine.jobs, Within Op.inBackground job.program) ?_ ?_ h
  · rintro _ rfl
    exact List.forall_mem_nil _
  · intro before label after hstep hjobs
    have hstart {job : Job ops Role} (hjob : Within Op.inBackground job.program) :
        ∀ other ∈ before.jobs ++ [job], Within Op.inBackground other.program := by
      intro other hother
      rcases List.mem_append.mp hother with hmem | hlast
      · exact hjobs other hmem
      · rw [List.mem_singleton.mp hlast]
        exact hjob
    cases steps_of_step hstep with
    | restart => exact List.forall_mem_nil _
    | post | ready | take | loop => exact hjobs
    | start htask => exact hstart (Task.program_within _)
    | serve => exact hstart (DeviceService.handleMessage_within codecs _)
    | reclaim => exact hstart (Reclaimer.reclaim_within_background codecs)
    | @job index env job op resume hjob hprogram hallowed =>
        have hwithin := hjobs job (List.mem_of_getElem? hjob)
        rw [hprogram] at hwithin
        intro other hother
        rcases jobs_settle other hother with hmem | rfl
        · exact hjobs other hmem
        · exact hwithin.2 _

/-- The loop alone writes the in-memory state. -/
theorem Aside.state_eq {label : MachineLabel} (h : source.Aside label)
    (hreachable : (system codecs).Reachable source)
    (hstep : step codecs source label = some target) : target.world.state = source.world.state := by
  cases steps_of_step hstep with
  | restart | take | loop => exact h.elim
  | post | ready | start | serve | reclaim => rfl
  | @job index env job op resume hjob hprogram hallowed =>
      have hwithin := jobs_within hreachable job (List.mem_of_getElem? hjob)
      rw [hprogram] at hwithin
      rw [settle_world]
      exact World.answer_state (Op.writesState_of_inBackground hwithin.1)

theorem unmarked_of_step (h : (system codecs).Reachable source) {label : MachineLabel}
    (hstep : step codecs source label = some target) (hother : ∀ env, label ≠ .loop env) :
    VpnSession.unmarked target.world.vpnSession = VpnSession.unmarked source.world.vpnSession := by
  obtain ⟨fresh, haccounted⟩ := exists_accounted h
  exact haccounted.unmarked_of_step hstep hother

/-- The row a lookup has answered is there when the loop goes on. -/
theorem mem_unmarked_of_lookup {found late : Machine} {op : Op} {env : Env} {row : VpnSession}
    (h : (system codecs).Reachable source) (hop : source.loop.nextOp = some op)
    (hrow : op.lookup source.world = some row)
    (hfound : step codecs source (.loop env) = some found)
    (hlate : (system codecs).Leads Aside found late) :
    late.loop = found.loop ∧ row ∈ VpnSession.unmarked late.world.vpnSession := by
  have hstep : (system codecs).step source (.loop env) = some found := hfound
  have hreachable : (system codecs).Reachable found := h.step hstep
  have hkept : row ∈ VpnSession.unmarked found.world.vpnSession := by
    cases steps_of_step hfound with
    | @loop _ other resume hprogram hallowed =>
        have hother : other = op := by simpa [hprogram, Program.nextOp] using hop
        subst hother
        show row ∈ VpnSession.unmarked (World.answer other env source.world).2.vpnSession
        rw [World.answer_vpnSession (Op.writesSessions_of_lookup hrow)]
        exact Op.mem_of_lookup hrow
  obtain ⟨-, hloop, hlast⟩ := hlate.invariant (I := fun machine =>
    (system codecs).Reachable machine ∧ machine.loop = found.loop ∧
      row ∈ VpnSession.unmarked machine.world.vpnSession) ⟨hreachable, rfl, hkept⟩
    fun before label after hstep haside hbefore => by
      obtain ⟨hbefore, hloop, hmem⟩ := hbefore
      refine ⟨hbefore.step hstep, ?_, ?_⟩
      · rw [haside.loop_eq hstep, hloop]
      · rw [unmarked_of_step hbefore hstep haside.not_loop]
        exact hmem
  exact ⟨hloop, hlast⟩

/-- The loop has not panicked for the sake of an expectation, and will not. -/
def Safe (machine : Machine) : Prop :=
  machine.loop.caught.Ensures semantics Daemon.alone
    (fun result _ => ∀ message, result = .error message → ¬ Daemon.expects message) machine.world

theorem Safe.loop {env : Env} (h : source.Safe)
    (hstep : Machine.step codecs source (.loop env) = some target) (hdb : env.dbErr = none) :
    target.Safe := by
  cases steps_of_step hstep with
  | loop hprogram hallowed =>
      rw [Safe, hprogram] at h
      exact (Program.Ensures.step h hdb).2

theorem Safe.aside {label : MachineLabel} (h : source.Safe)
    (hreachable : (system codecs).Reachable source)
    (hstep : Machine.step codecs source label = some target) (haside : source.Aside label) :
    target.Safe := by
  rw [Safe, haside.loop_eq hstep]
  exact Program.Ensures.of_rely h (unmarked_of_step hreachable hstep haside.not_loop)

/-- The expectations of a handler hold on a database that works. -/
theorem not_expects_of_working {taken late : Machine} {event : DaemonEvent}
    (h : (system codecs).Reachable taken) (hreport : event.isReport = true)
    (hloop : taken.loop = Daemon.handleEvent event)
    (hlate : (system codecs).Leads Working taken late) {message : String}
    (hpanicked : late.loop.panicked = some message) : ¬ Daemon.expects message := by
  have htaken : taken.Safe := by
    rw [Safe, hloop]
    cases event with
    | vpnSessionStatus status => exact Daemon.handleVpnSessionStatus_alone status
    | tunnelStateTransition transition => exact Daemon.handleTunnelStateTransition_alone transition
    | command _ | shutdown => cases hreport
  obtain ⟨-, hsafe⟩ := hlate.invariant (I := fun machine =>
    (system codecs).Reachable machine ∧ machine.Safe) ⟨h, htaken⟩
    fun before label after hstep hworking ⟨hbefore, hsafe⟩ => by
      have hmoved : Machine.step codecs before label = some after := hstep
      refine ⟨hbefore.step hstep, ?_⟩
      cases label with
      | loop env => exact hsafe.loop hmoved hworking
      | _ => exact hsafe.aside hbefore hmoved hworking
  rw [Safe, Program.caught_of_panicked hpanicked] at hsafe
  exact hsafe late.world rfl message rfl

/-- Unmarked rows belong to the loop: no other step changes them, so the row that a
lookup has answered is there and unchanged when the loop writes it, and the two
expectations fail only when the database does. -/
theorem custody_of_unmarked (codecs : Codecs) :
    (∀ {source target : Machine} {label : MachineLabel}, (system codecs).Reachable source →
      step codecs source label = some target → (∀ env, label ≠ .loop env) →
      VpnSession.unmarked target.world.vpnSession =
        VpnSession.unmarked source.world.vpnSession) ∧
    (∀ {source found late : Machine} {op : Op} {env : Env} {row : VpnSession},
      (system codecs).Reachable source → source.loop.nextOp = some op →
      op.lookup source.world = some row → step codecs source (.loop env) = some found →
      (system codecs).Leads Aside found late →
      late.loop = found.loop ∧ row ∈ VpnSession.unmarked late.world.vpnSession) ∧
    (∀ {taken late : Machine} {event : DaemonEvent} {message : String},
      (system codecs).Reachable taken → event.isReport = true →
      taken.loop = Daemon.handleEvent event → (system codecs).Leads Working taken late →
      late.loop.panicked = some message → ¬ Daemon.expects message) := by
  refine ⟨?_, ?_, ?_⟩
  · intro source target label hreachable hstep hother
    exact unmarked_of_step hreachable hstep hother
  · intro source found late op env row hreachable hop hrow hfound hlate
    exact mem_unmarked_of_lookup hreachable hop hrow hfound hlate
  · intro taken late event message hreachable hreport hloop hlate hpanicked
    exact not_expects_of_working hreachable hreport hloop hlate hpanicked

/-- The handler of `ServerReady` has found the row, and an event arrives. -/
theorem exists_custody : ∃ (source found late : Machine) (op : Op) (row : VpnSession),
    (system Sample.codecs).Reachable source ∧ source.loop.nextOp = some op ∧
      op.lookup source.world = some row ∧ late.queue.length = found.queue.length + 1 ∧
      late.loop = found.loop ∧ row ∈ VpnSession.unmarked late.world.vpnSession := by
  let run := (system Sample.codecs).run fun _ _ => True
  let env : Env := Sample.first
  have hrun : ((run (installed Sample.codecs)
      (Sample.installing ++ Sample.requesting Sample.first 11 ++
        [.post (.vpnSessionStatus (Sample.ready Sample.first.uuid (.replicate 1))),
          .take])).any fun source =>
      source.loop.nextOp.any (fun op => (op.lookup source.world).isSome) &&
        (step Sample.codecs source (.loop env)).any fun found =>
          (step Sample.codecs found (.post (.command .disconnect))).any fun late =>
            decide (late.queue.length = found.queue.length + 1)) = true := by
    decide +kernel
  simp only [Option.any_eq_true, Bool.and_eq_true, decide_eq_true_eq] at hrun
  obtain ⟨source, hsource, ⟨op, hop, hrow⟩, found, hfound, late, hlate, hlength⟩ := hrun
  obtain ⟨row, hrow⟩ := Option.isSome_iff_exists.mp hrow
  obtain ⟨trace, -⟩ := (system Sample.codecs).exists_trace_of_run_eq_some hsource
    ⟨.start rfl, trivial⟩
  have hposted : (system Sample.codecs).step found (.post (.command .disconnect)) = some late :=
    hlate
  have haside : found.Aside (.post (.command .disconnect)) := trivial
  have hleads : (system Sample.codecs).Leads Aside found late := .extend .here haside hposted
  obtain ⟨hloop, hmem⟩ :=
    (custody_of_unmarked Sample.codecs).2.1 ⟨trace⟩ hop hrow hfound hleads
  exact ⟨source, found, late, op, row, ⟨trace⟩, hop, hrow, hlength, hloop, hmem⟩

end Machine

end Modvpn
