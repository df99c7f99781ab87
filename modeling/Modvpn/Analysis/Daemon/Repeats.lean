/-
# Server statuses that arrive again

A server status writes a column of the session's row and, for three of the kinds, the
status in memory. Handling it once more finds the row as it left it only as long as
nothing else was written in between. So a repeated status is absorbed when its row is
claimed or gone, or when row and memory still show it; and `ServerReady`, whose handler
tells the tunnel to connect each time, only in the first case.
-/

import Modvpn.Analysis.Daemon.FindThenWrite
import Modvpn.Analysis.Daemon.Handling

namespace Modvpn

open Modvpn.Protocol
open Entity (VpnSession)

/-- The session table, the in-memory state, and what the tunnel was told are the same. -/
structure World.SameSession (world moved : World) : Prop where
  rows : moved.vpnSession = world.vpnSession
  state : moved.state = world.state
  commands : moved.tunnelCommands = world.tunnelCommands

/-- The row and the status in memory are as a server status leaves them, which does
nothing else. -/
def Entity.VpnSession.Shows (row : VpnSession) (vpnStatus : VpnStatus) : VpnSessionStatus → Prop
  | .accepted _ => row.serverStatus = some StorageServerStatus.accepted.toText
  | .clientConnected _ => row.serverStatus = some StorageServerStatus.clientConnected.toText
  | .serverCreated _ => row.serverStatus = some StorageServerStatus.serverCreated.toText ∧
      vpnStatus = .serverCreated row.toLocation
  | .serverRunning _ => row.serverStatus = some StorageServerStatus.serverRunning.toText ∧
      vpnStatus = .serverRunning row.toLocation
  | .serverReady _ | .failed _ | .ended _ => False

/-- An unmarked row of the session shows the status. -/
def World.Settled (world : World) (status : VpnSessionStatus) : Prop :=
  ∀ row, VpnSession.currentById (VpnSessionStorage.getSessionInfo status).requestId
    world.vpnSession = some row → row.Shows world.state.vpnStatus status

namespace Machine

/-- The loop takes a server status that it has taken before. -/
def Repeats (machine : Machine) (status : VpnSessionStatus) : MachineLabel → Prop
  | .take => machine.queue.head? = some (.vpnSessionStatus status) ∧
      .received status ∈ machine.world.history
  | _ => False

/-- Steps before the next event is taken. -/
def BeforeNext (_machine : Machine) : MachineLabel → Prop
  | .take | .restart => False
  | .ready | .post _ | .loop _ | .start _ | .serve | .reclaim | .job _ _ => True

/-- No operation with which a repeated status is handled changes anything, whatever the
others do meanwhile. -/
def Absorbs (codecs : Codecs) (machine : Machine) (label : MachineLabel) : Prop :=
  ∀ status, machine.Repeats status label → ∀ taken, step codecs machine label = some taken →
    ∀ late after env, (system codecs).Leads BeforeNext taken late →
      step codecs late (.loop env) = some after → late.world.SameSession after.world

/-- The repeated status finds its row claimed or gone, or as it left it. -/
def Settled (machine : Machine) (label : MachineLabel) : Prop :=
  ∀ status, machine.Repeats status label → machine.world.Settled status

end Machine

/-! ## What is settled is not written again -/

namespace World

variable {world moved later : World} {op : Op} {env : Env} {row : VpnSession}
  {status : VpnSessionStatus}

theorem SameSession.refl (world : World) : world.SameSession world := ⟨rfl, rfl, rfl⟩

theorem SameSession.trans (first : world.SameSession moved) (second : moved.SameSession later) :
    world.SameSession later :=
  ⟨second.rows.trans first.rows, second.state.trans first.state,
    second.commands.trans first.commands⟩

theorem sameSession_answer (hrows : op.writesSessions = false) (hstate : op.writesState = false)
    (hcommands : op.tunnels = []) : world.SameSession (answer op env world).2 := by
  refine ⟨answer_vpnSession hrows, answer_state hstate, ?_⟩
  rw [answer_tunnelCommands, hcommands, List.append_nil]

/-- Writing what a row has already. -/
theorem sameSession_update (env : Env) {set : Entity.VpnSessionPatch}
    (hnodup : (world.vpnSession.map (·.requestId)).Nodup) (hrow : row ∈ world.vpnSession)
    (hset : row.patch set = row) :
    world.SameSession (answer (.updateVpnSession row.requestId set) env world).2 := by
  refine ⟨?_, answer_state rfl, ?_⟩
  · refine checked_frame World.vpnSession fun _ _ hnext => ?_
    split at hnext <;> cases hnext
    refine (List.map_congr_left fun other hother => ?_).trans (List.map_id _)
    split
    · rename_i hid
      rw [List.inj_on_of_nodup_map hnodup hother hrow hid]
      exact hset
    · rfl
  · rw [answer_tunnelCommands]
    exact List.append_nil _

end World

namespace Daemon

/-- The loop alone writes unmarked rows and the in-memory state, and owes that it leaves
them as they are. -/
@[reducible]
def absorbing : Contract ops Env World where
  rely world moved :=
    VpnSession.unmarked moved.vpnSession = VpnSession.unmarked world.vpnSession ∧
      moved.state = world.state
  admits _ _ world := (world.vpnSession.map (·.requestId)).Nodup
  duty op env world := world.SameSession (World.answer op env world).2
  rely_refl _ := ⟨rfl, rfl⟩
  rely_trans first second := ⟨second.1.trans first.1, second.2.trans first.2⟩

variable {world : World}

theorem rely_of_sameSession {moved : World} (h : world.SameSession moved) :
    absorbing.rely world moved :=
  ⟨congrArg VpnSession.unmarked h.rows, h.state⟩

theorem setVpnStatus_absorbed {vpnStatus : VpnStatus} (h : world.state.vpnStatus = vpnStatus) :
    (setVpnStatus vpnStatus).Ensures semantics absorbing (fun _ _ => True) world := by
  intro read env hread _
  refine ⟨World.sameSession_answer rfl rfl rfl, ?_⟩
  intro written env hwritten _
  have hstate : read.state.setVpnStatus vpnStatus = written.state := by
    rw [hwritten.2, DaemonState.setVpnStatus, ← h, ← hread.2]
    rfl
  refine ⟨⟨rfl, hstate, rfl⟩, ?_⟩
  intro announced env _ _
  exact ⟨World.sameSession_answer rfl rfl rfl, fun _ _ => trivial⟩

/-- What is processed changes neither the status in memory nor the tunnel. -/
def Absorbed (result : Except DbErr VpnSessionStorage.VpnSessionStatusProcessed) (world : World) :
    Prop :=
  ∀ processed, result = .ok processed → processed.notification = none ∧
    ∀ vpnStatus, processed.vpnStatus = some vpnStatus →
      world.state.vpnStatus = vpnStatus ∧ updateTunnelOnNewStatus vpnStatus = .pure ()

theorem Absorbed.error (error : DbErr) : Absorbed (.error error) world := by
  rintro _ ⟨⟩

theorem Absorbed.unchanged {vpnStatus : Option VpnStatus} (h : ∀ next, vpnStatus = some next →
      world.state.vpnStatus = next ∧ updateTunnelOnNewStatus next = .pure ()) :
    Absorbed (.ok { vpnStatus, notification := none }) world := by
  rintro _ ⟨⟩
  exact ⟨rfl, h⟩

/-- The row has what the status writes, and memory shows it. -/
theorem update_absorbed {row : VpnSession} {status : StorageServerStatus}
    {vpnStatus : Option VpnStatus} (hrow : row ∈ VpnSession.unmarked world.vpnSession)
    (hset : row.serverStatus = some status.toText)
    (hstatus : ∀ next, vpnStatus = some next →
      world.state.vpnStatus = next ∧ updateTunnelOnNewStatus next = .pure ()) :
    Program.Ensures semantics absorbing Absorbed (do
      ExceptT.mk (perform (.updateVpnSession row.requestId (VpnSessionStorage.statusPatch status)))
      return { vpnStatus, notification := none } :
        Fallible DbErr VpnSessionStorage.VpnSessionStatusProcessed).run world := by
  have hpatch : row.patch (VpnSessionStorage.statusPatch status) = row := by
    simp [Entity.VpnSession.patch, VpnSessionStorage.statusPatch, ← hset]
  refine .exceptBind ?_
  intro updated env hupdated hnodup
  have hmem : row ∈ updated.vpnSession := (VpnSession.mem_unmarked.mp (hupdated.1 ▸ hrow)).1
  have hsame := World.sameSession_update env hnodup hmem hpatch
  refine ⟨hsame, fun moved hmoved => ?_⟩
  have hwaited : absorbing.rely world moved := absorbing.rely_trans hupdated
    (absorbing.rely_trans (rely_of_sameSession hsame) hmoved)
  cases (World.answer (.updateVpnSession row.requestId _) env updated).1 with
  | error error => exact fun _ _ => .error error
  | ok _ =>
      refine fun last hlast => .unchanged fun next hnext => ?_
      rw [(absorbing.rely_trans hwaited hlast).2]
      exact hstatus next hnext

theorem updatedServerStatus_absorbed (status : VpnSessionStatus) (h : world.Settled status) :
    Program.Ensures semantics absorbing Absorbed
      (VpnSessionStorage.updatedServerStatus status).run world := by
  refine .exceptBind ?_
  intro found env hfound _
  let op : Op := .findUnmarkedById (VpnSessionStorage.getSessionInfo status).requestId
  have hquiet : found.SameSession (World.answer op env found).2 :=
    World.sameSession_answer rfl rfl rfl
  refine ⟨hquiet, fun moved hmoved => ?_⟩
  replace hmoved : absorbing.rely found moved :=
    absorbing.rely_trans (rely_of_sameSession hquiet) hmoved
  have hwaited : absorbing.rely world moved := absorbing.rely_trans hfound hmoved
  simp only [World.answer, World.statement]
  cases hdb : env.dbErr with
  | some error => exact fun _ _ => .error error
  | none =>
      cases hlookup : (VpnSession.unmarked found.vpnSession).find?
          (·.requestId = (VpnSessionStorage.getSessionInfo status).requestId.toText) with
      | none => exact fun _ _ => .unchanged (by simp)
      | some row =>
          have hshows : row.Shows moved.state.vpnStatus status := by
            rw [hwaited.2]
            apply h
            rw [VpnSession.currentById, ← hfound.1]
            exact hlookup
          have hmem : row ∈ VpnSession.unmarked moved.vpnSession := by
            rw [hmoved.1]
            exact List.mem_of_find?_eq_some hlookup
          simp only [Program.EnsuresRest]
          cases status with
          | accepted accepted => exact update_absorbed hmem hshows (by simp)
          | clientConnected clientConnected => exact update_absorbed hmem hshows (by simp)
          | serverCreated serverCreated =>
              refine update_absorbed hmem hshows.1 ?_
              rintro _ ⟨⟩
              exact ⟨hshows.2, rfl⟩
          | serverRunning serverRunning =>
              refine update_absorbed hmem hshows.1 ?_
              rintro _ ⟨⟩
              exact ⟨hshows.2, rfl⟩
          | serverReady _ | failed _ | ended _ => exact hshows.elim

theorem handleVpnSessionStatus_absorbed (status : VpnSessionStatus) (h : world.Settled status) :
    (handleVpnSessionStatus status).Ensures semantics absorbing (fun _ _ => True) world := by
  refine .bind ((updatedServerStatus_absorbed status h).mono fun result moved hmoved => ?_)
  cases result with
  | error error => trivial
  | ok processed =>
      obtain ⟨vpnStatus, notification⟩ := processed
      obtain ⟨hnone, hstatus⟩ := hmoved _ rfl
      cases hnone
      cases vpnStatus with
      | none => exact fun _ _ => trivial
      | some vpnStatus =>
          obtain ⟨hsame, hpure⟩ := hstatus vpnStatus rfl
          refine .bind ((setVpnStatus_absorbed hsame).mono fun _ later _ => ?_)
          rw [hpure]
          exact fun _ _ => trivial

end Daemon

/-! ## What is absorbed was settled -/

/-- A row that is written with what it has. -/
theorem Entity.VpnSession.patch_of_updateById {rows : List VpnSession} {row : VpnSession}
    {set : Entity.VpnSessionPatch} (hrow : row ∈ rows)
    (h : VpnSession.updateById row.requestId (·.patch set) rows = rows) : row.patch set = row := by
  have heach := List.map_eq_map_iff.mp (h.trans (List.map_id _).symm) row hrow
  simpa using heach

theorem Entity.VpnSession.serverStatus_of_patch {row : VpnSession} {status : StorageServerStatus}
    (h : row.patch (VpnSessionStorage.statusPatch status) = row) :
    row.serverStatus = some status.toText := by
  rw [← h]
  rfl

theorem World.settled_of_serverStatus {world : World} {status : VpnSessionStatus}
    (hrows : (world.view.serverStatus status).rows = world.vpnSession)
    (hstatus : (world.view.serverStatus status).status = world.state.vpnStatus)
    (hcommands : (world.view.serverStatus status).commands = world.tunnelCommands) :
    world.Settled status := by
  intro row hrow
  obtain ⟨⟨hmem, -⟩, -⟩ := VpnSession.mem_of_currentById hrow
  simp only [SessionView.serverStatus, World.view_rows, hrow] at hrows hstatus hcommands
  have hupdated {name : StorageServerStatus}
      (hset : SessionView.statusUpdate status = some (VpnSessionStorage.statusPatch name)) :
      row.serverStatus = some name.toText := by
    rw [hset] at hrows
    exact Entity.VpnSession.serverStatus_of_patch
      (Entity.VpnSession.patch_of_updateById hmem hrows)
  cases status with
  | accepted _ | clientConnected _ => exact hupdated rfl
  | serverCreated _ | serverRunning _ => exact ⟨hupdated rfl, hstatus.symm⟩
  | serverReady serverReady => simp [SessionView.isServerReady] at hcommands
  | failed _ | ended _ =>
      have hkept : row ∈ VpnSession.deleteById row.requestId world.vpnSession := by
        rw [show VpnSession.deleteById row.requestId world.vpnSession = world.vpnSession from hrows]
        exact hmem
      simp [VpnSession.deleteById] at hkept

namespace Machine

variable {codecs : Codecs} {source taken machine : Machine}

/-- When no operation of the loop changes anything, neither does a run of its program. -/
theorem sameSession_of_run {program : Async Unit} (hwithin : Within Op.inHandler program)
    {env : Env} {target : World}
    (h : ∀ late after env, (system codecs).Leads BeforeNext machine late →
      step codecs late (.loop env) = some after → late.world.SameSession after.world)
    (hloop : machine.loop = program)
    (hrun : program.run semantics (fun _ => env) machine.world = .returned () target) :
    machine.world.SameSession target := by
  induction program generalizing machine with
  | pure value =>
      cases hrun
      exact .refl _
  | panic message => cases hrun
  | perform op next ih =>
      have hallowed : allowed machine.issued env op = true := by
        cases op <;> first | rfl | cases hwithin.1
      let answered := World.answer op env machine.world
      let after : Machine := { machine with
        world := answered.2
        issued := issuedAfter machine.issued env op
        loop := next answered.1 }
      have hstep : step codecs machine (.loop env) = some after := by
        simp only [step, hloop, advance, hallowed, if_true]
        rfl
      have hbefore : machine.BeforeNext (.loop env) := trivial
      have hbegun : (system codecs).Leads BeforeNext machine after := .extend .here hbefore hstep
      have hfirst : machine.world.SameSession after.world := h machine after env .here hstep
      have hrest : after.world.SameSession target :=
        ih answered.1 (hwithin.2 _) (fun late last env hlate => h late last env (hbegun.trans hlate))
          rfl hrun
      exact hfirst.trans hrest

/-- What holds while the loop handles a server status that is settled. -/
structure Absorbing (codecs : Codecs) (machine : Machine) : Prop where
  reachable : (system codecs).Reachable machine
  loop : machine.loop.Ensures semantics Daemon.absorbing (fun _ _ => True) machine.world

theorem nodup_of_reachable (h : (system codecs).Reachable machine) :
    (machine.world.vpnSession.map (·.requestId)).Nodup := by
  obtain ⟨fresh, haccounted⟩ := exists_accounted h
  exact haccounted.kept.nodup

/-- An operation of the loop changes nothing, and then the loop goes on. -/
theorem Absorbing.loop_step {env : Env} {after : Machine} (h : Absorbing codecs machine)
    (hstep : step codecs machine (.loop env) = some after) :
    machine.world.SameSession after.world ∧ Absorbing codecs after := by
  have hmoved : (system codecs).step machine (.loop env) = some after := hstep
  have hreachable : (system codecs).Reachable after := h.reachable.step hmoved
  cases steps_of_step hstep with
  | loop hprogram hallowed =>
      have hloop := h.loop
      rw [hprogram] at hloop
      obtain ⟨hsame, hrest⟩ := hloop.step (nodup_of_reachable h.reachable)
      exact ⟨hsame, hreachable, hrest⟩

theorem Absorbing.step {label : MachineLabel} {after : Machine} (h : Absorbing codecs machine)
    (hbefore : machine.BeforeNext label) (hstep : Machine.step codecs machine label = some after) :
    Absorbing codecs after := by
  have hothers (haside : machine.Aside label) : Absorbing codecs after := by
    refine ⟨h.reachable.step hstep, ?_⟩
    rw [haside.loop_eq hstep]
    exact h.loop.of_rely ⟨unmarked_of_step h.reachable hstep haside.not_loop,
      haside.state_eq h.reachable hstep⟩
  cases label with
  | take | restart => exact hbefore.elim
  | loop env => exact (h.loop_step hstep).2
  | ready | post event | start index | serve | reclaim | job index env => exact hothers trivial

theorem taking_of_repeats {label : MachineLabel} {status : VpnSessionStatus}
    (h : source.Repeats status label) (hstep : step codecs source label = some taken) :
    ∃ rest, taken = source.taking (.vpnSessionStatus status) rest := by
  cases label with
  | take =>
      cases steps_of_step hstep with
      | @take value event rest hloop hqueue hstarted haccepting =>
          obtain ⟨hhead, -⟩ := h
          rw [hqueue] at hhead
          cases hhead
          exact ⟨rest, rfl⟩
  | _ => exact h.elim

/-- A repeated status is absorbed if and only if it is settled when it is taken. -/
theorem absorbs_iff_settled {label : MachineLabel} {target : Machine}
    (h : (system codecs).Reachable source) (hstep : step codecs source label = some target) :
    source.Absorbs codecs label ↔ source.Settled label := by
  constructor
  · intro habsorbs status hrepeats
    obtain ⟨rest, rfl⟩ := taking_of_repeats hrepeats hstep
    let env : Env := Sample.first
    let taken := source.taking (.vpnSessionStatus status) rest
    have hleads : Leads (Daemon.handleVpnSessionStatus status) env taken.world ()
        (taken.world.view.serverStatus status) := handleVpnSessionStatus_leads rfl status
    obtain ⟨_, world, hrun, -, hview, -⟩ := Program.wp.exists_run hleads
    have hsame : taken.world.SameSession world :=
      sameSession_of_run (Daemon.handleVpnSessionStatus_within status)
        (habsorbs status hrepeats _ hstep) rfl hrun
    obtain ⟨hrows, hstatus, hcommands, -⟩ := World.view_eq_iff.mp hview
    have hsettled : taken.world.Settled status := by
      refine World.settled_of_serverStatus ?_ ?_ ?_
      · exact hrows.symm.trans hsame.rows
      · exact hstatus.symm.trans (congrArg DaemonState.vpnStatus hsame.state)
      · exact hcommands.symm.trans hsame.commands
    exact hsettled
  · intro hsettled status hrepeats taken htaken late after env hlate hloop
    obtain ⟨rest, rfl⟩ := taking_of_repeats hrepeats htaken
    have hmoved : (system codecs).step source label =
        some (source.taking (.vpnSessionStatus status) rest) := htaken
    have hbegun : Absorbing codecs (source.taking (.vpnSessionStatus status) rest) :=
      ⟨h.step hmoved, Daemon.handleVpnSessionStatus_absorbed status (hsettled status hrepeats)⟩
    have hlast : Absorbing codecs late :=
      hlate.invariant hbegun fun before label after hstep hbefore habsorbing =>
        habsorbing.step hbefore hstep
    exact (hlast.loop_step hloop).1

/-- A run absorbs the statuses that arrive again if and only if each is settled when it
is taken. -/
theorem obeys_absorbs_iff_settled {machine : Machine} (trace : (system codecs).Trace machine) :
    trace.Obeys (Absorbs codecs) ↔ trace.Obeys Settled := by
  constructor
  · apply TransitionSystem.Trace.obeys_of_obeys (I := (system codecs).Reachable)
    · exact fun state hinit => ⟨.start hinit⟩
    · exact fun source label target hstep habsorbs hreachable =>
        ⟨hreachable.step hstep, (absorbs_iff_settled hreachable hstep).mp habsorbs⟩
  · apply TransitionSystem.Trace.obeys_of_obeys (I := (system codecs).Reachable)
    · exact fun state hinit => ⟨.start hinit⟩
    · exact fun source label target hstep hsettled hreachable =>
        ⟨hreachable.step hstep, (absorbs_iff_settled hreachable hstep).mpr hsettled⟩

/-- The first session's server, created and then running. -/
def created : VpnSessionStatus := .serverCreated ⟨Sample.first.uuid, .replicate 1⟩

def running : VpnSessionStatus := .serverRunning ⟨Sample.first.uuid, .replicate 1⟩

/-- A status arrives and is handled. -/
def arriving (status : VpnSessionStatus) : List MachineLabel :=
  [.post (.vpnSessionStatus status), .take] ++ List.replicate 5 (.loop Sample.first)

/-- `ServerCreated` arrives again after `ServerRunning`. -/
theorem not_forall_obeys_absorbs :
    ¬ ∀ (codecs : Codecs) (machine : Machine) (trace : (system codecs).Trace machine),
      trace.Obeys (Absorbs codecs) := by
  intro h
  obtain ⟨machine, trace, -, hcheck⟩ := (system Sample.codecs).exists_trace_of_run
    (fun _ _ => True) rfl
    (Sample.installing ++ Sample.requesting Sample.first 11 ++ arriving created ++
      arriving running ++ [.post (.vpnSessionStatus created)])
    (fun machine => machine.queue.head? = some (.vpnSessionStatus created) &&
      (machine.world.history.any fun
        | .received status => status = created
        | _ => false) &&
      (step Sample.codecs machine .take).isSome &&
      (VpnSession.currentById Sample.first.uuid machine.world.vpnSession).any fun row =>
        row.serverStatus = some StorageServerStatus.serverRunning.toText)
    (by decide +kernel)
  simp only [Bool.and_eq_true, decide_eq_true_eq] at hcheck
  obtain ⟨⟨⟨hqueue, hhistory⟩, htake⟩, hrow⟩ := hcheck
  obtain ⟨taken, htaken⟩ := Option.isSome_iff_exists.mp htake
  obtain ⟨row, hcurrent, hrunning⟩ := (Option.any_eq_true ..).mp hrow
  have hreceived : .received created ∈ machine.world.history := by
    obtain ⟨happened, hmem, hsame⟩ := List.any_eq_true.mp hhistory
    cases happened with
    | received status => exact of_decide_eq_true hsame ▸ hmem
    | accepted _ | endReply _ _ _ => cases hsame
  have habsorbs : machine.Absorbs Sample.codecs .take := (h _ taken (trace.extend .take htaken)).2
  have hsettled := (absorbs_iff_settled ⟨trace⟩ htaken).mp habsorbs created ⟨hqueue, hreceived⟩
  obtain ⟨hshows, -⟩ := hsettled row hcurrent
  rw [of_decide_eq_true hrunning] at hshows
  exact absurd hshows (by decide)

end Machine

end Modvpn
