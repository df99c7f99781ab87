/-
# The handlers compute the session view

While the database works and the device is initialized, handling an event has on
the session view exactly the effect that `SessionView.handle` names, leaves the
device alone, and panics only where that function has no outcome. Everything
that is proved about whole runs of the daemon loop goes through this theorem and
never unfolds a handler again.
-/

import Modvpn.Analysis.Daemon.Rows

namespace Modvpn

open Modvpn.Protocol
open Entity (VpnSession)

/-- Stored texts are well formed and the device is initialized. -/
structure World.Ready (world : World) : Prop where
  rows : ∀ row ∈ world.vpnSession, row.WellFormed
  device : ∃ uniqueId : Uuid, world.device.head?.map (·.uniqueId) = some uniqueId.toText

variable {env : Env} {world : World} {α β : Type}

theorem World.view_eq_iff {view : SessionView} :
    world.view = view ↔ world.vpnSession = view.rows ∧ world.state.vpnStatus = view.status ∧
      world.tunnelCommands = view.commands ∧
      world.spawned.filterMap Task.client = view.clients := by
  cases view
  simp [World.view]

/-- Run from this world, the program returns the value, leaves the view in this
shape, and does not touch the device. -/
def Leads (program : Async α) (env : Env) (world : World) (value : α) (view : SessionView) :
    Prop :=
  program.wp semantics (fun _ => env)
    (fun result target => result = value ∧ target.view = view ∧ target.device = world.device)
    world

theorem Leads.bind {program : Async α} {rest : α → Async β} {value : α} {result : β}
    {middle view : SessionView} (h : Leads program env world value middle)
    (hrest : ∀ next : World, next.view = middle → next.device = world.device →
      Leads (rest value) env next result view) :
    Leads (Program.bind program rest) env world result view := by
  refine (Program.wp_bind program rest world).mpr (h.mono ?_)
  rintro _ next ⟨rfl, hview, hdevice⟩
  simpa only [Leads, hdevice] using hrest next hview hdevice

theorem World.Ready.of_view {next : World} (hready : world.Ready)
    (hrows : ∀ row ∈ next.view.rows, row.WellFormed) (hdevice : next.device = world.device) :
    next.Ready :=
  ⟨hrows, hdevice ▸ hready.device⟩

/-! ## Single statements -/

section Storage

theorem endSession_leads (hdb : env.dbErr = none) (hready : world.Ready) :
    ∃ info, Leads VpnSessionStorage.endSession.run env world (.ok info)
      { world.view with rows := VpnSession.markCurrent world.view.rows } := by
  cases hcurrent : (VpnSession.unmarked world.vpnSession).head? with
  | none =>
      refine ⟨none, ?_⟩
      simp [Leads, VpnSessionStorage.endSession, perform, World.answer, World.statement, hdb,
        hcurrent, VpnSession.markCurrent, VpnSession.current, World.view]
  | some row =>
      have hmem : row ∈ world.vpnSession :=
        List.mem_of_mem_filter (List.mem_of_mem_head? hcurrent)
      obtain ⟨⟨requestId, hrequestId⟩, huuid⟩ := hready.rows row hmem
      cases hsession : row.sessionUuid with
      | none =>
          refine ⟨none, ?_⟩
          simp [Leads, VpnSessionStorage.endSession, perform, World.answer, World.statement,
            hdb, hcurrent, hsession, VpnSession.markCurrent, VpnSession.current, World.view]
      | some text =>
          obtain ⟨sessionUuid, rfl⟩ := huuid text hsession
          refine ⟨some ⟨requestId, sessionUuid⟩, ?_⟩
          simp [Leads, VpnSessionStorage.endSession, perform, World.answer, World.statement,
            hdb, hcurrent, hsession, hrequestId, VpnSession.markCurrent, VpnSession.current,
            World.view]

end Storage

/-! ## Disconnecting -/

section Disconnect

theorem tunnelCommandOnDisconnect_leads :
    Leads Daemon.tunnelCommandOnDisconnect env world () { world.view with
      commands := if world.view.status.isUp then world.view.commands ++ [.disconnect]
        else world.view.commands } := by
  cases hstatus : world.state.vpnStatus <;>
    simp [Leads, Daemon.tunnelCommandOnDisconnect, Daemon.sendTunnelCommand, perform,
      World.answer, hstatus, World.view, VpnStatus.isUp]

theorem daemonEndSession_leads (hdb : env.dbErr = none) (hready : world.Ready)
    (endReason : String) :
    Leads (Daemon.endSession endReason).run env world (.ok ())
      { world.view with rows := VpnSession.markCurrent world.view.rows } := by
  obtain ⟨info, hend⟩ := endSession_leads hdb hready
  simp only [Daemon.endSession, ExceptT.run_bind, ExceptT.run_adapt, Program.map_def,
    Program.bind_def, Program.bind_assoc]
  refine hend.bind fun next hview hdevice => ?_
  simpa [Leads, perform, World.answer, World.view, List.filterMap_cons,
    Task.client] using hview

theorem onDisconnectInner_leads (hdb : env.dbErr = none) (hready : world.Ready)
    (endReason : String) :
    Leads (Daemon.onDisconnectInner endReason).run env world
      (.ok world.view.disconnect.status) world.view.disconnect := by
  simp only [Daemon.onDisconnectInner, ExceptT.run_bind_lift]
  simp only [ExceptT.run_bind, Program.bind_def]
  refine tunnelCommandOnDisconnect_leads.bind fun first hfirst hdevice => ?_
  have hrows : first.view.rows = world.view.rows := by rw [hfirst]
  have hfirstReady := hready.of_view (hrows ▸ hready.rows) hdevice
  refine (daemonEndSession_leads hdb hfirstReady endReason).bind fun second hsecond _ => ?_
  obtain ⟨hrow, hstatus, hsent, hclients⟩ := World.view_eq_iff.mp hsecond
  simp [Leads, perform, World.answer, World.view_eq_iff, SessionView.disconnect, hrow, hstatus,
    hsent, hclients, hfirst]

end Disconnect

/-! ## Connecting -/

section Connect

theorem onConnectInner_leads (hdb : env.dbErr = none) (hready : world.Ready)
    (location : Location) :
    ∃ result, Leads (Daemon.onConnectInner location).run env world result
      (world.view.connect env location) := by
  obtain ⟨uniqueId, hdevice⟩ := hready.device
  by_cases hstatus : world.state.vpnStatus = .disconnected
  · have hfree : world.state.vpnSessionInProgress = none := by simpa using hstatus
    cases hid : VpnSession.hasId env.uuid.toText world.vpnSession with
    | true =>
        refine ⟨.error (.dbErr (.exec "UNIQUE constraint failed: vpn_session.request_id")), ?_⟩
        simp [Leads, Daemon.onConnectInner, VpnSessionStorage.newSession, perform,
          World.answer, World.checked, hdb, hfree, hid, SessionView.connect,
          World.view, hstatus]
    | false =>
        cases hreply : env.newSession with
        | ok accepted =>
            refine ⟨.ok (.accepted location), ?_⟩
            simp [Leads, Daemon.onConnectInner, VpnSessionStorage.newSession,
              DeviceStorage.getDeviceUniqueId, VpnSessionStorage.updateOnAccepted,
              Daemon.modifyState, perform, World.answer, World.checked, World.statement, hdb,
              hfree, hid, hdevice, hreply, SessionView.connect,
              World.view, hstatus]
        | error err =>
            refine ⟨.ok .disconnected, ?_⟩
            simp [Leads, Daemon.onConnectInner, VpnSessionStorage.newSession,
              DeviceStorage.getDeviceUniqueId, VpnSessionStorage.delete,
              Daemon.addNotification, Daemon.modifyState, perform, World.answer,
              World.checked, World.statement, hdb, hfree, hid, hdevice, hreply,
              SessionView.connect, World.view, hstatus,
              VpnSession.deleteById_append_requested location hid]
  · obtain ⟨other, hother⟩ : ∃ other, world.state.vpnSessionInProgress = some other := by
      rw [← Option.ne_none_iff_exists']
      simpa using hstatus
    refine ⟨.error (.anotherVpnSessionInProgress other), ?_⟩
    simp [Leads, Daemon.onConnectInner, perform, World.answer, hother, SessionView.connect,
      World.view, hstatus]

end Connect

/-! ## Server statuses -/

section ServerStatus

theorem handleVpnSessionStatus_leads (hdb : env.dbErr = none) (status : VpnSessionStatus) :
    Leads (Daemon.handleVpnSessionStatus status) env world ()
      (world.view.serverStatus status) := by
  cases hrow : (VpnSession.unmarked world.vpnSession).find?
      (·.requestId = (VpnSessionStorage.getSessionInfo status).requestId.toText) with
  | none =>
      simp [Leads, Daemon.handleVpnSessionStatus, VpnSessionStorage.updatedServerStatus,
        perform, World.answer, World.statement, hdb, hrow, SessionView.serverStatus,
        VpnSession.currentById, World.view]
  | some row =>
      have hid := VpnSession.hasId_of_mem (VpnSession.mem_of_currentById hrow).1.1
      cases status <;>
        simp [Leads, Daemon.handleVpnSessionStatus, VpnSessionStorage.updatedServerStatus,
          Daemon.addNotification, Daemon.setVpnStatus, Daemon.modifyState,
          Daemon.updateTunnelOnNewStatus, Daemon.sendTunnelCommand,
          perform, World.answer, World.statement, World.checked, hdb, hrow, hid,
          SessionView.serverStatus, SessionView.statusUpdate, SessionView.statusAfter,
          SessionView.isServerReady, VpnSession.currentById, World.view]

end ServerStatus

/-! ## Tunnel transitions -/

section Transition

/-- What a handler that panicked left behind: the memory as it was, and at most
the current row reported as connected. -/
def World.Abandoned (source target : World) : Prop :=
  target.state = source.state ∧ target.spawned = source.spawned ∧
    (target.vpnSession = source.vpnSession ∨
      ∃ row, VpnSession.current source.vpnSession = some row ∧
        target.vpnSession = VpnSession.updateById row.requestId
          (·.patch (VpnSessionStorage.statusPatch .clientConnected)) source.vpnSession)

/-- Run from this world, the program panics. -/
def Panics (program : Async α) (env : Env) (world : World) : Prop :=
  ∃ message target, program.run semantics (fun _ => env) world = .panicked message target ∧
    world.Abandoned target

theorem tunnelStateTransition_error_leads (hdb : env.dbErr = none) (world : World)
    (errorState : ErrorState) (currentState : VpnStatus) :
    ∃ id, Leads (VpnSessionStorage.tunnelStateTransition (.error errorState) currentState).run
      env world (.ok (.ofError id errorState env.now)) world.view := by
  cases hrow : (VpnSession.unmarked world.vpnSession).head? with
  | none =>
      refine ⟨"unknown", ?_⟩
      simp [Leads, VpnSessionStorage.tunnelStateTransition, perform, World.answer,
        World.statement, hdb, hrow]
  | some row =>
      refine ⟨"ce-" ++ row.requestId, ?_⟩
      simp [Leads, VpnSessionStorage.tunnelStateTransition, perform, World.answer,
        World.statement, hdb, hrow]

/-- A tunnel that gave up is stopped and its session is ended. -/
theorem handleError_leads (hdb : env.dbErr = none) (hready : world.Ready)
    (errorState : ErrorState) :
    Leads (Daemon.handleTunnelStateTransition (.error errorState)) env world ()
      { world.view with
        rows := VpnSession.markCurrent world.view.rows
        status := .disconnected
        commands := world.view.commands ++ [.disconnect] } := by
  have hread : Leads (perform .readState) env world world.state world.view := ⟨rfl, rfl, rfl⟩
  refine hread.bind fun first hfirst hfirstDevice => ?_
  obtain ⟨id, herror⟩ := tunnelStateTransition_error_leads hdb first errorState
    world.state.vpnStatus
  refine herror.bind fun second hsecond hsecondDevice => ?_
  have hview := World.view_eq_iff.mp (hsecond.trans hfirst)
  have hsecondReady : second.Ready :=
    hready.of_view (hsecond.trans hfirst ▸ hready.rows) (hsecondDevice.trans hfirstDevice)
  simp only [VpnSessionStorage.TunnelTransitionProcessed.ofError, Daemon.sendTunnelCommand,
    Daemon.addNotification, Daemon.modifyState, perform]
  simp only [Leads, World.answer, Program.wp_bind, Program.wp_perform, Program.bind_def,
    Program.perform_bind, Program.pure_bind]
  refine Program.wp.mono (daemonEndSession_leads hdb ?_ _) ?_
  · exact ⟨hsecondReady.rows, hsecondReady.device⟩
  · rintro _ third ⟨-, hthird, hthirdDevice⟩
    obtain ⟨hrow, -, hsent, hclients⟩ := World.view_eq_iff.mp hthird
    obtain ⟨hsecondRow, -, hsecondSent, hsecondClients⟩ := hview
    simp [Daemon.setVpnStatus, Daemon.modifyState, perform, World.answer, World.view_eq_iff,
      hrow, hsent, hclients, hthirdDevice]
    simp [World.view, hsecondRow, hsecondSent, hsecondClients]

theorem handleTunnelStateTransition_run (hdb : env.dbErr = none) (hready : world.Ready)
    (transition : TunnelStateTransition) :
    match world.view.transition env.now transition with
    | some view => Leads (Daemon.handleTunnelStateTransition transition) env world () view
    | none => Panics (Daemon.handleTunnelStateTransition transition) env world := by
  cases hrow : (VpnSession.unmarked world.vpnSession).head? with
  | none =>
      cases transition with
      | disconnected | connecting | connected =>
          simp [Leads, Daemon.handleTunnelStateTransition,
            VpnSessionStorage.tunnelStateTransition,
            VpnSessionStorage.TunnelTransitionProcessed.onlyStatus, Daemon.setVpnStatus,
            Daemon.modifyState, perform, World.answer, World.statement, hdb, hrow,
            SessionView.transition, VpnSession.current, World.view]
      | disconnecting action =>
          cases hstatus : world.state.vpnStatus <;>
            simp [Leads, Panics, World.Abandoned, Daemon.handleTunnelStateTransition,
              VpnSessionStorage.tunnelStateTransition,
              VpnSessionStorage.TunnelTransitionProcessed.onlyStatus, Daemon.setVpnStatus,
              Daemon.modifyState, perform, World.answer, World.statement, hdb, hrow, hstatus,
              SessionView.transition, VpnSession.current, World.view]
      | error errorState => exact handleError_leads hdb hready errorState
  | some row =>
      have hmem := (VpnSession.mem_of_current hrow).1
      obtain ⟨⟨requestId, hrequestId⟩, huuid⟩ := hready.rows row hmem
      have hid := hrequestId ▸ VpnSession.hasId_of_mem hmem
      cases transition with
      | disconnected | connecting | disconnecting action =>
          simp [Leads, Daemon.handleTunnelStateTransition,
            VpnSessionStorage.tunnelStateTransition,
            VpnSessionStorage.TunnelTransitionProcessed.onlyStatus, Daemon.setVpnStatus,
            Daemon.modifyState, perform, World.answer, World.statement, hdb, hrow,
            SessionView.transition, VpnSession.current, World.view]
      | connected =>
          cases hsession : row.sessionUuid with
          | none =>
              simp [Panics, World.Abandoned, Daemon.handleTunnelStateTransition,
                VpnSessionStorage.tunnelStateTransition, Fallible.unwrap,
                VpnSessionStorage.TunnelTransitionProcessed.onlyStatus, Daemon.setVpnStatus,
                Daemon.modifyState, perform, World.answer, World.statement, World.checked, hdb,
                hrow, hid, hrequestId, hsession, SessionView.transition, VpnSession.current,
                VpnSession.sessionInfo, World.view]
          | some text =>
              obtain ⟨sessionUuid, rfl⟩ := huuid text hsession
              simp [Leads, Daemon.handleTunnelStateTransition,
                VpnSessionStorage.tunnelStateTransition,
                VpnSessionStorage.TunnelTransitionProcessed.onlyStatus, Daemon.setVpnStatus,
                Daemon.clientConnected,
                Daemon.modifyState, perform, World.answer, World.statement, World.checked, hdb,
                hrow, hid, hrequestId, hsession, SessionView.transition, VpnSession.current,
                VpnSession.sessionInfo, World.view, Task.client]
      | error errorState => exact handleError_leads hdb hready errorState

end Transition

/-! ## Every event -/

theorem onConnect_leads (hdb : env.dbErr = none) (hready : world.Ready)
    (location : Location) :
    Leads (Daemon.onConnect location) env world () (world.view.connect env location) := by
  have hspawn : Leads (perform (.spawn (.addRecent location))) env world () world.view := by
    simp [Leads, perform, World.answer, World.view, List.filterMap_cons, Task.client]
  refine hspawn.bind fun first hfirst hdevice => ?_
  have hfirstReady := hready.of_view (hfirst ▸ hready.rows) hdevice
  obtain ⟨result, hconnect⟩ := onConnectInner_leads hdb hfirstReady location
  refine (hfirst ▸ hconnect).bind fun second hsecond _ => ?_
  simpa [Leads, perform, World.answer, World.view_eq_iff] using World.view_eq_iff.mp hsecond

theorem onDisconnect_leads (hdb : env.dbErr = none) (hready : world.Ready) :
    Leads Daemon.onDisconnect env world () world.view.disconnect := by
  refine (onDisconnectInner_leads hdb hready "client requested").bind fun first hfirst _ => ?_
  simpa [Leads, perform, World.answer, World.view_eq_iff] using World.view_eq_iff.mp hfirst

theorem handleShutdown_leads (hdb : env.dbErr = none) (hready : world.Ready) :
    Leads Daemon.handleShutdown env world () world.view.disconnect := by
  refine (onDisconnectInner_leads hdb hready "daemon shutdown").bind fun first hfirst _ => ?_
  exact ⟨rfl, hfirst, rfl⟩

theorem onAccountSignIn_leads (userCreds : UserCredentials) :
    Leads (Daemon.onAccountSignIn userCreds) env world () world.view := by
  cases hstatus : world.state.vpnSessionInProgress <;>
    simp [Leads, Daemon.onAccountSignIn, perform, World.answer, hstatus, World.view,
      List.filterMap_cons, Task.client]

theorem onAccountSignOut_leads :
    Leads Daemon.onAccountSignOut env world () world.view := by
  cases hstatus : world.state.vpnSessionInProgress <;>
    simp [Leads, Daemon.onAccountSignOut, perform, World.answer, hstatus, World.view,
      List.filterMap_cons, Task.client]

theorem onAckNotification_leads (id : String) :
    Leads (Daemon.onAckNotification id) env world () world.view := by
  simp [Leads, Daemon.onAckNotification, Daemon.modifyState, perform, World.answer, World.view]

theorem handleEvent_run (hdb : env.dbErr = none) (hready : world.Ready)
    (event : DaemonEvent) :
    match world.view.handle env event with
    | some view => Leads (Daemon.handleEvent event) env world () view
    | none => Panics (Daemon.handleEvent event) env world := by
  cases event with
  | vpnSessionStatus status => exact handleVpnSessionStatus_leads hdb status
  | tunnelStateTransition transition =>
      exact handleTunnelStateTransition_run hdb hready transition
  | shutdown => exact handleShutdown_leads hdb hready
  | command command =>
      cases command with
      | connect location => exact onConnect_leads hdb hready location
      | disconnect => exact onDisconnect_leads hdb hready
      | accountSignIn userCreds => exact onAccountSignIn_leads userCreds
      | accountSignOut => exact onAccountSignOut_leads
      | getVpnStatus => exact ⟨rfl, rfl, rfl⟩
      | getNotifications => exact ⟨rfl, rfl, rfl⟩
      | ackNotification id => exact onAckNotification_leads id

end Modvpn
