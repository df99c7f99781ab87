/-
# What one step of the daemon loop can do

Inversion lemmas, one for each operation on the session view and one for each
kind of step of the channel. The arguments about whole runs start from these and
unfold neither the operations nor the handlers.
-/

import Modvpn.Analysis.Daemon.Handling
import Modvpn.Daemon.Channel

namespace Modvpn

open Modvpn.Protocol
open Entity (VpnSession)

/-! ## Operations on the session view -/

namespace SessionView

variable {env : Env} {view next : SessionView} {event : DaemonEvent}

/-- The view after the server accepted a session. -/
def accept (requestId : Uuid) (accepted : Accepted) (location : Location)
    (view : SessionView) : SessionView :=
  { view with
    rows := VpnSession.updateById accepted.requestId.toText
      (.setAccepted accepted.vpnSessionUuid)
      (view.rows ++ [VpnSession.requested requestId location])
    status := .accepted location }

/-- Everything handling an event can do to the view, with the reasons. -/
inductive Handles (env : Env) (view : SessionView) : DaemonEvent → SessionView → Prop
  /-- Refused, or not accepted by the server. -/
  | notConnected (location : Location) : Handles env view (.command (.connect location)) view
  | accepted (location : Location) (accepted : Accepted)
      (hstatus : view.status = .disconnected)
      (hid : VpnSession.hasId env.uuid.toText view.rows = false)
      (hreply : env.newSession = .ok accepted) :
      Handles env view (.command (.connect location)) (view.accept env.uuid accepted location)
  | disconnect : Handles env view (.command .disconnect) view.disconnect
  | shutdown : Handles env view .shutdown view.disconnect
  | command (command : DaemonCommand) (hconnect : ∀ location, command ≠ .connect location)
      (hdisconnect : command ≠ .disconnect) : Handles env view (.command command) view
  /-- About an unknown or a claimed row. -/
  | dropped (status : VpnSessionStatus)
      (hrow : VpnSession.currentById (VpnSessionStorage.getSessionInfo status).requestId
        view.rows = none) :
      Handles env view (.vpnSessionStatus status) view
  | updated (status : VpnSessionStatus) (row : VpnSession) (set : Entity.VpnSessionPatch)
      (hrow : VpnSession.currentById (VpnSessionStorage.getSessionInfo status).requestId
        view.rows = some row)
      (hset : statusUpdate status = some set) :
      Handles env view (.vpnSessionStatus status) { view with
        rows := VpnSession.updateById row.requestId (·.patch set) view.rows
        status := (statusAfter row.toLocation status).getD view.status
        commands :=
          if isServerReady status then view.commands ++ [.connect] else view.commands }
  /-- The server failed to build the session or ended it. -/
  | deleted (status : VpnSessionStatus) (row : VpnSession)
      (hrow : VpnSession.currentById (VpnSessionStorage.getSessionInfo status).requestId
        view.rows = some row)
      (hset : statusUpdate status = none) :
      Handles env view (.vpnSessionStatus status) { view with
        rows := VpnSession.deleteById row.requestId view.rows
        status := .disconnected }
  | tunnelDisconnected :
      Handles env view (.tunnelStateTransition .disconnected)
        { view with status := .disconnected }
  /-- A tunnel that is up without a session to be up for. -/
  | tunnelOrphaned (transition : TunnelStateTransition)
      (htransition : transition = .connecting ∨ transition = .connected)
      (hrow : VpnSession.current view.rows = none) :
      Handles env view (.tunnelStateTransition transition) { view with status := .disconnected }
  | tunnelConnecting (row : VpnSession) (hrow : VpnSession.current view.rows = some row) :
      Handles env view (.tunnelStateTransition .connecting)
        { view with status := .connecting row.toLocation }
  | tunnelConnected (row : VpnSession) (info : SessionInfo)
      (hrow : VpnSession.current view.rows = some row) (hinfo : row.sessionInfo = some info) :
      Handles env view (.tunnelStateTransition .connected) { view with
        rows := VpnSession.updateById row.requestId
          (·.patch (VpnSessionStorage.statusPatch .clientConnected)) view.rows
        status := .connected row.toLocation env.now
        clients := view.clients ++ [info] }
  | tunnelDisconnecting (action : ActionAfterDisconnect) (row : VpnSession)
      (hrow : VpnSession.current view.rows = some row) :
      Handles env view (.tunnelStateTransition (.disconnecting action))
        { view with status := .disconnecting row.toLocation }
  /-- The session is claimed already and its status says so. -/
  | tunnelStillDisconnecting (action : ActionAfterDisconnect) (location : Location)
      (hrow : VpnSession.current view.rows = none)
      (hstatus : view.status = .disconnecting location) :
      Handles env view (.tunnelStateTransition (.disconnecting action)) view
  | tunnelError (errorState : ErrorState) :
      Handles env view (.tunnelStateTransition (.error errorState)) { view with
        rows := VpnSession.markCurrent view.rows
        status := .disconnected
        commands := view.commands ++ [.disconnect] }

theorem connect_handles (env : Env) (location : Location) (view : SessionView) :
    Handles env view (.command (.connect location)) (view.connect env location) := by
  unfold connect
  split
  · exact .notConnected location
  · rename_i hstatus
    split
    · exact .notConnected location
    · rename_i hid
      cases hreply : env.newSession with
      | error err => exact .notConnected location
      | ok accepted =>
          exact .accepted location accepted (not_not.mp hstatus) (by simpa using hid) hreply

theorem serverStatus_handles (env : Env) (status : VpnSessionStatus) (view : SessionView) :
    Handles env view (.vpnSessionStatus status) (view.serverStatus status) := by
  unfold serverStatus
  split
  · rename_i hrow
    exact .dropped status hrow
  · rename_i row hrow
    cases hset : statusUpdate status with
    | some set => exact .updated status row set hrow hset
    | none =>
        cases status <;> cases hset <;> exact .deleted _ row hrow rfl

theorem transition_handles {transition : TunnelStateTransition}
    (hnext : view.transition env.now transition = some next) :
    Handles env view (.tunnelStateTransition transition) next := by
  cases hrow : VpnSession.current view.rows with
  | none =>
      cases transition with
      | disconnected =>
          simp only [SessionView.transition, Option.some.injEq] at hnext
          exact hnext ▸ .tunnelDisconnected
      | connecting =>
          simp only [SessionView.transition, hrow, Option.some.injEq] at hnext
          exact hnext ▸ .tunnelOrphaned _ (.inl rfl) hrow
      | connected =>
          simp only [SessionView.transition, hrow, Option.some.injEq] at hnext
          exact hnext ▸ .tunnelOrphaned _ (.inr rfl) hrow
      | disconnecting action =>
          simp only [SessionView.transition, hrow] at hnext
          split at hnext
          · rename_i location hstatus
            cases hnext
            exact .tunnelStillDisconnecting action location hrow hstatus
          · cases hnext
      | error errorState =>
          simp only [SessionView.transition, Option.some.injEq] at hnext
          exact hnext ▸ .tunnelError errorState
  | some row =>
      cases transition with
      | disconnected =>
          simp only [SessionView.transition, Option.some.injEq] at hnext
          exact hnext ▸ .tunnelDisconnected
      | connecting =>
          simp only [SessionView.transition, hrow, Option.some.injEq] at hnext
          exact hnext ▸ .tunnelConnecting row hrow
      | connected =>
          simp only [SessionView.transition, hrow] at hnext
          split at hnext
          · rename_i info hinfo
            cases hnext
            exact .tunnelConnected row info hrow hinfo
          · cases hnext
      | disconnecting action =>
          simp only [SessionView.transition, hrow, Option.some.injEq] at hnext
          exact hnext ▸ .tunnelDisconnecting action row hrow
      | error errorState =>
          simp only [SessionView.transition, Option.some.injEq] at hnext
          exact hnext ▸ .tunnelError errorState

theorem handles_of_handle (hnext : view.handle env event = some next) :
    Handles env view event next := by
  cases event with
  | shutdown =>
      cases hnext
      exact .shutdown
  | vpnSessionStatus status =>
      cases hnext
      exact serverStatus_handles env status view
  | tunnelStateTransition transition => exact transition_handles hnext
  | command command =>
      cases command with
      | connect location =>
          cases hnext
          exact connect_handles env location view
      | disconnect =>
          cases hnext
          exact .disconnect
      | accountSignIn _ | accountSignOut | getVpnStatus | getNotifications
      | ackNotification _ =>
          cases hnext
          exact .command _ (fun _ => nofun) nofun

/-- Handling an event keeps the stored texts well formed. -/
theorem Handles.wellFormed (hnext : Handles env view event next)
    (h : ∀ row ∈ view.rows, row.WellFormed) : ∀ row ∈ next.rows, row.WellFormed := by
  cases hnext with
  | accepted location accepted =>
      refine VpnSession.wellFormed_updateById ?_ fun _ hrow => hrow.setAccepted _
      simpa [or_imp, forall_and] using ⟨h, VpnSession.wellFormed_requested _ _⟩
  | disconnect | shutdown | tunnelError => exact VpnSession.wellFormed_markCurrent h
  | updated | tunnelConnected =>
      exact VpnSession.wellFormed_updateById h fun _ hrow => hrow.patch _
  | deleted => exact VpnSession.wellFormed_deleteById h
  | _ => exact h

/-- The view does not look at whether the database works. -/
theorem handle_dbSucceeds (env : Env) (event : DaemonEvent) (view : SessionView) :
    view.handle env.dbSucceeds event = view.handle env event := rfl

/-- The two ways an event has no outcome. -/
theorem of_handle_eq_none (hnone : view.handle env event = none) :
    (∃ action, event = .tunnelStateTransition (.disconnecting action) ∧
      VpnSession.current view.rows = none ∧
      ∀ location, view.status ≠ .disconnecting location) ∨
    (event = .tunnelStateTransition .connected ∧
      ∃ row, VpnSession.current view.rows = some row ∧ row.sessionInfo = none) := by
  cases event with
  | shutdown => cases hnone
  | vpnSessionStatus status => cases hnone
  | command command => cases command <;> cases hnone
  | tunnelStateTransition transition =>
      simp only [handle] at hnone
      cases transition with
      | disconnected => simp only [SessionView.transition, reduceCtorEq] at hnone
      | error errorState => simp only [SessionView.transition, reduceCtorEq] at hnone
      | connecting =>
          cases hrow : VpnSession.current view.rows <;>
            simp only [SessionView.transition, hrow, reduceCtorEq] at hnone
      | connected =>
          cases hrow : VpnSession.current view.rows with
          | none => simp only [SessionView.transition, hrow, reduceCtorEq] at hnone
          | some row =>
              simp only [SessionView.transition, hrow] at hnone
              split at hnone
              · cases hnone
              · rename_i hinfo
                exact .inr ⟨rfl, row, rfl, hinfo⟩
      | disconnecting action =>
          cases hrow : VpnSession.current view.rows with
          | some row => simp only [SessionView.transition, hrow, reduceCtorEq] at hnone
          | none =>
              simp only [SessionView.transition, hrow] at hnone
              split at hnone
              · cases hnone
              · rename_i hstatus
                exact .inl ⟨action, rfl, rfl, hstatus⟩

end SessionView

/-! ## Steps of the channel -/

namespace Channel

/-- Everything a step can do to the channel, with the reasons. -/
inductive Moves (source : Channel) : ChannelLabel → Channel → Prop
  | post (event : DaemonEvent)
      (hevent : ∀ transition, event ≠ .tunnelStateTransition transition) :
      Moves source (.post event) { source with queue := source.queue ++ [⟨event, none⟩] }
  | tunnel (move : TunnelMove) (tunnel : Tunnel)
      (reports : List (Tagged TunnelStateTransition))
      (hmove : source.tunnel.move move = some (tunnel, reports)) :
      Moves source (.tunnel move) { source with
        tunnel
        queue := source.queue ++ reports.map fun report =>
          ⟨.tunnelStateTransition report.content, report.owner⟩
        expectUp := source.expectUp && !reportsDown reports }
  | handled (env : Env) (event : DaemonEvent) (owner : Option Uuid)
      (rest : List (Tagged DaemonEvent)) (world : World) (hloop : source.loop = .running)
      (hqueue : source.queue = ⟨event, owner⟩ :: rest)
      (hview : SessionView.Handles env source.world.view event world.view)
      (hdevice : world.device = source.world.device) :
      Moves source (.handle env) (source.handled event rest world)
  | panicked (env : Env) (event : DaemonEvent) (owner : Option Uuid)
      (rest : List (Tagged DaemonEvent)) (world : World) (hloop : source.loop = .running)
      (hqueue : source.queue = ⟨event, owner⟩ :: rest)
      (hview : source.world.view.handle env event = none)
      (hworld : source.world.Abandoned world) :
      Moves source (.handle env) { source with world, queue := rest, loop := .panicked }
  | forget (requestId : String)
      (hmarked : ∀ row ∈ source.world.vpnSession, row.requestId = requestId →
        row.markForDeletion = true) :
      Moves source (.forget requestId) { source with world := { source.world with
        vpnSession := VpnSession.deleteById requestId source.world.vpnSession } }

theorem moves_of_step {source target : Channel} {label : ChannelLabel}
    (hready : source.loop = .running → source.world.Ready)
    (hstep : source.step label = some target) : Moves source label target := by
  cases label with
  | post event =>
      cases event <;> simp only [step, Option.some.injEq, reduceCtorEq] at hstep <;>
        exact hstep ▸ .post _ (fun _ => nofun)
  | tunnel move =>
      simp only [step] at hstep
      split at hstep
      · cases hstep
      · rename_i tunnel reports hmove
        cases hstep
        exact .tunnel move tunnel reports hmove
  | handle env =>
      simp only [step] at hstep
      split at hstep
      · rename_i event owner rest hloop hqueue
        have hdb : env.dbSucceeds.dbErr = none := rfl
        have hhandle := handleEvent_run hdb (hready hloop) event
        rw [SessionView.handle_dbSucceeds] at hhandle
        cases hview : source.world.view.handle env event with
        | some view =>
            rw [hview] at hhandle
            obtain ⟨_, world, hrun, -, hworld, hdevice⟩ := hhandle.exists_run
            rw [hrun] at hstep
            cases hstep
            refine .handled env event owner rest world hloop hqueue ?_ hdevice
            exact hworld ▸ SessionView.handles_of_handle hview
        | none =>
            rw [hview] at hhandle
            obtain ⟨message, world, hrun, hworld⟩ := hhandle
            rw [hrun] at hstep
            cases hstep
            exact .panicked env event owner rest world hloop hqueue hview hworld
      · cases hstep
  | forget requestId =>
      simp only [step] at hstep
      split at hstep
      · rename_i hmarked
        cases hstep
        refine .forget requestId fun row hrow hid => ?_
        simpa [hid] using List.all_eq_true.mp hmarked row hrow
      · cases hstep

/-! ## Readiness -/

section

variable {source target : Channel} {event : DaemonEvent} {rest : List (Tagged DaemonEvent)}
  {world : World}

@[simp]
theorem handled_world : (source.handled event rest world).world = world := rfl

@[simp]
theorem handled_queue : (source.handled event rest world).queue = rest := rfl

@[simp]
theorem handled_loop : (source.handled event rest world).loop =
    if event = .shutdown then .stopped else source.loop := rfl

@[simp]
theorem handled_phase : (source.handled event rest world).tunnel.phase =
    source.tunnel.phase := rfl

/-- A running daemon works on well-formed rows and an initialized device. -/
def IsReady (channel : Channel) : Prop := channel.loop ≠ .panicked → channel.world.Ready

theorem isReady_of_init (hinit : Init source) : source.IsReady :=
  fun _ => ⟨hinit.wellFormed, hinit.device⟩

theorem Moves.isReady {label : ChannelLabel} (hmoves : Moves source label target)
    (hready : source.IsReady) : target.IsReady := by
  cases hmoves with
  | post | tunnel => exact hready
  | handled env event owner rest world hloop hqueue hview hdevice =>
      have hsource := hready (by simp [hloop])
      exact fun _ => ⟨hview.wellFormed hsource.rows, by simpa [hdevice] using hsource.device⟩
  | panicked => exact fun hloop => absurd rfl hloop
  | forget requestId =>
      exact fun hloop => ⟨VpnSession.wellFormed_deleteById (hready hloop).rows,
        (hready hloop).device⟩

/-- A step of the system, seen through the inversion lemma. -/
theorem moves_of_system_step {label : ChannelLabel} (hready : source.IsReady)
    (hstep : system.step source label = some target) : Moves source label target :=
  moves_of_step (fun hloop => hready (by simp [hloop])) hstep

theorem isReady_of_step {label : ChannelLabel}
    (hstep : system.step source label = some target) (hready : source.IsReady) :
    target.IsReady :=
  (moves_of_system_step hready hstep).isReady hready

end

end Channel

end Modvpn
