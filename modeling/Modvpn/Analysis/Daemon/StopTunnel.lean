/-
# When a disconnect reaches the tunnel

`tunnel_command_on_disconnect` decides from the status in memory. While the last
command was to connect and the tunnel has not reported that it is down, the
status has to say that the tunnel is up, and a disconnect or a shutdown then
sends the command. The events that overwrite the status with something else are
exactly the ones that break this.
-/

import Modvpn.Analysis.Daemon.NoPanic

namespace Modvpn

open Modvpn.Protocol
open Entity (VpnSession)

namespace World

/-- Handling a disconnect, and shutting down, commands the tunnel to disconnect. -/
def SendsDisconnect (world : World) : Prop :=
  ∀ env : Env, env.dbErr = none → ∀ event ∈ [DaemonEvent.command .disconnect, .shutdown],
    ∃ target, (Daemon.handleEvent event).run semantics (fun _ => env) world =
        .returned () target ∧
      target.tunnelCommands = world.tunnelCommands ++ [.disconnect]

theorem exists_disconnected {world : World} {env : Env} (hdb : env.dbErr = none)
    (hready : world.Ready) {event : DaemonEvent}
    (hevent : event ∈ [DaemonEvent.command .disconnect, .shutdown]) :
    ∃ target, (Daemon.handleEvent event).run semantics (fun _ => env) world =
        .returned () target ∧
      target.tunnelCommands = if world.state.vpnStatus.isUp
        then world.tunnelCommands ++ [.disconnect] else world.tunnelCommands := by
  have hleads : Leads (Daemon.handleEvent event) env world () world.view.disconnect := by
    rcases List.mem_pair.mp hevent with rfl | rfl
    · exact onDisconnect_leads hdb hready
    · exact handleShutdown_leads hdb hready
  obtain ⟨_, target, hrun, -, hview, -⟩ := hleads.exists_run
  exact ⟨target, hrun, (World.view_eq_iff.mp hview).2.2.1⟩

/-- It does so exactly if the status says that the tunnel is up. -/
theorem sendsDisconnect_iff {world : World} (hready : world.Ready) :
    world.SendsDisconnect ↔ world.state.vpnStatus.isUp = true := by
  constructor
  · intro h
    have hdb : Sample.first.dbErr = none := rfl
    obtain ⟨target, hrun, hcommands⟩ := h Sample.first hdb _ (List.mem_cons_self ..)
    obtain ⟨final, hfinal, hsent⟩ := exists_disconnected hdb hready (List.mem_cons_self ..)
    obtain rfl : target = final := by
      rw [hrun] at hfinal
      cases hfinal
      rfl
    by_contra hdown
    rw [if_neg hdown, hcommands] at hsent
    simp at hsent
  · intro hup env hdb event hevent
    obtain ⟨target, hrun, hsent⟩ := exists_disconnected hdb hready hevent
    exact ⟨target, hrun, by rw [hsent, if_pos hup]⟩

end World

namespace SessionView

/-- Handling the event leaves a status that says that the tunnel is up, if it did
so before. -/
def KeepsUp (view : SessionView) : DaemonEvent → Prop
  | .tunnelStateTransition .disconnected => False
  | .tunnelStateTransition (.disconnecting _) => VpnSession.current view.rows = none
  | .tunnelStateTransition .connecting | .tunnelStateTransition .connected =>
      VpnSession.current view.rows ≠ none
  | .vpnSessionStatus status => regresses status = true →
      VpnSession.currentById (VpnSessionStorage.getSessionInfo status).requestId
        view.rows = none
  | _ => True

end SessionView

namespace Channel

open SessionView

variable {source target : Channel}

/-- While the tunnel is expected to be up, a disconnect reaches it. -/
def CanStopTunnel (channel : Channel) : Prop :=
  channel.loop = .running → channel.expectUp = true → channel.world.SendsDisconnect

/-- The step does not overwrite the status of a tunnel that is expected to be up. -/
def KeepsUp (channel : Channel) : ChannelLabel → Prop
  | .handle _ => channel.expectUp = true →
      ∀ event ∈ channel.events.head?, channel.world.view.KeepsUp event
  | _ => True

theorem canStopTunnel_iff (hready : source.IsReady) :
    source.CanStopTunnel ↔
      (source.loop = .running → source.expectUp = true →
        source.world.state.vpnStatus.isUp = true) :=
  forall_congr' fun hloop => forall_congr' fun _ =>
    World.sendsDisconnect_iff (hready (by simp [hloop]))

@[simp]
theorem handled_expectUp {event : DaemonEvent} {rest : List (Tagged DaemonEvent)}
    {world : World} : (source.handled event rest world).expectUp =
      expectAfter source.expectUp
        (world.view.commands.drop source.world.view.commands.length) := rfl

@[simp]
theorem expectAfter_nil (expectUp : Bool) : expectAfter expectUp [] = expectUp := rfl

@[simp]
theorem expectAfter_connect (expectUp : Bool) : expectAfter expectUp [.connect] = true := rfl

@[simp]
theorem expectAfter_disconnect (expectUp : Bool) :
    expectAfter expectUp [.disconnect] = false := rfl

/-- Nothing but a server that is ready makes the daemon expect a tunnel. -/
theorem isUp_of_expectAfter {env : Env} {view next : SessionView} {event : DaemonEvent}
    (hnext : Handles env view event next)
    (hexpect : expectAfter false (next.commands.drop view.commands.length) = true) :
    next.status.isUp = true := by
  cases hnext with
  | updated status row set hrow hset =>
      cases status with
      | serverReady serverReady => rfl
      | accepted | serverCreated | serverRunning | clientConnected | failed | ended =>
          simp [isServerReady] at hexpect
  | disconnect | shutdown =>
      cases hup : view.status.isUp <;> simp [SessionView.disconnect, hup] at hexpect
  | _ => simp [accept] at hexpect

/-- The status stays up exactly if the event keeps it, unless the tunnel was told
to disconnect. -/
theorem isUp_iff_keepsUp {env : Env} {view next : SessionView} {event : DaemonEvent}
    (hnext : Handles env view event next) (hup : view.status.isUp = true)
    (hevent : event ≠ .shutdown) :
    (expectAfter true (next.commands.drop view.commands.length) = true →
      next.status.isUp = true) ↔ view.KeepsUp event := by
  cases hnext with
  | notConnected | command => exact iff_of_true (fun _ => hup) trivial
  | dropped status hrow => exact iff_of_true (fun _ => hup) fun _ => hrow
  | accepted location accepted hstatus hid hreply =>
      simp [hstatus, VpnStatus.isUp] at hup
  | disconnect =>
      refine iff_of_true (fun hexpect => ?_) trivial
      simp [SessionView.disconnect, hup] at hexpect
  | shutdown => exact absurd rfl hevent
  | updated status row set hrow hset =>
      cases status with
      | serverReady serverReady => exact iff_of_true (fun _ => rfl) fun hregresses => by cases hregresses
      | accepted | clientConnected => exact iff_of_true (fun _ => hup) fun hregresses => by cases hregresses
      | serverCreated | serverRunning =>
          simp [isServerReady, statusAfter, VpnStatus.isUp, SessionView.KeepsUp, regresses, hrow]
      | failed | ended => cases hset
  | deleted status row hrow hset =>
      have hregresses : regresses status = true := by
        cases status <;> first | rfl | cases hset
      simp [VpnStatus.isUp, SessionView.KeepsUp, hregresses, hrow]
  | tunnelDisconnected => simp [VpnStatus.isUp, SessionView.KeepsUp]
  | tunnelOrphaned transition htransition hrow =>
      rcases htransition with rfl | rfl <;> simp [VpnStatus.isUp, SessionView.KeepsUp, hrow]
  | tunnelConnecting row hrow =>
      exact iff_of_true (fun _ => rfl) (by simp [SessionView.KeepsUp, hrow])
  | tunnelConnected row info hrow hinfo =>
      exact iff_of_true (fun _ => rfl) (by simp [SessionView.KeepsUp, hrow])
  | tunnelDisconnecting action row hrow => simp [VpnStatus.isUp, SessionView.KeepsUp, hrow]
  | tunnelStillDisconnecting action location hrow hstatus =>
      simp [hstatus, VpnStatus.isUp] at hup
  | tunnelError errorState =>
      refine iff_of_true (fun hexpect => ?_) trivial
      simp at hexpect

theorem Moves.canStopTunnel_iff {label : ChannelLabel} (hmoves : Moves source label target)
    (hready : source.IsReady) (h : source.CanStopTunnel) :
    target.CanStopTunnel ↔ source.KeepsUp label := by
  have htarget := hmoves.isReady hready
  rw [Channel.canStopTunnel_iff hready] at h
  rw [Channel.canStopTunnel_iff htarget]
  cases hmoves with
  | post | forget => exact iff_of_true h trivial
  | tunnel move tunnel reports hmove =>
      refine iff_of_true (fun hloop hexpect => h hloop ?_) trivial
      simp only [Bool.and_eq_true] at hexpect
      exact hexpect.1
  | panicked env event owner rest world hloop hqueue hview hworld =>
      refine iff_of_true (by simp) fun _ => ?_
      simp only [events, hqueue, List.map_cons, List.head?_cons, Option.mem_def,
        Option.some.injEq, forall_eq']
      rcases SessionView.of_handle_eq_none hview with
        ⟨action, rfl, hrow, -⟩ | ⟨rfl, row, hrow, -⟩
      · exact hrow
      · intro hnone
        rw [hrow] at hnone
        cases hnone
  | handled env event owner rest world hloop hqueue hview hdevice =>
      simp only [Channel.KeepsUp, events, hqueue, List.map_cons, List.head?_cons,
        Option.mem_def, Option.some.injEq, forall_eq', handled_loop, handled_expectUp,
        handled_world, hloop]
      by_cases hevent : event = .shutdown
      · simp [hevent, SessionView.KeepsUp]
      · cases hexpect : source.expectUp with
        | false =>
            refine iff_of_true (fun _ htarget => ?_) (by simp)
            exact isUp_of_expectAfter hview htarget
        | true =>
            have hiff := isUp_iff_keepsUp hview (h hloop hexpect) hevent
            simpa [hevent] using hiff

/-- Throughout a run a disconnect reaches a tunnel that is expected to be up
exactly if no step of the run overwrites the status of such a tunnel. -/
theorem visits_canStopTunnel_iff {channel : Channel} (trace : system.Trace channel) :
    trace.Visits CanStopTunnel ↔ trace.Obeys KeepsUp :=
  TransitionSystem.Trace.visits_iff_obeys
    (fun _ hinit => ⟨isReady_of_init hinit, fun _ hexpect => by simp [hinit.expectUp] at hexpect⟩)
    (fun _ _ _ hstep hready => isReady_of_step hstep hready)
    (fun _ _ _ hstep hready h => (moves_of_system_step hready hstep).canStopTunnel_iff hready h)
    trace

/-- A tunnel that reconnects on its own reports `Disconnecting`, and a disconnect
requested in that moment is not passed on. -/
theorem not_forall_canStopTunnel :
    ¬ ∀ channel, system.Reachable channel → channel.CanStopTunnel := by
  intro h
  obtain ⟨channel, trace, -, hcheck⟩ := system.exists_trace_of_run (fun _ _ => True) Sample.init
    (Sample.connecting Sample.first (.replicate 1) ++
      [.tunnel (.take false), .handle Sample.first, .tunnel .established,
        .handle Sample.first, .tunnel (.drop .reconnect), .handle Sample.first])
    (fun channel => channel.loop = .running ∧ channel.expectUp = true ∧
      channel.world.state.vpnStatus.isUp = false) (by decide +kernel)
  obtain ⟨hloop, hexpect, hdown⟩ := of_decide_eq_true hcheck
  have hready : channel.IsReady := TransitionSystem.Reachable.invariant system
    (fun _ hinit => isReady_of_init hinit) (fun _ _ _ hstep => isReady_of_step hstep) ⟨trace⟩
  have hup := (Channel.canStopTunnel_iff hready).mp (h channel ⟨trace⟩) hloop hexpect
  simp [hdown] at hup

end Channel

end Modvpn
