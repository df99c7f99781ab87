/-
# The in-progress guard against the session table

`on_connect_inner` lets a new session in when the status in memory is
`Disconnected`. The guard is sound when that status implies that no row is
unmarked. Every handler keeps this but one: a tunnel that reports `Disconnected`
sets the status and leaves the current row as it is. A daemon run is therefore
sound exactly as long as every such report is handled while no row is unmarked.
-/

import Modvpn.Analysis.Daemon.ChannelStep

namespace Modvpn

open Modvpn.Protocol
open Entity (VpnSession)

namespace SessionView

/-- Whoever may connect finds no unmarked row, and there is never a second one. -/
structure GuardSound (view : SessionView) : Prop where
  idle : view.status = .disconnected → VpnSession.unmarked view.rows = []
  unique : (VpnSession.unmarked view.rows).length ≤ 1

variable {env : Env} {view next : SessionView} {event : DaemonEvent}

theorem guardSound_of_unmarked_eq_nil (h : VpnSession.unmarked view.rows = []) :
    view.GuardSound :=
  ⟨fun _ => h, by simp [h]⟩

/-- Another status that is not `Disconnected` needs no more than one unmarked row. -/
theorem guardSound_of_status_ne (hstatus : view.status ≠ .disconnected)
    (hunique : (VpnSession.unmarked view.rows).length ≤ 1) : view.GuardSound :=
  ⟨fun h => absurd h hstatus, hunique⟩

theorem GuardSound.status_ne (h : view.GuardSound) {row : VpnSession}
    (hrow : row ∈ VpnSession.unmarked view.rows) : view.status ≠ .disconnected := by
  intro hstatus
  simp [h.idle hstatus] at hrow

/-- Deleting the only unmarked row leaves none. -/
theorem GuardSound.unmarked_deleteById (h : view.GuardSound) {row : VpnSession}
    (hrow : row ∈ VpnSession.unmarked view.rows) :
    VpnSession.unmarked (VpnSession.deleteById row.requestId view.rows) = [] := by
  rw [VpnSession.unmarked_deleteById]
  have hunique := h.unique
  cases hrows : VpnSession.unmarked view.rows with
  | nil => simp [hrows] at hrow
  | cons only rest =>
      obtain rfl : rest = [] := by simpa [hrows] using hunique
      obtain rfl : row = only := by simpa [hrows] using hrow
      simp [VpnSession.deleteById]

/-- A server status that keeps its row does not disconnect. -/
theorem status_ne_of_statusUpdate {status : VpnSessionStatus} {set : Entity.VpnSessionPatch}
    {location : Location} {current : VpnStatus} (hset : statusUpdate status = some set)
    (hcurrent : current ≠ .disconnected) :
    (statusAfter location status).getD current ≠ .disconnected := by
  cases status with
  | accepted | clientConnected => exact hcurrent
  | serverCreated | serverRunning | serverReady => exact nofun
  | failed | ended => cases hset

/-- Handling an event keeps the guard sound, except for a tunnel that reports
`Disconnected` while a row is unmarked. -/
theorem Handles.guardSound_iff (hnext : Handles env view event next) (h : view.GuardSound) :
    next.GuardSound ↔
      (event = .tunnelStateTransition .disconnected → VpnSession.unmarked view.rows = []) := by
  cases hnext with
  | tunnelDisconnected =>
      exact ⟨fun hnext _ => hnext.idle rfl, fun hrows => guardSound_of_unmarked_eq_nil (hrows rfl)⟩
  | notConnected | command | dropped | tunnelStillDisconnecting => exact iff_of_true h nofun
  | accepted location accepted hstatus hid hreply =>
      refine iff_of_true (guardSound_of_status_ne nofun ?_) nofun
      simp only [accept, VpnSession.unmarked_updateById_setAccepted,
        VpnSession.length_updateById, VpnSession.unmarked_append, h.idle hstatus,
        VpnSession.unmarked_requested, List.nil_append, List.length_singleton, le_refl]
  | disconnect | shutdown | tunnelError =>
      exact iff_of_true (guardSound_of_unmarked_eq_nil (VpnSession.unmarked_markCurrent h.unique))
        nofun
  | updated status row set hrow hset =>
      have hmem := VpnSession.mem_unmarked.mpr (VpnSession.mem_of_currentById hrow).1
      refine iff_of_true (guardSound_of_status_ne ?_ ?_) nofun
      · exact status_ne_of_statusUpdate hset (h.status_ne hmem)
      · simpa only [VpnSession.unmarked_updateById_patch, VpnSession.length_updateById] using
          h.unique
  | deleted status row hrow hset =>
      have hmem := VpnSession.mem_unmarked.mpr (VpnSession.mem_of_currentById hrow).1
      exact iff_of_true (guardSound_of_unmarked_eq_nil (h.unmarked_deleteById hmem)) nofun
  | tunnelOrphaned transition htransition hrow =>
      refine iff_of_true (guardSound_of_unmarked_eq_nil (VpnSession.current_eq_none.mp hrow)) ?_
      rcases htransition with rfl | rfl <;> exact nofun
  | tunnelConnecting | tunnelDisconnecting =>
      exact iff_of_true (guardSound_of_status_ne nofun h.unique) nofun
  | tunnelConnected row info hrow hinfo =>
      refine iff_of_true (guardSound_of_status_ne nofun ?_) nofun
      simpa only [VpnSession.unmarked_updateById_patch, VpnSession.length_updateById] using
        h.unique

end SessionView

namespace Channel

/-- Between two events the guard is sound. -/
def GuardSound (channel : Channel) : Prop :=
  channel.loop = .running → channel.world.view.GuardSound

/-- The step is not one that handles a report of `Disconnected` while a row is
unmarked. -/
def DisconnectedSettled (channel : Channel) : ChannelLabel → Prop
  | .handle _ => channel.queue.head?.map (·.content) =
      some (.tunnelStateTransition .disconnected) →
      VpnSession.unmarked channel.world.vpnSession = []
  | _ => True

instance : ∀ channel label, Decidable (DisconnectedSettled channel label)
  | channel, .handle _ => inferInstanceAs (Decidable (channel.queue.head?.map (·.content) =
      some (.tunnelStateTransition .disconnected) →
      VpnSession.unmarked channel.world.vpnSession = []))
  | _, .post _ | _, .tunnel _ | _, .forget _ => isTrue trivial

theorem Moves.guardSound_iff {source target : Channel} {label : ChannelLabel}
    (hmoves : Moves source label target) (h : source.GuardSound) :
    target.GuardSound ↔ source.DisconnectedSettled label := by
  cases hmoves with
  | post | tunnel => exact iff_of_true h trivial
  | handled env event owner rest world hloop hqueue hview hdevice =>
      have hiff := hview.guardSound_iff (h hloop)
      simp only [GuardSound, DisconnectedSettled, handled_loop, handled_world, hqueue, hloop,
        List.head?_cons, Option.map_some, Option.some.injEq]
      split
      · rename_i hshutdown
        exact iff_of_true nofun (by simp [hshutdown])
      · simpa using hiff
  | panicked env event owner rest world hloop hqueue hview hworld =>
      refine iff_of_true nofun ?_
      simp only [DisconnectedSettled, hqueue, List.head?_cons, Option.map_some,
        Option.some.injEq]
      rcases SessionView.of_handle_eq_none hview with ⟨action, rfl, -⟩ | ⟨rfl, -⟩ <;> nofun
  | forget requestId hmarked =>
      refine iff_of_true (fun hloop => ?_) trivial
      have hsound := h hloop
      have hrows := VpnSession.unmarked_deleteById_of_marked hmarked
      exact ⟨fun hstatus => hrows.trans (hsound.idle hstatus), hrows ▸ hsound.unique⟩

theorem guardSound_of_init {channel : Channel} (hinit : Init channel) : channel.GuardSound :=
  fun _ => SessionView.guardSound_of_unmarked_eq_nil
    (VpnSession.unmarked_eq_nil_of_marked hinit.marked)

/-- Throughout a run of the daemon the in-progress guard is sound against the
session table exactly if the run never handles a report of `Disconnected` while
a row is unmarked. -/
theorem visits_guardSound_iff {channel : Channel} (trace : system.Trace channel) :
    trace.Visits GuardSound ↔ trace.Obeys DisconnectedSettled :=
  TransitionSystem.Trace.visits_iff_obeys
    (fun _ hinit => ⟨isReady_of_init hinit, guardSound_of_init hinit⟩)
    (fun _ _ _ hstep hready => isReady_of_step hstep hready)
    (fun _ _ _ hstep hready hsound => (moves_of_system_step hready hstep).guardSound_iff hsound)
    trace

/-- The tunnel gives up on one session, the next one is accepted before the tunnel
confirms that it is down, and the confirmation makes the new session invisible to
the guard. -/
theorem not_forall_guardSound :
    ¬ ∀ channel, system.Reachable channel → channel.GuardSound := by
  intro h
  obtain ⟨channel, trace, -, hcheck⟩ := system.exists_trace_of_run (fun _ _ => True) Sample.init
    (Sample.connecting Sample.first (.replicate 1) ++
      [.tunnel (.take false), .handle Sample.first, .tunnel (.fail ⟨"no route"⟩),
        .handle Sample.first, .post (.command (.connect Sample.location)),
        .handle Sample.second, .tunnel (.take false), .handle Sample.second])
    (fun channel => channel.loop = .running ∧ channel.world.state.vpnStatus = .disconnected ∧
      VpnSession.unmarked channel.world.vpnSession ≠ []) (by decide +kernel)
  obtain ⟨hloop, hstatus, hrows⟩ := of_decide_eq_true hcheck
  exact hrows ((h channel ⟨trace⟩ hloop).idle hstatus)

end Channel

end Modvpn
