/-
# No watcher is orphaned

Every watcher that was ever started has the sender of its shutdown channel in the
service's table, under its request id, or its channel is resolved. The end of a session
and a connected client resolve the channels of all watchers of that session, and when
the service is gone the channels of all watchers are resolved.
-/

import Modvpn.Daemon.SessionService

namespace Modvpn

open Modvpn.Protocol

/-- The session whose watcher the command stops. -/
def VpnSessionCommand.stops : VpnSessionCommand → Option Uuid
  | .endSession request => some request.requestId
  | .clientConnected request => some request.requestId
  | .newSession _ | .listLocations | .shutdown => none

namespace VpnSessionService

/-- Watchers have channels that were created under their request ids, and a service that
is gone holds no sender. -/
structure Attended (service : VpnSessionService) : Prop where
  accounted : service.watcherShutdownTxs.Accounted
  created : ∀ task ∈ service.watchers,
    service.watcherShutdownTxs.keys[task.shutdownRx]? = some task.requestId
  gone : service.phase ≠ .running → service.watcherShutdownTxs.table = []

variable {service source target : VpnSessionService} {task : WatcherTask}

theorem attended_new : new.Attended := ⟨Senders.accounted_empty, nofun, nofun⟩

/-! ## What one command does -/

theorem Attended.drop (h : service.Attended) (phase : TaskPhase) :
    (service.drop phase).Attended where
  accounted := h.accounted.dropAll
  created task htask := by
    rw [← h.created task htask]
    exact congrArg (·[task.shutdownRx]?) Senders.keys_dropAll
  gone _ := rfl

theorem Attended.startWatcher (h : service.Attended) (hrunning : service.phase = .running)
    (request : VpnSessionStatusRequest) : (service.startWatcher request).Attended where
  accounted := h.accounted.insert
  created task htask := by
    have hkeys : (service.startWatcher request).watcherShutdownTxs.keys =
        service.watcherShutdownTxs.keys ++ [request.requestId] := Senders.keys_insert
    rw [hkeys]
    rcases List.mem_append.mp htask with hold | hnew
    · have hcreated := h.created task hold
      obtain ⟨hindex, -⟩ := List.getElem?_eq_some_iff.mp hcreated
      rw [List.getElem?_append_left hindex]
      exact hcreated
    · rw [List.mem_singleton.mp hnew]
      have hlength : service.watcherShutdownTxs.channels.length =
          service.watcherShutdownTxs.keys.length := by simp [Senders.keys]
      simp only [hlength, List.getElem?_concat_length]
      rfl
  gone hgone := absurd hrunning hgone

theorem Attended.stopWatcher (h : service.Attended) (hrunning : service.phase = .running)
    (requestId : Uuid) : (service.stopWatcher requestId).Attended where
  accounted := h.accounted.release
  created task htask := by
    rw [← h.created task htask]
    exact congrArg (·[task.shutdownRx]?) Senders.keys_release
  gone hgone := absurd hrunning hgone

theorem Attended.handleCommand (h : service.Attended) (hrunning : service.phase = .running)
    (command : VpnSessionCommand) (reply : Except VpnSessionError Proto.Accepted) :
    (service.handleCommand command reply).Attended := by
  cases command with
  | newSession newSession =>
      simp only [VpnSessionService.handleCommand, onNewSession]
      split
      · exact h.drop _
      · rename_i accepted _
        cases accepted with
        | error error => exact ⟨h.accounted, h.created, h.gone⟩
        | ok accepted =>
            have hstarted := h.startWatcher hrunning {
              requestId := newSession.requestId
              vpnSessionUuid := accepted.vpnSessionUuid
              deviceUniqueId := newSession.deviceUniqueId }
            exact ⟨hstarted.accounted, hstarted.created, hstarted.gone⟩
  | endSession endSession =>
      have hstopped := h.stopWatcher hrunning endSession.requestId
      exact ⟨hstopped.accounted, hstopped.created, hstopped.gone⟩
  | clientConnected clientConnected =>
      have hstopped := h.stopWatcher hrunning clientConnected.requestId
      exact ⟨hstopped.accounted, hstopped.created, hstopped.gone⟩
  | listLocations | shutdown => exact ⟨h.accounted, h.created, h.gone⟩

theorem Attended.step {label : SessionServiceLabel} (h : source.Attended)
    (hstep : VpnSessionService.step source label = some target) : target.Attended := by
  cases label with
  | recv command reply =>
      simp only [VpnSessionService.step] at hstep
      split at hstep
      · rename_i hrunning
        cases hstep
        have hhandled := h.handleCommand hrunning command reply
        simp only [onCommand]
        split
        · exact hhandled.drop _
        · exact hhandled
      · cases hstep
  | closed =>
      simp only [VpnSessionService.step] at hstep
      split at hstep
      · cases hstep
        exact h.drop _
      · cases hstep
  | watcherEnds index how =>
      simp only [VpnSessionService.step] at hstep
      split at hstep
      · cases hstep
      · rename_i task htask
        split at hstep
        · cases hstep
          refine ⟨h.accounted, fun other hother => ?_, h.gone⟩
          rcases List.mem_or_eq_of_mem_set hother with hmem | rfl
          · exact h.created other hmem
          · exact h.created task (List.mem_of_getElem? htask)
        · cases hstep

theorem attended_of_reachable (h : system.Reachable service) : service.Attended := by
  refine TransitionSystem.Reachable.invariant system (I := Attended) ?_ ?_ h
  · rintro _ rfl
    exact attended_new
  · exact fun _ _ _ hstep hsource => hsource.step hstep

/-! ## What it means for the watchers -/

theorem Attended.exists_channel (h : service.Attended) (htask : task ∈ service.watchers) :
    ∃ channel, service.watcherShutdownTxs.channels[task.shutdownRx]? = some channel ∧
      channel.key = task.requestId := by
  have hcreated := h.created task htask
  rw [Senders.keys, List.getElem?_map] at hcreated
  exact Option.map_eq_some_iff.mp hcreated

theorem Attended.resolved_or_held (h : service.Attended) (htask : task ∈ service.watchers) :
    service.watcherShutdownTxs.Resolved task.shutdownRx ∨
      (task.requestId, task.shutdownRx) ∈ service.watcherShutdownTxs.table := by
  obtain ⟨channel, hchannel, hkey⟩ := h.exists_channel htask
  rw [← hkey]
  exact (h.accounted.held _ channel hchannel).imp_left fun hresolved =>
    ⟨channel, hchannel, hresolved⟩

/-- A command that stops the watcher of a session leaves none of its senders. -/
theorem not_mem_of_stops {command : VpnSessionCommand}
    {reply : Except VpnSessionError Proto.Accepted} {requestId : Uuid}
    (hstep : VpnSessionService.step source (.recv command reply) = some target)
    (hstops : command.stops = some requestId) :
    requestId ∉ target.watcherShutdownTxs.table.map (·.1) := by
  simp only [VpnSessionService.step] at hstep
  split at hstep
  · cases hstep
    have hstopped : requestId ∉ (source.watcherShutdownTxs.removeAndSend requestId).table.map (·.1) :=
      Senders.not_mem_release
    cases command with
    | newSession _ | listLocations | shutdown => cases hstops
    | endSession _ | clientConnected _ =>
        cases hstops
        simp only [onCommand]
        split
        · exact List.not_mem_nil
        · exact hstopped
  · cases hstep

/-- Each watcher has its sender in the table or its channel is resolved, also a watcher
that has ended by itself. After the end of a session or a connected client was handled
the request id is not in the table and the channels of its watchers are resolved. When
the service is gone, after a shutdown, when nobody is left to send it commands, or in a
panic, the channels of all watchers are resolved. -/
theorem watchers_resolved_or_held :
    (∀ service, system.Reachable service → ∀ task ∈ service.watchers,
      service.watcherShutdownTxs.Resolved task.shutdownRx ∨
        (task.requestId, task.shutdownRx) ∈ service.watcherShutdownTxs.table) ∧
    (∀ source target command reply requestId, system.Reachable source →
      step source (.recv command reply) = some target → command.stops = some requestId →
      requestId ∉ target.watcherShutdownTxs.table.map (·.1) ∧
        ∀ task ∈ target.watchers, task.requestId = requestId →
          target.watcherShutdownTxs.Resolved task.shutdownRx) ∧
    (∀ service, system.Reachable service → service.phase ≠ .running →
      ∀ task ∈ service.watchers, service.watcherShutdownTxs.Resolved task.shutdownRx) := by
  refine ⟨?_, ?_, ?_⟩
  · intro service hreachable task htask
    exact (attended_of_reachable hreachable).resolved_or_held htask
  · intro source target command reply requestId hreachable hstep hstops
    have hsource := attended_of_reachable hreachable
    have hfree := not_mem_of_stops hstep hstops
    refine ⟨hfree, ?_⟩
    rintro task htask rfl
    refine ((hsource.step hstep).resolved_or_held htask).resolve_right fun hmem => ?_
    exact hfree (List.mem_map_of_mem hmem)
  · intro service hreachable hgone task htask
    have hattended := attended_of_reachable hreachable
    refine (hattended.resolved_or_held htask).resolve_right fun hmem => ?_
    rw [hattended.gone hgone] at hmem
    cases hmem

/-! ## Two sessions, one of them asked for twice -/

/-- The server accepts a session. -/
def accepting (id : Uuid) : SessionServiceLabel :=
  .recv (.newSession { requestId := id, deviceUniqueId := .replicate 0, locationCode := "x" })
    (.ok { requestId := id.toText, vpnSessionUuid := id.toText })

def ending (id : Uuid) : SessionServiceLabel :=
  .recv (.endSession {
    requestId := id
    deviceUniqueId := .replicate 0
    vpnSessionUuid := id
    reason := "client disconnected" }) (.error .vpnSessionServiceDown)

/-- Two sessions, the first one asked for again; then the second ends. -/
def sessions : List SessionServiceLabel :=
  [accepting (.replicate 1), accepting (.replicate 2), accepting (.replicate 1)]

theorem exists_resolved :
    (∃ source target, system.Reachable source ∧
      step source (ending (.replicate 2)) = some target ∧ target.watchers.length = 3 ∧
      Uuid.replicate 2 ∉ target.watcherShutdownTxs.table.map (·.1)) ∧
    ∃ service, system.Reachable service ∧ service.phase = .returned ∧
      service.watchers.length = 3 ∧
      ∀ task ∈ service.watchers, service.watcherShutdownTxs.Resolved task.shutdownRx := by
  refine ⟨?_, ?_⟩
  · obtain ⟨source, trace, -, hcheck⟩ := system.exists_trace_of_run (fun _ _ => True) rfl sessions
      (fun source => (step source (ending (.replicate 2))).any (·.watchers.length = 3))
      (by decide +kernel)
    rw [Option.any_eq_true] at hcheck
    obtain ⟨target, hstep, hlength⟩ := hcheck
    rw [decide_eq_true_eq] at hlength
    exact ⟨source, target, ⟨trace⟩, hstep, hlength,
      (watchers_resolved_or_held.2.1 source target _ _ _ ⟨trace⟩ hstep rfl).1⟩
  · obtain ⟨service, trace, -, hcheck⟩ := system.exists_trace_of_run (fun _ _ => True) rfl
      (sessions ++ [ending (.replicate 2), .recv .shutdown (.error .vpnSessionServiceDown)])
      (fun service => service.phase = .returned && service.watchers.length = 3)
      (by decide +kernel)
    rw [Bool.and_eq_true, decide_eq_true_eq, decide_eq_true_eq] at hcheck
    refine ⟨service, ⟨trace⟩, hcheck.1, hcheck.2, ?_⟩
    exact watchers_resolved_or_held.2.2 service ⟨trace⟩ (by rw [hcheck.1]; nofun)

end VpnSessionService

end Modvpn
