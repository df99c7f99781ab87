/-
# When the daemon survives its tunnel transitions

`tunnel_state_transition` panics on a `Disconnecting` transition when no row is
unmarked and the status does not say disconnecting either. Whether that can
happen depends on three things that are updated apart from each other: the
status, the mark of the row, and the transitions the tunnel has already posted.

Call a view `covered` when a `Disconnecting` transition would be handled: the
status says disconnecting, or there is an unmarked row and the status says that
the tunnel is up. The invariant follows the queue: as events are handled the
coverage changes by `coverAfter`, every queued `Disconnecting` must find it, and
so must the one that a tunnel which is up may post next.
-/

import Modvpn.Analysis.Daemon.ChannelStep

namespace Modvpn

open Modvpn.Protocol
open Entity (VpnSession)

def VpnStatus.isDisconnecting : VpnStatus → Bool
  | .disconnecting _ => true
  | _ => false

/-- The tunnel reports that it goes down. -/
def DaemonEvent.isDisconnecting : DaemonEvent → Bool
  | .tunnelStateTransition (.disconnecting _) => true
  | _ => false

namespace SessionView

/-- A `Disconnecting` transition handled now finds its session. -/
def covered (view : SessionView) : Bool :=
  view.status.isDisconnecting ||
    (VpnSession.current view.rows).isSome && view.status.isUp

/-- Coverage after an event, as far as the event alone tells. -/
def coverAfter (covered : Bool) : DaemonEvent → Bool
  | .tunnelStateTransition .connecting | .tunnelStateTransition .connected
  | .tunnelStateTransition (.disconnecting _) => true
  | .tunnelStateTransition .disconnected | .tunnelStateTransition (.error _) => false
  | _ => covered

/-- Every `Disconnecting` in the queue is handled under coverage. -/
def AllCovered : Bool → List DaemonEvent → Prop
  | _, [] => True
  | covered, event :: rest =>
      (event.isDisconnecting = true → covered = true) ∧
        AllCovered (coverAfter covered event) rest

/-- Coverage once the queue is empty. -/
def coverFinally (covered : Bool) (queue : List DaemonEvent) : Bool :=
  queue.foldl coverAfter covered

theorem coverAfter_mono {first second : Bool} (h : first ≤ second) (event : DaemonEvent) :
    coverAfter first event ≤ coverAfter second event := by
  unfold coverAfter
  split <;> simp [h]

theorem AllCovered.mono {first second : Bool} (h : first ≤ second) {queue : List DaemonEvent}
    (hqueue : AllCovered first queue) : AllCovered second queue := by
  induction queue generalizing first second with
  | nil => trivial
  | cons event rest ih =>
      exact ⟨fun hevent => h (hqueue.1 hevent), ih (coverAfter_mono h event) hqueue.2⟩

theorem coverFinally_mono {first second : Bool} (h : first ≤ second)
    (queue : List DaemonEvent) : coverFinally first queue ≤ coverFinally second queue := by
  induction queue generalizing first second with
  | nil => exact h
  | cons event rest ih => exact ih (coverAfter_mono h event)

/-- A posted event must find the coverage the queue before it leads to. -/
theorem allCovered_append {covered : Bool} {queue : List DaemonEvent} {event : DaemonEvent} :
    AllCovered covered (queue ++ [event]) ↔ AllCovered covered queue ∧
      (event.isDisconnecting = true → coverFinally covered queue = true) := by
  induction queue generalizing covered with
  | nil => simp [AllCovered, coverFinally]
  | cons head rest ih => simp [AllCovered, ih, coverFinally, and_assoc]

theorem coverFinally_append {covered : Bool} {queue : List DaemonEvent} {event : DaemonEvent} :
    coverFinally covered (queue ++ [event]) = coverAfter (coverFinally covered queue) event := by
  simp [coverFinally]

/-! ## What keeps the coverage -/

/-- Statuses that take a session back to before its server was ready. -/
def regresses : VpnSessionStatus → Bool
  | .failed _ | .ended _ | .serverCreated _ | .serverRunning _ => true
  | .accepted _ | .serverReady _ | .clientConnected _ => false

/-- The conditions under which the daemon survives what follows: a tunnel that
is up has an unmarked row, a session underway is not taken back, and the server
answers for the request it was asked about. -/
def Survivable (env : Env) (view : SessionView) : DaemonEvent → Prop
  | .tunnelStateTransition .connecting | .tunnelStateTransition .connected =>
      VpnSession.current view.rows ≠ none
  | .vpnSessionStatus status => regresses status = true →
      VpnSession.currentById (VpnSessionStorage.getSessionInfo status).requestId
        view.rows ≠ none →
      view.status.isUp = false ∧ view.status.isDisconnecting = false
  | .command (.connect _) =>
      env.newSession.toOption.all (·.requestId = env.uuid) = true
  | _ => True

instance (env : Env) (view : SessionView) : ∀ event, Decidable (Survivable env view event)
  | .tunnelStateTransition .connecting | .tunnelStateTransition .connected =>
      inferInstanceAs (Decidable (_ ≠ none))
  | .vpnSessionStatus _ => inferInstanceAs (Decidable (_ → _ → _ ∧ _))
  | .command (.connect _) => inferInstanceAs (Decidable (_ = true))
  | .tunnelStateTransition .disconnected | .tunnelStateTransition (.disconnecting _)
  | .tunnelStateTransition (.error _) | .shutdown | .command (.accountSignIn _)
  | .command .accountSignOut | .command .disconnect | .command .getVpnStatus
  | .command .getNotifications | .command (.ackNotification _) => isTrue trivial

variable {env : Env} {view next : SessionView} {event : DaemonEvent}

theorem covered_of_status (hstatus : view.status.isDisconnecting = true) :
    view.covered = true := by
  simp [covered, hstatus]

theorem covered_of_row {row : VpnSession} (hrow : row ∈ VpnSession.unmarked view.rows)
    (hstatus : view.status.isUp = true) : view.covered = true := by
  have hcurrent : (VpnSession.current view.rows).isSome := by
    simpa [VpnSession.current] using List.ne_nil_of_mem hrow
  simp [covered, hcurrent, hstatus]

theorem covered_eq_false (hup : view.status.isUp = false)
    (hstatus : view.status.isDisconnecting = false) : view.covered = false := by
  simp [covered, hup, hstatus]

theorem covered_disconnect (h : view.covered = true) : view.disconnect.covered = true := by
  cases hstatus : view.status with
  | serverReady location | connecting location | connected location since
  | disconnecting location =>
      exact covered_of_status (by
        simp [disconnect, hstatus, DaemonState.statusOnDisconnect, VpnStatus.isDisconnecting])
  | accepted | serverCreated | serverRunning | disconnected =>
      simp [covered, hstatus, VpnStatus.isUp, VpnStatus.isDisconnecting] at h

/-- Handling an event leaves at least the coverage the event alone tells. -/
theorem Handles.coverAfter_le (hnext : Handles env view event next)
    (hsurvivable : view.Survivable env event) :
    coverAfter view.covered event ≤ next.covered := by
  cases hnext with
  | notConnected | command | dropped => exact le_rfl
  | tunnelDisconnected | tunnelError => exact Bool.false_le _
  | accepted location accepted hstatus hid hreply =>
      have hfalse : view.covered = false := covered_eq_false (by simp [hstatus, VpnStatus.isUp])
        (by simp [hstatus, VpnStatus.isDisconnecting])
      simp [coverAfter, hfalse]
  | disconnect | shutdown => exact covered_disconnect
  | updated status row set hrow hset =>
      have hmem := VpnSession.mem_unmarked.mpr (VpnSession.mem_of_currentById hrow).1
      have hpatched := VpnSession.patch_mem_unmarked hmem set
      cases status with
      | serverReady serverReady => exact fun _ => covered_of_row hpatched rfl
      | serverCreated | serverRunning =>
          obtain ⟨hup, hstatus⟩ := hsurvivable rfl (by simp [hrow])
          simp [coverAfter, covered_eq_false hup hstatus]
      | accepted | clientConnected =>
          intro hcovered
          rcases Bool.or_eq_true _ _ ▸ hcovered with hstatus | hstatus
          · exact covered_of_status hstatus
          · exact covered_of_row hpatched (Bool.and_eq_true _ _ ▸ hstatus).2
      | failed | ended => cases hset
  | deleted status row hrow hset =>
      have hregresses : regresses status = true := by
        cases status <;> first | rfl | cases hset
      obtain ⟨hup, hstatus⟩ := hsurvivable hregresses (by simp [hrow])
      simp [coverAfter, covered_eq_false hup hstatus]
  | tunnelOrphaned transition htransition hrow =>
      rcases htransition with rfl | rfl <;> exact absurd hrow hsurvivable
  | tunnelConnecting row hrow =>
      have hmem := VpnSession.mem_unmarked.mpr (VpnSession.mem_of_current hrow)
      exact fun _ => covered_of_row hmem rfl
  | tunnelConnected row info hrow hinfo =>
      have hmem := VpnSession.mem_unmarked.mpr (VpnSession.mem_of_current hrow)
      exact fun _ => covered_of_row (VpnSession.patch_mem_unmarked hmem _) rfl
  | tunnelDisconnecting action row hrow => exact fun _ => covered_of_status rfl
  | tunnelStillDisconnecting action location hrow hstatus =>
      exact fun _ => covered_of_status (by simp [hstatus, VpnStatus.isDisconnecting])

/-! ## Accepted rows -/

/-- The server has accepted every session that nobody has claimed. -/
def AllAccepted (view : SessionView) : Prop :=
  ∀ row ∈ VpnSession.unmarked view.rows, row.sessionUuid.isSome

theorem allAccepted_updateById {rows : List VpnSession} {requestId : String}
    {set : VpnSession → VpnSession}
    (h : ∀ row ∈ rows, row.sessionUuid.isSome)
    (hset : ∀ row : VpnSession, row.sessionUuid.isSome → (set row).sessionUuid.isSome) :
    ∀ row ∈ VpnSession.updateById requestId set rows, row.sessionUuid.isSome := by
  simp only [VpnSession.updateById, List.forall_mem_map]
  intro row hrow
  split
  · exact hset row (h row hrow)
  · exact h row hrow

theorem allAccepted_deleteById {rows : List VpnSession} {requestId : String}
    (h : ∀ row ∈ rows, row.sessionUuid.isSome) :
    ∀ row ∈ VpnSession.deleteById requestId rows, row.sessionUuid.isSome :=
  fun row hrow => h row (List.mem_of_mem_filter hrow)

theorem allAccepted_markCurrent {rows : List VpnSession}
    (h : ∀ row ∈ VpnSession.unmarked rows, row.sessionUuid.isSome) :
    ∀ row ∈ VpnSession.unmarked (VpnSession.markCurrent rows), row.sessionUuid.isSome := by
  unfold VpnSession.markCurrent
  split
  · exact h
  · rw [VpnSession.unmarked_updateById_mark]
    exact allAccepted_deleteById h

theorem Handles.allAccepted (hnext : Handles env view event next)
    (hsurvivable : view.Survivable env event) (h : view.AllAccepted) : next.AllAccepted := by
  cases hnext with
  | accepted location accepted hstatus hid hreply =>
      have hsame : accepted.requestId = env.uuid :=
        by simpa [Survivable, hreply, Except.toOption] using hsurvivable
      intro row hrow
      simp only [accept, VpnSession.unmarked_updateById_setAccepted, VpnSession.unmarked_append,
        VpnSession.unmarked_requested] at hrow
      simp only [VpnSession.updateById, List.map_append, List.mem_append, List.map_cons,
        List.map_nil, List.mem_singleton, List.mem_map] at hrow
      rcases hrow with ⟨old, hold, rfl⟩ | rfl
      · split
        · rfl
        · exact h old hold
      · rw [if_pos (by simp [VpnSession.requested, hsame])]
        rfl
  | disconnect | shutdown | tunnelError => exact allAccepted_markCurrent h
  | updated | tunnelConnected =>
      intro row hrow
      rw [VpnSession.unmarked_updateById_patch] at hrow
      refine allAccepted_updateById h ?_ row hrow
      exact fun _ hsession => hsession
  | deleted =>
      intro row hrow
      rw [VpnSession.unmarked_deleteById] at hrow
      exact allAccepted_deleteById h row hrow
  | _ => exact h

/-- A covered `Disconnecting` and an accepted session are all it takes. -/
theorem handle_isSome (hrows : ∀ row ∈ view.rows, row.WellFormed) (h : view.AllAccepted)
    (hcovered : event.isDisconnecting = true → view.covered = true) :
    view.handle env event ≠ none := by
  intro hnone
  rcases of_handle_eq_none hnone with ⟨action, rfl, hrow, hstatus⟩ | ⟨rfl, row, hrow, hinfo⟩
  · have hview := hcovered rfl
    cases hcurrent : view.status <;>
      simp_all [covered, VpnStatus.isDisconnecting]
  · have hmem := VpnSession.mem_of_current hrow
    have hsession := h row (VpnSession.mem_unmarked.mpr hmem)
    obtain ⟨⟨requestId, hrequestId⟩, huuid⟩ := hrows row hmem.1
    obtain ⟨text, htext⟩ := Option.isSome_iff_exists.mp hsession
    obtain ⟨sessionUuid, rfl⟩ := huuid text htext
    simp [VpnSession.sessionInfo, hrequestId, htext] at hinfo

end SessionView

/-! ## What the tunnel posts -/

def TunnelPhase.isUp : TunnelPhase → Bool
  | .connecting | .connected => true
  | _ => false

namespace Tunnel

/-- A tunnel that gave up answers a command to disconnect with `Disconnecting`. -/
def confirmsError (tunnel : Tunnel) (move : TunnelMove) : Bool :=
  move = .take true && tunnel.phase = .error &&
    tunnel.inbox.head?.map (·.content) = some .disconnect

/-- At most one transition is reported. A `Disconnecting` needs permission, and a
tunnel that comes up reports it. -/
def Orderly (wasUp permitted : Bool)
    (outcome : Tunnel × List (Tagged TunnelStateTransition)) : Prop :=
  (outcome.2 = [] ∧ (outcome.1.phase.isUp = true → wasUp = true)) ∨
    ∃ report : Tagged TunnelStateTransition, outcome.2 = [report] ∧
      ((DaemonEvent.tunnelStateTransition report.content).isDisconnecting = true →
        permitted = true) ∧
      (outcome.1.phase.isUp = true →
        report.content = .connecting ∨ report.content = .connected)

theorem Orderly.mono {wasUp permitted more : Bool}
    {outcome : Tunnel × List (Tagged TunnelStateTransition)}
    (h : Orderly wasUp permitted outcome) (hmore : permitted = true → more = true) :
    Orderly wasUp more outcome :=
  h.imp id fun ⟨report, hreport, hdown, hup⟩ =>
    ⟨report, hreport, fun hreported => hmore (hdown hreported), hup⟩

theorem orderly_enter {wasUp permitted : Bool} {tunnel : Tunnel} {phase : TunnelPhase}
    {transition : TunnelStateTransition}
    (hdown : (DaemonEvent.tunnelStateTransition transition).isDisconnecting = true →
      permitted = true)
    (hup : phase.isUp = true → transition = .connecting ∨ transition = .connected) :
    Orderly wasUp permitted (tunnel.enter phase transition) :=
  .inr ⟨⟨transition, tunnel.owner⟩, rfl, hdown, hup⟩

theorem orderly_onConnect (tunnel : Tunnel) (owner : Option Uuid) :
    Orderly tunnel.phase.isUp tunnel.phase.isUp (tunnel.onConnect owner) := by
  unfold onConnect
  split
  · exact orderly_enter nofun fun _ => .inl rfl
  · exact orderly_enter nofun fun _ => .inl rfl
  · rename_i hphase
    exact orderly_enter (fun _ => by simp [hphase, TunnelPhase.isUp]) nofun
  · rename_i hphase
    exact orderly_enter (fun _ => by simp [hphase, TunnelPhase.isUp]) nofun
  · exact .inl ⟨rfl, nofun⟩

theorem orderly_onDisconnect (tunnel : Tunnel) (verbose : Bool) :
    Orderly tunnel.phase.isUp
      (tunnel.phase.isUp || verbose && tunnel.phase = .error)
      (tunnel.onDisconnect verbose) := by
  unfold onDisconnect
  split
  · split
    · exact orderly_enter nofun nofun
    · exact .inl ⟨rfl, fun hup => hup⟩
  · rename_i hphase
    exact orderly_enter (fun _ => by simp [hphase, TunnelPhase.isUp]) nofun
  · rename_i hphase
    exact orderly_enter (fun _ => by simp [hphase, TunnelPhase.isUp]) nofun
  · exact .inl ⟨rfl, nofun⟩
  · rename_i hphase
    split
    · rename_i hverbose
      exact orderly_enter (fun _ => by simp [hphase, hverbose]) nofun
    · exact orderly_enter nofun nofun

theorem orderly_move {tunnel : Tunnel} {move : TunnelMove}
    {outcome : Tunnel × List (Tagged TunnelStateTransition)}
    (hmove : tunnel.move move = some outcome) :
    Orderly tunnel.phase.isUp (tunnel.phase.isUp || tunnel.confirmsError move) outcome := by
  cases move with
  | take verbose =>
      simp only [Tunnel.move] at hmove
      split at hmove
      · cases hmove
      · rename_i owner rest hinbox
        cases hmove
        exact (orderly_onConnect { tunnel with inbox := rest } owner).mono
          fun hup => by simp [show tunnel.phase.isUp = true from hup]
      · rename_i owner rest hinbox
        cases hmove
        refine (orderly_onDisconnect { tunnel with inbox := rest } verbose).mono fun h => ?_
        simpa [confirmsError, hinbox] using h
  | established =>
      simp only [Tunnel.move] at hmove
      split at hmove <;> cases hmove
      exact orderly_enter nofun fun _ => .inr rfl
  | drop after =>
      simp only [Tunnel.move] at hmove
      split at hmove <;> cases hmove
      rename_i hphase
      refine orderly_enter (fun _ => ?_) nofun
      rcases List.mem_pair.mp hphase.1 with hphase | hphase <;>
        simp [hphase, TunnelPhase.isUp]
  | fail errorState =>
      simp only [Tunnel.move] at hmove
      split at hmove <;> cases hmove
      exact orderly_enter nofun nofun
  | finish errorState =>
      simp only [Tunnel.move] at hmove
      split at hmove <;> cases hmove
      · exact orderly_enter nofun nofun
      · exact orderly_enter nofun nofun
      · exact orderly_enter nofun fun _ => .inl rfl
  | recover =>
      simp only [Tunnel.move] at hmove
      split at hmove <;> cases hmove
      exact orderly_enter nofun fun _ => .inl rfl

end Tunnel

/-! ## Whole runs -/

namespace Channel

open SessionView

/-- The events waiting to be handled. -/
def events (channel : Channel) : List DaemonEvent := channel.queue.map (·.content)

/-- The step is not one that sets the daemon up to panic. -/
def Survivable (channel : Channel) : ChannelLabel → Prop
  | .handle env => ∀ event ∈ channel.events.head?, channel.world.view.Survivable env event
  | .tunnel move => channel.tunnel.confirmsError move = false
  | _ => True

instance : ∀ channel label, Decidable (Survivable channel label)
  | channel, .handle env => inferInstanceAs (Decidable (∀ event ∈ channel.events.head?,
      channel.world.view.Survivable env event))
  | _, .tunnel _ => inferInstanceAs (Decidable (_ = false))
  | _, .post _ | _, .forget _ => isTrue trivial

/-- The daemon is alive and ready for every `Disconnecting` that is posted or that
the tunnel may post next. -/
structure Prepared (channel : Channel) : Prop where
  alive : channel.loop ≠ .panicked
  accepted : channel.world.view.AllAccepted
  queue : AllCovered channel.world.view.covered channel.events
  tunnel : channel.tunnel.phase.isUp = true →
    coverFinally channel.world.view.covered channel.events = true

theorem prepared_of_init {channel : Channel} (hinit : Init channel) : channel.Prepared where
  alive := by simp [hinit.loop]
  accepted := by
    intro row hrow
    rw [World.view_rows, VpnSession.unmarked_eq_nil_of_marked hinit.marked] at hrow
    cases hrow
  queue := by simp [events, hinit.queue, AllCovered]
  tunnel := by simp [hinit.tunnel, Tunnel.new, TunnelPhase.isUp]

theorem Moves.prepared {source target : Channel} {label : ChannelLabel}
    (hmoves : Moves source label target) (hready : source.IsReady)
    (hsurvivable : source.Survivable label) (h : source.Prepared) : target.Prepared := by
  cases hmoves with
  | post event hevent =>
      have hkeep : coverAfter (coverFinally source.world.view.covered source.events) event =
          coverFinally source.world.view.covered source.events := by
        cases event with
        | tunnelStateTransition transition => exact absurd rfl (hevent transition)
        | _ => rfl
      have hquiet : event.isDisconnecting = false := by
        cases event with
        | tunnelStateTransition transition => exact absurd rfl (hevent transition)
        | _ => rfl
      refine ⟨h.alive, h.accepted, ?_, fun hup => ?_⟩
      · simpa [events, allCovered_append, hquiet] using h.queue
      · simpa [events, coverFinally_append] using hkeep.trans (h.tunnel hup)
  | tunnel move tunnel reports hmove =>
      rcases Tunnel.orderly_move hmove with ⟨hnone, hup⟩ | ⟨report, hreport, hdown, hup⟩
      · obtain rfl : reports = [] := hnone
        refine ⟨h.alive, h.accepted, ?_, fun htarget => ?_⟩
        · simpa [events] using h.queue
        · simpa [events] using h.tunnel (hup htarget)
      · obtain rfl : reports = [report] := hreport
        refine ⟨h.alive, h.accepted, ?_, fun htarget => ?_⟩
        · have hcover := fun hdisconnecting => h.tunnel (by
            simpa [show source.tunnel.confirmsError move = false from hsurvivable] using
              hdown hdisconnecting)
          simpa [events, allCovered_append] using ⟨h.queue, hcover⟩
        · simp only [events, List.map_append, List.map_cons, List.map_nil, coverFinally_append]
          rcases hup htarget with hcontent | hcontent <;> rw [hcontent] <;> rfl
  | handled env event owner rest world hloop hqueue hview hdevice =>
      have hevents : source.events = event :: rest.map (·.content) := by
        simp [events, hqueue]
      have hsurvive : source.world.view.Survivable env event := by
        simpa [Channel.Survivable, hevents] using hsurvivable
      have hle := hview.coverAfter_le hsurvive
      have hcovered := h.queue
      have htunnel := h.tunnel
      rw [hevents] at hcovered htunnel
      refine ⟨?_, hview.allAccepted hsurvive h.accepted, hcovered.2.mono hle, fun hup => ?_⟩
      · rw [handled_loop]
        split <;> simp [hloop]
      · exact coverFinally_mono hle _ (htunnel hup)
  | panicked env event owner rest world hloop hqueue hview hworld =>
      have hcovered := h.queue
      simp only [events, hqueue, List.map_cons] at hcovered
      exact absurd hview (handle_isSome (hready h.alive).rows h.accepted hcovered.1)
  | forget requestId hmarked =>
      have hrows := VpnSession.unmarked_deleteById_of_marked hmarked
      refine ⟨h.alive, ?_, ?_, ?_⟩
      · simpa only [AllAccepted, World.view_rows, hrows] using h.accepted
      · simpa only [covered, VpnSession.current, World.view_rows, World.view_status, hrows,
          events] using h.queue
      · simpa only [covered, VpnSession.current, World.view_rows, World.view_status, hrows,
          events] using h.tunnel

/-- In a run whose steps are all survivable the daemon never panics, whatever the
interleaving of commands, server statuses and tunnel transitions. -/
theorem visits_alive_of_survivable {channel : Channel} (trace : system.Trace channel)
    (h : trace.Obeys Survivable) : trace.Visits fun channel => channel.loop ≠ .panicked := by
  have hvisits : trace.Visits fun channel => channel.IsReady ∧ channel.Prepared :=
    TransitionSystem.Trace.visits_of_obeys
      (fun _ hinit => ⟨isReady_of_init hinit, prepared_of_init hinit⟩)
      (fun _ _ _ hstep hsurvivable ⟨hready, hprepared⟩ =>
        ⟨isReady_of_step hstep hready,
          (moves_of_system_step hready hstep).prepared hready hsurvivable hprepared⟩) h
  exact hvisits.mono fun _ hchannel => hchannel.2.alive

/-- A session from connecting to disconnected is such a run. -/
theorem exists_survivable_session :
    ∃ channel, ∃ trace : system.Trace channel,
      (trace.Obeys Survivable ∧ channel.world.tunnelCommands = [.connect, .disconnect]) ∧
        trace.Visits fun channel => channel.loop ≠ .panicked := by
  obtain ⟨channel, trace, hobeys, hcheck⟩ := system.exists_trace_of_run Survivable Sample.init
    (Sample.connecting Sample.first (.replicate 1) ++
      [.tunnel (.take false), .handle Sample.first, .tunnel .established,
        .handle Sample.first, .post (.command .disconnect), .handle Sample.first,
        .tunnel (.take false), .tunnel (.finish ⟨"none"⟩), .handle Sample.first,
        .handle Sample.first])
    (fun channel => channel.world.tunnelCommands = [.connect, .disconnect]) (by decide +kernel)
  exact ⟨channel, trace, ⟨hobeys, of_decide_eq_true hcheck⟩,
    visits_alive_of_survivable trace hobeys⟩

/-- A disconnect overtaken by the tunnel's `Connecting`: no row is unmarked any
more, the status becomes disconnected, and the `Disconnecting` that the command
causes is fatal. -/
theorem not_forall_alive :
    ¬ ∀ channel, system.Reachable channel → channel.loop ≠ .panicked := by
  intro h
  obtain ⟨channel, trace, -, hcheck⟩ := system.exists_trace_of_run (fun _ _ => True) Sample.init
    (Sample.connecting Sample.first (.replicate 1) ++
      [.post (.command .disconnect), .tunnel (.take false), .handle Sample.first,
        .tunnel (.take false), .handle Sample.first, .handle Sample.first])
    (fun channel => channel.loop = .panicked) (by decide +kernel)
  exact h channel ⟨trace⟩ (of_decide_eq_true hcheck)

end Channel

end Modvpn
