/-
# Whose session a tunnel transition is attributed to

A transition carries no session. The handler matches it to the current row, which
is right only while everything outstanding between daemon and tunnel belongs to
that row: the transitions still queued, the commands the tunnel has not read, and
what its phase lets it report next. `outstanding` collects the requests they
belong to; a final `Disconnected` is left out, because it is matched to nobody.
The requests agree with the current row for as long as every session is accepted
at a moment when nothing is outstanding and no row is unmarked.
-/

import Modvpn.Analysis.Daemon.NoPanic

namespace Modvpn

open Modvpn.Protocol
open Entity (VpnSession)

/-! ## Requests outstanding between daemon and tunnel -/

/-- A transition that is matched to the current row. -/
def DaemonEvent.isMatched : DaemonEvent → Bool
  | .tunnelStateTransition .disconnected => false
  | .tunnelStateTransition _ => true
  | _ => false

/-- The requests on whose behalf the tunnel may report without a new command. -/
def Tunnel.reporting (tunnel : Tunnel) : List (Option Uuid) :=
  match tunnel.phase with
  | .disconnected | .disconnecting .nothing => []
  | .disconnecting .reconnect => [tunnel.successor]
  | .connecting | .connected | .error | .disconnecting .block => [tunnel.owner]

/-- The requests of commands to connect. -/
def connecting (commands : List (Tagged TunnelCommand)) : List (Option Uuid) :=
  (commands.filter (·.content = .connect)).map (·.owner)

/-- The requests of transitions that are matched to the current row. -/
def matched (events : List (Tagged DaemonEvent)) : List (Option Uuid) :=
  (events.filter (·.content.isMatched)).map (·.owner)

namespace Tunnel

/-- The requests of the tunnel and of what it was told. -/
def outstanding (tunnel : Tunnel) : List (Option Uuid) :=
  connecting tunnel.inbox ++ tunnel.reporting

/-- What a transition report becomes on the channel. -/
def posted (reports : List (Tagged TunnelStateTransition)) : List (Tagged DaemonEvent) :=
  reports.map fun report => ⟨.tunnelStateTransition report.content, report.owner⟩

@[simp]
theorem matched_posted_nil : matched (posted []) = [] := rfl

@[simp]
theorem matched_posted_singleton (report : Tagged TunnelStateTransition) :
    matched (posted [report]) =
      if (DaemonEvent.tunnelStateTransition report.content).isMatched then [report.owner]
      else [] := by
  simp only [posted, matched, List.map_cons, List.map_nil, List.filter_cons, List.filter_nil]
  split <;> rfl

theorem outstanding_onConnect (tunnel : Tunnel) (owner : Option Uuid) :
    ∀ request ∈ matched (posted (tunnel.onConnect owner).2) ++
      (tunnel.onConnect owner).1.outstanding,
      request = owner ∨ request ∈ tunnel.outstanding := by
  intro request
  unfold onConnect
  split <;> rename_i hphase <;>
    simp [DaemonEvent.isMatched, enter, outstanding, reporting, hphase] <;> tauto

theorem outstanding_onDisconnect (tunnel : Tunnel) (verbose : Bool) :
    ∀ request ∈ matched (posted (tunnel.onDisconnect verbose).2) ++
      (tunnel.onDisconnect verbose).1.outstanding,
      request ∈ tunnel.outstanding := by
  intro request
  unfold onDisconnect
  split <;> rename_i hphase <;> (try split) <;>
    simp [DaemonEvent.isMatched, enter, outstanding, reporting, hphase] <;> tauto

/-- A move involves no request that was not outstanding before. -/
theorem outstanding_of_move {tunnel : Tunnel} {move : TunnelMove}
    {outcome : Tunnel × List (Tagged TunnelStateTransition)}
    (hmove : tunnel.move move = some outcome) :
    ∀ request ∈ matched (posted outcome.2) ++ outcome.1.outstanding,
      request ∈ tunnel.outstanding := by
  cases move with
  | take verbose =>
      simp only [Tunnel.move] at hmove
      split at hmove
      · cases hmove
      · rename_i owner rest hinbox
        cases hmove
        intro request hrequest
        have hknown := outstanding_onConnect _ owner request hrequest
        simpa [outstanding, connecting, reporting, hinbox, or_assoc] using hknown
      · rename_i owner rest hinbox
        cases hmove
        intro request hrequest
        have hknown := outstanding_onDisconnect _ verbose request hrequest
        simpa [outstanding, connecting, reporting, hinbox] using hknown
  | established =>
      simp only [Tunnel.move] at hmove
      split at hmove <;> cases hmove
      rename_i hphase
      simp [DaemonEvent.isMatched, enter, outstanding, reporting, hphase]
  | drop after =>
      simp only [Tunnel.move] at hmove
      split at hmove <;> cases hmove
      rename_i hphase
      intro request
      rcases List.mem_pair.mp hphase.1 with hup | hup <;> cases after <;>
        simp [DaemonEvent.isMatched, enter, outstanding, reporting, hup] <;> tauto
  | fail errorState =>
      simp only [Tunnel.move] at hmove
      split at hmove <;> cases hmove
      rename_i hphase
      rcases List.mem_pair.mp hphase with hup | hup <;>
        simp [DaemonEvent.isMatched, enter, outstanding, reporting, hup]
  | finish errorState =>
      simp only [Tunnel.move] at hmove
      split at hmove <;> cases hmove <;> rename_i hphase <;>
        simp [DaemonEvent.isMatched, enter, outstanding, reporting, hphase]
  | recover =>
      simp only [Tunnel.move] at hmove
      split at hmove <;> cases hmove
      rename_i hphase
      simp [DaemonEvent.isMatched, enter, outstanding, reporting, hphase]

end Tunnel

/-! ## What handling a transition may touch -/

/-- The location of a status the tunnel leads to. -/
def VpnStatus.tunnelLocation : VpnStatus → Option Location
  | .connecting location | .connected location _ | .disconnecting location => some location
  | .accepted _ | .serverCreated _ | .serverRunning _ | .serverReady _ | .disconnected => none

namespace SessionView

variable {env : Env} {view next : SessionView} {event : DaemonEvent}

/-- Between these views nothing happened to any session but that of the request. -/
structure AttributedTo (request : Uuid) (view next : SessionView) : Prop where
  rows : VpnSession.deleteById request.toText next.rows =
    VpnSession.deleteById request.toText view.rows
  status : next.status = view.status ∨ ∀ location,
    next.status.tunnelLocation = some location →
      ∃ row ∈ view.rows, row.requestId = request.toText ∧ row.toLocation = location
  clients : ∃ reported, next.clients = view.clients ++ reported ∧
    ∀ info ∈ reported, info.requestId = request

/-- The event makes the server accept a session. -/
def starts (env : Env) (view : SessionView) : DaemonEvent → Bool
  | .command (.connect _) => view.status = .disconnected && env.newSession.toOption.isSome
  | _ => false

/-- The requests of the rows nobody has claimed. -/
def unclaimed (view : SessionView) : List String :=
  (VpnSession.unmarked view.rows).map (·.requestId)

theorem unclaimed_eq_nil : view.unclaimed = [] ↔ VpnSession.unmarked view.rows = [] :=
  List.map_eq_nil_iff

theorem mem_unclaimed_of_current {row : VpnSession}
    (hrow : VpnSession.current view.rows = some row) : row.requestId ∈ view.unclaimed :=
  List.mem_map_of_mem (List.mem_of_mem_head? hrow)

theorem unclaimed_markCurrent_sublist {rows : List VpnSession} :
    ((VpnSession.unmarked (VpnSession.markCurrent rows)).map (·.requestId)).Sublist
      ((VpnSession.unmarked rows).map (·.requestId)) := by
  unfold VpnSession.markCurrent
  split
  · exact .refl _
  · rw [VpnSession.unmarked_updateById_mark]
    exact (List.filter_sublist ..).map _

/-- An event that does not start a session adds no unmarked row. -/
theorem Handles.unclaimed_sublist (hnext : Handles env view event next)
    (hstarts : view.starts env event = false) :
    next.unclaimed.Sublist view.unclaimed := by
  cases hnext with
  | accepted location accepted hstatus hid hreply =>
      simp [starts, hstatus, hreply, Except.toOption] at hstarts
  | disconnect | shutdown | tunnelError => exact unclaimed_markCurrent_sublist
  | updated | tunnelConnected =>
      simp only [unclaimed, VpnSession.unmarked_updateById_patch,
        VpnSession.requestIds_updateById (VpnSession.patch_requestId · _)]
      exact .refl _
  | deleted =>
      simp only [unclaimed, VpnSession.unmarked_deleteById]
      exact (List.filter_sublist ..).map _
  | _ => exact .refl _

/-- A session that starts brings in its own row. -/
theorem Handles.length_unclaimed_le (hnext : Handles env view event next) :
    next.unclaimed.length ≤ view.unclaimed.length + 1 := by
  cases hstarts : view.starts env event with
  | false => exact (hnext.unclaimed_sublist hstarts).length_le.trans (Nat.le_succ _)
  | true =>
      cases hnext with
      | accepted => simp [unclaimed, accept]
      | notConnected => exact Nat.le_succ _
      | command command hconnect hdisconnect =>
          cases command with
          | connect location => exact absurd rfl (hconnect location)
          | _ => cases hstarts
      | _ => cases hstarts

/-- A command to connect is sent for the row the server is ready for. -/
theorem Handles.cause_of_connect (hnext : Handles env view event next)
    (hsent : .connect ∈ next.commands.drop view.commands.length) :
    ∃ request, Channel.cause event = some request ∧ request.toText ∈ view.unclaimed := by
  cases hnext with
  | updated status row set hrow hset =>
      obtain ⟨hmem, hid⟩ := VpnSession.mem_of_currentById hrow
      exact ⟨_, rfl, hid ▸ List.mem_map_of_mem (VpnSession.mem_unmarked.mpr hmem)⟩
  | disconnect | shutdown =>
      cases hup : view.status.isUp <;> simp [SessionView.disconnect, hup] at hsent
  | _ => simp [accept] at hsent

/-! ## Attribution by the current row -/

variable {request : Uuid} {transition : TunnelStateTransition}

theorem requestId_of_sessionInfo {row : VpnSession} {info : SessionInfo}
    (hinfo : row.sessionInfo = some info) (hid : row.requestId = request.toText) :
    info.requestId = request := by
  simp only [VpnSession.sessionInfo, hid, Uuid.parseStr_toText] at hinfo
  simp only [Option.bind_eq_bind, Option.bind_some, Option.bind_eq_some_iff] at hinfo
  obtain ⟨_, _, _, _, hinfo⟩ := hinfo
  cases hinfo
  rfl

theorem deleteById_markCurrent {rows : List VpnSession}
    (hcurrent : ∀ row, VpnSession.current rows = some row → row.requestId = request.toText) :
    VpnSession.deleteById request.toText (VpnSession.markCurrent rows) =
      VpnSession.deleteById request.toText rows := by
  unfold VpnSession.markCurrent
  split
  · rfl
  · rename_i row hrow
    rw [hcurrent row hrow]
    exact VpnSession.deleteById_updateById VpnSession.mark_requestId

/-- With the current row of the request, a transition touches nothing else. -/
theorem Handles.attributedTo
    (hnext : Handles env view (.tunnelStateTransition transition) next)
    (hcurrent : (DaemonEvent.tunnelStateTransition transition).isMatched = true →
      ∀ row, VpnSession.current view.rows = some row → row.requestId = request.toText) :
    view.AttributedTo request next := by
  have hnobody : ∃ reported, view.clients = view.clients ++ reported ∧
      ∀ info ∈ reported, info.requestId = request := ⟨[], by simp⟩
  cases hnext with
  | tunnelDisconnected | tunnelOrphaned => exact ⟨rfl, .inr nofun, hnobody⟩
  | tunnelConnecting row hrow | tunnelDisconnecting action row hrow =>
      refine ⟨rfl, .inr fun location hlocation => ?_, hnobody⟩
      cases hlocation
      exact ⟨row, (VpnSession.mem_of_current hrow).1, hcurrent rfl row hrow, rfl⟩
  | tunnelConnected row info hrow hinfo =>
      have hid := hcurrent rfl row hrow
      refine ⟨?_, .inr fun location hlocation => ?_, [info], rfl, ?_⟩
      · rw [hid]
        exact VpnSession.deleteById_updateById (VpnSession.patch_requestId · _)
      · cases hlocation
        exact ⟨row, (VpnSession.mem_of_current hrow).1, hid, rfl⟩
      · simpa using requestId_of_sessionInfo hinfo hid
  | tunnelStillDisconnecting => exact ⟨rfl, .inl rfl, hnobody⟩
  | tunnelError errorState =>
      exact ⟨deleteById_markCurrent (hcurrent rfl), .inr nofun, hnobody⟩

end SessionView

/-! ## Whole runs -/

namespace Channel

open SessionView

/-- The requests on whose behalf a transition may still be matched to a row. -/
def outstanding (channel : Channel) : List (Option Uuid) :=
  matched channel.queue ++ channel.tunnel.outstanding

/-- The step is not one that lets the server accept a session while a row is
unmarked or anything of an earlier session is outstanding. -/
def RoundsSeparate (channel : Channel) : ChannelLabel → Prop
  | .handle env => (channel.events.head?.any (channel.world.view.starts env)) = true →
      VpnSession.unmarked channel.world.vpnSession = [] ∧ channel.outstanding = []
  | _ => True

instance : ∀ channel label, Decidable (RoundsSeparate channel label)
  | _, .handle _ => inferInstanceAs (Decidable (_ = true → _ = [] ∧ _ = []))
  | _, .tunnel _ | _, .post _ | _, .forget _ => isTrue trivial

/-- A transition that is handled touches only the session it belongs to. -/
def Attributed (channel : Channel) : ChannelLabel → Prop
  | .handle env => ∀ transition request rest,
      channel.queue = ⟨.tunnelStateTransition transition, some request⟩ :: rest →
      ∀ target, channel.step (.handle env) = some target →
        channel.world.view.AttributedTo request target.world.view
  | _ => True

/-- There is at most one unmarked row, and everything outstanding is its. -/
structure Agree (unclaimed : List String) (outstanding : List (Option Uuid)) : Prop where
  unique : unclaimed.length ≤ 1
  owner : ∀ requestId ∈ unclaimed, ∀ request ∈ outstanding,
    request.map Uuid.toText = some requestId

theorem Agree.mono {unclaimed fewer : List String} {outstanding others : List (Option Uuid)}
    (h : Agree unclaimed outstanding) (hunclaimed : fewer.Sublist unclaimed)
    (houtstanding : ∀ request ∈ others, request ∈ outstanding) : Agree fewer others :=
  ⟨hunclaimed.length_le.trans h.unique, fun requestId hid request hrequest =>
    h.owner requestId (hunclaimed.subset hid) request (houtstanding request hrequest)⟩

/-- The only unmarked row may have more outstanding. -/
theorem Agree.cons {unclaimed : List String} {outstanding : List (Option Uuid)}
    (h : Agree unclaimed outstanding) {request : Uuid} (hrequest : request.toText ∈ unclaimed) :
    Agree unclaimed (some request :: outstanding) := by
  refine ⟨h.unique, fun requestId hid => ?_⟩
  have honly : request.toText = requestId := by
    match unclaimed, h.unique with
    | [only], _ => rw [List.mem_singleton.mp hid, List.mem_singleton.mp hrequest]
  simpa [honly] using h.owner requestId hid

theorem agree_nil {unclaimed : List String} (hunique : unclaimed.length ≤ 1) :
    Agree unclaimed [] :=
  ⟨hunique, nofun⟩

/-- While the loop runs, unmarked rows and outstanding requests agree. -/
def Agrees (channel : Channel) : Prop :=
  channel.loop = .running → Agree channel.world.view.unclaimed channel.outstanding

variable {source target : Channel}

theorem connecting_append (first second : List (Tagged TunnelCommand)) :
    connecting (first ++ second) = connecting first ++ connecting second := by
  simp [connecting]

theorem matched_append (first second : List (Tagged DaemonEvent)) :
    matched (first ++ second) = matched first ++ matched second := by
  simp [matched]

/-- Handling an event adds nothing but the command it sends. -/
theorem mem_outstanding_handled {event : DaemonEvent} {owner request : Option Uuid}
    {rest : List (Tagged DaemonEvent)} {world : World}
    (hqueue : source.queue = ⟨event, owner⟩ :: rest)
    (h : request ∈ (source.handled event rest world).outstanding) :
    request ∈ source.outstanding ∨ (request = cause event ∧
      .connect ∈ world.view.commands.drop source.world.view.commands.length) := by
  simp only [outstanding, Tunnel.outstanding, handled, Tunnel.reporting, connecting_append,
    List.mem_append] at h ⊢
  rcases h with hrest | (hinbox | hsent) | hphase
  · left; left
    rw [hqueue]
    obtain ⟨tagged, htagged, rfl⟩ := List.mem_map.mp hrest
    obtain ⟨hmem, hmatched⟩ := List.mem_filter.mp htagged
    exact List.mem_map_of_mem (List.mem_filter.mpr ⟨List.mem_cons_of_mem _ hmem, hmatched⟩)
  · exact .inl (.inr (.inl hinbox))
  · right
    simp only [connecting, List.filter_map, List.map_map, List.mem_map, List.mem_filter,
      Function.comp, decide_eq_true_eq] at hsent
    obtain ⟨command, ⟨hmem, rfl⟩, rfl⟩ := hsent
    exact ⟨rfl, hmem⟩
  · exact .inl (.inr (.inr hphase))

theorem agrees_of_init {channel : Channel} (hinit : Init channel) : channel.Agrees := by
  intro _
  have hrows : channel.world.view.unclaimed = [] :=
    unclaimed_eq_nil.mpr (VpnSession.unmarked_eq_nil_of_marked hinit.marked)
  exact ⟨by simp [hrows], by simp [hrows]⟩

theorem Moves.agrees {label : ChannelLabel} (hmoves : Moves source label target)
    (hseparate : source.RoundsSeparate label) (h : source.Agrees) : target.Agrees := by
  cases hmoves with
  | post event hevent =>
      have hquiet : event.isMatched = false := by
        cases event with
        | tunnelStateTransition transition => exact absurd rfl (hevent transition)
        | _ => rfl
      intro hloop
      simpa [outstanding, matched, hquiet] using h hloop
  | tunnel move tunnel reports hmove =>
      refine fun hloop => (h hloop).mono (.refl _) fun request hrequest => ?_
      have hknown := Tunnel.outstanding_of_move hmove request
      simp only [outstanding, matched_append, List.append_assoc, List.mem_append] at hrequest ⊢
      rcases hrequest with hqueue | hrequest
      · exact .inl hqueue
      · exact .inr (hknown (List.mem_append.mpr hrequest))
  | handled env event owner rest world hloop hqueue hview hdevice =>
      intro _
      have hsource := h hloop
      cases hstarts : source.world.view.starts env event with
      | true =>
          obtain ⟨hrows, hnothing⟩ := hseparate (by simp [events, hqueue, hstarts])
          have hnobody : source.world.view.unclaimed = [] := unclaimed_eq_nil.mpr hrows
          have hunique := hview.length_unclaimed_le
          rw [hnobody] at hunique
          refine (agree_nil hunique).mono (.refl _) fun request hrequest => ?_
          rcases mem_outstanding_handled hqueue hrequest with hold | ⟨-, hsent⟩
          · rwa [hnothing] at hold
          · obtain ⟨_, -, hmem⟩ := hview.cause_of_connect hsent
            rw [hnobody] at hmem
            cases hmem
      | false =>
          have hrows := hview.unclaimed_sublist hstarts
          by_cases hsent : .connect ∈ world.view.commands.drop
              source.world.view.commands.length
          · obtain ⟨request, hcause, hmem⟩ := hview.cause_of_connect hsent
            refine (hsource.cons hmem).mono hrows fun other hother => ?_
            rcases mem_outstanding_handled hqueue hother with hold | ⟨rfl, -⟩
            · exact List.mem_cons_of_mem _ hold
            · rw [hcause]
              exact List.mem_cons_self ..
          · refine hsource.mono hrows fun other hother => ?_
            rcases mem_outstanding_handled hqueue hother with hold | ⟨-, hconnect⟩
            · exact hold
            · exact absurd hconnect hsent
  | panicked =>
      intro hloop
      cases hloop
  | forget requestId hmarked =>
      intro hloop
      have hrows := VpnSession.unmarked_deleteById_of_marked hmarked
      refine (h hloop).mono ?_ fun _ hrequest => hrequest
      simp only [unclaimed, World.view_rows, hrows]
      exact .refl _

/-- What the daemon leaves behind when it panics is as well attributed. -/
theorem attributedTo_of_abandoned {request : Uuid} {first second : World}
    (h : first.Abandoned second)
    (hcurrent : ∀ row, VpnSession.current first.vpnSession = some row →
      row.requestId = request.toText) :
    first.view.AttributedTo request second.view := by
  obtain ⟨hstate, hspawned, hrows⟩ := h
  refine ⟨?_, .inl (by simp [hstate]), [], by simp [World.view, hspawned], nofun⟩
  rcases hrows with hrows | ⟨row, hrow, hrows⟩
  · simp [hrows]
  · simp only [World.view_rows, hrows, hcurrent row hrow]
    exact VpnSession.deleteById_updateById (VpnSession.patch_requestId · _)

theorem attributed_of_agrees {label : ChannelLabel} (hready : source.IsReady)
    (h : source.Agrees) : source.Attributed label := by
  cases label with
  | post | tunnel | forget => trivial
  | handle env =>
      intro transition request rest hqueue target hstep
      have hcurrent (hloop : source.loop = .running)
          (hmatched : (DaemonEvent.tunnelStateTransition transition).isMatched = true) :
          ∀ row, VpnSession.current source.world.view.rows = some row →
            row.requestId = request.toText := by
        intro row hrow
        have howner := (h hloop).owner row.requestId (mem_unclaimed_of_current hrow)
          (some request) (by simp [outstanding, matched, hqueue, hmatched])
        simpa using howner.symm
      have hmoves : Moves source (.handle env) target := moves_of_system_step hready hstep
      cases hmoves with
      | handled _ event owner others world hloop hhead hview hdevice =>
          obtain ⟨⟨rfl, -⟩, -⟩ : (_ ∧ _) ∧ _ := by simpa [hqueue] using hhead
          exact hview.attributedTo (hcurrent hloop)
      | panicked _ event owner others world hloop hhead hview hworld =>
          obtain ⟨⟨rfl, -⟩, -⟩ : (_ ∧ _) ∧ _ := by simpa [hqueue] using hhead
          refine attributedTo_of_abandoned hworld (hcurrent hloop ?_)
          rcases of_handle_eq_none hview with ⟨action, htransition, -⟩ | ⟨htransition, -⟩ <;>
            cases htransition <;> rfl

/-- In a run in which every session is accepted only once nothing of an earlier
one is outstanding and no row is unmarked, every transition touches only the
session it belongs to. -/
theorem obeys_attributed_of_roundsSeparate {channel : Channel} (trace : system.Trace channel)
    (h : trace.Obeys RoundsSeparate) : trace.Obeys Attributed :=
  TransitionSystem.Trace.obeys_of_obeys (I := fun channel => channel.IsReady ∧ channel.Agrees)
    (fun _ hinit => ⟨isReady_of_init hinit, agrees_of_init hinit⟩)
    (fun _ _ _ hstep hseparate ⟨hready, hagrees⟩ =>
      ⟨⟨isReady_of_step hstep hready,
        (moves_of_system_step hready hstep).agrees hseparate hagrees⟩,
        attributed_of_agrees hready hagrees⟩) h

/-- Two sessions one after the other are such a run. -/
theorem exists_separate_rounds :
    ∃ channel, ∃ trace : system.Trace channel,
      (trace.Obeys RoundsSeparate ∧ channel.world.view.clients.map (·.requestId) =
        [.replicate 10, .replicate 11]) ∧ trace.Obeys Attributed := by
  obtain ⟨channel, trace, hobeys, hcheck⟩ := system.exists_trace_of_run RoundsSeparate
    Sample.init
    (Sample.connecting Sample.first (.replicate 1) ++ Sample.session Sample.first ++
      Sample.connecting Sample.second (.replicate 2) ++ Sample.session Sample.second)
    (fun channel => channel.world.view.clients.map (·.requestId) =
      [.replicate 10, .replicate 11]) (by decide +kernel)
  exact ⟨channel, trace, ⟨hobeys, of_decide_eq_true hcheck⟩,
    obeys_attributed_of_roundsSeparate trace hobeys⟩

/-- A session that is given up and replaced while its tunnel is being built: the
tunnel's `Connected` is taken for the new session, before its server exists. -/
theorem not_forall_attributed :
    ¬ ∀ channel (trace : system.Trace channel), trace.Obeys Attributed := by
  intro h
  obtain ⟨channel, trace, -, hcheck⟩ := system.exists_trace_of_run (fun _ _ => True) Sample.init
    (Sample.connecting Sample.first (.replicate 1) ++
      [.post (.command .disconnect), .tunnel (.take false),
        .post (.command (.connect Sample.location)), .tunnel .established,
        .handle Sample.first, .handle Sample.first, .handle Sample.second])
    (fun channel => channel.queue = [⟨.tunnelStateTransition .connected,
        some (.replicate 10)⟩] ∧ channel.world.view.clients = [] ∧
      (channel.step (.handle Sample.second)).any fun target =>
        target.world.view.clients.any (·.requestId ≠ .replicate 10)) (by decide +kernel)
  obtain ⟨hqueue, hnobody, hany⟩ := of_decide_eq_true hcheck
  obtain ⟨target, hstep, htarget⟩ := (Option.any_eq_true ..).mp hany
  have hlast : system.step channel (.handle Sample.second) = some target := hstep
  have hattributed := (h target (trace.extend _ hlast)).2 _ _ _ hqueue target hstep
  obtain ⟨reported, hclients, hreported⟩ := hattributed.clients
  rw [hnobody, List.nil_append] at hclients
  obtain ⟨info, hinfo, hother⟩ := List.any_eq_true.mp htarget
  simp [hreported info (hclients ▸ hinfo)] at hother

end Channel

end Modvpn
