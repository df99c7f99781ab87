/-
# One tunnel start for a session

The watchers are reporters that write to the queue of the loop. A watcher gets its key,
the request id, when the loop asks for the session, and it is silent after a status
that ends the watch. So when `ServerReady` is taken from the queue its session is over:
no later status of it is taken. Hence no session is reported ready twice, and the
tunnel is told to connect at most once for each, while its row is unmarked.
-/

import Modvpn.Analysis.Daemon.TunnelStart
import Modvpn.Daemon.Watching
import Modvpn.Protocol.Reporters

namespace Modvpn

open Modvpn.Protocol
open Entity (VpnSession)
open Reporters (Moves Orderly Over)

/-! ## The machine under a step -/

namespace Machine

variable {codecs : Codecs} {source target : Machine}

/-- Events may arrive at any time. -/
theorem reachable_post (h : (system codecs).Reachable source) (events : List DaemonEvent) :
    (system codecs).Reachable { source with queue := source.queue ++ events } := by
  induction events generalizing source with
  | nil =>
      rw [List.append_nil]
      exact h
  | cons event rest ih =>
      have hposted : (system codecs).step source (.post event) =
          some { source with queue := source.queue ++ [event] } := rfl
      have hrest := ih (h.step hposted)
      rw [List.append_assoc] at hrest
      exact hrest

/-- The loop, the queue and the generated ids, while others take steps. -/
theorem Aside.rest_eq {label : MachineLabel} (h : source.Aside label)
    (hpost : ∀ event, label ≠ .post event) (hstep : step codecs source label = some target) :
    target.queue = source.queue ∧ source.issued ⊆ target.issued := by
  have hsame : source.queue = source.queue ∧ source.issued ⊆ source.issued :=
    ⟨rfl, List.Subset.refl _⟩
  cases steps_of_step hstep with
  | restart | take | loop => exact h.elim
  | post event => exact absurd rfl (hpost event)
  | ready | start | serve | reclaim => exact hsame
  | job =>
      rw [settle_queue, settle_issued]
      exact ⟨rfl, subset_issuedAfter _ _ _⟩

end Machine

/-- Sessions an operation asks for. -/
def Op.requests : Op → List NewSession
  | .sendNewSession request => [request]
  | _ => []

/-! ## Watchers as reporters -/

namespace Watched

/-- The session an event is about. -/
def about (event : DaemonEvent) : Option Uuid := session (some event)

/-- A status after which the session is not watched any more. -/
def isFinal : DaemonEvent → Bool
  | .vpnSessionStatus status => status.isEndState
  | _ => false

/-- Sessions that were asked for, and those of which the service may still report. -/
def reporters (asked : List Uuid) (watched : Watched) : Reporters Uuid DaemonEvent where
  opened := asked
  live := watched.commands.map (·.requestId) ++ watched.watchers.map (·.requestId)
  mailbox := watched.machine.queue

/-- What the loop may still do with the event it took. -/
def Starts (asked : List Uuid) (watched : Watched) : Prop :=
  watched.machine.loop.AtMost Op.startsTunnel 0 ∨
    ∃ ready : ServerReady, watched.event = some (.vpnSessionStatus (.serverReady ready)) ∧
      Over about (watched.reporters asked) ready.requestId ∧
      ready.requestId ∉ watched.connects ∧ watched.machine.loop.AtMost Op.startsTunnel 1 ∧
      watched.machine.loop.Ensures semantics (Daemon.starting ready.requestId) (fun _ _ => True)
        watched.machine.world

variable (codecs : Codecs) in
/-- Sessions are asked for with generated ids, each once; and the sessions for which
the tunnel was started are over. -/
structure Attended (asked drawn : List Uuid) (watched : Watched) : Prop where
  reachable : (Machine.system codecs).Reachable watched.machine
  known : asked ⊆ watched.machine.issued
  spare : ∀ id ∈ drawn, id ∈ watched.machine.issued ∧ id ∉ asked
  orderly : Orderly about isFinal (watched.reporters asked)
  asks : Daemon.Asks watched.machine.loop drawn
  connected : ∀ id ∈ watched.connects, Over about (watched.reporters asked) id
  nodup : watched.connects.Nodup
  starts : watched.Starts asked

/-- A step: the invariant goes on, and sessions that are over stay over. -/
def Follows (codecs : Codecs) (asked : List Uuid) (source target : Watched) : Prop :=
  ∃ more drawn, Attended codecs more drawn target ∧
    ∀ id, Over about (source.reporters asked) id → Over about (target.reporters more) id

variable {codecs : Codecs} {asked drawn : List Uuid} {source target : Watched}

/-- A step in which the loop waits. -/
theorem Attended.wait (h : Attended codecs asked drawn source)
    (hreachable : (Machine.system codecs).Reachable target.machine)
    (hloop : target.machine.loop = source.machine.loop)
    (hissued : source.machine.issued ⊆ target.machine.issued)
    (hunmarked : VpnSession.unmarked target.machine.world.vpnSession =
      VpnSession.unmarked source.machine.world.vpnSession)
    (hevent : target.event = source.event) (hconnects : target.connects = source.connects)
    (hmoves : Moves about isFinal (source.reporters asked) (target.reporters asked)) :
    Follows codecs asked source target := by
  have hover (id : Uuid) (hid : Over about (source.reporters asked) id) :
      Over about (target.reporters asked) id := hid.move hmoves
  refine ⟨asked, drawn, ⟨hreachable, fun id hid => hissued (h.known hid),
    fun id hid => ⟨hissued (h.spare id hid).1, (h.spare id hid).2⟩, h.orderly.move hmoves,
    hloop ▸ h.asks, ?_, hconnects ▸ h.nodup, ?_⟩, hover⟩
  · rw [hconnects]
    exact fun id hid => hover id (h.connected id hid)
  · unfold Starts
    rw [hloop, hevent, hconnects]
    rcases h.starts with hnever | ⟨ready, hready, hid, hnew, honce, hensures⟩
    · exact .inl hnever
    · exact .inr ⟨ready, hready, hover _ hid, hnew, honce, Program.Ensures.of_rely hensures hunmarked⟩

/-- The loop is elsewhere: it starts, or takes an event. -/
theorem Attended.enter (h : Attended codecs asked drawn source)
    (hreachable : (Machine.system codecs).Reachable target.machine)
    (hissued : target.machine.issued = source.machine.issued)
    (hconnects : target.connects = source.connects)
    (hmoves : Moves about isFinal (source.reporters asked) (target.reporters asked))
    (hasks : Daemon.Asks target.machine.loop []) (hstarts : target.Starts asked) :
    Attended codecs asked [] target ∧
      ∀ id, Over about (source.reporters asked) id → Over about (target.reporters asked) id := by
  have hover (id : Uuid) (hid : Over about (source.reporters asked) id) :
      Over about (target.reporters asked) id := hid.move hmoves
  refine ⟨⟨hreachable, hissued ▸ h.known, nofun, h.orderly.move hmoves, hasks, ?_,
    hconnects ▸ h.nodup, hstarts⟩, hover⟩
  rw [hconnects]
  exact fun id hid => hover id (h.connected id hid)

/-- The loop takes an event. -/
theorem Attended.take (h : Attended codecs asked drawn source) {machine : Machine}
    (hstep : Machine.step codecs source.machine .take = some machine)
    (htarget : target = { source with machine, event := source.machine.queue.head? }) :
    Attended codecs asked [] target ∧
      ∀ id, Over about (source.reporters asked) id → Over about (target.reporters asked) id := by
  have htaken : (Machine.system codecs).step source.machine .take = some machine := hstep
  have hreachable := h.reachable.step htaken
  have hordered := h.orderly
  cases Machine.steps_of_step hstep with
  | @take value event rest hloop hqueue hstarted haccepting =>
      have hmachine : target.machine = source.machine.taking event rest := by rw [htarget]
      have hmoves : Moves about isFinal (source.reporters asked) (target.reporters asked) := by
        simp only [htarget, reporters, hqueue]
        exact .take
      simp only [reporters, hqueue] at hordered
      apply h.enter (hmachine ▸ hreachable) (by rw [hmachine]; rfl) (by rw [htarget]) hmoves
        (by rw [hmachine]; exact Daemon.handleEvent_asks event)
      subst htarget
      by_cases hready : ∃ ready, event = .vpnSessionStatus (.serverReady ready)
      · obtain ⟨ready, rfl⟩ := hready
        refine .inr ⟨ready, congrArg List.head? hqueue, ?_, ?_, Daemon.handleVpnSessionStatus_atMost _,
          Daemon.handleServerReady_starting ready⟩
        · exact Reporters.over_of_take hordered ⟨rfl, rfl⟩
        · intro hconnected
          have hover := h.connected _ hconnected
          simp only [reporters, hqueue] at hover
          exact hover.none _ (List.mem_cons_self ..) rfl
      · refine .inl (Program.atMost_zero.mpr (Daemon.Spares.never (Daemon.handleEvent_spares ?_)))
        exact fun ready heq => hready ⟨ready, heq⟩

/-- What the service does in an operation. -/
theorem serve_eq_some {env : Env} {op : Op} {served : Watched}
    (h : source.serve env (some op) = some served) :
    served.machine = source.machine ∧ served.watchers = source.watchers ∧
      served.event = source.event ∧ served.commands = source.commands ++ op.requests ∧
      served.connects = source.connects ++
        (if op.startsTunnel then (session source.event).toList else []) := by
  unfold serve at h
  split at h
  · rename_i request heq
    cases heq
    cases h
    simp [Op.requests, Op.startsTunnel]
  · rename_i request heq
    cases heq
    split at h
    · cases h
    · split at h <;> cases h
      simp [Op.requests, Op.startsTunnel]
  · rename_i heq
    cases heq
    cases h
    simp [Op.requests, Op.startsTunnel]
  · rename_i hsend _ hconnect
    cases h
    have hrequests : op.requests = [] := by
      cases op with
      | sendNewSession request => exact absurd rfl (hsend request)
      | _ => rfl
    have hstarts : op.startsTunnel = false := by
      cases op with
      | sendTunnelCommand command =>
          cases command with
          | connect => exact absurd rfl hconnect
          | disconnect => rfl
      | _ => rfl
    simp [hrequests, hstarts]

section Loop

variable {env : Env} {op : Op} {resume : op.Resp → Async Unit}

/-- The ids a program may still ask with, after an operation of the loop. -/
theorem Attended.spare_answer (h : Attended codecs asked drawn source)
    (hallowed : Machine.allowed source.machine.issued env op = true)
    (hduty : ∀ request, op = .sendNewSession request → request.requestId ∈ drawn) (world : World) :
    op.requests.map (·.requestId) ++ asked ⊆ Machine.issuedAfter source.machine.issued env op ∧
      ∀ id ∈ Daemon.drawnAfter drawn op (World.answer op env world).1,
        id ∈ Machine.issuedAfter source.machine.issued env op ∧
          id ∉ op.requests.map (·.requestId) ++ asked := by
  cases op with
  | newUuid =>
      have hnew : env.uuid ∉ source.machine.issued := by simpa [Machine.allowed] using hallowed
      refine ⟨List.subset_cons_of_subset _ h.known, fun id hid => ?_⟩
      rcases List.mem_cons.mp hid with rfl | hid
      · exact ⟨List.mem_cons_self .., fun hasked => hnew (h.known hasked)⟩
      · exact ⟨List.mem_cons_of_mem _ (h.spare id hid).1, (h.spare id hid).2⟩
  | sendNewSession request =>
      refine ⟨List.cons_subset.mpr ⟨(h.spare _ (hduty request rfl)).1, h.known⟩, fun id hid => ?_⟩
      obtain ⟨hmem, hne⟩ := List.mem_filter.mp hid
      refine ⟨(h.spare id hmem).1, fun hasked => ?_⟩
      rcases List.mem_cons.mp hasked with rfl | hasked
      · simp at hne
      · exact (h.spare id hmem).2 hasked
  | _ => exact ⟨h.known, h.spare⟩

/-- To ask for a session opens it, and no other operation of the loop moves anything. -/
theorem Attended.moves_answer (h : Attended codecs asked drawn source)
    (hduty : ∀ request, op = .sendNewSession request → request.requestId ∈ drawn)
    (hcommands : target.commands = source.commands ++ op.requests)
    (hwatchers : target.watchers = source.watchers)
    (hqueue : target.machine.queue = source.machine.queue) :
    Moves about isFinal (source.reporters asked)
      (target.reporters (op.requests.map (·.requestId) ++ asked)) := by
  simp only [reporters, hcommands, hwatchers, hqueue, List.map_append]
  cases op with
  | sendNewSession request =>
      refine .opens (h.spare _ (hduty request rfl)).2 ?_
      simp only [Op.requests, List.map_cons, List.map_nil, List.append_assoc, List.singleton_append]
      exact List.perm_middle
  | _ =>
      simp only [Op.requests, List.map_nil, List.nil_append, List.append_nil]
      exact .close (List.Subperm.refl _)

/-- The loop has performed an operation. -/
theorem Attended.answer (h : Attended codecs asked drawn source)
    (hloop : source.machine.loop = .perform op resume)
    (hallowed : Machine.allowed source.machine.issued env op = true)
    (hreachable : (Machine.system codecs).Reachable target.machine)
    (hmachine : target.machine.loop = resume (World.answer op env source.machine.world).1)
    (hworld : target.machine.world = (World.answer op env source.machine.world).2)
    (hissued : target.machine.issued = Machine.issuedAfter source.machine.issued env op)
    (hqueue : target.machine.queue = source.machine.queue)
    (hwatchers : target.watchers = source.watchers) (hevent : target.event = source.event)
    (hcommands : target.commands = source.commands ++ op.requests)
    (hconnects : target.connects = source.connects ++
      (if op.startsTunnel then (session source.event).toList else [])) :
    Follows codecs asked source target := by
  have hasks := h.asks
  rw [hloop] at hasks
  obtain ⟨hduty, hresume⟩ :=
    hasks drawn (fun other => (World.answer other env source.machine.world).1) rfl trivial
  have hmoves := h.moves_answer hduty hcommands hwatchers hqueue
  have hover (id : Uuid) (hid : Over about (source.reporters asked) id) := hid.move hmoves
  obtain ⟨hknown, hspare⟩ := h.spare_answer hallowed hduty source.machine.world
  rw [← hissued] at hknown hspare
  have hstarts := h.starts
  rw [Starts, hloop] at hstarts
  -- the two cases of `Starts` differ in whether the operation may start the tunnel
  have hlast : (∀ id ∈ target.connects,
        Over about (target.reporters (op.requests.map (·.requestId) ++ asked)) id) ∧
      target.connects.Nodup ∧ target.Starts (op.requests.map (·.requestId) ++ asked) := by
    rcases hstarts with hnever | ⟨ready, hready, hid, hnew, honce, hensures⟩
    · rw [Program.atMost_zero] at hnever
      rw [hnever.1] at hconnects
      rw [hconnects, if_neg Bool.false_ne_true, List.append_nil]
      refine ⟨fun id hid => hover id (h.connected id hid), h.nodup, .inl ?_⟩
      rw [hmachine, Program.atMost_zero]
      exact hnever.2 _
    · cases hop : op.startsTunnel with
      | false =>
          rw [hop, if_neg Bool.false_ne_true, List.append_nil] at hconnects
          rw [hconnects]
          refine ⟨fun id hid => hover id (h.connected id hid), h.nodup, .inr ⟨ready, ?_⟩⟩
          have hrest := honce.2 (World.answer op env source.machine.world).1
          rw [hop] at hrest
          rw [hevent, hconnects, hmachine, hworld]
          exact ⟨hready, hover _ hid, hnew, hrest, (Program.Ensures.step hensures trivial).2⟩
      | true =>
          rw [hop, if_pos rfl, hready] at hconnects
          rw [hconnects]
          refine ⟨fun id hmem => ?_, ?_, .inl ?_⟩
          · rcases List.mem_append.mp hmem with hmem | hmem
            · exact hover id (h.connected id hmem)
            · rw [List.mem_singleton.mp hmem]
              exact hover _ hid
          · rw [List.nodup_append]
            refine ⟨h.nodup, List.nodup_singleton _, fun first hfirst last hlast heq => ?_⟩
            rw [heq, List.mem_singleton.mp hlast] at hfirst
            exact hnew hfirst
          · have hrest := honce.2 (World.answer op env source.machine.world).1
            rw [hop] at hrest
            rw [hmachine]
            exact hrest
  obtain ⟨hconnected, hnodup, hstarts⟩ := hlast
  refine ⟨_, _, ⟨hreachable, hknown, hspare, h.orderly.move hmoves, ?_, hconnected, hnodup,
    hstarts⟩, hover⟩
  rw [hmachine]
  exact hresume

end Loop

/-! ## Steps -/

/-- A watcher polls. -/
theorem moves_onPoll {index : Nat} {watcher : Watcher}
    {reply : Except VpnSessionError VpnSessionStatus}
    (hwatcher : source.watchers[index]? = some watcher)
    (hecho : reply.toOption.all (·.requestId = watcher.requestId) = true) :
    Moves about isFinal (source.reporters asked)
      ((source.onPoll index (watcher.watchEnded reply)).reporters asked) := by
  obtain ⟨hindex, hget⟩ := List.getElem?_eq_some_iff.mp hwatcher
  have hsame (lastWatch : Option VpnSessionStatus) :
      (source.watchers.set index { watcher with lastWatch }).map (·.requestId) =
        source.watchers.map (·.requestId) := by
    apply List.ext_getElem?
    intro other
    rw [List.map_set, List.getElem?_set]
    split
    · rename_i heq
      subst heq
      simp [hindex, hget, Watcher.requestId]
    · rfl
  have hquiet : Moves about isFinal (source.reporters asked) (source.reporters asked) :=
    .close (List.Subperm.refl _)
  cases reply with
  | error error =>
      simp only [reporters, onPoll, Watcher.watchEnded, List.append_nil, Bool.false_eq_true,
        if_false]
      rw [hsame watcher.lastWatch]
      exact hquiet
  | ok status =>
      have hid : status.requestId = watcher.requestId := by
        simpa [Except.toOption] using hecho
      by_cases hlast : watcher.lastWatch = some status
      · simp only [reporters, onPoll, Watcher.watchEnded, hlast, List.append_nil, if_true,
          Bool.false_eq_true, if_false]
        rw [hsame (some status)]
        exact hquiet
      cases hfinal : status.isEndState with
      | false =>
          simp only [reporters, onPoll, Watcher.watchEnded, hlast, hfinal, if_false,
            Bool.false_eq_true]
          rw [hsame (some status)]
          refine .report (congrArg some hid) hfinal (List.mem_append_right _ ?_)
          exact List.mem_map_of_mem (List.mem_of_getElem? hwatcher)
      | true =>
          simp only [reporters, onPoll, Watcher.watchEnded, hlast, hfinal, if_true, if_false]
          refine .finish (congrArg some hid) ?_
          have hperm := (List.getElem_cons_eraseIdx_perm hindex).map (·.requestId)
          rw [hget, List.map_cons] at hperm
          exact List.perm_middle.symm.trans (hperm.append_left _)

/-- The service handles a command. -/
theorem moves_onNewSession {newSession : NewSession} {rest : List NewSession}
    {accepted : Except VpnSessionError Accepted}
    (hcommands : source.commands = newSession :: rest) :
    Moves about isFinal (source.reporters asked)
      ((source.onNewSession newSession rest accepted).reporters asked) := by
  simp only [reporters, onNewSession, hcommands, List.map_cons]
  refine .close ?_
  cases accepted with
  | error error =>
      simp only [List.append_nil, List.cons_append]
      exact (List.sublist_cons_self ..).subperm
  | ok accepted =>
      simp only [List.map_append, List.map_cons, List.map_nil, List.cons_append]
      apply List.Perm.subperm
      rw [← List.append_assoc]
      exact (List.perm_append_singleton _ _)

/-- A step of the machine, with what the service does in it. -/
theorem Attended.machine {label : MachineLabel} {machine : Machine} {accompanied : Watched}
    (h : Attended codecs asked drawn source)
    (hstep : Machine.step codecs source.machine label = some machine)
    (haccompany : source.accompany label = some accompanied) :
    Follows codecs asked source { accompanied with machine } := by
  have htaken : (Machine.system codecs).step source.machine label = some machine := hstep
  have hreachable := h.reachable.step htaken
  have haside (haside : source.machine.Aside label) (hpost : ∀ event, label ≠ .post event)
      (hsame : accompanied = source) : Follows codecs asked source { accompanied with machine } := by
    obtain ⟨hqueue, hissued⟩ := haside.rest_eq hpost hstep
    subst hsame
    refine h.wait hreachable (haside.loop_eq hstep) hissued
      (Machine.unmarked_of_step h.reachable hstep haside.not_loop) rfl rfl ?_
    simp only [reporters, hqueue]
    exact .close (List.Subperm.refl _)
  cases label with
  | ready | start _ | serve | reclaim =>
      cases haccompany
      exact haside trivial (by simp) rfl
  | restart =>
      cases hstep
      cases haccompany
      refine ⟨asked, [], h.enter hreachable rfl rfl .reset (Daemon.startup_asks codecs) (.inl ?_)⟩
      rw [Program.atMost_zero]
      exact (Machine.startup_within codecs).mono fun op hop => by
        cases op <;> first | rfl | cases hop
  | post event =>
      cases hstep
      refine h.wait hreachable rfl (List.Subset.refl _) rfl ?_ ?_ ?_ <;>
        cases event <;> cases haccompany
      all_goals first | rfl | exact .pass rfl
  | take =>
      cases haccompany
      exact ⟨asked, [], h.take hstep rfl⟩
  | loop env =>
      cases Machine.steps_of_step hstep with
      | loop hloop hallowed =>
          simp only [accompany, performed, hloop, Program.nextOp] at haccompany
          obtain ⟨-, hwatchers, hevent, hcommands, hconnects⟩ := serve_eq_some haccompany
          exact h.answer hloop hallowed hreachable rfl rfl rfl rfl hwatchers hevent hcommands
            hconnects
  | job index env =>
      apply haside trivial (by simp)
      simp only [accompany, performed] at haccompany
      cases hjob : source.machine.jobs[index]? with
      | none => simpa [hjob, serve] using haccompany.symm
      | some job =>
          have hwithin := Machine.jobs_within h.reachable job (List.mem_of_getElem? hjob)
          simp only [hjob, Option.bind_some] at haccompany
          cases hprogram : job.program with
          | pure value | panic message =>
              rw [hprogram] at haccompany
              exact (Option.some.inj haccompany).symm
          | perform op next =>
              rw [hprogram] at hwithin haccompany
              have hop : op.inBackground = true := hwithin.1
              cases op <;> first | exact (Option.some.inj haccompany).symm | cases hop

theorem Attended.step {label : WatchedLabel} (h : Attended codecs asked drawn source)
    (hstep : Watched.step codecs source label = some target) :
    Follows codecs asked source target := by
  have hquiet {other : Watched} (hmachine : other.machine = source.machine)
      (hevent : other.event = source.event) (hconnects : other.connects = source.connects)
      (hmoves : Moves about isFinal (source.reporters asked) (other.reporters asked)) :
      Follows codecs asked source other :=
    h.wait (hmachine ▸ h.reachable) (by rw [hmachine]) (by rw [hmachine]; exact List.Subset.refl _)
      (by rw [hmachine]) hevent hconnects hmoves
  cases label with
  | machine label =>
      simp only [Watched.step] at hstep
      split at hstep
      · cases hstep
      · rename_i machine hmachine
        obtain ⟨accompanied, haccompany, rfl⟩ := Option.map_eq_some_iff.mp hstep
        exact h.machine hmachine haccompany
  | onNewSession accepted =>
      simp only [Watched.step] at hstep
      split at hstep
      · cases hstep
      · rename_i newSession rest hcommands
        cases hstep
        exact hquiet rfl rfl rfl (moves_onNewSession hcommands)
  | poll index reply =>
      simp only [Watched.step] at hstep
      split at hstep
      · cases hstep
      · rename_i watcher hwatcher
        split at hstep
        · rename_i hecho
          cases hstep
          exact h.wait (Machine.reachable_post h.reachable _) rfl (List.Subset.refl _) rfl rfl rfl
            (moves_onPoll hwatcher hecho)
        · cases hstep
  | stopWatcher index =>
      simp only [Watched.step] at hstep
      split at hstep
      · cases hstep
        refine hquiet rfl rfl rfl (.close ?_)
        exact (((List.eraseIdx_sublist ..).map _).append_left _).subperm
      · cases hstep

/-! ## Runs -/

theorem exists_attended (h : (system codecs).Reachable source) :
    ∃ asked drawn, Attended codecs asked drawn source := by
  refine TransitionSystem.Reachable.invariant (system codecs)
    (I := fun watched => ∃ asked drawn, Attended codecs asked drawn watched) ?_ ?_ h
  · rintro _ rfl
    refine ⟨[], [], ⟨⟨.start rfl⟩, nofun, nofun, Reporters.orderly_nil, Daemon.startup_asks codecs,
      nofun, List.nodup_nil, .inl ?_⟩⟩
    rw [Program.atMost_zero]
    exact (Machine.startup_within codecs).mono fun op hop => by
      cases op <;> first | rfl | cases hop
  · rintro before label after hstep ⟨asked, drawn, hbefore⟩
    obtain ⟨more, drawn, hafter, -⟩ := hbefore.step hstep
    exact ⟨more, drawn, hafter⟩

/-- A session that is over stays over. -/
theorem exists_over_of_leads (h : Attended codecs asked drawn source) {id : Uuid}
    (hover : Over about (source.reporters asked) id)
    (hleads : (system codecs).Leads (fun _ _ => True) source target) :
    ∃ more drawn, Attended codecs more drawn target ∧ Over about (target.reporters more) id := by
  apply hleads.invariant (I := fun watched => ∃ more drawn, Attended codecs more drawn watched ∧
    Over about (watched.reporters more) id) ⟨asked, drawn, h, hover⟩
  rintro before label after hstep - ⟨more, held, hbefore, hid⟩
  obtain ⟨later, drawn, hafter, hstays⟩ := hbefore.step hstep
  exact ⟨later, drawn, hafter, hstays id hid⟩

/-- The tunnel is started by the handler of `ServerReady`, while the row is unmarked. -/
theorem exists_ready_of_starts (h : Attended codecs asked drawn source)
    {label : MachineLabel} {op : Op} (hop : performed source.machine label = some op)
    (hstarts : op.startsTunnel = true) :
    ∃ ready : ServerReady, source.event = some (.vpnSessionStatus (.serverReady ready)) ∧
      Daemon.IsUnmarked ready.requestId source.machine.world := by
  cases label with
  | loop env =>
      cases hloop : source.machine.loop with
      | pure value | panic message =>
          simp [performed, hloop, Program.nextOp] at hop
      | perform next resume =>
          have hnext : next = op := by simpa [performed, hloop, Program.nextOp] using hop
          subst hnext
          have hcase := h.starts
          rw [Starts, hloop] at hcase
          rcases hcase with hnever | ⟨ready, hready, -, -, -, hensures⟩
          · rw [Program.atMost_zero] at hnever
            rw [hnever.1] at hstarts
            cases hstarts
          · have hadmits : (Daemon.starting ready.requestId).admits next env
                source.machine.world := trivial
            exact ⟨ready, hready, (Program.Ensures.step hensures hadmits).1 hstarts⟩
  | job index env =>
      simp only [performed, Option.bind_eq_some_iff] at hop
      obtain ⟨job, hjob, hnext⟩ := hop
      have hwithin := Machine.jobs_within h.reachable job (List.mem_of_getElem? hjob)
      cases hprogram : job.program with
      | pure value | panic message => simp [hprogram, Program.nextOp] at hnext
      | perform next resume =>
          rw [hprogram] at hwithin hnext
          obtain rfl := Option.some.inj hnext
          have hspares := Op.sparesTunnel_of_inBackground hwithin.1
          simp [Op.sparesTunnel, hstarts] at hspares
  | _ => simp [performed] at hop

/-- `ServerReady` is the last status of its session that the loop takes. -/
theorem Attended.over_of_take (h : Attended codecs asked drawn source)
    (hstep : Watched.step codecs source (.machine .take) = some target) {ready : ServerReady}
    (hready : target.event = some (.vpnSessionStatus (.serverReady ready))) :
    Attended codecs asked [] target ∧ Over about (target.reporters asked) ready.requestId := by
  have hordered := h.orderly
  simp only [Watched.step] at hstep
  split at hstep
  · cases hstep
  · rename_i machine hmachine
    cases hstep
    refine ⟨(h.take hmachine rfl).1, ?_⟩
    cases Machine.steps_of_step hmachine with
    | @take value event rest hloop hqueue hstarted haccepting =>
        have hevent : event = .vpnSessionStatus (.serverReady ready) := by
          simpa [hqueue] using hready
        simp only [reporters, hqueue, hevent] at hordered
        exact Reporters.over_of_take hordered ⟨rfl, rfl⟩

theorem requestId_ne_of_take {id : Uuid} (hover : Over about (source.reporters asked) id)
    (hstep : Watched.step codecs source (.machine .take) = some target) {status : VpnSessionStatus}
    (hstatus : target.event = some (.vpnSessionStatus status)) : status.requestId ≠ id := by
  simp only [Watched.step] at hstep
  split at hstep
  · cases hstep
  · cases hstep
    have hmem := List.mem_of_mem_head? hstatus
    exact fun heq => hover.none _ hmem (congrArg some heq)

/-- The tunnel is told to connect at most once for each session, and only while its
row is unmarked; and once the loop has taken `ServerReady` of a session, it takes no
other status of it. -/
theorem connects_nodup (codecs : Codecs) :
    (∀ watched, (system codecs).Reachable watched → watched.connects.Nodup) ∧
    (∀ watched label op, (system codecs).Reachable watched →
      performed watched.machine label = some op → op.startsTunnel = true →
      ∃ ready : ServerReady, watched.event = some (.vpnSessionStatus (.serverReady ready)) ∧
        Daemon.IsUnmarked ready.requestId watched.machine.world) ∧
    (∀ source taken late target ready status, (system codecs).Reachable source →
      step codecs source (.machine .take) = some taken →
      taken.event = some (.vpnSessionStatus (.serverReady ready)) →
      (system codecs).Leads (fun _ _ => True) taken late →
      step codecs late (.machine .take) = some target →
      target.event = some (.vpnSessionStatus status) → status.requestId ≠ ready.requestId) := by
  refine ⟨?_, ?_, ?_⟩
  · intro watched hreachable
    obtain ⟨asked, drawn, hattended⟩ := exists_attended hreachable
    exact hattended.nodup
  · intro watched label op hreachable hop hstarts
    obtain ⟨asked, drawn, hattended⟩ := exists_attended hreachable
    exact exists_ready_of_starts hattended hop hstarts
  · intro source taken late target ready status hreachable htake hready hlate hlast hstatus
    obtain ⟨asked, drawn, hattended⟩ := exists_attended hreachable
    obtain ⟨htaken, hover⟩ := hattended.over_of_take htake hready
    obtain ⟨more, held, -, hover⟩ := exists_over_of_leads htaken hover hlate
    exact requestId_ne_of_take hover hlast hstatus

/-! ## A session whose tunnel is started -/

/-- The first session, up to the command to connect. -/
def starting : List WatchedLabel :=
  (Sample.installing ++ Sample.requesting Sample.first 6).map .machine ++
    [.onNewSession Sample.first.newSession] ++
    List.replicate 5 (.machine (.loop Sample.first)) ++
    [.poll 0 (.ok (Sample.ready Sample.first.uuid (.replicate 1))), .machine .take] ++
    List.replicate 6 (.machine (.loop Sample.first))

theorem exists_connects_nodup : ∃ watched, (system Sample.codecs).Reachable watched ∧
    watched.connects = [Sample.first.uuid] ∧ watched.watchers = [] ∧ watched.connects.Nodup := by
  obtain ⟨watched, trace, -, hcheck⟩ := (system Sample.codecs).exists_trace_of_run
    (fun _ _ => True) rfl starting
    (fun watched => watched.connects = [Sample.first.uuid] && watched.watchers = [])
    (by decide +kernel)
  rw [Bool.and_eq_true, decide_eq_true_eq, decide_eq_true_eq] at hcheck
  exact ⟨watched, ⟨trace⟩, hcheck.1, hcheck.2, (connects_nodup Sample.codecs).1 watched ⟨trace⟩⟩

end Watched

end Modvpn
