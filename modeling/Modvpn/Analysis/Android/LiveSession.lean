/-
# The session in progress and the reclaimer

The reclaimer ends what is marked, and marking does not look at what is in progress. A
session that is not in progress is never in progress again, since ids are not used twice,
unless an answer to an earlier request brings it back. So the reclaimer spares the session
in progress while nothing is marked that has a row and is in progress, and no answer
replaces the session in progress by another one.
-/

import Modvpn.Analysis.Android.Handling

namespace Modvpn.Android

open Modvpn.Protocol
open VPNOrchestrator (replacement)

namespace LiveSession

/-- A session that is not in progress, and will not be. -/
def Harmless (requestId : Uuid) (world : World) : Prop :=
  requestId ∈ world.issued ∧ world.held ≠ some requestId

/-- A row is written for a session with an id, and unmarked; only harmless sessions are
reclaimed. -/
def Owed (world : World) : Op → Prop
  | .insert vpnSession | .update vpnSession =>
      vpnSession.requestId ∈ world.issued ∧ vpnSession.markForDeletion ≠ .text
  | .endVpnSession _ requestId _ => Harmless requestId world
  | _ => True

/-- The session in progress has no row when all rows are marked. -/
def Unmarked (world : World) : Op → Prop
  | .markAllForDeletion => ∀ requestId ∈ VpnSessionDao.requestIds world.vpnSession,
      world.held ≠ some requestId
  | _ => True

/-- Rows belong to sessions with an id, and what is marked is harmless. -/
structure Sound (world : World) : Prop where
  issued : ∀ requestId ∈ VpnSessionDao.requestIds world.vpnSession, requestId ∈ world.issued
  harmless : ∀ requestId ∈ VpnSessionDao.toReclaim world.vpnSession, Harmless requestId world

@[reducible]
def contract : Contract ops Env World where
  rely world moved := world.issued ⊆ moved.issued ∧
    ∀ requestId, Harmless requestId world → Harmless requestId moved
  admits op _ world := Unmarked world op ∧ Sound world
  duty op _ world := Owed world op
  rely_refl _ := ⟨List.Subset.refl _, fun _ => id⟩
  rely_trans h hnext :=
    ⟨List.Subset.trans h.1 hnext.1, fun requestId => hnext.2 requestId ∘ h.2 requestId⟩

variable {world moved : World}

/-- Another table, and the same orchestrator. -/
theorem sound_store {rows : List Db.VpnSession}
    (hissued : ∀ requestId ∈ VpnSessionDao.requestIds rows, requestId ∈ world.issued)
    (hmarked : ∀ requestId ∈ VpnSessionDao.toReclaim rows, Harmless requestId world) :
    Sound (world.store rows) ∧ contract.rely world (world.store rows) :=
  ⟨⟨hissued, hmarked⟩, List.Subset.refl _, fun _ => id⟩

/-- The same table, the same ids and the same orchestrator. -/
structure Same (world moved : World) : Prop where
  vpnSession : moved.vpnSession = world.vpnSession
  issued : moved.issued = world.issued
  held : moved.held = world.held

theorem Same.tolerated (h : Same world moved) :
    contract.rely world moved ∧ (Sound world → Sound moved) := by
  obtain ⟨hrows, hissued, hheld⟩ := h
  have hharmless : ∀ requestId, Harmless requestId moved ↔ Harmless requestId world := by
    simp [Harmless, hissued, hheld]
  refine ⟨⟨by rw [hissued]; exact List.Subset.refl _, fun requestId => (hharmless requestId).2⟩,
    fun hsound => ⟨?_, ?_⟩⟩
  · rw [hrows, hissued]
    exact hsound.issued
  · simp only [hrows, hharmless]
    exact hsound.harmless

theorem Same.keeps (hsame : Same world moved) (h : Sound world) :
    Sound moved ∧ contract.rely world moved := by
  obtain ⟨hrely, hsound⟩ := hsame.tolerated
  exact ⟨hsound h, hrely⟩

theorem same_of_untouched (h : Phone.Untouched world moved) : Same world moved :=
  ⟨h.vpnSession, h.issued, h.held⟩

/-- Rows are written as they are owed. -/
theorem writes_sound {op : Op} {rows : List Db.VpnSession} (h : Sound world)
    (hmarks : Unmarked world op) (hduty : Owed world op)
    (hwrites : Phone.Writes world.vpnSession op rows) :
    Sound (world.store rows) ∧ contract.rely world (world.store rows) := by
  cases hwrites with
  | inserts vpnSession =>
      apply sound_store
      · intro requestId hrow
        rcases VpnSessionDao.mem_requestIds_insert.1 hrow with rfl | hrow
        · exact hduty.1
        · exact h.issued requestId hrow
      · exact fun requestId hmarked =>
          h.harmless requestId (VpnSessionDao.mem_toReclaim_of_insert hmarked hduty.2)
  | updates vpnSession =>
      apply sound_store
      · rw [VpnSessionDao.requestIds_update]
        exact h.issued
      · exact fun requestId hmarked =>
          h.harmless requestId (VpnSessionDao.mem_toReclaim_of_update hmarked hduty.2)
  | deletes vpnSession | deletesWithRequestId requestId =>
      apply sound_store
      · exact fun requestId hrow =>
          h.issued requestId (VpnSessionDao.mem_requestIds_deleteWithRequestId.1 hrow).2
      · exact fun requestId hmarked =>
          h.harmless requestId (VpnSessionDao.mem_toReclaim_of_delete hmarked)
  | marksAll =>
      apply sound_store
      · rw [VpnSessionDao.requestIds_markAllForDeletion]
        exact h.issued
      · intro requestId hmarked
        have hrow := VpnSessionDao.requestIds_of_toReclaim hmarked
        rw [VpnSessionDao.requestIds_markAllForDeletion] at hrow
        exact ⟨h.issued requestId hrow, hmarks requestId hrow⟩

theorem perform_sound {op : Op} {env : Env} (h : Sound world)
    (hadmits : contract.admits op env world) (hduty : contract.duty op env world) :
    Sound (World.answer op env world).2 ∧ contract.rely world (World.answer op env world).2 := by
  have hmoves := Phone.moves_answer op env world
  generalize (World.answer op env world).2 = moved at hmoves ⊢
  cases hmoves with
  | writes hwrites => exact writes_sound h hadmits.1 hduty hwrites
  | reclaims service => exact (same_of_untouched (Phone.untouched_runReclaimer world service)).keeps h
  | stays | insertsDevice | requests request | requestsEnd request | fails request _
  | delivers requestId message | stops reclaimer => exact Same.keeps ⟨rfl, rfl, rfl⟩ h

def terms : Terms semantics where
  contract := contract
  invariant := Sound
  perform := perform_sound

/-! ## The coroutines -/

section Coroutines

variable {wireGuard : WireGuard} {requestId : Uuid}

/-- A new session writes rows of its own, and unmarked ones. -/
theorem owed_of_newVpnSession {service : Nat} {location : Location} {op : Op}
    (hop : Footprint (.newVpnSession service requestId location) op)
    (h : requestId ∈ world.issued) : Owed world op := by
  cases op with
  | insert vpnSession =>
      subst hop
      exact ⟨h, fun hmarked => by cases hmarked⟩
  | update vpnSession =>
      obtain ⟨uuid, rfl⟩ := hop
      exact ⟨h, fun hmarked => by cases hmarked⟩
  | endVpnSession number other reason => exact hop.elim
  | getDevice | insertDevice | delete vpnSession | withRequestId other | deleteWithRequestId other
  | markAllForDeletion | toReclaim | sendNewVpnSession request | awaitNewVpnSession request
  | sendEndVpnSession request | awaitEndVpnSession request | getVpnSessionStatus request | delay
  | sendOrchestratorMessage number other message | launchWatch number place request
  | runReclaimer number | stopRunning reclaimer | again => trivial

theorem newVpnSession_keeps (service : Nat) (location : Location)
    (h : requestId ∈ world.issued) :
    terms.Keeps (VPNSessionRepository.newVpnSession wireGuard service requestId location) world := by
  have honly : (VPNSessionRepository.newVpnSession wireGuard service requestId location).OnlyGiven
      (fun _ _ => True) (Footprint (.newVpnSession service requestId location)) :=
    (newVpnSession_only service requestId location).onlyGiven
  -- the id stays issued, and so rows may be written all along
  have hensures : Program.Ensures semantics contract (fun _ later => requestId ∈ later.issued)
      (VPNSessionRepository.newVpnSession wireGuard service requestId location) world := by
    apply honly.ensures (I := fun later : World => requestId ∈ later.issued) _
      (fun _ _ => trivial) _ _ h
    · exact fun hop _ hissued => owed_of_newVpnSession hop hissued
    · exact fun hrely hissued => hrely.1 hissued
    · exact fun _ _ hissued => Phone.issued_subset_answer _ _ _ hissued
  exact hensures.mono fun _ _ _ => trivial

/-- The loop ends harmless sessions if it is given harmless sessions. -/
theorem sweep_keeps (service : Nat) (requestIds : List Uuid)
    (h : ∀ requestId ∈ requestIds, Harmless requestId world) :
    terms.Keeps (VpnSessionReclaimer.sweep service requestIds) world := by
  induction requestIds generalizing world with
  | nil =>
      apply Terms.keeps_of_carefree
      exact ⟨fun _ _ => trivial, fun _ => ⟨fun _ _ => trivial, fun _ => trivial⟩⟩
  | cons requestId requestIds ih =>
      intro ending env hending _
      refine ⟨hending.2 requestId (h requestId (List.mem_cons_self ..)), ?_⟩
      exact ih fun other hother => hending.2 other (h other (List.mem_cons_of_mem _ hother))

theorem reclaim_keeps (service reclaimer : Nat) (world : World) :
    terms.Keeps (VpnSessionReclaimer.reclaim service reclaimer) world := by
  intro looking env _ hlooking
  refine ⟨trivial, ?_⟩
  simp only [Program.pure_bind]
  split
  · apply Terms.keeps_of_carefree
    exact ⟨fun _ _ => trivial, fun _ => trivial⟩
  · exact sweep_keeps service _ hlooking.2.harmless

theorem program_keeps (coroutine : Coroutine) (h : Phone.Launchable world coroutine) :
    terms.Keeps (coroutine.program wireGuard) world := by
  cases coroutine with
  | newVpnSession service requestId location => exact newVpnSession_keeps service location h
  | reclaim service reclaimer => exact reclaim_keeps service reclaimer world
  | init ofService | watch service location request | endVpnSession service requestId reason =>
      apply Terms.keeps_of_carefree
      apply (program_only _).mono
      intro op hop
      cases op <;> first | exact fun _ _ => trivial | exact hop.elim

/-! ## Steps that are not operations -/

/-- Nothing is marked that is in progress, and no answer replaces the session in progress by
another one. -/
def Spares (wireGuard : WireGuard) (phone : Phone) : PhoneLabel → Prop
  | .perform index _ => ∀ op ∈ phone.nextOp index, Unmarked phone.world op
  | .handle _ => ∀ message ∈ phone.world.queue.head?, ∀ service ∈ phone.world.service,
      ∀ requestId ∈ replacement wireGuard service.vpnOrchestratorState message.invocation,
        phone.world.held = some requestId
  | _ => True

/-- Another session in progress that is new, or none. -/
theorem tolerated_of_held (world moved : World) (hrows : moved.vpnSession = world.vpnSession)
    (hissued : world.issued ⊆ moved.issued)
    (hheld : ∀ requestId, moved.held = some requestId →
      world.held = some requestId ∨ requestId ∉ world.issued) :
    terms.Tolerates world moved := by
  have hharmless : ∀ requestId, Harmless requestId world → Harmless requestId moved := by
    rintro requestId ⟨hid, hnot⟩
    refine ⟨hissued hid, fun hmoved => ?_⟩
    rcases hheld requestId hmoved with hbefore | hfresh
    · exact hnot hbefore
    · exact hfresh hid
  refine ⟨⟨hissued, hharmless⟩, fun h => ⟨fun requestId hrow => ?_, fun requestId hmarked => ?_⟩⟩
  · rw [hrows] at hrow
    exact hissued (h.issued requestId hrow)
  · rw [hrows] at hmarked
    exact hharmless requestId (h.harmless requestId hmarked)

/-- What a handler leaves in progress was in progress, or is new. -/
theorem held_of_turns {env : HandlerEnv} {state : VPNOrchestratorState} {next : VPNService}
    {invocation : VPNOrchestrator.Invocation} {other : Uuid} {issued : List Uuid}
    (hturns : VPNOrchestrator.Turns wireGuard env state invocation next)
    (hfresh : env.randomUuid ∉ issued)
    (hreplaces : ∀ requestId ∈ replacement wireGuard state invocation,
      state.requestId = some requestId)
    (hnext : next.vpnOrchestratorState.requestId = some other) :
    state.requestId = some other ∨ other ∉ issued := by
  cases hturns with
  | keeps hstate _ =>
      rw [hstate] at hnext
      exact .inl hnext
  | leaves hstate _ =>
      rw [VPNOrchestrator.requestId_eq_none.2 hstate] at hnext
      cases hnext
  | adopts requestId hadopted hstate _ =>
      rw [hstate] at hnext
      cases hnext
      exact .inl (hreplaces _ hadopted)
  | begins location asked _ _ hstate _ _ =>
      rw [hstate] at hnext
      cases hnext
      exact .inr hfresh

theorem held_of_service {service : VPNService} (h : world.service = some service) :
    world.held = service.vpnOrchestratorState.requestId := by
  rw [World.held, h]
  rfl

theorem turn_tolerated {phone : Phone} {label : PhoneLabel}
    (hturn : Phone.Turn wireGuard phone label moved) (hspares : Spares wireGuard phone label) :
    terms.Tolerates phone.world moved := by
  apply tolerated_of_held _ _ hturn.frame.vpnSession hturn.frame.issued
  cases hturn with
  | stays | sends request | serves label server _ | signs device => exact fun requestId => .inl
  | dies | destroys service next _ _ _ _ => nofun
  | creates _ =>
      rw [Phone.held_created]
      nofun
  | handles message rest service next hqueue hservice _ hfresh hnext =>
      intro requestId hheld
      rw [Phone.handled_held] at hheld
      rw [held_of_service hservice]
      refine held_of_turns (VPNOrchestrator.turns_of_handle hnext) hfresh
        (fun other hother => ?_) hheld
      rw [← hspares message (by rw [hqueue]; rfl) service hservice other hother,
        held_of_service hservice]
  | revokes service next hservice _ hfresh hnext =>
      intro requestId hheld
      rw [Phone.handled_held] at hheld
      rw [held_of_service hservice]
      exact held_of_turns (VPNOrchestrator.turns_of_handle hnext) hfresh nofun hheld

/-! ## Runs -/

/-- The session that a reclaimer is about to end. -/
def reclaimed (phone : Phone) (index : Nat) : Option Uuid :=
  match phone.jobs[index]? with
  | none => none
  | some job =>
      match job.role.coroutine, job.program.nextOp with
      | .reclaim _ _, some (.endVpnSession _ requestId _) => some requestId
      | _, _ => none

/-- The reclaimer does not end the session in progress. -/
def Spared (phone : Phone) : PhoneLabel → Prop
  | .perform index _ => ∀ requestId ∈ reclaimed phone index, phone.world.held ≠ some requestId
  | _ => True

theorem upholds : Phone.Upholds wireGuard terms (Spares wireGuard) where
  keeps := program_keeps
  admits hspares hop _ hsound := ⟨hspares _ hop, hsound⟩
  booted _ _ := Same.tolerated ⟨rfl, rfl, rfl⟩
  killed world := tolerated_of_held world _ rfl (List.Subset.refl _) nofun
  turn hspares hturn := turn_tolerated hturn hspares

theorem spared_of_abides {phone target : Phone} {label : PhoneLabel}
    (hstep : phone.step wireGuard label = some target) (hspares : Spares wireGuard phone label)
    (h : Phone.Abides terms phone) : Spared phone label := by
  cases label with
  | perform index env =>
      intro requestId hreclaimed
      obtain ⟨job, op, next, hjob, hprogram, -, -⟩ := Phone.perform_eq_some hstep
      have hkeeps := (Terms.sound_discipline.1 h.sound).2 job (List.mem_of_getElem? hjob)
      rw [Terms.Keeps, hprogram] at hkeeps
      have hduty := (hkeeps phone.world env (contract.rely_refl _)
        ⟨hspares op (Phone.mem_nextOp hjob hprogram), h.sound.invariant⟩).1
      simp only [reclaimed, hjob, hprogram, Program.nextOp] at hreclaimed
      split at hreclaimed
      · rename_i heq
        cases heq
        cases hreclaimed
        exact hduty.2
      · cases hreclaimed
  | startApp | startService | kill | createService | destroyService env | send request
  | handle env | revoke env | abandon index | server label | setDevice device => trivial

theorem obeys_spared_of_spares {phone : Phone} {trace : (Phone.system wireGuard).Trace phone}
    (h : trace.Obeys (Spares wireGuard)) : trace.Obeys Spared := by
  refine TransitionSystem.Trace.obeys_of_obeys (I := Phone.Abides terms) ?_ ?_ h
  · rintro _ rfl
    exact .of_jobs rfl ⟨nofun, nofun⟩
  · exact fun source label target hstep hspares hsource =>
      ⟨upholds.step hstep hspares hsource, spared_of_abides hstep hspares hsource⟩

end Coroutines

/-! ## The session in progress is ended -/

instance (world : World) : DecidablePred (Unmarked world)
  | .markAllForDeletion => inferInstanceAs (Decidable (∀ requestId ∈ _, _))
  | .getDevice | .insertDevice | .insert _ | .update _ | .delete _ | .withRequestId _
  | .deleteWithRequestId _ | .toReclaim | .sendNewVpnSession _ | .awaitNewVpnSession _
  | .sendEndVpnSession _ | .awaitEndVpnSession _ | .getVpnSessionStatus _ | .delay
  | .sendOrchestratorMessage _ _ _ | .launchWatch _ _ _ | .endVpnSession _ _ _
  | .runReclaimer _ | .stopRunning _ | .again => .isTrue trivial

instance (wireGuard : WireGuard) (phone : Phone) : DecidablePred (Spares wireGuard phone)
  | .perform _ _ => inferInstanceAs (Decidable (∀ op ∈ phone.nextOp _, _))
  | .handle _ => inferInstanceAs (Decidable (∀ message ∈ phone.world.queue.head?,
      ∀ service ∈ phone.world.service, ∀ requestId ∈ replacement _ _ _, _))
  | .startApp | .startService | .kill | .createService | .destroyService _ | .send _
  | .revoke _ | .abandon _ | .server _ | .setDevice _ => .isTrue trivial

open Android.Sample

/-- The process of the user interface starts while the session is in progress and the
reclaimer of the service has not looked at the table. -/
def marked : List PhoneLabel :=
  [.startService] ++ performing 0 answers 3 ++ [.setDevice [device], .createService] ++
    requesting ++ performing 1 answers 1 ++ [.startApp] ++ performing 2 answers 2 ++
    performing 0 answers 1

theorem not_forall_spared : ¬ ∀ (wireGuard : WireGuard) (phone : Phone)
    (trace : (Phone.system wireGuard).Trace phone), trace.Obeys Spared := by
  intro h
  obtain ⟨phone, trace, -, hcheck⟩ := (Phone.system wireGuard).exists_trace_of_run
    (fun _ _ => True) (Phone.init_installed wireGuard) marked
    (fun phone => decide (reclaimed phone 0 = some requestId) &&
      decide (phone.world.held = some requestId) &&
      (phone.step wireGuard (.perform 0 answers)).isSome) (by decide +kernel)
  simp only [Bool.and_eq_true, decide_eq_true_eq] at hcheck
  obtain ⟨⟨hreclaimed, hheld⟩, hsome⟩ := hcheck
  obtain ⟨target, hstep⟩ := Option.isSome_iff_exists.1 hsome
  exact (h wireGuard target (trace.extend (.perform 0 answers) hstep)).2 requestId hreclaimed hheld

/-- A session is reclaimed while the next one is in progress. -/
def reclaiming : List PhoneLabel :=
  starting ++ requesting ++ performing 0 answers 1 ++ disconnecting ++ [.abandon 0] ++
    performing 0 answers 7 ++ [.send (.connect location), .handle grantedAgain] ++
    performing 0 answers 1

theorem exists_spares : ∃ phone, ∃ trace : (Phone.system wireGuard).Trace phone,
    trace.Obeys (Spares wireGuard) ∧ phone.world.held = some grantedAgain.randomUuid ∧
      trace.Obeys Spared := by
  obtain ⟨phone, trace, hobeys, hcheck⟩ := (Phone.system wireGuard).exists_trace_of_run
    (Spares wireGuard) (Phone.init_installed wireGuard) reclaiming
    (fun phone => decide (phone.world.held = some grantedAgain.randomUuid)) (by decide +kernel)
  exact ⟨phone, trace, hobeys, of_decide_eq_true hcheck, obeys_spared_of_spares hobeys⟩

end LiveSession

end Modvpn.Android
