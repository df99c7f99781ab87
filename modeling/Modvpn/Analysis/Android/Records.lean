/-
# Sessions of the server and their rows

A row is deleted only by a coroutine that takes the session to be settled: the call that
was to start it has failed, the server does not know it, or the server has ended it. A
session that is settled in this sense need not be over: its request may still be on its
way. While the server accepts no request that was given up before, and no call fails
whose request was accepted, a session that is running has its row.
-/

import Modvpn.Analysis.Android.PhoneStep

namespace Modvpn.Android

open Modvpn.Protocol

namespace Records

/-- Some coroutine may take the session to be over. -/
def Settled (requestId : Uuid) (world : World) : Prop :=
  requestId ∈ world.failed ∨ requestId ∈ world.server.notFound ∨ requestId ∈ world.server.ended

def Kept (requestId : Uuid) (world : World) : Prop :=
  requestId ∈ VpnSessionDao.requestIds world.vpnSession ∨ Settled requestId world

/-- A call whose request was accepted does not fail. -/
def Answered (env : Env) (world : World) : Op → Prop
  | .awaitNewVpnSession request =>
      env.newVpnSession.isOk = false → request.requestId ∉ world.server.running
  | _ => True

/-- A request is sent with a row, and a row is deleted when the session is settled. -/
def Owed (world : World) : Op → Prop
  | .sendNewVpnSession request => Kept request.requestId world
  | .delete vpnSession => Settled vpnSession.requestId world
  | .deleteWithRequestId requestId => Settled requestId world
  | _ => True

@[reducible]
def contract : Contract ops Env World where
  rely world moved := ∀ requestId, (Settled requestId world → Settled requestId moved) ∧
    (Kept requestId world → Kept requestId moved)
  admits op env world := world.allows env op = true ∧ Answered env world op
  duty op _ world := Owed world op
  rely_refl _ _ := ⟨id, id⟩
  rely_trans h hnext requestId :=
    ⟨(hnext requestId).1 ∘ (h requestId).1, (hnext requestId).2 ∘ (h requestId).2⟩

/-- Requests have rows, and so have sessions that are running, which are not settled. -/
structure Sound (world : World) : Prop where
  requested : ∀ requestId ∈ world.server.newRequests, Kept requestId world
  recorded : ∀ requestId ∈ world.server.running,
    requestId ∈ VpnSessionDao.requestIds world.vpnSession
  unsettled : ∀ requestId ∈ world.server.running, ¬ Settled requestId world

variable {world moved : World}

/-- The rows change, and the server does not. -/
theorem rely_of_store {rows : List Db.VpnSession}
    (hrows : ∀ requestId ∈ VpnSessionDao.requestIds world.vpnSession,
      requestId ∈ VpnSessionDao.requestIds rows ∨ Settled requestId world) :
    contract.rely world (world.store rows) := by
  intro requestId
  refine ⟨id, fun hkept => ?_⟩
  rcases hkept with hrow | hsettled
  · exact hrows requestId hrow
  · exact .inr hsettled

theorem Sound.store {rows : List Db.VpnSession} (h : Sound world)
    (hrows : ∀ requestId ∈ VpnSessionDao.requestIds world.vpnSession,
      requestId ∈ VpnSessionDao.requestIds rows ∨ Settled requestId world) :
    Sound (world.store rows) where
  requested requestId hrequest := (rely_of_store hrows requestId).2 (h.requested requestId hrequest)
  recorded requestId hrunning := by
    rcases hrows requestId (h.recorded requestId hrunning) with hrow | hsettled
    · exact hrow
    · exact absurd hsettled (h.unsettled requestId hrunning)
  unsettled := h.unsettled

/-- A row that a settled session leaves. -/
theorem mem_delete_or_settled {deleted : Uuid} (h : Settled deleted world) :
    ∀ requestId ∈ VpnSessionDao.requestIds world.vpnSession,
      requestId ∈ VpnSessionDao.requestIds
        (VpnSessionDao.deleteWithRequestId deleted world.vpnSession) ∨
      Settled requestId world := by
  intro requestId hrow
  by_cases hsame : requestId = deleted
  · exact .inr (hsame ▸ h)
  · exact .inl (VpnSessionDao.mem_requestIds_deleteWithRequestId.2 ⟨hsame, hrow⟩)

/-- A world with the same rows, where the server has taken no side. -/
structure Same (world moved : World) : Prop where
  vpnSession : moved.vpnSession = world.vpnSession
  failed : moved.failed = world.failed
  newRequests : moved.server.newRequests ⊆ world.server.newRequests
  running : moved.server.running = world.server.running
  ended : moved.server.ended = world.server.ended
  notFound : moved.server.notFound = world.server.notFound

theorem Same.of_server (hrows : moved.vpnSession = world.vpnSession)
    (hfailed : moved.failed = world.failed) (hserver : moved.server = world.server) :
    Same world moved := by
  constructor
  · exact hrows
  · exact hfailed
  · rw [hserver]
    exact List.Subset.refl _
  · rw [hserver]
  · rw [hserver]
  · rw [hserver]

theorem Same.tolerated (h : Same world moved) :
    contract.rely world moved ∧ (Sound world → Sound moved) := by
  obtain ⟨hrows, hfailed, hrequests, hrunning, hended, hnotFound⟩ := h
  have hsettled : ∀ requestId, Settled requestId moved ↔ Settled requestId world := by
    simp [Settled, hended, hnotFound, hfailed]
  have hkept : ∀ requestId, Kept requestId moved ↔ Kept requestId world := by
    simp [Kept, hrows, hsettled]
  refine ⟨fun requestId => ⟨(hsettled requestId).2, (hkept requestId).2⟩, fun hsound => ?_⟩
  constructor
  · exact fun requestId hrequest =>
      (hkept requestId).2 (hsound.requested requestId (hrequests hrequest))
  · rw [hrunning, hrows]
    exact hsound.recorded
  · simp only [hrunning, hsettled]
    exact hsound.unsettled

/-- The call that was to start a session has failed. -/
theorem Sound.fail (h : Sound world) {requestId : Uuid}
    (hrunning : requestId ∉ world.server.running) :
    Sound { world with failed := requestId :: world.failed } ∧
      contract.rely world { world with failed := requestId :: world.failed } := by
  have hsettled : ∀ other, Settled other world →
      Settled other { world with failed := requestId :: world.failed } := by
    rintro other (hfailed | hserver)
    · exact .inl (List.mem_cons_of_mem _ hfailed)
    · exact .inr hserver
  have hrely : contract.rely world { world with failed := requestId :: world.failed } :=
    fun other => ⟨hsettled other, Or.imp id (hsettled other)⟩
  refine ⟨⟨fun other hother => (hrely other).2 (h.requested other hother), h.recorded, ?_⟩, hrely⟩
  rintro other hother (hfailed | hserver)
  · rcases List.mem_cons.1 hfailed with rfl | hfailed
    · exact hrunning hother
    · exact h.unsettled other hother (.inl hfailed)
  · exact h.unsettled other hother (.inr hserver)

/-- A request is sent. -/
theorem Sound.request (h : Sound world) {requestId : Uuid} (hkept : Kept requestId world) :
    Sound { world with
      server := { world.server with newRequests := requestId :: world.server.newRequests } } where
  requested other hother := by
    rcases List.mem_cons.1 hother with rfl | hother
    · exact hkept
    · exact h.requested other hother
  recorded := h.recorded
  unsettled := h.unsettled

theorem Same.keeps (hsame : Same world moved) (h : Sound world) :
    Sound moved ∧ contract.rely world moved := by
  obtain ⟨hrely, hsound⟩ := hsame.tolerated
  exact ⟨hsound h, hrely⟩

/-- A row is there after a statement, or its session is settled. -/
theorem mem_or_settled_of_writes {op : Op} {rows : List Db.VpnSession} (hduty : Owed world op)
    (hwrites : Phone.Writes world.vpnSession op rows) :
    ∀ requestId ∈ VpnSessionDao.requestIds world.vpnSession,
      requestId ∈ VpnSessionDao.requestIds rows ∨ Settled requestId world := by
  cases hwrites with
  | inserts vpnSession =>
      exact fun requestId hrow => .inl (VpnSessionDao.mem_requestIds_insert.2 (.inr hrow))
  | updates vpnSession =>
      rw [VpnSessionDao.requestIds_update]
      exact fun requestId => .inl
  | deletes vpnSession | deletesWithRequestId requestId => exact mem_delete_or_settled hduty
  | marksAll =>
      rw [VpnSessionDao.requestIds_markAllForDeletion]
      exact fun requestId => .inl

theorem perform_sound {op : Op} {env : Env} (h : Sound world)
    (hadmits : contract.admits op env world) (hduty : contract.duty op env world) :
    Sound (World.answer op env world).2 ∧ contract.rely world (World.answer op env world).2 := by
  have hmoves := Phone.moves_answer op env world
  generalize (World.answer op env world).2 = moved at hmoves ⊢
  cases hmoves with
  | writes hwrites =>
      have hrows := mem_or_settled_of_writes hduty hwrites
      exact ⟨h.store hrows, rely_of_store hrows⟩
  | requests request => exact ⟨h.request hduty, fun _ => ⟨id, id⟩⟩
  | fails request hfails => exact h.fail (hadmits.2 hfails)
  | reclaims service =>
      have huntouched := Phone.untouched_runReclaimer world service
      exact Same.keeps (.of_server huntouched.vpnSession huntouched.failed huntouched.server) h
  | requestsEnd request => exact Same.keeps ⟨rfl, rfl, List.Subset.refl _, rfl, rfl, rfl⟩ h
  | stays | insertsDevice | delivers requestId message | stops reclaimer =>
      exact Same.keeps (.of_server rfl rfl rfl) h

def terms : Terms semantics where
  contract := contract
  invariant := Sound
  perform := perform_sound

/-! ## The coroutines -/

/-- What is settled stays so. -/
theorem Settled.answer {requestId : Uuid} (h : Settled requestId world) (op : Op) (env : Env) :
    Settled requestId (World.answer op env world).2 := by
  have hmoves := Phone.moves_answer op env world
  generalize (World.answer op env world).2 = moved at hmoves ⊢
  cases hmoves with
  | fails request _ => exact h.imp (List.mem_cons_of_mem _) id
  | reclaims service =>
      have huntouched := Phone.untouched_runReclaimer world service
      rw [Settled, huntouched.failed, huntouched.server]
      exact h
  | stays | writes _ | insertsDevice | requests request | requestsEnd request
  | delivers requestId message | stops reclaimer => exact h

section Coroutines

variable {wireGuard : WireGuard} {requestId : Uuid}

theorem newVpnSession_keeps (service : Nat) (location : Location) (world : World) :
    terms.Keeps (VPNSessionRepository.newVpnSession wireGuard service requestId location) world := by
  -- the row is there from the insertion on, or the session is settled
  intro inserting env _ _
  refine ⟨trivial, ?_⟩
  have hkept : Kept requestId
      (World.answer (.insert (.new requestId location)) env inserting).2 :=
    .inl (VpnSessionDao.mem_requestIds_insert.2 (.inl rfl))
  intro reading env hreading _
  refine ⟨trivial, ?_⟩
  generalize (semantics.answer Op.getDevice env reading).1 = device
  cases device with
  | none => trivial
  | some device =>
      intro sending env hsending _
      refine ⟨(hsending requestId).2 ((hreading requestId).2 hkept), ?_⟩
      intro awaiting env _ _
      refine ⟨trivial, ?_⟩
      cases hreply : env.newVpnSession with
      | ok accepted =>
          simp only [World.answer, hreply]
          apply Terms.keeps_of_carefree
          refine ⟨fun _ _ => trivial, fun _ => ?_⟩
          simp only [Program.pure_bind]
          cases toInterface wireGuard device with
          | error thrown => trivial
          | ok interFace =>
              exact ⟨fun _ _ => trivial, fun _ => ⟨fun _ _ => trivial, fun _ => trivial⟩⟩
      | error error =>
          simp only [World.answer, hreply]
          have hsettled : Settled requestId
              { awaiting with failed := requestId :: awaiting.failed } :=
            .inl (List.mem_cons_self ..)
          intro telling env htelling _
          refine ⟨trivial, ?_⟩
          intro deleting env hdeleting _
          have htold := ((htelling requestId).1 hsettled).answer (.sendOrchestratorMessage service
            requestId (.connectResponse location (.error error.message))) env
          exact ⟨(hdeleting requestId).1 (htold), fun _ _ => trivial⟩

theorem watch_keeps (service : Nat) (location : Location) (request : VpnSessionStatusRequest)
    (world : World) : terms.Keeps (VPNSessionRepository.watch service location request) world := by
  intro delaying env _ _
  refine ⟨trivial, ?_⟩
  intro polling env _ hpolling
  refine ⟨trivial, ?_⟩
  cases hreply : env.vpnSessionStatus with
  | error error =>
      simp only [World.answer, hreply]
      apply Terms.keeps_of_carefree
      exact ⟨fun _ _ => trivial, fun _ => trivial⟩
  | ok status =>
      simp only [World.answer, hreply]
      intro telling env htelling _
      refine ⟨trivial, ?_⟩
      by_cases hover : (status.isFailed || status.isEnded) = true
      · -- the server says so
        have hended : Settled request.requestId polling := by
          have hallows := hpolling.1
          simp only [World.allows, hreply, hover, Bool.not_true, Bool.false_or, Bool.and_eq_true,
            decide_eq_true_eq] at hallows
          exact .inr (.inr hallows.2)
        simp only [hover, ↓reduceIte]
        intro deleting env hdeleting _
        have htold := ((htelling _).1 hended).answer (.sendOrchestratorMessage service
          request.requestId (.vpnSessionUpdate location status)) env
        exact ⟨(hdeleting _).1 htold, fun _ _ => trivial⟩
      · simp only [hover, Bool.false_eq_true, ↓reduceIte]
        apply Terms.keeps_of_carefree
        split
        · trivial
        · exact ⟨fun _ _ => trivial, fun _ => trivial⟩

theorem deletion_keeps {row : Db.VpnSession} (hrow : row.requestId = requestId)
    (hsettled : Settled requestId world) : terms.Keeps (perform (.delete row)) world := by
  intro deleting env hdeleting _
  have hdeleted := (hdeleting requestId).1 hsettled
  rw [← hrow] at hdeleted
  exact ⟨hdeleted, fun _ _ => trivial⟩

theorem endVpnSession_keeps (service : Nat) (reason : String) (world : World) :
    terms.Keeps (VPNSessionRepository.endVpnSession service requestId reason) world := by
  intro reading env _ _
  refine ⟨trivial, ?_⟩
  generalize (semantics.answer Op.getDevice env reading).1 = device
  intro finding env _ _
  refine ⟨trivial, ?_⟩
  have hfound : ∀ vpnSession ∈ (semantics.answer (Op.withRequestId requestId) env finding).1,
      vpnSession.requestId = requestId :=
    fun vpnSession hrow => VpnSessionDao.requestId_of_withRequestId hrow
  generalize (semantics.answer (Op.withRequestId requestId) env finding).1 = vpnSession at *
  cases device with
  | none => exact fun _ _ => trivial
  | some device =>
      intro sending env _ _
      refine ⟨trivial, ?_⟩
      intro awaiting env _ hawaiting
      refine ⟨trivial, ?_⟩
      have hallows := hawaiting.1
      cases hreply : env.endVpnSession with
      | ok ended =>
          simp only [World.answer, hreply]
          simp only [World.allows, hreply, Bool.and_eq_true, decide_eq_true_eq] at hallows
          cases vpnSession with
          | none => exact fun _ _ => trivial
          | some row => exact deletion_keeps (hfound row rfl) (.inr (.inr hallows.2))
      | error error =>
          simp only [World.answer, hreply, Program.pure_bind]
          by_cases hnotFound : error.errorType = "not_found"
          · simp only [World.allows, hreply, hnotFound, ne_eq, not_true_eq_false, decide_false,
              Bool.false_or, decide_eq_true_eq] at hallows
            simp only [hnotFound, ↓reduceIte]
            cases vpnSession with
            | none => exact fun _ _ => trivial
            | some row => exact deletion_keeps (hfound row rfl) (.inr (.inl hallows))
          · simp only [hnotFound, ↓reduceIte]
            apply Terms.keeps_of_carefree
            split
            · exact ⟨fun _ _ => trivial, fun _ => ⟨fun _ _ => trivial, fun _ => trivial⟩⟩
            · exact ⟨fun _ _ => trivial, fun _ => trivial⟩

theorem program_keeps (coroutine : Coroutine) (world : World) :
    terms.Keeps (coroutine.program wireGuard) world := by
  cases coroutine with
  | init ofService | reclaim service reclaimer =>
      apply Terms.keeps_of_carefree
      apply (program_only _).mono
      intro op hop
      cases op <;> first | exact fun _ _ => trivial | exact hop.elim
  | newVpnSession service requestId location => exact newVpnSession_keeps service location world
  | watch service location request => exact watch_keeps service location request world
  | endVpnSession service requestId reason => exact endVpnSession_keeps service reason world

/-! ## Steps that are not operations -/

/-- The server ends a session, or says that it is not running. -/
theorem tolerated_of_settles {server : Server} (settled : Uuid)
    (hrequests : server.newRequests = world.server.newRequests)
    (hrunning : ∀ requestId ∈ server.running, requestId ∈ world.server.running ∧ requestId ≠ settled)
    (hsettled : ∀ requestId, Settled requestId { world with server } ↔
      requestId = settled ∨ Settled requestId world) :
    contract.rely world { world with server } ∧
      (Sound world → Sound { world with server }) := by
  have hrely : contract.rely world { world with server } := by
    intro requestId
    have hstill : Settled requestId world → Settled requestId { world with server } :=
      fun h => (hsettled requestId).2 (.inr h)
    exact ⟨hstill, Or.imp id hstill⟩
  refine ⟨hrely, fun h => ⟨fun requestId hrequest => ?_, fun requestId hrequest => ?_,
    fun requestId hrequest hover => ?_⟩⟩
  · exact (hrely requestId).2 (h.requested requestId (hrequests ▸ hrequest))
  · exact h.recorded requestId (hrunning requestId hrequest).1
  · obtain ⟨hbefore, hne⟩ := hrunning requestId hrequest
    rcases (hsettled requestId).1 hover with hsame | hover
    · exact hne hsame
    · exact h.unsettled requestId hbefore hover

/-- The server accepts a session that nobody takes to be over. -/
theorem Sound.accept (h : Sound world) {requestId : Uuid}
    (hrequest : requestId ∈ world.server.newRequests) (hunsettled : ¬ Settled requestId world) :
    Sound { world with
      server := { world.server with
        newRequests := world.server.newRequests.erase requestId
        running := requestId :: world.server.running } } where
  requested other hother := h.requested other (List.mem_of_mem_erase hother)
  recorded other hother := by
    rcases List.mem_cons.1 hother with rfl | hother
    · exact (h.requested other hrequest).resolve_right hunsettled
    · exact h.recorded other hother
  unsettled other hother := by
    rcases List.mem_cons.1 hother with rfl | hother
    · exact hunsettled
    · exact h.unsettled other hother

/-- A session is not accepted once it was given up, and no call fails after the session was
accepted. -/
def Timely (phone : Phone) : PhoneLabel → Prop
  | .server (.accept requestId) =>
      requestId ∉ phone.world.failed ∧ requestId ∉ phone.world.server.notFound
  | .perform index env => ∀ op ∈ phone.nextOp index, Answered env phone.world op
  | _ => True

theorem server_tolerated {phone : Phone} {label : ServerLabel} {server : Server}
    (htimely : Timely phone (.server label)) (h : phone.world.server.step label = some server) :
    contract.rely phone.world { phone.world with server } ∧
      (Sound phone.world → Sound { phone.world with server }) := by
  cases label with
  | accept requestId =>
      simp only [Server.step] at h
      split at h
      · rename_i haccept
        cases h
        obtain ⟨hrequest, -, hended⟩ := haccept
        have hunsettled : ¬ Settled requestId phone.world := by
          rintro (hfailed | hnotFound | hover)
          · exact htimely.1 hfailed
          · exact htimely.2 hnotFound
          · exact hended hover
        exact ⟨fun _ => ⟨id, id⟩, fun hsound => hsound.accept hrequest hunsettled⟩
      · cases h
  | dismiss requestId =>
      cases h
      exact Same.tolerated ⟨rfl, rfl, List.erase_subset, rfl, rfl, rfl⟩
  | ignore requestId =>
      cases h
      exact Same.tolerated ⟨rfl, rfl, List.Subset.refl _, rfl, rfl, rfl⟩
  | finish requestId | expire requestId =>
      simp only [Server.step] at h
      split at h
      · cases h
        apply tolerated_of_settles requestId
        · rfl
        · intro other hother
          simpa using hother
        · intro other
          simp only [Settled, List.mem_cons]
          tauto
      · cases h
  | notFound requestId =>
      simp only [Server.step] at h
      split at h
      · rename_i hnotFound
        cases h
        apply tolerated_of_settles requestId
        · rfl
        · intro other hother
          refine ⟨hother, ?_⟩
          rintro rfl
          exact hnotFound.2 hother
        · intro other
          simp only [Settled, List.mem_cons]
          tauto
      · cases h

theorem turn_tolerated {phone : Phone} {label : PhoneLabel}
    (hturn : Phone.Turn wireGuard phone label moved) (htimely : Timely phone label) :
    terms.Tolerates phone.world moved := by
  rcases hturn.server with hserver | ⟨step, server, rfl, hserver, rfl⟩
  · exact Same.tolerated (.of_server hturn.frame.vpnSession hturn.frame.failed hserver)
  · exact server_tolerated htimely hserver

/-! ## Runs -/

/-- A session that is running has a row, or a coroutine is at work on it. -/
def Recorded (phone : Phone) : Prop :=
  ∀ requestId ∈ phone.world.server.running,
    requestId ∈ VpnSessionDao.requestIds phone.world.vpnSession ∨
      ∃ job ∈ phone.jobs,
        (∃ service location, job.role.coroutine = .newVpnSession service requestId location) ∨
        ∃ service reason, job.role.coroutine = .endVpnSession service requestId reason

theorem upholds : Phone.Upholds wireGuard terms Timely where
  keeps coroutine _ := program_keeps coroutine _
  admits htimely hop hallows _ := ⟨hallows, htimely _ hop⟩
  booted _ _ := Same.tolerated (.of_server rfl rfl rfl)
  killed _ := Same.tolerated (.of_server rfl rfl rfl)
  turn htimely hturn := turn_tolerated hturn htimely

theorem visits_recorded_of_timely {phone : Phone} {trace : (Phone.system wireGuard).Trace phone}
    (h : trace.Obeys Timely) : trace.Visits Recorded := by
  have habides : trace.Visits (Phone.Abides terms) := upholds.visits ⟨nofun, nofun, nofun⟩ h
  refine habides.mono fun phone habides requestId hrunning => .inl ?_
  exact habides.sound.invariant.recorded requestId hrunning

end Coroutines

/-! ## A session nobody knows of -/

instance (env : Env) (world : World) : DecidablePred (Answered env world)
  | .awaitNewVpnSession _ => inferInstanceAs (Decidable (_ → _))
  | .getDevice | .insertDevice | .insert _ | .update _ | .delete _ | .withRequestId _
  | .deleteWithRequestId _ | .markAllForDeletion | .toReclaim | .sendNewVpnSession _
  | .sendEndVpnSession _ | .awaitEndVpnSession _ | .getVpnSessionStatus _ | .delay
  | .sendOrchestratorMessage _ _ _ | .launchWatch _ _ _ | .endVpnSession _ _ _
  | .runReclaimer _ | .stopRunning _ | .again => .isTrue trivial

instance (phone : Phone) : DecidablePred (Timely phone)
  | .server (.accept _) => inferInstanceAs (Decidable (_ ∧ _))
  | .perform _ _ => inferInstanceAs (Decidable (∀ op ∈ phone.nextOp _, _))
  | .server (.dismiss _) | .server (.finish _) | .server (.notFound _) | .server (.ignore _)
  | .server (.expire _) | .startApp | .startService | .kill | .createService
  | .destroyService _ | .send _ | .handle _ | .revoke _ | .abandon _ | .setDevice _ =>
      .isTrue trivial

open Android.Sample

/-- The end request overtakes the request that was to start the session. -/
def overtaken : List PhoneLabel :=
  starting ++ requesting ++ performing 0 answers 3 ++ disconnecting ++ performing 0 answers 3 ++
    [.server (.notFound requestId)] ++
    performing 0 { answers with
      endVpnSession := .error { errorType := "not_found", message := "" } } 2 ++
    [.server (.accept requestId)]

theorem not_forall_recorded : ¬ ∀ (wireGuard : WireGuard) (phone : Phone),
    (Phone.system wireGuard).Reachable phone → Recorded phone := by
  intro h
  obtain ⟨phone, trace, -, hcheck⟩ := (Phone.system wireGuard).exists_trace_of_run
    (fun _ _ => True) (Phone.init_installed wireGuard) overtaken
    (fun phone => decide (requestId ∈ phone.world.server.running) &&
      phone.world.vpnSession.isEmpty && phone.jobs.isEmpty) (by decide +kernel)
  simp only [Bool.and_eq_true, decide_eq_true_eq, List.isEmpty_iff] at hcheck
  obtain ⟨⟨hrunning, hrows⟩, hjobs⟩ := hcheck
  rcases h wireGuard phone ⟨trace⟩ requestId hrunning with hrow | ⟨job, hjob, -⟩
  · rw [hrows] at hrow
    cases hrow
  · rw [hjobs] at hjob
    cases hjob

/-- The session is accepted, and the end request is lost. -/
def abandoned : List PhoneLabel :=
  starting ++ requesting ++ performing 0 answers 3 ++ [.server (.accept requestId)] ++
    performing 0 answers 2 ++ disconnecting ++ performing 1 answers 4

theorem exists_timely : ∃ phone, ∃ trace : (Phone.system wireGuard).Trace phone,
    trace.Obeys Timely ∧ requestId ∈ phone.world.server.running ∧ trace.Visits Recorded := by
  obtain ⟨phone, trace, hobeys, hcheck⟩ := (Phone.system wireGuard).exists_trace_of_run
    Timely (Phone.init_installed wireGuard) abandoned
    (fun phone => decide (requestId ∈ phone.world.server.running)) (by decide +kernel)
  exact ⟨phone, trace, hobeys, of_decide_eq_true hcheck, visits_recorded_of_timely hobeys⟩

end Records

end Modvpn.Android
