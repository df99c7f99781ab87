/-
# Wake-ups of the reclaimer

A reclaimer stops when it finds nothing to reclaim, and clears its flag in a step of its
own. A session that is marked in between and finds the flag set waits for nobody. While
`runReclaimer` is not called between the two steps, somebody looks at the table again
after every session it was called for.
-/

import Modvpn.Analysis.Android.PhoneStep

namespace Modvpn.Android

open Modvpn.Protocol

namespace Wakeups

/-! ## Reclaimers -/

/-- A reclaimer that is not past its empty check. -/
def looks (job : Job ops Role) : Bool :=
  match job.role.coroutine, job.program.nextOp with
  | .reclaim _ _, some (.stopRunning _) => false
  | .reclaim _ _, some _ => true
  | _, _ => false

def Looking (phone : Phone) : Prop := ∃ job ∈ phone.jobs, looks job = true

/-- The reclaimer is past its empty check, and has not cleared its flag. -/
def Leaving (reclaimer : Nat) (phone : Phone) : Prop :=
  ∃ job ∈ phone.jobs, Op.stopRunning reclaimer ∈ job.program.nextOp

/-- Somebody looks again while a session is marked for which the reclaimer was run. -/
def Awake (phone : Phone) : Prop :=
  ∀ requestId ∈ phone.world.promised,
    requestId ∈ VpnSessionDao.toReclaim phone.world.vpnSession → Looking phone

/-- The reclaimer is not run while the last one leaves, unless nothing is marked, or the
reclaimer of another service looks. -/
def Heeded (phone : Phone) : PhoneLabel → Prop
  | .perform index _ => ∀ service reclaimer, Op.runReclaimer service ∈ phone.nextOp index →
      phone.world.sessionReclaimer[service]? = some (some reclaimer) →
      phone.world.running[reclaimer]? = some true → Leaving reclaimer phone →
        VpnSessionDao.toReclaim phone.world.vpnSession = [] ∨ Looking phone
  | _ => True

/-- What a reclaimer has left to do. -/
inductive Reclaiming (service reclaimer : Nat) : Suspend Unit → Prop
  | looks : Reclaiming service reclaimer (VpnSessionReclaimer.reclaim service reclaimer)
  | sweeps (requestIds : List Uuid) :
      Reclaiming service reclaimer (VpnSessionReclaimer.sweep service requestIds)
  | repeats : Reclaiming service reclaimer (perform .again)
  | stops : Reclaiming service reclaimer (perform (.stopRunning reclaimer))

/-- Who runs reclaimers, and what a reclaimer does. -/
def Shaped (job : Job ops Role) : Prop :=
  match job.role.coroutine with
  | .reclaim service reclaimer =>
      job.role.cancelled = false ∧ Reclaiming service reclaimer job.program
  | .endVpnSession _ _ _ => job.program.Averts fun _ => True
  | .init _ | .newVpnSession _ _ _ | .watch _ _ _ =>
      job.program.Only fun op : Op => ∀ service, op ≠ .runReclaimer service

variable {wireGuard : WireGuard} {service reclaimer : Nat} {job : Job ops Role}

theorem Reclaiming.isRunning {program : Suspend Unit} (h : Reclaiming service reclaimer program) :
    program.isRunning = true := by
  cases h with
  | looks | repeats | stops => rfl
  | sweeps requestIds => cases requestIds <;> rfl

/-- A reclaimer goes on until it has cleared its flag. -/
theorem lasting (hrole : job.role.coroutine = .reclaim service reclaimer) (h : Shaped job) :
    Phone.Lasting job := by
  rw [Shaped, hrole] at h
  refine ⟨fun number => ?_, ?_, h.1, h.2.isRunning⟩
  · rw [hrole]
    rfl
  · rw [hrole]
    nofun

theorem exists_role_of_looks (h : looks job = true) :
    ∃ service reclaimer, job.role.coroutine = .reclaim service reclaimer := by
  simp only [looks] at h
  split at h
  · cases h
  · rename_i service reclaimer op _ hrole _
    exact ⟨service, reclaimer, hrole⟩
  · cases h

theorem looks_launch (service reclaimer : Nat) :
    looks (Phone.launch wireGuard (.reclaim service reclaimer)) = true := rfl

/-- A reclaimer looks again, or is about to clear its flag. -/
theorem looks_or_stops (hrole : job.role.coroutine = .reclaim service reclaimer) (h : Shaped job) :
    looks job = true ∨ Op.stopRunning reclaimer ∈ job.program.nextOp := by
  rw [Shaped, hrole] at h
  obtain ⟨⟨coroutine, cancelled⟩, program⟩ := job
  obtain ⟨-, hprogram⟩ := h
  cases hrole
  cases hprogram with
  | looks | repeats => exact .inl rfl
  | sweeps requestIds => cases requestIds <;> exact .inl rfl
  | stops => exact .inr rfl

/-! ## What coroutines go on to do -/

theorem reclaim_eq : VpnSessionReclaimer.reclaim service reclaimer =
    .perform .toReclaim fun requestIds =>
      if requestIds.isEmpty then perform (.stopRunning reclaimer)
      else VpnSessionReclaimer.sweep service requestIds := rfl

theorem sweep_cons (requestId : Uuid) (requestIds : List Uuid) :
    VpnSessionReclaimer.sweep service (requestId :: requestIds) =
      .perform (.endVpnSession service requestId "reclaimed") fun _ =>
        VpnSessionReclaimer.sweep service requestIds := rfl

theorem sweep_nil : VpnSessionReclaimer.sweep service [] =
    .perform .delay fun _ => perform .again := rfl

theorem Reclaiming.next {op : Op} {next : ops.Resp op → Suspend Unit} (answer : ops.Resp op)
    (h : Reclaiming service reclaimer (Program.perform (S := ops) op next))
    (hrunning : (next answer).isRunning = true) : Reclaiming service reclaimer (next answer) := by
  generalize hprogram : Program.perform (S := ops) op next = program at h
  cases h with
  | looks =>
      rw [reclaim_eq] at hprogram
      cases hprogram
      dsimp only
      split
      · exact .stops
      · exact .sweeps answer
  | sweeps requestIds =>
      cases requestIds with
      | nil =>
          rw [sweep_nil] at hprogram
          cases hprogram
          exact .repeats
      | cons requestId requestIds =>
          rw [sweep_cons] at hprogram
          cases hprogram
          exact .sweeps requestIds
  | repeats | stops =>
      cases hprogram
      cases hrunning

theorem endVpnSession_averts (service : Nat) (requestId : Uuid) (reason : String) :
    (VPNSessionRepository.endVpnSession service requestId reason).Averts fun _ => True := by
  intro device vpnSession
  cases device with
  | none => trivial
  | some device =>
      intro sent reply
      cases reply with
      | ok ended =>
          cases vpnSession with
          | none => trivial
          | some row => exact fun _ => trivial
      | error error =>
          simp only [Program.pure_bind]
          split
          · cases vpnSession with
            | none => trivial
            | some row => exact fun _ => trivial
          · split
            · exact fun _ _ => trivial
            · exact fun _ => trivial

/-- Only coroutines that end a session run the reclaimer. -/
theorem only_of_footprint {coroutine : Coroutine} (program : Suspend Unit)
    (h : program.Only (Footprint coroutine))
    (hcoroutine : ∀ service, ¬ Footprint coroutine (.runReclaimer service)) :
    program.Only fun op : Op => ∀ service, op ≠ .runReclaimer service := by
  refine h.mono fun op hop service heq => ?_
  rw [heq] at hop
  exact hcoroutine service hop

theorem launch_shaped (coroutine : Coroutine) : Shaped (Phone.launch wireGuard coroutine) := by
  have honly := @program_only wireGuard coroutine
  cases coroutine with
  | init ofService | newVpnSession service requestId location | watch service location request =>
      exact only_of_footprint _ honly fun _ => id
  | endVpnSession service requestId reason => exact endVpnSession_averts service requestId reason
  | reclaim service reclaimer => exact ⟨rfl, .looks⟩

/-- The same role with another program. -/
theorem Shaped.cut (h : Shaped job) (hcancelled : job.role.cancelled = true) :
    Shaped { job with program := job.program.cut interruption } := by
  obtain ⟨⟨coroutine, cancelled⟩, program⟩ := job
  cases coroutine with
  | init ofService | newVpnSession service requestId location | watch service location request =>
      exact Program.Only.cut h
  | endVpnSession service requestId reason => exact Program.Averts.cut h
  | reclaim service reclaimer =>
      rw [show cancelled = false from h.1] at hcancelled
      cases hcancelled

theorem Shaped.cancel {number : Nat} (h : Shaped job)
    (hsession : job.role.coroutine.inSession number = true) : Shaped (Phone.cancel job) := by
  obtain ⟨⟨coroutine, cancelled⟩, program⟩ := job
  cases coroutine with
  | newVpnSession service requestId location | watch service location request =>
      exact Program.Only.cut h
  | init ofService | endVpnSession service requestId reason | reclaim service reclaimer =>
      cases hsession

theorem Shaped.restart (h : Shaped job) :
    Shaped { job with program := job.role.coroutine.program wireGuard } := by
  obtain ⟨⟨coroutine, cancelled⟩, program⟩ := job
  have hlaunch : Shaped (Phone.launch wireGuard coroutine) := launch_shaped coroutine
  cases coroutine with
  | init ofService | newVpnSession service requestId location | watch service location request
  | endVpnSession service requestId reason => exact hlaunch
  | reclaim service reclaimer => exact ⟨h.1, .looks⟩

theorem Shaped.next {op : Op} {next : ops.Resp op → Suspend Unit} (answer : ops.Resp op)
    (h : Shaped job) (hprogram : job.program = .perform op next)
    (hrunning : (next answer).isRunning = true) : Shaped { job with program := next answer } := by
  obtain ⟨⟨coroutine, cancelled⟩, program⟩ := job
  cases hprogram
  cases coroutine with
  | init ofService | newVpnSession service requestId location | watch service location request =>
      exact h.2 answer
  | endVpnSession service requestId reason => exact h answer
  | reclaim service reclaimer => exact ⟨h.1, h.2.next answer hrunning⟩

theorem Shaped.remaining {op : Op} {next : ops.Resp op → Suspend Unit} (answer : ops.Resp op)
    (h : Shaped job) (hprogram : job.program = .perform op next)
    (hrunning : (Phone.remaining wireGuard op job.role (next answer)).isRunning = true) :
    Shaped { job with program := Phone.remaining wireGuard op job.role (next answer) } := by
  cases op
  case again =>
    simp only [Phone.remaining]
    split
    · rename_i hcancelled
      exact h.restart.cut hcancelled
    · exact h.restart
  all_goals exact h.next answer hprogram hrunning

/-- Every coroutine keeps its shape, whatever happens. -/
theorem shaped_of_step {phone target : Phone} {label : PhoneLabel}
    (hstep : phone.step wireGuard label = some target) (h : ∀ job ∈ phone.jobs, Shaped job) :
    ∀ job ∈ target.jobs, Shaped job := by
  rcases Phone.performs_or_turns hstep with
    ⟨index, env, job, op, next, rfl, hjob, hprogram, -, rfl⟩ | ⟨hlabel, -⟩
  · apply Phone.forall_jobs_settle (Q := Shaped)
    · exact h
    · exact fun hrunning => (h job (List.mem_of_getElem? hjob)).remaining _ hprogram hrunning
    · intro other hother
      obtain ⟨coroutine, -, rfl⟩ := List.mem_map.1 hother
      exact launch_shaped coroutine
  · apply Phone.forall_jobs_of_step (Q := Shaped) hstep hlabel
    · exact fun job hsession hshaped => hshaped.cancel hsession
    · exact fun coroutine _ => launch_shaped coroutine
    · exact h

theorem looks_after_check (requestIds : List Uuid) :
    (if requestIds.isEmpty then perform (.stopRunning reclaimer)
      else VpnSessionReclaimer.sweep service requestIds : Suspend Unit).isRunning = true ∧
    (looks {
        role := ⟨.reclaim service reclaimer, false⟩
        program := if requestIds.isEmpty then perform (.stopRunning reclaimer)
          else VpnSessionReclaimer.sweep service requestIds } = true ∨ requestIds = []) := by
  cases requestIds with
  | nil => exact ⟨rfl, .inr rfl⟩
  | cons requestId requestIds => exact ⟨rfl, .inl rfl⟩

/-- A reclaimer that looks goes on, and looks again unless it has found nothing. -/
theorem goesOn_of_looks {op : Op} {next : ops.Resp op → Suspend Unit} (env : Env) (world : World)
    (h : Shaped job) (hlooks : looks job = true) (hprogram : job.program = .perform op next) :
    (Phone.remaining wireGuard op job.role (next (World.answer op env world).1)).isRunning = true ∧
      (looks { job with
          program := Phone.remaining wireGuard op job.role (next (World.answer op env world).1) } =
        true ∨ VpnSessionDao.toReclaim world.vpnSession = []) := by
  obtain ⟨service, reclaimer, hrole⟩ := exists_role_of_looks hlooks
  obtain ⟨⟨coroutine, cancelled⟩, program⟩ := job
  cases hrole
  obtain ⟨hcancelled, hreclaiming⟩ := h
  cases hcancelled
  cases hreclaiming with
  | looks =>
      change VpnSessionReclaimer.reclaim service reclaimer = _ at hprogram
      rw [reclaim_eq] at hprogram
      cases hprogram
      exact looks_after_check _
  | sweeps requestIds =>
      cases requestIds with
      | nil =>
          change VpnSessionReclaimer.sweep service [] = _ at hprogram
          rw [sweep_nil] at hprogram
          cases hprogram
          exact ⟨rfl, .inl rfl⟩
      | cons requestId requestIds =>
          change VpnSessionReclaimer.sweep service (requestId :: requestIds) = _ at hprogram
          rw [sweep_cons] at hprogram
          cases hprogram
          cases requestIds <;> exact ⟨rfl, .inl rfl⟩
  | repeats =>
      cases hprogram
      exact ⟨rfl, .inl rfl⟩
  | stops => cases hlooks

/-! ## The world -/

/-- A flag belongs to a coroutine, and what is promised something is marked. -/
structure Sound (phone : Phone) : Prop where
  shaped : ∀ job ∈ phone.jobs, Shaped job
  flagged : ∀ reclaimer, phone.world.running[reclaimer]? = some true →
    ∃ job ∈ phone.jobs, ∃ service, job.role.coroutine = .reclaim service reclaimer
  promised : ∀ requestId ∈ phone.world.promised,
    requestId ∈ VpnSessionDao.toReclaim phone.world.vpnSession

variable {world : World} {requestId : Uuid} {op : Op} {env : Env}

theorem promised_store {rows : List Db.VpnSession} (h : requestId ∈ (world.store rows).promised) :
    requestId ∈ world.promised ∧ requestId ∈ VpnSessionDao.toReclaim rows := by
  simp only [World.store, List.mem_filter, decide_eq_true_eq] at h
  exact h

theorem promised_runReclaimer :
    (world.runReclaimer service).promised = VpnSessionDao.toReclaim world.vpnSession := by
  simp only [World.runReclaimer]
  split <;> rfl

theorem marked_of_runReclaimer (h : requestId ∈ (world.runReclaimer service).promised) :
    requestId ∈ VpnSessionDao.toReclaim (world.runReclaimer service).vpnSession := by
  rw [promised_runReclaimer] at h
  rw [(Phone.untouched_runReclaimer world service).vpnSession]
  exact h

theorem running_runReclaimer
    (h : (world.runReclaimer service).running[reclaimer]? = some true) :
    world.running[reclaimer]? = some true ∨
      world.needsReclaimer service = true ∧ reclaimer = world.running.length := by
  simp only [World.runReclaimer] at h
  split at h
  · rename_i hneeds
    rcases Nat.lt_trichotomy reclaimer world.running.length with hlt | heq | hgt
    · rw [List.getElem?_append_left hlt] at h
      exact .inl h
    · exact .inr ⟨hneeds, heq⟩
    · rw [List.getElem?_append_right (Nat.le_of_lt hgt), List.getElem?_eq_none (by simp; omega)] at h
      cases h
  · exact .inl h

/-- Only the return of `runReclaimer` promises anything. -/
theorem promised_answer (hop : ∀ service, op ≠ .runReclaimer service)
    (hpromised : ∀ requestId ∈ world.promised,
      requestId ∈ VpnSessionDao.toReclaim world.vpnSession)
    (h : requestId ∈ (World.answer op env world).2.promised) :
    requestId ∈ world.promised ∧
      requestId ∈ VpnSessionDao.toReclaim (World.answer op env world).2.vpnSession := by
  have hmoves := Phone.moves_answer op env world
  generalize (World.answer op env world).2 = moved at hmoves h ⊢
  cases hmoves with
  | writes hwrites => exact promised_store h
  | reclaims service => exact absurd rfl (hop service)
  | stays | insertsDevice | requests request | requestsEnd request | fails request _
  | delivers other message | stops reclaimer => exact ⟨h, hpromised requestId h⟩

/-- A flag that is set was set before, or belongs to a reclaimer that is launched. -/
theorem running_answer
    (h : (World.answer op env world).2.running[reclaimer]? = some true) :
    op ≠ .stopRunning reclaimer ∧ (world.running[reclaimer]? = some true ∨
      ∃ service, .reclaim service reclaimer ∈ world.launched op) := by
  have hset : ∀ other, (world.running.set other false)[reclaimer]? = some true →
      other ≠ reclaimer ∧ world.running[reclaimer]? = some true := by
    intro other hrunning
    rw [List.getElem?_set] at hrunning
    split at hrunning
    · split at hrunning <;> cases hrunning
    · rename_i hne
      exact ⟨hne, hrunning⟩
  have hstays : op ≠ .stopRunning reclaimer := by
    rintro rfl
    exact (hset reclaimer h).1 rfl
  refine ⟨hstays, ?_⟩
  have hmoves := Phone.moves_answer op env world
  generalize (World.answer op env world).2 = moved at hmoves h
  cases hmoves with
  | stops other => exact .inl (hset other h).2
  | reclaims service =>
      rcases running_runReclaimer h with hrunning | ⟨hneeds, hlaunched⟩
      · exact .inl hrunning
      · refine .inr ⟨service, ?_⟩
        rw [hlaunched, World.launched, if_pos hneeds]
        exact List.mem_singleton_self _
  | stays | writes _ | insertsDevice | requests request | requestsEnd request | fails request _
  | delivers requestId message => exact .inl h

/-! ## Steps -/

section Steps

variable {phone target : Phone} {label : PhoneLabel}

theorem needsReclaimer_creating (world : World) :
    world.creating.needsReclaimer world.creating.number = true := by
  simp [World.creating, World.needsReclaimer]

theorem createService_eq_some (h : phone.step wireGuard .createService = some target) :
    target.world = phone.world.created ∧
      target.jobs = phone.jobs ++ [Phone.launch wireGuard
        (.reclaim phone.world.creating.number phone.world.running.length)] := by
  cases Phone.steps_of_step h with
  | createService =>
      refine ⟨rfl, ?_⟩
      simp only [World.launched, needsReclaimer_creating, ↓reduceIte]
      rfl

/-- What a step leaves alone that is no operation and creates no service. -/
theorem turn_quiet {moved : World} (h : Phone.Turn wireGuard phone label moved)
    (hlabel : label ≠ .createService) :
    moved.running = phone.world.running ∧ moved.promised = phone.world.promised ∧
        moved.vpnSession = phone.world.vpnSession ∨
      moved.running = [] ∧ moved.promised = [] := by
  cases h with
  | creates _ => exact absurd rfl hlabel
  | dies => exact .inr ⟨rfl, rfl⟩
  | stays | sends request | serves label server _ | signs device => exact .inl ⟨rfl, rfl, rfl⟩
  | handles message rest service next _ _ _ _ _ =>
      have hframe := Phone.handled_undisturbed wireGuard next
        { phone with world := { phone.world with queue := rest } }
      exact .inl ⟨hframe.running, hframe.promised, hframe.vpnSession⟩
  | revokes service next _ _ _ _ | destroys service next _ _ _ _ =>
      have hframe := Phone.handled_undisturbed wireGuard next phone
      exact .inl ⟨hframe.running, hframe.promised, hframe.vpnSession⟩

/-- A reclaimer goes on until it clears its flag, unless the process is killed. -/
theorem goesOn_of_step (hshaped : Shaped job) (hjob : job ∈ phone.jobs)
    (hrole : job.role.coroutine = .reclaim service reclaimer)
    (hstep : phone.step wireGuard label = some target) :
    (∃ other ∈ target.jobs, other.role = job.role ∧ (looks job = true →
        looks other = true ∨ VpnSessionDao.toReclaim phone.world.vpnSession = [])) ∨
      (target.world.running = [] ∧ target.world.promised = []) ∨
      ∃ index env, label = .perform index env ∧ phone.jobs[index]? = some job ∧
        Op.stopRunning reclaimer ∈ job.program.nextOp := by
  rcases Phone.performs_or_turns hstep with
    ⟨index, env, performed, op, next, rfl, hperformed, hprogram, -, rfl⟩ | ⟨hlabel, -⟩
  · obtain ⟨position, hposition⟩ := List.getElem?_of_mem hjob
    by_cases hsame : position = index
    · subst hsame
      rw [hposition] at hperformed
      cases hperformed
      rcases looks_or_stops hrole hshaped with hlooks | hstops
      · obtain ⟨hrunning, hmoved⟩ := goesOn_of_looks env phone.world hshaped hlooks hprogram
        have hindex := (List.getElem?_eq_some_iff.1 hposition).1
        exact .inl ⟨_, Phone.mem_settle_self hindex hrunning, rfl, fun _ => hmoved⟩
      · exact .inr (.inr ⟨position, env, rfl, hposition, hstops⟩)
    · rcases Phone.mem_settle hposition hsame with hmem | hkilled
      · exact .inl ⟨job, hmem, rfl, .inl⟩
      · rw [hkilled]
        exact .inr (.inl ⟨rfl, rfl⟩)
  · rcases (lasting hrole hshaped).mem_of_step hjob hstep hlabel with hmem | hkilled
    · exact .inl ⟨job, hmem, rfl, .inl⟩
    · exact .inr (.inl hkilled)

/-- Who looks goes on looking while something is marked and promised. -/
theorem looking_of_step (hshaped : ∀ job ∈ phone.jobs, Shaped job) (h : Looking phone)
    (hstep : phone.step wireGuard label = some target)
    (hmarked : VpnSessionDao.toReclaim phone.world.vpnSession ≠ [])
    (hpromised : target.world.promised ≠ []) : Looking target := by
  obtain ⟨job, hjob, hlooks⟩ := h
  obtain ⟨service, reclaimer, hrole⟩ := exists_role_of_looks hlooks
  rcases goesOn_of_step (hshaped job hjob) hjob hrole hstep with
    ⟨other, hother, -, hmoved⟩ | ⟨-, hkilled⟩ | ⟨index, env, -, -, hstops⟩
  · exact ⟨other, hother, (hmoved hlooks).resolve_right hmarked⟩
  · exact absurd hkilled hpromised
  · simp only [Option.mem_def] at hstops
    simp only [looks, hrole, hstops] at hlooks
    cases hlooks

theorem Sound.of_installed : Sound Phone.installed :=
  ⟨nofun, nofun, nofun⟩

/-- A flag that is set was set before and is not being cleared, or its coroutine is new. -/
theorem running_of_step (hstep : phone.step wireGuard label = some target)
    (hrunning : target.world.running[reclaimer]? = some true) :
    (phone.world.running[reclaimer]? = some true ∧ ∀ index env job,
        label = .perform index env → phone.jobs[index]? = some job →
          Op.stopRunning reclaimer ∉ job.program.nextOp) ∨
      ∃ job ∈ target.jobs, ∃ service, job.role.coroutine = .reclaim service reclaimer := by
  rcases Phone.performs_or_turns hstep with
    ⟨index, env, job, op, next, rfl, hjob, hprogram, -, rfl⟩ | ⟨hlabel, hturn⟩
  · have hanswered : (World.answer op env phone.world).2.running[reclaimer]? = some true := by
      rcases Phone.settle_world index _ _ _ with ⟨booted, hworld⟩ | hworld
      · rw [hworld] at hrunning
        exact hrunning
      · rw [hworld] at hrunning
        cases hrunning
    obtain ⟨hop, hbefore | ⟨service, hlaunched⟩⟩ := running_answer hanswered
    · refine .inl ⟨hbefore, ?_⟩
      rintro _ _ other ⟨⟩ hother hstops
      rw [hjob] at hother
      cases hother
      rw [hprogram] at hstops
      cases hstops
      exact hop rfl
    · rcases Phone.mem_settle_launched (List.mem_map_of_mem hlaunched) with hmem | hkilled
      · exact .inr ⟨_, hmem, service, rfl⟩
      · rw [hkilled] at hrunning
        cases hrunning
  · by_cases hcreate : label = .createService
    · subst hcreate
      obtain ⟨hworld, hjobs⟩ := createService_eq_some hstep
      rw [hworld] at hrunning
      rcases running_runReclaimer hrunning with hbefore | ⟨-, hlaunched⟩
      · exact .inl ⟨hbefore, fun index env job heq => nomatch heq⟩
      · right
        rw [hjobs, hlaunched]
        exact ⟨_, List.mem_append_right _ (List.mem_singleton_self _), _, rfl⟩
    · rcases turn_quiet hturn hcreate with ⟨hsame, -⟩ | ⟨hkilled, -⟩
      · rw [hsame] at hrunning
        exact .inl ⟨hrunning, fun index env _ heq => absurd heq (hlabel index env)⟩
      · rw [hkilled] at hrunning
        cases hrunning

/-- Promises are made by `runReclaimer`, and kept while the session is marked. -/
theorem promised_of_step (h : Sound phone) (hstep : phone.step wireGuard label = some target)
    (hpromised : requestId ∈ target.world.promised) :
    requestId ∈ VpnSessionDao.toReclaim target.world.vpnSession ∧
      (requestId ∈ phone.world.promised ∨ label = .createService ∨
        ∃ index env service, label = .perform index env ∧
          Op.runReclaimer service ∈ phone.nextOp index ∧
            requestId ∈ VpnSessionDao.toReclaim phone.world.vpnSession) := by
  rcases Phone.performs_or_turns hstep with
    ⟨index, env, job, op, next, rfl, hjob, hprogram, -, rfl⟩ | ⟨-, hturn⟩
  · rcases Phone.settle_world index _ _ _ with ⟨booted, hworld⟩ | hworld
    · rw [hworld] at hpromised ⊢
      by_cases hop : ∃ service, op = Op.runReclaimer service
      · obtain ⟨service, rfl⟩ := hop
        have hfound : requestId ∈ VpnSessionDao.toReclaim phone.world.vpnSession := by
          rw [← promised_runReclaimer]
          exact hpromised
        exact ⟨marked_of_runReclaimer hpromised,
          .inr (.inr ⟨index, env, service, rfl, Phone.mem_nextOp hjob hprogram, hfound⟩)⟩
      · obtain ⟨hbefore, hmarked⟩ :=
          promised_answer (fun service heq => hop ⟨service, heq⟩) h.promised hpromised
        exact ⟨hmarked, .inl hbefore⟩
    · rw [hworld] at hpromised
      cases hpromised
  · by_cases hcreate : label = .createService
    · subst hcreate
      rw [(createService_eq_some hstep).1] at hpromised ⊢
      exact ⟨marked_of_runReclaimer hpromised, .inr (.inl rfl)⟩
    · rcases turn_quiet hturn hcreate with ⟨-, hsame, hrows⟩ | ⟨-, hkilled⟩
      · rw [hsame] at hpromised
        rw [hrows]
        exact ⟨h.promised requestId hpromised, .inl hpromised⟩
      · rw [hkilled] at hpromised
        cases hpromised

theorem Sound.step (h : Sound phone) (hstep : phone.step wireGuard label = some target) :
    Sound target := by
  refine ⟨shaped_of_step hstep h.shaped, ?_, ?_⟩
  · intro reclaimer hrunning
    rcases running_of_step hstep hrunning with ⟨hbefore, hstays⟩ | hlaunched
    · obtain ⟨job, hjob, service, hrole⟩ := h.flagged reclaimer hbefore
      rcases goesOn_of_step (h.shaped job hjob) hjob hrole hstep with
        ⟨other, hother, hsame, -⟩ | ⟨hkilled, -⟩ | ⟨index, env, rfl, hindex, hstops⟩
      · exact ⟨other, hother, service, by rw [hsame, hrole]⟩
      · rw [hkilled] at hrunning
        cases hrunning
      · exact absurd hstops (hstays index env job rfl hindex)
    · exact hlaunched
  · exact fun requestId hpromised => (promised_of_step h hstep hpromised).1

/-! ## Running the reclaimer -/

theorem flag_of_needsReclaimer (h : ¬ world.needsReclaimer service = true) :
    ∃ reclaimer, world.sessionReclaimer[service]? = some (some reclaimer) ∧
      world.running[reclaimer]? = some true := by
  simp only [World.needsReclaimer] at h
  split at h
  · rename_i reclaimer hcurrent
    refine ⟨reclaimer, hcurrent, ?_⟩
    simpa using h
  · exact absurd rfl h

/-- Somebody looks after the reclaimer was run and found anything to do. -/
theorem looking_of_runReclaimer {index : Nat} (h : Sound phone)
    (hheeded : Heeded phone (.perform index env))
    (hnext : Op.runReclaimer service ∈ phone.nextOp index)
    (hstep : phone.step wireGuard (.perform index env) = some target)
    (hmarked : VpnSessionDao.toReclaim phone.world.vpnSession ≠ [])
    (hpromised : target.world.promised ≠ []) : Looking target := by
  have hgoesOn := fun hlooking : Looking phone =>
    looking_of_step h.shaped hlooking hstep hmarked hpromised
  by_cases hneeds : phone.world.needsReclaimer service = true
  · obtain ⟨job, op, next, hjob, hprogram, -, rfl⟩ := Phone.perform_eq_some hstep
    have hop := Phone.mem_nextOp hjob hprogram
    rw [Option.mem_def] at hop hnext
    rw [hop] at hnext
    cases hnext
    have hlaunched : Coroutine.reclaim service phone.world.running.length ∈
        phone.world.launched (.runReclaimer service) := by
      rw [World.launched, if_pos hneeds]
      exact List.mem_singleton_self _
    rcases Phone.mem_settle_launched (List.mem_map_of_mem hlaunched) with hmem | hkilled
    · exact ⟨_, hmem, looks_launch _ _⟩
    · rw [hkilled] at hpromised
      exact absurd rfl hpromised
  · obtain ⟨reclaimer, hcurrent, hflag⟩ := flag_of_needsReclaimer hneeds
    obtain ⟨job, hjob, other, hrole⟩ := h.flagged reclaimer hflag
    rcases looks_or_stops hrole (h.shaped job hjob) with hlooks | hstops
    · exact hgoesOn ⟨job, hjob, hlooks⟩
    · have hheeded := hheeded service reclaimer hnext hcurrent hflag ⟨job, hjob, hstops⟩
      exact hgoesOn (hheeded.resolve_left hmarked)

/-- Who runs the reclaimer ends a session, and does not panic. -/
theorem ends_of_runReclaimer {next : Unit → Suspend Unit} (h : Shaped job)
    (hprogram : job.program = .perform (.runReclaimer service) next) :
    (next ()).Averts (fun _ => True) ∧ ∀ program, looks { job with program } = false := by
  obtain ⟨⟨coroutine, cancelled⟩, performed⟩ := job
  cases hprogram
  cases coroutine with
  | endVpnSession service requestId reason => exact ⟨h (), fun _ => rfl⟩
  | init ofService | newVpnSession service requestId location | watch service location request =>
      exact absurd rfl (h.1 _)
  | reclaim other reclaimer =>
      obtain ⟨-, hreclaiming⟩ := h
      generalize hshape : Program.perform (S := ops) (Op.runReclaimer service) next = program
        at hreclaiming
      cases hreclaiming with
      | sweeps requestIds => cases requestIds <;> cases hshape
      | looks | repeats | stops => cases hshape

/-- Whoever leaves it to the reclaimer that runs does not look itself. -/
theorem looking_before_runReclaimer {index : Nat} (h : Sound phone)
    (hnext : Op.runReclaimer service ∈ phone.nextOp index)
    (hneeds : ¬ phone.world.needsReclaimer service = true)
    (hstep : phone.step wireGuard (.perform index env) = some target) :
    target.world.promised = VpnSessionDao.toReclaim phone.world.vpnSession ∧
      (Looking target → Looking phone) := by
  obtain ⟨job, op, next, hjob, hprogram, -, rfl⟩ := Phone.perform_eq_some hstep
  have hop := Phone.mem_nextOp hjob hprogram
  rw [Option.mem_def] at hop hnext
  rw [hop] at hnext
  cases hnext
  obtain ⟨haverts, hlooks⟩ := ends_of_runReclaimer (h.shaped job (List.mem_of_getElem? hjob))
    hprogram
  constructor
  · simp only [Phone.settle, Phone.remaining]
    split
    · exact promised_runReclaimer
    · exact promised_runReclaimer
    · rename_i message hpanic
      rw [hpanic] at haverts
      exact absurd trivial haverts
  · rintro ⟨other, hother, hlooking⟩
    refine Phone.forall_jobs_settle (Q := fun other => looks other = true → Looking phone)
      ?_ ?_ ?_ other hother hlooking
    · exact fun other hother hlooking => ⟨other, hother, hlooking⟩
    · intro _ hlooking
      rw [hlooks] at hlooking
      cases hlooking
    · rw [World.launched, if_neg hneeds]
      intro other hother
      cases hother

/-- As long as somebody has looked, the step keeps it so precisely when it meets the
condition. -/
theorem awake_iff_heeded (h : Sound phone) (hawake : Awake phone)
    (hstep : phone.step wireGuard label = some target) : Awake target ↔ Heeded phone label := by
  constructor
  · intro htarget
    cases label with
    | perform index env =>
        intro service reclaimer hnext hcurrent hflag _
        by_cases hmarked : VpnSessionDao.toReclaim phone.world.vpnSession = []
        · exact .inl hmarked
        right
        have hneeds : ¬ phone.world.needsReclaimer service = true := by
          simp [World.needsReclaimer, hcurrent, hflag]
        obtain ⟨hpromised, hlooking⟩ := looking_before_runReclaimer h hnext hneeds hstep
        obtain ⟨requestId, hrequestId⟩ := List.exists_mem_of_ne_nil _ hmarked
        rw [← hpromised] at hrequestId
        exact hlooking (htarget requestId hrequestId (promised_of_step h hstep hrequestId).1)
    | startApp | startService | kill | createService | destroyService env | send request
    | handle env | revoke env | abandon index | server label | setDevice device => trivial
  · intro hheeded requestId hpromised hmarked
    have hsome := List.ne_nil_of_mem hpromised
    obtain ⟨-, hbefore | rfl | ⟨index, env, service, rfl, hnext, hfound⟩⟩ :=
      promised_of_step h hstep hpromised
    · have hmarked := h.promised requestId hbefore
      exact looking_of_step h.shaped (hawake requestId hbefore hmarked) hstep
        (List.ne_nil_of_mem hmarked) hsome
    · obtain ⟨-, hjobs⟩ := createService_eq_some hstep
      rw [Looking, hjobs]
      exact ⟨_, List.mem_append_right _ (List.mem_singleton_self _), looks_launch _ _⟩
    · exact looking_of_runReclaimer h hheeded hnext hstep (List.ne_nil_of_mem hfound) hsome

end Steps

theorem visits_awake_iff_heeded {phone : Phone} (trace : (Phone.system wireGuard).Trace phone) :
    trace.Visits Awake ↔ trace.Obeys Heeded := by
  apply TransitionSystem.Trace.visits_iff_obeys (I := Sound)
  · rintro _ rfl
    exact ⟨.of_installed, nofun⟩
  · exact fun source label target hstep hsound => hsound.step hstep
  · exact fun source label target hstep hsound hawake => awake_iff_heeded hsound hawake hstep

/-! ## A session that waits for nobody -/

open Android.Sample

/-- The reclaimer has found nothing, and a session cannot be ended before it clears its flag. -/
def unheeded : List PhoneLabel :=
  [.startService] ++ performing 0 answers 3 ++ [.setDevice [device], .createService] ++
    performing 0 answers 1 ++ requesting ++ performing 1 answers 1 ++ disconnecting ++
    [.abandon 1] ++ performing 1 answers 6

theorem not_forall_awake : ¬ ∀ (wireGuard : WireGuard) (phone : Phone),
    (Phone.system wireGuard).Reachable phone → Awake phone := by
  intro h
  obtain ⟨phone, trace, -, hcheck⟩ := (Phone.system wireGuard).exists_trace_of_run
    (fun _ _ => True) (Phone.init_installed wireGuard) unheeded
    (fun phone => decide (requestId ∈ phone.world.promised) &&
      decide (requestId ∈ VpnSessionDao.toReclaim phone.world.vpnSession) &&
      phone.jobs.all fun job => !looks job) (by decide +kernel)
  simp only [Bool.and_eq_true, decide_eq_true_eq, List.all_eq_true, Bool.not_eq_true'] at hcheck
  obtain ⟨⟨hpromised, hmarked⟩, hjobs⟩ := hcheck
  obtain ⟨job, hjob, hlooks⟩ := h wireGuard phone ⟨trace⟩ requestId hpromised hmarked
  rw [hjobs job hjob] at hlooks
  cases hlooks

end Wakeups

end Modvpn.Android
