/-
# What a step of the client does

A handler of the orchestrator leaves tables, server and reclaimers alone, cancels the
children of its service and launches coroutines. A coroutine performs one operation,
goes on, and is joined by what the operation launches. What holds of every program that
may be launched, and survives being cancelled, is carried through both. So are terms on
which the coroutines share the world, if everything else is tolerated.
-/

import Modvpn.Android.Phone
import Modvpn.Analysis.Android.Footprints

namespace Modvpn.Android

open Modvpn.Protocol
open VPNOrchestrator (Invocation)

namespace Phone

variable {wireGuard : WireGuard} {phone target : Phone} {env : HandlerEnv}
  {invocation : Invocation} {service next : VPNService}

theorem init_installed (wireGuard : WireGuard) : (system wireGuard).Init installed := rfl

/-! ## Handlers -/

theorem invoke_eq_some (h : phone.invoke wireGuard env invocation = some target) :
    ∃ service, phone.world.service = some service ∧ service.offers env = true ∧
      env.randomUuid ∉ phone.world.issued ∧
      (target = phone.killed ∨
        ∃ next, VPNOrchestrator.handle env wireGuard { service with effects := [] } invocation =
          .ok next ∧ target = phone.handled wireGuard next) := by
  simp only [invoke] at h
  split at h
  · cases h
  · rename_i service hservice
    split at h
    · rename_i hoffers
      rw [Bool.and_eq_true, decide_eq_true_eq] at hoffers
      refine ⟨service, hservice, hoffers.1, hoffers.2, ?_⟩
      split at h
      · cases h
        exact .inl rfl
      · rename_i next hnext
        cases h
        exact .inr ⟨next, hnext, rfl⟩
    · cases h

/-- What the handlers leave alone. -/
structure Undisturbed (source target : World) : Prop where
  device : target.device = source.device
  vpnSession : target.vpnSession = source.vpnSession
  server : target.server = source.server
  failed : target.failed = source.failed
  number : target.number = source.number
  sessionReclaimer : target.sessionReclaimer = source.sessionReclaimer
  running : target.running = source.running
  promised : target.promised = source.promised
  issued : source.issued ⊆ target.issued

theorem Undisturbed.refl (world : World) : Undisturbed world world :=
  ⟨rfl, rfl, rfl, rfl, rfl, rfl, rfl, rfl, List.Subset.refl _⟩

theorem Undisturbed.trans {first second third : World} (h : Undisturbed first second)
    (hnext : Undisturbed second third) : Undisturbed first third where
  device := hnext.device.trans h.device
  vpnSession := hnext.vpnSession.trans h.vpnSession
  server := hnext.server.trans h.server
  failed := hnext.failed.trans h.failed
  number := hnext.number.trans h.number
  sessionReclaimer := hnext.sessionReclaimer.trans h.sessionReclaimer
  running := hnext.running.trans h.running
  promised := hnext.promised.trans h.promised
  issued := List.Subset.trans h.issued hnext.issued

theorem carryOut_undisturbed (phone : Phone) (effect : Effect) :
    Undisturbed phone.world (phone.carryOut wireGuard effect).world := by
  cases effect with
  | newVpnSession requestId location =>
      exact ⟨rfl, rfl, rfl, rfl, rfl, rfl, rfl, rfl, List.subset_cons_self ..⟩
  | sendEvent messenger event | startForeground vpnState | stopService | cancelChildren
  | cleanupIPC | endVpnSession requestId reason | turnOnVPN config | wgTurnOn config =>
      exact ⟨rfl, rfl, rfl, rfl, rfl, rfl, rfl, rfl, List.Subset.refl _⟩

theorem foldl_carryOut_undisturbed (wireGuard : WireGuard) (effects : List Effect) (phone : Phone) :
    Undisturbed phone.world (effects.foldl (carryOut wireGuard) phone).world := by
  induction effects generalizing phone with
  | nil => exact .refl _
  | cons effect effects ih => exact (carryOut_undisturbed phone effect).trans (ih _)

theorem handled_undisturbed (wireGuard : WireGuard) (service : VPNService) (phone : Phone) :
    Undisturbed phone.world (phone.handled wireGuard service).world := by
  obtain ⟨hdevice, hrows, hserver, hfailed, hnumber, hreclaimer, hrunning, hpromised, hissued⟩ :=
    foldl_carryOut_undisturbed wireGuard service.effects
      { phone with world := { phone.world with service := some service } }
  exact ⟨hdevice, hrows, hserver, hfailed, hnumber, hreclaimer, hrunning, hpromised, hissued⟩

/-- A coroutine that may be launched: a new session was given its id before. -/
def Launchable (world : World) : Coroutine → Prop
  | .newVpnSession _ requestId _ => requestId ∈ world.issued
  | .init _ | .watch _ _ _ | .endVpnSession _ _ _ | .reclaim _ _ => True

theorem Launchable.mono {source moved : World} {coroutine : Coroutine}
    (h : Launchable source coroutine) (hissued : source.issued ⊆ moved.issued) :
    Launchable moved coroutine := by
  cases coroutine with
  | newVpnSession number requestId location => exact hissued h
  | init _ | watch _ _ _ | endVpnSession _ _ _ | reclaim _ _ => trivial

theorem forall_cancelChildren {Q : Job ops Role → Prop} {number : Nat}
    {jobs : List (Job ops Role)} (h : ∀ job ∈ jobs, Q job)
    (hcancel : ∀ job, job.role.coroutine.inSession number = true → Q job → Q (cancel job)) :
    ∀ job ∈ cancelChildren number jobs, Q job := by
  intro job hjob
  rw [cancelChildren, List.mem_filter, List.mem_map] at hjob
  obtain ⟨⟨prior, hprior, rfl⟩, -⟩ := hjob
  split
  · rename_i hsession
    exact hcancel prior hsession (h prior hprior)
  · exact h prior hprior

theorem forall_append_launch {Q : Job ops Role → Prop} {jobs : List (Job ops Role)}
    {coroutine : Coroutine} (h : ∀ job ∈ jobs, Q job) (hlaunch : Q (launch wireGuard coroutine)) :
    ∀ job ∈ jobs ++ [launch wireGuard coroutine], Q job := by
  intro job hjob
  rcases List.mem_append.1 hjob with hjob | hjob
  · exact h job hjob
  · rw [List.mem_singleton.1 hjob]
    exact hlaunch

/-- What holds of the jobs before a handler, survives being cancelled, and holds of every
coroutine that is launched, holds of the jobs after the handler. -/
theorem forall_jobs_foldl_carryOut {Q : Job ops Role → Prop} (effects : List Effect)
    (hcancel : ∀ job, job.role.coroutine.inSession phone.world.number = true → Q job →
      Q (cancel job))
    (hlaunch : ∀ coroutine, Launchable (effects.foldl (carryOut wireGuard) phone).world coroutine →
      Q (launch wireGuard coroutine))
    (h : ∀ job ∈ phone.jobs, Q job) :
    ∀ job ∈ (effects.foldl (carryOut wireGuard) phone).jobs, Q job := by
  induction effects generalizing phone with
  | nil => exact h
  | cons effect effects ih =>
      rw [List.foldl_cons]
      apply ih
      · rw [(carryOut_undisturbed phone effect).number]
        exact hcancel
      · exact hlaunch
      · have hissued := (foldl_carryOut_undisturbed wireGuard effects
          (phone.carryOut wireGuard effect)).issued
        cases effect with
        | cancelChildren => exact forall_cancelChildren h hcancel
        | newVpnSession requestId location =>
            exact forall_append_launch h (hlaunch _ (hissued (List.mem_cons_self ..)))
        | endVpnSession requestId reason => exact forall_append_launch h (hlaunch _ trivial)
        | sendEvent messenger event | startForeground vpnState | stopService | cleanupIPC
        | turnOnVPN config | wgTurnOn config => exact h

theorem forall_jobs_handled {Q : Job ops Role → Prop}
    (hcancel : ∀ job, job.role.coroutine.inSession phone.world.number = true → Q job →
      Q (cancel job))
    (hlaunch : ∀ coroutine, Launchable (phone.handled wireGuard service).world coroutine →
      Q (launch wireGuard coroutine))
    (h : ∀ job ∈ phone.jobs, Q job) :
    ∀ job ∈ (phone.handled wireGuard service).jobs, Q job :=
  forall_jobs_foldl_carryOut service.effects hcancel hlaunch h

/-! ## Operations -/

/-- What a statement makes of the table. -/
inductive Writes (rows : List Db.VpnSession) : Op → List Db.VpnSession → Prop
  | inserts (vpnSession : Db.VpnSession) :
      Writes rows (.insert vpnSession) (VpnSessionDao.insert vpnSession rows)
  | updates (vpnSession : Db.VpnSession) :
      Writes rows (.update vpnSession) (VpnSessionDao.update vpnSession rows)
  | deletes (vpnSession : Db.VpnSession) :
      Writes rows (.delete vpnSession) (VpnSessionDao.delete vpnSession rows)
  | deletesWithRequestId (requestId : Uuid) :
      Writes rows (.deleteWithRequestId requestId)
        (VpnSessionDao.deleteWithRequestId requestId rows)
  | marksAll : Writes rows .markAllForDeletion (VpnSessionDao.markAllForDeletion rows)

/-- What an operation makes of the world, with a rule for each part that changes. -/
inductive Moves (env : Env) (world : World) : Op → World → Prop
  | stays (op : Op) : Moves env world op world
  | writes {op : Op} {rows : List Db.VpnSession} (hwrites : Writes world.vpnSession op rows) :
      Moves env world op (world.store rows)
  | insertsDevice : Moves env world .insertDevice { world with
      device := world.device.filter (·.uniqueId ≠ env.createdDevice.uniqueId) ++
        [env.createdDevice] }
  | requests (request : NewSession) : Moves env world (.sendNewVpnSession request) { world with
      server := { world.server with
        newRequests := request.requestId :: world.server.newRequests } }
  | requestsEnd (request : EndSessionApi) : Moves env world (.sendEndVpnSession request) { world with
      server := { world.server with
        endRequests := request.requestId :: world.server.endRequests } }
  | fails (request : NewSession) (hfails : env.newVpnSession.isOk = false) :
      Moves env world (.awaitNewVpnSession request)
        { world with failed := request.requestId :: world.failed }
  | delivers (requestId : Uuid) (message : OrchestratorMessage) :
      Moves env world (.sendOrchestratorMessage world.number requestId message)
        { world with queue := world.queue ++ [.orchestrator requestId message] }
  | reclaims (service : Nat) : Moves env world (.runReclaimer service) (world.runReclaimer service)
  | stops (reclaimer : Nat) : Moves env world (.stopRunning reclaimer)
      { world with running := world.running.set reclaimer false }

/-- The only place where the operations are taken apart. -/
theorem moves_answer (op : Op) (env : Env) (world : World) :
    Moves env world op (World.answer op env world).2 := by
  cases op with
  | getDevice | withRequestId requestId | toReclaim | awaitEndVpnSession request
  | getVpnSessionStatus request | delay | launchWatch service location request
  | endVpnSession service requestId reason | again => exact .stays _
  | insertDevice => exact .insertsDevice
  | insert vpnSession => exact .writes (.inserts vpnSession)
  | update vpnSession => exact .writes (.updates vpnSession)
  | delete vpnSession => exact .writes (.deletes vpnSession)
  | deleteWithRequestId requestId => exact .writes (.deletesWithRequestId requestId)
  | markAllForDeletion => exact .writes .marksAll
  | sendNewVpnSession request => exact .requests request
  | sendEndVpnSession request => exact .requestsEnd request
  | awaitNewVpnSession request =>
      cases hreply : env.newVpnSession with
      | ok accepted =>
          simp only [World.answer, hreply]
          exact .stays _
      | error error =>
          simp only [World.answer, hreply]
          exact .fails request (by rw [hreply]; rfl)
  | sendOrchestratorMessage service requestId message =>
      simp only [World.answer, World.sendOrchestratorMessage]
      split
      · rename_i hcurrent
        rw [Bool.and_eq_true, decide_eq_true_eq] at hcurrent
        rw [hcurrent.2]
        exact .delivers requestId message
      · exact .stays _
  | runReclaimer service => exact .reclaims service
  | stopRunning reclaimer => exact .stops reclaimer

/-- What running the reclaimer leaves alone. -/
structure Untouched (source target : World) : Prop where
  device : target.device = source.device
  vpnSession : target.vpnSession = source.vpnSession
  server : target.server = source.server
  failed : target.failed = source.failed
  service : target.service = source.service
  session : target.session = source.session
  queue : target.queue = source.queue
  issued : target.issued = source.issued

theorem untouched_runReclaimer (world : World) (service : Nat) :
    Untouched world (world.runReclaimer service) := by
  simp only [World.runReclaimer]
  split <;> exact ⟨rfl, rfl, rfl, rfl, rfl, rfl, rfl, rfl⟩

theorem Untouched.held {source target : World} (h : Untouched source target) :
    target.held = source.held := by
  rw [World.held, World.held, h.service]

/-- A new service, with its reclaimer. -/
theorem untouched_created (world : World) : Untouched world.creating world.created :=
  untouched_runReclaimer world.creating world.creating.number

theorem held_created (world : World) : world.created.held = none :=
  (untouched_created world).held

/-! ## Coroutines -/

/-- The operation a coroutine is about to perform. -/
def nextOp (phone : Phone) (index : Nat) : Option Op :=
  phone.jobs[index]?.bind (·.program.nextOp)

theorem mem_nextOp {index : Nat} {job : Job ops Role} {op : Op}
    {next : ops.Resp op → Program ops Unit} (hjob : phone.jobs[index]? = some job)
    (hprogram : job.program = .perform op next) : op ∈ phone.nextOp index := by
  rw [nextOp, hjob, Option.bind_some, hprogram]
  rfl

/-- What a step does, with a rule for each label. -/
inductive Steps (wireGuard : WireGuard) (phone : Phone) : PhoneLabel → Phone → Prop
  | startApp : Steps wireGuard phone .startApp { phone with
      jobs := phone.jobs.filter (·.role.coroutine ≠ .init false) ++
        [launch wireGuard (.init false)] }
  | startService : Steps wireGuard phone .startService { phone.killed with
      jobs := phone.killed.jobs ++ [launch wireGuard (.init true)] }
  | kill : Steps wireGuard phone .kill phone.killed
  | createService (hservice : phone.world.service = none) (hbooted : phone.world.booted = true) :
      Steps wireGuard phone .createService {
        world := phone.world.created
        jobs := phone.jobs ++ (phone.world.creating.launched
          (.runReclaimer phone.world.creating.number)).map (launch wireGuard) }
  | destroyService {env : HandlerEnv} {next : Phone}
      (hinvoke : phone.invoke wireGuard env .destroy = some next) :
      Steps wireGuard phone (.destroyService env)
        { next with world := { next.world with service := none, session := none } }
  | send (request : Request) (hservice : phone.world.service.isSome = true) :
      Steps wireGuard phone (.send request) { phone with
        world := { phone.world with queue := phone.world.queue ++ [.request request] } }
  | handle {env : HandlerEnv} {message : LooperMessage} {rest : List LooperMessage} {target : Phone}
      (hqueue : phone.world.queue = message :: rest)
      (hinvoke : Phone.invoke wireGuard env message.invocation
        { phone with world := { phone.world with queue := rest } } = some target) :
      Steps wireGuard phone (.handle env) target
  | revoke {env : HandlerEnv} {target : Phone}
      (hinvoke : phone.invoke wireGuard env .revoke = some target) :
      Steps wireGuard phone (.revoke env) target
  | perform {index : Nat} {env : Env} {job : Job ops Role} {op : Op}
      {next : ops.Resp op → Program ops Unit} (hjob : phone.jobs[index]? = some job)
      (hprogram : job.program = .perform op next) (hallows : phone.world.allows env op = true) :
      Steps wireGuard phone (.perform index env) (settle index
        { job with
          program := remaining wireGuard op job.role (next (World.answer op env phone.world).1) }
        ((phone.world.launched op).map (launch wireGuard))
        { phone with world := (World.answer op env phone.world).2 })
  | abandon {index : Nat} {job : Job ops Role} (hjob : phone.jobs[index]? = some job)
      (hcancelled : job.role.cancelled = true) :
      Steps wireGuard phone (.abandon index) { phone with jobs := phone.jobs.eraseIdx index }
  | server {label : ServerLabel} {server : Server}
      (hserver : phone.world.server.step label = some server) :
      Steps wireGuard phone (.server label) { phone with world := { phone.world with server } }
  | setDevice (device : List Db.Device) :
      Steps wireGuard phone (.setDevice device) { phone with world := { phone.world with device } }

/-- The only place where the branches of a step are taken apart. -/
theorem steps_of_step {label : PhoneLabel} (hstep : phone.step wireGuard label = some target) :
    Steps wireGuard phone label target := by
  cases label with
  | startApp =>
      cases hstep
      exact .startApp
  | startService =>
      cases hstep
      exact .startService
  | kill =>
      cases hstep
      exact .kill
  | createService =>
      simp only [step] at hstep
      split at hstep
      · cases hstep
      · rename_i hservice
        split at hstep
        · rename_i hbooted
          cases hstep
          exact .createService hservice hbooted
        · cases hstep
  | destroyService env =>
      simp only [step] at hstep
      split at hstep
      · cases hstep
      · rename_i next hinvoke
        cases hstep
        exact .destroyService hinvoke
  | send request =>
      simp only [step] at hstep
      split at hstep
      · rename_i hservice
        cases hstep
        exact .send request hservice
      · cases hstep
  | handle env =>
      simp only [step] at hstep
      split at hstep
      · cases hstep
      · rename_i message rest hqueue
        exact .handle hqueue hstep
  | revoke env => exact .revoke hstep
  | perform index env =>
      simp only [step] at hstep
      split at hstep
      · cases hstep
      · rename_i job hjob
        split at hstep
        · cases hstep
        · cases hstep
        · rename_i op next hprogram
          split at hstep
          · rename_i hallows
            cases hstep
            exact .perform hjob hprogram hallows
          · cases hstep
  | abandon index =>
      simp only [step] at hstep
      split at hstep
      · cases hstep
      · rename_i job hjob
        split at hstep
        · rename_i hcancelled
          cases hstep
          exact .abandon hjob hcancelled
        · cases hstep
  | server label =>
      simp only [step] at hstep
      split at hstep
      · cases hstep
      · rename_i server hserver
        cases hstep
        exact .server hserver
  | setDevice device =>
      cases hstep
      exact .setDevice device

theorem perform_eq_some {index : Nat} {env : Env}
    (h : phone.step wireGuard (.perform index env) = some target) :
    ∃ job op next, phone.jobs[index]? = some job ∧ job.program = .perform op next ∧
      phone.world.allows env op = true ∧
      target = settle index
        { job with
          program := remaining wireGuard op job.role (next (World.answer op env phone.world).1) }
        ((phone.world.launched op).map (launch wireGuard))
        { phone with world := (World.answer op env phone.world).2 } := by
  cases steps_of_step h with
  | perform hjob hprogram hallows => exact ⟨_, _, _, hjob, hprogram, hallows, rfl⟩

theorem launchable_of_launched {world moved : World} {op : Op} {coroutine : Coroutine}
    (h : coroutine ∈ world.launched op) : Launchable moved coroutine := by
  cases op <;> simp only [World.launched, List.not_mem_nil, List.mem_singleton] at h
  case launchWatch service location request =>
    subst h
    trivial
  case endVpnSession service requestId reason =>
    subst h
    trivial
  case runReclaimer service =>
    split at h
    · rw [List.mem_singleton.1 h]
      trivial
    · cases h

/-- What holds of the jobs, of the one that has performed an operation, and of what was
launched. -/
theorem forall_jobs_settle {Q : Job ops Role → Prop} {index : Nat} {job : Job ops Role}
    {launched : List (Job ops Role)} (h : ∀ other ∈ phone.jobs, Q other)
    (hjob : job.program.isRunning = true → Q job) (hlaunched : ∀ other ∈ launched, Q other) :
    ∀ other ∈ (settle index job launched phone).jobs, Q other := by
  intro other hother
  simp only [settle] at hother
  split at hother
  · rename_i op next hprogram
    rcases List.mem_append.1 hother with hother | hother
    · rcases List.mem_or_eq_of_mem_set hother with hother | rfl
      · exact h other hother
      · exact hjob (by rw [hprogram]; rfl)
    · exact hlaunched other hother
  · rcases List.mem_append.1 hother with hother | hother
    · exact h other (List.mem_of_mem_eraseIdx hother)
    · exact hlaunched other hother
  · exact h other (List.mem_of_mem_filter hother)

theorem forall_append_launched {Q : Job ops Role → Prop} {jobs : List (Job ops Role)}
    {coroutines : List Coroutine} (h : ∀ job ∈ jobs, Q job)
    (hlaunch : ∀ coroutine ∈ coroutines, Q (launch wireGuard coroutine)) :
    ∀ job ∈ jobs ++ coroutines.map (launch wireGuard), Q job := by
  intro job hjob
  rcases List.mem_append.1 hjob with hjob | hjob
  · exact h job hjob
  · obtain ⟨coroutine, hcoroutine, rfl⟩ := List.mem_map.1 hjob
    exact hlaunch coroutine hcoroutine

theorem forall_jobs_invoke {Q : Job ops Role → Prop}
    (hinvoke : phone.invoke wireGuard env invocation = some target)
    (hcancel : ∀ job, job.role.coroutine.inSession phone.world.number = true → Q job →
      Q (cancel job))
    (hlaunch : ∀ coroutine, Launchable target.world coroutine → Q (launch wireGuard coroutine))
    (h : ∀ job ∈ phone.jobs, Q job) : ∀ job ∈ target.jobs, Q job := by
  obtain ⟨service, -, -, -, rfl | ⟨next, -, rfl⟩⟩ := invoke_eq_some hinvoke
  · exact fun job hjob => h job (List.mem_of_mem_filter hjob)
  · exact forall_jobs_handled hcancel hlaunch h

/-- What holds of all jobs, and of every coroutine that is launched, holds of all jobs
after a step that is not an operation. -/
theorem forall_jobs_of_step {Q : Job ops Role → Prop} {label : PhoneLabel}
    (hstep : phone.step wireGuard label = some target)
    (hlabel : ∀ index env, label ≠ .perform index env)
    (hcancel : ∀ job, job.role.coroutine.inSession phone.world.number = true → Q job →
      Q (cancel job))
    (hlaunch : ∀ coroutine, Launchable target.world coroutine → Q (launch wireGuard coroutine))
    (h : ∀ job ∈ phone.jobs, Q job) : ∀ job ∈ target.jobs, Q job := by
  have hfilter : ∀ keep : Job ops Role → Bool, ∀ job ∈ phone.jobs.filter keep, Q job :=
    fun keep job hjob => h job (List.mem_of_mem_filter hjob)
  cases steps_of_step hstep with
  | startApp | startService => exact forall_append_launch (hfilter _) (hlaunch _ trivial)
  | kill => exact hfilter _
  | createService =>
      exact forall_append_launched h fun coroutine hcoroutine =>
        hlaunch coroutine (launchable_of_launched hcoroutine)
  | destroyService hinvoke =>
      have hjobs := forall_jobs_invoke hinvoke hcancel
        (fun coroutine hcoroutine => hlaunch coroutine (hcoroutine.mono (List.Subset.refl _))) h
      exact hjobs
  | handle hqueue hinvoke => exact forall_jobs_invoke hinvoke hcancel hlaunch h
  | revoke hinvoke => exact forall_jobs_invoke hinvoke hcancel hlaunch h
  | perform => exact absurd rfl (hlabel _ _)
  | abandon => exact fun job hjob => h job (List.mem_of_mem_eraseIdx hjob)
  | send | server | setDevice => exact h

/-! ## Steps that are not operations -/

/-- The world after a step that is not an operation. -/
inductive Turn (wireGuard : WireGuard) (phone : Phone) : PhoneLabel → World → Prop
  | stays {label : PhoneLabel} : Turn wireGuard phone label phone.world
  | dies {label : PhoneLabel} : Turn wireGuard phone label phone.world.killed
  | creates (hservice : phone.world.service = none) :
      Turn wireGuard phone .createService phone.world.created
  | sends (request : Request) : Turn wireGuard phone (.send request)
      { phone.world with queue := phone.world.queue ++ [.request request] }
  | handles {env : HandlerEnv} (message : LooperMessage) (rest : List LooperMessage)
      (service next : VPNService) (hqueue : phone.world.queue = message :: rest)
      (hservice : phone.world.service = some service) (hoffers : service.offers env = true)
      (hfresh : env.randomUuid ∉ phone.world.issued)
      (hnext : VPNOrchestrator.handle env wireGuard { service with effects := [] }
        message.invocation = .ok next) :
      Turn wireGuard phone (.handle env)
        (handled wireGuard next { phone with world := { phone.world with queue := rest } }).world
  | revokes {env : HandlerEnv} (service next : VPNService)
      (hservice : phone.world.service = some service) (hoffers : service.offers env = true)
      (hfresh : env.randomUuid ∉ phone.world.issued)
      (hnext : VPNOrchestrator.handle env wireGuard { service with effects := [] } .revoke =
        .ok next) :
      Turn wireGuard phone (.revoke env) (handled wireGuard next phone).world
  | destroys {env : HandlerEnv} (service next : VPNService)
      (hservice : phone.world.service = some service) (hoffers : service.offers env = true)
      (hfresh : env.randomUuid ∉ phone.world.issued)
      (hnext : VPNOrchestrator.handle env wireGuard { service with effects := [] } .destroy =
        .ok next) :
      Turn wireGuard phone (.destroyService env)
        { (handled wireGuard next phone).world with service := none, session := none }
  | serves (label : ServerLabel) (server : Server)
      (hserver : phone.world.server.step label = some server) :
      Turn wireGuard phone (.server label) { phone.world with server }
  | signs (device : List Db.Device) :
      Turn wireGuard phone (.setDevice device) { phone.world with device }

theorem turn_of_step {label : PhoneLabel} (hstep : phone.step wireGuard label = some target)
    (hlabel : ∀ index env, label ≠ .perform index env) :
    Turn wireGuard phone label target.world := by
  cases steps_of_step hstep with
  | startApp | abandon => exact .stays
  | startService | kill => exact .dies
  | createService hservice => exact .creates hservice
  | destroyService hinvoke =>
      obtain ⟨service, hservice, hoffers, hfresh, rfl | ⟨next, hnext, rfl⟩⟩ :=
        invoke_eq_some hinvoke
      · exact .dies
      · exact .destroys service next hservice hoffers hfresh hnext
  | @handle env message rest target hqueue hinvoke =>
      obtain ⟨service, hservice, hoffers, hfresh, rfl | ⟨next, hnext, rfl⟩⟩ :=
        invoke_eq_some hinvoke
      · exact .dies
      · exact .handles message rest service next hqueue hservice hoffers hfresh hnext
  | revoke hinvoke =>
      obtain ⟨service, hservice, hoffers, hfresh, rfl | ⟨next, hnext, rfl⟩⟩ :=
        invoke_eq_some hinvoke
      · exact .dies
      · exact .revokes service next hservice hoffers hfresh hnext
  | send request => exact .sends request
  | perform => exact absurd rfl (hlabel _ _)
  | @server label server hserver => exact .serves label server hserver
  | setDevice device => exact .signs device

/-- A step performs an operation of a coroutine, or something else has its turn. -/
theorem performs_or_turns {label : PhoneLabel} (hstep : phone.step wireGuard label = some target) :
    (∃ index env job op next, label = .perform index env ∧ phone.jobs[index]? = some job ∧
      job.program = .perform op next ∧ phone.world.allows env op = true ∧
      target = settle index
        { job with
          program := remaining wireGuard op job.role (next (World.answer op env phone.world).1) }
        ((phone.world.launched op).map (launch wireGuard))
        { phone with world := (World.answer op env phone.world).2 }) ∨
      (∀ index env, label ≠ .perform index env) ∧ Turn wireGuard phone label target.world := by
  by_cases hperform : ∃ index env, label = .perform index env
  · obtain ⟨index, env, rfl⟩ := hperform
    obtain ⟨job, op, next, hjob, hprogram, hallows, htarget⟩ := perform_eq_some hstep
    exact .inl ⟨index, env, job, op, next, rfl, hjob, hprogram, hallows, htarget⟩
  · have hlabel : ∀ index env, label ≠ .perform index env :=
      fun index env heq => hperform ⟨index, env, heq⟩
    exact .inr ⟨hlabel, turn_of_step hstep hlabel⟩

/-! ## Coroutines that nothing cancels -/

/-- A coroutine of the service's process outside the scope of a session. -/
structure Lasting (job : Job ops Role) : Prop where
  outside : ∀ number, job.role.coroutine.inSession number = false
  remains : job.role.coroutine ≠ .init false
  notCancelled : job.role.cancelled = false
  isRunning : job.program.isRunning = true

variable {job : Job ops Role}

theorem Lasting.mem_foldl_carryOut (h : Lasting job) (effects : List Effect)
    (hjob : job ∈ phone.jobs) : job ∈ (effects.foldl (carryOut wireGuard) phone).jobs := by
  induction effects generalizing phone with
  | nil => exact hjob
  | cons effect effects ih =>
      apply ih
      cases effect with
      | cancelChildren =>
          simp only [carryOut, cancelChildren, List.mem_filter, List.mem_map]
          refine ⟨⟨job, hjob, ?_⟩, h.isRunning⟩
          rw [h.outside]
          rfl
      | newVpnSession requestId location | endVpnSession requestId reason =>
          exact List.mem_append_left _ hjob
      | sendEvent messenger event | startForeground vpnState | stopService | cleanupIPC
      | turnOnVPN config | wgTurnOn config => exact hjob

theorem Lasting.mem_of_invoke (h : Lasting job) (hjob : job ∈ phone.jobs)
    (hinvoke : phone.invoke wireGuard env invocation = some target) :
    job ∈ target.jobs ∨ target.world = phone.world.killed := by
  obtain ⟨service, -, -, -, rfl | ⟨next, -, rfl⟩⟩ := invoke_eq_some hinvoke
  · exact .inr rfl
  · exact .inl (h.mem_foldl_carryOut next.effects hjob)

/-- Such a coroutine goes on unless the process is killed. -/
theorem Lasting.mem_of_step {label : PhoneLabel} (h : Lasting job) (hjob : job ∈ phone.jobs)
    (hstep : phone.step wireGuard label = some target)
    (hlabel : ∀ index env, label ≠ .perform index env) :
    job ∈ target.jobs ∨ target.world.running = [] ∧ target.world.promised = [] := by
  cases steps_of_step hstep with
  | startApp =>
      exact .inl (List.mem_append_left _ (List.mem_filter.2 ⟨hjob, decide_eq_true h.remains⟩))
  | startService | kill => exact .inr ⟨rfl, rfl⟩
  | createService => exact .inl (List.mem_append_left _ hjob)
  | @destroyService env next hinvoke =>
      rcases h.mem_of_invoke hjob hinvoke with hmem | hkilled
      · exact .inl hmem
      · right
        show next.world.running = [] ∧ next.world.promised = []
        rw [hkilled]
        exact ⟨rfl, rfl⟩
  | handle hqueue hinvoke =>
      obtain ⟨service, -, -, -, rfl | ⟨next, -, rfl⟩⟩ := invoke_eq_some hinvoke
      · exact .inr ⟨rfl, rfl⟩
      · exact .inl (h.mem_foldl_carryOut next.effects hjob)
  | revoke hinvoke =>
      rcases h.mem_of_invoke hjob hinvoke with hmem | hkilled
      · exact .inl hmem
      · right
        rw [hkilled]
        exact ⟨rfl, rfl⟩
  | perform => exact absurd rfl (hlabel _ _)
  | abandon habandoned hcancelled =>
      left
      obtain ⟨other, hother⟩ := List.getElem?_of_mem hjob
      refine List.mem_eraseIdx_iff_getElem?.2 ⟨other, ?_, hother⟩
      rintro rfl
      rw [habandoned] at hother
      cases hother
      rw [h.notCancelled] at hcancelled
      cases hcancelled
  | send | server | setDevice => exact .inl hjob

section Settle

variable {index : Nat} {performed : Job ops Role} {launched jobs : List (Job ops Role)}
  {world : World}

theorem mem_settle {other : Nat} (hjob : jobs[other]? = some job) (hne : other ≠ index) :
    job ∈ (settle index performed launched { world, jobs }).jobs ∨
      (settle index performed launched { world, jobs }).world = world.killed := by
  simp only [settle]
  split
  · left
    apply List.mem_append_left
    exact List.mem_of_getElem? (by rw [List.getElem?_set_ne hne.symm]; exact hjob)
  · exact .inl (List.mem_append_left _ (List.mem_eraseIdx_iff_getElem?.2 ⟨other, hne, hjob⟩))
  · exact .inr rfl

theorem mem_settle_self (hindex : index < jobs.length) (hrunning : performed.program.isRunning = true) :
    performed ∈ (settle index performed launched { world, jobs }).jobs := by
  simp only [settle]
  split
  · exact List.mem_append_left _ (List.mem_set hindex performed)
  · rename_i hprogram
    rw [hprogram] at hrunning
    cases hrunning
  · rename_i hprogram
    rw [hprogram] at hrunning
    cases hrunning

/-- What an operation launches is there, unless the process is killed. -/
theorem mem_settle_launched (hlaunched : job ∈ launched) :
    job ∈ (settle index performed launched { world, jobs }).jobs ∨
      (settle index performed launched { world, jobs }).world = world.killed := by
  simp only [settle]
  split
  · exact .inl (List.mem_append_right _ hlaunched)
  · exact .inl (List.mem_append_right _ hlaunched)
  · exact .inr rfl

end Settle

/-! ## Terms on which the coroutines share the world -/

section Terms

variable {T : Terms semantics} {label : PhoneLabel}

theorem settle_world (index : Nat) (job : Job ops Role) (launched : List (Job ops Role))
    (phone : Phone) : (∃ booted, (settle index job launched phone).world =
      { phone.world with booted }) ∨ (settle index job launched phone).world = phone.world.killed := by
  simp only [settle]
  split
  · exact .inl ⟨phone.world.booted, rfl⟩
  · exact .inl ⟨_, rfl⟩
  · exact .inr rfl

theorem Moves.issued {op : Op} {env : Env} {world moved : World} (h : Moves env world op moved) :
    moved.issued = world.issued := by
  cases h with
  | reclaims service => exact (untouched_runReclaimer world service).issued
  | stays | writes _ | insertsDevice | requests request | requestsEnd request | fails request _
  | delivers requestId message | stops reclaimer => rfl

theorem issued_subset_answer (op : Op) (env : Env) (world : World) :
    world.issued ⊆ (World.answer op env world).2.issued := by
  rw [(moves_answer op env world).issued]
  exact List.Subset.refl _

/-- What is left to the operations alone. -/
structure Frame (source target : World) : Prop where
  vpnSession : target.vpnSession = source.vpnSession
  failed : target.failed = source.failed
  issued : source.issued ⊆ target.issued

theorem Turn.frame {world : World} (h : Turn wireGuard phone label world) :
    Frame phone.world world := by
  cases h with
  | stays | dies | sends request | serves label server _ | signs device =>
      exact ⟨rfl, rfl, List.Subset.refl _⟩
  | creates _ =>
      obtain ⟨-, hrows, -, hfailed, -, -, -, hissued⟩ := untouched_created phone.world
      exact ⟨hrows, hfailed, by rw [hissued]; exact List.Subset.refl _⟩
  | handles message rest service next _ _ _ _ _ =>
      have hhandled := handled_undisturbed wireGuard next
        { phone with world := { phone.world with queue := rest } }
      exact ⟨hhandled.vpnSession, hhandled.failed, hhandled.issued⟩
  | revokes service next _ _ _ _ | destroys service next _ _ _ _ =>
      have hhandled := handled_undisturbed wireGuard next phone
      exact ⟨hhandled.vpnSession, hhandled.failed, hhandled.issued⟩

/-- The server changes in its own steps. -/
theorem Turn.server {world : World} (h : Turn wireGuard phone label world) :
    world.server = phone.world.server ∨ ∃ step server, label = .server step ∧
      phone.world.server.step step = some server ∧ world = { phone.world with server } := by
  cases h with
  | serves step server hserver => exact .inr ⟨step, server, rfl, hserver, rfl⟩
  | stays | dies | sends request | signs device => exact .inl rfl
  | creates _ => exact .inl (untouched_created phone.world).server
  | handles message rest service next _ _ _ _ _ =>
      exact .inl (handled_undisturbed wireGuard next
        { phone with world := { phone.world with queue := rest } }).server
  | revokes service next _ _ _ _ | destroys service next _ _ _ _ =>
      exact .inl (handled_undisturbed wireGuard next phone).server

/-- Ids stay issued. -/
theorem issued_of_step (hstep : phone.step wireGuard label = some target) :
    phone.world.issued ⊆ target.world.issued := by
  rcases performs_or_turns hstep with
    ⟨index, env, job, op, next, rfl, -, -, -, rfl⟩ | ⟨-, hturn⟩
  · rcases settle_world index _ _ _ with ⟨booted, hworld⟩ | hworld
    · rw [hworld]
      exact issued_subset_answer op env phone.world
    · rw [hworld]
      exact issued_subset_answer op env phone.world
  · exact hturn.frame.issued

/-- The coroutines keep their contract and the invariant, and new sessions have ids. -/
structure Abides (T : Terms semantics) (phone : Phone) : Prop where
  launchable : ∀ job ∈ phone.jobs, Launchable phone.world job.role.coroutine
  sound : (T.discipline Role).Sound phone.jobs phone.world

/-- A phone without coroutines has the invariant to show only. -/
theorem Abides.of_jobs {T : Terms semantics} {phone : Phone} (hjobs : phone.jobs = [])
    (h : T.invariant phone.world) : Abides T phone := by
  constructor
  · rw [hjobs]
    exact List.forall_mem_nil _
  · rw [Terms.sound_discipline, hjobs]
    exact ⟨h, List.forall_mem_nil _⟩

theorem launchable_of_step (hstep : phone.step wireGuard label = some target)
    (h : ∀ job ∈ phone.jobs, Launchable phone.world job.role.coroutine) :
    ∀ job ∈ target.jobs, Launchable target.world job.role.coroutine := by
  have hissued := issued_of_step hstep
  rcases performs_or_turns hstep with
    ⟨index, env, job, op, next, rfl, hjob, -, -, rfl⟩ | ⟨hlabel, -⟩
  · apply forall_jobs_settle (Q := fun job => Launchable _ job.role.coroutine)
    · exact fun other hother => (h other hother).mono hissued
    · exact fun _ => (h job (List.mem_of_getElem? hjob)).mono hissued
    · intro other hother
      obtain ⟨coroutine, hcoroutine, rfl⟩ := List.mem_map.1 hother
      exact launchable_of_launched hcoroutine
  · apply forall_jobs_of_step (Q := fun job => Launchable _ job.role.coroutine) hstep hlabel
    · exact fun job _ hjob => hjob
    · exact fun coroutine hcoroutine => hcoroutine
    · exact fun job hjob => (h job hjob).mono hissued

/-- The terms are upheld by steps that meet the condition: the coroutines keep them, the
environment admits what it answers, and they tolerate everything else. -/
structure Upholds (wireGuard : WireGuard) (T : Terms semantics) (C : Phone → PhoneLabel → Prop) :
    Prop where
  keeps : ∀ {world} coroutine, Launchable world coroutine →
    T.Keeps (coroutine.program wireGuard) world
  admits : ∀ {phone index env op}, C phone (.perform index env) → op ∈ phone.nextOp index →
    phone.world.allows env op = true → T.invariant phone.world →
      T.contract.admits op env phone.world
  booted : ∀ world booted, T.Tolerates world { world with booted }
  killed : ∀ world, T.Tolerates world world.killed
  turn : ∀ {phone label moved}, C phone label → Turn wireGuard phone label moved →
    T.Tolerates phone.world moved

variable {C : Phone → PhoneLabel → Prop}

/-- One step, whatever it is. -/
theorem Upholds.step (hupholds : Upholds wireGuard T C)
    (hstep : phone.step wireGuard label = some target) (hcond : C phone label)
    (h : Abides T phone) : Abides T target := by
  refine ⟨launchable_of_step hstep h.launchable, ?_⟩
  obtain ⟨hinvariant, hkeeps⟩ := Terms.sound_discipline.1 h.sound
  rw [Terms.sound_discipline]
  rcases performs_or_turns hstep with
    ⟨index, env, job, op, next, rfl, hjob, hprogram, hallows, rfl⟩ | ⟨hlabel, hturn⟩
  · have hadmitted := hupholds.admits hcond (mem_nextOp hjob hprogram) hallows hinvariant
    have hmem := List.mem_of_getElem? hjob
    have hown := hkeeps job hmem
    rw [Terms.Keeps, hprogram] at hown
    obtain ⟨hduty, hnext⟩ := hown.step hadmitted
    obtain ⟨hkept, hrely⟩ := T.perform hinvariant hadmitted hduty
    have hremaining : T.Keeps (remaining wireGuard op job.role (next (World.answer op env
        phone.world).1)) (World.answer op env phone.world).2 := by
      have hrestart := hupholds.keeps job.role.coroutine
        ((h.launchable job hmem).mono (issued_subset_answer op env phone.world))
      cases op
      case again =>
        simp only [remaining]
        split
        · exact hrestart.cut
        · exact hrestart
      all_goals exact hnext
    -- what becomes of the process when the operation is settled
    generalize hsettled : settle index _ _ _ = settled
    have hmoved : T.Tolerates (World.answer op env phone.world).2 settled.world := by
      rw [← hsettled]
      rcases settle_world index _ _ _ with ⟨booted, hworld⟩ | hworld
      · rw [hworld]
        exact hupholds.booted _ _
      · rw [hworld]
        exact hupholds.killed _
    refine ⟨hmoved.2 hkept, ?_⟩
    rw [← hsettled]
    apply forall_jobs_settle (Q := fun job => T.Keeps job.program _)
    · intro other hother
      rw [hsettled]
      exact ((hkeeps other hother).of_rely hrely).of_rely hmoved.1
    · intro _
      rw [hsettled]
      exact hremaining.of_rely hmoved.1
    · intro other hother
      obtain ⟨coroutine, hcoroutine, rfl⟩ := List.mem_map.1 hother
      exact hupholds.keeps coroutine (launchable_of_launched hcoroutine)
  · have hmoved := hupholds.turn hcond hturn
    refine ⟨hmoved.2 hinvariant, ?_⟩
    apply forall_jobs_of_step (Q := fun job => T.Keeps job.program target.world) hstep hlabel
    · exact fun job _ hjob => hjob.cut
    · exact fun coroutine hlaunchable => hupholds.keeps coroutine hlaunchable
    · exact fun job hjob => (hkeeps job hjob).of_rely hmoved.1

/-- And a whole run. -/
theorem Upholds.visits (hupholds : Upholds wireGuard T C) (hinit : T.invariant installed.world)
    {trace : (system wireGuard).Trace phone} (hobeys : trace.Obeys C) :
    trace.Visits (Abides T) := by
  refine TransitionSystem.Trace.visits_of_obeys ?_ ?_ hobeys
  · rintro _ rfl
    exact .of_jobs rfl hinit
  · exact fun source label target hstep hcond h => hupholds.step hstep hcond h

end Terms

end Phone

end Modvpn.Android
