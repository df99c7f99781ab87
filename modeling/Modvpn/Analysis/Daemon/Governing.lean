/-
# Disciplines that govern the daemon

A discipline for the daemon's roles governs the machine when every program keeps
its contract from the moment it is started: the startup in a new process, a
handler when the loop takes an event, a task when it is spawned, a command of the
device service, and a pass of the reclaimer. Then every run whose environment
answers as the contracts admit goes through sound pools only.
-/

import Modvpn.Analysis.Daemon.Frames
import Modvpn.Daemon.Machine

namespace Modvpn

open Modvpn.Protocol

namespace Machine

/-! ## What happens between two operations -/

/-- Spawned tasks are started, commands are taken, an event is logged as received,
and a sign-out comes to its end. -/
structure Settles (shared moved : Shared) : Prop where
  issued : moved.issued = shared.issued
  started : moved.started = shared.started
  quiet : shared.quiet = true → moved.quiet = true
  world : ∃ spawned commands received, moved.world = { shared.world with
      spawned
      deviceCommands := commands
      history := shared.world.history ++ received } ∧
    spawned ⊆ shared.world.spawned ∧ ∀ happened ∈ received, ∃ status,
      happened = .received status

namespace Shared

/-- The loop takes an event. -/
def taking (event : DaemonEvent) (shared : Shared) : Shared :=
  { shared with
    world := { shared.world with history := shared.world.history ++ received event } }

/-- A new process. -/
def rebooted (shared : Shared) : Shared :=
  { shared with
    world := shared.world.rebooted
    quiet := true
    started := false }

/-- The startup is over. -/
def ready (shared : Shared) : Shared :=
  { shared with started := true }

end Shared

theorem settles_taking (event : DaemonEvent) (shared : Shared) :
    Settles shared (shared.taking event) := by
  refine ⟨rfl, rfl, id, shared.world.spawned, shared.world.deviceCommands, received event, rfl,
    List.Subset.refl _, ?_⟩
  cases event <;> simp [received]

/-- Nothing but the end of a sign-out. -/
theorem settles_of_world {shared moved : Shared} (hworld : moved.world = shared.world)
    (hissued : moved.issued = shared.issued) (hstarted : moved.started = shared.started)
    (hquiet : shared.quiet = true → moved.quiet = true) : Settles shared moved :=
  ⟨hissued, hstarted, hquiet, shared.world.spawned, shared.world.deviceCommands, [], by simp [hworld],
    List.Subset.refl _, nofun⟩

/-! ## Governing -/

/-- Every program of the daemon keeps the contract of its role. -/
structure Governs (codecs : Codecs) (D : Discipline Shared.semantics Role) : Prop where
  beside : ∀ {first second}, D.beside first second ↔ first.Beside second
  settles : ∀ {shared moved}, Settles shared moved → D.settles shared moved
  installed : D.invariant (installed codecs).shared
  rebooted : ∀ {shared : Shared}, D.invariant shared → D.invariant shared.rebooted
  startup : ∀ {shared : Shared}, D.invariant shared →
    D.Keeps ⟨.loop, startup codecs⟩ shared.rebooted
  ready : ∀ {shared : Shared}, D.invariant shared → D.post .loop shared →
    D.invariant shared.ready ∧ D.Keeps ⟨.loop, .pure ()⟩ shared.ready ∧
      ∀ role, role ≠ .loop → (D.contract role).rely shared shared.ready
  take : ∀ {shared : Shared} (event), D.invariant (shared.taking event) →
    D.post .loop (shared.taking event) →
      D.Keeps ⟨.loop, Daemon.handleEvent event⟩ (shared.taking event)
  task : ∀ {shared : Shared} {task}, D.invariant shared → task ∈ shared.world.spawned →
    D.Keeps ⟨.task task, task.program⟩ shared
  service : ∀ {shared : Shared} (command), D.invariant shared → shared.started = true →
    D.Keeps ⟨.service command, DeviceService.handleMessage codecs command⟩ shared
  reclaimer : ∀ {shared : Shared}, D.invariant shared →
    D.Keeps ⟨.reclaimer, Reclaimer.reclaim codecs⟩ shared

variable {codecs : Codecs} {D : Discipline Shared.semantics Role}

/-- The environment answers the next operation of a job as its contract admits. -/
def Admits (D : Discipline Shared.semantics Role) (machine : Machine) (job : Job ops Role)
    (env : Env) : Prop :=
  ∀ op ∈ job.program.nextOp, allowed machine.issued env op = true →
    D.invariant machine.shared → (D.contract job.role).admits op env machine.shared

/-- Every operation of the step is answered as the contracts admit. -/
def AdmitsStep (D : Discipline Shared.semantics Role) (machine : Machine) : MachineLabel → Prop
  | .loop env => machine.Admits D ⟨.loop, machine.loop⟩ env
  | .job index env => ∀ job ∈ machine.jobs[index]?, job.role ≠ .loop → machine.Admits D job env
  | _ => True

/-- The pool of programs is sound. -/
def Sound (D : Discipline Shared.semantics Role) (machine : Machine) : Prop :=
  D.Sound machine.pool machine.shared

/-! ## Steps -/

section

variable {source target next : Machine}

theorem advance_eq_some {program rest : Async Unit} {env : Env}
    (h : advance program env source = some (rest, next)) :
    ∃ op resume, program = .perform op resume ∧ allowed source.issued env op = true ∧
      rest = resume (World.answer op env source.world).1 ∧
      next = { source with
        world := (World.answer op env source.world).2
        issued := issuedAfter source.issued env op } := by
  cases program with
  | pure value | panic message => cases h
  | perform op resume =>
      simp only [advance] at h
      split at h
      · rename_i hallowed
        cases h
        exact ⟨op, resume, rfl, hallowed, rfl, rfl⟩
      · cases h

/-- The machine after a program of its own performed an operation. -/
def answered (machine : Machine) (op : Op) (env : Env) : Machine :=
  { machine with
    world := (World.answer op env machine.world).2
    issued := issuedAfter machine.issued env op }

/-- What a step does, with a rule for each label. -/
inductive Steps (codecs : Codecs) (source : Machine) : MachineLabel → Machine → Prop
  | restart : Steps codecs source .restart (restarted codecs source)
  | ready {value : Unit} (hloop : source.loop = .pure value) :
      Steps codecs source .ready { source with started := true }
  | post (event : DaemonEvent) :
      Steps codecs source (.post event) { source with queue := source.queue ++ [event] }
  | take {value : Unit} {event : DaemonEvent} {rest : List DaemonEvent}
      (hloop : source.loop = .pure value) (hqueue : source.queue = event :: rest)
      (hstarted : source.started = true) (haccepting : source.accepting = true) :
      Steps codecs source .take (source.taking event rest)
  | loop {env : Env} {op : Op} {resume : op.Resp → Async Unit}
      (hloop : source.loop = .perform op resume) (hallowed : allowed source.issued env op = true) :
      Steps codecs source (.loop env)
        { source.answered op env with loop := resume (World.answer op env source.world).1 }
  | start {index : Nat} {task : Task} (htask : source.world.spawned[index]? = some task) :
      Steps codecs source (.start index)
        { source with
          world := { source.world with spawned := source.world.spawned.eraseIdx index }
          jobs := source.jobs ++ [⟨.task task, task.program⟩] }
  | serve {command : DeviceCommand} {rest : List DeviceCommand}
      (hcommands : source.world.deviceCommands = command :: rest)
      (hstarted : source.started = true) (hserving : source.serving = true)
      (hfree : source.jobs.all (!·.role.isService) = true) :
      Steps codecs source .serve
        { source with
          world := { source.world with deviceCommands := rest }
          jobs := source.jobs ++
            [⟨.service command, DeviceService.handleMessage codecs command⟩] }
  | reclaim (hstarted : source.started = true)
      (hfree : source.jobs.all (!·.role.isReclaimer) = true) :
      Steps codecs source .reclaim
        { source with jobs := source.jobs ++ [⟨.reclaimer, Reclaimer.reclaim codecs⟩] }
  | job {index : Nat} {env : Env} {job : Job ops Role} {op : Op} {resume : op.Resp → Async Unit}
      (hjob : source.jobs[index]? = some job) (hprogram : job.program = .perform op resume)
      (hallowed : allowed source.issued env op = true) :
      Steps codecs source (.job index env)
        ((source.answered op env).settle index
          { job with program := resume (World.answer op env source.world).1 })

/-- The only place where the branches of a step are taken apart. -/
theorem steps_of_step {label : MachineLabel} (hstep : step codecs source label = some target) :
    Steps codecs source label target := by
  cases label with
  | restart =>
      cases hstep
      exact .restart
  | ready =>
      simp only [step] at hstep
      split at hstep
      · rename_i value hloop
        cases hstep
        exact .ready hloop
      · cases hstep
  | post event =>
      cases hstep
      exact .post event
  | take =>
      simp only [step] at hstep
      split at hstep
      · rename_i value event rest hloop hqueue
        split at hstep
        · rename_i hready
          cases hstep
          rw [Bool.and_eq_true] at hready
          exact .take hloop hqueue hready.1 hready.2
        · cases hstep
      · cases hstep
  | loop env =>
      simp only [step] at hstep
      split at hstep
      · cases hstep
      · rename_i rest next hadvance
        cases hstep
        obtain ⟨op, resume, hloop, hallowed, rfl, rfl⟩ := advance_eq_some hadvance
        exact .loop hloop hallowed
  | start index =>
      simp only [step] at hstep
      split at hstep
      · cases hstep
      · rename_i task htask
        cases hstep
        exact .start htask
  | serve =>
      simp only [step] at hstep
      split at hstep
      · cases hstep
      · rename_i command rest hcommands
        split at hstep
        · rename_i hready
          cases hstep
          rw [Bool.and_eq_true, Bool.and_eq_true] at hready
          exact .serve hcommands hready.1.1 hready.1.2 hready.2
        · cases hstep
  | reclaim =>
      simp only [step] at hstep
      split at hstep
      · rename_i hready
        cases hstep
        rw [Bool.and_eq_true] at hready
        exact .reclaim hready.1 hready.2
      · cases hstep
  | job index env =>
      simp only [step] at hstep
      split at hstep
      · cases hstep
      · rename_i job hjob
        split at hstep
        · cases hstep
        · rename_i rest next hadvance
          cases hstep
          obtain ⟨op, resume, hprogram, hallowed, rfl, rfl⟩ := advance_eq_some hadvance
          exact .job hjob hprogram hallowed

/-- The state after an operation, apart from the end of a sign-out. -/
theorem settles_answer {op : Op} {env : Env}
    (hworld : target.world = (World.answer op env source.world).2)
    (hissued : target.issued = issuedAfter source.issued env op)
    (hstarted : target.started = source.started)
    (hjobs : ∀ job ∈ target.jobs, ∃ same ∈ source.jobs, job.role = same.role) :
    Settles (Shared.semantics.answer op env source.shared).2 target.shared := by
  refine settles_of_world hworld hissued hstarted fun hquiet => ?_
  simp only [shared, quiet, Bool.and_eq_true, List.all_eq_true, hworld, World.answer_spawned,
    World.answer_deviceCommands, List.mem_append] at hquiet ⊢
  obtain ⟨⟨⟨hspawned, hcommands⟩, hroles⟩, hop⟩ := hquiet
  refine ⟨⟨?_, ?_⟩, ?_⟩
  · rintro task (htask | htask)
    · exact hspawned task htask
    · cases op <;> simp only [Op.spawns, List.not_mem_nil, List.mem_singleton] at htask
      subst htask
      cases task <;> simp [signsOut] at hop ⊢
  · rintro command (hcommand | hcommand)
    · exact hcommands command hcommand
    · cases op <;> simp only [Op.commands, List.not_mem_nil, List.mem_singleton] at hcommand
      subst hcommand
      cases command <;> simp [signsOut] at hop ⊢
  · intro job hjob
    obtain ⟨same, hsame, hrole⟩ := hjobs job hjob
    exact hrole ▸ hroles same hsame

section

variable (index : Nat) (job : Job ops Role) (machine : Machine)

@[simp]
theorem settle_world : (machine.settle index job).world = machine.world := by
  unfold settle
  split <;> rfl

@[simp]
theorem settle_started : (machine.settle index job).started = machine.started := by
  unfold settle
  split <;> rfl

@[simp]
theorem settle_issued : (machine.settle index job).issued = machine.issued := by
  unfold settle
  split <;> rfl

@[simp]
theorem settle_loop : (machine.settle index job).loop = machine.loop := by
  unfold settle
  split <;> rfl

@[simp]
theorem settle_queue : (machine.settle index job).queue = machine.queue := by
  unfold settle
  split <;> rfl

end

theorem beside_task {role : Role} (task : Task) : role.Beside (.task task) := by
  cases role <;> rfl

theorem exists_append_of_getElem? {jobs : List (Job ops Role)} {job : Job ops Role}
    {index : Nat} (h : jobs[index]? = some job) :
    ∃ before after, jobs = before ++ job :: after ∧ before.length = index := by
  obtain ⟨hindex, rfl⟩ := List.getElem?_eq_some_iff.mp h
  refine ⟨jobs.take index, jobs.drop (index + 1), ?_, by simp; omega⟩
  rw [← List.drop_eq_getElem_cons hindex, List.take_append_drop]

theorem beside_service {jobs : List (Job ops Role)} {loop : Async Unit}
    {command : DeviceCommand} (hfree : jobs.all (!·.role.isService) = true) :
    ∀ job ∈ (⟨.loop, loop⟩ :: jobs : List (Job ops Role)), job.role.Beside (.service command) := by
  intro job hjob
  rcases List.mem_cons.mp hjob with rfl | hjob
  · rfl
  · have hother := List.all_eq_true.mp hfree job hjob
    cases hrole : job.role <;> simp [hrole, Role.isService] at hother <;> rfl

theorem beside_reclaimer {jobs : List (Job ops Role)} {loop : Async Unit}
    (hfree : jobs.all (!·.role.isReclaimer) = true) :
    ∀ job ∈ (⟨.loop, loop⟩ :: jobs : List (Job ops Role)), job.role.Beside .reclaimer := by
  intro job hjob
  rcases List.mem_cons.mp hjob with rfl | hjob
  · rfl
  · have hother := List.all_eq_true.mp hfree job hjob
    cases hrole : job.role <;> simp [hrole, Role.isReclaimer] at hother <;> rfl

/-- Jobs that end, or go on in their roles. -/
theorem settles_of_jobs (hworld : target.world = source.world)
    (hissued : target.issued = source.issued) (hstarted : target.started = source.started)
    (hjobs : ∀ job ∈ target.jobs, ∃ same ∈ source.jobs, job.role = same.role) :
    Settles source.shared target.shared := by
  refine settles_of_world hworld hissued hstarted fun hquiet => ?_
  simp only [shared, quiet, Bool.and_eq_true, List.all_eq_true, hworld] at hquiet ⊢
  refine ⟨hquiet.1, fun job hjob => ?_⟩
  obtain ⟨same, hsame, hrole⟩ := hjobs job hjob
  exact hrole ▸ hquiet.2 same hsame

/-- A job that performed an operation goes on or ends. -/
theorem sound_settle (hgoverns : Governs codecs D) {before after : List (Job ops Role)}
    {job : Job ops Role} {program : Async Unit} (hjobs : source.jobs = before ++ job :: after)
    (h : D.Sound (⟨.loop, source.loop⟩ :: (before ++ { job with program } :: after))
      source.shared) :
    (source.settle before.length { job with program }).Sound D := by
  have hset : source.jobs.set before.length { job with program } =
      before ++ { job with program } :: after := by
    simp [hjobs]
  have herase : source.jobs.eraseIdx before.length = before ++ after := by
    simp [hjobs, List.eraseIdx_append_of_length_le]
  have hended : D.Sound (⟨.loop, source.loop⟩ :: (before ++ after)) source.shared :=
    h.sublist (((List.Sublist.refl _).append (List.sublist_cons_self ..)).cons_cons _)
  have hfewer : ∀ other ∈ before ++ after, ∃ same ∈ source.jobs, other.role = same.role := by
    refine fun other hother => ⟨other, ?_, rfl⟩
    rw [hjobs]
    exact ((List.Sublist.refl _).append (List.sublist_cons_self ..)).subset hother
  cases program with
  | perform op resume =>
      have hgoes : D.Sound (⟨.loop, source.loop⟩ ::
          source.jobs.set before.length ⟨job.role, .perform op resume⟩) source.shared :=
        hset ▸ h
      refine Discipline.Sound.settle hgoes (hgoverns.settles (settles_of_jobs rfl rfl rfl ?_))
      intro other hother
      simp only [settle, hset, List.mem_append, List.mem_cons] at hother
      simp only [hjobs, List.mem_append, List.mem_cons]
      rcases hother with hother | rfl | hother
      · exact ⟨other, .inl hother, rfl⟩
      · exact ⟨job, .inr (.inl rfl), rfl⟩
      · exact ⟨other, .inr (.inr hother), rfl⟩
  | pure value =>
      have hgone : D.Sound (⟨.loop, source.loop⟩ :: source.jobs.eraseIdx before.length)
          source.shared := herase ▸ hended
      refine Discipline.Sound.settle hgone (hgoverns.settles (settles_of_jobs rfl rfl rfl ?_))
      simpa only [settle, herase] using hfewer
  | panic message =>
      have hgone : D.Sound (⟨.loop, source.loop⟩ :: source.jobs.eraseIdx before.length)
          source.shared := herase ▸ hended
      refine Discipline.Sound.settle hgone (hgoverns.settles (settles_of_jobs rfl rfl rfl ?_))
      simpa only [settle, herase] using hfewer

/-- A job that starts beside the others. -/
theorem sound_start (hgoverns : Governs codecs D) {role : Role} {program : Async Unit}
    (h : source.Sound D) (hbeside : ∀ job ∈ source.pool, job.role.Beside role)
    (hkeeps : D.Keeps ⟨role, program⟩ source.shared)
    (htarget : target.pool = source.pool ++ [⟨role, program⟩])
    (hsettles : Settles source.shared target.shared) : target.Sound D := by
  have hstarted := Discipline.Sound.start h (fun job hjob => hgoverns.beside.mpr (hbeside job hjob))
    hkeeps
  rw [Sound, htarget]
  exact hstarted.settle (hgoverns.settles hsettles)

/-- A task goes from the spawned ones to the jobs, in its own role. -/
theorem settles_start {index : Nat} {task : Task} (htask : task ∈ source.world.spawned) :
    Settles source.shared ({ source with
      world := { source.world with spawned := source.world.spawned.eraseIdx index }
      jobs := source.jobs ++ [⟨.task task, task.program⟩] } : Machine).shared := by
  refine ⟨rfl, rfl, fun hquiet => ?_, ?_⟩
  · simp only [shared, quiet, Bool.and_eq_true, List.all_eq_true, List.mem_append,
      List.mem_singleton] at hquiet ⊢
    refine ⟨⟨fun other hother => ?_, hquiet.1.2⟩, ?_⟩
    · exact hquiet.1.1 other ((List.eraseIdx_sublist ..).subset hother)
    · rintro job (hjob | rfl)
      · exact hquiet.2 job hjob
      · have hother := hquiet.1.1 task htask
        cases task <;> simp [Role.signsOut] at hother ⊢
  · exact ⟨source.world.spawned.eraseIdx index, source.world.deviceCommands, [], by simp [shared],
      (List.eraseIdx_sublist ..).subset, by simp⟩

/-- A command goes from the queue to the jobs, in its own role. -/
theorem settles_serve {command : DeviceCommand} {rest : List DeviceCommand}
    (hcommands : source.world.deviceCommands = command :: rest) :
    Settles source.shared ({ source with
      world := { source.world with deviceCommands := rest }
      jobs := source.jobs ++
        [⟨.service command, DeviceService.handleMessage codecs command⟩] } : Machine).shared := by
  refine ⟨rfl, rfl, fun hquiet => ?_, ?_⟩
  · simp only [shared, quiet, Bool.and_eq_true, List.all_eq_true, List.mem_append,
      List.mem_singleton, hcommands] at hquiet ⊢
    refine ⟨⟨hquiet.1.1, fun other hother => ?_⟩, ?_⟩
    · exact hquiet.1.2 other (List.mem_cons_of_mem _ hother)
    · rintro job (hjob | rfl)
      · exact hquiet.2 job hjob
      · have hother := hquiet.1.2 command (List.mem_cons_self ..)
        cases command <;> simp [Role.signsOut] at hother ⊢
  · exact ⟨source.world.spawned, rest, [], by simp [shared], List.Subset.refl _, by simp⟩

/-- The reclaimer does not sign out. -/
theorem settles_reclaim :
    Settles source.shared ({ source with
      jobs := source.jobs ++ [⟨.reclaimer, Reclaimer.reclaim codecs⟩] } : Machine).shared := by
  refine settles_of_world rfl rfl rfl fun hquiet => ?_
  simp only [shared, quiet, Bool.and_eq_true, List.all_eq_true, List.mem_append,
    List.mem_singleton] at hquiet ⊢
  refine ⟨hquiet.1, ?_⟩
  rintro job (hjob | rfl)
  · exact hquiet.2 job hjob
  · rfl

/-- The loop is the only program in its role. -/
theorem Sound.role_ne_loop (hgoverns : Governs codecs D) (h : source.Sound D)
    {job : Job ops Role} (hjob : job ∈ source.jobs) : job.role ≠ .loop := by
  have hpairs := h.beside
  rw [pool, List.map_cons, List.pairwise_cons] at hpairs
  have hbeside := hgoverns.beside.mp (hpairs.1 job.role (List.mem_map_of_mem hjob))
  intro hrole
  simp [hrole, Role.Beside, Role.isLoop] at hbeside

/-- The startup is over when the loop's program has returned. -/
theorem Sound.ready (hgoverns : Governs codecs D) (h : source.Sound D) {value : Unit}
    (hloop : source.loop = .pure value) : ({ source with started := true } : Machine).Sound D := by
  have hidle := h.keeps ⟨.loop, source.loop⟩ (List.mem_cons_self ..)
  simp only [Discipline.Keeps, hloop] at hidle
  obtain ⟨hinvariant, hkeeps, hrely⟩ :=
    hgoverns.ready h.invariant (hidle _ ((D.contract .loop).rely_refl _))
  refine ⟨hinvariant, h.beside, fun job hjob => ?_⟩
  rcases List.mem_cons.mp hjob with rfl | hjob
  · simp only [Discipline.Keeps, hloop]
    exact hkeeps
  · exact (h.keeps job (List.mem_cons_of_mem _ hjob)).of_rely
      (hrely job.role (h.role_ne_loop hgoverns hjob))

theorem Sound.step (hgoverns : Governs codecs D) {label : MachineLabel}
    (hstep : step codecs source label = some target) (hadmits : AdmitsStep D source label)
    (h : source.Sound D) : target.Sound D := by
  cases steps_of_step hstep with
  | restart =>
      refine ⟨hgoverns.rebooted h.invariant, List.pairwise_singleton .., fun job hjob => ?_⟩
      obtain rfl := List.mem_singleton.mp hjob
      exact hgoverns.startup h.invariant
  | ready hloop => exact h.ready hgoverns hloop
  | post event => exact h
  | @take value event rest hloop hqueue hstarted haccepting =>
      have hsettled : D.Sound ([] ++ ⟨.loop, source.loop⟩ :: source.jobs)
          (source.shared.taking event) :=
        Discipline.Sound.settle h (hgoverns.settles (settles_taking event source.shared))
      have hidle := hsettled.keeps ⟨.loop, source.loop⟩ (List.mem_cons_self ..)
      simp only [Discipline.Keeps, hloop] at hidle
      have hpost := hidle _ ((D.contract .loop).rely_refl _)
      exact hsettled.replace (hgoverns.take event hsettled.invariant hpost)
  | @loop env op resume hloop hallowed =>
      have hop : op ∈ source.loop.nextOp := by simp [hloop, Program.nextOp]
      have hsource : D.Sound ([] ++ ⟨.loop, source.loop⟩ :: source.jobs) source.shared := h
      have hperformed := hsource.perform hloop (hadmits op hop hallowed h.invariant)
      exact Discipline.Sound.settle hperformed (hgoverns.settles
        (settles_answer rfl rfl rfl fun job hjob => ⟨job, hjob, rfl⟩))
  | @start index task htask =>
      have hmem := List.mem_of_getElem? htask
      exact sound_start hgoverns h (fun job _ => beside_task task)
        (hgoverns.task h.invariant hmem) rfl (settles_start hmem)
  | @serve command rest hcommands hstarted hserving hfree =>
      exact sound_start hgoverns h (beside_service hfree)
        (hgoverns.service command h.invariant hstarted) rfl (settles_serve hcommands)
  | reclaim hstarted hfree =>
      exact sound_start hgoverns h (beside_reclaimer hfree) (hgoverns.reclaimer h.invariant) rfl
        settles_reclaim
  | @job index env job op resume hjob hprogram hallowed =>
      obtain ⟨before, after, hjobs, rfl⟩ := exists_append_of_getElem? hjob
      have hop : op ∈ job.program.nextOp := by simp [hprogram, Program.nextOp]
      have hsource : D.Sound ((⟨.loop, source.loop⟩ :: before) ++ job :: after)
          source.shared := by
        simpa [Sound, pool, hjobs] using h
      have hrole := h.role_ne_loop hgoverns (List.mem_of_getElem? hjob)
      have hperformed := hsource.perform hprogram
        (hadmits job hjob hrole op hop hallowed h.invariant)
      refine sound_settle hgoverns hjobs
        (Discipline.Sound.settle hperformed (hgoverns.settles ?_))
      exact settles_answer rfl rfl rfl fun job hjob => ⟨job, hjob, rfl⟩

end

/-- In a run whose environment answers as the contracts admit, every pool is sound. -/
theorem visits_sound (hgoverns : Governs codecs D) {machine : Machine}
    {trace : (system codecs).Trace machine} (h : trace.Obeys (AdmitsStep D)) :
    trace.Visits (Sound D) := by
  refine TransitionSystem.Trace.visits_of_obeys ?_ ?_ h
  · rintro _ rfl
    refine ⟨hgoverns.installed, List.pairwise_singleton .., fun job hjob => ?_⟩
    obtain rfl := List.mem_singleton.mp hjob
    exact hgoverns.startup hgoverns.installed
  · exact fun source label target hstep hadmits hsource => hsource.step hgoverns hstep hadmits

/-- What no operation can break, and no restart, holds in every reachable state. -/
theorem invariant_of_reachable {I : Shared → Prop} (hinstalled : I (installed codecs).shared)
    (hrebooted : ∀ {shared : Shared}, I shared → I shared.rebooted)
    (hready : ∀ {shared : Shared}, I shared → I shared.ready)
    (hsettles : ∀ {shared moved}, Settles shared moved → I shared → I moved)
    (hperform : ∀ {op env shared}, I shared → I (Shared.semantics.answer op env shared).2)
    {machine : Machine} (h : (system codecs).Reachable machine) : I machine.shared := by
  obtain ⟨trace⟩ := h
  have hgoverns : Governs codecs
      (.ofInvariant I Role.Beside (·.symm) Settles hsettles hperform) :=
    { beside := Iff.rfl
      settles := id
      installed := hinstalled
      rebooted := hrebooted
      startup := fun _ => Program.ensures_free _ _
      ready := fun h _ => ⟨hready h, fun _ _ => trivial, fun _ _ => trivial⟩
      take := fun _ _ _ => Program.ensures_free _ _
      task := fun _ _ => Program.ensures_free _ _
      service := fun _ _ _ => Program.ensures_free _ _
      reclaimer := fun _ => Program.ensures_free _ _ }
  have hadmits : trace.Obeys (AdmitsStep (.ofInvariant I Role.Beside (·.symm) Settles hsettles
      hperform)) :=
    trace.obeys_true.mono fun _ label _ => by
      cases label <;> simp [AdmitsStep, Admits, Discipline.ofInvariant, Contract.free]
  exact (visits_sound hgoverns hadmits).last.invariant

end Machine

end Modvpn
