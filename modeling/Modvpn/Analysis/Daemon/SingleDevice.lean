/-
# One device row

Once the startup is over, the device table has exactly one row until a statement
deletes it. A sign-out does so before it creates the next device, in a statement
of its own, and other programs may look at the table in between; if creating the
next device fails, the table stays empty. As long as no such statement succeeds,
nobody inserts a second row, because a device is created only where there is none.
-/

import Modvpn.Analysis.Daemon.Footprints
import Modvpn.Analysis.Daemon.Governing

namespace Modvpn

open Modvpn.Protocol

/-- Everything but a successful statement that deletes the devices. -/
def Op.sparesDevice (env : Env) : Op → Bool
  | .deleteDevices => env.dbErr ≠ none
  | _ => true

/-- Everything but creating and deleting devices. -/
def Op.keepsCount : Op → Bool
  | .insertDevice _ | .deleteDevices => false
  | _ => true

namespace Machine

/-- When the startup is over, there is exactly one device. -/
def OneDevice (machine : Machine) : Prop :=
  machine.started = true → machine.world.device.length = 1

instance (machine : Machine) : Decidable machine.OneDevice :=
  inferInstanceAs (Decidable (_ → _))

/-- No program beside the loop deletes the devices. -/
def DeviceKept (machine : Machine) : MachineLabel → Prop
  | .job index env => ∀ job ∈ machine.jobs[index]?, ∀ op ∈ job.program.nextOp,
      op.sparesDevice env = true
  | _ => True

/-! ## The terms -/

/-- At most one device, and one when the startup is over. -/
structure Single (shared : Shared) : Prop where
  le : shared.world.device.length ≤ 1
  started : shared.started = true → shared.world.device.length = 1

/-- The loop relies on the number of devices, the others on the startup being over. -/
def Expects : Role → Shared → Shared → Prop
  | .loop, shared, moved => moved.world.device.length = shared.world.device.length
  | _, shared, moved => shared.started = true → moved.started = true

/-- What a role owes: a device is created only where there is none. -/
def Creates (role : Role) (shared : Shared) (env : Env) : Op → Prop
  | .insertDevice _ => role = .loop ∧ shared.world.device = []
  | .deleteDevices => role ≠ .loop ∧ env.dbErr ≠ none
  | _ => True

variable {shared moved : Shared} {role : Role} {op : Op} {env : Env} {codecs : Codecs}

theorem Expects.refl (role : Role) (shared : Shared) : Expects role shared shared := by
  cases role with
  | loop => rfl
  | task _ | service _ | reclaimer => exact id

theorem Expects.trans {later : Shared} (hfirst : Expects role shared moved)
    (hsecond : Expects role moved later) : Expects role shared later := by
  cases role with
  | loop => exact Eq.trans hsecond hfirst
  | task _ | service _ | reclaimer => exact fun h => hsecond (hfirst h)

theorem expects_of_settles (h : Settles shared moved) (role : Role) : Expects role shared moved := by
  obtain ⟨-, hstarted, -, spawned, commands, received, hworld, -⟩ := h
  cases role with
  | loop => simp [Expects, hworld]
  | task _ | service _ | reclaimer => exact fun h => hstarted ▸ h

theorem Single.settles (hsettles : Settles shared moved) (h : Single shared) : Single moved := by
  obtain ⟨-, hstarted, -, spawned, commands, received, hworld, -⟩ := hsettles
  refine ⟨?_, fun hmoved => ?_⟩ <;> rw [hworld]
  · exact h.le
  · exact h.started (hstarted ▸ hmoved)

/-- An operation that is not the creation of a device keeps their number. -/
theorem length_device_answer (hcreates : Creates role shared env op)
    (hinsert : ∀ device, op ≠ .insertDevice device) :
    (World.answer op env shared.world).2.device.length = shared.world.device.length := by
  let P (next : World) : Prop := next.device.length = shared.world.device.length
  cases hwrites : op.writesDevice with
  | false => rw [World.answer_device hwrites]
  | true =>
      cases op with
      | insertDevice device => exact absurd rfl (hinsert device)
      | updateDeviceIpv4 uniqueId ipv4Address =>
          refine World.checked_ensures (P := P) rfl fun _ _ hnext => ?_
          split at hnext <;> cases hnext
          simp [P]
      | deleteDevices =>
          obtain ⟨error, hdb⟩ := Option.ne_none_iff_exists'.mp hcreates.2
          simp [World.answer, World.statement, hdb]
      | _ => cases hwrites

theorem Single.answer (h : Single shared) (hcreates : Creates role shared env op) :
    Single (Shared.semantics.answer op env shared).2 := by
  by_cases hinsert : ∃ device, op = .insertDevice device
  · obtain ⟨device, rfl⟩ := hinsert
    have hstarted : shared.started ≠ true := by
      intro hstarted
      simpa [hcreates.2] using h.started hstarted
    refine ⟨?_, fun hmoved => absurd hmoved hstarted⟩
    refine World.checked_ensures (P := fun next => next.device.length ≤ 1) h.le fun _ _ hnext => ?_
    split at hnext <;> cases hnext
    simp [hcreates.2]
  · have hlength := length_device_answer hcreates fun device heq => hinsert ⟨device, heq⟩
    exact ⟨hlength ▸ h.le, fun hmoved => hlength ▸ h.started hmoved⟩

/-- The terms under which there is one device. -/
def single : Discipline Shared.semantics Role where
  contract role :=
    { rely := Expects role
      admits := fun op env shared => Single shared ∧ (role ≠ .loop → op.sparesDevice env = true)
      duty := fun op env shared => Creates role shared env op
      rely_refl := Expects.refl role
      rely_trans := .trans }
  post
    | .loop, shared => shared.world.device.length = 1
    | _, _ => True
  beside := Role.Beside
  beside_symm := .symm
  invariant := Single
  settles := Settles
  rely_of_settles role := fun h => expects_of_settles h role
  invariant_of_settles := Single.settles
  perform h _ hcreates := by
    refine ⟨h.answer hcreates, fun other hbeside => ?_⟩
    cases other with
    | loop =>
        refine length_device_answer hcreates ?_
        rintro device rfl
        rw [hcreates.1] at hbeside
        simp [Role.Beside, Role.isLoop] at hbeside
    | task _ | service _ | reclaimer => exact id

/-- The program keeps the terms of the role. -/
abbrev Singles {α : Type} (role : Role) (program : Async α) (post : α → Shared → Prop)
    (shared : Shared) : Prop :=
  program.Ensures Shared.semantics (single.contract role) post shared

theorem creates_of_keepsCount (h : op.keepsCount = true) : Creates role shared env op := by
  cases op <;> trivial

/-- A program that neither creates nor deletes a device. -/
theorem singles_of_within {α : Type} {program : Async α} (h : Within Op.keepsCount program) :
    Singles role program (fun _ => (single.contract role).rely shared) shared := by
  refine h.ensures (I := (single.contract role).rely shared)
    (fun _ _ _ hop _ => creates_of_keepsCount hop)
    (fun hrely hmoved => (single.contract role).rely_trans hmoved hrely)
    (fun {op choice moved} hop _ hmoved => (single.contract role).rely_trans hmoved ?_)
    ((single.contract role).rely_refl shared)
  cases role with
  | loop =>
      have hcreates : Creates .loop moved choice op := creates_of_keepsCount hop
      refine length_device_answer hcreates ?_
      rintro device rfl
      cases hop
  | task _ | service _ | reclaimer => exact id

/-! ## The startup and the handlers -/

/-- A device is found, or one is created where there is none. -/
theorem init_singles :
    Singles .loop (DeviceStorage.init codecs).run
      (fun result moved => ∀ details, result = .ok details → moved.world.device.length = 1)
      shared := by
  refine .exceptBind (.adapt ?_)
  intro moved choice _ hadmits
  refine ⟨trivial, ?_⟩
  cases hdb : choice.dbErr with
  | some error =>
      simp only [World.answer, World.statement, hdb]
      exact fun _ _ _ _ _ => by simp
  | none =>
      simp only [World.answer, World.statement, hdb]
      intro later hlater
      cases hdevices : moved.world.device with
      | cons device rest =>
          have hone : later.world.device.length = 1 := by
            have hle := hadmits.1.le
            simp only [hdevices, List.length_cons] at hle
            rw [hlater]
            simp only [hdevices, List.length_cons]
            omega
          exact fun last hlast details _ => Eq.trans hlast hone
      | nil =>
          have hnone : later.world.device = [] := by
            refine List.eq_nil_of_length_eq_zero (Eq.trans hlater ?_)
            simp [hdevices]
          refine .exceptBind ((singles_of_within (within_perform rfl)).mono fun result last hlast => ?_)
          cases result with
          | error error => exact fun _ _ _ => by simp
          | ok deviceDetails =>
              have hnone : last.world.device = [] := by
                refine List.eq_nil_of_length_eq_zero (Eq.trans hlast ?_)
                simp [hnone]
              refine .exceptBind (.adapt ?_)
              intro before choice hbefore _
              have hnone : before.world.device = [] := by
                refine List.eq_nil_of_length_eq_zero (Eq.trans hbefore ?_)
                simp [hnone]
              refine ⟨⟨rfl, hnone⟩, ?_⟩
              cases hdb : choice.dbErr with
              | some error =>
                  simp only [World.answer, World.checked, hdb]
                  exact fun _ _ _ _ _ => by simp
              | none =>
                  simp only [World.answer, World.checked, hdb, hnone, List.any_nil]
                  exact fun after hafter last hlast _ _ => Eq.trans hlast (Eq.trans hafter rfl)

theorem startup_singles :
    Singles .loop (startup codecs) (fun _ moved => moved.world.device.length = 1) shared := by
  have hcreated : Singles .loop (createDaemon codecs).run
      (fun result moved => ∀ value, result = .ok value → moved.world.device.length = 1) shared := by
    refine .exceptBind (init_singles.mono fun result moved hmoved => ?_)
    cases result with
    | error error => exact fun _ _ => nofun
    | ok details =>
        refine (singles_of_within ?_).mono fun result later hlater value _ =>
          Eq.trans hlater (hmoved details rfl)
        refine .exceptBind (.adapt (.exceptBind (within_perform rfl) fun _ => trivial)) fun _ => ?_
        refine .exceptBind (.lift (within_perform rfl)) fun _ => ?_
        refine .exceptBind (.adapt (within_perform rfl)) fun _ => ?_
        exact .lift (within_perform rfl)
  refine .bind (hcreated.mono fun result moved hmoved => ?_)
  cases result with
  | error error => trivial
  | ok value => exact fun later hlater => Eq.trans hlater (hmoved value rfl)

theorem handleEvent_singles (event : DaemonEvent) (hone : shared.world.device.length = 1) :
    Singles .loop (Daemon.handleEvent event) (fun _ moved => moved.world.device.length = 1)
      shared := by
  refine (singles_of_within ((Daemon.handleEvent_within event).mono fun op hop => ?_)).mono
    fun _ _ hmoved => Eq.trans hmoved hone
  cases op <;> first | rfl | cases hop

/-! ## The other programs -/

/-- Where there is a device, none is created. -/
theorem init_singles_service {command : DeviceCommand} (hstarted : shared.started = true) :
    Singles (.service command) (DeviceStorage.init codecs).run
      (fun _ moved => moved.started = true) shared := by
  refine .exceptBind (.adapt ?_)
  intro moved choice hrely hadmits
  refine ⟨trivial, ?_⟩
  have hmoved : moved.started = true := hrely hstarted
  cases hdb : choice.dbErr with
  | some error =>
      simp only [World.answer, World.statement, hdb]
      exact fun later hlater last hlast => hlast (hlater hmoved)
  | none =>
      obtain ⟨device, hdevice⟩ := List.length_eq_one_iff.mp (hadmits.1.started hmoved)
      simp only [World.answer, World.statement, hdb, hdevice]
      exact fun later hlater last hlast => hlast (hlater hmoved)

theorem handleSignInInner_singles (userCreds : UserCredentials) (hstarted : shared.started = true) :
    Singles (.service (.signIn userCreds))
      (DeviceService.handleSignInInner codecs userCreds).run (fun _ _ => True) shared := by
  refine .exceptBind (.adapt ((singles_of_within (within_perform rfl)).mono
    fun result moved hmoved => ?_))
  cases result with
  | error error => exact fun _ _ => trivial
  | ok _ =>
      refine .exceptBindTrivial (.adapt ((init_singles_service (hmoved hstarted)).mono
        fun _ _ _ => trivial)) fun _ later => ?_
      refine (singles_of_within ?_).mono fun _ _ _ => trivial
      refine .exceptBind (.adapt (DeviceStorage.getDevice_within codecs rfl)) fun device => ?_
      refine .exceptBind ?_ fun deviceDetails => ?_
      · cases device <;> trivial
      · refine .exceptBind (.adapt (within_perform rfl)) fun response => ?_
        refine .exceptBind (.adapt (.exceptBind (within_perform rfl)
          fun _ => within_perform rfl)) fun _ => ?_
        refine .exceptBind (.adapt (DeviceStorage.updateIpv4Address_within codecs
          (fun _ => rfl) (fun _ _ => rfl) _ _)) fun _ => ?_
        exact .lift (within_perform rfl)

/-- The statement that deletes the devices fails, and the sign-out ends with it. -/
theorem reinitialize_singles {command : DeviceCommand} (reason : String) :
    Singles (.service command) (DeviceStorage.reinitialize codecs reason).run
      (fun result _ => ∀ value, result ≠ .ok value) shared := by
  refine .exceptBind ?_
  intro moved choice _ hadmits
  have hfails : choice.dbErr ≠ none := by
    simpa [Op.sparesDevice] using hadmits.2 (by simp)
  refine ⟨⟨by simp, hfails⟩, fun later _ => ?_⟩
  obtain ⟨error, hdb⟩ := Option.ne_none_iff_exists'.mp hfails
  simp only [World.answer, World.statement, hdb]
  exact fun _ _ => by simp

theorem handleSignOutInner_singles :
    Singles (.service .signOut) (DeviceService.handleSignOutInner codecs).run
      (fun _ _ => True) shared := by
  have hrest (later : Shared) : Singles (.service .signOut) (do
      ExceptT.adapt .dbErr (DeviceStorage.reinitialize codecs "sign out")
      ExceptT.adapt .dbErr TokenStorage.removeAll
      ExceptT.lift (perform (.writeServiceToken none)) : Fallible DeviceError Unit).run
      (fun _ _ => True) later := by
    refine .exceptBind (.adapt ((reinitialize_singles "sign out").mono fun result _ hfails => ?_))
    cases result with
    | error error => exact fun _ _ => trivial
    | ok value => exact absurd rfl (hfails value)
  refine .exceptBindTrivial (.adapt ((singles_of_within (within_perform rfl)).mono
    fun _ _ _ => trivial)) fun _ _ => ?_
  refine .liftBind ((singles_of_within (within_perform rfl)).mono fun status _ _ => ?_)
  split
  · split
    · exact fun _ _ => trivial
    · exact hrest _
  · exact hrest _

theorem service_singles (command : DeviceCommand) (hstarted : shared.started = true) :
    Singles (.service command) (DeviceService.handleMessage codecs command)
      (fun _ _ => True) shared := by
  cases command with
  | signIn userCreds =>
      exact .bind ((handleSignInInner_singles userCreds hstarted).mono fun _ _ _ =>
        (singles_of_within (within_perform rfl)).mono fun _ _ _ => trivial)
  | signOut =>
      exact .bind (handleSignOutInner_singles.mono fun _ _ _ =>
        (singles_of_within (within_perform rfl)).mono fun _ _ _ => trivial)

theorem task_singles (task : Task) :
    Singles (.task task) task.program (fun _ _ => True) shared := by
  refine (singles_of_within ?_).mono fun _ _ _ => trivial
  cases task with
  | addRecent location =>
      exact (Task.addRecent_within location).mono fun op hop => by
        cases op <;> first | rfl | cases hop
  | clientConnected sessionInfo =>
      exact (Task.clientConnected_within sessionInfo).mono fun op hop => by
        cases op <;> first | rfl | cases hop
  | endSession sessionInfo endReason =>
      exact (Task.endSession_within sessionInfo endReason).mono fun op hop => by
        cases op <;> first | rfl | cases hop
  | signIn userCreds | signOut => exact within_perform rfl

theorem reclaim_singles :
    Singles .reclaimer (Reclaimer.reclaim codecs) (fun _ _ => True) shared := by
  refine (singles_of_within ?_).mono fun _ _ _ => trivial
  exact (Reclaimer.reclaim_within codecs).mono fun op hop => by
    cases op <;> first | rfl | cases hop

theorem governs_single : Governs codecs single where
  beside := Iff.rfl
  settles := id
  installed := ⟨Nat.zero_le 1, nofun⟩
  rebooted h := ⟨h.le, nofun⟩
  startup _ := startup_singles
  ready h hone := ⟨⟨h.le, fun _ => hone⟩, fun _ hrely => Eq.trans hrely hone,
    fun role hrole => by cases role <;> first | exact fun _ => rfl | exact absurd rfl hrole⟩
  take event _ hone := handleEvent_singles event hone
  task _ _ := task_singles _
  service command _ hstarted := service_singles command hstarted
  reclaimer _ := reclaim_singles

/-! ## Runs -/

/-- Before the startup is over, nothing else runs. -/
structure Booting (machine : Machine) : Prop where
  jobs : machine.jobs = []
  spawned : machine.world.spawned = []
  loop : Within Op.inStartup machine.loop

theorem booting_of_step {source target : Machine} {label : MachineLabel}
    (hstep : step codecs source label = some target)
    (h : source.started = false → source.Booting) : target.started = false → target.Booting := by
  intro hstarted
  cases steps_of_step hstep with
  | restart => exact ⟨rfl, rfl, startup_within codecs⟩
  | ready => cases hstarted
  | post event => exact ⟨(h hstarted).jobs, (h hstarted).spawned, (h hstarted).loop⟩
  | take hloop hqueue hready haccepting => exact absurd (hready.symm.trans hstarted) (by simp)
  | @loop env op resume hloop hallowed =>
      obtain ⟨hjobs, hspawned, hwithin⟩ := h hstarted
      rw [hloop] at hwithin
      refine ⟨hjobs, ?_, hwithin.2 _⟩
      show (World.answer op env source.world).2.spawned = []
      rw [World.answer_spawned, hspawned]
      cases op <;> first | rfl | cases hwithin.1
  | start htask => simp [(h hstarted).spawned] at htask
  | serve hcommands hready hserving hfree => exact absurd (hready.symm.trans hstarted) (by simp)
  | reclaim hready hfree => exact absurd (hready.symm.trans hstarted) (by simp)
  | job hjob hprogram hallowed =>
      rw [settle_started] at hstarted
      simp [(h hstarted).jobs] at hjob

/-- A statement of a job that deletes the devices leaves none. -/
theorem not_oneDevice_of_step {source target : Machine} {label : MachineLabel}
    (hstep : step codecs source label = some target)
    (hbooting : source.started = false → source.Booting) (h : ¬ source.DeviceKept label) :
    ¬ target.OneDevice := by
  cases label with
  | job index env =>
      simp only [DeviceKept, not_forall] at h
      obtain ⟨job, hjob, op, hop, hspares⟩ := h
      have hstarted : source.started = true := by
        by_contra hstarted
        have hnone := (hbooting (by simpa using hstarted)).jobs
        simp [hnone] at hjob
      cases steps_of_step hstep with
      | @job _ _ same other resume hsame hprogram hallowed =>
          cases hjob.symm.trans hsame
          have hother : other = op := by simpa [hprogram, Program.nextOp] using hop
          subst hother
          cases other with
          | deleteDevices =>
              have hdb : env.dbErr = none := by simpa [Op.sparesDevice] using hspares
              simp [OneDevice, answered, hstarted, World.answer, World.statement, hdb]
          | _ => exact absurd rfl hspares
  | _ => exact absurd trivial h

theorem admitsStep_single {machine : Machine} {label : MachineLabel}
    (h : machine.DeviceKept label) : AdmitsStep single machine label := by
  cases label with
  | loop env => exact fun _ _ _ hsingle => ⟨hsingle, fun hrole => absurd rfl hrole⟩
  | job index env => exact fun job hjob _ op hop _ hsingle => ⟨hsingle, fun _ => h job hjob op hop⟩
  | _ => trivial

/-- There is one device in every state of a run exactly if no program beside the loop
deletes it. -/
theorem visits_oneDevice_iff {machine : Machine} (trace : (system codecs).Trace machine) :
    trace.Visits OneDevice ↔ trace.Obeys DeviceKept := by
  constructor
  · refine TransitionSystem.Trace.obeys_of_visits (I := fun machine => machine.started = false →
      machine.Booting) ?_ (fun _ _ _ => booting_of_step) fun source label target hstep hbooting hone => ?_
    · rintro _ rfl _
      exact ⟨rfl, rfl, startup_within codecs⟩
    · by_contra h
      exact not_oneDevice_of_step hstep hbooting h hone
  · intro hobeys
    exact (visits_sound governs_single (hobeys.mono fun _ _ => admitsStep_single)).mono
      fun _ hsound => hsound.invariant.started

/-- A sign-out has deleted the device, and a session is asked for before there is
another one: the loop unwraps nothing and is gone. -/
def unwrapping (env : Env) : List MachineLabel :=
  [.post (.command .accountSignOut), .take, .loop env, .loop env, .start 0, .job 0 env, .serve] ++
    List.replicate 3 (.job 0 env) ++ Sample.requesting env 5

theorem exists_unwrapped : ∃ machine, (system Sample.codecs).Reachable machine ∧
    ¬ machine.OneDevice ∧
      machine.loop.panicked = some "called `Option::unwrap()` on a `None` value" := by
  obtain ⟨machine, trace, -, hcheck⟩ := (system Sample.codecs).exists_trace_of_run
    (fun _ _ => True) (rfl : installed Sample.codecs = installed Sample.codecs)
    (Sample.installing ++ unwrapping Sample.first)
    (fun machine => ¬ machine.OneDevice ∧
      machine.loop.panicked = some "called `Option::unwrap()` on a `None` value")
    (by decide +kernel)
  exact ⟨machine, ⟨trace⟩, of_decide_eq_true hcheck⟩

/-- The device table does not always hold a row. -/
theorem not_forall_oneDevice :
    ¬ ∀ machine, (system Sample.codecs).Reachable machine → machine.OneDevice := by
  intro h
  obtain ⟨machine, hreachable, hnone, -⟩ := exists_unwrapped
  exact hnone (h machine hreachable)

end Machine

end Modvpn
