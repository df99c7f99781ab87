/-
# The whole daemon, one operation at a time

The daemon loop, the tasks its handlers spawn, the device service, and the
reclaimer take turns at performing single operations on what they share. The
process may be killed between any two of them; a restart keeps the database and
loses everything else.

Two things are taken for granted about what is not in the repository: a generated
request id was never generated before, and the server accepts the request it was
asked about and no other. `issued` remembers the generated ids for this.
-/

import Modvpn.Daemon.Channel
import Modvpn.Daemon.Tasks
import Modvpn.Protocol.Pool

namespace Modvpn

open Modvpn.Protocol
open Entity (VpnSession)

/-- Who performs an operation. -/
inductive Role
  | loop
  | task (task : Task)
  | service (command : DeviceCommand)
  | reclaimer
  deriving DecidableEq

namespace Role

def isLoop : Role → Bool
  | .loop => true
  | _ => false

def isService : Role → Bool
  | .service _ => true
  | _ => false

def isReclaimer : Role → Bool
  | .reclaimer => true
  | _ => false

/-- Part of a sign-out that has been let through. -/
def signsOut : Role → Bool
  | .task .signOut | .service .signOut => true
  | _ => false

/-- There is one loop, one device service, and one reclaimer. -/
def Beside (first second : Role) : Prop :=
  (first.isLoop && second.isLoop || first.isService && second.isService ||
    first.isReclaimer && second.isReclaimer) = false

theorem Beside.symm {first second : Role} (h : first.Beside second) : second.Beside first := by
  simpa only [Beside, Bool.and_comm] using h

end Role

structure Machine where
  world : World
  /-- Request ids that were generated so far. -/
  issued : List Uuid
  queue : List DaemonEvent
  /-- The handler the loop is in, or the startup; when it has returned, the loop
  waits for an event. -/
  loop : Async Unit
  /-- The startup is over. -/
  started : Bool
  /-- The loop has not been told to shut down. -/
  accepting : Bool
  /-- The device service has not panicked. -/
  serving : Bool
  jobs : List (Job ops Role)

inductive MachineLabel
  /-- The process is killed and started again. -/
  | restart
  /-- The startup is over, and service and reclaimer may begin. -/
  | ready
  | post (event : DaemonEvent)
  /-- The loop takes the next event. -/
  | take
  | loop (env : Env)
  /-- The runtime starts a spawned task. -/
  | start (index : Nat)
  /-- The device service takes the next command. -/
  | serve
  /-- The reclaimer begins a pass. -/
  | reclaim
  | job (index : Nat) (env : Env)

/-- What a new process finds. -/
def World.rebooted (world : World) : World :=
  { world with
    state := .new
    serviceToken := none
    deviceCommands := []
    spawned := []
    broadcasts := []
    responses := []
    tunnelCommands := []
    live := none }

namespace Machine

/-- Answers the environment may give. -/
def allowed (issued : List Uuid) (env : Env) : Op → Bool
  | .newUuid => env.uuid ∉ issued
  | .awaitNewSession request =>
      env.newSession.toOption.all fun accepted => accepted.requestId = request.requestId
  | _ => true

/-- The ids generated after an operation. -/
def issuedAfter (issued : List Uuid) (env : Env) : Op → List Uuid
  | .newUuid => env.uuid :: issued
  | _ => issued

/-- The startup of the process, which exits when it fails. -/
def startup (codecs : Codecs) : Async Unit := do
  match ← (createDaemon codecs).run with
  | .ok _ => return ()
  | .error e => Program.panic e

variable (codecs : Codecs)

def restarted (machine : Machine) : Machine where
  world := machine.world.rebooted
  issued := machine.issued
  queue := []
  loop := startup codecs
  started := false
  accepting := true
  serving := true
  jobs := []

/-- A program that performed its next operation, and the machine it left. -/
def advance (program : Async Unit) (env : Env) (machine : Machine) :
    Option (Async Unit × Machine) :=
  match program with
  | .pure _ | .panic _ => none
  | .perform op next =>
      if allowed machine.issued env op then
        let answered := World.answer op env machine.world
        some (next answered.1, { machine with
          world := answered.2
          issued := issuedAfter machine.issued env op })
      else none

/-- Keep a job while it has something to do. A panic ends the service for good. -/
def settle (index : Nat) (job : Job ops Role) (machine : Machine) : Machine :=
  match job.program with
  | .perform _ _ => { machine with jobs := machine.jobs.set index job }
  | .pure _ => { machine with jobs := machine.jobs.eraseIdx index }
  | .panic _ => { machine with
      jobs := machine.jobs.eraseIdx index
      serving := machine.serving && !job.role.isService }

/-- What the log of the run says about an event. -/
def received : DaemonEvent → List Happened
  | .vpnSessionStatus status => [.received status]
  | _ => []

/-- The loop begins to handle an event. -/
def taking (event : DaemonEvent) (rest : List DaemonEvent) (machine : Machine) : Machine :=
  { machine with
    world := { machine.world with history := machine.world.history ++ received event }
    queue := rest
    loop := Daemon.handleEvent event
    accepting := event ≠ .shutdown }

def step (machine : Machine) : MachineLabel → Option Machine
  | .restart => some (restarted codecs machine)
  | .ready =>
      match machine.loop with
      | .pure _ => some { machine with started := true }
      | _ => none
  | .post event => some { machine with queue := machine.queue ++ [event] }
  | .take =>
      match machine.loop, machine.queue with
      | .pure _, event :: rest =>
          if machine.started && machine.accepting then some (machine.taking event rest) else none
      | _, _ => none
  | .loop env =>
      match advance machine.loop env machine with
      | none => none
      | some (loop, next) => some { next with loop }
  | .start index =>
      match machine.world.spawned[index]? with
      | none => none
      | some task => some { machine with
          world := { machine.world with spawned := machine.world.spawned.eraseIdx index }
          jobs := machine.jobs ++ [⟨.task task, task.program⟩] }
  | .serve =>
      match machine.world.deviceCommands with
      | [] => none
      | command :: rest =>
          if machine.started && machine.serving && machine.jobs.all (!·.role.isService) then
            some { machine with
              world := { machine.world with deviceCommands := rest }
              jobs := machine.jobs ++
                [⟨.service command, DeviceService.handleMessage codecs command⟩] }
          else none
  | .reclaim =>
      if machine.started && machine.jobs.all (!·.role.isReclaimer) then
        some { machine with jobs := machine.jobs ++ [⟨.reclaimer, Reclaimer.reclaim codecs⟩] }
      else none
  | .job index env =>
      match machine.jobs[index]? with
      | none => none
      | some job =>
          match advance job.program env machine with
          | none => none
          | some (program, next) => some (next.settle index { job with program })

/-- A new installation: the database is empty. -/
def installed : Machine where
  world :=
    { vpnSession := []
      device := []
      token := []
      tokenSequence := 0
      recentLocations := []
      recentSequence := 0
      state := .new
      serviceToken := none
      deviceCommands := []
      spawned := []
      broadcasts := []
      responses := []
      tunnelCommands := []
      history := []
      live := none }
  issued := []
  queue := []
  loop := startup codecs
  started := false
  accepting := true
  serving := true
  jobs := []

/-- The daemon from its installation on, through all its restarts. -/
def system : TransitionSystem Machine MachineLabel where
  Init machine := machine = installed codecs
  step := step codecs

/-! ## What the programs share -/

/-- The state the programs act on, whether no sign-out is under way, and whether the
startup is over. -/
structure Shared where
  world : World
  issued : List Uuid
  quiet : Bool
  started : Bool

/-- The operation begins or passes on a sign-out. -/
def signsOut : Op → Bool
  | .spawn .signOut | .sendDeviceCommand .signOut => true
  | _ => false

/-- The operations of the daemon on what the programs share. -/
@[reducible]
def Shared.semantics : Semantics ops Env Shared where
  answer op env shared :=
    ((World.answer op env shared.world).1,
      { world := (World.answer op env shared.world).2
        issued := issuedAfter shared.issued env op
        quiet := shared.quiet && !signsOut op
        started := shared.started })

variable {codecs}

/-- No sign-out was let through that is not over. -/
def quiet (machine : Machine) : Bool :=
  machine.world.spawned.all (· ≠ .signOut) && machine.world.deviceCommands.all (· ≠ .signOut) &&
    machine.jobs.all (!·.role.signsOut)

def shared (machine : Machine) : Shared where
  world := machine.world
  issued := machine.issued
  quiet := machine.quiet
  started := machine.started

/-- The programs that take turns. -/
def pool (machine : Machine) : List (Job ops Role) :=
  ⟨.loop, machine.loop⟩ :: machine.jobs

end Machine

/-! ## A new installation at work -/

namespace Sample

/-- The first startup. -/
def installing : List MachineLabel := List.replicate 7 (.loop first) ++ [.ready]

/-- A request to connect, and this many operations of its handler. -/
def requesting (env : Env) (operations : Nat) : List MachineLabel :=
  [.post (.command (.connect location)), .take] ++ List.replicate operations (.loop env)

end Sample

end Modvpn
