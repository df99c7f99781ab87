/-
# The session service and its watchers

What the server says about a session reaches the loop through a watcher: a task that
polls the server, passes on each status that differs from the one before, and stops
once a status is final. The session service starts one when the server has accepted a
session, and before the loop reads the answer.

Beside the machine, whose `post` of a server status is the watchers' alone here, the
state has two fields that nothing in the program reads: `event` is the event the loop
took last, and `connects` lists the sessions for which the tunnel was told to connect,
through all restarts. The server is taken to answer a poll with the request id it was
asked about.
-/

import Modvpn.Daemon.Machine

namespace Modvpn

open Modvpn.Protocol

structure VpnSessionStatusRequest where
  requestId : Uuid
  vpnSessionUuid : Uuid
  deviceUniqueId : Uuid
  deriving DecidableEq

/-- The session a server status is about. -/
def VpnSessionStatus.requestId (status : VpnSessionStatus) : Uuid :=
  (VpnSessionStorage.getSessionInfo status).requestId

/-- The statuses after which a session is not watched any more. -/
def VpnSessionStatus.isEndState : VpnSessionStatus → Bool
  | .failed _ | .serverReady _ | .clientConnected _ | .ended _ => true
  | .serverCreated _ | .serverRunning _ | .accepted _ => false

structure Watcher where
  vpnSessionStatusRequest : VpnSessionStatusRequest
  lastWatch : Option VpnSessionStatus
  deriving DecidableEq

namespace Watcher

def new (vpnSessionStatusRequest : VpnSessionStatusRequest) : Watcher where
  vpnSessionStatusRequest
  lastWatch := none

def requestId (watcher : Watcher) : Uuid := watcher.vpnSessionStatusRequest.requestId

/-- One poll: the watcher after it, what it sends, and whether the watch is over. -/
def watchEnded (watcher : Watcher) :
    Except VpnSessionError VpnSessionStatus → Watcher × List DaemonEvent × Bool
  -- this could be a transient error, so the watch goes on
  | .error _ => (watcher, [], false)
  | .ok vpnSessionStatus =>
      let watched := { watcher with lastWatch := some vpnSessionStatus }
      if watcher.lastWatch = some vpnSessionStatus then (watched, [], false)
      else (watched, [.vpnSessionStatus vpnSessionStatus], vpnSessionStatus.isEndState)

end Watcher

/-- The daemon with its session service. -/
structure Watched where
  machine : Machine
  /-- Sessions the service has been asked to request. -/
  commands : List NewSession
  /-- What the service has answered and the loop has not read. -/
  answers : List (Except VpnSessionError Accepted)
  watchers : List Watcher
  event : Option DaemonEvent
  connects : List Uuid

inductive WatchedLabel
  | machine (label : MachineLabel)
  /-- The service takes a command and calls the server. -/
  | onNewSession (accepted : Except VpnSessionError Accepted)
  | poll (index : Nat) (reply : Except VpnSessionError VpnSessionStatus)
  /-- The service tells a watcher to shut down, as it does when the client has
  connected or the session ends. -/
  | stopWatcher (index : Nat)

namespace Watched

/-- The operation a step of the machine performs. -/
def performed (machine : Machine) : MachineLabel → Option Op
  | .loop _ => machine.loop.nextOp
  | .job index _ => machine.jobs[index]?.bind (·.program.nextOp)
  | _ => none

/-- The session the loop is told about. -/
def session : Option DaemonEvent → Option Uuid
  | some (.vpnSessionStatus status) => some status.requestId
  | _ => none

/-- The part of the service in an operation, or `none` while the operation waits. -/
def serve (watched : Watched) (env : Env) : Option Op → Option Watched
  | some (.sendNewSession request) =>
      some { watched with commands := watched.commands ++ [request] }
  | some (.awaitNewSession _) =>
      match watched.answers with
      | [] => none
      | answer :: rest =>
          if answer = env.newSession then some { watched with answers := rest } else none
  | some (.sendTunnelCommand .connect) =>
      some { watched with connects := watched.connects ++ (session watched.event).toList }
  | _ => some watched

/-- The part of the service, and of what is recorded, in a step of the machine. -/
def accompany (watched : Watched) : MachineLabel → Option Watched
  | .restart => some { watched with commands := [], answers := [], watchers := [], event := none }
  | .post (.vpnSessionStatus _) => none
  | .take => some { watched with event := watched.machine.queue.head? }
  | .loop env => watched.serve env (performed watched.machine (.loop env))
  | .job index env => watched.serve env (performed watched.machine (.job index env))
  | _ => some watched

/-- `on_new_session`: if accepted start a watcher. -/
def onNewSession (watched : Watched) (newSession : NewSession) (rest : List NewSession)
    (accepted : Except VpnSessionError Accepted) : Watched :=
  let started : List Watcher :=
    match accepted with
    | .ok accepted =>
        [.new {
          requestId := newSession.requestId
          vpnSessionUuid := accepted.vpnSessionUuid
          deviceUniqueId := newSession.deviceUniqueId }]
    | .error _ => []
  { watched with
    commands := rest
    answers := watched.answers ++ [accepted]
    watchers := watched.watchers ++ started }

/-- The watcher goes on from its poll, unless the watch is over. -/
def onPoll (watched : Watched) (index : Nat) (polled : Watcher × List DaemonEvent × Bool) :
    Watched :=
  { watched with
    machine := { watched.machine with queue := watched.machine.queue ++ polled.2.1 }
    watchers := if polled.2.2 then watched.watchers.eraseIdx index
      else watched.watchers.set index polled.1 }

variable (codecs : Codecs)

def step (watched : Watched) : WatchedLabel → Option Watched
  | .machine label =>
      match Machine.step codecs watched.machine label with
      | none => none
      | some machine => (watched.accompany label).map ({ · with machine })
  | .onNewSession accepted =>
      match watched.commands with
      | [] => none
      | newSession :: rest => some (watched.onNewSession newSession rest accepted)
  | .poll index reply =>
      match watched.watchers[index]? with
      | none => none
      | some watcher =>
          if reply.toOption.all (·.requestId = watcher.requestId) then
            some (watched.onPoll index (watcher.watchEnded reply))
          else none
  | .stopWatcher index =>
      if index < watched.watchers.length then
        some { watched with watchers := watched.watchers.eraseIdx index }
      else none

/-- A new installation, through all its restarts. -/
def system : TransitionSystem Watched WatchedLabel where
  Init watched := watched =
    { machine := Machine.installed codecs
      commands := []
      answers := []
      watchers := []
      event := none
      connects := [] }
  step := step codecs

end Watched

end Modvpn
