/-
# The session service

`VpnSessionService` takes one command after another. It awaits the server's answer to a
new session itself; the other calls it leaves to tasks. For each session that the server
accepts it starts a watcher and keeps the sender of the watcher's shutdown channel under
the request id. A panic while a command is handled unwinds the task of the service, and
everything it owns is dropped, as it is when `run` returns.
-/

import Modvpn.Daemon.Watching
import Modvpn.Protocol.Senders
import Modvpn.Server.Conversions

namespace Modvpn

open Modvpn.Protocol

inductive VpnSessionCommand
  | newSession (newSession : NewSession)
  | endSession (endSession : EndSession)
  | clientConnected (clientConnected : ClientConnected)
  | listLocations
  | shutdown
  deriving DecidableEq

/-- How a watcher has ended: by itself, or because its shutdown channel was resolved. -/
inductive WatcherEnd
  | itself
  | shutdown
  deriving DecidableEq

/-- A watcher as the service has started it. -/
structure WatcherTask where
  vpnSessionStatusRequest : VpnSessionStatusRequest
  shutdownRx : Nat
  ended : Option WatcherEnd
  deriving DecidableEq

def WatcherTask.requestId (task : WatcherTask) : Uuid := task.vpnSessionStatusRequest.requestId

/-- How far a task has come. -/
inductive TaskPhase
  | running
  | returned
  | panicked (message : String)
  deriving DecidableEq

structure VpnSessionService where
  phase : TaskPhase
  /-- Whether somebody waits for the shutdown. -/
  shutdownTx : Bool
  watcherShutdownTxs : Senders Uuid
  /-- Every watcher that was ever started. -/
  watchers : List WatcherTask
  /-- What callers have been answered in the service's own task. -/
  answers : List (Except VpnSessionError Accepted)
  /-- Commands whose call, with the conversion of its reply, and answer were left to a
  task. -/
  spawned : List VpnSessionCommand

namespace VpnSessionService

def new : VpnSessionService where
  phase := .running
  shutdownTx := false
  watcherShutdownTxs := .empty
  watchers := []
  answers := []
  spawned := []

/-- The service is gone, and with it the senders it holds. -/
def drop (service : VpnSessionService) (phase : TaskPhase) : VpnSessionService :=
  { service with phase, watcherShutdownTxs := service.watcherShutdownTxs.dropAll }

def startWatcher (service : VpnSessionService) (vpnSessionStatusRequest : VpnSessionStatusRequest) :
    VpnSessionService :=
  { service with
    watcherShutdownTxs := service.watcherShutdownTxs.insert vpnSessionStatusRequest.requestId
    watchers := service.watchers ++
      [{ vpnSessionStatusRequest
         shutdownRx := service.watcherShutdownTxs.channels.length
         ended := none }] }

def stopWatcher (service : VpnSessionService) (requestId : Uuid) : VpnSessionService :=
  { service with watcherShutdownTxs := service.watcherShutdownTxs.removeAndSend requestId }

/-- The reply of the server, converted on the spot. -/
def onNewSessionInner (reply : Except VpnSessionError Proto.Accepted) :
    Conversion (Except VpnSessionError Accepted) :=
  Proto.received Proto.Accepted.into reply

def onNewSession (service : VpnSessionService) (newSession : NewSession)
    (reply : Except VpnSessionError Proto.Accepted) : VpnSessionService :=
  match onNewSessionInner reply with
  | .error message => service.drop (.panicked message)
  | .ok accepted =>
      -- if accepted start a watcher
      let watched := match accepted with
        | .ok accepted => service.startWatcher {
            requestId := newSession.requestId
            vpnSessionUuid := accepted.vpnSessionUuid
            deviceUniqueId := newSession.deviceUniqueId }
        | .error _ => service
      { watched with answers := watched.answers ++ [accepted] }

def spawn (service : VpnSessionService) (command : VpnSessionCommand) : VpnSessionService :=
  { service with spawned := service.spawned ++ [command] }

/-- The reply to a new session is the server's; the other commands do not wait for one. -/
def handleCommand (service : VpnSessionService) (command : VpnSessionCommand)
    (reply : Except VpnSessionError Proto.Accepted) : VpnSessionService :=
  match command with
  | .newSession newSession => service.onNewSession newSession reply
  | .endSession endSession => (service.stopWatcher endSession.requestId).spawn command
  | .clientConnected clientConnected =>
      (service.stopWatcher clientConnected.requestId).spawn command
  | .listLocations => service.spawn command
  | .shutdown => { service with shutdownTx := true }

/-- The loop is left. After a shutdown the senders are moved into an iterator that nobody
consumes, so its closure never sends; either way they are dropped. -/
def leave (service : VpnSessionService) : VpnSessionService := service.drop .returned

/-- `Some(command)` from the receiver. -/
def onCommand (service : VpnSessionService) (command : VpnSessionCommand)
    (reply : Except VpnSessionError Proto.Accepted) : VpnSessionService :=
  let handled := service.handleCommand command reply
  -- a handler that panics does not come back to the loop
  if handled.phase = .running ∧ handled.shutdownTx then handled.leave else handled

end VpnSessionService

inductive SessionServiceLabel
  | recv (command : VpnSessionCommand) (reply : Except VpnSessionError Proto.Accepted)
  /-- All senders of commands are gone. -/
  | closed
  | watcherEnds (index : Nat) (how : WatcherEnd)

namespace VpnSessionService

def step (service : VpnSessionService) : SessionServiceLabel → Option VpnSessionService
  | .recv command reply =>
      if service.phase = .running then some (service.onCommand command reply) else none
  | .closed => if service.phase = .running then some service.leave else none
  | .watcherEnds index how =>
      match service.watchers[index]? with
      | none => none
      | some task =>
          if task.ended = none ∧
              (how = .shutdown → service.watcherShutdownTxs.Resolved task.shutdownRx) then
            some { service with watchers := service.watchers.set index { task with ended := how } }
          else none

/-- `run`, with the watchers it starts. -/
def system : TransitionSystem VpnSessionService SessionServiceLabel where
  Init service := service = new
  step := step

end VpnSessionService

end Modvpn
