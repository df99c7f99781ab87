/-
# A connect and the session service

`on_connect_inner` spans two actors. The loop inserts a row, asks the session service for
a session, and records the answer; the service calls the server and, if the session is
accepted, has started a watcher before the loop reads the answer. Here the two work on
one connect without interruption, from any state, and each step fails when it likes.
-/

import Modvpn.Daemon.SessionService

namespace Modvpn

open Modvpn.Protocol
open Entity (VpnSession)

/-- `VpnSessionHandler::new_session`: the service answers the command, or is gone. -/
def VpnSessionService.request (service : VpnSessionService) (newSession : NewSession)
    (reply : Except VpnSessionError Proto.Accepted) :
    Except VpnSessionError Accepted × VpnSessionService :=
  if service.phase = .running then
    let handled := service.onCommand (.newSession newSession) reply
    match handled.answers.drop service.answers.length with
    | answer :: _ => (answer, handled)
    | [] => (.error .vpnSessionServiceDown, handled)
  else (.error .vpnSessionServiceDown, service)

structure Connecting where
  world : World
  service : VpnSessionService

/-- What may go wrong in a connect, with the environment's choices it needs. -/
structure ConnectChoices where
  env : Env
  /-- The row insert. -/
  insert : Option DbErr
  /-- The device id query. -/
  query : Option DbErr
  /-- What the server says to the call. -/
  reply : Except VpnSessionError Proto.Accepted
  /-- The update that records the acceptance. -/
  update : Option DbErr
  /-- The clean-up. -/
  delete : Option DbErr

namespace ConnectChoices

def requestId (choices : ConnectChoices) : Uuid := choices.env.uuid

/-- Whether the statement of an operation fails. -/
def dbErr (choices : ConnectChoices) : Op → Option DbErr
  | .insertVpnSession _ _ => choices.insert
  | .findDeviceUniqueId => choices.query
  | .setAccepted _ _ => choices.update
  | .deleteVpnSession _ => choices.delete
  | _ => none

end ConnectChoices

namespace Connecting

/-- The call is the service's; everything else happens in the loop. -/
@[reducible]
def semantics : Semantics ops ConnectChoices Connecting where
  answer op choices connecting :=
    let (env, service) : Env × VpnSessionService :=
      match op with
      | .awaitNewSession request =>
          let (newSession, service) := connecting.service.request request choices.reply
          ({ choices.env with newSession }, service)
      | op => ({ choices.env with dbErr := choices.dbErr op }, connecting.service)
    ((World.answer op env connecting.world).1,
      { world := (World.answer op env connecting.world).2, service })

/-- The handler's part of a connect, from beginning to end. -/
def connect (connecting : Connecting) (choices : ConnectChoices) (location : Location) :
    Outcome Connecting (Except DaemonError VpnStatus) :=
  (Daemon.onConnectInner location).run.run semantics (fun _ => choices) connecting

/-- The connect did not lead to a session. -/
def Failed (result : Except DaemonError VpnStatus) : Prop :=
  (∃ error, result = .error error) ∨ result = .ok .disconnected

/-- The rows are those from before, the status is `Disconnected`, and no watcher of the
session runs that did not run before. -/
structure NothingLeft (before after : Connecting) (requestId : Uuid) : Prop where
  rows : after.world.vpnSession = before.world.vpnSession
  status : after.world.state.vpnStatus = .disconnected
  watchers : ∀ task ∈ after.service.watchers, task.requestId = requestId → task.ended = none →
    task ∈ before.service.watchers

end Connecting

end Modvpn
