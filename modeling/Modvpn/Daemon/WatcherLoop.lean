/-
# A watcher left to itself

The loop of `Watcher::run` while nobody shuts it down. Every second it polls the server,
and what it has to say goes to the daemon, which may have gone: then the send fails and
the watch is over.
-/

import Modvpn.Daemon.Watching

namespace Modvpn

/-- What one poll meets. -/
structure Poll where
  reply : Except VpnSessionError VpnSessionStatus
  /-- Whether the daemon still receives events. -/
  daemonOpen : Bool
  deriving DecidableEq

/-- What has come of a watch. -/
structure Watch where
  sent : List DaemonEvent
  /-- Whether the loop was left. -/
  stopped : Bool

namespace Watcher

/-- One poll: the watcher after it, what the daemon receives, and whether the watch is
over. -/
def onTick (watcher : Watcher) (poll : Poll) : Watcher × List DaemonEvent × Bool :=
  match poll.reply with
  -- neither an error to connect nor one of the server ends the watch
  | .error _ => (watcher, [], false)
  | .ok vpnSessionStatus =>
      -- replaced before it is compared
      let watched := { watcher with lastWatch := some vpnSessionStatus }
      if watcher.lastWatch = some vpnSessionStatus then (watched, [], false)
      else if poll.daemonOpen then
        (watched, [.vpnSessionStatus vpnSessionStatus], vpnSessionStatus.isEndState)
      else (watched, [], true)

/-- While the daemon receives events a tick is the poll of the session service. -/
theorem onTick_of_open (watcher : Watcher) (reply : Except VpnSessionError VpnSessionStatus) :
    watcher.onTick ⟨reply, true⟩ = watcher.watchEnded reply := by
  cases reply <;> rfl

/-- The loop, as far as these polls take it. -/
def run (watcher : Watcher) : List Poll → Watch
  | [] => ⟨[], false⟩
  | poll :: polls =>
      match watcher.onTick poll with
      | (_, sent, true) => ⟨sent, true⟩
      | (watched, sent, false) =>
          let watch := watched.run polls
          { watch with sent := sent ++ watch.sent }

end Watcher

end Modvpn
