/-
# Loops that convert replies

A watcher converts what `GetStatus` answers in its own loop, and the device service what
`AddDevice` answers while it handles a command. A conversion that panics ends the loop
with the task it runs in. The tables of the device service are its own, so nobody else
appears beside it.
-/

import Modvpn.Daemon.SessionService
import Modvpn.Daemon.ServiceLoop
import Modvpn.Daemon.WatcherLoop

namespace Modvpn

open Modvpn.Protocol

/-! ## A watcher -/

/-- A watcher in its task. -/
structure WatcherLoop where
  watcher : Watcher
  phase : TaskPhase

inductive WatcherLabel
  | tick (reply : Except VpnSessionError Proto.VpnSessionStatus) (daemonOpen : Bool)
  | shutdown

namespace WatcherLoop

def step (loop : WatcherLoop) : WatcherLabel → Option WatcherLoop
  | .tick reply daemonOpen =>
      if loop.phase = .running then
        match Proto.received Proto.VpnSessionStatus.into reply with
        | .error message => some { loop with phase := .panicked message }
        | .ok reply =>
            let polled := loop.watcher.onTick ⟨reply, daemonOpen⟩
            some ⟨polled.1, if polled.2.2 then .returned else .running⟩
      else none
  | .shutdown => if loop.phase = .running then some { loop with phase := .returned } else none

def system : TransitionSystem WatcherLoop WatcherLabel where
  Init loop := ∃ request, loop = ⟨.new request, .running⟩
  step := step

end WatcherLoop

/-! ## The device service -/

inductive DeviceLabel
  | handleMessage (command : DeviceCommand)
  /-- The handler's next operation; the reply is the server's to `AddDevice`. -/
  | perform (env : Env) (reply : Except Status Proto.AddDeviceResponse)

namespace DeviceLoop

variable (codecs : Codecs)

def step (loop : ServiceLoop) : DeviceLabel → Option ServiceLoop
  | .handleMessage command => ServiceLoop.step codecs loop (.handleMessage command)
  | .perform env reply =>
      match loop.nextOp with
      | some (.addDevice _) =>
          match Proto.received Proto.AddDeviceResponse.into reply with
          | .error message => some { loop with handler := some (.panic message) }
          | .ok addDevice => ServiceLoop.step codecs loop (.perform { env with addDevice })
      | _ => ServiceLoop.step codecs loop (.perform env)

def system : TransitionSystem ServiceLoop DeviceLabel where
  Init loop := loop.handler = none
  step := step codecs

/-- The task of the service is alive. -/
def Alive (loop : ServiceLoop) : Prop := ∀ message, loop.handler ≠ some (.panic message)

end DeviceLoop

end Modvpn
