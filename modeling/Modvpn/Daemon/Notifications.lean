/-
# The notifications that are due

Beside the machine, the notifications that clients have still to be shown. A
notification is added when the handler that adds it announces it, which it does once; it
is due until its id is acknowledged. Nothing in the program reads `due`. A restart
forgets all notifications.
-/

import Modvpn.Daemon.Machine

namespace Modvpn

open Modvpn.Protocol
open Entity (VpnSession)

structure Noted where
  machine : Machine
  due : List Notification

namespace Noted

/-- An announced notification has been added. -/
def dueAfter (due : List Notification) : Op → List Notification
  | .broadcast (.notification notification) => due ++ [notification]
  | _ => due

/-- A handled acknowledgement is for all notifications of its id. -/
def acknowledged (due : List Notification) : DaemonEvent → List Notification
  | .command (.ackNotification id) => due.filter (·.id ≠ id)
  | _ => due

def dueNext (noted : Noted) : MachineLabel → List Notification
  | .restart => []
  | .take =>
      match noted.machine.queue with
      | [] => noted.due
      | event :: _ => acknowledged noted.due event
  | .loop _ =>
      match noted.machine.loop.nextOp with
      | none => noted.due
      | some op => dueAfter noted.due op
  | _ => noted.due

variable (codecs : Codecs)

def step (noted : Noted) (label : MachineLabel) : Option Noted :=
  (Machine.step codecs noted.machine label).map fun machine =>
    { machine, due := noted.dueNext label }

/-- A new installation, through all its restarts. -/
def system : TransitionSystem Noted MachineLabel where
  Init noted := noted = { machine := Machine.installed codecs, due := [] }
  step := step codecs

/-- No event is being handled. -/
def Idle (noted : Noted) : Prop := noted.machine.loop = .pure ()

/-- Between two events the daemon lists what is due, the latest first. -/
def Lists (noted : Noted) : Prop :=
  noted.Idle → noted.machine.world.state.notifications.Perm noted.due ∧
    noted.machine.world.state.notifications.Pairwise fun first second =>
      first.timestamp.notBefore second.timestamp

end Noted

end Modvpn
