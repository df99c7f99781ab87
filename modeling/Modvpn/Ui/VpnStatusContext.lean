/-
# The user interface and the daemon

A user action is dispatched at once and invokes a call. The daemon handles calls one
at a time, in any order, and may change its status at any other time; each change but
that of an accepted connect call is an event. Replies and events travel on two
channels: events keep their order, and a reply may arrive before or after anything.

`inFlight` keeps what the daemon has sent in the order of sending. `guessing` records
that the last thing dispatched was an action of the user.
-/

import Modvpn.Daemon.State
import Modvpn.Protocol.TransitionSystem
import Modvpn.Ui.VpnStatusReducer

namespace Modvpn.Ui

open Modvpn.Protocol

inductive UiError
  | daemonIsOffline
  | grpc (code : UInt8) (message : String)
  deriving DecidableEq

/-- The functions of the provider that invoke a command. -/
inductive Call
  | connect (location : Location)
  | disconnect (location : Location)
  | getVpnStatus
  deriving DecidableEq

namespace Call

/-- Dispatched before the command is invoked. -/
def action : Call → VpnStatusAction
  | .connect location => .connect location
  | .disconnect location => .disconnect location
  | .getVpnStatus => .getVpnStatus

/-- Dispatched with the reply. -/
def response (vpnStatus : VpnStatus) : Call → VpnStatusAction
  | .connect _ => .connectResponse vpnStatus
  | .disconnect _ => .disconnectResponse vpnStatus
  | .getVpnStatus => .getVpnStatusResponse vpnStatus

end Call

/-- What travels to the reducer. -/
inductive Message
  | reply (call : Call) (result : Except UiError VpnStatus)
  | event (vpnStatus : VpnStatus)
  deriving DecidableEq

namespace Message

def isEvent : Message → Bool
  | .event _ => true
  | .reply _ _ => false

/-- The status a message tells. -/
def status : Message → Option VpnStatus
  | .event vpnStatus | .reply _ (.ok vpnStatus) => some vpnStatus
  | .reply _ (.error _) => none

/-- An error is shown to the user, and dispatches nothing. -/
def dispatched (state : VpnStatusState) : Message → VpnStatusState
  | .event vpnStatus => vpnStatusReducer state (.vpnStatusEvent vpnStatus)
  | .reply call (.ok vpnStatus) => vpnStatusReducer state (call.response vpnStatus)
  | .reply _ (.error _) => state

end Message

/-- How a call ends, where the daemon's state leaves it open. -/
inductive Outcome
  | done
  /-- The server did not accept the session. -/
  | refused
  /-- The daemon is offline, or the call ended with an error. -/
  | failed (error : UiError)
  deriving DecidableEq

/-- The state after a call, and what is sent. -/
def handleCall (state : DaemonState) (call : Call) : Outcome → Option (DaemonState × List Message)
  | .failed error => some (state, [.reply call (.error error)])
  | .done =>
      match call with
      | .connect location =>
          match state.vpnSessionInProgress with
          | some _ => none
          | none => some (state.accepted location, [.reply call (.ok (.accepted location))])
      | .disconnect _ =>
          let state := state.updateStateOnDisconnect
          some (state, [.event state.vpnStatus, .reply call (.ok state.vpnStatus)])
      | .getVpnStatus => some (state, [.reply call (.ok state.vpnStatus)])
  | .refused =>
      match call, state.vpnSessionInProgress with
      | .connect _, none => some (state, [.reply call (.ok .disconnected)])
      | _, _ => none

/-- The provider and the daemon. -/
structure Desktop where
  ui : VpnStatusState
  daemon : DaemonState
  /-- Calls the daemon has not handled. -/
  calls : List Call
  inFlight : List Message
  guessing : Bool

inductive DesktopLabel
  | act (call : Call)
  | handle (index : Nat) (outcome : Outcome)
  /-- The daemon changes its status otherwise, and tells its subscribers. -/
  | setVpnStatus (vpnStatus : VpnStatus)
  | deliver (index : Nat)

namespace Desktop

def act (desktop : Desktop) (call : Call) : Desktop :=
  { desktop with
    ui := vpnStatusReducer desktop.ui call.action
    calls := desktop.calls ++ [call]
    guessing := true }

def step (desktop : Desktop) : DesktopLabel → Option Desktop
  | .act call => some (desktop.act call)
  | .handle index outcome =>
      match desktop.calls[index]? with
      | none => none
      | some call =>
          match handleCall desktop.daemon call outcome with
          | none => none
          | some (daemon, sent) => some { desktop with
              daemon
              calls := desktop.calls.eraseIdx index
              inFlight := desktop.inFlight ++ sent }
  | .setVpnStatus vpnStatus =>
      some { desktop with
        daemon := desktop.daemon.setVpnStatus vpnStatus
        inFlight := desktop.inFlight ++ [.event vpnStatus] }
  | .deliver index =>
      match desktop.inFlight[index]? with
      | none => none
      | some message =>
          if message.isEvent && (desktop.inFlight.take index).any (·.isEvent) then none
          else some { desktop with
            ui := message.dispatched desktop.ui
            inFlight := desktop.inFlight.eraseIdx index
            guessing := desktop.guessing && message.status.isNone }

/-- The user interface opens, and asks the daemon for its status. -/
def opened (daemon : DaemonState) : Desktop :=
  { ui := initialState, daemon, calls := [], inFlight := [], guessing := false : Desktop }.act
    .getVpnStatus

def system : TransitionSystem Desktop DesktopLabel where
  Init desktop := ∃ daemon, desktop = opened daemon
  step := step

/-- Nothing is in flight, or the user sees the daemon's status. -/
def Converged (desktop : Desktop) : Prop :=
  desktop.calls = [] → desktop.inFlight = [] →
    desktop.ui.vpnStatus = some desktop.daemon.vpnStatus

end Desktop

end Modvpn.Ui
