/-
# The reducer of the desktop user interface

What the user sees is the last status the reducer was given: guessed when the user
acts, told in the reply to a call, or told in an event.
-/

import Modvpn.Types.Session

namespace Modvpn.Ui

/-- `vpnStatus` is undefined while the status is being asked for. -/
structure VpnStatusState where
  loading : Bool
  vpnStatus : Option VpnStatus
  deriving DecidableEq

inductive VpnStatusAction
  | connect (location : Location)
  | connectResponse (vpnStatus : VpnStatus)
  | disconnect (location : Location)
  | disconnectResponse (vpnStatus : VpnStatus)
  | getVpnStatus
  | getVpnStatusResponse (vpnStatus : VpnStatus)
  | vpnStatusEvent (vpnStatus : VpnStatus)
  deriving DecidableEq

def vpnStatusReducer (state : VpnStatusState) : VpnStatusAction → VpnStatusState
  | .connect location =>
      { state with loading := true, vpnStatus := some (.accepted location) }
  | .connectResponse vpnStatus => { state with loading := false, vpnStatus := some vpnStatus }
  | .disconnect location =>
      { state with loading := true, vpnStatus := some (.disconnecting location) }
  | .disconnectResponse vpnStatus => { state with loading := false, vpnStatus := some vpnStatus }
  | .getVpnStatus => { state with loading := true, vpnStatus := none }
  | .getVpnStatusResponse vpnStatus => { state with loading := false, vpnStatus := some vpnStatus }
  | .vpnStatusEvent vpnStatus => { state with vpnStatus := some vpnStatus }

def initialState : VpnStatusState where
  loading := false
  vpnStatus := some .disconnected

end Modvpn.Ui
