/-
# What an operation leaves alone

One predicate on operations for each part of the shared world, and the frame
lemma that goes with it. The arguments about interleavings use these instead of
going through all operations again.
-/

import Modvpn.Daemon.World

namespace Modvpn

open Modvpn.Protocol

namespace Op

def writesSessions : Op → Bool
  | .insertVpnSession _ _ | .markForDeletion _ | .markAllForDeletion | .setAccepted _ _
  | .updateVpnSession _ _ | .deleteVpnSession _ => true
  | _ => false

def writesDevice : Op → Bool
  | .insertDevice _ | .updateDeviceIpv4 _ _ | .deleteDevices => true
  | _ => false

def writesToken : Op → Bool
  | .insertToken _ | .deleteTokensBelow _ | .deleteTokens => true
  | _ => false

def writesRecent : Op → Bool
  | .deleteRecent _ | .insertRecent _ | .trimRecent _ => true
  | _ => false

def writesState : Op → Bool
  | .writeState _ => true
  | _ => false

/-- Begins or ends the session the run keeps an eye on. -/
def writesLive : Op → Bool
  | .writeState _ | .sendNewSession _ | .awaitNewSession _ => true
  | _ => false

def logs : Op → Bool
  | .setAccepted _ _ | .endSession _ _ => true
  | _ => false

/-- The tasks an operation hands to the runtime. -/
def spawns : Op → List Task
  | .spawn task => [task]
  | _ => []

/-- The commands an operation gives to the device service. -/
def commands : Op → List DeviceCommand
  | .sendDeviceCommand command => [command]
  | _ => []

/-- What an operation tells the event subscribers. -/
def announces : Op → List Broadcast
  | .broadcast event => [event]
  | _ => []

/-- What an operation tells the tunnel. -/
def tunnels : Op → List TunnelCommand
  | .sendTunnelCommand command => [command]
  | _ => []

end Op

namespace World

variable {α β : Type} {env : Env} {world : World}

/-- A statement fails and changes nothing, or has its effect. -/
theorem statement_ensures {effect : World → α × World} {P : World → Prop} (h : P world)
    (heffect : P (effect world).2) : P (statement env world effect).2 := by
  unfold statement
  split
  · exact h
  · exact heffect

theorem checked_ensures {effect : World → Except DbErr (α × World)} {P : World → Prop}
    (h : P world) (heffect : ∀ value next, effect world = .ok (value, next) → P next) :
    P (checked env world effect).2 := by
  unfold checked
  split
  · exact h
  · split
    · exact h
    · rename_i value next hnext
      exact heffect value next hnext

theorem statement_frame {effect : World → α × World} (part : World → β)
    (h : part (effect world).2 = part world) :
    part (statement env world effect).2 = part world :=
  statement_ensures (P := fun next => part next = part world) rfl h

theorem checked_frame {effect : World → Except DbErr (α × World)} (part : World → β)
    (h : ∀ value next, effect world = .ok (value, next) → part next = part world) :
    part (checked env world effect).2 = part world :=
  checked_ensures (P := fun next => part next = part world) rfl h

variable {op : Op}

theorem answer_vpnSession (h : op.writesSessions = false) :
    (answer op env world).2.vpnSession = world.vpnSession := by
  cases op <;> first
    | rfl
    | exact statement_frame World.vpnSession rfl
    | (refine checked_frame World.vpnSession fun _ _ heffect => ?_
       split at heffect <;> cases heffect
       rfl)
    | (simp only [answer]; split <;> rfl)
    | cases h

theorem answer_device (h : op.writesDevice = false) :
    (answer op env world).2.device = world.device := by
  cases op <;> first
    | rfl
    | exact statement_frame World.device rfl
    | (refine checked_frame World.device fun _ _ heffect => ?_
       split at heffect <;> cases heffect
       rfl)
    | (simp only [answer]; split <;> rfl)
    | cases h

theorem answer_token (h : op.writesToken = false) :
    (answer op env world).2.token = world.token := by
  cases op <;> first
    | rfl
    | exact statement_frame World.token rfl
    | (refine checked_frame World.token fun _ _ heffect => ?_
       split at heffect <;> cases heffect
       rfl)
    | (simp only [answer]; split <;> rfl)
    | cases h

theorem answer_recent (h : op.writesRecent = false) :
    ((answer op env world).2.recentLocations, (answer op env world).2.recentSequence) =
      (world.recentLocations, world.recentSequence) := by
  cases op <;> first
    | rfl
    | exact statement_frame (fun w => (w.recentLocations, w.recentSequence)) rfl
    | (refine checked_frame (fun w => (w.recentLocations, w.recentSequence)) fun _ _ heffect => ?_
       split at heffect <;> cases heffect
       rfl)
    | (simp only [answer]; split <;> rfl)
    | cases h

theorem answer_state (h : op.writesState = false) :
    (answer op env world).2.state = world.state := by
  cases op <;> first
    | rfl
    | exact statement_frame World.state rfl
    | (refine checked_frame World.state fun _ _ heffect => ?_
       split at heffect <;> cases heffect
       rfl)
    | (simp only [answer]; split <;> rfl)
    | cases h

theorem answer_live (h : op.writesLive = false) :
    (answer op env world).2.live = world.live := by
  cases op <;> first
    | rfl
    | exact statement_frame World.live rfl
    | (refine checked_frame World.live fun _ _ heffect => ?_
       split at heffect <;> cases heffect
       rfl)
    | (simp only [answer]; split <;> rfl)
    | cases h

theorem answer_history (h : op.logs = false) :
    (answer op env world).2.history = world.history := by
  cases op <;> first
    | rfl
    | exact statement_frame World.history rfl
    | (refine checked_frame World.history fun _ _ heffect => ?_
       split at heffect <;> cases heffect
       rfl)
    | (simp only [answer]; split <;> rfl)
    | cases h

theorem answer_spawned : (answer op env world).2.spawned = world.spawned ++ op.spawns := by
  cases op <;> simp only [Op.spawns, List.append_nil] <;> first
    | rfl
    | exact statement_frame World.spawned rfl
    | (refine checked_frame World.spawned fun _ _ heffect => ?_
       split at heffect <;> cases heffect
       rfl)
    | (simp only [answer]; split <;> rfl)

theorem answer_deviceCommands :
    (answer op env world).2.deviceCommands = world.deviceCommands ++ op.commands := by
  cases op <;> simp only [Op.commands, List.append_nil] <;> first
    | rfl
    | exact statement_frame World.deviceCommands rfl
    | (refine checked_frame World.deviceCommands fun _ _ heffect => ?_
       split at heffect <;> cases heffect
       rfl)
    | (simp only [answer]; split <;> rfl)

theorem answer_broadcasts :
    (answer op env world).2.broadcasts = world.broadcasts ++ op.announces := by
  cases op <;> simp only [Op.announces, List.append_nil] <;> first
    | rfl
    | exact statement_frame World.broadcasts rfl
    | (refine checked_frame World.broadcasts fun _ _ heffect => ?_
       split at heffect <;> cases heffect
       rfl)
    | (simp only [answer]; split <;> rfl)

theorem answer_tunnelCommands :
    (answer op env world).2.tunnelCommands = world.tunnelCommands ++ op.tunnels := by
  cases op <;> simp only [Op.tunnels, List.append_nil] <;> first
    | rfl
    | exact statement_frame World.tunnelCommands rfl
    | (refine checked_frame World.tunnelCommands fun _ _ heffect => ?_
       split at heffect <;> cases heffect
       rfl)
    | (simp only [answer]; split <;> rfl)

/-- The log only grows, and an acceptance it records is that of a row. -/
theorem exists_history_answer (op : Op) (env : Env) (world : World) :
    ∃ more, (answer op env world).2.history = world.history ++ more ∧
    ∀ requestId, .accepted requestId ∈ more → ∃ vpnSessionUuid,
      op = .setAccepted requestId vpnSessionUuid ∧
        Entity.VpnSession.hasId requestId.toText world.vpnSession = true := by
  have hsame : ∀ {next : World}, next.history = world.history →
      ∃ more, next.history = world.history ++ more ∧
        ∀ requestId, Happened.accepted requestId ∈ more → ∃ vpnSessionUuid,
          op = .setAccepted requestId vpnSessionUuid ∧
            Entity.VpnSession.hasId requestId.toText world.vpnSession = true :=
    fun h => ⟨[], by simpa using h, nofun⟩
  cases hop : op.logs with
  | false => exact hsame (answer_history hop)
  | true =>
      cases op with
      | setAccepted requestId vpnSessionUuid =>
          simp only [answer, statement]
          split
          · exact hsame rfl
          · split
            · rename_i hid
              refine ⟨[.accepted requestId], rfl, fun other hother => ?_⟩
              cases List.mem_singleton.mp hother
              exact ⟨vpnSessionUuid, rfl, hid⟩
            · exact hsame rfl
      | endSession caller request =>
          exact ⟨[.endReply caller request.requestId
            (retry env.endSession env.endSessionRetries)], rfl, by simp⟩
      | _ => cases hop

end World

end Modvpn
