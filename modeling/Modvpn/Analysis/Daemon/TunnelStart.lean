/-
# Which handlers start the tunnel

The tunnel is told to connect in one place, after the handler of `ServerReady` has
noted the status in the row of the session. So a handler starts the tunnel at most
once, only for a session that the server reported ready, and only while the row of
this session is unmarked. A handler asks the session service for at most one session,
with the id it has just generated.
-/

import Modvpn.Analysis.Daemon.FindThenWrite

namespace Modvpn

open Modvpn.Protocol
open Entity (VpnSession)
open Program (AtMost Returns)

/-- The tunnel is told to connect. -/
def Op.startsTunnel : Op → Bool
  | .sendTunnelCommand .connect => true
  | _ => false

/-- Operations that do not start the tunnel. -/
def Op.sparesTunnel (op : Op) : Bool := !op.startsTunnel

/-- Operations by which the loop asks the session service for nothing. -/
def Op.isUnasking : Op → Bool
  | .newUuid | .sendNewSession _ => false
  | _ => true

theorem Op.isUnasking_of_inHandler {op : Op} (h : op.inHandler = true) : op.isUnasking = true := by
  cases op <;> first | rfl | cases h

theorem Op.sparesTunnel_of_inBackground {op : Op} (h : op.inBackground = true) :
    op.sparesTunnel = true := by
  cases op <;> first | rfl | cases h

/-! ## Programs that do not start the tunnel -/

namespace VpnSessionStorage

/-- Only `ServerReady` makes the status `ServerReady`. -/
theorem updatedServerStatus_returns {status : VpnSessionStatus}
    (h : ∀ ready, status ≠ .serverReady ready) :
    Returns (fun result => ∀ processed location, result = .ok processed →
      processed.vpnStatus ≠ some (.serverReady location)) (updatedServerStatus status).run := by
  refine .exceptRest _ (fun _ _ _ => nofun) fun vpnSession => ?_
  cases vpnSession with
  | none => rintro _ location ⟨⟩ ⟨⟩
  | some vpnSession =>
      cases status with
      | serverReady ready => exact absurd rfl (h ready)
      | failed failed =>
          refine .exceptRest _ (fun _ _ _ => nofun) fun _ => ?_
          refine .exceptRest _ (fun _ _ _ => nofun) fun timestamp => ?_
          rintro _ location ⟨⟩ ⟨⟩
      | _ =>
          refine .exceptRest _ (fun _ _ _ => nofun) fun _ => ?_
          rintro _ location ⟨⟩ ⟨⟩

/-- A transition of the tunnel is not answered with a command to connect. -/
theorem tunnelStateTransition_returns (transition : TunnelStateTransition)
    (currentState : VpnStatus) :
    Returns (fun result => ∀ processed, result = .ok processed →
      processed.tunnelCommand ≠ some .connect)
      (tunnelStateTransition transition currentState).run := by
  have htimed {rest : DateTimeUtc → Fallible DbErr TunnelTransitionProcessed}
      (hrest : ∀ timestamp, Returns (fun result => ∀ processed, result = .ok processed →
        processed.tunnelCommand ≠ some .connect) (rest timestamp).run) :
      Returns (fun result => ∀ processed, result = .ok processed →
        processed.tunnelCommand ≠ some .connect)
        (ExceptT.lift (perform .utcNow) >>= rest).run :=
    .exceptRest _ (fun _ _ => nofun) hrest
  refine .exceptRest _ (fun _ _ => nofun) fun vpnSession => ?_
  cases vpnSession with
  | none =>
      cases transition with
      | disconnecting action =>
          cases currentState <;> first | trivial | rintro _ ⟨⟩ ⟨⟩
      | error errorState => exact htimed fun _ => by rintro _ ⟨⟩ ⟨⟩
      | _ => rintro _ ⟨⟩ ⟨⟩
  | some vpnSession =>
      cases transition with
      | connected =>
          refine .exceptRest _ (fun _ _ => nofun) fun _ => htimed fun since => ?_
          refine .exceptRest _ (fun _ _ => nofun) fun requestId => ?_
          refine .exceptRest _ (fun _ _ => nofun) fun text => ?_
          refine .exceptRest _ (fun _ _ => nofun) fun vpnSessionId => ?_
          rintro _ ⟨⟩ ⟨⟩
      | error errorState => exact htimed fun _ => by rintro _ ⟨⟩ ⟨⟩
      | _ => rintro _ ⟨⟩ ⟨⟩

end VpnSessionStorage

namespace Daemon

/-- The program never starts the tunnel. -/
abbrev Spares {α : Type} (program : Async α) : Prop := Within Op.sparesTunnel program

theorem Spares.never {α : Type} {program : Async α} (h : Spares program) :
    program.Only fun op : Op => op.startsTunnel = false :=
  h.mono fun op hop => by simpa [Op.sparesTunnel] using hop

theorem modifyState_spares (update : DaemonState → DaemonState) : Spares (modifyState update) :=
  .bind (within_perform rfl) fun _ => within_perform rfl

theorem setVpnStatus_spares (vpnStatus : VpnStatus) : Spares (setVpnStatus vpnStatus) :=
  .bind (modifyState_spares _) fun _ => within_perform rfl

theorem addNotification_spares (notification : Notification) :
    Spares (addNotification notification) :=
  .bind (modifyState_spares _) fun _ => within_perform rfl

theorem tunnelCommandOnDisconnect_spares : Spares tunnelCommandOnDisconnect := by
  refine .bind (within_perform rfl) fun state => ?_
  split <;> first | trivial | exact within_perform rfl

theorem endSession_spares (endReason : String) : Spares (endSession endReason).run :=
  .exceptBind (.adapt (VpnSessionStorage.endSession_within rfl fun _ => rfl))
    fun _ => .lift (within_perform rfl)

theorem onDisconnectInner_spares (endReason : String) :
    Spares (onDisconnectInner endReason).run := by
  refine .exceptBind (.lift tunnelCommandOnDisconnect_spares) fun _ => ?_
  refine .exceptBind (endSession_spares endReason) fun _ => ?_
  refine .exceptBind (.lift (within_perform rfl)) fun _ => ?_
  refine .exceptBind (.lift (within_perform rfl)) fun _ => ?_
  exact .exceptBind (.lift (within_perform rfl)) fun _ => trivial

theorem onConnectInner_spares (location : Location) : Spares (onConnectInner location).run := by
  refine .exceptBind (.lift (within_perform rfl)) fun state => ?_
  have hnew : Spares (VpnSessionStorage.newSession location).run :=
    .exceptBind (.lift (within_perform rfl)) fun _ =>
      .exceptBind (within_perform rfl) fun _ => trivial
  split
  · trivial
  refine .exceptBind (.adapt hnew) fun requestId => ?_
  refine .exceptBind (.adapt (DeviceStorage.getDeviceUniqueId_within rfl)) fun id => ?_
  refine .exceptBind (.lift (within_perform rfl)) fun _ => ?_
  refine .exceptBind (.lift (within_perform rfl)) fun reply => ?_
  cases reply with
  | ok accepted =>
      refine .exceptBind (.adapt (within_perform rfl)) fun _ => ?_
      exact .exceptBind (.lift (modifyState_spares _)) fun _ => trivial
  | error error =>
      refine .exceptBind (.adapt (within_perform rfl)) fun _ => ?_
      refine .exceptBind (.lift (within_perform rfl)) fun _ => ?_
      refine .exceptBind (.lift (within_perform rfl)) fun _ => ?_
      refine .exceptBind (.lift (within_perform rfl)) fun _ => ?_
      exact .exceptBind (.lift (addNotification_spares _)) fun _ => trivial

theorem handleCommand_spares (command : DaemonCommand) : Spares (handleCommand command) := by
  cases command with
  | connect location =>
      refine .bind (within_perform rfl) fun _ => ?_
      exact .bind (onConnectInner_spares location) fun _ => within_perform rfl
  | disconnect => exact .bind (onDisconnectInner_spares _) fun _ => within_perform rfl
  | accountSignIn _ | accountSignOut =>
      refine .bind (within_perform rfl) fun state => ?_
      split <;> exact within_perform rfl
  | getVpnStatus | getNotifications => exact .bind (within_perform rfl) fun _ => within_perform rfl
  | ackNotification id => exact .bind (modifyState_spares _) fun _ => within_perform rfl

theorem handleTunnelStateTransition_spares (transition : TunnelStateTransition) :
    Spares (handleTunnelStateTransition transition) := by
  refine .bind (within_perform rfl) fun state => ?_
  refine .bindReturns ((VpnSessionStorage.tunnelStateTransition_within _ _).mono ?_)
    (VpnSessionStorage.tunnelStateTransition_returns _ _) fun result hresult => ?_
  · intro op hop
    cases op <;> first | rfl | cases hop
  cases result with
  | error error => trivial
  | ok processed =>
      apply transitionProcessed_composes (Q := fun _ => Spares) .bind processed
      · exact fun _ => within_perform rfl
      · intro command hcommand
        cases command with
        | connect => exact absurd hcommand (hresult processed rfl)
        | disconnect => exact within_perform rfl
      · exact addNotification_spares
      · exact endSession_spares
      · exact setVpnStatus_spares _

theorem updatedServerStatus_spares (status : VpnSessionStatus) :
    Spares (VpnSessionStorage.updatedServerStatus status).run :=
  (VpnSessionStorage.updatedServerStatus_within status).mono fun op hop => by
    cases op <;> first | rfl | cases hop

theorem handleVpnSessionStatus_spares {status : VpnSessionStatus}
    (h : ∀ ready, status ≠ .serverReady ready) : Spares (handleVpnSessionStatus status) := by
  refine .bindReturns (updatedServerStatus_spares status)
    (VpnSessionStorage.updatedServerStatus_returns h) fun result hresult => ?_
  cases result with
  | error error => trivial
  | ok processed =>
      apply statusProcessed_composes (Q := fun _ => Spares) .bind trivial processed
        addNotification_spares setVpnStatus_spares
      intro newVpnStatus hnew
      cases newVpnStatus with
      | serverReady location => exact absurd hnew (hresult processed location rfl)
      | _ => trivial

/-- Only `ServerReady` starts the tunnel. -/
theorem handleEvent_spares {event : DaemonEvent}
    (h : ∀ ready, event ≠ .vpnSessionStatus (.serverReady ready)) : Spares (handleEvent event) := by
  cases event with
  | command command => exact handleCommand_spares command
  | shutdown => exact .bind (onDisconnectInner_spares _) fun _ => trivial
  | vpnSessionStatus status =>
      exact handleVpnSessionStatus_spares fun ready hready => h ready (hready ▸ rfl)
  | tunnelStateTransition transition => exact handleTunnelStateTransition_spares transition

/-! ## The handler of `ServerReady` -/

/-- A program that is alone with the unmarked rows, and that starts the tunnel only
while this session has one. -/
@[reducible]
def starting (requestId : Uuid) : Contract ops Env World where
  rely world moved :=
    VpnSession.unmarked moved.vpnSession = VpnSession.unmarked world.vpnSession
  admits _ _ _ := True
  duty op _ world := op.startsTunnel = true →
    ∃ row ∈ VpnSession.unmarked world.vpnSession, row.requestId = requestId.toText
  rely_refl := alone.rely_refl
  rely_trans := alone.rely_trans

/-- The session has an unmarked row. -/
abbrev IsUnmarked (requestId : Uuid) (world : World) : Prop :=
  ∃ row ∈ VpnSession.unmarked world.vpnSession, row.requestId = requestId.toText

variable {requestId : Uuid} {world : World}

/-- Whatever neither starts the tunnel nor touches the rows. -/
theorem inMemory_starting {program : Async Unit} (hmemory : Within Op.inMemory program)
    (hspares : Spares program) (h : IsUnmarked requestId world) :
    program.Ensures semantics (starting requestId) (fun _ => IsUnmarked requestId) world := by
  apply (hmemory.and hspares).ensures _ _ _ h
  · intro op env moved hop _ hstarts
    simp [Op.sparesTunnel, hstarts] at hop
  · rintro moved later hrely ⟨row, hrow, hid⟩
    exact ⟨row, hrely ▸ hrow, hid⟩
  · rintro op env moved ⟨hop, -⟩ _ hmoved
    have hwrites : op.writesSessions = false := by
      cases op <;> first | rfl | cases hop
    rw [IsUnmarked, World.answer_vpnSession hwrites]
    exact hmoved

/-- Noting a status keeps the row. -/
theorem updateVpnSession_starting {text : String} {set : Entity.VpnSessionPatch}
    (h : IsUnmarked requestId world) :
    (perform (.updateVpnSession text set)).Ensures semantics (starting requestId)
      (fun _ => IsUnmarked requestId) world := by
  intro moved env hrely _
  have hmoved : IsUnmarked requestId moved := by
    rw [IsUnmarked, hrely]
    exact h
  refine ⟨nofun, fun later hlater => ?_⟩
  show IsUnmarked requestId later
  rw [IsUnmarked, hlater]
  refine World.checked_ensures (P := IsUnmarked requestId) hmoved fun _ _ hnext => ?_
  split at hnext <;> cases hnext
  obtain ⟨row, hrow, hid⟩ := hmoved
  simp only [IsUnmarked, VpnSession.unmarked_updateById_patch]
  refine ⟨_, List.mem_map_of_mem hrow, ?_⟩
  split <;> exact hid

/-- The handler of `ServerReady` starts the tunnel while the row is unmarked. -/
theorem handleServerReady_starting (ready : ServerReady) :
    (handleVpnSessionStatus (.serverReady ready)).Ensures semantics (starting ready.requestId)
      (fun _ _ => True) world := by
  refine .bind (.exceptBind ?_)
  intro moved env _ _
  refine ⟨nofun, fun later hlater => ?_⟩
  cases hdb : env.dbErr with
  | some error =>
      simp only [World.answer, World.statement, hdb]
      exact fun _ _ => trivial
  | none =>
      simp only [World.answer, World.statement, hdb] at hlater ⊢
      cases hrow : (VpnSession.unmarked moved.vpnSession).find? (·.requestId =
          (VpnSessionStorage.getSessionInfo (.serverReady ready)).requestId.toText) with
      | none => exact fun _ _ _ _ => trivial
      | some row =>
          have hunmarked : IsUnmarked ready.requestId later := by
            have hid := List.find?_some hrow
            rw [IsUnmarked, hlater]
            exact ⟨row, List.mem_of_find?_eq_some hrow, of_decide_eq_true hid⟩
          simp only [Program.EnsuresRest]
          refine .exceptBind ((updateVpnSession_starting hunmarked).mono fun result next hnext => ?_)
          cases result with
          | error error => exact fun _ _ => trivial
          | ok _ =>
              intro last hlast
              have hlatest : IsUnmarked ready.requestId last := by
                rw [IsUnmarked, hlast]
                exact hnext
              refine .bind ((inMemory_starting (setVpnStatus_within _) (setVpnStatus_spares _)
                hlatest).mono fun _ state hstate => ?_)
              intro sending choice hrely _
              refine ⟨fun _ => ?_, fun _ _ => trivial⟩
              rw [hrely]
              exact hstate

theorem handleVpnSessionStatus_atMost (status : VpnSessionStatus) :
    (handleVpnSessionStatus status).AtMost Op.startsTunnel 1 := by
  refine (updatedServerStatus_spares status).never.bindAtMost fun result => ?_
  cases result with
  | error error => trivial
  | ok processed =>
      obtain ⟨vpnStatus, notification⟩ := processed
      have hstatus (newVpnStatus : VpnStatus) : AtMost Op.startsTunnel 1 (do
          setVpnStatus newVpnStatus
          updateTunnelOnNewStatus newVpnStatus : Async Unit) := by
        refine (setVpnStatus_spares newVpnStatus).never.bindAtMost fun _ => ?_
        unfold updateTunnelOnNewStatus
        split
        · exact ⟨fun _ => Nat.one_pos, fun _ => trivial⟩
        · trivial
      cases notification with
      | none =>
          cases vpnStatus with
          | none => trivial
          | some newVpnStatus => exact hstatus newVpnStatus
      | some notification =>
          refine (addNotification_spares notification).never.bindAtMost fun _ => ?_
          cases vpnStatus with
          | none => trivial
          | some newVpnStatus => exact hstatus newVpnStatus

end Daemon

/-! ## Asking for a session -/

namespace Daemon

/-- The ids a program may still request a session with, after an answer. -/
def drawnAfter (drawn : List Uuid) : (op : Op) → op.Resp → List Uuid
  | .newUuid => fun id => id :: drawn
  | .sendNewSession request => fun _ => drawn.filter (· ≠ request.requestId)
  | _ => fun _ => drawn

/-- A program generates ids and requests sessions with them. -/
@[reducible]
def drawing : Semantics ops (∀ op : Op, op.Resp) (List Uuid) where
  answer op answers drawn := (answers op, drawnAfter drawn op (answers op))

/-- A program that requests one session with an id it has generated. -/
@[reducible]
def asking : Contract ops (∀ op : Op, op.Resp) (List Uuid) where
  rely := Eq
  admits _ _ _ := True
  duty op _ drawn := ∀ request, op = .sendNewSession request → request.requestId ∈ drawn
  rely_refl _ := rfl
  rely_trans := Eq.trans

abbrev Asks {α : Type} (program : Async α) (drawn : List Uuid) : Prop :=
  program.Ensures drawing asking (fun _ _ => True) drawn

variable {drawn : List Uuid}

theorem asks_of_isUnasking {α : Type} {program : Async α} (h : Within Op.isUnasking program) :
    Asks program drawn := by
  apply h.ensures (I := fun _ => True) _ (fun _ _ => trivial) (fun _ _ _ => trivial) trivial
  rintro op answers drawn hop - request rfl
  cases hop

theorem startup_asks (codecs : Codecs) : Asks (Machine.startup codecs) drawn :=
  asks_of_isUnasking ((Machine.startup_within codecs).mono fun op hop => by
    cases op <;> first | rfl | cases hop)

theorem asks_of_inHandler {program : Async Unit} (h : Within Op.inHandler program) :
    Asks program drawn :=
  asks_of_isUnasking (h.mono fun _ => Op.isUnasking_of_inHandler)

theorem onConnectInner_asks (location : Location) : Asks (onConnectInner location).run drawn := by
  have hquiet {α : Type} {program : Async α} {held : List Uuid} (h : Within Op.isUnasking program) :
      program.Ensures drawing asking (fun _ => (held ⊆ ·)) held := by
    apply h.ensures (I := fun later : List Uuid => held ⊆ later)
    · rintro op answers later hop - request rfl
      cases hop
    · rintro _ _ rfl hheld
      exact hheld
    · intro op answers later hop _ hheld
      cases op <;> first | exact hheld | cases hop
    · exact List.Subset.refl _
  refine .liftBind ((hquiet (within_perform rfl)).mono fun state moved _ => ?_)
  split
  · exact fun _ _ => trivial
  -- the id is generated here, and only two statements precede the request
  refine .exceptBind (.adapt (.liftBind ?_))
  rintro _ answers rfl -
  refine ⟨nofun, ?_⟩
  rintro _ rfl
  refine .exceptBind ((hquiet (within_perform rfl)).mono fun result held hheld => ?_)
  cases result with
  | error error => exact fun _ _ _ _ => trivial
  | ok _ =>
      rintro _ rfl
      refine .exceptBind (.adapt ((hquiet (DeviceStorage.getDeviceUniqueId_within rfl)).mono
        fun result later hlater => ?_))
      cases result with
      | error error => exact fun _ _ => trivial
      | ok deviceUniqueId =>
          refine .liftBind ?_
          rintro _ _ rfl -
          refine ⟨?_, fun _ _ => ?_⟩
          · rintro request ⟨⟩
            exact hlater (hheld (List.mem_cons_self ..))
          refine .liftBind ((hquiet (within_perform rfl)).mono fun reply last _ => ?_)
          apply asks_of_isUnasking
          cases reply with
          | ok accepted =>
              refine .exceptBind (.adapt (within_perform rfl)) fun _ => ?_
              exact .exceptBind (.lift ((modifyState_within _).mono fun _ hop =>
                Op.isUnasking_of_inHandler (Op.inHandler_of_inMemory hop))) fun _ => trivial
          | error error =>
              refine .exceptBind (.adapt (within_perform rfl)) fun _ => ?_
              refine .exceptBind (.lift (within_perform rfl)) fun _ => ?_
              refine .exceptBind (.lift (within_perform rfl)) fun _ => ?_
              refine .exceptBind (.lift (within_perform rfl)) fun _ => ?_
              exact .exceptBind (.lift ((addNotification_within _).mono fun _ hop =>
                Op.isUnasking_of_inHandler (Op.inHandler_of_inMemory hop))) fun _ => trivial

/-- A handler requests a session only with an id it has generated. -/
theorem handleEvent_asks (event : DaemonEvent) : Asks (handleEvent event) drawn := by
  cases event with
  | command command =>
      cases command with
      | connect location =>
          refine .bind ((asks_of_isUnasking (within_perform rfl)).mono fun _ _ _ => ?_)
          exact .bind ((onConnectInner_asks location).mono fun _ _ _ =>
            asks_of_isUnasking (within_perform rfl))
      | disconnect =>
          exact asks_of_inHandler (.bind (onDisconnectInner_within _) fun _ => within_perform rfl)
      | accountSignIn _ | accountSignOut =>
          refine asks_of_isUnasking (.bind (within_perform rfl) fun state => ?_)
          split <;> exact within_perform rfl
      | getVpnStatus | getNotifications =>
          exact asks_of_inHandler (.bind (within_perform rfl) fun _ => within_perform rfl)
      | ackNotification id =>
          exact asks_of_inHandler (.bind ((modifyState_within _).mono
            fun _ => Op.inHandler_of_inMemory) fun _ => within_perform rfl)
  | shutdown => exact asks_of_inHandler (.bind (onDisconnectInner_within _) fun _ => trivial)
  | vpnSessionStatus status => exact asks_of_inHandler (handleVpnSessionStatus_within status)
  | tunnelStateTransition transition =>
      exact asks_of_inHandler (handleTunnelStateTransition_within transition)

end Daemon

end Modvpn
