/-
# The operations each program can perform

A footprint is the set of operations a program may perform on any path. The
contracts of most programs follow from their footprints alone.
-/

import Modvpn.Daemon.Machine

namespace Modvpn

open Modvpn.Protocol
open Program (Only)

namespace Op

/-- What the startup does, all of it before the loop takes its first event. -/
def inStartup : Op → Bool
  | .findDevice | .createNew | .insertDevice _ | .findToken | .writeServiceToken _
  | .markAllForDeletion | .writeState _ => true
  | _ => false

/-- What a sign-in does apart from saving the token. -/
def inDeviceSetup : Op → Bool
  | .connectServer | .findDevice | .createNew | .insertDevice _ | .addDevice _
  | .findDeviceById _ | .updateDeviceIpv4 _ _ | .writeServiceToken _ | .respond _ => true
  | _ => false

def inSignIn : Op → Bool
  | .insertToken _ | .deleteTokensBelow _ => true
  | op => op.inDeviceSetup

def inSignOut : Op → Bool
  | .connectServer | .signOut | .deleteDevices | .findDevice | .createNew | .insertDevice _
  | .deleteTokens | .writeServiceToken _ | .respond _ => true
  | _ => false

/-- Creating the device where there is none. -/
def inDeviceInit : Op → Bool
  | .findDevice | .createNew | .insertDevice _ => true
  | _ => false

/-- What the tasks do that leave the session table alone. -/
def inTask : Op → Bool
  | .deleteRecent _ | .insertRecent _ | .trimRecent _ | .findDeviceUniqueId
  | .clientConnected _ => true
  | _ => false

/-- Ending sessions on the server. -/
def inEnding : Op → Bool
  | .findDeviceUniqueId | .findDevice | .findMarked | .endSession _ _
  | .deleteVpnSession _ => true
  | _ => false

/-- Reading and writing the in-memory state, and telling others. -/
def inMemory : Op → Bool
  | .readState | .writeState _ | .sendTunnelCommand _ | .broadcast _ | .respond _ | .utcNow => true
  | _ => false

/-- Looking up the current row and noting its server status. -/
def inLookup : Op → Bool
  | .findUnmarked | .updateVpnSession _ _ | .utcNow => true
  | _ => false

/-- Looking up the row of a session and noting, or forgetting, its server status. -/
def inStatusUpdate : Op → Bool
  | .findUnmarkedById _ | .updateVpnSession _ _ | .deleteVpnSession _ | .utcNow => true
  | _ => false

/-- What handlers do, apart from connecting and signing out. -/
def inHandler : Op → Bool
  | .findUnmarked | .findUnmarkedById _ | .markForDeletion _ | .updateVpnSession _ _
  | .deleteVpnSession _ => true
  | .spawn task => task ≠ .signOut
  | op => op.inMemory

/-- What the loop does with an event. -/
def inEvent : Op → Bool
  | .newUuid | .insertVpnSession _ _ | .findDeviceUniqueId | .sendNewSession _
  | .awaitNewSession _ | .setAccepted _ _ | .spawn _ => true
  | op => op.inHandler

/-- What all programs but the loop's do. -/
def inBackground : Op → Bool
  | .findDevice | .findDeviceUniqueId | .findDeviceById _ | .insertDevice _
  | .updateDeviceIpv4 _ _ | .deleteDevices | .createNew | .insertToken _ | .deleteTokensBelow _
  | .deleteTokens | .deleteRecent _ | .insertRecent _ | .trimRecent _ | .findMarked
  | .deleteVpnSession _ | .writeServiceToken _ | .respond _ | .sendDeviceCommand _
  | .endSession _ _ | .clientConnected _ | .connectServer | .addDevice _ | .signOut => true
  | _ => false

theorem inHandler_of_inMemory {op : Op} (h : op.inMemory = true) : op.inHandler = true := by
  cases op <;> first | rfl | cases h

theorem inHandler_of_inStatusUpdate {op : Op} (h : op.inStatusUpdate = true) :
    op.inHandler = true := by
  cases op <;> first | rfl | cases h

theorem inEvent_of_inHandler {op : Op} (h : op.inHandler = true) : op.inEvent = true := by
  cases op <;> first | rfl | cases h

end Op

/-- All operations of the program are in the footprint. -/
abbrev Within {α : Type} (footprint : Op → Bool) (program : Async α) : Prop :=
  program.Only fun op => footprint op = true

variable {footprint : Op → Bool}

theorem within_perform {op : Op} (h : footprint op = true) : Within footprint (perform op) :=
  .single h

/-! ## Storage -/

namespace DeviceStorage

variable (codecs : Codecs)

theorem init_within (h : ∀ op : Op, op.inDeviceInit = true → footprint op = true) :
    Within footprint (init codecs).run := by
  refine .exceptBind (.adapt (within_perform (h _ rfl))) fun device => ?_
  split
  · exact .done _
  · refine .exceptBind (within_perform (h _ rfl)) fun deviceDetails => ?_
    exact .exceptBind (.adapt (within_perform (h _ rfl))) fun _ => trivial

theorem reinitialize_within (h : ∀ op : Op, op.inDeviceInit = true → footprint op = true)
    (hdelete : footprint .deleteDevices = true) (reason : String) :
    Within footprint (DeviceStorage.reinitialize codecs reason).run := by
  refine .exceptBind (within_perform hdelete) fun _ => ?_
  exact .exceptBind (.lift (init_within codecs h)) fun _ => trivial

theorem getDeviceUniqueId_within (h : footprint .findDeviceUniqueId = true) :
    Within footprint getDeviceUniqueId.run := by
  refine .exceptBind (within_perform h) fun id => ?_
  cases id with
  | none => trivial
  | some text =>
      simp only [Fallible.unwrap_some, pure_bind, Fallible.parsed]
      split <;> trivial

theorem getDevice_within (h : footprint .findDevice = true) :
    Within footprint (getDevice codecs).run := by
  refine .exceptBind (within_perform h) fun device => ?_
  split
  · trivial
  · exact .exceptBind (.done _) fun _ => trivial

theorem updateIpv4Address_within (hfind : ∀ id, footprint (.findDeviceById id) = true)
    (hupdate : ∀ id ip, footprint (.updateDeviceIpv4 id ip) = true) (uniqueId : Uuid)
    (ipv4Address : Ipv4Addr) :
    Within footprint (updateIpv4Address codecs uniqueId ipv4Address).run := by
  refine .exceptBind (within_perform (hfind _)) fun device => ?_
  split
  · trivial
  · exact .exceptBind (within_perform (hupdate _ _)) fun _ => .done _

end DeviceStorage

/-! ## Startup and device service -/

section

variable (codecs : Codecs)

theorem Machine.startup_within : Within Op.inStartup (Machine.startup codecs) := by
  refine .bind (.exceptBind (DeviceStorage.init_within codecs ?_) fun _ => ?_) fun result => ?_
  · intro op
    cases op <;> simp [Op.inDeviceInit, Op.inStartup]
  · refine .exceptBind (.adapt (.exceptBind (within_perform rfl) fun _ => trivial)) fun _ => ?_
    refine .exceptBind (.lift (within_perform rfl)) fun _ => ?_
    refine .exceptBind (.adapt (within_perform rfl)) fun _ => ?_
    exact .lift (within_perform rfl)
  · split <;> trivial

theorem DeviceService.handleSignOutInner_within :
    Within Op.inSignOut (handleSignOutInner codecs).run := by
  have hinit : ∀ op : Op, op.inDeviceInit = true → op.inSignOut = true := by
    intro op
    cases op <;> simp [Op.inDeviceInit, Op.inSignOut]
  have hrest : Within Op.inSignOut (do
      ExceptT.adapt .dbErr (DeviceStorage.reinitialize codecs "sign out")
      ExceptT.adapt .dbErr TokenStorage.removeAll
      ExceptT.lift (perform (.writeServiceToken none)) : Fallible DeviceError Unit).run := by
    refine .exceptBind (.adapt (DeviceStorage.reinitialize_within codecs hinit rfl _)) fun _ => ?_
    refine .exceptBind (.adapt (within_perform rfl)) fun _ => ?_
    exact .lift (within_perform rfl)
  refine .exceptBind (.adapt (within_perform rfl)) fun _ => ?_
  refine .exceptBind (.lift (within_perform rfl)) fun status => ?_
  split
  · split
    · trivial
    · exact hrest
  · exact hrest

theorem DeviceService.handleSignInInner_within (userCreds : UserCredentials) :
    Within Op.inSignIn (handleSignInInner codecs userCreds).run := by
  have hinit : ∀ op : Op, op.inDeviceInit = true → op.inSignIn = true := by
    intro op
    cases op <;> simp [Op.inDeviceInit, Op.inSignIn, Op.inDeviceSetup]
  refine .exceptBind (.adapt (within_perform rfl)) fun _ => ?_
  refine .exceptBind (.adapt (DeviceStorage.init_within codecs hinit)) fun _ => ?_
  refine .exceptBind (.adapt (DeviceStorage.getDevice_within codecs rfl)) fun device => ?_
  refine .exceptBind ?_ fun deviceDetails => ?_
  · cases device <;> trivial
  · refine .exceptBind (.adapt (within_perform rfl)) fun response => ?_
    refine .exceptBind (.adapt (.exceptBind (within_perform rfl) fun _ => within_perform rfl))
      fun _ => ?_
    refine .exceptBind (.adapt (DeviceStorage.updateIpv4Address_within codecs
      (fun _ => rfl) (fun _ _ => rfl) _ _)) fun _ => ?_
    exact .lift (within_perform rfl)

end

/-! ## Handlers -/

namespace VpnSessionStorage

theorem endSession_within (hfind : footprint .findUnmarked = true)
    (hmark : ∀ requestId, footprint (.markForDeletion requestId) = true) :
    Within footprint endSession.run := by
  refine .exceptBind (within_perform hfind) fun vpnSession => ?_
  cases vpnSession with
  | none => trivial
  | some vpnSession =>
      refine .exceptBind (within_perform (hmark _)) fun _ => ?_
      cases vpnSession.sessionUuid with
      | none => trivial
      | some text =>
          refine .exceptBind ?_ fun _ => .exceptBind ?_ fun _ => trivial
          all_goals
            unfold Fallible.parsed
            split <;> trivial

theorem tunnelStateTransition_within (transition : TunnelStateTransition)
    (currentState : VpnStatus) :
    Within Op.inLookup (tunnelStateTransition transition currentState).run := by
  refine .exceptBind (within_perform rfl) fun vpnSession => ?_
  cases vpnSession with
  | none =>
      cases transition with
      | disconnecting afterDisconnect => cases currentState <;> trivial
      | error errorState => exact .exceptBind (.lift (within_perform rfl)) fun _ => trivial
      | _ => trivial
  | some vpnSession =>
      cases transition with
      | connected =>
          refine .exceptBind (within_perform rfl) fun _ => ?_
          refine .exceptBind (.lift (within_perform rfl)) fun _ => ?_
          refine .exceptBind ?_ fun _ => .exceptBind ?_ fun _ => .exceptBind ?_ fun _ => trivial
          · unfold Fallible.parsed
            split <;> trivial
          · unfold Fallible.unwrap
            split <;> trivial
          · unfold Fallible.parsed
            split <;> trivial
      | error errorState => exact .exceptBind (.lift (within_perform rfl)) fun _ => trivial
      | _ => trivial

theorem updatedServerStatus_within (status : VpnSessionStatus) :
    Within Op.inStatusUpdate (updatedServerStatus status).run := by
  refine .exceptBind (within_perform rfl) fun vpnSession => ?_
  cases vpnSession with
  | none => trivial
  | some vpnSession =>
      cases status <;> refine .exceptBind (within_perform rfl) fun _ => ?_ <;>
        first | trivial | exact .exceptBind (.lift (within_perform rfl)) fun _ => trivial

end VpnSessionStorage

namespace Daemon

theorem modifyState_within (update : DaemonState → DaemonState) :
    Within Op.inMemory (modifyState update) :=
  .bind (within_perform rfl) fun _ => within_perform rfl

theorem setVpnStatus_within (vpnStatus : VpnStatus) :
    Within Op.inMemory (setVpnStatus vpnStatus) :=
  .bind (modifyState_within _) fun _ => within_perform rfl

theorem addNotification_within (notification : Notification) :
    Within Op.inMemory (addNotification notification) :=
  .bind (modifyState_within _) fun _ => within_perform rfl

theorem tunnelCommandOnDisconnect_within : Within Op.inMemory tunnelCommandOnDisconnect := by
  refine .bind (within_perform rfl) fun state => ?_
  split <;> first | trivial | exact within_perform rfl

theorem updateTunnelOnNewStatus_within (vpnStatus : VpnStatus) :
    Within Op.inMemory (updateTunnelOnNewStatus vpnStatus) := by
  unfold updateTunnelOnNewStatus
  split <;> first | trivial | exact within_perform rfl

theorem endSession_within (endReason : String) :
    Within Op.inHandler (endSession endReason).run :=
  .exceptBind (.adapt (VpnSessionStorage.endSession_within rfl fun _ => rfl))
    fun _ => .lift (within_perform rfl)

theorem onDisconnectInner_within (endReason : String) :
    Within Op.inHandler (onDisconnectInner endReason).run := by
  refine .exceptBind (.lift (tunnelCommandOnDisconnect_within.mono
    fun _ => Op.inHandler_of_inMemory)) fun _ => ?_
  refine .exceptBind (endSession_within endReason) fun _ => ?_
  · refine .exceptBind (.lift (within_perform rfl)) fun _ => ?_
    refine .exceptBind (.lift (within_perform rfl)) fun _ => ?_
    exact .exceptBind (.lift (within_perform rfl)) fun _ => trivial

section Processed

variable {Q : (α : Type) → Async α → Prop}
  (hbind : ∀ {α β : Type} {program : Async α} {rest : α → Async β}, Q α program →
    (∀ value, Q β (rest value)) → Q β (program.bind rest))

include hbind

/-- A property that a sequence has when its parts have it, of what the loop does with a
processed server status. -/
theorem statusProcessed_composes (hpure : Q Unit (.pure ()))
    (processed : VpnSessionStorage.VpnSessionStatusProcessed)
    (hnotification : ∀ notification, Q Unit (addNotification notification))
    (hstatus : ∀ newVpnStatus, Q Unit (setVpnStatus newVpnStatus))
    (htunnel : ∀ newVpnStatus, processed.vpnStatus = some newVpnStatus →
      Q Unit (updateTunnelOnNewStatus newVpnStatus)) :
    Q Unit (do
      if let some notification := processed.notification then
        addNotification notification
      if let some newVpnStatus := processed.vpnStatus then
        setVpnStatus newVpnStatus
        updateTunnelOnNewStatus newVpnStatus) := by
  obtain ⟨vpnStatus, notification⟩ := processed
  have hupdated : Q Unit (do
      if let some newVpnStatus := vpnStatus then
        setVpnStatus newVpnStatus
        updateTunnelOnNewStatus newVpnStatus) := by
    cases vpnStatus with
    | none => exact hpure
    | some newVpnStatus => exact hbind (hstatus _) fun _ => htunnel _ rfl
  cases notification with
  | none => exact hupdated
  | some notification => exact hbind (hnotification _) fun _ => hupdated

/-- The same of what it does with a processed transition. -/
theorem transitionProcessed_composes (processed : VpnSessionStorage.TunnelTransitionProcessed)
    (hclient : ∀ sessionInfo, Q Unit (clientConnected sessionInfo))
    (hcommand : ∀ tunnelCommand, processed.tunnelCommand = some tunnelCommand →
      Q Unit (sendTunnelCommand tunnelCommand))
    (hnotification : ∀ notification, Q Unit (addNotification notification))
    (hend : ∀ reason, Q (Except DaemonError Unit) (endSession reason).run)
    (hstatus : Q Unit (setVpnStatus processed.vpnStatus)) :
    Q Unit (do
      if let some sessionInfo := processed.clientConnected then
        clientConnected sessionInfo
      if let some tunnelCommand := processed.tunnelCommand then
        sendTunnelCommand tunnelCommand
      if let some notification := processed.notification then
        addNotification notification
      if let some reason := processed.endSession then
        let _ ← (endSession reason).run
      setVpnStatus processed.vpnStatus) := by
  obtain ⟨vpnStatus, command, reason, notification, client⟩ := processed
  have hended : Q Unit (do
      if let some reason := reason then
        let _ ← (endSession reason).run
      setVpnStatus vpnStatus) := by
    cases reason with
    | none => exact hstatus
    | some reason => exact hbind (hend _) fun _ => hstatus
  have hnotified : Q Unit (do
      if let some notification := notification then
        addNotification notification
      if let some reason := reason then
        let _ ← (endSession reason).run
      setVpnStatus vpnStatus) := by
    cases notification with
    | none => exact hended
    | some notification => exact hbind (hnotification _) fun _ => hended
  have hcommanded : Q Unit (do
      if let some tunnelCommand := command then
        sendTunnelCommand tunnelCommand
      if let some notification := notification then
        addNotification notification
      if let some reason := reason then
        let _ ← (endSession reason).run
      setVpnStatus vpnStatus) := by
    cases command with
    | none => exact hnotified
    | some command => exact hbind (hcommand _ rfl) fun _ => hnotified
  cases client with
  | none => exact hcommanded
  | some sessionInfo => exact hbind (hclient _) fun _ => hcommanded

end Processed

/-- What the loop does with a processed server status. -/
theorem statusProcessed_within (processed : VpnSessionStorage.VpnSessionStatusProcessed) :
    Within Op.inMemory (do
      if let some notification := processed.notification then
        addNotification notification
      if let some newVpnStatus := processed.vpnStatus then
        setVpnStatus newVpnStatus
        updateTunnelOnNewStatus newVpnStatus : Async Unit) :=
  statusProcessed_composes (Q := fun _ => Within Op.inMemory) .bind trivial processed
    addNotification_within setVpnStatus_within fun _ _ => updateTunnelOnNewStatus_within _

theorem handleVpnSessionStatus_within (status : VpnSessionStatus) :
    Within Op.inHandler (handleVpnSessionStatus status) := by
  refine .bind ((VpnSessionStorage.updatedServerStatus_within status).mono
    fun _ => Op.inHandler_of_inStatusUpdate) fun result => ?_
  cases result with
  | error error => trivial
  | ok processed =>
      exact (statusProcessed_within processed).mono fun _ => Op.inHandler_of_inMemory

/-- What the loop does with a processed transition, up to the session it ends. -/
theorem transitionProcessed_within (processed : VpnSessionStorage.TunnelTransitionProcessed) :
    Within Op.inHandler (do
      if let some sessionInfo := processed.clientConnected then
        clientConnected sessionInfo
      if let some tunnelCommand := processed.tunnelCommand then
        sendTunnelCommand tunnelCommand
      if let some notification := processed.notification then
        addNotification notification
      if let some reason := processed.endSession then
        let _ ← (endSession reason).run
      setVpnStatus processed.vpnStatus) := by
  have hmemory {program : Async Unit} (h : Within Op.inMemory program) :
      Within Op.inHandler program := h.mono fun _ => Op.inHandler_of_inMemory
  exact transitionProcessed_composes (Q := fun _ => Within Op.inHandler) .bind processed
    (fun _ => within_perform rfl) (fun _ _ => within_perform rfl)
    (fun _ => hmemory (addNotification_within _)) endSession_within
    (hmemory (setVpnStatus_within _))

/-- The parts of what the loop does with a processed server status, put together. -/
theorem statusProcessed_ensures {ε σ : Type} {M : Semantics ops ε σ} {C : Contract ops ε σ}
    {J : σ → Prop} (processed : VpnSessionStorage.VpnSessionStatusProcessed) {state : σ}
    (hpure : ∀ next, J next → Program.Ensures M C (fun _ => J) (.pure ()) next)
    (hnotification : ∀ notification, processed.notification = some notification →
      (addNotification notification).Ensures M C (fun _ => J) state)
    (hnone : processed.notification = none → J state)
    (hstatus : ∀ newVpnStatus, processed.vpnStatus = some newVpnStatus → ∀ next, J next →
      (setVpnStatus newVpnStatus).Ensures M C (fun _ => J) next)
    (htunnel : ∀ newVpnStatus next, J next →
      (updateTunnelOnNewStatus newVpnStatus).Ensures M C (fun _ => J) next) :
    Program.Ensures M C (fun _ => J) (do
      if let some notification := processed.notification then
        addNotification notification
      if let some newVpnStatus := processed.vpnStatus then
        setVpnStatus newVpnStatus
        updateTunnelOnNewStatus newVpnStatus) state := by
  obtain ⟨vpnStatus, notification⟩ := processed
  have hupdated (next : σ) (h : J next) : Program.Ensures M C (fun _ => J) (do
      if let some newVpnStatus := vpnStatus then
        setVpnStatus newVpnStatus
        updateTunnelOnNewStatus newVpnStatus) next := by
    cases vpnStatus with
    | none => exact hpure next h
    | some newVpnStatus => exact .bind ((hstatus _ rfl next h).mono fun _ => htunnel newVpnStatus)
  cases notification with
  | none => exact hupdated state (hnone rfl)
  | some notification => exact .bind ((hnotification _ rfl).mono fun _ => hupdated)

/-- The parts of what the loop does with a processed transition, put together: one
predicate holds until the notification is added, the other one from then on. -/
theorem transitionProcessed_ensures {ε σ : Type} {M : Semantics ops ε σ} {C : Contract ops ε σ}
    {I J : σ → Prop} {post : Unit → σ → Prop}
    (processed : VpnSessionStorage.TunnelTransitionProcessed)
    (hclient : ∀ sessionInfo state, I state →
      (clientConnected sessionInfo).Ensures M C (fun _ => I) state)
    (hcommand : ∀ command state, I state → (sendTunnelCommand command).Ensures M C (fun _ => I) state)
    (hnotification : ∀ notification, processed.notification = some notification →
      ∀ state, I state → (addNotification notification).Ensures M C (fun _ => J) state)
    (hnone : processed.notification = none → ∀ state, I state → J state)
    (hend : ∀ reason state, J state → Program.Ensures M C (fun _ => J) (endSession reason).run state)
    (hstatus : ∀ state, J state → (setVpnStatus processed.vpnStatus).Ensures M C post state)
    {state : σ} (h : I state) : Program.Ensures M C post (do
      if let some sessionInfo := processed.clientConnected then
        clientConnected sessionInfo
      if let some tunnelCommand := processed.tunnelCommand then
        sendTunnelCommand tunnelCommand
      if let some notification := processed.notification then
        addNotification notification
      if let some reason := processed.endSession then
        let _ ← (endSession reason).run
      setVpnStatus processed.vpnStatus) state := by
  obtain ⟨vpnStatus, command, reason, notification, client⟩ := processed
  have hended (next : σ) (h : J next) : Program.Ensures M C post (do
      if let some reason := reason then
        let _ ← (endSession reason).run
      setVpnStatus vpnStatus) next := by
    cases reason with
    | none => exact hstatus next h
    | some reason => exact .bind ((hend reason next h).mono fun _ => hstatus)
  have hnotified (next : σ) (h : I next) : Program.Ensures M C post (do
      if let some notification := notification then
        addNotification notification
      if let some reason := reason then
        let _ ← (endSession reason).run
      setVpnStatus vpnStatus) next := by
    cases notification with
    | none => exact hended next (hnone rfl next h)
    | some notification => exact .bind ((hnotification _ rfl next h).mono fun _ => hended)
  have hcommanded (next : σ) (h : I next) : Program.Ensures M C post (do
      if let some tunnelCommand := command then
        sendTunnelCommand tunnelCommand
      if let some notification := notification then
        addNotification notification
      if let some reason := reason then
        let _ ← (endSession reason).run
      setVpnStatus vpnStatus) next := by
    cases command with
    | none => exact hnotified next h
    | some command => exact .bind ((hcommand command next h).mono fun _ => hnotified)
  cases client with
  | none => exact hcommanded state h
  | some sessionInfo => exact .bind ((hclient sessionInfo state h).mono fun _ => hcommanded)

theorem handleTunnelStateTransition_within (transition : TunnelStateTransition) :
    Within Op.inHandler (handleTunnelStateTransition transition) := by
  refine .bind (within_perform rfl) fun state => ?_
  refine .bind ((VpnSessionStorage.tunnelStateTransition_within _ _).mono ?_) fun result => ?_
  · intro op
    cases op <;> simp [Op.inLookup, Op.inHandler, Op.inMemory]
  cases result with
  | error error => trivial
  | ok processed => exact transitionProcessed_within processed

theorem onConnectInner_within (location : Location) :
    Within Op.inEvent (onConnectInner location).run := by
  refine .exceptBind (.lift (within_perform rfl)) fun state => ?_
  have hnew : Within Op.inEvent (VpnSessionStorage.newSession location).run :=
    .exceptBind (.lift (within_perform rfl)) fun _ =>
      .exceptBind (within_perform rfl) fun _ => trivial
  split
  · trivial
  refine .exceptBind (.adapt hnew) fun requestId => ?_
  refine .exceptBind (.adapt (DeviceStorage.getDeviceUniqueId_within rfl)) fun id => ?_
  refine .exceptBind (.lift (within_perform rfl)) fun _ => ?_
  refine .exceptBind (.lift (within_perform rfl)) fun reply => ?_
  cases reply with
  | ok accepted =>
      refine .exceptBind (.adapt (within_perform rfl)) fun _ => ?_
      exact .exceptBind (.lift ((modifyState_within _).mono
        fun _ h => Op.inEvent_of_inHandler (Op.inHandler_of_inMemory h))) fun _ => trivial
  | error error =>
      refine .exceptBind (.adapt (within_perform rfl)) fun _ => ?_
      refine .exceptBind (.lift (within_perform rfl)) fun _ => ?_
      refine .exceptBind (.lift (within_perform rfl)) fun _ => ?_
      refine .exceptBind (.lift (within_perform rfl)) fun _ => ?_
      exact .exceptBind (.lift ((addNotification_within _).mono
        fun _ h => Op.inEvent_of_inHandler (Op.inHandler_of_inMemory h))) fun _ => trivial

theorem handleCommand_within (command : DaemonCommand) :
    Within Op.inEvent (handleCommand command) := by
  cases command with
  | connect location =>
      refine .bind (within_perform rfl) fun _ => ?_
      exact .bind (onConnectInner_within location) fun _ => within_perform rfl
  | disconnect =>
      exact .bind ((onDisconnectInner_within _).mono fun _ => Op.inEvent_of_inHandler)
        fun _ => within_perform rfl
  | accountSignIn _ | accountSignOut =>
      refine .bind (within_perform rfl) fun state => ?_
      split <;> exact within_perform rfl
  | getVpnStatus | getNotifications => exact .bind (within_perform rfl) fun _ => within_perform rfl
  | ackNotification id =>
      exact .bind ((modifyState_within _).mono
        fun _ h => Op.inEvent_of_inHandler (Op.inHandler_of_inMemory h)) fun _ => within_perform rfl

theorem handleEvent_within (event : DaemonEvent) : Within Op.inEvent (handleEvent event) := by
  cases event with
  | command command => exact handleCommand_within command
  | shutdown =>
      exact .bind ((onDisconnectInner_within _).mono fun _ => Op.inEvent_of_inHandler)
        fun _ => trivial
  | vpnSessionStatus status =>
      exact (handleVpnSessionStatus_within status).mono fun _ => Op.inEvent_of_inHandler
  | tunnelStateTransition transition =>
      exact (handleTunnelStateTransition_within transition).mono fun _ => Op.inEvent_of_inHandler

end Daemon

/-! ## Tasks and the reclaimer -/

theorem Task.addRecent_within (location : Location) :
    Within Op.inTask (program (.addRecent location)) := by
  refine .bind (.exceptBind (within_perform rfl) fun _ => ?_) fun _ => trivial
  exact .exceptBind (within_perform rfl) fun _ => within_perform rfl

theorem Task.clientConnected_within (sessionInfo : SessionInfo) :
    Within Op.inTask (program (.clientConnected sessionInfo)) := by
  refine .bind (DeviceStorage.getDeviceUniqueId_within rfl) fun result => ?_
  cases result with
  | error error => trivial
  | ok deviceUniqueId => exact .bind (within_perform rfl) fun _ => trivial

theorem Task.endSession_within (sessionInfo : Option SessionInfo) (endReason : String) :
    Within Op.inEnding (program (.endSession sessionInfo endReason)) := by
  cases sessionInfo with
  | none => trivial
  | some sessionInfo =>
      refine .bind (DeviceStorage.getDeviceUniqueId_within rfl) fun result => ?_
      cases result with
      | error error => trivial
      | ok deviceUniqueId =>
          refine .bind (within_perform rfl) fun reply => ?_
          cases reply with
          | error error => trivial
          | ok ended => exact .bind (within_perform rfl) fun _ => trivial

theorem Reclaimer.reclaim_within (codecs : Codecs) : Within Op.inEnding (reclaim codecs) := by
  refine .bind (.exceptBind (within_perform rfl) fun _ => trivial) fun result => ?_
  cases result with
  | error error => trivial
  | ok sessions =>
      refine .bind (DeviceStorage.getDevice_within codecs rfl) fun device => ?_
      split
      · rename_i deviceDetails
        induction sessions with
        | nil => trivial
        | cons session rest ih =>
            refine .bind (.bind (within_perform rfl) fun reply => ?_) fun _ => ih
            split <;> first | trivial | exact .bind (within_perform rfl) fun _ => trivial
      · trivial

/-! ## Everything beside the loop -/

theorem Task.program_within (task : Task) : Within Op.inBackground task.program := by
  cases task with
  | addRecent location =>
      exact (addRecent_within location).mono fun op hop => by
        cases op <;> first | rfl | cases hop
  | clientConnected sessionInfo =>
      exact (clientConnected_within sessionInfo).mono fun op hop => by
        cases op <;> first | rfl | cases hop
  | endSession sessionInfo endReason =>
      exact (endSession_within sessionInfo endReason).mono fun op hop => by
        cases op <;> first | rfl | cases hop
  | signIn _ | signOut => exact within_perform rfl

theorem DeviceService.handleMessage_within (codecs : Codecs) (command : DeviceCommand) :
    Within Op.inBackground (handleMessage codecs command) := by
  cases command with
  | signIn userCreds =>
      refine .bind ((handleSignInInner_within codecs userCreds).mono fun op hop => ?_)
        fun _ => within_perform rfl
      cases op <;> first | rfl | cases hop
  | signOut =>
      refine .bind ((handleSignOutInner_within codecs).mono fun op hop => ?_)
        fun _ => within_perform rfl
      cases op <;> first | rfl | cases hop

theorem Reclaimer.reclaim_within_background (codecs : Codecs) :
    Within Op.inBackground (reclaim codecs) :=
  (reclaim_within codecs).mono fun op hop => by
    cases op <;> first | rfl | cases hop

end Modvpn
