/-
# Request ids as the programs hold them

A request id has a life of its own. It is generated, held by the loop until its row
is inserted, and from then on it belongs to the table. When its row is marked, or a
program finds it marked, the id is spent: whoever holds it may delete the row, or
hand the id to a task that will.

`ledger` reads a program for this alone. Its state is what the program holds, and
the answers to its operations are arbitrary as long as they are plausible. A program
that keeps the terms inserts only ids it has generated and not yet inserted, and a
program beside the loop touches only rows whose ids are spent. What the holdings
mean is an invariant of the machine.
-/

import Modvpn.Analysis.Daemon.Footprints
import Modvpn.Analysis.Daemon.Frames
import Modvpn.Analysis.Daemon.Rows

namespace Modvpn

open Modvpn.Protocol
open Entity (VpnSession)

/-! ## Holdings -/

/-- What a program holds. -/
structure Held where
  /-- Generated, and not inserted yet. -/
  fresh : List Uuid
  /-- A row was found. -/
  found : List Uuid
  /-- The row was marked when the program learned of it. -/
  spent : List Uuid

namespace Held

/-- The ids the loop may still insert after an answer. -/
def freshAfter (fresh : List Uuid) : (op : Op) → op.Resp → List Uuid
  | .newUuid => fun id => id :: fresh
  | .insertVpnSession id _ => fun _ => fresh.filter (· ≠ id)
  | _ => fun _ => fresh

/-- The ids of which an answer shows that they have a row. -/
def sighted : (op : Op) → op.Resp → List Uuid
  | .findUnmarked => fun
      | .ok (some row) => (Uuid.parseStr row.requestId).toList
      | _ => []
  | _ => fun _ => []

/-- The ids an answer shows to be spent. -/
def learned : (op : Op) → op.Resp → List Uuid
  | .findMarked => fun
      | .ok rows => rows.filterMap fun row => Uuid.parseStr row.requestId
      | .error _ => []
  | .markForDeletion requestId => fun
      | .ok _ => (Uuid.parseStr requestId).toList
      | .error _ => []
  | _ => fun _ => []

def after (held : Held) (op : Op) (answer : op.Resp) : Held where
  fresh := freshAfter held.fresh op answer
  found := sighted op answer ++ held.found
  spent := learned op answer ++ held.spent

end Held

/-- The ids a task is given. -/
def Task.given : Task → List Uuid
  | .endSession (some sessionInfo) _ => [sessionInfo.requestId]
  | _ => []

/-- A program's operations change what it holds. -/
@[reducible]
def ledger : Semantics ops (∀ op : Op, op.Resp) Held where
  answer op answers held := (answers op, held.after op (answers op))

/-- Rows that an answer contains have the texts the daemon writes. -/
def Plausible : (op : Op) → op.Resp → Prop
  | .findUnmarked => fun answer => ∀ row, answer = .ok (some row) → row.WellFormed
  | .findMarked => fun answer => ∀ rows, answer = .ok rows → ∀ row ∈ rows, row.WellFormed
  | _ => fun _ => True

/-- What an operation needs its program to hold. -/
def Needs (byLoop : Bool) (held : Held) : Op → Prop
  | .insertVpnSession id _ => byLoop = true ∧ id ∈ held.fresh
  | .markForDeletion text => byLoop = true ∧ ∃ id ∈ held.found, id.toText = text
  | .spawn (.endSession (some sessionInfo) _) =>
      byLoop = true ∧ sessionInfo.requestId ∈ held.spent
  | .newUuid | .markAllForDeletion | .setAccepted _ _ | .updateVpnSession _ _ => byLoop = true
  | .deleteVpnSession text => byLoop = true ∨ ∃ id ∈ held.spent, id.toText = text
  | _ => True

/-- The terms of the loop's programs, and of all others. -/
@[reducible]
def bookkeeping (byLoop : Bool) : Contract ops (∀ op : Op, op.Resp) Held where
  rely := Eq
  admits op answers _ := Plausible op (answers op)
  duty op _ held := Needs byLoop held op
  rely_refl _ := rfl
  rely_trans := Eq.trans

/-- The program keeps the terms with what it holds. -/
abbrev Accounts (byLoop : Bool) {α : Type} (program : Async α) (post : α → Held → Prop)
    (held : Held) : Prop :=
  program.Ensures ledger (bookkeeping byLoop) post held

/-! ## The programs keep the terms -/

/-- Operations that need nothing of the loop. -/
def Op.isUnbooked : Op → Bool
  | .insertVpnSession _ _ | .markForDeletion _ => false
  | .spawn (.endSession (some _) _) => false
  | _ => true

/-- Operations that need nothing of anyone. -/
def Op.isHarmless : Op → Bool
  | .newUuid | .markAllForDeletion | .setAccepted _ _ | .updateVpnSession _ _
  | .deleteVpnSession _ => false
  | op => op.isUnbooked

section Programs

variable {byLoop : Bool} {held : Held} {codecs : Codecs} {op : Op}

theorem needs_of_isUnbooked (h : op.isUnbooked = true) : Needs true held op := by
  cases op with
  | spawn task =>
      cases task with
      | endSession sessionInfo endReason => cases sessionInfo <;> trivial
      | _ => trivial
  | deleteVpnSession text => exact .inl rfl
  | _ => trivial

theorem needs_of_isHarmless (h : op.isHarmless = true) : Needs byLoop held op := by
  cases op with
  | spawn task =>
      cases task with
      | endSession sessionInfo endReason => cases sessionInfo <;> trivial
      | _ => trivial
  | _ => trivial

/-- One operation that has what it needs. -/
theorem accounts_perform {post : op.Resp → Held → Prop} (hneeds : Needs byLoop held op)
    (h : ∀ answer, Plausible op answer → post answer (held.after op answer)) :
    Accounts byLoop (perform op) post held := by
  rintro _ answers rfl hplausible
  refine ⟨hneeds, ?_⟩
  rintro _ rfl
  exact h _ hplausible

/-- What is learned is never forgotten. -/
theorem accounts_of_within {α : Type} {program : Async α} (h : Within Op.isHarmless program) :
    Accounts byLoop program (fun _ later => held.spent ⊆ later.spent) held := by
  apply h.ensures (I := fun later : Held => held.spent ⊆ later.spent)
  · exact fun _ _ _ hop _ => needs_of_isHarmless hop
  · rintro _ _ rfl hspent
    exact hspent
  · exact fun _ _ hspent => List.subset_append_of_subset_right _ hspent
  · exact List.Subset.refl _

/-- A program of the loop that neither inserts a row nor ends a session. -/
theorem accounts_unbooked {α : Type} {program : Async α} (h : Within Op.isUnbooked program) :
    Accounts true program (fun _ _ => True) held :=
  h.ensures (I := fun _ => True) (fun _ _ _ hop _ => needs_of_isUnbooked hop)
    (fun _ _ => trivial) (fun _ _ _ => trivial) trivial

theorem isUnbooked_of_inMemory (h : op.inMemory = true) : op.isUnbooked = true := by
  cases op <;> first | rfl | cases h

theorem startup_accounts : Accounts true (Machine.startup codecs) (fun _ _ => True) held := by
  apply accounts_unbooked
  exact (Machine.startup_within codecs).mono fun op hop => by
    cases op <;> first | rfl | cases hop

theorem newSession_accounts (location : Location) :
    Accounts true (VpnSessionStorage.newSession location).run (fun _ _ => True) held := by
  refine .liftBind (accounts_perform rfl fun requestId _ => ?_)
  refine .exceptBind (accounts_perform ⟨rfl, List.mem_cons_self ..⟩ fun result _ => ?_)
  cases result <;> exact fun _ _ => trivial

theorem onConnectInner_accounts (location : Location) :
    Accounts true (Daemon.onConnectInner location).run (fun _ _ => True) held := by
  refine .liftBind ((accounts_unbooked (within_perform rfl)).mono fun state moved _ => ?_)
  split
  · exact fun _ _ => trivial
  refine .exceptBindTrivial (.adapt ((newSession_accounts location).mono fun _ _ _ => trivial))
    fun requestId later => accounts_unbooked ?_
  refine .exceptBind (.adapt (DeviceStorage.getDeviceUniqueId_within rfl)) fun deviceUniqueId => ?_
  refine .exceptBind (.lift (within_perform rfl)) fun _ => ?_
  refine .exceptBind (.lift (within_perform rfl)) fun reply => ?_
  have hmemory {α : Type} {program : Async α} (h : Within Op.inMemory program) :
      Within Op.isUnbooked program := h.mono fun _ => isUnbooked_of_inMemory
  cases reply with
  | ok accepted =>
      refine .exceptBind (.adapt (within_perform rfl)) fun _ => ?_
      exact .exceptBind (.lift (hmemory (Daemon.modifyState_within _))) fun _ => trivial
  | error error =>
      refine .exceptBind (.adapt (within_perform rfl)) fun _ => ?_
      refine .exceptBind (.lift (within_perform rfl)) fun _ => ?_
      refine .exceptBind (.lift (within_perform rfl)) fun _ => ?_
      refine .exceptBind (.lift (within_perform rfl)) fun _ => ?_
      exact .exceptBind (.lift (hmemory (Daemon.addNotification_within _))) fun _ => trivial

/-- The session that is ended has just been marked. -/
theorem storageEndSession_accounts :
    Accounts true VpnSessionStorage.endSession.run (fun result later =>
      ∀ sessionInfo, result = .ok (some sessionInfo) → sessionInfo.requestId ∈ later.spent)
      held := by
  refine .exceptBind (accounts_perform trivial fun vpnSession hplausible => ?_)
  cases vpnSession with
  | error error => exact fun _ _ _ => nofun
  | ok vpnSession =>
      cases vpnSession with
      | none => exact fun _ _ _ => nofun
      | some row =>
          obtain ⟨⟨requestId, hid⟩, -⟩ := hplausible row rfl
          have hparsed : Uuid.parseStr row.requestId = some requestId :=
            hid ▸ Uuid.parseStr_toText requestId
          refine .exceptBind (accounts_perform ⟨rfl, requestId, ?_, hid.symm⟩ fun marked _ => ?_)
          · simp [Held.after, Held.sighted, hparsed]
          cases marked with
          | error error => exact fun _ _ _ => nofun
          | ok _ =>
              simp only [Program.EnsuresRest]
              cases row.sessionUuid with
              | none => exact fun _ _ _ => nofun
              | some text =>
                  simp only [Fallible.parsed, hparsed]
                  cases Uuid.parseStr text with
                  | none => trivial
                  | some vpnSessionId =>
                      rintro _ rfl _ ⟨⟩
                      simp [Held.after, Held.learned, hparsed]

theorem endSession_accounts (endReason : String) :
    Accounts true (Daemon.endSession endReason).run (fun _ _ => True) held := by
  refine .exceptBind (.adapt (storageEndSession_accounts.mono fun result later hspent => ?_))
  cases result with
  | error error => exact fun _ _ => trivial
  | ok sessionInfo =>
      refine .lift (accounts_perform ?_ fun _ _ => trivial)
      cases sessionInfo with
      | none => trivial
      | some sessionInfo => exact ⟨rfl, hspent sessionInfo rfl⟩

theorem onDisconnectInner_accounts (endReason : String) :
    Accounts true (Daemon.onDisconnectInner endReason).run (fun _ _ => True) held := by
  have hcommand : Within Op.isUnbooked Daemon.tunnelCommandOnDisconnect :=
    Daemon.tunnelCommandOnDisconnect_within.mono fun _ => isUnbooked_of_inMemory
  refine .liftBind ((accounts_unbooked hcommand).mono fun _ later _ => ?_)
  refine .exceptBindTrivial (endSession_accounts endReason) fun _ later => accounts_unbooked ?_
  refine .exceptBind (.lift (within_perform rfl)) fun _ => ?_
  refine .exceptBind (.lift (within_perform rfl)) fun _ => ?_
  exact .exceptBind (.lift (within_perform rfl)) fun _ => trivial

theorem handleVpnSessionStatus_accounts (status : VpnSessionStatus) :
    Accounts true (Daemon.handleVpnSessionStatus status) (fun _ _ => True) held := by
  refine accounts_unbooked (.bind ((VpnSessionStorage.updatedServerStatus_within status).mono ?_)
    fun result => ?_)
  · intro op hop
    cases op <;> first | rfl | cases hop
  · cases result with
    | error error => trivial
    | ok processed =>
        exact (Daemon.statusProcessed_within processed).mono fun _ => isUnbooked_of_inMemory

theorem handleTunnelStateTransition_accounts (transition : TunnelStateTransition) :
    Accounts true (Daemon.handleTunnelStateTransition transition) (fun _ _ => True) held := by
  refine .bind ((accounts_unbooked (within_perform rfl)).mono fun state later _ => ?_)
  have hlookup : Within Op.isUnbooked
      (VpnSessionStorage.tunnelStateTransition transition state.vpnStatus).run :=
    (VpnSessionStorage.tunnelStateTransition_within _ _).mono fun op hop => by
      cases op <;> first | rfl | cases hop
  refine .bind ((accounts_unbooked hlookup).mono fun result later _ => ?_)
  cases result with
  | error error => trivial
  | ok processed =>
      apply Daemon.transitionProcessed_ensures (I := fun _ => True) (J := fun _ => True) processed
        _ _ _ _ _ _ trivial
      · exact fun _ _ _ => accounts_unbooked (within_perform rfl)
      · exact fun _ _ _ => accounts_unbooked (within_perform rfl)
      · exact fun _ _ _ _ => accounts_unbooked
          ((Daemon.addNotification_within _).mono fun _ => isUnbooked_of_inMemory)
      · exact fun _ _ _ => trivial
      · exact fun _ _ _ => endSession_accounts _
      · exact fun _ _ => accounts_unbooked
          ((Daemon.setVpnStatus_within _).mono fun _ => isUnbooked_of_inMemory)

theorem handleCommand_accounts (command : DaemonCommand) :
    Accounts true (Daemon.handleCommand command) (fun _ _ => True) held := by
  have hrespond {later : Held} {response : Response} :
      Accounts true (perform (.respond response)) (fun _ _ => True) later :=
    accounts_unbooked (within_perform rfl)
  cases command with
  | connect location =>
      refine .bind ((accounts_unbooked (within_perform rfl)).mono fun _ _ _ => ?_)
      exact .bind ((onConnectInner_accounts location).mono fun _ _ _ => hrespond)
  | disconnect => exact .bind ((onDisconnectInner_accounts _).mono fun _ _ _ => hrespond)
  | accountSignIn _ | accountSignOut =>
      refine accounts_unbooked (.bind (within_perform rfl) fun state => ?_)
      split <;> exact within_perform rfl
  | getVpnStatus | getNotifications =>
      exact accounts_unbooked (.bind (within_perform rfl) fun _ => within_perform rfl)
  | ackNotification id =>
      exact accounts_unbooked (.bind ((Daemon.modifyState_within _).mono
        fun _ => isUnbooked_of_inMemory) fun _ => within_perform rfl)

theorem handleEvent_accounts (event : DaemonEvent) :
    Accounts true (Daemon.handleEvent event) (fun _ _ => True) held := by
  cases event with
  | command command => exact handleCommand_accounts command
  | shutdown => exact .bind ((onDisconnectInner_accounts _).mono fun _ _ _ _ _ => trivial)
  | vpnSessionStatus status => exact handleVpnSessionStatus_accounts status
  | tunnelStateTransition transition => exact handleTunnelStateTransition_accounts transition

/-! ### Everything beside the loop -/

theorem delete_accounts {requestId : Uuid} (h : requestId ∈ held.spent) :
    Accounts false (VpnSessionStorage.delete requestId).run
      (fun _ later => held.spent ⊆ later.spent) held :=
  accounts_perform (.inr ⟨requestId, h, rfl⟩) fun _ _ => List.Subset.refl _

theorem task_accounts {task : Task} (h : task.given ⊆ held.spent) :
    Accounts false task.program (fun _ _ => True) held := by
  cases task with
  | endSession sessionInfo endReason =>
      cases sessionInfo with
      | none => exact fun _ _ => trivial
      | some sessionInfo =>
          have hspent : sessionInfo.requestId ∈ held.spent := h (List.mem_singleton_self _)
          refine .bind ((accounts_of_within (DeviceStorage.getDeviceUniqueId_within rfl)).mono
            fun result later hlater => ?_)
          cases result with
          | error error => exact fun _ _ => trivial
          | ok deviceUniqueId =>
              refine .bind (accounts_perform trivial fun reply _ => ?_)
              cases reply with
              | error error => exact fun _ _ => trivial
              | ok ended =>
                  exact .bind ((delete_accounts (hlater hspent)).mono fun _ _ _ _ _ => trivial)
  | addRecent location =>
      refine (accounts_of_within ((Task.addRecent_within location).mono fun op hop => ?_)).mono
        fun _ _ _ => trivial
      cases op <;> first | rfl | cases hop
  | clientConnected sessionInfo =>
      refine (accounts_of_within ((Task.clientConnected_within sessionInfo).mono
        fun op hop => ?_)).mono fun _ _ _ => trivial
      cases op <;> first | rfl | cases hop
  | signIn _ | signOut => exact accounts_perform trivial fun _ _ => trivial

theorem service_accounts (command : DeviceCommand) :
    Accounts false (DeviceService.handleMessage codecs command) (fun _ _ => True) held := by
  refine (accounts_of_within ?_).mono fun _ _ _ => trivial
  cases command with
  | signIn userCreds =>
      refine .bind ((DeviceService.handleSignInInner_within codecs userCreds).mono
        fun op hop => ?_) fun _ => within_perform rfl
      cases op <;> first | rfl | cases hop
  | signOut =>
      refine .bind ((DeviceService.handleSignOutInner_within codecs).mono fun op hop => ?_)
        fun _ => within_perform rfl
      cases op <;> first | rfl | cases hop

theorem reclaimSession_accounts (deviceUniqueId : Uuid) {session : SessionInfo}
    (h : session.requestId ∈ held.spent) :
    Accounts false (Reclaimer.reclaimSession deviceUniqueId session)
      (fun _ later => held.spent ⊆ later.spent) held := by
  refine .bind (accounts_perform trivial fun reply _ => ?_)
  have hdelete : Accounts false (do
      let _ ← (VpnSessionStorage.delete session.requestId).run
      return ()) (fun _ later => held.spent ⊆ later.spent) held := by
    refine .bind ((delete_accounts h).mono fun _ later hlater => ?_)
    rintro _ rfl
    exact hlater
  have hdone : Accounts false (.pure ()) (fun _ later => held.spent ⊆ later.spent) held := by
    rintro _ rfl
    exact List.Subset.refl _
  cases reply with
  | ok ended => exact hdelete
  | error error =>
      cases error with
      | server status => exact hdelete
      | vpnSessionServiceDown | connection _ => exact hdone

theorem reclaimSessions_accounts (deviceUniqueId : Uuid) {sessions : List SessionInfo}
    (h : ∀ session ∈ sessions, session.requestId ∈ held.spent) :
    Accounts false (Reclaimer.reclaimSessions deviceUniqueId sessions) (fun _ _ => True)
      held := by
  induction sessions generalizing held with
  | nil => exact fun _ _ => trivial
  | cons session rest ih =>
      obtain ⟨hsession, hrest⟩ := List.forall_mem_cons.mp h
      refine .bind ((reclaimSession_accounts deviceUniqueId hsession).mono fun _ later hlater => ?_)
      exact ih fun other hother => hlater (hrest other hother)

theorem requestId_of_reclaimable {row : VpnSession} {session : SessionInfo}
    (h : VpnSessionStorage.reclaimable row = some session) :
    Uuid.parseStr row.requestId = some session.requestId := by
  simp only [VpnSessionStorage.reclaimable, Option.bind_eq_bind, Option.bind_eq_some_iff,
    Option.pure_def] at h
  obtain ⟨vpnSessionId, -, requestId, hid, hsession⟩ := h
  cases hsession
  exact hid

theorem reclaim_accounts : Accounts false (Reclaimer.reclaim codecs) (fun _ _ => True) held := by
  have hfound : Accounts false VpnSessionStorage.toReclaim.run (fun result later =>
      ∀ sessions, result = .ok sessions → ∀ session ∈ sessions,
        session.requestId ∈ later.spent) held := by
    refine .exceptBind (accounts_perform trivial fun rows _ => ?_)
    cases rows with
    | error error => exact fun _ _ _ => nofun
    | ok rows =>
        rintro _ rfl _ ⟨⟩ session hsession
        obtain ⟨row, hrow, hinfo⟩ := List.mem_filterMap.mp hsession
        apply List.mem_append_left
        exact List.mem_filterMap.mpr ⟨row, hrow, requestId_of_reclaimable hinfo⟩
  refine .bind (hfound.mono fun result later hlater => ?_)
  cases result with
  | error error => exact fun _ _ => trivial
  | ok sessions =>
      refine .bind ((accounts_of_within (DeviceStorage.getDevice_within codecs rfl)).mono
        fun device last hlast => ?_)
      split
      · exact reclaimSessions_accounts _ fun session hsession =>
          hlast (hlater sessions rfl session hsession)
      · exact fun _ _ => trivial

end Programs

end Modvpn
