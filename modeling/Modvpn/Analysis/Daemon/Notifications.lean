/-
# Notifications until they are acknowledged

A connect that is refused, a session that fails and an error of the tunnel are each
reported once. A generated request id is in no notification, and the row of a failed
session goes before its notification comes, so refused connects and failed sessions never
remove a notification. An error of the tunnel does when its id is in use: `unknown` where there is
no row, and the request id behind `ce-` where an earlier error could not claim the row.
As long as none is handled then, the daemon lists what is due.
-/

import Modvpn.Analysis.Daemon.FindThenWrite
import Modvpn.Analysis.Daemon.NotificationIds

namespace Modvpn

open Modvpn.Protocol
open Entity (VpnSession)
open VpnSessionStorage (VpnSessionStatusProcessed TunnelTransitionProcessed)

/-! ## The terms of the loop -/

namespace Op

/-- Leaves the notifications alone, and starts no session. -/
def sparesNotifications : Op → Bool
  | .writeState _ | .broadcast (.notification _) | .insertVpnSession _ _ => false
  | _ => true

end Op

namespace Noted

/-- What the loop acts on, and what is due. -/
structure Board where
  world : World
  issued : List Uuid
  due : List Notification

/-- The operations of the loop on it. -/
@[reducible]
def Board.semantics : Semantics ops Env Board where
  answer op env board :=
    ((World.answer op env board.world).1,
      { world := (World.answer op env board.world).2
        issued := Machine.issuedAfter board.issued env op
        due := dueAfter board.due op })

def board (noted : Noted) : Board where
  world := noted.machine.world
  issued := noted.machine.issued
  due := noted.due

namespace Board

/-- The id may be that of a notification. -/
def Allows (board : Board) (text : String) : Prop :=
  NotificationId board.world.vpnSession board.issued text

/-- Notifications have one of the four kinds of ids. -/
def Named (board : Board) : Prop := ∀ notification ∈ board.due, board.Allows notification.id

/-- The ids of rows were generated. -/
def Known (board : Board) : Prop :=
  ∀ id : Uuid, VpnSession.hasId id.toText board.world.vpnSession = true → id ∈ board.issued

/-- What others do while the loop handles an event. -/
structure Waits (board moved : Board) : Prop where
  state : moved.world.state = board.world.state
  due : moved.due = board.due
  issued : board.issued ⊆ moved.issued
  rows : ∀ id, VpnSession.hasId id moved.world.vpnSession = true →
    VpnSession.hasId id board.world.vpnSession = true
  unmarked : VpnSession.unmarked moved.world.vpnSession =
    VpnSession.unmarked board.world.vpnSession

variable {board moved later : Board} {text : String} {op : Op} {env : Env}

theorem Waits.refl (board : Board) : board.Waits board :=
  ⟨rfl, rfl, List.Subset.refl _, fun _ hid => hid, rfl⟩

theorem Waits.trans (first : board.Waits moved) (second : moved.Waits later) :
    board.Waits later :=
  ⟨second.state.trans first.state, second.due.trans first.due,
    List.Subset.trans first.issued second.issued, fun id hid => first.rows id (second.rows id hid),
    second.unmarked.trans first.unmarked⟩

theorem Allows.waits (h : board.Allows text) (hrely : board.Waits moved) : moved.Allows text :=
  NotificationId.mono h hrely.issued hrely.rows

theorem Named.waits (h : board.Named) (hrely : board.Waits moved) : moved.Named := by
  intro notification hmem
  rw [hrely.due] at hmem
  exact (h notification hmem).waits hrely

/-- Only a new row takes an id away from the notifications. -/
theorem Allows.answer (h : board.Allows text)
    (hinsert : ∀ id location, op ≠ .insertVpnSession id location) :
    (semantics.answer op env board).2.Allows text := by
  refine NotificationId.mono h (Machine.subset_issuedAfter _ _ _) fun id hid => ?_
  exact VpnSession.hasId_iff.mpr
    ((World.answer_requestIds hinsert).subset (VpnSession.hasId_iff.mp hid))

theorem Named.answer (h : board.Named) (hop : op.sparesNotifications = true) :
    (semantics.answer op env board).2.Named := by
  intro notification hmem
  have hdue : dueAfter board.due op = board.due := by
    cases op with
    | broadcast event =>
        cases event with
        | vpnStatus _ => rfl
        | notification _ => cases hop
    | _ => rfl
  replace hmem : notification ∈ dueAfter board.due op := hmem
  rw [hdue] at hmem
  apply (h notification hmem).answer
  rintro id location rfl
  cases hop

/-- The terms on which the loop handles an event. -/
@[reducible]
def terms : Contract ops Env Board where
  rely := Waits
  admits op env board :=
    Machine.allowed board.issued env op = true ∧ board.Named ∧ board.Known
  duty op env board := (semantics.answer op env board).2.Named
  rely_refl := Waits.refl
  rely_trans := Waits.trans

/-- The program keeps the terms. -/
abbrev Notes {α : Type} (program : Async α) (post : α → Board → Prop) (board : Board) : Prop :=
  program.Ensures semantics terms post board

/-- This is the map, this is due, and these ids were generated. -/
structure Stands (map : List (String × Notification)) (due : List Notification)
    (known : List Uuid) (board : Board) : Prop where
  map : board.world.state.notificationMap = map
  due : board.due = due
  known : known ⊆ board.issued

variable {map : List (String × Notification)} {due : List Notification} {known : List Uuid}

theorem Stands.weaken {fewer : List Uuid} (h : Stands map due known board)
    (hfewer : fewer ⊆ known) : Stands map due fewer board :=
  ⟨h.map, h.due, List.Subset.trans hfewer h.known⟩

theorem Stands.waits (h : Stands map due known board) (hrely : board.Waits moved) :
    Stands map due known moved :=
  ⟨by rw [hrely.state]; exact h.map, hrely.due.trans h.due,
    List.Subset.trans h.known hrely.issued⟩

theorem Stands.answer (h : Stands map due known board) (hop : op.sparesNotifications = true) :
    Stands map due known (semantics.answer op env board).2 := by
  refine ⟨?_, ?_, List.Subset.trans h.known (Machine.subset_issuedAfter _ _ _)⟩
  · show (World.answer op env board.world).2.state.notificationMap = map
    rw [World.answer_state, h.map]
    cases op <;> first | rfl | cases hop
  · show dueAfter board.due op = due
    rw [← h.due]
    cases op with
    | broadcast event =>
        cases event with
        | vpnStatus _ => rfl
        | notification _ => cases hop
    | _ => rfl

/-! ## Programs -/

/-- A program that leaves the notifications alone. -/
theorem notes_of_within {α : Type} {program : Async α}
    (hwithin : Within Op.sparesNotifications program) (h : Stands map due known board) :
    Notes program (fun _ => Stands map due known) board := by
  apply hwithin.ensures (I := Stands map due known)
  · exact fun op env moved hop hadmits => hadmits.2.1.answer hop
  · exact fun hrely hmoved => hmoved.waits hrely
  · exact fun hop _ hmoved => hmoved.answer hop
  · exact h

theorem readState_notes (h : Stands map due known board) :
    Notes (perform .readState) (fun state moved => Stands map due known moved ∧
      moved.world.state = state) board := by
  intro moved env hrely hadmits
  refine ⟨hadmits.2.1.answer rfl, fun later hlater => ?_⟩
  exact ⟨(h.waits hrely).waits hlater, hlater.state⟩

theorem writeState_notes {state : DaemonState} (h : Stands map due known board) :
    Notes (perform (.writeState state)) (fun _ => Stands state.notificationMap due known) board := by
  intro moved env hrely hadmits
  have hmoved := h.waits hrely
  refine ⟨fun notification hmem => ?_, fun later hlater => ?_⟩
  · exact (hadmits.2.1 notification hmem).answer nofun
  · have hwritten : Stands state.notificationMap due known
        (semantics.answer (.writeState state) env moved).2 := ⟨rfl, hmoved.due, hmoved.known⟩
    exact hwritten.waits hlater

theorem modifyState_notes (update : DaemonState → DaemonState)
    (change : List (String × Notification) → List (String × Notification))
    (hupdate : ∀ state, (update state).notificationMap = change state.notificationMap)
    (h : Stands map due known board) :
    Notes (Daemon.modifyState update) (fun _ => Stands (change map) due known) board := by
  refine .bind ((readState_notes h).mono fun state moved hmoved => ?_)
  refine (writeState_notes hmoved.1).mono fun _ later hlater => ?_
  rwa [hupdate, ← hmoved.2, hmoved.1.map] at hlater

theorem setVpnStatus_notes (vpnStatus : VpnStatus) (h : Stands map due known board) :
    Notes (Daemon.setVpnStatus vpnStatus) (fun _ => Stands map due known) board := by
  have hwritten : Notes (Daemon.modifyState (·.setVpnStatus vpnStatus))
      (fun _ => Stands map due known) board := modifyState_notes _ id (fun _ => rfl) h
  exact .bind (hwritten.mono fun _ _ hmoved => notes_of_within (within_perform rfl) hmoved)

/-- A notification whose id is of the four kinds is put into the map and announced. -/
theorem addNotification_notes {notification : Notification} (h : Stands map due known board)
    (hid : board.Allows notification.id) :
    Notes (Daemon.addNotification notification)
      (fun _ => Stands (insertNoted map notification) (due ++ [notification]) known) board := by
  intro read env hread hadmits
  refine ⟨hadmits.2.1.answer rfl, ?_⟩
  intro written env hwritten hadmits
  have hidWritten : written.Allows notification.id := (hid.waits hread).waits hwritten
  have hstands : Stands map due known written := (h.waits hread).waits hwritten
  refine ⟨fun other hother => (hadmits.2.1 other hother).answer nofun, ?_⟩
  intro announced env hannounced hadmits
  let state := read.world.state.addNotification notification
  have hkept : (semantics.answer (.writeState state) env written).2.Allows notification.id :=
    hidWritten.answer nofun
  have hidAnnounced : announced.Allows notification.id := hkept.waits hannounced
  have hmap : announced.world.state = state := hannounced.state
  have hdue : announced.due = due := hannounced.due.trans hstands.due
  refine ⟨fun other hother => ?_, fun later hlater => ?_⟩
  · rcases List.mem_append.mp hother with hother | hother
    · exact (hadmits.2.1 other hother).answer nofun
    · rw [List.mem_singleton.mp hother]
      exact hidAnnounced.answer nofun
  · have hadded : Stands (insertNoted map notification) (due ++ [notification]) known
        (semantics.answer (.broadcast (.notification notification)) env announced).2 := by
      refine ⟨?_, ?_, List.Subset.trans hstands.known hannounced.issued⟩
      · show announced.world.state.notificationMap = _
        rw [hmap, ← (h.waits hread).map]
        rfl
      · rw [← hdue]
        rfl
    exact hadded.waits hlater

/-- Between two events: the map has what is due. -/
def Complete (board : Board) : Prop := Tidy board.world.state.notificationMap board.due

theorem Stands.complete (h : Stands map due known board) (htidy : Tidy map due) :
    board.Complete := by
  rw [Complete, h.map, h.due]
  exact htidy

theorem stands_nil (board : Board) :
    Stands board.world.state.notificationMap board.due [] board :=
  ⟨rfl, rfl, List.nil_subset _⟩

theorem Complete.waits (h : board.Complete) (hrely : board.Waits moved) : moved.Complete :=
  ((stands_nil board).waits hrely).complete h

theorem complete_of_within {α : Type} {program : Async α}
    (hwithin : Within Op.sparesNotifications program) (h : board.Complete) :
    Notes program (fun _ => Complete) board :=
  (notes_of_within hwithin (stands_nil board)).mono fun _ _ hmoved => hmoved.complete h

/-- A first part that leaves the notifications alone. -/
theorem complete_bind {ε α β : Type} {first : Fallible ε α} {rest : α → Fallible ε β}
    (hwithin : Within Op.sparesNotifications first.run) (h : Stands map due known board)
    (htidy : Tidy map due)
    (hrest : ∀ value moved, Stands map due known moved →
      Notes (rest value).run (fun _ => Complete) moved) :
    Notes (first >>= rest).run (fun _ => Complete) board := by
  refine .exceptBind ((notes_of_within hwithin h).mono fun result moved hmoved => ?_)
  cases result with
  | error error => exact fun later hlater => (hmoved.waits hlater).complete htidy
  | ok value => exact hrest value moved hmoved

/-- A program that leaves the notifications alone adds nothing to what is due. -/
theorem due_of_within {α : Type} {program : Async α}
    (hwithin : Within Op.sparesNotifications program) (h : board.due = due) :
    Notes program (fun _ moved => moved.due = due) board :=
  (notes_of_within hwithin (stands_nil board)).mono fun _ _ hmoved => hmoved.due.trans h

theorem setVpnStatus_due (vpnStatus : VpnStatus) (h : board.due = due) :
    Notes (Daemon.setVpnStatus vpnStatus) (fun _ moved => moved.due = due) board :=
  (setVpnStatus_notes vpnStatus (stands_nil board)).mono fun _ _ hmoved => hmoved.due.trans h

theorem setVpnStatus_complete (vpnStatus : VpnStatus) (h : board.Complete) :
    Notes (Daemon.setVpnStatus vpnStatus) (fun _ => Complete) board :=
  (setVpnStatus_notes vpnStatus (stands_nil board)).mono fun _ _ hmoved => hmoved.complete h

theorem endSession_within (endReason : String) :
    Within Op.sparesNotifications (Daemon.endSession endReason).run :=
  .exceptBind (.adapt (VpnSessionStorage.endSession_within rfl fun _ => rfl))
    fun _ => .lift (within_perform rfl)

/-- The notification may be added to these. -/
structure Addable (due : List Notification) (notification : Notification) (board : Board) :
    Prop where
  allowed : board.Allows notification.id
  new : ∀ other ∈ due, other.id ≠ notification.id

theorem Addable.waits {notification : Notification} (h : Addable due notification board)
    (hrely : board.Waits moved) : Addable due notification moved :=
  ⟨h.allowed.waits hrely, h.new⟩

theorem Addable.answer {notification : Notification} (h : Addable due notification board)
    (hop : op.sparesNotifications = true) :
    Addable due notification (semantics.answer op env board).2 := by
  refine ⟨h.allowed.answer ?_, h.new⟩
  rintro id location rfl
  cases hop

theorem addNotification_complete {notification : Notification} (h : Stands map due known board)
    (htidy : Tidy map due) (hadd : Addable due notification board) :
    Notes (Daemon.addNotification notification) (fun _ => Complete) board :=
  (addNotification_notes h hadd.allowed).mono fun _ _ hmoved =>
    hmoved.complete (htidy.insert hadd.new)

/-- What is processed may come with a notification that is still to be added. -/
structure Adds {α : Type} (comesWith : α → Option Notification)
    (map : List (String × Notification)) (due : List Notification) (result : Except DbErr α)
    (board : Board) : Prop where
  stands : Stands map due [] board
  addable : ∀ processed, result = .ok processed → ∀ notification,
    comesWith processed = some notification → Addable due notification board

section Adds

variable {α : Type} {comesWith : α → Option Notification}

theorem Adds.error (h : Stands map due known board) (error : DbErr) :
    Adds comesWith map due (.error error) board := by
  refine ⟨h.weaken (List.nil_subset _), ?_⟩
  rintro _ ⟨⟩

theorem Adds.none {processed : α} (h : Stands map due known board)
    (hnone : comesWith processed = none) : Adds comesWith map due (.ok processed) board := by
  refine ⟨h.weaken (List.nil_subset _), ?_⟩
  rintro _ ⟨⟩ notification hsome
  rw [hnone] at hsome
  cases hsome

theorem Adds.some {processed : α} {notification : Notification} (h : Stands map due known board)
    (hsome : comesWith processed = some notification) (hadd : Addable due notification board) :
    Adds comesWith map due (.ok processed) board := by
  refine ⟨h.weaken (List.nil_subset _), ?_⟩
  rintro _ ⟨⟩ other hother
  rw [hsome] at hother
  cases hother
  exact hadd

end Adds

/-! ## Server statuses -/

theorem unnoted_notes {program : Fallible DbErr Unit} {vpnStatus : Option VpnStatus}
    (hwithin : Within Op.sparesNotifications program.run) (h : Stands map due [] board) :
    Notes (do
      program
      return { vpnStatus, notification := none } :
        Fallible DbErr VpnSessionStatusProcessed).run
      (Adds VpnSessionStatusProcessed.notification map due) board := by
  refine .exceptBind ((notes_of_within hwithin h).mono fun result moved hmoved => ?_)
  cases result with
  | error error => exact fun later hlater => .error (hmoved.waits hlater) error
  | ok _ => exact fun later hlater => .none (hmoved.waits hlater) rfl

/-- What a failed session is reported with. -/
def failedNotification (requestId : Uuid) (timestamp : DateTimeUtc) : Notification where
  id := "failed-" ++ requestId.toText
  message := "Server could not be provisioned, please try again later"
  notificationType := .serverFailed
  timestamp

/-- The row of a failed session is deleted before its notification is added. -/
theorem failed_notes {row : VpnSession} {requestId : Uuid}
    (h : Stands map due [requestId] board) (hrow : row.requestId = requestId.toText)
    (hnew : ∀ other ∈ due, other.id ≠ "failed-" ++ requestId.toText) :
    Notes (do
      ExceptT.mk (perform (.deleteVpnSession row.requestId))
      let timestamp ← ExceptT.lift (perform .utcNow)
      return {
        vpnStatus := some .disconnected
        notification := some {
          id := "failed-" ++ requestId.toText
          message := "Server could not be provisioned, please try again later"
          notificationType := .serverFailed
          timestamp } } : Fallible DbErr VpnSessionStatusProcessed).run
      (fun result moved => Adds VpnSessionStatusProcessed.notification map due result moved ∧
        ∀ processed, result = .ok processed → ∃ timestamp,
          processed.notification = some (failedNotification requestId timestamp)) board := by
  rw [hrow]
  refine .exceptBind ?_
  intro deleted env hdeleted hadmits
  refine ⟨hadmits.2.1.answer rfl, ?_⟩
  intro moved hmoved
  have hstands : Stands map due [requestId] moved := ((h.waits hdeleted).answer rfl).waits hmoved
  simp only [World.answer, World.statement] at hmoved ⊢
  cases hdb : env.dbErr with
  | some error =>
      intro later hlater
      refine ⟨.error (hstands.waits hlater) error, fun processed hresult => ?_⟩
      cases hresult
  | none =>
      simp only [hdb] at hmoved
      have hgone : VpnSession.hasId requestId.toText moved.world.vpnSession = false := by
        refine Bool.eq_false_iff.mpr fun hid => ?_
        exact absurd (hmoved.rows _ hid) (by simp [VpnSession.hasId, VpnSession.deleteById])
      have hallows : moved.Allows ("failed-" ++ requestId.toText) :=
        .failed (hstands.known (List.mem_singleton_self _)) hgone
      refine .liftBind ?_
      intro timed env htimed hadmits
      refine ⟨hadmits.2.1.answer rfl, ?_⟩
      intro later hlater last hlast
      have hwaits : moved.Waits last := htimed.trans (hlater.trans hlast)
      refine ⟨.some (hstands.waits hwaits) rfl ⟨hallows.waits hwaits, hnew⟩, ?_⟩
      rintro _ ⟨⟩
      exact ⟨env.now, rfl⟩

/-- The row that a server status is about, if it was found among these. -/
inductive Found (map : List (String × Notification)) (due : List Notification) (requestId : Uuid)
    (rows : List VpnSession) : Except DbErr (Option VpnSession) → Board → Prop
  | error {moved : Board} (hstands : Stands map due [] moved) (error : DbErr) :
      Found map due requestId rows (.error error) moved
  | none {moved : Board} (hstands : Stands map due [] moved)
      (hlookup : rows.find? (·.requestId = requestId.toText) = none) :
      Found map due requestId rows (.ok none) moved
  | some {moved : Board} {row : VpnSession} (hstands : Stands map due [requestId] moved)
      (hrow : row.requestId = requestId.toText)
      (hnew : ∀ other ∈ due, other.id ≠ "failed-" ++ requestId.toText) :
      Found map due requestId rows (.ok (some row)) moved

/-- Others leave the rows alone that are looked through. -/
theorem findUnmarkedById_notes (requestId : Uuid) (h : Stands map due [] board) :
    Notes (perform (.findUnmarkedById requestId))
      (Found map due requestId (VpnSession.unmarked board.world.vpnSession)) board := by
  intro found env hfound hadmits
  refine ⟨hadmits.2.1.answer rfl, fun moved hmoved => ?_⟩
  have hstands : Stands map due [] moved := ((h.waits hfound).answer rfl).waits hmoved
  simp only [World.answer, World.statement]
  cases hdb : env.dbErr with
  | some error => exact .error hstands error
  | none =>
      rw [← hfound.unmarked]
      cases hlookup : (VpnSession.unmarked found.world.vpnSession).find?
          (·.requestId = requestId.toText) with
      | none => exact .none hstands hlookup
      | some row =>
          obtain ⟨⟨hmem, -⟩, hrow⟩ := VpnSession.mem_of_currentById hlookup
          have hid : VpnSession.hasId requestId.toText found.world.vpnSession = true :=
            hrow ▸ VpnSession.hasId_of_mem hmem
          have hissued : requestId ∈ moved.issued := hmoved.issued (hadmits.2.2 _ hid)
          refine .some ⟨hstands.map, hstands.due, List.cons_subset.mpr
            ⟨hissued, List.nil_subset _⟩⟩ hrow ?_
          intro other hother
          rw [← (h.waits hfound).due] at hother
          exact (hadmits.2.1 other hother).ne_failed_of_hasId hid

theorem updatedServerStatus_notes (status : VpnSessionStatus) (h : Stands map due [] board) :
    Notes (VpnSessionStorage.updatedServerStatus status).run
      (Adds VpnSessionStatusProcessed.notification map due) board := by
  refine .exceptBind ((findUnmarkedById_notes _ h).mono fun result moved hfound => ?_)
  cases hfound with
  | error hstands error => exact fun later hlater => .error (hstands.waits hlater) error
  | none hstands hlookup => exact fun later hlater => .none (hstands.waits hlater) rfl
  | some hstands hrow hnew =>
      cases status with
      | failed failed => exact (failed_notes hstands hrow hnew).mono fun _ _ hadds => hadds.1
      | _ => exact unnoted_notes (within_perform rfl) (hstands.weaken (List.nil_subset _))

/-- A session that failed is reported if its row is still unmarked. -/
theorem handleVpnSessionStatus_announces {failed : Failed} {row : VpnSession}
    (hrow : (VpnSession.unmarked board.world.vpnSession).find?
      (·.requestId = failed.requestId.toText) = some row) :
    Notes (Daemon.handleVpnSessionStatus (.failed failed)) (fun _ moved => ∃ timestamp,
      moved.due = board.due ++ [failedNotification failed.requestId timestamp]) board := by
  have hupdated : Notes (VpnSessionStorage.updatedServerStatus (.failed failed)).run
      (fun result moved =>
        Adds VpnSessionStatusProcessed.notification board.world.state.notificationMap board.due
          result moved ∧
        ∀ processed, result = .ok processed → ∃ timestamp,
          processed.notification = some (failedNotification failed.requestId timestamp))
      board := by
    refine .exceptBind ((findUnmarkedById_notes failed.requestId (stands_nil board)).mono
      fun result moved hfound => ?_)
    cases hfound with
    | error hstands error =>
        exact fun later hlater => ⟨.error (hstands.waits hlater) error, nofun⟩
    | none hstands hlookup =>
        rw [hlookup] at hrow
        cases hrow
    | some hstands hrow hnew => exact failed_notes hstands hrow hnew
  refine .bind (hupdated.mono ?_)
  rintro result moved ⟨⟨hstands, hadds⟩, hnotification⟩
  cases result with
  | error error => trivial
  | ok processed =>
      obtain ⟨timestamp, hsome⟩ := hnotification processed rfl
      have hallows := (hadds processed rfl _ hsome).allowed
      have hnothing : Within Op.sparesNotifications (Program.pure () : Async Unit) := trivial
      refine (Daemon.statusProcessed_ensures (J := fun later => later.due =
        board.due ++ [failedNotification failed.requestId timestamp]) processed ?_ ?_ ?_ ?_
        ?_).mono fun _ _ hdue => ⟨timestamp, hdue⟩
      · exact fun later hdue => due_of_within hnothing hdue
      · intro notification heq
        obtain rfl := Option.some.inj (hsome.symm.trans heq)
        exact (addNotification_notes hstands hallows).mono fun _ _ hadded => hadded.due
      · intro hnone
        rw [hsome] at hnone
        cases hnone
      · exact fun newVpnStatus _ _ => setVpnStatus_due newVpnStatus
      · intro newVpnStatus later hdue
        apply due_of_within _ hdue
        unfold Daemon.updateTunnelOnNewStatus
        split
        · exact within_perform rfl
        · trivial

theorem handleVpnSessionStatus_complete (status : VpnSessionStatus) (h : board.Complete) :
    Notes (Daemon.handleVpnSessionStatus status) (fun _ => Complete) board := by
  refine .bind ((updatedServerStatus_notes status (stands_nil board)).mono ?_)
  rintro result moved ⟨hstands, hadds⟩
  cases result with
  | error error => trivial
  | ok processed =>
      apply Daemon.statusProcessed_ensures processed
      · intro later hlater
        have hwithin : Within Op.sparesNotifications (.pure () : Async Unit) := trivial
        exact complete_of_within hwithin hlater
      · exact fun _ hnotification =>
          addNotification_complete hstands h (hadds processed rfl _ hnotification)
      · exact fun _ => hstands.complete h
      · exact fun newVpnStatus _ _ => setVpnStatus_complete newVpnStatus
      · intro newVpnStatus last hlast
        apply complete_of_within _ hlast
        unfold Daemon.updateTunnelOnNewStatus
        split
        · exact within_perform rfl
        · trivial

/-! ## Errors of the tunnel -/

end Board

/-- The id under which an error of the tunnel is filed. -/
def errorId (rows : List VpnSession) : String :=
  match VpnSession.current rows with
  | some row => "ce-" ++ row.requestId
  | none => "unknown"

/-- The event does not add a notification whose id is already in use. -/
def FilesAnew (due : List Notification) (rows : List VpnSession) : DaemonEvent → Prop
  | .tunnelStateTransition (.error _) => ∀ notification ∈ due, notification.id ≠ errorId rows
  | _ => True

theorem errorId_of_unmarked {rows moved : List VpnSession}
    (h : VpnSession.unmarked moved = VpnSession.unmarked rows) : errorId moved = errorId rows := by
  rw [errorId, errorId, VpnSession.current, h]
  rfl

/-- Others do not change the id of the next error. -/
theorem filesAnew_of_unmarked {due : List Notification} {rows moved : List VpnSession}
    {event : DaemonEvent} (h : FilesAnew due rows event)
    (hunmarked : VpnSession.unmarked moved = VpnSession.unmarked rows) :
    FilesAnew due moved event := by
  cases event with
  | tunnelStateTransition transition =>
      cases transition with
      | error errorState =>
          rw [FilesAnew, errorId_of_unmarked hunmarked]
          exact h
      | _ => trivial
  | _ => trivial

namespace Board

variable {board : Board} {map : List (String × Notification)} {due : List Notification}

/-- What an error of the tunnel is reported with. -/
def errorNotification (id : String) (errorState : ErrorState) (timestamp : DateTimeUtc) :
    Notification where
  id
  message := VpnSessionStorage.messageFromError errorState
  notificationType := .clientFailed
  timestamp

/-- An error has an id of its own kind. -/
theorem allows_errorId (rows : List VpnSession) (board : Board) : board.Allows (errorId rows) := by
  unfold errorId
  split
  · exact .clientError _
  · exact .unknown

theorem ofError_notes {id : String} {errorState : ErrorState} (h : Stands map due [] board) :
    Notes (do
      let timestamp ← ExceptT.lift (perform .utcNow)
      return .ofError id errorState timestamp :
        Fallible DbErr TunnelTransitionProcessed).run
      (fun result moved => Stands map due [] moved ∧ ∀ processed, result = .ok processed →
        ∃ timestamp, processed = .ofError id errorState timestamp) board := by
  refine .liftBind ((notes_of_within (within_perform rfl) h).mono
    fun timestamp moved hmoved later hlater => ⟨hmoved.waits hlater, ?_⟩)
  rintro _ ⟨⟩
  exact ⟨timestamp, rfl⟩

/-- An error of the tunnel is processed with its notification. -/
theorem tunnelError_notes (errorState : ErrorState) (currentState : VpnStatus)
    (h : Stands map due [] board) :
    Notes (VpnSessionStorage.tunnelStateTransition (.error errorState) currentState).run
      (fun result moved => Stands map due [] moved ∧ ∀ processed, result = .ok processed →
        ∃ timestamp, processed = .ofError (errorId board.world.vpnSession) errorState timestamp)
      board := by
  refine .exceptBind ?_
  intro found env hfound hadmits
  refine ⟨hadmits.2.1.answer rfl, ?_⟩
  intro moved hmoved
  have hstands : Stands map due [] moved := ((h.waits hfound).answer rfl).waits hmoved
  rw [← errorId_of_unmarked hfound.unmarked]
  simp only [World.answer, World.statement]
  cases hdb : env.dbErr with
  | some error =>
      refine fun later hlater => ⟨hstands.waits hlater, ?_⟩
      rintro _ ⟨⟩
  | none =>
      cases hcurrent : VpnSession.current found.world.vpnSession with
      | none =>
          simp only [errorId, hcurrent]
          simp only [VpnSession.current] at hcurrent
          simp only [hcurrent, Program.EnsuresRest]
          exact ofError_notes hstands
      | some row =>
          simp only [errorId, hcurrent]
          simp only [VpnSession.current] at hcurrent
          simp only [hcurrent, Program.EnsuresRest]
          exact ofError_notes hstands

/-- Nothing was processed, or without a notification. -/
def Uneventful : Except DbErr TunnelTransitionProcessed → Prop
  | .ok processed => processed.notification = none
  | .error _ => True

theorem uneventful_notes {program : Fallible DbErr TunnelTransitionProcessed}
    (h : Stands map due [] board) (hwithin : Within Op.sparesNotifications program.run)
    (hreturns : Program.Returns Uneventful program.run) :
    Notes program.run (Adds TunnelTransitionProcessed.notification map due) board := by
  refine ((notes_of_within hwithin h).and_returns hreturns).mono ?_
  rintro result moved ⟨hmoved, hnone⟩
  cases result with
  | error error => exact .error hmoved error
  | ok processed => exact .none hmoved hnone

/-- A tunnel that is connected notes it in the row. -/
theorem connected_notes {row : VpnSession} (h : Stands map due [] board) :
    Notes (do
      ExceptT.mk (perform (.updateVpnSession row.requestId
        (VpnSessionStorage.statusPatch .clientConnected)))
      let since ← ExceptT.lift (perform .utcNow)
      let requestId ← Fallible.parsed row.requestId
      let vpnSessionId ← Fallible.parsed (← Fallible.unwrap row.sessionUuid)
      return {
        TunnelTransitionProcessed.onlyStatus
          (.connected row.toLocation since) with
        clientConnected := some { requestId, vpnSessionId } } :
        Fallible DbErr TunnelTransitionProcessed).run
      (Adds TunnelTransitionProcessed.notification map due) board := by
  have hparsed (text : String) :
      Within Op.sparesNotifications (Fallible.parsed text : Fallible DbErr Uuid).run := by
    unfold Fallible.parsed
    split <;> trivial
  refine uneventful_notes h ?_ ?_
  · refine .exceptBind (within_perform rfl) fun _ => ?_
    refine .exceptBind (.lift (within_perform rfl)) fun since => ?_
    refine .exceptBind (hparsed _) fun requestId => ?_
    refine .exceptBind ?_ fun text => .exceptBind (hparsed _) fun _ => trivial
    unfold Fallible.unwrap
    split <;> trivial
  · have herror (error : DbErr) : Uneventful (.error error) := trivial
    refine .exceptRest _ herror fun _ => .exceptRest _ herror fun since => ?_
    refine .exceptRest _ herror fun requestId => .exceptRest _ herror fun text => ?_
    exact .exceptRest _ herror fun vpnSessionId => rfl

theorem onlyStatus_notes {vpnStatus : VpnStatus} (h : Stands map due [] board) :
    Notes (return TunnelTransitionProcessed.onlyStatus vpnStatus :
      Fallible DbErr TunnelTransitionProcessed).run
      (Adds TunnelTransitionProcessed.notification map due) board :=
  uneventful_notes h trivial rfl

/-- The other transitions come without a notification. -/
theorem tunnelMoved_notes {transition : TunnelStateTransition} (currentState : VpnStatus)
    (h : Stands map due [] board)
    (hmoved : ∀ errorState, transition ≠ .error errorState) :
    Notes (VpnSessionStorage.tunnelStateTransition transition currentState).run
      (Adds TunnelTransitionProcessed.notification map due) board := by
  refine .exceptBind ((notes_of_within (within_perform rfl) h).mono
    fun result moved hstands => ?_)
  cases result with
  | error error => exact fun later hlater => .error (hstands.waits hlater) error
  | ok found =>
      cases found with
      | none =>
          cases transition with
          | disconnecting action =>
              cases currentState with
              | disconnecting location => exact onlyStatus_notes hstands
              | _ => trivial
          | error errorState => exact absurd rfl (hmoved errorState)
          | _ => exact onlyStatus_notes hstands
      | some row =>
          cases transition with
          | connected => exact connected_notes hstands
          | error errorState => exact absurd rfl (hmoved errorState)
          | _ => exact onlyStatus_notes hstands

theorem tunnelStateTransition_notes (transition : TunnelStateTransition) (currentState : VpnStatus)
    (h : Stands map due [] board)
    (hfiles : FilesAnew due board.world.vpnSession (.tunnelStateTransition transition)) :
    Notes (VpnSessionStorage.tunnelStateTransition transition currentState).run
      (Adds TunnelTransitionProcessed.notification map due) board := by
  cases transition with
  | error errorState =>
      refine (tunnelError_notes errorState currentState h).mono ?_
      rintro result moved ⟨hstands, hok⟩
      cases result with
      | error error => exact .error hstands error
      | ok processed =>
          obtain ⟨timestamp, rfl⟩ := hok processed rfl
          exact .some hstands rfl ⟨allows_errorId _ moved, hfiles⟩
  | disconnected | connecting | connected | disconnecting _ =>
      exact tunnelMoved_notes currentState h nofun

/-- An error of the tunnel is reported, whether its id is in use or not. -/
theorem handleTunnelStateTransition_announces (errorState : ErrorState) (board : Board) :
    Notes (Daemon.handleTunnelStateTransition (.error errorState)) (fun _ moved => ∃ timestamp,
      moved.due = board.due ++
        [errorNotification (errorId board.world.vpnSession) errorState timestamp]) board := by
  refine .bind ?_
  intro read env hread hadmits
  refine ⟨hadmits.2.1.answer rfl, ?_⟩
  intro moved hmoved
  have hwaits : board.Waits moved := hread.trans hmoved
  rw [← hwaits.due, ← errorId_of_unmarked hwaits.unmarked]
  refine .bind ((tunnelError_notes errorState _ (stands_nil moved)).mono ?_)
  rintro result later ⟨hstands, hok⟩
  cases result with
  | error error => trivial
  | ok processed =>
      obtain ⟨timestamp, rfl⟩ := hok processed rfl
      apply Daemon.transitionProcessed_ensures
        (I := Stands moved.world.state.notificationMap moved.due [])
        (J := fun last => last.due = moved.due ++
          [errorNotification (errorId moved.world.vpnSession) errorState timestamp])
        (.ofError (errorId moved.world.vpnSession) errorState timestamp) _ _ _ _ _ _ hstands
      · exact fun _ _ hlast => notes_of_within (within_perform rfl) hlast
      · exact fun _ _ hlast => notes_of_within (within_perform rfl) hlast
      · rintro _ ⟨⟩ last hlast
        exact (addNotification_notes hlast (allows_errorId _ last)).mono fun _ _ hadded =>
          hadded.due
      · exact nofun
      · exact fun reason _ hdue => due_of_within (endSession_within reason) hdue
      · exact fun last hdue => (setVpnStatus_due _ hdue).mono fun _ _ hkept => ⟨timestamp, hkept⟩

theorem handleTunnelStateTransition_complete (transition : TunnelStateTransition)
    (h : board.Complete)
    (hfiles : FilesAnew board.due board.world.vpnSession (.tunnelStateTransition transition)) :
    Notes (Daemon.handleTunnelStateTransition transition) (fun _ => Complete) board := by
  refine .bind ?_
  intro read env hread hadmits
  refine ⟨hadmits.2.1.answer rfl, ?_⟩
  intro moved hmoved
  have hwaits : board.Waits moved := hread.trans hmoved
  have hcomplete : moved.Complete := h.waits hwaits
  have hnew : FilesAnew moved.due moved.world.vpnSession (.tunnelStateTransition transition) := by
    rw [hwaits.due]
    exact filesAnew_of_unmarked hfiles hwaits.unmarked
  refine .bind ((tunnelStateTransition_notes transition _ (stands_nil moved) hnew).mono ?_)
  rintro result later ⟨hstands, hadds⟩
  cases result with
  | error error => trivial
  | ok processed =>
      let Pending (board : Board) : Prop :=
        Stands moved.world.state.notificationMap moved.due [] board ∧
          ∀ notification, processed.notification = some notification →
            Addable moved.due notification board
      have hquiet {op : Op} (hop : op.sparesNotifications = true) {last : Board}
          (hlast : Pending last) : Notes (perform op) (fun _ => Pending) last := by
        intro quiet env hquiet hadmits
        refine ⟨hadmits.2.1.answer hop, fun final hfinal => ⟨?_, fun notification hsome => ?_⟩⟩
        · exact ((hlast.1.waits hquiet).answer hop).waits hfinal
        · exact (((hlast.2 notification hsome).waits hquiet).answer hop).waits hfinal
      have hpending : Pending later := ⟨hstands, hadds processed rfl⟩
      apply Daemon.transitionProcessed_ensures (I := Pending) (J := Complete) processed
        _ _ _ _ _ _ hpending
      · exact fun _ _ => hquiet rfl
      · exact fun _ _ => hquiet rfl
      · exact fun notification hnotification last hlast =>
          addNotification_complete hlast.1 hcomplete (hlast.2 notification hnotification)
      · exact fun _ last hlast => hlast.1.complete hcomplete
      · exact fun reason _ => complete_of_within (endSession_within reason)
      · exact fun _ => setVpnStatus_complete _

/-! ## Connecting -/

/-- A generated id is in no notification that is due. -/
theorem newUuid_notes (board : Board) :
    Notes (perform .newUuid) (fun requestId moved =>
      Stands board.world.state.notificationMap board.due [requestId] moved ∧
        ∀ other ∈ board.due, other.id ≠ requestId.toText ∧
          other.id ≠ "failed-" ++ requestId.toText) board := by
  intro moved env hmoved hadmits
  obtain ⟨hallowed, hnamed, -⟩ := hadmits
  have hfresh : env.uuid ∉ moved.issued := by simpa [Machine.allowed] using hallowed
  refine ⟨hnamed.answer rfl, fun later hlater => ⟨?_, fun other hother => ?_⟩⟩
  · have hissued : env.uuid ∈ (semantics.answer .newUuid env moved).2.issued :=
      List.mem_cons_self ..
    have hstands : Stands board.world.state.notificationMap board.due [] later :=
      (((stands_nil board).waits hmoved).answer rfl).waits hlater
    refine ⟨hstands.map, hstands.due, ?_⟩
    exact List.cons_subset.mpr ⟨hlater.issued hissued, List.nil_subset _⟩
  · rw [← hmoved.due] at hother
    exact (hnamed other hother).ne_of_fresh hfresh

theorem insertVpnSession_notes {requestId : Uuid} {location : Location}
    (h : Stands map due [requestId] board)
    (hnew : ∀ other ∈ due, other.id ≠ "failed-" ++ requestId.toText) :
    Notes (perform (.insertVpnSession requestId location))
      (fun _ => Stands map due [requestId]) board := by
  intro moved env hmoved hadmits
  let op : Op := .insertVpnSession requestId location
  have hmovedStands := h.waits hmoved
  have hnamed : ∀ other ∈ moved.due,
      NotificationId (World.answer op env moved.world).2.vpnSession moved.issued other.id := by
    intro other hother
    have hid := hadmits.2.1 other hother
    have hne : other.id ≠ "failed-" ++ requestId.toText := hnew other (hmovedStands.due ▸ hother)
    refine World.checked_ensures
      (P := fun next => NotificationId next.vpnSession moved.issued other.id) hid fun _ _ hnext => ?_
    split at hnext <;> cases hnext
    exact hid.insert hne
  refine ⟨hnamed, fun later hlater => ?_⟩
  have hinserted : Stands map due [requestId] (semantics.answer op env moved).2 := by
    refine ⟨?_, hmovedStands.due, hmovedStands.known⟩
    show (World.answer op env moved.world).2.state.notificationMap = map
    rw [World.answer_state rfl]
    exact hmovedStands.map
  exact hinserted.waits hlater

/-- What a refused session is reported with. -/
def refusedNotification (requestId : Uuid) (error : VpnSessionError) (timestamp : DateTimeUtc) :
    Notification where
  id := requestId.toText
  message := DaemonState.messageOfError error
  notificationType := .serverFailed
  timestamp

/-- A connect added the notification that the server refused, or did not report the status
of a refusal. -/
inductive Connects (map : List (String × Notification)) (due : List Notification) :
    Except DaemonError VpnStatus → Board → Prop
  | silent {result : Except DaemonError VpnStatus} {moved : Board}
      (hstands : Stands map due [] moved) (hresult : result ≠ .ok .disconnected) :
      Connects map due result moved
  | refused {moved : Board} (requestId : Uuid) (error : VpnSessionError) (timestamp : DateTimeUtc)
      (hstands : Stands (insertNoted map (refusedNotification requestId error timestamp))
        (due ++ [refusedNotification requestId error timestamp]) [] moved)
      (hnew : ∀ other ∈ due, other.id ≠ requestId.toText) :
      Connects map due (.ok .disconnected) moved

theorem Connects.silentlyWaits {result : Except DaemonError VpnStatus}
    (h : Stands map due known board) (hresult : result ≠ .ok .disconnected)
    (hrely : board.Waits moved) : Connects map due result moved :=
  .silent ((h.weaken (List.nil_subset _)).waits hrely) hresult

/-- The notification of a refused session is put into the map twice. -/
theorem refused_notes {requestId : Uuid} (location : Location) {error : VpnSessionError}
    {timestamp : DateTimeUtc} (h : Stands map due [requestId] board)
    (hnew : ∀ other ∈ due, other.id ≠ requestId.toText) :
    Notes (do
      let state ← ExceptT.lift (perform .readState)
      let (notification, state) :=
        state.addNotificationForFailedNewSession requestId location error timestamp
      ExceptT.lift (perform (.writeState state))
      ExceptT.lift (Daemon.addNotification notification)
      return .disconnected : Fallible DaemonError VpnStatus).run (Connects map due) board := by
  refine .liftBind ((readState_notes h).mono fun state moved hmoved => ?_)
  obtain ⟨hstands, rfl⟩ := hmoved
  refine .liftBind ((writeState_notes hstands).mono fun _ written hwritten => ?_)
  let notification := refusedNotification requestId error timestamp
  have hfirst : Stands (insertNoted map notification) due [requestId] written := by
    rw [← hstands.map]
    exact hwritten
  have hid : written.Allows notification.id := .request (hwritten.known (List.mem_singleton_self _))
  refine .liftBind ((addNotification_notes hfirst hid).mono fun _ last hlast => ?_)
  rw [insertNoted_twice] at hlast
  exact fun final hfinal => .refused requestId error timestamp
    ((hlast.weaken (List.nil_subset _)).waits hfinal) hnew

/-- A part of connecting that leaves the notifications alone. -/
theorem connects_bind {ε α : Type} {first : Fallible ε α} {f : ε → DaemonError}
    {rest : α → Fallible DaemonError VpnStatus}
    (hwithin : Within Op.sparesNotifications first.run) (h : Stands map due known board)
    (hrest : ∀ value moved, Stands map due known moved →
      Notes (rest value).run (Connects map due) moved) :
    Notes (ExceptT.adapt f first >>= rest).run (Connects map due) board := by
  refine .exceptBind (.adapt ((notes_of_within hwithin h).mono fun result moved hmoved => ?_))
  cases result with
  | error error =>
      refine fun later hlater => .silentlyWaits hmoved ?_ hlater
      rintro ⟨⟩
  | ok value => exact hrest value moved hmoved

/-- A new session has an id that is in no notification. -/
theorem newSession_notes (location : Location) (board : Board) :
    Notes (VpnSessionStorage.newSession location).run (fun result moved =>
      Stands board.world.state.notificationMap board.due result.toOption.toList moved ∧
        ∀ requestId, result = .ok requestId → ∀ other ∈ board.due, other.id ≠ requestId.toText)
      board := by
  refine .liftBind ((newUuid_notes board).mono fun requestId moved hmoved => ?_)
  obtain ⟨hstands, hnew⟩ := hmoved
  refine .exceptBind ((insertVpnSession_notes hstands fun other hother => (hnew other hother).2).mono
    fun result later hlater => ?_)
  cases result with
  | error error =>
      refine fun last hlast => ⟨(hlater.waits hlast).weaken (List.nil_subset _), ?_⟩
      rintro _ ⟨⟩
  | ok _ =>
      refine fun last hlast => ⟨hlater.waits hlast, ?_⟩
      rintro _ ⟨⟩ other hother
      exact (hnew other hother).1

theorem onConnectInner_notes (location : Location) (board : Board) :
    Notes (Daemon.onConnectInner location).run
      (Connects board.world.state.notificationMap board.due) board := by
  refine .liftBind ((notes_of_within (within_perform rfl) (stands_nil board)).mono
    fun state first hfirst => ?_)
  split
  · refine fun later hlater => .silentlyWaits hfirst ?_ hlater
    rintro ⟨⟩
  rw [← hfirst.map, ← hfirst.due]
  refine .exceptBind (.adapt ((newSession_notes location first).mono fun result moved hmoved => ?_))
  cases result with
  | error error =>
      refine fun later hlater => .silentlyWaits hmoved.1 ?_ hlater
      rintro ⟨⟩
  | ok requestId =>
      obtain ⟨hstands, hnew⟩ := hmoved
      refine connects_bind (DeviceStorage.getDeviceUniqueId_within rfl) hstands
        fun deviceUniqueId moved hmoved => ?_
      refine .liftBind ((notes_of_within (within_perform rfl) hmoved).mono
        fun _ moved hmoved => ?_)
      refine .liftBind ((notes_of_within (within_perform rfl) hmoved).mono
        fun reply moved hmoved => ?_)
      cases reply with
      | ok accepted =>
          refine connects_bind (within_perform rfl) hmoved fun _ moved hmoved => ?_
          refine .liftBind ((modifyState_notes (·.accepted location) id (fun _ => rfl)
            hmoved).mono fun _ last hlast => ?_)
          refine fun later hlater => .silentlyWaits hlast ?_ hlater
          rintro ⟨⟩
      | error error =>
          refine connects_bind (within_perform rfl) hmoved fun _ moved hmoved => ?_
          refine .liftBind ((notes_of_within (within_perform rfl) hmoved).mono
            fun timestamp moved hmoved => ?_)
          exact refused_notes location hmoved (hnew requestId rfl)

/-- Who is told that a connect left the daemon disconnected finds a notification. -/
theorem onConnectInner_announces (location : Location) (board : Board) :
    Notes (Daemon.onConnectInner location).run (fun result moved => result = .ok .disconnected →
      ∃ requestId error timestamp,
        moved.due = board.due ++ [refusedNotification requestId error timestamp]) board := by
  refine (onConnectInner_notes location board).mono fun result moved hconnects hresult => ?_
  cases hconnects with
  | silent hstands hother => exact absurd hresult hother
  | refused requestId error timestamp hstands hnew =>
      exact ⟨requestId, error, timestamp, hstands.due⟩

theorem onConnectInner_complete (location : Location) (h : board.Complete) :
    Notes (Daemon.onConnectInner location).run (fun _ => Complete) board := by
  refine (onConnectInner_notes location board).mono fun result moved hconnects => ?_
  cases hconnects with
  | silent hstands hother => exact hstands.complete h
  | refused requestId error timestamp hstands hnew => exact hstands.complete (h.insert hnew)

/-! ## Every event -/

theorem onDisconnectInner_complete (endReason : String) (h : board.Complete) :
    Notes (Daemon.onDisconnectInner endReason).run (fun _ => Complete) board := by
  have hcommand : Within Op.sparesNotifications Daemon.tunnelCommandOnDisconnect := by
    refine .bind (within_perform rfl) fun state => ?_
    split <;> first | trivial | exact within_perform rfl
  refine .liftBind ((complete_of_within hcommand h).mono fun _ moved hmoved => ?_)
  refine .exceptBind ((complete_of_within (endSession_within endReason) hmoved).mono
    fun result later hlater => ?_)
  cases result with
  | error error => exact fun last hlast => hlater.waits hlast
  | ok _ =>
      refine .liftBind ((readState_notes (stands_nil later)).mono fun state read hread => ?_)
      obtain ⟨hstands, rfl⟩ := hread
      refine .liftBind ((writeState_notes hstands).mono fun _ written hwritten => ?_)
      have hkept : written.Complete := hwritten.complete (by
        show Tidy read.world.state.notificationMap later.due
        rw [hstands.map]
        exact hlater)
      refine .liftBind ((complete_of_within (within_perform rfl) hkept).mono fun _ last hlast => ?_)
      exact fun final hfinal => hlast.waits hfinal

/-- An acknowledgement is for the notifications of its id. -/
theorem onAckNotification_complete (id : String) (h : Tidy board.world.state.notificationMap due)
    (hdue : board.due = due.filter (·.id ≠ id)) :
    Notes (Daemon.onAckNotification id) (fun _ => Complete) board := by
  have hremoved :
      Notes (Daemon.modifyState (·.removeNotification id)) (fun _ => Complete) board := by
    refine (modifyState_notes _ (·.filter (·.1 ≠ id)) (fun _ => rfl) (stands_nil board)).mono
      fun _ moved hmoved => hmoved.complete ?_
    rw [hdue]
    exact h.remove id
  exact .bind (hremoved.mono fun _ _ hmoved => complete_of_within (within_perform rfl) hmoved)

/-- Every handler adds and removes what is added to and removed from what is due. -/
theorem handleEvent_complete (event : DaemonEvent)
    (h : Tidy board.world.state.notificationMap due) (hdue : board.due = acknowledged due event)
    (hfiles : FilesAnew due board.world.vpnSession event) :
    Notes (Daemon.handleEvent event) (fun _ => Complete) board := by
  have hsame (hkept : acknowledged due event = due) : board.Complete := by
    rw [Complete, hdue, hkept]
    exact h
  cases event with
  | vpnSessionStatus status => exact handleVpnSessionStatus_complete status (hsame rfl)
  | tunnelStateTransition transition =>
      refine handleTunnelStateTransition_complete transition (hsame rfl) ?_
      rw [hdue]
      exact hfiles
  | shutdown =>
      exact .bind ((onDisconnectInner_complete _ (hsame rfl)).mono
        fun _ _ hmoved => fun _ hlater => hmoved.waits hlater)
  | command command =>
      cases command with
      | ackNotification id => exact onAckNotification_complete id h hdue
      | connect location =>
          refine .bind ((complete_of_within (within_perform rfl) (hsame rfl)).mono
            fun _ moved hmoved => ?_)
          exact .bind ((onConnectInner_complete location hmoved).mono
            fun _ _ hlater => complete_of_within (within_perform rfl) hlater)
      | disconnect =>
          exact .bind ((onDisconnectInner_complete _ (hsame rfl)).mono
            fun _ _ hmoved => complete_of_within (within_perform rfl) hmoved)
      | accountSignIn _ | accountSignOut =>
          refine complete_of_within (.bind (within_perform rfl) fun state => ?_) (hsame rfl)
          split <;> exact within_perform rfl
      | getVpnStatus | getNotifications =>
          exact complete_of_within (.bind (within_perform rfl) fun _ => within_perform rfl)
            (hsame rfl)

/-- A new process has no notifications. -/
theorem startup_complete {codecs : Codecs} (h : Stands [] [] [] board) :
    Notes (Machine.startup codecs) (fun _ => Complete) board := by
  have hinit : Within Op.sparesNotifications (DeviceStorage.init codecs).run :=
    DeviceStorage.init_within codecs fun op hop => by
      cases op <;> first | rfl | cases hop
  have hcreated : Notes (createDaemon codecs).run (fun _ => Complete) board := by
    refine complete_bind hinit h tidy_nil fun _ moved hmoved => ?_
    refine complete_bind (.adapt (.exceptBind (within_perform rfl) fun _ => trivial)) hmoved
      tidy_nil fun token moved hmoved => ?_
    refine complete_bind (.lift (within_perform rfl)) hmoved tidy_nil fun _ moved hmoved => ?_
    refine complete_bind (.adapt (within_perform rfl)) hmoved tidy_nil fun _ moved hmoved => ?_
    exact .lift ((writeState_notes hmoved).mono fun _ _ hlast => hlast.complete tidy_nil)
  refine .bind (hcreated.mono fun result moved hmoved => ?_)
  cases result with
  | ok _ => exact fun later hlater => hmoved.waits hlater
  | error error => trivial

end Board

/-! ## Runs -/

theorem mem_of_mem_acknowledged {due : List Notification} {event : DaemonEvent}
    {notification : Notification} (h : notification ∈ acknowledged due event) :
    notification ∈ due := by
  unfold acknowledged at h
  split at h
  · exact List.mem_of_mem_filter h
  · exact h

/-- No error of the tunnel is handled while a notification with its id is due. -/
def FilesErrorsAnew (noted : Noted) : MachineLabel → Prop
  | .take => ∀ event ∈ noted.machine.queue.head?,
      FilesAnew noted.due noted.machine.world.vpnSession event
  | _ => True

variable {codecs : Codecs} {source target : Noted} {machine : Machine}

/-- The loop keeps its terms, and returns with a map that has what is due. -/
structure Kept (codecs : Codecs) (noted : Noted) : Prop where
  reachable : (Machine.system codecs).Reachable noted.machine
  named : noted.board.Named
  loop : Board.Notes noted.machine.loop (fun _ => Board.Complete) noted.board

theorem known_of_reachable {noted : Noted} (h : (Machine.system codecs).Reachable noted.machine) :
    noted.board.Known := by
  obtain ⟨fresh, haccounted⟩ := Machine.exists_accounted h
  exact haccounted.kept.known

/-- Whoever is not the loop lets it wait. -/
theorem waits_of_aside {label : MachineLabel}
    (h : (Machine.system codecs).Reachable source.machine) (haside : source.machine.Aside label)
    (hstep : Machine.step codecs source.machine label = some machine) :
    source.board.Waits (Noted.board { machine, due := source.due }) := by
  have hstate := haside.state_eq h hstep
  have hunmarked := Machine.unmarked_of_step h hstep haside.not_loop
  have hsame (hrows : machine.world.vpnSession = source.machine.world.vpnSession)
      (hissued : machine.issued = source.machine.issued) :
      source.board.Waits (Noted.board { machine, due := source.due }) := by
    refine ⟨hstate, rfl, ?_, fun id hid => ?_, hunmarked⟩
    · exact fun id hid => (hissued ▸ hid : id ∈ machine.issued)
    · exact (hrows ▸ hid : VpnSession.hasId id source.machine.world.vpnSession = true)
  cases Machine.steps_of_step hstep with
  | restart | take | loop => exact haside.elim
  | post | ready | start | serve | reclaim => exact hsame rfl rfl
  | @job index env job op resume hjob hprogram hallowed =>
      have hwithin := Machine.jobs_within h job (List.mem_of_getElem? hjob)
      rw [hprogram] at hwithin
      refine ⟨hstate, rfl, ?_, fun id hid => ?_, hunmarked⟩
      · show _ ⊆ (Machine.settle _ _ _).issued
        rw [Machine.settle_issued]
        exact Machine.subset_issuedAfter _ _ _
      · replace hid : VpnSession.hasId id (Machine.settle _ _ _).world.vpnSession = true := hid
        rw [Machine.settle_world] at hid
        refine VpnSession.hasId_iff.mpr ((World.answer_requestIds ?_).subset
          (VpnSession.hasId_iff.mp hid))
        rintro other location rfl
        cases hwithin.1

theorem Kept.step {label : MachineLabel} (h : source.Kept codecs)
    (hfiles : source.FilesErrorsAnew label)
    (hstep : Noted.step codecs source label = some target) : target.Kept codecs := by
  obtain ⟨machine, hmachine, rfl⟩ := Option.map_eq_some_iff.mp hstep
  have hreachable : (Machine.system codecs).Reachable machine := h.reachable.step hmachine
  have haside (haside : source.machine.Aside label) (hdue : source.dueNext label = source.due) :
      Kept codecs { machine, due := source.dueNext label } := by
    have hwaits := waits_of_aside h.reachable haside hmachine
    rw [hdue]
    refine ⟨hreachable, h.named.waits hwaits, ?_⟩
    show Board.Notes machine.loop _ _
    rw [haside.loop_eq hmachine]
    exact h.loop.of_rely hwaits
  cases label with
  | ready | post event | start index | serve | reclaim | job index env => exact haside trivial rfl
  | restart =>
      cases hmachine
      exact ⟨hreachable, nofun, Board.startup_complete ⟨rfl, rfl, List.nil_subset _⟩⟩
  | take =>
      cases Machine.steps_of_step hmachine with
      | @take value event rest hloop hqueue hstarted haccepting =>
          have hdue : source.dueNext .take = acknowledged source.due event := by
            simp only [dueNext, hqueue]
          rw [hdue]
          have hcomplete : source.board.Complete := by
            have hreturned := h.loop
            rw [hloop] at hreturned
            exact hreturned _ (.refl _)
          refine ⟨hreachable, fun notification hmem => h.named notification ?_, ?_⟩
          · exact mem_of_mem_acknowledged hmem
          · exact Board.handleEvent_complete event hcomplete rfl (hfiles event (by rw [hqueue]; rfl))
  | loop env =>
      cases Machine.steps_of_step hmachine with
      | @loop env op resume hloop hallowed =>
          have hdue : source.dueNext (.loop env) = dueAfter source.due op := by
            simp only [dueNext, hloop, Program.nextOp]
          rw [hdue]
          have hnotes := h.loop
          rw [hloop] at hnotes
          obtain ⟨hnamed, hrest⟩ :=
            hnotes.step ⟨hallowed, h.named, known_of_reachable h.reachable⟩
          exact ⟨hreachable, hnamed, hrest⟩

theorem kept_installed : Kept codecs { machine := Machine.installed codecs, due := [] } :=
  ⟨⟨.start rfl⟩, nofun, Board.startup_complete ⟨rfl, rfl, List.nil_subset _⟩⟩

theorem Kept.lists {noted : Noted} (h : noted.Kept codecs) : noted.Lists := by
  intro hidle
  have hreturned := h.loop
  rw [hidle] at hreturned
  have hcomplete : noted.board.Complete := hreturned _ (.refl _)
  exact ⟨(DaemonState.notifications_perm _).trans hcomplete.perm,
    DaemonState.notifications_pairwise _⟩

/-- As long as no error of the tunnel is handled while a notification with its id is due,
the daemon lists between two events what is due, the latest first. -/
theorem visits_lists_of_filesErrorsAnew {noted : Noted} {trace : (system codecs).Trace noted}
    (h : trace.Obeys FilesErrorsAnew) : trace.Visits Lists := by
  have hkept : trace.Visits fun noted => noted.Kept codecs := by
    apply TransitionSystem.Trace.visits_of_obeys _ _ h
    · rintro _ rfl
      exact kept_installed
    · exact fun source label target hstep hfiles hkept => hkept.step hfiles hstep
  exact hkept.mono fun _ => Kept.lists

instance (due : List Notification) (rows : List VpnSession) (event : DaemonEvent) :
    Decidable (FilesAnew due rows event) := by
  unfold FilesAnew
  split <;> infer_instance

instance (noted : Noted) (label : MachineLabel) : Decidable (noted.FilesErrorsAnew label) := by
  unfold FilesErrorsAnew
  split <;> infer_instance

/-- The tunnel gives up without a session, and the loop handles the error. -/
def tunnelError (cause : String) : List MachineLabel :=
  [.post (.tunnelStateTransition (.error { cause })), .take] ++
    List.replicate 12 (.loop Sample.first)

/-- The error is acknowledged before the next one. -/
theorem exists_filesErrorsAnew : ∃ noted, ∃ trace : (system Sample.codecs).Trace noted,
    trace.Obeys FilesErrorsAnew ∧ noted.Idle ∧ noted.due.length = 1 ∧ trace.Visits Lists := by
  obtain ⟨noted, trace, hobeys, hcheck⟩ := (system Sample.codecs).exists_trace_of_run
    FilesErrorsAnew rfl
    (Sample.installing ++ tunnelError "no route" ++
      [.post (.command (.ackNotification "unknown")), .take] ++
      List.replicate 3 (.loop Sample.first) ++ tunnelError "no device")
    (fun noted => noted.machine.loop.returned = some () ∧ noted.due.length = 1)
    (by decide +kernel)
  obtain ⟨hidle, hone⟩ := of_decide_eq_true hcheck
  exact ⟨noted, trace, hobeys, Program.returned_eq_some.mp hidle, hone,
    visits_lists_of_filesErrorsAnew hobeys⟩

/-- The second error takes the place of the first one, which nobody has acknowledged. -/
theorem not_forall_lists :
    ¬ ∀ noted, (system Sample.codecs).Reachable noted → noted.Lists := by
  intro h
  obtain ⟨noted, trace, -, hcheck⟩ := (system Sample.codecs).exists_trace_of_run
    (fun _ _ => True) rfl
    (Sample.installing ++ tunnelError "no route" ++ tunnelError "no device")
    (fun noted => noted.machine.loop.returned = some () ∧
      noted.machine.world.state.notifications.length ≠ noted.due.length)
    (by decide +kernel)
  obtain ⟨hidle, hlost⟩ := of_decide_eq_true hcheck
  obtain ⟨hperm, -⟩ := h noted ⟨trace⟩ (Program.returned_eq_some.mp hidle)
  exact hlost hperm.length_eq

end Noted

end Modvpn
