/-
# What a failed connect leaves behind

Of the steps of a connect only the call to the server is followed by a clean-up when it
fails. A device id query that fails leaves the row, which nobody has marked, and so does
an update that fails, after the session service has started a watcher. So nothing is left
exactly if the row was never inserted, or the server was asked, did not accept, and the
row could be deleted.
-/

import Modvpn.Analysis.Daemon.Rows
import Modvpn.Daemon.Connecting

namespace Modvpn

open Modvpn.Protocol
open Entity (VpnSession)

namespace Connecting

variable {before after : Connecting} {choices : ConnectChoices} {location : Location}
  {result : Except DaemonError VpnStatus}

/-- The row is not inserted. -/
def InsertFails (before : Connecting) (choices : ConnectChoices) : Prop :=
  choices.insert ≠ none ∨
    VpnSession.hasId choices.requestId.toText before.world.vpnSession = true

theorem hasId_of_inserts (h : ¬ InsertFails before choices) :
    VpnSession.hasId choices.requestId.toText before.world.vpnSession = false := by
  by_contra hpresent
  exact h (.inr (by simpa using hpresent))

/-- The session service runs, and the server accepts with ids that can be read. -/
def Accepts (before : Connecting) (choices : ConnectChoices) : Prop :=
  before.service.phase = .running ∧
    ∃ accepted, VpnSessionService.onNewSessionInner choices.reply = .ok (.ok accepted)

/-- The row was never there, or the connect reached the failure that cleans up after it. -/
def CleansUp (before : Connecting) (choices : ConnectChoices) : Prop :=
  InsertFails before choices ∨
    (choices.query = none ∧ ¬ Accepts before choices ∧ choices.delete = none)

/-! ## The session service -/

/-- What the service answers, or nothing when the conversion of the reply panics. -/
theorem request_of_running {newSession : NewSession} (h : before.service.phase = .running) :
    (before.service.request newSession choices.reply).1 =
      match VpnSessionService.onNewSessionInner choices.reply with
      | .ok answer => answer
      | .error _ => .error .vpnSessionServiceDown := by
  unfold VpnSessionService.request
  rw [if_pos h]
  cases hreply : VpnSessionService.onNewSessionInner choices.reply with
  | error message =>
      simp [VpnSessionService.onCommand, VpnSessionService.handleCommand,
        VpnSessionService.onNewSession, hreply, VpnSessionService.drop]
  | ok answer =>
      cases answer <;> cases hshutdown : before.service.shutdownTx <;>
        simp [VpnSessionService.onCommand, VpnSessionService.handleCommand,
          VpnSessionService.onNewSession, hreply, VpnSessionService.leave, VpnSessionService.drop,
          VpnSessionService.startWatcher, h, hshutdown]

theorem request_of_accepts {newSession : NewSession} (h : Accepts before choices) :
    ∃ accepted, (before.service.request newSession choices.reply).1 = .ok accepted := by
  obtain ⟨hrunning, accepted, hreply⟩ := h
  refine ⟨accepted, ?_⟩
  rw [request_of_running hrunning, hreply]

theorem request_of_not_accepts {newSession : NewSession} (h : ¬ Accepts before choices) :
    ∃ error, (before.service.request newSession choices.reply).1 = .error error := by
  by_cases hrunning : before.service.phase = .running
  · rw [request_of_running hrunning]
    cases hreply : VpnSessionService.onNewSessionInner choices.reply with
    | error message => exact ⟨_, rfl⟩
    | ok answer =>
        cases answer with
        | error error => exact ⟨error, rfl⟩
        | ok accepted => exact absurd ⟨hrunning, accepted, hreply⟩ h
  · refine ⟨.vpnSessionServiceDown, ?_⟩
    rw [VpnSessionService.request, if_neg hrunning]

/-- A service that does not accept starts no watcher. -/
theorem watchers_of_not_accepts {newSession : NewSession} (h : ¬ Accepts before choices) :
    (before.service.request newSession choices.reply).2.watchers = before.service.watchers := by
  unfold VpnSessionService.request
  split
  · rename_i hrunning
    let handled := before.service.onCommand (.newSession newSession) choices.reply
    have hwatchers : handled.watchers = before.service.watchers := by
      cases hreply : VpnSessionService.onNewSessionInner choices.reply with
      | error message =>
          simp [handled, VpnSessionService.onCommand, VpnSessionService.handleCommand,
            VpnSessionService.onNewSession, hreply, VpnSessionService.drop]
      | ok answer =>
          cases answer with
          | error error =>
              cases hshutdown : before.service.shutdownTx <;>
                simp [handled, VpnSessionService.onCommand, VpnSessionService.handleCommand,
                  VpnSessionService.onNewSession, hreply, VpnSessionService.leave,
                  VpnSessionService.drop, hshutdown, hrunning]
          | ok accepted => exact absurd ⟨hrunning, accepted, hreply⟩ h
    simp only
    split <;> exact hwatchers
  · rfl

/-! ## The steps of a connect -/

/-- The program runs in this connect. -/
abbrev Runs {α : Type} (choices : ConnectChoices) (program : Async α) (before : Connecting)
    (value : α) (after : Connecting) : Prop :=
  program.run semantics (fun _ => choices) before = .returned value after

theorem perform_runs {op : Op} {value : op.Resp} (h : Runs choices (perform op) before value after) :
    value = (semantics.answer op choices before).1 ∧
      after = (semantics.answer op choices before).2 := by
  cases h
  exact ⟨rfl, rfl⟩

/-- With the row of the new session. -/
def inserted (before : Connecting) (choices : ConnectChoices) (location : Location) : Connecting :=
  { before with
    world := { before.world with
      vpnSession := before.world.vpnSession ++
        [VpnSession.requested choices.requestId location] } }

theorem insert_runs {result : Except DbErr Unit}
    (h : Runs choices (perform (.insertVpnSession choices.requestId location)) before result after) :
    (InsertFails before choices ∧ (∃ error, result = .error error) ∧ after = before) ∨
      (¬ InsertFails before choices ∧ result = .ok () ∧
        after = before.inserted choices location) := by
  obtain ⟨rfl, rfl⟩ := perform_runs h
  simp only [World.answer, World.checked, ConnectChoices.dbErr, InsertFails]
  cases choices.insert with
  | some error => exact .inl ⟨.inl nofun, ⟨error, rfl⟩, rfl⟩
  | none =>
      cases VpnSession.hasId choices.requestId.toText before.world.vpnSession with
      | true => exact .inl ⟨.inr rfl, ⟨_, rfl⟩, rfl⟩
      | false => exact .inr ⟨by simp, rfl, rfl⟩

theorem newSession_runs {result : Except DbErr Uuid}
    (h : Runs choices (VpnSessionStorage.newSession location).run before result after) :
    (InsertFails before choices ∧ (∃ error, result = .error error) ∧ after = before) ∨
      (¬ InsertFails before choices ∧ result = .ok choices.requestId ∧
        after = before.inserted choices location) := by
  obtain ⟨requestId, middle, hid, h⟩ := Program.exists_run_of_liftBind h
  obtain ⟨rfl, rfl⟩ := perform_runs hid
  rcases Program.exists_run_of_exceptBind h with ⟨error, hinsert, rfl⟩ | ⟨_, middle, hinsert, h⟩
  · obtain ⟨hfails, -, rfl⟩ | ⟨-, hok, -⟩ := insert_runs hinsert
    · exact .inl ⟨hfails, ⟨error, rfl⟩, rfl⟩
    · cases hok
  · obtain ⟨-, ⟨error, herror⟩, -⟩ | ⟨hinserts, -, rfl⟩ := insert_runs hinsert
    · cases herror
    · cases h
      exact .inr ⟨hinserts, rfl, rfl⟩

theorem query_runs {result : Except DbErr (Option String)}
    (h : Runs choices (perform .findDeviceUniqueId) before result after) :
    (choices.query ≠ none ∧ (∃ error, result = .error error) ∧ after = before) ∨
      (choices.query = none ∧ (∃ id, result = .ok id) ∧ after = before) := by
  obtain ⟨rfl, rfl⟩ := perform_runs h
  simp only [World.answer, World.statement, ConnectChoices.dbErr]
  cases choices.query with
  | some error => exact .inl ⟨nofun, ⟨error, rfl⟩, rfl⟩
  | none => exact .inr ⟨rfl, ⟨_, rfl⟩, rfl⟩

/-- The device id query only reads; a device that is missing is a panic. -/
theorem getDeviceUniqueId_runs {result : Except DbErr Uuid}
    (h : Runs choices DeviceStorage.getDeviceUniqueId.run before result after) :
    (choices.query ≠ none ∧ (∃ error, result = .error error) ∧ after = before) ∨
      (choices.query = none ∧ (∃ deviceUniqueId, result = .ok deviceUniqueId) ∧ after = before) := by
  rcases Program.exists_run_of_exceptBind h with ⟨error, hquery, rfl⟩ | ⟨id, middle, hquery, h⟩
  · obtain ⟨hfails, -, rfl⟩ | ⟨-, ⟨_, hok⟩, -⟩ := query_runs hquery
    · exact .inl ⟨hfails, ⟨error, rfl⟩, rfl⟩
    · cases hok
  · obtain ⟨-, ⟨error, herror⟩, -⟩ | ⟨hworks, -, rfl⟩ := query_runs hquery
    · cases herror
    · refine .inr ⟨hworks, ?_⟩
      cases id with
      | none => cases h
      | some text =>
          rw [Fallible.unwrap_some, pure_bind, Fallible.parsed] at h
          split at h <;> cases h
          exact ⟨⟨_, rfl⟩, rfl⟩

/-- The update that records the acceptance. -/
theorem updateOnAccepted_runs {accepted : Accepted} {result : Except DbErr Unit}
    (h : Runs choices (VpnSessionStorage.updateOnAccepted accepted).run before result after) :
    (choices.update ≠ none ∧ (∃ error, result = .error error) ∧ after = before) ∨
      (choices.update = none ∧ result = .ok ()) := by
  obtain ⟨rfl, rfl⟩ := perform_runs h
  simp only [World.answer, World.statement, ConnectChoices.dbErr]
  cases choices.update with
  | some error => exact .inl ⟨nofun, ⟨error, rfl⟩, rfl⟩
  | none => exact .inr ⟨rfl, rfl⟩

/-- The clean-up. -/
theorem delete_runs {result : Except DbErr Unit}
    (h : Runs choices (VpnSessionStorage.delete choices.requestId).run before result after) :
    (choices.delete ≠ none ∧ (∃ error, result = .error error) ∧ after = before) ∨
      (choices.delete = none ∧ result = .ok () ∧ after = { before with world := { before.world with
        vpnSession := VpnSession.deleteById choices.requestId.toText before.world.vpnSession } }) := by
  obtain ⟨rfl, rfl⟩ := perform_runs h
  simp only [World.answer, World.statement, ConnectChoices.dbErr]
  cases choices.delete with
  | some error => exact .inl ⟨nofun, ⟨error, rfl⟩, rfl⟩
  | none => exact .inr ⟨rfl, rfl, rfl⟩

theorem awaitNewSession_runs {request : NewSession} {answer : Except VpnSessionError Accepted}
    (h : Runs choices (perform (.awaitNewSession request)) before answer after) :
    answer = (before.service.request request choices.reply).1 ∧
      after.service = (before.service.request request choices.reply).2 ∧
      after.world.vpnSession = before.world.vpnSession ∧ after.world.state = before.world.state := by
  obtain ⟨rfl, rfl⟩ := perform_runs h
  simp only [World.answer]
  cases (before.service.request request choices.reply).1 <;> simp

/-- The exchange with the session service goes on with the service's answer. -/
theorem exchange_runs {request : NewSession}
    {rest : Except VpnSessionError Accepted → Fallible DaemonError VpnStatus}
    (h : Runs choices (do
      ExceptT.lift (perform (.sendNewSession request))
      let answer ← ExceptT.lift (perform (.awaitNewSession request))
      rest answer : Fallible DaemonError VpnStatus).run before result after) :
    ∃ answered, Runs choices (rest (before.service.request request choices.reply).1).run
        answered result after ∧
      answered.service = (before.service.request request choices.reply).2 ∧
      answered.world.vpnSession = before.world.vpnSession ∧
      answered.world.state = before.world.state := by
  obtain ⟨_, sent, hsend, h⟩ := Program.exists_run_of_liftBind h
  obtain ⟨-, rfl⟩ := perform_runs hsend
  obtain ⟨answer, answered, hawait, h⟩ := Program.exists_run_of_liftBind h
  obtain ⟨rfl, hanswered⟩ := awaitNewSession_runs hawait
  exact ⟨answered, h, hanswered⟩

/-- A refused connect deletes the row and notifies, or the delete fails. -/
theorem refused_runs {requestId : Uuid} (location : Location) {error : VpnSessionError}
    (h : Runs choices (do
      ExceptT.adapt .dbErr (VpnSessionStorage.delete choices.requestId)
      let timestamp ← ExceptT.lift (perform .utcNow)
      let state ← ExceptT.lift (perform .readState)
      let (notification, state) :=
        state.addNotificationForFailedNewSession requestId location error timestamp
      ExceptT.lift (perform (.writeState state))
      ExceptT.lift (Daemon.addNotification notification)
      return .disconnected : Fallible DaemonError VpnStatus).run before result after) :
    (choices.delete ≠ none ∧ after = before) ∨
      (choices.delete = none ∧
        after.world.vpnSession =
          VpnSession.deleteById choices.requestId.toText before.world.vpnSession ∧
        after.world.state.vpnStatus = before.world.state.vpnStatus ∧
        after.service = before.service) := by
  rcases Program.exists_run_of_adaptBind h with ⟨error, hdelete, -⟩ | ⟨_, deleted, hdelete, h⟩
  · obtain ⟨hfails, -, rfl⟩ | ⟨-, hok, -⟩ := delete_runs hdelete
    · exact .inl ⟨hfails, rfl⟩
    · cases hok
  · obtain ⟨-, ⟨error, herror⟩, -⟩ | ⟨hdeletes, -, rfl⟩ := delete_runs hdelete
    · cases herror
    · cases h
      exact .inr ⟨hdeletes, rfl, rfl, rfl⟩

/-- A session that was accepted is recorded, or the connect fails. -/
theorem accepted_runs {accepted : Accepted}
    (h : Runs choices (do
      ExceptT.adapt .dbErr (VpnSessionStorage.updateOnAccepted accepted)
      ExceptT.lift (Daemon.modifyState (·.accepted location))
      return .accepted location : Fallible DaemonError VpnStatus).run before result after)
    (hfailed : Failed result) : after = before := by
  rcases Program.exists_run_of_adaptBind h with ⟨error, hupdate, -⟩ | ⟨_, middle, -, h⟩
  · obtain ⟨-, -, rfl⟩ | ⟨-, hok⟩ := updateOnAccepted_runs hupdate
    · rfl
    · cases hok
  · cases h
    obtain ⟨error, herror⟩ | hdisconnected := hfailed
    · cases herror
    · cases hdisconnected

/-! ## The whole connect -/

/-- The row of the new session is still there. -/
def LeavesRow (before after : Connecting) (choices : ConnectChoices) (location : Location) : Prop :=
  after.world.vpnSession = before.world.vpnSession ++
    [VpnSession.requested choices.requestId location]

/-- How a connect from `Disconnected` fails. -/
theorem connect_cases (h : before.world.state.vpnStatus = .disconnected)
    (hrun : before.connect choices location = .returned result after) (hfailed : Failed result) :
    (InsertFails before choices ∧ after = before) ∨
      (CleansUp before choices ∧ NothingLeft before after choices.requestId) ∨
      (¬ CleansUp before choices ∧ LeavesRow before after choices location) := by
  have hfree : before.world.state.vpnSessionInProgress = none := by simpa using h
  obtain ⟨state, middle, hread, hrun⟩ := Program.exists_run_of_liftBind hrun
  obtain ⟨rfl, rfl⟩ := perform_runs hread
  simp only [World.answer, hfree] at hrun
  rcases Program.exists_run_of_adaptBind hrun with ⟨error, hnew, rfl⟩ | ⟨id, middle, hnew, hrun⟩
  · obtain ⟨hfails, -, rfl⟩ | ⟨-, hok, -⟩ := newSession_runs hnew
    · exact .inl ⟨hfails, rfl⟩
    · cases hok
  obtain ⟨-, ⟨error, herror⟩, -⟩ | ⟨hinserts, hid, rfl⟩ := newSession_runs hnew
  · cases herror
  cases hid
  rcases Program.exists_run_of_adaptBind hrun with ⟨error, hquery, rfl⟩ | ⟨id, middle, hquery, hrun⟩
  · obtain ⟨hfails, -, rfl⟩ | ⟨-, ⟨_, hok⟩, -⟩ := getDeviceUniqueId_runs hquery
    · refine .inr (.inr ⟨?_, rfl⟩)
      rintro (hinsert | ⟨hworks, -⟩)
      · exact hinserts hinsert
      · exact hfails hworks
    · cases hok
  obtain ⟨-, ⟨error, herror⟩, -⟩ | ⟨hqueried, -, rfl⟩ := getDeviceUniqueId_runs hquery
  · cases herror
  obtain ⟨answered, hrun, hservice, hrows, hstate⟩ := exchange_runs hrun
  have hlocation : LeavesRow before answered choices location := hrows
  by_cases haccepts : Accepts before choices
  · -- The row and the watcher are there, and only the update can fail.
    obtain ⟨accepted, hok⟩ := request_of_accepts haccepts
    rw [inserted, hok] at hrun
    obtain rfl := accepted_runs hrun hfailed
    exact .inr (.inr ⟨fun hclean => hclean.elim hinserts fun h => h.2.1 haccepts, hlocation⟩)
  · obtain ⟨error, herror⟩ := request_of_not_accepts haccepts
    rw [inserted, herror] at hrun
    rcases refused_runs location hrun with ⟨hfails, rfl⟩ | ⟨hdeletes, hrows', hstate', hservice'⟩
    · exact .inr (.inr ⟨fun hclean => hclean.elim hinserts fun h => hfails h.2.2, hlocation⟩)
    · refine .inr (.inl ⟨.inr ⟨hqueried, haccepts, hdeletes⟩, ?_, ?_, ?_⟩)
      · calc after.world.vpnSession
            = VpnSession.deleteById choices.requestId.toText answered.world.vpnSession := hrows'
          _ = _ := congrArg _ hlocation
          _ = before.world.vpnSession :=
            VpnSession.deleteById_append_requested location (hasId_of_inserts hinserts)
      · calc after.world.state.vpnStatus
            = answered.world.state.vpnStatus := hstate'
          _ = _ := congrArg _ hstate
          _ = .disconnected := h
      · have hwatchers : after.service.watchers = before.service.watchers := by
          rw [hservice', hservice]
          exact watchers_of_not_accepts haccepts
        rw [hwatchers]
        exact fun task htask _ _ => htask

/-- A connect that fails leaves nothing behind if and only if it never had a row, or it
failed where the code cleans up after it. -/
theorem nothingLeft_iff_cleansUp (h : before.world.state.vpnStatus = .disconnected)
    (hrun : before.connect choices location = .returned result after) (hfailed : Failed result) :
    NothingLeft before after choices.requestId ↔ CleansUp before choices := by
  rcases connect_cases h hrun hfailed with
    ⟨hfails, rfl⟩ | ⟨hcleans, hnothing⟩ | ⟨hstays, hleaves⟩
  · exact ⟨fun _ => .inl hfails, fun _ => ⟨rfl, h, fun task htask _ _ => htask⟩⟩
  · exact ⟨fun _ => hcleans, fun _ => hnothing⟩
  · refine ⟨fun hnothing => absurd hnothing.rows ?_, fun hcleans => absurd hcleans hstays⟩
    rw [hleaves]
    simp

/-- The daemon has started, and nothing has happened yet. -/
def started : Connecting where
  world := (Channel.created Sample.device).world
  service := .new

/-- The server accepts the first request, and the database fails where it is told to. -/
def accepting (query update : Option DbErr) : ConnectChoices where
  env := Sample.first
  insert := none
  query
  reply := .ok {
    requestId := Sample.first.uuid.toText
    vpnSessionUuid := (Uuid.replicate 1).toText }
  update
  delete := none

theorem nothingLeft_of_refused :
    ∃ result after,
      started.connect { accepting none none with reply := .error .vpnSessionServiceDown }
        Sample.location = .returned result after ∧
      NothingLeft started after Sample.first.uuid := by
  let refused : ConnectChoices :=
    { accepting none none with reply := .error .vpnSessionServiceDown }
  have hcleans : CleansUp started refused := by
    refine .inr ⟨rfl, ?_, rfl⟩
    rintro ⟨-, accepted, haccepts⟩
    cases haccepts
  exact ⟨.ok .disconnected, _, rfl,
    (nothingLeft_iff_cleansUp rfl rfl (.inr rfl)).mpr hcleans⟩

/-- Only the update fails, after the server has accepted, and the row stays. -/
theorem not_forall_nothingLeft :
    ¬ ∀ (before after : Connecting) (choices : ConnectChoices) (location : Location)
        (result : Except DaemonError VpnStatus),
      before.world.state.vpnStatus = .disconnected → ¬ InsertFails before choices →
      choices.query = none → Accepts before choices → choices.delete = none →
      before.connect choices location = .returned result after → Failed result →
      NothingLeft before after choices.requestId := by
  intro h
  let choices := accepting none (some (.exec "database is locked"))
  have hinserts : ¬ InsertFails started choices := by
    rintro (hinsert | hid)
    · exact hinsert rfl
    · cases hid
  have haccepts : Accepts started choices := ⟨rfl, _, rfl⟩
  have hnothing :=
    h started _ choices Sample.location _ rfl hinserts rfl haccepts rfl rfl (.inl ⟨_, rfl⟩)
  have hlength : 1 = 0 := congrArg List.length hnothing.rows
  cases hlength

end Connecting

end Modvpn
