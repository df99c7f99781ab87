/-
# What event subscribers believe

A subscriber that folds the events shows the status that was broadcast last. The
loop broadcasts every status it writes except one: when a session is accepted, the
status goes into memory and into the answer to the command, and to nobody else.
Between two events, what subscribers show is therefore the status in memory
exactly when this status is not `Accepted`.

The terms are stated for both readings at once: `accepts` says whether the run may
record acceptances.
-/

import Modvpn.Analysis.Daemon.Footprints
import Modvpn.Analysis.Daemon.Governing

namespace Modvpn

open Modvpn.Protocol
open Program (Returns)

/-- The status a session has from its acceptance until the server reports progress. -/
def VpnStatus.isAccepted : VpnStatus → Bool
  | .accepted _ => true
  | _ => false

namespace Broadcast

/-- What a subscriber shows after an event. -/
def shown (status : VpnStatus) : Broadcast → VpnStatus
  | .vpnStatus next => next
  | .notification _ => status

/-- What a subscriber of the whole run shows. -/
def lastShown (broadcasts : List Broadcast) : VpnStatus := broadcasts.foldl shown .disconnected

@[simp]
theorem lastShown_append (broadcasts : List Broadcast) (event : Broadcast) :
    lastShown (broadcasts ++ [event]) = shown (lastShown broadcasts) event := by
  simp [lastShown]

/-- Anything but the status of an accepted session. -/
def isPlain : Broadcast → Bool
  | .vpnStatus status => !status.isAccepted
  | .notification _ => true

theorem isAccepted_shown {status : VpnStatus} {event : Broadcast}
    (h : status.isAccepted = false) (hplain : event.isPlain = true) :
    (shown status event).isAccepted = false := by
  cases event with
  | vpnStatus next => simpa [shown, isPlain] using hplain
  | notification _ => exact h

end Broadcast

namespace Op

/-- Writes the status or tells subscribers. -/
def informs : Op → Bool
  | .writeState _ | .broadcast _ => true
  | _ => false

/-- Leaves both the status and what subscribers show alone. -/
def isSilent (op : Op) : Bool := !op.informs

/-- The statement that records an acceptance succeeds. -/
def recordsAcceptance (env : Env) : Op → Bool
  | .setAccepted _ _ => env.dbErr = none
  | _ => false

theorem announces_of_isSilent {op : Op} (h : op.isSilent = true) : op.announces = [] := by
  cases op <;> first | rfl | cases h

theorem writesState_of_isSilent {op : Op} (h : op.isSilent = true) : op.writesState = false := by
  cases op <;> first | rfl | cases h

end Op

namespace Machine

/-- Between two events, subscribers show the status in memory. -/
def Truthful (machine : Machine) : Prop :=
  machine.loop = .pure () →
    Broadcast.lastShown machine.world.broadcasts = machine.world.state.vpnStatus

/-- The loop does not record an acceptance. -/
def Unrecorded (machine : Machine) : MachineLabel → Prop
  | .loop env => ∀ op ∈ machine.loop.nextOp, op.recordsAcceptance env = false
  | _ => True

instance (machine : Machine) (label : MachineLabel) : Decidable (machine.Unrecorded label) :=
  match label with
  | .loop env => inferInstanceAs
      (Decidable (∀ op ∈ machine.loop.nextOp, op.recordsAcceptance env = false))
  | .restart | .ready | .post _ | .take | .start _ | .serve | .reclaim | .job _ _ =>
      inferInstanceAs (Decidable True)

/-! ## The terms -/

/-- What subscribers show. -/
def Shared.lastShown (shared : Shared) : VpnStatus :=
  Broadcast.lastShown shared.world.broadcasts

/-- Subscribers show the status, except that of an accepted session, which is there
only if acceptances are recorded. -/
structure Informed (accepts : Prop) (shared : Shared) : Prop where
  recorded : shared.world.state.vpnStatus.isAccepted = true → accepts
  shown : shared.world.state.vpnStatus.isAccepted = false →
    shared.lastShown = shared.world.state.vpnStatus

/-- The loop relies on being the only one that writes the status and broadcasts. -/
def Undisturbed : Role → Shared → Shared → Prop
  | .loop, shared, moved => moved.world.state = shared.world.state ∧
      moved.world.broadcasts = shared.world.broadcasts
  | _, _, _ => True

/-- What a role owes: only the loop informs, and never about an accepted session. -/
def Informs (role : Role) : Op → Prop
  | .writeState _ => role = .loop
  | .broadcast event => role = .loop ∧ event.isPlain = true
  | _ => True

variable {accepts : Prop} {shared moved : Shared} {role : Role} {op : Op} {env : Env}
  {codecs : Codecs}

theorem Undisturbed.refl (role : Role) (shared : Shared) : Undisturbed role shared shared := by
  cases role <;> simp [Undisturbed]

theorem Undisturbed.trans {later : Shared} (hfirst : Undisturbed role shared moved)
    (hsecond : Undisturbed role moved later) : Undisturbed role shared later := by
  cases role with
  | loop => exact ⟨hsecond.1.trans hfirst.1, hsecond.2.trans hfirst.2⟩
  | task _ | service _ | reclaimer => trivial

theorem undisturbed_of_settles (h : Settles shared moved) (role : Role) :
    Undisturbed role shared moved := by
  obtain ⟨-, -, -, spawned, commands, received, hworld, -⟩ := h
  cases role with
  | loop => simp [Undisturbed, hworld]
  | task _ | service _ | reclaimer => trivial

theorem undisturbed_answer (h : op.isSilent = true) :
    Undisturbed role shared (Shared.semantics.answer op env shared).2 := by
  cases role with
  | loop =>
      refine ⟨World.answer_state (Op.writesState_of_isSilent h), ?_⟩
      show (World.answer op env shared.world).2.broadcasts = _
      rw [World.answer_broadcasts, Op.announces_of_isSilent h, List.append_nil]
  | task _ | service _ | reclaimer => trivial

/-- Whoever informs is the loop, and nothing runs beside it in its role. -/
theorem undisturbed_of_informs (hinforms : Informs role op) {other : Role}
    (hbeside : role.Beside other) :
    Undisturbed other shared (Shared.semantics.answer op env shared).2 := by
  by_cases hsilent : op.isSilent = true
  · exact undisturbed_answer hsilent
  · have hloop : role = .loop := by
      cases op with
      | writeState state => exact hinforms
      | broadcast event => exact hinforms.1
      | _ => exact absurd rfl hsilent
    subst hloop
    cases other with
    | loop => simp [Role.Beside, Role.isLoop] at hbeside
    | task _ | service _ | reclaimer => trivial

/-- No subscriber ever shows an accepted session. -/
theorem isAccepted_lastShown_answer (hinforms : Informs role op)
    (h : shared.lastShown.isAccepted = false) :
    (Shared.semantics.answer op env shared).2.lastShown.isAccepted = false := by
  show (Broadcast.lastShown (World.answer op env shared.world).2.broadcasts).isAccepted = false
  rw [World.answer_broadcasts]
  by_cases hnone : op.announces = []
  · rw [hnone, List.append_nil]
    exact h
  · cases op with
    | broadcast event =>
        rw [Op.announces, Broadcast.lastShown_append]
        exact Broadcast.isAccepted_shown h hinforms.2
    | _ => exact absurd rfl hnone

/-- The terms under which subscribers are told the truth. -/
def informing (accepts : Prop) : Discipline Shared.semantics Role where
  contract role :=
    { rely := Undisturbed role
      admits := fun op env _ => role = .loop → op.recordsAcceptance env = true → accepts
      duty := fun op _ _ => Informs role op
      rely_refl := Undisturbed.refl role
      rely_trans := .trans }
  post
    | .loop, shared => Informed accepts shared
    | _, _ => True
  beside := Role.Beside
  beside_symm := .symm
  invariant shared := shared.lastShown.isAccepted = false
  settles := Settles
  rely_of_settles role := fun h => undisturbed_of_settles h role
  invariant_of_settles hsettles h := by
    obtain ⟨-, -, -, spawned, commands, received, hworld, -⟩ := hsettles
    simpa [Shared.lastShown, hworld] using h
  perform h _ hinforms :=
    ⟨isAccepted_lastShown_answer hinforms h, fun _ => undisturbed_of_informs hinforms⟩

/-- The program keeps the terms of the role. -/
abbrev Tells (accepts : Prop) {α : Type} (role : Role) (program : Async α)
    (post : α → Shared → Prop) (shared : Shared) : Prop :=
  program.Ensures Shared.semantics ((informing accepts).contract role) post shared

theorem Informed.of_undisturbed (h : Informed accepts shared)
    (hrely : Undisturbed .loop shared moved) : Informed accepts moved := by
  obtain ⟨hstate, hbroadcasts⟩ := hrely
  refine ⟨fun haccepted => h.recorded (hstate ▸ haccepted), fun haccepted => ?_⟩
  rw [Shared.lastShown, hbroadcasts, hstate]
  exact h.shown (hstate ▸ haccepted)

/-- A program that informs nobody. -/
theorem tells_of_within {α : Type} {program : Async α} (h : Within Op.isSilent program) :
    Tells accepts role program (fun _ => Undisturbed role shared) shared := by
  apply h.ensures (I := Undisturbed role shared)
  · intro op choice moved hsilent _
    cases op <;> trivial
  · exact fun hrely hmoved => hmoved.trans hrely
  · exact fun hsilent _ hmoved => hmoved.trans (undisturbed_answer hsilent)
  · exact .refl role shared

theorem informed_of_within {α : Type} {program : Async α} (h : Within Op.isSilent program)
    (hinformed : Informed accepts shared) :
    Tells accepts .loop program (fun _ => Informed accepts) shared :=
  (tells_of_within h).mono fun _ _ hrely => hinformed.of_undisturbed hrely

/-! ## The loop -/

theorem readState_tells (h : Informed accepts shared) :
    Tells accepts .loop (perform .readState)
      (fun state moved => Informed accepts moved ∧ moved.world.state = state) shared :=
  fun _ _ hrely _ => ⟨trivial, fun _ hlater =>
    ⟨(h.of_undisturbed hrely).of_undisturbed hlater, hlater.1⟩⟩

/-- A state that is told to nobody. -/
theorem writeState_tells {state : DaemonState} (h : Informed accepts shared)
    (hstate : state.vpnStatus = shared.world.state.vpnStatus ∨
      (state.vpnStatus.isAccepted = true ∧ accepts)) :
    Tells accepts .loop (perform (.writeState state)) (fun _ => Informed accepts) shared := by
  intro moved choice hrely _
  refine ⟨rfl, fun later hlater => ?_⟩
  apply Informed.of_undisturbed _ hlater
  have hmoved := h.of_undisturbed hrely
  rcases hstate with hsame | ⟨haccepted, haccepts⟩
  · have hkept : state.vpnStatus = moved.world.state.vpnStatus := by rw [hsame, hrely.1]
    refine ⟨fun haccepted => hmoved.recorded (hkept ▸ haccepted), fun haccepted => ?_⟩
    exact (hmoved.shown (hkept ▸ haccepted)).trans hkept.symm
  · refine ⟨fun _ => haccepts, fun hnot => ?_⟩
    simp [World.answer, haccepted] at hnot

theorem modifyState_tells (update : DaemonState → DaemonState) (h : Informed accepts shared)
    (hupdate : ∀ state, (update state).vpnStatus = state.vpnStatus ∨
      ((update state).vpnStatus.isAccepted = true ∧ accepts)) :
    Tells accepts .loop (Daemon.modifyState update) (fun _ => Informed accepts) shared := by
  refine .bind ((readState_tells h).mono fun state moved hmoved => ?_)
  exact writeState_tells hmoved.1 (hmoved.2 ▸ hupdate state)

theorem broadcastNotification_tells (notification : Notification) (h : Informed accepts shared) :
    Tells accepts .loop (perform (.broadcast (.notification notification)))
      (fun _ => Informed accepts) shared := by
  intro moved choice hrely _
  refine ⟨⟨rfl, rfl⟩, fun later hlater => ?_⟩
  apply Informed.of_undisturbed _ hlater
  have hmoved := h.of_undisturbed hrely
  refine ⟨hmoved.recorded, fun haccepted => ?_⟩
  show Broadcast.lastShown (moved.world.broadcasts ++ [_]) = _
  rw [Broadcast.lastShown_append]
  exact hmoved.shown haccepted

theorem addNotification_tells (notification : Notification) (h : Informed accepts shared) :
    Tells accepts .loop (Daemon.addNotification notification) (fun _ => Informed accepts)
      shared := by
  have hwritten := modifyState_tells (·.addNotification notification) h
    fun _ => .inl rfl
  exact .bind (hwritten.mono fun _ _ hmoved => broadcastNotification_tells notification hmoved)

/-- Writing a status and broadcasting the same one. -/
theorem writeState_broadcast_tells {α : Type} (state : DaemonState) {rest : Async α}
    {post : α → Shared → Prop} (hplain : state.vpnStatus.isAccepted = false)
    (hrest : ∀ later, Informed accepts later → Tells accepts .loop rest post later) :
    Tells accepts .loop (do
      perform (.writeState state)
      perform (.broadcast (.vpnStatus state.vpnStatus))
      rest) post shared := by
  intro moved choice _ _
  refine ⟨rfl, fun later choice hlater _ => ⟨⟨rfl, by simp [Broadcast.isPlain, hplain]⟩, ?_⟩⟩
  apply hrest
  have hstate : later.world.state = state := hlater.1
  refine ⟨fun haccepted => ?_, fun _ => ?_⟩
  · simp [World.answer, hstate, hplain] at haccepted
  · show Broadcast.lastShown (later.world.broadcasts ++ [_]) = later.world.state.vpnStatus
    rw [Broadcast.lastShown_append, hstate]
    rfl

theorem setVpnStatus_tells {vpnStatus : VpnStatus} (hplain : vpnStatus.isAccepted = false) :
    Tells accepts .loop (Daemon.setVpnStatus vpnStatus) (fun _ => Informed accepts) shared := by
  intro moved choice _ _
  refine ⟨trivial, ?_⟩
  have hdone (later : Shared) (hlater : Informed accepts later) :
      Tells accepts .loop (.pure ()) (fun _ => Informed accepts) later :=
    fun _ => hlater.of_undisturbed
  exact writeState_broadcast_tells (moved.world.state.setVpnStatus vpnStatus) hplain hdone

theorem isSilent_of_inLookup (h : op.inLookup = true) : op.isSilent = true := by
  cases op <;> first | rfl | cases h

theorem endSession_informed (endReason : String) (h : Informed accepts shared) :
    Tells accepts .loop (Daemon.endSession endReason).run (fun _ => Informed accepts) shared := by
  apply informed_of_within _ h
  exact .exceptBind (.adapt (VpnSessionStorage.endSession_within rfl fun _ => rfl))
    fun _ => .lift (within_perform rfl)

theorem isAccepted_statusOnDisconnect (vpnStatus : VpnStatus) :
    (DaemonState.statusOnDisconnect vpnStatus).isAccepted = false := by
  cases vpnStatus <;> rfl

theorem onDisconnectInner_tells (endReason : String) (h : Informed accepts shared) :
    Tells accepts .loop (Daemon.onDisconnectInner endReason).run (fun _ => Informed accepts)
      shared := by
  refine .liftBind ?_
  have hcommand : Tells accepts .loop Daemon.tunnelCommandOnDisconnect
      (fun _ => Informed accepts) shared := by
    refine informed_of_within (.bind (within_perform rfl) fun state => ?_) h
    split <;> first | trivial | exact within_perform rfl
  refine hcommand.mono fun _ moved hmoved => ?_
  refine .exceptBind ((endSession_informed endReason hmoved).mono fun result later hlater => ?_)
  cases result with
  | error error => exact fun last hlast => hlater.of_undisturbed hlast
  | ok _ =>
      intro last choice _ _
      refine ⟨trivial, ?_⟩
      exact writeState_broadcast_tells last.world.state.updateStateOnDisconnect
        (isAccepted_statusOnDisconnect _) fun _ hdone _ hlast => hdone.of_undisturbed hlast

/-- The reply that has to be recorded before the state says that a session was accepted. -/
theorem updateOnAccepted_tells (accepted : Accepted) (h : Informed accepts shared) :
    Tells accepts .loop (VpnSessionStorage.updateOnAccepted accepted).run
      (fun result moved => Informed accepts moved ∧ ∀ value, result = .ok value → accepts)
      shared := by
  intro moved choice hrely hadmits
  refine ⟨trivial, fun later hlater => ⟨?_, ?_⟩⟩
  · exact (h.of_undisturbed hrely).of_undisturbed ((undisturbed_answer rfl).trans hlater)
  · intro value hvalue
    apply hadmits rfl
    cases hdb : choice.dbErr with
    | none => simp [Op.recordsAcceptance, hdb]
    | some error => simp [World.answer, World.statement, hdb] at hvalue

theorem onConnectInner_tells (location : Location) (h : Informed accepts shared) :
    Tells accepts .loop (Daemon.onConnectInner location).run (fun _ => Informed accepts)
      shared := by
  refine .liftBind ((informed_of_within (within_perform rfl) h).mono fun state moved hmoved => ?_)
  split
  · exact fun _ => hmoved.of_undisturbed
  have hnew : Within Op.isSilent (VpnSessionStorage.newSession location).run :=
    .exceptBind (.lift (within_perform rfl)) fun _ => .exceptBind (within_perform rfl) fun _ => trivial
  refine .exceptBind (.adapt ((informed_of_within hnew hmoved).mono fun result moved hmoved => ?_))
  cases result with
  | error error => exact fun _ => hmoved.of_undisturbed
  | ok requestId =>
      refine .exceptBind (.adapt ((informed_of_within (DeviceStorage.getDeviceUniqueId_within rfl)
        hmoved).mono fun result moved hmoved => ?_))
      cases result with
      | error error => exact fun _ => hmoved.of_undisturbed
      | ok deviceUniqueId =>
          refine .liftBind ((informed_of_within (within_perform rfl) hmoved).mono
            fun _ moved hmoved => ?_)
          refine .liftBind ((informed_of_within (within_perform rfl) hmoved).mono
            fun reply moved hmoved => ?_)
          cases reply with
          | ok accepted =>
              refine .exceptBind (.adapt ((updateOnAccepted_tells accepted hmoved).mono
                fun result moved hmoved => ?_))
              cases result with
              | error error => exact fun _ => hmoved.1.of_undisturbed
              | ok _ =>
                  refine .liftBind ((modifyState_tells (·.accepted location) hmoved.1 fun _ => ?_).mono
                    fun _ moved hmoved => fun _ => hmoved.of_undisturbed)
                  exact .inr ⟨rfl, hmoved.2 _ rfl⟩
          | error error =>
              refine .exceptBind (.adapt ((informed_of_within (within_perform rfl) hmoved).mono
                fun result moved hmoved => ?_))
              cases result with
              | error error => exact fun _ => hmoved.of_undisturbed
              | ok _ =>
                  refine .liftBind ((informed_of_within (within_perform rfl) hmoved).mono
                    fun timestamp moved hmoved => ?_)
                  refine .liftBind ((readState_tells hmoved).mono fun state moved hmoved => ?_)
                  refine .liftBind ((writeState_tells hmoved.1 ?_).mono fun _ moved hmoved => ?_)
                  · exact .inl (by rw [hmoved.2]; rfl)
                  · refine .liftBind ((addNotification_tells _ hmoved).mono fun _ last hlast => ?_)
                    exact fun _ => hlast.of_undisturbed

/-! ## Server and tunnel -/

/-- No server status leads to an accepted session. -/
theorem updatedServerStatus_returns (status : VpnSessionStatus) :
    Returns (fun result => ∀ processed, result = .ok processed → ∀ vpnStatus ∈ processed.vpnStatus,
      vpnStatus.isAccepted = false) (VpnSessionStorage.updatedServerStatus status).run := by
  apply Returns.exceptRest _ fun _ _ => nofun
  intro row
  cases row with
  | none =>
      rintro _ ⟨⟩ _ ⟨⟩
  | some row =>
      cases status with
      | failed failed =>
          apply Returns.exceptRest _ fun _ _ => nofun
          intro _
          apply Returns.exceptRest _ fun _ _ => nofun
          rintro timestamp _ ⟨⟩ _ ⟨⟩
          rfl
      | _ =>
          apply Returns.exceptRest _ fun _ _ => nofun
          rintro _ _ ⟨⟩ _ ⟨⟩ <;> rfl

theorem tunnelStateTransition_returns (transition : TunnelStateTransition)
    (currentState : VpnStatus) :
    Returns (fun result => ∀ processed, result = .ok processed →
        processed.vpnStatus.isAccepted = false)
      (VpnSessionStorage.tunnelStateTransition transition currentState).run := by
  apply Returns.exceptRest _ fun _ _ => nofun
  intro row
  cases row with
  | none =>
      cases transition with
      | disconnecting action =>
          cases currentState <;> first | trivial | (rintro _ ⟨⟩; rfl)
      | error errorState =>
          apply Returns.exceptRest _ fun _ _ => nofun
          rintro timestamp _ ⟨⟩
          rfl
      | _ =>
          rintro _ ⟨⟩
          rfl
  | some row =>
      cases transition with
      | connected =>
          iterate 5
            apply Returns.exceptRest _ fun _ _ => nofun
            intro _
          rintro _ ⟨⟩
          rfl
      | error errorState =>
          apply Returns.exceptRest _ fun _ _ => nofun
          rintro timestamp _ ⟨⟩
          rfl
      | _ =>
          rintro _ ⟨⟩
          rfl

theorem handleVpnSessionStatus_tells (status : VpnSessionStatus) (h : Informed accepts shared) :
    Tells accepts .loop (Daemon.handleVpnSessionStatus status) (fun _ => Informed accepts)
      shared := by
  have hsilent : Within Op.isSilent (VpnSessionStorage.updatedServerStatus status).run :=
    (VpnSessionStorage.updatedServerStatus_within status).mono fun op hop => by
      cases op <;> first | rfl | cases hop
  refine .bind (((informed_of_within hsilent h).and_returns
    (updatedServerStatus_returns status)).mono fun result moved hmoved => ?_)
  cases result with
  | error error => trivial
  | ok processed =>
      obtain ⟨hmoved, hplain⟩ := hmoved
      apply Daemon.statusProcessed_ensures processed
      · exact fun _ hlater _ => hlater.of_undisturbed
      · exact fun _ _ => addNotification_tells _ hmoved
      · exact fun _ => hmoved
      · exact fun _ hstatus _ _ => setVpnStatus_tells (hplain processed rfl _ hstatus)
      · intro newVpnStatus last hlast
        apply informed_of_within _ hlast
        unfold Daemon.updateTunnelOnNewStatus
        split <;> first | trivial | exact within_perform rfl

theorem handleTunnelStateTransition_tells (transition : TunnelStateTransition)
    (h : Informed accepts shared) :
    Tells accepts .loop (Daemon.handleTunnelStateTransition transition)
      (fun _ => Informed accepts) shared := by
  refine .bind ((readState_tells h).mono fun state moved hmoved => ?_)
  have hsilent := (VpnSessionStorage.tunnelStateTransition_within transition
    state.vpnStatus).mono fun _ => isSilent_of_inLookup
  refine .bind (((informed_of_within hsilent hmoved.1).and_returns
    (tunnelStateTransition_returns transition _)).mono fun result later hlater => ?_)
  cases result with
  | error error => trivial
  | ok processed =>
      apply Daemon.transitionProcessed_ensures (I := Informed accepts) (J := Informed accepts)
        processed _ _ _ _ _ _ hlater.1
      · exact fun _ _ => informed_of_within (within_perform rfl)
      · exact fun _ _ => informed_of_within (within_perform rfl)
      · exact fun _ _ _ => addNotification_tells _
      · exact fun _ _ h => h
      · exact fun _ _ => endSession_informed _
      · exact fun _ _ => setVpnStatus_tells (hlater.2 processed rfl)

/-! ## All programs -/

theorem respond_tells {response : Response} (h : Informed accepts shared) :
    Tells accepts .loop (perform (.respond response)) (fun _ => Informed accepts) shared :=
  informed_of_within (within_perform rfl) h

theorem handleCommand_tells (command : DaemonCommand) (h : Informed accepts shared) :
    Tells accepts .loop (Daemon.handleCommand command) (fun _ => Informed accepts) shared := by
  cases command with
  | connect location =>
      refine .bind ((informed_of_within (within_perform rfl) h).mono fun _ moved hmoved => ?_)
      exact .bind ((onConnectInner_tells location hmoved).mono fun _ _ => respond_tells)
  | disconnect => exact .bind ((onDisconnectInner_tells _ h).mono fun _ _ => respond_tells)
  | ackNotification id =>
      have hwritten := modifyState_tells (·.removeNotification id) h fun _ => .inl rfl
      exact .bind (hwritten.mono fun _ _ => respond_tells)
  | accountSignIn _ | accountSignOut =>
      refine informed_of_within (.bind (within_perform rfl) fun state => ?_) h
      split <;> exact within_perform rfl
  | getVpnStatus | getNotifications =>
      exact informed_of_within (.bind (within_perform rfl) fun _ => within_perform rfl) h

theorem handleEvent_tells (event : DaemonEvent) (h : Informed accepts shared) :
    Tells accepts .loop (Daemon.handleEvent event) (fun _ => Informed accepts) shared := by
  cases event with
  | command command => exact handleCommand_tells command h
  | shutdown =>
      exact .bind ((onDisconnectInner_tells _ h).mono fun _ _ hmoved _ => hmoved.of_undisturbed)
  | vpnSessionStatus status => exact handleVpnSessionStatus_tells status h
  | tunnelStateTransition transition => exact handleTunnelStateTransition_tells transition h

/-- A new process has told nobody anything, and starts disconnected. -/
theorem informed_rebooted (accepts : Prop) (shared : Shared) : Informed accepts shared.rebooted :=
  ⟨nofun, fun _ => rfl⟩

theorem startup_tells (accepts : Prop) (shared : Shared) :
    Tells accepts .loop (startup codecs) (fun _ => Informed accepts) shared.rebooted := by
  have hsilent {α : Type} {program : Async α} {moved : Shared} (h : Within Op.isSilent program)
      (hmoved : Undisturbed .loop shared.rebooted moved) :
      Tells accepts .loop program (fun _ => Undisturbed .loop shared.rebooted) moved :=
    (tells_of_within h).mono fun _ _ hrely => hmoved.trans hrely
  have hinit : Within Op.isSilent (DeviceStorage.init codecs).run :=
    DeviceStorage.init_within codecs fun op hop => by cases op <;> first | rfl | cases hop
  have htoken : Within Op.isSilent TokenStorage.getToken.run :=
    .exceptBind (within_perform rfl) fun _ => trivial
  have hcreated : Tells accepts .loop (createDaemon codecs).run
      (fun result moved => ∀ value, result = .ok value → Informed accepts moved)
      shared.rebooted := by
    refine .exceptBind ((hsilent hinit (.refl ..)).mono fun result moved hmoved => ?_)
    cases result with
    | error error => exact fun _ _ _ => nofun
    | ok _ =>
        refine .exceptBind (.adapt ((hsilent htoken hmoved).mono fun result moved hmoved => ?_))
        cases result with
        | error error => exact fun _ _ _ => nofun
        | ok _ =>
            refine .liftBind ((hsilent (within_perform rfl) hmoved).mono fun _ moved hmoved => ?_)
            refine .exceptBind (.adapt ((hsilent (within_perform rfl) hmoved).mono
              fun result moved hmoved => ?_))
            cases result with
            | error error => exact fun _ _ _ => nofun
            | ok _ =>
                refine .lift ((writeState_tells ((informed_rebooted accepts shared).of_undisturbed
                  hmoved) (.inl ?_)).mono fun _ _ hlast _ _ => hlast)
                rw [hmoved.1]
                rfl
  refine .bind (hcreated.mono fun result moved hmoved => ?_)
  cases result with
  | error error => trivial
  | ok value => exact fun _ => (hmoved value rfl).of_undisturbed

theorem isSilent_of_inBackground (h : op.inBackground = true) : op.isSilent = true := by
  cases op <;> first | rfl | cases h

theorem tells_of_inBackground {program : Async Unit} (h : Within Op.inBackground program) :
    Tells accepts role program (fun _ => Undisturbed role shared) shared :=
  tells_of_within (h.mono fun _ => isSilent_of_inBackground)

theorem governs_informing (accepts : Prop) : Governs codecs (informing accepts) where
  beside := Iff.rfl
  settles := id
  installed := rfl
  rebooted _ := rfl
  startup _ := startup_tells accepts _
  ready h hinformed := ⟨h, fun _ hrely => Informed.of_undisturbed ⟨hinformed.1, hinformed.2⟩ hrely,
    fun role _ => by cases role <;> simp [informing, Undisturbed, Shared.ready]⟩
  take event _ hinformed := handleEvent_tells event hinformed
  task _ _ := (tells_of_inBackground (Task.program_within _)).mono fun _ _ _ => trivial
  service command _ _ :=
    (tells_of_inBackground (DeviceService.handleMessage_within codecs command)).mono
      fun _ _ _ => trivial
  reclaimer _ :=
    (tells_of_inBackground (Reclaimer.reclaim_within_background codecs)).mono fun _ _ _ => trivial

/-! ## Runs -/

/-- What holds between two events of a sound pool. -/
theorem Sound.informed {machine : Machine} (h : machine.Sound (informing accepts))
    (hidle : machine.loop = .pure ()) : Informed accepts machine.shared := by
  have hkeeps := h.keeps ⟨.loop, machine.loop⟩ (List.mem_cons_self ..)
  simp only [Discipline.Keeps, hidle] at hkeeps
  exact hkeeps machine.shared (Undisturbed.refl .loop machine.shared)

/-- Between two events, subscribers show the status in memory exactly if it is not
that of an accepted session. -/
theorem lastShown_eq_iff {machine : Machine} (h : (system codecs).Reachable machine)
    (hidle : machine.loop = .pure ()) :
    Broadcast.lastShown machine.world.broadcasts = machine.world.state.vpnStatus ↔
      machine.world.state.vpnStatus.isAccepted = false := by
  obtain ⟨trace⟩ := h
  have hadmits : trace.Obeys (AdmitsStep (informing True)) :=
    trace.obeys_true.mono fun _ label _ => by
      cases label <;> simp [AdmitsStep, Admits, informing]
  have hsound := (visits_sound (governs_informing True) hadmits).last
  constructor
  · intro heq
    rw [← heq]
    exact hsound.invariant
  · exact (hsound.informed hidle).shown

theorem admitsStep_informing {machine : Machine} {label : MachineLabel}
    (h : machine.Unrecorded label) : AdmitsStep (informing False) machine label := by
  cases label with
  | loop env =>
      intro op hop _ _ _ hrecords
      simp [h op hop] at hrecords
  | job index env => exact fun job _ hrole _ _ _ _ hloop => absurd hloop hrole
  | _ => trivial

/-- In a run that records no acceptance, subscribers show the status in memory
whenever the loop is between two events. -/
theorem visits_truthful_of_unrecorded {machine : Machine} {trace : (system codecs).Trace machine}
    (h : trace.Obeys Unrecorded) : trace.Visits Truthful := by
  have hadmits := h.mono fun _ _ => admitsStep_informing
  apply (visits_sound (governs_informing False) hadmits).mono
  intro machine hsound hidle
  have hinformed := hsound.informed hidle
  apply hinformed.shown
  by_contra haccepted
  exact hinformed.recorded (by simpa using haccepted)

/-- The server refuses the session. -/
def refused (env : Env) : Env :=
  { env with newSession := .error (.server { code := .unavailable, message := "full" }) }

/-- A session is refused, and subscribers learn of the notification. -/
theorem exists_unrecorded : ∃ machine, ∃ trace : (system Sample.codecs).Trace machine,
    trace.Obeys Unrecorded ∧ machine.loop = .pure () ∧
      machine.world.broadcasts.length = 1 ∧ trace.Visits Truthful := by
  obtain ⟨machine, trace, hobeys, hcheck⟩ := (system Sample.codecs).exists_trace_of_run
    Unrecorded (rfl : installed Sample.codecs = installed Sample.codecs)
    (Sample.installing ++ Sample.requesting (refused Sample.first) 15)
    (fun machine => machine.loop.returned = some () ∧ machine.world.broadcasts.length = 1)
    (by decide +kernel)
  obtain ⟨hidle, hone⟩ := of_decide_eq_true hcheck
  exact ⟨machine, trace, hobeys, Program.returned_eq_some.mp hidle, hone,
    visits_truthful_of_unrecorded hobeys⟩

/-- A session is accepted, and subscribers still show `Disconnected`. -/
theorem not_forall_truthful :
    ¬ ∀ machine, (system Sample.codecs).Reachable machine → machine.Truthful := by
  intro h
  obtain ⟨machine, trace, -, hcheck⟩ := (system Sample.codecs).exists_trace_of_run
    (fun _ _ => True) (rfl : installed Sample.codecs = installed Sample.codecs)
    (Sample.installing ++ Sample.requesting Sample.first 11)
    (fun machine => machine.loop.returned = some () ∧
      Broadcast.lastShown machine.world.broadcasts ≠ machine.world.state.vpnStatus)
    (by decide +kernel)
  obtain ⟨hidle, hstale⟩ := of_decide_eq_true hcheck
  exact hstale (h machine ⟨trace⟩ (Program.returned_eq_some.mp hidle))

end Machine

end Modvpn
