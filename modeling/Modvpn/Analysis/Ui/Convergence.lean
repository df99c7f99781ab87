/-
# Whether the user interface shows the daemon's status

Every change of the daemon's status is sent, so the newest status in flight is the
daemon's. It is what the user ends up with if no older status arrives after it, and if
the user's own guess is followed by some status: a call that fails leaves the guess
where it is. Outside these two conditions the interface keeps showing a status that the
daemon does not have.
-/

import Modvpn.Ui.VpnStatusContext

namespace Modvpn.Ui

open Modvpn.Protocol

/-- The statuses in flight, the newest last. -/
def statuses (messages : List Message) : List VpnStatus := messages.filterMap (·.status)

@[simp]
theorem statuses_append (first second : List Message) :
    statuses (first ++ second) = statuses first ++ statuses second := by
  simp [statuses]

theorem statuses_eq_nil {messages : List Message} :
    statuses messages = [] ↔ messages.all (·.status.isNone) = true := by
  simp [statuses]

namespace Message

/-- The reducer shows the status it is told. -/
theorem dispatched_vpnStatus {message : Message} {vpnStatus : VpnStatus}
    (h : message.status = some vpnStatus) (state : VpnStatusState) :
    (message.dispatched state).vpnStatus = some vpnStatus := by
  cases message with
  | event told =>
      cases h
      rfl
  | reply call result =>
      cases result with
      | error error => cases h
      | ok told =>
          cases h
          cases call <;> rfl

theorem dispatched_of_status_eq_none {message : Message} (h : message.status = none)
    (state : VpnStatusState) : message.dispatched state = state := by
  cases message with
  | event told => cases h
  | reply call result =>
      cases result with
      | error error => rfl
      | ok told => cases h

end Message

/-- What is sent after a call tells the status the daemon then has, and nothing is sent
without a status unless the status stays as it is. -/
theorem handleCall_statuses {state next : DaemonState} {call : Call} {outcome : Outcome}
    {sent : List Message} (h : handleCall state call outcome = some (next, sent)) :
    sent ≠ [] ∧ ((statuses sent).getLast? = some next.vpnStatus ∨
      statuses sent = [] ∧ next.vpnStatus = state.vpnStatus) := by
  cases outcome with
  | failed error =>
      cases h
      exact ⟨List.cons_ne_nil _ _, .inr ⟨rfl, rfl⟩⟩
  | done =>
      cases call with
      | connect location =>
          simp only [handleCall] at h
          split at h
          · cases h
          · cases h
            exact ⟨List.cons_ne_nil _ _, .inl rfl⟩
      | disconnect location =>
          cases h
          exact ⟨List.cons_ne_nil _ _, .inl rfl⟩
      | getVpnStatus =>
          cases h
          exact ⟨List.cons_ne_nil _ _, .inl rfl⟩
  | refused =>
      simp only [handleCall] at h
      split at h
      · rename_i location hidle
        cases h
        rw [DaemonState.vpnSessionInProgress_eq_none] at hidle
        exact ⟨List.cons_ne_nil _ _, .inl (congrArg some hidle.symm)⟩
      · cases h

namespace Desktop

/-- The newest status in flight does not overtake an older one, and no error is the
last thing to arrive after a guess. -/
def InTurn (desktop : Desktop) : DesktopLabel → Prop
  | .deliver index => ∀ message ∈ desktop.inFlight[index]?,
      (message.status.isSome = true →
        (desktop.inFlight.take index).all (·.status.isNone) = true ∨
          (desktop.inFlight.drop (index + 1)).any (·.status.isSome) = true) ∧
      (message.status.isNone = true → desktop.calls = [] → desktop.inFlight = [message] →
        desktop.guessing = false)
  | _ => True

/-- The newest status in flight is the daemon's; with none in flight the user sees it,
or a guess, and then something is still to arrive. -/
structure Converging (desktop : Desktop) : Prop where
  newest : ∀ vpnStatus, (statuses desktop.inFlight).getLast? = some vpnStatus →
    vpnStatus = desktop.daemon.vpnStatus
  shown : statuses desktop.inFlight = [] → desktop.guessing = false →
    desktop.ui.vpnStatus = some desktop.daemon.vpnStatus
  pending : desktop.guessing = true → desktop.calls ≠ [] ∨ desktop.inFlight ≠ []

variable {source target : Desktop}

theorem Converging.converged (h : source.Converging) : source.Converged := by
  intro hcalls hinFlight
  have hguessing : source.guessing = false := by
    cases hguess : source.guessing with
    | false => rfl
    | true =>
        rcases h.pending hguess with hne | hne
        · exact absurd hcalls hne
        · exact absurd hinFlight hne
  apply h.shown _ hguessing
  rw [hinFlight]
  rfl

/-- The daemon sends. -/
theorem Converging.send (h : source.Converging) {daemon : DaemonState} {calls : List Call}
    {sent : List Message} (hsent : sent ≠ [])
    (hstatus : (statuses sent).getLast? = some daemon.vpnStatus ∨
      statuses sent = [] ∧ daemon.vpnStatus = source.daemon.vpnStatus) :
    Converging { source with daemon, calls, inFlight := source.inFlight ++ sent } where
  newest := by
    intro vpnStatus hlast
    rw [statuses_append] at hlast
    rcases hstatus with hnew | ⟨hnone, hsame⟩
    · rw [List.getLast?_append, hnew] at hlast
      exact (Option.some.inj hlast).symm
    · rw [hnone, List.append_nil] at hlast
      exact (h.newest vpnStatus hlast).trans hsame.symm
  shown := by
    intro hnone hguessing
    rw [statuses_append, List.append_eq_nil_iff] at hnone
    rcases hstatus with hnew | ⟨-, hsame⟩
    · rw [hnone.2] at hnew
      cases hnew
    · exact (h.shown hnone.1 hguessing).trans (congrArg some hsame.symm)
  pending _ := .inr (List.append_ne_nil_of_right_ne_nil _ hsent)

/-- A status arrives. -/
theorem Converging.told (h : source.Converging) {before after : List Message} {message : Message}
    {vpnStatus : VpnStatus} (hinFlight : source.inFlight = before ++ message :: after)
    (hstatus : message.status = some vpnStatus)
    (hturn : statuses before = [] ∨ statuses after ≠ []) :
    Converging { source with
      ui := message.dispatched source.ui
      inFlight := before ++ after
      guessing := false } := by
  have hnewest := h.newest
  have hall : statuses source.inFlight = statuses before ++ vpnStatus :: statuses after := by
    rw [hinFlight, statuses_append]
    simp [statuses, hstatus]
  rw [hall] at hnewest
  refine ⟨fun last hlast => ?_, fun hnone _ => ?_, nofun⟩
  · rw [statuses_append] at hlast
    by_cases hafter : statuses after = []
    · rcases hturn with hbefore | hne
      · rw [hbefore, hafter] at hlast
        cases hlast
      · exact absurd hafter hne
    · apply hnewest last
      have hsome := List.getLast?_eq_some_getLast hafter
      rw [← hlast]
      simp [List.getLast?_append, List.getLast?_cons, hsome]
  · rw [statuses_append, List.append_eq_nil_iff] at hnone
    rw [message.dispatched_vpnStatus hstatus]
    apply congrArg some
    apply hnewest vpnStatus
    rw [hnone.1, hnone.2]
    rfl

/-- An error arrives. -/
theorem Converging.excused (h : source.Converging) {before after : List Message} {message : Message}
    (hinFlight : source.inFlight = before ++ message :: after) (hstatus : message.status = none)
    (hturn : source.calls = [] → before = [] → after = [] → source.guessing = false) :
    Converging { source with inFlight := before ++ after } := by
  have hall : statuses source.inFlight = statuses (before ++ after) := by
    rw [hinFlight]
    simp [statuses, hstatus]
  refine ⟨?_, ?_, fun hguessing => ?_⟩
  · intro vpnStatus hlast
    exact h.newest vpnStatus (hall ▸ hlast)
  · intro hnone hguessing
    exact h.shown (hall ▸ hnone) hguessing
  · by_cases hcalls : source.calls = []
    · right
      intro hempty
      rw [List.append_eq_nil_iff] at hempty
      rw [hturn hcalls hempty.1 hempty.2] at hguessing
      cases hguessing
    · exact .inl hcalls

theorem Converging.step {label : DesktopLabel} (h : source.Converging)
    (hturn : source.InTurn label) (hstep : source.step label = some target) :
    target.Converging := by
  cases label with
  | act call =>
      cases hstep
      exact ⟨h.newest, nofun, fun _ => .inl (List.append_ne_nil_of_right_ne_nil _ (by simp))⟩
  | setVpnStatus vpnStatus =>
      cases hstep
      exact h.send (List.cons_ne_nil _ _) (.inl rfl)
  | handle index outcome =>
      simp only [Desktop.step] at hstep
      split at hstep
      · cases hstep
      · split at hstep
        · cases hstep
        · rename_i daemon sent hhandle
          cases hstep
          obtain ⟨hsent, hstatus⟩ := handleCall_statuses hhandle
          exact h.send hsent hstatus
  | deliver index =>
      simp only [Desktop.step] at hstep
      split at hstep
      · cases hstep
      · rename_i message hmessage
        split at hstep
        · cases hstep
        · cases hstep
          obtain ⟨hlast, hguess⟩ := hturn message hmessage
          obtain ⟨hindex, rfl⟩ := List.getElem?_eq_some_iff.1 hmessage
          have hinFlight : source.inFlight = source.inFlight.take index ++
              source.inFlight[index] :: source.inFlight.drop (index + 1) := by simp
          rw [List.eraseIdx_eq_take_drop_succ]
          generalize source.inFlight[index] = message at *
          cases hstatus : message.status with
          | none =>
              rw [message.dispatched_of_status_eq_none hstatus]
              simp only [Option.isNone_none, Bool.and_true]
              apply h.excused hinFlight hstatus
              intro hcalls hbefore hafter
              apply hguess (by rw [hstatus]; rfl) hcalls
              rw [hinFlight, hbefore, hafter]
              rfl
          | some vpnStatus =>
              simp only [Option.isNone_some, Bool.and_false]
              apply h.told hinFlight hstatus
              rcases hlast (by rw [hstatus]; rfl) with hbefore | hafter
              · exact .inl (statuses_eq_nil.2 hbefore)
              · right
                rw [Ne, statuses_eq_nil]
                simpa [Option.isSome_iff_ne_none] using hafter

instance (desktop : Desktop) : DecidablePred desktop.InTurn
  | .deliver index => inferInstanceAs (Decidable (∀ message ∈ desktop.inFlight[index]?, _))
  | .act _ | .handle _ _ | .setVpnStatus _ => .isTrue trivial

namespace Sample

def location : Location where
  code := "de_berlin"
  country := "Germany"
  countryCode := "de"
  city := "Berlin"
  cityCode := "ber"
  state := none
  stateCode := none
  estimate := none

/-- The status is asked for, and told. -/
def started : List DesktopLabel := [.handle 0 .done, .deliver 0]

end Sample

open Desktop.Sample

end Desktop

end Modvpn.Ui
