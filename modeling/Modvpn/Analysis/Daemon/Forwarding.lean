/-
# What a watcher forwards

Of the replies to its polls a watcher drops the errors, of equal statuses in a row it
keeps one, and it stops after the first that ends the watch. This is a pipeline of
functions that grow with their input, so it has a meaning on an unbounded sequence of
polls as well. When the daemon has gone, the first status that would be sent ends the
watch.
-/

import Modvpn.Daemon.WatcherLoop
import Modvpn.Protocol.Growing

namespace Modvpn

open Modvpn.Protocol
open Stream' (Seq)

namespace Watcher

/-! ## What is to be forwarded -/

/-- The changes among the statuses the server reports. -/
def changes : Growing (Except VpnSessionError VpnSessionStatus) VpnSessionStatus :=
  (Growing.filterMap Except.toOption).andThen Growing.collapse

/-- They are forwarded up to the first that ends the watch. -/
def forwarded : Growing (Except VpnSessionError VpnSessionStatus) VpnSessionStatus :=
  changes.andThen (Growing.cutAfter VpnSessionStatus.isEndState)

/-! ## One watch -/

/-- Polls while the daemon receives events. -/
def received (replies : List (Except VpnSessionError VpnSessionStatus)) : List Poll :=
  replies.map (⟨·, true⟩)

/-- Polls after the daemon has gone. -/
def unheard (replies : List (Except VpnSessionError VpnSessionStatus)) : List Poll :=
  replies.map (⟨·, false⟩)

variable {watcher : Watcher} {replies : List (Except VpnSessionError VpnSessionStatus)}

theorem run_unheard : watcher.run (unheard replies) =
    ⟨[], !(Growing.changesFrom watcher.lastWatch (replies.filterMap Except.toOption)).isEmpty⟩ := by
  induction replies generalizing watcher with
  | nil => rfl
  | cons reply rest ih =>
      cases reply with
      | error error => exact ih
      | ok status =>
          have hstatus : (Except.ok status :: rest).filterMap Except.toOption =
              status :: rest.filterMap (Except.toOption (ε := VpnSessionError)) := rfl
          rw [hstatus, Growing.changesFrom]
          by_cases hlast : watcher.lastWatch = some status
          · have htick : watcher.onTick ⟨.ok status, false⟩ =
                ({ watcher with lastWatch := some status }, [], false) := by
              simp only [onTick, if_pos hlast]
            rw [if_pos hlast, unheard, List.map_cons, run, htick]
            exact ih
          · have htick : watcher.onTick ⟨.ok status, false⟩ =
                ({ watcher with lastWatch := some status }, [], true) := by
              simp only [onTick, if_neg hlast, Bool.false_eq_true, if_false]
            rw [if_neg hlast, unheard, List.map_cons, run, htick]
            rfl

/-- What a watch comes to: the changes up to the first that ends it, and if there is
none, what the watch of the later polls comes to. -/
def outcome (changed : List VpnSessionStatus) (later : Watch) : Watch :=
  let sent := (Growing.upTo VpnSessionStatus.isEndState changed).map .vpnSessionStatus
  if changed.any (·.isEndState) then ⟨sent, true⟩ else ⟨sent ++ later.sent, later.stopped⟩

theorem outcome_cons (status : VpnSessionStatus) (changed : List VpnSessionStatus) (later : Watch) :
    outcome (status :: changed) later =
      if status.isEndState then ⟨[.vpnSessionStatus status], true⟩
      else { outcome changed later with
        sent := .vpnSessionStatus status :: (outcome changed later).sent } := by
  cases hfinal : status.isEndState with
  | true => simp [outcome, Growing.upTo, hfinal]
  | false =>
      by_cases hends : changed.any (·.isEndState) = true
      · simp [outcome, Growing.upTo, hfinal, hends]
      · simp [outcome, Growing.upTo, hfinal, hends]

/-- The loop goes through the replies while the daemon receives events. -/
theorem run_append (later : List Poll) :
    watcher.run (received replies ++ later) =
      outcome (Growing.changesFrom watcher.lastWatch (replies.filterMap Except.toOption))
        (run { watcher with
          lastWatch :=
            (replies.filterMap Except.toOption).getLast?.or watcher.lastWatch } later) := by
  induction replies generalizing watcher with
  | nil => rfl
  | cons reply rest ih =>
      cases reply with
      | error error => exact ih
      | ok status =>
          have hstatus : (Except.ok status :: rest).filterMap Except.toOption =
              status :: rest.filterMap (Except.toOption (ε := VpnSessionError)) := rfl
          have hlater := @ih { watcher with lastWatch := some status }
          have hseen : (status :: rest.filterMap Except.toOption).getLast?.or watcher.lastWatch =
              (rest.filterMap Except.toOption).getLast?.or (some status) := by
            rw [List.getLast?_cons]
            cases (rest.filterMap Except.toOption).getLast? <;> rfl
          rw [hstatus, hseen, Growing.changesFrom]
          by_cases hlast : watcher.lastWatch = some status
          · have htick : watcher.onTick ⟨.ok status, true⟩ =
                ({ watcher with lastWatch := some status }, [], false) := by
              simp only [onTick, if_pos hlast]
            rw [if_pos hlast, received, List.map_cons, List.cons_append, run, htick]
            exact hlater
          · have htick : watcher.onTick ⟨.ok status, true⟩ =
                ({ watcher with lastWatch := some status }, [.vpnSessionStatus status],
                  status.isEndState) := by
              simp only [onTick, if_neg hlast, if_true]
            rw [if_neg hlast, outcome_cons, received, List.map_cons, List.cons_append, run, htick]
            cases status.isEndState with
            | true => rfl
            | false =>
                simp only [Bool.false_eq_true, if_false]
                rw [← hlater]
                rfl

theorem run_received : watcher.run (received replies) =
    outcome (Growing.changesFrom watcher.lastWatch (replies.filterMap Except.toOption))
      ⟨[], false⟩ := by
  rw [← List.append_nil (received replies)]
  exact run_append []

/-! ## The watch of a session -/

/-- A status as the daemon receives it. -/
def announced : Growing VpnSessionStatus DaemonEvent := Growing.map .vpnSessionStatus

@[simp] theorem new_lastWatch (request : VpnSessionStatusRequest) :
    (new request).lastWatch = none := rfl

theorem changes_apply (replies : List (Except VpnSessionError VpnSessionStatus)) :
    changes.apply replies = Growing.changesFrom none (replies.filterMap Except.toOption) :=
  Growing.collapse_apply _

theorem sent_new (request : VpnSessionStatusRequest)
    (replies : List (Except VpnSessionError VpnSessionStatus)) :
    ((new request).run (received replies)).sent =
      (forwarded.andThen announced).apply replies := by
  rw [run_received, new_lastWatch, ← changes_apply]
  simp only [outcome, List.append_nil]
  split <;> rfl

/-- What the watcher of a session sends. -/
def sends (request : VpnSessionStatusRequest) :
    Growing (Except VpnSessionError VpnSessionStatus) DaemonEvent where
  apply replies := ((new request).run (received replies)).sent
  grows h := by
    rw [sent_new, sent_new]
    exact (forwarded.andThen announced).grows h

theorem stopped_new (request : VpnSessionStatusRequest)
    (replies : List (Except VpnSessionError VpnSessionStatus)) :
    ((new request).run (received replies)).stopped =
      (forwarded.apply replies).any (·.isEndState) := by
  have hany : (forwarded.apply replies).any (·.isEndState) =
      (changes.apply replies).any (·.isEndState) := Growing.any_upTo _ _
  rw [run_received, hany, new_lastWatch, ← changes_apply]
  simp only [outcome]
  split
  · rename_i hends
    exact hends.symm
  · rename_i hgoes
    exact (Bool.eq_false_iff.mpr hgoes).symm

/-- Once the daemon has gone nothing is sent, and the next change ends the watch. -/
theorem run_new_unheard (request : VpnSessionStatusRequest)
    (before after : List (Except VpnSessionError VpnSessionStatus)) :
    (((new request).run (received before ++ unheard after)).sent =
        (forwarded.andThen announced).apply before) ∧
      (((new request).run (received before ++ unheard after)).stopped = true ↔
        (forwarded.apply before).any (·.isEndState) = true ∨
          changes.apply (before ++ after) ≠ changes.apply before) := by
  have hany : (forwarded.apply before).any (·.isEndState) =
      (changes.apply before).any (·.isEndState) := Growing.any_upTo _ _
  have hmore : changes.apply (before ++ after) = changes.apply before ++
      Growing.changesFrom ((before.filterMap Except.toOption).getLast?.or none)
        (after.filterMap Except.toOption) := by
    rw [changes_apply, changes_apply, List.filterMap_append, Growing.changesFrom_append]
  rw [run_append, run_unheard, new_lastWatch, ← changes_apply, hany, hmore, Ne, List.append_right_eq_self]
  simp only [outcome]
  split
  · rename_i hends
    exact ⟨rfl, by simp [hends]⟩
  · rename_i hgoes
    refine ⟨List.append_nil _, ?_⟩
    simp [hgoes]

/-- On every sequence of polls, finite or infinite, the watcher sends the changes up to
the first status that ends the watch; it stops when it sends that status and goes on
until then. When the daemon has gone, the watcher stops at the first status it would
send. -/
theorem sends_eq_forwarded (request : VpnSessionStatusRequest) :
    (∀ polls : Seq (Except VpnSessionError VpnSessionStatus),
      (sends request).onSeq polls =
        announced.onSeq ((Growing.cutAfter VpnSessionStatus.isEndState).onSeq
          (Growing.collapse.onSeq ((Growing.filterMap Except.toOption).onSeq polls)))) ∧
    (∀ (polls : Seq (Except VpnSessionError VpnSessionStatus)) (n : Nat),
      ((new request).run (received (polls.take n))).stopped = true ↔
        ∃ status, .vpnSessionStatus status ∈ ((new request).run (received (polls.take n))).sent ∧
          status.isEndState = true) ∧
    (∀ before after : List (Except VpnSessionError VpnSessionStatus),
      ((new request).run (received before ++ unheard after)).sent =
        ((new request).run (received before)).sent ∧
      (((new request).run (received before ++ unheard after)).stopped = true ↔
        ((new request).run (received before)).stopped = true ∨
          changes.apply (before ++ after) ≠ changes.apply before)) := by
  refine ⟨?_, ?_, ?_⟩
  · intro polls
    rw [Growing.onSeq_congr (sent_new request), Growing.onSeq_andThen, forwarded,
      Growing.onSeq_andThen, changes, Growing.onSeq_andThen]
  · intro polls n
    have hmem (status : VpnSessionStatus) : DaemonEvent.vpnSessionStatus status ∈
        ((new request).run (received (polls.take n))).sent ↔
          status ∈ forwarded.apply (polls.take n) := by
      rw [sent_new]
      exact List.mem_map_of_injective fun _ _ heq => DaemonEvent.vpnSessionStatus.inj heq
    simp only [hmem, stopped_new, List.any_eq_true]
  · intro before after
    rw [sent_new, stopped_new]
    exact run_new_unheard request before after

end Watcher

end Modvpn
