/-
# Labelled transition systems and their histories

A system is an executable partial step function together with a predicate on
starting states. Every choice the environment makes is part of the label, so one
label has at most one outcome and a list of labels can be run by evaluation.

The proofs do not use the runner. They use histories, which retain every state
that was visited, and two predicates on a history: `Visits` speaks about the
states and `Obeys` about the steps. A property that survives only while every
step meets a side condition is an implication from `Obeys` to `Visits`; a side
condition that is exact is an equivalence between them.
-/

import Mathlib.Data.List.Basic

namespace Modvpn.Protocol

universe u v

/-- A system with labelled, executable steps. -/
structure TransitionSystem (σ : Type u) (α : Type v) where
  /-- The states a history may start in. -/
  Init : σ → Prop
  /-- The outcome of a label, or `none` where the label is not enabled. -/
  step : σ → α → Option σ

namespace TransitionSystem

variable {σ : Type u} {α : Type v} (M : TransitionSystem σ α)

/-- A history of the system that ends in the indexed state. -/
inductive Trace : σ → Type (max u v)
  | start {state : σ} (hinit : M.Init state) : Trace state
  | extend {source target : σ} (prior : Trace source) (label : α)
      (hstep : M.step source label = some target) : Trace target

variable {M}

namespace Trace

/-- Every state visited, the last one included, satisfies the predicate. -/
def Visits (P : σ → Prop) : ∀ {state : σ}, M.Trace state → Prop
  | state, .start _ => P state
  | state, .extend prior _ _ => prior.Visits P ∧ P state

/-- Every step taken satisfies the condition on its source and its label. -/
def Obeys (C : σ → α → Prop) : ∀ {state : σ}, M.Trace state → Prop
  | _, .start _ => True
  | _, @Trace.extend _ _ _ source _ prior label _ => prior.Obeys C ∧ C source label

theorem Visits.last {P : σ → Prop} {state : σ} {trace : M.Trace state}
    (h : trace.Visits P) : P state := by
  cases trace with
  | start hinit => exact h
  | extend prior label hstep => exact h.2

theorem Visits.mono {P Q : σ → Prop} (himp : ∀ state, P state → Q state) {state : σ}
    {trace : M.Trace state} (h : trace.Visits P) : trace.Visits Q := by
  induction trace with
  | start hinit => exact himp _ h
  | extend prior label hstep ih => exact ⟨ih h.1, himp _ h.2⟩

theorem Obeys.mono {C D : σ → α → Prop} (himp : ∀ state label, C state label → D state label)
    {state : σ} {trace : M.Trace state} (h : trace.Obeys C) : trace.Obeys D := by
  induction trace with
  | start hinit => trivial
  | extend prior label hstep ih => exact ⟨ih h.1, himp _ _ h.2⟩

theorem obeys_true {state : σ} (trace : M.Trace state) :
    trace.Obeys fun _ _ => True := by
  induction trace with
  | start _ => trivial
  | extend _ _ _ ih => exact ⟨ih, trivial⟩

/-- The invariant rule for guarded histories. -/
theorem visits_of_obeys {I : σ → Prop} {C : σ → α → Prop}
    (hinit : ∀ state, M.Init state → I state)
    (hstep : ∀ source label target, M.step source label = some target →
      C source label → I source → I target)
    {state : σ} {trace : M.Trace state} (hobeys : trace.Obeys C) : trace.Visits I := by
  induction trace with
  | start h => exact hinit _ h
  | extend prior label h ih =>
      have hprior := ih hobeys.1
      exact ⟨hprior, hstep _ _ _ h hobeys.2 hprior.last⟩

/-- The rule for a property of steps: the invariant is carried by the condition
and yields the property of every step. -/
theorem obeys_of_obeys {I : σ → Prop} {C D : σ → α → Prop}
    (hinit : ∀ state, M.Init state → I state)
    (hstep : ∀ source label target, M.step source label = some target →
      C source label → I source → I target ∧ D source label)
    {state : σ} {trace : M.Trace state} (hobeys : trace.Obeys C) : trace.Obeys D := by
  induction trace with
  | start h => trivial
  | extend prior label h ih =>
      have hprior := visits_of_obeys hinit
        (fun source label target h hcond hI => (hstep source label target h hcond hI).1)
        hobeys.1
      exact ⟨ih hobeys.1, (hstep _ _ _ h hobeys.2 hprior.last).2⟩

/-- The rule for an exact side condition: as long as the property has held so
far, a step keeps it precisely when the step meets the condition. The invariant
holds in any case. -/
theorem visits_iff_obeys {I P : σ → Prop} {C : σ → α → Prop}
    (hinit : ∀ state, M.Init state → I state ∧ P state)
    (hkeep : ∀ source label target, M.step source label = some target →
      I source → I target)
    (hstep : ∀ source label target, M.step source label = some target →
      I source → P source → (P target ↔ C source label))
    {state : σ} (trace : M.Trace state) : trace.Visits P ↔ trace.Obeys C := by
  induction trace with
  | start h => exact ⟨fun _ => trivial, fun _ => (hinit _ h).2⟩
  | extend prior label h ih =>
      have hinvariant : prior.Visits I := visits_of_obeys (fun state h => (hinit state h).1)
        (fun source label target h _ => hkeep source label target h) prior.obeys_true
      constructor
      · rintro ⟨hprior, htarget⟩
        exact ⟨ih.mp hprior, (hstep _ _ _ h hinvariant.last hprior.last).mp htarget⟩
      · rintro ⟨hprior, hcond⟩
        have hvisits := ih.mpr hprior
        exact ⟨hvisits, (hstep _ _ _ h hinvariant.last hvisits.last).mpr hcond⟩

/-- A condition that no step of a good history can have violated. -/
theorem obeys_of_visits {I P : σ → Prop} {C : σ → α → Prop}
    (hinit : ∀ state, M.Init state → I state)
    (hkeep : ∀ source label target, M.step source label = some target →
      I source → I target)
    (hstep : ∀ source label target, M.step source label = some target →
      I source → P target → C source label)
    {state : σ} {trace : M.Trace state} (hvisits : trace.Visits P) : trace.Obeys C := by
  induction trace with
  | start h => trivial
  | extend prior label h ih =>
      have hinvariant : prior.Visits I := visits_of_obeys hinit
        (fun source label target h _ => hkeep source label target h) prior.obeys_true
      exact ⟨ih hvisits.1, hstep _ _ _ h hinvariant.last hvisits.2⟩

end Trace

variable (M)

/-- A state some history reaches. -/
def Reachable (state : σ) : Prop := Nonempty (M.Trace state)

variable {M} in
theorem Reachable.step {source target : σ} {label : α} (h : M.Reachable source)
    (hstep : M.step source label = some target) : M.Reachable target := by
  obtain ⟨trace⟩ := h
  exact ⟨trace.extend label hstep⟩

/-- The invariant rule for unguarded histories. -/
theorem Reachable.invariant {I : σ → Prop}
    (hinit : ∀ state, M.Init state → I state)
    (hstep : ∀ source label target, M.step source label = some target →
      I source → I target)
    {state : σ} (h : M.Reachable state) : I state := by
  obtain ⟨trace⟩ := h
  exact (Trace.visits_of_obeys hinit
    (fun source label target h _ => hstep source label target h) trace.obeys_true).last

/-! ## From one state to another -/

/-- Steps that all meet the condition lead from the origin to the indexed state. -/
inductive Leads (C : σ → α → Prop) (origin : σ) : σ → Prop
  | here : Leads C origin origin
  | extend {source target : σ} {label : α} (prior : Leads C origin source)
      (hcond : C source label) (hstep : M.step source label = some target) :
      Leads C origin target

variable {M} in
theorem Reachable.leads {C : σ → α → Prop} {origin state : σ} (h : M.Reachable origin)
    (hleads : M.Leads C origin state) : M.Reachable state := by
  induction hleads with
  | here => exact h
  | extend prior hcond hstep ih => exact ih.step hstep

variable {M} in
theorem Leads.trans {C : σ → α → Prop} {origin middle state : σ} (first : M.Leads C origin middle)
    (second : M.Leads C middle state) : M.Leads C origin state := by
  induction second with
  | here => exact first
  | extend prior hcond hstep ih => exact ih.extend hcond hstep

variable {M} in
/-- What the steps preserve leads along. -/
theorem Leads.invariant {C : σ → α → Prop} {I : σ → Prop} {origin state : σ}
    (h : M.Leads C origin state) (horigin : I origin)
    (hstep : ∀ source label target, M.step source label = some target → C source label →
      I source → I target) : I state := by
  induction h with
  | here => exact horigin
  | extend prior hcond h ih => exact hstep _ _ _ h hcond ih

/-! ## Running a list of labels -/

/-- Take the labels one after another, each under the condition. -/
def run (C : σ → α → Prop) [∀ state label, Decidable (C state label)] :
    σ → List α → Option σ
  | state, [] => some state
  | state, label :: rest =>
      if C state label then
        match M.step state label with
        | none => none
        | some next => run C next rest
      else none

theorem exists_trace_of_run_eq_some {C : σ → α → Prop}
    [∀ state label, Decidable (C state label)] {labels : List α} {source target : σ}
    (hrun : M.run C source labels = some target)
    (h : ∃ trace : M.Trace source, trace.Obeys C) :
    ∃ trace : M.Trace target, trace.Obeys C := by
  induction labels generalizing source with
  | nil =>
      cases hrun
      exact h
  | cons label rest ih =>
      obtain ⟨trace, hobeys⟩ := h
      rw [run] at hrun
      split at hrun
      · rename_i hcond
        split at hrun
        · cases hrun
        · rename_i next hstep
          exact ih hrun ⟨trace.extend label hstep, hobeys, hcond⟩
      · cases hrun

theorem leads_of_run_eq_some {C : σ → α → Prop} [∀ state label, Decidable (C state label)]
    {labels : List α} {origin source target : σ} (hrun : M.run C source labels = some target)
    (h : M.Leads C origin source) : M.Leads C origin target := by
  induction labels generalizing source with
  | nil =>
      cases hrun
      exact h
  | cons label rest ih =>
      rw [run] at hrun
      split at hrun
      · rename_i hcond
        split at hrun
        · cases hrun
        · rename_i next hstep
          exact ih hrun (h.extend hcond hstep)
      · cases hrun

/-- Evaluating a run and a check on its outcome exhibits a history. -/
theorem exists_trace_of_run (C : σ → α → Prop) [∀ state label, Decidable (C state label)]
    {source : σ} (hinit : M.Init source) (labels : List α) (check : σ → Bool)
    (hrun : (M.run C source labels).any check = true) :
    ∃ target, ∃ trace : M.Trace target, trace.Obeys C ∧ check target = true := by
  rw [Option.any_eq_true] at hrun
  obtain ⟨target, htarget, hcheck⟩ := hrun
  obtain ⟨trace, hobeys⟩ := M.exists_trace_of_run_eq_some htarget ⟨.start hinit, trivial⟩
  exact ⟨target, trace, hobeys, hcheck⟩

end TransitionSystem

end Modvpn.Protocol
