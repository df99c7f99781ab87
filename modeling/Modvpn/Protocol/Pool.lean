/-
# Pools of programs that share a state

Several programs, each in a role, take turns at performing their operations. A
discipline assigns every role a contract, a postcondition, and the roles it may
run beside, and says which invariant of the shared state they all maintain. Its
one obligation is the rely-guarantee condition: an operation that discharges the
duty of its role preserves the invariant and is something every other role relies
on.

A pool is sound when the invariant holds and every program keeps the contract of
its role. The rules say that performing an operation, starting a program where
another one has ended, and removing one keep a pool sound. Between two operations
the state may also `settle`, which every role tolerates.
-/

import Mathlib.Data.List.Pairwise
import Modvpn.Protocol.Program

namespace Modvpn.Protocol

universe u v

variable {S : Signature} {ε : Type u} {σ : Type v} {ρ : Type}

/-- A program in a role. -/
structure Job (S : Signature) (ρ : Type) where
  role : ρ
  program : Program S Unit

/-- The terms on which roles share a state. -/
structure Discipline (M : Semantics S ε σ) (ρ : Type) where
  contract : ρ → Contract S ε σ
  post : ρ → σ → Prop
  /-- Programs in these two roles may run at the same time. -/
  beside : ρ → ρ → Prop
  beside_symm : ∀ {first second}, beside first second → beside second first
  invariant : σ → Prop
  /-- What may happen to the state without any program's doing. -/
  settles : σ → σ → Prop
  rely_of_settles : ∀ role {state moved}, settles state moved → (contract role).rely state moved
  invariant_of_settles : ∀ {state moved}, settles state moved → invariant state →
    invariant moved
  perform : ∀ {role op choice state}, invariant state →
    (contract role).admits op choice state → (contract role).duty op choice state →
      invariant (M.answer op choice state).2 ∧
        ∀ other, beside role other → (contract other).rely state (M.answer op choice state).2

namespace Discipline

variable {M : Semantics S ε σ} (D : Discipline M ρ)

/-- The program keeps the contract of its role. -/
def Keeps (job : Job S ρ) (state : σ) : Prop :=
  job.program.Ensures M (D.contract job.role) (fun _ => D.post job.role) state

/-- Every program keeps its contract, and they keep the invariant. -/
structure Sound (jobs : List (Job S ρ)) (state : σ) : Prop where
  invariant : D.invariant state
  beside : (jobs.map Job.role).Pairwise D.beside
  keeps : ∀ job ∈ jobs, D.Keeps job state

variable {D} {jobs before after : List (Job S ρ)} {job : Job S ρ} {state moved : σ}

theorem Sound.settle (h : D.Sound jobs state) (hsettles : D.settles state moved) :
    D.Sound jobs moved :=
  ⟨D.invariant_of_settles hsettles h.invariant, h.beside,
    fun job hjob => (h.keeps job hjob).of_rely (D.rely_of_settles job.role hsettles)⟩

theorem Sound.sublist {fewer : List (Job S ρ)} (h : D.Sound jobs state)
    (hfewer : fewer.Sublist jobs) : D.Sound fewer state :=
  ⟨h.invariant, h.beside.sublist (hfewer.map _), fun job hjob => h.keeps job (hfewer.subset hjob)⟩

/-- A program that starts beside all the others. -/
theorem Sound.start (h : D.Sound jobs state) (hbeside : ∀ other ∈ jobs, D.beside other.role job.role)
    (hkeeps : D.Keeps job state) : D.Sound (jobs ++ [job]) state := by
  refine ⟨h.invariant, ?_, ?_⟩
  · rw [List.map_append, List.pairwise_append]
    refine ⟨h.beside, List.pairwise_singleton .., ?_⟩
    simpa using hbeside
  · simpa [or_imp, forall_and] using ⟨h.keeps, hkeeps⟩

/-- A program that takes the place of another one in the same role. -/
theorem Sound.replace {program : Program S Unit} (h : D.Sound (before ++ job :: after) state)
    (hkeeps : D.Keeps { job with program } state) :
    D.Sound (before ++ { job with program } :: after) state := by
  refine ⟨h.invariant, by simpa using h.beside, fun other hother => ?_⟩
  rcases List.mem_append.mp hother with hbefore | hafter
  · exact h.keeps other (List.mem_append_left _ hbefore)
  · rcases List.mem_cons.mp hafter with rfl | hafter
    · exact hkeeps
    · exact h.keeps other (List.mem_append_right _ (List.mem_cons_of_mem _ hafter))

/-- Whoever performs an operation, the pool stays sound. -/
theorem Sound.perform {op : S.Op} {next : S.Resp op → Program S Unit} {choice : ε}
    (h : D.Sound (before ++ job :: after) state) (hprogram : job.program = .perform op next)
    (hadmits : (D.contract job.role).admits op choice state) :
    D.Sound (before ++ { job with program := next (M.answer op choice state).1 } :: after)
      (M.answer op choice state).2 := by
  have hjob : job ∈ before ++ job :: after := by simp
  have hkeeps := h.keeps job hjob
  rw [Keeps, hprogram] at hkeeps
  obtain ⟨hduty, hnext⟩ := hkeeps.step hadmits
  obtain ⟨hinvariant, hrely⟩ := D.perform h.invariant hadmits hduty
  have hbeside := h.beside
  rw [List.map_append, List.map_cons, List.pairwise_append, List.pairwise_cons] at hbeside
  obtain ⟨-, ⟨hafter, -⟩, hbefore⟩ := hbeside
  refine ⟨hinvariant, by simpa using h.beside, fun other hother => ?_⟩
  rcases List.mem_append.mp hother with hmem | hmem
  · have hother := D.beside_symm (hbefore other.role (List.mem_map_of_mem hmem) job.role
      (List.mem_cons_self ..))
    exact (h.keeps other (List.mem_append_left _ hmem)).of_rely (hrely _ hother)
  · rcases List.mem_cons.mp hmem with rfl | hmem
    · exact hnext
    · have hother := hafter other.role (List.mem_map_of_mem hmem)
      exact (h.keeps other (List.mem_append_right _ (List.mem_cons_of_mem _ hmem))).of_rely
        (hrely _ hother)

end Discipline

/-! ## Invariants that need no contracts -/

/-- The terms of a program that may do anything at any time. -/
def Contract.free : Contract S ε σ where
  rely _ _ := True
  admits _ _ _ := True
  duty _ _ _ := True
  rely_refl _ := trivial
  rely_trans _ _ := trivial

theorem Program.ensures_free {M : Semantics S ε σ} {α : Type} (program : Program S α)
    (state : σ) : program.Ensures M .free (fun _ _ => True) state :=
  program.ensures_of_duty (fun _ _ _ => trivial) state

/-- The discipline of an invariant that no operation can break. -/
def Discipline.ofInvariant {M : Semantics S ε σ} (invariant : σ → Prop) (beside : ρ → ρ → Prop)
    (beside_symm : ∀ {first second}, beside first second → beside second first)
    (settles : σ → σ → Prop)
    (invariant_of_settles : ∀ {state moved}, settles state moved → invariant state →
      invariant moved)
    (perform : ∀ {op choice state}, invariant state → invariant (M.answer op choice state).2) :
    Discipline M ρ where
  contract _ := .free
  post _ _ := True
  beside := beside
  beside_symm := beside_symm
  invariant := invariant
  settles := settles
  rely_of_settles _ _ _ _ := trivial
  invariant_of_settles := invariant_of_settles
  perform hinvariant _ _ := ⟨perform hinvariant, fun _ _ => trivial⟩

/-! ## The same terms for all -/

/-- One contract for every program, and an invariant that its duties keep. -/
structure Terms (M : Semantics S ε σ) where
  contract : Contract S ε σ
  invariant : σ → Prop
  perform : ∀ {op choice state}, invariant state → contract.admits op choice state →
    contract.duty op choice state →
      invariant (M.answer op choice state).2 ∧ contract.rely state (M.answer op choice state).2

namespace Terms

variable {M : Semantics S ε σ} (T : Terms M)

/-- A move that every program tolerates. -/
def Tolerates (state moved : σ) : Prop :=
  T.contract.rely state moved ∧ (T.invariant state → T.invariant moved)

/-- The program keeps the contract. -/
def Keeps (program : Program S Unit) (state : σ) : Prop :=
  program.Ensures M T.contract (fun _ _ => True) state

def discipline (ρ : Type) : Discipline M ρ where
  contract _ := T.contract
  post _ _ := True
  beside _ _ := True
  beside_symm _ := trivial
  invariant := T.invariant
  settles := T.Tolerates
  rely_of_settles _ _ _ h := h.1
  invariant_of_settles h := h.2
  perform hinvariant hadmits hduty :=
    ⟨(T.perform hinvariant hadmits hduty).1, fun _ _ => (T.perform hinvariant hadmits hduty).2⟩

variable {T} {jobs : List (Job S ρ)} {state moved : σ}

theorem sound_discipline : (T.discipline ρ).Sound jobs state ↔
    T.invariant state ∧ ∀ job ∈ jobs, T.Keeps job.program state := by
  constructor
  · intro h
    exact ⟨h.invariant, h.keeps⟩
  · rintro ⟨hinvariant, hkeeps⟩
    exact ⟨hinvariant, List.pairwise_of_forall fun _ _ => trivial, hkeeps⟩

/-- Operations that owe nothing, given that the answers are as the contract admits them. -/
theorem keeps_of_onlyGiven {A : ∀ op, S.Resp op → Prop} {P : S.Op → Prop} {program : Program S Unit}
    (h : program.OnlyGiven A P)
    (hduty : ∀ {op} choice state, P op → T.contract.duty op choice state)
    (hexpected : ∀ {op choice state}, T.contract.admits op choice state →
      A op (M.answer op choice state).1) (state : σ) : T.Keeps program state := by
  apply h.ensures (I := fun _ => True) _ (fun hadmits _ => hexpected hadmits) (fun _ _ => trivial)
    (fun _ _ _ => trivial) trivial
  exact fun hop _ _ => hduty _ _ hop

variable (T) in
/-- Nothing is owed for the operation at any time. -/
def Carefree (op : S.Op) : Prop := ∀ choice state, T.contract.duty op choice state

theorem keeps_of_carefree {program : Program S Unit} (h : program.Only T.Carefree) (state : σ) :
    T.Keeps program state :=
  keeps_of_onlyGiven (A := fun _ _ => True) h.onlyGiven (fun choice state hop => hop choice state)
    (fun _ => trivial) state

end Terms

end Modvpn.Protocol
