/-
# Programs over an operation signature

An asynchronous function is a tree: it returns, it panics, or it performs one
operation and continues with the answer. The operations are the points where
other tasks may run, so one tree has two readings. `Program.run` performs the
operations back to back and is the meaning of a function that is not disturbed;
`Program.step` performs a single operation and is what a scheduler interleaves.

`Program.Ensures` is the rely-guarantee reading of a program: between any two of
its operations the shared state may move along the contract's `rely`, the
environment's answers satisfy `admits`, and every operation the program performs
owes the contract's `duty`. The bind rule makes contracts compose along `do`
blocks; the step and stability rules carry them through an interleaving.
-/

import Mathlib.Logic.Basic

namespace Modvpn.Protocol

universe u v

/-- Operations and the type of each operation's answer. -/
structure Signature where
  Op : Type
  Resp : Op → Type

/-- A finite program over the operations of a signature. -/
inductive Program (S : Signature) (α : Type) : Type
  | pure (value : α)
  | panic (message : String)
  | perform (op : S.Op) (next : S.Resp op → Program S α)

/-- How a shared state answers an operation, given the environment's choice. -/
structure Semantics (S : Signature) (ε : Type u) (σ : Type v) where
  answer : (op : S.Op) → ε → σ → S.Resp op × σ

/-- What a program that ran without interruption did. -/
inductive Outcome (σ : Type v) (α : Type) : Type v
  | returned (value : α) (state : σ)
  | panicked (message : String) (state : σ)

namespace Program

variable {S : Signature} {α β γ : Type}

/-- Continue with the value a program returns. -/
def bind : Program S α → (α → Program S β) → Program S β
  | .pure value, rest => rest value
  | .panic message, _ => .panic message
  | .perform op next, rest => .perform op fun answer => (next answer).bind rest

instance : Monad (Program S) where
  pure := .pure
  bind := .bind

@[simp]
theorem pure_def (value : α) : (Pure.pure value : Program S α) = .pure value := rfl

@[simp]
theorem map_def (f : α → β) (program : Program S α) :
    f <$> program = program.bind fun value => .pure (f value) := rfl

@[simp]
theorem bind_def (program : Program S α) (rest : α → Program S β) :
    (program >>= rest) = program.bind rest := rfl

@[simp]
theorem pure_bind (value : α) (rest : α → Program S β) :
    (Program.pure value : Program S α).bind rest = rest value := rfl

@[simp]
theorem panic_bind (message : String) (rest : α → Program S β) :
    (Program.panic message : Program S α).bind rest = .panic message := rfl

@[simp]
theorem perform_bind (op : S.Op) (next : S.Resp op → Program S α)
    (rest : α → Program S β) :
    (Program.perform op next).bind rest =
      .perform op fun answer => (next answer).bind rest := rfl

theorem bind_pure (program : Program S α) : program.bind .pure = program := by
  induction program with
  | pure value => rfl
  | panic message => rfl
  | perform op next ih => simp only [bind, ih]

theorem bind_assoc (program : Program S α) (first : α → Program S β)
    (second : β → Program S γ) :
    (program.bind first).bind second = program.bind fun value =>
      (first value).bind second := by
  induction program with
  | pure value => rfl
  | panic message => rfl
  | perform op next ih => simp only [bind, ih]

instance : LawfulMonad (Program S) :=
  LawfulMonad.mk' _ (fun program => bind_pure program) (fun _ _ => rfl)
    (fun program first second => bind_assoc program first second)

/-! ## Running without interruption -/

section Run

variable {ε : Type u} {σ : Type v} (M : Semantics S ε σ)

/-- Perform all operations; the oracle fixes the environment's answer to each. -/
def run (oracle : S.Op → ε) : Program S α → σ → Outcome σ α
  | .pure value, state => .returned value state
  | .panic message, state => .panicked message state
  | .perform op next, state =>
      let answered := M.answer op (oracle op) state
      (next answered.1).run oracle answered.2

variable {M} {oracle : S.Op → ε}

@[simp]
theorem run_pure (value : α) (state : σ) :
    (Program.pure value : Program S α).run M oracle state = .returned value state := rfl

@[simp]
theorem run_panic (message : String) (state : σ) :
    (Program.panic message : Program S α).run M oracle state =
      .panicked message state := rfl

@[simp]
theorem run_perform (op : S.Op) (next : S.Resp op → Program S α) (state : σ) :
    (Program.perform op next).run M oracle state =
      (next (M.answer op (oracle op) state).1).run M oracle
        (M.answer op (oracle op) state).2 := rfl

/-- What a sequence returns comes from both of its parts. -/
theorem exists_run_of_bind {program : Program S α} {rest : α → Program S β} {state target : σ}
    {result : β} (h : (program.bind rest).run M oracle state = .returned result target) :
    ∃ value middle, program.run M oracle state = .returned value middle ∧
      (rest value).run M oracle middle = .returned result target := by
  induction program generalizing state with
  | pure value => exact ⟨value, state, rfl, h⟩
  | panic message => cases h
  | perform op next ih => exact ih _ h

section Except

variable {δ δ' : Type}

/-- A part that may fail fails, or the rest goes on from where it returned. -/
theorem exists_run_of_exceptBind {program : ExceptT δ (Program S) α}
    {rest : α → ExceptT δ (Program S) β} {state target : σ} {result : Except δ β}
    (h : run M oracle (program >>= rest).run state = .returned result target) :
    (∃ error, run M oracle program.run state = .returned (.error error) target ∧
      result = .error error) ∨
    ∃ value middle, run M oracle program.run state = .returned (.ok value) middle ∧
      run M oracle (rest value).run middle = .returned result target := by
  obtain ⟨first, middle, hfirst, hrest⟩ := exists_run_of_bind h
  cases first with
  | error error =>
      cases hrest
      exact .inl ⟨error, hfirst, rfl⟩
  | ok value => exact .inr ⟨value, middle, hfirst, hrest⟩

/-- The same where the errors of the first part are converted. -/
theorem exists_run_of_adaptBind {program : ExceptT δ (Program S) α} {f : δ → δ'}
    {rest : α → ExceptT δ' (Program S) β} {state target : σ} {result : Except δ' β}
    (h : run M oracle (ExceptT.adapt f program >>= rest).run state = .returned result target) :
    (∃ error, run M oracle program.run state = .returned (.error error) target ∧
      result = .error (f error)) ∨
    ∃ value middle, run M oracle program.run state = .returned (.ok value) middle ∧
      run M oracle (rest value).run middle = .returned result target := by
  have hadapted {inner : Except δ' α} {middle : σ}
      (h : run M oracle (ExceptT.adapt f program).run state = .returned inner middle) :
      ∃ first, run M oracle program.run state = .returned first middle ∧
        inner = first.mapError f := by
    rw [ExceptT.run_adapt] at h
    obtain ⟨first, between, hfirst, hrest⟩ := exists_run_of_bind h
    cases hrest
    exact ⟨first, hfirst, rfl⟩
  rcases exists_run_of_exceptBind h with ⟨error, hfails, rfl⟩ | ⟨value, middle, hworks, hrest⟩
  · obtain ⟨first, hfirst, heq⟩ := hadapted hfails
    cases first with
    | error inner =>
        cases heq
        exact .inl ⟨inner, hfirst, rfl⟩
    | ok value => cases heq
  · obtain ⟨first, hfirst, heq⟩ := hadapted hworks
    cases first with
    | error inner => cases heq
    | ok inner =>
        cases heq
        exact .inr ⟨_, middle, hfirst, hrest⟩

/-- What cannot fail is followed by the rest. -/
theorem exists_run_of_liftBind {program : Program S α} {rest : α → ExceptT δ (Program S) β}
    {state target : σ} {result : Except δ β}
    (h : run M oracle (ExceptT.lift program >>= rest).run state = .returned result target) :
    ∃ value middle, program.run M oracle state = .returned value middle ∧
      run M oracle (rest value).run middle = .returned result target := by
  rw [ExceptT.run_bind_lift] at h
  exact exists_run_of_bind h

end Except

end Run

/-! ## Weakest preconditions of an uninterrupted run -/

section Wp

variable {ε : Type u} {σ : Type v} (M : Semantics S ε σ) (oracle : S.Op → ε)

/-- The run returns, and then value and state satisfy the postcondition. -/
def wp (post : α → σ → Prop) : Program S α → σ → Prop
  | .pure value, state => post value state
  | .panic _, _ => False
  | .perform op next, state =>
      (next (M.answer op (oracle op) state).1).wp post (M.answer op (oracle op) state).2

variable {M oracle} {post : α → σ → Prop}

@[simp]
theorem wp_pure (value : α) (state : σ) :
    (Program.pure value : Program S α).wp M oracle post state ↔ post value state := Iff.rfl

@[simp]
theorem wp_panic (message : String) (state : σ) :
    (Program.panic message : Program S α).wp M oracle post state ↔ False := Iff.rfl

@[simp]
theorem wp_perform (op : S.Op) (next : S.Resp op → Program S α) (state : σ) :
    (Program.perform op next).wp M oracle post state ↔
      (next (M.answer op (oracle op) state).1).wp M oracle post
        (M.answer op (oracle op) state).2 := Iff.rfl

@[simp]
theorem wp_bind (program : Program S β) (rest : β → Program S α) (state : σ) :
    (program.bind rest).wp M oracle post state ↔
      program.wp M oracle (fun value next => (rest value).wp M oracle post next) state := by
  induction program generalizing state with
  | pure value => exact Iff.rfl
  | panic message => exact Iff.rfl
  | perform op next ih => exact ih _ _

theorem wp.mono {weaker : α → σ → Prop} {program : Program S α} {state : σ}
    (h : program.wp M oracle post state)
    (himp : ∀ value next, post value next → weaker value next) :
    program.wp M oracle weaker state := by
  induction program generalizing state with
  | pure value => exact himp value state h
  | panic message => exact h
  | perform op next ih => exact ih _ h

/-- The precondition speaks about the run. -/
theorem wp.exists_run {program : Program S α} {state : σ}
    (h : program.wp M oracle post state) :
    ∃ value target, program.run M oracle state = .returned value target ∧
      post value target := by
  induction program generalizing state with
  | pure value => exact ⟨value, state, rfl, h⟩
  | panic message => exact h.elim
  | perform op next ih => exact ih _ h

end Wp

/-! ## One operation at a time -/

section Step

variable {ε : Type u} {σ : Type v} (M : Semantics S ε σ)

/-- Perform the next operation, if there is one. -/
def step (choice : ε) : Program S α → σ → Option (Program S α × σ)
  | .pure _, _ => none
  | .panic _, _ => none
  | .perform op next, state =>
      let answered := M.answer op choice state
      some (next answered.1, answered.2)

/-- A program that has neither returned nor panicked. -/
def isRunning : Program S α → Bool
  | .pure _ => false
  | .panic _ => false
  | .perform _ _ => true

/-- The next operation, if there is one. -/
def nextOp : Program S α → Option S.Op
  | .pure _ => none
  | .panic _ => none
  | .perform op _ => some op

/-- The message of a program that has panicked. -/
def panicked : Program S α → Option String
  | .panic message => some message
  | .pure _ | .perform _ _ => none

/-- The value of a program that has returned. -/
def returned : Program S α → Option α
  | .pure value => some value
  | .panic _ | .perform _ _ => none

@[simp]
theorem returned_eq_some {program : Program S α} {value : α} :
    program.returned = some value ↔ program = .pure value := by
  cases program <;> simp [returned]

end Step

/-! ## The operations a program can perform at all -/

/-- Every operation on every path satisfies the predicate. -/
def Only (P : S.Op → Prop) : Program S α → Prop
  | .pure _ => True
  | .panic _ => True
  | .perform op next => P op ∧ ∀ answer, (next answer).Only P

theorem Only.bind {P : S.Op → Prop} {program : Program S α} {rest : α → Program S β}
    (h : program.Only P) (hrest : ∀ value, (rest value).Only P) :
    (program.bind rest).Only P := by
  induction program with
  | pure value => exact hrest value
  | panic message => trivial
  | perform op next ih => exact ⟨h.1, fun answer => ih answer (h.2 answer)⟩

theorem Only.single {P : S.Op → Prop} {op : S.Op} (h : P op) :
    (Program.perform op .pure).Only P :=
  ⟨h, fun _ => trivial⟩

section Except

variable {P : S.Op → Prop} {ε ε' : Type}

theorem Only.exceptBind {program : ExceptT ε (Program S) α} {rest : α → ExceptT ε (Program S) β}
    (h : Only P program.run) (hrest : ∀ value, Only P (rest value).run) :
    Only P (program >>= rest).run := by
  refine Only.bind h fun result => ?_
  cases result with
  | ok value => exact hrest value
  | error error => trivial

theorem Only.adapt {program : ExceptT ε (Program S) α} {f : ε → ε'}
    (h : Only P program.run) : Only P (ExceptT.adapt f program).run := by
  rw [ExceptT.run_adapt]
  exact Only.bind h fun _ => trivial

theorem Only.lift {program : Program S α} (h : program.Only P) :
    Only P (ExceptT.lift program : ExceptT ε (Program S) α).run :=
  Only.bind h fun _ => trivial

theorem Only.done (result : Except ε α) :
    Only P (ExceptT.mk (.pure result) : ExceptT ε (Program S) α).run :=
  trivial

end Except

theorem Only.and {P Q : S.Op → Prop} {program : Program S α} (hleft : program.Only P)
    (hright : program.Only Q) : program.Only fun op => P op ∧ Q op := by
  induction program with
  | pure value | panic message => trivial
  | perform op next ih =>
      exact ⟨⟨hleft.1, hright.1⟩, fun answer => ih answer (hleft.2 answer) (hright.2 answer)⟩

theorem Only.mono {P Q : S.Op → Prop} (himp : ∀ op, P op → Q op)
    {program : Program S α} (h : program.Only P) : program.Only Q := by
  induction program with
  | pure value => trivial
  | panic message => trivial
  | perform op next ih => exact ⟨himp op h.1, fun answer => ih answer (h.2 answer)⟩

/-- Every operation satisfies the predicate on the paths where the answers are as expected. -/
def OnlyGiven (A : ∀ op, S.Resp op → Prop) (P : S.Op → Prop) : Program S α → Prop
  | .pure _ => True
  | .panic _ => True
  | .perform op next => P op ∧ ∀ answer, A op answer → (next answer).OnlyGiven A P

theorem OnlyGiven.mono {A : ∀ op, S.Resp op → Prop} {P Q : S.Op → Prop} (himp : ∀ op, P op → Q op)
    {program : Program S α} (h : program.OnlyGiven A P) : program.OnlyGiven A Q := by
  induction program with
  | pure value | panic message => trivial
  | perform op next ih => exact ⟨himp op h.1, fun answer hanswer => ih answer (h.2 answer hanswer)⟩

/-- What holds on every path holds on these. -/
theorem Only.onlyGiven {A : ∀ op, S.Resp op → Prop} {P : S.Op → Prop} {program : Program S α}
    (h : program.Only P) : program.OnlyGiven A P := by
  induction program with
  | pure value | panic message => trivial
  | perform op next ih => exact ⟨h.1, fun answer _ => ih answer (h.2 answer)⟩

end Program

/-! ## How often a program performs an operation -/

namespace Program

variable {S : Signature} {α β : Type} {P : S.Op → Bool}

/-- No path performs more than this many operations of a kind. -/
def AtMost (P : S.Op → Bool) : Nat → Program S α → Prop
  | _, .pure _ => True
  | _, .panic _ => True
  | bound, .perform op next =>
      (P op = true → 0 < bound) ∧ ∀ answer, (next answer).AtMost P (bound - (P op).toNat)

/-- A program that performs none of them may precede a bounded one. -/
theorem Only.bindAtMost {bound : Nat} {program : Program S α} {rest : α → Program S β}
    (h : program.Only fun op => P op = false) (hrest : ∀ value, (rest value).AtMost P bound) :
    (program.bind rest).AtMost P bound := by
  induction program with
  | pure value => exact hrest value
  | panic message => trivial
  | perform op next ih =>
      refine ⟨fun hop => ?_, fun answer => ?_⟩
      · rw [h.1] at hop
        cases hop
      · rw [h.1]
        exact ih answer (h.2 answer)

theorem atMost_zero {program : Program S α} :
    program.AtMost P 0 ↔ program.Only fun op => P op = false := by
  induction program with
  | pure value | panic message => exact Iff.rfl
  | perform op next ih =>
      simp only [AtMost, Only, Nat.zero_sub, Nat.lt_irrefl, imp_false, Bool.not_eq_true, ih]

end Program

/-! ## What a program can return at all -/

namespace Program

variable {S : Signature} {α β : Type}

/-- The value returned on any path satisfies the predicate. -/
def Returns (Q : α → Prop) : Program S α → Prop
  | .pure value => Q value
  | .panic _ => True
  | .perform _ next => ∀ answer, (next answer).Returns Q

theorem Returns.bind {P : α → Prop} {Q : β → Prop} {program : Program S α}
    {rest : α → Program S β} (h : program.Returns P)
    (hrest : ∀ value, P value → (rest value).Returns Q) : (program.bind rest).Returns Q := by
  induction program with
  | pure value => exact hrest value h
  | panic message => trivial
  | perform op next ih => exact fun answer => ih answer (h answer)

/-- The operations of a bind, where the rest depends on what is returned. -/
theorem Only.bindReturns {P : S.Op → Prop} {Q : α → Prop} {program : Program S α}
    {rest : α → Program S β} (h : program.Only P) (hreturns : program.Returns Q)
    (hrest : ∀ value, Q value → (rest value).Only P) : (program.bind rest).Only P := by
  induction program with
  | pure value => exact hrest value hreturns
  | panic message => trivial
  | perform op next ih => exact ⟨h.1, fun answer => ih answer (h.2 answer) (hreturns answer)⟩

theorem returns_true (program : Program S α) : program.Returns fun _ => True := by
  induction program with
  | pure value | panic message => trivial
  | perform op next ih => exact ih

/-- The same for what follows a program of which nothing is known. -/
theorem Returns.of_rest {Q : β → Prop} (program : Program S α) {rest : α → Program S β}
    (hrest : ∀ value, (rest value).Returns Q) : (program.bind rest).Returns Q :=
  program.returns_true.bind fun value _ => hrest value

/-- Errors satisfy the predicate, and so does what the rest returns. -/
theorem Returns.exceptRest {δ : Type} {Q : Except δ β → Prop} (program : ExceptT δ (Program S) α)
    {rest : α → ExceptT δ (Program S) β} (herror : ∀ error, Q (.error error))
    (hrest : ∀ value, Returns Q (rest value).run) : Returns Q (program >>= rest).run := by
  apply Returns.of_rest
  intro result
  cases result with
  | ok value => exact hrest value
  | error error => exact herror error

/-! ## Panics -/

/-- No path panics with such a message. -/
def Averts (bad : String → Prop) : Program S α → Prop
  | .pure _ => True
  | .panic message => ¬ bad message
  | .perform _ next => ∀ answer, (next answer).Averts bad

theorem Averts.bind {bad : String → Prop} {program : Program S α} {rest : α → Program S β}
    (h : program.Averts bad) (hrest : ∀ value, (rest value).Averts bad) :
    (program.bind rest).Averts bad := by
  induction program with
  | pure value => exact hrest value
  | panic message => exact h
  | perform op next ih => exact fun answer => ih answer (h answer)

theorem Averts.exceptBind {bad : String → Prop} {δ : Type} {program : ExceptT δ (Program S) α}
    {rest : α → ExceptT δ (Program S) β} (h : Averts bad program.run)
    (hrest : ∀ value, Averts bad (rest value).run) : Averts bad (program >>= rest).run := by
  apply Averts.bind h
  intro result
  cases result with
  | ok value => exact hrest value
  | error error => trivial

/-- The program with its panic as a value. -/
def caught : Program S α → Program S (Except String α)
  | .pure value => .pure (.ok value)
  | .panic message => .pure (.error message)
  | .perform op next => .perform op fun answer => (next answer).caught

theorem caught_of_panicked {program : Program S α} {message : String}
    (h : program.panicked = some message) : program.caught = .pure (.error message) := by
  cases program with
  | panic text =>
      cases h
      rfl
  | pure value | perform op next => cases h

end Program

/-! ## Programs that do not panic -/

namespace Program

variable {S : Signature} {α β : Type} {ε : Type u} {σ : Type v}

/-- Whatever the environment chooses, no run from here panics, and a run that returns
meets the postcondition. -/
def Survives (M : Semantics S ε σ) (post : α → σ → Prop) : Program S α → σ → Prop
  | .pure value, state => post value state
  | .panic _, _ => False
  | .perform op next, state => ∀ choice,
      (next (M.answer op choice state).1).Survives M post (M.answer op choice state).2

variable {M : Semantics S ε σ} {state : σ}

theorem Survives.mono {post weaker : α → σ → Prop} {program : Program S α}
    (h : program.Survives M post state) (himp : ∀ value moved, post value moved → weaker value moved) :
    program.Survives M weaker state := by
  induction program generalizing state with
  | pure value => exact himp value state h
  | panic message => exact h.elim
  | perform op next ih => exact fun choice => ih _ (h choice)

theorem Survives.bind {post : β → σ → Prop} {program : Program S α} {rest : α → Program S β}
    (h : program.Survives M (fun value => (rest value).Survives M post) state) :
    (program.bind rest).Survives M post state := by
  induction program generalizing state with
  | pure value => exact h
  | panic message => exact h.elim
  | perform op next ih => exact fun choice => ih _ (h choice)

/-- Errors are passed on. -/
theorem Survives.exceptBind {δ : Type} {post : Except δ β → σ → Prop}
    {program : ExceptT δ (Program S) α} {rest : α → ExceptT δ (Program S) β}
    (h : Survives M (fun result moved => (∀ value, result = .ok value →
        Survives M post (rest value).run moved) ∧
      ∀ error, result = .error error → post (.error error) moved) program.run state) :
    Survives M post (program >>= rest).run state := by
  refine Survives.bind (h.mono fun result moved hresult => ?_)
  cases result with
  | ok value => exact hresult.1 value rfl
  | error error => exact hresult.2 error rfl

theorem Survives.adapt {δ δ' : Type} {program : ExceptT δ (Program S) α} {f : δ → δ'}
    {post : Except δ' α → σ → Prop}
    (h : Survives M (fun result => post (result.mapError f)) program.run state) :
    Survives M post (ExceptT.adapt f program).run state := by
  rw [ExceptT.run_adapt]
  exact .bind h

/-- Where there is no panic in the program, there is none in a run. -/
theorem Averts.survives {program : Program S α} (h : program.Averts fun _ => True) :
    program.Survives M (fun _ _ => True) state := by
  induction program generalizing state with
  | pure value => trivial
  | panic message => exact h trivial
  | perform op next ih => exact fun choice => ih _ (h _)

end Program

/-! ## Rely-guarantee contracts -/

/-- The terms on which a program shares its state with other tasks. -/
structure Contract (S : Signature) (ε : Type u) (σ : Type v) where
  /-- What other tasks may do to the state between two operations. -/
  rely : σ → σ → Prop
  /-- Which answers the environment may give. -/
  admits : S.Op → ε → σ → Prop
  /-- What the program owes for each operation it performs. -/
  duty : S.Op → ε → σ → Prop
  rely_refl : ∀ state, rely state state
  rely_trans : ∀ {first second third}, rely first second → rely second third →
    rely first third

namespace Program

variable {S : Signature} {α β : Type} {ε : Type u} {σ : Type v}

/-- The program keeps its duties under interference and, if it returns, leaves
the postcondition true under interference. -/
def Ensures (M : Semantics S ε σ) (C : Contract S ε σ) (post : α → σ → Prop) :
    Program S α → σ → Prop
  | .pure value, state => ∀ moved, C.rely state moved → post value moved
  | .panic _, _ => True
  | .perform op next, state => ∀ moved choice, C.rely state moved →
      C.admits op choice moved →
        C.duty op choice moved ∧
          (next (M.answer op choice moved).1).Ensures M C post
            (M.answer op choice moved).2

variable {M : Semantics S ε σ} {C : Contract S ε σ} {post : α → σ → Prop}

/-- Interference permitted by the contract does not invalidate it. -/
theorem Ensures.of_rely {program : Program S α} {state moved : σ}
    (h : program.Ensures M C post state) (hrely : C.rely state moved) :
    program.Ensures M C post moved := by
  cases program with
  | pure value => exact fun later hlater => h later (C.rely_trans hrely hlater)
  | panic message => trivial
  | perform op next =>
      exact fun later choice hlater hadmits =>
        h later choice (C.rely_trans hrely hlater) hadmits

/-- Performing an operation discharges its duty and leaves a program that still
ensures the contract. -/
theorem Ensures.step {op : S.Op} {next : S.Resp op → Program S α} {state : σ}
    {choice : ε} (h : (Program.perform op next).Ensures M C post state)
    (hadmits : C.admits op choice state) :
    C.duty op choice state ∧
      (next (M.answer op choice state).1).Ensures M C post
        (M.answer op choice state).2 :=
  h state choice (C.rely_refl state) hadmits

/-- Contracts compose along a bind. -/
theorem Ensures.bind {program : Program S α} {rest : α → Program S β}
    {result : β → σ → Prop} {state : σ}
    (h : program.Ensures M C (fun value moved =>
      (rest value).Ensures M C result moved) state) :
    (program.bind rest).Ensures M C result state := by
  induction program generalizing state with
  | pure value => exact h state (C.rely_refl state)
  | panic message => trivial
  | perform op next ih =>
      intro moved choice hrely hadmits
      obtain ⟨hduty, hnext⟩ := h moved choice hrely hadmits
      exact ⟨hduty, ih _ hnext⟩

theorem Ensures.mono {weaker : α → σ → Prop} {program : Program S α} {state : σ}
    (h : program.Ensures M C post state)
    (himp : ∀ value moved, post value moved → weaker value moved) :
    program.Ensures M C weaker state := by
  induction program generalizing state with
  | pure value => exact fun moved hrely => himp value moved (h moved hrely)
  | panic message => trivial
  | perform op next ih =>
      intro moved choice hrely hadmits
      obtain ⟨hduty, hnext⟩ := h moved choice hrely hadmits
      exact ⟨hduty, ih _ hnext⟩

/-- Where nothing is owed, nothing need be shown. -/
theorem ensures_of_duty (hduty : ∀ op choice moved, C.duty op choice moved)
    (program : Program S α) (state : σ) : program.Ensures M C (fun _ _ => True) state := by
  induction program generalizing state with
  | pure value => exact fun _ _ => trivial
  | panic message => trivial
  | perform op next ih => exact fun moved choice _ _ => ⟨hduty op choice moved, ih _ _⟩

/-- A contract speaks about what a program returns after a pure function of it. -/
theorem Ensures.map {program : Program S α} {f : α → β} {result : β → σ → Prop} {state : σ}
    (h : program.Ensures M C (fun value => result (f value)) state) :
    (program.bind fun value => .pure (f value)).Ensures M C result state := by
  induction program generalizing state with
  | pure value => exact h
  | panic message => trivial
  | perform op next ih =>
      intro moved choice hrely hadmits
      obtain ⟨hduty, hnext⟩ := h moved choice hrely hadmits
      exact ⟨hduty, ih _ hnext⟩

/-- What every path returns may be added to the postcondition. -/
theorem Ensures.and_returns {Q : α → Prop} {program : Program S α} {state : σ}
    (h : program.Ensures M C post state) (hreturns : program.Returns Q) :
    program.Ensures M C (fun value moved => post value moved ∧ Q value) state := by
  induction program generalizing state with
  | pure value => exact fun moved hrely => ⟨h moved hrely, hreturns⟩
  | panic message => trivial
  | perform op next ih =>
      intro moved choice hrely hadmits
      obtain ⟨hduty, hnext⟩ := h moved choice hrely hadmits
      exact ⟨hduty, ih _ hnext (hreturns _)⟩

/-- Where no path panics badly, neither does a program that shares its state. -/
theorem Ensures.caught {bad : String → Prop} {program : Program S α} {state : σ}
    (h : program.Ensures M C post state) (haverts : program.Averts bad) :
    program.caught.Ensures M C (fun result moved =>
      (∀ value, result = .ok value → post value moved) ∧
        ∀ message, result = .error message → ¬ bad message) state := by
  induction program generalizing state with
  | pure value =>
      refine fun moved hrely => ⟨?_, nofun⟩
      rintro _ ⟨⟩
      exact h moved hrely
  | panic message =>
      refine fun moved _ => ⟨nofun, ?_⟩
      rintro _ ⟨⟩
      exact haverts
  | perform op next ih =>
      intro moved choice hrely hadmits
      obtain ⟨hduty, hnext⟩ := h moved choice hrely hadmits
      exact ⟨hduty, ih _ hnext (haverts _)⟩

/-- Panics pass through a bind. -/
theorem Ensures.caughtBind {program : Program S α} {rest : α → Program S β}
    {post : Except String β → σ → Prop} {state : σ}
    (h : program.caught.Ensures M C (fun result moved =>
      (∀ value, result = .ok value → (rest value).caught.Ensures M C post moved) ∧
        ∀ message, result = .error message → post (.error message) moved) state) :
    (program.bind rest).caught.Ensures M C post state := by
  induction program generalizing state with
  | pure value => exact (h state (C.rely_refl state)).1 value rfl
  | panic message => exact fun moved hrely => (h moved hrely).2 message rfl
  | perform op next ih =>
      intro moved choice hrely hadmits
      obtain ⟨hduty, hnext⟩ := h moved choice hrely hadmits
      exact ⟨hduty, ih _ hnext⟩

section Except

variable {δ δ' : Type} {state : σ}

/-- What is left to do once a program that may fail has returned. -/
def EnsuresRest (M : Semantics S ε σ) (C : Contract S ε σ) (post : Except δ β → σ → Prop)
    (rest : α → ExceptT δ (Program S) β) : Except δ α → σ → Prop
  | .ok value, moved => (rest value).run.Ensures M C post moved
  | .error error, moved => ∀ later, C.rely moved later → post (.error error) later

/-- Contracts compose along a bind that passes errors on. -/
theorem Ensures.exceptBind {program : ExceptT δ (Program S) α}
    {rest : α → ExceptT δ (Program S) β} {post : Except δ β → σ → Prop}
    (h : Ensures M C (EnsuresRest M C post rest) program.run state) :
    Ensures M C post (program >>= rest).run state := by
  refine Ensures.bind (h.mono fun result moved hrest => ?_)
  cases result with
  | ok value => exact hrest
  | error error => exact hrest

/-- The same where nothing is promised about the result. -/
theorem Ensures.exceptBindTrivial {program : ExceptT δ (Program S) α}
    {rest : α → ExceptT δ (Program S) β}
    (h : Ensures M C (fun _ _ => True) program.run state)
    (hrest : ∀ value moved, Ensures M C (fun _ _ => True) (rest value).run moved) :
    Ensures M C (fun _ _ => True) (program >>= rest).run state := by
  refine .exceptBind (h.mono fun result moved _ => ?_)
  cases result with
  | ok value => exact hrest value moved
  | error error => exact fun _ _ => trivial

theorem Ensures.adapt {program : ExceptT δ (Program S) α} {f : δ → δ'}
    {post : Except δ' α → σ → Prop}
    (h : Ensures M C (fun result => post (result.mapError f)) program.run state) :
    Ensures M C post (ExceptT.adapt f program).run state := by
  rw [ExceptT.run_adapt]
  exact h.map

/-- Contracts compose along a bind whose first part cannot fail. -/
theorem Ensures.liftBind {program : Program S α} {rest : α → ExceptT δ (Program S) β}
    {post : Except δ β → σ → Prop}
    (h : program.Ensures M C (fun value moved => (rest value).run.Ensures M C post moved) state) :
    Ensures M C post (ExceptT.lift program >>= rest).run state := by
  rw [ExceptT.run_bind_lift]
  exact .bind h

theorem Ensures.lift {program : Program S α} {post : Except δ α → σ → Prop}
    (h : program.Ensures M C (fun value => post (.ok value)) state) :
    Ensures M C post (ExceptT.lift program : ExceptT δ (Program S) α).run state :=
  h.map

end Except

/-- A program all of whose operations satisfy a predicate, given that the answers are as
expected, keeps every contract in which the predicate discharges the duty, and with it
whatever these operations and the others preserve. -/
theorem OnlyGiven.ensures {A : ∀ op, S.Resp op → Prop} {P : S.Op → Prop} {I : σ → Prop}
    {program : Program S α} (h : program.OnlyGiven A P)
    (hduty : ∀ {op choice moved}, P op → C.admits op choice moved → I moved →
      C.duty op choice moved)
    (hexpected : ∀ {op choice moved}, C.admits op choice moved → I moved →
      A op (M.answer op choice moved).1)
    (hrely : ∀ {moved later}, C.rely moved later → I moved → I later)
    (hanswer : ∀ {op choice moved}, P op → C.admits op choice moved → I moved →
      I (M.answer op choice moved).2)
    {state : σ} (hstate : I state) : program.Ensures M C (fun _ => I) state := by
  induction program generalizing state with
  | pure value => exact fun moved hmoved => hrely hmoved hstate
  | panic message => trivial
  | perform op next ih =>
      intro moved choice hmoved hadmits
      have hbefore := hrely hmoved hstate
      exact ⟨hduty h.1 hadmits hbefore,
        ih _ (h.2 _ (hexpected hadmits hbefore)) (hanswer h.1 hadmits hbefore)⟩

/-- The same where nothing is expected of the answers. -/
theorem Only.ensures {P : S.Op → Prop} {I : σ → Prop} {program : Program S α}
    (h : program.Only P)
    (hduty : ∀ op choice moved, P op → C.admits op choice moved → C.duty op choice moved)
    (hrely : ∀ {moved later}, C.rely moved later → I moved → I later)
    (hanswer : ∀ {op choice moved}, P op → C.admits op choice moved → I moved →
      I (M.answer op choice moved).2)
    {state : σ} (hstate : I state) : program.Ensures M C (fun _ => I) state := by
  have hgiven : program.OnlyGiven (fun _ _ => True) P := h.onlyGiven
  apply hgiven.ensures _ (fun _ _ => trivial) hrely hanswer hstate
  exact fun hop hadmits _ => hduty _ _ _ hop hadmits

end Program

end Modvpn.Protocol
