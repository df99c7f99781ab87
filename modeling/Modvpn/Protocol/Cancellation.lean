/-
# Cancelled programs

Cancelling a program does not stop it at once: it goes on to an operation at which it
can be suspended. There it either ends, or the operation was under way and still takes
effect. Either way the program keeps every contract that promises nothing about its
result.
-/

import Modvpn.Protocol.Program

namespace Modvpn.Protocol

universe u v

/-- What becomes of a cancelled program at an operation. -/
inductive Interruption
  | goesOn
  /-- The operation is the last one. -/
  | finishes
  | stops
  deriving DecidableEq

namespace Program

variable {S : Signature} {ε : Type u} {σ : Type v}

/-- What is left of a cancelled program. -/
def cut (interruption : S.Op → Interruption) : Program S Unit → Program S Unit
  | .pure value => .pure value
  | .panic message => .panic message
  | .perform op next =>
      match interruption op with
      | .goesOn => .perform op fun answer => (next answer).cut interruption
      | .finishes => .perform op fun _ => .pure ()
      | .stops => .pure ()

variable {interruption : S.Op → Interruption} {program : Program S Unit}

theorem Only.cut {P : S.Op → Prop} (h : program.Only P) : (program.cut interruption).Only P := by
  induction program with
  | pure value | panic message => trivial
  | perform op next ih =>
      simp only [Program.cut]
      split
      · exact ⟨h.1, fun answer => ih answer (h.2 answer)⟩
      · exact ⟨h.1, fun _ => trivial⟩
      · trivial

theorem Averts.cut {bad : String → Prop} (h : program.Averts bad) :
    (program.cut interruption).Averts bad := by
  induction program with
  | pure value => trivial
  | panic message => exact h
  | perform op next ih =>
      simp only [Program.cut]
      split
      · exact fun answer => ih answer (h answer)
      · exact fun _ => trivial
      · trivial

theorem Ensures.cut {M : Semantics S ε σ} {C : Contract S ε σ} {state : σ}
    (h : program.Ensures M C (fun _ _ => True) state) :
    (program.cut interruption).Ensures M C (fun _ _ => True) state := by
  induction program generalizing state with
  | pure value | panic message => exact h
  | perform op next ih =>
      simp only [Program.cut]
      split
      · intro moved choice hrely hadmits
        obtain ⟨hduty, hnext⟩ := h moved choice hrely hadmits
        exact ⟨hduty, ih _ hnext⟩
      · intro moved choice hrely hadmits
        exact ⟨(h moved choice hrely hadmits).1, fun _ _ => trivial⟩
      · exact fun _ _ => trivial

end Program

end Modvpn.Protocol
