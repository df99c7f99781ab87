/-
# The Montgomery ladder

On a curve y² = x³ + A x² + x the first coordinates of two points and of their
difference determine that of the sum, and the first coordinate of a point that of its
double. The ladder keeps two multiples of a base point that differ by the base point, as
fractions of first coordinates, and goes through a multiplier bit by bit. It swaps the
two instead of branching on the bit, and only where the bit differs from the one before.

The points at infinity and of order two need no case of their own as long as the base
point's coordinate is not zero.
-/

import Mathlib.AlgebraicGeometry.EllipticCurve.Affine.Point
import Mathlib.Tactic.FieldSimp
import Mathlib.Tactic.LinearCombination

namespace Modvpn.MontgomeryLadder

open WeierstrassCurve.Affine

universe u

variable {F : Type u} [Field F]

/-- The curve y² = x³ + A x² + x. -/
def curve (A : F) : WeierstrassCurve.Affine F :=
  { a₁ := 0, a₂ := A, a₃ := 0, a₄ := 1, a₆ := 0 }

variable {A : F}

theorem equation_of_nonsingular {x y : F} (h : (curve A).Nonsingular x y) :
    y ^ 2 = x ^ 3 + A * x ^ 2 + x := by
  have hequation := ((curve A).equation_iff x y).mp h.1
  simpa [curve] using hequation

theorem nonsingular {x y : F} (htwo : (2 : F) ≠ 0) (h : y ^ 2 = x ^ 3 + A * x ^ 2 + x)
    (hy : y ≠ 0) : (curve A).Nonsingular x y := by
  rw [nonsingular_iff, equation_iff]
  constructor
  · simpa [curve] using h
  · right
    intro hself
    simp only [curve, zero_mul, sub_zero] at hself
    have hdouble : 2 * y = 0 := by linear_combination hself
    exact (mul_ne_zero htwo hy) hdouble

@[simp] theorem negY_curve (x y : F) : (curve A).negY x y = -y := by
  simp [negY, curve]

theorem addX_curve (x₁ x₂ slope : F) : (curve A).addX x₁ x₂ slope = slope ^ 2 - A - x₁ - x₂ := by
  simp [addX, curve]

/-- A fraction that stands for the first coordinate of a point, with the denominator zero
at infinity. -/
def Represents (X Z : F) : (curve A).Point → Prop
  | .zero => X ≠ 0 ∧ Z = 0
  | .some x _ _ => Z ≠ 0 ∧ X = x * Z

/-- The first coordinate, and zero at infinity. -/
def xCoordinate : (curve A).Point → F
  | .zero => 0
  | .some x _ _ => x

theorem Represents.xCoordinate {X Z : F} {P : (curve A).Point} (h : Represents X Z P) :
    X * Z⁻¹ = xCoordinate P := by
  cases P with
  | zero =>
      obtain ⟨_, rfl⟩ := h
      simp [MontgomeryLadder.xCoordinate]
  | some x y hxy =>
      obtain ⟨hZ, rfl⟩ := h
      exact mul_inv_cancel_right₀ hZ x

theorem Represents.neg {X Z : F} {P : (curve A).Point} (h : Represents X Z P) :
    Represents X Z (-P) := by
  cases P with
  | zero => exact h
  | some x y hxy => exact h

/-- Two fractions for one point are the same fraction. -/
theorem Represents.cross {X Z X' Z' : F} {P : (curve A).Point} (h : Represents X Z P)
    (h' : Represents X' Z' P) : X * Z' = X' * Z := by
  cases P with
  | zero => rw [h.2, h'.2, mul_zero, mul_zero]
  | some x y hxy =>
      rw [h.2, h'.2]
      ring

theorem Represents.ne_zero {X Z : F} {P : (curve A).Point} (h : Represents X Z P) (hZ : Z = 0) :
    X ≠ 0 := by
  cases P with
  | zero => exact h.1
  | some x y hxy => exact absurd hZ h.1

section Doubling

variable [DecidableEq F]

theorem represents_double (htwo : (2 : F) ≠ 0) (hA : A ^ 2 ≠ 4) {X Z : F} {P : (curve A).Point}
    (h : Represents X Z P) :
    Represents ((X ^ 2 - Z ^ 2) ^ 2) (4 * X * Z * (X ^ 2 + A * X * Z + Z ^ 2)) (P + P) := by
  cases P with
  | zero =>
      obtain ⟨hX, rfl⟩ := h
      show Represents _ _ (0 + 0 : (curve A).Point)
      rw [add_zero]
      constructor
      · simpa using hX
      · ring
  | some x y hxy =>
      obtain ⟨hZ, rfl⟩ := h
      have hequation := equation_of_nonsingular hxy
      have hfour : (4 : F) ≠ 0 := by
        have hsquare : (4 : F) = 2 * 2 := by norm_num
        rw [hsquare]
        exact mul_ne_zero htwo htwo
      have hdenominator : 4 * (x * Z) * Z * ((x * Z) ^ 2 + A * (x * Z) * Z + Z ^ 2) =
          4 * Z ^ 4 * y ^ 2 := by
        rw [hequation]
        ring
      rw [hdenominator]
      by_cases hy : y = 0
      · -- A point of order two. Its coordinate is not ±1, or A would be ∓2.
        rw [Point.add_self_of_Y_eq (by rw [negY_curve, hy, neg_zero])]
        constructor
        · intro hzero
          have hone : x ^ 2 = 1 := by
            have hproduct : ((x ^ 2 - 1) * Z ^ 2) ^ 2 = 0 := by linear_combination hzero
            have hfactor := pow_eq_zero_iff (two_ne_zero) |>.mp hproduct
            rcases mul_eq_zero.mp hfactor with h | h
            · exact sub_eq_zero.mp h
            · exact absurd h (pow_ne_zero 2 hZ)
          apply hA
          have hsum : A + 2 * x = 0 := by
            rw [hy] at hequation
            linear_combination -hequation - (A + x) * hone
          linear_combination (A - 2 * x) * hsum + 4 * hone
        · rw [hy]
          ring
      · have hne : y ≠ (curve A).negY x y := by
          rw [negY_curve]
          intro hself
          apply hy
          have hdouble : 2 * y = 0 := by linear_combination hself
          exact (mul_eq_zero.mp hdouble).resolve_left htwo
        rw [Point.add_self_of_Y_ne hne]
        constructor
        · exact mul_ne_zero (mul_ne_zero hfour (pow_ne_zero 4 hZ)) (pow_ne_zero 2 hy)
        · rw [slope_of_Y_ne rfl hne, addX_curve, negY_curve]
          have hslope : (3 * x ^ 2 + 2 * (curve A).a₂ * x + (curve A).a₄ - (curve A).a₁ * y) =
              3 * x ^ 2 + 2 * A * x + 1 := by
            simp [curve]
          rw [hslope]
          have hdouble : y - -y = 2 * y := by ring
          rw [hdouble]
          field_simp
          linear_combination (16 * A + 32 * x) * hequation

end Doubling

section Adding

/-- The product of the first coordinates of a sum and of a difference. -/
theorem addX_mul_addX {x₁ y₁ x₂ y₂ : F} (h₁ : y₁ ^ 2 = x₁ ^ 3 + A * x₁ ^ 2 + x₁)
    (h₂ : y₂ ^ 2 = x₂ ^ 3 + A * x₂ ^ 2 + x₂) (hne : x₁ ≠ x₂) :
    (((y₁ - y₂) / (x₁ - x₂)) ^ 2 - A - x₁ - x₂) * (((y₂ + y₁) / (x₂ - x₁)) ^ 2 - A - x₂ - x₁) *
      (x₁ - x₂) ^ 2 = (x₁ * x₂ - 1) ^ 2 := by
  have hdiff : x₁ - x₂ ≠ 0 := sub_ne_zero.mpr hne
  have hdiff' : x₂ - x₁ ≠ 0 := sub_ne_zero.mpr hne.symm
  have hswap : ((y₂ + y₁) / (x₂ - x₁)) ^ 2 = ((y₁ + y₂) / (x₁ - x₂)) ^ 2 := by
    rw [div_pow, div_pow, add_comm, ← neg_sub x₁ x₂, neg_sq]
  rw [hswap]
  have hproduct : ((y₁ - y₂) ^ 2 - (A + x₁ + x₂) * (x₁ - x₂) ^ 2) *
      ((y₁ + y₂) ^ 2 - (A + x₁ + x₂) * (x₁ - x₂) ^ 2) =
      (x₁ * x₂ - 1) ^ 2 * (x₁ - x₂) ^ 2 := by
    calc ((y₁ - y₂) ^ 2 - (A + x₁ + x₂) * (x₁ - x₂) ^ 2) *
        ((y₁ + y₂) ^ 2 - (A + x₁ + x₂) * (x₁ - x₂) ^ 2)
        = (y₁ ^ 2 - y₂ ^ 2) ^ 2 - 2 * (A + x₁ + x₂) * (x₁ - x₂) ^ 2 * (y₁ ^ 2 + y₂ ^ 2) +
            ((A + x₁ + x₂) * (x₁ - x₂) ^ 2) ^ 2 := by
          ring
      _ = (x₁ * x₂ - 1) ^ 2 * (x₁ - x₂) ^ 2 := by
          rw [h₁, h₂]
          ring
  field_simp
  linear_combination hproduct

variable [DecidableEq F]

theorem represents_add {u X₂ Z₂ X₃ Z₃ : F} {P Q : (curve A).Point} (htwo : (2 : F) ≠ 0)
    (hA : A ^ 2 ≠ 4) (hu : u ≠ 0) (hP : Represents X₂ Z₂ P) (hQ : Represents X₃ Z₃ Q)
    (hdiff : Represents u 1 (Q - P)) :
    Represents (4 * (X₂ * X₃ - Z₂ * Z₃) ^ 2) (4 * u * (X₂ * Z₃ - X₃ * Z₂) ^ 2) (P + Q) := by
  have hfour : (4 : F) ≠ 0 := by
    have hsquare : (4 : F) = 2 * 2 := by norm_num
    rw [hsquare]
    exact mul_ne_zero htwo htwo
  cases P with
  | zero =>
      -- The sum is the difference itself.
      obtain ⟨hX₂, rfl⟩ := hP
      have hzero : (Point.zero : (curve A).Point) = 0 := rfl
      rw [hzero, sub_zero] at hdiff
      rw [hzero, zero_add]
      cases Q with
      | zero => exact absurd hdiff.2 one_ne_zero
      | some x y hxy =>
          obtain ⟨hZ₃, rfl⟩ := hQ
          obtain ⟨-, hx⟩ := hdiff
          rw [mul_one] at hx
          subst hx
          constructor
          · simpa [hfour, hu, hX₂] using hZ₃
          · ring
  | some x₁ y₁ h₁ =>
      obtain ⟨hZ₂, rfl⟩ := hP
      cases Q with
      | zero =>
          obtain ⟨hX₃, rfl⟩ := hQ
          have hzero : (Point.zero : (curve A).Point) = 0 := rfl
          rw [hzero, zero_sub] at hdiff
          rw [hzero, add_zero]
          have hdiff := hdiff.neg
          rw [neg_neg] at hdiff
          obtain ⟨-, hx⟩ := hdiff
          rw [mul_one] at hx
          subst hx
          constructor
          · simpa [hfour, hu, hX₃] using hZ₂
          · ring
      | some x₂ y₂ h₂ =>
          obtain ⟨hZ₃, rfl⟩ := hQ
          have hequation₁ := equation_of_nonsingular h₁
          have hequation₂ := equation_of_nonsingular h₂
          by_cases hx : x₁ = x₂
          · -- The points are opposite, since they are not the same.
            subst hx
            have hne : y₁ ≠ y₂ := by
              intro hy
              subst hy
              rw [sub_self] at hdiff
              exact one_ne_zero hdiff.2
            have hopposite : y₁ = -y₂ := by
              have hproduct : (y₁ - y₂) * (y₁ + y₂) = 0 := by
                linear_combination hequation₁ - hequation₂
              rcases mul_eq_zero.mp hproduct with h | h
              · exact absurd (sub_eq_zero.mp h) hne
              · exact eq_neg_of_add_eq_zero_left h
            subst hopposite
            rw [Point.add_of_Y_eq rfl (negY_curve _ _).symm]
            constructor
            · intro hzero
              -- The difference is a double, whose coordinate would be zero.
              have hone : x₁ ^ 2 = 1 := by
                have hproduct : (x₁ ^ 2 - 1) * (Z₂ * Z₃) = 0 := by
                  have hsquare := (mul_eq_zero.mp hzero).resolve_left hfour
                  have hroot := (pow_eq_zero_iff two_ne_zero).mp hsquare
                  linear_combination hroot
                rcases mul_eq_zero.mp hproduct with h | h
                · exact sub_eq_zero.mp h
                · exact absurd h (mul_ne_zero hZ₂ hZ₃)
              have hself : -Point.some x₁ (-y₂) h₁ = Point.some x₁ y₂ h₂ := by
                simp only [Point.neg_some, negY_curve, neg_neg]
              rw [sub_eq_add_neg, hself] at hdiff
              have hrepresents : Represents x₁ 1 (Point.some x₁ y₂ h₂) :=
                ⟨one_ne_zero, (mul_one x₁).symm⟩
              have hdouble := represents_double htwo hA hrepresents
              have hnumerator : (x₁ ^ 2 - 1 ^ 2) ^ 2 = (0 : F) := by
                rw [hone]
                ring
              rw [hnumerator] at hdouble
              have hcross := hdiff.cross hdouble
              rw [zero_mul] at hcross
              exact hdouble.ne_zero ((mul_eq_zero.mp hcross).resolve_left hu) rfl
            · ring
          · rw [sub_eq_add_neg, Point.neg_some, Point.add_of_X_ne (Ne.symm hx)] at hdiff
            rw [Point.add_of_X_ne hx]
            obtain ⟨-, hdiff⟩ := hdiff
            rw [mul_one, addX_curve, slope_of_X_ne (Ne.symm hx), negY_curve, sub_neg_eq_add] at hdiff
            have hproduct := addX_mul_addX hequation₁ hequation₂ hx
            rw [← hdiff] at hproduct
            constructor
            · have hcross : x₁ * Z₂ * Z₃ - x₂ * Z₃ * Z₂ = (x₁ - x₂) * (Z₂ * Z₃) := by ring
              rw [hcross]
              exact mul_ne_zero (mul_ne_zero hfour hu)
                (pow_ne_zero 2 (mul_ne_zero (sub_ne_zero.mpr hx) (mul_ne_zero hZ₂ hZ₃)))
            · rw [addX_curve, slope_of_X_ne hx]
              linear_combination -(4 * (Z₂ * Z₃) ^ 2) * hproduct

end Adding

section Climbing

/-- Two fractions. -/
structure Rung (F : Type u) where
  x₂ : F
  z₂ : F
  x₃ : F
  z₃ : F

/-- The first fraction doubled, and the sum of both for a difference with coordinate `u`. -/
def Rung.step (A u : F) (r : Rung F) : Rung F where
  x₂ := (r.x₂ ^ 2 - r.z₂ ^ 2) ^ 2
  z₂ := 4 * r.x₂ * r.z₂ * (r.x₂ ^ 2 + A * r.x₂ * r.z₂ + r.z₂ ^ 2)
  x₃ := 4 * (r.x₂ * r.x₃ - r.z₂ * r.z₃) ^ 2
  z₃ := 4 * u * (r.x₂ * r.z₃ - r.x₃ * r.z₂) ^ 2

def Rung.swap (r : Rung F) : Bool → Rung F
  | false => r
  | true => { x₂ := r.x₃, z₂ := r.z₃, x₃ := r.x₂, z₃ := r.z₂ }

theorem Rung.swap_swap {K : Type u} (r : Rung K) (b c : Bool) :
    (r.swap b).swap c = r.swap (b ^^ c) := by
  cases b <;> cases c <;> rfl

/-- The bits of a multiplier from the highest down. The flag says whether the two fractions
still have to be swapped. -/
def climb (A u : F) : List Bool → Bool × Rung F → Bool × Rung F
  | [], r => r
  | b :: bits, (pending, r) => climb A u bits (b, (r.swap (pending ^^ b)).step A u)

theorem climb_cons (A u : F) (b : Bool) (bits : List Bool) (r : Bool × Rung F) :
    climb A u (b :: bits) r = climb A u bits (b, (r.2.swap (r.1 ^^ b)).step A u) := rfl

theorem climb_append (A u : F) (bits bits' : List Bool) (r : Bool × Rung F) :
    climb A u (bits ++ bits') r = climb A u bits' (climb A u bits r) := by
  induction bits generalizing r with
  | nil => rfl
  | cons b bits ih => exact ih _

/-- The two fractions in their order. -/
def settle (r : Bool × Rung F) : Rung F := r.2.swap r.1

/-- A number with further bits at its end. -/
def extend (m : Nat) : List Bool → Nat
  | [] => m
  | b :: bits => extend (2 * m + b.toNat) bits

theorem extend_append (m : Nat) (bits bits' : List Bool) :
    extend m (bits ++ bits') = extend (extend m bits) bits' := by
  induction bits generalizing m with
  | nil => rfl
  | cons b bits ih => exact ih _

/-- The fractions stand for two points. -/
def Rung.Holds (P Q : (curve A).Point) (r : Rung F) : Prop :=
  Represents r.x₂ r.z₂ P ∧ Represents r.x₃ r.z₃ Q

variable [DecidableEq F]

/-- What the ladder rests on: a curve without singular points, and a base point whose
coordinate is known and not zero. -/
structure Ground (A u : F) (B : (curve A).Point) : Prop where
  two_ne_zero : (2 : F) ≠ 0
  smooth : A ^ 2 ≠ 4
  coordinate_ne_zero : u ≠ 0
  represents : Represents u 1 B

variable {u : F} {B P Q : (curve A).Point}

theorem Rung.Holds.step (hground : Ground A u B) {r : Rung F} (h : r.Holds P Q)
    (hdiff : Q - P = B ∨ P - Q = B) : (r.step A u).Holds (P + P) (P + Q) := by
  constructor
  · exact represents_double hground.two_ne_zero hground.smooth h.1
  · apply represents_add hground.two_ne_zero hground.smooth hground.coordinate_ne_zero h.1 h.2
    rcases hdiff with hdiff | hdiff
    · rw [hdiff]
      exact hground.represents
    · rw [← neg_sub, hdiff]
      exact hground.represents.neg

theorem Rung.Holds.climb (hground : Ground A u B) {m : Nat} {pending : Bool} {r : Rung F}
    (h : (r.swap pending).Holds (m • B) ((m + 1) • B)) (bits : List Bool) :
    (settle (MontgomeryLadder.climb A u bits (pending, r))).Holds (extend m bits • B)
      ((extend m bits + 1) • B) := by
  induction bits generalizing m pending r with
  | nil => exact h
  | cons b bits ih =>
      apply ih
      have hnext : (m + 1) • B - m • B = B := by rw [add_nsmul, one_nsmul, add_sub_cancel_left]
      cases b with
      | false =>
          have hstep := Rung.Holds.step hground h (.inl hnext)
          rw [Bool.xor_false]
          rw [← add_nsmul, ← add_nsmul] at hstep
          rw [show 2 * m + false.toNat = m + m by simp; omega, show m + m + 1 = m + (m + 1) by omega]
          exact hstep
      | true =>
          have hswapped : (r.swap (pending ^^ true)).Holds ((m + 1) • B) (m • B) := by
            rw [← Rung.swap_swap]
            exact ⟨h.2, h.1⟩
          have hstep := Rung.Holds.step hground hswapped (.inr hnext)
          rw [← add_nsmul, ← add_nsmul] at hstep
          rw [show 2 * m + true.toNat = m + 1 + m by simp; omega,
            show m + 1 + m + 1 = m + 1 + (m + 1) by omega]
          exact ⟨hstep.2, hstep.1⟩

/-- A ladder from the bottom computes the coordinate of a multiple. -/
theorem xCoordinate_climb (hground : Ground A u B) (bits : List Bool) :
    (settle (climb A u bits (false, { x₂ := 1, z₂ := 0, x₃ := u, z₃ := 1 }))).x₂ *
        (settle (climb A u bits (false, { x₂ := 1, z₂ := 0, x₃ := u, z₃ := 1 }))).z₂⁻¹ =
      xCoordinate (extend 0 bits • B) := by
  have hstart : (Rung.swap { x₂ := 1, z₂ := 0, x₃ := u, z₃ := 1 } false : Rung F).Holds
      (0 • B) ((0 + 1) • B) := by
    rw [zero_nsmul, zero_add, one_nsmul]
    exact ⟨⟨one_ne_zero, rfl⟩, hground.represents⟩
  exact (Rung.Holds.climb hground hstart bits).1.xCoordinate

end Climbing

end Modvpn.MontgomeryLadder
