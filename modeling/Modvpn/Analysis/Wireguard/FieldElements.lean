/-
# Reduced limbs as elements of a field

2^255 - 19 is prime, so the limbs stand for the elements of a field, and reduced limbs
for one element each. The reciprocal is a power, computed along a chain of squarings
and products. Its exponent is the sum that the chain forms.
-/

import Modvpn.Analysis.Wireguard.FieldArithmetic
import Modvpn.Arithmetic.Lucas
import Mathlib.FieldTheory.Finite.Basic
import Mathlib.Tactic.NormNum.Prime

namespace Modvpn.Wireguard.Curve25519

open Digits (Proper)
open Lucas (Certified)

section Prime

theorem prime_72106336199 : Nat.Prime 72106336199 := by
  have hfactor : Nat.Prime 2773320623 := by
    have hcertified : Certified 32 2773320623 5 [2, 2437, 569003] := by decide +kernel
    exact hcertified.prime (by norm_num)
  have hcertified : Certified 37 72106336199 7 [2, 13, 2773320623] := by decide +kernel
  apply hcertified.prime
  simp only [List.forall_mem_cons]
  exact ⟨by norm_num, by norm_num, hfactor, by simp⟩

theorem prime_1919519569386763 : Nat.Prime 1919519569386763 := by
  have hcertified : Certified 51 1919519569386763 2 [2, 3, 7, 19, 47, 47, 127, 8574133] := by
    decide +kernel
  exact hcertified.prime (by norm_num)

theorem prime_31757755568855353 : Nat.Prime 31757755568855353 := by
  have hcertified :
      Certified 55 31757755568855353 10 [2, 2, 2, 3, 31, 107, 223, 4153, 430751] := by
    decide +kernel
  exact hcertified.prime (by norm_num)

theorem prime_75445702479781427272750846543864801 :
    Nat.Prime 75445702479781427272750846543864801 := by
  have hcertified : Certified 116 75445702479781427272750846543864801 7
      [2, 2, 2, 2, 2, 3, 3, 5, 5, 75707, 72106336199, 1919519569386763] := by
    decide +kernel
  have hsmall : ∀ q ∈ [2, 2, 2, 2, 2, 3, 3, 5, 5, 75707], Nat.Prime q := by norm_num
  apply hcertified.prime
  simp only [List.forall_mem_cons] at hsmall ⊢
  simp only [hsmall, prime_72106336199, prime_1919519569386763]
  simp

theorem prime_factor :
    Nat.Prime 74058212732561358302231226437062788676166966415465897661863160754340907 := by
  have hcertified : Certified 236
      74058212732561358302231226437062788676166966415465897661863160754340907 2
      [2, 3, 353, 57467, 132049, 1923133, 31757755568855353,
        75445702479781427272750846543864801] := by
    decide +kernel
  have hsmall : ∀ q ∈ [2, 3, 353, 57467, 132049, 1923133], Nat.Prime q := by norm_num
  apply hcertified.prime
  simp only [List.forall_mem_cons] at hsmall ⊢
  simp only [hsmall, prime_31757755568855353, prime_75445702479781427272750846543864801]
  simp

theorem prime_fieldOrder : fieldOrder.Prime := by
  have hcertified : Certified 255 fieldOrder 2 [2, 2, 3, 65147,
      74058212732561358302231226437062788676166966415465897661863160754340907] := by
    decide +kernel
  have hsmall : ∀ q ∈ [2, 2, 3, 65147], Nat.Prime q := by norm_num
  apply hcertified.prime
  simp only [List.forall_mem_cons] at hsmall ⊢
  simp only [hsmall, prime_factor]
  simp

instance : Fact fieldOrder.Prime := ⟨prime_fieldOrder⟩

end Prime

/-- The element that the limbs stand for. -/
def element (x : Limbs) : ZMod fieldOrder := (value x : ZMod fieldOrder)

variable {x y : Limbs}

theorem val_element (hx : Reduced x) : (element x).val = value x := ZMod.val_cast_of_lt hx.value_lt

/-- Reduced limbs are the only ones of their element. -/
theorem Reduced.eq_of_element_eq (hx : Reduced x) (hy : Reduced y) (h : element x = element y) :
    x = y := by
  have hvalue : value x = value y := by rw [← val_element hx, h, val_element hy]
  have hdigits : digits x = digits y :=
    hx.proper.eq_of_ofDigits_eq hy.proper (by omega) (by simp [hx.length, hy.length]) hvalue
  have hinjective : Function.Injective (BitVec.toNat (w := 32)) := fun _ _ => BitVec.eq_of_toNat_eq
  exact (List.map_injective_iff.mpr hinjective) hdigits

theorem element_add (hx : Reduced x) (hy : Reduced y) :
    element (add x y) = element x + element y := by
  rw [element, (add_spec hx hy).2, ZMod.natCast_mod, Nat.cast_add, element, element]

theorem element_sub (hx : Reduced x) (hy : Reduced y) :
    element (sub x y) = element x - element y := by
  rw [element, (sub_spec hx hy).2, ZMod.natCast_mod, Nat.cast_add, Nat.cast_sub hy.value_lt.le,
    ZMod.natCast_self, zero_sub, ← sub_eq_add_neg, element, element]

theorem element_mul (hx : Reduced x) (hy : Reduced y) :
    element (mul x y) = element x * element y := by
  rw [element, (mul_spec hx hy).2, ZMod.natCast_mod, Nat.cast_mul, element, element]

theorem element_square (hx : Reduced x) : element (square x) = element x ^ 2 := by
  rw [pow_two]
  exact element_mul hx hx

theorem element_mulA24 (hx : Reduced x) : element (mulA24 x) = 121665 * element x := by
  rw [element, (mulA24_spec hx).2, ZMod.natCast_mod, Nat.cast_mul, Nat.cast_ofNat, element]

theorem element_one : element one = 1 := by
  rw [element, one, (reduced_small (by decide)).2, show (1 : JavaInt).toNat = 1 from rfl,
    Nat.cast_one]

theorem element_zero : element (List.replicate 10 0) = 0 := by
  have hvalue : value (List.replicate 10 0) = 0 := (reduced_small (v := 0) (by decide)).2
  rw [element, hvalue, Nat.cast_zero]

section Chain

/-- The limbs hold a power of `x`. -/
structure Power (x y : Limbs) (exponent : Nat) : Prop where
  reduced : Reduced y
  element_eq : element y = element x ^ exponent

variable {a b result : Limbs} {m n : Nat}

theorem power_one (hx : Reduced x) : Power x x 1 := ⟨hx, (pow_one _).symm⟩

theorem Power.mul (ha : Power x a m) (hb : Power x b n) : Power x (mul a b) (m + n) := by
  constructor
  · exact (mul_spec ha.reduced hb.reduced).1
  · rw [element_mul ha.reduced hb.reduced, ha.element_eq, hb.element_eq, pow_add]

theorem Power.square (ha : Power x a m) : Power x (square a) (2 * m) := by
  rw [two_mul]
  exact ha.mul ha

theorem Power.squares (ha : Power x a m) (count : Nat) :
    Power x (squares count a) (2 ^ count * m) := by
  induction count generalizing a m with
  | zero => simpa [Curve25519.squares] using ha
  | succ count ih =>
      rw [pow_succ, Nat.mul_assoc]
      exact ih ha.square

/-- The exponent that `pattern` reaches from two others. -/
def patternExponent : Nat → Nat → Nat → Nat
  | 0, m, _ => m
  | count + 1, m, n => patternExponent count (m + 2 ^ 10 * n) (2 ^ 10 * n)

theorem Power.pattern (hresult : Power x result m) (ha : Power x a n) (count : Nat) :
    Power x (pattern count result a) (patternExponent count m n) := by
  induction count generalizing result a m n with
  | zero => exact hresult
  | succ count ih => exact ih (hresult.mul (ha.squares 10)) (ha.squares 10)

/-- The exponent that `fill` reaches from two others. -/
def fillExponent : Nat → Nat → Nat → Nat
  | 0, m, _ => m
  | count + 1, m, n => fillExponent count (m + 2 * n) (2 * n)

theorem Power.fill (hresult : Power x result m) (ha : Power x a n) (count : Nat) :
    Power x (fill count result a) (fillExponent count m n) := by
  induction count generalizing result a m n with
  | zero => exact hresult
  | succ count ih => exact ih (hresult.mul ha.square) ha.square

theorem power_pow250 (hx : Reduced x) : Power x (pow250 x) (2 ^ 250 - 1) := by
  have ha := (power_one hx).square.squares 9
  have hpattern := (ha.mul (power_one hx)).pattern ha 23
  have hfill := (hpattern.mul hpattern.square).fill hpattern.square 8
  have hexponent : fillExponent 8
      (patternExponent 23 (2 ^ 9 * (2 * 1) + 1) (2 ^ 9 * (2 * 1)) +
        2 * patternExponent 23 (2 ^ 9 * (2 * 1) + 1) (2 ^ 9 * (2 * 1)))
      (2 * patternExponent 23 (2 ^ 9 * (2 * 1) + 1) (2 ^ 9 * (2 * 1))) = 2 ^ 250 - 1 := by
    decide +kernel
  rw [← hexponent]
  exact hfill

theorem power_recip (hx : Reduced x) : Power x (recip x) (fieldOrder - 2) := by
  have hone := power_one hx
  have hresult := (((((power_pow250 hx).squares 2).mul hone).squares 2).mul hone).square.mul hone
  have hexponent :
      2 * (2 ^ 2 * (2 ^ 2 * (2 ^ 250 - 1) + 1) + 1) + 1 = fieldOrder - 2 := by
    decide +kernel
  rw [← hexponent]
  exact hresult

theorem element_recip (hx : Reduced x) : element (recip x) = (element x)⁻¹ := by
  rw [(power_recip hx).element_eq]
  by_cases hzero : element x = 0
  · rw [hzero, inv_zero, zero_pow]
    decide
  · apply eq_inv_of_mul_eq_one_left
    rw [← pow_succ]
    exact ZMod.pow_card_sub_one_eq_one hzero

end Chain

/-- The chain computes the power of 2^255 - 21, which is the inverse down to the limbs. -/
theorem recip_exact (hx : Reduced x) :
    Reduced (recip x) ∧ value (recip x) = value x ^ (fieldOrder - 2) % fieldOrder ∧
      (value x ≠ 0 → mul x (recip x) = one) := by
  have hpower := power_recip hx
  refine ⟨hpower.reduced, ?_, ?_⟩
  · rw [← val_element hpower.reduced, hpower.element_eq, element, ← Nat.cast_pow, ZMod.val_natCast]
  · intro hne
    have hnonzero : element x ≠ 0 := by
      intro hzero
      rw [← val_element hx, hzero, ZMod.val_zero] at hne
      exact hne rfl
    apply Reduced.eq_of_element_eq (mul_spec hx hpower.reduced).1 reduced_one
    rw [element_mul hx hpower.reduced, element_recip hx, mul_inv_cancel₀ hnonzero, element_one]

/-- The reciprocal of nine. -/
theorem recip_exact_basePoint :
    Reduced basePoint ∧ value basePoint ≠ 0 ∧ mul basePoint (recip basePoint) = one := by
  have hne : value basePoint ≠ 0 := by decide
  exact ⟨reduced_basePoint, hne, (recip_exact reduced_basePoint).2.2 hne⟩

end Modvpn.Wireguard.Curve25519
