/-
# Primes by their powers

A number is prime where some base has order one less modulo it. The order is read off
the prime factors of that number, so a large prime is certified by smaller ones and by
a few powers, each of them a loop over the bits of its exponent.
-/

import Mathlib.Data.List.Prime
import Mathlib.NumberTheory.LucasPrimality

namespace Modvpn.Lucas

/-- `acc * a ^ n` modulo `m`, for an exponent of so many bits. -/
def powMod (m : Nat) : Nat → Nat → Nat → Nat → Nat
  | 0, acc, _, _ => acc
  | bits + 1, acc, a, n =>
      powMod m bits (if n % 2 = 1 then acc * a % m else acc) (a * a % m) (n / 2)

theorem powMod_modEq {m bits n : Nat} (acc a : Nat) (h : n < 2 ^ bits) :
    powMod m bits acc a n ≡ acc * a ^ n [MOD m] := by
  induction bits generalizing acc a n with
  | zero =>
      obtain rfl : n = 0 := by simpa using h
      rw [powMod, pow_zero, Nat.mul_one]
  | succ bits ih =>
      rw [pow_succ] at h
      have hsquare : (a * a % m) ^ (n / 2) ≡ a ^ (2 * (n / 2)) [MOD m] := by
        rw [pow_mul, pow_two]
        exact (Nat.mod_modEq _ _).pow _
      have hrest := ih (if n % 2 = 1 then acc * a % m else acc) (a * a % m)
        (show n / 2 < 2 ^ bits by omega)
      refine hrest.trans ?_
      split
      · rename_i hodd
        have hexponent : a ^ n = a * a ^ (2 * (n / 2)) := by
          rw [← pow_succ']
          congr 1
          omega
        rw [hexponent, ← Nat.mul_assoc]
        exact (Nat.mod_modEq _ _).mul hsquare
      · rename_i heven
        have hexponent : a ^ n = a ^ (2 * (n / 2)) := by
          congr 1
          omega
        rw [hexponent]
        exact (Nat.ModEq.refl acc).mul hsquare

/-- A base whose powers show its order. -/
def Certified (bits p base : Nat) (factors : List Nat) : Prop :=
  1 < p ∧ p ≤ 2 ^ bits ∧ factors.prod = p - 1 ∧ powMod p bits 1 base (p - 1) % p = 1 ∧
    ∀ q ∈ factors, powMod p bits 1 base ((p - 1) / q) % p ≠ 1

instance (bits p base : Nat) (factors : List Nat) : Decidable (Certified bits p base factors) := by
  unfold Certified
  infer_instance

theorem Certified.prime {bits p base : Nat} {factors : List Nat}
    (h : Certified bits p base factors) (hfactors : ∀ q ∈ factors, q.Prime) : p.Prime := by
  obtain ⟨hp, hbits, hprod, hone, hother⟩ := h
  have hpow (n : Nat) (hn : n ≤ p - 1) :
      (base : ZMod p) ^ n = 1 ↔ powMod p bits 1 base n % p = 1 := by
    have hmod := powMod_modEq (m := p) 1 base (show n < 2 ^ bits by omega)
    rw [Nat.one_mul] at hmod
    rw [← Nat.cast_pow, ← Nat.cast_one, ZMod.natCast_eq_natCast_iff, Nat.ModEq,
      Nat.mod_eq_of_lt hp, hmod]
  apply lucas_primality p (base : ZMod p)
  · exact (hpow (p - 1) le_rfl).mpr hone
  · intro q hq hdvd hpowOne
    rw [← hprod] at hdvd
    obtain ⟨factor, hmem, hdvd⟩ := (Prime.dvd_prod_iff hq.prime).mp hdvd
    obtain rfl := (Nat.prime_dvd_prime_iff_eq hq (hfactors factor hmem)).mp hdvd
    exact hother q hmem ((hpow _ (Nat.div_le_self _ _)).mp hpowOne)

end Modvpn.Lucas
