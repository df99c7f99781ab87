/-
# Comparing small numbers without branching

In 32-bit arithmetic the difference of two numbers below 256 is below 256 again, or it
wraps and has all its upper bits set. Shifting the low eight bits away leaves a mask
that tells which of the two it was.
-/

import Mathlib.Data.Nat.Bitwise
import Mathlib.Tactic.Push

namespace Modvpn.Words

/-- A difference that did not wrap. -/
def Small (d : BitVec 32) : Prop := d.toNat < 256

/-- A difference that did. -/
def Wrapped (d : BitVec 32) : Prop := 4294967040 ≤ d.toNat

section Differences

variable {a b : Nat}

theorem small_sub (hab : b ≤ a) (ha : a < 256) : Small (BitVec.ofNat 32 a - BitVec.ofNat 32 b) := by
  simp only [Small, BitVec.toNat_sub, BitVec.toNat_ofNat]
  omega

theorem wrapped_sub (hab : a < b) (hb : b < 256) :
    Wrapped (BitVec.ofNat 32 a - BitVec.ofNat 32 b) := by
  simp only [Wrapped, BitVec.toNat_sub, BitVec.toNat_ofNat]
  omega

end Differences

variable {d e : BitVec 32}

theorem Small.and_left (h : Small d) : Small (d &&& e) := by
  rw [Small, BitVec.toNat_and]
  exact lt_of_le_of_lt Nat.and_le_left h

theorem Small.and_right (h : Small e) : Small (d &&& e) := by
  rw [Small, BitVec.toNat_and]
  exact lt_of_le_of_lt Nat.and_le_right h

theorem Wrapped.and (hd : Wrapped d) (he : Wrapped e) : Wrapped (d &&& e) := by
  have hcomplement : d &&& e = ~~~(~~~d ||| ~~~e) := by
    rw [BitVec.not_or, BitVec.not_not, BitVec.not_not]
  have hor : (~~~d ||| ~~~e).toNat < 2 ^ 8 := by
    rw [BitVec.toNat_or]
    apply Nat.or_lt_two_pow
    · simp only [Wrapped, BitVec.toNat_not] at hd ⊢
      omega
    · simp only [Wrapped, BitVec.toNat_not] at he ⊢
      omega
  rw [hcomplement, Wrapped, BitVec.toNat_not]
  omega

/-- The mask of a difference that did not wrap selects nothing. -/
theorem Small.mask (h : Small d) (offset : BitVec 32) : (d >>> 8) &&& offset = 0 := by
  have hzero : d >>> 8 = 0 := by
    apply BitVec.eq_of_toNat_eq
    rw [BitVec.toNat_ushiftRight, Nat.shiftRight_eq_div_pow]
    exact Nat.div_eq_of_lt h
  rw [hzero]
  simp

/-- The mask of a difference that wrapped selects all of a small offset. -/
theorem Wrapped.mask (h : Wrapped d) {offset : BitVec 32} (hoffset : offset.toNat < 16777216) :
    (d >>> 8) &&& offset = offset := by
  have hones : (d >>> 8).toNat = 2 ^ 24 - 1 := by
    rw [BitVec.toNat_ushiftRight, Nat.shiftRight_eq_div_pow]
    have hbound := d.isLt
    simp only [Wrapped] at h
    omega
  apply BitVec.eq_of_toNat_eq
  rw [BitVec.toNat_and, hones, Nat.and_comm, Nat.and_two_pow_sub_one_eq_mod]
  exact Nat.mod_eq_of_lt hoffset

/-- `offset` where `b` is the larger number. -/
theorem mask_sub {a b : Nat} (ha : a < 256) (hb : b < 256) {offset : BitVec 32}
    (hoffset : offset.toNat < 16777216) :
    ((BitVec.ofNat 32 a - BitVec.ofNat 32 b) >>> 8) &&& offset = if a < b then offset else 0 := by
  split
  · rename_i hab
    exact (wrapped_sub hab hb).mask hoffset
  · rename_i hab
    exact (small_sub (Nat.le_of_not_lt hab) ha).mask offset

/-- `offset` where `c` lies strictly between the two bounds. -/
theorem mask_between {a b c : Nat} (ha : a < 256) (hb : b < 256) (hc : c < 256)
    {offset : BitVec 32} (hoffset : a < c → offset.toNat < 16777216) :
    (((BitVec.ofNat 32 a - BitVec.ofNat 32 c) &&& (BitVec.ofNat 32 c - BitVec.ofNat 32 b)) >>> 8) &&&
      offset = if a < c ∧ c < b then offset else 0 := by
  by_cases hlow : a < c
  · by_cases hhigh : c < b
    · rw [if_pos ⟨hlow, hhigh⟩]
      exact ((wrapped_sub hlow hc).and (wrapped_sub hhigh hb)).mask (hoffset hlow)
    · rw [if_neg fun h => hhigh h.2]
      exact (small_sub (Nat.le_of_not_lt hhigh) hc).and_right.mask offset
  · rw [if_neg fun h => hlow h.1]
    exact (small_sub (Nat.le_of_not_lt hlow) ha).and_left.mask offset

/-- Numbers in disjoint bits are joined by adding them. -/
theorem or_eq_add {a b k : Nat} (h : b < 2 ^ k) : a * 2 ^ k ||| b = a * 2 ^ k + b := by
  rw [← Nat.shiftLeft_eq, Nat.shiftLeft_add_eq_or_of_lt h]

end Modvpn.Words
