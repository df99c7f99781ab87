/-
# The field arithmetic of Curve25519

A list of limbs has the value of its digits in base 2^26. A reduced one has ten limbs,
each below the base, and a value below 2^255 - 19. No operation on reduced numbers
overflows a word, and each one returns the reduced form of the exact result.
-/

import Modvpn.Arithmetic.Digits
import Modvpn.Wireguard.Curve25519

namespace Modvpn.Wireguard.Curve25519

open Digits (Proper proper_cons proper_nil)
open Nat (ofDigits)

/-- The number of elements of the field. -/
def fieldOrder : Nat := 2 ^ 255 - 19

/-- The limbs as numbers. -/
def digits (x : Limbs) : List Nat := x.map BitVec.toNat

def value (x : Limbs) : Nat := ofDigits (2 ^ 26) (digits x)

/-- Ten limbs below the base. -/
structure Limbed (x : Limbs) : Prop where
  length : x.length = 10
  proper : Proper (2 ^ 26) (digits x)

/-- The one representation that the operations return for an element of the field. -/
structure Reduced (x : Limbs) : Prop extends Limbed x where
  value_lt : value x < fieldOrder

@[simp] theorem digits_nil : digits [] = [] := rfl

@[simp] theorem digits_cons (x : JavaInt) (xs : Limbs) : digits (x :: xs) = x.toNat :: digits xs :=
  rfl

@[simp] theorem length_digits (x : Limbs) : (digits x).length = x.length := List.length_map _

theorem getD_digits (x : Limbs) (n : Nat) : (x.getD n 0).toNat = (digits x).getD n 0 := by
  simp only [digits, List.getD_eq_getElem?_getD, List.getElem?_map]
  cases x[n]? <;> rfl

section Words

theorem toNat_and_limbMask (v : JavaInt) : (v &&& limbMask).toNat = v.toNat % 2 ^ 26 := by
  rw [BitVec.toNat_and]
  exact Nat.and_two_pow_sub_one_eq_mod v.toNat 26

theorem toNat_sshiftRight {width : Nat} {v : BitVec width} (hv : v.toNat < 2 ^ (width - 1))
    (n : Nat) : (v.sshiftRight n).toNat = v.toNat / 2 ^ n := by
  have hmsb : v.msb = false := by
    rw [BitVec.msb_eq_decide]
    simpa using hv
  rw [BitVec.sshiftRight_eq_of_msb_false hmsb, BitVec.toNat_ushiftRight, Nat.shiftRight_eq_div_pow]

/-- One bit, shifted down and masked. -/
theorem toNat_bit (v : JavaInt) {n : Nat} (hn : n < 32) :
    ((v.sshiftRight n) &&& 1).toNat = v.toNat / 2 ^ n % 2 := by
  have hbit : ((v.sshiftRight n) &&& 1) = (v >>> n) &&& 1 := by
    ext i hi
    by_cases hzero : i = 0
    · subst hzero
      simp [BitVec.getElem_sshiftRight, hn]
    · simp [hzero]
  rw [hbit, BitVec.toNat_and, BitVec.toNat_ushiftRight, Nat.shiftRight_eq_div_pow]
  exact Nat.and_two_pow_sub_one_eq_mod _ 1

theorem toLong_eq {y : JavaInt} (hy : y.toNat < 2 ^ 26) : toLong y = BitVec.ofNat 64 y.toNat := by
  have hmsb : y.msb = false := by
    rw [BitVec.msb_eq_decide]
    simp
    omega
  rw [toLong, BitVec.signExtend_eq_setWidth_of_msb_false hmsb]
  apply BitVec.eq_of_toNat_eq
  simp

/-- The low limb of a `long`. -/
theorem toNat_toInt_and (v : JavaLong) : (toInt v &&& limbMask).toNat = v.toNat % 2 ^ 26 := by
  rw [toNat_and_limbMask, toInt, BitVec.toNat_setWidth]
  omega

end Words

section Reduction

theorem digits_propagate {carry : JavaInt} {x : Limbs} (hcarry : carry.toNat ≤ 2 ^ 31 - 2 ^ 26)
    (hx : Proper (2 ^ 26) (digits x)) :
    digits (propagate carry x) = Digits.carry (2 ^ 26) carry.toNat (digits x) := by
  induction x generalizing carry with
  | nil => rfl
  | cons x xs ih =>
      obtain ⟨hx, hxs⟩ := proper_cons.mp hx
      have hsum : (carry + x).toNat = carry.toNat + x.toNat := by
        rw [BitVec.toNat_add]
        omega
      have hshift : ((carry + x).sshiftRight 26).toNat = (carry.toNat + x.toNat) / 2 ^ 26 := by
        rw [toNat_sshiftRight (by omega), hsum]
      rw [propagate, digits_cons, toNat_and_limbMask, hsum, ih (by omega) hxs, hshift]
      rfl

theorem digits_maskTop (x : Limbs) : digits (maskTop x) = (digits x).modify 9 (· % 2 ^ 21) := by
  have hmask (v : JavaInt) : (v &&& 0x001FFFFF).toNat = v.toNat % 2 ^ 21 := by
    rw [BitVec.toNat_and]
    exact Nat.and_two_pow_sub_one_eq_mod v.toNat 21
  apply List.ext_getElem?
  intro i
  simp only [digits, maskTop, List.getElem?_map, List.getElem?_modify]
  cases x[i]? with
  | none => rfl
  | some v =>
      by_cases h : 9 = i
      · simpa [h] using hmask v
      · simp [h]

theorem digits_foldHigh {limb carry : JavaInt} {x highs : Limbs} (hlimb : limb.toNat ≤ 31)
    (hcarry : carry.toNat ≤ 20) (hx : Proper (2 ^ 26) (digits x))
    (hhighs : Proper (2 ^ 26) (digits highs)) :
    digits (foldHigh limb carry x highs) =
      Digits.fold (2 ^ 26) (2 ^ 5) 19 limb.toNat carry.toNat (digits x) (digits highs) := by
  induction x generalizing limb carry highs with
  | nil => rfl
  | cons x xs ih =>
      cases highs with
      | nil => exact digits_propagate (by omega) hx
      | cons high highs =>
          obtain ⟨hx, hxs⟩ := proper_cons.mp hx
          obtain ⟨hhigh, hhighs⟩ := proper_cons.mp hhighs
          have hshifted : (limb + (high <<< 5)).toNat = limb.toNat + high.toNat * 2 ^ 5 := by
            rw [BitVec.toNat_add, BitVec.toNat_shiftLeft, Nat.shiftLeft_eq]
            omega
          have hsum : (carry + (((limb + (high <<< 5)) &&& limbMask) * 19 + x)).toNat =
              carry.toNat + ((limb.toNat + high.toNat * 2 ^ 5) % 2 ^ 26 * 19 + x.toNat) := by
            rw [BitVec.toNat_add, BitVec.toNat_add, BitVec.toNat_mul, toNat_and_limbMask, hshifted,
              show (19 : JavaInt).toNat = 19 from rfl]
            omega
          simp only [foldHigh, digits_cons, toNat_and_limbMask, hsum, Digits.fold]
          rw [ih _ _ hxs hhighs, toNat_sshiftRight, toNat_sshiftRight,
            hshifted, hsum]
          · omega
          · omega
          · rw [toNat_sshiftRight, hshifted] <;> omega
          · rw [toNat_sshiftRight, hsum] <;> omega

/-- The range of ten limbs. -/
theorem base_pow : (2 ^ 26) ^ 10 = 2 ^ 255 * 2 ^ 5 := by
  rw [← pow_mul, ← pow_add]

variable {x : Limbs}

theorem Limbed.value_lt (hx : Limbed x) : value x < 2 ^ 255 * 2 ^ 5 := by
  have hlt := hx.proper.ofDigits_lt (by omega)
  rw [length_digits, hx.length, base_pow] at hlt
  exact hlt

theorem limbed_propagate (hx : Limbed x) (carry : JavaInt) (hcarry : carry.toNat ≤ 2 ^ 31 - 2 ^ 26) :
    Limbed (propagate carry x) ∧
      value (propagate carry x) = (carry.toNat + value x) % (2 ^ 255 * 2 ^ 5) := by
  have hdigits := digits_propagate hcarry hx.proper
  refine ⟨⟨?_, ?_⟩, ?_⟩
  · rw [← length_digits, hdigits, Digits.length_carry, length_digits, hx.length]
  · rw [hdigits]
    exact Digits.proper_carry (by omega) _ _
  · rw [value, hdigits, Digits.ofDigits_carry (by omega), length_digits, hx.length, base_pow]
    rfl

theorem limbed_maskTop (hx : Limbed x) :
    Limbed (maskTop x) ∧ value (maskTop x) = value x % 2 ^ 255 := by
  have hdigits := digits_maskTop x
  refine ⟨⟨?_, ?_⟩, ?_⟩
  · rw [maskTop, List.length_modify, hx.length]
  · rw [hdigits]
    intro d hd
    obtain ⟨i, hi, rfl⟩ := List.getElem_of_mem hd
    have hlt := hx.proper _ (List.getElem_mem (by simpa using hi))
    rw [List.getElem_modify]
    split
    · exact lt_of_le_of_lt (Nat.mod_le _ _) hlt
    · exact hlt
  · rw [value, hdigits, Digits.ofDigits_modify_last hx.proper (by omega) (n := 9)
      (by rw [length_digits, hx.length]), ← pow_mul, ← pow_add]
    rfl

/-- What a number has above its 255 bits. -/
theorem toNat_top (hx : Limbed x) :
    ((x.getD 9 0).sshiftRight 21).toNat = value x / 2 ^ 255 := by
  have htop : (x.getD 9 0).toNat = value x / 2 ^ 234 := by
    rw [getD_digits, Digits.getD_last hx.proper (by omega) (by rw [length_digits, hx.length]),
      ← pow_mul]
    rfl
  have hlt := hx.value_lt
  rw [toNat_sshiftRight (by omega), htop]
  omega

/-- A selection by a mask that repeats one bit. -/
theorem select_mask (chosen : Bool) {x t : Limbs} (h : x.length = t.length) :
    let mask : JavaInt := -(if chosen then 1 else 0)
    List.zipWith (fun x t => (x &&& ~~~mask) ||| (t &&& mask)) x t = if chosen then t else x := by
  have hones (v : JavaInt) : v &&& 4294967295#32 = v := BitVec.and_allOnes
  apply List.ext_getElem
  · cases chosen <;> simp [h]
  · intro i hi hi'
    rw [List.getElem_zipWith]
    cases chosen <;> simp [hones]

/-- A trial subtraction is enough below twice the order. -/
theorem reduceQuick_spec (hx : Limbed x) (hvalue : value x < 2 * fieldOrder) :
    Reduced (reduceQuick x) ∧ value (reduceQuick x) = value x % fieldOrder := by
  obtain ⟨ht, htvalue⟩ := limbed_propagate hx 19 (by decide)
  obtain ⟨hmasked, hmaskedValue⟩ := limbed_maskTop ht
  have htop := toNat_top ht
  rw [show (19 : JavaInt).toNat = 19 from rfl] at htvalue
  have hbit : (((propagate 19 x).getD 9 0).sshiftRight 21) &&& 0x01 =
      (if decide (fieldOrder ≤ value x) then 1 else 0 : JavaInt) := by
    apply BitVec.eq_of_toNat_eq
    rw [BitVec.toNat_and, htop, htvalue, show (1 : JavaInt).toNat = 2 ^ 1 - 1 from rfl,
      Nat.and_two_pow_sub_one_eq_mod]
    unfold fieldOrder at *
    by_cases hle : 2 ^ 255 - 19 ≤ value x
    · simp only [hle, decide_true, if_true]
      show _ = 1
      omega
    · simp only [hle, decide_false]
      show _ = 0
      omega
  rw [reduceQuick, hbit, select_mask _ (by rw [hx.length, hmasked.length])]
  by_cases hle : fieldOrder ≤ value x
  · have hvalue' : value (maskTop (propagate 19 x)) = value x - fieldOrder := by
      rw [hmaskedValue, htvalue]
      unfold fieldOrder at *
      omega
    rw [decide_eq_true hle, if_pos rfl]
    constructor
    · exact ⟨hmasked, by omega⟩
    · rw [hvalue', Nat.mod_eq_sub_mod hle, Nat.mod_eq_of_lt (by omega)]
  · rw [decide_eq_false hle, if_neg Bool.false_ne_true]
    exact ⟨⟨hx, by omega⟩, (Nat.mod_eq_of_lt (by omega)).symm⟩

/-- 2^255 stands for 19. -/
theorem fold_mod (v : Nat) : (v % 2 ^ 255 + v / 2 ^ 255 * 19) % fieldOrder = v % fieldOrder := by
  have hv : v = v % 2 ^ 255 + v / 2 ^ 255 * 19 + fieldOrder * (v / 2 ^ 255) := by
    unfold fieldOrder
    omega
  conv_rhs => rw [hv, Nat.add_mul_mod_self_left]

/-- The high limbs may be few, as long as they hold what is above 255 bits. -/
theorem limbed_foldHigh {size : Nat} (hlength : x.length = 10 + size) (hsize : size ≤ 10)
    (hx : Proper (2 ^ 26) (digits x)) (hvalue : value x < 2 ^ 255 * 2 ^ 255)
    (hhigh : value x / 2 ^ 255 < (2 ^ 26) ^ size) :
    let folded := foldHigh ((x.getD 9 0).sshiftRight 21) 0 (maskTop (x.take 10)) (x.drop 10)
    Limbed folded ∧ value folded = value x % 2 ^ 255 + value x / 2 ^ 255 * 19 := by
  intro folded
  have hlow : Limbed (x.take 10) := by
    constructor
    · rw [List.length_take, hlength]
      omega
    · rw [digits, List.map_take]
      exact hx.take 10
  have hhighs : Proper (2 ^ 26) (digits (x.drop 10)) := by
    rw [digits, List.map_drop]
    exact hx.drop 10
  have hsplit : value x = value (x.take 10) + 2 ^ 255 * 2 ^ 5 * value (x.drop 10) := by
    rw [value, Digits.ofDigits_eq_take_add_drop 10 (by rw [length_digits]; omega), base_pow]
    rw [value, value, digits, digits, digits, List.map_take, List.map_drop]
  have hlimb : ((x.getD 9 0).sshiftRight 21).toNat = value (x.take 10) / 2 ^ 255 := by
    rw [← toNat_top hlow]
    simp [List.getD_eq_getElem?_getD]
  obtain ⟨hmasked, hmaskedValue⟩ := limbed_maskTop hlow
  have hlowLt := hlow.value_lt
  have hdigits : digits folded = _ :=
    digits_foldHigh (by rw [hlimb]; omega) (by decide) hmasked.proper hhighs
  have hhighLength : (digits (x.drop 10)).length = size := by
    rw [length_digits, List.length_drop]
    omega
  refine ⟨⟨?_, ?_⟩, ?_⟩
  · rw [← length_digits, hdigits, Digits.length_fold, length_digits, hmasked.length]
  · rw [hdigits]
    exact Digits.proper_fold (by omega) _ _ _ _
  · have hquotient : value (x.take 10) / 2 ^ 255 + value (x.drop 10) * 2 ^ 5 =
        value x / 2 ^ 255 := by
      omega
    have hremainder : value (x.take 10) % 2 ^ 255 = value x % 2 ^ 255 := by omega
    have hmaskedLength : (digits (maskTop (x.take 10))).length = 10 := by
      rw [length_digits, hmasked.length]
    rw [value, hdigits, Digits.ofDigits_fold (by omega) _ _ _ _ (by omega), hlimb,
      ← value, ← value, hmaskedValue, hhighLength, hmaskedLength, hquotient, hremainder,
      Nat.mod_eq_of_lt hhigh, base_pow, show (0 : JavaInt).toNat = 0 from rfl, Nat.zero_add, Nat.mod_eq_of_lt]
    omega

theorem reduce_spec (size : Nat) (hlength : x.length = 10 + size) (hsize : size ≤ 10)
    (hx : Proper (2 ^ 26) (digits x)) (hvalue : value x < 2 ^ 255 * 2 ^ 255)
    (hhigh : value x / 2 ^ 255 < (2 ^ 26) ^ size) :
    Reduced (reduce x) ∧ value (reduce x) = value x % fieldOrder := by
  obtain ⟨hfolded, hfoldedValue⟩ := limbed_foldHigh hlength hsize hx hvalue hhigh
  rw [reduce]
  generalize foldHigh _ _ _ _ = folded at *
  obtain ⟨hmasked, hmaskedValue⟩ := limbed_maskTop hfolded
  have hcarry : (((folded.getD 9 0).sshiftRight 21) * 19).toNat = value folded / 2 ^ 255 * 19 := by
    rw [BitVec.toNat_mul, toNat_top hfolded, show (19 : JavaInt).toNat = 19 from rfl]
    omega
  obtain ⟨hagain, hagainValue⟩ := limbed_propagate hmasked
    (((folded.getD 9 0).sshiftRight 21) * 19) (by rw [hcarry]; omega)
  have hsum : value (propagate (((folded.getD 9 0).sshiftRight 21) * 19) (maskTop folded)) =
      value folded % 2 ^ 255 + value folded / 2 ^ 255 * 19 := by
    rw [hagainValue, hcarry, hmaskedValue]
    omega
  have hquick := reduceQuick_spec hagain (by
    rw [hsum]
    unfold fieldOrder
    omega)
  rw [hsum, fold_mod, hfoldedValue, fold_mod] at hquick
  exact hquick

end Reduction

section Sums

variable {x y : Limbs}

theorem digits_addLoop (carry : JavaInt) (hcarry : carry.toNat < 2 ^ 28)
    (hx : Proper (2 ^ 26) (digits x)) (hy : Proper (2 ^ 26) (digits y)) :
    digits (addLoop carry x y) =
      Digits.carry (2 ^ 26) (carry.toNat / 2 ^ 26) (List.zipWith (· + ·) (digits x) (digits y)) := by
  induction x generalizing carry y with
  | nil => rfl
  | cons x xs ih =>
      cases y with
      | nil => rfl
      | cons y ys =>
          obtain ⟨hx, hxs⟩ := proper_cons.mp hx
          obtain ⟨hy, hys⟩ := proper_cons.mp hy
          have hsum : (carry.sshiftRight 26 + x + y).toNat =
              carry.toNat / 2 ^ 26 + (x.toNat + y.toNat) := by
            rw [BitVec.toNat_add, BitVec.toNat_add, toNat_sshiftRight (by omega)]
            omega
          rw [addLoop, digits_cons, toNat_and_limbMask, ih _ (by rw [hsum]; omega) hxs hys, hsum]
          rfl

theorem add_spec (hx : Reduced x) (hy : Reduced y) :
    Reduced (add x y) ∧ value (add x y) = (value x + value y) % fieldOrder := by
  have hdigits := digits_addLoop 0 (by decide) hx.proper hy.proper
  have hzip : (List.zipWith (· + ·) (digits x) (digits y)).length = 10 := by
    simp [hx.length, hy.length]
  have hxlt := hx.value_lt
  have hylt := hy.value_lt
  have hlimbed : Limbed (addLoop 0 x y) := by
    constructor
    · rw [← length_digits, hdigits, Digits.length_carry, hzip]
    · rw [hdigits]
      exact Digits.proper_carry (by omega) _ _
  have hvalue : value (addLoop 0 x y) = value x + value y := by
    rw [value, hdigits, Digits.ofDigits_carry (by omega), hzip, base_pow,
      ← Nat.ofDigits_add_ofDigits_eq_ofDigits_zipWith_of_length_eq
        (by simp [hx.length, hy.length]), ← value, ← value,
      show (0 : JavaInt).toNat / 2 ^ 26 = 0 from rfl]
    unfold fieldOrder at *
    omega
  have hquick := reduceQuick_spec hlimbed (by omega)
  rw [hvalue] at hquick
  exact hquick

end Sums

section Differences

/-- The bit that a borrow leaves. -/
theorem toNat_borrows (borrow : JavaInt) : (borrows borrow).toNat = borrow.toNat / 2 ^ 26 % 2 :=
  toNat_bit borrow (by omega)

/-- One limb of a difference, and the borrow from the next. -/
theorem subtract_limb {x y b : JavaInt} (hx : x.toNat < 2 ^ 26) (hy : y.toNat < 2 ^ 26)
    (hb : b.toNat ≤ 1) :
    ((x - y - b) &&& limbMask).toNat =
        (if x.toNat < y.toNat + b.toNat then 2 ^ 26 + x.toNat - (y.toNat + b.toNat)
          else x.toNat - (y.toNat + b.toNat)) ∧
      (borrows (x - y - b)).toNat = if x.toNat < y.toNat + b.toNat then 1 else 0 := by
  rw [toNat_and_limbMask, toNat_borrows, BitVec.toNat_sub, BitVec.toNat_sub]
  split <;> omega

variable {x y : Limbs}

theorem digits_subLoop (borrow : JavaInt) (hx : Proper (2 ^ 26) (digits x))
    (hy : Proper (2 ^ 26) (digits y)) (h : x.length = y.length) :
    digits (subLoop borrow x y).1 =
        (Digits.difference (2 ^ 26) (borrows borrow).toNat (digits x) (digits y)).1 ∧
      (borrows (subLoop borrow x y).2).toNat =
        (Digits.difference (2 ^ 26) (borrows borrow).toNat (digits x) (digits y)).2 := by
  induction x generalizing borrow y with
  | nil => exact ⟨rfl, rfl⟩
  | cons x xs ih =>
      cases y with
      | nil => simp at h
      | cons y ys =>
          obtain ⟨hx, hxs⟩ := proper_cons.mp hx
          obtain ⟨hy, hys⟩ := proper_cons.mp hy
          have hb : (borrows borrow).toNat ≤ 1 := by
            rw [toNat_borrows]
            omega
          obtain ⟨hdigit, hborrow⟩ := subtract_limb hx hy hb
          obtain ⟨hrest, hlast⟩ := ih (x - y - borrows borrow) hxs hys (by simpa using h)
          rw [hborrow] at hrest hlast
          constructor
          · simp only [subLoop, digits_cons, Digits.difference, hrest, hdigit]
          · simp only [subLoop, digits_cons, Digits.difference, hlast]

/-- Borrowing alone is subtracting zeros. -/
theorem borrowLoop_eq (borrow : JavaInt) (x : Limbs) :
    borrowLoop borrow x = (subLoop borrow x (List.replicate x.length 0)).1 := by
  induction x generalizing borrow with
  | nil => rfl
  | cons x xs ih =>
      have hzero : x - 0 = x := BitVec.sub_zero x
      rw [borrowLoop, ih, List.length_cons, List.replicate_succ, subLoop, hzero]

/-- The limbs of a difference, as if the number were in the ring of 260 bits. -/
theorem limbed_subLoop (hx : Limbed x) (hy : Limbed y) :
    Limbed (subLoop 0 x y).1 ∧
      value (subLoop 0 x y).1 + value y =
        value x + 2 ^ 255 * 2 ^ 5 * (borrows (subLoop 0 x y).2).toNat ∧
      (borrows (subLoop 0 x y).2).toNat ≤ 1 := by
  have hlength : x.length = y.length := by rw [hx.length, hy.length]
  obtain ⟨hdigits, hlast⟩ := digits_subLoop 0 hx.proper hy.proper hlength
  rw [show (borrows 0).toNat = 0 from rfl] at hdigits hlast
  have hequal : (digits x).length = (digits y).length := by simpa using hlength
  refine ⟨⟨?_, ?_⟩, ?_, ?_⟩
  · rw [← length_digits, hdigits, Digits.length_difference hequal, length_digits, hx.length]
  · rw [hdigits]
    exact Digits.proper_difference (by omega) hx.proper hy.proper
  · have hvalue := Digits.ofDigits_difference (show 0 ≤ 1 by omega) hy.proper hequal
    rw [length_digits, hx.length, base_pow, ← hdigits, ← hlast] at hvalue
    exact hvalue
  · rw [hlast]
    exact Digits.borrow_le (by omega)

/-- What the second pass of `sub` takes away. -/
def correction (borrow : JavaInt) : Limbs := ((-borrows borrow) &&& 19) :: List.replicate 9 0

theorem limbed_correction (borrow : JavaInt) :
    Limbed (correction borrow) ∧ value (correction borrow) = (borrows borrow).toNat * 19 := by
  have hbit : borrows borrow = 0 ∨ borrows borrow = 1 := by
    have hborrow := toNat_borrows borrow
    have hcases : (borrows borrow).toNat = 0 ∨ (borrows borrow).toNat = 1 := by omega
    exact hcases.imp BitVec.eq_of_toNat_eq BitVec.eq_of_toNat_eq
  rw [correction]
  rcases hbit with hbit | hbit
  · rw [hbit]
    exact ⟨⟨rfl, by unfold Proper; decide⟩, by decide⟩
  · rw [hbit]
    exact ⟨⟨rfl, by unfold Proper; decide⟩, by decide⟩

theorem sub_eq (hx : Limbed x) (hy : Limbed y) :
    sub x y = maskTop (subLoop 0 (subLoop 0 x y).1 (correction (subLoop 0 x y).2)).1 := by
  have hlength := (limbed_subLoop hx hy).1.length
  rw [sub]
  generalize subLoop 0 x y = first at hlength ⊢
  obtain ⟨result, borrow⟩ := first
  cases result with
  | nil => simp at hlength
  | cons first rest =>
      have hrest : rest.length = 9 := by simpa using hlength
      have hnone (v : JavaInt) : v - borrows 0 = v := BitVec.sub_zero v
      simp only [correction, subLoop, borrowLoop_eq, hrest, hnone]

theorem sub_spec (hx : Reduced x) (hy : Reduced y) :
    Reduced (sub x y) ∧ value (sub x y) = (value x + (fieldOrder - value y)) % fieldOrder := by
  have hxlt := hx.value_lt
  have hylt := hy.value_lt
  rw [sub_eq hx.toLimbed hy.toLimbed]
  obtain ⟨hfirst, hvalue, hle⟩ := limbed_subLoop hx.toLimbed hy.toLimbed
  generalize subLoop 0 x y = first at *
  obtain ⟨hcorrection, hcorrectionValue⟩ := limbed_correction first.2
  obtain ⟨hsecond, hvalue', hle'⟩ := limbed_subLoop hfirst hcorrection
  rw [hcorrectionValue] at hvalue'
  generalize subLoop 0 first.1 (correction first.2) = second at *
  obtain ⟨hmasked, hmaskedValue⟩ := limbed_maskTop hsecond
  have hresult : value (maskTop second.1) = (value x + (fieldOrder - value y)) % fieldOrder := by
    rw [hmaskedValue]
    -- The second pass never borrows beyond the last limb: where the first one did, the
    -- number has its upper bits set.
    have hfirstLt := hfirst.value_lt
    have hsecondLt := hsecond.value_lt
    unfold fieldOrder at *
    by_cases hless : value x < value y
    · have hborrow : (borrows first.2).toNat = 1 := by omega
      rw [hborrow] at hvalue hvalue'
      rw [Nat.mod_eq_of_lt (by omega : value x + (2 ^ 255 - 19 - value y) < 2 ^ 255 - 19)]
      omega
    · have hborrow : (borrows first.2).toNat = 0 := by omega
      rw [hborrow] at hvalue hvalue'
      omega
  refine ⟨⟨hmasked, ?_⟩, hresult⟩
  rw [hresult]
  exact Nat.mod_lt _ (by decide)

end Differences

section Products

variable {x y : Limbs}

theorem addRow_eq {v : Nat} (hy : Proper (2 ^ 26) (digits y)) (ts : List Nat) :
    addRow (BitVec.ofNat 64 v) y (ts.map (BitVec.ofNat 64)) =
      (Digits.row v (digits y) ts).map (BitVec.ofNat 64) := by
  induction y generalizing ts with
  | nil => cases ts <;> rfl
  | cons y ys ih =>
      obtain ⟨hy, hys⟩ := proper_cons.mp hy
      cases ts with
      | nil => simp [addRow, Digits.row, toLong_eq hy, BitVec.ofNat_mul]
      | cons t ts =>
          simp [addRow, Digits.row, toLong_eq hy, BitVec.ofNat_mul, BitVec.ofNat_add, ih hys ts]

theorem mulRows_eq (hx : Proper (2 ^ 26) (digits x)) (hy : Proper (2 ^ 26) (digits y))
    (ts : List Nat) :
    mulRows y x (ts.map (BitVec.ofNat 64)) =
      (Digits.rows (digits y) (digits x) ts).map (BitVec.ofNat 64) := by
  induction x generalizing ts with
  | nil => rfl
  | cons x xs ih =>
      obtain ⟨hx, hxs⟩ := proper_cons.mp hx
      cases ts with
      | nil => rfl
      | cons t ts =>
          rw [List.map_cons, mulRows, toLong_eq hx, addRow_eq hy, ih hxs]
          rfl

theorem digits_carryLoop {v : JavaLong} {ts : List Nat} (hv : v.toNat < 2 ^ 60)
    (hts : ∀ t ∈ ts, t < 2 ^ 59) :
    digits (carryLoop v (ts.map (BitVec.ofNat 64))) =
      Digits.carry (2 ^ 26) (v.toNat / 2 ^ 26) ts := by
  induction ts generalizing v with
  | nil => rfl
  | cons t ts ih =>
      obtain ⟨ht, hts⟩ := List.forall_mem_cons.mp hts
      have hsum : (v.sshiftRight 26 + BitVec.ofNat 64 t).toNat = v.toNat / 2 ^ 26 + t := by
        rw [BitVec.toNat_add, toNat_sshiftRight (by omega), BitVec.toNat_ofNat]
        omega
      rw [List.map_cons, carryLoop, digits_cons, toNat_toInt_and, ih (by rw [hsum]; omega) hts, hsum]
      rfl

/-- The sums of a product before the carries. -/
def sums (x y : Limbs) : List Nat :=
  match digits x with
  | first :: rest => Digits.rows (digits y) rest ((digits y).map (first * ·)) ++ [0]
  | [] => []

theorem mul_eq (hx : Limbed x) (hy : Limbed y) :
    mul x y = reduce (carryLoop 0 ((sums x y).map (BitVec.ofNat 64))) := by
  cases x with
  | nil => exact absurd hx.length (by simp)
  | cons x xs =>
      obtain ⟨hfirst, hrest⟩ := proper_cons.mp hx.proper
      have hrow : y.map (fun y => toLong x * toLong y) =
          ((digits y).map (x.toNat * ·)).map (BitVec.ofNat 64) := by
        rw [digits, List.map_map, List.map_map]
        apply List.map_congr_left
        intro v hv
        have hlt : v.toNat < 2 ^ 26 := hy.proper _ (List.mem_map_of_mem hv)
        simp [toLong_eq hfirst, toLong_eq hlt, BitVec.ofNat_mul]
      simp only [mul, sums, digits_cons, List.map_append, hrow, mulRows_eq hrest hy.proper]
      rfl

theorem sums_spec (hx : Limbed x) (hy : Limbed y) :
    (sums x y).length = 20 ∧ ofDigits (2 ^ 26) (sums x y) = value x * value y ∧
      ∀ t ∈ sums x y, t < 2 ^ 59 := by
  cases x with
  | nil => exact absurd hx.length (by simp)
  | cons x xs =>
      obtain ⟨hfirst, hrest⟩ := proper_cons.mp hx.proper
      have hxs : xs.length = 9 := by simpa using hx.length
      have hylength : (digits y).length = 10 := by rw [length_digits, hy.length]
      have hne : digits y ≠ [] := by
        intro hnil
        simp [hnil] at hylength
      have hrow : ((digits y).map (x.toNat * ·)).length = (digits y).length := by simp
      have hbound : ∀ t ∈ (digits y).map (x.toNat * ·), t ≤ 2 ^ 26 * 2 ^ 26 := by
        intro t ht
        obtain ⟨v, hv, rfl⟩ := List.mem_map.mp ht
        exact Nat.mul_le_mul hfirst.le (hy.proper v hv).le
      simp only [sums, digits_cons]
      refine ⟨?_, ?_, ?_⟩
      · rw [List.length_append, Digits.length_rows hrow hne, hrow, hylength, length_digits, hxs]
        rfl
      · have hvalue : value (x :: xs) = x.toNat + 2 ^ 26 * value xs := Nat.ofDigits_cons
        rw [Nat.ofDigits_append, Digits.ofDigits_rows hrow hne, ← Nat.mul_ofDigits,
          Nat.ofDigits_singleton, hvalue, ← value, ← value]
        ring
      · intro t ht
        rcases List.mem_append.mp ht with ht | ht
        · have hle := Digits.rows_le hrest hy.proper hbound t ht
          rw [List.length_map, hxs] at hle
          omega
        · have hzero : t = 0 := by simpa using ht
          omega

/-- The product of two numbers of 255 bits in twenty limbs. -/
theorem base_pow_twenty : (2 ^ 26) ^ 20 = 2 ^ 255 * 2 ^ 255 * 2 ^ 10 := by
  rw [← pow_mul, ← pow_add, ← pow_add]

theorem mul_spec (hx : Reduced x) (hy : Reduced y) :
    Reduced (mul x y) ∧ value (mul x y) = value x * value y % fieldOrder := by
  obtain ⟨hlength, hvalue, hbound⟩ := sums_spec hx.toLimbed hy.toLimbed
  have hdigits := digits_carryLoop (v := 0) (by decide) hbound
  have hproduct : value x * value y < 2 ^ 255 * 2 ^ 255 := by
    have hxlt := hx.value_lt
    have hylt := hy.value_lt
    unfold fieldOrder at hxlt hylt
    exact Nat.mul_lt_mul'' (by omega) (by omega)
  rw [mul_eq hx.toLimbed hy.toLimbed]
  generalize carryLoop 0 ((sums x y).map (BitVec.ofNat 64)) = limbs at *
  have hlimbsValue : value limbs = value x * value y := by
    rw [value, hdigits, Digits.ofDigits_carry (by omega), hlength, hvalue, base_pow_twenty,
      show (0 : JavaLong).toNat / 2 ^ 26 = 0 from rfl, Nat.zero_add, Nat.mod_eq_of_lt]
    omega
  have hreduce := reduce_spec (x := limbs) 10
    (by rw [← length_digits, hdigits, Digits.length_carry, hlength]) (by omega)
    (by rw [hdigits]; exact Digits.proper_carry (by omega) _ _) (by omega)
    (by rw [base_pow]; omega)
  rw [hlimbsValue] at hreduce
  exact hreduce

theorem square_spec (hx : Reduced x) :
    Reduced (square x) ∧ value (square x) = value x ^ 2 % fieldOrder := by
  rw [pow_two]
  exact mul_spec hx hx

theorem digits_mulA24Loop (carry : JavaLong) (hcarry : carry.toNat < 2 ^ 26)
    (hx : Proper (2 ^ 26) (digits x)) :
    digits (mulA24Loop carry x) =
      Digits.carry (2 ^ 26) carry.toNat ((digits x).map (121665 * ·) ++ [0]) := by
  induction x generalizing carry with
  | nil =>
      rw [mulA24Loop, digits_cons, toNat_toInt_and]
      simp [Digits.carry]
  | cons x xs ih =>
      obtain ⟨hx, hxs⟩ := proper_cons.mp hx
      have hsum : (carry + 121665 * toLong x).toNat = carry.toNat + 121665 * x.toNat := by
        rw [toLong_eq hx, BitVec.toNat_add, BitVec.toNat_mul, BitVec.toNat_ofNat,
          show (121665 : JavaLong).toNat = 121665 from rfl]
        omega
      have hshift : ((carry + 121665 * toLong x).sshiftRight 26).toNat =
          (carry.toNat + 121665 * x.toNat) / 2 ^ 26 := by
        rw [toNat_sshiftRight (by rw [hsum]; omega), hsum]
      rw [mulA24Loop, digits_cons, toNat_toInt_and, ih _ (by rw [hshift]; omega) hxs, hshift, hsum]
      rfl

theorem mulA24_spec (hx : Reduced x) :
    Reduced (mulA24 x) ∧ value (mulA24 x) = 121665 * value x % fieldOrder := by
  have hdigits := digits_mulA24Loop 0 (by decide) hx.proper
  have hxlt := hx.value_lt
  have hlength : ((digits x).map (121665 * ·) ++ [0]).length = 11 := by simp [hx.length]
  have hlimbsValue : value (mulA24Loop 0 x) = 121665 * value x := by
    rw [value, hdigits, Digits.ofDigits_carry (by omega), hlength, pow_succ (2 ^ 26) 10, base_pow,
      Nat.ofDigits_append, ← Nat.mul_ofDigits, ← value, Nat.ofDigits_singleton,
      show (0 : JavaLong).toNat = 0 from rfl, Nat.mul_zero]
    unfold fieldOrder at hxlt
    omega
  have hreduce := reduce_spec (x := mulA24Loop 0 x) 1
    (by rw [← length_digits, hdigits, Digits.length_carry, hlength]) (by omega)
    (by rw [hdigits]; exact Digits.proper_carry (by omega) _ _)
    (by rw [hlimbsValue]; unfold fieldOrder at hxlt; omega)
    (by rw [hlimbsValue]; unfold fieldOrder at hxlt; omega)
  rw [hlimbsValue] at hreduce
  exact hreduce

end Products

/-- Ten limbs of which only the first is set. -/
theorem reduced_small {v : JavaInt} (hv : v.toNat < 2 ^ 26) :
    Reduced (v :: List.replicate 9 0) ∧ value (v :: List.replicate 9 0) = v.toNat := by
  have hvalue : value (v :: List.replicate 9 0) = v.toNat := by
    rw [value, digits_cons, Nat.ofDigits_cons, digits, List.map_replicate,
      show (0 : JavaInt).toNat = 0 from rfl, Nat.ofDigits_replicate_zero, Nat.mul_zero, Nat.add_zero]
  refine ⟨⟨⟨rfl, ?_⟩, ?_⟩, hvalue⟩
  · apply proper_cons.mpr
    refine ⟨hv, ?_⟩
    unfold Proper
    decide
  · rw [hvalue]
    unfold fieldOrder
    omega

theorem reduced_basePoint : Reduced basePoint := (reduced_small (by decide)).1

theorem reduced_one : Reduced one := (reduced_small (by decide)).1

theorem reduced_zero : Reduced (List.replicate 10 0) := (reduced_small (v := 0) (by decide)).1

/-- Every operation returns the reduced form of the exact result, without branching and
without overflowing a word. -/
theorem arithmetic_exact {x y : Limbs} (hx : Reduced x) (hy : Reduced y) :
    (Reduced (add x y) ∧ value (add x y) = (value x + value y) % fieldOrder) ∧
      (Reduced (sub x y) ∧ value (sub x y) = (value x + (fieldOrder - value y)) % fieldOrder) ∧
      (Reduced (mul x y) ∧ value (mul x y) = value x * value y % fieldOrder) ∧
      (Reduced (mulA24 x) ∧ value (mulA24 x) = 121665 * value x % fieldOrder) :=
  ⟨add_spec hx hy, sub_spec hx hy, mul_spec hx hy, mulA24_spec hx⟩

/-- Nine less one. -/
theorem arithmetic_exact_basePoint :
    Reduced basePoint ∧ Reduced one ∧
      value (sub basePoint one) =
        (value basePoint + (fieldOrder - value one)) % fieldOrder :=
  ⟨reduced_basePoint, reduced_one, (arithmetic_exact reduced_basePoint reduced_one).2.1.2⟩

end Modvpn.Wireguard.Curve25519
