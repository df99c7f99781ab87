/-
# A public key is a multiple of the base point

The loop over the bits of a private key is the Montgomery ladder on the elements that
the limbs stand for, and what it leaves is written out in little-endian order. So the
bytes of a public key are the first coordinate of the multiple of the base point by the
clamped private key.
-/

import Modvpn.Analysis.Wireguard.FieldElements
import Modvpn.Arithmetic.MontgomeryLadder
import Modvpn.Wireguard.KeyPair

namespace Modvpn.Wireguard

open Java (ofByte)
open MontgomeryLadder (Rung Ground climb climb_append climb_cons curve extend extend_append
  settle xCoordinate)
open Nat (ofDigits)

namespace Curve25519

section Steps

/-- A flag as the code keeps it. -/
def flag (b : Bool) : JavaInt := if b then 1 else 0

theorem flag_xor (b c : Bool) : flag b ^^^ flag c = flag (b ^^ c) := by
  cases b <;> cases c <;> rfl

theorem cswap_flag {x y : Limbs} (h : x.length = y.length) (b : Bool) :
    cswap (flag b) x y = if b then (y, x) else (x, y) := by
  have hones (v : JavaInt) : 4294967295#32 &&& v = v := BitVec.allOnes_and
  have hfirst (v w : JavaInt) : v ^^^ (v ^^^ w) = w := by
    rw [← BitVec.xor_assoc, BitVec.xor_self, BitVec.zero_xor]
  have hsecond (v w : JavaInt) : w ^^^ (v ^^^ w) = v := by
    rw [BitVec.xor_comm v w, hfirst]
  cases b with
  | false =>
      apply Prod.ext
      · apply List.ext_getElem <;> simp [cswap, flag, h]
      · apply List.ext_getElem <;> simp [cswap, flag, h]
  | true =>
      apply Prod.ext
      · apply List.ext_getElem <;> simp [cswap, flag, h, hones, hfirst]
      · apply List.ext_getElem <;> simp [cswap, flag, h, hones, hsecond]

/-- All four numbers are reduced. -/
structure State.Reduced (state : State) : Prop where
  x_2 : Curve25519.Reduced state.x_2
  z_2 : Curve25519.Reduced state.z_2
  x_3 : Curve25519.Reduced state.x_3
  z_3 : Curve25519.Reduced state.z_3

/-- The fractions that a state stands for. -/
def State.rung (state : State) : Rung (ZMod fieldOrder) where
  x₂ := element state.x_2
  z₂ := element state.z_2
  x₃ := element state.x_3
  z₃ := element state.z_3

variable {x_1 : Limbs} {state : State}

theorem State.Reduced.cswap (h : state.Reduced) (b : Bool) :
    (state.cswap (flag b)).Reduced ∧ (state.cswap (flag b)).rung = state.rung.swap b := by
  have hx := cswap_flag (h.x_2.length.trans h.x_3.length.symm) b
  have hz := cswap_flag (h.z_2.length.trans h.z_3.length.symm) b
  simp only [State.cswap, hx, hz]
  cases b with
  | false => exact ⟨h, rfl⟩
  | true => exact ⟨⟨h.x_3, h.z_3, h.x_2, h.z_2⟩, rfl⟩

theorem State.Reduced.step (h : state.Reduced) (hx_1 : Curve25519.Reduced x_1) :
    (state.step x_1).Reduced ∧ (state.step x_1).rung = state.rung.step 486662 (element x_1) := by
  have ha := (add_spec h.x_2 h.z_2).1
  have hb := (sub_spec h.x_2 h.z_2).1
  have haa := (square_spec ha).1
  have hbb := (square_spec hb).1
  have he := (sub_spec haa hbb).1
  have hc := (add_spec h.x_3 h.z_3).1
  have hd := (sub_spec h.x_3 h.z_3).1
  have hda := (mul_spec hd ha).1
  have hcb := (mul_spec hc hb).1
  have hsum := (add_spec hda hcb).1
  have hdiff := (sub_spec hda hcb).1
  have hdiffSquare := (square_spec hdiff).1
  have ha24 := (mulA24_spec he).1
  have hsum' := (add_spec ha24 haa).1
  constructor
  · rw [State.step]
    exact ⟨(mul_spec haa hbb).1, (mul_spec hsum' he).1, (square_spec hsum).1,
      (mul_spec hdiffSquare hx_1).1⟩
  · simp only [State.rung, State.step, Rung.step, element_mul haa hbb, element_mul hsum' he,
      element_square hsum, element_mul hdiffSquare hx_1, element_square hdiff,
      element_add hda hcb, element_sub hda hcb, element_mul hd ha, element_mul hc hb,
      element_add h.x_3 h.z_3, element_sub h.x_3 h.z_3, element_add h.x_2 h.z_2,
      element_sub h.x_2 h.z_2, element_square ha, element_square hb, element_sub haa hbb,
      element_mulA24 he, element_add ha24 haa]
    congr 1 <;> ring

end Steps

section Bits

/-- So many of the lowest bits, from the highest of them down. -/
def lowBits : Nat → Nat → List Bool
  | 0, _ => []
  | n + 1, v => v.testBit n :: lowBits n v

theorem extend_lowBits (m n v : Nat) : extend m (lowBits n v) = m * 2 ^ n + v % 2 ^ n := by
  induction n generalizing m with
  | zero => simp [lowBits, extend, Nat.mod_one]
  | succ n ih =>
      have hbit : (v.testBit n).toNat = v / 2 ^ n % 2 := by
        rw [Nat.testBit_eq_decide_div_mod_eq]
        rcases Nat.mod_two_eq_zero_or_one (v / 2 ^ n) with h | h <;> simp [h]
      rw [lowBits, extend, ih, hbit, pow_succ, Nat.mod_mul]
      ring

theorem select_eq (svalue : JavaInt) {sbit : Nat} (h : sbit < 32) :
    (svalue.sshiftRight sbit) &&& 0x01 = flag (svalue.toNat.testBit sbit) := by
  apply BitVec.eq_of_toNat_eq
  rw [toNat_bit svalue h, Nat.testBit_eq_decide_div_mod_eq, flag]
  rcases Nat.mod_two_eq_zero_or_one (svalue.toNat / 2 ^ sbit) with h | h <;> simp [h]

end Bits

section Loop

variable {x_1 : Limbs}

/-- The flag and the state of the loop stand for those of the ladder. -/
structure Follows (code : JavaInt × State) (ladder : Bool × Rung (ZMod fieldOrder)) : Prop where
  flag : code.1 = flag ladder.1
  reduced : code.2.Reduced
  rung : code.2.rung = ladder.2

variable {code : JavaInt × State} {ladder : Bool × Rung (ZMod fieldOrder)}

theorem Follows.bit (h : Follows code ladder) (hx_1 : Reduced x_1) (b : Bool) :
    Follows (Curve25519.flag b, (code.2.cswap (code.1 ^^^ Curve25519.flag b)).step x_1)
      (b, (ladder.2.swap (ladder.1 ^^ b)).step 486662 (element x_1)) := by
  rw [h.flag, flag_xor]
  obtain ⟨hswapped, hswappedRung⟩ := h.reduced.cswap (ladder.1 ^^ b)
  obtain ⟨hstep, hstepRung⟩ := hswapped.step hx_1
  constructor
  · rfl
  · exact hstep
  · rw [hstepRung, hswappedRung, h.rung]

theorem evalByte_zero (svalue : JavaInt) :
    evalByte x_1 svalue 0 code =
      ((svalue.sshiftRight 0) &&& 0x01,
        (code.2.cswap (code.1 ^^^ ((svalue.sshiftRight 0) &&& 0x01))).step x_1) := rfl

theorem evalByte_succ (svalue : JavaInt) (sbit : Nat) :
    evalByte x_1 svalue (sbit + 1) code =
      evalByte x_1 svalue sbit
        ((svalue.sshiftRight (sbit + 1)) &&& 0x01,
          (code.2.cswap (code.1 ^^^ ((svalue.sshiftRight (sbit + 1)) &&& 0x01))).step x_1) := rfl

theorem follows_evalByte (hx_1 : Reduced x_1) (svalue : JavaInt) (sbit : Nat) (hsbit : sbit < 32)
    (h : Follows code ladder) :
    Follows (evalByte x_1 svalue sbit code)
      (climb 486662 (element x_1) (lowBits (sbit + 1) svalue.toNat) ladder) := by
  induction sbit generalizing code ladder with
  | zero =>
      rw [evalByte_zero, select_eq svalue hsbit, lowBits, climb_cons]
      exact h.bit hx_1 _
  | succ sbit ih =>
      rw [evalByte_succ, select_eq svalue hsbit, lowBits, climb_cons]
      exact ih (by omega) (h.bit hx_1 _)

theorem setWidth_ofByte (b : JavaByte) : (ofByte b).setWidth 8 = b := by
  ext i hi
  rw [BitVec.getElem_setWidth, BitVec.getLsbD_signExtend]
  simp [hi, show i < 32 by omega, BitVec.getLsbD_eq_getElem]

theorem toNat_mod_byte (v : JavaInt) : v.toNat % 2 ^ 8 = (v.setWidth 8).toNat := by
  rw [BitVec.toNat_setWidth]

/-- The clamped bytes below the highest. -/
theorem clamp_getD (s : List JavaByte) {sposn : Nat} (h : sposn < 31) :
    (Key.clamp s).getD sposn 0 = if sposn = 0 then s.getD 0 0 &&& 248 else s.getD sposn 0 := by
  simp only [Key.clamp, List.getD_eq_getElem?_getD, List.getElem?_modify]
  cases sposn with
  | zero => cases s[0]? <;> simp
  | succ sposn => cases s[sposn + 1]? <;> simp [show ¬31 = sposn + 1 by omega]

/-- The bits of the scalar below one of its bytes. -/
def byteBits (s : List JavaByte) : Nat → List Bool
  | 0 => []
  | sposn + 1 =>
      lowBits 8 ((Key.clamp s).getD sposn 0).toNat ++ byteBits s sposn

/-- The bits that the code uses of a byte. -/
theorem lowBits_congr {n v w : Nat} (h : v % 2 ^ n = w % 2 ^ n) : lowBits n v = lowBits n w := by
  have hbits (k : Nat) (hk : k ≤ n) : lowBits k v = lowBits k w := by
    induction k with
    | zero => rfl
    | succ k ih =>
        have hbit := congrArg (Nat.testBit · k) h
        simp only [Nat.testBit_mod_two_pow, show k < n from hk, decide_true, Bool.true_and] at hbit
        rw [lowBits, lowBits, hbit, ih (by omega)]
  exact hbits n le_rfl

theorem follows_evalBytes (hx_1 : Reduced x_1) (s : List JavaByte) {sposn : Nat}
    (hsposn : sposn ≤ 31) (h : Follows code ladder) :
    Follows (evalBytes x_1 s sposn code)
      (climb 486662 (element x_1) (byteBits s sposn) ladder) := by
  induction sposn generalizing code ladder with
  | zero => exact h
  | succ sposn ih =>
      rw [evalBytes, byteBits, climb_append]
      apply ih (by omega)
      have hbyte := follows_evalByte hx_1 (if sposn = 0 then ofByte (s.getD 0 0) &&& 0xF8
        else ofByte (s.getD sposn 0)) 7 (by omega) h
      rw [lowBits_congr (w := ((Key.clamp s).getD sposn 0).toNat)] at hbyte
      · exact hbyte
      · rw [toNat_mod_byte, clamp_getD s (by omega), Nat.mod_eq_of_lt (BitVec.isLt _)]
        congr 1
        split
        · rw [BitVec.setWidth_and, setWidth_ofByte]
          rfl
        · exact setWidth_ofByte _

/-- The bits of the scalar. -/
def scalarBits (s : List JavaByte) : List Bool :=
  lowBits 7 ((Key.clamp s).getD 31 0).toNat ++ byteBits s 31

theorem clamp_getD_last {s : List JavaByte} (h : s.length = 32) :
    (Key.clamp s).getD 31 0 = (s.getD 31 0 &&& 127) ||| 64 := by
  have hlast : s[31]? = some s[31] := List.getElem?_eq_getElem _
  simp [Key.clamp, List.getD_eq_getElem?_getD, hlast]

theorem evalCurve_eq (s : List JavaByte) (state : State) :
    evalCurve x_1 s state =
      (evalBytes x_1 s 31 (evalByte x_1 (ofByte (s.getD 31 0) ||| 0x40) 6 (0, state))).2.cswap
        (evalBytes x_1 s 31 (evalByte x_1 (ofByte (s.getD 31 0) ||| 0x40) 6 (0, state))).1 := by
  rw [evalCurve]

theorem evalCurve_follows (hx_1 : Reduced x_1) {s : List JavaByte} (hs : s.length = 32)
    {state : State} {rung : Rung (ZMod fieldOrder)} (h : Follows (0, state) (false, rung)) :
    (evalCurve x_1 s state).Reduced ∧ (evalCurve x_1 s state).rung =
      settle (climb 486662 (element x_1) (scalarBits s) (false, rung)) := by
  have hbyte := follows_evalByte hx_1 (ofByte (s.getD 31 0) ||| 0x40) 6 (by omega) h
  rw [lowBits_congr (w := ((Key.clamp s).getD 31 0).toNat)] at hbyte
  · have hbytes := follows_evalBytes hx_1 s le_rfl hbyte
    rw [← climb_append, ← scalarBits] at hbytes
    obtain ⟨hfinal, hfinalRung⟩ :=
      hbytes.reduced.cswap (climb 486662 (element x_1) (scalarBits s) (false, rung)).1
    rw [← hbytes.flag] at hfinal hfinalRung
    rw [hbytes.rung] at hfinalRung
    rw [evalCurve_eq]
    exact ⟨hfinal, hfinalRung⟩
  · have hmod (v : JavaInt) : v.toNat % 2 ^ 7 = (v.setWidth 7).toNat := by
      rw [BitVec.toNat_setWidth]
    have hmod' (v : JavaByte) : v.toNat % 2 ^ 7 = (v.setWidth 7).toNat := by
      rw [BitVec.toNat_setWidth]
    have hlow (b : JavaByte) : (ofByte b).setWidth 7 = b.setWidth 7 := by
      conv_rhs => rw [← setWidth_ofByte b]
      exact (BitVec.setWidth_setWidth_of_le _ (by omega)).symm
    have hones : BitVec.setWidth 7 (127 : JavaByte) = BitVec.allOnes 7 := rfl
    rw [hmod, hmod', clamp_getD_last hs, BitVec.setWidth_or, BitVec.setWidth_or, BitVec.setWidth_and,
      hlow, hones, BitVec.and_allOnes]
    rfl

end Loop

section Bytes

/-- The number that bytes are in little-endian order. -/
def number (bytes : List JavaByte) : Nat := ofDigits (2 ^ 8) (bytes.map BitVec.toNat)

theorem number_take_succ (bytes : List JavaByte) {n : Nat} (h : n < bytes.length) :
    number (bytes.take (n + 1)) = (bytes.getD n 0).toNat * (2 ^ 8) ^ n + number (bytes.take n) := by
  have hlast : bytes.getD n 0 = bytes[n] := by simp [List.getD_eq_getElem?_getD, h]
  rw [number, List.take_succ_eq_append_getElem h, List.map_append, Nat.ofDigits_append,
    List.length_map, List.length_take, Nat.min_eq_left h.le, hlast]
  simp [number]
  ring

theorem extend_byteBits {s : List JavaByte} (m : Nat) {sposn : Nat} (h : sposn ≤ s.length) :
    extend m (byteBits s sposn) = m * (2 ^ 8) ^ sposn + number ((Key.clamp s).take sposn) := by
  have hlength : (Key.clamp s).length = s.length := by simp [Key.clamp]
  induction sposn generalizing m with
  | zero => simp [byteBits, extend, number]
  | succ sposn ih =>
      rw [byteBits, extend_append, extend_lowBits, ih _ (by omega),
        number_take_succ _ (by omega), Nat.mod_eq_of_lt (BitVec.isLt _), pow_succ]
      ring

/-- The bits that the loop goes through are those of the clamped key. -/
theorem extend_scalarBits {s : List JavaByte} (h : s.length = 32) :
    extend 0 (scalarBits s) = number (Key.clamp s) := by
  have hlength : (Key.clamp s).length = 32 := by simp [Key.clamp, h]
  have htop : ((Key.clamp s).getD 31 0).toNat < 2 ^ 7 := by
    rw [clamp_getD_last h, BitVec.toNat_or]
    apply Nat.or_lt_two_pow
    · rw [BitVec.toNat_and]
      exact lt_of_le_of_lt Nat.and_le_right (by decide)
    · decide
  have hall := number_take_succ (Key.clamp s) (n := 31) (by omega)
  rw [List.take_of_length_le (by omega)] at hall
  rw [scalarBits, extend_append, extend_lowBits, extend_byteBits _ (by omega), hall,
    Nat.mod_eq_of_lt htop, Nat.zero_mul, Nat.zero_add]

/-- A byte of the result holds eight bits of the number. -/
theorem toNat_byteAt {x : Limbs} (hx : Limbed x) (index : Nat) :
    (byteAt x index).toNat = value x / (2 ^ 8) ^ index % 2 ^ 8 := by
  have hlimb (k : Nat) : (x.getD k 0).toNat < 2 ^ 26 := by
    rw [getD_digits, Digits.getD_eq hx.proper (by omega)]
    exact Nat.mod_lt _ (by omega)
  have hbit (n : Nat) : (value x).testBit n = (x.getD (n / 26) 0).getLsbD (n % 26) := by
    rw [value, Digits.testBit_ofDigits hx.proper (by omega), ← getD_digits]
    rfl
  have hhigh (k n : Nat) (hn : 26 ≤ n) : (x.getD k 0).getLsbD n = false :=
    Nat.testBit_lt_two_pow (lt_of_lt_of_le (hlimb k) (Nat.pow_le_pow_right (by omega) hn))
  have hshift (k n : Nat) : (x.getD k 0).sshiftRight n = (x.getD k 0) >>> n := by
    apply BitVec.sshiftRight_eq_of_msb_false
    have := hlimb k
    rw [BitVec.msb_eq_decide, decide_eq_false_iff_not]
    omega
  apply Nat.eq_of_testBit_eq
  intro i
  rw [← pow_mul, Nat.testBit_mod_two_pow, Nat.testBit_div_two_pow, hbit, byteAt]
  by_cases hi : i < 8
  · simp only [hi, decide_true, Bool.true_and, hshift]
    split
    · -- The byte lies within one limb.
      rw [show (i + 8 * index) / 26 = index * 8 / 26 by omega,
        show (i + 8 * index) % 26 = index * 8 % 26 + i by omega]
      show (BitVec.setWidth 8 _).getLsbD i = _
      rw [BitVec.getLsbD_setWidth, BitVec.getLsbD_ushiftRight]
      simp [hi]
    · -- The byte begins in one limb and ends in the next.
      show (BitVec.setWidth 8 _).getLsbD i = _
      rw [BitVec.getLsbD_setWidth, BitVec.getLsbD_or, BitVec.getLsbD_ushiftRight,
        BitVec.getLsbD_shiftLeft]
      by_cases hlow : index * 8 % 26 + i < 26
      · rw [show (i + 8 * index) / 26 = index * 8 / 26 by omega,
          show (i + 8 * index) % 26 = index * 8 % 26 + i by omega]
        simp [hi, show i < 26 - index * 8 % 26 by omega]
      · rw [show (i + 8 * index) / 26 = index * 8 / 26 + 1 by omega,
          show (i + 8 * index) % 26 = i - (26 - index * 8 % 26) by omega,
          hhigh _ _ (by omega)]
        simp [hi, show ¬i < 26 - index * 8 % 26 by omega, show i < 32 by omega]
  · rw [Nat.testBit_lt_two_pow (lt_of_lt_of_le (BitVec.isLt _)
      (Nat.pow_le_pow_right (by omega) (by omega : 8 ≤ i)))]
    simp [hi]

theorem number_byteAt {x : Limbs} (hx : Reduced x) :
    number ((List.range 32).map (byteAt x)) = value x := by
  have hbytes : ((List.range 32).map (byteAt x)).map BitVec.toNat =
      (List.range 32).map fun i => value x / (2 ^ 8) ^ i % 2 ^ 8 := by
    rw [List.map_map]
    apply List.map_congr_left
    intro index _
    exact toNat_byteAt hx.toLimbed index
  have hlt := hx.value_lt
  rw [number, hbytes, Digits.ofDigits_range, ← pow_mul, Nat.mod_eq_of_lt]
  unfold fieldOrder at hlt
  omega

end Bytes

section Curve

theorem natCast_ne {m n : Nat} (h : m % fieldOrder ≠ n % fieldOrder) :
    (m : ZMod fieldOrder) ≠ n := by
  rw [ne_eq, ZMod.natCast_eq_natCast_iff']
  exact h

theorem two_ne_zero : (2 : ZMod fieldOrder) ≠ 0 := by
  have hne := natCast_ne (m := 2) (n := 0) (by decide)
  rwa [Nat.cast_ofNat, Nat.cast_zero] at hne

/-- The second coordinate of the base point. -/
def baseY : Nat := 14781619447589544791020593568409986887264606134616475288964881837755586237401

theorem nonsingular_base : (curve (486662 : ZMod fieldOrder)).Nonsingular 9 baseY := by
  apply MontgomeryLadder.nonsingular two_ne_zero
  · have hequation : ((baseY ^ 2 : Nat) : ZMod fieldOrder) =
        ((9 ^ 3 + 486662 * 9 ^ 2 + 9 : Nat) : ZMod fieldOrder) := by
      rw [ZMod.natCast_eq_natCast_iff']
      decide +kernel
    push_cast at hequation
    exact hequation
  · have hne := natCast_ne (m := baseY) (n := 0) (by decide)
    rwa [Nat.cast_zero] at hne

/-- The base point of the curve. -/
def base : (curve (486662 : ZMod fieldOrder)).Point := .some 9 baseY nonsingular_base

theorem element_basePoint : element basePoint = 9 := by
  rw [element, basePoint, (reduced_small (by decide)).2, show (9 : JavaInt).toNat = 9 from rfl,
    Nat.cast_ofNat]

theorem ground_base : Ground 486662 (element basePoint) base := by
  rw [element_basePoint]
  constructor
  · exact two_ne_zero
  · have hne := natCast_ne (m := 486662 ^ 2) (n := 4) (by decide)
    push_cast at hne
    exact hne
  · have hne := natCast_ne (m := 9) (n := 0) (by decide)
    rwa [Nat.cast_ofNat, Nat.cast_zero] at hne
  · exact ⟨one_ne_zero, (mul_one _).symm⟩

/-- The result of the evaluation, as a number. -/
theorem number_eval {s : List JavaByte} (hs : s.length = 32) :
    number (eval s) = (xCoordinate (number (Key.clamp s) • base)).val := by
  have hstart : Follows
      (0, { x_2 := one, z_2 := List.replicate 10 0, x_3 := basePoint, z_3 := one })
      (false, { x₂ := 1, z₂ := 0, x₃ := element basePoint, z₃ := 1 }) := by
    constructor
    · rfl
    · exact ⟨reduced_one, reduced_zero, reduced_basePoint, reduced_one⟩
    · simp only [State.rung, element_one, element_zero]
  obtain ⟨hreduced, hrung⟩ := evalCurve_follows reduced_basePoint hs hstart
  have hcoordinate := MontgomeryLadder.xCoordinate_climb ground_base (scalarBits s)
  rw [← hrung, extend_scalarBits hs] at hcoordinate
  have hrecip := (power_recip hreduced.z_2).reduced
  rw [eval, number_byteAt (mul_spec hreduced.x_2 hrecip).1,
    ← val_element (mul_spec hreduced.x_2 hrecip).1, element_mul hreduced.x_2 hrecip,
    element_recip hreduced.z_2]
  exact congrArg ZMod.val hcoordinate

end Curve

end Curve25519

namespace Key

open Curve25519

/-- The bytes of a public key are the first coordinate of a multiple of the base point, by
the number that the private key is after clamping. -/
theorem generatePublicKey_exact (privateKey : Key) :
    number (generatePublicKey privateKey).bytes =
      (xCoordinate (number (clamp privateKey.bytes) • base)).val :=
  number_eval privateKey.length_bytes

/-- A clamped key stays as it is. -/
theorem clamp_clamp (privateKey : List JavaByte) : clamp (clamp privateKey) = clamp privateKey := by
  have hlow (b : JavaByte) : b &&& 248#8 &&& 248#8 = b &&& 248#8 := by
    rw [BitVec.and_assoc, BitVec.and_self]
  have hhigh (b : JavaByte) : (b &&& 127#8 ||| 64#8) &&& 127#8 ||| 64#8 = b &&& 127#8 ||| 64#8 := by
    ext i hi
    simp only [BitVec.getElem_or, BitVec.getElem_and]
    cases b[i] <;> cases (127#8)[i] <;> cases (64#8)[i] <;> rfl
  apply List.ext_getElem?
  intro n
  simp only [clamp, List.getElem?_modify]
  by_cases hfirst : 0 = n
  · subst hfirst
    cases privateKey[0]? with
    | none => simp
    | some b => simp [hlow]
  · by_cases hlast : 31 = n
    · subst hlast
      cases privateKey[31]? with
      | none => simp
      | some b => simp [hhigh]
    · simp [hfirst, hlast]

/-- The public key of a new pair belongs to the number that its private key is. -/
theorem generate_exact (nextBytes : Key) :
    number (KeyPair.generate nextBytes).publicKey.bytes =
      (xCoordinate (number (KeyPair.generate nextBytes).privateKey.bytes • base)).val := by
  have hclamped : clamp (KeyPair.generate nextBytes).privateKey.bytes =
      (KeyPair.generate nextBytes).privateKey.bytes := clamp_clamp nextBytes.bytes
  have hpublic := number_eval (KeyPair.generate nextBytes).privateKey.length_bytes
  rw [hclamped] at hpublic
  exact hpublic

end Key

end Modvpn.Wireguard
