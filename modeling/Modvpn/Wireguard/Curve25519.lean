/-
# Evaluation of Curve25519

Numbers modulo 2^255 - 19 are ten limbs of 26 bits, the least significant first. The
intermediate results of a multiplication are 64 bits wide. A loop over limbs carries
from each limb to the next, and nothing branches on a secret.

The arrays that the source overwrites are results here, so a result may overlap an
argument as it does there.
-/

import Modvpn.Wireguard.Java

namespace Modvpn.Wireguard

open Java

namespace Curve25519

/-- A number as ten limbs. -/
abbrev Limbs := List JavaInt

def limbMask : JavaInt := 0x03FFFFFF

/-- The cast of an `int` in an expression with a `long`. -/
abbrev toLong (x : JavaInt) : JavaLong := x.signExtend 64

/-- The cast `(int)`. -/
abbrev toInt (v : JavaLong) : JavaInt := v.setWidth 32

/-- The bits of the last limb that belong to a number below 2^255. -/
def maskTop (x : Limbs) : Limbs := x.modify 9 (· &&& 0x001FFFFF)

/-- Adds a carry and normalizes the limbs. -/
def propagate : JavaInt → Limbs → Limbs
  | _, [] => []
  | carry, x :: xs =>
      let carry := carry + x
      (carry &&& limbMask) :: propagate (carry.sshiftRight 26) xs

/-- A trial subtraction of 2^255 - 19. -/
def reduceQuick (x : Limbs) : Limbs :=
  let t2 := propagate 19 x
  let mask := -(((t2.getD 9 0).sshiftRight 21) &&& 0x01)
  List.zipWith (fun x t => (x &&& ~~~mask) ||| (t &&& mask)) x (maskTop t2)

/-- The loop over the high limbs of `reduce`. Where they are fewer than the low ones, the
carry goes on. -/
def foldHigh : JavaInt → JavaInt → Limbs → Limbs → Limbs
  | limb, carry, x :: xs, high :: highs =>
      let limb := limb + (high <<< 5)
      let carry := carry + ((limb &&& limbMask) * 19 + x)
      (carry &&& limbMask) :: foldHigh (limb.sshiftRight 26) (carry.sshiftRight 26) xs highs
  | _, carry, xs, _ => propagate carry xs

/-- The limbs from the tenth on are the high part of `x`. -/
def reduce (x : Limbs) : Limbs :=
  let limb := (x.getD 9 0).sshiftRight 21
  let x := foldHigh limb 0 (maskTop (x.take 10)) (x.drop 10)
  let carry := ((x.getD 9 0).sshiftRight 21) * 19
  reduceQuick (propagate carry (maskTop x))

def addLoop : JavaInt → Limbs → Limbs → Limbs
  | carry, x :: xs, y :: ys =>
      let carry := carry.sshiftRight 26 + x + y
      (carry &&& limbMask) :: addLoop carry xs ys
  | _, _, _ => []

def add (x y : Limbs) : Limbs := reduceQuick (addLoop 0 x y)

/-- Whether a difference of limbs has to borrow. -/
def borrows (borrow : JavaInt) : JavaInt := (borrow.sshiftRight 26) &&& 0x01

/-- The limbs of the difference, and the last borrow. -/
def subLoop : JavaInt → Limbs → Limbs → Limbs × JavaInt
  | borrow, x :: xs, y :: ys =>
      let borrow := x - y - borrows borrow
      let (result, last) := subLoop borrow xs ys
      ((borrow &&& limbMask) :: result, last)
  | borrow, _, _ => ([], borrow)

def borrowLoop : JavaInt → Limbs → Limbs
  | borrow, x :: xs =>
      let borrow := x - borrows borrow
      (borrow &&& limbMask) :: borrowLoop borrow xs
  | _, [] => []

def sub (x y : Limbs) : Limbs :=
  match subLoop 0 x y with
  | (first :: rest, borrow) =>
      let borrow := first - ((-borrows borrow) &&& 19)
      maskTop ((borrow &&& limbMask) :: borrowLoop borrow rest)
  | ([], _) => []

/-- A row of the multiplication: the products of one limb are added to the sums so far,
and the last one opens a new sum. -/
def addRow (v : JavaLong) : Limbs → List JavaLong → List JavaLong
  | y :: ys, t :: ts => (t + v * toLong y) :: addRow v ys ts
  | y :: _, [] => [v * toLong y]
  | [], _ => []

/-- The rows below the first. Each leaves its lowest sum as it is for good. -/
def mulRows (y : Limbs) : Limbs → List JavaLong → List JavaLong
  | x :: xs, t :: ts => t :: mulRows y xs (addRow (toLong x) y ts)
  | _, ts => ts

def carryLoop : JavaLong → List JavaLong → Limbs
  | _, [] => []
  | v, t :: ts =>
      let v := v.sshiftRight 26 + t
      (toInt v &&& limbMask) :: carryLoop v ts

/-- The sums of the last row are followed by a zero, since `t1` has twenty entries. -/
def mul (x y : Limbs) : Limbs :=
  match x with
  | first :: rest =>
      reduce (carryLoop 0 (mulRows y rest (y.map fun y => toLong first * toLong y) ++ [0]))
  | [] => []

def square (x : Limbs) : Limbs := mul x x

def mulA24Loop : JavaLong → Limbs → Limbs
  | carry, [] => [toInt carry &&& limbMask]
  | carry, x :: xs =>
      let carry := carry + 121665 * toLong x
      (toInt carry &&& limbMask) :: mulA24Loop (carry.sshiftRight 26) xs

def mulA24 (x : Limbs) : Limbs := reduce (mulA24Loop 0 x)

/-- The two values, swapped where `select` is 1. -/
def cswap (select : JavaInt) (x y : Limbs) : Limbs × Limbs :=
  let dummy := List.zipWith (fun x y => -select &&& (x ^^^ y)) x y
  (List.zipWith (· ^^^ ·) x dummy, List.zipWith (· ^^^ ·) y dummy)

/-- So many squarings. -/
def squares : Nat → Limbs → Limbs
  | 0, x => x
  | count + 1, x => squares count (square x)

/-- The loop that repeats the pattern of ten bits. -/
def pattern : Nat → Limbs → Limbs → Limbs
  | 0, result, _ => result
  | count + 1, result, a =>
      let a := squares 10 a
      pattern count (mul result a) a

/-- The loop that fills in the gaps of the pattern. -/
def fill : Nat → Limbs → Limbs → Limbs
  | 0, result, _ => result
  | count + 1, result, a =>
      let a := square a
      fill count (mul result a) a

def pow250 (x : Limbs) : Limbs :=
  let a := squares 9 (square x)
  let result := pattern 23 (mul a x) a
  let a := square result
  fill 8 (mul result a) a

def recip (x : Limbs) : Limbs :=
  let result := pow250 x
  let result := mul (squares 2 result) x
  let result := mul (squares 2 result) x
  mul (square result) x

structure State where
  x_2 : Limbs
  z_2 : Limbs
  x_3 : Limbs
  z_3 : Limbs

/-- One bit of the ladder. -/
def State.step (x_1 : Limbs) (state : State) : State :=
  let a := add state.x_2 state.z_2
  let aa := square a
  let b := sub state.x_2 state.z_2
  let bb := square b
  let e := sub aa bb
  let c := add state.x_3 state.z_3
  let d := sub state.x_3 state.z_3
  let da := mul d a
  let cb := mul c b
  { x_3 := square (add da cb)
    z_3 := mul (square (sub da cb)) x_1
    x_2 := mul aa bb
    z_2 := mul (add (mulA24 e) aa) e }

def State.cswap (select : JavaInt) (state : State) : State :=
  let (x_2, x_3) := Curve25519.cswap select state.x_2 state.x_3
  let (z_2, z_3) := Curve25519.cswap select state.z_2 state.z_3
  { x_2, z_2, x_3, z_3 }

/-- The bits of a byte from `sbit` down, with the last bit that was selected. -/
def evalByte (x_1 : Limbs) (svalue : JavaInt) : Nat → JavaInt × State → JavaInt × State
  | sbit, (swap, state) =>
      let select := (svalue.sshiftRight sbit) &&& 0x01
      let state := ((state.cswap (swap ^^^ select)).step x_1)
      match sbit with
      | 0 => (select, state)
      | sbit + 1 => evalByte x_1 svalue sbit (select, state)

/-- The bytes below one. The lowest three bits of the scalar are cleared. -/
def evalBytes (x_1 : Limbs) (s : List JavaByte) : Nat → JavaInt × State → JavaInt × State
  | 0, result => result
  | sposn + 1, result =>
      let svalue := if sposn = 0 then ofByte (s.getD 0 0) &&& 0xF8 else ofByte (s.getD sposn 0)
      evalBytes x_1 s sposn (evalByte x_1 svalue 7 result)

/-- The highest bit of the scalar is ignored, and the one below it set. -/
def evalCurve (x_1 : Limbs) (s : List JavaByte) (state : State) : State :=
  let svalue := ofByte (s.getD 31 0) ||| 0x40
  let (swap, state) := evalBytes x_1 s 31 (evalByte x_1 svalue 6 (0, state))
  state.cswap swap

/-- One byte of a number in little-endian order. -/
def byteAt (x : Limbs) (index : Nat) : JavaByte :=
  let bit := index * 8 % 26
  let word := index * 8 / 26
  if bit ≤ 26 - 8 then toByte ((x.getD word 0).sshiftRight bit)
  else toByte ((x.getD word 0).sshiftRight bit ||| (x.getD (word + 1) 0) <<< (26 - bit))

/-- The base point of the curve. -/
def basePoint : Limbs := 9 :: List.replicate 9 0

def one : Limbs := 1 :: List.replicate 9 0

/-- `eval` without a public key, which then is the base point. -/
def eval (privateKey : List JavaByte) : List JavaByte :=
  let x_1 := basePoint
  let state := evalCurve x_1 privateKey
    { x_2 := one, z_2 := List.replicate 10 0, x_3 := x_1, z_3 := one }
  let x_2 := mul state.x_2 (recip state.z_2)
  (List.range 32).map (byteAt x_2)

end Curve25519

end Modvpn.Wireguard
