/-
# Schoolbook arithmetic on digits

Numbers as lists of digits in any base, the least significant first, and the loops that
carry, borrow and multiply over them. `Nat.ofDigits` gives a list its value, also where
an entry is not below the base yet. Each loop gets one equation for the value of its
result.
-/

import Mathlib.Data.Nat.Digits.Lemmas
import Mathlib.Tactic.Ring
import Mathlib.Tactic.LinearCombination

namespace Modvpn.Digits

open Nat (ofDigits ofDigits_cons ofDigits_nil ofDigits_append)

variable {base : Nat}

/-- Every entry is a digit. -/
def Proper (base : Nat) (xs : List Nat) : Prop := ∀ x ∈ xs, x < base

theorem proper_nil : Proper base [] := by
  intro x hx
  simp at hx

theorem proper_cons {x : Nat} {xs : List Nat} : Proper base (x :: xs) ↔ x < base ∧ Proper base xs :=
  List.forall_mem_cons

theorem Proper.ofDigits_lt {xs : List Nat} (h : Proper base xs) (hbase : 1 < base) :
    ofDigits base xs < base ^ xs.length :=
  Nat.ofDigits_lt_base_pow_length hbase h

theorem Proper.take {xs : List Nat} (h : Proper base xs) (n : Nat) : Proper base (xs.take n) :=
  fun x hx => h x (List.mem_of_mem_take hx)

theorem Proper.drop {xs : List Nat} (h : Proper base xs) (n : Nat) : Proper base (xs.drop n) :=
  fun x hx => h x (List.mem_of_mem_drop hx)

/-- Two lists of digits of one length with the same value are the same. -/
theorem Proper.eq_of_ofDigits_eq {xs ys : List Nat} (hx : Proper base xs) (hy : Proper base ys)
    (hbase : 1 < base) (hlength : xs.length = ys.length)
    (h : ofDigits base xs = ofDigits base ys) : xs = ys :=
  Nat.ofDigits_inj_of_len_eq hbase hlength hx hy h

/-- The lowest digit of a sum, and what it carries into the others. -/
theorem mod_step (hbase : 0 < base) (a b n : Nat) :
    (a + base * b) % (base * n) = a % base + base * ((a / base + b) % n) := by
  rw [Nat.mod_mul, Nat.add_mul_mod_self_left, Nat.add_mul_div_left a b hbase]

section Places

variable {xs : List Nat}

theorem ofDigits_eq_take_add_drop (n : Nat) (h : n ≤ xs.length) :
    ofDigits base xs = ofDigits base (xs.take n) + base ^ n * ofDigits base (xs.drop n) := by
  conv_lhs => rw [← List.take_append_drop n xs, ofDigits_append]
  rw [List.length_take, Nat.min_eq_left h]

/-- The digit of a place. -/
theorem getD_eq (hxs : Proper base xs) (hbase : 1 < base) (n : Nat) :
    xs.getD n 0 = ofDigits base xs / base ^ n % base := by
  induction xs generalizing n with
  | nil => simp
  | cons x xs ih =>
      obtain ⟨hx, hxs⟩ := proper_cons.mp hxs
      rw [ofDigits_cons]
      cases n with
      | zero =>
          rw [List.getD_cons_zero, pow_zero, Nat.div_one, Nat.add_mul_mod_self_left]
          exact (Nat.mod_eq_of_lt hx).symm
      | succ n =>
          rw [List.getD_cons_succ, ih hxs n, pow_succ', ← Nat.div_div_eq_div_mul,
            Nat.add_mul_div_left _ _ (by omega), Nat.div_eq_of_lt hx, Nat.zero_add]

/-- The digit of the last place is all that is left above the others. -/
theorem getD_last (hxs : Proper base xs) (hbase : 1 < base) {n : Nat} (hn : xs.length = n + 1) :
    xs.getD n 0 = ofDigits base xs / base ^ n := by
  rw [getD_eq hxs hbase]
  apply Nat.mod_eq_of_lt
  apply Nat.div_lt_of_lt_mul
  rw [← pow_succ, ← hn]
  exact hxs.ofDigits_lt hbase

/-- Cutting the last digit down cuts the number down. -/
theorem ofDigits_modify_last (hxs : Proper base xs) (hbase : 1 < base) {n : Nat}
    (hn : xs.length = n + 1) (top : Nat) :
    ofDigits base (xs.modify n (· % top)) = ofDigits base xs % (base ^ n * top) := by
  induction n generalizing xs with
  | zero =>
      obtain ⟨x, rfl⟩ := List.length_eq_one_iff.mp hn
      simp
  | succ n ih =>
      cases xs with
      | nil => simp at hn
      | cons x xs =>
          obtain ⟨hx, hxs⟩ := proper_cons.mp hxs
          rw [List.modify_succ_cons, ofDigits_cons, ofDigits_cons,
            ih hxs (by simpa using hn), pow_succ', mul_assoc, mod_step (by omega),
            Nat.mod_eq_of_lt hx, Nat.div_eq_of_lt hx, Nat.zero_add]

/-- The lowest digits of a number. -/
theorem ofDigits_range (v n : Nat) :
    ofDigits base ((List.range n).map fun i => v / base ^ i % base) = v % base ^ n := by
  induction n with
  | zero => simp [Nat.mod_one]
  | succ n ih =>
      rw [List.range_succ, List.map_append, ofDigits_append, ih, List.map_singleton,
        Nat.ofDigits_singleton, List.length_map, List.length_range, pow_succ, Nat.mod_mul]

/-- The bits of a number are those of its digits, where the base is a power of two. -/
theorem testBit_ofDigits {width : Nat} (hxs : Proper (2 ^ width) xs) (hwidth : 0 < width)
    (n : Nat) :
    (ofDigits (2 ^ width) xs).testBit n = (xs.getD (n / width) 0).testBit (n % width) := by
  rw [getD_eq hxs (Nat.one_lt_two_pow (by omega)), ← pow_mul, Nat.testBit_mod_two_pow,
    Nat.testBit_div_two_pow, Nat.mod_add_div]
  simp [Nat.mod_lt n hwidth]

end Places

section Carrying

/-- Carries from each entry into the next. -/
def carry (base : Nat) : Nat → List Nat → List Nat
  | _, [] => []
  | c, x :: xs => (c + x) % base :: carry base ((c + x) / base) xs

@[simp] theorem length_carry (c : Nat) (xs : List Nat) : (carry base c xs).length = xs.length := by
  induction xs generalizing c with
  | nil => rfl
  | cons x xs ih => simp [carry, ih]

theorem proper_carry (hbase : 0 < base) (c : Nat) (xs : List Nat) :
    Proper base (carry base c xs) := by
  induction xs generalizing c with
  | nil => exact proper_nil
  | cons x xs ih => exact proper_cons.mpr ⟨Nat.mod_lt _ hbase, ih _⟩

theorem ofDigits_carry (hbase : 0 < base) (c : Nat) (xs : List Nat) :
    ofDigits base (carry base c xs) = (c + ofDigits base xs) % base ^ xs.length := by
  induction xs generalizing c with
  | nil => simp [carry, Nat.mod_one]
  | cons x xs ih =>
      rw [carry, ofDigits_cons, ih, ofDigits_cons, List.length_cons, pow_succ', ← Nat.add_assoc,
        mod_step hbase]

/-- Adds the high digits, shifted and times a factor, to the low ones. The digits of the
shifted number are formed along the way. -/
def fold (base shift factor : Nat) : Nat → Nat → List Nat → List Nat → List Nat
  | d, c, x :: xs, high :: highs =>
      let d := d + high * shift
      let c := c + (d % base * factor + x)
      c % base :: fold base shift factor (d / base) (c / base) xs highs
  | _, c, xs, _ => carry base c xs

variable {shift factor : Nat}

@[simp] theorem length_fold (d c : Nat) (xs highs : List Nat) :
    (fold base shift factor d c xs highs).length = xs.length := by
  induction xs generalizing d c highs with
  | nil => simp [fold]
  | cons x xs ih => cases highs <;> simp [fold, ih]

theorem proper_fold (hbase : 0 < base) (d c : Nat) (xs highs : List Nat) :
    Proper base (fold base shift factor d c xs highs) := by
  induction xs generalizing d c highs with
  | nil => exact proper_carry hbase c []
  | cons x xs ih =>
      cases highs with
      | nil => exact proper_carry hbase c (x :: xs)
      | cons high highs => exact proper_cons.mpr ⟨Nat.mod_lt _ hbase, ih _ _ _⟩

theorem ofDigits_fold (hbase : 0 < base) (d c : Nat) (xs highs : List Nat)
    (h : highs.length ≤ xs.length) :
    ofDigits base (fold base shift factor d c xs highs) =
      (c + ofDigits base xs +
        (d + ofDigits base highs * shift) % base ^ highs.length * factor) % base ^ xs.length := by
  induction highs generalizing d c xs with
  | nil => cases xs <;> simp [fold, ofDigits_carry hbase, Nat.mod_one]
  | cons high highs ih =>
      cases xs with
      | nil => simp at h
      | cons x xs =>
          have hshifted : d + (high + base * ofDigits base highs) * shift =
              d + high * shift + base * (ofDigits base highs * shift) := by
            ring
          rw [fold, ofDigits_cons, ih _ _ _ (Nat.le_of_succ_le_succ h), ofDigits_cons,
            ofDigits_cons, List.length_cons, List.length_cons, pow_succ', pow_succ', hshifted,
            mod_step hbase]
          generalize d + high * shift = e
          generalize (e / base + ofDigits base highs * shift) % base ^ highs.length = q
          have hsum : c + (x + base * ofDigits base xs) + (e % base + base * q) * factor =
              c + (e % base * factor + x) + base * (ofDigits base xs + q * factor) := by
            ring
          rw [hsum, mod_step hbase, Nat.add_assoc (_ / base)]

end Carrying

section Borrowing

/-- Subtracts digit by digit. The second component is the last borrow. -/
def difference (base : Nat) : Nat → List Nat → List Nat → List Nat × Nat
  | b, x :: xs, y :: ys =>
      let rest := difference base (if x < y + b then 1 else 0) xs ys
      ((if x < y + b then base + x - (y + b) else x - (y + b)) :: rest.1, rest.2)
  | b, _, _ => ([], b)

variable {b : Nat} {xs ys : List Nat}

theorem borrow_le (hb : b ≤ 1) : (difference base b xs ys).2 ≤ 1 := by
  induction xs generalizing b ys with
  | nil => exact hb
  | cons x xs ih =>
      cases ys with
      | nil => exact hb
      | cons y ys =>
          apply ih
          split <;> omega

theorem length_difference (h : xs.length = ys.length) :
    (difference base b xs ys).1.length = xs.length := by
  induction xs generalizing b ys with
  | nil => rfl
  | cons x xs ih =>
      cases ys with
      | nil => simp at h
      | cons y ys => simp [difference, ih (by simpa using h)]

theorem proper_difference (hb : b ≤ 1) (hx : Proper base xs) (hy : Proper base ys) :
    Proper base (difference base b xs ys).1 := by
  induction xs generalizing b ys with
  | nil => exact proper_nil
  | cons x xs ih =>
      cases ys with
      | nil => exact proper_nil
      | cons y ys =>
          obtain ⟨hx, hxs⟩ := proper_cons.mp hx
          obtain ⟨hy, hys⟩ := proper_cons.mp hy
          apply proper_cons.mpr
          constructor
          · split <;> omega
          · apply ih _ hxs hys
            split <;> omega

theorem ofDigits_difference (hb : b ≤ 1) (hy : Proper base ys) (h : xs.length = ys.length) :
    ofDigits base (difference base b xs ys).1 + ofDigits base ys + b =
      ofDigits base xs + base ^ xs.length * (difference base b xs ys).2 := by
  induction xs generalizing b ys with
  | nil =>
      obtain rfl := List.length_eq_zero_iff.mp h.symm
      simp [difference]
  | cons x xs ih =>
      cases ys with
      | nil => simp at h
      | cons y ys =>
          obtain ⟨hy, hys⟩ := proper_cons.mp hy
          have hlength : xs.length = ys.length := by simpa using h
          have hrest (b' : Nat) (hb' : b' ≤ 1) := ih (b := b') hb' hys hlength
          simp only [difference, ofDigits_cons, List.length_cons, pow_succ']
          by_cases hless : x < y + b
          · have := hrest 1 (by omega)
            simp only [hless, if_true]
            have hdigit : base + x - (y + b) + (y + b) = base + x := by omega
            linear_combination hdigit + base * this
          · have := hrest 0 (by omega)
            simp only [hless, if_false]
            have hdigit : x - (y + b) + (y + b) = x := by omega
            linear_combination hdigit + base * this

end Borrowing

section Multiplying

/-- Adds the products with one digit to the sums so far. The last product opens a new sum. -/
def row (v : Nat) : List Nat → List Nat → List Nat
  | y :: ys, t :: ts => (t + v * y) :: row v ys ts
  | y :: _, [] => [v * y]
  | [], _ => []

/-- A row for each digit, one place further than the row before. -/
def rows (ys : List Nat) : List Nat → List Nat → List Nat
  | x :: xs, t :: ts => t :: rows ys xs (row x ys ts)
  | _, ts => ts

variable {v bound : Nat} {xs ys ts : List Nat}

theorem length_row (h : ys.length = ts.length + 1) : (row v ys ts).length = ys.length := by
  induction ys generalizing ts with
  | nil => simp at h
  | cons y ys ih =>
      cases ts with
      | nil => simp_all [row]
      | cons t ts => simp [row, ih (by simpa using h)]

theorem ofDigits_row (h : ys.length = ts.length + 1) :
    ofDigits base (row v ys ts) = ofDigits base ts + v * ofDigits base ys := by
  induction ys generalizing ts with
  | nil => simp at h
  | cons y ys ih =>
      cases ts with
      | nil =>
          obtain rfl : ys = [] := by simpa using h
          simp [row]
      | cons t ts =>
          simp only [row, ofDigits_cons, ih (by simpa using h)]
          ring

theorem row_le (hv : v < base) (hy : Proper base ys) (ht : ∀ t ∈ ts, t ≤ bound) :
    ∀ t ∈ row v ys ts, t ≤ bound + base * base := by
  induction ys generalizing ts with
  | nil => simp [row]
  | cons y ys ih =>
      obtain ⟨hy, hys⟩ := proper_cons.mp hy
      have hproduct : v * y ≤ base * base := Nat.mul_le_mul hv.le hy.le
      cases ts with
      | nil =>
          intro t hmem
          obtain rfl : t = v * y := by simpa [row] using hmem
          omega
      | cons t ts =>
          obtain ⟨hfirst, hrest⟩ := List.forall_mem_cons.mp ht
          rw [row, List.forall_mem_cons]
          exact ⟨by omega, ih hys hrest⟩

theorem length_rows (h : ts.length = ys.length) (hys : ys ≠ []) :
    (rows ys xs ts).length = ts.length + xs.length := by
  induction xs generalizing ts with
  | nil => simp [rows]
  | cons x xs ih =>
      cases ts with
      | nil => exact absurd (List.length_eq_zero_iff.mp h.symm) hys
      | cons t ts =>
          have hrow := length_row (v := x) h.symm
          rw [rows, List.length_cons, ih hrow, hrow, ← h, List.length_cons, List.length_cons]
          omega

theorem ofDigits_rows (h : ts.length = ys.length) (hys : ys ≠ []) :
    ofDigits base (rows ys xs ts) =
      ofDigits base ts + base * (ofDigits base xs * ofDigits base ys) := by
  induction xs generalizing ts with
  | nil => simp [rows]
  | cons x xs ih =>
      cases ts with
      | nil => exact absurd (List.length_eq_zero_iff.mp h.symm) hys
      | cons t ts =>
          simp only [rows, ofDigits_cons, ih (length_row h.symm), ofDigits_row h.symm]
          ring

theorem rows_le (hx : Proper base xs) (hy : Proper base ys) (ht : ∀ t ∈ ts, t ≤ bound) :
    ∀ t ∈ rows ys xs ts, t ≤ bound + xs.length * (base * base) := by
  induction xs generalizing ts bound with
  | nil => simpa [rows] using ht
  | cons x xs ih =>
      obtain ⟨hx, hxs⟩ := proper_cons.mp hx
      cases ts with
      | nil => simp [rows]
      | cons t ts =>
          obtain ⟨hfirst, hrest⟩ := List.forall_mem_cons.mp ht
          rw [rows, List.length_cons, Nat.succ_mul, List.forall_mem_cons]
          constructor
          · omega
          · intro u hu
            have := ih hxs (row_le hx hy hrest) u hu
            omega

end Multiplying

end Modvpn.Digits
