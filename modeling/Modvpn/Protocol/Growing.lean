/-
# What grows with its input

A program that reads one item after another and never takes an output back is a
function on finite sequences whose value only grows with its input. Such a function has
one value on every sequence, finite or infinite: what its values on the prefixes grow
into. This respects composition, so a specification may be given as a pipeline.
-/

import Mathlib.Data.List.Destutter
import Mathlib.Data.Seq.Basic

namespace Modvpn.Protocol

open Stream' (Seq)

universe u v w

/-- A function on finite sequences whose value only grows with its input. -/
structure Growing (α : Type u) (β : Type v) where
  apply : List α → List β
  grows : ∀ {xs ys : List α}, xs <+: ys → apply xs <+: apply ys

namespace Growing

variable {α : Type u} {β : Type v} {γ : Type w}

/-- First one, then the other. -/
def andThen (f : Growing α β) (g : Growing β γ) : Growing α γ where
  apply xs := g.apply (f.apply xs)
  grows h := g.grows (f.grows h)

theorem take_prefix_take {xs : Seq α} {m n : Nat} (h : m ≤ n) : xs.take m <+: xs.take n := by
  rw [List.prefix_iff_getElem?]
  intro i hi
  have hbound : i < m := lt_of_lt_of_le hi Seq.length_take_le
  have hget : (xs.take m)[i]? = (xs.take n)[i]? := by
    rw [Seq.getElem?_take, Seq.getElem?_take, if_pos hbound, if_pos (by omega)]
  rw [← hget, List.getElem?_eq_getElem hi]

section OnSeq

variable (f : Growing α β) (xs : Seq α)

open scoped Classical in
/-- What some prefix puts in the place. -/
noncomputable def place (k : Nat) : Option β :=
  if h : ∃ n, k < (f.apply (xs.take n)).length then
    (f.apply (xs.take (Classical.choose h)))[k]?
  else none

/-- What the values on the prefixes grow into. -/
noncomputable def onSeq : Seq β :=
  ⟨f.place xs, by
    intro k hk
    by_cases h : ∃ n, k < (f.apply (xs.take n)).length
    · have hlength : (f.apply (xs.take (Classical.choose h))).length ≤ k := by
        rw [place, dif_pos h] at hk
        exact List.getElem?_eq_none_iff.mp hk
      exact absurd (Classical.choose_spec h) (Nat.not_lt.mpr hlength)
    · have hnext : ¬∃ n, k + 1 < (f.apply (xs.take n)).length :=
        fun ⟨n, hn⟩ => h ⟨n, Nat.lt_of_succ_lt hn⟩
      rw [place, dif_neg hnext]⟩

variable {f xs}

theorem getElem?_of_le {m n k : Nat} {y : β} (h : m ≤ n)
    (hget : (f.apply (xs.take m))[k]? = some y) : (f.apply (xs.take n))[k]? = some y := by
  obtain ⟨hk, rfl⟩ := List.getElem?_eq_some_iff.mp hget
  exact (List.prefix_iff_getElem?.mp (f.grows (take_prefix_take h))) k hk

/-- An item is in its place once some prefix puts it there. -/
theorem get?_onSeq {k : Nat} {y : β} :
    (f.onSeq xs).get? k = some y ↔ ∃ n, (f.apply (xs.take n))[k]? = some y := by
  change f.place xs k = some y ↔ _
  constructor
  · intro hget
    by_cases h : ∃ n, k < (f.apply (xs.take n)).length
    · rw [place, dif_pos h] at hget
      exact ⟨_, hget⟩
    · rw [place, dif_neg h] at hget
      cases hget
  · rintro ⟨n, hn⟩
    have hgrown : ∃ n, k < (f.apply (xs.take n)).length :=
      ⟨n, (List.getElem?_eq_some_iff.mp hn).1⟩
    rw [place, dif_pos hgrown, List.getElem?_eq_getElem (Classical.choose_spec hgrown)]
    -- two prefixes agree on what both have: compare them with the longer one
    have hchosen := getElem?_of_le (Nat.le_max_left (Classical.choose hgrown) n)
      (List.getElem?_eq_getElem (Classical.choose_spec hgrown))
    have hother := getElem?_of_le (Nat.le_max_right (Classical.choose hgrown) n) hn
    exact hchosen.symm.trans hother

/-- A value on a prefix is a prefix of the value. -/
theorem take_onSeq (n : Nat) :
    (f.onSeq xs).take (f.apply (xs.take n)).length = f.apply (xs.take n) := by
  apply List.ext_getElem?
  intro k
  rw [Seq.getElem?_take]
  split
  · rename_i hk
    rw [List.getElem?_eq_getElem hk]
    exact get?_onSeq.mpr ⟨n, List.getElem?_eq_getElem hk⟩
  · rename_i hk
    exact (List.getElem?_eq_none (Nat.not_lt.mp hk)).symm

/-- Every prefix of the value is reached. -/
theorem exists_take_onSeq_prefix (m : Nat) :
    ∃ n, (f.onSeq xs).take m <+: f.apply (xs.take n) := by
  induction m with
  | zero => exact ⟨0, List.nil_prefix⟩
  | succ m ih =>
      obtain ⟨n, hn⟩ := ih
      cases hget : (f.onSeq xs).get? m with
      | none =>
          refine ⟨n, ?_⟩
          have hsame : (f.onSeq xs).take (m + 1) = (f.onSeq xs).take m := by
            apply List.ext_getElem?
            intro k
            rw [Seq.getElem?_take, Seq.getElem?_take]
            rcases Nat.lt_trichotomy k m with hlt | rfl | hgt
            · rw [if_pos hlt, if_pos (by omega)]
            · rw [if_pos (by omega), if_neg (by omega), hget]
            · rw [if_neg (by omega), if_neg (by omega)]
          rw [hsame]
          exact hn
      | some y =>
          obtain ⟨later, hlater⟩ := get?_onSeq.mp hget
          refine ⟨later, List.prefix_iff_getElem?.mpr fun k hk => ?_⟩
          have hbound : k < m + 1 := lt_of_lt_of_le hk Seq.length_take_le
          obtain ⟨hlength, -⟩ := List.getElem?_eq_some_iff.mp hlater
          have hplace : k < (f.apply (xs.take later)).length := by omega
          rw [List.getElem?_eq_getElem hplace, ← List.getElem?_eq_getElem hk, Seq.getElem?_take,
            if_pos hbound]
          exact (get?_onSeq.mpr ⟨later, List.getElem?_eq_getElem hplace⟩).symm

/-- A pipeline may be cut anywhere. -/
theorem onSeq_andThen (f : Growing α β) (g : Growing β γ) (xs : Seq α) :
    (f.andThen g).onSeq xs = g.onSeq (f.onSeq xs) := by
  apply Seq.ext
  intro k
  apply Option.ext
  intro y
  rw [get?_onSeq, get?_onSeq]
  constructor
  · rintro ⟨n, hn⟩
    refine ⟨(f.apply (xs.take n)).length, ?_⟩
    rw [take_onSeq]
    exact hn
  · rintro ⟨m, hm⟩
    obtain ⟨n, hearlier⟩ : ∃ n, (f.onSeq xs).take m <+: f.apply (xs.take n) :=
      exists_take_onSeq_prefix m
    obtain ⟨hk, rfl⟩ := List.getElem?_eq_some_iff.mp hm
    exact ⟨n, List.prefix_iff_getElem?.mp (g.grows hearlier) k hk⟩

theorem onSeq_congr {f g : Growing α β} (h : ∀ xs, f.apply xs = g.apply xs) : f.onSeq = g.onSeq := by
  obtain ⟨apply, grows⟩ := f
  obtain rfl : apply = g.apply := funext h
  rfl

end OnSeq

/-! ## Pipelines -/

/-- Items that do not have a value are dropped. -/
def filterMap (f : α → Option β) : Growing α β where
  apply xs := xs.filterMap f
  grows h := h.filterMap f

def map (f : α → β) : Growing α β where
  apply xs := xs.map f
  grows h := h.map f

theorem destutter'_prefix (R : α → α → Prop) [DecidableRel R] (x : α) {xs ys : List α}
    (h : xs <+: ys) : xs.destutter' R x <+: ys.destutter' R x := by
  obtain ⟨more, rfl⟩ := h
  induction xs generalizing x with
  | nil =>
      rw [List.nil_append, List.destutter'_nil]
      induction more with
      | nil => exact List.prefix_rfl
      | cons y rest ih =>
          rw [List.destutter'_cons]
          split
          · exact List.prefix_append [x] _
          · exact ih
  | cons y rest ih =>
      rw [List.cons_append, List.destutter'_cons, List.destutter'_cons]
      split
      · exact (List.prefix_cons_inj x).mpr (ih y)
      · exact ih x

/-- Of equal items in a row one is kept. -/
def collapse [DecidableEq α] : Growing α α where
  apply xs := xs.destutter (· ≠ ·)
  grows := by
    intro xs ys h
    cases xs with
    | nil => exact List.nil_prefix
    | cons x rest =>
        obtain ⟨more, rfl⟩ := h
        exact destutter'_prefix _ x (List.prefix_append rest more)

/-- Everything up to the first item with the property, and that item. -/
def upTo (p : α → Bool) : List α → List α
  | [] => []
  | x :: xs => if p x then [x] else x :: upTo p xs

theorem any_upTo (p : α → Bool) (xs : List α) : (upTo p xs).any p = xs.any p := by
  induction xs with
  | nil => rfl
  | cons x rest ih =>
      cases hx : p x with
      | true => simp [upTo, hx]
      | false => simp [upTo, hx, ih]

/-- Nothing follows the first item with the property. -/
def cutAfter (p : α → Bool) : Growing α α where
  apply := upTo p
  grows := by
    rintro xs ys ⟨more, rfl⟩
    induction xs with
    | nil => exact List.nil_prefix
    | cons x rest ih =>
        simp only [List.cons_append, upTo]
        split
        · exact List.prefix_rfl
        · exact (List.prefix_cons_inj x).mpr ih

/-- What differs from the item before, when `last` came first. -/
def changesFrom [DecidableEq α] (last : Option α) : List α → List α
  | [] => []
  | x :: xs => if last = some x then changesFrom (some x) xs else x :: changesFrom (some x) xs

theorem destutter'_eq [DecidableEq α] (x : α) (xs : List α) :
    xs.destutter' (· ≠ ·) x = x :: changesFrom (some x) xs := by
  induction xs generalizing x with
  | nil => rfl
  | cons y rest ih =>
      by_cases hsame : x = y
      · subst hsame
        rw [List.destutter'_cons_neg _ (not_not.mpr rfl), ih, changesFrom, if_pos rfl]
      · rw [List.destutter'_cons_pos _ hsame, ih, changesFrom,
          if_neg (fun heq => hsame (Option.some.inj heq))]

theorem changesFrom_append [DecidableEq α] (last : Option α) (xs ys : List α) :
    changesFrom last (xs ++ ys) = changesFrom last xs ++ changesFrom (xs.getLast?.or last) ys := by
  induction xs generalizing last with
  | nil => rfl
  | cons x rest ih =>
      have hlast : (x :: rest).getLast?.or last = rest.getLast?.or (some x) := by
        rw [List.getLast?_cons]
        cases rest.getLast? <;> rfl
      rw [List.cons_append, changesFrom, changesFrom, hlast, ih]
      split <;> rfl

theorem collapse_apply [DecidableEq α] (xs : List α) :
    (collapse (α := α)).apply xs = changesFrom none xs := by
  cases xs with
  | nil => rfl
  | cons x rest =>
      rw [changesFrom, if_neg nofun]
      exact destutter'_eq x rest

end Growing

end Modvpn.Protocol
