/-
# Least recently used lists

A list of bounded length keeps the latest use of each key, the most recent one first. A
use drops the earlier use of its key, goes to the front, and may push out the last. What
such a list holds after any uses is what one would pick from all of them: of each key the
latest, and of these the first few.

Where several users of one list work at the same time, each takes a key out before it
puts it back. A key is accounted for while it is in the list or about to be put there, and
no key is lost this way.
-/

import Mathlib.Data.List.Pairwise
import Mathlib.Data.Finset.Card

namespace Modvpn.Protocol.RecentlyUsed

variable {α κ : Type} [DecidableEq κ] (key : α → κ)

/-- The latest use of each key, the most recent first. -/
def latest (uses : List α) : List α :=
  (uses.pwFilter fun earlier later => key earlier ≠ key later).reverse

example : latest Prod.fst [(1, 'a'), (2, 'b'), (1, 'c')] = [(1, 'c'), (2, 'b')] := by decide

/-- A use of a list that keeps at most `limit` uses. -/
def touch (limit : Nat) (use : α) (items : List α) : List α :=
  (use :: items.filter fun item => key item ≠ key use).take limit

variable {key} {limit : Nat} {use : α} {uses items : List α}

/-- A later use drops the earlier ones of its key. -/
theorem pwFilter_concat (uses : List α) (use : α) :
    (uses ++ [use]).pwFilter (fun earlier later => key earlier ≠ key later) =
      (uses.pwFilter fun earlier later => key earlier ≠ key later).filter
        (fun item => key item ≠ key use) ++ [use] := by
  induction uses with
  | nil => rfl
  | cons first rest ih =>
      rw [List.cons_append]
      by_cases hkept : ∀ item ∈ rest.pwFilter (fun earlier later => key earlier ≠ key later),
          key first ≠ key item
      · rw [List.pwFilter_cons_of_pos hkept]
        by_cases hsame : key first = key use
        · rw [List.pwFilter_cons_of_neg, ih, List.filter_cons_of_neg (by simpa using hsame)]
          intro hall
          exact hall use (by simp [ih]) hsame
        · rw [List.pwFilter_cons_of_pos, ih, List.filter_cons_of_pos (by simpa using hsame)]
          · rfl
          · intro item hitem
            rw [ih, List.mem_append, List.mem_singleton] at hitem
            rcases hitem with hitem | rfl
            · exact hkept item (List.mem_of_mem_filter hitem)
            · exact hsame
      · rw [List.pwFilter_cons_of_neg hkept, List.pwFilter_cons_of_neg, ih]
        intro hall
        apply hkept
        intro item hitem
        by_cases hsame : key item = key use
        · rw [hsame]
          exact hall use (by simp [ih])
        · exact hall item (by simp [ih, hitem, hsame])

@[simp]
theorem latest_nil : latest key [] = [] := rfl

theorem latest_concat (uses : List α) (use : α) :
    latest key (uses ++ [use]) =
      use :: (latest key uses).filter fun item => key item ≠ key use := by
  rw [latest, pwFilter_concat, List.reverse_append, ← List.filter_reverse]
  rfl

/-- Each key once. -/
theorem nodup_latest : ((latest key uses).map key).Nodup := by
  rw [latest, List.map_reverse, List.nodup_reverse, List.Nodup, List.pairwise_map]
  exact List.pairwise_pwFilter uses

/-- Cutting a list off before one key is dropped from it makes no difference to what comes
before the cut. -/
theorem take_filter_take (key : α → κ) (items : List α) (dropped : κ) (limit : Nat)
    (h : (items.map key).Nodup) :
    ((items.take (limit + 1)).filter fun item => key item ≠ dropped).take limit =
      (items.filter fun item => key item ≠ dropped).take limit := by
  induction items generalizing limit with
  | nil => simp
  | cons item rest ih =>
      rw [List.map_cons, List.nodup_cons] at h
      obtain ⟨hfresh, hrest⟩ := h
      rw [List.take_succ_cons]
      by_cases hsame : key item = dropped
      · -- nothing else has this key, so nothing else is dropped
        have hothers : ∀ other ∈ rest, key other ≠ dropped := by
          rintro other hother rfl
          exact hfresh (hsame ▸ List.mem_map_of_mem hother)
        rw [List.filter_cons_of_neg (by simpa using hsame),
          List.filter_cons_of_neg (by simpa using hsame),
          List.filter_eq_self.mpr fun other hother => by
            simpa using hothers other (List.mem_of_mem_take hother),
          List.filter_eq_self.mpr fun other hother => by simpa using hothers other hother,
          List.take_take, Nat.min_self]
      · rw [List.filter_cons_of_pos (by simpa using hsame),
          List.filter_cons_of_pos (by simpa using hsame)]
        cases limit with
        | zero => rfl
        | succ limit => rw [List.take_succ_cons, List.take_succ_cons, ih limit hrest]

/-- The first few items are the ones that have the first few keys. -/
theorem filter_mem_take (key : α → κ) (items : List α) (limit : Nat) (h : (items.map key).Nodup) :
    items.filter (fun item => key item ∈ (items.map key).take limit) = items.take limit := by
  induction items generalizing limit with
  | nil => simp
  | cons item rest ih =>
      rw [List.map_cons, List.nodup_cons] at h
      obtain ⟨hfresh, hrest⟩ := h
      cases limit with
      | zero => simp
      | succ limit =>
          rw [List.map_cons, List.take_succ_cons, List.take_succ_cons,
            List.filter_cons_of_pos (by simp), ← ih limit hrest]
          congr 1
          apply List.filter_congr
          intro other hother
          have hne : key other ≠ key item := fun hsame => hfresh (hsame ▸ List.mem_map_of_mem hother)
          simp [hne]

/-- Where each key occurs once, an item is all there is of its key. -/
theorem filter_eq_singleton {item : α} (h : (items.map key).Nodup) (hmem : item ∈ items) :
    items.filter (fun other => key other = key item) = [item] := by
  induction items with
  | nil => cases hmem
  | cons first rest ih =>
      rw [List.map_cons, List.nodup_cons] at h
      obtain ⟨hfresh, hrest⟩ := h
      by_cases hsame : key first = key item
      · have hfirst : first = item := by
          rcases List.mem_cons.mp hmem with heq | hmem
          · exact heq.symm
          · exact absurd (hsame ▸ List.mem_map_of_mem hmem) hfresh
        subst hfirst
        rw [List.filter_cons_of_pos (by simp), List.filter_eq_nil_iff.mpr]
        intro other hother
        have hne : key other ≠ key first := fun heq => hfresh (heq ▸ List.mem_map_of_mem hother)
        simpa using hne
      · rw [List.filter_cons_of_neg (by simpa using hsame)]
        apply ih hrest
        rcases List.mem_cons.mp hmem with rfl | hmem
        · exact absurd rfl hsame
        · exact hmem

/-- A use of the list is a use among all. -/
theorem touch_take_latest (limit : Nat) (uses : List α) (use : α) :
    touch key limit use ((latest key uses).take limit) =
      (latest key (uses ++ [use])).take limit := by
  rw [touch, latest_concat]
  cases limit with
  | zero => rfl
  | succ limit =>
      rw [List.take_succ_cons, List.take_succ_cons,
        take_filter_take key (latest key uses) (key use) limit nodup_latest]

/-! ## Users at the same time -/

/-- No key is lost: of `all` keys, as many as the list may keep are in it or about to be
put there. -/
structure Accounted (limit : Nat) (all kept pending : Finset κ) : Prop where
  known : kept ∪ pending ⊆ all
  enough : min limit all.card ≤ (kept ∪ pending).card

namespace Accounted

variable {all kept pending kept' pending' : Finset κ}

/-- A key may be taken out by who is about to put it back, and be put back. -/
theorem move (h : Accounted limit all kept pending)
    (hsame : kept' ∪ pending' = kept ∪ pending) : Accounted limit all kept' pending' :=
  ⟨hsame ▸ h.known, hsame ▸ h.enough⟩

/-- Keys may be dropped from a list that is full without them. -/
theorem trim (h : Accounted limit all kept pending) (hfewer : kept' ⊆ kept)
    (hfull : limit ≤ kept'.card) : Accounted limit all kept' pending where
  known := (Finset.union_subset_union_left hfewer).trans h.known
  enough :=
    calc min limit all.card ≤ limit := Nat.min_le_left ..
      _ ≤ kept'.card := hfull
      _ ≤ (kept' ∪ pending).card := Finset.card_le_card Finset.subset_union_left

/-- Once nothing is about to be put there, the list has as many keys as it may. -/
theorem card_eq (h : Accounted limit all kept ∅) (hbound : kept.card ≤ limit) :
    kept.card = min limit all.card := by
  have hknown := h.known
  have henough := h.enough
  rw [Finset.union_empty] at hknown henough
  exact le_antisymm (le_min hbound (Finset.card_le_card hknown)) henough

end Accounted

end Modvpn.Protocol.RecentlyUsed
