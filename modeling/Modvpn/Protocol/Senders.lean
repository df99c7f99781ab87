/-
# One-shot senders in a keyed table

Somebody creates one-shot channels, hands out the receivers, and keeps the senders in a
table, one under each key. A receiver is resolved when its sender sends or is dropped.
A sender leaves the table when it is used, when another is put under its key, or with
the whole table; in each case its receiver is resolved. So every channel is resolved or
has its sender in the table, under the key it was created for.
-/

import Mathlib.Data.List.Nodup

namespace Modvpn.Protocol

/-- How a receiver was resolved. -/
inductive Resolution
  | sent
  | dropped
  deriving DecidableEq

structure OneShot (κ : Type) where
  key : κ
  resolution : Option Resolution
  deriving DecidableEq

/-- The senders that are held, by the numbers of their channels, and every channel that
was ever created. -/
structure Senders (κ : Type) where
  table : List (κ × Nat)
  channels : List (OneShot κ)
  deriving DecidableEq

namespace Senders

variable {κ : Type}

def empty : Senders κ := ⟨[], []⟩

/-- The sender of the channel is used up. -/
def resolve (senders : Senders κ) (how : Resolution) (tx : Nat) : Senders κ :=
  { senders with
    channels := senders.channels.modify tx fun channel =>
      { channel with resolution := channel.resolution.or (some how) } }

/-- The channel is resolved. -/
def Resolved (senders : Senders κ) (rx : Nat) : Prop :=
  ∃ channel, senders.channels[rx]? = some channel ∧ channel.resolution.isSome = true

instance (senders : Senders κ) (rx : Nat) : Decidable (senders.Resolved rx) :=
  decidable_of_iff ((senders.channels[rx]?).any (·.resolution.isSome) = true)
    (by simp [Resolved, Option.any_eq_true])

/-- The whole table is dropped. -/
def dropAll (senders : Senders κ) : Senders κ :=
  { (senders.table.foldl (fun left entry => left.resolve .dropped entry.2) senders) with
    table := [] }

section Keyed

variable [DecidableEq κ] (senders : Senders κ) (key : κ)

/-- The sender under the key leaves the table and is used up. -/
def release (how : Resolution) : Senders κ :=
  match senders.table.lookup key with
  | none => senders
  | some tx => { senders with table := senders.table.filter (·.1 ≠ key) }.resolve how tx

/-- A new channel. A sender that was under its key is dropped. -/
def insert : Senders κ :=
  let others := senders.release key .dropped
  { table := (key, others.channels.length) :: others.table
    channels := others.channels ++ [⟨key, none⟩] }

/-- The sender under the key sends, if there is one. -/
def removeAndSend : Senders κ := senders.release key .sent

end Keyed

/-- Keys are distinct, and a channel that is not resolved has its sender in the table. -/
structure Accounted (senders : Senders κ) : Prop where
  nodup : (senders.table.map (·.1)).Nodup
  held : ∀ (rx : Nat) (channel : OneShot κ), senders.channels[rx]? = some channel →
    channel.resolution.isSome = true ∨ (channel.key, rx) ∈ senders.table

variable {senders : Senders κ}

theorem accounted_empty : (empty : Senders κ).Accounted where
  nodup := List.nodup_nil
  held := nofun

/-! ## One channel is resolved -/

section Resolve

variable {how : Resolution} {tx rx : Nat}

@[simp] theorem table_resolve : (senders.resolve how tx).table = senders.table := rfl

theorem getElem?_resolve : (senders.resolve how tx).channels[rx]? =
    (senders.channels[rx]?).map fun channel =>
      if tx = rx then { channel with resolution := channel.resolution.or (some how) }
      else channel := by
  rw [resolve, List.getElem?_modify]
  cases senders.channels[rx]? <;> by_cases htx : tx = rx <;> simp [htx]

/-- Channels keep their keys, and what is resolved stays so. -/
theorem exists_of_getElem?_resolve {channel : OneShot κ}
    (h : (senders.resolve how tx).channels[rx]? = some channel) :
    ∃ before, senders.channels[rx]? = some before ∧ channel.key = before.key ∧
      (before.resolution.isSome = true ∨ tx = rx → channel.resolution.isSome = true) := by
  rw [getElem?_resolve] at h
  obtain ⟨before, hbefore, rfl⟩ := Option.map_eq_some_iff.mp h
  refine ⟨before, hbefore, ?_, ?_⟩
  · split <;> rfl
  · intro hresolved
    split
    · simp
    · rename_i hother
      exact hresolved.resolve_right hother

theorem Resolved.resolve (h : senders.Resolved rx) : (senders.resolve how tx).Resolved rx := by
  obtain ⟨channel, hchannel, hresolved⟩ := h
  refine ⟨_, by rw [getElem?_resolve, hchannel]; rfl, ?_⟩
  simp only
  split
  · simp
  · exact hresolved

theorem resolved_resolve (h : tx < senders.channels.length) :
    (senders.resolve how tx).Resolved tx := by
  refine ⟨_, by rw [getElem?_resolve, List.getElem?_eq_getElem h]; rfl, ?_⟩
  simp

/-- What the channels were created for. -/
def keys (senders : Senders κ) : List κ := senders.channels.map (·.key)

@[simp] theorem keys_resolve : (senders.resolve how tx).keys = senders.keys := by
  apply List.ext_getElem?
  intro rx
  rw [keys, keys, List.getElem?_map, List.getElem?_map, getElem?_resolve]
  cases senders.channels[rx]? with
  | none => rfl
  | some channel => by_cases htx : tx = rx <;> simp [htx]

@[simp] theorem length_resolve :
    (senders.resolve how tx).channels.length = senders.channels.length := by
  simp [resolve]

end Resolve

/-! ## The table changes -/

section Keyed

variable [DecidableEq κ] {key : κ} {how : Resolution} {tx rx : Nat}

/-- Under a key there is one sender. -/
theorem Accounted.lookup (h : senders.Accounted) (hmem : (key, tx) ∈ senders.table) :
    senders.table.lookup key = some tx := by
  obtain ⟨before, after, htable⟩ := List.append_of_mem hmem
  refine List.lookup_eq_some_iff.mpr ⟨before, after, htable, fun entry hentry => ?_⟩
  have hnodup := h.nodup
  rw [htable, List.map_append, List.map_cons, List.nodup_append] at hnodup
  have hne := hnodup.2.2 entry.1 (List.mem_map_of_mem hentry) key (List.mem_cons_self ..)
  simpa using fun heq => hne heq.symm

@[simp] theorem keys_release : (senders.release key how).keys = senders.keys := by
  unfold release
  split
  · rfl
  · exact keys_resolve

theorem keys_insert : (senders.insert key).keys = senders.keys ++ [key] := by
  have hothers : (senders.release key .dropped).keys = senders.keys := keys_release
  rw [← hothers]
  simp [keys, insert]

/-- The key is free after its sender has left. -/
theorem not_mem_release : key ∉ (senders.release key how).table.map (·.1) := by
  unfold release
  split
  · rename_i hlookup
    intro hmem
    obtain ⟨entry, hentry, rfl⟩ := List.mem_map.mp hmem
    have hne := List.lookup_eq_none_iff.mp hlookup entry hentry
    simp at hne
  · simp

theorem Accounted.release (h : senders.Accounted) : (senders.release key how).Accounted := by
  unfold Senders.release
  split
  · exact h
  · rename_i tx hlookup
    refine ⟨h.nodup.sublist (List.filter_sublist.map _), fun rx channel hchannel => ?_⟩
    obtain ⟨before, hbefore, hkey, hresolved⟩ := exists_of_getElem?_resolve hchannel
    rw [hkey]
    rcases h.held rx before hbefore with hdone | hmem
    · exact .inl (hresolved (.inl hdone))
    · by_cases hsame : before.key = key
      · rw [hsame] at hmem
        have hrx : tx = rx := Option.some.inj (hlookup.symm.trans (h.lookup hmem))
        exact .inl (hresolved (.inr hrx))
      · exact .inr (by simpa using ⟨hmem, hsame⟩)

theorem Accounted.insert (h : senders.Accounted) : (senders.insert key).Accounted := by
  have hothers : (senders.release key .dropped).Accounted := h.release
  refine ⟨List.nodup_cons.mpr ⟨not_mem_release, hothers.nodup⟩, fun rx channel hchannel => ?_⟩
  rcases Nat.lt_or_ge rx (senders.release key .dropped).channels.length with hold | hnew
  · have hbefore := (List.getElem?_append_left hold).symm.trans hchannel
    exact (hothers.held rx channel hbefore).imp_right (List.mem_cons_of_mem _)
  · have hlast := (List.getElem?_append_right hnew).symm.trans hchannel
    obtain ⟨hindex, hchannel⟩ := List.getElem?_eq_some_iff.mp hlast
    have hrx : rx = (senders.release key .dropped).channels.length := by
      simp only [List.length_singleton] at hindex
      omega
    subst hrx
    refine .inr ?_
    rw [← hchannel]
    simp [Senders.insert]

end Keyed

/-! ## The table is dropped -/

theorem resolved_foldl (entries : List (κ × Nat)) {rx : Nat}
    (h : senders.Resolved rx ∨ rx < senders.channels.length ∧ rx ∈ entries.map (·.2)) :
    (entries.foldl (fun left entry => left.resolve .dropped entry.2) senders).Resolved rx := by
  induction entries generalizing senders with
  | nil => exact h.resolve_right (fun hmem => nomatch hmem.2)
  | cons entry rest ih =>
      apply ih
      rcases h with hdone | ⟨hindex, hmem⟩
      · exact .inl hdone.resolve
      · rcases List.mem_cons.mp hmem with rfl | hlater
        · exact .inl (resolved_resolve hindex)
        · exact .inr ⟨by rwa [length_resolve], hlater⟩

@[simp] theorem keys_foldl (entries : List (κ × Nat)) :
    (entries.foldl (fun left entry => left.resolve .dropped entry.2) senders).keys =
      senders.keys := by
  induction entries generalizing senders with
  | nil => rfl
  | cons entry rest ih => exact ih.trans keys_resolve

@[simp] theorem keys_dropAll : senders.dropAll.keys = senders.keys := keys_foldl senders.table

theorem Accounted.resolved_dropAll (h : senders.Accounted) {rx : Nat}
    (hrx : rx < senders.channels.length) : senders.dropAll.Resolved rx := by
  have hchannel := List.getElem?_eq_getElem hrx
  refine resolved_foldl senders.table ?_
  rcases h.held rx _ hchannel with hdone | hmem
  · exact .inl ⟨_, hchannel, hdone⟩
  · exact .inr ⟨hrx, List.mem_map_of_mem hmem⟩

theorem Accounted.dropAll (h : senders.Accounted) : senders.dropAll.Accounted := by
  refine ⟨List.nodup_nil, fun rx channel hchannel => .inl ?_⟩
  have hlength : senders.dropAll.channels.length = senders.channels.length := by
    simpa [keys] using congrArg List.length senders.keys_dropAll
  obtain ⟨hrx, -⟩ := List.getElem?_eq_some_iff.mp hchannel
  obtain ⟨same, hsame, hresolved⟩ := h.resolved_dropAll (hlength ▸ hrx)
  rw [hchannel] at hsame
  exact Option.some.inj hsame ▸ hresolved

end Senders

end Modvpn.Protocol
