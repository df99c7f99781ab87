/-
# The recent locations are the ones used last

Calls of `add_recent` that run one after another keep a least recently used list: the
table, read from its newest row on, is the list after as many uses. Two facts about the
rows carry this: they are in the order of their ids, and no two have the same code. The
first makes the statement that drops old rows cut the list off; the second makes each
group of the query that clients are answered with a single row.
-/

import Modvpn.Daemon.Channel
import Modvpn.Daemon.RecentLocations
import Modvpn.Protocol.RecentlyUsed

namespace Modvpn

open Modvpn.Protocol
open Modvpn.Protocol.RecentlyUsed
open Entity (RecentLocation)

/-! ## Rows in the order of their ids -/

/-- The rows are in the order of their ids, which were all drawn from the sequence. -/
structure World.Numbered (world : World) : Prop where
  ascending : (world.recentLocations.map (·.id)).Pairwise (· < ·)
  drawn : ∀ row ∈ world.recentLocations, row.id ≤ world.recentSequence

namespace World

variable {world target : World} {location : Location} {env : Env} {code : String} {limit : Nat}

/-- The row that the insert writes. -/
def newRecent (world : World) (location : Location) : RecentLocation where
  id := world.recentSequence + 1
  code := location.code
  city := location.city
  cityCode := location.cityCode
  country := location.country
  countryCode := location.countryCode
  state := location.state
  stateCode := location.stateCode

/-- The rows of a code are deleted. -/
def withoutRecent (world : World) (code : String) : World :=
  { world with recentLocations := world.recentLocations.filter (·.code ≠ code) }

/-- A row is inserted. -/
def withRecent (world : World) (location : Location) : World :=
  { world with
    recentLocations := world.recentLocations ++ [world.newRecent location]
    recentSequence := world.recentSequence + 1 }

/-- Only the newest rows are left. -/
def trimmedRecent (world : World) (limit : Nat) : World :=
  { world with recentLocations := (world.recentLocations.reverse.take limit).reverse }

/-- Fewer rows are still in order. -/
theorem Numbered.sublist {rows : List RecentLocation} (h : world.Numbered)
    (hrows : rows.Sublist world.recentLocations) :
    Numbered { world with recentLocations := rows } :=
  ⟨h.ascending.sublist (hrows.map _), fun row hrow => h.drawn row (hrows.subset hrow)⟩

theorem Numbered.withoutRecent (h : world.Numbered) : (world.withoutRecent code).Numbered :=
  h.sublist List.filter_sublist

theorem trimmedRecent_sublist (world : World) (limit : Nat) :
    (world.trimmedRecent limit).recentLocations.Sublist world.recentLocations := by
  rw [World.trimmedRecent, ← List.reverse_sublist, List.reverse_reverse]
  exact List.take_sublist ..

theorem length_trimmedRecent (world : World) (limit : Nat) :
    (world.trimmedRecent limit).recentLocations.length =
      min limit world.recentLocations.length := by
  simp [World.trimmedRecent]

theorem trimmedRecent_of_length_le (world : World) {limit : Nat}
    (h : world.recentLocations.length ≤ limit) : world.trimmedRecent limit = world := by
  rw [World.trimmedRecent, List.take_of_length_le (by simpa using h), List.reverse_reverse]

theorem Numbered.trimmedRecent (h : world.Numbered) : (world.trimmedRecent limit).Numbered :=
  h.sublist (world.trimmedRecent_sublist limit)

theorem Numbered.withRecent (h : world.Numbered) : (world.withRecent location).Numbered where
  ascending := by
    simp only [World.withRecent, List.map_append, List.map_singleton]
    refine List.pairwise_append.mpr ⟨h.ascending, List.pairwise_singleton .., ?_⟩
    intro first hfirst last hlast
    obtain ⟨row, hrow, rfl⟩ := List.mem_map.mp hfirst
    rw [List.mem_singleton.mp hlast]
    exact Nat.lt_succ_of_le (h.drawn row hrow)
  drawn := by
    intro row hrow
    rcases List.mem_append.mp hrow with hrow | hrow
    · exact Nat.le_succ_of_le (h.drawn row hrow)
    · rw [List.mem_singleton.mp hrow]
      rfl

/-- The newest `limit` rows are the ones at the end. -/
theorem Numbered.filter_kept (h : world.Numbered) (limit : Nat) :
    world.recentLocations.filter
        (·.id ∈ ((world.recentLocations.map (·.id)).insertionSort (· ≥ ·)).take limit) =
      (world.recentLocations.reverse.take limit).reverse := by
  have hsorted : (world.recentLocations.map (·.id)).insertionSort (· ≥ ·) =
      (world.recentLocations.map (·.id)).reverse := by
    have hreverse : (world.recentLocations.map (·.id)).reverse.Pairwise (· ≥ ·) :=
      List.pairwise_reverse.mpr (h.ascending.imp Nat.le_of_lt)
    have hperm := List.perm_insertionSort (· ≥ ·) (world.recentLocations.map (·.id))
    exact (hperm.trans (List.reverse_perm _).symm).eq_of_pairwise'
      (List.pairwise_insertionSort _ _) hreverse
  have hnodup : (world.recentLocations.reverse.map (·.id)).Nodup := by
    rw [List.map_reverse, List.nodup_reverse]
    exact h.ascending.imp Nat.ne_of_lt
  have htake := filter_mem_take (·.id) world.recentLocations.reverse limit hnodup
  rw [List.filter_reverse, List.map_reverse] at htake
  rw [hsorted, ← htake, List.reverse_reverse]

/-! ## The three statements -/

theorem answer_deleteRecent (hdb : env.dbErr = none) :
    World.answer (.deleteRecent code) env world = (.ok (), world.withoutRecent code) := by
  simp [World.answer, World.statement, hdb, World.withoutRecent]

theorem answer_insertRecent (hdb : env.dbErr = none) :
    World.answer (.insertRecent location) env world = (.ok (), world.withRecent location) := by
  simp [World.answer, World.statement, hdb, World.withRecent, newRecent]

theorem Numbered.answer_trimRecent (hnumbered : world.Numbered) (hdb : env.dbErr = none) :
    World.answer (.trimRecent limit) env world = (.ok (), world.trimmedRecent limit) := by
  simp only [World.answer, World.statement, hdb, World.trimmedRecent, hnumbered.filter_kept limit]

theorem dbErr_of_statement {α : Type} {effect : World → α × World} {value : α}
    (h : World.statement env world effect = (.ok value, target)) : env.dbErr = none := by
  unfold World.statement at h
  cases hdb : env.dbErr with
  | some error =>
      rw [hdb] at h
      cases h
  | none => rfl

theorem eq_withoutRecent
    (h : World.answer (.deleteRecent code) env world = (.ok (), target)) :
    target = world.withoutRecent code := by
  have hdb : env.dbErr = none := by
    rw [World.answer] at h
    exact dbErr_of_statement h
  exact (congrArg Prod.snd (h.symm.trans (answer_deleteRecent hdb)))

theorem eq_withRecent
    (h : World.answer (.insertRecent location) env world = (.ok (), target)) :
    target = world.withRecent location := by
  have hdb : env.dbErr = none := by
    rw [World.answer] at h
    exact dbErr_of_statement h
  exact (congrArg Prod.snd (h.symm.trans (answer_insertRecent hdb)))

theorem Numbered.eq_trimmedRecent (hnumbered : world.Numbered)
    (h : World.answer (.trimRecent limit) env world = (.ok (), target)) :
    target = world.trimmedRecent limit := by
  have hdb : env.dbErr = none := by
    rw [World.answer] at h
    exact dbErr_of_statement h
  exact (congrArg Prod.snd (h.symm.trans (hnumbered.answer_trimRecent hdb)))

end World

/-! ## Calls one after another -/

/-- The location as it is remembered. -/
def Location.withoutEstimate (location : Location) : Location := { location with estimate := none }

namespace LocationStorage

variable {world middle target : World} {location : Location} {oracle : Op → Env}

/-- What the table remembers, the most recent location first. -/
def remembered (world : World) : List Location := world.recentLocations.reverse.map .ofRecent

theorem remembered_withoutRecent (world : World) (code : String) :
    remembered (world.withoutRecent code) =
      (remembered world).filter fun location => location.code ≠ code := by
  rw [remembered, remembered, World.withoutRecent, ← List.filter_reverse, List.filter_map]
  rfl

theorem remembered_withRecent (world : World) (location : Location) :
    remembered (world.withRecent location) = location.withoutEstimate :: remembered world := by
  rw [remembered, World.withRecent, List.reverse_append, List.map_append]
  rfl

theorem remembered_trimmedRecent (world : World) (limit : Nat) :
    remembered (world.trimmedRecent limit) = (remembered world).take limit := by
  rw [remembered, World.trimmedRecent, List.reverse_reverse, List.map_take]
  rfl

theorem answer_of_perform {op : Op} {value : op.Resp}
    (h : (perform op).run semantics oracle world = .returned value target) :
    World.answer op (oracle op) world = (value, target) := by
  cases h
  rfl

/-- A call that succeeds is a use of the list. -/
theorem addRecent_runs (hnumbered : world.Numbered)
    (h : (addRecent location).run.run semantics oracle world = .returned (.ok ()) target) :
    target.Numbered ∧ remembered target =
      touch (·.code) recentLimit location.withoutEstimate (remembered world) := by
  obtain ⟨error, -, hresult⟩ | ⟨_, deleted, hdelete, h⟩ := Program.exists_run_of_exceptBind h
  · cases hresult
  obtain ⟨error, -, hresult⟩ | ⟨_, inserted, hinsert, htrim⟩ := Program.exists_run_of_exceptBind h
  · cases hresult
  obtain rfl := World.eq_withoutRecent (answer_of_perform hdelete)
  obtain rfl := World.eq_withRecent (answer_of_perform hinsert)
  have hinserted : ((world.withoutRecent location.code).withRecent location).Numbered :=
    hnumbered.withoutRecent.withRecent
  obtain rfl := hinserted.eq_trimmedRecent (answer_of_perform htrim)
  refine ⟨hinserted.trimmedRecent, ?_⟩
  rw [remembered_trimmedRecent, remembered_withRecent, remembered_withoutRecent]
  rfl

/-- Calls that succeed, one after another. -/
inductive Calls (world : World) : List Location → World → Prop
  | none : Calls world [] world
  | call {uses : List Location} {middle target : World} {location : Location}
      (prior : Calls world uses middle) (oracle : Op → Env)
      (hrun : (addRecent location).run.run semantics oracle middle = .returned (.ok ()) target) :
      Calls world (uses ++ [location]) target

/-- The locations used last, the most recent first. -/
def mostRecent (uses : List Location) : List Location :=
  ((latest (·.code) uses).take recentLimit).map .withoutEstimate

theorem mostRecent_concat (uses : List Location) (location : Location) :
    touch (·.code) recentLimit location.withoutEstimate (mostRecent uses) =
      mostRecent (uses ++ [location]) := by
  rw [mostRecent, touch, List.filter_map, ← List.map_cons, ← List.map_take, mostRecent,
    ← touch_take_latest]
  rfl

/-- Each code once. -/
theorem nodup_mostRecent (uses : List Location) : ((mostRecent uses).map (·.code)).Nodup := by
  rw [mostRecent, List.map_map]
  exact nodup_latest.sublist ((List.take_sublist ..).map _)

theorem codes_remembered (world : World) :
    (remembered world).map (·.code) = (world.recentLocations.map (·.code)).reverse := by
  rw [remembered, List.map_map, List.map_reverse]
  rfl

theorem numbered_of_recentLocations (h : world.recentLocations = []) : world.Numbered where
  ascending := by simp [h]
  drawn := by simp [h]

/-- The table remembers the locations used last. -/
theorem Calls.remembered {uses : List Location} (hempty : world.recentLocations = [])
    (h : Calls world uses target) :
    target.Numbered ∧ LocationStorage.remembered target = mostRecent uses := by
  induction h with
  | none =>
      refine ⟨numbered_of_recentLocations hempty, ?_⟩
      simp [LocationStorage.remembered, hempty, mostRecent]
  | call prior oracle hrun ih =>
      obtain ⟨hnumbered, hbefore⟩ := ih
      obtain ⟨hafter, hsame⟩ := addRecent_runs hnumbered hrun
      exact ⟨hafter, by rw [hsame, hbefore, mostRecent_concat]⟩

/-! ## The query -/

/-- Where no two rows have the same code, each row is its own group. -/
theorem groupByCode_eq {columns : BareColumns} {rows : List RecentLocation}
    (h : (rows.map (·.code)).Nodup) : groupByCode columns rows = rows := by
  rw [groupByCode, h.dedup, List.filterMap_map]
  conv_rhs => rw [← List.filterMap_some (l := rows)]
  apply List.filterMap_congr
  intro row hrow
  have hgroup : rows.filter (fun other => other.code = row.code) = [row] :=
    filter_eq_singleton h hrow
  have hpick : columns.pick row [] = row := List.mem_singleton.mp (columns.mem row [])
  simp only [Function.comp, hgroup, hpick]

theorem selectRecent_eq {columns : BareColumns} (hnumbered : world.Numbered)
    (h : (world.recentLocations.map (·.code)).Nodup) :
    selectRecent columns world.recentLocations = world.recentLocations.reverse := by
  have hnodup : world.recentLocations.Nodup := h.of_map _
  rw [selectRecent, groupByCode_eq h, hnodup.dedup]
  have : Std.Total fun first second : RecentLocation => second.id ≤ first.id :=
    ⟨fun first second => Nat.le_total second.id first.id⟩
  have : IsTrans RecentLocation fun first second => second.id ≤ first.id :=
    ⟨fun _ _ _ hfirst hsecond => hsecond.trans hfirst⟩
  have hids : (world.recentLocations.map (·.id)).Nodup := hnumbered.ascending.imp Nat.ne_of_lt
  have hreverse : world.recentLocations.reverse.Pairwise fun first second => second.id ≤ first.id :=
    List.pairwise_reverse.mpr ((List.pairwise_map.mp hnumbered.ascending).imp Nat.le_of_lt)
  refine List.Perm.eq_of_pairwise ?_ (List.pairwise_insertionSort _ _) hreverse
    ((List.perm_insertionSort _ _).trans (List.reverse_perm _).symm)
  intro first second hfirst hsecond hle hge
  exact List.inj_on_of_nodup_map hids (List.mem_insertionSort _ |>.mp hfirst)
    (List.mem_reverse.mp hsecond) (Nat.le_antisymm hge hle)

/-- After calls on an empty table, the table has the locations used last, each once, and
clients are answered with these, the most recent first. -/
theorem recent_of_calls {columns : BareColumns} {env : Env} {uses : List Location}
    (hempty : world.recentLocations = []) (hcalls : Calls world uses target)
    (hdb : env.dbErr = none) :
    recent columns env target = .ok (mostRecent uses) ∧
      target.recentLocations.map .ofRecent = (mostRecent uses).reverse ∧
      ((mostRecent uses).map (·.code)).Nodup := by
  obtain ⟨hnumbered, hremembered⟩ := hcalls.remembered hempty
  have hcodes : (target.recentLocations.map (·.code)).Nodup := by
    rw [← List.nodup_reverse, ← codes_remembered, hremembered]
    exact nodup_mostRecent uses
  refine ⟨?_, ?_, nodup_mostRecent uses⟩
  · simp only [recent, World.statement, hdb, selectRecent_eq hnumbered hcodes]
    exact congrArg Except.ok hremembered
  · rw [← hremembered, remembered, List.map_reverse, List.reverse_reverse]

/-- The first row of a group. -/
def firstRow : BareColumns where
  pick row _ := row
  mem _ _ := List.mem_cons_self ..

/-- Amsterdam, London, Amsterdam under a new name, and Paris: London is forgotten. -/
theorem exists_recent_of_calls :
    ∃ target, recent firstRow Sample.first target =
      .ok [{ Sample.location with code := "par" }, { Sample.location with city := "Mokum" }] := by
  let works : Op → Env := fun _ => Sample.first
  have hcalls : ∃ target, Calls (Channel.created Sample.device).world
      ([] ++ [Sample.location] ++ [{ Sample.location with code := "lon" }] ++
        [{ Sample.location with city := "Mokum" }] ++ [{ Sample.location with code := "par" }])
      target :=
    ⟨_, .call (.call (.call (.call .none works rfl) works rfl) works rfl) works rfl⟩
  obtain ⟨target, hcalls⟩ := hcalls
  exact ⟨target, (recent_of_calls rfl hcalls rfl).1⟩

end LocationStorage

end Modvpn
