/-
# What a refresh of the location cache changes

A refresh leaves one row for each location the server lists. The row of a code that was
in the table is the row that was there, so a location that the server has renamed keeps
its old name, and the names among the recent locations are the ones first cached.
-/

import Mathlib.Data.List.Nodup
import Modvpn.Android.LocationDao
import Modvpn.Protocol.RecentlyUsed

namespace Modvpn.Android

/-- The row of a code. -/
def rowOf (code : String) (rows : List Db.Location) : Option Db.Location :=
  rows.find? (·.code = code)

variable {rows locations : List Db.Location} {location row : Db.Location} {code : String}
  {codes : List String} {newLocations : List Location}

namespace LocationDao

theorem rowOf_insertOrIgnore :
    rowOf code (insertOrIgnore rows location) = (rowOf code rows).or (rowOf code [location]) := by
  unfold insertOrIgnore
  split
  · rename_i htaken
    by_cases hsame : location.code = code
    · obtain ⟨row, hrow, hcode⟩ := List.any_eq_true.mp htaken
      have hfound : (rowOf code rows).isSome := by
        rw [rowOf, List.find?_isSome]
        exact ⟨row, hrow, by simpa [hsame] using hcode⟩
      obtain ⟨found, hfound⟩ := Option.isSome_iff_exists.mp hfound
      rw [hfound, Option.some_or]
    · simp [rowOf, hsame]
  · rw [rowOf, List.find?_append]
    rfl

/-- A code that is there keeps its row, and one that is not gets the first that comes. -/
theorem rowOf_insert :
    rowOf code (insert locations rows) = (rowOf code rows).or (rowOf code locations) := by
  induction locations generalizing rows with
  | nil => simp [insert, rowOf]
  | cons location rest ih =>
      rw [insert, List.foldl_cons, ← insert, ih, rowOf_insertOrIgnore, Option.or_assoc]
      congr 1
      simp only [rowOf, List.find?_cons, List.find?_nil]
      cases decide (location.code = code) <;> rfl

theorem rowOf_deleteNotIn :
    rowOf code (deleteNotIn codes rows) = if code ∈ codes then rowOf code rows else none := by
  rw [rowOf, deleteNotIn, List.find?_filter]
  split
  · rename_i hlisted
    congr 1
    funext row
    by_cases hsame : row.code = code <;> simp [hsame, hlisted]
  · rename_i hunlisted
    rw [List.find?_eq_none]
    intro row hrow
    by_cases hsame : row.code = code <;> simp [hsame, hunlisted]

theorem nodup_insertOrIgnore (h : (rows.map (·.code)).Nodup) :
    ((insertOrIgnore rows location).map (·.code)).Nodup := by
  unfold insertOrIgnore
  split
  · exact h
  · rename_i hfree
    rw [List.map_append]
    refine h.append (List.nodup_singleton _) (List.disjoint_singleton.mpr ?_)
    intro hmem
    obtain ⟨row, hrow, hsame⟩ := List.mem_map.mp hmem
    exact hfree (List.any_eq_true.mpr ⟨row, hrow, decide_eq_true hsame⟩)

/-- The key stays one. -/
theorem nodup_insert (h : (rows.map (·.code)).Nodup) :
    ((insert locations rows).map (·.code)).Nodup := by
  induction locations generalizing rows with
  | nil => exact h
  | cons location rest ih => exact ih (nodup_insertOrIgnore h)

theorem mem_or_mem_of_insert (h : row ∈ insert locations rows) : row ∈ rows ∨ row ∈ locations := by
  induction locations generalizing rows with
  | nil => exact .inl h
  | cons location rest ih =>
      rcases ih h with hbefore | hrest
      · unfold insertOrIgnore at hbefore
        split at hbefore
        · exact .inl hbefore
        · rcases List.mem_append.mp hbefore with hrow | hnew
          · exact .inl hrow
          · exact .inr (List.mem_singleton.mp hnew ▸ List.mem_cons_self ..)
      · exact .inr (List.mem_cons_of_mem _ hrest)

theorem mem_codes_iff : code ∈ rows.map (·.code) ↔ (rowOf code rows).isSome = true := by
  rw [rowOf, List.find?_isSome, List.mem_map]
  simp

/-- The recent locations are rows of the table that have been used. -/
theorem mem_recentLocations {limit : Int} (h : row ∈ recentLocations limit rows) :
    row ∈ rows ∧ isAccessed row = true := by
  have hordered : row ∈ (rows.filter isAccessed).insertionSort fun first second =>
      second.lastAccess.getD 0 ≤ first.lastAccess.getD 0 := by
    unfold recentLocations at h
    simp only at h
    split at h
    · exact h
    · exact List.mem_of_mem_take h
  exact List.mem_filter.mp ((List.mem_insertionSort _).mp hordered)

end LocationDao

namespace VPNRepository

/-- The rows that a reply makes. -/
theorem rowOf_map_toDbLocation {location : Location} (hdistinct : (newLocations.map (·.code)).Nodup)
    (hmem : location ∈ newLocations) :
    rowOf location.code (newLocations.map (·.toDbLocation)) = some location.toDbLocation := by
  have hsingle : newLocations.filter (fun other => other.code = location.code) = [location] :=
    Protocol.RecentlyUsed.filter_eq_singleton hdistinct hmem
  have hfound : newLocations.find? (fun other => other.code = location.code) = some location := by
    rw [← List.head?_filter, hsingle, List.head?_cons]
  rw [rowOf, List.find?_map]
  exact congrArg (Option.map Location.toDbLocation) hfound

/-- The row shows what the server lists. -/
def Shows (row : Db.Location) (location : Location) : Prop :=
  row.toModelLocation = { location with estimate := none }

instance : DecidableRel Shows := fun _ _ => inferInstanceAs (Decidable (_ = _))

theorem shows_toDbLocation (location : Location) : Shows location.toDbLocation location := rfl

/-- A location that was used has had its row from before the refresh. -/
theorem mem_of_mem_recentLocations {limit : Int} {row : Db.Location}
    (h : row ∈ LocationDao.recentLocations limit (getLocations (.ok newLocations) rows).2) :
    row ∈ rows := by
  obtain ⟨hafter, haccessed⟩ := LocationDao.mem_recentLocations h
  rcases LocationDao.mem_or_mem_of_insert hafter with hkept | hnew
  · exact List.mem_of_mem_filter hkept
  · obtain ⟨location, -, rfl⟩ := List.mem_map.mp hnew
    cases haccessed

/-- So the screen shows it as it was then. -/
theorem getRecentLocations_subset (limit : Int) :
    getRecentLocations limit (getLocations (.ok newLocations) rows).2 ⊆
      rows.map (·.toModelLocation) := by
  intro location hlocation
  obtain ⟨row, hrow, rfl⟩ := List.mem_map.mp hlocation
  exact List.mem_map_of_mem (mem_of_mem_recentLocations hrow)

/-- After a refresh there is one row for each location listed: the row that its code had,
or a new one. So they all show what is listed if the rows that stayed did before, and the
recent locations are rows that were there before. -/
theorem getLocations_keeps (hrows : (rows.map (·.code)).Nodup)
    (hdistinct : (newLocations.map (·.code)).Nodup) :
    ∃ after, getLocations (.ok newLocations) rows = (.ok newLocations, after) ∧
      (after.map (·.code)).Perm (newLocations.map (·.code)) ∧
      (∀ location ∈ newLocations, rowOf location.code after =
        some ((rowOf location.code rows).getD location.toDbLocation)) ∧
      ((∀ location ∈ newLocations, ∀ row ∈ rowOf location.code after, Shows row location) ↔
        ∀ location ∈ newLocations, ∀ row ∈ rowOf location.code rows, Shows row location) ∧
      ∀ limit, ∀ row ∈ LocationDao.recentLocations limit after, row ∈ rows := by
  let kept := LocationDao.deleteNotIn (newLocations.map (·.code)) rows
  let after := LocationDao.insert (newLocations.map (·.toDbLocation)) kept
  have hkept : (kept.map (·.code)).Nodup := hrows.sublist (List.filter_sublist.map _)
  have hrowOf (code : String) : rowOf code after =
      (if code ∈ newLocations.map (·.code) then rowOf code rows else none).or
        (rowOf code (newLocations.map (·.toDbLocation))) := by
    rw [LocationDao.rowOf_insert, LocationDao.rowOf_deleteNotIn]
  have hlisted : ∀ location ∈ newLocations, rowOf location.code after =
      some ((rowOf location.code rows).getD location.toDbLocation) := by
    intro location hlocation
    rw [hrowOf, if_pos (List.mem_map_of_mem hlocation), rowOf_map_toDbLocation hdistinct hlocation]
    cases rowOf location.code rows <;> rfl
  refine ⟨after, rfl, ?_, hlisted, ?_, ?_⟩
  · rw [List.perm_ext_iff_of_nodup (LocationDao.nodup_insert hkept) hdistinct]
    intro code
    constructor
    · intro hcode
      rw [LocationDao.mem_codes_iff, hrowOf] at hcode
      by_contra hunlisted
      rw [if_neg hunlisted, Option.none_or, ← LocationDao.mem_codes_iff, List.map_map] at hcode
      exact hunlisted hcode
    · intro hcode
      obtain ⟨location, hlocation, rfl⟩ := List.mem_map.mp hcode
      rw [LocationDao.mem_codes_iff, hlisted location hlocation]
      rfl
  · apply forall₂_congr
    intro location hlocation
    rw [hlisted location hlocation]
    cases rowOf location.code rows with
    | none => simp [shows_toDbLocation]
    | some row => rfl
  · exact fun limit row => mem_of_mem_recentLocations

def amsterdam : Location where
  code := "ams"
  country := "Netherlands"
  countryCode := "nl"
  city := "Amsterdam"
  cityCode := "ams"
  state := none
  stateCode := none
  estimate := none

/-- London was used, and the server lists it again with Amsterdam. -/
theorem exists_getLocations_keeps :
    ∃ rows newLocations after, getLocations (.ok newLocations) rows = (.ok newLocations, after) ∧
      rows.length = 1 ∧ newLocations.length = 2 ∧
      ∀ row ∈ LocationDao.recentLocations 5 after, row ∈ rows := by
  let london : Location := { amsterdam with code := "lon" }
  let rows : List Db.Location := [{ london.toDbLocation with lastAccess := some 5 }]
  have hrows : (rows.map (·.code)).Nodup := List.nodup_singleton _
  have hdistinct : ([amsterdam, london].map (·.code)).Nodup := by decide
  obtain ⟨after, hafter, -, -, -, hrecent⟩ := getLocations_keeps hrows hdistinct
  exact ⟨rows, _, after, hafter, rfl, rfl, hrecent 5⟩

/-- Amsterdam was used under a name that the server has changed. -/
theorem not_forall_rows :
    ¬ ∀ (rows : List Db.Location) (newLocations : List Location),
      (rows.map (·.code)).Nodup → (newLocations.map (·.code)).Nodup →
      ∀ location ∈ newLocations, ∃ row ∈ (getLocations (.ok newLocations) rows).2,
        Shows row location := by
  intro h
  obtain ⟨row, hrow, hshows⟩ := h
    [{ amsterdam.toDbLocation with city := "Mokum", lastAccess := some 5 }] [amsterdam]
    (by decide) (by decide) amsterdam (List.mem_singleton_self _)
  have hstale : ∀ row ∈ (getLocations (.ok [amsterdam])
      [{ amsterdam.toDbLocation with city := "Mokum", lastAccess := some 5 }]).2,
      ¬ Shows row amsterdam := by decide
  exact hstale row hrow hshows

end VPNRepository

end Modvpn.Android
