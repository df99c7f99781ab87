/-
# What the statements do to the rows nobody has claimed

Every argument about the session table looks at the unmarked rows only. Marking
and deleting remove the same rows from them, and an update that leaves the mark
alone is the same update of them.
-/

import Modvpn.Daemon.SessionView

namespace Modvpn.Entity.VpnSession

variable {rows : List VpnSession} {requestId : String} {set : VpnSession → VpnSession}

@[simp]
theorem mem_unmarked {row : VpnSession} :
    row ∈ unmarked rows ↔ row ∈ rows ∧ row.markForDeletion = false := by
  simp [unmarked]

@[simp]
theorem unmarked_append (more : List VpnSession) :
    unmarked (rows ++ more) = unmarked rows ++ unmarked more :=
  List.filter_append ..

@[simp]
theorem unmarked_requested (id : Uuid) (location : Location) :
    unmarked [requested id location] = [requested id location] := rfl

@[simp]
theorem patch_markForDeletion (row : VpnSession) (columns : VpnSessionPatch) :
    (row.patch columns).markForDeletion = row.markForDeletion := rfl

@[simp]
theorem setAccepted_markForDeletion (row : VpnSession) (id : Uuid) :
    (row.setAccepted id).markForDeletion = row.markForDeletion := rfl

@[simp]
theorem mark_markForDeletion (row : VpnSession) : row.mark.markForDeletion = true := rfl

@[simp]
theorem patch_requestId (row : VpnSession) (columns : VpnSessionPatch) :
    (row.patch columns).requestId = row.requestId := rfl

@[simp]
theorem setAccepted_requestId (row : VpnSession) (id : Uuid) :
    (row.setAccepted id).requestId = row.requestId := rfl

@[simp]
theorem mark_requestId (row : VpnSession) : row.mark.requestId = row.requestId := rfl

theorem unmarked_eq_nil_of_marked (h : ∀ row ∈ rows, row.markForDeletion = true) :
    unmarked rows = [] := by
  simpa [unmarked, List.filter_eq_nil_iff] using h

theorem unmarked_updateById
    (hset : ∀ row : VpnSession, (set row).markForDeletion = row.markForDeletion) :
    unmarked (updateById requestId set rows) = updateById requestId set (unmarked rows) := by
  simp only [unmarked, updateById, List.filter_map]
  congr 1
  refine List.filter_congr fun row _ => ?_
  simp only [Function.comp]
  split
  · rw [hset]
  · rfl

@[simp]
theorem unmarked_updateById_patch (columns : VpnSessionPatch) :
    unmarked (updateById requestId (·.patch columns) rows) =
      updateById requestId (·.patch columns) (unmarked rows) :=
  unmarked_updateById fun _ => rfl

@[simp]
theorem unmarked_updateById_setAccepted (id : Uuid) :
    unmarked (updateById requestId (.setAccepted id) rows) =
      updateById requestId (.setAccepted id) (unmarked rows) :=
  unmarked_updateById fun _ => rfl

@[simp]
theorem length_updateById : (updateById requestId set rows).length = rows.length :=
  List.length_map ..

theorem unmarked_updateById_mark :
    unmarked (updateById requestId mark rows) = deleteById requestId (unmarked rows) := by
  induction rows with
  | nil => rfl
  | cons row rest ih =>
      simp only [unmarked, updateById, deleteById, List.map_cons, List.filter_cons] at ih ⊢
      by_cases hid : row.requestId = requestId <;> cases hmark : row.markForDeletion <;>
        simp [hid, hmark, -List.filter_filter, ih]

theorem unmarked_deleteById :
    unmarked (deleteById requestId rows) = deleteById requestId (unmarked rows) := by
  simp only [unmarked, deleteById, List.filter_filter, Bool.and_comm]

theorem deleteById_of_forall_ne (h : ∀ row ∈ rows, row.requestId ≠ requestId) :
    deleteById requestId rows = rows := by
  simpa [deleteById, List.filter_eq_self] using h

/-- Deleting a marked row does not change the unmarked ones. -/
theorem unmarked_deleteById_of_marked
    (hmarked : ∀ row ∈ rows, row.requestId = requestId → row.markForDeletion = true) :
    unmarked (deleteById requestId rows) = unmarked rows := by
  rw [unmarked_deleteById]
  refine deleteById_of_forall_ne fun row hrow hid => ?_
  obtain ⟨hmem, hunmarked⟩ := mem_unmarked.mp hrow
  simp [hmarked row hmem hid] at hunmarked

theorem deleteById_updateById
    (hset : ∀ row : VpnSession, (set row).requestId = row.requestId) :
    deleteById requestId (updateById requestId set rows) = deleteById requestId rows := by
  induction rows with
  | nil => rfl
  | cons row rest ih =>
      simp only [updateById, deleteById, List.map_cons, List.filter_cons] at ih ⊢
      by_cases hid : row.requestId = requestId <;> simpa [hid, hset] using ih

theorem requestIds_updateById
    (hset : ∀ row : VpnSession, (set row).requestId = row.requestId) :
    (updateById requestId set rows).map (·.requestId) = rows.map (·.requestId) := by
  simp only [updateById, List.map_map]
  refine List.map_congr_left fun row _ => ?_
  simp only [Function.comp]
  split
  · exact hset row
  · rfl

/-- Taking back a row that was just inserted. -/
theorem deleteById_append_requested {id : Uuid} (location : Location)
    (h : hasId id.toText rows = false) :
    deleteById id.toText (rows ++ [requested id location]) = rows := by
  have hother : ∀ row ∈ rows, row.requestId ≠ id.toText := by simpa [hasId] using h
  simpa [deleteById, List.filter_append, requested] using hother

/-! ## The current row -/

theorem current_eq_none : current rows = none ↔ unmarked rows = [] :=
  List.head?_eq_none_iff

theorem mem_of_current {row : VpnSession} (h : current rows = some row) :
    row ∈ rows ∧ row.markForDeletion = false :=
  mem_unmarked.mp (List.mem_of_mem_head? h)

theorem mem_of_currentById {id : Uuid} {row : VpnSession}
    (h : currentById id rows = some row) :
    (row ∈ rows ∧ row.markForDeletion = false) ∧ row.requestId = id.toText :=
  ⟨mem_unmarked.mp (List.mem_of_find?_eq_some h), by simpa using List.find?_some h⟩

theorem hasId_iff : hasId requestId rows = true ↔ requestId ∈ rows.map (·.requestId) := by
  simp [hasId]

theorem hasId_of_mem {row : VpnSession} (h : row ∈ rows) :
    hasId row.requestId rows = true := by
  simpa [hasId] using ⟨row, h, rfl⟩

/-- An updated row is still unmarked. -/
theorem patch_mem_unmarked {row : VpnSession} (h : row ∈ unmarked rows)
    (columns : VpnSessionPatch) :
    row.patch columns ∈ unmarked (updateById row.requestId (·.patch columns) rows) := by
  rw [unmarked_updateById_patch]
  exact List.mem_map.mpr ⟨row, h, by simp⟩

/-- With at most one unmarked row, claiming the current one leaves none. -/
theorem unmarked_markCurrent (h : (unmarked rows).length ≤ 1) :
    unmarked (markCurrent rows) = [] := by
  unfold markCurrent current
  cases hrows : unmarked rows with
  | nil => simpa using hrows
  | cons row rest =>
      have hrest : rest = [] := by simpa [hrows] using h
      subst hrest
      simp [unmarked_updateById_mark, hrows, deleteById]

/-! ## Well-formed rows -/

theorem wellFormed_requested (id : Uuid) (location : Location) :
    (requested id location).WellFormed :=
  ⟨⟨id, rfl⟩, nofun⟩

theorem WellFormed.mark {row : VpnSession} (h : row.WellFormed) : row.mark.WellFormed := h

theorem WellFormed.patch {row : VpnSession} (h : row.WellFormed) (columns : VpnSessionPatch) :
    (row.patch columns).WellFormed := h

theorem WellFormed.setAccepted {row : VpnSession} (h : row.WellFormed) (id : Uuid) :
    (row.setAccepted id).WellFormed := by
  refine ⟨h.1, ?_⟩
  rintro text htext
  cases htext
  exact ⟨id, rfl⟩

theorem wellFormed_updateById (h : ∀ row ∈ rows, row.WellFormed)
    (hset : ∀ row : VpnSession, row.WellFormed → (set row).WellFormed) :
    ∀ row ∈ updateById requestId set rows, row.WellFormed := by
  simp only [updateById, List.forall_mem_map]
  intro row hrow
  split
  · exact hset row (h row hrow)
  · exact h row hrow

theorem wellFormed_markCurrent (h : ∀ row ∈ rows, row.WellFormed) :
    ∀ row ∈ markCurrent rows, row.WellFormed := by
  unfold markCurrent
  split
  · exact h
  · exact wellFormed_updateById h fun _ => WellFormed.mark

theorem wellFormed_deleteById (h : ∀ row ∈ rows, row.WellFormed) :
    ∀ row ∈ deleteById requestId rows, row.WellFormed :=
  fun row hrow => h row (List.mem_of_mem_filter hrow)

end Modvpn.Entity.VpnSession
