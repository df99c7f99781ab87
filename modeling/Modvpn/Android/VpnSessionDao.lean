/-
# The session table of the Android client

The column `markForDeletion` holds an integer where Room has written a row, and the text
that the marking statement writes there. Only the text is looked for when sessions are
reclaimed, and Room reads it back as false.
-/

import Modvpn.Android.VPNState

namespace Modvpn.Android

inductive MarkForDeletion
  | integer (value : Bool)
  | text
  deriving DecidableEq

namespace Db

structure VpnSession where
  requestId : Uuid
  code : String
  sessionUUID : Option Uuid
  markForDeletion : MarkForDeletion
  deriving DecidableEq

structure Device where
  uniqueId : Uuid
  ipv4Address : Option String
  privateKey : String
  deriving DecidableEq

namespace VpnSession

def new (requestId : Uuid) (location : Android.Location) : VpnSession where
  requestId := requestId
  code := location.code
  sessionUUID := none
  markForDeletion := .integer false

/-- The row as Room reads it. -/
def read (vpnSession : VpnSession) : VpnSession :=
  { vpnSession with
    markForDeletion := .integer (vpnSession.markForDeletion = .integer true) }

end VpnSession

end Db

namespace VpnSessionDao

open Db (VpnSession)

/-- A row with the same key is replaced. -/
def insert (vpnSession : VpnSession) (rows : List VpnSession) : List VpnSession :=
  rows.filter (·.requestId ≠ vpnSession.requestId) ++ [vpnSession]

def update (vpnSession : VpnSession) (rows : List VpnSession) : List VpnSession :=
  rows.map fun row => if row.requestId = vpnSession.requestId then vpnSession else row

def withRequestId (requestId : Uuid) (rows : List VpnSession) : Option VpnSession :=
  (rows.find? (·.requestId = requestId)).map .read

def deleteWithRequestId (requestId : Uuid) (rows : List VpnSession) : List VpnSession :=
  rows.filter (·.requestId ≠ requestId)

/-- By its key, whatever the other columns hold. -/
def delete (vpnSession : VpnSession) : List VpnSession → List VpnSession :=
  deleteWithRequestId vpnSession.requestId

def markAllForDeletion (rows : List VpnSession) : List VpnSession :=
  rows.map fun row => { row with markForDeletion := .text }

def toReclaim (rows : List VpnSession) : List Uuid :=
  (rows.filter (·.markForDeletion = .text)).map (·.requestId)

/-- The sessions that have a row. -/
def requestIds (rows : List VpnSession) : List Uuid := rows.map (·.requestId)

variable {requestId : Uuid} {rows : List VpnSession} {vpnSession : VpnSession}

theorem mem_requestIds_insert : requestId ∈ requestIds (insert vpnSession rows) ↔
    requestId = vpnSession.requestId ∨ requestId ∈ requestIds rows := by
  by_cases hsame : requestId = vpnSession.requestId
  · simp [requestIds, insert, hsame]
  · simp only [requestIds, insert, List.map_append, List.mem_append, List.mem_map, List.mem_filter,
      List.map_singleton, List.mem_singleton, hsame, or_false, false_or]
    constructor
    · rintro ⟨row, ⟨hrow, -⟩, rfl⟩
      exact ⟨row, hrow, rfl⟩
    · rintro ⟨row, hrow, rfl⟩
      exact ⟨row, ⟨hrow, decide_eq_true hsame⟩, rfl⟩

@[simp]
theorem requestIds_update : requestIds (update vpnSession rows) = requestIds rows := by
  simp only [requestIds, update, List.map_map]
  apply List.map_congr_left
  intro row _
  simp only [Function.comp]
  split
  · rename_i hrow
    exact hrow.symm
  · rfl

@[simp]
theorem requestIds_markAllForDeletion : requestIds (markAllForDeletion rows) = requestIds rows := by
  simp [requestIds, markAllForDeletion, Function.comp_def]

theorem mem_requestIds_deleteWithRequestId {deleted : Uuid} :
    requestId ∈ requestIds (deleteWithRequestId deleted rows) ↔
      requestId ≠ deleted ∧ requestId ∈ requestIds rows := by
  simp only [requestIds, deleteWithRequestId, List.mem_map, List.mem_filter, decide_eq_true_eq]
  constructor
  · rintro ⟨row, ⟨hmem, hne⟩, rfl⟩
    exact ⟨hne, row, hmem, rfl⟩
  · rintro ⟨hne, row, hmem, rfl⟩
    exact ⟨row, ⟨hmem, hne⟩, rfl⟩

theorem requestId_of_withRequestId (h : withRequestId requestId rows = some vpnSession) :
    vpnSession.requestId = requestId := by
  rw [withRequestId, Option.map_eq_some_iff] at h
  obtain ⟨row, hrow, rfl⟩ := h
  have hfound := List.find?_some hrow
  exact of_decide_eq_true hfound

theorem mem_toReclaim : requestId ∈ toReclaim rows ↔
    ∃ row ∈ rows, row.markForDeletion = .text ∧ row.requestId = requestId := by
  simp [toReclaim, and_assoc]

theorem requestIds_of_toReclaim (h : requestId ∈ toReclaim rows) : requestId ∈ requestIds rows := by
  obtain ⟨row, hrow, -, rfl⟩ := mem_toReclaim.1 h
  exact List.mem_map_of_mem hrow

/-- A row that is written anew is not marked, and the others keep their marks. -/
theorem mem_toReclaim_of_insert (h : requestId ∈ toReclaim (insert vpnSession rows))
    (hunmarked : vpnSession.markForDeletion ≠ .text) : requestId ∈ toReclaim rows := by
  obtain ⟨row, hrow, hmark, rfl⟩ := mem_toReclaim.1 h
  rcases List.mem_append.1 hrow with hrow | hrow
  · exact mem_toReclaim.2 ⟨row, List.mem_of_mem_filter hrow, hmark, rfl⟩
  · rw [List.mem_singleton.1 hrow] at hmark
    exact absurd hmark hunmarked

theorem mem_toReclaim_of_update (h : requestId ∈ toReclaim (update vpnSession rows))
    (hunmarked : vpnSession.markForDeletion ≠ .text) : requestId ∈ toReclaim rows := by
  obtain ⟨row, hrow, hmark, rfl⟩ := mem_toReclaim.1 h
  obtain ⟨old, hold, rfl⟩ := List.mem_map.1 hrow
  by_cases hsame : old.requestId = vpnSession.requestId
  · rw [if_pos hsame] at hmark
    exact absurd hmark hunmarked
  · rw [if_neg hsame] at hmark ⊢
    exact mem_toReclaim.2 ⟨old, hold, hmark, rfl⟩

theorem mem_toReclaim_of_delete {deleted : Uuid}
    (h : requestId ∈ toReclaim (deleteWithRequestId deleted rows)) : requestId ∈ toReclaim rows := by
  obtain ⟨row, hrow, hmark, rfl⟩ := mem_toReclaim.1 h
  exact mem_toReclaim.2 ⟨row, List.mem_of_mem_filter hrow, hmark, rfl⟩

end VpnSessionDao

end Modvpn.Android
