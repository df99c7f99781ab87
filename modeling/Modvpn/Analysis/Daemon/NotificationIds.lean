/-
# The ids of notifications

The daemon keeps notifications in a map, so an id that is used twice loses one. There
are four kinds of ids: a generated request id, the same behind `failed-` once its row is
gone, the request id of a row behind `ce-`, and the word `unknown`. Texts of different
kinds differ in their third character.
-/

import Modvpn.Analysis.Daemon.Rows
import Modvpn.Daemon.Notifications

namespace Modvpn

open Modvpn.Protocol
open Entity (VpnSession)

/-! ## Four kinds of ids -/

namespace Uuid

/-- The third character of an id is one of its digits. -/
theorem exists_third (id : Uuid) : ∃ digit, id.toText.toList[2]? = some (hexChar digit) := by
  have hlength : 2 < id.digits.length := by rw [id.length_digits]; omega
  refine ⟨id.digits.get ⟨2, hlength⟩, ?_⟩
  have hshort : 2 < ((id.digits.map hexChar).take 8).length := by
    simp [id.length_digits]
  rw [toText, String.toList_ofList, hyphenate, List.getElem?_append_left hshort,
    List.getElem?_take_of_lt (by omega), List.getElem?_map, List.getElem?_eq_getElem hlength]
  rfl

theorem toText_ne {id : Uuid} {text : String} {c : Char} (hthird : text.toList[2]? = some c)
    (hc : ∀ digit, hexChar digit ≠ c) : id.toText ≠ text := by
  rintro rfl
  obtain ⟨digit, hdigit⟩ := id.exists_third
  exact hc digit (Option.some.inj (hdigit.symm.trans hthird))

theorem toText_ne_failed (id : Uuid) (text : String) : id.toText ≠ "failed-" ++ text :=
  toText_ne (c := 'i') (by rw [String.toList_append]; rfl) (by decide)

theorem toText_ne_clientError (id : Uuid) (text : String) : id.toText ≠ "ce-" ++ text :=
  toText_ne (c := '-') (by rw [String.toList_append]; rfl) (by decide)

theorem toText_ne_unknown (id : Uuid) : id.toText ≠ "unknown" :=
  toText_ne (c := 'k') rfl (by decide)

end Uuid

/-- What the id of a notification may be while these rows are in the table and these ids
have been generated. -/
inductive NotificationId (rows : List VpnSession) (issued : List Uuid) : String → Prop
  | request {id : Uuid} (hissued : id ∈ issued) : NotificationId rows issued id.toText
  | failed {id : Uuid} (hissued : id ∈ issued) (hgone : VpnSession.hasId id.toText rows = false) :
      NotificationId rows issued ("failed-" ++ id.toText)
  | clientError (requestId : String) : NotificationId rows issued ("ce-" ++ requestId)
  | unknown : NotificationId rows issued "unknown"

namespace NotificationId

variable {rows fewer : List VpnSession} {issued more : List Uuid} {text : String}

/-- Ids are generated and rows disappear. -/
theorem mono (h : NotificationId rows issued text) (hissued : issued ⊆ more)
    (hrows : ∀ id, VpnSession.hasId id fewer = true → VpnSession.hasId id rows = true) :
    NotificationId fewer more text := by
  cases h with
  | request hid => exact .request (hissued hid)
  | failed hid hgone =>
      refine .failed (hissued hid) (Bool.eq_false_iff.mpr fun hrow => ?_)
      rw [hrows _ hrow] at hgone
      cases hgone
  | clientError requestId => exact .clientError requestId
  | unknown => exact .unknown

/-- A new row has no notification of a failed session. -/
theorem insert {id : Uuid} {location : Location} (h : NotificationId rows issued text)
    (hne : text ≠ "failed-" ++ id.toText) :
    NotificationId (rows ++ [VpnSession.requested id location]) issued text := by
  cases h with
  | request hid => exact .request hid
  | @failed other hid hgone =>
      refine .failed hid ?_
      have hother : id.toText ≠ other.toText := fun heq => hne (by rw [heq])
      simpa [VpnSession.hasId, VpnSession.requested, hother] using hgone
  | clientError requestId => exact .clientError requestId
  | unknown => exact .unknown

theorem failed_injective {first second : String} (h : "failed-" ++ first = "failed-" ++ second) :
    first = second := by
  have hchars := congrArg String.toList h
  rw [String.toList_append, String.toList_append] at hchars
  exact String.toList_injective (List.append_cancel_left hchars)

theorem ne_failed_of_third {text failed : String} {c : Char} (hthird : text.toList[2]? = some c)
    (hc : c ≠ 'i') : text ≠ "failed-" ++ failed := by
  rintro rfl
  rw [String.toList_append] at hthird
  exact hc (Option.some.inj hthird).symm

/-- The request has no failed notification while its row is there. -/
theorem ne_failed_of_hasId {id : Uuid} (h : NotificationId rows issued text)
    (hid : VpnSession.hasId id.toText rows = true) : text ≠ "failed-" ++ id.toText := by
  cases h with
  | request hissued => exact Uuid.toText_ne_failed _ _
  | failed hissued hgone =>
      intro heq
      rw [failed_injective heq, hid] at hgone
      cases hgone
  | clientError requestId =>
      exact ne_failed_of_third (c := '-') (by rw [String.toList_append]; rfl) (by decide)
  | unknown => exact ne_failed_of_third (c := 'k') rfl (by decide)

/-- An id that is generated now is in no notification. -/
theorem ne_of_fresh {id : Uuid} (h : NotificationId rows issued text) (hid : id ∉ issued) :
    text ≠ id.toText ∧ text ≠ "failed-" ++ id.toText := by
  cases h with
  | request hissued =>
      refine ⟨fun heq => ?_, Uuid.toText_ne_failed _ _⟩
      exact hid (Uuid.toText_injective heq ▸ hissued)
  | failed hissued hgone =>
      refine ⟨fun heq => Uuid.toText_ne_failed _ _ heq.symm, fun heq => ?_⟩
      exact hid (Uuid.toText_injective (failed_injective heq) ▸ hissued)
  | clientError requestId =>
      exact ⟨fun heq => Uuid.toText_ne_clientError _ _ heq.symm,
        ne_failed_of_third (c := '-') (by rw [String.toList_append]; rfl) (by decide)⟩
  | unknown =>
      exact ⟨fun heq => Uuid.toText_ne_unknown _ heq.symm,
        ne_failed_of_third (c := 'k') rfl (by decide)⟩

end NotificationId

/-! ## The map -/

/-- The notifications of the map are the ones that are due, each under its own id. -/
structure Tidy (map : List (String × Notification)) (due : List Notification) : Prop where
  keyed : ∀ entry ∈ map, entry.1 = entry.2.id
  nodup : (map.map (·.1)).Nodup
  perm : (map.map (·.2)).Perm due

/-- `HashMap::insert` under the notification's own id. -/
def insertNoted (map : List (String × Notification)) (notification : Notification) :
    List (String × Notification) :=
  (notification.id, notification) :: map.filter (·.1 ≠ notification.id)

section Tidy

variable {map : List (String × Notification)} {due : List Notification}
  {notification : Notification}

theorem tidy_nil : Tidy [] [] := ⟨nofun, List.nodup_nil, .nil⟩

theorem insertNoted_twice :
    insertNoted (insertNoted map notification) notification = insertNoted map notification := by
  simp [insertNoted]

/-- A notification under a new id removes none. -/
theorem Tidy.insert (h : Tidy map due) (hnew : ∀ other ∈ due, other.id ≠ notification.id) :
    Tidy (insertNoted map notification) (due ++ [notification]) := by
  have hfree : ∀ entry ∈ map, entry.1 ≠ notification.id := by
    intro entry hentry
    rw [h.keyed entry hentry]
    exact hnew entry.2 (h.perm.subset (List.mem_map_of_mem hentry))
  have hsame : insertNoted map notification = (notification.id, notification) :: map := by
    rw [insertNoted, List.filter_eq_self.mpr fun entry hentry => by simpa using hfree entry hentry]
  rw [hsame]
  refine ⟨?_, ?_, ?_⟩
  · intro entry hentry
    rcases List.mem_cons.mp hentry with rfl | hentry
    · rfl
    · exact h.keyed entry hentry
  · refine List.nodup_cons.mpr ⟨fun hmem => ?_, h.nodup⟩
    obtain ⟨entry, hentry, heq⟩ := List.mem_map.mp hmem
    exact hfree entry hentry heq
  · exact (h.perm.cons notification).trans (List.perm_append_singleton _ _).symm

theorem Tidy.remove (h : Tidy map due) (id : String) :
    Tidy (map.filter (·.1 ≠ id)) (due.filter (·.id ≠ id)) := by
  refine ⟨fun entry hentry => h.keyed entry (List.mem_of_mem_filter hentry),
    h.nodup.sublist (List.filter_sublist.map _), ?_⟩
  have hfilter : (map.filter (·.1 ≠ id)).map (·.2) = (map.map (·.2)).filter (·.id ≠ id) := by
    rw [List.filter_map]
    congr 1
    apply List.filter_congr
    intro entry hentry
    rw [h.keyed entry hentry]
    rfl
  rw [hfilter]
  exact h.perm.filter _

end Tidy

theorem DateTimeUtc.notBefore_total (first second : DateTimeUtc) :
    first.notBefore second ∨ second.notBefore first := by
  unfold notBefore
  omega

theorem DateTimeUtc.notBefore_trans {first second third : DateTimeUtc}
    (h : first.notBefore second) (hnext : second.notBefore third) : first.notBefore third := by
  unfold notBefore at *
  omega

/-- The list has the notifications of the map, the latest first. -/
theorem DaemonState.notifications_perm (state : DaemonState) :
    state.notifications.Perm (state.notificationMap.map (·.2)) :=
  List.perm_insertionSort _ _

theorem DaemonState.notifications_pairwise (state : DaemonState) :
    state.notifications.Pairwise fun first second =>
      first.timestamp.notBefore second.timestamp := by
  have htotal : Std.Total fun first second : Notification =>
      first.timestamp.notBefore second.timestamp := ⟨fun _ _ => DateTimeUtc.notBefore_total _ _⟩
  have htrans : IsTrans Notification fun first second =>
      first.timestamp.notBefore second.timestamp := ⟨fun _ _ _ => DateTimeUtc.notBefore_trans⟩
  exact List.pairwise_insertionSort _ _

end Modvpn
