/-
# Rows that nobody has claimed belong to the loop

The machine behind the holdings of `Ledger`: an id that a program may still insert
has no row, and an id that a program may delete has no unmarked row and never will
again. So no task, no command of the device service and no pass of the reclaimer
changes an unmarked row, and what the loop finds there is still there when it
performs its next operation.
-/

import Modvpn.Analysis.Daemon.Governing
import Modvpn.Analysis.Daemon.Ledger

namespace Modvpn

open Modvpn.Protocol
open Entity (VpnSession)

/-! ## Tables -/

namespace World

variable {op : Op} {env : Env} {world : World}

/-- Only an insertion adds a request id to the table. -/
theorem answer_requestIds (hinsert : ∀ id location, op ≠ .insertVpnSession id location) :
    ((answer op env world).2.vpnSession.map (·.requestId)).Sublist
      (world.vpnSession.map (·.requestId)) := by
  let P (next : World) : Prop :=
    (next.vpnSession.map (·.requestId)).Sublist (world.vpnSession.map (·.requestId))
  have hsame : P world := List.Sublist.refl _
  cases hop : op.writesSessions with
  | false => rw [answer_vpnSession hop]
  | true =>
      cases op with
      | insertVpnSession id location => exact absurd rfl (hinsert id location)
      | markForDeletion _ =>
          refine statement_ensures (P := P) hsame ?_
          simp only [P, VpnSession.requestIds_updateById fun _ => VpnSession.mark_requestId _]
          exact hsame
      | setAccepted _ _ =>
          refine statement_ensures (P := P) hsame ?_
          simp only [P, VpnSession.requestIds_updateById fun _ => VpnSession.setAccepted_requestId ..]
          exact hsame
      | updateVpnSession _ set =>
          refine checked_ensures (P := P) hsame fun _ _ hnext => ?_
          split at hnext <;> cases hnext
          simp only [P, VpnSession.requestIds_updateById fun _ => VpnSession.patch_requestId ..]
          exact hsame
      | markAllForDeletion =>
          refine statement_ensures (P := P) hsame ?_
          simp only [P, List.map_map]
          exact hsame
      | deleteVpnSession _ =>
          exact statement_ensures (P := P) hsame (List.filter_sublist.map _)
      | _ => cases hop

theorem answer_wellFormed (h : ∀ row ∈ world.vpnSession, row.WellFormed) :
    ∀ row ∈ (answer op env world).2.vpnSession, row.WellFormed := by
  let P (next : World) : Prop := ∀ row ∈ next.vpnSession, row.WellFormed
  cases hop : op.writesSessions with
  | false => rwa [answer_vpnSession hop]
  | true =>
      cases op with
      | insertVpnSession id location =>
          refine checked_ensures (P := P) h fun _ _ hnext => ?_
          split at hnext <;> cases hnext
          simpa [P, or_imp, forall_and, VpnSession.wellFormed_requested] using h
      | markForDeletion _ =>
          exact statement_ensures (P := P) h
            (VpnSession.wellFormed_updateById h fun _ => VpnSession.WellFormed.mark)
      | setAccepted _ _ =>
          exact statement_ensures (P := P) h
            (VpnSession.wellFormed_updateById h fun _ hrow => hrow.setAccepted _)
      | updateVpnSession _ set =>
          refine checked_ensures (P := P) h fun _ _ hnext => ?_
          split at hnext <;> cases hnext
          exact VpnSession.wellFormed_updateById h fun _ hrow => hrow.patch _
      | markAllForDeletion =>
          refine statement_ensures (P := P) h ?_
          simpa [P] using fun row hrow => (h row hrow).mark
      | deleteVpnSession _ =>
          exact statement_ensures (P := P) h (VpnSession.wellFormed_deleteById h)
      | _ => cases hop

/-- An unmarked row was there before, unless it was inserted. -/
theorem unmarked_of_answer (hinsert : ∀ id location, op ≠ .insertVpnSession id location)
    {row : VpnSession} (hrow : row ∈ VpnSession.unmarked (answer op env world).2.vpnSession) :
    ∃ same ∈ VpnSession.unmarked world.vpnSession, same.requestId = row.requestId := by
  let P (next : World) : Prop := row ∈ VpnSession.unmarked next.vpnSession →
    ∃ same ∈ VpnSession.unmarked world.vpnSession, same.requestId = row.requestId
  have hsame : P world := fun hrow => ⟨row, hrow, rfl⟩
  have hupdated {id : String} {set : VpnSession → VpnSession}
      (hset : ∀ row, (set row).requestId = row.requestId)
      (hrow : row ∈ VpnSession.updateById id set (VpnSession.unmarked world.vpnSession)) :
      ∃ same ∈ VpnSession.unmarked world.vpnSession, same.requestId = row.requestId := by
    obtain ⟨same, hmem, rfl⟩ := List.mem_map.mp hrow
    refine ⟨same, hmem, ?_⟩
    split
    · exact (hset same).symm
    · rfl
  revert hrow
  show P (answer op env world).2
  cases hop : op.writesSessions with
  | false =>
      simp only [P, answer_vpnSession hop]
      exact hsame
  | true =>
      cases op with
      | insertVpnSession id location => exact absurd rfl (hinsert id location)
      | markForDeletion _ =>
          refine statement_ensures (P := P) hsame fun hrow => ?_
          rw [VpnSession.unmarked_updateById_mark] at hrow
          exact hsame (List.mem_of_mem_filter hrow)
      | setAccepted _ _ =>
          refine statement_ensures (P := P) hsame fun hrow => ?_
          rw [VpnSession.unmarked_updateById_setAccepted] at hrow
          exact hupdated (fun row => VpnSession.setAccepted_requestId row _) hrow
      | updateVpnSession _ set =>
          refine checked_ensures (P := P) hsame fun _ _ hnext hrow => ?_
          split at hnext <;> cases hnext
          rw [VpnSession.unmarked_updateById_patch] at hrow
          exact hupdated (fun row => VpnSession.patch_requestId row _) hrow
      | markAllForDeletion =>
          refine statement_ensures (P := P) hsame fun hrow => ?_
          rw [VpnSession.unmarked_eq_nil_of_marked (by simp)] at hrow
          cases hrow
      | deleteVpnSession _ =>
          refine statement_ensures (P := P) hsame fun hrow => ?_
          rw [VpnSession.unmarked_deleteById] at hrow
          exact hsame (List.mem_of_mem_filter hrow)
      | _ => cases hop

end World

/-! ## What the holdings mean -/

namespace Machine

/-- Every row has an id that was generated, no two have the same, and an id that may
still be inserted has none. -/
structure Kept (fresh issued : List Uuid) (rows : List VpnSession) : Prop where
  wellFormed : ∀ row ∈ rows, row.WellFormed
  known : ∀ id : Uuid, VpnSession.hasId id.toText rows = true → id ∈ issued
  nodup : (rows.map (·.requestId)).Nodup
  rowless : ∀ id ∈ fresh, id ∈ issued ∧ VpnSession.hasId id.toText rows = false

/-- The id was inserted: it was generated, and cannot be inserted any more. -/
structure Used (fresh issued : List Uuid) (id : Uuid) : Prop where
  known : id ∈ issued
  stale : id ∉ fresh

/-- The id was inserted, and its row is marked or gone. -/
structure Gone (fresh issued : List Uuid) (rows : List VpnSession) (id : Uuid) : Prop where
  used : Used fresh issued id
  unmarked : ∀ row ∈ VpnSession.unmarked rows, row.requestId ≠ id.toText

/-- The ids generated after an operation, with the ones before. -/
theorem subset_issuedAfter (issued : List Uuid) (env : Env) (op : Op) :
    issued ⊆ issuedAfter issued env op := by
  cases op <;> first | exact List.Subset.refl _ | exact List.subset_cons_self ..

section Answer

variable {fresh issued : List Uuid} {rows : List VpnSession} {op : Op} {env : Env}
  {world : World} {held : Held} {byLoop : Bool} {id : Uuid}

/-- An id that was inserted stays so. -/
theorem Used.answer (h : Used fresh issued id) (hallowed : allowed issued env op = true) :
    Used (Held.freshAfter fresh op (World.answer op env world).1) (issuedAfter issued env op) id := by
  refine ⟨subset_issuedAfter _ _ _ h.known, ?_⟩
  cases op with
  | newUuid =>
      have hnew : env.uuid ∉ issued := by simpa [allowed] using hallowed
      intro hmem
      rcases List.mem_cons.mp hmem with rfl | hmem
      · exact hnew h.known
      · exact h.stale hmem
  | insertVpnSession other location => exact fun hmem => h.stale (List.mem_of_mem_filter hmem)
  | _ => exact h.stale

theorem Gone.answer (h : Gone fresh issued world.vpnSession id)
    (hallowed : allowed issued env op = true)
    (hinsert : ∀ other location, op = .insertVpnSession other location → other ∈ fresh) :
    Gone (Held.freshAfter fresh op (World.answer op env world).1) (issuedAfter issued env op)
      (World.answer op env world).2.vpnSession id := by
  refine ⟨h.used.answer hallowed, ?_⟩
  by_cases hop : ∃ other location, op = .insertVpnSession other location
  · obtain ⟨other, location, rfl⟩ := hop
    have hother : other ≠ id := fun heq => h.used.stale (heq ▸ hinsert other location rfl)
    refine World.checked_ensures (P := fun next => ∀ row ∈ VpnSession.unmarked next.vpnSession,
      row.requestId ≠ id.toText) h.unmarked fun _ _ hnext => ?_
    split at hnext <;> cases hnext
    intro row hrow
    rw [VpnSession.unmarked_append, VpnSession.unmarked_requested] at hrow
    rcases List.mem_append.mp hrow with hrow | hrow
    · exact h.unmarked row hrow
    · rw [List.mem_singleton.mp hrow]
      exact fun heq => hother (Uuid.toText_injective heq)
  · intro row hrow
    obtain ⟨same, hsame, hid⟩ :=
      World.unmarked_of_answer (fun other location heq => hop ⟨other, location, heq⟩) hrow
    exact hid ▸ h.unmarked same hsame

theorem Kept.answer (h : Kept fresh issued world.vpnSession)
    (hallowed : allowed issued env op = true)
    (hinsert : ∀ other location, op = .insertVpnSession other location → other ∈ fresh) :
    Kept (Held.freshAfter fresh op (World.answer op env world).1) (issuedAfter issued env op)
      (World.answer op env world).2.vpnSession := by
  have hwellFormed : ∀ row ∈ (World.answer op env world).2.vpnSession, row.WellFormed :=
    World.answer_wellFormed h.wellFormed
  by_cases hop : ∃ other location, op = .insertVpnSession other location
  · obtain ⟨other, location, rfl⟩ := hop
    obtain ⟨hissued, hother⟩ := h.rowless other (hinsert other location rfl)
    have hsame : Kept (fresh.filter (· ≠ other)) issued world.vpnSession :=
      ⟨h.wellFormed, h.known, h.nodup, fun id hid => h.rowless id (List.mem_of_mem_filter hid)⟩
    refine World.checked_ensures (P := fun next => Kept (fresh.filter (· ≠ other)) issued
      next.vpnSession) hsame fun _ _ hnext => ?_
    rw [hother] at hnext
    cases hnext
    have hids : (world.vpnSession ++ [VpnSession.requested other location]).map (·.requestId) =
        world.vpnSession.map (·.requestId) ++ [other.toText] := by simp [VpnSession.requested]
    have habsent : other.toText ∉ world.vpnSession.map (·.requestId) := by
      rw [← VpnSession.hasId_iff, hother]
      exact Bool.false_ne_true
    refine ⟨?_, fun id hid => ?_, ?_, fun id hid => ?_⟩
    · simpa [or_imp, forall_and, VpnSession.wellFormed_requested] using h.wellFormed
    · rw [VpnSession.hasId_iff, hids, List.mem_append, List.mem_singleton] at hid
      rcases hid with hid | hid
      · exact h.known id (VpnSession.hasId_iff.mpr hid)
      · rw [Uuid.toText_injective hid]
        exact hissued
    · rw [hids, List.nodup_append]
      refine ⟨h.nodup, List.nodup_singleton _, fun text htext last hlast => ?_⟩
      rw [List.mem_singleton.mp hlast]
      exact fun heq => habsent (heq ▸ htext)
    · obtain ⟨hmem, hne⟩ := List.mem_filter.mp hid
      obtain ⟨hknown, hnone⟩ := h.rowless id hmem
      refine ⟨hknown, ?_⟩
      rw [← Bool.not_eq_true, VpnSession.hasId_iff, hids, List.mem_append, List.mem_singleton,
        ← VpnSession.hasId_iff, hnone]
      rintro (hid | hid)
      · exact absurd hid Bool.false_ne_true
      · exact (by simpa using hne : id ≠ other) (Uuid.toText_injective hid)
  · have hids : ((World.answer op env world).2.vpnSession.map (·.requestId)).Sublist
        (world.vpnSession.map (·.requestId)) :=
      World.answer_requestIds fun other location heq => hop ⟨other, location, heq⟩
    have hfewer {id : Uuid} (hid : VpnSession.hasId id.toText
        (World.answer op env world).2.vpnSession = true) :
        VpnSession.hasId id.toText world.vpnSession = true :=
      VpnSession.hasId_iff.mpr (hids.subset (VpnSession.hasId_iff.mp hid))
    refine ⟨hwellFormed, fun id hid => subset_issuedAfter _ _ _ (h.known id (hfewer hid)),
      h.nodup.sublist hids, fun id hid => ?_⟩
    have hkept : id ∈ fresh → id ∈ issuedAfter issued env op ∧
        VpnSession.hasId id.toText (World.answer op env world).2.vpnSession = false := by
      intro hmem
      obtain ⟨hknown, hnone⟩ := h.rowless id hmem
      refine ⟨subset_issuedAfter _ _ _ hknown, ?_⟩
      rw [← Bool.not_eq_true]
      intro hid
      simp [hfewer hid] at hnone
    cases op with
    | newUuid =>
        have hnew : env.uuid ∉ issued := by simpa [allowed] using hallowed
        rcases List.mem_cons.mp hid with rfl | hmem
        · refine ⟨List.mem_cons_self .., ?_⟩
          rw [← Bool.not_eq_true]
          exact fun hid => hnew (h.known _ hid)
        · exact hkept hmem
    | insertVpnSession other location => exact absurd ⟨other, location, rfl⟩ hop
    | _ => exact hkept hid

/-- An id that has a row was inserted. -/
theorem Kept.used (h : Kept fresh issued rows) (hid : VpnSession.hasId id.toText rows = true) :
    Used fresh issued id := by
  refine ⟨h.known id hid, fun hmem => ?_⟩
  simp [(h.rowless id hmem).2] at hid

/-- The text of a row is that of the id it is read as. -/
theorem Kept.requestId_eq (h : Kept fresh issued rows) {row : VpnSession} (hrow : row ∈ rows)
    (hid : Uuid.parseStr row.requestId = some id) : row.requestId = id.toText := by
  obtain ⟨⟨other, hother⟩, -⟩ := h.wellFormed row hrow
  rw [hother, Uuid.parseStr_toText] at hid
  cases hid
  exact hother

theorem used_of_sighted (h : Kept fresh issued world.vpnSession)
    (hid : id ∈ Held.sighted op (World.answer op env world).1) : Used fresh issued id := by
  cases op with
  | findUnmarked =>
      cases hdb : env.dbErr with
      | some error => simp [World.answer, World.statement, hdb, Held.sighted] at hid
      | none =>
          cases hrow : (VpnSession.unmarked world.vpnSession).head? with
          | none => simp [World.answer, World.statement, hdb, hrow, Held.sighted] at hid
          | some row =>
              have hparsed : Uuid.parseStr row.requestId = some id := by
                simpa [World.answer, World.statement, hdb, hrow, Held.sighted] using hid
              obtain ⟨hmem, -⟩ := VpnSession.mem_of_current hrow
              apply h.used
              rw [← h.requestId_eq hmem hparsed]
              exact VpnSession.hasId_of_mem hmem
  | _ => cases hid

/-- What a program learns is spent. -/
theorem gone_of_learned (h : Kept fresh issued world.vpnSession)
    (hfound : ∀ id ∈ held.found, Used fresh issued id) (hneeds : Needs byLoop held op)
    (hid : id ∈ Held.learned op (World.answer op env world).1) :
    Gone fresh issued (World.answer op env world).2.vpnSession id := by
  cases op with
  | findMarked =>
      cases hdb : env.dbErr with
      | some error => simp [World.answer, World.statement, hdb, Held.learned] at hid
      | none =>
          simp only [World.answer, World.statement, hdb, Held.learned] at hid ⊢
          obtain ⟨row, hrow, hparsed⟩ := List.mem_filterMap.mp hid
          obtain ⟨hmem, hmarked⟩ := List.mem_filter.mp hrow
          have htext := h.requestId_eq hmem hparsed
          refine ⟨h.used (htext ▸ VpnSession.hasId_of_mem hmem), fun other hother heq => ?_⟩
          obtain ⟨hother, hunmarked⟩ := VpnSession.mem_unmarked.mp hother
          have hsame : other = row :=
            List.inj_on_of_nodup_map h.nodup hother hmem (heq.trans htext.symm)
          simp [hsame, hmarked] at hunmarked
  | markForDeletion text =>
      obtain ⟨-, other, hother, rfl⟩ := hneeds
      cases hdb : env.dbErr with
      | some error => simp [World.answer, World.statement, hdb, Held.learned] at hid
      | none =>
          simp only [World.answer, World.statement, hdb, Held.learned, Uuid.parseStr_toText,
            Option.toList_some, List.mem_singleton] at hid ⊢
          subst hid
          refine ⟨hfound _ hother, fun row hrow => ?_⟩
          rw [VpnSession.unmarked_updateById_mark] at hrow
          simpa using (List.mem_filter.mp hrow).2
  | _ => cases hid

/-- Only the loop changes rows that nobody has claimed. -/
theorem unmarked_answer (hspent : ∀ id ∈ held.spent, Gone fresh issued world.vpnSession id)
    (hneeds : Needs false held op) :
    VpnSession.unmarked (World.answer op env world).2.vpnSession =
      VpnSession.unmarked world.vpnSession := by
  cases hop : op.writesSessions with
  | false => rw [World.answer_vpnSession hop]
  | true =>
      cases op with
      | deleteVpnSession text =>
          obtain ⟨id, hid, rfl⟩ : ∃ id ∈ held.spent, id.toText = text := by simpa [Needs] using hneeds
          refine World.statement_ensures (P := fun next => VpnSession.unmarked next.vpnSession =
            VpnSession.unmarked world.vpnSession) rfl ?_
          rw [VpnSession.unmarked_deleteById]
          exact VpnSession.deleteById_of_forall_ne (hspent id hid).unmarked
      | insertVpnSession _ _ | markForDeletion _ => cases hneeds.1
      | markAllForDeletion | setAccepted _ _ | updateVpnSession _ _ => cases hneeds
      | _ => cases hop

/-- What a program holds is what it takes it for. -/
structure Holds (fresh issued : List Uuid) (rows : List VpnSession) (held : Held) : Prop where
  found : ∀ id ∈ held.found, Used fresh issued id
  spent : ∀ id ∈ held.spent, Gone fresh issued rows id

/-- An operation that has what it needs inserts an id that may be inserted. -/
theorem mem_fresh_of_needs (hneeds : Needs byLoop held op)
    (hloop : byLoop = true → held.fresh = fresh) {other : Uuid} {location : Location}
    (h : op = .insertVpnSession other location) : other ∈ fresh := by
  subst h
  exact hloop hneeds.1 ▸ hneeds.2

/-- Whoever performs an operation still holds what it takes its holdings for. -/
theorem Holds.answer (h : Holds fresh issued world.vpnSession held)
    (hkept : Kept fresh issued world.vpnSession) (hallowed : allowed issued env op = true)
    (hneeds : Needs byLoop held op) (hloop : byLoop = true → held.fresh = fresh) :
    Holds (Held.freshAfter fresh op (World.answer op env world).1) (issuedAfter issued env op)
      (World.answer op env world).2.vpnSession (held.after op (World.answer op env world).1) := by
  have hinsert : ∀ other location, op = .insertVpnSession other location → other ∈ fresh :=
    fun _ _ => mem_fresh_of_needs hneeds hloop
  refine ⟨fun id hid => ?_, fun id hid => ?_⟩
  · rcases List.mem_append.mp hid with hid | hid
    · exact (used_of_sighted hkept hid).answer hallowed
    · exact (h.found id hid).answer hallowed
  · rcases List.mem_append.mp hid with hid | hid
    · have hgone := gone_of_learned hkept h.found hneeds hid
      refine ⟨hgone.used.answer hallowed, hgone.unmarked⟩
    · exact (h.spent id hid).answer hallowed hinsert

/-- Nobody but the loop changes which ids may be inserted. -/
theorem freshAfter_of_needs (hneeds : Needs false held op) (answer : op.Resp) :
    Held.freshAfter fresh op answer = fresh := by
  cases op with
  | newUuid => cases hneeds
  | insertVpnSession other location => cases hneeds.1
  | _ => rfl

end Answer

/-! ## The machine -/

/-- All programs hold what they take their holdings for, and `fresh` may be inserted. -/
structure Accounted (fresh : List Uuid) (machine : Machine) : Prop where
  kept : Kept fresh machine.issued machine.world.vpnSession
  loop : ∃ held : Held, held.fresh = fresh ∧
    Holds fresh machine.issued machine.world.vpnSession held ∧
      Accounts true machine.loop (fun _ _ => True) held
  jobs : ∀ job ∈ machine.jobs, ∃ held,
    Holds fresh machine.issued machine.world.vpnSession held ∧
      Accounts false job.program (fun _ _ => True) held
  spawned : ∀ sessionInfo endReason,
    .endSession (some sessionInfo) endReason ∈ machine.world.spawned →
      Gone fresh machine.issued machine.world.vpnSession sessionInfo.requestId

/-- What a step leaves true of the ids that were inserted before it. -/
structure Carries (fresh later : List Uuid) (source target : Machine) : Prop where
  used : ∀ id, Used fresh source.issued id → Used later target.issued id
  gone : ∀ id, Gone fresh source.issued source.world.vpnSession id →
    Gone later target.issued target.world.vpnSession id

variable {codecs : Codecs} {fresh : List Uuid} {source target : Machine}

theorem Carries.holds {later : List Uuid} (h : Carries fresh later source target) {held : Held}
    (hheld : Holds fresh source.issued source.world.vpnSession held) :
    Holds later target.issued target.world.vpnSession held :=
  ⟨fun id hid => h.used id (hheld.found id hid), fun id hid => h.gone id (hheld.spent id hid)⟩

theorem carries_of_eq (hissued : target.issued = source.issued)
    (hrows : target.world.vpnSession = source.world.vpnSession) :
    Carries fresh fresh source target :=
  ⟨fun _ h => hissued ▸ h, fun _ h => by rw [hissued, hrows]; exact h⟩

/-- The same after an operation. -/
theorem carries_answer {op : Op} {env : Env} {held : Held} {byLoop : Bool}
    (hallowed : allowed source.issued env op = true) (hneeds : Needs byLoop held op)
    (hloop : byLoop = true → held.fresh = fresh)
    (hworld : target.world = (World.answer op env source.world).2)
    (hissued : target.issued = issuedAfter source.issued env op) :
    Carries fresh (Held.freshAfter fresh op (World.answer op env source.world).1)
      source target := by
  refine ⟨fun id h => ?_, fun id h => ?_⟩ <;> rw [hissued]
  · exact h.answer hallowed
  · rw [hworld]
    exact h.answer hallowed fun other location => mem_fresh_of_needs hneeds hloop

/-- The tasks that are spawned after an operation. -/
theorem spawned_answer (h : source.Accounted fresh) {op : Op} {env : Env} {held : Held}
    {byLoop : Bool} {later : List Uuid} (hneeds : Needs byLoop held op)
    (hheld : Holds fresh source.issued source.world.vpnSession held)
    (hcarries : Carries fresh later source target)
    (hworld : target.world = (World.answer op env source.world).2) {sessionInfo : SessionInfo}
    {endReason : String}
    (hmem : .endSession (some sessionInfo) endReason ∈ target.world.spawned) :
    Gone later target.issued target.world.vpnSession sessionInfo.requestId := by
  rw [hworld, World.answer_spawned, List.mem_append] at hmem
  apply hcarries.gone
  rcases hmem with hmem | hmem
  · exact h.spawned sessionInfo endReason hmem
  · cases op <;> simp only [Op.spawns, List.not_mem_nil, List.mem_singleton] at hmem
    subst hmem
    exact hheld.spent _ hneeds.2

/-- The rows an answer contains are rows of the table. -/
theorem plausible_answer {rows : World} {op : Op} {env : Env}
    (h : ∀ row ∈ rows.vpnSession, row.WellFormed) : Plausible op (World.answer op env rows).1 := by
  cases op with
  | findUnmarked =>
      intro row hrow
      cases hdb : env.dbErr with
      | some error => simp [World.answer, World.statement, hdb] at hrow
      | none =>
          have hcurrent : VpnSession.current rows.vpnSession = some row := by
            simpa [World.answer, World.statement, hdb, VpnSession.current] using hrow
          exact h row (VpnSession.mem_of_current hcurrent).1
  | findMarked =>
      intro found hfound row hrow
      cases hdb : env.dbErr with
      | some error => simp [World.answer, World.statement, hdb] at hfound
      | none =>
          simp only [World.answer, World.statement, hdb, Except.ok.injEq] at hfound
          exact h row (List.mem_of_mem_filter (hfound ▸ hrow))
  | _ => trivial

/-- The next operation has what it needs, and the rest of the program keeps the terms. -/
theorem accounts_resume {op : Op} {resume : op.Resp → Async Unit} {held : Held} {byLoop : Bool}
    (env : Env) {world : World} (hkept : ∀ row ∈ world.vpnSession, row.WellFormed)
    (h : Accounts byLoop (.perform op resume) (fun _ _ => True) held) :
    Needs byLoop held op ∧ Accounts byLoop (resume (World.answer op env world).1)
      (fun _ _ => True) (held.after op (World.answer op env world).1) :=
  h held (fun other => (World.answer other env world).1) rfl (plausible_answer hkept)

/-- One program has performed an operation, and the others have waited. -/
theorem Accounted.perform {op : Op} {env : Env} {held : Held} {byLoop : Bool}
    (h : source.Accounted fresh)
    (hheld : Holds fresh source.issued source.world.vpnSession held)
    (hallowed : allowed source.issued env op = true) (hneeds : Needs byLoop held op)
    (hfresh : byLoop = true → held.fresh = fresh)
    (hworld : target.world = (World.answer op env source.world).2)
    (hissued : target.issued = issuedAfter source.issued env op)
    (hloop : ∃ held : Held, held.fresh = Held.freshAfter fresh op (World.answer op env source.world).1 ∧
      Holds held.fresh target.issued target.world.vpnSession held ∧
        Accounts true target.loop (fun _ _ => True) held)
    (hjobs : ∀ job ∈ target.jobs, job ∈ source.jobs ∨
      ∃ held, Holds (Held.freshAfter fresh op (World.answer op env source.world).1) target.issued
        target.world.vpnSession held ∧ Accounts false job.program (fun _ _ => True) held) :
    ∃ later, target.Accounted later ∧ Carries fresh later source target := by
  have hcarries := carries_answer hallowed hneeds hfresh hworld hissued
  refine ⟨_, ⟨?_, ?_, fun job hjob => ?_, ?_⟩, hcarries⟩
  · rw [hworld, hissued]
    exact h.kept.answer hallowed fun _ _ => mem_fresh_of_needs hneeds hfresh
  · obtain ⟨held, hlater, hholds, haccounts⟩ := hloop
    exact ⟨held, hlater, hlater ▸ hholds, haccounts⟩
  · rcases hjobs job hjob with hmem | hperformed
    · obtain ⟨held, hholds, haccounts⟩ := h.jobs job hmem
      exact ⟨held, hcarries.holds hholds, haccounts⟩
    · exact hperformed
  · exact fun _ _ => spawned_answer h hneeds hheld hcarries hworld

/-- A program that starts beside the others. -/
theorem Accounted.start (h : source.Accounted fresh) {job : Job ops Role} (held : Held)
    (hissued : target.issued = source.issued)
    (hrows : target.world.vpnSession = source.world.vpnSession)
    (hspawned : target.world.spawned ⊆ source.world.spawned) (hloop : target.loop = source.loop)
    (hjobs : target.jobs = source.jobs ++ [job])
    (hheld : Holds fresh source.issued source.world.vpnSession held)
    (haccounts : Accounts false job.program (fun _ _ => True) held) :
    ∃ later, target.Accounted later ∧ Carries fresh later source target := by
  refine ⟨fresh, ⟨?_, ?_, ?_, ?_⟩, carries_of_eq hissued hrows⟩ <;> rw [hissued, hrows]
  · exact h.kept
  · rw [hloop]
    exact h.loop
  · intro other hother
    rw [hjobs] at hother
    rcases List.mem_append.mp hother with hother | hother
    · exact h.jobs other hother
    · rw [List.mem_singleton.mp hother]
      exact ⟨held, hheld, haccounts⟩
  · exact fun sessionInfo endReason hmem => h.spawned sessionInfo endReason (hspawned hmem)

theorem jobs_settle {index : Nat} {job : Job ops Role} {machine : Machine} :
    ∀ other ∈ (machine.settle index job).jobs, other ∈ machine.jobs ∨ other = job := by
  intro other hother
  unfold settle at hother
  split at hother
  · exact List.mem_or_eq_of_mem_set hother
  · exact .inl ((List.eraseIdx_sublist ..).subset hother)
  · exact .inl ((List.eraseIdx_sublist ..).subset hother)

/-- One of the jobs has performed an operation, and the loop has waited. -/
theorem Accounted.perform_job {op : Op} {env : Env} {held : Held} {index : Nat}
    {job : Job ops Role} (h : source.Accounted fresh)
    (hheld : Holds fresh source.issued source.world.vpnSession held)
    (hallowed : allowed source.issued env op = true) (hneeds : Needs false held op)
    (haccounts : Accounts false job.program (fun _ _ => True)
      (held.after op (World.answer op env source.world).1)) :
    ∃ later, ((source.answered op env).settle index job).Accounted later ∧
      Carries fresh later source ((source.answered op env).settle index job) := by
  have hworld : ((source.answered op env).settle index job).world =
      (World.answer op env source.world).2 := settle_world ..
  have hissued : ((source.answered op env).settle index job).issued =
      issuedAfter source.issued env op := settle_issued ..
  have hfresh : Held.freshAfter fresh op (World.answer op env source.world).1 = fresh :=
    freshAfter_of_needs hneeds _
  have hcarries : Carries fresh (Held.freshAfter fresh op _) source
      ((source.answered op env).settle index job) :=
    carries_answer hallowed hneeds (by simp) hworld hissued
  rw [hfresh] at hcarries
  refine h.perform hheld hallowed hneeds (by simp) hworld hissued ?_ fun other hother => ?_
  · obtain ⟨waiting, rfl, hwaiting, hwaits⟩ := h.loop
    refine ⟨waiting, hfresh.symm, hcarries.holds hwaiting, ?_⟩
    rw [settle_loop]
    exact hwaits
  · rcases jobs_settle other hother with hmem | rfl
    · exact .inl hmem
    · refine .inr ⟨_, ?_, haccounts⟩
      rw [hworld, hissued]
      exact hheld.answer h.kept hallowed hneeds (by simp)

theorem Accounted.step {label : MachineLabel} (h : source.Accounted fresh)
    (hstep : step codecs source label = some target) :
    ∃ later, target.Accounted later ∧ Carries fresh later source target := by
  have hnothing {issued : List Uuid} {rows : List VpnSession} (fresh : List Uuid) :
      Holds fresh issued rows ⟨fresh, [], []⟩ := ⟨by simp, by simp⟩
  cases steps_of_step hstep with
  | restart =>
      refine ⟨[], ⟨⟨h.kept.wellFormed, h.kept.known, h.kept.nodup, by simp⟩,
        ⟨⟨[], [], []⟩, rfl, hnothing [], startup_accounts⟩, List.forall_mem_nil _,
        fun sessionInfo endReason hspawned => by cases hspawned⟩,
        fun id hid => ⟨hid.known, List.not_mem_nil⟩,
        fun id hid => ⟨⟨hid.used.known, List.not_mem_nil⟩, hid.unmarked⟩⟩
  | ready | post => exact ⟨fresh, ⟨h.kept, h.loop, h.jobs, h.spawned⟩, carries_of_eq rfl rfl⟩
  | take =>
      exact ⟨fresh, ⟨h.kept, ⟨⟨fresh, [], []⟩, rfl, hnothing fresh, handleEvent_accounts _⟩,
        h.jobs, h.spawned⟩, carries_of_eq rfl rfl⟩
  | @loop env op resume hloop hallowed =>
      obtain ⟨held, rfl, hheld, haccounts⟩ := h.loop
      rw [hloop] at haccounts
      obtain ⟨hneeds, hresume⟩ := accounts_resume env h.kept.wellFormed haccounts
      refine h.perform hheld hallowed hneeds (fun _ => rfl) rfl rfl ⟨_, rfl, ?_, hresume⟩
        fun job hjob => .inl hjob
      exact hheld.answer h.kept hallowed hneeds fun _ => rfl
  | @start index task htask =>
      refine h.start ⟨fresh, [], task.given⟩ rfl rfl
        (List.eraseIdx_sublist ..).subset rfl rfl ⟨by simp, fun id hid => ?_⟩
        (task_accounts (List.Subset.refl _))
      have hmem := List.mem_of_getElem? htask
      cases task with
      | endSession sessionInfo endReason =>
          cases sessionInfo with
          | none => cases hid
          | some sessionInfo =>
              rw [List.mem_singleton.mp hid]
              exact h.spawned sessionInfo endReason hmem
      | _ => cases hid
  | serve hcommands hstarted hserving hfree =>
      exact h.start ⟨fresh, [], []⟩ rfl rfl (List.Subset.refl _) rfl rfl (hnothing fresh)
        (service_accounts _)
  | reclaim hstarted hfree =>
      exact h.start ⟨fresh, [], []⟩ rfl rfl (List.Subset.refl _) rfl rfl (hnothing fresh)
        reclaim_accounts
  | @job index env job op resume hjob hprogram hallowed =>
      obtain ⟨held, hheld, haccounts⟩ := h.jobs job (List.mem_of_getElem? hjob)
      rw [hprogram] at haccounts
      obtain ⟨hneeds, hresume⟩ := accounts_resume env h.kept.wellFormed haccounts
      exact h.perform_job hheld hallowed hneeds hresume

theorem accounted_installed : (installed codecs).Accounted [] where
  kept := ⟨List.forall_mem_nil _, fun _ hid => (by cases hid), List.nodup_nil,
    List.forall_mem_nil _⟩
  loop := ⟨⟨[], [], []⟩, rfl, ⟨List.forall_mem_nil _, List.forall_mem_nil _⟩, startup_accounts⟩
  jobs := List.forall_mem_nil _
  spawned _ _ hspawned := by cases hspawned

/-- In every reachable state, all programs hold what they take their holdings for. -/
theorem exists_accounted (h : (system codecs).Reachable source) :
    ∃ fresh, source.Accounted fresh := by
  refine TransitionSystem.Reachable.invariant (system codecs)
    (I := fun machine => ∃ fresh, Accounted fresh machine) ?_ ?_ h
  · rintro _ rfl
    exact ⟨[], accounted_installed⟩
  · rintro source label target hstep ⟨fresh, hsource⟩
    obtain ⟨later, htarget, -⟩ := hsource.step hstep
    exact ⟨later, htarget⟩

/-- A step of anyone but the loop leaves the rows alone that nobody has claimed. -/
theorem Accounted.unmarked_of_step {label : MachineLabel} (h : source.Accounted fresh)
    (hstep : Machine.step codecs source label = some target) (hother : ∀ env, label ≠ .loop env) :
    VpnSession.unmarked target.world.vpnSession = VpnSession.unmarked source.world.vpnSession := by
  cases steps_of_step hstep with
  | loop => exact absurd rfl (hother _)
  | restart | post | ready | take | start | serve | reclaim => rfl
  | @job index env job op resume hjob hprogram hallowed =>
      obtain ⟨held, hheld, haccounts⟩ := h.jobs job (List.mem_of_getElem? hjob)
      rw [hprogram] at haccounts
      obtain ⟨hneeds, -⟩ := accounts_resume env h.kept.wellFormed haccounts
      rw [settle_world]
      exact unmarked_answer hheld.spent hneeds

end Machine

end Modvpn
