/-
# Which sessions the daemon still remembers

A session is owed from the moment its acceptance is recorded until an event that
closes it. Which events do is a parameter: `saysOver` lists what the server says
when a session is over, and `closes` adds the one case in which the reclaimer
stops asking. The row of a session that is owed in this second sense is in the
table in every reachable state.

Each role relies on little. The loop is the only one that records acceptances;
for all others, a session that is not owed any more stays that way.
-/

import Mathlib.Data.List.Induction
import Modvpn.Analysis.Daemon.Footprints
import Modvpn.Analysis.Daemon.Governing
import Modvpn.Analysis.Daemon.Rows

namespace Modvpn

open Modvpn.Protocol
open Entity (VpnSession)

/-! ## Sessions that are owed -/

namespace Happened

/-- The server says that the session is over, or that it does not know it. -/
def saysOver (requestId : Uuid) : Happened → Bool
  | .received (.failed failed) => failed.requestId = requestId
  | .received (.ended ended) => ended.requestId = requestId
  | .endReply _ id (.ok _) => id = requestId
  | .endReply _ id (.error (.server status)) =>
      id = requestId && (status.code = .notFound || status.code = .unauthenticated)
  | _ => false

/-- The reclaimer's call came back with a status, whatever it was. -/
def closes (requestId : Uuid) : Happened → Bool
  | .endReply .reclaimer id (.error (.server _)) => id = requestId
  | happened => happened.saysOver requestId

/-- Whether a session is owed after one more event. -/
def owedAfter (closes : Uuid → Happened → Bool) (requestId : Uuid) (owed : Bool) :
    Happened → Bool
  | .accepted id => owed || id = requestId
  | happened => owed && !closes requestId happened

/-- The session was accepted, and nothing has closed it since. -/
def owed (closes : Uuid → Happened → Bool) (requestId : Uuid) (history : List Happened) : Bool :=
  history.foldl (owedAfter closes requestId) false

variable {closes : Uuid → Happened → Bool} {requestId : Uuid} {history : List Happened}
  {happened : Happened}

theorem owed_append :
    owed closes requestId (history ++ [happened]) =
      owedAfter closes requestId (owed closes requestId history) happened := by
  simp [owed]

/-- Only an acceptance makes a session owed. -/
theorem owed_of_append (hother : happened ≠ .accepted requestId)
    (h : owed closes requestId (history ++ [happened]) = true) :
    owed closes requestId history = true := by
  rw [owed_append] at h
  cases happened with
  | accepted id =>
      have hid : id ≠ requestId := fun hid => hother (congrArg _ hid)
      simpa [owedAfter, hid] using h
  | received status | endReply caller id reply =>
      simp only [owedAfter, Bool.and_eq_true] at h
      exact h.1

theorem owed_of_append_all {more : List Happened}
    (hother : ∀ happened ∈ more, happened ≠ .accepted requestId)
    (h : owed closes requestId (history ++ more) = true) : owed closes requestId history = true := by
  induction more using List.reverseRecOn with
  | nil => simpa using h
  | append_singleton more happened ih =>
      rw [← List.append_assoc] at h
      exact ih (fun other hmem => hother other (List.mem_append_left _ hmem))
        (owed_of_append (hother happened (by simp)) h)

theorem accepted_mem_of_owed (h : owed closes requestId history = true) :
    .accepted requestId ∈ history := by
  by_contra hmem
  have hnil : owed closes requestId [] = true :=
    owed_of_append_all (fun happened hhappened hid => hmem (hid ▸ hhappened)) h
  cases hnil

end Happened

/-! ## Rows -/

namespace Entity.VpnSession

variable {rows : List VpnSession} {requestId : String}

theorem hasId_updateById {id : String} {set : VpnSession → VpnSession}
    (hset : ∀ row : VpnSession, (set row).requestId = row.requestId)
    (h : hasId requestId rows = true) : hasId requestId (updateById id set rows) = true := by
  rw [hasId_iff] at h ⊢
  rwa [requestIds_updateById hset]

theorem hasId_deleteById {id : String} (h : hasId requestId rows = true) (hid : requestId ≠ id) :
    hasId requestId (deleteById id rows) = true := by
  simp only [hasId, List.any_eq_true, decide_eq_true_eq, deleteById, List.mem_filter] at h ⊢
  obtain ⟨row, hrow, rfl⟩ := h
  exact ⟨row, ⟨hrow, by simpa using hid⟩, rfl⟩

end Entity.VpnSession

namespace World

variable {op : Op} {env : Env} {world : World}

/-- Only deleting a row takes its request id from the table. -/
theorem answer_hasId {requestId : String}
    (h : VpnSession.hasId requestId world.vpnSession = true)
    (hdelete : ∀ id, op = .deleteVpnSession id → requestId ≠ id) :
    VpnSession.hasId requestId (answer op env world).2.vpnSession = true := by
  let P (next : World) : Prop := VpnSession.hasId requestId next.vpnSession = true
  cases hop : op.writesSessions with
  | false => rwa [answer_vpnSession hop]
  | true =>
      cases op with
      | insertVpnSession id location =>
          refine checked_ensures (P := P) h fun _ _ hnext => ?_
          split at hnext <;> cases hnext
          simp only [P, VpnSession.hasId, List.any_append, Bool.or_eq_true] at h ⊢
          exact .inl h
      | markForDeletion id | setAccepted id _ =>
          exact statement_ensures (P := P) h (VpnSession.hasId_updateById (fun _ => rfl) h)
      | markAllForDeletion =>
          refine statement_ensures (P := P) h ?_
          simpa [P, VpnSession.hasId_iff] using VpnSession.hasId_iff.mp h
      | updateVpnSession id set =>
          refine checked_ensures (P := P) h fun _ _ hnext => ?_
          split at hnext <;> cases hnext
          exact VpnSession.hasId_updateById (fun _ => rfl) h
      | deleteVpnSession id =>
          exact statement_ensures (P := P) h (VpnSession.hasId_deleteById h (hdelete id rfl))
      | _ => cases hop

/-- A row has its session uuid from before, or from the operation that logs it. -/
theorem sessionUuid_of_answer {row : VpnSession}
    (hrow : row ∈ (answer op env world).2.vpnSession) (huuid : row.sessionUuid ≠ none) :
    (∃ same ∈ world.vpnSession, same.requestId = row.requestId ∧ same.sessionUuid ≠ none) ∨
      ∃ requestId, row.requestId = requestId.toText ∧
        .accepted requestId ∈ (answer op env world).2.history := by
  have hsame : ∀ {same : VpnSession}, same ∈ world.vpnSession → same.requestId = row.requestId →
      same.sessionUuid = row.sessionUuid → (∃ same ∈ world.vpnSession,
        same.requestId = row.requestId ∧ same.sessionUuid ≠ none) ∨
      ∃ requestId, row.requestId = requestId.toText ∧
        .accepted requestId ∈ (answer op env world).2.history :=
    fun hmem hid heq => .inl ⟨_, hmem, hid, heq ▸ huuid⟩
  cases hop : op.writesSessions with
  | false => exact hsame (answer_vpnSession hop ▸ hrow) rfl rfl
  | true =>
      cases op with
      | insertVpnSession id location =>
          revert hrow
          refine checked_ensures (P := fun next => row ∈ next.vpnSession → _)
            (fun hrow => hsame hrow rfl rfl) fun _ _ hnext hrow => ?_
          split at hnext <;> cases hnext
          rcases List.mem_append.mp hrow with hrow | hrow
          · exact hsame hrow rfl rfl
          · cases List.mem_singleton.mp hrow
            exact absurd rfl huuid
      | deleteVpnSession id =>
          revert hrow
          exact statement_ensures (P := fun next => row ∈ next.vpnSession → _)
            (fun hrow => hsame hrow rfl rfl) fun hrow => hsame (List.mem_of_mem_filter hrow) rfl rfl
      | markAllForDeletion =>
          revert hrow
          refine statement_ensures (P := fun next => row ∈ next.vpnSession → _)
            (fun hrow => hsame hrow rfl rfl) fun hrow => ?_
          obtain ⟨same, hmem, rfl⟩ := List.mem_map.mp hrow
          exact hsame hmem rfl rfl
      | markForDeletion id =>
          revert hrow
          refine statement_ensures (P := fun next => row ∈ next.vpnSession → _)
            (fun hrow => hsame hrow rfl rfl) fun hrow => ?_
          obtain ⟨same, hmem, rfl⟩ := List.mem_map.mp hrow
          refine hsame hmem ?_ ?_ <;> split <;> rfl
      | updateVpnSession id set =>
          revert hrow
          refine checked_ensures (P := fun next => row ∈ next.vpnSession → _)
            (fun hrow => hsame hrow rfl rfl) fun _ _ hnext hrow => ?_
          split at hnext <;> cases hnext
          obtain ⟨same, hmem, rfl⟩ := List.mem_map.mp hrow
          refine hsame hmem ?_ ?_ <;> split <;> rfl
      | setAccepted id vpnSessionUuid =>
          cases hdb : env.dbErr with
          | some error =>
              simp only [answer, statement, hdb] at hrow
              exact hsame hrow rfl rfl
          | none =>
              simp only [answer, statement, hdb] at hrow
              obtain ⟨same, hmem, rfl⟩ := List.mem_map.mp hrow
              by_cases hid : same.requestId = id.toText
              · refine .inr ⟨id, by simp [hid], ?_⟩
                simp [answer, statement, hdb, ← hid, VpnSession.hasId_of_mem hmem]
              · exact hsame hmem (by simp [hid]) (by simp [hid])
      | _ => cases hop

end World

theorem VpnSessionStorage.parseStr_of_reclaimable {row : VpnSession} {info : SessionInfo}
    (h : reclaimable row = some info) :
    row.sessionUuid ≠ none ∧ Uuid.parseStr row.requestId = some info.requestId := by
  simp only [reclaimable, Option.bind_eq_bind, Option.bind_eq_some_iff, Option.pure_def] at h
  obtain ⟨vpnSessionId, ⟨text, htext, -⟩, requestId, hid, hinfo⟩ := h
  cases hinfo
  exact ⟨by simp [htext], hid⟩

/-- Operations for which no role owes anything. -/
def Op.isFree : Op → Bool
  | .newUuid | .setAccepted _ _ | .deleteVpnSession _ => false
  | .spawn (.endSession _ _) => false
  | _ => true

namespace Machine

/-- The acceptance of the session was recorded. -/
def Shared.Accepted (shared : Shared) (requestId : Uuid) : Prop :=
  .accepted requestId ∈ shared.world.history

/-- The session is owed. -/
def Shared.Owed (shared : Shared) (requestId : Uuid) : Prop :=
  Happened.owed Happened.closes requestId shared.world.history = true

/-- Rows, log, and spawned tasks agree on which sessions there are. -/
structure Recorded (shared : Shared) : Prop where
  kept : ∀ requestId, shared.Owed requestId →
    VpnSession.hasId requestId.toText shared.world.vpnSession = true
  rows : ∀ row ∈ shared.world.vpnSession, row.sessionUuid ≠ none →
    ∃ requestId, row.requestId = requestId.toText ∧ shared.Accepted requestId
  issued : ∀ requestId, shared.Accepted requestId → requestId ∈ shared.issued
  spawned : ∀ sessionInfo endReason,
    .endSession (some sessionInfo) endReason ∈ shared.world.spawned →
      shared.Accepted sessionInfo.requestId

/-- What a role relies on. -/
def Trusts : Role → Shared → Shared → Prop
  | .loop, shared, moved => moved.issued = shared.issued ∧
      (∀ requestId, moved.Accepted requestId ↔ shared.Accepted requestId) ∧
      ∀ requestId, moved.Owed requestId → shared.Owed requestId
  | _, shared, moved => ∀ requestId, shared.Accepted requestId →
      moved.Accepted requestId ∧ (moved.Owed requestId → shared.Owed requestId)

/-- What a role owes for an operation. -/
def Owes (role : Role) (shared : Shared) : Op → Prop
  | .newUuid => role = .loop
  | .setAccepted requestId _ =>
      role = .loop ∧ ¬ shared.Accepted requestId ∧ requestId ∈ shared.issued
  | .deleteVpnSession text => ∀ requestId, requestId.toText = text → ¬ shared.Owed requestId
  | .spawn (.endSession (some sessionInfo) _) => shared.Accepted sessionInfo.requestId
  | _ => True

variable {shared moved : Shared} {role : Role} {op : Op} {env : Env}

theorem Trusts.refl (role : Role) (shared : Shared) : Trusts role shared shared := by
  cases role <;> simp [Trusts]

theorem Trusts.trans {later : Shared} (hfirst : Trusts role shared moved)
    (hsecond : Trusts role moved later) : Trusts role shared later := by
  cases role with
  | loop =>
      obtain ⟨hissued, haccepted, howed⟩ := hfirst
      obtain ⟨hissued', haccepted', howed'⟩ := hsecond
      exact ⟨hissued'.trans hissued, fun id => (haccepted' id).trans (haccepted id),
        fun id h => howed id (howed' id h)⟩
  | task _ | service _ | reclaimer =>
      intro id h
      obtain ⟨haccepted, howed⟩ := hfirst id h
      obtain ⟨haccepted', howed'⟩ := hsecond id haccepted
      exact ⟨haccepted', fun h => howed (howed' h)⟩

/-- More log without an acceptance. -/
theorem trusts_of_history {more : List Happened} (hissued : moved.issued = shared.issued)
    (hhistory : moved.world.history = shared.world.history ++ more)
    (hmore : ∀ requestId, .accepted requestId ∉ more) (role : Role) :
    Trusts role shared moved := by
  have haccepted : ∀ id, moved.Accepted id ↔ shared.Accepted id := by
    simp [Shared.Accepted, hhistory, hmore]
  have howed : ∀ id, moved.Owed id → shared.Owed id := by
    intro id h
    rw [Shared.Owed, hhistory] at h
    exact Happened.owed_of_append_all (fun happened hmem hid => hmore id (hid ▸ hmem)) h
  cases role with
  | loop => exact ⟨hissued, haccepted, howed⟩
  | task _ | service _ | reclaimer => exact fun id h => ⟨(haccepted id).mpr h, howed id⟩

theorem trusts_of_settles (h : Settles shared moved) (role : Role) : Trusts role shared moved := by
  obtain ⟨hissued, -, -, spawned, commands, received, hworld, -, hreceived⟩ := h
  refine trusts_of_history hissued (by rw [hworld]) (fun id hmem => ?_) role
  obtain ⟨status, hstatus⟩ := hreceived _ hmem
  cases hstatus

theorem trusts_ready (role : Role) : Trusts role shared shared.ready := by
  cases role with
  | loop => exact ⟨rfl, fun _ => Iff.rfl, fun _ => id⟩
  | task _ | service _ | reclaimer => exact fun _ h => ⟨h, id⟩

/-- An operation that keeps its duty is one that the other roles rely on. -/
theorem trusts_answer (howes : Owes role shared op) {other : Role} (hbeside : role.Beside other) :
    Trusts other shared (Shared.semantics.answer op env shared).2 := by
  obtain ⟨more, hhistory, hmore⟩ := World.exists_history_answer op env shared.world
  by_cases hloop : role = .loop
  · subst hloop
    have haccepted : ∀ id, shared.Accepted id → .accepted id ∉ more := by
      intro id hid hmem
      obtain ⟨vpnSessionUuid, rfl, -⟩ := hmore id hmem
      exact howes.2.1 hid
    cases other with
    | loop => simp [Role.Beside, Role.isLoop] at hbeside
    | task _ | service _ | reclaimer =>
        refine fun id hid => ⟨?_, fun howed => ?_⟩
        · simpa [Shared.Accepted, hhistory] using .inl hid
        · rw [Shared.Owed, hhistory] at howed
          exact Happened.owed_of_append_all
            (fun happened hmem heq => haccepted id hid (heq ▸ hmem)) howed
  · refine trusts_of_history ?_ hhistory (fun id hmem => ?_) other
    · cases op <;> first | rfl | exact absurd howes hloop
    · obtain ⟨vpnSessionUuid, rfl, -⟩ := hmore id hmem
      exact hloop howes.1

theorem mem_issuedAfter {issued : List Uuid} {id : Uuid} (h : id ∈ issued) :
    id ∈ issuedAfter issued env op := by
  cases op <;> first | exact h | exact List.mem_cons_of_mem _ h

theorem accepted_answer {requestId : Uuid} (h : shared.Accepted requestId) :
    (Shared.semantics.answer op env shared).2.Accepted requestId := by
  obtain ⟨more, hhistory, -⟩ := World.exists_history_answer op env shared.world
  simpa [Shared.Accepted, hhistory] using .inl h

theorem Recorded.answer (h : Recorded shared) (howes : Owes role shared op) :
    Recorded (Shared.semantics.answer op env shared).2 := by
  obtain ⟨more, hhistory, hmore⟩ := World.exists_history_answer op env shared.world
  refine ⟨fun id howed => ?_, fun row hrow huuid => ?_, fun id hid => ?_, ?_⟩
  · by_cases hnew : .accepted id ∈ more
    · obtain ⟨vpnSessionUuid, rfl, hid⟩ := hmore id hnew
      exact World.answer_hasId hid nofun
    · rw [Shared.Owed, hhistory] at howed
      have hbefore : shared.Owed id :=
        Happened.owed_of_append_all (fun happened hmem heq => hnew (heq ▸ hmem)) howed
      refine World.answer_hasId (h.kept id hbefore) ?_
      rintro text rfl hid
      exact howes id hid hbefore
  · rcases World.sessionUuid_of_answer hrow huuid with ⟨same, hmem, hid, hsame⟩ | hnew
    · obtain ⟨id, hid', hsession⟩ := h.rows same hmem hsame
      exact ⟨id, hid ▸ hid', accepted_answer hsession⟩
    · exact hnew
  · rw [Shared.Accepted, hhistory, List.mem_append] at hid
    rcases hid with hid | hid
    · exact mem_issuedAfter (h.issued id hid)
    · obtain ⟨vpnSessionUuid, rfl, -⟩ := hmore id hid
      exact howes.2.2
  · intro sessionInfo endReason hmem
    rw [World.answer_spawned, List.mem_append] at hmem
    rcases hmem with hmem | hmem
    · exact accepted_answer (h.spawned sessionInfo endReason hmem)
    · cases op <;> simp only [Op.spawns, List.not_mem_nil, List.mem_singleton] at hmem
      subst hmem
      exact accepted_answer howes

theorem Recorded.settles (hsettles : Settles shared moved) (h : Recorded shared) :
    Recorded moved := by
  have htrusts := trusts_of_settles hsettles .loop
  obtain ⟨hissued, haccepted, howed⟩ := htrusts
  obtain ⟨-, -, -, spawned, commands, received, hworld, hspawned, -⟩ := hsettles
  have hrows : moved.world.vpnSession = shared.world.vpnSession := by rw [hworld]
  refine ⟨fun id hid => ?_, fun row hrow huuid => ?_, fun id hid => ?_, ?_⟩
  · rw [hrows]
    exact h.kept id (howed id hid)
  · obtain ⟨id, hid, hsession⟩ := h.rows row (hrows ▸ hrow) huuid
    exact ⟨id, hid, (haccepted id).mpr hsession⟩
  · rw [hissued]
    exact h.issued id ((haccepted id).mp hid)
  · intro sessionInfo endReason hmem
    rw [hworld] at hmem
    exact (haccepted _).mpr (h.spawned sessionInfo endReason (hspawned hmem))

/-- The terms under which no session is forgotten. -/
def retention : Discipline Shared.semantics Role where
  contract role :=
    { rely := Trusts role
      admits := fun op env shared => Recorded shared ∧ allowed shared.issued env op = true
      duty := fun op _ shared => Owes role shared op
      rely_refl := Trusts.refl role
      rely_trans := .trans }
  post _ _ := True
  beside := Role.Beside
  beside_symm := .symm
  invariant := Recorded
  settles := Settles
  rely_of_settles role := fun h => trusts_of_settles h role
  invariant_of_settles := Recorded.settles
  perform h _ howes := ⟨h.answer howes, fun _ => trusts_answer howes⟩

/-! ## The programs keep the terms -/

variable {codecs : Codecs}

/-- The program keeps the terms of the role. -/
abbrev Retains {α : Type} (role : Role) (program : Async α) (post : α → Shared → Prop)
    (shared : Shared) : Prop :=
  program.Ensures Shared.semantics (retention.contract role) post shared

theorem owes_of_isFree (h : op.isFree = true) : Owes role shared op := by
  cases op with
  | spawn task => cases task <;> trivial
  | _ => trivial

theorem accepted_of_rely (hrely : (retention.contract role).rely shared moved)
    {requestId : Uuid} (h : shared.Accepted requestId) : moved.Accepted requestId := by
  cases role with
  | loop => exact (hrely.2.1 requestId).mpr h
  | task _ | service _ | reclaimer => exact (hrely requestId h).1

theorem trusts_of_isFree (h : op.isFree = true) :
    (retention.contract role).rely shared (Shared.semantics.answer op env shared).2 := by
  obtain ⟨more, hhistory, hmore⟩ := World.exists_history_answer op env shared.world
  refine trusts_of_history ?_ hhistory (fun id hmem => ?_) role
  · cases op <;> first | rfl | cases h
  · obtain ⟨vpnSessionUuid, rfl, -⟩ := hmore id hmem
    cases h

theorem retains_of_within {α : Type} {program : Async α} (h : Within Op.isFree program) :
    Retains role program (fun _ => (retention.contract role).rely shared) shared :=
  h.ensures (I := (retention.contract role).rely shared)
    (fun _ _ _ hfree _ => owes_of_isFree hfree)
    (fun hrely hmoved => (retention.contract role).rely_trans hmoved hrely)
    (fun hfree _ hmoved => (retention.contract role).rely_trans hmoved (trusts_of_isFree hfree))
    ((retention.contract role).rely_refl shared)

/-- What keeps no promise is kept all the same. -/
theorem retains_free {α : Type} {program : Async α} (h : Within Op.isFree program) :
    Retains role program (fun _ _ => True) shared :=
  (retains_of_within h).mono fun _ _ _ => trivial

/-- The loop's programs that end no session on their own. -/
theorem startup_retains : Retains .loop (startup codecs) (fun _ _ => True) shared := by
  refine retains_free ((startup_within codecs).mono fun op => ?_)
  cases op <;> simp [Op.inStartup, Op.isFree]

theorem service_retains (command : DeviceCommand) :
    Retains (.service command) (DeviceService.handleMessage codecs command)
      (fun _ _ => True) shared := by
  refine retains_free ?_
  cases command with
  | signIn userCreds =>
      refine .bind ((DeviceService.handleSignInInner_within codecs userCreds).mono fun op => ?_)
        fun _ => within_perform rfl
      cases op <;> simp [Op.inSignIn, Op.inDeviceSetup, Op.isFree]
  | signOut =>
      refine .bind ((DeviceService.handleSignOutInner_within codecs).mono fun op => ?_)
        fun _ => within_perform rfl
      cases op <;> simp [Op.inSignOut, Op.isFree]

/-! ### Ending sessions -/

/-- After a reply that closes it, a session is not owed, and stays that way. -/
theorem endSession_retains (hrole : role.isLoop = false) {caller : EndCaller} {request : EndSession}
    (haccepted : shared.Accepted request.requestId) :
    Retains role (perform (.endSession caller request)) (fun reply moved =>
      (∀ id, shared.Accepted id → moved.Accepted id) ∧
        ((Happened.endReply caller request.requestId reply).closes request.requestId = true →
          ∀ later, (retention.contract role).rely moved later →
            ¬ later.Owed request.requestId)) shared := by
  intro moved choice hrely _
  have hstays : ∀ id, shared.Accepted id → (Shared.semantics.answer
      (.endSession caller request) choice moved).2.Accepted id :=
    fun id hid => accepted_answer (accepted_of_rely hrely hid)
  refine ⟨trivial, fun later hlater => ⟨fun id hid => accepted_of_rely hlater (hstays id hid), ?_⟩⟩
  intro hcloses final hfinal howed
  have hclosed : ¬ (Shared.semantics.answer (.endSession caller request) choice moved).2.Owed
      request.requestId := by
    simpa [Shared.Owed, World.answer, Happened.owed_append, Happened.owedAfter] using
      fun _ => hcloses
  have htrusts := Trusts.trans hlater hfinal
  cases role with
  | loop => cases hrole
  | task _ | service _ | reclaimer => exact hclosed ((htrusts _ (hstays _ haccepted)).2 howed)

/-- Whoever deletes the row of a session relies on its not being owed. -/
theorem deleteVpnSession_retains {text : String} {requestId : Uuid}
    (htext : text = requestId.toText)
    (h : ∀ later, (retention.contract role).rely shared later → ¬ later.Owed requestId) :
    Retains role (perform (.deleteVpnSession text))
      (fun _ moved => ∀ id, shared.Accepted id → moved.Accepted id) shared := by
  intro moved choice hrely _
  refine ⟨fun id hid => ?_, fun later hlater id hid => ?_⟩
  · rw [Uuid.toText_injective (hid.trans htext)]
    exact h moved hrely
  · exact accepted_of_rely hlater (accepted_answer (accepted_of_rely hrely hid))

theorem delete_retains {requestId : Uuid}
    (h : ∀ later, (retention.contract role).rely shared later → ¬ later.Owed requestId) :
    Retains role (VpnSessionStorage.delete requestId).run
      (fun _ moved => ∀ id, shared.Accepted id → moved.Accepted id) shared :=
  deleteVpnSession_retains rfl h

theorem task_retains {task : Task} (hrecorded : Recorded shared)
    (hspawned : task ∈ shared.world.spawned) :
    Retains (.task task) task.program (fun _ _ => True) shared := by
  cases task with
  | addRecent location =>
      refine retains_free ((Task.addRecent_within location).mono fun op => ?_)
      cases op <;> simp [Op.inTask, Op.isFree]
  | clientConnected sessionInfo =>
      refine retains_free ((Task.clientConnected_within sessionInfo).mono fun op => ?_)
      cases op <;> simp [Op.inTask, Op.isFree]
  | signIn userCreds | signOut => exact retains_free (within_perform rfl)
  | endSession sessionInfo endReason =>
      cases sessionInfo with
      | none => exact fun _ _ => trivial
      | some sessionInfo =>
          refine .bind ((retains_of_within (DeviceStorage.getDeviceUniqueId_within rfl)).mono
            fun result moved hmoved => ?_)
          have haccepted := accepted_of_rely hmoved
            (hrecorded.spawned sessionInfo endReason hspawned)
          cases result with
          | error error => exact fun _ _ => trivial
          | ok deviceUniqueId =>
              refine .bind ((endSession_retains rfl haccepted).mono fun reply later hlater => ?_)
              cases reply with
              | error error => exact fun _ _ => trivial
              | ok ended =>
                  have hclosed := hlater.2 (by simp [Happened.closes, Happened.saysOver])
                  exact .bind ((delete_retains hclosed).mono fun _ _ _ _ _ => trivial)

theorem reclaimSession_retains (deviceUniqueId : Uuid) {session : SessionInfo}
    (haccepted : shared.Accepted session.requestId) :
    Retains .reclaimer (Reclaimer.reclaimSession deviceUniqueId session)
      (fun _ moved => ∀ id, shared.Accepted id → moved.Accepted id) shared := by
  refine .bind ((endSession_retains rfl haccepted).mono fun reply moved hmoved => ?_)
  have hkept : Retains .reclaimer (.pure ()) (fun _ later => ∀ id, shared.Accepted id →
      later.Accepted id) moved :=
    fun later hlater id hid => accepted_of_rely hlater (hmoved.1 id hid)
  have hdeleted (hclosed : (Happened.endReply .reclaimer session.requestId reply).closes
      session.requestId = true) : Retains .reclaimer (do
        let _ ← (VpnSessionStorage.delete session.requestId).run
        return ()) (fun _ later => ∀ id, shared.Accepted id → later.Accepted id) moved :=
    .bind ((delete_retains (hmoved.2 hclosed)).mono fun _ _ hlater _ hfinal id hid =>
      accepted_of_rely hfinal (hlater id (hmoved.1 id hid)))
  cases reply with
  | ok ended => exact hdeleted (by simp [Happened.closes, Happened.saysOver])
  | error error =>
      cases error with
      | server status => exact hdeleted (by simp [Happened.closes])
      | vpnSessionServiceDown | connection _ => exact hkept

theorem reclaimSessions_retains (deviceUniqueId : Uuid) {sessions : List SessionInfo}
    (haccepted : ∀ session ∈ sessions, shared.Accepted session.requestId) :
    Retains .reclaimer (Reclaimer.reclaimSessions deviceUniqueId sessions)
      (fun _ _ => True) shared := by
  induction sessions generalizing shared with
  | nil => exact fun _ _ => trivial
  | cons session rest ih =>
      obtain ⟨hsession, hrest⟩ := List.forall_mem_cons.mp haccepted
      refine .bind ((reclaimSession_retains deviceUniqueId hsession).mono fun _ moved hmoved => ?_)
      exact ih fun other hother => hmoved _ (hrest other hother)

/-- A row that names a session is that of an accepted one. -/
theorem accepted_of_sessionUuid (h : Recorded shared) {row : VpnSession}
    (hrow : row ∈ shared.world.vpnSession) (huuid : row.sessionUuid ≠ none) {id : Uuid}
    (hid : Uuid.parseStr row.requestId = some id) : shared.Accepted id := by
  obtain ⟨requestId, hrequestId, haccepted⟩ := h.rows row hrow huuid
  rw [hrequestId, Uuid.parseStr_toText] at hid
  cases hid
  exact haccepted

theorem toReclaim_retains :
    Retains .reclaimer VpnSessionStorage.toReclaim.run (fun result moved =>
      ∀ sessions ∈ result.toOption, ∀ session ∈ sessions,
        moved.Accepted session.requestId) shared := by
  intro moved choice _ hadmits
  refine ⟨trivial, ?_⟩
  cases hdb : choice.dbErr with
  | some error =>
      simp only [World.answer, World.statement, hdb]
      intro later _ sessions hsessions
      cases hsessions
  | none =>
      simp only [World.answer, World.statement, hdb]
      rintro later hlater _ ⟨⟩ session hsession
      obtain ⟨row, hrow, hinfo⟩ := List.mem_filterMap.mp hsession
      obtain ⟨huuid, hid⟩ := VpnSessionStorage.parseStr_of_reclaimable hinfo
      exact accepted_of_rely hlater
        (accepted_of_sessionUuid hadmits.1 (List.mem_of_mem_filter hrow) huuid hid)

theorem reclaim_retains :
    Retains .reclaimer (Reclaimer.reclaim codecs) (fun _ _ => True) shared := by
  refine .bind (toReclaim_retains.mono fun result moved hmoved => ?_)
  cases result with
  | error error => exact fun _ _ => trivial
  | ok sessions =>
      refine .bind ((retains_of_within (DeviceStorage.getDevice_within codecs rfl)).mono
        fun device later hlater => ?_)
      split
      · exact reclaimSessions_retains _ fun session hsession =>
          accepted_of_rely hlater (hmoved sessions rfl session hsession)
      · exact fun _ _ => trivial

/-! ### The loop -/

theorem Op.isFree_of_inMemory (h : op.inMemory = true) : op.isFree = true := by
  cases op <;> first | rfl | cases h

/-- The request id was generated, and no acceptance of it is recorded. -/
def Shared.Fresh (shared : Shared) (requestId : Uuid) : Prop :=
  requestId ∈ shared.issued ∧ ¬ shared.Accepted requestId

theorem fresh_of_rely (hrely : (retention.contract .loop).rely shared moved) {requestId : Uuid}
    (h : shared.Fresh requestId) : moved.Fresh requestId :=
  ⟨hrely.1 ▸ h.1, fun haccepted => h.2 ((hrely.2.1 requestId).mp haccepted)⟩

theorem not_owed_of_rely (hrely : (retention.contract .loop).rely shared moved)
    {requestId : Uuid} (h : ¬ shared.Owed requestId) : ¬ moved.Owed requestId :=
  fun howed => h (hrely.2.2 requestId howed)

theorem newSession_retains (location : Location) :
    Retains .loop (VpnSessionStorage.newSession location).run
      (fun result moved => ∀ id ∈ result.toOption, moved.Fresh id) shared := by
  refine .liftBind ?_
  intro moved choice _ hadmits
  refine ⟨rfl, fun later hlater => ?_⟩
  have hnew : choice.uuid ∉ moved.issued := by simpa [allowed] using hadmits.2
  have hfresh : later.Fresh choice.uuid := fresh_of_rely hlater
    ⟨List.mem_cons_self .., fun haccepted => hnew (hadmits.1.issued _ haccepted)⟩
  refine .exceptBind ((retains_of_within (within_perform rfl)).mono fun result final hfinal => ?_)
  cases result with
  | error error => exact fun _ _ => nofun
  | ok _ =>
      rintro last hlast _ ⟨⟩
      exact fresh_of_rely hlast (fresh_of_rely hfinal hfresh)

/-- The reply is about the requested session. -/
theorem awaitNewSession_retains (request : NewSession) :
    Retains .loop (perform (.awaitNewSession request)) (fun result moved =>
      (retention.contract .loop).rely shared moved ∧
        ∀ accepted ∈ result.toOption, accepted.requestId = request.requestId) shared := by
  intro moved choice hrely hadmits
  refine ⟨trivial, fun later hlater => ⟨?_, ?_⟩⟩
  · exact (retention.contract .loop).rely_trans ((retention.contract .loop).rely_trans hrely
      (trusts_of_isFree rfl)) hlater
  · have hreply : choice.newSession.toOption.all (·.requestId = request.requestId) = true :=
      hadmits.2
    cases hnew : choice.newSession with
    | error error => simp [World.answer, hnew, Except.toOption]
    | ok accepted => simpa [World.answer, hnew, Except.toOption] using hreply

theorem updateOnAccepted_retains {accepted : Accepted} (hfresh : shared.Fresh accepted.requestId) :
    Retains .loop (VpnSessionStorage.updateOnAccepted accepted).run (fun _ _ => True) shared := by
  intro moved choice hrely _
  have hmoved := fresh_of_rely hrely hfresh
  exact ⟨⟨rfl, hmoved.2, hmoved.1⟩, fun _ _ => trivial⟩

theorem onConnectInner_retains (location : Location) :
    Retains .loop (Daemon.onConnectInner location).run (fun _ _ => True) shared := by
  refine .liftBind ((retains_free (within_perform rfl)).mono fun state moved _ => ?_)
  split
  · exact fun _ _ => trivial
  refine .exceptBind (.adapt ((newSession_retains location).mono fun result moved hmoved => ?_))
  cases result with
  | error error => exact fun _ _ => trivial
  | ok requestId =>
      have hfresh := hmoved requestId rfl
      refine .exceptBind (.adapt ((retains_of_within
        (DeviceStorage.getDeviceUniqueId_within rfl)).mono fun result moved hmoved => ?_))
      cases result with
      | error error => exact fun _ _ => trivial
      | ok deviceUniqueId =>
          have hfresh := fresh_of_rely hmoved hfresh
          refine .liftBind ((retains_of_within (within_perform rfl)).mono
            fun _ moved hmoved => ?_)
          have hfresh := fresh_of_rely hmoved hfresh
          refine .liftBind ((awaitNewSession_retains _).mono fun result moved hmoved => ?_)
          have hfresh := fresh_of_rely hmoved.1 hfresh
          cases result with
          | ok accepted =>
              have hid : accepted.requestId = requestId := hmoved.2 accepted rfl
              refine .exceptBind (.adapt ((updateOnAccepted_retains (hid ▸ hfresh)).mono
                fun result _ _ => ?_))
              cases result with
              | error error => exact fun _ _ => trivial
              | ok _ =>
                  refine retains_free (.exceptBind (.lift ?_) fun _ => trivial)
                  exact (Daemon.modifyState_within _).mono fun _ => Op.isFree_of_inMemory
          | error error =>
              refine .exceptBind (.adapt ((delete_retains fun later hlater howed => ?_).mono
                fun result _ _ => ?_))
              · exact (fresh_of_rely hlater hfresh).2 (Happened.accepted_mem_of_owed howed)
              · cases result with
                | error error => exact fun _ _ => trivial
                | ok _ =>
                    refine retains_free (.exceptBind (.lift (within_perform rfl)) fun _ => ?_)
                    refine .exceptBind (.lift (within_perform rfl)) fun _ => ?_
                    refine .exceptBind (.lift (within_perform rfl)) fun _ => ?_
                    refine .exceptBind (.lift ?_) fun _ => trivial
                    exact (Daemon.addNotification_within _).mono fun _ => Op.isFree_of_inMemory

/-- The session that is ended was accepted. -/
theorem storageEndSession_retains :
    Retains .loop VpnSessionStorage.endSession.run (fun result moved =>
      ∀ sessionInfo, result = .ok (some sessionInfo) → moved.Accepted sessionInfo.requestId)
      shared := by
  refine .exceptBind ?_
  intro moved choice _ hadmits
  refine ⟨trivial, ?_⟩
  cases hdb : choice.dbErr with
  | some error =>
      simp only [World.answer, World.statement, hdb]
      exact fun _ _ _ _ => by simp
  | none =>
      simp only [World.answer, World.statement, hdb]
      intro later hlater
      cases hcurrent : (VpnSession.unmarked moved.world.vpnSession).head? with
      | none => exact fun _ _ _ => by simp
      | some row =>
          have hrow := List.mem_of_mem_filter (List.mem_of_mem_head? hcurrent)
          refine .exceptBind ((retains_of_within (within_perform rfl)).mono
            fun result final hfinal => ?_)
          cases result with
          | error error => exact fun _ _ _ => by simp
          | ok _ =>
              cases huuid : row.sessionUuid with
              | none =>
                  simp only [Program.EnsuresRest]
                  exact fun _ _ _ => by simp
              | some text =>
                  simp only [Program.EnsuresRest, Fallible.parsed]
                  cases hid : Uuid.parseStr row.requestId with
                  | none => trivial
                  | some requestId =>
                      cases Uuid.parseStr text with
                      | none => trivial
                      | some vpnSessionId =>
                          rintro last hlast _ ⟨⟩
                          exact accepted_of_rely hlast (accepted_of_rely hfinal
                            (accepted_of_rely hlater (accepted_of_sessionUuid hadmits.1 hrow
                              (by simp [huuid]) hid)))

theorem endSession_retains_loop (endReason : String) :
    Retains .loop (Daemon.endSession endReason).run (fun _ _ => True) shared := by
  refine .exceptBind (.adapt (storageEndSession_retains.mono fun result moved hmoved => ?_))
  cases result with
  | error error => exact fun _ _ => trivial
  | ok sessionInfo =>
      refine .lift ?_
      intro later choice hrely _
      refine ⟨?_, fun _ _ => trivial⟩
      cases sessionInfo with
      | none => trivial
      | some sessionInfo => exact accepted_of_rely hrely (hmoved sessionInfo rfl)

theorem onDisconnectInner_retains (endReason : String) :
    Retains .loop (Daemon.onDisconnectInner endReason).run (fun _ _ => True) shared := by
  refine .liftBind ((retains_free (Daemon.tunnelCommandOnDisconnect_within.mono
    fun _ => Op.isFree_of_inMemory)).mono fun _ moved _ => ?_)
  refine .exceptBind ((endSession_retains_loop endReason).mono fun result later _ => ?_)
  cases result with
  | error error => exact fun _ _ => trivial
  | ok _ =>
      refine retains_free (.exceptBind (.lift (within_perform rfl)) fun _ => ?_)
      refine .exceptBind (.lift (within_perform rfl)) fun _ => ?_
      exact .exceptBind (.lift (within_perform rfl)) fun _ => trivial

/-- The row of a session is deleted after the event that closes it was received. -/
theorem updatedServerStatus_retains (status : VpnSessionStatus)
    (hclosed : (Happened.received status).closes
      (VpnSessionStorage.getSessionInfo status).requestId = true →
        ¬ shared.Owed (VpnSessionStorage.getSessionInfo status).requestId) :
    Retains .loop (VpnSessionStorage.updatedServerStatus status).run (fun _ _ => True) shared := by
  refine .exceptBind ?_
  intro moved choice hrely _
  refine ⟨trivial, ?_⟩
  cases hdb : choice.dbErr with
  | some error =>
      simp only [World.answer, World.statement, hdb]
      exact fun _ _ _ _ => trivial
  | none =>
      simp only [World.answer, World.statement, hdb]
      intro later hlater
      cases hrow : (VpnSession.unmarked moved.world.vpnSession).find?
          (·.requestId = (VpnSessionStorage.getSessionInfo status).requestId.toText) with
      | none => exact fun _ _ => trivial
      | some row =>
          have hid := (VpnSession.mem_of_currentById hrow).2
          have hdeleted (hcloses : (Happened.received status).closes
              (VpnSessionStorage.getSessionInfo status).requestId = true) :
              Retains .loop (perform (.deleteVpnSession row.requestId)) (fun _ _ => True) later :=
            (deleteVpnSession_retains hid fun final hfinal => not_owed_of_rely hfinal
              (not_owed_of_rely hlater (not_owed_of_rely hrely (hclosed hcloses)))).mono
                fun _ _ _ => trivial
          simp only [Program.EnsuresRest]
          cases status with
          | failed failed =>
              refine .exceptBind ((hdeleted (by simp [Happened.closes, Happened.saysOver,
                VpnSessionStorage.getSessionInfo])).mono fun result final _ => ?_)
              cases result with
              | error error => exact fun _ _ => trivial
              | ok _ => exact retains_free (.exceptBind (.lift (within_perform rfl)) fun _ => trivial)
          | ended ended =>
              refine .exceptBind ((hdeleted (by simp [Happened.closes, Happened.saysOver,
                VpnSessionStorage.getSessionInfo])).mono fun result final _ => ?_)
              cases result with
              | error error => exact fun _ _ => trivial
              | ok _ => exact fun _ _ => trivial
          | _ => exact retains_free (.exceptBind (within_perform rfl) fun _ => trivial)

theorem handleVpnSessionStatus_retains (status : VpnSessionStatus)
    (hclosed : (Happened.received status).closes
      (VpnSessionStorage.getSessionInfo status).requestId = true →
        ¬ shared.Owed (VpnSessionStorage.getSessionInfo status).requestId) :
    Retains .loop (Daemon.handleVpnSessionStatus status) (fun _ _ => True) shared := by
  refine .bind ((updatedServerStatus_retains status hclosed).mono fun result moved _ => ?_)
  cases result with
  | error error => trivial
  | ok processed =>
      exact retains_free ((Daemon.statusProcessed_within processed).mono
        fun _ => Op.isFree_of_inMemory)

theorem handleTunnelStateTransition_retains (transition : TunnelStateTransition) :
    Retains .loop (Daemon.handleTunnelStateTransition transition) (fun _ _ => True) shared := by
  refine .bind ((retains_free (within_perform rfl)).mono fun state moved _ => ?_)
  refine .bind ((retains_free ((VpnSessionStorage.tunnelStateTransition_within _ _).mono ?_)).mono
    fun result later _ => ?_)
  · intro op
    cases op <;> simp [Op.inLookup, Op.isFree]
  cases result with
  | error error => trivial
  | ok processed =>
      apply Daemon.transitionProcessed_ensures (I := fun _ => True) (J := fun _ => True) processed
        _ _ _ _ _ _ trivial
      · exact fun _ _ _ => retains_free (within_perform rfl)
      · exact fun _ _ _ => retains_free (within_perform rfl)
      · exact fun _ _ _ _ => retains_free
          ((Daemon.addNotification_within _).mono fun _ => Op.isFree_of_inMemory)
      · exact fun _ _ _ => trivial
      · exact fun _ _ _ => endSession_retains_loop _
      · exact fun _ _ => retains_free
          ((Daemon.setVpnStatus_within _).mono fun _ => Op.isFree_of_inMemory)

theorem handleCommand_retains (command : DaemonCommand) :
    Retains .loop (Daemon.handleCommand command) (fun _ _ => True) shared := by
  cases command with
  | connect location =>
      refine .bind ((retains_free (within_perform rfl)).mono fun _ _ _ => ?_)
      exact .bind ((onConnectInner_retains location).mono fun _ _ _ =>
        retains_free (within_perform rfl))
  | disconnect =>
      exact .bind ((onDisconnectInner_retains _).mono fun _ _ _ =>
        retains_free (within_perform rfl))
  | accountSignIn _ | accountSignOut =>
      refine retains_free (.bind (within_perform rfl) fun state => ?_)
      split <;> exact within_perform rfl
  | getVpnStatus | getNotifications =>
      exact retains_free (.bind (within_perform rfl) fun _ => within_perform rfl)
  | ackNotification id =>
      exact retains_free (.bind ((Daemon.modifyState_within _).mono
        fun _ => Op.isFree_of_inMemory) fun _ => within_perform rfl)

/-- When the event that closes it is received, a session is not owed any more. -/
theorem not_owed_taking (status : VpnSessionStatus) {requestId : Uuid}
    (hcloses : (Happened.received status).closes requestId = true) :
    ¬ (shared.taking (.vpnSessionStatus status)).Owed requestId := by
  simp [Shared.Owed, Shared.taking, received, Happened.owed_append, Happened.owedAfter, hcloses]

theorem handleEvent_retains (event : DaemonEvent) :
    Retains .loop (Daemon.handleEvent event) (fun _ _ => True) (shared.taking event) := by
  cases event with
  | command command => exact handleCommand_retains command
  | shutdown =>
      exact .bind ((onDisconnectInner_retains _).mono fun _ _ _ _ _ => trivial)
  | vpnSessionStatus status => exact handleVpnSessionStatus_retains status (not_owed_taking status)
  | tunnelStateTransition transition => exact handleTunnelStateTransition_retains transition

theorem governs_retention : Governs codecs retention where
  beside := Iff.rfl
  settles := id
  installed := by
    constructor
    · intro id howed
      cases howed
    · intro row hrow
      cases hrow
    · intro id hid
      cases hid
    · intro sessionInfo reason hspawned
      cases hspawned
  rebooted h := ⟨h.kept, h.rows, h.issued, fun _ _ hspawned => by cases hspawned⟩
  startup _ := startup_retains
  ready h _ := ⟨⟨h.kept, h.rows, h.issued, h.spawned⟩, fun _ _ => trivial,
    fun role _ => trusts_ready role⟩
  take event _ _ := handleEvent_retains event
  task h hspawned := task_retains h hspawned
  service command _ _ := service_retains command
  reclaimer _ := reclaim_retains

/-- In every reachable state, the row of every session that is owed is in the table. -/
theorem hasId_of_owed {machine : Machine} (h : (system codecs).Reachable machine)
    (requestId : Uuid)
    (howed : Happened.owed Happened.closes requestId machine.world.history = true) :
    VpnSession.hasId requestId.toText machine.world.vpnSession = true := by
  obtain ⟨trace⟩ := h
  have hadmits : trace.Obeys (AdmitsStep retention) :=
    trace.obeys_true.mono fun _ label _ => by
      cases label with
      | loop env => exact fun _ _ hallowed hrecorded => ⟨hrecorded, hallowed⟩
      | job index env => exact fun _ _ _ _ _ hallowed hrecorded => ⟨hrecorded, hallowed⟩
      | _ => trivial
  exact (visits_sound governs_retention hadmits).last.invariant.kept requestId howed

/-- The reclaimer is refused for the moment. -/
def unavailable (env : Env) : Env :=
  { env with endSession := .error (.server { code := .unavailable, message := "try again" }) }

/-- Killed with a session accepted and started again: five operations of the
startup, and the reclaimer's pass up to this many operations. -/
def reclaiming (env : Env) (operations : Nat) : List MachineLabel :=
  [.restart] ++ List.replicate 5 (.loop env) ++ [.ready, .reclaim] ++
    List.replicate operations (.job 0 env)

/-- A session that is owed, its row marked, while the reclaimer cannot reach the
server. -/
theorem exists_hasId_of_owed : ∃ machine, (system Sample.codecs).Reachable machine ∧
    Happened.owed Happened.closes Sample.first.uuid machine.world.history = true ∧
    VpnSession.hasId Sample.first.uuid.toText machine.world.vpnSession = true := by
  obtain ⟨machine, trace, -, hcheck⟩ := (system Sample.codecs).exists_trace_of_run
    (fun _ _ => True) (rfl : installed Sample.codecs = installed Sample.codecs)
    (Sample.installing ++ Sample.requesting Sample.first 10 ++
      reclaiming { Sample.first with endSession := .error (.connection "refused") } 3)
    (fun machine => machine.jobs.length = 0 ∧
      Happened.owed Happened.closes Sample.first.uuid machine.world.history = true)
    (by decide +kernel)
  obtain ⟨-, howed⟩ := of_decide_eq_true hcheck
  exact ⟨machine, ⟨trace⟩, howed, hasId_of_owed ⟨trace⟩ _ howed⟩

/-- The reclaimer forgets a session about which the server has said nothing. -/
theorem not_forall_hasId_of_owed :
    ¬ ∀ machine, (system Sample.codecs).Reachable machine → ∀ requestId : Uuid,
      Happened.owed Happened.saysOver requestId machine.world.history = true →
        VpnSession.hasId requestId.toText machine.world.vpnSession = true := by
  intro h
  obtain ⟨machine, trace, -, hcheck⟩ := (system Sample.codecs).exists_trace_of_run
    (fun _ _ => True) (rfl : installed Sample.codecs = installed Sample.codecs)
    (Sample.installing ++ Sample.requesting Sample.first 10 ++
      reclaiming (unavailable Sample.first) 4)
    (fun machine => Happened.owed Happened.saysOver Sample.first.uuid machine.world.history = true ∧
      VpnSession.hasId Sample.first.uuid.toText machine.world.vpnSession = false)
    (by decide +kernel)
  obtain ⟨howed, hgone⟩ := of_decide_eq_true hcheck
  simp [h machine ⟨trace⟩ _ howed] at hgone

end Machine

end Modvpn
