/-
# What a restart cleans up

A new process marks every row it finds, and the reclaimer ends the sessions of
marked rows. A row without a session uuid names no session the server could end,
and `to_reclaim` skips it. So if everything works after a restart, nothing is left
of the time before exactly if every row had its session uuid when the process was
killed.
-/

import Modvpn.Analysis.Daemon.Governing
import Modvpn.Analysis.Daemon.Rows

namespace Modvpn

open Modvpn.Protocol
open Entity (VpnSession)

/-! ## The session table in any reachable state -/

/-- Every row can be read, and no two rows have the same request id. -/
structure Keyed (rows : List VpnSession) : Prop where
  wellFormed : ∀ row ∈ rows, row.WellFormed
  nodup : (rows.map (·.requestId)).Nodup

namespace Keyed

variable {rows : List VpnSession} {requestId : String}

theorem updateById {set : VpnSession → VpnSession} (h : Keyed rows)
    (hset : ∀ row : VpnSession, row.WellFormed → (set row).WellFormed)
    (hid : ∀ row : VpnSession, (set row).requestId = row.requestId) :
    Keyed (VpnSession.updateById requestId set rows) :=
  ⟨VpnSession.wellFormed_updateById h.wellFormed hset, by
    rw [VpnSession.requestIds_updateById hid]
    exact h.nodup⟩

theorem deleteById (h : Keyed rows) : Keyed (VpnSession.deleteById requestId rows) :=
  ⟨VpnSession.wellFormed_deleteById h.wellFormed,
    h.nodup.sublist ((List.filter_sublist ..).map _)⟩

theorem mark (h : Keyed rows) : Keyed (rows.map VpnSession.mark) := by
  refine ⟨List.forall_mem_map.mpr fun row hrow => (h.wellFormed row hrow).mark, ?_⟩
  simpa [Function.comp_def] using h.nodup

theorem append_requested (h : Keyed rows) {id : Uuid} (location : Location)
    (hid : VpnSession.hasId id.toText rows = false) :
    Keyed (rows ++ [VpnSession.requested id location]) := by
  refine ⟨?_, ?_⟩
  · simpa [or_imp, forall_and] using ⟨h.wellFormed, VpnSession.wellFormed_requested id location⟩
  · have hother : ∀ row ∈ rows, row.requestId ≠ id.toText := by
      simpa [VpnSession.hasId] using hid
    rw [List.map_append, List.nodup_append]
    refine ⟨h.nodup, List.nodup_singleton _, ?_⟩
    simpa [VpnSession.requested] using hother

end Keyed

theorem World.answer_keyed {op : Op} {env : Env} {world : World} (h : Keyed world.vpnSession) :
    Keyed (answer op env world).2.vpnSession := by
  cases hop : op.writesSessions with
  | false => rwa [answer_vpnSession hop]
  | true =>
      cases op with
      | insertVpnSession requestId location =>
          refine checked_ensures (P := fun next => Keyed next.vpnSession) h fun _ _ hnext => ?_
          split at hnext
          · cases hnext
          · rename_i hid
            cases hnext
            exact h.append_requested location (by simpa using hid)
      | markForDeletion requestId =>
          exact statement_ensures (P := fun next => Keyed next.vpnSession) h
            (h.updateById (fun _ => .mark) fun _ => rfl)
      | markAllForDeletion =>
          exact statement_ensures (P := fun next => Keyed next.vpnSession) h h.mark
      | setAccepted requestId vpnSessionUuid =>
          exact statement_ensures (P := fun next => Keyed next.vpnSession) h
            (h.updateById (fun _ hrow => hrow.setAccepted _) fun _ => rfl)
      | updateVpnSession requestId set =>
          refine checked_ensures (P := fun next => Keyed next.vpnSession) h fun _ _ hnext => ?_
          split at hnext
          · cases hnext
            exact h.updateById (fun _ hrow => hrow.patch _) fun _ => rfl
          · cases hnext
      | deleteVpnSession requestId =>
          exact statement_ensures (P := fun next => Keyed next.vpnSession) h h.deleteById
      | _ => cases hop

namespace Machine

variable {codecs : Codecs} {machine : Machine}

theorem keyed_of_reachable (h : (system codecs).Reachable machine) :
    Keyed machine.world.vpnSession := by
  refine invariant_of_reachable (I := fun shared => Keyed shared.world.vpnSession) ?_ ?_ ?_ ?_ ?_ h
  · exact ⟨List.forall_mem_nil _, List.nodup_nil⟩
  · exact fun hshared => hshared
  · exact fun hshared => hshared
  · rintro shared moved ⟨-, -, -, spawned, commands, received, hworld, -⟩ hshared
    simpa [hworld] using hshared
  · exact fun hshared => World.answer_keyed hshared

end Machine

/-! ## One pass of the reclaimer -/

namespace VpnSessionStorage

/-- A well-formed row can be reclaimed once it has a session uuid. -/
theorem reclaimable_isSome {row : VpnSession} (h : row.WellFormed) :
    (reclaimable row).isSome = row.sessionUuid.isSome := by
  obtain ⟨⟨requestId, hid⟩, huuid⟩ := h
  cases hsession : row.sessionUuid with
  | none => simp [reclaimable, hsession]
  | some text =>
      obtain ⟨vpnSessionId, rfl⟩ := huuid text hsession
      simp [reclaimable, hsession, hid]

theorem requestId_of_reclaimable {row : VpnSession} {info : SessionInfo} (h : row.WellFormed)
    (hinfo : reclaimable row = some info) : row.requestId = info.requestId.toText := by
  obtain ⟨⟨requestId, hid⟩, -⟩ := h
  cases hsession : row.sessionUuid.bind Uuid.parseStr with
  | none => simp [reclaimable, hsession] at hinfo
  | some vpnSessionId =>
      simp only [reclaimable, hsession, hid, Uuid.parseStr_toText] at hinfo
      cases hinfo
      exact hid

end VpnSessionStorage

namespace Reclaimer

/-- The rows left when these sessions have been ended. -/
def remaining (sessions : List SessionInfo) (rows : List VpnSession) : List VpnSession :=
  rows.filter fun row => sessions.all fun session => row.requestId ≠ session.requestId.toText

theorem remaining_cons (session : SessionInfo) (sessions : List SessionInfo)
    (rows : List VpnSession) : remaining (session :: sessions) rows =
      remaining sessions (VpnSession.deleteById session.requestId.toText rows) := by
  simp only [remaining, VpnSession.deleteById, List.filter_filter, List.all_cons, Bool.and_comm]

/-- Everything works: the database, and every call to end a session. -/
structure Succeeds (oracle : Op → Env) : Prop where
  dbErr : ∀ op, (oracle op).dbErr = none
  endSession : ∀ op, ∃ ended,
    retry (oracle op).endSession (oracle op).endSessionRetries = .ok ended

variable {oracle : Op → Env} {world : World}

theorem reclaimSession_wp (h : Succeeds oracle) (deviceUniqueId : Uuid)
    (session : SessionInfo) :
    (reclaimSession deviceUniqueId session).wp semantics oracle
      (fun _ target => target.vpnSession =
        VpnSession.deleteById session.requestId.toText world.vpnSession) world := by
  obtain ⟨ended, hended⟩ := h.endSession (.endSession .reclaimer {
    requestId := session.requestId
    deviceUniqueId
    vpnSessionUuid := session.vpnSessionId
    reason := "reclaimed" })
  simp [reclaimSession, VpnSessionStorage.delete, perform, World.answer, World.statement,
    hended, h.dbErr]

theorem reclaimSessions_wp (h : Succeeds oracle) (deviceUniqueId : Uuid)
    (sessions : List SessionInfo) :
    (reclaimSessions deviceUniqueId sessions).wp semantics oracle
      (fun _ target => target.vpnSession = remaining sessions world.vpnSession) world := by
  induction sessions generalizing world with
  | nil => simp [reclaimSessions, remaining]
  | cons session rest ih =>
      rw [remaining_cons]
      refine (Program.wp_bind _ _ _).mpr ((reclaimSession_wp h deviceUniqueId session).mono ?_)
      intro _ next hnext
      rw [← hnext]
      exact ih

/-- The sessions a pass over these rows ends, all of which are marked. -/
theorem reclaim_wp (h : Succeeds oracle) {codecs : Codecs} {device : Entity.Device}
    {deviceDetails : DeviceDetails} (hdevice : world.device.head? = some device)
    (hdetails : DeviceDetails.tryFrom codecs device = .ok deviceDetails) :
    (reclaim codecs).wp semantics oracle
      (fun _ target => target.vpnSession = remaining
        ((world.vpnSession.filter (·.markForDeletion)).filterMap VpnSessionStorage.reclaimable)
        world.vpnSession) world := by
  simp only [reclaim, VpnSessionStorage.toReclaim, DeviceStorage.getDevice, perform]
  simp [World.answer, World.statement, h.dbErr, hdevice, hdetails]
  exact reclaimSessions_wp h ..

end Reclaimer

namespace Machine

variable {codecs : Codecs} {oracle : Op → Env} {world : World}

/-- A startup that finds a device marks every row. -/
theorem startup_wp (hdb : ∀ op, (oracle op).dbErr = none) {device : Entity.Device}
    {deviceDetails : DeviceDetails} (hdevice : world.device.head? = some device)
    (hdetails : DeviceDetails.tryFrom codecs device = .ok deviceDetails) :
    (startup codecs).wp semantics oracle
      (fun _ target => target.vpnSession = world.vpnSession.map .mark ∧
        target.device = world.device) world := by
  simp [startup, createDaemon, DeviceStorage.init, TokenStorage.getToken,
    VpnSessionStorage.reclaim, perform, World.answer, World.statement, hdb, hdevice, hdetails]

/-- Ending every session that can be named leaves nothing exactly if all can be. -/
theorem remaining_reclaimable_eq_nil {rows : List VpnSession} (h : Keyed rows) :
    Reclaimer.remaining (rows.filterMap VpnSessionStorage.reclaimable) rows = [] ↔
      ∀ row ∈ rows, row.sessionUuid.isSome = true := by
  simp only [Reclaimer.remaining, List.filter_eq_nil_iff, List.all_eq_true, decide_eq_true_eq,
    List.mem_filterMap]
  constructor
  · intro hgone row hrow
    have hfound := hgone row hrow
    push Not at hfound
    obtain ⟨info, ⟨other, hother, hinfo⟩, hid⟩ := hfound
    have hsame : row = other := List.inj_on_of_nodup_map h.nodup hrow hother
      (hid.trans (VpnSessionStorage.requestId_of_reclaimable (h.wellFormed other hother)
        hinfo).symm)
    rw [hsame, ← VpnSessionStorage.reclaimable_isSome (h.wellFormed other hother), hinfo]
    rfl
  · intro hsessions row hrow hkept
    have hsome := (VpnSessionStorage.reclaimable_isSome (h.wellFormed row hrow)).trans
      (hsessions row hrow)
    obtain ⟨info, hinfo⟩ := Option.isSome_iff_exists.mp hsome
    exact hkept info ⟨row, hrow, hinfo⟩
      (VpnSessionStorage.requestId_of_reclaimable (h.wellFormed row hrow) hinfo)

/-- Killed now and started again, the process and one pass of its reclaimer leave no
row, if everything works from then on. -/
def Recovers (codecs : Codecs) (machine : Machine) : Prop :=
  ∀ oracle : Op → Env, Reclaimer.Succeeds oracle → ∃ target,
    (do startup codecs; Reclaimer.reclaim codecs : Async Unit).run semantics oracle
        machine.world.rebooted = .returned () target ∧ target.vpnSession = []

theorem recovery_wp {machine : Machine} (h : Reclaimer.Succeeds oracle) {device : Entity.Device}
    {deviceDetails : DeviceDetails} (hdevice : machine.world.device.head? = some device)
    (hdetails : DeviceDetails.tryFrom codecs device = .ok deviceDetails) :
    (do startup codecs; Reclaimer.reclaim codecs : Async Unit).wp semantics oracle
      (fun _ target => target.vpnSession = Reclaimer.remaining
        ((machine.world.vpnSession.map VpnSession.mark).filterMap VpnSessionStorage.reclaimable)
        (machine.world.vpnSession.map VpnSession.mark)) machine.world.rebooted := by
  have hpresent : machine.world.rebooted.device.head? = some device := hdevice
  refine (Program.wp_bind _ _ _).mpr ((startup_wp h.dbErr hpresent hdetails).mono ?_)
  rintro _ next ⟨hrows, hnext⟩
  refine (Reclaimer.reclaim_wp h (hnext ▸ hpresent) hdetails).mono ?_
  intro _ target htarget
  have hmarked : (machine.world.vpnSession.map VpnSession.mark).filter (·.markForDeletion) =
      machine.world.vpnSession.map VpnSession.mark := by
    simp [List.filter_eq_self]
  rw [htarget, hrows]
  simp only [World.rebooted, hmarked]

theorem recovers_iff_sessionUuid {machine : Machine}
    (hreachable : (system codecs).Reachable machine)
    {device : Entity.Device} {deviceDetails : DeviceDetails}
    (hdevice : machine.world.device.head? = some device)
    (hdetails : DeviceDetails.tryFrom codecs device = .ok deviceDetails) :
    machine.Recovers codecs ↔ ∀ row ∈ machine.world.vpnSession, row.sessionUuid.isSome = true := by
  have hrows := remaining_reclaimable_eq_nil (keyed_of_reachable hreachable).mark
  simp only [List.forall_mem_map] at hrows
  refine Iff.trans ⟨fun hrecovers => ?_, fun hgone oracle h => ?_⟩ hrows
  · have hsucceeds : Reclaimer.Succeeds fun _ => Sample.first := ⟨fun _ => rfl, fun _ => ⟨_, rfl⟩⟩
    obtain ⟨target, hrun, hgone⟩ := hrecovers _ hsucceeds
    obtain ⟨_, final, hfinal, hremaining⟩ := (recovery_wp hsucceeds hdevice hdetails).exists_run
    rw [hrun] at hfinal
    cases hfinal
    exact hremaining.symm.trans hgone
  · obtain ⟨_, target, hrun, hremaining⟩ := (recovery_wp h hdevice hdetails).exists_run
    exact ⟨target, hrun, hremaining.trans hgone⟩

/-- Wherever the process is killed, recovery leaves nothing behind exactly if every
row has its session uuid by then. -/
theorem recovers_iff {machine : Machine} (hreachable : (system codecs).Reachable machine)
    {device : Entity.Device} {deviceDetails : DeviceDetails}
    (hdevice : machine.world.device.head? = some device)
    (hdetails : DeviceDetails.tryFrom codecs device = .ok deviceDetails) :
    machine.Recovers codecs ↔ ∀ row ∈ machine.world.vpnSession, row.sessionUuid ≠ none := by
  simpa only [Option.isSome_iff_ne_none] using
    recovers_iff_sessionUuid hreachable hdevice hdetails

/-- The device the sample daemon creates can be read. -/
theorem exists_tryFrom_sample : ∃ deviceDetails,
    DeviceDetails.tryFrom Sample.codecs (.ofDetails Sample.codecs Sample.deviceDetails) =
      .ok deviceDetails := by
  have hread : (DeviceDetails.tryFrom Sample.codecs
      (.ofDetails Sample.codecs Sample.deviceDetails)).toOption.isSome = true := by decide +kernel
  cases hdetails : DeviceDetails.tryFrom Sample.codecs
      (.ofDetails Sample.codecs Sample.deviceDetails) with
  | ok deviceDetails => exact ⟨deviceDetails, rfl⟩
  | error message => simp [hdetails, Except.toOption] at hread

/-- Killed right after a session was accepted, the daemon recovers. -/
theorem exists_recovers : ∃ machine, (system Sample.codecs).Reachable machine ∧
    machine.world.vpnSession ≠ [] ∧ machine.Recovers Sample.codecs := by
  obtain ⟨machine, trace, -, hcheck⟩ := (system Sample.codecs).exists_trace_of_run
    (fun _ _ => True) (rfl : installed Sample.codecs = installed Sample.codecs)
    (Sample.installing ++ Sample.requesting Sample.first 8)
    (fun machine => machine.world.vpnSession ≠ [] ∧
      (∀ row ∈ machine.world.vpnSession, row.sessionUuid ≠ none) ∧
      machine.world.device.head? = some (.ofDetails Sample.codecs Sample.deviceDetails))
    (by decide +kernel)
  obtain ⟨hrows, hsessions, hdevice⟩ := of_decide_eq_true hcheck
  obtain ⟨deviceDetails, hdetails⟩ := exists_tryFrom_sample
  exact ⟨machine, ⟨trace⟩, hrows, (recovers_iff ⟨trace⟩ hdevice hdetails).mpr hsessions⟩

/-- Killed between requesting a session and recording its acceptance, the daemon
leaves a row behind that no restart will remove. -/
theorem not_forall_recovers :
    ¬ ∀ machine, (system Sample.codecs).Reachable machine →
      (∃ device deviceDetails, machine.world.device.head? = some device ∧
        DeviceDetails.tryFrom Sample.codecs device = .ok deviceDetails) →
      machine.Recovers Sample.codecs := by
  intro h
  obtain ⟨machine, trace, -, hcheck⟩ := (system Sample.codecs).exists_trace_of_run
    (fun _ _ => True) (rfl : installed Sample.codecs = installed Sample.codecs)
    (Sample.installing ++ Sample.requesting Sample.first 4)
    (fun machine => (∃ row ∈ machine.world.vpnSession, row.sessionUuid = none) ∧
      machine.world.device.head? = some (.ofDetails Sample.codecs Sample.deviceDetails))
    (by decide +kernel)
  obtain ⟨⟨row, hrow, hsession⟩, hdevice⟩ := of_decide_eq_true hcheck
  obtain ⟨deviceDetails, hdetails⟩ := exists_tryFrom_sample
  have hrecovers := h machine ⟨trace⟩ ⟨_, deviceDetails, hdevice, hdetails⟩
  have hsome := (recovers_iff_sessionUuid ⟨trace⟩ hdevice hdetails).mp hrecovers row hrow
  simp [hsession] at hsome

end Machine

end Modvpn
