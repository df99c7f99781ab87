/-
# A session that has ended stays ended

Once a request id had a row and the row is marked or removed, no operation brings an
unmarked row of it back: marks are never cleared, and an id is inserted once. What
the server still says about such a session finds no row, so its handler performs one
lookup and changes nothing.
-/

import Modvpn.Analysis.Daemon.Custody

namespace Modvpn

open Modvpn.Protocol
open Entity (VpnSession)

namespace Machine

variable {codecs : Codecs} {fresh : List Uuid} {source target : Machine} {requestId : Uuid}

/-- Any steps. -/
abbrev Later (codecs : Codecs) : Machine → Machine → Prop :=
  (system codecs).Leads fun _ _ => True

/-- An id that was inserted, along a run. -/
theorem exists_used_of_later (h : source.Accounted fresh)
    (hused : Used fresh source.issued requestId) (hlater : Later codecs source target) :
    ∃ later, target.Accounted later ∧ Used later target.issued requestId := by
  apply hlater.invariant (I := fun machine => ∃ later, Accounted later machine ∧
    Used later machine.issued requestId) ⟨fresh, h, hused⟩
  rintro before label after hstep - ⟨held, hbefore, hused⟩
  obtain ⟨later, hafter, hcarries⟩ := hbefore.step hstep
  exact ⟨later, hafter, hcarries.used requestId hused⟩

/-- An id whose row is marked or gone, along a run. -/
theorem exists_gone_of_later (h : source.Accounted fresh)
    (hgone : Gone fresh source.issued source.world.vpnSession requestId)
    (hlater : Later codecs source target) :
    ∃ later, Gone later target.issued target.world.vpnSession requestId := by
  have hinvariant : ∃ later, target.Accounted later ∧
      Gone later target.issued target.world.vpnSession requestId := by
    apply hlater.invariant (I := fun machine => ∃ later, Accounted later machine ∧
      Gone later machine.issued machine.world.vpnSession requestId) ⟨fresh, h, hgone⟩
    rintro before label after hstep - ⟨held, hbefore, hgone⟩
    obtain ⟨later, hafter, hcarries⟩ := hbefore.step hstep
    exact ⟨later, hafter, hcarries.gone requestId hgone⟩
  obtain ⟨later, -, hgone⟩ := hinvariant
  exact ⟨later, hgone⟩

/-- A row that was marked or removed never comes back. -/
theorem unmarked_of_claimed {first mid late : Machine} (hfirst : (system codecs).Reachable first)
    (hrow : VpnSession.hasId requestId.toText first.world.vpnSession = true)
    (hmid : Later codecs first mid)
    (hclaimed : ∀ row ∈ mid.world.vpnSession, row.requestId = requestId.toText →
      row.markForDeletion = true)
    (hlate : Later codecs mid late) :
    ∀ row ∈ VpnSession.unmarked late.world.vpnSession, row.requestId ≠ requestId.toText := by
  obtain ⟨fresh, haccounted⟩ := exists_accounted hfirst
  obtain ⟨later, hlater, hused⟩ := exists_used_of_later haccounted (haccounted.kept.used hrow) hmid
  have hgone : Gone later mid.issued mid.world.vpnSession requestId := by
    refine ⟨hused, fun row hrow hid => ?_⟩
    obtain ⟨hmem, hunmarked⟩ := VpnSession.mem_unmarked.mp hrow
    simp [hclaimed row hmem hid] at hunmarked
  obtain ⟨_, hlast⟩ := exists_gone_of_later hlater hgone hlate
  exact hlast.unmarked

/-- The handler of a status that finds no row ends with the lookup. -/
theorem handleVpnSessionStatus_step {status : VpnSessionStatus} {env : Env}
    (hloop : source.loop = Daemon.handleEvent (.vpnSessionStatus status))
    (hnone : ∀ row ∈ VpnSession.unmarked source.world.vpnSession,
      row.requestId ≠ (VpnSessionStorage.getSessionInfo status).requestId.toText)
    (hstep : step codecs source (.loop env) = some target) :
    target.world = source.world ∧ target.loop.isRunning = false ∧
      (env.dbErr = none → target.loop = .pure ()) := by
  have hfind : (VpnSession.unmarked source.world.vpnSession).find?
      (·.requestId = (VpnSessionStorage.getSessionInfo status).requestId.toText) = none := by
    simpa using hnone
  cases steps_of_step hstep with
  | loop hprogram hallowed =>
      rw [hloop] at hprogram
      cases hprogram
      cases hdb : env.dbErr with
      | some error =>
          simp only [answered, World.answer, World.statement, hdb]
          exact ⟨trivial, rfl, by simp⟩
      | none =>
          simp only [answered, World.answer, World.statement, hdb, hfind]
          exact ⟨trivial, rfl, fun _ => rfl⟩

/-- Once the row of a session was marked or removed, whatever the server still says
about the session changes nothing, in every later state. -/
theorem world_eq_of_claimed {first mid late target : Machine}
    (hfirst : (system codecs).Reachable first)
    (hrow : VpnSession.hasId requestId.toText first.world.vpnSession = true)
    (hmid : Later codecs first mid)
    (hclaimed : ∀ row ∈ mid.world.vpnSession, row.requestId = requestId.toText →
      row.markForDeletion = true)
    (hlate : Later codecs mid late) {status : VpnSessionStatus}
    (hstatus : (VpnSessionStorage.getSessionInfo status).requestId = requestId)
    (hloop : late.loop = Daemon.handleEvent (.vpnSessionStatus status)) {env : Env}
    (hstep : step codecs late (.loop env) = some target) :
    target.world = late.world ∧ target.loop.isRunning = false ∧
      (env.dbErr = none → target.loop = .pure ()) := by
  apply handleVpnSessionStatus_step hloop _ hstep
  rw [hstatus]
  exact unmarked_of_claimed hfirst hrow hmid hclaimed hlate

/-! ## A session that was disconnected, and a server that is late -/

theorem loop_of_take {event : DaemonEvent} (hstep : step codecs source .take = some target)
    (hqueue : source.queue.head? = some event) : target.loop = Daemon.handleEvent event := by
  cases steps_of_step hstep with
  | take hloop hevents hstarted haccepting =>
      rw [hevents] at hqueue
      cases hqueue
      rfl

/-- The user disconnects. -/
def disconnecting (env : Env) : List MachineLabel :=
  [.post (.command .disconnect), .take] ++ List.replicate 8 (.loop env)

/-- The server is ready after the user has disconnected. -/
theorem exists_world_eq_of_claimed : ∃ first mid late target : Machine,
    (system Sample.codecs).Reachable first ∧ Later Sample.codecs first mid ∧
      Later Sample.codecs mid late ∧
      VpnSession.hasId Sample.first.uuid.toText first.world.vpnSession = true ∧
      late.loop = Daemon.handleEvent
        (.vpnSessionStatus (Sample.ready Sample.first.uuid (.replicate 1))) ∧
      target.world = late.world ∧ target.loop = .pure () := by
  let run := (system Sample.codecs).run fun _ _ => True
  have hrun : ((run (installed Sample.codecs)
      (Sample.installing ++ Sample.requesting Sample.first 11)).any fun first =>
    VpnSession.hasId Sample.first.uuid.toText first.world.vpnSession &&
      (run first (disconnecting Sample.first)).any fun mid =>
        decide (∀ row ∈ mid.world.vpnSession, row.requestId = Sample.first.uuid.toText →
          row.markForDeletion = true) &&
        (run mid [.post (.vpnSessionStatus
          (Sample.ready Sample.first.uuid (.replicate 1)))]).any fun source =>
          decide (source.queue.head? = some (.vpnSessionStatus
            (Sample.ready Sample.first.uuid (.replicate 1)))) &&
          (step Sample.codecs source .take).any fun late =>
            (step Sample.codecs late (.loop Sample.first)).isSome) = true := by
    decide +kernel
  simp only [Option.any_eq_true, Bool.and_eq_true, decide_eq_true_eq] at hrun
  obtain ⟨first, hfirst, hrow, mid, hmid, hclaimed, source, hsource, hqueue, late, htake,
    hstep⟩ := hrun
  obtain ⟨target, hstep⟩ := Option.isSome_iff_exists.mp hstep
  obtain ⟨trace, -⟩ := (system Sample.codecs).exists_trace_of_run_eq_some hfirst
    ⟨.start rfl, trivial⟩
  have hmid : Later Sample.codecs first mid :=
    (system Sample.codecs).leads_of_run_eq_some hmid .here
  have htaken : (system Sample.codecs).step source .take = some late := htake
  have hlate : Later Sample.codecs mid late :=
    ((system Sample.codecs).leads_of_run_eq_some hsource .here).extend trivial htaken
  have hloop := loop_of_take htake hqueue
  obtain ⟨hworld, -, hended⟩ := world_eq_of_claimed ⟨trace⟩ hrow hmid hclaimed hlate rfl hloop hstep
  exact ⟨first, mid, late, target, ⟨trace⟩, hmid, hlate, hrow, hloop, hworld, hended rfl⟩

end Machine

end Modvpn
