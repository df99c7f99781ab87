/-
# The operations of each coroutine

Which operations a coroutine performs at all, whatever it is answered, and what they are
about; and what the orchestrator is told, given what the coroutine was answered. Most
invariants need no more of a coroutine than this.
-/

import Modvpn.Android.VPNSessionRepository

namespace Modvpn.Android

open Modvpn.Protocol

/-- The operations that a coroutine may perform. -/
def Footprint (coroutine : Coroutine) (op : Op) : Prop :=
  match coroutine with
  | .init _ =>
      match op with
      | .getDevice | .insertDevice | .markAllForDeletion => True
      | _ => False
  | .newVpnSession service requestId location =>
      match op with
      | .getDevice => True
      | .insert vpnSession | .delete vpnSession => vpnSession = .new requestId location
      | .update vpnSession => ∃ uuid,
          vpnSession = { Db.VpnSession.new requestId location with sessionUUID := some uuid }
      | .sendNewVpnSession request | .awaitNewVpnSession request => request.requestId = requestId
      | .sendOrchestratorMessage number name _ => number = service ∧ name = requestId
      | .launchWatch number _ _ => number = service
      | _ => False
  | .watch service _ request =>
      match op with
      | .delay | .again => True
      | .getVpnSessionStatus asked => asked = request
      | .sendOrchestratorMessage number name _ => number = service ∧ name = request.requestId
      | .deleteWithRequestId requestId => requestId = request.requestId
      | _ => False
  | .endVpnSession service requestId _ =>
      match op with
      | .getDevice | .delete _ | .markAllForDeletion => True
      | .withRequestId other => other = requestId
      | .sendEndVpnSession request | .awaitEndVpnSession request => request.requestId = requestId
      | .runReclaimer number => number = service
      | _ => False
  | .reclaim service reclaimer =>
      match op with
      | .toReclaim | .delay | .again => True
      | .endVpnSession number _ _ => number = service
      | .stopRunning number => number = reclaimer
      | _ => False

variable {wireGuard : WireGuard}

theorem init_only (ofService : Bool) :
    AppContainer.init.Only (Footprint (.init ofService)) := by
  refine ⟨trivial, fun device => ?_⟩
  cases device with
  | none => exact ⟨trivial, fun _ => ⟨trivial, fun _ => trivial⟩⟩
  | some device => exact ⟨trivial, fun _ => trivial⟩

theorem newVpnSession_only (service : Nat) (requestId : Uuid) (location : Location) :
    (VPNSessionRepository.newVpnSession wireGuard service requestId location).Only
      (Footprint (.newVpnSession service requestId location)) := by
  refine ⟨rfl, fun _ => ⟨trivial, fun device => ?_⟩⟩
  cases device with
  | none => trivial
  | some device =>
      refine ⟨rfl, fun _ => ⟨rfl, fun reply => ?_⟩⟩
      cases reply with
      | ok accepted =>
          refine ⟨⟨accepted.vpnSessionUuid, rfl⟩, fun _ => ?_⟩
          simp only [Program.pure_bind]
          cases toInterface wireGuard device with
          | error thrown => trivial
          | ok interFace => exact ⟨⟨rfl, rfl⟩, fun _ => ⟨rfl, fun _ => trivial⟩⟩
      | error error => exact ⟨⟨rfl, rfl⟩, fun _ => ⟨rfl, fun _ => trivial⟩⟩

theorem watch_only (service : Nat) (location : Location) (request : VpnSessionStatusRequest) :
    (VPNSessionRepository.watch service location request).Only
      (Footprint (.watch service location request)) := by
  refine ⟨trivial, fun _ => ⟨rfl, fun reply => ?_⟩⟩
  cases reply with
  | error error => exact ⟨trivial, fun _ => trivial⟩
  | ok status =>
      refine ⟨⟨rfl, rfl⟩, fun _ => ?_⟩
      simp only [Program.pure_bind]
      split
      · exact ⟨rfl, fun _ => trivial⟩
      · split
        · trivial
        · exact ⟨trivial, fun _ => trivial⟩

theorem endVpnSession_only (service : Nat) (requestId : Uuid) (reason : String) :
    (VPNSessionRepository.endVpnSession service requestId reason).Only
      (Footprint (.endVpnSession service requestId reason)) := by
  refine ⟨trivial, fun device => ⟨rfl, fun vpnSession => ?_⟩⟩
  cases device with
  | none => trivial
  | some device =>
      refine ⟨rfl, fun _ => ⟨rfl, fun reply => ?_⟩⟩
      cases reply with
      | ok ended =>
          cases vpnSession with
          | none => trivial
          | some row => exact ⟨trivial, fun _ => trivial⟩
      | error error =>
          simp only [Program.pure_bind]
          split
          · cases vpnSession with
            | none => trivial
            | some row => exact ⟨trivial, fun _ => trivial⟩
          · split
            · exact ⟨trivial, fun _ => ⟨rfl, fun _ => trivial⟩⟩
            · exact ⟨rfl, fun _ => trivial⟩

theorem sweep_only (service reclaimer : Nat) (requestIds : List Uuid) :
    (VpnSessionReclaimer.sweep service requestIds).Only
      (Footprint (.reclaim service reclaimer)) := by
  induction requestIds with
  | nil => exact ⟨trivial, fun _ => ⟨trivial, fun _ => trivial⟩⟩
  | cons requestId requestIds ih => exact ⟨rfl, fun _ => ih⟩

theorem reclaim_only (service reclaimer : Nat) :
    (VpnSessionReclaimer.reclaim service reclaimer).Only
      (Footprint (.reclaim service reclaimer)) := by
  refine ⟨trivial, fun requestIds => ?_⟩
  simp only [Program.pure_bind]
  split
  · exact ⟨rfl, fun _ => trivial⟩
  · exact sweep_only service reclaimer requestIds

/-- A coroutine performs its operations and no others. -/
theorem program_only (coroutine : Coroutine) :
    (coroutine.program wireGuard).Only (Footprint coroutine) := by
  cases coroutine with
  | init ofService => exact init_only ofService
  | newVpnSession service requestId location => exact newVpnSession_only service requestId location
  | watch service location request => exact watch_only service location request
  | endVpnSession service requestId reason => exact endVpnSession_only service requestId reason
  | reclaim service reclaimer => exact reclaim_only service reclaimer

/-! ## What is sent to the orchestrator -/

variable {A : ∀ op : Op, op.Resp → Prop}

variable (wireGuard A) in
/-- The orchestrator is told of the interface of a device that was found, and of what the
server answered to a request with the id. -/
def Tells : Op → Prop
  | .sendOrchestratorMessage _ requestId (.connectResponse _ (.ok (accepted, interFace))) =>
      (∃ device, A .getDevice (some device) ∧ toInterface wireGuard device = .ok interFace) ∧
        ∃ request, request.requestId = requestId ∧ A (.awaitNewVpnSession request) (.ok accepted)
  | .sendOrchestratorMessage _ requestId (.vpnSessionUpdate _ status) =>
      ∃ request, request.requestId = requestId ∧ A (.getVpnSessionStatus request) (.ok status)
  | _ => True

theorem newVpnSession_tells (service : Nat) (requestId : Uuid) (location : Location) :
    (VPNSessionRepository.newVpnSession wireGuard service requestId location).OnlyGiven A
      (Tells wireGuard A) := by
  refine ⟨trivial, fun _ _ => ⟨trivial, fun device hdevice => ?_⟩⟩
  cases device with
  | none => trivial
  | some device =>
      refine ⟨trivial, fun _ _ => ⟨trivial, fun reply hreply => ?_⟩⟩
      cases reply with
      | error error => exact ⟨trivial, fun _ _ => ⟨trivial, fun _ _ => trivial⟩⟩
      | ok accepted =>
          refine ⟨trivial, fun _ _ => ?_⟩
          simp only [Program.pure_bind]
          cases hinterFace : toInterface wireGuard device with
          | error thrown => trivial
          | ok interFace =>
              exact ⟨⟨⟨device, hdevice, hinterFace⟩, _, rfl, hreply⟩,
                fun _ _ => ⟨trivial, fun _ _ => trivial⟩⟩

theorem watch_tells (service : Nat) (location : Location) (request : VpnSessionStatusRequest) :
    (VPNSessionRepository.watch service location request).OnlyGiven A (Tells wireGuard A) := by
  refine ⟨trivial, fun _ _ => ⟨trivial, fun reply hreply => ?_⟩⟩
  cases reply with
  | error error => exact ⟨trivial, fun _ _ => trivial⟩
  | ok status =>
      refine ⟨⟨request, rfl, hreply⟩, fun _ _ => ?_⟩
      simp only [Program.pure_bind]
      split
      · exact ⟨trivial, fun _ _ => trivial⟩
      · split
        · trivial
        · exact ⟨trivial, fun _ _ => trivial⟩

theorem program_tells (coroutine : Coroutine) :
    (coroutine.program wireGuard).OnlyGiven A (Tells wireGuard A) := by
  cases coroutine with
  | newVpnSession service requestId location => exact newVpnSession_tells service requestId location
  | watch service location request => exact watch_tells service location request
  | init ofService | endVpnSession service requestId reason | reclaim service reclaimer =>
      apply (program_only _).onlyGiven.mono
      intro op hop
      cases op <;> trivial

end Modvpn.Android
