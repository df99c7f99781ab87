/-
# The device under a running session

Signing out is refused while a session is in progress, but the refusal is a look
at the in-memory status, and the work is done later by other programs. What holds
is this: if the device id of a new session is read only when no sign-out is under
way, and nothing opens the guard while a session is still claimless, then the
device of a requested session keeps its id and its key and stays signed in.

While a sign-out is under way no session is live; that is the one fact the roles
share, and everything a sign-out does to the device is licensed by it.
-/

import Modvpn.Analysis.Daemon.Footprints
import Modvpn.Analysis.Daemon.Governing

namespace Modvpn

open Modvpn.Protocol

/-! ## What is claimed, and under which condition -/

/-- The device is the one the session was requested with, and still signed in. -/
def World.Pinned (world : World) (live : LiveSession) : Prop :=
  (∃ device ∈ world.device.head?, Uuid.parseStr device.uniqueId = some live.deviceUniqueId ∧
    live.privateKey = some device.privateKey) ∧
  (live.hadToken = true → world.token ≠ [])

instance (world : World) (live : LiveSession) : Decidable (world.Pinned live) :=
  inferInstanceAs (Decidable (_ ∧ _))

/-- Operations for which the loop and the tasks owe nothing. -/
def Op.isSparing : Op → Bool
  | .deleteDevices | .deleteTokens | .insertToken _ | .deleteTokensBelow _
  | .sendNewSession _ => false
  | .spawn task => task ≠ .signOut
  | .sendDeviceCommand command => command ≠ .signOut
  | _ => true

namespace Machine

/-- The device is pinned for as long as a session is live. -/
def DevicePinned (machine : Machine) : Prop :=
  ∀ live ∈ machine.world.live, machine.world.Pinned live

instance (machine : Machine) : Decidable machine.DevicePinned :=
  inferInstanceAs (Decidable (∀ live ∈ machine.world.live, machine.world.Pinned live))

/-- The loop reads the device id for a new session only when no sign-out is under
way, an acceptance is recorded, and the status is not set to `Disconnected` while
the row of the session is unmarked. -/
def Shared.keepsApart (shared : Shared) (env : Env) : Op → Bool
  | .findDeviceUniqueId => shared.quiet
  | .setAccepted _ _ => env.dbErr = none
  | .writeState state => state.vpnStatus ≠ .disconnected ||
      shared.world.live.all (!shared.world.isClaimless ·)
  | _ => true

/-- The loop's next operation keeps sessions and sign-outs apart. -/
def SignOutApart (machine : Machine) : MachineLabel → Prop
  | .loop env => ∀ op ∈ machine.loop.nextOp, machine.shared.keepsApart env op = true
  | _ => True

instance (machine : Machine) (label : MachineLabel) : Decidable (machine.SignOutApart label) :=
  match label with
  | .loop env => inferInstanceAs
      (Decidable (∀ op ∈ machine.loop.nextOp, machine.shared.keepsApart env op = true))
  | .restart | .ready | .post _ | .take | .start _ | .serve | .reclaim | .job _ _ =>
      inferInstanceAs (Decidable True)

/-! ## The terms -/

/-- A live session pins the device, and none is live during a sign-out. -/
structure Guarded (shared : Shared) : Prop where
  pinned : ∀ live ∈ shared.world.live, shared.world.Pinned live
  quiet : shared.quiet = false → shared.world.live = none

/-- The first device keeps its id and its key. -/
def KeepsDevice (shared moved : Shared) : Prop :=
  ∀ device ∈ shared.world.device.head?, ∃ same ∈ moved.world.device.head?,
    same.uniqueId = device.uniqueId ∧ same.privateKey = device.privateKey

/-- What a role relies on: the loop, on its memory and on a device that stays while
no sign-out is under way; the service, on the tokens. -/
def Counts : Role → Shared → Shared → Prop
  | .loop, shared, moved => moved.world.state = shared.world.state ∧
      moved.world.live = shared.world.live ∧
      (shared.quiet = true → moved.quiet = true ∧ KeepsDevice shared moved)
  | .service _, shared, moved => moved.world.token = shared.world.token
  | _, _, _ => True

/-- What a role owes for an operation. -/
def Spares (role : Role) (shared : Shared) : Op → Prop
  | .deleteDevices | .sendDeviceCommand .signOut => shared.quiet = false
  | .deleteTokens => shared.quiet = false ∧ role.isService = true
  | .insertToken _ => role.isService = true
  | .deleteTokensBelow id =>
      role.isService = true ∧ ∃ token ∈ shared.world.token, ¬ token.id < id
  | .sendNewSession request => role = .loop ∧ shared.quiet = true ∧
      ∃ device ∈ shared.world.device.head?,
        Uuid.parseStr device.uniqueId = some request.deviceUniqueId
  | .spawn .signOut => role = .loop ∧ shared.world.live = none
  | .writeState _ | .awaitNewSession _ => role = .loop
  | _ => True

variable {shared moved : Shared} {role : Role} {op : Op} {env : Env}

theorem KeepsDevice.refl (shared : Shared) : KeepsDevice shared shared :=
  fun device hdevice => ⟨device, hdevice, rfl, rfl⟩

theorem KeepsDevice.trans {later : Shared} (hfirst : KeepsDevice shared moved)
    (hsecond : KeepsDevice moved later) : KeepsDevice shared later := by
  intro device hdevice
  obtain ⟨same, hsame, hid, hkey⟩ := hfirst device hdevice
  obtain ⟨last, hlast, hid', hkey'⟩ := hsecond same hsame
  exact ⟨last, hlast, hid'.trans hid, hkey'.trans hkey⟩

theorem Counts.refl (role : Role) (shared : Shared) : Counts role shared shared := by
  cases role with
  | loop => exact ⟨rfl, rfl, fun hquiet => ⟨hquiet, .refl shared⟩⟩
  | service command => rfl
  | task _ | reclaimer => trivial

theorem Counts.trans {later : Shared} (hfirst : Counts role shared moved)
    (hsecond : Counts role moved later) : Counts role shared later := by
  cases role with
  | loop =>
      obtain ⟨hstate, hlive, hquiet⟩ := hfirst
      obtain ⟨hstate', hlive', hquiet'⟩ := hsecond
      refine ⟨hstate'.trans hstate, hlive'.trans hlive, fun h => ?_⟩
      obtain ⟨hmoved, hkeeps⟩ := hquiet h
      exact ⟨(hquiet' hmoved).1, hkeeps.trans (hquiet' hmoved).2⟩
  | service command => exact Eq.trans hsecond hfirst
  | task _ | reclaimer => trivial

theorem counts_of_settles (h : Settles shared moved) (role : Role) : Counts role shared moved := by
  obtain ⟨-, -, hquiet, spawned, commands, received, hworld, -⟩ := h
  cases role with
  | loop =>
      refine ⟨by rw [hworld], by rw [hworld], fun h => ⟨hquiet h, ?_⟩⟩
      rw [KeepsDevice, hworld]
      exact KeepsDevice.refl shared
  | service command => simp [Counts, hworld]
  | task _ | reclaimer => trivial

theorem Guarded.settles (hsettles : Settles shared moved) (h : Guarded shared) :
    Guarded moved := by
  obtain ⟨-, -, hquiet, spawned, commands, received, hworld, -⟩ := hsettles
  refine ⟨?_, fun hmoved => ?_⟩
  · rw [hworld]
    exact h.pinned
  · rw [hworld]
    refine h.quiet ?_
    cases hshared : shared.quiet with
    | false => rfl
    | true => simp [hquiet hshared] at hmoved

/-! ### What an operation does to the device -/

/-- Only deleting the devices takes the first one away. -/
theorem keepsDevice_answer (hop : op ≠ .deleteDevices) :
    KeepsDevice shared (Shared.semantics.answer op env shared).2 := by
  let P (next : World) : Prop := ∀ device ∈ shared.world.device.head?,
    ∃ same ∈ next.device.head?, same.uniqueId = device.uniqueId ∧
      same.privateKey = device.privateKey
  have hsame : P shared.world := KeepsDevice.refl shared
  cases hwrites : op.writesDevice with
  | false =>
      intro device hdevice
      exact ⟨device, by rwa [World.answer_device hwrites], rfl, rfl⟩
  | true =>
      cases op with
      | insertDevice device =>
          refine World.checked_ensures (P := P) hsame fun _ _ hnext => ?_
          split at hnext <;> cases hnext
          intro first hfirst
          refine ⟨first, ?_, rfl, rfl⟩
          cases hdevices : shared.world.device with
          | nil => simp [hdevices] at hfirst
          | cons head rest => simpa [hdevices] using hfirst
      | updateDeviceIpv4 uniqueId ipv4Address =>
          refine World.checked_ensures (P := P) hsame fun _ _ hnext => ?_
          split at hnext <;> cases hnext
          rename_i device hfound
          intro first hfirst
          cases hdevices : shared.world.device with
          | nil => simp [hdevices] at hfirst
          | cons head rest =>
              rw [hdevices] at hfirst hfound
              cases hfirst
              by_cases hid : first.uniqueId = uniqueId
              · have hhead : device = first := by simpa [hid] using hfound.symm
                subst hhead
                exact ⟨{ device with ipv4Address := some ipv4Address }, by simp [hid], rfl, rfl⟩
              · exact ⟨first, by simp [hid], rfl, rfl⟩
      | deleteDevices => exact absurd rfl hop
      | _ => cases hwrites

theorem pinned_of_keepsDevice {live : LiveSession} (hkeeps : KeepsDevice shared moved)
    (htoken : shared.world.token ≠ [] → moved.world.token ≠ [])
    (h : shared.world.Pinned live) : moved.world.Pinned live := by
  obtain ⟨⟨device, hdevice, hid, hkey⟩, hsigned⟩ := h
  obtain ⟨same, hsame, hsameId, hsameKey⟩ := hkeeps device hdevice
  exact ⟨⟨same, hsame, by rw [hsameId, hid], by rw [hsameKey, hkey]⟩,
    fun htok => htoken (hsigned htok)⟩

/-- Only a sign-out empties the tokens. -/
theorem token_answer (hspares : Spares role shared op) (hquiet : shared.quiet = true)
    (h : shared.world.token ≠ []) :
    (Shared.semantics.answer op env shared).2.world.token ≠ [] := by
  let P (next : World) : Prop := next.token ≠ []
  cases hwrites : op.writesToken with
  | false => rwa [World.answer_token hwrites]
  | true =>
      cases op with
      | insertToken token => exact World.statement_ensures (P := P) h (by simp [P])
      | deleteTokensBelow id =>
          refine World.statement_ensures (P := P) h ?_
          obtain ⟨-, token, htoken, hid⟩ := hspares
          exact List.ne_nil_of_mem (List.mem_filter.mpr ⟨htoken, by simpa using hid⟩)
      | deleteTokens => simp [Spares, hquiet] at hspares
      | _ => cases hwrites

/-- A session that is live after an operation was live before, or is requested by it. -/
theorem live_of_answer {live : LiveSession}
    (h : live ∈ (World.answer op env shared.world).2.live) :
    live ∈ shared.world.live ∨
      ∃ request, op = .sendNewSession request ∧ live = shared.world.requesting request := by
  cases hwrites : op.writesLive with
  | false => exact .inl (World.answer_live hwrites ▸ h)
  | true =>
      cases op with
      | writeState state =>
          simp only [World.answer] at h
          split at h
          · exact .inl (Option.filter_eq_some_iff.mp h).1
          · exact .inl h
      | sendNewSession request => exact .inr ⟨request, rfl, (Option.mem_some_iff.mp h).symm⟩
      | awaitNewSession request =>
          simp only [World.answer] at h
          split at h
          · exact .inl h
          · cases h
      | _ => cases hwrites

theorem Guarded.answer (h : Guarded shared) (hspares : Spares role shared op) :
    Guarded (Shared.semantics.answer op env shared).2 := by
  have hnone : shared.quiet = false →
      (Shared.semantics.answer op env shared).2.world.live = none := by
    intro hquiet
    cases hlive : (Shared.semantics.answer op env shared).2.world.live with
    | none => rfl
    | some live =>
        rcases live_of_answer hlive with hbefore | ⟨request, rfl, -⟩
        · simp [h.quiet hquiet] at hbefore
        · simp [Spares, hquiet] at hspares
  refine ⟨fun live hlive => ?_, fun hquiet => ?_⟩
  · cases hquiet : shared.quiet with
    | false => cases (hnone hquiet).symm.trans hlive
    | true =>
        have hop : op ≠ .deleteDevices := by
          rintro rfl
          simp [Spares, hquiet] at hspares
        rcases live_of_answer hlive with hbefore | ⟨request, rfl, rfl⟩
        · exact pinned_of_keepsDevice (keepsDevice_answer hop)
            (token_answer hspares hquiet) (h.pinned live hbefore)
        · obtain ⟨-, -, device, hdevice, hid⟩ := hspares
          refine ⟨⟨device, hdevice, hid, ?_⟩, ?_⟩
          · simp [World.requesting, Option.mem_def.mp hdevice]
          · simp [World.requesting, World.answer]
  · cases hbefore : shared.quiet with
    | false => exact hnone hbefore
    | true =>
        have hsigns : signsOut op = true := by simpa [hbefore] using hquiet
        cases op with
        | spawn task => cases task <;> first | exact hspares.2 | cases hsigns
        | sendDeviceCommand command =>
            cases command with
            | signIn userCreds => cases hsigns
            | signOut => simp [Spares, hbefore] at hspares
        | _ => cases hsigns

/-- An operation that keeps its duty is one that the other roles count on. -/
theorem counts_answer (hspares : Spares role shared op) {other : Role}
    (hbeside : role.Beside other) :
    Counts other shared (Shared.semantics.answer op env shared).2 := by
  cases other with
  | loop =>
      have hloop : role ≠ .loop := by
        rintro rfl
        simp [Role.Beside, Role.isLoop] at hbeside
      refine ⟨World.answer_state ?_, World.answer_live ?_, fun hquiet => ⟨?_, ?_⟩⟩
      · cases op <;> first | rfl | exact absurd hspares hloop
      · cases op <;> first
          | rfl | exact absurd hspares hloop | exact absurd hspares.1 hloop
      · cases op with
        | spawn task => cases task <;> first | simpa [signsOut] using hquiet | exact absurd hspares.1 hloop
        | sendDeviceCommand command =>
            cases command with
            | signIn userCreds => simpa [signsOut] using hquiet
            | signOut => simp [Spares, hquiet] at hspares
        | _ => simpa [signsOut] using hquiet
      · refine keepsDevice_answer ?_
        rintro rfl
        simp [Spares, hquiet] at hspares
  | service command =>
      have hservice : role.isService ≠ true := by
        intro hrole
        cases role with
        | service _ => simp [Role.Beside, Role.isService] at hbeside
        | _ => cases hrole
      refine World.answer_token ?_
      cases op <;> first
        | rfl | exact absurd hspares hservice | exact absurd hspares.1 hservice
        | exact absurd hspares.2 hservice
  | task _ | reclaimer => trivial

/-- When no session is live, or the status says that one is in progress, the guard
of the next sign-out is right. -/
def Idle (shared : Shared) : Prop :=
  shared.world.live ≠ none → shared.world.state.vpnStatus ≠ .disconnected

/-- The terms under which the device of a live session stays. -/
def pinning : Discipline Shared.semantics Role where
  contract role :=
    { rely := Counts role
      admits := fun op env shared => Guarded shared ∧
        (role.signsOut = true → shared.quiet = false) ∧
        (role = .loop → shared.keepsApart env op = true)
      duty := fun op _ shared => Spares role shared op
      rely_refl := Counts.refl role
      rely_trans := .trans }
  post
    | .loop, shared => Idle shared
    | _, _ => True
  beside := Role.Beside
  beside_symm := .symm
  invariant := Guarded
  settles := Settles
  rely_of_settles role := fun h => counts_of_settles h role
  invariant_of_settles := Guarded.settles
  perform h _ hspares := ⟨h.answer hspares, fun _ => counts_answer hspares⟩

/-- The program keeps the terms of the role. -/
abbrev Pins {α : Type} (role : Role) (program : Async α) (post : α → Shared → Prop)
    (shared : Shared) : Prop :=
  program.Ensures Shared.semantics (pinning.contract role) post shared

/-- Only requesting a session can make the guard wrong. -/
theorem idle_answer (hop : ∀ request, op ≠ .sendNewSession request)
    (happart : shared.keepsApart env op = true) (h : Idle shared) :
    Idle (Shared.semantics.answer op env shared).2 := by
  intro hlive
  cases op with
  | writeState state =>
      simp only [World.answer] at hlive ⊢
      split at hlive
      · rename_i hstatus
        obtain ⟨live, hlive⟩ := Option.ne_none_iff_exists'.mp hlive
        obtain ⟨hbefore, hclaimless⟩ := Option.filter_eq_some_iff.mp hlive
        simp [Shared.keepsApart, hstatus, hbefore, hclaimless] at happart
      · assumption
  | awaitNewSession request =>
      simp only [World.answer] at hlive ⊢
      split at hlive
      · simpa using h hlive
      · exact absurd rfl hlive
  | sendNewSession request => exact absurd rfl (hop request)
  | _ =>
      rw [World.answer_live rfl] at hlive
      rw [World.answer_state rfl]
      exact h hlive

theorem idle_of_rely (hrely : (pinning.contract .loop).rely shared moved) (h : Idle shared) :
    Idle moved := by
  obtain ⟨hstate, hlive, -⟩ := hrely
  rw [Idle, hstate, hlive]
  exact h

variable {codecs : Codecs}

theorem spares_of_isSparing (h : op.isSparing = true) : Spares .loop shared op := by
  cases op with
  | spawn task => cases task <;> trivial
  | sendDeviceCommand command => cases command <;> trivial
  | _ => trivial

/-- A program of the loop that requests no session and signs nobody out. -/
theorem pins_of_within {α : Type} {program : Async α} (h : Within Op.isSparing program)
    (hidle : Idle shared) : Pins .loop program (fun _ => Idle) shared := by
  refine h.ensures (fun _ _ _ hop _ => spares_of_isSparing hop) idle_of_rely
    (fun {op} _ _ hop hadmits hidle => idle_answer ?_ (hadmits.2.2 rfl) hidle) hidle
  rintro request rfl
  cases hop

/-! ### Connecting -/

/-- A session may be requested with this device id. -/
def Requestable (id : Uuid) (shared : Shared) : Prop :=
  shared.quiet = true ∧
    ∃ device ∈ shared.world.device.head?, Uuid.parseStr device.uniqueId = some id

theorem requestable_of_rely {id : Uuid} (hrely : (pinning.contract .loop).rely shared moved)
    (h : Requestable id shared) : Requestable id moved := by
  obtain ⟨hquiet, device, hdevice, hid⟩ := h
  obtain ⟨hmoved, hkeeps⟩ := hrely.2.2 hquiet
  obtain ⟨same, hsame, hsameId, -⟩ := hkeeps device hdevice
  exact ⟨hmoved, same, hsame, by rw [hsameId, hid]⟩

theorem readState_pins (hidle : Idle shared) : Pins .loop (perform .readState)
    (fun state moved => Idle moved ∧ moved.world.state = state) shared := by
  intro moved choice hrely _
  have hmoved : Idle moved := idle_of_rely hrely hidle
  exact ⟨trivial, fun later hlater => ⟨idle_of_rely hlater hmoved, hlater.1⟩⟩

theorem getDeviceUniqueId_pins (hidle : Idle shared) :
    Pins .loop DeviceStorage.getDeviceUniqueId.run
      (fun result moved => Idle moved ∧ ∀ id ∈ result.toOption, Requestable id moved) shared := by
  refine .exceptBind ?_
  intro moved choice hrely hadmits
  refine ⟨trivial, fun later hlater => ?_⟩
  have hquiet : moved.quiet = true := hadmits.2.2 rfl
  have hmoved : Idle moved := idle_of_rely hrely hidle
  have hkept := idle_of_rely hlater (idle_answer (by simp) (hadmits.2.2 rfl) hmoved)
  cases hdb : choice.dbErr with
  | some error =>
      simp only [World.answer, World.statement, hdb]
      exact fun last hlast => ⟨idle_of_rely hlast hkept, by intros; contradiction⟩
  | none =>
      cases hdevice : moved.world.device.head? with
      | none =>
          simp only [World.answer, World.statement, hdb, hdevice]
          trivial
      | some device =>
          have hrequestable : ∀ {id}, Uuid.parseStr device.uniqueId = some id → Requestable id later := by
            intro id hid
            refine requestable_of_rely hlater ⟨by simpa [signsOut] using hquiet, device, ?_, hid⟩
            simpa [World.answer, World.statement, hdb] using hdevice
          simp only [World.answer, World.statement, hdb, hdevice, Option.map_some,
            Program.EnsuresRest, Fallible.unwrap_some, pure_bind, Fallible.parsed]
          split
          · rename_i id hid
            rintro last hlast
            refine ⟨idle_of_rely hlast hkept, ?_⟩
            rintro _ ⟨⟩
            exact requestable_of_rely hlast (hrequestable hid)
          · trivial

theorem sendNewSession_pins {request : NewSession}
    (h : Requestable request.deviceUniqueId shared) :
    Pins .loop (perform (.sendNewSession request)) (fun _ _ => True) shared := by
  intro moved choice hrely _
  obtain ⟨hquiet, hdevice⟩ := requestable_of_rely hrely h
  exact ⟨⟨rfl, hquiet, hdevice⟩, fun _ _ => trivial⟩

/-- A refused session is not live. -/
theorem awaitNewSession_pins (request : NewSession) :
    Pins .loop (perform (.awaitNewSession request))
      (fun reply moved => ∀ error, reply = .error error → Idle moved) shared := by
  intro moved choice _ _
  refine ⟨rfl, fun later hlater error herror => ?_⟩
  refine idle_of_rely hlater fun hlive => ?_
  simp only [World.answer] at herror hlive
  split at herror
  · cases herror
  · simp_all

theorem updateOnAccepted_pins (accepted : Accepted) :
    Pins .loop (VpnSessionStorage.updateOnAccepted accepted).run
      (fun result _ => result = .ok ()) shared := by
  intro moved choice _ hadmits
  have hdb : choice.dbErr = none := by simpa [Shared.keepsApart] using hadmits.2.2 rfl
  refine ⟨trivial, fun later _ => ?_⟩
  simp [World.answer, World.statement, hdb]

/-- From here on the status says that a session is in progress. -/
theorem accepted_pins (location : Location) :
    Pins .loop (Daemon.modifyState (·.accepted location)) (fun _ => Idle) shared := by
  intro moved choice _ _
  refine ⟨trivial, ?_⟩
  intro later choice' _ _
  refine ⟨rfl, fun last hlast => idle_of_rely hlast fun _ => ?_⟩
  simp [World.answer]

theorem onConnectInner_pins (location : Location) (hidle : Idle shared) :
    Pins .loop (Daemon.onConnectInner location).run (fun _ => Idle) shared := by
  refine .liftBind ((readState_pins hidle).mono fun state moved hmoved => ?_)
  have hidle := hmoved.1
  split
  · exact fun later hlater => idle_of_rely hlater hidle
  have hnew : Within Op.isSparing (VpnSessionStorage.newSession location).run :=
    .exceptBind (.lift (within_perform rfl)) fun _ =>
      .exceptBind (within_perform rfl) fun _ => trivial
  refine .exceptBind (.adapt ((pins_of_within hnew hidle).mono fun result moved hidle => ?_))
  cases result with
  | error error => exact fun later hlater => idle_of_rely hlater hidle
  | ok requestId =>
  refine .exceptBind (.adapt ((getDeviceUniqueId_pins hidle).mono fun result moved hmoved => ?_))
  cases result with
  | error error => exact fun later hlater => idle_of_rely hlater hmoved.1
  | ok deviceUniqueId =>
  refine .liftBind ((sendNewSession_pins (hmoved.2 deviceUniqueId rfl)).mono fun _ moved _ => ?_)
  refine .liftBind ((awaitNewSession_pins _).mono fun reply moved hmoved => ?_)
  cases reply with
  | ok accepted =>
      refine .exceptBind (.adapt ((updateOnAccepted_pins accepted).mono fun result moved hok => ?_))
      subst hok
      refine .liftBind ((accepted_pins location).mono fun _ moved hidle => ?_)
      exact fun later hlater => idle_of_rely hlater hidle
  | error error =>
      refine pins_of_within ?_ (hmoved error rfl)
      refine .exceptBind (.adapt (within_perform rfl)) fun _ => ?_
      refine .exceptBind (.lift (within_perform rfl)) fun _ => ?_
      refine .exceptBind (.lift (within_perform rfl)) fun _ => ?_
      refine .exceptBind (.lift (within_perform rfl)) fun _ => ?_
      exact .exceptBind (.lift ((Daemon.addNotification_within _).mono fun op => by
        cases op <;> simp [Op.inMemory, Op.isSparing])) fun _ => trivial

/-! ### Everything else -/

theorem handleCommand_pins (command : DaemonCommand) (hidle : Idle shared) :
    Pins .loop (Daemon.handleCommand command) (fun _ => Idle) shared := by
  have hmemory : ∀ op : Op, op.inMemory = true → op.isSparing = true := by
    intro op
    cases op <;> simp [Op.inMemory, Op.isSparing]
  cases command with
  | connect location =>
      refine .bind ((pins_of_within (within_perform rfl) hidle).mono fun _ _ hidle => ?_)
      exact .bind ((onConnectInner_pins location hidle).mono fun _ _ hidle =>
        pins_of_within (within_perform rfl) hidle)
  | disconnect =>
      refine pins_of_within (.bind ((Daemon.onDisconnectInner_within _).mono ?_)
        fun _ => within_perform rfl) hidle
      intro op
      cases op <;> simp [Op.inHandler, Op.inMemory, Op.isSparing]
  | accountSignIn userCreds =>
      refine pins_of_within (.bind (within_perform rfl) fun state => ?_) hidle
      split <;> exact within_perform rfl
  | accountSignOut =>
      refine .bind ((readState_pins hidle).mono fun state moved hmoved => ?_)
      split
      · exact pins_of_within (within_perform rfl) hmoved.1
      · rename_i hfree
        -- the status is `Disconnected`, so no session is live, and none will be
        intro later choice hrely _
        have hnone : later.world.live = none := by
          have hstatus : later.world.state.vpnStatus = .disconnected := by
            rw [hrely.1, hmoved.2]
            exact DaemonState.vpnSessionInProgress_eq_none.mp hfree
          by_contra hlive
          exact idle_of_rely hrely hmoved.1 hlive hstatus
        refine ⟨⟨rfl, hnone⟩, fun last hlast => idle_of_rely hlast fun hlive => ?_⟩
        exact absurd hnone hlive
  | getVpnStatus | getNotifications =>
      exact pins_of_within (.bind (within_perform rfl) fun _ => within_perform rfl) hidle
  | ackNotification id =>
      exact pins_of_within (.bind ((Daemon.modifyState_within _).mono hmemory)
        fun _ => within_perform rfl) hidle

theorem handleEvent_pins (event : DaemonEvent) (hidle : Idle shared) :
    Pins .loop (Daemon.handleEvent event) (fun _ => Idle) shared := by
  have hhandler : ∀ op : Op, op.inHandler = true → op.isSparing = true := by
    intro op
    cases op <;> simp [Op.inHandler, Op.inMemory, Op.isSparing]
  cases event with
  | command command => exact handleCommand_pins command hidle
  | shutdown =>
      exact pins_of_within (.bind ((Daemon.onDisconnectInner_within _).mono hhandler)
        fun _ => trivial) hidle
  | vpnSessionStatus status =>
      exact pins_of_within ((Daemon.handleVpnSessionStatus_within status).mono hhandler) hidle
  | tunnelStateTransition transition =>
      exact pins_of_within ((Daemon.handleTunnelStateTransition_within transition).mono hhandler)
        hidle

theorem startup_pins : Pins .loop (startup codecs) (fun _ => Idle) shared.rebooted := by
  refine pins_of_within ((startup_within codecs).mono fun op => ?_) fun hlive => absurd rfl hlive
  cases op <;> simp [Op.inStartup, Op.isSparing]

/-- A program beside the loop whose operations are all its role's to perform. -/
theorem spares_of_within {α : Type} {program : Async α} {footprint : Op → Bool}
    (h : Within footprint program)
    (hspares : ∀ op moved, footprint op = true → (role.signsOut = true → moved.quiet = false) →
      Spares role moved op) :
    Pins role program (fun _ _ => True) shared := by
  refine h.ensures (I := fun _ => True) (fun op _ moved hop hadmits => ?_)
    (fun _ _ => trivial) (fun _ _ _ => trivial) trivial
  exact hspares op moved hop hadmits.2.1

theorem deviceSetup_pins {α : Type} {program : Async α} {command : DeviceCommand}
    (h : Within Op.inDeviceSetup program) :
    Pins (.service command) program (fun _ _ => True) shared :=
  spares_of_within h fun op _ hop _ => by
    cases op <;> trivial

/-- Saving a token leaves it in the table. -/
theorem saveToken_pins (token : String) (userCreds : UserCredentials) :
    Pins (.service (.signIn userCreds)) (TokenStorage.saveToken token).run
      (fun _ _ => True) shared := by
  refine .exceptBind ?_
  intro moved choice _ _
  refine ⟨rfl, fun later hlater => ?_⟩
  cases hdb : choice.dbErr with
  | some error =>
      simp only [World.answer, World.statement, hdb]
      exact fun _ _ => trivial
  | none =>
      simp only [World.answer, World.statement, hdb] at hlater ⊢
      intro last choice' hlast _
      have htoken := Eq.trans hlast hlater
      refine ⟨⟨rfl, ⟨moved.world.tokenSequence + 1, token⟩, ?_, by simp⟩, fun _ _ => trivial⟩
      rw [htoken]
      exact List.mem_append_right _ (List.mem_singleton.mpr rfl)

theorem handleSignInInner_pins (userCreds : UserCredentials) :
    Pins (.service (.signIn userCreds)) (DeviceService.handleSignInInner codecs userCreds).run
      (fun _ _ => True) shared := by
  have hinit : ∀ op : Op, op.inDeviceInit = true → op.inDeviceSetup = true := by
    intro op
    cases op <;> simp [Op.inDeviceInit, Op.inDeviceSetup]
  refine .exceptBindTrivial (.adapt (deviceSetup_pins (within_perform rfl))) fun _ _ => ?_
  refine .exceptBindTrivial (.adapt (deviceSetup_pins (DeviceStorage.init_within codecs hinit)))
    fun _ _ => ?_
  refine .exceptBindTrivial (.adapt (deviceSetup_pins (DeviceStorage.getDevice_within codecs rfl)))
    fun device _ => ?_
  refine .exceptBindTrivial ?_ fun deviceDetails _ => ?_
  · cases device with
    | none => trivial
    | some deviceDetails => exact fun _ _ => trivial
  refine .exceptBindTrivial (.adapt (deviceSetup_pins (within_perform rfl))) fun response _ => ?_
  refine .exceptBindTrivial (.adapt (saveToken_pins _ userCreds)) fun _ _ => ?_
  refine .exceptBindTrivial (.adapt (deviceSetup_pins (DeviceStorage.updateIpv4Address_within codecs
    (fun _ => rfl) (fun _ _ => rfl) _ _))) fun _ _ => ?_
  exact .lift (deviceSetup_pins (within_perform rfl))

theorem service_pins (command : DeviceCommand) :
    Pins (.service command) (DeviceService.handleMessage codecs command)
      (fun _ _ => True) shared := by
  cases command with
  | signIn userCreds =>
      exact .bind ((handleSignInInner_pins userCreds).mono fun _ _ _ =>
        deviceSetup_pins (within_perform rfl))
  | signOut =>
      refine spares_of_within (.bind (DeviceService.handleSignOutInner_within codecs)
        fun _ => within_perform rfl) fun op moved hop hquiet => ?_
      cases op <;> first | trivial | exact hquiet rfl | exact ⟨hquiet rfl, rfl⟩

theorem task_pins (task : Task) :
    Pins (.task task) task.program (fun _ _ => True) shared := by
  cases task with
  | addRecent location =>
      exact spares_of_within (Task.addRecent_within location) fun op _ hop _ => by
        cases op <;> trivial
  | clientConnected sessionInfo =>
      exact spares_of_within (Task.clientConnected_within sessionInfo) fun op _ hop _ => by
        cases op <;> trivial
  | endSession sessionInfo endReason =>
      exact spares_of_within (Task.endSession_within sessionInfo endReason) fun op _ hop _ => by
        cases op <;> trivial
  | signIn userCreds => exact fun _ _ _ _ => ⟨trivial, fun _ _ => trivial⟩
  | signOut => exact fun _ _ _ hadmits => ⟨hadmits.2.1 rfl, fun _ _ => trivial⟩

theorem reclaim_pins :
    Pins .reclaimer (Reclaimer.reclaim codecs) (fun _ _ => True) shared :=
  spares_of_within (Reclaimer.reclaim_within codecs) fun op _ hop _ => by
    cases op <;> trivial

theorem governs_pinning : Governs codecs pinning where
  beside := Iff.rfl
  settles := id
  installed := ⟨nofun, fun _ => rfl⟩
  rebooted _ := ⟨nofun, fun _ => rfl⟩
  startup _ := startup_pins
  ready h hidle := ⟨⟨h.pinned, h.quiet⟩, fun _ hrely => idle_of_rely hrely hidle,
    fun role hrole => by cases role <;> trivial⟩
  take event _ hidle := handleEvent_pins event hidle
  task _ _ := task_pins _
  service command _ _ := service_pins command
  reclaimer _ := reclaim_pins

/-! ## Runs -/

/-- A sign-out is under way as long as one of its programs is. -/
theorem quiet_of_signsOut {machine : Machine} {job : Job ops Role} (hjob : job ∈ machine.jobs)
    (hrole : job.role.signsOut = true) : machine.quiet = false := by
  have hall : machine.jobs.all (!·.role.signsOut) = false :=
    List.all_eq_false.mpr ⟨job, hjob, by simp [hrole]⟩
  simp [quiet, hall]

theorem admitsStep_pinning {machine : Machine} {label : MachineLabel}
    (h : machine.SignOutApart label) : AdmitsStep pinning machine label := by
  cases label with
  | loop env => exact fun op hop _ hguarded => ⟨hguarded, nofun, fun _ => h op hop⟩
  | job index env =>
      refine fun job hjob hloop op hop _ hguarded => ⟨hguarded, fun hrole => ?_, fun hrole => ?_⟩
      · exact quiet_of_signsOut (List.mem_of_getElem? hjob) hrole
      · exact absurd hrole hloop
  | _ => trivial

/-- In a run that keeps sessions and sign-outs apart, the device of a live session
stays, and stays signed in. -/
theorem visits_devicePinned_of_signOutApart {machine : Machine}
    {trace : (system codecs).Trace machine} (h : trace.Obeys SignOutApart) :
    trace.Visits DevicePinned :=
  (visits_sound governs_pinning (h.mono fun _ _ => admitsStep_pinning)).mono
    fun _ hsound => hsound.invariant.pinned

/-- A session is running, and a sign-out is asked for and refused. -/
theorem exists_signOutApart : ∃ machine, ∃ trace : (system Sample.codecs).Trace machine,
    trace.Obeys SignOutApart ∧ machine.world.live.isSome = true ∧
      machine.world.responses.length = 2 ∧ trace.Visits DevicePinned := by
  obtain ⟨machine, trace, hobeys, hcheck⟩ := (system Sample.codecs).exists_trace_of_run
    SignOutApart (rfl : installed Sample.codecs = installed Sample.codecs)
    (Sample.installing ++ Sample.requesting Sample.first 11 ++
      [.post (.command .accountSignOut), .take, .loop Sample.first, .loop Sample.first])
    (fun machine => machine.world.live.isSome = true ∧ machine.world.responses.length = 2)
    (by decide +kernel)
  obtain ⟨hlive, hresponses⟩ := of_decide_eq_true hcheck
  exact ⟨machine, trace, hobeys, hlive, hresponses, visits_devicePinned_of_signOutApart hobeys⟩

/-- A sign-out is let through, a session is accepted, and then the service begins to
sign out. -/
def signingOut (env : Env) : List MachineLabel :=
  [.post (.command .accountSignOut), .take, .loop env, .loop env, .start 0, .job 0 env] ++
    Sample.requesting env 11 ++ [.serve] ++ List.replicate 3 (.job 0 env)

/-- The device of a running session is deleted. -/
theorem not_forall_devicePinned :
    ¬ ∀ machine, (system Sample.codecs).Reachable machine → machine.DevicePinned := by
  intro h
  obtain ⟨machine, trace, -, hcheck⟩ := (system Sample.codecs).exists_trace_of_run
    (fun _ _ => True) (rfl : installed Sample.codecs = installed Sample.codecs)
    (Sample.installing ++ signingOut Sample.first) (fun machine => ¬ machine.DevicePinned)
    (by decide +kernel)
  exact of_decide_eq_true hcheck (h machine ⟨trace⟩)

end Machine

end Modvpn
