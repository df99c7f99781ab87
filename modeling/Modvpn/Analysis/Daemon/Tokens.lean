/-
# The token in memory and the token in the database

A sign-in saves the new token before it notes the address of the device, and puts the
token into memory last. When a statement in between fails, the sign-in is answered with
an error and the database has a token that memory has not. With the statements after
the insertion succeeding, or the older token still there when they do not, memory and
database agree after every command.
-/

import Modvpn.Analysis.Daemon.Footprints
import Modvpn.Analysis.Daemon.Frames
import Modvpn.Daemon.ServiceLoop

namespace Modvpn

open Modvpn.Protocol
open Program (Ensures)

/-- Operations that write a token. -/
def Op.writesTokens : Op → Bool
  | .insertToken _ | .deleteTokensBelow _ | .deleteTokens | .writeServiceToken _ => true
  | _ => false

/-- Operations of the service before a token is written. -/
def Op.sparesTokens : Op → Bool
  | .respond _ => false
  | op => !op.writesTokens

namespace World

variable {world moved later : World}

theorem SameTokens.refl (world : World) : world.SameTokens world := ⟨rfl, rfl, rfl⟩

theorem SameTokens.trans (first : world.SameTokens moved) (second : moved.SameTokens later) :
    world.SameTokens later :=
  ⟨second.1.trans first.1, second.2.1.trans first.2.1, second.2.2.trans first.2.2⟩

theorem SameTokens.storedToken (h : world.SameTokens moved) :
    moved.storedToken = world.storedToken := by
  rw [World.storedToken, h.1]
  rfl

/-- Whoever does not write a token acts elsewhere. -/
theorem sameTokens_answer {op : Op} {env : Env} (h : op.writesTokens = false) :
    world.SameTokens (answer op env world).2 := by
  let tokens (world : World) := (world.token, world.tokenSequence, world.serviceToken)
  have hsame : tokens (answer op env world).2 = tokens world := by
    cases op <;> first
      | rfl
      | exact statement_frame tokens rfl
      | (refine checked_frame tokens fun _ _ heffect => ?_
         split at heffect <;> cases heffect
         rfl)
      | (simp only [answer]; split <;> rfl)
      | cases h
  exact ⟨congrArg (·.1) hsame, congrArg (·.2.1) hsame, congrArg (·.2.2) hsame⟩

end World

namespace ServiceLoop

/-- The server has handed out the token that is in memory. -/
def Renews (world : World) : Prop := world.serviceToken = world.token.getLast?.map (·.token)

/-- The row of this device is there, and can be read back with the new address. -/
def Readdresses (codecs : Codecs) (uniqueId ipv4Address : String) (world : World) : Prop :=
  (world.device.find? (·.uniqueId = uniqueId)).any (fun device => (DeviceDetails.tryFrom codecs
    { device with ipv4Address := some ipv4Address }).toOption.isSome) = true

/-- The statements of a sign-in after its insertion succeed, unless no token changes
for the reader: an older one is still stored, or the new one is the one in memory. -/
def Completes (codecs : Codecs) (op : Op) (env : Env) (world : World) : Prop :=
  match op with
  | .deleteTokensBelow id => env.dbErr = none ∨ (∃ row ∈ world.token, row.id < id) ∨ Renews world
  | .findDeviceById uniqueId =>
      (env.dbErr = none ∧ (world.device.find? (·.uniqueId = uniqueId)).isSome) ∨ Renews world
  | .updateDeviceIpv4 uniqueId ipv4Address =>
      (env.dbErr = none ∧ Readdresses codecs uniqueId ipv4Address world) ∨ Renews world
  | _ => True

instance (world : World) : Decidable (Renews world) := inferInstanceAs (Decidable (_ = _))

instance (codecs : Codecs) (uniqueId ipv4Address : String) (world : World) :
    Decidable (Readdresses codecs uniqueId ipv4Address world) :=
  inferInstanceAs (Decidable (_ = _))

instance (codecs : Codecs) (op : Op) (env : Env) (world : World) :
    Decidable (Completes codecs op env world) := by
  unfold Completes
  split <;> infer_instance

/-! ## The handlers -/

variable (codecs : Codecs) (token : Option String)

/-- Memory and database have this token. -/
def Unchanged (world : World) : Prop := world.serviceToken = token ∧ world.storedToken = token

/-- The service alone writes tokens, and owes that they are as before when it answers
with an error. -/
@[reducible]
def answering : Contract ops Env World where
  rely := World.SameTokens
  admits op env world := Completes codecs op env world
  duty op _ world := ∀ error, op = .respond (.done (.error error)) → Unchanged token world
  rely_refl := World.SameTokens.refl
  rely_trans := World.SameTokens.trans

/-- What a handler leaves behind. -/
def Concluded : Except DeviceError Unit → World → Prop
  | .ok _, world => Agrees world
  | .error _, world => Unchanged token world

variable {codecs token} {world moved : World}

theorem Agrees.sameTokens (h : Agrees world) (hsame : world.SameTokens moved) : Agrees moved := by
  rw [Agrees, hsame.2.2, hsame.storedToken]
  exact h

theorem Unchanged.sameTokens (h : Unchanged token world) (hsame : world.SameTokens moved) :
    Unchanged token moved :=
  ⟨hsame.2.2 ▸ h.1, hsame.storedToken ▸ h.2⟩

theorem Concluded.sameTokens {result : Except DeviceError Unit}
    (h : Concluded token result world) (hsame : world.SameTokens moved) :
    Concluded token result moved := by
  cases result with
  | ok _ => exact Agrees.sameTokens h hsame
  | error error => exact Unchanged.sameTokens h hsame

/-- A program that writes no token leaves the tokens as they are. -/
theorem sparing_answering {α : Type} {program : Async α} (h : Within Op.sparesTokens program)
    (start : World) (hstart : start.SameTokens world) :
    program.Ensures semantics (answering codecs token) (fun _ => start.SameTokens) world := by
  apply h.ensures (I := start.SameTokens) _ _ _ hstart
  · rintro op env later hop - error rfl
    cases hop
  · exact fun hrely hsame => hsame.trans hrely
  · intro op env later hop _ hsame
    refine hsame.trans (World.sameTokens_answer ?_)
    cases op <;> first | rfl | cases hop

/-- The first part of a handler, which may fail and writes no token. -/
theorem sparing_bind {ε α : Type} {f : ε → DeviceError} {first : Fallible ε α}
    {rest : α → Fallible DeviceError Unit} (hfirst : Within Op.sparesTokens first.run)
    (hbefore : Unchanged token world)
    (hrest : ∀ value later, world.SameTokens later →
      (rest value).run.Ensures semantics (answering codecs token) (Concluded token) later) :
    Ensures semantics (answering codecs token) (Concluded token)
      (ExceptT.adapt f first >>= rest).run world := by
  refine .exceptBind (.adapt ((sparing_answering hfirst world (.refl world)).mono
    fun result later hsame => ?_))
  cases result with
  | error error => exact fun last hlast => hbefore.sameTokens (hsame.trans hlast)
  | ok value => exact hrest value later hsame

/-- Tokens have the ids they were given. -/
def Numbered (world : World) : Prop := ∀ row ∈ world.token, row.id ≤ world.tokenSequence

theorem Numbered.sameTokens (h : Numbered world) (hsame : world.SameTokens moved) :
    Numbered moved := by
  intro row hrow
  rw [hsame.1] at hrow
  rw [hsame.2.1]
  exact h row hrow

theorem numbered_answer {op : Op} {env : Env} (h : Numbered world) :
    Numbered (World.answer op env world).2 := by
  by_cases hop : op.writesTokens = true
  · cases op with
    | insertToken text =>
        refine World.statement_ensures (P := Numbered) h fun row hrow => ?_
        rcases List.mem_append.mp hrow with hrow | hrow
        · exact Nat.le_succ_of_le (h row hrow)
        · rw [List.mem_singleton.mp hrow]
    | deleteTokensBelow id =>
        exact World.statement_ensures (P := Numbered) h fun row hrow => h row (List.mem_of_mem_filter hrow)
    | deleteTokens => exact World.statement_ensures (P := Numbered) h nofun
    | writeServiceToken text => exact h
    | _ => cases hop
  · exact h.sameTokens (World.sameTokens_answer (Bool.not_eq_true _ ▸ hop))

/-- The new token is the only one in the database, and the older one is in memory. -/
structure Saved (token : Option String) (text : String) (world : World) : Prop where
  stored : ∃ id, world.token = [⟨id, text⟩]
  memory : world.serviceToken = token

theorem Saved.sameTokens {text : String} (h : Saved token text world)
    (hsame : world.SameTokens moved) : Saved token text moved := by
  obtain ⟨⟨id, hstored⟩, hmemory⟩ := h
  exact ⟨⟨id, hsame.1.trans hstored⟩, hsame.2.2.trans hmemory⟩

/-- A saved token that is the one in memory changes nothing. -/
theorem Saved.unchanged {text : String} (h : Saved token text world) (hrenews : Renews world) :
    Unchanged token world := by
  obtain ⟨⟨id, hstored⟩, hmemory⟩ := h
  refine ⟨hmemory, ?_⟩
  rw [← hmemory, hrenews, World.storedToken, hstored]
  rfl

/-- What a step of a sign-in leaves once the token is saved. -/
def SavedOr (token : Option String) (text : String) {ε α : Type} : Except ε α → World → Prop
  | .ok _, world => Saved token text world
  | .error _, world => Unchanged token world

/-- Nothing but the token was saved when saving it fails. -/
theorem saveToken_answering {text : String} (hbefore : Unchanged token world)
    (hnumbered : Numbered world) :
    Ensures semantics (answering codecs token) (SavedOr token text)
      (TokenStorage.saveToken text).run world := by
  refine .exceptBind ?_
  intro moved env hrely _
  have hmoved := hbefore.sameTokens hrely
  have hids := hnumbered.sameTokens hrely
  refine ⟨by simp, ?_⟩
  cases hdb : env.dbErr with
  | some error =>
      simp only [World.answer, World.statement, hdb]
      exact fun later hlater last hlast => hmoved.sameTokens (hlater.trans hlast)
  | none =>
      simp only [World.answer, World.statement, hdb]
      intro inserted hinserted
      have htoken : inserted.token = moved.token ++ [⟨moved.tokenSequence + 1, text⟩] := hinserted.1
      have hmemory : inserted.serviceToken = token := hinserted.2.2.trans hmoved.1
      simp only [Program.EnsuresRest]
      intro deleting choice hdeleting hadmits
      have hrows : deleting.token = moved.token ++ [⟨moved.tokenSequence + 1, text⟩] :=
        hdeleting.1.trans htoken
      have hkept : deleting.serviceToken = token := hdeleting.2.2.trans hmemory
      refine ⟨by simp, ?_⟩
      cases hfails : choice.dbErr with
      | some error =>
          simp only [World.answer, World.statement, hfails]
          intro last hlast
          refine Unchanged.sameTokens ⟨hkept, ?_⟩ hlast
          -- with an older token stored, the reader still finds that one
          have holder : moved.token ≠ [] := by
            intro hnone
            have hstored : token = none := by
              rw [← hmoved.2, World.storedToken, hnone]
              rfl
            rcases hadmits with hworks | ⟨row, hrow, hid⟩ | hrenews
            · rw [hfails] at hworks
              cases hworks
            · rw [hrows, hnone, List.nil_append, List.mem_singleton] at hrow
              rw [hrow] at hid
              exact Nat.lt_irrefl _ hid
            · rw [Renews, hkept, hstored, hrows] at hrenews
              simp at hrenews
          rw [World.storedToken, hrows, List.head?_append_of_ne_nil _ holder]
          exact hmoved.2
      | none =>
          simp only [World.answer, World.statement, hfails]
          intro last hlast
          refine ⟨⟨moved.tokenSequence + 1, hlast.1.trans ?_⟩, hlast.2.2.trans hkept⟩
          have holder : moved.token.filter (fun row => !decide (row.id < moved.tokenSequence + 1)) =
              [] := by
            rw [List.filter_eq_nil_iff]
            intro row hrow
            simpa using Nat.lt_succ_of_le (hids row hrow)
          simp only [hrows, List.filter_append, holder]
          simp

theorem updateIpv4Address_answering {text : String} (uniqueId : Uuid) (ipv4Address : Ipv4Addr)
    (hsaved : Saved token text world) :
    Ensures semantics (answering codecs token) (SavedOr token text)
      (DeviceStorage.updateIpv4Address codecs uniqueId ipv4Address).run world := by
  refine .exceptBind ?_
  intro moved env hrely hadmits
  have hmoved := hsaved.sameTokens hrely
  refine ⟨by simp, ?_⟩
  have hfails {moved later : World} (hmoved : Saved token text moved)
      (hlater : moved.SameTokens later) (hrenews : Renews moved) : Unchanged token later :=
    (hmoved.unchanged hrenews).sameTokens hlater
  cases hdb : env.dbErr with
  | some error =>
      simp only [World.answer, World.statement, hdb]
      intro later hlater last hlast
      apply hfails hmoved (hlater.trans hlast)
      rcases hadmits with ⟨hworks, -⟩ | hrenews
      · rw [hdb] at hworks
        cases hworks
      · exact hrenews
  | none =>
      simp only [World.answer, World.statement, hdb]
      intro later hlater
      cases hfound : moved.device.find? (·.uniqueId = uniqueId.toText) with
      | none =>
          intro last hlast
          apply hfails hmoved (hlater.trans hlast)
          rcases hadmits with ⟨-, hsome⟩ | hrenews
          · rw [hfound] at hsome
            cases hsome
          · exact hrenews
      | some device =>
          simp only [Program.EnsuresRest]
          refine .exceptBind ?_
          intro updating choice hupdating hchoice
          have hkept := hmoved.sameTokens (hlater.trans hupdating)
          have hsame : updating.SameTokens
              (World.answer (.updateDeviceIpv4 device.uniqueId ipv4Address.toText) choice
                updating).2 := World.sameTokens_answer rfl
          refine ⟨by simp, fun last hlast => ?_⟩
          have hend := hsame.trans hlast
          rcases hchoice with ⟨hworks, hread⟩ | hrenews
          · obtain ⟨row, hrow, hread⟩ := (Option.any_eq_true ..).mp hread
            simp only [World.answer, World.checked, hworks, hrow]
            simp only [Program.EnsuresRest]
            cases hdetails : DeviceDetails.tryFrom codecs
                { row with ipv4Address := some ipv4Address.toText } with
            | error error =>
                rw [hdetails] at hread
                cases hread
            | ok details => exact fun final hfinal => hkept.sameTokens (hend.trans hfinal)
          · generalize (World.answer (.updateDeviceIpv4 device.uniqueId ipv4Address.toText) choice
              updating).1 = answer
            cases answer with
            | error error => exact fun final hfinal => hfails hkept (hend.trans hfinal) hrenews
            | ok row =>
                simp only [Program.EnsuresRest]
                cases DeviceDetails.tryFrom codecs row with
                | error error => exact fun final hfinal => hfails hkept (hend.trans hfinal) hrenews
                | ok details => exact fun final hfinal => hkept.sameTokens (hend.trans hfinal)

theorem handleSignInInner_answering (userCreds : UserCredentials)
    (hbefore : Unchanged token world) (hnumbered : Numbered world) :
    Ensures semantics (answering codecs token) (Concluded token)
      (DeviceService.handleSignInInner codecs userCreds).run world := by
  have hinit : ∀ op : Op, op.inDeviceInit = true → op.sparesTokens = true := by
    intro op hop
    cases op <;> first | rfl | cases hop
  refine sparing_bind (within_perform rfl) hbefore fun _ first hfirst => ?_
  refine sparing_bind (DeviceStorage.init_within codecs hinit) (hbefore.sameTokens hfirst)
    fun _ second hsecond => ?_
  refine sparing_bind (DeviceStorage.getDevice_within codecs rfl)
    (hbefore.sameTokens (hfirst.trans hsecond)) fun device third hthird => ?_
  cases device with
  | none => trivial
  | some deviceDetails =>
      have hsame := (hfirst.trans hsecond).trans hthird
      refine sparing_bind (within_perform rfl) (hbefore.sameTokens hsame)
        fun addDeviceResponse fourth hfourth => ?_
      have hready := hsame.trans hfourth
      refine .exceptBind (.adapt ((saveToken_answering (hbefore.sameTokens hready)
        (hnumbered.sameTokens hready)).mono fun result saving hsaving => ?_))
      cases result with
      | error error => exact fun last hlast => hsaving.sameTokens hlast
      | ok _ =>
          refine .exceptBind (.adapt ((updateIpv4Address_answering _ _ hsaving).mono
            fun result updating hupdating => ?_))
          cases result with
          | error error => exact fun last hlast => hupdating.sameTokens hlast
          | ok details =>
              apply Ensures.lift
              intro writing env hwriting _
              refine ⟨nofun, fun last hlast => ?_⟩
              obtain ⟨⟨id, hstored⟩, -⟩ := Saved.sameTokens hupdating hwriting
              apply Agrees.sameTokens _ hlast
              show some addDeviceResponse.token = writing.token.head?.map (·.token)
              rw [hstored]
              rfl

theorem handleSignOutInner_answering (hbefore : Unchanged token world) :
    Ensures semantics (answering codecs token) (Concluded token)
      (DeviceService.handleSignOutInner codecs).run world := by
  have hinit : ∀ op : Op, op.inDeviceInit = true → op.sparesTokens = true := by
    intro op hop
    cases op <;> first | rfl | cases hop
  have hrest {world : World} (hbefore : Unchanged token world) :
      Ensures semantics (answering codecs token) (Concluded token) (do
        ExceptT.adapt .dbErr (DeviceStorage.reinitialize codecs "sign out")
        ExceptT.adapt .dbErr TokenStorage.removeAll
        ExceptT.lift (perform (.writeServiceToken none)) : Fallible DeviceError Unit).run world := by
    refine sparing_bind (DeviceStorage.reinitialize_within codecs hinit rfl _) hbefore
      fun _ first hfirst => ?_
    refine .exceptBind (.adapt ?_)
    intro moved env hrely _
    have hmoved := hbefore.sameTokens (hfirst.trans hrely)
    refine ⟨by simp, ?_⟩
    cases hdb : env.dbErr with
    | some error =>
        simp only [World.answer, World.statement, hdb]
        exact fun later hlater last hlast => hmoved.sameTokens (hlater.trans hlast)
    | none =>
        simp only [World.answer, World.statement, hdb]
        intro later hlater
        apply Ensures.lift
        intro writing choice hwriting _
        refine ⟨by simp, fun last hlast => ?_⟩
        apply Agrees.sameTokens _ hlast
        show none = writing.token.head?.map (·.token)
        rw [hwriting.1, hlater.1]
        rfl
  refine sparing_bind (within_perform rfl) hbefore fun _ first hfirst => ?_
  refine .liftBind ((sparing_answering (within_perform rfl) first (.refl first)).mono
    fun status second hsecond => ?_)
  have hsame := hbefore.sameTokens (hfirst.trans hsecond)
  split
  · split
    · exact fun last hlast => hsame.sameTokens hlast
    · exact hrest hsame
  · exact hrest hsame

/-- A handler keeps the terms, and leaves tokens behind that agree. -/
theorem handleMessage_answering (command : DeviceCommand) (hagrees : Agrees world)
    (hnumbered : Numbered world) :
    (DeviceService.handleMessage codecs command).Ensures semantics
      (answering codecs world.serviceToken) (fun _ => Agrees) world := by
  have hbefore : Unchanged world.serviceToken world := ⟨rfl, hagrees.symm⟩
  have hrespond {result : Except DeviceError Unit} {later : World}
      (hlater : Concluded world.serviceToken result later) :
      (perform (.respond (.done (result.mapError .deviceError)))).Ensures semantics
        (answering codecs world.serviceToken) (fun _ => Agrees) later := by
    intro moved env hrely _
    have hmoved := hlater.sameTokens hrely
    have hlast (last : World) (hlast : moved.SameTokens last) : Agrees last := by
      apply Agrees.sameTokens _ hlast
      cases result with
      | ok _ => exact hmoved
      | error error => exact hmoved.1.trans hmoved.2.symm
    refine ⟨?_, hlast⟩
    cases result with
    | ok _ => exact nofun
    | error error => exact fun _ _ => hmoved
  cases command with
  | signIn userCreds =>
      exact .bind ((handleSignInInner_answering userCreds hbefore hnumbered).mono
        fun _ _ => hrespond)
  | signOut => exact .bind ((handleSignOutInner_answering hbefore).mono fun _ _ => hrespond)

/-! ## Runs -/

/-- What the loop, its tasks and the reclaimer do is elsewhere. -/
theorem step_elsewhere {op : Op} (env : Env) (loop : ServiceLoop)
    (h : (op.inEvent || op.inTask || op.inEnding) = true) :
    step codecs loop (.elsewhere (World.answer op env loop.world).2) =
      some { loop with world := (World.answer op env loop.world).2 } := by
  have hwrites : op.writesTokens = false := by
    cases op <;> first | rfl | cases h
  exact if_pos (World.sameTokens_answer hwrites)

/-- The operation of the step meets the condition. -/
def Obeying (codecs : Codecs) (loop : ServiceLoop) : ServiceLabel → Prop
  | .perform env => ∀ op ∈ loop.nextOp, Completes codecs op env loop.world
  | _ => True

/-- The tokens agree between two commands, and the handler keeps the terms. -/
structure Sound (codecs : Codecs) (loop : ServiceLoop) : Prop where
  numbered : Numbered loop.world
  idle : loop.handler = none → Agrees loop.world
  handling : ∀ program, loop.handler = some program →
    program.Ensures semantics (answering codecs loop.before) (fun _ => Agrees) loop.world

variable {source target : ServiceLoop}

theorem Sound.step {label : ServiceLabel} (h : source.Sound codecs)
    (hstep : ServiceLoop.step codecs source label = some target)
    (hobeys : source.Obeying codecs label) : target.Sound codecs := by
  cases label with
  | handleMessage command =>
      simp only [ServiceLoop.step] at hstep
      split at hstep
      · rename_i hidle
        cases hstep
        refine ⟨h.numbered, nofun, ?_⟩
        rintro _ ⟨⟩
        exact handleMessage_answering command (h.idle hidle) h.numbered
      · cases hstep
  | perform env =>
      simp only [ServiceLoop.step] at hstep
      split at hstep
      · rename_i op next hhandler
        have hcompletes : Completes codecs op env source.world :=
          hobeys op (by rw [nextOp, hhandler]; rfl)
        obtain ⟨-, hnext⟩ := (h.handling _ hhandler).step hcompletes
        cases hstep
        refine ⟨numbered_answer h.numbered, fun hidle => ?_, fun program hprogram => ?_⟩
        · simp only [handlerAfter] at hidle
          split at hidle
          · rename_i value hvalue
            rw [hvalue] at hnext
            exact hnext _ (.refl _)
          all_goals cases hidle
        · have hrest : next (World.answer op env source.world).1 = program := by
            simp only [handlerAfter] at hprogram
            split at hprogram
            · cases hprogram
            all_goals exact Option.some.inj hprogram
          exact hrest ▸ hnext
      · cases hstep
  | elsewhere moved =>
      simp only [ServiceLoop.step] at hstep
      split at hstep
      · rename_i hsame
        cases hstep
        exact ⟨h.numbered.sameTokens hsame, fun hidle => (h.idle hidle).sameTokens hsame,
          fun program hprogram => (h.handling program hprogram).of_rely hsame⟩
      · cases hstep

theorem Sound.consistent (h : source.Sound codecs) : source.Consistent := by
  refine ⟨h.idle, fun error hop => ?_⟩
  rw [nextOp, Option.bind_eq_some_iff] at hop
  obtain ⟨program, hhandler, hnext⟩ := hop
  cases program with
  | pure value | panic message => cases hnext
  | perform op next =>
      obtain rfl := Option.some.inj hnext
      have hadmits : (answering codecs source.before).admits
          (.respond (.done (.error error))) Sample.first source.world := trivial
      exact ((h.handling _ hhandler).step hadmits).1 error rfl

/-- In every run whose sign-ins complete their statements, the tokens agree after every
command, and a command that is answered with an error has changed neither. -/
theorem visits_consistent_of_obeying {loop : ServiceLoop}
    {trace : (system codecs).Trace loop} (h : trace.Obeys (Obeying codecs)) :
    trace.Visits Consistent := by
  have hsound : trace.Visits (Sound codecs) := by
    refine TransitionSystem.Trace.visits_of_obeys ?_ ?_ h
    · rintro loop ⟨hidle, hagrees, hnumbered⟩
      refine ⟨hnumbered, fun _ => hagrees, fun program hprogram => ?_⟩
      rw [hidle] at hprogram
      cases hprogram
    · exact fun source label target hstep hobeys hsource => hsource.step hstep hobeys
  exact hsound.mono fun _ => Sound.consistent

/-! ## Signing in on a disk that fails -/

instance (codecs : Codecs) (loop : ServiceLoop) : DecidablePred (loop.Obeying codecs)
  | .perform _ => inferInstanceAs (Decidable (∀ op ∈ loop.nextOp, _))
  | .handleMessage _ | .elsewhere _ => .isTrue trivial

/-- A service that nobody has signed in to. -/
def created : ServiceLoop where
  world := (Machine.installed Sample.codecs).world
  handler := none
  before := none

theorem init_created : (system Sample.codecs).Init created := ⟨rfl, rfl, nofun⟩

/-- This many operations of a handler. -/
def performing (env : Env) (operations : Nat) : List ServiceLabel :=
  List.replicate operations (.perform env)

def signingIn : ServiceLabel := .handleMessage (.signIn { email := "a@b.c", password := "secret" })

/-- The disk is full. -/
def full : Env := { Sample.first with dbErr := some (.exec "database or disk is full") }

/-- The server hands out another token. -/
def another : Env :=
  { Sample.first with
    addDevice := .ok { token := "another", deviceAddresses := ⟨⟨10, 0, 0, 2⟩⟩ } }

/-- The address of the device is not written after the token was. -/
theorem not_forall_consistent : ¬ ∀ (codecs : Codecs) (loop : ServiceLoop),
    (system codecs).Reachable loop → loop.Consistent := by
  intro h
  obtain ⟨loop, trace, -, hcheck⟩ := (system Sample.codecs).exists_trace_of_run
    (fun _ _ => True) init_created
    ([signingIn] ++ performing Sample.first 8 ++ performing full 2)
    (fun loop => loop.handler.isNone && !decide (Agrees loop.world)) (by decide +kernel)
  rw [Bool.and_eq_true, Option.isNone_iff_eq_none] at hcheck
  have hagrees := (h Sample.codecs loop ⟨trace⟩).1 hcheck.1
  simp [hagrees] at hcheck

/-- Signing in; then a sign-in whose deletion of the older token fails; then signing out. -/
theorem exists_obeying : ∃ (loop : ServiceLoop) (trace : (system Sample.codecs).Trace loop),
    trace.Obeys (Obeying Sample.codecs) ∧ loop.world.token = [] ∧ trace.Visits Consistent := by
  obtain ⟨loop, trace, hobeys, hcheck⟩ := (system Sample.codecs).exists_trace_of_run
    (Obeying Sample.codecs) init_created
    ([signingIn] ++ performing Sample.first 12 ++ [signingIn] ++ performing another 5 ++
      performing full 2 ++ [.handleMessage .signOut] ++ performing Sample.first 9)
    (fun loop => loop.handler.isNone && loop.world.token.isEmpty) (by decide +kernel)
  rw [Bool.and_eq_true, List.isEmpty_iff] at hcheck
  exact ⟨loop, trace, hobeys, hcheck.2, visits_consistent_of_obeying hobeys⟩

end ServiceLoop

end Modvpn
