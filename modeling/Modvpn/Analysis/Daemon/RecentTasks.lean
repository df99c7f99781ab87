/-
# Recent locations recorded at the same time

The three statements of a task are not one: between the delete and the insert of a
location another task may insert the same code, and then the table has it twice. This is
the only thing that can go wrong. As long as no insert finds its code in the table, a code
is at all times in the table or in a task that has yet to insert it, and what the table
loses it loses because it is full.
-/

import Mathlib.Data.Finset.Dedup
import Modvpn.Analysis.Daemon.Governing
import Modvpn.Analysis.Daemon.RecentLocations

namespace Modvpn

open Modvpn.Protocol
open Modvpn.Protocol.RecentlyUsed
open Entity (RecentLocation)

/-! ## Every table of the daemon is in order -/

theorem World.Numbered.answer {world : World} {op : Op} {env : Env} (h : world.Numbered) :
    (World.answer op env world).2.Numbered := by
  cases hop : op.writesRecent with
  | false =>
      have hsame : ((World.answer op env world).2.recentLocations,
          (World.answer op env world).2.recentSequence) =
            (world.recentLocations, world.recentSequence) := World.answer_recent hop
      obtain ⟨hrows, hsequence⟩ := Prod.mk.inj hsame
      exact ⟨by rw [hrows]; exact h.ascending, by rw [hrows, hsequence]; exact h.drawn⟩
  | true =>
      cases op with
      | deleteRecent code => exact World.statement_ensures (P := Numbered) h h.withoutRecent
      | insertRecent location => exact World.statement_ensures (P := Numbered) h h.withRecent
      | trimRecent limit =>
          refine World.statement_ensures (P := Numbered) h ?_
          simp only [h.filter_kept limit]
          exact h.trimmedRecent
      | _ => cases hop

theorem Machine.numbered_of_reachable {codecs : Codecs} {machine : Machine}
    (h : (Machine.system codecs).Reachable machine) : machine.world.Numbered := by
  refine invariant_of_reachable (I := fun shared => shared.world.Numbered) ?_ ?_ ?_ ?_ ?_ h
  · exact LocationStorage.numbered_of_recentLocations rfl
  · exact fun hshared => ⟨hshared.ascending, hshared.drawn⟩
  · exact fun hshared => hshared
  · rintro shared moved ⟨-, -, -, spawned, commands, received, hworld, -⟩ hshared
    rw [hworld]
    exact ⟨hshared.ascending, hshared.drawn⟩
  · exact fun hshared => hshared.answer

namespace Recording

variable {recording source target : Recording} {label : RecordingLabel} {world : World}
  {locations : List Location}

/-! ## Where a task is -/

/-- The statement that a task performs next. -/
inductive Stage
  | deleting
  | inserting
  | trimming
  | finished
  deriving DecidableEq

namespace Stage

/-- What is left of the task of a location. -/
def program (location : Location) : Stage → Async Unit
  | .deleting => (Task.addRecent location).program
  | .inserting => do
      let _ ← (do
        ExceptT.mk (perform (.insertRecent location))
        ExceptT.mk (perform (.trimRecent LocationStorage.recentLimit)) : Fallible DbErr Unit).run
      return ()
  | .trimming => do
      let _ ← perform (.trimRecent LocationStorage.recentLimit)
      return ()
  | .finished => return ()

def next : Stage → Stage
  | .deleting => .inserting
  | .inserting => .trimming
  | .trimming => .finished
  | .finished => .finished

/-- What the statement does when it succeeds. -/
def effect (location : Location) (world : World) : Stage → World
  | .deleting => world.withoutRecent location.code
  | .inserting => world.withRecent location
  | .trimming => world.trimmedRecent LocationStorage.recentLimit
  | .finished => world

/-- The location is yet to be inserted. -/
def isPending : Stage → Bool
  | .deleting | .inserting => true
  | .trimming | .finished => false

end Stage

/-- A task of a location, where it is. -/
structure Recorder where
  location : Location
  stage : Stage

def Recorder.isPending (recorder : Recorder) : Bool := recorder.stage.isPending

def Recorder.program (recorder : Recorder) : Async Unit := recorder.stage.program recorder.location

/-- The task whose turn it is would insert a code that the table has. -/
def insertsTaken (recording : Recording) (index : Nat) : Bool :=
  match recording.tasks[index]? with
  | some (.perform (.insertRecent location) _) =>
      recording.world.recentLocations.any (·.code = location.code)
  | _ => false

/-- The statement succeeds, and does not insert a code that the table has. -/
def InsertsFree (recording : Recording) (label : RecordingLabel) : Prop :=
  label.env.dbErr = none ∧ recording.insertsTaken label.index = false

instance : DecidableRel InsertsFree := fun _ _ => inferInstanceAs (Decidable (_ ∧ _))

/-- A task that is not over performs the statement of its stage. -/
theorem Stage.program_eq (location : Location) {stage : Stage} (h : stage ≠ .finished) :
    ∃ op next, stage.program location = .perform op next ∧
      ∀ {env : Env} {world : World}, env.dbErr = none → world.Numbered →
        next (World.answer op env world).1 = stage.next.program location ∧
          (World.answer op env world).2 = stage.effect location world := by
  cases stage with
  | deleting =>
      refine ⟨.deleteRecent location.code, _, rfl, fun hdb _ => ?_⟩
      rw [World.answer_deleteRecent hdb]
      exact ⟨rfl, rfl⟩
  | inserting =>
      refine ⟨.insertRecent location, _, rfl, fun hdb _ => ?_⟩
      rw [World.answer_insertRecent hdb]
      exact ⟨rfl, rfl⟩
  | trimming =>
      refine ⟨.trimRecent LocationStorage.recentLimit, _, rfl, fun hdb hnumbered => ?_⟩
      rw [hnumbered.answer_trimRecent hdb]
      exact ⟨rfl, rfl⟩
  | finished => exact absurd rfl h

/-- A statement that succeeds takes its task to the next stage. -/
theorem recorder_step {recorder : Recorder} (hdb : label.env.dbErr = none)
    (hnumbered : source.world.Numbered) (htask : source.tasks[label.index]? = some recorder.program)
    (hstep : step source label = some target) :
    recorder.stage ≠ .finished ∧
      target = {
        world := recorder.stage.effect recorder.location source.world
        tasks := source.tasks.set label.index
          (recorder.stage.next.program recorder.location) } := by
  obtain ⟨location, stage⟩ := recorder
  have hbusy : stage ≠ .finished := by
    rintro rfl
    simp [step, htask, Recorder.program, Stage.program] at hstep
  obtain ⟨op, next, hprogram, heffect⟩ := Stage.program_eq location hbusy
  simp only [step, htask, Recorder.program, hprogram] at hstep
  cases hstep
  obtain ⟨hnext, hworld⟩ := heffect hdb hnumbered
  rw [hnext, hworld]
  exact ⟨hbusy, rfl⟩

/-! ## No code is lost -/

/-- The codes in the table. -/
def codes (world : World) : Finset String := (world.recentLocations.map (·.code)).toFinset

/-- The codes that tasks have yet to insert. -/
def pending (recorders : List Recorder) : Finset String :=
  ((recorders.filter Recorder.isPending).map (·.location.code)).toFinset

theorem pending_append_cons (before after : List Recorder) (recorder : Recorder) :
    pending (before ++ recorder :: after) =
      (if recorder.isPending then {recorder.location.code} else ∅) ∪
        pending (before ++ after) := by
  simp only [pending, List.filter_append, List.map_append, List.toFinset_append]
  by_cases hpending : recorder.isPending = true
  · rw [List.filter_cons_of_pos hpending, List.map_cons, List.toFinset_cons, Finset.union_insert,
      Finset.insert_eq, if_pos hpending]
  · rw [List.filter_cons_of_neg hpending, if_neg hpending, Finset.empty_union]

theorem codes_withoutRecent (world : World) (code : String) :
    codes (world.withoutRecent code) = (codes world).erase code := by
  ext other
  simp only [codes, World.withoutRecent, List.mem_toFinset, List.mem_map, List.mem_filter,
    decide_eq_true_eq, Finset.mem_erase]
  constructor
  · rintro ⟨row, ⟨hrow, hne⟩, rfl⟩
    exact ⟨hne, row, hrow, rfl⟩
  · rintro ⟨hne, row, hrow, rfl⟩
    exact ⟨row, ⟨hrow, hne⟩, rfl⟩

theorem codes_withRecent (world : World) (location : Location) :
    codes (world.withRecent location) = insert location.code (codes world) := by
  ext other
  simp [codes, World.withRecent, World.newRecent, eq_comm]

theorem codes_trimmedRecent_subset (world : World) (limit : Nat) :
    codes (world.trimmedRecent limit) ⊆ codes world := by
  intro code hcode
  rw [codes, List.mem_toFinset] at hcode ⊢
  exact ((world.trimmedRecent_sublist limit).map _).subset hcode

/-- Where no code is there twice, there are as many codes as rows. -/
theorem card_codes (h : (world.recentLocations.map (·.code)).Nodup) :
    (codes world).card = world.recentLocations.length := by
  rw [codes, List.toFinset_card_of_nodup h, List.length_map]

/-- What holds between two statements as long as no insert finds its code. -/
structure Tidy (all : Finset String) (recorders : List Recorder) (recording : Recording) :
    Prop where
  tasks : recording.tasks = recorders.map Recorder.program
  numbered : recording.world.Numbered
  distinct : (recording.world.recentLocations.map (·.code)).Nodup
  accounted : Accounted LocationStorage.recentLimit all (codes recording.world) (pending recorders)
  trims : recording.world.recentLocations.length ≤ LocationStorage.recentLimit ∨
    ∃ recorder ∈ recorders, recorder.stage ≠ .finished

variable {all : Finset String} {before after recorders : List Recorder} {recorder : Recorder}

theorem exists_append_of_step (htasks : source.tasks = recorders.map Recorder.program)
    (hstep : step source label = some target) :
    ∃ before recorder after, recorders = before ++ recorder :: after ∧
      before.length = label.index ∧ source.tasks[label.index]? = some recorder.program := by
  have hindex : label.index < recorders.length := by
    by_contra hlong
    have hnone : source.tasks[label.index]? = none := by
      rw [htasks, List.getElem?_eq_none_iff, List.length_map]
      exact Nat.not_lt.mp hlong
    simp [step, hnone] at hstep
  refine ⟨recorders.take label.index, recorders[label.index], recorders.drop (label.index + 1),
    ?_, List.length_take_of_le hindex.le, ?_⟩
  · rw [← List.drop_eq_getElem_cons hindex, List.take_append_drop]
  · simp [htasks, hindex]

/-- The table and the pool after the statement of a recorder. -/
def performed (before after : List Recorder) (recorder : Recorder) (world : World) : Recording where
  world := recorder.stage.effect recorder.location world
  tasks := (before ++ { recorder with stage := recorder.stage.next } :: after).map Recorder.program

theorem Tidy.delete {location : Location}
    (h : Tidy all (before ++ ⟨location, .deleting⟩ :: after) source) :
    Tidy all (before ++ ⟨location, .inserting⟩ :: after)
      (performed before after ⟨location, .deleting⟩ source.world) where
  tasks := rfl
  numbered := h.numbered.withoutRecent
  distinct := h.distinct.sublist (List.filter_sublist.map _)
  accounted := by
    have haccounted := h.accounted
    rw [pending_append_cons] at haccounted ⊢
    apply haccounted.move
    have hcodes := codes_withoutRecent source.world location.code
    simp only [performed, Stage.effect, hcodes]
    -- the code is deleted by who is about to insert it
    ext code
    by_cases hsame : code = location.code <;>
      simp [hsame, Recorder.isPending, Stage.isPending]
  trims := .inr ⟨_, List.mem_append_right _ (List.mem_cons_self ..), nofun⟩

theorem Tidy.insert {location : Location}
    (h : Tidy all (before ++ ⟨location, .inserting⟩ :: after) source)
    (hfree : location.code ∉ source.world.recentLocations.map (·.code)) :
    Tidy all (before ++ ⟨location, .trimming⟩ :: after)
      (performed before after ⟨location, .inserting⟩ source.world) where
  tasks := rfl
  numbered := h.numbered.withRecent
  distinct := by
    simp only [performed, Stage.effect, World.withRecent, List.map_append]
    exact h.distinct.append (List.nodup_singleton _) (List.disjoint_singleton.mpr hfree)
  accounted := by
    have haccounted := h.accounted
    rw [pending_append_cons] at haccounted ⊢
    apply haccounted.move
    have hcodes := codes_withRecent source.world location
    simp only [performed, Stage.effect, hcodes]
    ext code
    simp [Recorder.isPending, Stage.isPending]
  trims := .inr ⟨_, List.mem_append_right _ (List.mem_cons_self ..), nofun⟩

theorem Tidy.trim {location : Location}
    (h : Tidy all (before ++ ⟨location, .trimming⟩ :: after) source) :
    Tidy all (before ++ ⟨location, .finished⟩ :: after)
      (performed before after ⟨location, .trimming⟩ source.world) where
  tasks := rfl
  numbered := h.numbered.trimmedRecent
  distinct := h.distinct.sublist ((source.world.trimmedRecent_sublist _).map _)
  accounted := by
    have haccounted := h.accounted
    rw [pending_append_cons] at haccounted ⊢
    have hfewer := codes_trimmedRecent_subset source.world LocationStorage.recentLimit
    by_cases hroom : source.world.recentLocations.length ≤ LocationStorage.recentLimit
    · have hsame := source.world.trimmedRecent_of_length_le hroom
      apply haccounted.move
      simp only [performed, Stage.effect, hsame]
      rfl
    · apply haccounted.trim hfewer
      have hdistinct := h.distinct.sublist
        ((source.world.trimmedRecent_sublist LocationStorage.recentLimit).map _)
      rw [card_codes hdistinct, World.length_trimmedRecent]
      omega
  trims := by
    refine .inl ?_
    simp only [performed, Stage.effect]
    rw [World.length_trimmedRecent]
    exact Nat.min_le_left ..

/-- No insert finds its code, and so the pool stays tidy. -/
theorem Tidy.step (h : Tidy all recorders source) (hfree : InsertsFree source label)
    (hstep : Recording.step source label = some target) :
    ∃ moved, Tidy all moved target := by
  obtain ⟨before, recorder, after, rfl, hindex, htask⟩ := exists_append_of_step h.tasks hstep
  obtain ⟨hdb, hcode⟩ := hfree
  obtain ⟨hbusy, rfl⟩ := recorder_step hdb h.numbered htask hstep
  have hset : source.tasks.set label.index (recorder.stage.next.program recorder.location) =
      (performed before after recorder source.world).tasks := by
    rw [h.tasks, performed, ← hindex]
    simp [Recorder.program]
  rw [hset]
  obtain ⟨location, stage⟩ := recorder
  cases stage with
  | deleting => exact ⟨_, h.delete⟩
  | inserting =>
      have htaken : source.insertsTaken label.index =
          source.world.recentLocations.any (·.code = location.code) := by
        rw [insertsTaken, htask]
        rfl
      rw [htaken, List.any_eq_false] at hcode
      refine ⟨_, h.insert fun hmem => ?_⟩
      obtain ⟨row, hrow, hsame⟩ := List.mem_map.mp hmem
      exact hcode row hrow (decide_eq_true hsame)
  | trimming => exact ⟨_, h.trim⟩
  | finished => exact absurd rfl hbusy

/-- The codes of a table and of the locations that are added to it. -/
def allCodes (world : World) (locations : List Location) : Finset String :=
  codes world ∪ (locations.map (·.code)).toFinset

theorem tidy_spawned (hnumbered : world.Numbered)
    (hdistinct : (world.recentLocations.map (·.code)).Nodup)
    (hbusy : world.recentLocations.length ≤ LocationStorage.recentLimit ∨ locations ≠ []) :
    Tidy (allCodes world locations) (locations.map fun location => ⟨location, .deleting⟩)
      (spawned world locations) where
  tasks := by
    rw [spawned, List.map_map]
    rfl
  numbered := hnumbered
  distinct := hdistinct
  accounted := by
    have hpending : pending (locations.map fun location => ⟨location, .deleting⟩) =
        (locations.map (·.code)).toFinset := by
      rw [pending, List.filter_eq_self.mpr (by simp [Recorder.isPending, Stage.isPending]),
        List.map_map]
      rfl
    rw [hpending]
    exact ⟨Finset.Subset.refl _, Nat.min_le_right ..⟩
  trims := hbusy.imp_right fun hlocations => by
    obtain ⟨location, hlocation⟩ := List.exists_mem_of_ne_nil _ hlocations
    exact ⟨_, List.mem_map_of_mem hlocation, nofun⟩

/-- When all tasks are over, no code is missing and none is there twice. -/
theorem Tidy.finished (h : Tidy all recorders recording) (hfinished : recording.Finished) :
    (recording.world.recentLocations.map (·.code)).Nodup ∧
      recording.world.recentLocations.length = min LocationStorage.recentLimit all.card := by
  have hover : ∀ recorder ∈ recorders, recorder.stage = .finished := by
    intro recorder hrecorder
    by_contra hbusy
    obtain ⟨op, next, hprogram, -⟩ := Stage.program_eq recorder.location hbusy
    rw [Finished, h.tasks, List.all_map, List.all_eq_true] at hfinished
    have hreturned := hfinished recorder hrecorder
    rw [Function.comp, Recorder.program, hprogram] at hreturned
    cases hreturned
  have hpending : pending recorders = ∅ := by
    rw [pending, List.filter_eq_nil_iff.mpr, List.map_nil, List.toFinset_nil]
    intro recorder hrecorder
    simp [Recorder.isPending, hover recorder hrecorder, Stage.isPending]
  have hlength : recording.world.recentLocations.length ≤ LocationStorage.recentLimit := by
    rcases h.trims with hlength | ⟨recorder, hrecorder, hbusy⟩
    · exact hlength
    · exact absurd (hover recorder hrecorder) hbusy
  have haccounted := h.accounted
  rw [hpending] at haccounted
  refine ⟨h.distinct, ?_⟩
  rw [← card_codes h.distinct]
  exact haccounted.card_eq (by rwa [card_codes h.distinct])

/-- Tasks that never insert a code that the table has leave each code once, and as many as
the table may hold. -/
theorem distinct_of_insertsFree (hnumbered : world.Numbered)
    (hdistinct : (world.recentLocations.map (·.code)).Nodup)
    (hbusy : world.recentLocations.length ≤ LocationStorage.recentLimit ∨ locations ≠ [])
    (h : system.Leads InsertsFree (spawned world locations) recording)
    (hfinished : recording.Finished) :
    (recording.world.recentLocations.map (·.code)).Nodup ∧
      recording.world.recentLocations.length =
        min LocationStorage.recentLimit (allCodes world locations).card := by
  have htidy : ∃ recorders, Tidy (allCodes world locations) recorders recording := by
    apply h.invariant ⟨_, tidy_spawned hnumbered hdistinct hbusy⟩
    rintro source label target hstep hfree ⟨recorders, hsource⟩
    exact hsource.step hfree hstep
  obtain ⟨recorders, htidy⟩ := htidy
  exact htidy.finished hfinished

/-- London is in the table. -/
def london : World :=
  (Channel.created Sample.device).world.withRecent { Sample.location with code := "lon" }

theorem numbered_london : london.Numbered :=
  (LocationStorage.numbered_of_recentLocations rfl).withRecent

/-- Two tasks take turns, statement by statement. -/
def turns : List RecordingLabel :=
  [0, 1, 0, 1, 0, 1].map fun index => { index, env := Sample.first }

/-- Amsterdam and Paris at the same time. -/
theorem exists_distinct :
    ∃ locations recording, system.Leads InsertsFree (spawned london locations) recording ∧
      locations.length = 2 ∧ recording.world.recentLocations.length = 2 := by
  let locations := [Sample.location, { Sample.location with code := "par" }]
  have hrun : (system.run InsertsFree (spawned london locations) turns).any
      (fun recording => recording.Finished) = true := by decide +kernel
  obtain ⟨recording, hrun, hfinished⟩ := (Option.any_eq_true ..).mp hrun
  have hleads := system.leads_of_run_eq_some hrun .here
  have hcard : (allCodes london locations).card = 3 := by decide +kernel
  have hdistinct : (london.recentLocations.map (·.code)).Nodup := by decide
  have hspawned : locations ≠ [] := by simp [locations]
  obtain ⟨-, hlength⟩ := distinct_of_insertsFree numbered_london hdistinct (.inr hspawned) hleads
    (of_decide_eq_true hfinished)
  rw [hcard] at hlength
  exact ⟨locations, recording, hleads, rfl, hlength⟩

/-- Amsterdam twice at the same time: both tasks delete before one of them inserts. -/
theorem not_forall_distinct :
    ¬ ∀ (world : World) (locations : List Location) (recording : Recording), world.Numbered →
      (world.recentLocations.map (·.code)).Nodup →
      world.recentLocations.length ≤ LocationStorage.recentLimit ∨ locations ≠ [] →
      system.Leads (fun _ label => label.env.dbErr = none) (spawned world locations) recording →
      recording.Finished →
      (recording.world.recentLocations.map (·.code)).Nodup ∧
        recording.world.recentLocations.length =
          min LocationStorage.recentLimit (allCodes world locations).card := by
  intro h
  have hrun : (system.run (fun _ label => label.env.dbErr = none)
      (spawned london [Sample.location, Sample.location]) turns).any
        (fun recording => recording.Finished &&
          recording.world.recentLocations.map (·.code) = ["ams", "ams"]) = true := by
    decide +kernel
  obtain ⟨recording, hrun, hcheck⟩ := (Option.any_eq_true ..).mp hrun
  rw [Bool.and_eq_true, decide_eq_true_eq, decide_eq_true_eq] at hcheck
  obtain ⟨hfinished, hcodes⟩ := hcheck
  obtain ⟨hnodup, -⟩ := h london _ recording numbered_london (by decide) (.inr (by simp))
    (system.leads_of_run_eq_some hrun .here) hfinished
  rw [hcodes] at hnodup
  cases hnodup with
  | cons hfirst => exact hfirst "ams" (List.mem_singleton_self _) rfl

end Recording

end Modvpn
