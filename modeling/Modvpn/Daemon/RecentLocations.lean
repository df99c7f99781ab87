/-
# Recent locations

Every `Connect` spawns a task that records its location, in three statements without a
transaction. The list that clients are shown groups the rows by code, and the columns that
are not grouped are read from some row of each group: which one is up to the database.
-/

import Mathlib.Data.List.Dedup
import Modvpn.Daemon.Tasks
import Modvpn.Protocol.TransitionSystem

namespace Modvpn

open Modvpn.Protocol
open Entity (RecentLocation)

/-- `From<recent_locations::Model>`. -/
def Location.ofRecent (row : RecentLocation) : Location where
  code := row.code
  country := row.country
  countryCode := row.countryCode
  city := row.city
  cityCode := row.cityCode
  state := row.state
  stateCode := row.stateCode
  estimate := none

namespace LocationStorage

/-- The row of a group from which the columns are read. -/
structure BareColumns where
  pick : RecentLocation → List RecentLocation → RecentLocation
  mem : ∀ row rest, pick row rest ∈ row :: rest

/-- One row for each code. -/
def groupByCode (columns : BareColumns) (rows : List RecentLocation) : List RecentLocation :=
  (rows.map (·.code)).dedup.filterMap fun code =>
    match rows.filter (·.code = code) with
    | [] => none
    | row :: rest => some (columns.pick row rest)

/-- `SELECT DISTINCT ... GROUP BY code ORDER BY id DESC`. -/
def selectRecent (columns : BareColumns) (rows : List RecentLocation) : List RecentLocation :=
  (groupByCode columns rows).dedup.insertionSort fun first second => second.id ≤ first.id

def recent (columns : BareColumns) (env : Env) (world : World) : Except DbErr (List Location) :=
  (World.statement env world fun w =>
    ((selectRecent columns w.recentLocations).map Location.ofRecent, w)).1

end LocationStorage

/-! ## Tasks that record at the same time -/

/-- Spawned tasks that share the table. -/
structure Recording where
  world : World
  tasks : List (Async Unit)

/-- A task performs its next statement. -/
structure RecordingLabel where
  index : Nat
  env : Env

namespace Recording

/-- A task for each location, and none has begun. -/
def spawned (world : World) (locations : List Location) : Recording where
  world
  tasks := locations.map fun location => (Task.addRecent location).program

def step (recording : Recording) (label : RecordingLabel) : Option Recording :=
  match recording.tasks[label.index]? with
  | some (.perform op next) =>
      let answered := World.answer op label.env recording.world
      some {
        world := answered.2
        tasks := recording.tasks.set label.index (next answered.1) }
  | _ => none

/-- The tasks that some locations have spawned, in any order of their statements. -/
def system : TransitionSystem Recording RecordingLabel where
  Init recording := ∃ world locations, recording = spawned world locations
  step := step

/-- The task is over. -/
def returned : Async Unit → Bool
  | .pure _ => true
  | _ => false

def Finished (recording : Recording) : Prop := recording.tasks.all returned = true

instance (recording : Recording) : Decidable recording.Finished :=
  inferInstanceAs (Decidable (_ = _))

end Recording

end Modvpn
