/-
# The location cache of the Android client

The client keeps the server's locations in a table whose key is the code. A refresh
deletes what the server does not list any more and inserts the rest, and the insert
ignores a location whose code is there: its row keeps the time of its last use, and all
else that it has.
-/

import Mathlib.Data.List.Sort
import Modvpn.Android.VPNState

namespace Modvpn.Android

namespace Db

structure Location where
  code : String
  country : String
  countryCode : String
  city : String
  cityCode : String
  state : Option String
  stateCode : Option String
  /-- Seconds since the epoch. -/
  lastAccess : Option Int
  deriving DecidableEq

def Location.toModelLocation (location : Db.Location) : Android.Location where
  code := location.code
  city := location.city
  cityCode := location.cityCode
  country := location.country
  countryCode := location.countryCode
  state := location.state
  stateCode := location.stateCode
  estimate := none

end Db

def Location.toDbLocation (location : Location) : Db.Location where
  code := location.code
  city := location.city
  cityCode := location.cityCode
  country := location.country
  countryCode := location.countryCode
  state := location.state
  stateCode := location.stateCode
  lastAccess := none

namespace LocationDao

/-- A row whose key is in the table is ignored. -/
def insertOrIgnore (rows : List Db.Location) (location : Db.Location) : List Db.Location :=
  if rows.any (·.code = location.code) then rows else rows ++ [location]

def insert (locations : List Db.Location) (rows : List Db.Location) : List Db.Location :=
  locations.foldl insertOrIgnore rows

def deleteNotIn (notInLocationCodes : List String) (rows : List Db.Location) : List Db.Location :=
  rows.filter (·.code ∈ notInLocationCodes)

/-- `lastAccess > 0`, which null is not. -/
def isAccessed (row : Db.Location) : Bool := row.lastAccess.any (0 < ·)

/-- The latest first; where two are equal, in the order of the table. A negative limit is
none. -/
def recentLocations (limit : Int) (rows : List Db.Location) : List Db.Location :=
  let ordered := (rows.filter isAccessed).insertionSort fun first second =>
    second.lastAccess.getD 0 ≤ first.lastAccess.getD 0
  if limit < 0 then ordered else ordered.take limit.toNat

end LocationDao

namespace VPNRepository

/-- What the caller is answered, and the table after it. -/
def getLocations (apiResult : Except String (List Location)) (rows : List Db.Location) :
    Except String (List Location) × List Db.Location :=
  match apiResult with
  | .ok newLocations =>
      let newLocationCodes := newLocations.map (·.code)
      let kept := LocationDao.deleteNotIn newLocationCodes rows
      let dbLocations := newLocations.map (·.toDbLocation)
      (.ok newLocations, LocationDao.insert dbLocations kept)
  | .error error => (.error error, rows)

def getRecentLocations (limit : Int) (rows : List Db.Location) : List Location :=
  (LocationDao.recentLocations limit rows).map (·.toModelLocation)

end VPNRepository

end Modvpn.Android
