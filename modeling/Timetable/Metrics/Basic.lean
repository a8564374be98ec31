import Timetable.Metrics.Histogram

/-
  This file defines the figures that the service keeps about
  its own work.

  Key definitions include:
    * `Metrics`
    * `Metrics.observeRequest`
    * `Metrics.recordCacheRead`
    * `Metrics.observeCacheWrite`
    * `Metrics.observeQuery`
    * `Metrics.observeGeneration`
    * `Metrics.recordDateUpdates`
-/

namespace Timetable

open Metrics

------------------------------------------------------------
-- Keyed Figures
------------------------------------------------------------

/- Figures by their label values, in ascending order of these. -/
abbrev Metrics.Keyed (α : Type) :=
  List (List String × α)

/- Change the figure with a key; a missing one starts from `blank`. -/
def Metrics.Keyed.adjust
    {α : Type}
    (key : List String)
    (blank : α)
    (change : α → α) : Keyed α → Keyed α
| [] => [(key, change blank)]
| (k, a) :: rest =>
    if k == key then (k, change a) :: rest
    else if key < k then (key, change blank) :: (k, a) :: rest
    else (k, a) :: Keyed.adjust key blank change rest

------------------------------------------------------------
-- Figures
------------------------------------------------------------

/- The figures of a service. -/
structure Metrics where
  /- Durations of requests by method, path and status. -/
  requests : Keyed Histogram := []
  cacheHits : Nat := 0
  cacheMisses : Nat := 0
  cacheReads : Histogram := .ofSeconds
  cacheWrites : Histogram := .ofSeconds
  /- Durations of queries by their name. -/
  queries : Keyed Histogram := []
  /- Numbers of generated plans by mode and outcome. -/
  generations : Keyed Nat := []
  /- Durations of generations by mode. -/
  generationTimes : Keyed Histogram := []
  /- Numbers of items of generated plans. -/
  planItems : Histogram := .over ((List.range 10).map (fun i => 10 * Float.ofNat (Nat.pow 2 i)))
  /- Dates that were written, and dates that could not be. -/
  dateUpdates : Option (UInt64 × UInt64) := none
deriving Repr, Inhabited

namespace Metrics

/- Note a request. -/
def observeRequest
    (method path : String)
    (status nanos : Int)
    (m : Metrics) : Metrics :=
  { m with
    requests := Keyed.adjust [method, path, toString status] .ofSeconds
      (·.observe (secondsOf nanos)) m.requests }

/- Note a look into the cache. -/
def recordCacheRead
    (hit : Bool)
    (nanos : Int)
    (m : Metrics) : Metrics :=
  { m with
    cacheReads := m.cacheReads.observe (secondsOf nanos)
    cacheHits := if hit then m.cacheHits + 1 else m.cacheHits
    cacheMisses := if hit then m.cacheMisses else m.cacheMisses + 1 }

/- Note a write to the cache. -/
def observeCacheWrite
    (nanos : Int)
    (m : Metrics) : Metrics :=
  { m with cacheWrites := m.cacheWrites.observe (secondsOf nanos) }

/- Note a query. -/
def observeQuery
    (name : String)
    (nanos : Int)
    (m : Metrics) : Metrics :=
  { m with
    queries := Keyed.adjust [name] .ofSeconds (·.observe (secondsOf nanos)) m.queries }

/- Note an attempt to generate a plan; items count for a success only. -/
def observeGeneration
    (mode outcome : String)
    (nanos : Int)
    (items : Int)
    (m : Metrics) : Metrics :=
  let mode := if mode == "" then "unknown" else mode
  { m with
    generations := Keyed.adjust [mode, outcome] 0 (· + 1) m.generations
    generationTimes := Keyed.adjust [mode] .ofSeconds
      (·.observe (secondsOf nanos)) m.generationTimes
    planItems :=
      if outcome == "success" then m.planItems.observe (Float.ofInt items)
      else m.planItems }

/- A number as a counter takes it: as near as floating point comes to it, in 64 bits. -/
def counted (n : Int) : UInt64 :=
  (Float.ofInt n).toUInt64

/- Note the dates written in one go; the counters start again when they run over. -/
def recordDateUpdates
    (updated failed : Int)
    (m : Metrics) : Metrics :=
  let (u, f) := m.dateUpdates.getD (0, 0)
  { m with dateUpdates := some (u + counted updated, f + counted failed) }

/- The share of looks into the cache that were hits. -/
def hitRatio (m : Metrics) : Float :=
  if m.cacheHits + m.cacheMisses == 0 then 0
  else Float.ofNat m.cacheHits / Float.ofNat (m.cacheHits + m.cacheMisses)

end Metrics

end Timetable
