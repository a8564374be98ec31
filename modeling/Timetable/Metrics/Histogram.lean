/-
  This file defines histograms: counts of observed numbers
  below fixed bounds.

  Key definitions include:
    * `Histogram`
    * `Histogram.over`
    * `Histogram.observe`
    * `secondsOf`
-/

namespace Timetable.Metrics

------------------------------------------------------------
-- Histograms
------------------------------------------------------------

/-
  Each bound goes with the number of observations that are
  not above it; the sum is taken in the order of observation.
-/
structure Histogram where
  buckets : List (Float × Nat)
  count : Nat
  sum : Float
deriving Repr, Inhabited

/- A histogram without observations. -/
def Histogram.over (bounds : List Float) : Histogram :=
  ⟨bounds.map (fun b => (b, 0)), 0, 0⟩

/- Note an observation. -/
def Histogram.observe
    (x : Float)
    (h : Histogram) : Histogram :=
  ⟨h.buckets.map (fun (bound, n) => (bound, if x ≤ bound then n + 1 else n)),
    h.count + 1, h.sum + x⟩

------------------------------------------------------------
-- Durations
------------------------------------------------------------

/- The bounds for durations in seconds. -/
def secondBounds : List Float :=
  [0.005, 0.01, 0.025, 0.05, 0.1, 0.25, 0.5, 1, 2.5, 5, 10]

/- A histogram of durations. -/
def Histogram.ofSeconds : Histogram :=
  .over secondBounds

/- A number of nanoseconds in seconds: whole seconds and the rest are converted apart. -/
def secondsOf (nanos : Int) : Float :=
  Float.ofInt (nanos.tdiv 1000000000) + Float.ofInt (nanos.tmod 1000000000) / 1000000000

end Timetable.Metrics
