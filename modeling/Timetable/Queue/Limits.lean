/-
  This file defines the limits of a job queue, and how long a
  failed job waits before it is tried again.

  Key definitions include:
    * `Limits`
    * `Limits.ofFigures`
    * `Limits.backoff`
-/

namespace Timetable.Queue

------------------------------------------------------------
-- Limits
------------------------------------------------------------

/- The limits of a queue.  Durations are in nanoseconds. -/
structure Limits where
  workers : Nat
  /- How many jobs may lie in the buffer. -/
  capacity : Nat
  maxRetries : Nat
  /- How long the first retry waits. -/
  retryDelay : Int64
  /- The longest that a retry waits. -/
  maxRetryDelay : Int64
  /- How long a stopping queue waits for its jobs. -/
  drainTimeout : Int64
deriving DecidableEq, Repr

/- A second in nanoseconds. -/
def secondNanos : Int64 := 1000000000

/- A figure, or something else in its place unless it is positive. -/
def positiveOr
    (otherwise : Nat)
    (figure : Int) : Nat :=
  if 0 < figure then figure.toNat else otherwise

/- A duration, or another one in its place unless it is positive. -/
def durationOr
    (otherwise figure : Int64) : Int64 :=
  if 0 < figure then figure else otherwise

/-
  Limits from figures; one that is not positive means that
  the usual limit is taken.  A greatest delay below the first
  one is replaced by 32 times the first.
-/
def Limits.ofFigures
    (workers capacity maxRetries : Int)
    (retryDelay maxRetryDelay drainTimeout : Int64) : Limits :=
  let workers := positiveOr 1 workers
  let retryDelay := durationOr secondNanos retryDelay
  { workers := workers
    capacity := positiveOr (4 * workers) capacity
    maxRetries := positiveOr 3 maxRetries
    retryDelay := retryDelay
    maxRetryDelay := if maxRetryDelay < retryDelay then retryDelay * 32 else maxRetryDelay
    drainTimeout := durationOr (5 * secondNanos) drainTimeout }

------------------------------------------------------------
-- Delays
------------------------------------------------------------

/- Double a delay up to `n` times, as long as it is below the greatest one. -/
def doubled
    (greatest : Int64) : Nat → Int64 → Int64
| 0, delay => delay
| n + 1, delay =>
    if delay < greatest then doubled greatest n (delay * 2) else delay

/- How long a job waits before an attempt; the first retry is attempt one. -/
def Limits.backoff
    (l : Limits)
    (attempt : Nat) : Int64 :=
  let delay := doubled l.maxRetryDelay (attempt - 1) l.retryDelay
  if l.maxRetryDelay < delay then l.maxRetryDelay else delay

end Timetable.Queue
