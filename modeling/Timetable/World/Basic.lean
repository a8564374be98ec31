import Timetable.Cache.Server
import Timetable.Log
import Timetable.Metrics.Basic
import Timetable.Store.Database
import Timetable.Text.Collation.Latin

/-
  This file defines the surroundings in which the service
  works: the store, the cache, the clock, the source of ids,
  and what it leaves behind in logs, figures and jobs.

  Key definitions include:
    * `Settings`
    * `Context`
    * `Context.failure?`
    * `Context.sent`
    * `DateJob`
    * `JobOffer`
    * `World`
-/

namespace Timetable

------------------------------------------------------------
-- Settings
------------------------------------------------------------

/- Which cache the service has. -/
inductive CacheMode where
/- The service knows no cache. -/
| absent : CacheMode
/- There is a cache, switched off. -/
| disabled : CacheMode
/- There is a cache without a connection: every look is a miss. -/
| unconnected : CacheMode
| connected : CacheMode
deriving DecidableEq, Repr

/- What the queue does with a job that it is offered. -/
inductive QueueMode where
/- There is no queue. -/
| absent : QueueMode
| accepting : QueueMode
| refusingDuplicates : QueueMode
| full : QueueMode
deriving DecidableEq, Repr

/- How the service was set up.  Durations are in nanoseconds. -/
structure Settings where
  locale : Text.Locale
  collator : Text.Collator := .latin
  /- The time limit of a request, none unless positive. -/
  requestTimeout : Int := 0
  catalogTtl : Int := 0
  cacheMode : CacheMode := .disabled
  cacheTtl : Int := 0
  /- What the keys of the cache start with. -/
  keySpace : String := ""
  /- Transactions can be opened. -/
  transactional : Bool := true
  /- The log of the planning service is thrown away. -/
  silent : Bool := false

------------------------------------------------------------
-- The Context of a Request
------------------------------------------------------------

/- What can end a request early, and what it carries along. -/
structure Context where
  canceled : Bool := false
  expired : Bool := false
  /- Work that goes on although the request was canceled. -/
  detached : Bool := false
  /- The request is canceled after a statement with this label, -/
  cancelOn : Option String := none
  /- of which so many are let pass before. -/
  cancelAfter : Nat := 0
  requestId : String := ""
deriving DecidableEq, Repr, Inhabited

/- Why a request may not go on. -/
def Context.failure? (c : Context) : Option Failure :=
  if c.canceled && !c.detached then some (.sentinel .canceled)
  else if c.expired then some (.sentinel .deadline)
  else none

/- The context after a statement with a label was sent, which may cancel the request. -/
def Context.sent
    (label : String)
    (c : Context) : Context :=
  if c.cancelOn == some label then
    if c.cancelAfter == 0 then { c with canceled := true }
    else { c with cancelAfter := c.cancelAfter - 1 }
  else c

/- A context with the course of cancellation of another one. -/
def Context.taking (c other : Context) : Context :=
  { c with canceled := other.canceled, cancelAfter := other.cancelAfter }

/-
  A time limit that is not longer than a tick of the clock
  has passed by the time it is first looked at.
-/
def clockTick : Int :=
  1000

/- The context under a time limit. -/
def Context.limited
    (timeout : Int)
    (c : Context) : Context :=
  { c with expired := c.expired || (decide (0 < timeout) && decide (timeout ≤ clockTick)) }

------------------------------------------------------------
-- Jobs
------------------------------------------------------------

/- A job that gives dates to the items of a plan. -/
structure DateJob where
  planId : String
  ownerId : String
deriving DecidableEq, Repr

/- The type that such a job is queued with. -/
def DateJob.kind : String :=
  "recalculate_dates"

/-
  Such a job as it is offered to the queue.  Its id keeps it
  from being queued twice.
-/
structure JobOffer where
  id : String
  kind : String := DateJob.kind
  payload : DateJob
deriving DecidableEq, Repr

------------------------------------------------------------
-- The World
------------------------------------------------------------

/- The surroundings of the service. -/
structure World where
  settings : Settings
  database : Store.Database := {}
  cache : Cache.Server := {}
  context : Context := {}
  /- Nanoseconds since the first of January 1970. -/
  clock : Int
  /- How many ids were handed out. -/
  issued : Nat := 0
  logs : List LogEntry := []
  metrics : Option Metrics := some {}
  queue : QueueMode := .absent
  jobs : List DateJob := []
  /- The jobs that the queue was offered, whether or not it took them. -/
  offers : List JobOffer := []

end Timetable
