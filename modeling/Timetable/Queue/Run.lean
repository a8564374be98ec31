import Timetable.Queue.Basic

/-
  This file runs a queue against a script that tells how the
  handling of each job ends.  Workers are as fast as can be,
  and time only passes where a caller waits.

  Key definitions include:
    * `Outcome`
    * `Run`
    * `Run.settle`
    * `Run.advance`
    * `Run.await`
    * `Run.stop`
-/

namespace Timetable.Queue

------------------------------------------------------------
-- Scripts
------------------------------------------------------------

/- How the handling of a job ends. -/
inductive Outcome where
| ok : Outcome
| fail : Outcome
/- It waits until it is let go, and then succeeds, or fails. -/
| block : Outcome
| blockFail : Outcome
deriving DecidableEq, Repr

/- Handling with this outcome waits until it is let go. -/
def Outcome.waits : Outcome → Bool
| .block => true
| .blockFail => true
| _ => false

/- Handling with this outcome does not succeed. -/
def Outcome.fails : Outcome → Bool
| .fail => true
| .blockFail => true
| _ => false

/- A job that was handed to a handler. -/
structure Call where
  job : Job
  outcome : Outcome
deriving DecidableEq, Repr

/- A queue in the middle of a run. -/
structure Run where
  queue : Queue
  /- The outcomes of each job by its id; the last one repeats. -/
  script : List (String × List Outcome)
  calls : List Call := []
  /- The jobs whose handling waits to be let go. -/
  blocked : List (Job × Outcome) := []
  /- When the waiting jobs are due. -/
  timers : List (Int × Job) := []
  clock : Int := 0

namespace Run

------------------------------------------------------------
-- Handling
------------------------------------------------------------

/- Let an event happen, if it can. -/
def happen
    (e : Event)
    (r : Run) : Run :=
  match r.queue.step? e with
  | some q => { r with queue := q }
  | none => r

/- The outcome of the next call for a job. -/
def nextOutcome
    (r : Run)
    (id : String) : Outcome :=
  let outcomes := (r.script.lookup id).getD []
  let earlier := (r.calls.filter (fun c => c.job.id == id)).length
  (outcomes[earlier]? <|> outcomes.getLast?).getD .ok

/- Set the timers of the jobs that began to wait. -/
def setTimers
    (before : Queue)
    (r : Run) : Run :=
  let new := r.queue.waiting.drop before.waiting.length
  { r with
    timers := r.timers ++ new.map (fun job =>
      (r.clock + (r.queue.limits.backoff job.attempt).toInt, job)) }

/- The handling of a job ends. -/
def endHandling
    (job : Job)
    (outcome : Outcome)
    (r : Run) : Run :=
  if outcome.fails then
    ((r.happen (.fail job ("boom " ++ job.id))).setTimers r.queue).happen .account
  else
    (r.happen (.succeed job)).happen .account

/- A worker takes the first job of the buffer and handles it. -/
def handleFirst (r : Run) : Run :=
  match r.queue.buffer with
  | [] => r
  | job :: _ =>
      let outcome := r.nextOutcome job.id
      let r := r.happen .take
      let r := { r with calls := r.calls ++ [Call.mk job outcome] }
      if outcome.waits then { r with blocked := r.blocked ++ [(job, outcome)] }
      else r.endHandling job outcome

/- Handle buffered jobs, at most `n`, as long as there are workers for them. -/
def work : Nat → Run → Run
| 0, r => r
| n + 1, r =>
    if 0 < r.queue.idleWorkers then work n r.handleFirst else r

/- Let go of all handling that waits. -/
def unblock (r : Run) : Run :=
  r.blocked.foldl (fun r (job, outcome) => r.endHandling job outcome) { r with blocked := [] }

/- All work is called off: what waits is let go or dropped, and the workers leave. -/
def desert (r : Run) : Run :=
  let r := r.unblock
  let r := r.queue.waiting.foldl (fun r job => r.happen (.drop job)) { r with timers := [] }
  (List.range r.queue.idleWorkers).foldl (fun r _ => r.happen .leave) r

/- Do all that can be done without waiting. -/
def settle (r : Run) : Run :=
  if r.queue.canceled then r.desert else r.work r.queue.buffer.length

------------------------------------------------------------
-- Time
------------------------------------------------------------

/- The timer that is due first. -/
def nextTimer? (r : Run) : Option (Int × Job) :=
  r.timers.foldl (fun best t =>
    match best with
    | none => some t
    | some b => if t.1 < b.1 then some t else some b) none

/- Let time pass until the next timer is due, and try its job again. -/
def advance (r : Run) : Run :=
  match r.nextTimer? with
  | none => r
  | some (due, job) =>
      let r := { r with timers := r.timers.erase (due, job), clock := max r.clock due }
      ((r.happen (.retry job)).happen (.giveUp job)).settle

/- More often than this no timer can become due before a new job is queued. -/
def retriesLeft (r : Run) : Nat :=
  (r.timers.length + r.queue.buffer.length + r.queue.handling.length) *
    (r.queue.limits.maxRetries + 1)

/- Let time pass until a condition holds, for at most `n` timers. -/
def awaitFor
    (condition : Run → Bool) : Nat → Run → Run
| 0, r => r
| n + 1, r =>
    if condition r || r.timers.isEmpty then r else awaitFor condition n r.advance

/- Let time pass until a condition holds, and tell whether it does. -/
def await
    (condition : Run → Bool)
    (r : Run) : Bool × Run :=
  let r := awaitFor condition (r.retriesLeft + 1) r
  (condition r, r)

------------------------------------------------------------
-- Callers
------------------------------------------------------------

/- A run that has not begun. -/
def ofScript
    (name : String)
    (limits : Limits)
    (script : List (String × List Outcome)) : Run :=
  { queue := Queue.new name limits, script := script }

/- Start the queue. -/
def start (r : Run) : Run :=
  (r.happen .start).settle

/- Queue a job. -/
def enqueue
    (job : Job)
    (r : Run) : Except Failure Unit × Run :=
  match r.queue.enqueue job r.clock with
  | .error refusal => (.error (refusal.toFailure r.queue.name), r)
  | .ok _ => (.ok (), (r.happen (.enqueue job r.clock)).settle)

/- Let go of the handling that waits. -/
def letGo (r : Run) : Run :=
  r.unblock.settle

/- Call the work off. -/
def cancel (r : Run) : Run :=
  (r.happen .cancel).settle

/- Wait until no job is left, for at most `n` timers and until a deadline. -/
def drain
    (deadline : Int) : Nat → Run → Run
| 0, r => r.happen .timedOut
| n + 1, r =>
    if r.queue.inflight = 0 then r.happen .drained
    else
      match r.nextTimer? with
      | some (due, _) =>
          if due ≤ deadline then drain deadline n r.advance else r.happen .timedOut
      | none => r.happen .timedOut

/- Stop the queue, if it is running. -/
def stop (r : Run) : Run :=
  match r.queue.step? .stop with
  | none => r
  | some q =>
      let r := { r with queue := q }
      let deadline := r.clock + r.queue.limits.drainTimeout.toInt
      ((r.drain deadline (r.retriesLeft + 1)).settle).happen .finish

end Run

end Timetable.Queue
