import Timetable.Failure
import Timetable.Log
import Timetable.Queue.Limits

/-
  This file defines a queue of jobs that workers take and
  handle, and that are tried again when they fail.

  The queue changes in small steps, each of which happens at
  once: callers, workers and timers may take turns in any
  order.  A step that is not possible leaves nothing.

  Key definitions include:
    * `Job`
    * `Phase`
    * `Queue`
    * `Queue.enqueue`
    * `Event`
    * `Queue.step?`
    * `Queue.steps?`
-/

namespace Timetable

open Queue

------------------------------------------------------------
-- Jobs
------------------------------------------------------------

/- A job.  Unless its id is empty, it keeps the job from being queued twice. -/
structure Queue.Job where
  id : String
  kind : String := ""
  /- How often it failed before. -/
  attempt : Nat := 0
  /- When it was first queued. -/
  enqueuedAt : Option Int := none
deriving DecidableEq, Repr

/- Why a job is not taken. -/
inductive Queue.Refusal where
| notStarted : Refusal
| stopping : Refusal
| canceled : Refusal
| duplicate (id : String) : Refusal
| full : Refusal
deriving DecidableEq, Repr

/- A refusal by the queue with a name, as a failure. -/
def Queue.Refusal.toFailure
    (queue : String) : Refusal → Failure
| .notStarted => .plain ("queue " ++ queue ++ " not started")
| .stopping => .plain ("queue " ++ queue ++ " stopping")
| .canceled => .during ("queue " ++ queue ++ " stopped") (.sentinel .canceled)
| .duplicate id => .during ("queue " ++ queue ++ " job " ++ id) (.sentinel .alreadyQueued)
| .full => .plain ("queue " ++ queue ++ " full")

------------------------------------------------------------
-- Queues
------------------------------------------------------------

/- How far a queue has come. -/
inductive Queue.Phase where
| idle : Phase
| running : Phase
/- It takes no more jobs and waits for those it has. -/
| draining : Phase
/- It waits for its workers to leave. -/
| closing (drained : Bool) : Phase
| stopped : Phase
deriving DecidableEq, Repr

/- A queue of jobs. -/
structure Queue where
  name : String
  limits : Limits
  phase : Phase := .idle
  /- Its work was called off. -/
  canceled : Bool := false
  buffer : List Job := []
  /- The number of workers that look for a job. -/
  idleWorkers : Nat := 0
  /- The jobs that workers are at. -/
  handling : List Job := []
  /- The number of workers that are done with a job but have not yet accounted for it. -/
  settled : Nat := 0
  /- The failed jobs that wait to be tried again. -/
  waiting : List Job := []
  /- The failed jobs that found the buffer full when they were to be tried again. -/
  refused : List Job := []
  /- The ids of the jobs that are queued, handled or waiting. -/
  pending : List String := []
  /- The number of jobs that are buffered or with a worker. -/
  inflight : Int := 0
  logs : List LogEntry := []

namespace Queue

/- Write to the log. -/
def log
    (level : Level)
    (message : String)
    (fields : List (String × Json))
    (q : Queue) : Queue :=
  let entry : LogEntry :=
    { level := level, message := message, fields := ("queue", .str q.name) :: fields }
  { q with logs := q.logs ++ [entry] }

/- Forget that a job with an id is pending. -/
def release
    (id : String)
    (q : Queue) : Queue :=
  { q with pending := q.pending.filter (· != id) }

/- Put a job into the buffer, if there is room. -/
def push
    (job : Job)
    (q : Queue) : Except Refusal Queue :=
  if q.buffer.length < q.limits.capacity then
    .ok { q with buffer := q.buffer ++ [job], inflight := q.inflight + 1 }
  else .error .full

/- Why a queue takes no jobs at all. -/
def closed? (q : Queue) : Option Refusal :=
  match q.phase with
  | .idle => some .notStarted
  | .running => if q.canceled then some .canceled else none
  | _ => some .stopping

/- Remember that a job is pending; an empty id is not remembered. -/
def remember
    (id : String)
    (q : Queue) : Queue :=
  if id == "" then q else { q with pending := q.pending ++ [id] }

/- Take a new job. -/
def enqueue
    (q : Queue)
    (job : Job)
    (now : Int) : Except Refusal Queue :=
  match q.closed? with
  | some refusal => .error refusal
  | none =>
      if job.id != "" && q.pending.contains job.id then .error (.duplicate job.id)
      else do
        let stamped := { job with enqueuedAt := job.enqueuedAt <|> some now }
        let q ← q.push stamped
        return q.remember job.id

------------------------------------------------------------
-- Steps
------------------------------------------------------------

/- What can happen to a queue. -/
inductive Event where
/- The workers set out. -/
| start : Event
| enqueue (job : Job) (now : Int) : Event
/- A worker takes the first job of the buffer. -/
| take : Event
/- The handling of a job succeeds, or fails. -/
| succeed (job : Job) : Event
| fail (job : Job) (error : String) : Event
/- A worker accounts for the job it is done with. -/
| account : Event
/- A worker leaves because the work was called off. -/
| leave : Event
/- The time has come to try a job again. -/
| retry (job : Job) : Event
/- A job that found the buffer full is given up. -/
| giveUp (job : Job) : Event
/- A job that waits is dropped because the work was called off. -/
| drop (job : Job) : Event
/- The work is called off from outside. -/
| cancel : Event
/- The queue is told to stop. -/
| stop : Event
/- No job is left, or the time to wait for jobs has passed. -/
| drained : Event
| timedOut : Event
/- All workers and waiting jobs are gone. -/
| finish : Event
deriving DecidableEq, Repr

/- A job has been handled without success. -/
def settleFailure
    (q : Queue)
    (job : Job)
    (error : String) : Queue :=
  let job := { job with attempt := job.attempt + 1 }
  let fields : List (String × Json) :=
    [("job_id", .str job.id), ("type", .str job.kind), ("attempt", .int job.attempt),
      ("error", .str error)]
  if q.limits.maxRetries < job.attempt then
    (q.log .error "job exceeded retries" fields).release job.id
  else
    let delay := ("delay", Json.int (q.limits.backoff job.attempt).toInt)
    let q := q.log .warn "job failed, retrying" (fields ++ [delay])
    { q with waiting := q.waiting ++ [job] }

/- The workers and the waiting jobs are gone. -/
def isDeserted (q : Queue) : Bool :=
  q.idleWorkers == 0 && q.handling.isEmpty && q.settled == 0 && q.waiting.isEmpty &&
    q.refused.isEmpty

/- Call the work off and wait for the workers to leave. -/
def beginClosing
    (drained : Bool)
    (q : Queue) : Queue :=
  { q with phase := .closing drained, canceled := true }

/- What an event makes of a queue, if it can happen. -/
def step?
    (q : Queue) : Event → Option Queue
| .start =>
    if q.phase = .idle then
      let q := { q with phase := .running, idleWorkers := q.limits.workers }
      some (q.log .info "queue started" [("workers", .int q.limits.workers)])
    else none
| .enqueue job now => (q.enqueue job now).toOption
| .take =>
    match q.buffer with
    | [] => none
    | job :: rest =>
        if 0 < q.idleWorkers then
          some
            { q with
              buffer := rest
              idleWorkers := q.idleWorkers - 1
              handling := q.handling ++ [job] }
        else none
| .succeed job =>
    if job ∈ q.handling then
      some
        ({ q with handling := q.handling.erase job, settled := q.settled + 1 }.release job.id)
    else none
| .fail job error =>
    if job ∈ q.handling then
      some
        ({ q with
            handling := q.handling.erase job
            settled := q.settled + 1 }.settleFailure job error)
    else none
| .account =>
    if 0 < q.settled then
      some
        { q with
          settled := q.settled - 1
          idleWorkers := q.idleWorkers + 1
          inflight := q.inflight - 1 }
    else none
| .leave =>
    if q.canceled ∧ 0 < q.idleWorkers then
      some { q with idleWorkers := q.idleWorkers - 1 }
    else none
| .retry job =>
    if job ∈ q.waiting then
      let q := { q with waiting := q.waiting.erase job }
      match q.push job with
      | .ok q => some q
      | .error refusal =>
          let error := (refusal.toFailure q.name).text
          let q := q.log .error "failed to requeue job"
            [("job_id", .str job.id), ("error", .str error)]
          some { q with refused := q.refused ++ [job] }
    else none
| .giveUp job =>
    if job ∈ q.refused then
      some ({ q with refused := q.refused.erase job }.release job.id)
    else none
| .drop job =>
    if q.canceled ∧ job ∈ q.waiting then
      some { q with waiting := q.waiting.erase job }
    else none
| .cancel => some { q with canceled := true }
| .stop => if q.phase = .running then some { q with phase := .draining } else none
| .drained =>
    if q.phase = .draining ∧ q.inflight = 0 then some (q.beginClosing true) else none
| .timedOut => if q.phase = .draining then some (q.beginClosing false) else none
| .finish =>
    match q.phase with
    | .closing drained =>
        if q.isDeserted then
          let q := q.log .info "queue stopped"
            [("drained", .bool drained), ("dropped", .int q.pending.length)]
          some { q with phase := .stopped, pending := [] }
        else none
    | _ => none

/- What a run of events makes of a queue, if all of them can happen. -/
def steps?
    (q : Queue) : List Event → Option Queue
| [] => some q
| e :: rest => (q.step? e).bind (·.steps? rest)

/- A queue that was not started yet. -/
def new
    (name : String)
    (limits : Limits) : Queue :=
  { name := name, limits := limits }

end Queue

end Timetable
