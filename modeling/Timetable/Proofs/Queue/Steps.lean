import Timetable.Queue.Run

/-
  This file says once what each event can do to a queue.  The
  relation `Moves` has one rule for each way in which an event
  can end, with all that must hold for it; the log is left
  open.  What every step keeps is kept by a whole run.

  Key definitions include:
    * `Job.stamped`
    * `Job.again`
    * `Moves`
  Main theorems include:
    * `moves_of_step?`
    * `steps?_keeps`
-/

namespace Timetable.Queue

------------------------------------------------------------
-- Moves
------------------------------------------------------------

/- A job with the time at which it was first queued. -/
def Job.stamped
    (job : Job)
    (now : Int) : Job :=
  { job with enqueuedAt := job.enqueuedAt <|> some now }

/- A job after it failed once more. -/
def Job.again (job : Job) : Job :=
  { job with attempt := job.attempt + 1 }

/- What an event can make of a queue. -/
inductive Moves (q : Queue) : Event → Queue → Prop
| start
    (logs : List LogEntry)
    (hIdle : q.phase = .idle) :
    Moves q .start
      { q with phase := .running, idleWorkers := q.limits.workers, logs := logs }
| enqueue
    (job : Job)
    (now : Int)
    (hOpen : q.closed? = none)
    (hNew : job.id ≠ "" → job.id ∉ q.pending)
    (hRoom : q.buffer.length < q.limits.capacity) :
    Moves q (.enqueue job now)
      { q with
        buffer := q.buffer ++ [job.stamped now]
        inflight := q.inflight + 1
        pending := if job.id = "" then q.pending else q.pending ++ [job.id] }
| take
    (job : Job)
    (rest : List Job)
    (hBuffer : q.buffer = job :: rest)
    (hWorker : 0 < q.idleWorkers) :
    Moves q .take
      { q with
        buffer := rest
        idleWorkers := q.idleWorkers - 1
        handling := q.handling ++ [job] }
| succeed
    (job : Job)
    (hHandled : job ∈ q.handling) :
    Moves q (.succeed job)
      { q with
        handling := q.handling.erase job
        settled := q.settled + 1
        pending := q.pending.filter (· != job.id) }
/- The last attempt of a job fails. -/
| exhaust
    (job : Job)
    (error : String)
    (logs : List LogEntry)
    (hHandled : job ∈ q.handling)
    (hSpent : q.limits.maxRetries < job.attempt + 1) :
    Moves q (.fail job error)
      { q with
        handling := q.handling.erase job
        settled := q.settled + 1
        pending := q.pending.filter (· != job.id)
        logs := logs }
/- An attempt fails after which there is another one. -/
| postpone
    (job : Job)
    (error : String)
    (logs : List LogEntry)
    (hHandled : job ∈ q.handling)
    (hLeft : job.attempt + 1 ≤ q.limits.maxRetries) :
    Moves q (.fail job error)
      { q with
        handling := q.handling.erase job
        settled := q.settled + 1
        waiting := q.waiting ++ [job.again]
        logs := logs }
| account
    (hSettled : 0 < q.settled) :
    Moves q .account
      { q with
        settled := q.settled - 1
        idleWorkers := q.idleWorkers + 1
        inflight := q.inflight - 1 }
| leave
    (hCanceled : q.canceled)
    (hWorker : 0 < q.idleWorkers) :
    Moves q .leave { q with idleWorkers := q.idleWorkers - 1 }
| retry
    (job : Job)
    (hWaiting : job ∈ q.waiting)
    (hRoom : q.buffer.length < q.limits.capacity) :
    Moves q (.retry job)
      { q with
        waiting := q.waiting.erase job
        buffer := q.buffer ++ [job]
        inflight := q.inflight + 1 }
/- The buffer is full when a job is to be tried again. -/
| refuse
    (job : Job)
    (logs : List LogEntry)
    (hWaiting : job ∈ q.waiting)
    (hFull : q.limits.capacity ≤ q.buffer.length) :
    Moves q (.retry job)
      { q with
        waiting := q.waiting.erase job
        refused := q.refused ++ [job]
        logs := logs }
| giveUp
    (job : Job)
    (hRefused : job ∈ q.refused) :
    Moves q (.giveUp job)
      { q with
        refused := q.refused.erase job
        pending := q.pending.filter (· != job.id) }
| drop
    (job : Job)
    (hCanceled : q.canceled)
    (hWaiting : job ∈ q.waiting) :
    Moves q (.drop job) { q with waiting := q.waiting.erase job }
| cancel : Moves q .cancel { q with canceled := true }
| stop
    (hRunning : q.phase = .running) :
    Moves q .stop { q with phase := .draining }
| drained
    (hDraining : q.phase = .draining)
    (hNone : q.inflight = 0) :
    Moves q .drained { q with phase := .closing true, canceled := true }
| timedOut
    (hDraining : q.phase = .draining) :
    Moves q .timedOut { q with phase := .closing false, canceled := true }
| finish
    (drained : Bool)
    (logs : List LogEntry)
    (hClosing : q.phase = .closing drained)
    (hDeserted : q.isDeserted) :
    Moves q .finish { q with phase := .stopped, pending := [], logs := logs }

------------------------------------------------------------
-- Every Step is a Move
------------------------------------------------------------

/- A queue is open to jobs while it runs and nothing called its work off. -/
theorem closed?_eq_none_iff
    (q : Queue) :
    q.closed? = none ↔ q.phase = .running ∧ q.canceled = false := by
  unfold closed?
  cases hPhase : q.phase <;> simp

/- An open queue takes a job that is not pending, if there is room for it. -/
theorem enqueue_of_open
    {q : Queue}
    (job : Job)
    (now : Int)
    (hOpen : q.closed? = none) :
    q.enqueue job now =
      if job.id ≠ "" ∧ job.id ∈ q.pending then .error (.duplicate job.id)
      else if q.buffer.length < q.limits.capacity then
        .ok
          { q with
            buffer := q.buffer ++ [job.stamped now]
            inflight := q.inflight + 1
            pending := if job.id = "" then q.pending else q.pending ++ [job.id] }
      else .error .full := by
  unfold enqueue
  rw [hOpen]
  by_cases hPending : job.id ≠ "" ∧ job.id ∈ q.pending
  · simp [hPending]
  · have hTest : ¬((job.id != "" && q.pending.contains job.id) = true) := by
      simpa using hPending
    simp only [hTest, hPending, Bool.false_eq_true, ↓reduceIte]
    by_cases hRoom : q.buffer.length < q.limits.capacity
    · by_cases hId : job.id = "" <;>
        simp [push, remember, hRoom, hId, Job.stamped, bind, Except.bind, pure, Except.pure]
    · simp [push, hRoom, bind, Except.bind]

theorem moves_of_enqueue
    {q q' : Queue}
    {job : Job}
    {now : Int}
    (hEnqueue : q.enqueue job now = .ok q') :
    Moves q (.enqueue job now) q' := by
  cases hOpen : q.closed? with
  | some refusal => simp [enqueue, hOpen] at hEnqueue
  | none =>
      rw [enqueue_of_open job now hOpen] at hEnqueue
      split at hEnqueue
      · simp at hEnqueue
      · rename_i hNew
        split at hEnqueue
        · rename_i hRoom
          cases hEnqueue
          exact .enqueue job now hOpen (fun hId hPending => hNew ⟨hId, hPending⟩) hRoom
        · simp at hEnqueue

theorem moves_of_fail
    {q : Queue}
    {job : Job}
    (error : String)
    (hHandled : job ∈ q.handling) :
    Moves q (.fail job error)
      ({ q with
          handling := q.handling.erase job
          settled := q.settled + 1 }.settleFailure job error) := by
  by_cases hSpent : q.limits.maxRetries < job.attempt + 1
  · simp only [settleFailure, hSpent, if_true]
    exact .exhaust job error _ hHandled hSpent
  · simp only [settleFailure, hSpent, if_false]
    exact .postpone job error _ hHandled (by omega)

/- Nothing else can happen to a queue than what the moves say. -/
theorem moves_of_step?
    {q q' : Queue}
    {e : Event}
    (hStep : q.step? e = some q') :
    Moves q e q' := by
  cases e with
  | start =>
      simp only [step?, Option.ite_none_right_eq_some] at hStep
      rcases hStep with
        ⟨hIdle, hSome⟩
      cases hSome
      exact .start _ hIdle
  | enqueue job now =>
      simp only [step?] at hStep
      cases hEnqueue : q.enqueue job now with
      | error refusal => simp [hEnqueue, Except.toOption] at hStep
      | ok taken =>
          simp only [hEnqueue, Except.toOption, Option.some.injEq] at hStep
          exact hStep ▸ moves_of_enqueue hEnqueue
  | take =>
      simp only [step?] at hStep
      cases hBuffer : q.buffer with
      | nil => simp [hBuffer] at hStep
      | cons job rest =>
          simp only [hBuffer, Option.ite_none_right_eq_some] at hStep
          rcases hStep with
            ⟨hWorker, hSome⟩
          cases hSome
          exact .take job rest hBuffer hWorker
  | succeed job =>
      simp only [step?, Option.ite_none_right_eq_some] at hStep
      rcases hStep with
        ⟨hHandled, hSome⟩
      cases hSome
      exact .succeed job hHandled
  | fail job error =>
      simp only [step?, Option.ite_none_right_eq_some] at hStep
      rcases hStep with
        ⟨hHandled, hSome⟩
      cases hSome
      exact moves_of_fail error hHandled
  | account =>
      simp only [step?, Option.ite_none_right_eq_some] at hStep
      rcases hStep with
        ⟨hSettled, hSome⟩
      cases hSome
      exact .account hSettled
  | leave =>
      simp only [step?, Option.ite_none_right_eq_some] at hStep
      rcases hStep with
        ⟨⟨hCanceled, hWorker⟩, hSome⟩
      cases hSome
      exact .leave hCanceled hWorker
  | retry job =>
      simp only [step?, Option.ite_none_right_eq_some] at hStep
      rcases hStep with
        ⟨hWaiting, hSome⟩
      by_cases hRoom : q.buffer.length < q.limits.capacity
      · simp only [push, hRoom, if_true] at hSome
        cases hSome
        exact .retry job hWaiting hRoom
      · simp only [push, hRoom, if_false] at hSome
        cases hSome
        exact .refuse job _ hWaiting (by omega)
  | giveUp job =>
      simp only [step?, Option.ite_none_right_eq_some] at hStep
      rcases hStep with
        ⟨hRefused, hSome⟩
      cases hSome
      exact .giveUp job hRefused
  | drop job =>
      simp only [step?, Option.ite_none_right_eq_some] at hStep
      rcases hStep with
        ⟨⟨hCanceled, hWaiting⟩, hSome⟩
      cases hSome
      exact .drop job hCanceled hWaiting
  | cancel =>
      cases hStep
      exact .cancel
  | stop =>
      simp only [step?, Option.ite_none_right_eq_some] at hStep
      rcases hStep with
        ⟨hRunning, hSome⟩
      cases hSome
      exact .stop hRunning
  | drained =>
      simp only [step?, Option.ite_none_right_eq_some] at hStep
      rcases hStep with
        ⟨⟨hDraining, hNone⟩, hSome⟩
      cases hSome
      exact .drained hDraining hNone
  | timedOut =>
      simp only [step?, Option.ite_none_right_eq_some] at hStep
      rcases hStep with
        ⟨hDraining, hSome⟩
      cases hSome
      exact .timedOut hDraining
  | finish =>
      simp only [step?] at hStep
      cases hPhase : q.phase with
      | closing drained =>
          simp only [hPhase, Option.ite_none_right_eq_some] at hStep
          rcases hStep with
            ⟨hDeserted, hSome⟩
          cases hSome
          exact .finish drained _ hPhase hDeserted
      | idle => simp [hPhase] at hStep
      | running => simp [hPhase] at hStep
      | draining => simp [hPhase] at hStep
      | stopped => simp [hPhase] at hStep

------------------------------------------------------------
-- Runs
------------------------------------------------------------

/- What every move keeps holds after a whole run. -/
theorem steps?_keeps
    {P : Queue → Prop}
    (hMoves : ∀ q e q', P q → Moves q e q' → P q')
    (events : List Event)
    {q q' : Queue}
    (hFirst : P q)
    (hRun : q.steps? events = some q') :
    P q' := by
  induction events generalizing q with
  | nil =>
      cases hRun
      exact hFirst
  | cons e rest ih =>
      rcases Option.bind_eq_some_iff.mp hRun with
        ⟨next, hStep, hRest⟩
      exact ih (hMoves q e next hFirst (moves_of_step? hStep)) hRest

end Timetable.Queue
