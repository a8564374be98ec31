import Mathlib.Algebra.BigOperators.Group.List.Basic
import Mathlib.Algebra.GroupWithZero.Nat
import Timetable.Proofs.Queue.Histories

/-
  This file shows that the jobs of a queue come to an end.

  Each event of a worker or a timer leaves less to do, so that
  without new jobs a queue comes to rest.  Then every job has
  ended, or is in the buffer of a queue whose workers were
  called off and do not come back.

  Key definitions include:
    * `Abandoned`
    * `AtRest`
    * `effort`
    * `Course`
  Main theorems include:
    * `effort_lt`
    * `AtRest.ended_or_abandoned`
    * `run_settles_jobs`
-/

namespace Timetable.Queue

------------------------------------------------------------
-- Calling the Work Off
------------------------------------------------------------

/- The work of a queue goes on until it is called off or the queue is told to stop. -/
theorem goesOn_of_steps?
    {events : List Event}
    {q q' : Queue}
    (hRun : q.steps? events = some q')
    (hNoCancel : .cancel ∉ events)
    (hNoStop : .stop ∉ events)
    (hBefore : q.canceled = false ∧ ¬IsStopping q) :
    q'.canceled = false ∧ ¬IsStopping q' := by
  induction events generalizing q with
  | nil =>
      cases hRun
      exact hBefore
  | cons e events ih =>
      simp only [List.mem_cons, not_or] at hNoCancel hNoStop
      rcases Option.bind_eq_some_iff.mp hRun with
        ⟨next, hStep, hRest⟩
      refine ih hRest hNoCancel.2 hNoStop.2 ?_
      cases moves_of_step? hStep with
      | start logs hIdle => exact ⟨hBefore.1, by simp [IsStopping]⟩
      | cancel => exact absurd rfl hNoCancel.1
      | stop hRunning => exact absurd rfl hNoStop.1
      | drained hDraining hNone => exact absurd (by simp [IsStopping, hDraining]) hBefore.2
      | timedOut hDraining => exact absurd (by simp [IsStopping, hDraining]) hBefore.2
      | finish drained logs hClosing hDeserted =>
          exact absurd (by simp [IsStopping, hClosing]) hBefore.2
      | _ => exact hBefore

theorem cancel_or_stop_of_canceled
    {name : String}
    {limits : Limits}
    {events : List Event}
    {q : Queue}
    (hRun : (Queue.new name limits).steps? events = some q)
    (hCanceled : q.canceled = true) :
    .cancel ∈ events ∨ .stop ∈ events := by
  by_contra hNeither
  rw [not_or] at hNeither
  have hGoing := goesOn_of_steps? hRun hNeither.1 hNeither.2 ⟨rfl, by simp [IsStopping, Queue.new]⟩
  simp [hGoing.1] at hCanceled

/- The work was called off and the workers are gone. -/
structure Abandoned (q : Queue) : Prop where
  canceled : q.canceled = true
  started : q.phase ≠ .idle
  idleWorkers : q.idleWorkers = 0
  handling : q.handling = []
  settled : q.settled = 0

/- Workers that are gone do not come back. -/
theorem Abandoned.keep
    {q q' : Queue}
    {e : Event}
    (hAbandoned : Abandoned q)
    (hMoves : Moves q e q') :
    e ≠ .take ∧ Abandoned q' := by
  rcases hAbandoned with
    ⟨hCanceled, hStarted, hNobody, hHandling, hSettled⟩
  cases hMoves with
  | start logs hIdle => exact absurd hIdle hStarted
  | take job rest hBuffer hWorker => omega
  | succeed job hHandled => simp [hHandling] at hHandled
  | exhaust job error logs hHandled hSpent => simp [hHandling] at hHandled
  | postpone job error logs hHandled hLeft => simp [hHandling] at hHandled
  | account hSome => omega
  | leave hOff hWorker => omega
  | cancel => exact ⟨by simp, rfl, hStarted, hNobody, hHandling, hSettled⟩
  | stop hRunning => exact ⟨by simp, hCanceled, by simp, hNobody, hHandling, hSettled⟩
  | drained hDraining hNone => exact ⟨by simp, rfl, by simp, hNobody, hHandling, hSettled⟩
  | timedOut hDraining => exact ⟨by simp, rfl, by simp, hNobody, hHandling, hSettled⟩
  | finish drained logs hClosing hDeserted =>
      exact ⟨by simp, hCanceled, by simp, hNobody, hHandling, hSettled⟩
  | _ => exact ⟨by simp, hCanceled, hStarted, hNobody, hHandling, hSettled⟩

/- In an abandoned queue no job is handled any more. -/
theorem Abandoned.not_mem_take
    {q q' : Queue}
    {events : List Event}
    (hAbandoned : Abandoned q)
    (hRun : q.steps? events = some q') :
    .take ∉ events := by
  induction events generalizing q with
  | nil => simp
  | cons e events ih =>
      rcases Option.bind_eq_some_iff.mp hRun with
        ⟨next, hStep, hRest⟩
      rcases hAbandoned.keep (moves_of_step? hStep) with
        ⟨hOther, hNext⟩
      simp [Ne.symm hOther, ih hNext hRest]

------------------------------------------------------------
-- Coming to Rest
------------------------------------------------------------

/- The event comes from a worker or a timer of the queue. -/
def Event.isInner : Event → Bool
| .take => true
| .succeed _ => true
| .fail _ _ => true
| .account => true
| .leave => true
| .retry _ => true
| .giveUp _ => true
| .drop _ => true
| _ => false

/- Workers and timers have nothing left to do. -/
def AtRest (q : Queue) : Prop :=
  ∀ e, e.isInner = true → q.step? e = none

/- What is left to do for a job, whatever comes of it. -/
def chances
    (q : Queue)
    (job : Job) : Nat :=
  5 * (q.limits.maxRetries + 1 - job.attempt)

/- What workers and timers have left to do at most. -/
def effort (q : Queue) : Nat :=
  (q.buffer.map (q.chances · + 4)).sum + (q.handling.map (q.chances · + 3)).sum +
    (q.waiting.map (q.chances · + 5)).sum + q.refused.length + 2 * q.settled + q.idleWorkers

/- Each event of a worker or a timer leaves less to do. -/
theorem effort_lt
    {q q' : Queue}
    {e : Event}
    (hInner : e.isInner = true)
    (hMoves : Moves q e q') :
    q'.effort < q.effort := by
  cases hMoves with
  | take job rest hBuffer hWorker =>
      simp only [effort, chances, hBuffer, List.map_cons, List.map_append, List.sum_cons,
        List.sum_append, List.map_nil, List.sum_nil]
      omega
  | succeed job hHandled =>
      have hSum := List.sum_map_erase (q.chances · + 3) hHandled
      simp only [effort, chances] at hSum ⊢
      omega
  | exhaust job error logs hHandled hSpent =>
      have hSum := List.sum_map_erase (q.chances · + 3) hHandled
      simp only [effort, chances] at hSum ⊢
      omega
  | postpone job error logs hHandled hLeft =>
      have hSum := List.sum_map_erase (q.chances · + 3) hHandled
      simp only [effort, chances, Job.again, List.map_cons, List.map_append, List.sum_cons,
        List.sum_append, List.map_nil, List.sum_nil] at hSum ⊢
      omega
  | account hSettled =>
      simp only [effort, chances]
      omega
  | leave hCanceled hWorker =>
      simp only [effort, chances]
      omega
  | retry job hWaiting hRoom =>
      have hSum := List.sum_map_erase (q.chances · + 5) hWaiting
      simp only [effort, chances, List.map_cons, List.map_append, List.sum_cons,
        List.sum_append, List.map_nil, List.sum_nil] at hSum ⊢
      omega
  | refuse job logs hWaiting hFull =>
      have hSum := List.sum_map_erase (q.chances · + 5) hWaiting
      simp only [effort, chances, List.length_append, List.length_singleton] at hSum ⊢
      omega
  | giveUp job hRefused =>
      have hLength := length_erase_add_one hRefused
      simp only [effort, chances]
      omega
  | drop job hCanceled hWaiting =>
      have hSum := List.sum_map_erase (q.chances · + 5) hWaiting
      simp only [effort, chances] at hSum ⊢
      omega
  | _ => cases hInner

/- Workers and timers by themselves come to an end. -/
theorem length_le_effort
    {inner : List Event}
    {q q' : Queue}
    (hInner : ∀ e ∈ inner, e.isInner = true)
    (hRun : q.steps? inner = some q') :
    inner.length ≤ q.effort := by
  induction inner generalizing q with
  | nil => exact Nat.zero_le _
  | cons e inner ih =>
      rcases Option.bind_eq_some_iff.mp hRun with
        ⟨next, hStep, hRest⟩
      have hLess := effort_lt (hInner e List.mem_cons_self) (moves_of_step? hStep)
      have hShort := ih (fun x hMem => hInner x (List.mem_cons_of_mem _ hMem)) hRest
      rw [List.length_cons]
      omega

/- Workers and timers by themselves bring a queue to rest. -/
theorem exists_atRest
    (q : Queue) :
    ∃ inner q', (∀ e ∈ inner, e.isInner = true) ∧ q.steps? inner = some q' ∧ AtRest q' := by
  induction hEffort : q.effort using Nat.strongRecOn generalizing q with
  | ind n ih =>
      by_cases hRest : AtRest q
      · exact ⟨[], q, by simp, rfl, hRest⟩
      · simp only [AtRest, not_forall] at hRest
        rcases hRest with
          ⟨e, hInner, hSome⟩
        rcases Option.ne_none_iff_exists'.mp hSome with
          ⟨next, hStep⟩
        have hLess := effort_lt hInner (moves_of_step? hStep)
        rcases ih next.effort (hEffort ▸ hLess) next rfl with
          ⟨inner, q', hAll, hRun, hRest⟩
        refine ⟨e :: inner, q', ?_, ?_, hRest⟩
        · simpa [hInner] using hAll
        · simpa [steps?, hStep] using hRun

/- In a queue at rest a job is at most in the buffer, and then there is no worker for it. -/
theorem AtRest.idle
    {q : Queue}
    (hRest : AtRest q) :
    q.handling = [] ∧ q.waiting = [] ∧ q.settled = 0 ∧
      (q.buffer ≠ [] → q.idleWorkers = 0) := by
  refine ⟨?_, ?_, ?_, ?_⟩
  · refine List.eq_nil_iff_forall_not_mem.mpr fun job hHandled => ?_
    simpa [step?, hHandled] using hRest (.succeed job) rfl
  · refine List.eq_nil_iff_forall_not_mem.mpr fun job hWaiting => ?_
    have hNone := hRest (.retry job) rfl
    simp only [step?, hWaiting, ↓reduceIte] at hNone
    split at hNone <;> cases hNone
  · simpa [step?] using hRest .account rfl
  · intro hSome
    rcases List.exists_cons_of_ne_nil hSome with
      ⟨job, rest, hBuffer⟩
    simpa [step?, hBuffer] using hRest .take rfl

/- In a queue at rest every job has ended, or was left behind when the workers were called off. -/
theorem AtRest.ended_or_abandoned
    {past : Record}
    {q : Queue}
    {r : List Standing}
    {i : Nat}
    {s : Standing}
    (hRest : AtRest q)
    (hCounted : Counted q)
    (hWorkers : 0 < q.limits.workers)
    (hFollowed : Followed past q r)
    (hHere : r[i]? = some s) :
    (∃ ending, s.place = .ended ending) ∨ (s.place = .buffered ∧ Abandoned q) := by
  rcases hRest.idle with
    ⟨hHandling, hWaiting, hSettled, hStaff⟩
  rcases hFollowed.agrees s.job with
    ⟨hBuffered, hHandled, hWaits⟩
  have hOne : 0 < r.count s := List.count_pos_iff.mpr (List.mem_of_getElem? hHere)
  rcases s with
    ⟨job, place⟩
  cases place with
  | ended ending => exact .inl ⟨ending, rfl⟩
  | handled =>
      simp only [hHandling, List.count_nil] at hHandled
      omega
  | waiting =>
      simp only [hWaiting, List.count_nil] at hWaits
      omega
  | buffered =>
      have hMem : job ∈ q.buffer := List.count_pos_iff.mp (by simpa [hBuffered] using hOne)
      have hSome : q.buffer ≠ [] := List.ne_nil_of_mem hMem
      have hStarted : q.phase ≠ .idle := fun hIdle => hSome (hCounted.unopened hIdle)
      have hNobody := hStaff hSome
      refine .inr ⟨rfl, ?_, hStarted, hNobody, hHandling, hSettled⟩
      by_contra hGoing
      have hStaffed := hCounted.staffed hStarted (by simpa using hGoing)
      simp only [hNobody, hHandling, hSettled, List.length_nil] at hStaffed
      omega

------------------------------------------------------------
-- The Course of a Job
------------------------------------------------------------

/- What becomes of a job that was taken with no attempt behind it. -/
structure Course
    (start : Queue)
    (events : List Event)
    (q : Queue)
    (job : Job)
    (later : List Happening) : Prop where
  /- The handler is called for one attempt after the other. -/
  calls :
    callsOf later = (List.range (callsOf later).length).map fun k => { job with attempt := k }
  bounded : (callsOf later).length ≤ q.limits.maxRetries + 1
  /- An end is the last that happens to the job, and the only end. -/
  last :
    ∀ ending, .ended ending ∈ later →
      ∃ earlier, later = earlier ++ [.ended ending] ∧ endingsOf earlier = []
  success : .ended .success ∈ later → later.count .failed + 1 = (callsOf later).length
  exhausted : .ended .exhausted ∈ later → later.count .failed = q.limits.maxRetries + 1
  /- Its own turn to be tried again came when the buffer was full. -/
  refused :
    .ended .refused ∈ later →
      ∃ first rest p,
        events = first ++ .retry { job with attempt := later.count .failed } :: rest ∧
          start.steps? first = some p ∧ p.limits.capacity ≤ p.buffer.length
  dropped : .ended .dropped ∈ later → .cancel ∈ events ∨ .stop ∈ events
  /- When nothing is left to do the job has ended, or was dropped with the buffer. -/
  settled :
    0 < q.limits.workers → AtRest q →
      (∃ ending, endingsOf later = [ending]) ∨
        (endingsOf later = [] ∧ Abandoned q ∧ (.cancel ∈ events ∨ .stop ∈ events))

theorem course_of_told
    {name : String}
    {limits : Limits}
    {events : List Event}
    {past : Record}
    {q : Queue}
    {r : List Standing}
    {i n : Nat}
    {s : Standing}
    {job : Job}
    (hTraces : Traces (Queue.new name limits) [] events past q r)
    (hHere : r[i]? = some s)
    (hTold : Told q (lifeOf i past) s job n)
    (hFirst : job.attempt = 0) :
    Course (Queue.new name limits) events q job (story job n s.place) := by
  have hRun := hTraces.steps?_eq
  have hAllowed : n ≤ q.limits.maxRetries := by
    have hCases := hTold.allowed
    omega
  have hTried : job.tried = fun k => { job with attempt := k } := by
    funext k
    simp [Job.tried, hFirst]
  have hCalls := callsOf_story job n s.place
  have hLength : (callsOf (story job n s.place)).length = n + s.place.calls := by
    simp [hCalls]
  have hOnce : s.place.calls ≤ 1 := by
    rcases s.place with _ | _ | _ | _ | _ | _ | _ <;> simp [Place.calls]
  refine ⟨?_, ?_, ?_, ?_, ?_, ?_, ?_, ?_⟩
  · rw [hLength, hCalls, hTried]
  · omega
  · intro ending hEnded
    rw [mem_story_iff] at hEnded
    rw [hEnded]
    exact exists_story_eq job n ending
  · intro hEnded
    rw [mem_story_iff] at hEnded
    rw [hLength, count_failed_story, hEnded]
    simp [Place.calls]
  · intro hEnded
    rw [mem_story_iff] at hEnded
    have hSpent := hTold.spent hEnded
    simp only [count_failed_story, hEnded, ↓reduceIte]
    omega
  · intro hEnded
    have hPut : (i, .ended .refused) ∈ past := by
      apply mem_lifeOf_iff.mp
      rw [hTold.life_eq]
      exact List.mem_cons_of_mem _ hEnded
    rcases hTraces.full_of_refusal hPut with
      ⟨first, again, rest, p, hEvents, hBefore, hFull, hThere⟩
    have hSame : again = { job with attempt := n } := by
      cases hThere.symm.trans hHere
      exact hTold.job_eq.trans (congrFun hTried n)
    rw [mem_story_iff] at hEnded
    refine ⟨first, rest, p, ?_, hBefore, hFull⟩
    rw [hEvents, hSame, count_failed_story, hEnded]
    rfl
  · intro hEnded
    rw [mem_story_iff] at hEnded
    exact cancel_or_stop_of_canceled hRun (hTold.canceled hEnded)
  · intro hWorkers hRest
    rw [endingsOf_story]
    rcases hRest.ended_or_abandoned (counted_of_run hRun) hWorkers
        (followed_of_traces hTraces) hHere with
      ⟨ending, hPlace⟩ | ⟨hPlace, hAbandoned⟩
    · exact .inl ⟨ending, by simp [hPlace, Place.ending?]⟩
    · refine .inr ⟨by simp [hPlace, Place.ending?], hAbandoned, ?_⟩
      exact cancel_or_stop_of_canceled hRun hAbandoned.canceled

------------------------------------------------------------
-- Jobs in Every Run
------------------------------------------------------------

/-
  However callers, workers, timers and a stop take turns, every
  run can be traced, and in whatever way that is done: what
  happens happens to jobs that were taken before, each of which
  was taken once.  A job without attempts behind it takes its
  course.  Workers and timers by themselves come to rest in a
  bounded number of events, so that every job ends, and a queue
  that was abandoned handles none any more.
-/
theorem run_settles_jobs
    {name : String}
    {limits : Limits}
    {events : List Event}
    {q : Queue}
    (hRun : (Queue.new name limits).steps? events = some q) :
    (∃ past r, Traces (Queue.new name limits) [] events past q r) ∧
    (∀ past r, Traces (Queue.new name limits) [] events past q r →
      past.filterMap (·.2.acceptance?) = events.filterMap Event.incoming? ∧
      (callsOf (past.map (·.2))).length = events.count .take ∧
      (∀ i h, (i, h) ∈ past →
        ∃ job later, lifeOf i past = .accepted job :: later ∧ ∀ j, .accepted j ∉ later) ∧
      (∀ i job later, lifeOf i past = .accepted job :: later → job.attempt = 0 →
        Course (Queue.new name limits) events q job later)) ∧
    (∀ inner q', (∀ e ∈ inner, e.isInner = true) → q.steps? inner = some q' →
      inner.length ≤ q.effort) ∧
    (∃ inner q', (∀ e ∈ inner, e.isInner = true) ∧ q.steps? inner = some q' ∧ AtRest q') ∧
    (Abandoned q → ∀ more q', q.steps? more = some q' → .take ∉ more) := by
  refine ⟨?_, ?_, fun _ _ => length_le_effort, exists_atRest q,
    fun hAbandoned _ _ => hAbandoned.not_mem_take⟩
  · exact exists_traces (by simp [Matches, Queue.new]) hRun
  · intro past r hTraces
    have hFollowed := followed_of_traces hTraces
    -- A number to which something happened is one of the roster.
    have hKnown :
        ∀ i, lifeOf i past ≠ [] → ∃ s job n, r[i]? = some s ∧ Told q (lifeOf i past) s job n := by
      intro i hSome
      have hBound : i < r.length := by
        by_contra hBeyond
        exact hSome (hFollowed.unknown i (Nat.not_lt.mp hBeyond))
      rcases hFollowed.told i r[i] (List.getElem?_eq_getElem hBound) with
        ⟨job, n, hTold⟩
      exact ⟨r[i], job, n, List.getElem?_eq_getElem hBound, hTold⟩
    refine ⟨hTraces.acceptances_eq, hTraces.length_calls_eq, ?_, ?_⟩
    · intro i h hMem
      rcases hKnown i (List.ne_nil_of_mem (mem_lifeOf_iff.mpr hMem)) with
        ⟨s, job, n, hHere, hTold⟩
      exact ⟨job, _, hTold.life_eq, fun other => accepted_not_mem_story job other n s.place⟩
    · intro i job later hLife hFirst
      rcases hKnown i (by simp [hLife]) with
        ⟨s, job', n, hHere, hTold⟩
      have hSame := hLife.symm.trans hTold.life_eq
      simp only [List.cons.injEq, Happening.accepted.injEq] at hSame
      rcases hSame with
        ⟨rfl, rfl⟩
      exact course_of_told hTraces hHere hTold hFirst

/- A job that nothing tells apart from another of its kind. -/
def twinJob : Job :=
  { id := "", kind := "dates", enqueuedAt := some 0 }

/-
  Two such jobs fail in turn.  When they are tried again the
  first fills the buffer and succeeds, and the other is refused.
-/
def twinEvents : List Event :=
  [.start, .enqueue twinJob 1, .take, .enqueue twinJob 2, .take, .fail twinJob "refused",
    .fail twinJob "refused", .account, .account, .retry twinJob.again, .retry twinJob.again,
    .take, .giveUp twinJob.again, .succeed twinJob.again, .account]

theorem run_settles_jobs_twins :
    ∃ q past r i later ending,
      (Queue.new "dates" sampleLimits).steps? twinEvents = some q ∧
      Traces (Queue.new "dates" sampleLimits) [] twinEvents past q r ∧
      lifeOf i past = .accepted twinJob :: later ∧ AtRest q ∧ endingsOf later = [ending] ∧
      callsOf later = (List.range (callsOf later).length).map fun k =>
        { twinJob with attempt := k } := by
  have hReached :
      ((Queue.new "dates" sampleLimits).steps? twinEvents).map
          (fun q => (q.buffer.length + q.handling.length + q.waiting.length + q.refused.length +
            q.settled, q.canceled, q.limits.workers)) = some (0, false, 2) := by
    decide +kernel
  rcases Option.map_eq_some_iff.mp hReached with
    ⟨q, hRun, hParts⟩
  simp only [Prod.mk.injEq, Nat.add_eq_zero_iff, List.length_eq_zero_iff] at hParts
  rcases hParts with
    ⟨⟨⟨⟨⟨hBuffer, hHandling⟩, hWaiting⟩, hRefused⟩, hSettled⟩, hCanceled, hWorkers⟩
  have hRest : AtRest q := by
    intro e hInner
    cases e <;> simp_all [step?, Event.isInner]
  rcases run_settles_jobs hRun with
    ⟨⟨past, r, hTraces⟩, hAll, -⟩
  rcases hAll past r hTraces with
    ⟨hAccepted, -, hLives, hCourse⟩
  have hTaken : twinJob ∈ past.filterMap (·.2.acceptance?) := by
    rw [hAccepted]
    decide +kernel
  rcases List.mem_filterMap.mp hTaken with
    ⟨⟨i, h⟩, hMem, hThis⟩
  rcases hLives i h hMem with
    ⟨job, later, hLife, hOnce⟩
  have hJob : job = twinJob := by
    have hIn := mem_lifeOf_iff.mpr hMem
    rw [hLife, List.mem_cons] at hIn
    cases h <;> simp_all [Happening.acceptance?]
  subst hJob
  have hTwin := hCourse i twinJob later hLife rfl
  rcases hTwin.settled (by omega) hRest with
    ⟨ending, hEnding⟩ | ⟨-, hAbandoned, -⟩
  · exact ⟨q, past, r, i, later, ending, hRun, hTraces, hLife, hRest, hEnding, hTwin.calls⟩
  · simp [hAbandoned.canceled] at hCanceled

end Timetable.Queue
