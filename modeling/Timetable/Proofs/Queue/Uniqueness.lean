import Timetable.Proofs.Queue.Steps
import Mathlib.Data.List.Perm.Basic
import Mathlib.Data.List.Perm.Subperm
import Mathlib.Data.List.Nodup

/-
  This file shows that a queue never has two live jobs of one
  id, however its callers, workers and timers take turns.

  The ids of the jobs that the queue still holds are distinct
  and, until it has stopped, all of them are pending.  Each
  move keeps that, and so does a whole run.

  Key definitions include:
    * `live`
    * `held`
    * `idsOf`
    * `Accounted`
    * `Ends`
  Main theorems include:
    * `accounted_of_moves`
    * `accounted_of_run`
    * `ends_of_released`
    * `run_keeps_ids_unique`
-/

namespace Timetable.Queue

------------------------------------------------------------
-- The Jobs of a Queue
------------------------------------------------------------

/- The jobs that are buffered, being handled or waiting to be tried again. -/
def live (q : Queue) : List Job :=
  q.buffer ++ q.handling ++ q.waiting

/- The live jobs, and those that found the buffer full and are not given up yet. -/
def held (q : Queue) : List Job :=
  q.live ++ q.refused

/- The ids of jobs, the empty one left out. -/
def idsOf (jobs : List Job) : List String :=
  (jobs.map (·.id)).filter (· != "")

theorem mem_idsOf_iff
    {jobs : List Job}
    {id : String} :
    id ∈ idsOf jobs ↔ id ≠ "" ∧ ∃ job ∈ jobs, job.id = id := by
  simp only [idsOf, List.mem_filter, List.mem_map, bne_iff_ne]
  exact and_comm

/- How often an id occurs among jobs, one of which is set apart. -/
theorem count_erase
    {job : Job}
    {jobs : List Job}
    (hMem : job ∈ jobs)
    (id : String) :
    (jobs.map (·.id)).count id =
      ((jobs.erase job).map (·.id)).count id + if job.id == id then 1 else 0 := by
  have hPerm := (List.perm_cons_erase hMem).map (fun j : Job => j.id)
  rw [hPerm.count_eq id, List.map_cons, List.count_cons]

/- How often an id occurs among jobs, when one comes last. -/
theorem count_concat
    (jobs : List Job)
    (job : Job)
    (id : String) :
    ((jobs ++ [job]).map (·.id)).count id =
      (jobs.map (·.id)).count id + if job.id == id then 1 else 0 := by
  rw [List.map_append, List.count_append, List.map_singleton, List.count_singleton]

/- The ids left when a list of ids loses its first one. -/
theorem idsOf_perm_cons
    {id : String}
    {jobs rest : List Job}
    (hPerm : (jobs.map (·.id)).Perm (id :: rest.map (·.id))) :
    (idsOf jobs).Perm ([id].filter (· != "") ++ idsOf rest) := by
  rw [idsOf, idsOf, ← List.filter_append]
  exact hPerm.filter _

------------------------------------------------------------
-- The Invariant
------------------------------------------------------------

/- The jobs that a queue holds and its pending ids agree. -/
structure Accounted (q : Queue) : Prop where
  distinct : (idsOf q.held).Nodup
  booked : q.phase ≠ .stopped → ∀ id ∈ idsOf q.held, id ∈ q.pending
  cleared : q.phase = .stopped → q.pending = []
  named : "" ∉ q.pending

/- No new id is held, and the pending ids stay. -/
theorem Accounted.keep
    {q q' : Queue}
    (hAccounted : Accounted q)
    (hHeld : (q'.held.map (·.id)).Subperm (q.held.map (·.id)))
    (hPending : q'.pending = q.pending)
    (hPhase : q'.phase = .stopped ↔ q.phase = .stopped) :
    Accounted q' := by
  have hIds : (idsOf q'.held).Subperm (idsOf q.held) := hHeld.filter _
  constructor
  · rcases hIds with
      ⟨ids, hPerm, hSublist⟩
    exact hPerm.nodup_iff.mp (hAccounted.distinct.sublist hSublist)
  · intro hGoing id hId
    rw [hPending]
    exact hAccounted.booked (mt hPhase.mpr hGoing) id (hIds.subset hId)
  · intro hStopped
    rw [hPending]
    exact hAccounted.cleared (hPhase.mp hStopped)
  · rw [hPending]
    exact hAccounted.named

/- A job is no longer held, and its id is no longer pending. -/
theorem Accounted.release
    {q q' : Queue}
    {id : String}
    (hAccounted : Accounted q)
    (hHeld : (q.held.map (·.id)).Perm (id :: q'.held.map (·.id)))
    (hPending : q'.pending = q.pending.filter (· != id))
    (hPhase : q'.phase = q.phase) :
    Accounted q' := by
  have hIds := idsOf_perm_cons hHeld
  have hDistinct := hIds.nodup_iff.mp hAccounted.distinct
  constructor
  · exact hDistinct.of_append_right
  · intro hGoing other hOther
    have hBefore : other ∈ q.pending :=
      hAccounted.booked (hPhase ▸ hGoing) other
        (hIds.mem_iff.mpr (List.mem_append_right _ hOther))
    have hNamed : other ≠ "" := (mem_idsOf_iff.mp hOther).1
    have hOthers : other ≠ id := by
      intro hSame
      subst hSame
      exact List.disjoint_of_nodup_append hDistinct (by simp [hNamed]) hOther
    simp [hPending, hBefore, hOthers]
  · intro hStopped
    simp [hPending, hAccounted.cleared (hPhase ▸ hStopped)]
  · simp [hPending, hAccounted.named]

/- A job is held for the first time, and its id becomes pending. -/
theorem Accounted.join
    {q q' : Queue}
    {id : String}
    (hAccounted : Accounted q)
    (hGoing : q.phase ≠ .stopped)
    (hNew : id ≠ "" → id ∉ q.pending)
    (hHeld : (q'.held.map (·.id)).Perm (id :: q.held.map (·.id)))
    (hPending : q'.pending = if id = "" then q.pending else q.pending ++ [id])
    (hPhase : q'.phase = q.phase) :
    Accounted q' := by
  have hIds := idsOf_perm_cons hHeld
  by_cases hEmpty : id = ""
  · have hNone : [id].filter (· != "") = [] := by simp [hEmpty]
    rw [hNone, List.nil_append] at hIds
    rw [if_pos hEmpty] at hPending
    constructor
    · exact hIds.nodup_iff.mpr hAccounted.distinct
    · intro _ other hOther
      rw [hPending]
      exact hAccounted.booked hGoing other (hIds.mem_iff.mp hOther)
    · intro hStopped
      exact absurd (hPhase ▸ hStopped) hGoing
    · rw [hPending]
      exact hAccounted.named
  · have hSingle : [id].filter (· != "") = [id] := by simp [hEmpty]
    rw [hSingle] at hIds
    rw [if_neg hEmpty] at hPending
    constructor
    · apply hIds.nodup_iff.mpr
      refine List.nodup_cons.mpr ⟨?_, hAccounted.distinct⟩
      intro hMem
      exact hNew hEmpty (hAccounted.booked hGoing id hMem)
    · intro _ other hOther
      rw [hPending]
      rcases List.mem_cons.mp (hIds.mem_iff.mp hOther) with hSame | hBefore
      · simp [hSame]
      · simp [hAccounted.booked hGoing other hBefore]
    · intro hStopped
      exact absurd (hPhase ▸ hStopped) hGoing
    · simp [hPending, hAccounted.named, Ne.symm hEmpty]

------------------------------------------------------------
-- Moves Keep the Invariant
------------------------------------------------------------

/- How often an id occurs among the held jobs. -/
theorem count_held
    (q : Queue)
    (id : String) :
    (q.held.map (·.id)).count id =
      (q.buffer.map (·.id)).count id + (q.handling.map (·.id)).count id +
        (q.waiting.map (·.id)).count id + (q.refused.map (·.id)).count id := by
  simp only [held, live, List.map_append, List.count_append]

/- Each way a move can go either keeps the held jobs, adds one or ends one. -/
theorem accounted_of_moves
    {q q' : Queue}
    {e : Event}
    (hAccounted : Accounted q)
    (hMoves : Moves q e q') :
    Accounted q' := by
  cases hMoves with
  | enqueue job now hOpen hNew hRoom =>
      have hRunning := ((closed?_eq_none_iff q).mp hOpen).1
      refine hAccounted.join (by simp [hRunning]) hNew (List.perm_iff_count.mpr fun id => ?_) rfl rfl
      simp only [count_held, count_concat, Job.stamped, List.count_cons]
      omega
  | take job rest hBuffer hWorker =>
      refine hAccounted.keep (List.perm_iff_count.mpr fun id => ?_).subperm rfl Iff.rfl
      simp only [count_held, count_concat, hBuffer, List.map_cons, List.count_cons]
      omega
  | succeed job hHandled =>
      refine hAccounted.release (List.perm_iff_count.mpr fun id => ?_) rfl rfl
      have hErase := count_erase hHandled id
      simp only [count_held, List.count_cons]
      omega
  | exhaust job error logs hHandled hSpent =>
      refine hAccounted.release (List.perm_iff_count.mpr fun id => ?_) rfl rfl
      have hErase := count_erase hHandled id
      simp only [count_held, List.count_cons]
      omega
  | postpone job error logs hHandled hLeft =>
      refine hAccounted.keep (List.perm_iff_count.mpr fun id => ?_).subperm rfl Iff.rfl
      have hErase := count_erase hHandled id
      simp only [count_held, count_concat, Job.again]
      omega
  | retry job hWaiting hRoom =>
      refine hAccounted.keep (List.perm_iff_count.mpr fun id => ?_).subperm rfl Iff.rfl
      have hErase := count_erase hWaiting id
      simp only [count_held, count_concat]
      omega
  | refuse job logs hWaiting hFull =>
      refine hAccounted.keep (List.perm_iff_count.mpr fun id => ?_).subperm rfl Iff.rfl
      have hErase := count_erase hWaiting id
      simp only [count_held, count_concat]
      omega
  | giveUp job hRefused =>
      refine hAccounted.release (List.perm_iff_count.mpr fun id => ?_) rfl rfl
      have hErase := count_erase hRefused id
      simp only [count_held, List.count_cons]
      omega
  | drop job hCanceled hWaiting =>
      refine hAccounted.keep (List.subperm_iff_count.mpr fun id => ?_) rfl Iff.rfl
      have hErase := count_erase hWaiting id
      simp only [count_held]
      omega
  | finish drained logs hClosing hDeserted =>
      exact ⟨hAccounted.distinct, by simp, by simp, by simp⟩
  | start logs hIdle => exact hAccounted.keep (List.Subperm.refl _) rfl (by simp [hIdle])
  | account hSettled => exact hAccounted.keep (List.Subperm.refl _) rfl Iff.rfl
  | leave hCanceled hWorker => exact hAccounted.keep (List.Subperm.refl _) rfl Iff.rfl
  | cancel => exact hAccounted.keep (List.Subperm.refl _) rfl Iff.rfl
  | stop hRunning => exact hAccounted.keep (List.Subperm.refl _) rfl (by simp [hRunning])
  | drained hDraining hNone => exact hAccounted.keep (List.Subperm.refl _) rfl (by simp [hDraining])
  | timedOut hDraining => exact hAccounted.keep (List.Subperm.refl _) rfl (by simp [hDraining])

/- After its start a queue keeps its account, whatever happens to it. -/
theorem accounted_of_run
    {name : String}
    {limits : Limits}
    {events : List Event}
    {q : Queue}
    (hRun : (Queue.new name limits).steps? (.start :: events) = some q) :
    Accounted q := by
  have hNew : Accounted (Queue.new name limits) :=
    ⟨List.nodup_nil, by simp [Queue.new, held, live, idsOf], by simp [Queue.new],
      by simp [Queue.new]⟩
  exact steps?_keeps (fun _ _ _ => accounted_of_moves) _ hNew hRun

theorem Accounted.count_live
    {q : Queue}
    {id : String}
    (hAccounted : Accounted q)
    (hNamed : id ≠ "") :
    q.live.countP (·.id == id) ≤ 1 := by
  have hCount : (idsOf q.held).count id = q.held.countP (·.id == id) := by
    rw [idsOf, List.count_filter (by simpa using hNamed), List.count, List.countP_map]
    rfl
  have hHeld : q.live.countP (·.id == id) ≤ q.held.countP (·.id == id) :=
    (List.sublist_append_left q.live q.refused).countP_le
  have hOnce := List.nodup_iff_count_le_one.mp hAccounted.distinct id
  omega

------------------------------------------------------------
-- The End of a Job
------------------------------------------------------------

/- The event ends a job with the id for good. -/
inductive Ends (q : Queue) (id : String) : Event → Prop
| success
    (job : Job)
    (hHandled : job ∈ q.handling)
    (hId : job.id = id) :
    Ends q id (.succeed job)
| exhausted
    (job : Job)
    (error : String)
    (hHandled : job ∈ q.handling)
    (hId : job.id = id)
    (hSpent : q.limits.maxRetries < job.attempt + 1) :
    Ends q id (.fail job error)
/- It found the buffer full when it was to be tried again. -/
| refused
    (job : Job)
    (hRefused : job ∈ q.refused)
    (hId : job.id = id) :
    Ends q id (.giveUp job)

/- An id that is no longer pending was cleared at the end, or its job has ended. -/
theorem ends_of_released
    {q q' : Queue}
    {e : Event}
    {id : String}
    (hMoves : Moves q e q')
    (hBefore : id ∈ q.pending)
    (hAfter : id ∉ q'.pending) :
    (e = .finish ∧ q'.pending = []) ∨ (Ends q id e ∧ q'.phase = q.phase) := by
  cases hMoves with
  | enqueue job now hOpen hNew hRoom =>
      simp only at hAfter
      split at hAfter <;> simp [hBefore] at hAfter
  | succeed job hHandled =>
      have hId : id = job.id := by simpa [hBefore] using hAfter
      exact .inr ⟨.success job hHandled hId.symm, rfl⟩
  | exhaust job error logs hHandled hSpent =>
      have hId : id = job.id := by simpa [hBefore] using hAfter
      exact .inr ⟨.exhausted job error hHandled hId.symm hSpent, rfl⟩
  | giveUp job hRefused =>
      have hId : id = job.id := by simpa [hBefore] using hAfter
      exact .inr ⟨.refused job hRefused hId.symm, rfl⟩
  | finish drained logs hClosing hDeserted => exact .inl ⟨rfl, rfl⟩
  | _ => exact absurd hBefore hAfter

/- Of an id that was released, no job is held any more. -/
theorem not_held_of_released
    {q q' : Queue}
    {id : String}
    (hAccounted : Accounted q)
    (hAccounted' : Accounted q')
    (hPhase : q'.phase = q.phase)
    (hBefore : id ∈ q.pending)
    (hAfter : id ∉ q'.pending) :
    ∀ job ∈ q'.held, job.id ≠ id := by
  intro job hJob hId
  have hGoing : q'.phase ≠ .stopped := by
    intro hStopped
    simp [hAccounted.cleared (hPhase ▸ hStopped)] at hBefore
  have hNamed : id ≠ "" := by
    intro hEmpty
    exact hAccounted.named (hEmpty ▸ hBefore)
  exact hAfter (hAccounted'.booked hGoing id (mem_idsOf_iff.mpr ⟨hNamed, job, hJob, hId⟩))

/- Only a full buffer refuses a job that is to be tried again. -/
theorem full_of_refused
    {q q' : Queue}
    {e : Event}
    {job : Job}
    (hMoves : Moves q e q')
    (hBefore : job ∉ q.refused)
    (hAfter : job ∈ q'.refused) :
    e = .retry job ∧ job ∈ q.waiting ∧ q.limits.capacity ≤ q.buffer.length := by
  cases hMoves with
  | refuse other logs hWaiting hFull =>
      have hSame : job = other := by simpa [hBefore] using hAfter
      subst hSame
      exact ⟨rfl, hWaiting, hFull⟩
  | giveUp other hRefused => exact absurd (List.mem_of_mem_erase hAfter) hBefore
  | _ => exact absurd hAfter hBefore

------------------------------------------------------------
-- Refusals of New Jobs
------------------------------------------------------------

/- A queue that takes no jobs at all does not say that a job is already queued. -/
theorem closed?_not_alreadyQueued
    {q : Queue}
    {refusal : Refusal}
    (hClosed : q.closed? = some refusal) :
    (refusal.toFailure q.name).hasSentinel .alreadyQueued = false := by
  cases hPhase : q.phase with
  | running =>
      cases hCanceled : q.canceled <;> simp [closed?, hPhase, hCanceled] at hClosed
      subst hClosed
      rfl
  | _ =>
      simp [closed?, hPhase] at hClosed
      subst hClosed
      rfl

/- A caller is told that a job is already queued just when its id is pending. -/
theorem enqueue_alreadyQueued_iff
    (r : Run)
    (job : Job)
    (hNamed : "" ∉ r.queue.pending) :
    (∃ failure, (r.enqueue job).1 = .error failure ∧
        failure.hasSentinel .alreadyQueued = true) ↔
      r.queue.phase = .running ∧ r.queue.canceled = false ∧ job.id ∈ r.queue.pending := by
  rw [← and_assoc, ← closed?_eq_none_iff]
  unfold Run.enqueue
  cases hClosed : r.queue.closed? with
  | some refusal =>
      have hRefused : r.queue.enqueue job r.clock = .error refusal := by simp [enqueue, hClosed]
      simp [hRefused, closed?_not_alreadyQueued hClosed]
  | none =>
      rw [enqueue_of_open job r.clock hClosed]
      by_cases hPending : job.id ∈ r.queue.pending
      · have hId : job.id ≠ "" := by
          intro hEmpty
          exact hNamed (hEmpty ▸ hPending)
        simp [hId, hPending, Refusal.toFailure, Failure.hasSentinel]
      · by_cases hRoom : r.queue.buffer.length < r.queue.limits.capacity <;>
          simp [hPending, hRoom, Refusal.toFailure, Failure.hasSentinel]

/- A job that is not taken leaves everything as it was. -/
theorem enqueue_error_unchanged
    {r : Run}
    {job : Job}
    {failure : Failure}
    (hError : (r.enqueue job).1 = .error failure) :
    (r.enqueue job).2 = r ∧ r.queue.step? (.enqueue job r.clock) = none := by
  unfold Run.enqueue at hError ⊢
  cases hEnqueue : r.queue.enqueue job r.clock with
  | error refusal => simp [step?, hEnqueue, Except.toOption]
  | ok taken => simp [hEnqueue] at hError

------------------------------------------------------------
-- Uniqueness in Every Run
------------------------------------------------------------

/-
  After the start of a queue, and however callers, workers,
  timers and a stop take turns: no id has two live jobs, live
  ids are pending until the stop clears them, an id stops being
  pending only when its job has ended, and just the pending ids
  are refused as already queued.
-/
theorem run_keeps_ids_unique
    {name : String}
    {limits : Limits}
    {events : List Event}
    {q : Queue}
    (hRun : (Queue.new name limits).steps? (.start :: events) = some q) :
    (∀ id, id ≠ "" →
      q.live.countP (·.id == id) ≤ 1 ∧ q.handling.countP (·.id == id) ≤ 1) ∧
    (q.phase ≠ .stopped → ∀ job ∈ q.live, job.id ≠ "" → job.id ∈ q.pending) ∧
    (∀ e q', q.step? e = some q' →
      (∀ id ∈ q.pending, id ∉ q'.pending →
        (e = .finish ∧ q'.pending = []) ∨ (Ends q id e ∧ ∀ job ∈ q'.live, job.id ≠ id)) ∧
      (∀ job ∈ q'.refused, job ∉ q.refused →
        e = .retry job ∧ job ∈ q.waiting ∧ q.limits.capacity ≤ q.buffer.length)) ∧
    ∀ (r : Run) (job : Job), r.queue = q →
      ((∃ failure, (r.enqueue job).1 = .error failure ∧
          failure.hasSentinel .alreadyQueued = true) ↔
        q.phase = .running ∧ q.canceled = false ∧ job.id ∈ q.pending) ∧
      (∀ failure, (r.enqueue job).1 = .error failure →
        (r.enqueue job).2.queue = q ∧ q.step? (.enqueue job r.clock) = none) := by
  have hAccounted := accounted_of_run hRun
  refine ⟨?_, ?_, ?_, ?_⟩
  · intro id hNamed
    have hLive := hAccounted.count_live hNamed
    refine ⟨hLive, ?_⟩
    simp only [live, List.countP_append] at hLive
    omega
  · intro hGoing job hJob hNamed
    refine hAccounted.booked hGoing job.id (mem_idsOf_iff.mpr ⟨hNamed, job, ?_, rfl⟩)
    exact List.mem_append_left _ hJob
  · intro e q' hStep
    have hMoves := moves_of_step? hStep
    refine ⟨?_, fun job hAfter hBefore => full_of_refused hMoves hBefore hAfter⟩
    intro id hBefore hAfter
    rcases ends_of_released hMoves hBefore hAfter with hFinish | ⟨hEnds, hPhase⟩
    · exact .inl hFinish
    · refine .inr ⟨hEnds, ?_⟩
      intro job hJob
      exact not_held_of_released hAccounted (accounted_of_moves hAccounted hMoves) hPhase hBefore
        hAfter job (List.mem_append_left _ hJob)
  · rintro r job rfl
    refine ⟨enqueue_alreadyQueued_iff r job hAccounted.named, ?_⟩
    intro failure hError
    have hUnchanged := enqueue_error_unchanged hError
    exact ⟨congrArg Run.queue hUnchanged.1, hUnchanged.2⟩

/- A queue with two workers and room for one job. -/
def sampleLimits : Limits :=
  { workers := 2, capacity := 1, maxRetries := 3, retryDelay := 1, maxRetryDelay := 8,
    drainTimeout := 5 }

/- A job fails and waits while another is handled and a third fills the buffer. -/
def sampleEvents : List Event :=
  [.enqueue ⟨"a", "", 0, some 0⟩ 1, .take, .fail ⟨"a", "", 0, some 0⟩ "refused", .account,
    .enqueue ⟨"b", "", 0, some 2⟩ 2, .take, .enqueue ⟨"c", "", 0, some 3⟩ 3]

theorem run_keeps_ids_unique_sample :
    ∃ q, (Queue.new "dates" sampleLimits).steps? (.start :: sampleEvents) = some q ∧
      q.pending = ["a", "b", "c"] ∧ q.live.map (·.id) = ["c", "b", "a"] ∧
      (∀ id, id ≠ "" →
        q.live.countP (·.id == id) ≤ 1 ∧ q.handling.countP (·.id == id) ≤ 1) ∧
      ∀ (r : Run) (job : Job), r.queue = q →
        ((∃ failure, (r.enqueue job).1 = .error failure ∧
            failure.hasSentinel .alreadyQueued = true) ↔
          q.phase = .running ∧ q.canceled = false ∧ job.id ∈ q.pending) := by
  have hReached :
      ((Queue.new "dates" sampleLimits).steps? (.start :: sampleEvents)).map
          (fun q => (q.pending, q.live.map (·.id))) =
        some (["a", "b", "c"], ["c", "b", "a"]) := by
    decide +kernel
  rcases Option.map_eq_some_iff.mp hReached with
    ⟨q, hRun, hIds⟩
  have hUnique := run_keeps_ids_unique hRun
  refine ⟨q, hRun, congrArg Prod.fst hIds, congrArg Prod.snd hIds, hUnique.1, ?_⟩
  intro r job hQueue
  exact (hUnique.2.2.2 r job hQueue).1

end Timetable.Queue
