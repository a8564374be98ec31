import Timetable.Proofs.Queue.Uniqueness

/-
  This file shows what the counter of a queue counts, and what
  holds once the queue was told to stop.

  The counter tells how many jobs are buffered or with a
  worker that has not yet accounted for them; jobs that wait
  to be tried again are not counted.  Each move keeps that, and
  so does a whole run.

  Key definitions include:
    * `Counted`
    * `IsStopping`
  Main theorems include:
    * `counted_of_moves`
    * `counted_of_run`
    * `run_counts_jobs`
-/

namespace Timetable.Queue

------------------------------------------------------------
-- Runs in Parts
------------------------------------------------------------

/- A run is a run of its first part and then of the rest. -/
theorem steps?_append
    (q : Queue)
    (first rest : List Event) :
    q.steps? (first ++ rest) = (q.steps? first).bind (·.steps? rest) := by
  induction first generalizing q with
  | nil => rfl
  | cons e first ih =>
      simp only [List.cons_append, steps?, Option.bind_assoc]
      exact congrArg _ (funext ih)

/- What a kind of event brings about and every move keeps holds once it has happened. -/
theorem steps?_since
    {P : Queue → Prop}
    {e : Event}
    (hEvent : ∀ q q', Moves q e q' → P q')
    (hMoves : ∀ q e q', P q → Moves q e q' → P q')
    {events : List Event}
    {q q' : Queue}
    (hRun : q.steps? events = some q')
    (hHappened : e ∈ events) :
    P q' := by
  rcases List.append_of_mem hHappened with
    ⟨first, rest, rfl⟩
  rw [steps?_append] at hRun
  rcases Option.bind_eq_some_iff.mp hRun with
    ⟨middle, -, hRest⟩
  rcases Option.bind_eq_some_iff.mp hRest with
    ⟨next, hStep, hRest⟩
  exact steps?_keeps hMoves rest (hEvent middle next (moves_of_step? hStep)) hRest

/- No move changes the limits of a queue. -/
theorem limits_of_moves
    {q q' : Queue}
    {e : Event}
    (hMoves : Moves q e q') :
    q'.limits = q.limits := by
  cases hMoves <;> rfl

theorem limits_of_run
    {name : String}
    {limits : Limits}
    {events : List Event}
    {q : Queue}
    (hRun : (Queue.new name limits).steps? events = some q) :
    q.limits = limits := by
  have hKeeps :
      ∀ p e p', p.limits = limits → Moves p e p' → p'.limits = limits := by
    intro p e p' hBefore hMoves
    rw [limits_of_moves hMoves, hBefore]
  exact steps?_keeps hKeeps _ rfl hRun

------------------------------------------------------------
-- The Counter
------------------------------------------------------------

/- A queue is told to stop, is stopping or has stopped. -/
def IsStopping (q : Queue) : Prop :=
  q.phase ≠ .idle ∧ q.phase ≠ .running

theorem isDeserted_iff
    (q : Queue) :
    q.isDeserted = true ↔
      q.idleWorkers = 0 ∧ q.handling = [] ∧ q.settled = 0 ∧ q.waiting = [] ∧
        q.refused = [] := by
  simp [isDeserted, and_assoc]

/- The figures of a queue agree with the jobs and workers it has. -/
structure Counted (q : Queue) : Prop where
  inflight : q.inflight = (q.buffer.length + (q.handling.length + q.settled) : Nat)
  room : q.buffer.length ≤ q.limits.capacity
  /- Until the work is called off, every worker looks for a job or is at one. -/
  staffed :
    q.phase ≠ .idle → q.canceled = false →
      q.idleWorkers + (q.handling.length + q.settled) = q.limits.workers
  /- A queue that waits for its workers to leave has called them off. -/
  calledOff : ∀ drained, q.phase = .closing drained → q.canceled = true
  unopened : q.phase = .idle → q.buffer = []
  /- Before its start and after its stop a queue has no workers. -/
  deserted : q.phase = .idle ∨ q.phase = .stopped → q.isDeserted = true ∧ q.pending = []

/- The jobs move on but nobody leaves, and the queue goes on as before. -/
theorem Counted.keep
    {q q' : Queue}
    (hCounted : Counted q)
    (hGoing : ¬(q.phase = .idle ∨ q.phase = .stopped))
    (hPhase : q'.phase = q.phase)
    (hCanceled : q'.canceled = q.canceled)
    (hLimits : q'.limits = q.limits)
    (hInflight : q'.inflight = (q'.buffer.length + (q'.handling.length + q'.settled) : Nat))
    (hRoom : q'.buffer.length ≤ q.limits.capacity)
    (hStaff :
      q'.idleWorkers + (q'.handling.length + q'.settled) =
        q.idleWorkers + (q.handling.length + q.settled)) :
    Counted q' where
  inflight := hInflight
  room := by rw [hLimits]; exact hRoom
  staffed := by
    rw [hPhase, hCanceled, hStaff, hLimits]
    exact hCounted.staffed
  calledOff := by
    rw [hPhase, hCanceled]
    exact hCounted.calledOff
  unopened := by
    rw [hPhase]
    exact fun hIdle => absurd (.inl hIdle) hGoing
  deserted := by
    rw [hPhase]
    exact fun hGone => absurd hGone hGoing

/- A queue that holds a job outside its buffer, or has a worker, was started and has not stopped. -/
theorem Counted.going
    {q : Queue}
    (hCounted : Counted q)
    (hSome :
      0 < q.idleWorkers ∨ q.handling ≠ [] ∨ 0 < q.settled ∨ q.waiting ≠ [] ∨ q.refused ≠ []) :
    ¬(q.phase = .idle ∨ q.phase = .stopped) := by
  intro hGone
  rcases (isDeserted_iff q).mp (hCounted.deserted hGone).1 with
    ⟨hIdle, hHandling, hSettled, hWaiting, hRefused⟩
  rcases hSome with hSome | hSome | hSome | hSome | hSome
  · omega
  · exact hSome hHandling
  · omega
  · exact hSome hWaiting
  · exact hSome hRefused

theorem length_erase_add_one
    {job : Job}
    {jobs : List Job}
    (hMem : job ∈ jobs) :
    (jobs.erase job).length + 1 = jobs.length :=
  (List.perm_cons_erase hMem).length_eq.symm

/- Each move changes the counter as it changes the jobs. -/
theorem counted_of_moves
    {q q' : Queue}
    {e : Event}
    (hCounted : Counted q)
    (hMoves : Moves q e q') :
    Counted q' := by
  have hInflight := hCounted.inflight
  have hRoomBefore := hCounted.room
  cases hMoves with
  | start logs hIdle =>
      rcases (isDeserted_iff q).mp (hCounted.deserted (.inl hIdle)).1 with
        ⟨-, hHandling, hSettled, -⟩
      exact ⟨hInflight, hRoomBefore, by simp [hHandling, hSettled], by simp, by simp, by simp⟩
  | enqueue job now hOpen hNew hRoom =>
      have hRunning := ((closed?_eq_none_iff q).mp hOpen).1
      refine hCounted.keep (by simp [hRunning]) rfl rfl rfl ?_ ?_ rfl
      · simp only [List.length_append, List.length_singleton]
        omega
      · simp only [List.length_append, List.length_singleton]
        omega
  | take job rest hBuffer hWorker =>
      rw [hBuffer, List.length_cons] at hInflight hRoomBefore
      refine hCounted.keep (hCounted.going (.inl hWorker)) rfl rfl rfl ?_ (by simp only; omega) ?_
      · simp only [List.length_append, List.length_singleton]
        omega
      · simp only [List.length_append, List.length_singleton]
        omega
  | succeed job hHandled =>
      have hLength := length_erase_add_one hHandled
      have hGoing := hCounted.going (.inr (.inl (List.ne_nil_of_mem hHandled)))
      exact hCounted.keep hGoing rfl rfl rfl (by simp only; omega) hRoomBefore (by simp only; omega)
  | exhaust job error logs hHandled hSpent =>
      have hLength := length_erase_add_one hHandled
      have hGoing := hCounted.going (.inr (.inl (List.ne_nil_of_mem hHandled)))
      exact hCounted.keep hGoing rfl rfl rfl (by simp only; omega) hRoomBefore (by simp only; omega)
  | postpone job error logs hHandled hLeft =>
      have hLength := length_erase_add_one hHandled
      have hGoing := hCounted.going (.inr (.inl (List.ne_nil_of_mem hHandled)))
      exact hCounted.keep hGoing rfl rfl rfl (by simp only; omega) hRoomBefore (by simp only; omega)
  | account hSettled =>
      have hGoing := hCounted.going (.inr (.inr (.inl hSettled)))
      exact hCounted.keep hGoing rfl rfl rfl (by simp only; omega) hRoomBefore (by simp only; omega)
  | leave hCanceled hWorker =>
      have hGoing := hCounted.going (.inl hWorker)
      exact ⟨hInflight, hRoomBefore, by simp [hCanceled], by simp [hCanceled],
        hCounted.unopened, fun hGone => absurd hGone hGoing⟩
  | retry job hWaiting hRoom =>
      have hGoing := hCounted.going (.inr (.inr (.inr (.inl (List.ne_nil_of_mem hWaiting)))))
      refine hCounted.keep hGoing rfl rfl rfl ?_ ?_ rfl
      · simp only [List.length_append, List.length_singleton]
        omega
      · simp only [List.length_append, List.length_singleton]
        omega
  | refuse job logs hWaiting hFull =>
      have hGoing := hCounted.going (.inr (.inr (.inr (.inl (List.ne_nil_of_mem hWaiting)))))
      exact hCounted.keep hGoing rfl rfl rfl hInflight hRoomBefore rfl
  | giveUp job hRefused =>
      have hGoing := hCounted.going (.inr (.inr (.inr (.inr (List.ne_nil_of_mem hRefused)))))
      exact hCounted.keep hGoing rfl rfl rfl hInflight hRoomBefore rfl
  | drop job hCanceled hWaiting =>
      have hGoing := hCounted.going (.inr (.inr (.inr (.inl (List.ne_nil_of_mem hWaiting)))))
      exact hCounted.keep hGoing rfl rfl rfl hInflight hRoomBefore rfl
  | cancel =>
      exact ⟨hInflight, hRoomBefore, by simp, by simp, hCounted.unopened, hCounted.deserted⟩
  | stop hRunning =>
      exact ⟨hInflight, hRoomBefore, fun _ => hCounted.staffed (by simp [hRunning]), by simp,
        by simp, by simp⟩
  | drained hDraining hNone => exact ⟨hInflight, hRoomBefore, by simp, by simp, by simp, by simp⟩
  | timedOut hDraining => exact ⟨hInflight, hRoomBefore, by simp, by simp, by simp, by simp⟩
  | finish drained logs hClosing hDeserted =>
      have hCanceled := hCounted.calledOff drained hClosing
      exact ⟨hInflight, hRoomBefore, by simp [hCanceled], by simp, by simp,
        fun _ => ⟨hDeserted, rfl⟩⟩

/- A queue counts its jobs, whatever happens to it. -/
theorem counted_of_run
    {name : String}
    {limits : Limits}
    {events : List Event}
    {q : Queue}
    (hRun : (Queue.new name limits).steps? events = some q) :
    Counted q := by
  refine steps?_keeps (fun _ _ _ => counted_of_moves) _ ?_ hRun
  exact ⟨rfl, Nat.zero_le _, by simp [Queue.new], by simp [Queue.new], fun _ => rfl,
    fun _ => ⟨rfl, rfl⟩⟩

------------------------------------------------------------
-- Draining
------------------------------------------------------------

/- The counter is zero just when no job is buffered and no worker is at one. -/
theorem Counted.inflight_eq_zero_iff
    {q : Queue}
    (hCounted : Counted q) :
    q.inflight = 0 ↔ q.buffer = [] ∧ q.handling = [] ∧ q.settled = 0 := by
  rw [hCounted.inflight, ← List.length_eq_zero_iff, ← List.length_eq_zero_iff]
  omega

/-
  Draining succeeds just when no job is buffered and no worker
  is at one; waiting jobs do not keep it from that.
-/
theorem Counted.drained_iff
    {q : Queue}
    (hCounted : Counted q) :
    (∃ q', q.step? .drained = some q') ↔
      q.phase = .draining ∧ q.buffer = [] ∧ q.handling = [] ∧ q.settled = 0 := by
  rw [← hCounted.inflight_eq_zero_iff]
  simp [step?]

/- That all jobs were drained is reported only by draining them. -/
theorem drained_of_reported
    {q q' : Queue}
    {e : Event}
    (hMoves : Moves q e q')
    (hBefore : q.phase ≠ .closing true)
    (hReported : q'.phase = .closing true) :
    e = .drained := by
  cases hMoves with
  | drained hDraining hNone => rfl
  | start logs hIdle => simp at hReported
  | stop hRunning => simp at hReported
  | timedOut hDraining => simp at hReported
  | finish drained logs hClosing hDeserted => simp at hReported
  | _ => exact absurd hReported hBefore

------------------------------------------------------------
-- After a Stop
------------------------------------------------------------

/- A queue that is stopping does not run again. -/
theorem isStopping_of_moves
    {q q' : Queue}
    {e : Event}
    (hStopping : IsStopping q)
    (hMoves : Moves q e q') :
    IsStopping q' := by
  cases hMoves with
  | start logs hIdle => exact absurd hIdle hStopping.1
  | stop hRunning => exact absurd hRunning hStopping.2
  | drained hDraining hNone => simp [IsStopping]
  | timedOut hDraining => simp [IsStopping]
  | finish drained logs hClosing hDeserted => simp [IsStopping]
  | _ => exact hStopping

/- A queue that is stopping refuses every new job. -/
theorem IsStopping.enqueue_eq
    {q : Queue}
    (hStopping : IsStopping q)
    (job : Job)
    (now : Int) :
    q.enqueue job now = .error .stopping := by
  have hClosed : q.closed? = some .stopping := by
    rcases hStopping with
      ⟨hIdle, hRunning⟩
    cases hPhase : q.phase <;> simp_all [closed?]
  simp [enqueue, hClosed]

/- A queue that has stopped stays so. -/
theorem stopped_of_moves
    {q q' : Queue}
    {e : Event}
    (hStopped : q.phase = .stopped)
    (hMoves : Moves q e q') :
    q'.phase = .stopped := by
  cases hMoves with
  | start logs hIdle => simp [hStopped] at hIdle
  | stop hRunning => simp [hStopped] at hRunning
  | drained hDraining hNone => simp [hStopped] at hDraining
  | timedOut hDraining => simp [hStopped] at hDraining
  | finish drained logs hClosing hDeserted => rfl
  | _ => exact hStopped

/- In a queue that has stopped no job is handled, and none will be. -/
theorem Counted.quiet_of_stopped
    {q : Queue}
    (hCounted : Counted q)
    (hStopped : q.phase = .stopped) :
    q.handling = [] ∧ q.pending = [] ∧ q.step? .take = none := by
  rcases hCounted.deserted (.inr hStopped) with
    ⟨hDeserted, hPending⟩
  rcases (isDeserted_iff q).mp hDeserted with
    ⟨hIdle, hHandling, -⟩
  refine ⟨hHandling, hPending, ?_⟩
  cases hBuffer : q.buffer <;> simp [step?, hBuffer, hIdle]

------------------------------------------------------------
-- The Counter in Every Run
------------------------------------------------------------

/-
  However callers, workers, timers and a stop take turns: the
  counter tells how many jobs are buffered or with a worker,
  and the buffer keeps to its limit.  Draining is reported
  only when no job is buffered or handled, waiting jobs not
  being looked at.  From the first step of a stop on no job is
  taken, and after the last one nothing is handled or pending.
-/
theorem run_counts_jobs
    {name : String}
    {limits : Limits}
    {events : List Event}
    {q : Queue}
    (hRun : (Queue.new name limits).steps? events = some q) :
    (q.inflight = (q.buffer.length + (q.handling.length + q.settled) : Nat) ∧
      0 ≤ q.inflight ∧ q.buffer.length ≤ limits.capacity) ∧
    ((∃ q', q.step? .drained = some q') ↔
      q.phase = .draining ∧ q.buffer = [] ∧ q.handling = [] ∧ q.settled = 0) ∧
    (∀ e q', q.step? e = some q' → q.phase ≠ .closing true → q'.phase = .closing true →
      e = .drained ∧ q.buffer = [] ∧ q.handling = [] ∧ q'.waiting = q.waiting) ∧
    (.stop ∈ events → ∀ job now, q.enqueue job now = .error .stopping) ∧
    (.finish ∈ events → q.handling = [] ∧ q.pending = [] ∧ q.step? .take = none) := by
  have hCounted := counted_of_run hRun
  have hRoom := hCounted.room
  rw [limits_of_run hRun] at hRoom
  refine ⟨⟨hCounted.inflight, ?_, hRoom⟩, hCounted.drained_iff, ?_, ?_, ?_⟩
  · rw [hCounted.inflight]
    exact Int.natCast_nonneg _
  · intro e q' hStep hBefore hReported
    have hEvent := drained_of_reported (moves_of_step? hStep) hBefore hReported
    subst hEvent
    rcases hCounted.drained_iff.mp ⟨q', hStep⟩ with
      ⟨-, hBuffer, hHandling, -⟩
    cases moves_of_step? hStep with
    | drained hDraining hNone => exact ⟨rfl, hBuffer, hHandling, rfl⟩
  · intro hTold job now
    have hStop : ∀ p p', Moves p .stop p' → IsStopping p' := by
      intro p p' hMoves
      cases hMoves with
      | stop hRunning => simp [IsStopping]
    have hStopping :=
      steps?_since hStop (fun _ _ _ => isStopping_of_moves) hRun hTold
    exact hStopping.enqueue_eq job now
  · intro hFinished
    have hFinish : ∀ p p', Moves p .finish p' → p'.phase = .stopped := by
      intro p p' hMoves
      cases hMoves with
      | finish drained logs hClosing hDeserted => rfl
    have hStopped :=
      steps?_since hFinish (fun _ _ _ => stopped_of_moves) hRun hFinished
    exact hCounted.quiet_of_stopped hStopped

/-
  A job waits to be tried again while the queue is drained.  It
  comes back when the workers are about to leave, so that it is
  still in the buffer when the queue has stopped.
-/
def drainingEvents : List Event :=
  [.start, .enqueue ⟨"a", "", 0, some 0⟩ 1, .take, .fail ⟨"a", "", 0, some 0⟩ "refused",
    .account, .stop, .drained, .retry ⟨"a", "", 1, some 0⟩, .leave, .leave, .finish]

theorem run_counts_jobs_sample :
    ∃ q, (Queue.new "dates" sampleLimits).steps? drainingEvents = some q ∧
      q.buffer.map (·.id) = ["a"] ∧ .stop ∈ drainingEvents ∧ .finish ∈ drainingEvents ∧
      q.inflight = (q.buffer.length + (q.handling.length + q.settled) : Nat) ∧
      (∀ job now, q.enqueue job now = .error .stopping) ∧
      q.handling = [] ∧ q.pending = [] ∧ q.step? .take = none := by
  have hReached :
      ((Queue.new "dates" sampleLimits).steps? drainingEvents).map
          (fun q => q.buffer.map (·.id)) = some ["a"] := by
    decide +kernel
  rcases Option.map_eq_some_iff.mp hReached with
    ⟨q, hRun, hBuffer⟩
  have hStop : .stop ∈ drainingEvents := by decide
  have hFinish : .finish ∈ drainingEvents := by decide
  rcases run_counts_jobs hRun with
    ⟨⟨hInflight, -, -⟩, -, -, hRefuses, hQuiet⟩
  exact ⟨q, hRun, hBuffer, hStop, hFinish, hInflight, hRefuses hStop, hQuiet hFinish⟩

end Timetable.Queue
