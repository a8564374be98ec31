import Timetable.Proofs.Queue.Counting

/-
  This file follows the jobs that a queue takes through a run.

  Two jobs may be the same in all that the queue knows about
  them, so each is given a number when it is taken.  A roster
  tells where the job with each number is, and a record tells
  what happened to it.  An event that concerns a job is put
  down to one of the numbers whose job is like it and in the
  right place; every run can be traced in this way, and
  whatever way is chosen, the roster agrees with the queue.

  Key definitions include:
    * `Ending`
    * `Happening`
    * `Standing`
    * `Follows`
    * `Traces`
    * `Matches`
  Main theorems include:
    * `exists_follows`
    * `matches_of_follows`
    * `exists_traces`
-/

namespace Timetable.Queue

------------------------------------------------------------
-- What Happens to Jobs
------------------------------------------------------------

/- How a job ends. -/
inductive Ending where
| success : Ending
/- All its attempts failed. -/
| exhausted : Ending
/- It found the buffer full when it was to be tried again. -/
| refused : Ending
/- The work was called off while it waited. -/
| dropped : Ending
deriving DecidableEq, Repr

/- What happens to a job that the queue took. -/
inductive Happening where
| accepted (job : Job) : Happening
/- A worker hands it to the handler as it is then. -/
| called (job : Job) : Happening
| failed : Happening
| ended (ending : Ending) : Happening
deriving DecidableEq, Repr

/- What happened, in order, and to the jobs with which numbers. -/
abbrev Record :=
  List (Nat × Happening)

/- What happened to the job with a number. -/
def lifeOf
    (n : Nat)
    (past : Record) : List Happening :=
  (past.filter (·.1 == n)).map (·.2)

@[simp] theorem lifeOf_nil
    (n : Nat) :
    lifeOf n [] = [] :=
  rfl

@[simp] theorem lifeOf_append
    (n : Nat)
    (past news : Record) :
    lifeOf n (past ++ news) = lifeOf n past ++ lifeOf n news := by
  simp [lifeOf]

@[simp] theorem lifeOf_cons
    (n m : Nat)
    (h : Happening)
    (news : Record) :
    lifeOf n ((m, h) :: news) = if m = n then h :: lifeOf n news else lifeOf n news := by
  by_cases hSame : m = n <;> simp [lifeOf, hSame]

theorem mem_lifeOf_iff
    {n : Nat}
    {h : Happening}
    {past : Record} :
    h ∈ lifeOf n past ↔ (n, h) ∈ past := by
  simp [lifeOf]

------------------------------------------------------------
-- Rosters
------------------------------------------------------------

/- Where a job is that the queue took. -/
inductive Place where
| buffered : Place
| handled : Place
| waiting : Place
| ended (ending : Ending) : Place
deriving DecidableEq, Repr

/- A job as it is now, and where it is. -/
structure Standing where
  job : Job
  place : Place
deriving DecidableEq, Repr

/- The event concerns no job, or one that has already ended. -/
def Event.concernsNone : Event → Bool
| .start => true
| .account => true
| .leave => true
| .giveUp _ => true
| .cancel => true
| .stop => true
| .drained => true
| .timedOut => true
| .finish => true
| _ => false

/-
  An event in a queue, what is put down for it, and the roster
  before and after it.  The number of a job is its place in
  the roster.
-/
inductive Follows (q : Queue) (r : List Standing) : Event → Record → List Standing → Prop
| enqueue
    (job : Job)
    (now : Int) :
    Follows q r (.enqueue job now)
      [(r.length, .accepted (job.stamped now))]
      (r ++ [⟨job.stamped now, .buffered⟩])
| take
    (n : Nat)
    (job : Job)
    (rest : List Job)
    (hFirst : q.buffer = job :: rest)
    (hHere : r[n]? = some ⟨job, .buffered⟩) :
    Follows q r .take
      [(n, .called job)]
      (r.set n ⟨job, .handled⟩)
| succeed
    (n : Nat)
    (job : Job)
    (hHere : r[n]? = some ⟨job, .handled⟩) :
    Follows q r (.succeed job)
      [(n, .ended .success)]
      (r.set n ⟨job, .ended .success⟩)
| exhaust
    (n : Nat)
    (job : Job)
    (error : String)
    (hHere : r[n]? = some ⟨job, .handled⟩)
    (hSpent : q.limits.maxRetries < job.attempt + 1) :
    Follows q r (.fail job error)
      [(n, .failed), (n, .ended .exhausted)]
      (r.set n ⟨job, .ended .exhausted⟩)
| postpone
    (n : Nat)
    (job : Job)
    (error : String)
    (hHere : r[n]? = some ⟨job, .handled⟩)
    (hLeft : job.attempt + 1 ≤ q.limits.maxRetries) :
    Follows q r (.fail job error)
      [(n, .failed)]
      (r.set n ⟨job.again, .waiting⟩)
| retry
    (n : Nat)
    (job : Job)
    (hHere : r[n]? = some ⟨job, .waiting⟩)
    (hRoom : q.buffer.length < q.limits.capacity) :
    Follows q r (.retry job) [] (r.set n ⟨job, .buffered⟩)
| refuse
    (n : Nat)
    (job : Job)
    (hHere : r[n]? = some ⟨job, .waiting⟩)
    (hFull : q.limits.capacity ≤ q.buffer.length) :
    Follows q r (.retry job)
      [(n, .ended .refused)]
      (r.set n ⟨job, .ended .refused⟩)
| drop
    (n : Nat)
    (job : Job)
    (hHere : r[n]? = some ⟨job, .waiting⟩) :
    Follows q r (.drop job)
      [(n, .ended .dropped)]
      (r.set n ⟨job, .ended .dropped⟩)
| aside
    (e : Event)
    (hNone : e.concernsNone = true) :
    Follows q r e [] r

/- A run of a queue with the jobs followed through it. -/
inductive Traces :
    Queue → List Standing → List Event → Record → Queue → List Standing → Prop
| nil
    {q : Queue}
    {r : List Standing} :
    Traces q r [] [] q r
| cons
    {q q' q'' : Queue}
    {r r' r'' : List Standing}
    {e : Event}
    {events : List Event}
    {news later : Record} :
    q.step? e = some q' → Follows q r e news r' → Traces q' r' events later q'' r'' →
      Traces q r (e :: events) (news ++ later) q'' r''

/- The roster and the queue agree on the jobs that are buffered, handled and waiting. -/
def Matches
    (r : List Standing)
    (q : Queue) : Prop :=
  ∀ job,
    r.count ⟨job, .buffered⟩ = q.buffer.count job ∧
    r.count ⟨job, .handled⟩ = q.handling.count job ∧
    r.count ⟨job, .waiting⟩ = q.waiting.count job

------------------------------------------------------------
-- Counting Standings
------------------------------------------------------------

/- A job that stands somewhere stands somewhere else. -/
theorem count_set_standing
    {r : List Standing}
    {n : Nat}
    {s : Standing}
    (hHere : r[n]? = some s)
    (s' x : Standing) :
    (r.set n s').count x + (if s = x then 1 else 0) =
      r.count x + (if s' = x then 1 else 0) := by
  rcases List.getElem?_eq_some_iff.mp hHere with
    ⟨hBound, hEq⟩
  have hOne : (if s = x then 1 else 0) ≤ r.count x := by
    split
    · rename_i hSame
      exact List.count_pos_iff.mpr (hSame ▸ hEq ▸ List.getElem_mem hBound)
    · exact Nat.zero_le _
  rw [List.count_set hBound, hEq]
  simp only [beq_iff_eq]
  omega

theorem count_erase_job
    {job : Job}
    {jobs : List Job}
    (hMem : job ∈ jobs)
    (x : Job) :
    (jobs.erase job).count x + (if job = x then 1 else 0) = jobs.count x := by
  rw [(List.perm_cons_erase hMem).count_eq x, List.count_cons]
  simp only [beq_iff_eq]

/- A job that the queue has in a place stands there under some number. -/
theorem exists_number
    {r : List Standing}
    {s : Standing}
    {jobs : List Job}
    (hCount : r.count s = jobs.count s.job)
    (hMem : s.job ∈ jobs) :
    ∃ n : Nat, r[n]? = some s := by
  have hSome : s ∈ r := by
    apply List.count_pos_iff.mp
    rw [hCount]
    exact List.count_pos_iff.mpr hMem
  exact List.mem_iff_getElem?.mp hSome

------------------------------------------------------------
-- Every Run Can Be Traced
------------------------------------------------------------

/- Whatever happens to a queue can be put down to the jobs of a roster that agrees with it. -/
theorem exists_follows
    {q q' : Queue}
    {r : List Standing}
    {e : Event}
    (hMatches : Matches r q)
    (hMoves : Moves q e q') :
    ∃ news r', Follows q r e news r' := by
  cases hMoves with
  | enqueue job now hOpen hNew hRoom => exact ⟨_, _, .enqueue job now⟩
  | take job rest hBuffer hWorker =>
      rcases exists_number (s := ⟨job, .buffered⟩) (hMatches job).1 (by simp [hBuffer]) with
        ⟨n, hHere⟩
      exact ⟨_, _, .take n job rest hBuffer hHere⟩
  | succeed job hHandled =>
      rcases exists_number (s := ⟨job, .handled⟩) (hMatches job).2.1 hHandled with
        ⟨n, hHere⟩
      exact ⟨_, _, .succeed n job hHere⟩
  | exhaust job error logs hHandled hSpent =>
      rcases exists_number (s := ⟨job, .handled⟩) (hMatches job).2.1 hHandled with
        ⟨n, hHere⟩
      exact ⟨_, _, .exhaust n job error hHere hSpent⟩
  | postpone job error logs hHandled hLeft =>
      rcases exists_number (s := ⟨job, .handled⟩) (hMatches job).2.1 hHandled with
        ⟨n, hHere⟩
      exact ⟨_, _, .postpone n job error hHere hLeft⟩
  | retry job hWaiting hRoom =>
      rcases exists_number (s := ⟨job, .waiting⟩) (hMatches job).2.2 hWaiting with
        ⟨n, hHere⟩
      exact ⟨_, _, .retry n job hHere hRoom⟩
  | refuse job logs hWaiting hFull =>
      rcases exists_number (s := ⟨job, .waiting⟩) (hMatches job).2.2 hWaiting with
        ⟨n, hHere⟩
      exact ⟨_, _, .refuse n job hHere hFull⟩
  | drop job hCanceled hWaiting =>
      rcases exists_number (s := ⟨job, .waiting⟩) (hMatches job).2.2 hWaiting with
        ⟨n, hHere⟩
      exact ⟨_, _, .drop n job hHere⟩
  | _ => exact ⟨_, _, .aside _ rfl⟩

/- An event that concerns no job leaves the jobs where they are. -/
theorem places_of_concernsNone
    {q q' : Queue}
    {e : Event}
    (hNone : e.concernsNone = true)
    (hMoves : Moves q e q') :
    q'.buffer = q.buffer ∧ q'.handling = q.handling ∧ q'.waiting = q.waiting := by
  cases hMoves <;> first | exact ⟨rfl, rfl, rfl⟩ | cases hNone

/- A job moves from one place to another, in the roster as in the queue. -/
theorem Matches.move
    {r : List Standing}
    {q q' : Queue}
    {n : Nat}
    {s s' : Standing}
    (hMatches : Matches r q)
    (hHere : r[n]? = some s)
    (hBuffer :
      ∀ x, q'.buffer.count x + (if s = ⟨x, .buffered⟩ then 1 else 0) =
        q.buffer.count x + (if s' = ⟨x, .buffered⟩ then 1 else 0))
    (hHandling :
      ∀ x, q'.handling.count x + (if s = ⟨x, .handled⟩ then 1 else 0) =
        q.handling.count x + (if s' = ⟨x, .handled⟩ then 1 else 0))
    (hWaiting :
      ∀ x, q'.waiting.count x + (if s = ⟨x, .waiting⟩ then 1 else 0) =
        q.waiting.count x + (if s' = ⟨x, .waiting⟩ then 1 else 0)) :
    Matches (r.set n s') q' := by
  intro x
  rcases hMatches x with
    ⟨hSameBuffer, hSameHandling, hSameWaiting⟩
  have hBuffered := count_set_standing hHere s' ⟨x, .buffered⟩
  have hHandled := count_set_standing hHere s' ⟨x, .handled⟩
  have hWaits := count_set_standing hHere s' ⟨x, .waiting⟩
  have hBuffer := hBuffer x
  have hHandling := hHandling x
  have hWaiting := hWaiting x
  omega

/- The roster agrees with the queue after every event, whatever number it is put down to. -/
theorem matches_of_follows
    {q q' : Queue}
    {r r' : List Standing}
    {e : Event}
    {news : Record}
    (hMatches : Matches r q)
    (hMoves : Moves q e q')
    (hFollows : Follows q r e news r') :
    Matches r' q' := by
  cases hFollows with
  | enqueue job now =>
      cases hMoves with
      | enqueue _ _ hOpen hNew hRoom =>
          intro x
          rcases hMatches x with
            ⟨hBuffer, hHandling, hWaiting⟩
          simp [List.count_append, List.count_singleton, hBuffer, hHandling, hWaiting]
  | take n job rest hFirst hHere =>
      cases hMoves with
      | take job' rest' hFirst' hWorker =>
          cases hFirst.symm.trans hFirst'
          apply hMatches.move hHere
          · simp [hFirst, List.count_cons]
          · simp [List.count_singleton]
          · simp
  | succeed n job hHere =>
      cases hMoves with
      | succeed _ hHandled =>
          apply hMatches.move hHere
          · simp
          · simpa using count_erase_job hHandled
          · simp
  | exhaust n job error hHere hSpent =>
      cases hMoves with
      | exhaust _ _ logs hHandled hSpent =>
          apply hMatches.move hHere
          · simp
          · simpa using count_erase_job hHandled
          · simp
      | postpone _ _ logs hHandled hLeft => omega
  | postpone n job error hHere hLeft =>
      cases hMoves with
      | exhaust _ _ logs hHandled hSpent => omega
      | postpone _ _ logs hHandled hLeft =>
          apply hMatches.move hHere
          · simp
          · simpa using count_erase_job hHandled
          · simp [List.count_singleton]
  | retry n job hHere hRoom =>
      cases hMoves with
      | retry _ hWaiting hRoom =>
          apply hMatches.move hHere
          · simp [List.count_singleton]
          · simp
          · simpa using count_erase_job hWaiting
      | refuse _ logs hWaiting hFull => omega
  | refuse n job hHere hFull =>
      cases hMoves with
      | retry _ hWaiting hRoom => omega
      | refuse _ logs hWaiting hFull =>
          apply hMatches.move hHere
          · simp
          · simp
          · simpa using count_erase_job hWaiting
  | drop n job hHere =>
      cases hMoves with
      | drop _ hCanceled hWaiting =>
          apply hMatches.move hHere
          · simp
          · simp
          · simpa using count_erase_job hWaiting
  | aside e hNone =>
      rcases places_of_concernsNone hNone hMoves with
        ⟨hSameBuffer, hSameHandling, hSameWaiting⟩
      intro x
      rw [hSameBuffer, hSameHandling, hSameWaiting]
      exact hMatches x

/- Every run can be traced. -/
theorem exists_traces
    {q q' : Queue}
    {r : List Standing}
    {events : List Event}
    (hMatches : Matches r q)
    (hRun : q.steps? events = some q') :
    ∃ past r', Traces q r events past q' r' := by
  induction events generalizing q r with
  | nil =>
      cases hRun
      exact ⟨[], r, .nil⟩
  | cons e events ih =>
      rcases Option.bind_eq_some_iff.mp hRun with
        ⟨next, hStep, hRest⟩
      have hMoves := moves_of_step? hStep
      rcases exists_follows hMatches hMoves with
        ⟨news, r₁, hFollows⟩
      rcases ih (matches_of_follows hMatches hMoves hFollows) hRest with
        ⟨later, r', hTraces⟩
      exact ⟨news ++ later, r', .cons hStep hFollows hTraces⟩

/- What is traced is a run. -/
theorem Traces.steps?_eq
    {q q' : Queue}
    {r r' : List Standing}
    {events : List Event}
    {past : Record}
    (hTraces : Traces q r events past q' r') :
    q.steps? events = some q' := by
  induction hTraces with
  | nil => rfl
  | cons hStep hFollows hTraces ih => simp [steps?, hStep, ih]

/- What every traced event keeps holds after a traced run. -/
theorem Traces.keeps
    {P : Record → Queue → List Standing → Prop}
    (hFollows :
      ∀ past q r e news q' r', P past q r → Moves q e q' → Follows q r e news r' →
        P (past ++ news) q' r')
    {q q' : Queue}
    {r r' : List Standing}
    {events : List Event}
    {past later : Record}
    (hFirst : P past q r)
    (hTraces : Traces q r events later q' r') :
    P (past ++ later) q' r' := by
  induction hTraces generalizing past with
  | nil => simpa using hFirst
  | cons hStep hFollow hTraces ih =>
      rw [← List.append_assoc]
      exact ih (hFollows _ _ _ _ _ _ _ hFirst (moves_of_step? hStep) hFollow)

end Timetable.Queue
