import Timetable.Proofs.Queue.Traces

/-
  This file shows what happens to the jobs that a queue takes.

  What happened to a job up to now can be read off from where
  it is and how often it failed: it was called and failed so
  many times, and then perhaps was called once more or came to
  an end.  Each event adds to that what the new place asks for.

  Key definitions include:
    * `Job.tried`
    * `story`
    * `Told`
    * `Followed`
  Main theorems include:
    * `callsOf_story`
    * `followed_of_follows`
    * `followed_of_traces`
-/

namespace Timetable.Queue

------------------------------------------------------------
-- The Story of a Job
------------------------------------------------------------

/- A job after it failed `n` more times. -/
def Job.tried
    (job : Job)
    (n : Nat) : Job :=
  { job with attempt := job.attempt + n }

@[simp] theorem Job.tried_zero
    (job : Job) :
    job.tried 0 = job :=
  rfl

@[simp] theorem Job.tried_again
    (job : Job)
    (n : Nat) :
    (job.tried n).again = job.tried (n + 1) :=
  rfl

@[simp] theorem Job.tried_attempt
    (job : Job)
    (n : Nat) :
    (job.tried n).attempt = job.attempt + n :=
  rfl

/- A job is called and fails `n` times. -/
def failures
    (job : Job)
    (n : Nat) : List Happening :=
  (List.range n).flatMap fun i => [.called (job.tried i), .failed]

@[simp] theorem failures_zero
    (job : Job) :
    failures job 0 = [] :=
  rfl

theorem failures_succ
    (job : Job)
    (n : Nat) :
    failures job (n + 1) = failures job n ++ [.called (job.tried n), .failed] := by
  simp [failures, List.range_succ]

/- What happened to a job since it was taken, if it failed `n` times before it got where it is. -/
def story
    (job : Job)
    (n : Nat) : Place → List Happening
| .buffered => failures job n
| .waiting => failures job n
| .handled => failures job n ++ [.called (job.tried n)]
| .ended .success => failures job n ++ [.called (job.tried n), .ended .success]
| .ended .exhausted => failures job (n + 1) ++ [.ended .exhausted]
| .ended .refused => failures job n ++ [.ended .refused]
| .ended .dropped => failures job n ++ [.ended .dropped]

@[simp] def Happening.call? : Happening → Option Job
| .called job => some job
| _ => none

@[simp] def Happening.ending? : Happening → Option Ending
| .ended ending => some ending
| _ => none

/- The jobs that the handler is called with. -/
def callsOf (life : List Happening) : List Job :=
  life.filterMap Happening.call?

/- How a job ended. -/
def endingsOf (life : List Happening) : List Ending :=
  life.filterMap Happening.ending?

@[simp] theorem callsOf_nil :
    callsOf [] = [] :=
  rfl

@[simp] theorem callsOf_cons
    (h : Happening)
    (later : List Happening) :
    callsOf (h :: later) = h.call?.toList ++ callsOf later := by
  cases h <;> rfl

@[simp] theorem callsOf_append
    (life later : List Happening) :
    callsOf (life ++ later) = callsOf life ++ callsOf later :=
  List.filterMap_append

@[simp] theorem endingsOf_nil :
    endingsOf [] = [] :=
  rfl

@[simp] theorem endingsOf_cons
    (h : Happening)
    (later : List Happening) :
    endingsOf (h :: later) = h.ending?.toList ++ endingsOf later := by
  cases h <;> rfl

@[simp] theorem endingsOf_append
    (life later : List Happening) :
    endingsOf (life ++ later) = endingsOf life ++ endingsOf later :=
  List.filterMap_append

@[simp] theorem callsOf_failures
    (job : Job)
    (n : Nat) :
    callsOf (failures job n) = (List.range n).map job.tried := by
  induction n with
  | zero => rfl
  | succ n ih => simp [failures_succ, List.range_succ, ih]

@[simp] theorem endingsOf_failures
    (job : Job)
    (n : Nat) :
    endingsOf (failures job n) = [] := by
  induction n with
  | zero => rfl
  | succ n ih => simp [failures_succ, ih]

@[simp] theorem count_failed_failures
    (job : Job)
    (n : Nat) :
    (failures job n).count .failed = n := by
  induction n with
  | zero => rfl
  | succ n ih => simp [failures_succ, ih]

def Place.ending? : Place → Option Ending
| .ended ending => some ending
| _ => none

/- How often a job was called since it last failed or was taken, the last failure included. -/
def Place.calls : Place → Nat
| .handled => 1
| .ended .success => 1
| .ended .exhausted => 1
| _ => 0

theorem callsOf_story
    (job : Job)
    (n : Nat)
    (place : Place) :
    callsOf (story job n place) = (List.range (n + place.calls)).map job.tried := by
  rcases place with _ | _ | _ | _ | _ | _ | _ <;>
    simp [story, Place.calls, List.range_succ]

theorem endingsOf_story
    (job : Job)
    (n : Nat)
    (place : Place) :
    endingsOf (story job n place) = place.ending?.toList := by
  rcases place with _ | _ | _ | _ | _ | _ | _ <;>
    simp [story, Place.ending?]

theorem count_failed_story
    (job : Job)
    (n : Nat)
    (place : Place) :
    (story job n place).count .failed = n + if place = .ended .exhausted then 1 else 0 := by
  rcases place with _ | _ | _ | _ | _ | _ | _ <;> simp [story]

/- A story ends when the job does. -/
theorem exists_story_eq
    (job : Job)
    (n : Nat)
    (ending : Ending) :
    ∃ earlier, story job n (.ended ending) = earlier ++ [.ended ending] ∧
      endingsOf earlier = [] := by
  cases ending with
  | success => exact ⟨failures job n ++ [.called (job.tried n)], by simp [story], by simp⟩
  | exhausted => exact ⟨failures job (n + 1), rfl, by simp⟩
  | refused => exact ⟨failures job n, rfl, by simp⟩
  | dropped => exact ⟨failures job n, rfl, by simp⟩

theorem mem_story_iff
    (job : Job)
    (n : Nat)
    (place : Place)
    (ending : Ending) :
    .ended ending ∈ story job n place ↔ place = .ended ending := by
  have hEnding : .ended ending ∈ story job n place ↔ ending ∈ endingsOf (story job n place) := by
    simp only [endingsOf, List.mem_filterMap]
    constructor
    · exact fun hMem => ⟨_, hMem, rfl⟩
    · rintro ⟨h, hMem, hSame⟩
      cases h <;> simp_all
  rw [hEnding, endingsOf_story]
  cases place <;> simp [Place.ending?, eq_comm]

/- Nobody is taken again in the middle of a story. -/
theorem accepted_not_mem_story
    (job other : Job)
    (n : Nat)
    (place : Place) :
    .accepted other ∉ story job n place := by
  rcases place with _ | _ | _ | _ | _ | _ | _ <;> simp [story, failures]

------------------------------------------------------------
-- Every Job Has Its Story
------------------------------------------------------------

/-
  What happened to a job fits where it stands.  It failed `n`
  times in this queue; one more failure was possible before
  each of them.
-/
structure Told
    (q : Queue)
    (life : List Happening)
    (s : Standing)
    (job : Job)
    (n : Nat) : Prop where
  life_eq : life = .accepted job :: story job n s.place
  job_eq : s.job = job.tried n
  allowed : n = 0 ∨ job.attempt + n ≤ q.limits.maxRetries
  spent : s.place = .ended .exhausted → q.limits.maxRetries ≤ job.attempt + n
  canceled : s.place = .ended .dropped → q.canceled = true

/- What was told remains so. -/
theorem Told.mono
    {q q' : Queue}
    {life : List Happening}
    {s : Standing}
    {job : Job}
    {n : Nat}
    (hTold : Told q life s job n)
    (hLimits : q'.limits = q.limits)
    (hCanceled : q.canceled = true → q'.canceled = true) :
    Told q' life s job n where
  life_eq := hTold.life_eq
  job_eq := hTold.job_eq
  allowed := by rw [hLimits]; exact hTold.allowed
  spent := by rw [hLimits]; exact hTold.spent
  canceled := fun hDropped => hCanceled (hTold.canceled hDropped)

/- The jobs of a roster have their stories, and nothing happened to other numbers. -/
structure Followed
    (past : Record)
    (q : Queue)
    (r : List Standing) : Prop where
  agrees : Matches r q
  told : ∀ i s, r[i]? = some s → ∃ job n, Told q (lifeOf i past) s job n
  unknown : ∀ i, r.length ≤ i → lifeOf i past = []

/- No move takes back that the work was called off. -/
theorem canceled_of_moves
    {q q' : Queue}
    {e : Event}
    (hMoves : Moves q e q')
    (hCanceled : q.canceled = true) :
    q'.canceled = true := by
  cases hMoves <;> first | exact hCanceled | rfl

theorem lifeOf_map
    (i n : Nat)
    (news : List Happening) :
    lifeOf i (news.map (n, ·)) = if n = i then news else [] := by
  induction news with
  | nil => simp
  | cons h news ih =>
      by_cases hSame : n = i <;> simp_all

/- Something happens to one job, and its story goes on. -/
theorem Followed.advance
    {past : Record}
    {q q' : Queue}
    {r : List Standing}
    {e : Event}
    {i : Nat}
    {s s' : Standing}
    (hFollowed : Followed past q r)
    (news : List Happening)
    (hMoves : Moves q e q')
    (hAgrees : Matches (r.set i s') q')
    (hHere : r[i]? = some s)
    (hTold :
      ∀ job n, Told q (lifeOf i past) s job n →
        ∃ n', Told q' (lifeOf i past ++ news) s' job n') :
    Followed (past ++ news.map (i, ·)) q' (r.set i s') where
  agrees := hAgrees
  told := by
    intro k t hThere
    rw [lifeOf_append, lifeOf_map]
    by_cases hSame : i = k
    · subst hSame
      rw [List.getElem?_set_self (List.getElem?_eq_some_iff.mp hHere).1] at hThere
      cases hThere
      rcases hFollowed.told i s hHere with
        ⟨job, n, hBefore⟩
      rcases hTold job n hBefore with
        ⟨n', hAfter⟩
      exact ⟨job, n', by simpa using hAfter⟩
    · rw [List.getElem?_set_ne hSame] at hThere
      rcases hFollowed.told k t hThere with
        ⟨job, n, hBefore⟩
      have hAfter := hBefore.mono (limits_of_moves hMoves) (canceled_of_moves hMoves)
      exact ⟨job, n, by simpa [hSame] using hAfter⟩
  unknown := by
    intro k hBeyond
    rw [List.length_set] at hBeyond
    have hOther : i ≠ k := by
      have hBound := (List.getElem?_eq_some_iff.mp hHere).1
      omega
    rw [lifeOf_append, lifeOf_map, hFollowed.unknown k hBeyond]
    simp [hOther]

/- The story of every job goes on with each event. -/
theorem followed_of_follows
    {past news : Record}
    {q q' : Queue}
    {r r' : List Standing}
    {e : Event}
    (hFollowed : Followed past q r)
    (hMoves : Moves q e q')
    (hFollows : Follows q r e news r') :
    Followed (past ++ news) q' r' := by
  have hAgrees := matches_of_follows hFollowed.agrees hMoves hFollows
  have hLimits := limits_of_moves hMoves
  have hCanceled := canceled_of_moves hMoves
  cases hFollows with
  | enqueue job now =>
      refine ⟨hAgrees, ?_, ?_⟩
      · intro i s hHere
        by_cases hOld : i < r.length
        · rw [List.getElem?_append_left hOld] at hHere
          rcases hFollowed.told i s hHere with
            ⟨first, n, hTold⟩
          refine ⟨first, n, ?_⟩
          simpa [Nat.ne_of_gt hOld] using hTold.mono hLimits hCanceled
        · rw [List.getElem?_append_right (Nat.not_lt.mp hOld)] at hHere
          have hNew : i = r.length := by
            have hBound := (List.getElem?_eq_some_iff.mp hHere).1
            simp only [List.length_singleton] at hBound
            omega
          subst hNew
          simp only [Nat.sub_self, List.getElem?_cons_zero, Option.some.injEq] at hHere
          subst hHere
          refine ⟨job.stamped now, 0, ?_, rfl, .inl rfl, by simp, by simp⟩
          simp [hFollowed.unknown r.length (Nat.le_refl _), story]
      · intro i hBeyond
        simp only [List.length_append, List.length_singleton] at hBeyond
        simp [hFollowed.unknown i (by omega), show r.length ≠ i by omega]
  | take i job rest hFirst hHere =>
      refine hFollowed.advance [.called job] hMoves hAgrees hHere ?_
      intro first n hTold
      have hJob : job = first.tried n := hTold.job_eq
      refine ⟨n, ?_, hTold.job_eq, by rw [hLimits]; exact hTold.allowed, by simp, by simp⟩
      simp [hTold.life_eq, story, hJob]
  | succeed i job hHere =>
      refine hFollowed.advance [.ended .success] hMoves hAgrees hHere ?_
      intro first n hTold
      refine ⟨n, ?_, hTold.job_eq, by rw [hLimits]; exact hTold.allowed, by simp, by simp⟩
      simp [hTold.life_eq, story]
  | exhaust i job error hHere hSpent =>
      refine hFollowed.advance [.failed, .ended .exhausted] hMoves hAgrees hHere ?_
      intro first n hTold
      have hJob : job = first.tried n := hTold.job_eq
      have hAttempt : job.attempt = first.attempt + n := by rw [hJob]; rfl
      refine ⟨n, ?_, hTold.job_eq, by rw [hLimits]; exact hTold.allowed, ?_, by simp⟩
      · simp [hTold.life_eq, story, failures_succ]
      · intro _
        rw [hLimits]
        omega
  | postpone i job error hHere hLeft =>
      refine hFollowed.advance [.failed] hMoves hAgrees hHere ?_
      intro first n hTold
      have hJob : job = first.tried n := hTold.job_eq
      have hAttempt : job.attempt = first.attempt + n := by rw [hJob]; rfl
      refine ⟨n + 1, ?_, by rw [hJob]; rfl, .inr ?_, by simp, by simp⟩
      · simp [hTold.life_eq, story, failures_succ]
      · rw [hLimits]
        omega
  | retry i job hHere hRoom =>
      refine hFollowed.advance [] hMoves hAgrees hHere ?_
      intro first n hTold
      refine ⟨n, ?_, hTold.job_eq, by rw [hLimits]; exact hTold.allowed, by simp, by simp⟩
      simp [hTold.life_eq, story]
  | refuse i job hHere hFull =>
      refine hFollowed.advance [.ended .refused] hMoves hAgrees hHere ?_
      intro first n hTold
      refine ⟨n, ?_, hTold.job_eq, by rw [hLimits]; exact hTold.allowed, by simp, by simp⟩
      simp [hTold.life_eq, story]
  | drop i job hHere =>
      refine hFollowed.advance [.ended .dropped] hMoves hAgrees hHere ?_
      intro first n hTold
      refine ⟨n, ?_, hTold.job_eq, by rw [hLimits]; exact hTold.allowed, by simp, fun _ => ?_⟩
      · simp [hTold.life_eq, story]
      · cases hMoves with
        | drop _ hOff hWaiting => exact hOff
  | aside e hNone =>
      refine ⟨hAgrees, ?_, by simpa using hFollowed.unknown⟩
      intro i s hHere
      rcases hFollowed.told i s hHere with
        ⟨first, n, hTold⟩
      exact ⟨first, n, by simpa using hTold.mono hLimits hCanceled⟩

/- In every traced run of a queue each job has its story. -/
theorem followed_of_traces
    {name : String}
    {limits : Limits}
    {events : List Event}
    {past : Record}
    {q : Queue}
    {r : List Standing}
    (hTraces : Traces (Queue.new name limits) [] events past q r) :
    Followed past q r := by
  have hNew : Followed [] (Queue.new name limits) [] :=
    ⟨by simp [Matches, Queue.new], by simp, by simp⟩
  exact Traces.keeps
    (P := Followed) (fun _ _ _ _ _ _ _ => followed_of_follows) hNew hTraces

------------------------------------------------------------
-- What Is Put Down
------------------------------------------------------------

def Happening.acceptance? : Happening → Option Job
| .accepted job => some job
| _ => none

/- The job that comes in with an event. -/
def Event.incoming? : Event → Option Job
| .enqueue job now => some (job.stamped now)
| _ => none

/- The jobs put down as taken are those that were taken, in their order. -/
theorem Traces.acceptances_eq
    {q q' : Queue}
    {r r' : List Standing}
    {events : List Event}
    {past : Record}
    (hTraces : Traces q r events past q' r') :
    past.filterMap (·.2.acceptance?) = events.filterMap Event.incoming? := by
  induction hTraces with
  | nil => rfl
  | @cons _ _ _ _ _ _ e _ _ _ hStep hFollows hTraces ih =>
      rw [List.filterMap_append, ih]
      cases hFollows with
      | aside _ hNone =>
          have hNobody : e.incoming? = none := by
            cases e <;> simp_all [Event.concernsNone, Event.incoming?]
          simp [hNobody]
      | _ => rfl

/- A call is put down each time that a worker takes a job. -/
theorem Traces.length_calls_eq
    {q q' : Queue}
    {r r' : List Standing}
    {events : List Event}
    {past : Record}
    (hTraces : Traces q r events past q' r') :
    (callsOf (past.map (·.2))).length = events.count .take := by
  induction hTraces with
  | nil => rfl
  | @cons _ _ _ _ _ _ e _ _ _ hStep hFollows hTraces ih =>
      rw [List.map_append, callsOf_append, List.length_append, ih, List.count_cons]
      cases hFollows with
      | aside _ hNone =>
          have hOther : e ≠ .take := by
            rintro rfl
            cases hNone
          simp [hOther]
      | _ => simp [Nat.add_comm]

/- A job that has ended stays where it is. -/
theorem Follows.ended_stays
    {q : Queue}
    {r r' : List Standing}
    {e : Event}
    {news : Record}
    {i : Nat}
    {job : Job}
    {ending : Ending}
    (hFollows : Follows q r e news r')
    (hEnded : r[i]? = some ⟨job, .ended ending⟩) :
    r'[i]? = some ⟨job, .ended ending⟩ := by
  have hOther :
      ∀ {n : Nat} {s s' : Standing},
        r[n]? = some s → s ≠ ⟨job, .ended ending⟩ →
        (r.set n s')[i]? = some ⟨job, .ended ending⟩ := by
    intro n s s' hHere hNot
    have hApart : n ≠ i := by
      rintro rfl
      exact hNot (Option.some.inj (hHere.symm.trans hEnded))
    rw [List.getElem?_set_ne hApart]
    exact hEnded
  cases hFollows with
  | enqueue _ _ =>
      rw [List.getElem?_append_left (List.getElem?_eq_some_iff.mp hEnded).1]
      exact hEnded
  | aside _ _ => exact hEnded
  | take _ _ _ _ hHere => exact hOther hHere (by simp)
  | succeed _ _ hHere => exact hOther hHere (by simp)
  | exhaust _ _ _ hHere _ => exact hOther hHere (by simp)
  | postpone _ _ _ hHere _ => exact hOther hHere (by simp)
  | retry _ _ hHere _ => exact hOther hHere (by simp)
  | refuse _ _ hHere _ => exact hOther hHere (by simp)
  | drop _ _ hHere => exact hOther hHere (by simp)

theorem Traces.ended_stays
    {q q' : Queue}
    {r r' : List Standing}
    {events : List Event}
    {past : Record}
    {i : Nat}
    {job : Job}
    {ending : Ending}
    (hTraces : Traces q r events past q' r')
    (hEnded : r[i]? = some ⟨job, .ended ending⟩) :
    r'[i]? = some ⟨job, .ended ending⟩ := by
  induction hTraces with
  | nil => exact hEnded
  | cons _ hFollows _ ih => exact ih (hFollows.ended_stays hEnded)

/- A job is put down as refused where it is to be tried again and finds the buffer full. -/
theorem Traces.full_of_refusal
    {q q' : Queue}
    {r r' : List Standing}
    {events : List Event}
    {past : Record}
    {i : Nat}
    (hTraces : Traces q r events past q' r')
    (hRefused : (i, .ended .refused) ∈ past) :
    ∃ first job rest p, events = first ++ .retry job :: rest ∧ q.steps? first = some p ∧
      p.limits.capacity ≤ p.buffer.length ∧ r'[i]? = some ⟨job, .ended .refused⟩ := by
  induction hTraces with
  | nil => cases hRefused
  | @cons q _ _ r _ _ e events _ _ hStep hFollows hTraces ih =>
      rcases List.mem_append.mp hRefused with hNow | hLater
      · cases hFollows with
        | refuse n job hHere hFull =>
            have hSame : i = n := by simpa using hNow
            subst hSame
            have hEnded :
                (r.set i ⟨job, .ended .refused⟩)[i]? = some ⟨job, .ended .refused⟩ :=
              List.getElem?_set_self (List.getElem?_eq_some_iff.mp hHere).1
            exact ⟨[], job, events, q, rfl, rfl, hFull, hTraces.ended_stays hEnded⟩
        | _ => simp at hNow
      · rcases ih hLater with
          ⟨first, job, rest, p, rfl, hRun, hFull, hEnded⟩
        exact ⟨e :: first, job, rest, p, rfl, by simpa [steps?, hStep] using hRun, hFull,
          hEnded⟩

end Timetable.Queue
