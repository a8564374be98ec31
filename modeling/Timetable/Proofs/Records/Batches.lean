import Mathlib.Data.List.Forall2
import Timetable.Proofs.Action.Ids
import Timetable.Proofs.Store.Records

/-
  This file tells how many items are inserted at once.  They
  are cut into batches of five hundred, and each batch is one
  statement; what is inserted when a statement fails are the
  batches before it, and so a known part of the items.

  What becomes of the statements with a label, one after the
  other, is settled by the faults that await them and by what
  is to end the request.

  Key definitions include:
    * `Fate`
    * `World.fate`
    * `World.Noted`
    * `Inserted`
    * `withIds`
    * `StoredAs`

  Main theorems include:
    * `length_batches`
    * `flatten_take_batches`
    * `exec_insertBatches_append`
    * `exec_completeItems_cons`
    * `runs_insertItems_refused`
    * `insertItems_batched`
-/

namespace Timetable

open Store

------------------------------------------------------------
-- Fates of Statements
------------------------------------------------------------

/- What becomes of a statement. -/
inductive Fate where
| carriedOut : Fate
| refused (f : Failure) : Fate
/- It is taken for done, but has no effect. -/
| passedOver : Fate

/- What becomes of a statement with a label that is sent now. -/
def fateNow
    (label : String)
    (c : Context)
    (rules : List FaultRule) : Fate :=
  match c.failure?, (strike label rules).1 with
  | some f, _ => .refused f
  | none, none => .carriedOut
  | none, some (.fails f) => .refused f
  | none, some _ => .passedOver

/- What becomes of a statement with a label after so many others with it. -/
def fateAfter
    (label : String) : Nat → Context → List FaultRule → Fate
| 0, c, rules => fateNow label c rules
| n + 1, c, rules =>
    fateAfter label n (c.sent label) (strike label rules).2

namespace World

/- What becomes in a world of a statement with a label after so many others with it. -/
def fate
    (label : String)
    (n : Nat)
    (w : World) : Fate :=
  fateAfter label n w.context w.database.rules

/- A world remains in which a statement has been sent. -/
structure Noted
    (s : Statement)
    (w w' : World) : Prop where
  context : w'.context = w.context.sent s.label
  rules : w'.database.rules = (strike s.label w.database.rules).2
  journal : w'.database.journal = w.database.journal ++ [s]

/- The statements behind it fare as they would have fared. -/
theorem Noted.fate_eq
    {s : Statement}
    {w w' : World}
    (h : w.Noted s w')
    (n : Nat) :
    w'.fate s.label n = w.fate s.label (n + 1) := by
  unfold fate
  rw [h.context, h.rules]
  rfl

end World

namespace Records

open Act

/- A change that is carried out is made, and noted. -/
theorem runs_perform_carriedOut
    {c : Change}
    {w : World}
    (hFate : w.fate c.label 0 = .carriedOut) :
    ∃ touched w',
      (perform c).Runs w (.ok touched) w' ∧
        w'.tables = c.run w.tables ∧
        w.Noted (.change c) w' := by
  unfold World.fate fateAfter fateNow at hFate
  split at hFate
  · cases hFate
  · rename_i hGoing hStrike
    have hSubmit : (w.database.submit (.change c)).1 = none := hStrike
    refine ⟨.ok (c.touched w.tables),
      World.sent (.change c)
        { w with
          database := (w.database.submit (.change c)).2.update c.run },
      ?_, rfl, rfl, rfl, rfl⟩
    unfold Runs perform
    rw [exec_send, hGoing]
    simp only [hSubmit]
    rfl
  · cases hFate
  · cases hFate

/- A change that is refused leaves the tables, whether or not it was noted. -/
theorem runs_perform_refused
    {c : Change}
    {w : World}
    {f : Failure}
    (hFate : w.fate c.label 0 = .refused f) :
    ∃ w',
      (perform c).Runs w (.error f) w' ∧
        w'.tables = w.tables ∧
        ∃ sent,
          (sent = [] ∨ sent = [Statement.change c]) ∧
            w'.database.journal = w.database.journal ++ sent := by
  unfold World.fate fateAfter fateNow at hFate
  split at hFate
  · rename_i hEnded
    cases hFate
    refine ⟨w, ?_, rfl, [], Or.inl rfl, (List.append_nil _).symm⟩
    unfold Runs perform
    rw [exec_send, hEnded]
  · cases hFate
  · rename_i hGoing hStrike
    cases hFate
    have hSubmit :
        (w.database.submit (.change c)).1 = some (.fails f) := hStrike
    refine ⟨
      World.sent (.change c)
        { w with database := (w.database.submit (.change c)).2 },
      ?_, rfl, [.change c], Or.inr rfl, rfl⟩
    unfold Runs perform
    rw [exec_send, hGoing]
    simp only [hSubmit]
  · cases hFate

------------------------------------------------------------
-- Cutting Lists into Batches
------------------------------------------------------------

section Cutting

variable {β : Type}

theorem batches_of_ne_nil
    {xs : List β}
    (hSome : xs ≠ []) :
    batches xs =
      xs.take batchSize :: batches (xs.drop batchSize) := by
  cases xs with
  | nil => exact absurd rfl hSome
  | cons x rest => rw [batches]

/- There are as many batches as the size goes into the number, rounded up. -/
theorem length_batches
    (xs : List β) :
    (batches xs).length = (xs.length + 499) / 500 := by
  induction xs using batches.induct with
  | case1 => simp [batches]
  | case2 x rest ih =>
      rw [batches, List.length_cons, ih, List.length_drop]
      simp only [batchSize, List.length_cons]
      omega

/- A batch is never empty, and never larger than the size. -/
theorem length_of_mem_batches
    {xs batch : List β}
    (hBatch : batch ∈ batches xs) :
    1 ≤ batch.length ∧ batch.length ≤ 500 := by
  induction xs using batches.induct with
  | case1 => simp [batches] at hBatch
  | case2 x rest ih =>
      rw [batches] at hBatch
      rcases List.mem_cons.mp hBatch with rfl | hLater
      · rw [List.length_take]
        simp only [batchSize, List.length_cons]
        omega
      · exact ih hLater

/- The first batches are all full, or all there are. -/
theorem flatten_take_batches
    (n : Nat)
    (xs : List β) :
    ((batches xs).take n).flatten = xs.take (n * 500) := by
  induction n generalizing xs with
  | zero => simp
  | succ n ih =>
      by_cases hNone : xs = []
      · simp [hNone, batches]
      · rw [batches_of_ne_nil hNone, List.take_succ_cons,
          List.flatten_cons, ih, Nat.succ_mul, Nat.add_comm,
          List.take_add]
        rfl

end Cutting

------------------------------------------------------------
-- Inserting Batches
------------------------------------------------------------

/- The label of the statements that insert items. -/
def insertLabel : String :=
  "item_insert"

/- The statement that inserts a batch. -/
def insertion (batch : List ScheduleItem) : Statement :=
  .change (.insertItems batch)

/- A batch that is inserted is followed by the others. -/
theorem exec_insertBatches_cons
    {batch : List ScheduleItem}
    {w w' : World}
    {touched : Except Failure Nat}
    (hRun : (perform (.insertItems batch)).Runs w (.ok touched) w')
    (rest : List (List ScheduleItem)) :
    (insertBatches (batch :: rest)).exec w =
      (insertBatches rest).exec w' := by
  have hFirst :
      (discard (restating (classify "insert schedule items")
        (perform (.insertItems batch)))).Runs w (.ok ⟨⟩) w' :=
    (runs_discard_iff _ _ _ _).mpr
      ⟨_, (runs_restating_iff _ _ _ _ _).mpr ⟨_, hRun, rfl⟩, rfl⟩
  rw [insertBatches, exec_bind, hFirst]

/- A batch that is not inserted is followed by no other. -/
theorem runs_insertBatches_stopped
    {batch : List ScheduleItem}
    {w w' : World}
    {f : Failure}
    (hRun : (perform (.insertItems batch)).Runs w (.error f) w')
    (rest : List (List ScheduleItem)) :
    (insertBatches (batch :: rest)).Runs w
      (.error (classify "insert schedule items" f)) w' := by
  have hFirst :
      (discard (restating (classify "insert schedule items")
        (perform (.insertItems batch)))).Runs w
          (.error (classify "insert schedule items" f)) w' :=
    (runs_discard_iff _ _ _ _).mpr
      ⟨_, (runs_restating_iff _ _ _ _ _).mpr ⟨_, hRun, rfl⟩, rfl⟩
  unfold Runs
  rw [insertBatches, exec_bind, hFirst]

/- Batches were inserted one after the other, and the faults for later ones remain. -/
structure Inserted
    (parts : List (List ScheduleItem))
    (w w' : World) : Prop where
  tables : w'.tables = w.tables.insertItems parts.flatten
  journal :
    w'.database.journal = w.database.journal ++ parts.map insertion
  fates :
    ∀ n, w'.fate insertLabel n = w.fate insertLabel (parts.length + n)

theorem inserted_nothing (w : World) : Inserted [] w w where
  tables := by simp [Tables.insertItems]
  journal := by simp
  fates := by simp

/- One batch comes before the others. -/
theorem Inserted.cons
    {batch : List ScheduleItem}
    {parts : List (List ScheduleItem)}
    {w v w' : World}
    (hTables : v.tables = w.tables.insertItems batch)
    (hNoted : w.Noted (insertion batch) v)
    (h : Inserted parts v w') :
    Inserted (batch :: parts) w w' where
  tables := by
    rw [h.tables, hTables]
    simp [Tables.insertItems]
  journal := by
    rw [h.journal, hNoted.journal]
    simp
  fates := by
    intro n
    have hLater := hNoted.fate_eq (parts.length + n)
    rw [h.fates, List.length_cons, Nat.add_right_comm]
    exact hLater

/- After batches that are carried out it goes on with the others. -/
theorem exec_insertBatches_append
    (parts rest : List (List ScheduleItem))
    (w : World)
    (hFates :
      ∀ n < parts.length, w.fate insertLabel n = .carriedOut) :
    ∃ v,
      (insertBatches (parts ++ rest)).exec w =
          (insertBatches rest).exec v ∧
        Inserted parts w v := by
  induction parts generalizing w with
  | nil => exact ⟨w, rfl, inserted_nothing w⟩
  | cons batch parts ih =>
      rcases runs_perform_carriedOut (c := .insertItems batch)
          (hFates 0 (Nat.succ_pos _)) with
        ⟨touched, u, hRun, hTables, hNoted⟩
      have hLater :
          ∀ n < parts.length, u.fate insertLabel n = .carriedOut := by
        intro n hn
        exact (hNoted.fate_eq n).trans (hFates (n + 1) (Nat.succ_lt_succ hn))
      rcases ih u hLater with ⟨v, hExec, hInserted⟩
      refine ⟨v, ?_, hInserted.cons hTables hNoted⟩
      rw [List.cons_append, exec_insertBatches_cons hRun, hExec]

------------------------------------------------------------
-- Completing Items
------------------------------------------------------------

/- The id that an item is stored with: its own, or the next one that is handed out. -/
def idFor
    (issued : Nat)
    (item : ScheduleItem) : String :=
  if item.id = "" then idOfNumber (issued + 1) else item.id

/- How many ids are handed out after an item got one if it has none. -/
def issuedWith
    (issued : Nat)
    (item : ScheduleItem) : Nat :=
  if item.id = "" then issued + 1 else issued

/- Items with their ids; those without one get the next ones. -/
def withIds : Nat → List ScheduleItem → List ScheduleItem
| _, [] => []
| issued, item :: rest =>
    { item with id := idFor issued item } ::
      withIds (issuedWith issued item) rest

/- An item is stored as it is, but for an id that it does not have. -/
def StoredAs (item stored : ScheduleItem) : Prop :=
  stored = { item with id := stored.id } ∧
    stored.id ≠ "" ∧
    (item.id ≠ "" → stored = item)

theorem withIds_storedAs
    (issued : Nat)
    (items : List ScheduleItem) :
    List.Forall₂ StoredAs items (withIds issued items) := by
  induction items generalizing issued with
  | nil => exact List.Forall₂.nil
  | cons item rest ih =>
      refine List.Forall₂.cons ⟨rfl, ?_, ?_⟩ (ih _)
      · change idFor issued item ≠ ""
        unfold idFor
        split
        · exact idOfNumber_ne_empty _
        · assumption
      · intro hId
        simp only [idFor, if_neg hId]

/- An item with a plan is completed before the others, and one without a plan ends it. -/
theorem exec_completeItems_cons
    (n : Nat)
    (item : ScheduleItem)
    (rest : List ScheduleItem)
    (w : World) :
    (completeItems n (item :: rest)).exec w =
      let v := { w with issued := issuedWith w.issued item }
      if item.planId = "" then
        (.error (.plain
          ("schedule item " ++ toString n ++ " has no plan_id")), v)
      else
        match (completeItems (n + 1) rest).exec v with
        | (.ok done, w') =>
            (.ok ({ item with id := idFor w.issued item } :: done), w')
        | (.error f, w') => (.error f, w') := by
  have hRest :
      ∀ (id : String) (v : World),
        (do
          let rest ← completeItems (n + 1) rest
          return { item with id := id } :: rest :
            Act (List ScheduleItem)).exec v =
          match (completeItems (n + 1) rest).exec v with
          | (.ok done, w') => (.ok ({ item with id := id } :: done), w')
          | (.error f, w') => (.error f, w') := by
    intro id v
    rw [exec_bind]
    rcases (completeItems (n + 1) rest).exec v with ⟨_ | _, _⟩ <;> rfl
  rw [completeItems]
  unfold idFor issuedWith
  by_cases hId : item.id = ""
  · simp only [hId, beq_self_eq_true, if_true]
    rw [exec_bind]
    by_cases hPlan : item.planId = ""
    · simp only [hPlan, beq_self_eq_true, if_true]
      rfl
    · simp only [beq_iff_eq, hPlan, if_false]
      exact hRest _ _
  · simp only [beq_iff_eq, hId, if_false, pure_bind]
    by_cases hPlan : item.planId = ""
    · simp only [hPlan, if_true]
      rfl
    · simp only [hPlan, if_false]
      exact hRest _ _

/- Items of plans get their ids, and nothing else happens. -/
theorem runs_completeItems
    (n : Nat)
    (items : List ScheduleItem)
    (w : World)
    (hPlans : ∀ i ∈ items, i.planId ≠ "") :
    ∃ w',
      (completeItems n items).Runs w (.ok (withIds w.issued items)) w' ∧
        w'.context = w.context ∧
        w'.database = w.database := by
  induction items generalizing n w with
  | nil => exact ⟨w, rfl, rfl, rfl⟩
  | cons item rest ih =>
      have hPlan : item.planId ≠ "" := hPlans item List.mem_cons_self
      rcases ih (n + 1) { w with issued := issuedWith w.issued item }
          (fun i hi => hPlans i (List.mem_cons_of_mem _ hi)) with
        ⟨w', hRest, hContext, hDatabase⟩
      refine ⟨w', ?_, hContext, hDatabase⟩
      unfold Runs at hRest ⊢
      rw [exec_completeItems_cons]
      simp only [if_neg hPlan, hRest]
      rfl

/- The first item without a plan ends it. -/
theorem runs_completeItems_without_plan
    (n : Nat)
    (items : List ScheduleItem)
    (w : World)
    (hMissing : ∃ i ∈ items, i.planId = "") :
    ∃ w',
      (completeItems n items).Runs w
          (.error (.plain
            ("schedule item " ++
              toString (n + items.findIdx (fun i => i.planId = "")) ++
              " has no plan_id"))) w' ∧
        w'.database = w.database := by
  induction items generalizing n w with
  | nil =>
      rcases hMissing with ⟨i, hi, _⟩
      cases hi
  | cons item rest ih =>
      unfold Runs
      simp only [exec_completeItems_cons, List.findIdx_cons]
      by_cases hPlan : item.planId = ""
      · simp only [hPlan, if_true]
        exact ⟨_, rfl, rfl⟩
      · have hLater : ∃ i ∈ rest, i.planId = "" := by
          rcases hMissing with ⟨i, hi, hNone⟩
          rcases List.mem_cons.mp hi with rfl | hi
          · exact absurd hNone hPlan
          · exact ⟨i, hi, hNone⟩
        rcases ih (n + 1) { w with issued := issuedWith w.issued item }
            hLater with
          ⟨w', hRest, hDatabase⟩
        refine ⟨w', ?_, hDatabase⟩
        unfold Runs at hRest
        simp only [hPlan, if_false, hRest, decide_false, cond_false]
        rw [Nat.add_right_comm, Nat.add_assoc]

------------------------------------------------------------
-- Inserting Items
------------------------------------------------------------

/- When the first batches have been carried out, they are inserted and the others follow. -/
theorem exec_insertItems_after
    {items : List ScheduleItem}
    {w : World}
    (hPlans : ∀ i ∈ items, i.planId ≠ "")
    (passed : Nat)
    (hFates : ∀ n < passed, w.fate insertLabel n = .carriedOut) :
    let stored := withIds w.issued items
    ∃ v,
      Inserted ((batches stored).take passed) w v ∧
        (insertItems items).exec w =
          match (insertBatches ((batches stored).drop passed)).exec v with
          | (.ok _, w') => (.ok stored, w')
          | (.error f, w') => (.error f, w') := by
  intro stored
  rcases runs_completeItems 0 items w hPlans with
    ⟨u, hComplete, hContext, hDatabase⟩
  have hSame : ∀ n, u.fate insertLabel n = w.fate insertLabel n := by
    intro n
    unfold World.fate
    rw [hContext, hDatabase]
  have hFirst :
      ∀ n < ((batches stored).take passed).length,
        u.fate insertLabel n = .carriedOut := by
    intro n hn
    exact (hSame n).trans
      (hFates n (Nat.lt_of_lt_of_le hn (List.length_take_le _ _)))
  rcases exec_insertBatches_append _ ((batches stored).drop passed) u
      hFirst with
    ⟨v, hExec, hTables, hJournal, hLater⟩
  rw [List.take_append_drop] at hExec
  refine ⟨v, ⟨?_, ?_, fun n => (hLater n).trans (hSame _)⟩, ?_⟩
  · rw [hTables, World.tables, hDatabase]
  · rw [hJournal, hDatabase]
  · unfold Runs at hComplete
    rw [insertItems, exec_bind, hComplete]
    simp only
    rw [exec_bind, hExec]
    rcases (insertBatches ((batches stored).drop passed)).exec v with
      ⟨_ | _, _⟩ <;> rfl

/- When all batches are carried out, all items are inserted. -/
theorem runs_insertItems_carriedOut
    {items : List ScheduleItem}
    {w : World}
    (hPlans : ∀ i ∈ items, i.planId ≠ "")
    (hFates :
      ∀ n < (batches (withIds w.issued items)).length,
        w.fate insertLabel n = .carriedOut) :
    ∃ w',
      (insertItems items).Runs w (.ok (withIds w.issued items)) w' ∧
        Inserted (batches (withIds w.issued items)) w w' := by
  rcases exec_insertItems_after hPlans _ hFates with
    ⟨v, hInserted, hExec⟩
  rw [List.drop_length] at hExec
  rw [List.take_length] at hInserted
  exact ⟨v, hExec, hInserted⟩

/- When a batch is refused, those before it are inserted and none behind it is sent. -/
theorem runs_insertItems_refused
    {items : List ScheduleItem}
    {w : World}
    (hPlans : ∀ i ∈ items, i.planId ≠ "")
    {passed : Nat}
    (hPassed : passed < (batches (withIds w.issued items)).length)
    {f : Failure}
    (hFates : ∀ n < passed, w.fate insertLabel n = .carriedOut)
    (hRefused : w.fate insertLabel passed = .refused f) :
    ∃ w',
      (insertItems items).Runs w
          (.error (classify "insert schedule items" f)) w' ∧
        w'.tables =
          w.tables.insertItems
            ((batches (withIds w.issued items)).take passed).flatten ∧
        ∃ sent,
          (sent = passed ∨ sent = passed + 1) ∧
            w'.database.journal =
              w.database.journal ++
                ((batches (withIds w.issued items)).take sent).map
                  insertion := by
  rcases exec_insertItems_after hPlans passed hFates with
    ⟨v, hInserted, hExec⟩
  have hLength :
      ((batches (withIds w.issued items)).take passed).length = passed :=
    List.length_take_of_le (Nat.le_of_lt hPassed)
  have hNow : v.fate insertLabel 0 = .refused f := by
    rw [hInserted.fates, hLength]
    exact hRefused
  rw [List.drop_eq_getElem_cons hPassed] at hExec
  rcases runs_perform_refused
      (c := .insertItems (batches (withIds w.issued items))[passed])
      hNow with
    ⟨w', hRun, hTables, sent, hSent, hJournal⟩
  have hStopped := runs_insertBatches_stopped hRun
    ((batches (withIds w.issued items)).drop (passed + 1))
  unfold Runs at hStopped
  rw [hStopped] at hExec
  refine ⟨w', hExec, hTables.trans hInserted.tables, ?_⟩
  rw [hJournal, hInserted.journal]
  rcases hSent with rfl | rfl
  · exact ⟨passed, Or.inl rfl, List.append_nil _⟩
  · refine ⟨passed + 1, Or.inr rfl, ?_⟩
    rw [List.take_succ_eq_append_getElem hPassed, List.map_append,
      List.append_assoc]
    rfl

/-
  Items of plans are inserted in statements, as many as 500
  goes into their number, rounded up.  Each inserts one to 500
  items, and in a row they are all items in order, those
  without an id with a new one.

  If all statements are carried out, every item is appended to
  the table once, and nothing else changes.  If one is refused
  after `n` that were carried out, the failure is answered,
  exactly the first `n * 500` items are appended, and no
  statement follows.

  If an item has no plan, the first such item is named, and
  nothing is sent to the store.
-/
theorem insertItems_batched
    (items : List ScheduleItem)
    (w : World) :
    let stored := withIds w.issued items
    let r := (insertItems items).outcome w
    let w' := (insertItems items).after w
    ((∀ i ∈ items, i.planId ≠ "") →
      List.Forall₂ StoredAs items stored ∧
        (batches stored).length = (items.length + 499) / 500 ∧
        (∀ batch ∈ batches stored,
          1 ≤ batch.length ∧ batch.length ≤ 500) ∧
        (batches stored).flatten = stored ∧
        ((∀ n < (batches stored).length,
            w.fate insertLabel n = .carriedOut) →
          r = .ok stored ∧
            w'.tables =
              { w.tables with items := w.tables.items ++ stored } ∧
            w'.database.journal =
              w.database.journal ++ (batches stored).map insertion) ∧
        ∀ n < (batches stored).length, ∀ f,
          (∀ m < n, w.fate insertLabel m = .carriedOut) →
          w.fate insertLabel n = .refused f →
          r = .error (classify "insert schedule items" f) ∧
            w'.tables =
              { w.tables with
                items := w.tables.items ++ stored.take (n * 500) } ∧
            ∃ sent,
              (sent = n ∨ sent = n + 1) ∧
                w'.database.journal =
                  w.database.journal ++
                    ((batches stored).take sent).map insertion) ∧
      ((∃ i ∈ items, i.planId = "") →
        r =
            .error (.plain
              ("schedule item " ++
                toString (items.findIdx (fun i => i.planId = "")) ++
                " has no plan_id")) ∧
          w'.database = w.database) := by
  intro stored r w'
  constructor
  · intro hPlans
    have hStored := withIds_storedAs w.issued items
    refine ⟨hStored, ?_, fun _ => length_of_mem_batches,
      flatten_batches stored, ?_, ?_⟩
    · rw [length_batches, hStored.length_eq]
    · intro hFates
      rcases runs_insertItems_carriedOut hPlans hFates with
        ⟨v, hRun, hInserted⟩
      have hAfter : w' = v := hRun.after_eq
      refine ⟨hRun.outcome_eq, ?_, ?_⟩
      · rw [hAfter, hInserted.tables, flatten_batches]
        rfl
      · rw [hAfter, hInserted.journal]
    · intro n hn f hFates hRefused
      rcases runs_insertItems_refused hPlans hn hFates hRefused with
        ⟨v, hRun, hTables, hSent⟩
      have hAfter : w' = v := hRun.after_eq
      refine ⟨hRun.outcome_eq, ?_, hAfter ▸ hSent⟩
      rw [hAfter, hTables, flatten_take_batches]
      rfl
  · intro hMissing
    rcases runs_completeItems_without_plan 0 items w hMissing with
      ⟨v, hRun, hDatabase⟩
    rw [Nat.zero_add] at hRun
    have hAll :
        (insertItems items).Runs w _ v :=
      (runs_bind_iff _ _ _ _ _).mpr (Or.inl ⟨_, hRun, rfl⟩)
    exact ⟨hAll.outcome_eq,
      (congrArg World.database hAll.after_eq).trans hDatabase⟩

/- An item of a plan, with its own id. -/
def ownedItem : ScheduleItem :=
  { ScheduleItem.blank with
    id := idOfNumber 2, planId := idOfNumber 1 }

/- There is an item of a plan already, and faults await the statements. -/
def stockedWorld (rules : List FaultRule) : World :=
  { settings := { locale := .fallback }
    database := { tables := { items := [ownedItem] }, rules := rules }
    clock := 0
    issued := 2 }

/-
  Of 501 items the second batch is just one.  When it is
  refused, 500 were added to the one item in the table; when it
  is not, all were.  When an item has no plan, none is added,
  although the item before it has one.
-/
theorem insertItems_batched_of_one_over :
    let items := List.replicate 501 ownedItem
    let lost := FaultRule.mk "item_insert" 1 1 (.fails (.plain "lost"))
    let stored := withIds 2 items
    (batches stored).length = 2 ∧
      (insertItems items).outcome (stockedWorld [lost]) =
        .error (classify "insert schedule items" (.plain "lost")) ∧
      ((insertItems items).after (stockedWorld [lost])).tables.items =
        ownedItem :: stored.take 500 ∧
      (insertItems items).outcome (stockedWorld []) = .ok stored ∧
      ((insertItems items).after (stockedWorld [])).tables.items =
        ownedItem :: stored ∧
      (insertItems [ownedItem, { ownedItem with planId := "" }]).outcome
          (stockedWorld []) =
        .error (.plain "schedule item 1 has no plan_id") := by
  intro items lost stored
  have hPlans : ∀ i ∈ items, i.planId ≠ "" := by
    intro i hi
    rw [List.eq_of_mem_replicate hi]
    exact idOfNumber_ne_empty 1
  rcases (insertItems_batched items (stockedWorld [lost])).1 hPlans with
    ⟨_, hCount, _, _, _, hRefused⟩
  rcases (insertItems_batched items (stockedWorld [])).1 hPlans with
    ⟨_, _, _, _, hCarriedOut, _⟩
  have hTwo : (batches stored).length = 2 :=
    hCount.trans (by simp only [items, List.length_replicate])
  -- The first statement uses up what the fault lets pass.
  have hFirst :
      ∀ m < 1, (stockedWorld [lost]).fate insertLabel m = .carriedOut := by
    intro m hm
    rw [Nat.lt_one_iff.mp hm]
    rfl
  have hCalm :
      ∀ n < (batches stored).length,
        (stockedWorld []).fate insertLabel n = .carriedOut := by
    intro n hn
    rw [hTwo] at hn
    rcases Nat.le_one_iff_eq_zero_or_eq_one.mp (Nat.le_of_lt_succ hn) with
      rfl | rfl <;> rfl
  have hOver : 1 < (batches stored).length :=
    hTwo ▸ Nat.one_lt_two
  rcases hRefused 1 hOver (.plain "lost") hFirst rfl with
    ⟨hError, hSome, _⟩
  rcases hCarriedOut hCalm with ⟨hOk, hAll, _⟩
  have hMissing :=
    (insertItems_batched
      [ownedItem, { ownedItem with planId := "" }] (stockedWorld [])).2
      ⟨_, List.mem_cons_of_mem _ (List.mem_singleton.mpr rfl), rfl⟩
  refine ⟨hTwo, hError, ?_, hOk, ?_, hMissing.1.trans rfl⟩
  · rw [hSome]
    rfl
  · rw [hAll]
    rfl

end Records

end Timetable
