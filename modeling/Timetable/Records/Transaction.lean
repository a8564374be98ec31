import Timetable.World.Act

/-
  This file sends statements to the store, and groups them
  in transactions and behind savepoints.

  Key definitions include:
    * `Scope`
    * `perform`
    * `fetch`
    * `start`
    * `commit`
    * `rollback`
    * `classify`
    * `behindSavepoint`
-/

namespace Timetable.Records

open Store

------------------------------------------------------------
-- Sending Statements
------------------------------------------------------------

/- Note that a statement was sent; the request may be canceled by it. -/
def afterwards (s : Statement) : Act Unit :=
  modify (fun w => { w with context := w.context.sent s.label })

/-
  Send a statement.  A request that has ended sends nothing.
  A statement that meets a fault fails, or answers what
  `idle` says without an effect.
-/
def send
    {α : Type}
    (s : Statement)
    (idle : Option Failure → α)
    (effect : Database → α × Database) : Act α := do
  Act.checkContext
  let w ← get
  match w.database.submit s with
  | (none, db) =>
      let (a, db) := effect db
      set { w with database := db }
      afterwards s
      return a
  | (some (.fails f), db) =>
      set { w with database := db }
      afterwards s
      throw f
  | (some .ignored, db) =>
      set { w with database := db }
      afterwards s
      return idle none
  | (some (.uncounted text), db) =>
      set { w with database := db }
      afterwards s
      return idle (some (.plain text))

/-
  Change tables.  The answer is the number of rows that were
  touched, or why that number cannot be told.
-/
def perform (c : Change) : Act (Except Failure Nat) :=
  send (.change c)
    (fun
      | none => .ok 0
      | some f => .error f)
    (fun db => (.ok (c.touched db.tables), db.update c.run))

/- Look rows up. -/
def fetch (l : Lookup) : Act (List l.Row) :=
  send (.lookup l) (fun _ => [])
    (fun db =>
      let (rows, tables) := l.run db.tables
      (rows, { db with tables := tables }))

/- The first row of a lookup, which must be there. -/
def fetchOne (l : Lookup) : Act l.Row := do
  match ← fetch l with
  | row :: _ => return row
  | [] => throw (.sentinel .noRows)

------------------------------------------------------------
-- Transactions
------------------------------------------------------------

/- Open a transaction. -/
def start : Act Unit :=
  send .start (fun _ => ()) (fun db => ((), db.start))

/-
  Keep what a transaction did.  When that fails, the
  transaction has ended and what it did is undone.
-/
def commit : Act Unit := do
  Act.checkContext
  let w ← get
  match w.database.submit .commit with
  | (some (.fails f), db) =>
      set { w with database := db.undo }
      afterwards .commit
      throw f
  | (_, db) =>
      set { w with database := db.close }
      afterwards .commit

/- Undo what an open transaction did, even if the request has ended. -/
def rollback : Act Unit := do
  let w ← get
  if w.database.isOpen then
    let (_, db) := w.database.submit .rollback
    set { w with database := db.undo }
    afterwards .rollback

/- Run an action in a transaction that ends with it. -/
def inTransaction
    {α : Type}
    (act : Act α) : Act α := do
  match ← Act.attempt act with
  | .ok a => return a
  | .error f =>
      rollback
      throw f

------------------------------------------------------------
-- Savepoints
------------------------------------------------------------

/- Whether statements stand alone or belong to a transaction. -/
inductive Scope where
| alone : Scope
| transaction : Scope
deriving DecidableEq, Repr

/- Set a savepoint. -/
def mark (name : String) : Act Unit :=
  send (.savepoint name) (fun _ => ()) (fun db => ((), db.mark name))

/- Forget a savepoint. -/
def release (name : String) : Act Unit :=
  send (.release name) (fun _ => ()) (fun db => ((), db.release name))

/- Return to a savepoint. -/
def returnTo (name : String) : Act Unit :=
  send (.rollbackTo name) (fun _ => ()) (fun db => ((), db.returnTo name))

/-
  Run an action behind a savepoint of a transaction.  When it
  fails, the transaction returns to the savepoint and can be
  used further; outside a transaction the action stands alone.
-/
def behindSavepoint
    (scope : Scope)
    (name : String)
    (act : Act Unit) : Act Unit := do
  match scope with
  | .alone => act
  | .transaction =>
      Act.restating (.during ("savepoint " ++ name)) (mark name)
      match ← Act.attempt act with
      | .ok () =>
          Act.restating (.during ("release savepoint " ++ name)) (release name)
      | .error f =>
          match ← Act.attempt (returnTo name) with
          | .ok () => throw f
          | .error g =>
              throw (.joined f (.during ("rollback to savepoint " ++ name) g))

------------------------------------------------------------
-- Refusals
------------------------------------------------------------

/- The sentinel that a state of the store stands for. -/
def sentinelOfState (state : String) : Option Sentinel :=
  if state == "23505" then some .duplicate
  else if state == "42703" || state == "42P01" then some .transient
  else none

/- Tag a refusal of the store with the sentinel that its state stands for. -/
def classify
    (label : String)
    (f : Failure) : Failure :=
  match f.state?.bind sentinelOfState with
  | some s => .tagged label s f
  | none => .during label f

end Timetable.Records
