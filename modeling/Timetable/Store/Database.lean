import Timetable.Store.Fault
import Timetable.Store.Statement

/-
  This file defines the store as a whole: its tables, what a
  transaction returns to when it is undone, the faults that
  await statements, and the statements that were sent.

  Key definitions include:
    * `Database`
    * `Database.submit`
    * `Database.start`
    * `Database.undo`
    * `Database.close`
    * `Database.mark`
    * `Database.returnTo`
-/

namespace Timetable.Store

------------------------------------------------------------
-- The Store
------------------------------------------------------------

/- The store. -/
structure Database where
  tables : Tables := {}
  /- The tables at the start of the open transaction. -/
  origin : Option Tables := none
  /- The tables at the savepoints, the youngest first. -/
  savepoints : List (String × Tables) := []
  rules : List FaultRule := []
  journal : List Statement := []
deriving Inhabited

namespace Database

/- Note a statement, and find the fault that meets it. -/
def submit
    (s : Statement)
    (db : Database) : Option Fault × Database :=
  let (fault, rules) := strike s.label db.rules
  (fault, { db with rules := rules, journal := db.journal ++ [s] })

/- Change the tables. -/
def update
    (change : Tables → Tables)
    (db : Database) : Database :=
  { db with tables := change db.tables }

/- A transaction is open. -/
def isOpen (db : Database) : Bool :=
  db.origin.isSome

/- Open a transaction. -/
def start (db : Database) : Database :=
  { db with origin := some db.tables, savepoints := [] }

/- End a transaction and keep what it did. -/
def close (db : Database) : Database :=
  { db with origin := none, savepoints := [] }

/- End a transaction and undo what it did. -/
def undo (db : Database) : Database :=
  { db with
    tables := db.origin.getD db.tables, origin := none, savepoints := [] }

/- Set a savepoint. -/
def mark
    (name : String)
    (db : Database) : Database :=
  { db with savepoints := (name, db.tables) :: db.savepoints }

/- Forget a savepoint. -/
def release
    (name : String)
    (db : Database) : Database :=
  { db with savepoints := db.savepoints.eraseP (fun s => s.1 == name) }

/- Return to a savepoint, which stays. -/
def returnTo
    (name : String)
    (db : Database) : Database :=
  { db with tables := (db.savepoints.lookup name).getD db.tables }

end Database

end Timetable.Store
