import Timetable.World.Basic

/-
  This file defines actions: computations that read and
  change the world and may fail.

  Key definitions include:
    * `Act`
    * `Act.attempt`
    * `Act.now`
    * `Act.newId`
    * `Act.log`
    * `Act.measure`
    * `Act.checkContext`
    * `Act.under`
-/

namespace Timetable

------------------------------------------------------------
-- Actions
------------------------------------------------------------

/- A computation in the world that may fail.  What it did before it failed stays. -/
abbrev Act (α : Type) :=
  ExceptT Failure (StateM World) α

namespace Act

/- Run an action and hand over its outcome, whichever it is. -/
def attempt
    {α : Type}
    (act : Act α) : Act (Except Failure α) :=
  ExceptT.mk (Except.ok <$> act.run)

/- Take over an outcome. -/
def resume
    {α : Type} : Except Failure α → Act α
| .ok a => pure a
| .error f => throw f

/- Run an action; a failure is restated. -/
def restating
    {α : Type}
    (restate : Failure → Failure)
    (act : Act α) : Act α := do
  match ← attempt act with
  | .ok a => return a
  | .error f => throw (restate f)

/- The settings of the service. -/
def settings : Act Settings := do
  return (← get).settings

/- The time, which moves on with every look at it. -/
def now : Act Timestamp := do
  let w ← get
  set { w with clock := w.clock + clockTick }
  return Timestamp.ofInstant w.clock

/- The time as a number of nanoseconds. -/
def stopwatch : Act Int := do
  return (← now).instant

/- Run an action and tell how long it took. -/
def timed
    {α : Type}
    (act : Act α) : Act (α × Int) := do
  let started ← stopwatch
  let a ← act
  return (a, (← stopwatch) - started)

/- A number with twelve hexadecimal digits, or with as many more as it needs. -/
def twelveDigits (n : Nat) : String :=
  let digits := Nat.toDigits 16 n
  String.ofList (List.replicate (12 - digits.length) '0' ++ digits)

/- The id with a number. -/
def idOfNumber (n : Nat) : String :=
  "00000000-0000-4000-8000-" ++ twelveDigits n

/- An id that was not handed out before. -/
def newId : Act String := do
  let w ← get
  set { w with issued := w.issued + 1 }
  return idOfNumber (w.issued + 1)

/- Write to the log. -/
def logEntry (e : LogEntry) : Act Unit :=
  modify (fun w => { w with logs := w.logs ++ [e] })

/- Write a message to the log. -/
def log
    (level : Level)
    (message : String) : Act Unit :=
  logEntry { level := level, message := message }

/- Write to the log of the planning service, which may be thrown away. -/
def note
    (level : Level)
    (message : String) : Act Unit := do
  unless (← settings).silent do
    log level message

/- Keep a figure, if figures are kept. -/
def measure (change : Metrics → Metrics) : Act Unit :=
  modify (fun w => { w with metrics := w.metrics.map change })

/- Fail if the request may not go on. -/
def checkContext : Act Unit := do
  match (← get).context.failure? with
  | none => return ()
  | some f => throw f

/-
  Run an action in a changed context.  Afterwards the context
  is the old one, but a cancellation that came stays.
-/
def under
    {α : Type}
    (change : Context → Context)
    (act : Act α) : Act α := do
  let old := (← get).context
  modify (fun w => { w with context := change w.context })
  let outcome ← attempt act
  modify (fun w => { w with context := old.taking w.context })
  resume outcome

/- Run an action under the time limit of requests. -/
def limited
    {α : Type}
    (act : Act α) : Act α := do
  under (Context.limited (← settings).requestTimeout) act

end Act

end Timetable
