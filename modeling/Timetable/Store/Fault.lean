import Timetable.Failure

/-
  This file describes a store that does not always do what it
  is told.  Rules name the statements that go wrong, and how.

  Key definitions include:
    * `Fault`
    * `FaultRule`
    * `strike`
-/

namespace Timetable.Store

------------------------------------------------------------
-- Faults
------------------------------------------------------------

/- How a statement goes wrong.  None of the ways changes a table. -/
inductive Fault where
/- The statement fails. -/
| fails (f : Failure) : Fault
/- The statement does nothing and reports no rows. -/
| ignored : Fault
/- The statement does nothing, and the number of its rows cannot be told. -/
| uncounted (text : String) : Fault
deriving Repr, Inhabited

/-
  The statements with a label go wrong: after letting `skip`
  of them pass, the next `times` of them.
-/
structure FaultRule where
  label : String
  skip : Nat
  times : Nat
  fault : Fault
deriving Repr, Inhabited

/-
  The fault that meets a statement, and the rules that remain.
  Rules are tried in order; one that lets the statement pass
  leaves it to the rules behind it.
-/
def strike
    (label : String) :
    List FaultRule → Option Fault × List FaultRule
| [] => (none, [])
| r :: rest =>
    if r.label == label && r.times != 0 then
      if r.skip == 0 then
        (some r.fault, { r with times := r.times - 1 } :: rest)
      else
        let (fault, rest) := strike label rest
        (fault, { r with skip := r.skip - 1 } :: rest)
    else
      let (fault, rest) := strike label rest
      (fault, r :: rest)

end Timetable.Store
