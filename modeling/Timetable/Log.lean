import Timetable.Json.Basic
import Timetable.Text.Case

/-
  This file defines log entries, how grave they are, and
  which of them a log keeps.

  Key definitions include:
    * `Level`
    * `Level.ofText?`
    * `LogEntry`
    * `logThreshold`
-/

namespace Timetable

------------------------------------------------------------
-- Levels
------------------------------------------------------------

/- How grave a log entry is, from the least grave on. -/
inductive Level where
| debug : Level
| info : Level
| warn : Level
| error : Level
| dpanic : Level
| panic : Level
| fatal : Level
deriving DecidableEq, Repr

/- The name of a level. -/
def Level.name : Level → String
| .debug => "debug"
| .info => "info"
| .warn => "warn"
| .error => "error"
| .dpanic => "dpanic"
| .panic => "panic"
| .fatal => "fatal"

/- All levels, from the least grave on. -/
def Level.all : List Level :=
  [.debug, .info, .warn, .error, .dpanic, .panic, .fatal]

/- The place of a level among all. -/
def Level.rank (l : Level) : Nat :=
  Level.all.idxOf l

/- The level with a name, whatever the case of its letters; one level has two names. -/
def Level.ofText? (s : String) : Option Level :=
  if Text.lower s == "warning" then some .warn
  else Level.all.find? (fun l => l.name == Text.lower s)

------------------------------------------------------------
-- Entries
------------------------------------------------------------

/- A log entry. -/
structure LogEntry where
  logger : String := ""
  level : Level
  message : String
  fields : List (String × Json) := []
deriving Repr

------------------------------------------------------------
-- Thresholds
------------------------------------------------------------

/-
  The least level that is kept.  Without a name it depends on
  the environment, and a name that is not known means `info`.
-/
def logThreshold
    (production : Bool)
    (name : String) : Level :=
  if name == "" then
    if production then .info else .debug
  else (Level.ofText? name).getD .info

/- The levels that are kept under a threshold. -/
def keptLevels (threshold : Level) : List Level :=
  Level.all.filter (fun l => decide (threshold.rank ≤ l.rank))

end Timetable
