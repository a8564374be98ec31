import Timetable.Json.Basic
import Timetable.Plan.Feasibility

/-
  This file defines failures and what a client learns about
  them.

  A failure is a tree: a cause may be wrapped by a label, by
  a sentinel, or by an answer for the client, and two
  failures may be joined.  Decisions are made by looking for
  a node in the tree, wherever it stands.

  Key definitions include:
    * `Problem`
    * `Sentinel`
    * `Failure`
    * `Failure.text`
    * `Failure.hasCode`
    * `Failure.hasSentinel`
    * `Failure.answer`
-/

namespace Timetable

------------------------------------------------------------
-- Problems
------------------------------------------------------------

/-
  What a client is told about a failure: a code, an HTTP
  status, a message, and details that may be empty.
-/
structure Problem where
  code : String
  status : Int
  message : String
  details : List (String × Json) := []
deriving Repr, Inhabited

namespace Problem

/- The same problem with another message. -/
def withMessage
    (p : Problem)
    (message : String) : Problem :=
  { p with message := message }

def notFound : Problem :=
  ⟨"NOT_FOUND", 404, "resource not found", []⟩

def forbidden : Problem :=
  ⟨"FORBIDDEN", 403, "forbidden", []⟩

def unauthorized : Problem :=
  ⟨"UNAUTHORIZED", 401, "unauthorized", []⟩

def conflict : Problem :=
  ⟨"CONFLICT", 409, "conflict", []⟩

def validation : Problem :=
  ⟨"VALIDATION_ERROR", 400, "validation failed", []⟩

def internal : Problem :=
  ⟨"INTERNAL_ERROR", 500, "internal server error", []⟩

def insufficientTime : Problem :=
  ⟨"INSUFFICIENT_TIME", 422, "not enough study time for the selected content", []⟩

def transientStore : Problem :=
  ⟨"TRANSIENT_STORE_ERROR", 503, "storage temporarily unavailable", []⟩

def timeout : Problem :=
  ⟨"REQUEST_TIMEOUT", 503, "request deadline exceeded, retry later", []⟩

def cacheMiss : Problem :=
  ⟨"CACHE_MISS", 404, "cache miss", []⟩

def unsupportedFormat : Problem :=
  ⟨"UNSUPPORTED_FORMAT", 400, "unsupported export format", []⟩

def serviceUnavailable : Problem :=
  ⟨"SERVICE_UNAVAILABLE", 503, "service unavailable", []⟩

/- The problems that have a name, in the order of their names. -/
def named : List (String × Problem) :=
  [("CacheMiss", cacheMiss), ("Conflict", conflict), ("Forbidden", forbidden),
    ("InsufficientTime", insufficientTime), ("Internal", internal),
    ("NotFound", notFound), ("ServiceUnavailable", serviceUnavailable),
    ("Timeout", timeout), ("TransientStore", transientStore),
    ("Unauthorized", unauthorized), ("UnsupportedFormat", unsupportedFormat),
    ("Validation", validation)]

/- A problem as JSON; empty details are left out. -/
def toJson (p : Problem) : Json :=
  .obj
    ([("code", .str p.code), ("message", .str p.message), ("status", .int p.status)] ++
      if p.details.isEmpty then [] else [("details", .obj p.details)])

end Problem

/- The figures of a shortfall as details. -/
def shortfallDetails (s : Plan.Shortfall Float) : List (String × Json) :=
  [("hours_needed", .int s.hoursNeeded), ("hours_available", .int s.hoursAvailable),
    ("hours_per_day_needed", .float s.hoursPerDayNeeded),
    ("hours_per_day", .float s.hoursPerDay)]

------------------------------------------------------------
-- Failures
------------------------------------------------------------

/- Failures that are recognised wherever they stand in a tree. -/
inductive Sentinel where
| noRows : Sentinel
| duplicate : Sentinel
| transient : Sentinel
| deadline : Sentinel
| canceled : Sentinel
| alreadyQueued : Sentinel
deriving DecidableEq, Repr

/- The wording of a sentinel. -/
def Sentinel.text : Sentinel → String
| .noRows => "sql: no rows in result set"
| .duplicate => "duplicate record"
| .transient => "transient store failure"
| .deadline => "context deadline exceeded"
| .canceled => "context canceled"
| .alreadyQueued => "job already queued"

/- A failure with its causes. -/
inductive Failure where
/- A failure that is only a text. -/
| plain (text : String) : Failure
| sentinel (s : Sentinel) : Failure
/- The store refused a statement, with the state it names. -/
| refused (state text : String) : Failure
| shortfall (s : Plan.Shortfall Float) : Failure
/- A problem without a cause. -/
| problem (p : Problem) : Failure
/- A problem that another failure caused. -/
| caused (p : Problem) (cause : Failure) : Failure
/- A failure met while doing what the label names. -/
| during (label : String) (cause : Failure) : Failure
/- A failure that was recognised as a sentinel. -/
| tagged (label : String) (s : Sentinel) (cause : Failure) : Failure
| joined (first second : Failure) : Failure
deriving Repr, Inhabited

namespace Failure

/- The wording of a failure. -/
def text : Failure → String
| .plain text => text
| .sentinel s => s.text
| .refused _ text => "pq: " ++ text
| .shortfall s => s.message
| .problem p => p.message
| .caused p cause => p.message ++ ": " ++ cause.text
| .during label cause => label ++ ": " ++ cause.text
| .tagged label s cause => label ++ ": " ++ s.text ++ ": " ++ cause.text
| .joined first second => first.text ++ "\n" ++ second.text

/- Some problem of the tree has the code. -/
def hasCode (code : String) : Failure → Bool
| .problem p => p.code == code
| .caused p cause => p.code == code || cause.hasCode code
| .during _ cause => cause.hasCode code
| .tagged _ _ cause => cause.hasCode code
| .joined first second => first.hasCode code || second.hasCode code
| _ => false

/- The sentinel stands somewhere in the tree. -/
def hasSentinel (s : Sentinel) : Failure → Bool
| .sentinel t => t == s
| .caused _ cause => cause.hasSentinel s
| .during _ cause => cause.hasSentinel s
| .tagged _ t cause => t == s || cause.hasSentinel s
| .joined first second => first.hasSentinel s || second.hasSentinel s
| _ => false

/- The first shortfall of the tree. -/
def shortfall? : Failure → Option (Plan.Shortfall Float)
| .shortfall s => some s
| .caused _ cause => cause.shortfall?
| .during _ cause => cause.shortfall?
| .tagged _ _ cause => cause.shortfall?
| .joined first second => first.shortfall? <|> second.shortfall?
| _ => none

/- The state named by the first refusal of the tree. -/
def state? : Failure → Option String
| .refused state _ => some state
| .caused _ cause => cause.state?
| .during _ cause => cause.state?
| .tagged _ _ cause => cause.state?
| .joined first second => first.state? <|> second.state?
| _ => none

/- The first problem of the tree, with its own causes. -/
def firstProblem? : Failure → Option (Problem × Option Failure)
| .problem p => some (p, none)
| .caused p cause => some (p, some cause)
| .during _ cause => cause.firstProblem?
| .tagged _ _ cause => cause.firstProblem?
| .joined first second => first.firstProblem? <|> second.firstProblem?
| _ => none

/- A problem with or without a cause. -/
def ofProblem
    (p : Problem) : Option Failure → Failure
| none => .problem p
| some cause => .caused p cause

/-
  The problem a client is answered with, and its cause: the
  first one of the tree, or an internal error.
-/
def answer (f : Failure) : Problem × Option Failure :=
  f.firstProblem?.getD (.internal, some f)

/- The failure whose root is the problem a client is answered with. -/
def normalized (f : Failure) : Failure :=
  ofProblem f.answer.1 f.answer.2

/- Change the problem at the root of a failure; none stands there otherwise. -/
def mapProblem?
    (change : Problem → Problem) : Failure → Option Failure
| .problem p => some (.problem (change p))
| .caused p cause => some (.caused (change p) cause)
| _ => none

/- The names of the named problems that a failure counts as. -/
def names (f : Failure) : List String :=
  (Problem.named.filter (fun (_, p) => f.hasCode p.code)).map (·.1)

/- A problem with its own wording that a failure caused. -/
def wrap
    (p : Problem)
    (message : String)
    (cause : Failure) : Failure :=
  .caused (p.withMessage message) cause

/- A problem with its own wording. -/
def because
    (p : Problem)
    (message : String) : Failure :=
  .problem (p.withMessage message)

end Failure

end Timetable
