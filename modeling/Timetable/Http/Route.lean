import Timetable.Http.Message
import Timetable.Text.Case
import Timetable.Token.Claims
import Timetable.World.Act

/-
  This file defines routes: which requests they take, who may
  make these, and what is done for them.

  Key definitions include:
    * `Pattern`
    * `Pattern.match?`
    * `Exchange`
    * `Route`
    * `bearerToken?`
    * `Route.vet`
    * `findRoute?`
-/

namespace Timetable.Http

------------------------------------------------------------
-- Patterns
------------------------------------------------------------

/- A segment of a path: one fixed text, or any text under a name. -/
inductive Segment where
| fixed (text : String) : Segment
| named (name : String) : Segment
deriving DecidableEq, Repr

/- The paths that a route takes. -/
abbrev Pattern :=
  List Segment

/- A segment as text. -/
def Segment.render : Segment → String
| .fixed text => text
| .named name => ":" ++ name

/- A pattern as text. -/
def Pattern.render (p : Pattern) : String :=
  String.join (p.map (fun s => "/" ++ s.render))

/- The pattern of a text; a segment with a colon in front is named by the rest. -/
def Pattern.ofText (text : String) : Pattern :=
  (Text.split '/' text).tail.map (fun s =>
    match s.toList with
    | ':' :: name => .named (String.ofList name)
    | _ => .fixed s)

/-
  The texts of the named segments, if the segments of a path
  fit a pattern.  The last one may not be empty.
-/
def matchSegments? : Pattern → List String → Option (List (String × String))
| [], [] => some []
| .fixed text :: p, s :: rest => if text == s then matchSegments? p rest else none
| .named name :: p, s :: rest =>
    if s == "" && rest.isEmpty then none
    else (matchSegments? p rest).map ((name, s) :: ·)
| _, _ => none

/- The texts of the named segments, if a path fits a pattern. -/
def Pattern.match?
    (p : Pattern)
    (path : String) : Option (List (String × String)) :=
  match Text.split '/' path with
  | "" :: segments => matchSegments? p segments
  | _ => none

------------------------------------------------------------
-- Routes
------------------------------------------------------------

/- A request that was taken by a route, and what is known about it. -/
structure Exchange where
  request : Request
  requestId : String := ""
  /- The texts of the named segments of the path. -/
  params : List (String × String) := []
  /- The bearer of the token of the request. -/
  caller : Option Token.Claims := none
deriving DecidableEq, Repr

/- The text of a named segment. -/
def Exchange.param
    (e : Exchange)
    (name : String) : String :=
  (e.params.lookup name).getD ""

/- Who makes the request, empty if nobody is known to. -/
def Exchange.callerId (e : Exchange) : String :=
  e.caller.elim "" (·.ownerId)

/- How a route finds out who makes a request. -/
inductive Identification where
/- It does not look. -/
| ignored : Identification
/- A valid token is taken note of. -/
| welcome : Identification
/- Without a valid token the request is refused. -/
| required : Identification
deriving DecidableEq, Repr

/- Who may make a request: the bearers of roles, and maybe the owner it is about. -/
structure Allowance where
  roles : List String
  owner : Bool := false
deriving DecidableEq, Repr

/- A route. -/
structure Route where
  method : String
  pattern : Pattern
  identification : Identification := .ignored
  allowance : Option Allowance := none
  /- What is done to what, for the record of successful requests. -/
  record : Option (String × String) := none
  endpoint : Exchange → Act Response

------------------------------------------------------------
-- Callers
------------------------------------------------------------

/- The token of an authorization header. -/
def bearerToken? (header : String) : Option String :=
  let (scheme, rest) := cutAt ' ' header
  let token := Text.trim rest
  if Text.lower scheme == "bearer" && token != "" then some token else none

/- The bearer of a valid token. -/
def requireCaller
    (verifier : Token.Verifier)
    (nanos : Int)
    (header : String) : Except Failure Token.Claims :=
  if header == "" then .error (.problem .unauthorized)
  else
    match bearerToken? header with
    | none => .error (.because .unauthorized "invalid authorization header")
    | some token => verifier.validate nanos token

/- The bearer of the token of a request, as far as a route wants to know. -/
def Identification.caller
    (verifier : Token.Verifier)
    (nanos : Int)
    (header : String) : Identification → Except Failure (Option Token.Claims)
| .ignored => .ok none
| .welcome => .ok (requireCaller verifier nanos header).toOption
| .required => (requireCaller verifier nanos header).map some

/- A caller is allowed to make a request. -/
def Allowance.check
    (a : Allowance)
    (e : Exchange) : Except Failure Unit :=
  match e.caller with
  | none => .error (.problem .unauthorized)
  | some claims =>
      let target := e.param "ownerId"
      if a.roles.contains claims.role then .ok ()
      else if a.owner && target != "" && target == claims.ownerId then .ok ()
      else .error (.problem .forbidden)

/- The exchange with its caller, who has to be allowed to make the request. -/
def Route.vet
    (route : Route)
    (verifier : Token.Verifier)
    (nanos : Int)
    (e : Exchange) : Except Failure Exchange := do
  let caller ← route.identification.caller verifier nanos (e.request.header "Authorization")
  let e := { e with caller := caller }
  match route.allowance with
  | none => return e
  | some allowance =>
      allowance.check e
      return e

------------------------------------------------------------
-- Finding Routes
------------------------------------------------------------

/- The first route that takes a request, with the texts of its named segments. -/
def findRoute?
    (routes : List Route)
    (method path : String) : Option (Route × List (String × String)) :=
  routes.findSome? (fun route =>
    if route.method == method then
      (route.pattern.match? path).map (fun params => (route, params))
    else none)

end Timetable.Http
