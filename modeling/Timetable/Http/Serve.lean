import Timetable.Http.CrossOrigin
import Timetable.Http.Redirect

/-
  This file serves requests: it numbers them, answers
  browsers, finds the route, measures, and keeps the logs.

  Key definitions include:
    * `Site`
    * `requestIdOf?`
    * `Site.dispatch`
    * `Site.answer`
    * `Site.serve`
-/

namespace Timetable.Http

------------------------------------------------------------
-- Sites
------------------------------------------------------------

/- What requests are served with. -/
structure Site where
  verifier : Token.Verifier
  policy : OriginPolicy := {}
  routes : List Route

------------------------------------------------------------
-- Request Ids
------------------------------------------------------------

/- The longest id that a client may choose, in bytes. -/
def longestRequestId : Nat := 128

/- The id that a client chose, if it is short and printable. -/
def requestIdOf? (header : String) : Option String :=
  let id := Text.trim header
  if id != "" && decide (id.utf8ByteSize ≤ longestRequestId) &&
      id.toList.all (fun c => decide (0x21 ≤ c.toNat ∧ c.toNat ≤ 0x7E)) then
    some id
  else none

/- The id of a request: the chosen one, or a new one. -/
def assignRequestId (r : Request) : Act String :=
  match requestIdOf? (r.header "X-Request-ID") with
  | some id => return id
  | none => Act.newId

------------------------------------------------------------
-- Logs
------------------------------------------------------------

/- Record a request that a route wants to have recorded and that succeeded. -/
def recordSuccess
    (route : Route)
    (e : Exchange)
    (status nanos : Int) : Act Unit :=
  match route.record with
  | none => return ()
  | some (action, resource) =>
      if 400 ≤ status then return ()
      else
        Act.logEntry
          { logger := "audit", level := .info, message := "audit"
            fields :=
              [("action", .str action), ("resource", .str resource),
                ("path", .str route.pattern.render), ("method", .str e.request.method),
                ("status", .int status), ("latency_ms", .int (nanos / 1000000)),
                ("ip", .str e.request.clientAddress),
                ("user_agent", .str (e.request.header "User-Agent"))] ++
              (if e.param "id" == "" then [] else [("resource_id", .str (e.param "id"))]) ++
              (match e.caller with
              | none => []
              | some claims => [("user_id", .str claims.ownerId)]) }

/- How grave the outcome of a request is. -/
def levelOf (status : Int) : Level :=
  if 500 ≤ status then .error
  else if 400 ≤ status then .warn
  else .info

/- Errors as a numbered list. -/
def numberedErrors (errors : List String) : String :=
  String.join (errors.zipIdx.map (fun (text, i) =>
    let number := toString (i + 1)
    "Error #" ++ (if number.length < 2 then "0" ++ number else number) ++ ": " ++ text ++ "\n"))

/- Log a request with its outcome. -/
def logRequest
    (r : Request)
    (requestId : String)
    (response : Response)
    (nanos : Int) : Act Unit :=
  Act.logEntry
    { level := levelOf response.status, message := "http_request"
      fields :=
        [("method", .str r.method), ("path", .str r.target.path),
          ("status", .int response.status), ("latency", .int nanos),
          ("ip", .str r.clientAddress), ("request_id", .str requestId)] ++
        (match r.trace with
        | none => []
        | some trace => [("trace_id", .str trace)]) ++
        if response.errors.isEmpty then []
        else [("errors", .str (numberedErrors response.errors))] }

------------------------------------------------------------
-- Serving
------------------------------------------------------------

/- The answer to a request that no route takes. -/
def pageNotFound : Response :=
  { status := 404
    headers := [Response.mediaType "text/plain"]
    content := .document (.text "404 page not found") }

/- Answer a request that a route takes. -/
def Site.dispatch
    (site : Site)
    (route : Route)
    (e : Exchange) : Act Response := do
  match route.vet site.verifier (← Act.stopwatch) e with
  | .error f => return .refusal e.requestId f
  | .ok e =>
      let (response, nanos) ← Act.timed (do
        match ← Act.attempt (route.endpoint e) with
        | .ok response => return response
        | .error f => return .refusal e.requestId f)
      recordSuccess route e response.status nanos
      return response

/- Answer a request and measure the answer; `unmatched` is the name of no route. -/
def Site.answer
    (site : Site)
    (r : Request)
    (requestId : String) : Act Response := do
  let found := findRoute? site.routes r.method r.target.path
  let (response, nanos) ← Act.timed (do
    match found with
    | none => return pageNotFound
    | some (route, params) =>
        site.dispatch route { request := r, requestId := requestId, params := params })
  let path := found.elim "unmatched" (·.1.pattern.render)
  Act.measure (·.observeRequest r.method path response.status nanos)
  return response

/- Answer a request as its origin allows. -/
def Site.answerOrigin
    (site : Site)
    (r : Request)
    (requestId : String) : Act Response := do
  let grant := site.policy.grant? (r.header "Origin")
  if r.method == "OPTIONS" then
    return site.policy.preflight grant
  let response ← site.answer r requestId
  return { response with headers := grant.getD [] ++ response.headers }

/- Serve a request. -/
def Site.serve
    (site : Site)
    (r : Request) : Act Response := do
  match redirection? site.routes r with
  | some response => return response
  | none =>
      let requestId ← assignRequestId r
      modify (fun w => { w with context := { w.context with requestId := requestId } })
      let (response, nanos) ← Act.timed (site.answerOrigin r requestId)
      logRequest r requestId response nanos
      let headers := [("Vary", "Origin"), ("X-Request-Id", requestId)]
      return { response with headers := headers ++ response.headers }

end Timetable.Http
