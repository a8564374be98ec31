import Timetable.Decimal.Whole
import Timetable.Http.Message
import Timetable.Metrics.Histogram

/-
  This file tells browsers which other sites may use the API.

  Key definitions include:
    * `OriginPolicy`
    * `OriginPolicy.grant?`
    * `OriginPolicy.preflight`
-/

namespace Timetable.Http

------------------------------------------------------------
-- Policies
------------------------------------------------------------

/-
  The origins that may use the API; without any, all may.
  The age is how long a browser may rely on an answer, in
  nanoseconds.
-/
structure OriginPolicy where
  origins : List String := []
  maxAge : Int := 0
deriving DecidableEq, Repr

/- The form in which origins are compared: slashes at the end do not count. -/
def originName (origin : String) : String :=
  Text.trimRight '/' origin

/-
  The headers that let an origin in, if it is let in.
  Credentials are only granted to an origin that is listed.
-/
def OriginPolicy.grant?
    (p : OriginPolicy)
    (origin : String) : Option (List (String × String)) :=
  let exposed := ("Access-Control-Expose-Headers", "X-Request-ID, Content-Disposition")
  let name := originName origin
  if p.origins.isEmpty then
    some [("Access-Control-Allow-Origin", "*"), exposed]
  else if name != "" && (p.origins.map originName).contains name then
    some
      [("Access-Control-Allow-Origin", name), ("Access-Control-Allow-Credentials", "true"),
        exposed]
  else none

/- The answer to a browser that asks before it sends a request. -/
def OriginPolicy.preflight
    (p : OriginPolicy) : Option (List (String × String)) → Response
| none => { status := 403 }
| some granted =>
    { status := 204
      headers := granted ++
        [("Access-Control-Allow-Headers",
            "Authorization, Content-Type, X-Requested-With, X-Request-ID, traceparent"),
          ("Access-Control-Allow-Methods", "GET, POST, PUT, PATCH, DELETE, OPTIONS")] ++
        if 0 < p.maxAge then
          [("Access-Control-Max-Age",
            toString (Decimal.wholePart (Metrics.secondsOf p.maxAge)))]
        else [] }

end Timetable.Http
