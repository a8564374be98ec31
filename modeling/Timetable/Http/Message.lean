import Timetable.Export.Dataset
import Timetable.Failure
import Timetable.Http.Address
import Timetable.Http.Target
import Timetable.Json.Decode
import Timetable.Json.Reader
import Timetable.Text.Quoted

/-
  This file defines requests and the responses to them.

  Key definitions include:
    * `Request`
    * `Request.header`
    * `Request.clientAddress`
    * `Request.decode`
    * `Response`
    * `Response.success`
    * `Response.refusal`
    * `Response.attachment`
-/

namespace Timetable.Http

------------------------------------------------------------
-- Requests
------------------------------------------------------------

/- A request. -/
structure Request where
  method : String
  target : Target
  headers : List (String × String) := []
  body : String := ""
  /- The address that the request came from directly. -/
  peer : String := ""
  /- The trace that the request belongs to, if there is one. -/
  trace : Option String := none
deriving DecidableEq, Repr

/- A header name as it is compared. -/
private def foldedName (name : String) : List Char :=
  name.toList.map Decimal.lowerAscii

/- The first value of a header, empty if there is none. -/
def Request.header
    (r : Request)
    (name : String) : String :=
  ((r.headers.find? (fun h => foldedName h.1 == foldedName name)).map (·.2)).getD ""

/-
  The address of the client: what proxies tell of it counts
  before the address that the request came from.
-/
def Request.clientAddress (r : Request) : String :=
  let told := forwardedAddress? (r.header "X-Forwarded-For") <|>
    forwardedAddress? (r.header "X-Real-IP")
  told.getD r.peer

/- A trace has 32 lower hexadecimal digits that are not all zero. -/
def trace? (text : String) : Option String :=
  let digits := text.toList
  if digits.length == 32 && digits.all (fun c => Decimal.isDigitIn 16 c && !c.isUpper) &&
      digits.any (· != '0') then
    some text
  else none

/- Decode the first JSON value of the body; the message tells what could not be read. -/
def Request.decode
    {α : Type}
    (r : Request)
    (message : String)
    (decoder : Json.Decoder α)
    (blank : α) : Except Failure α :=
  match Json.first r.body with
  | .error fault => .error (.wrap .validation message (.plain fault.message))
  | .ok v =>
      match decoder v blank with
      | none => .error (.wrap .validation message (.plain "value of another kind"))
      | some a => .ok a

------------------------------------------------------------
-- Responses
------------------------------------------------------------

/- What a response carries. -/
inductive Content where
| empty : Content
| json (v : Json) : Content
| document (d : Export.Document) : Content
deriving Repr, Inhabited

/- A response. -/
structure Response where
  status : Int
  headers : List (String × String) := []
  content : Content := .empty
  /- What went wrong on the way and is only to be logged. -/
  errors : List String := []
deriving Repr, Inhabited

namespace Response

/- The header that keeps a response out of caches. -/
def uncached : String × String :=
  ("Cache-Control", "no-store")

/- The header that names a media type. -/
def mediaType (name : String) : String × String :=
  ("Content-Type", name)

/- A JSON value; one that cannot be written leaves the response empty. -/
def json
    (status : Int)
    (v : Json) : Response :=
  { status := status
    headers := [mediaType "application/json; charset=utf-8"]
    content := if v.refusal?.isSome then .empty else .json v
    errors := v.refusal?.toList }

/- A JSON value that no cache keeps. -/
def freshJson
    (status : Int)
    (v : Json) : Response :=
  let r := json status v
  { r with headers := [uncached, ("Pragma", "no-cache")] ++ r.headers }

/- A page of a longer list. -/
structure Pagination where
  page : Int
  pageSize : Int
  totalCount : Int
deriving DecidableEq, Repr

/- A page as JSON. -/
def Pagination.toJson (p : Pagination) : Json :=
  .obj
    [("page", .int p.page), ("page_size", .int p.pageSize),
      ("total_count", .int p.totalCount)]

/- Facts about an answer, left out when there are none. -/
private def metaMember (facts : List (String × Json)) : List (String × Json) :=
  if facts.isEmpty then [] else [("meta", .obj facts)]

/- An answer with its data. -/
def success
    (status : Int)
    (data : Json)
    (facts : List (String × Json) := [])
    (pagination : Option Pagination := none) : Response :=
  freshJson status
    (.obj
      ([("data", data)] ++
        (match pagination with
        | none => []
        | some p => [("pagination", p.toJson)]) ++
        metaMember facts))

/- What a client is told about a failure. -/
def refusal
    (requestId : String)
    (f : Failure) : Response :=
  let p := f.answer.1
  freshJson p.status
    (.obj
      ([("error", p.toJson)] ++
        metaMember (if requestId == "" then [] else [("request_id", .str requestId)])))

/- A file to be saved. -/
def attachment (file : Export.ExportFile) : Response :=
  { status := 200
    headers :=
      [uncached,
        ("Content-Disposition", "attachment; filename=" ++ Text.quoted file.filename),
        mediaType file.contentType]
    content := .document file.body }

/- Nothing to tell. -/
def noContent : Response :=
  { status := 204 }

end Response

end Timetable.Http
