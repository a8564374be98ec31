import Timetable.Http.Tree

/-
  This file sends requests that miss a route by the slash at
  the end of their path to the path with the other slash.

  Key definitions include:
    * `cleanPath`
    * `forwardedStart?`
    * `otherSlash`
    * `Target.location`
    * `redirection?`
-/

namespace Timetable.Http

------------------------------------------------------------
-- Paths
------------------------------------------------------------

/-
  The segments of a path without empty ones, dots, and
  segments that are left again.  Kept segments stand in
  reverse order; above the root there is nothing.
-/
private def resolveSegments
    (rooted : Bool) : List String → List String → List String
| kept, [] => kept.reverse
| kept, s :: rest =>
    if s == "" || s == "." then resolveSegments rooted kept rest
    else if s == ".." then
      match kept with
      | [] => resolveSegments rooted (if rooted then [] else [s]) rest
      | last :: others =>
          resolveSegments rooted (if last == ".." then s :: kept else others) rest
    else resolveSegments rooted (s :: kept) rest

/- The shortest path that leads to the same place; nowhere is a dot. -/
def cleanPath (path : String) : String :=
  let rooted := path.startsWith "/"
  let resolved := String.intercalate "/" (resolveSegments rooted [] (Text.split '/' path))
  if rooted then "/" ++ resolved
  else if resolved == "" then "."
  else resolved

/- A character may stand in the part of a path that a proxy adds. -/
private def isStartChar (c : Char) : Bool :=
  c.isAlphanum || c == '/' || c == '-'

/- One slash for every run of slashes. -/
private def singleSlashes : List Char → List Char
| '/' :: '/' :: rest => singleSlashes ('/' :: rest)
| c :: rest => c :: singleSlashes rest
| [] => []

/- What a proxy took off the start of the path. -/
def forwardedStart? (header : String) : Option String :=
  let start := cleanPath header
  if start == "." then none
  else some (String.ofList (singleSlashes (start.toList.filter isStartChar)))

/- The same path with one slash more or less at its end. -/
def otherSlash (path : String) : String :=
  match path.toList.reverse with
  | '/' :: c :: rest => String.ofList (c :: rest).reverse
  | _ => path ++ "/"

------------------------------------------------------------
-- Locations
------------------------------------------------------------

/- The path names a host, as one after two slashes does. -/
private def namesHost (path : String) : Bool :=
  match path.toList with
  | '/' :: '/' :: c :: _ => c != '/'
  | _ => false

/- The directory of a path, with its slash. -/
private def directory (path : String) : String :=
  String.ofList (path.toList.reverse.dropWhile (· != '/')).reverse

/- A path made clean, with the slash at its end kept. -/
private def cleanKeepingSlash (path : String) : String :=
  let clean := cleanPath path
  if path.endsWith "/" && !clean.endsWith "/" then clean ++ "/" else clean

/- The place of a target under another path. -/
def Target.location
    (t : Target)
    (path : String) : String :=
  let query := if t.isQueried then "?" ++ t.rawQuery else ""
  let escaped := escapePath path
  if t.origin != "" then
    t.origin ++ (if t.hasHost && !escaped.startsWith "/" then "/" else "") ++ escaped ++ query
  else if namesHost escaped then escaped ++ query
  else if escaped.startsWith "/" then cleanKeepingSlash escaped ++ query
  else cleanKeepingSlash (directory path ++ escaped) ++ query

/- A location as a header carries it: bytes beyond ASCII are escaped. -/
def headerLocation (location : String) : String :=
  String.join ((Text.bytesOf location).map (fun b =>
    if b < 0x80 then (Char.ofNat b.toNat).toString
    else "%" ++ Text.hexText 2 b.toNat))

/- A character in a page. -/
private def pageChar (c : Char) : String :=
  match c.toNat with
  | 0x26 => "&amp;"
  | 0x3C => "&lt;"
  | 0x3E => "&gt;"
  | 0x22 => "&#34;"
  | 0x27 => "&#39;"
  | _ => c.toString

/- A page with a link to a location. -/
def linkPage (location : String) : String :=
  "<a href=\"" ++ String.join (location.toList.map pageChar) ++
    "\">Moved Permanently</a>.\n\n"

/- Send a client to another place; only one that asked for a page gets one. -/
def redirectTo
    (method location : String) : Response :=
  let header := ("Location", headerLocation location)
  if method == "GET" then
    { status := 301
      headers := [header, Response.mediaType "text/html; charset=utf-8"]
      content := .document (.text (linkPage location)) }
  else
    { status := 307, headers := [header] }

/-
  The redirection of a request that is thought to miss a
  route only by the slash at the end of its path.
-/
def redirection?
    (routes : List Route)
    (r : Request) : Option Response :=
  let patterns := (routes.filter (fun route => route.method == r.method)).map (·.pattern)
  if r.target.path == "/" || !missesBySlash patterns r.target.path then none
  else
    let path :=
      match forwardedStart? (r.header "X-Forwarded-Prefix") with
      | none => r.target.path
      | some start => start ++ "/" ++ r.target.path
    some (redirectTo r.method (r.target.location (otherSlash path)))

end Timetable.Http
