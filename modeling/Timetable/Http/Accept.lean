import Timetable.Http.Target

/-
  This file reads which media types a client accepts, and
  chooses the form of the page of figures from them.

  Key definitions include:
    * `MediaRange`
    * `mediaRanges`
    * `figuresType`
-/

namespace Timetable.Http

------------------------------------------------------------
-- Accepted Media Types
------------------------------------------------------------

/- Media types that a client accepts, with parameters and a weight. -/
structure MediaRange where
  kind : String
  subkind : String
  params : List (String × String) := []
  weight : Float := 1
deriving Repr

/- Drop the spaces at both ends of a text. -/
private def trimSpaces (s : String) : String :=
  String.ofList (Text.trimList (· == ' ') s.toList)

/- The nonempty parts of a text between marks, but for empty parts that others follow. -/
private def partsAt
    (mark : Char)
    (s : String) : List String :=
  let parts := Text.split mark s
  if parts.getLast? == some "" then parts.dropLast else parts

/- The two halves of a text around its only mark; the second is not empty. -/
private def halves?
    (mark : Char)
    (s : String) : Option (String × String) :=
  match partsAt mark s with
  | [a, b] => some (a, b)
  | _ => none

/- A range with one more of its parameters; one without a value is passed over. -/
private def MediaRange.withParam
    (r : MediaRange)
    (param : String) : MediaRange :=
  match halves? '=' param with
  | none => r
  | some (name, value) =>
      if trimSpaces name == "q" then
        { r with weight := (Decimal.readFloat? value).getD 0 }
      else
        { r with params := r.params ++ [(trimSpaces name, trimSpaces value)] }

/- The range of a text: a kind and a subkind, or a star for everything. -/
private def mediaRange? (s : String) : Option MediaRange :=
  match Text.split ';' (trimSpaces s) with
  | [] => none
  | name :: params =>
      let start : Option MediaRange :=
        match halves? '/' name with
        | some (kind, subkind) => some { kind := trimSpaces kind, subkind := trimSpaces subkind }
        | none =>
            if (partsAt '/' name).map trimSpaces == ["*"] then some { kind := "*", subkind := "*" }
            else none
      start.map (fun r => params.foldl MediaRange.withParam r)

/- A range is preferred to another: by its weight, or for saying more. -/
def MediaRange.precedes
    (a b : MediaRange) : Bool :=
  decide (b.weight < a.weight) || (a.kind != "*" && b.kind == "*") ||
    (a.subkind != "*" && b.subkind == "*")

/- Put a range in front of those at the end of a list that it precedes. -/
private def insertRange
    (ranges : List MediaRange)
    (r : MediaRange) : List MediaRange :=
  let behind := ranges.reverse.takeWhile r.precedes
  ranges.take (ranges.length - behind.length) ++ r :: behind.reverse

/- The ranges of a header, the preferred ones first. -/
def mediaRanges (header : String) : List MediaRange :=
  ((partsAt ',' header).filterMap mediaRange?).foldl insertRange []

------------------------------------------------------------
-- The Page of Figures
------------------------------------------------------------

/- The ways to write names that are not plain. -/
def escapings : List String :=
  ["allow-utf-8", "underscores", "dots", "values"]

/- The last value of a parameter. -/
def MediaRange.param
    (r : MediaRange)
    (name : String) : String :=
  (r.params.reverse.lookup name).getD ""

/-
  The way to write names that a client wants: ranges are
  looked at up to the first one for the plain text form.
-/
def chooseEscaping : String → List MediaRange → String
| chosen, [] => chosen
| chosen, r :: rest =>
    let wanted := r.param "escaping"
    let chosen := if escapings.contains wanted then wanted else chosen
    let version := r.param "version"
    if r.kind == "text" && r.subkind == "plain" && (version == "" || version == "0.0.4") then
      chosen
    else chooseEscaping chosen rest

/- The media type of the page of figures. -/
def figuresType (accept : String) : String :=
  "text/plain; version=0.0.4; charset=utf-8; escaping=" ++
    chooseEscaping "values" (mediaRanges accept)

end Timetable.Http
