import Timetable.Configuration.Duration
import Timetable.Configuration.Lines
import Timetable.Configuration.Statements
import Timetable.Text.Case

/-
  This file finds the values of settings: variables of the
  process count before the settings file, and this before the
  usual values.

  Key definitions include:
    * `Sources`
    * `Sources.read?`
    * `Sources.find?`
    * `Sources.text`
    * `Sources.integer`
    * `Sources.flag`
    * `Sources.number`
    * `Sources.duration`
-/

namespace Timetable.Configuration

------------------------------------------------------------
-- Sources
------------------------------------------------------------

/- Where settings come from.  Names in the file are in lower case. -/
structure Sources where
  bindings : List (String × String) := []
  file : List (String × String) := []
deriving DecidableEq, Repr

/-
  Read the sources.  What the statements of the file set
  becomes a variable of the process, unless there is one of
  that name.  A file with a malformed line is refused.
-/
def Sources.read?
    (bindings : List (String × String)) : Option String → Option Sources
| none => some { bindings := bindings }
| some file => do
    let exported := ((statements? file).getD []).reverse.filter (fun (name, _) =>
      name != "" && (bindings.lookup name).isNone)
    let bindings := bindings ++ exported
    let entries ← readLines? bindings file
    let lowered := entries.reverse.map (fun (name, value) => (Text.lower name, value))
    return { bindings := bindings, file := lowered }

/- The text of a setting; an empty variable does not count. -/
def Sources.find?
    (s : Sources)
    (name : String) : Option String :=
  (s.bindings.lookup name).filter (· != "") <|> s.file.lookup (Text.lower name)

------------------------------------------------------------
-- Values
------------------------------------------------------------

/- A text. -/
def Sources.text
    (s : Sources)
    (name usual : String) : String :=
  (s.find? name).getD usual

/-
  Drop a point and zeros from a number that is given
  backwards; at least one zero has to stand there.
-/
def dropZeroPlaces? (zeroSeen : Bool) : List Char → Option (List Char)
| [] => none
| c :: rest =>
    if c == '0' then dropZeroPlaces? true rest
    else if c != '.' then none
    else if zeroSeen then some rest
    else dropZeroPlaces? false rest

/- The whole number that a text stands for, zero if it stands for none. -/
def integerOf (text : String) : Int :=
  let digits := text.toList.reverse
  let whole := (dropZeroPlaces? false digits).getD digits
  (Decimal.readPrefixedInteger? (String.ofList whole.reverse)).getD 0

/- A whole number. -/
def Sources.integer
    (s : Sources)
    (name : String)
    (usual : Int) : Int :=
  (s.find? name).elim usual integerOf

/- A truth value; what is not known to mean `true` means `false`. -/
def Sources.flag
    (s : Sources)
    (name : String)
    (usual : Bool) : Bool :=
  (s.find? name).elim usual (["1", "t", "T", "TRUE", "true", "True"].contains ·)

/- A number, zero if the text is none. -/
def Sources.number
    (s : Sources)
    (name : String)
    (usual : Float) : Float :=
  (s.find? name).elim usual (fun text => (Decimal.readFloat? text).getD 0)

/- A duration; a malformed one is replaced by the usual one. -/
def Sources.duration
    (s : Sources)
    (name : String)
    (usual : Int) : Int :=
  ((s.find? name).bind readDuration?).getD usual

/- A duration that needs no unit for nanoseconds; a malformed one is zero. -/
def Sources.age
    (s : Sources)
    (name : String)
    (usual : Int) : Int :=
  (s.find? name).elim usual (fun text =>
    let hasUnit := text.toList.any ("nsu\u00B5mh".toList.contains ·)
    (readDuration? (if hasUnit then text else text ++ "ns")).getD 0)

/- The parts of a list with commas, without blank ones; no text is no list. -/
def Sources.parts?
    (s : Sources)
    (name : String) : Option (List String) :=
  let text := s.text name ""
  if text == "" then none
  else some (((Text.split ',' text).map Text.trim).filter (· != ""))

end Timetable.Configuration
