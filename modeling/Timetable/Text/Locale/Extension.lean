import Timetable.Text.Locale.Basic
import Timetable.Text.Subtag.Language
import Timetable.Text.Subtag.Region
import Timetable.Text.Subtag.Script

/-
  This file reads the parts of a locale from its subtags, in
  lower case: the language with its script, region and
  variants, and the extensions after them.  Every reader gives
  back the subtags that it leaves.

  Key definitions include:
    * `Head`
    * `readHead`
    * `readSettings`
    * `readTransform`
    * `readExtensions`
-/

namespace Timetable.Text.Locale

------------------------------------------------------------
-- Subtags
------------------------------------------------------------

/- A subtag in lower case. -/
def lowered (s : String) : String :=
  s.map Char.toLower

/- A subtag in capitals. -/
private def raised (s : String) : String :=
  s.map Char.toUpper

/- A subtag with a first capital. -/
private def titled (s : String) : String :=
  match s.toList with
  | [] => ""
  | c :: rest => String.ofList (c.toUpper :: rest)

/- A subtag has a letter at a place. -/
private def hasLetterAt
    (i : Nat)
    (s : String) : Bool :=
  s.toList[i]?.any Char.isAlpha

------------------------------------------------------------
-- Language, Script, Region and Variants
------------------------------------------------------------

/- What a locale starts with. -/
structure Head where
  language : String
  script : Option String
  region : Option String
  variants : List String
deriving DecidableEq, Repr

/- A language may be followed by further languages of three letters. -/
private def isFurther (s : String) : Bool :=
  s.length == 3 && hasLetterAt 0 s

/-
  Each further language must be known, and takes the place
  of the one before it; `und` takes no place.
-/
private def readFurther :
    String → List String → Option (String × List String)
| language, [] => some (language, [])
| language, s :: rest =>
    if isFurther s then
      match Subtag.language? s with
      | none => none
      | some code => readFurther (if code == "und" then language else code) rest
    else
      some (language, s :: rest)

/- Read the script, if one comes next. -/
private def readScript
    (subtags : List String) : Option (Option String × List String) :=
  match subtags with
  | [] => some (none, [])
  | s :: rest =>
      if s.length == 4 && hasLetterAt 0 s then
        (Subtag.script? (titled s)).map (fun name => (some name, rest))
      else
        some (none, subtags)

/- Read the region, if one comes next. -/
private def readRegion
    (subtags : List String) : Option (Option String × List String) :=
  match subtags with
  | [] => some (none, [])
  | s :: rest =>
      if s.length == 2 || s.length == 3 then
        (Subtag.region? (raised s)).map (fun code => (some code, rest))
      else
        some (none, subtags)

/- Read the variants with their ranks. -/
private def readRanked :
    List String → Option (List (Nat × String) × List String)
| [] => some ([], [])
| s :: rest =>
    if s.length < 4 then some ([], s :: rest)
    else do
      let rank ← Subtag.variantRank? s
      let (more, rest) ← readRanked rest
      return ((rank, s) :: more, rest)

/- Keep one of each variant; equal ones are neighbours. -/
private def withoutRepeats : List (Nat × String) → List (Nat × String)
| a :: b :: rest =>
    if a == b then withoutRepeats (b :: rest) else a :: withoutRepeats (b :: rest)
| rest => rest

/- Read the variants, which end up by rank and each once. -/
private def readVariants
    (subtags : List String) : Option (List String × List String) :=
  (readRanked subtags).map fun (ranked, rest) =>
    ((withoutRepeats (ranked.mergeSort (fun a b => decide (a.1 ≤ b.1)))).map (·.2),
      rest)

/- Read the script, the region and the variants after a language. -/
private def readAfter
    (language : String)
    (subtags : List String) : Option (Head × List String) := do
  let (script, rest) ← readScript subtags
  let (region, rest) ← readRegion rest
  let (variants, rest) ← readVariants rest
  return ({ language, script, region, variants }, rest)

/- Read the language of a locale, and what belongs to it. -/
def readHead (subtags : List String) : Option (Head × List String) :=
  match subtags with
  | [] => none
  | s :: rest => do
      let language ← Subtag.language? s
      let (language, rest) ← readFurther language rest
      readAfter language rest

------------------------------------------------------------
-- Settings
------------------------------------------------------------

/- Group subtags under their keys, which have two characters. -/
private def readKeys : List String → List (List String)
| [] => []
| s :: rest =>
    match readKeys rest with
    | [] => [[s]]
    | group :: groups =>
        if group.head?.any (fun t => t.length == 2) then [s] :: group :: groups
        else (s :: group) :: groups

/-
  Keep one of each setting; equal keys are neighbours.  One
  key with two values cannot be read.
-/
private def mergeKeys? : List (List String) → Option (List (List String))
| a :: b :: rest =>
    if a.head? == b.head? then
      if a == b then mergeKeys? (b :: rest) else none
    else
      (mergeKeys? (b :: rest)).map (a :: ·)
| rest => some rest

/-
  Read the extension `u`: attributes, by their first three
  characters, and settings, by their key.
-/
def readSettings
    (subtags : List String) : Option (List String × List String) :=
  let body := subtags.takeWhile (fun s => s.length != 1)
  let attributes := body.takeWhile (fun s => s.length != 2)
  let groups := readKeys (body.dropWhile (fun s => s.length != 2))
  let start (s : String) : String := String.ofList (s.toList.take 3)
  (mergeKeys? (groups.mergeSort (fun a b => decide (a.headD "" ≤ b.headD "")))).map
    fun settings =>
      (attributes.mergeSort (fun a b => decide (start a ≤ start b)) ++
        settings.flatten,
        subtags.dropWhile (fun s => s.length != 1))

------------------------------------------------------------
-- Transforms
------------------------------------------------------------

/- The subtags of what a transform starts from, in lower case. -/
private def headSubtags
    (further : List String)
    (h : Head) : List String :=
  (h.language :: further ++ h.script.toList ++ h.region.toList ++ h.variants).map
    lowered

/-
  Read the locale that a transform starts from.  Further
  languages are kept as they are.
-/
private def readSource
    (subtags : List String) : Option (List String × List String) :=
  match subtags with
  | [] => some ([], [])
  | s :: rest =>
      if (s.length == 2 || s.length == 3) && hasLetterAt 1 s then do
        let language ← Subtag.language? s
        let (h, left) ← readAfter language (rest.dropWhile isFurther)
        return (headSubtags (rest.takeWhile isFurther) h, left)
      else
        some ([], subtags)

/- A field of a transform: a key that ends in a digit, and its values. -/
private def isFieldKey (s : String) : Bool :=
  s.length == 2 && !hasLetterAt 1 s

/- Read the fields of a transform; `within` holds after a first key. -/
private def readFields
    (within : Bool) : List String → List String × List String
| [] => ([], [])
| s :: rest =>
    if isFieldKey s || (within && decide (3 ≤ s.length)) then
      let (fields, left) := readFields true rest
      (s :: fields, left)
    else
      ([], s :: rest)

/- Read the extension `t`: what is transformed, and fields that say how. -/
def readTransform
    (subtags : List String) : Option (List String × List String) :=
  (readSource subtags).map fun (source, rest) =>
    let (fields, left) := readFields false rest
    (source ++ fields, left)

------------------------------------------------------------
-- Extensions
------------------------------------------------------------

/- Read the subtags under a singleton. -/
private def readBody
    (singleton : String)
    (subtags : List String) : Option (List String × List String) :=
  if singleton == "x" then some (subtags, [])
  else if singleton == "u" then readSettings subtags
  else if singleton == "t" then readTransform subtags
  else
    some (subtags.takeWhile (fun s => s.length != 1),
      subtags.dropWhile (fun s => s.length != 1))

/-
  Read extensions as long as a singleton comes next.  Each
  has at least one subtag of its own.
-/
private def readEach : Nat → List String → Option (List Extension × List String)
| 0, subtags => some ([], subtags)
| _, [] => some ([], [])
| fuel + 1, s :: rest =>
    if s.length == 1 then do
      let (body, rest) ← readBody s rest
      if body.isEmpty then none
      else
        let (more, left) ← readEach fuel rest
        return (⟨s, body⟩ :: more, left)
    else
      some ([], s :: rest)

/- Extensions stand by their singleton, and private use last. -/
private def singletonOrder (a b : Extension) : Bool :=
  b.singleton == "x" || (a.singleton != "x" && decide (a.singleton ≤ b.singleton))

/- Read the extensions of a locale, and put them in order. -/
def readExtensions
    (subtags : List String) : Option (List Extension × List String) :=
  (readEach subtags.length subtags).map fun (extensions, left) =>
    (extensions.mergeSort singletonOrder, left)

end Timetable.Text.Locale
