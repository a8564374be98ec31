/-
  This file defines locales, such as `pt-BR` or
  `en-u-kn-true`, and their canonical text.

  Key definitions include:
    * `Extension`
    * `Locale`
    * `Locale.fallback`
    * `Locale.setting`
    * `Locale.render`
-/

namespace Timetable.Text

------------------------------------------------------------
-- Locales
------------------------------------------------------------

/-
  A part of a locale under a letter or digit of its own:
  settings under `u`, private use under `x`.
-/
structure Extension where
  singleton : String
  subtags : List String
deriving DecidableEq, Repr

/-
  A locale: a language, where it matters a script, a region
  and variants, and extensions.  A locale for private use
  alone has no language.
-/
structure Locale where
  language : Option String
  script : Option String := none
  region : Option String := none
  variants : List String := []
  extensions : List Extension := []
deriving DecidableEq, Repr

namespace Locale

/- The locale that stands in for one that cannot be read. -/
def fallback : Locale :=
  { language := some "pt", region := some "BR" }

------------------------------------------------------------
-- Settings
------------------------------------------------------------

/-
  The value of a setting: the subtag that follows the key in
  the first extension `u`.  The value of a key without one is
  empty.
-/
def setting
    (l : Locale)
    (key : String) : String :=
  match l.extensions.find? (fun e => e.singleton == "u") with
  | none => ""
  | some e =>
      match e.subtags.dropWhile (· != key) with
      | _ :: value :: _ => if value.length == 2 then "" else value
      | _ => ""

------------------------------------------------------------
-- Canonical Text
------------------------------------------------------------

/- The canonical text of a locale. -/
def render (l : Locale) : String :=
  String.intercalate "-"
    (l.language.toList ++ l.script.toList ++ l.region.toList ++ l.variants ++
      l.extensions.flatMap (fun e => e.singleton :: e.subtags))

end Locale

end Timetable.Text
