import Timetable.Text.Collation.Alphabet
import Timetable.Text.Locale.Basic

/-
  This file says what a locale cuts texts into: letters of
  which alphabet, and numbers or digits.

  Key definitions include:
    * `Tailoring`
    * `Tailoring.ofLocale`
-/

namespace Timetable.Text

------------------------------------------------------------
-- Tailorings
------------------------------------------------------------

/-
  What matters for the elements of a text: the alphabet,
  whether anything is weighed at all, and whether runs of
  digits compare by their value.
-/
structure Tailoring where
  alphabet : Alphabet
  weighs : Bool
  numeric : Bool
deriving DecidableEq, Repr

------------------------------------------------------------
-- The Alphabet of a Locale
------------------------------------------------------------

/- The languages that regions are known for, where they have an alphabet. -/
private def regionLanguages : List (String × String) :=
  wordPairs
    ("AL-sq XK-sq AX-sv SE-sv AZ-az BA-bs CZ-cs DK-da EE-et FI-fi FO-fo GL-kl " ++
    "HR-hr HU-hu IS-is LT-lt LV-lv MD-ro RO-ro NE-ha PH-fil PL-pl SK-sk TO-to " ++
    "TR-tr VN-vi ME-sr RS-sr AR-es BO-es CL-es CO-es CR-es CU-es DO-es EA-es " ++
    "EC-es ES-es GQ-es GT-es HN-es IC-es MX-es NI-es PA-es PE-es PR-es SV-es " ++
    "UY-es VE-es")

/- Languages that sort as part of a wider one. -/
private def widerLanguages : List (String × String) :=
  wordPairs "als-sq azj-az ekk-et gaz-om lvs-lv"

/-
  The language by which a locale sorts.  The region stands in
  for a language that is not said, unless the script is
  another one.
-/
private def sortLanguage (l : Locale) : String :=
  let code := l.language.getD "und"
  if code == "und" && l.script.all (· == "Latn") then
    lookup regionLanguages (l.region.getD "")
  else
    lookup widerLanguages code

/- A locale writes Serbian in Latin letters. -/
private def isLatinSerbian
    (language : String)
    (l : Locale) : Bool :=
  language == "sr" &&
    match l.script with
    | some s => s == "Latn"
    | none => l.region.any (fun r => ["ME", "RO", "TR"].contains r)

/- The names of alphabets that suit a locale, the best one first. -/
private def alphabetNames (l : Locale) : List String :=
  let language := sortLanguage l
  [language ++ "-" ++ l.setting "co"] ++
    (if isLatinSerbian language l then ["sr-Latn"] else []) ++ [language]

/- The alphabet of a locale; most have none in particular. -/
private def localeAlphabet (l : Locale) : Alphabet :=
  if l.language == some "en" && l.region == some "US" && l.setting "va" == "posix" then
    Alphabet.byCode
  else
    match (alphabetNames l).findSome?
        (fun name => alphabets.find? (fun a => a.1 == name)) with
    | some (_, rules) => Alphabet.ofRules rules
    | none => []

/- The tailoring of a locale, from its language and settings. -/
def Tailoring.ofLocale (l : Locale) : Tailoring where
  alphabet := localeAlphabet l
  weighs := l.setting "ka" != "shifted"
  numeric := l.setting "kn" == "true"

end Timetable.Text
