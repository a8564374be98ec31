import Timetable.Text.Locale.Extension

/-
  This file reads locales from text, and puts them into
  canonical form.

  Key definitions include:
    * `wholeTags`
    * `Locale.canonical`
    * `Locale.read?`
    * `Locale.ofText`
-/

namespace Timetable.Text.Locale

------------------------------------------------------------
-- Canonical Form
------------------------------------------------------------

/-
  A language that was given up for another one.  A language
  that was named for its region or its script leaves that
  behind, unless the locale has one.
-/
private def renewed (l : Locale) : Locale :=
  match l.language with
  | none => l
  | some "mo" =>
      { l with language := some "ro", region := l.region.or (some "MD") }
  | some "sh" =>
      { l with language := some "sr", script := l.script.or (some "Latn") }
  | some code =>
      { l with language := some (lookup Subtag.older (lookup Subtag.superseded code)) }

/- A locale with the codes in use today. -/
def canonical (l : Locale) : Locale :=
  let l := renewed l
  { l with
    script := l.script.map (fun s => if s == "Qaai" then "Zinh" else s)
    region := l.region.map (lookup Subtag.renamedRegions) }

------------------------------------------------------------
-- Tags Read as a Whole
------------------------------------------------------------

/- Tags that are not made of known subtags, each with one that is. -/
def wholeTags : List (String × String) :=
  [("art-lojban", "jbo"), ("cel-gaulish", "xtg-x-cel-gaulish"),
    ("en-gb-oed", "en-gb-oxendict"), ("en-us-posix", "en-us-u-va-posix"),
    ("i-ami", "ami"), ("i-bnn", "bnn"), ("i-default", "en-x-i-default"),
    ("i-enochian", "und-x-i-enochian"), ("i-hak", "hak"), ("i-klingon", "tlh"),
    ("i-lux", "lb"), ("i-mingo", "see-x-i-mingo"), ("i-navajo", "nv"),
    ("i-pwn", "pwn"), ("i-tao", "tao"), ("i-tay", "tay"), ("i-tsu", "tsu"),
    ("no-bok", "nb"), ("no-nyn", "nn"), ("root", "und"),
    ("sgn-be-fr", "sfb"), ("sgn-be-nl", "vgt"), ("sgn-ch-de", "sgg"),
    ("zh-guoyu", "cmn"), ("zh-hakka", "hak"), ("zh-min", "nan-x-zh-min"),
    ("zh-min-nan", "nan"), ("zh-xiang", "hsn")]

/-
  A tag of bytes: a character counts by its low eight bits,
  and fills its further bytes in UTF-8 with zeros.
-/
private def tagBytes (s : String) : List Nat :=
  s.toList.flatMap fun c =>
    let c := if c == '_' then '-' else c.toLower
    c.toNat % 256 :: List.replicate (c.utf8Size - 1) 0

/- Bytes without the zeros at their end. -/
private def withoutPadding (bytes : List Nat) : List Nat :=
  (bytes.reverse.dropWhile (· == 0)).reverse

/- The subtags of a tag that is read as a whole, of at most eleven bytes. -/
private def wholeTag? (s : String) : Option (List String) :=
  let bytes := tagBytes s
  if bytes.length ≤ 11 then
    (wholeTags.find? (fun p => tagBytes p.1 == withoutPadding bytes)).map
      (fun p => split '-' p.2)
  else
    none

------------------------------------------------------------
-- Reading
------------------------------------------------------------

/- A subtag is one to eight ASCII letters and digits. -/
private def isSubtag (s : String) : Bool :=
  decide (1 ≤ s.length) && decide (s.length ≤ 8) && s.toList.all Char.isAlphanum

/- Read a locale from its subtags, with the subtags that are left. -/
private def readSubtags
    (subtags : List String) : Option (Locale × List String) :=
  match subtags with
  | [] => none
  | s :: _ =>
      if s == "x" then do
        let (extensions, left) ← readExtensions subtags
        return ({ language := none, extensions }, left)
      else do
        let (h, rest) ← readHead subtags
        if rest.head?.any (fun t => t.length != 1) then none
        else
          let (extensions, left) ← readExtensions rest
          let l : Locale :=
            { language := some h.language, script := h.script, region := h.region
              variants := h.variants, extensions := extensions }
          return (l, left)

/-
  Read a locale from its parts.  What follows an extension and
  belongs to none is passed over, whatever it holds; a part
  that is no subtag cannot be read anywhere before it.
-/
private def ofParts?
    (parts : List String) : Option Locale :=
  match readSubtags ((parts.takeWhile isSubtag).map lowered) with
  | none => none
  | some (l, left) =>
      if left.isEmpty && !parts.all isSubtag then none else some (canonical l)

/-
  Read a locale.  Hyphens and underscores divide it; every
  subtag must be known.
-/
def read? (s : String) : Option Locale :=
  match wholeTag? s with
  | some parts => ofParts? parts
  | none => ofParts? (split '-' (s.map (fun c => if c == '_' then '-' else c)))

/- Read a locale, or fall back. -/
def ofText (s : String) : Locale :=
  (read? s).getD fallback

end Timetable.Text.Locale
