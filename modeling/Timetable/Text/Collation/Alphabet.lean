import Timetable.Text.Collation.Element
import Timetable.Text.Words

/-
  This file describes the alphabets of languages: the letters
  that a language has of its own, where they stand, and the
  letters that count as variants of others.

  Key definitions include:
    * `Alphabet`
    * `Alphabet.step`
    * `Alphabet.elements`
    * `Alphabet.ofRules`
    * `Alphabet.byCode`
    * `alphabets`
-/

namespace Timetable.Text

------------------------------------------------------------
-- Alphabets
------------------------------------------------------------

/- A letter of an alphabet: how it is spelled, and what it weighs. -/
structure Letter where
  spelling : List Char
  elements : List Element
deriving DecidableEq, Repr

/- The letters that a language weighs in its own way. -/
abbrev Alphabet := List Letter

namespace Alphabet

/- The longest letter that a text starts with. -/
private def longest?
    (a : Alphabet)
    (text : List Char) : Option Letter :=
  a.foldl
    (fun best l =>
      if l.spelling.isPrefixOf text &&
          best.all (fun (b : Letter) => decide (b.spelling.length < l.spelling.length))
      then some l else best)
    none

/-
  A letter of a sign and an accent, where an accent of a
  lower class stands between the two.
-/
private def across?
    (a : Alphabet)
    (text : List Char) : Option (Letter × Char) :=
  match text with
  | c :: below :: above :: _ =>
      if isMark below && isMark above &&
          decide (markClass below < markClass above) then
        (a.find? (fun l => l.spelling == [c, above])).map (fun l => (l, below))
      else
        none
  | _ => none

/-
  The elements that a text starts with, and the number of
  characters that they stand for.
-/
def step
    (a : Alphabet)
    (text : List Char) : List Element × Nat :=
  let single (c : Char) : List Element :=
    match a.find? (fun l => l.spelling == [c]) with
    | some l => l.elements
    | none => Element.ofChar c
  match a.longest? text, a.across? text, text with
  | some l, none, _ => (l.elements, l.spelling.length)
  | some l, some (m, below), _ =>
      if 1 < l.spelling.length then (l.elements, l.spelling.length)
      else (m.elements ++ single below, 3)
  | none, some (m, below), _ => (m.elements ++ single below, 3)
  | none, none, c :: _ => (Element.ofChar c, 1)
  | none, none, [] => ([], 0)

/- The elements of a text; the first `skip` characters are done with. -/
private def elementsFrom
    (a : Alphabet) :
    Nat → List Char → List Element
| _, [] => []
| skip + 1, _ :: rest => elementsFrom a skip rest
| 0, c :: rest =>
    let (found, count) := a.step (c :: rest)
    found ++ elementsFrom a (count - 1) rest

/- The elements of a text. -/
def elements
    (a : Alphabet)
    (text : List Char) : List Element :=
  elementsFrom a 0 text

------------------------------------------------------------
-- Rules
------------------------------------------------------------

/- The elements of the next letter of its own after a letter. -/
private def nextLetter : List Element → List Element
| [] => []
| e :: _ => [Element.ofPrimary (e.primary + 1)]

/- The elements of the next variant of a letter. -/
private def nextVariant : List Element → List Element
| [] => []
| e :: rest => { e with secondary := e.secondary + 1 } :: rest

/- A spelling with every letter and its accent as one character or two. -/
private def spellings (form : String) : List (List Char) :=
  let apart := form.toList.flatMap parts
  if apart == form.toList then [apart] else [form.toList, apart]

/-
  Follow a rule: `<` goes on to the next letter, `<<` to the
  next variant, and any other word spells the letter that the
  rule has come to.
-/
private def follow : Alphabet → List Element → List String → Alphabet
| a, _, [] => a
| a, weight, "<" :: rest => follow a (nextLetter weight) rest
| a, weight, "<<" :: rest => follow a (nextVariant weight) rest
| a, weight, form :: rest =>
    follow (a ++ (spellings form).map (fun s => ⟨s, weight⟩)) weight rest

/- An alphabet from its rules.  A rule starts at a text known before. -/
def ofRules (rules : List String) : Alphabet :=
  rules.foldl
    (fun a rule =>
      match words rule with
      | [] => a
      | start :: rest => follow a (a.elements start.toList) rest)
    []

/-
  The alphabet that has the ASCII characters in the order of
  their codes, all of them between two letters.
-/
def byCode : Alphabet :=
  (List.range 95).map fun i =>
    ⟨[Char.ofNat (32 + i)], [Element.ofPrimary (primaryWeight 'a' + 1 + i)]⟩

end Alphabet

------------------------------------------------------------
-- The Alphabets of Languages
------------------------------------------------------------

/- The rules of the languages that end with `æ`, `ø` and `å`. -/
private def northern (last : String) : List String :=
  ["y << ü Ü", "z < æ Æ << ä Ä < ø Ø << ö Ö < å Å" ++ last]

/- The rules of Swedish, which ends with `å`, `ä` and `ö`. -/
private def swedish : List String :=
  ["y << ü Ü", "z < å Å < ä Ä << æ Æ < ö Ö << ø Ø << ő Ő << œ Œ << ô Ô"]

/- The rules of Finnish, which ends as Swedish does. -/
private def finnish : List String :=
  ["y << ü Ü", "z < å Å < ä Ä << æ Æ < ö Ö << ø Ø"]

/- The rules of Croatian, Bosnian and Serbian in Latin letters. -/
private def croatian : List String :=
  ["c < c\u0301 C\u0301", "l < lj Lj LJ", "n < nj Nj NJ"]

/- The rules of Northern Sotho and Tswana. -/
private def sotho : List String :=
  ["e < ê Ê", "o < ô Ô"]

/-
  The rules of languages, by the language and where there is
  more than one way to sort, by the way.
-/
def alphabets : List (String × List String) :=
  [("az", ["c < ç Ç", "h < x X < ı I", "k < q Q", "o < ö Ö", "s < s\u0327 S\u0327",
      "u < ü Ü", "z < w W"]),
    ("bs", croatian),
    ("cs", ["h < ch cH Ch CH"]),
    ("cy", ["c < ch Ch CH", "d < dd Dd DD", "f < ff Ff FF", "g < ng Ng NG",
      "l < ll Ll LL", "p < ph Ph PH", "r < rh Rh RH", "t < th Th TH"]),
    ("da", northern " aa Aa AA"),
    ("de-phonebk", ["ae << ä Ä", "oe << ö Ö", "ue << ü Ü"]),
    ("ee", ["d < dz Dz DZ", "g < gb Gb GB", "h < x X", "k < kp Kp KP",
      "n < ny Ny NY", "t < ts Ts TS"]),
    ("eo", ["c < c\u0302 C\u0302", "g < g\u0302 G\u0302", "h < h\u0302 H\u0302",
      "j < j\u0302 J\u0302", "s < s\u0302 S\u0302"]),
    ("es", ["n < ñ Ñ"]),
    ("et", ["s < z Z", "w < õ Õ < ä Ä < ö Ö < ü Ü"]),
    ("fi", "v << w W" :: finnish),
    ("fi-phonebk", finnish),
    ("fil", ["n < ñ Ñ < ng Ng NG"]),
    ("fo", northern " aa Aa AA"),
    ("ha", ["s < sh Sh SH", "t < ts Ts TS", "y < 'y 'Y"]),
    ("haw", ["a < e E < i I < o O < u U"]),
    ("hr", croatian),
    ("hu", ["c < cs Cs CS", "d < dz Dz DZ < dzs Dzs DZS", "g < gy Gy GY",
      "l < ly Ly LY", "n < ny Ny NY", "o < ö Ö", "s < sz Sz SZ", "t < ty Ty TY",
      "u < ü Ü", "z < zs Zs ZS", "cscs ccs Ccs CCS", "dzdz ddz Ddz DDZ",
      "dzsdzs ddzs Ddzs DDZS", "gygy ggy Ggy GGY", "lyly lly Lly LLY",
      "nyny nny Nny NNY", "szsz ssz Ssz SSZ", "tyty tty Tty TTY",
      "zszs zzs Zzs ZZS"]),
    ("ig", ["b < ch Ch CH", "g < gb Gb GB < gh Gh GH < gw Gw GW",
      "k < kp Kp KP < kw Kw KW", "n < nw Nw NW < ny Ny NY", "s < sh Sh SH"]),
    ("is", ["a < á Á", "e < é É", "i < í Í", "o < ó Ó", "u < ú Ú", "y < ý Ý",
      "z < æ Æ << ä Ä < ö Ö << ø Ø < å Å"]),
    ("kl", "q << ĸ K'" :: northern ""),
    ("ln-phonetic", ["g < gb gB Gb GB", "k < kp kP Kp KP",
      "m < mb mB Mb MB < mf mF Mf MF < mp mP Mp MP < mv mV Mv MV",
      "n < nd nD Nd ND < ng nG Ng NG < ngb ngB nGb nGB Ngb NgB NGB " ++
        "< nk nK Nk NK < ns nS Ns NS < nt nT Nt NT < ny nY Ny NY < nz nZ Nz NZ",
      "s < sh sH Sh SH", "t < ts tS Ts TS"]),
    ("lt", ["i << į Į << y Y"]),
    ("lv", ["g < g\u0327 G\u0327", "i < y Y", "k < k\u0327 K\u0327",
      "l < l\u0327 L\u0327", "n < n\u0327 N\u0327", "r < r\u0327 R\u0327"]),
    ("nn", northern " << aa Aa AA"),
    ("nso", sotho),
    ("om", ["z < ch Ch CH < dh Dh DH < kh Kh KH < ny Ny NY < ph Ph PH < sh Sh"]),
    ("pl", ["c < c\u0301 C\u0301", "n < n\u0301 N\u0301", "o < ó Ó",
      "s < s\u0301 S\u0301", "z < z\u0301 Z\u0301"]),
    ("ro", ["a < ă Ă < â Â", "i < î Î", "s < s\u0327 S\u0327",
      "t < t\u0327 T\u0327"]),
    ("se", ["a < á Á", "n < ŋ Ŋ << n\u0301 N\u0301 << ñ Ñ", "y << ü Ü",
      "z < ø Ø < æ Æ < å Å < ä Ä << ã Ã < ö Ö << ő Ő << õ Õ << ô Ô"]),
    ("sk", ["a < ä Ä", "h < ch cH Ch CH", "o < ô Ô"]),
    ("sq", ["c < ç Ç", "d < dh Dh DH", "e < ë Ë", "g < gj Gj GJ", "l < ll Ll LL",
      "n < nj Nj NJ", "r < rr Rr RR", "s < sh Sh SH", "t < th Th TH",
      "x < xh Xh XH", "z < zh Zh ZH"]),
    ("sr-Latn", croatian),
    ("sv", swedish),
    ("sv-standard", "v << w W" :: swedish),
    ("tn", sotho),
    ("to", ["a << á Á", "e << é É", "i << í Í", "n < ng Ng NG", "o << ó Ó",
      "u << ú Ú"]),
    ("tr", ["c < ç Ç", "h < ı I", "o < ö Ö", "s < s\u0327 S\u0327", "u < ü Ü"]),
    ("vi", ["\u0300 << \u0309 << \u0303 << \u0301", "a < ă Ă < â Â", "e < ê Ê",
      "o < ô Ô"]),
    ("yo", ["g < gb Gb GB"])]

end Timetable.Text
