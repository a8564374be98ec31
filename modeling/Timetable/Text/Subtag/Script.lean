import Timetable.Text.Words

/-
  This file lists the scripts and the variants that a locale
  may name.

  Key definitions include:
    * `scripts`
    * `script?`
    * `variants`
    * `variantRank?`
-/

namespace Timetable.Text.Subtag

------------------------------------------------------------
-- Scripts
------------------------------------------------------------

/- The scripts, written with a capital. -/
def scripts : List String :=
  words
    ("Adlm Afak Aghb Ahom Arab Aran Armi Armn Avst Bali Bamu Bass Batk Beng " ++
    "Bhks Blis Bopo Brah Brai Bugi Buhd Cakm Cans Cari Cham Cher Chrs Cirt " ++
    "Copt Cpmn Cprt Cyrl Cyrs Deva Diak Dogr Dsrt Dupl Egyd Egyh Egyp Elba " ++
    "Elym Ethi Geok Geor Glag Gong Gonm Goth Gran Grek Gujr Guru Hanb Hang " ++
    "Hani Hano Hans Hant Hatr Hebr Hira Hluw Hmng Hmnp Hrkt Hung Inds Ital " ++
    "Jamo Java Jpan Jurc Kali Kana Kawi Khar Khmr Khoj Kitl Kits Knda Kore " ++
    "Kpel Kthi Lana Laoo Latf Latg Latn Leke Lepc Limb Lina Linb Lisu Loma " ++
    "Lyci Lydi Mahj Maka Mand Mani Marc Maya Medf Mend Merc Mero Mlym Modi " ++
    "Mong Moon Mroo Mtei Mult Mymr Nagm Nand Narb Nbat Newa Nkdb Nkgb Nkoo " ++
    "Nshu Ogam Olck Orkh Orya Osge Osma Ougr Palm Pauc Pcun Pelm Perm Phag " ++
    "Phli Phlp Phlv Phnx Piqd Plrd Prti Psin Ranj Rjng Rohg Roro Runr Samr " ++
    "Sara Sarb Saur Sgnw Shaw Shrd Shui Sidd Sind Sinh Sogd Sogo Sora Soyo " ++
    "Sund Sunu Sylo Syrc Syre Syrj Syrn Tagb Takr Tale Talu Taml Tang Tavt " ++
    "Telu Teng Tfng Tglg Thaa Thai Tibt Tirh Tnsa Toto Ugar Vaii Visp Vith " ++
    "Wara Wcho Wole Xpeo Xsux Yezi Yiii Zanb Zinh Zmth Zsye Zsym Zxxx Zyyy " ++
    "Zzzz")

/- The codes from `Qaaa` to `Qabx` are free for private use. -/
private def isPrivateScript (name : List Char) : Bool :=
  match name with
  | ['Q', 'a', 'a', d] => decide ('a' ≤ d) && decide (d ≤ 'z')
  | ['Q', 'a', 'b', d] => decide ('a' ≤ d) && decide (d ≤ 'x')
  | _ => false

/- The script that a subtag with a capital names. -/
def script? (s : String) : Option String :=
  if scripts.contains s || isPrivateScript s.toList then some s else none

------------------------------------------------------------
-- Variants
------------------------------------------------------------

/-
  The variants, in the order in which a locale lists them:
  those of a language, those that refine another variant,
  and those that any language may have.
-/
def variants : List String :=
  words
    ("1606nict 1694acad 1901 1959acad 1996 abl1943 akuapem aluku ao1990 aranes " ++
    "arevela arevmda arkaika asante auvern baku1926 balanka barla basiceng " ++
    "bauddha bciav bcizbl biscayan bohoric boont bornholm cisaup colb1945 " ++
    "cornu creiss dajnko ekavsk emodeng gallo gascon grclass grital grmistr " ++
    "hepburn hognorsk hsistemo ijekavsk itihasa ivanchov jauer jyutping kkcor " ++
    "kociewie kscor laukika lemosin lengadoc ltg1929 ltg2007 luna1918 metelko " ++
    "monoton ndyuka nedis newfound nicard nulik oxendict pahawh2 pahawh3 " ++
    "pahawh4 pamaka peano petr1708 pinyin polyton provenc puter rigik rozaj " ++
    "rumgr scotland scouse sotav spanglis surmiran sursilv sutsilv synnejyl " ++
    "tarask tongyong tunumiit uccor ucrcor ulster unifon vaidika valencia " ++
    "vallader vecdruka vivaraup wadegile xsistemo") ++
  words "biske lipaw njiva osojs solba 1994 heploc" ++
  words "alalc97 fonipa fonkirsh fonnapa fonupa fonxsamp simple"

/- The place of a variant in lower case among the variants. -/
def variantRank? (s : String) : Option Nat :=
  variants.idxOf? s

end Timetable.Text.Subtag
