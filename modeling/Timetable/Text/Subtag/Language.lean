import Timetable.Text.Words

/-
  This file lists the languages that a locale may name, and
  the codes that were given up for others.

  Key definitions include:
    * `shortCodes`
    * `longCodes`
    * `language?`
    * `superseded`
    * `older`
-/

namespace Timetable.Text.Subtag

------------------------------------------------------------
-- Codes
------------------------------------------------------------

/- The languages with a code of two letters. -/
def shortCodes : List String :=
  words
    ("aa ab ae af ak am an ar as av ay az ba be bg bh bi bm bn bo br bs ca ce " ++
    "ch co cr cs cu cv cy da de dv dz ee el en eo es et eu fa ff fi fj fo fr " ++
    "fy ga gd gl gn gu gv ha he hi ho hr ht hu hy hz ia id ie ig ii ik in io " ++
    "is it iu iw ja ji jv jw ka kg ki kj kk kl km kn ko kr ks ku kv kw ky la " ++
    "lb lg li ln lo lt lu lv mg mh mi mk ml mn mo mr ms mt my na nb nd ne ng " ++
    "nl nn no nr nv ny oc oj om or os pa pi pl ps pt qu rm rn ro ru rw sa sc " ++
    "sd se sg sh si sk sl sm sn so sq sr ss st su sv sw ta te tg th ti tk tl " ++
    "tn to tr ts tt tw ty ug uk ur uz ve vi vo wa wo xh yi yo za zh zu")

/-
  The languages with a code of three letters.  The first two
  letters of a word start every code of the word, and each
  further letter ends one.
-/
def longCodes : List String :=
  words
    ("aaabcdefghiklmnopqstuvwxz ababcdefghijlmnopqrstuvwxyz " ++
    "acabdefhiklmnpqrstuvwxyz adabdefghijlnopqrstuwxyz aeabcdeklmnqrsuwyz " ++
    "afabdeghiknopstuz agabcdefghijklmnopqrstuvwxyz ahabghiklmnoprst " ++
    "aiabcdefghijklmnopqrstwxy ajaginpstuwz akbcdefghijklmopqrstuvwxyz " ++
    "alabcdefghijklmnopqrstuvwxyz amabcefgijklmnopqrstuvwxyz " ++
    "anabcdefghijklmnopqrstuvwxyz aoabcdefghijklmnrstuxz " ++
    "apabcdefghijklmnopqrstuvwxyz aqacdgklmnprtz arbcdehijklmnopqrstuvwxyz " ++
    "asabcdefghijklnopqrstuvwxyz atabcdeghijklmnopqrstuvwxyz " ++
    "auabcdefghijklmnopqrstuwxyz avbdiklmnostuv awabcdeghikmnorstuvwxy " ++
    "axbegklmx ayabcdeghiklnopqrstuxyz azabcdgjmnotz " ++
    "baabcdefghijlnopqrstuvwxyz bbabcdefghijklmnopqrstuvwxyz " ++
    "bcabcdefghijklmnopqrstuvwyz bdabcdefghijklmnopqrstuvwxyz " ++
    "beabcdefghijkmopqrstuvwxyz bfabcdefghijklmnopqrstuwxyz " ++
    "bgabcdefgijklmnopqrstuvwxyz bhabcdefghijklmnopqrstuvwxyz " ++
    "biabcdefgjklmnopqrtuvwxyz bjabcdefghijklmnopqrstuvwxyz " ++
    "bkabcdfghijklmnopqrstuvwxyz blabcdefghijklmnopqrstvwxyz " ++
    "bmabcdefghijklmnopqrstuvwxyz bnabcdefgijklmnopqrstuvwxyz " ++
    "boabefghijklmnopqrtuvwxyz bpabcdeghijklmnopqrstuvwxyz " ++
    "bqabcdfghijklmnopqrstuvwxyz brabcdfghijklmnopqrstuvwxyz " ++
    "bsabcefghijklmnopqrstuvwxy btabcdefghijklmnopqrstuvwxyz " ++
    "buabcdefghijkmnopqrstuvwxyz bvabcdefghijklmnopqrtuvwxyz " ++
    "bwabcdefghijklmnopqrstuwxyz bxabcdefghijklmnopqrsuvwxz " ++
    "byabcdefghijklmnopqrstvwxyz bzabcdefghijklmnopqrstuvwxyz " ++
    "caabcdefghijklmnopqrsuvwxyz cbabcdeghijklnoqrstuvwy ccacdeghjlmnopqrs " ++
    "cdacdefghijmnorsyz ceabgklnty cfadgm cgacgk chbcdfghijklmnopqrtwxyz " ++
    "ciabcdehkmnprwy cjaehikmnoprsvy ckabhlmnoqrstuvxyz clacdehijklmostuwy " ++
    "cmacegiklmnorst cnabcghiklopqrstuwx coabcdefghjklmnopqtuvwxyz " ++
    "cpabcefginopsuxy cqdu crabcdfghijklmnopqrstvwxyz " ++
    "csabcdefghijklmnopqrstuvwxyz ctacdeghlmnopstuyz cuabcghijklmopqrstuvwxy " ++
    "cvgn cwabdegt cxh cyabo czehknot daacdefghijklmopqrsuvwxyz " ++
    "dbabdefgijlmnopqrtuvwy dccr ddadegijnorsw decdefghiklmnpqrsvz " ++
    "dgabcdeghiklnorstuwxz dhadgilmnorsuvwx diabcdfghijklmnopqrstuwxyz " ++
    "djabcdefijklmnoruw dkagklrsx dlgkmn dmabcdefgklmnorsuvwxy " ++
    "dnadegijknortuvwy doabcefhiklnopqrstvwxyz dpp drabcdeghilnoqrstuwy " ++
    "dsbehiklnoqz dtabdhikmnoprstuy duabcdefghijklmnopqrstuvwxyz dva " ++
    "dwaklrsuwyz dyabdgimnoruy dzadegln eaa ebcgkoru ecrsy eee efaei egalmoxy " ++
    "ehsu eiptv eja ekacegiklmopry elehikmopux emabegikmnopqsuwxyz " ++
    "enabcdfhlmnoqruvwx eot epi eraghikorstw eseghiklmnoqsuxy etbchnorstuxz " ++
    "eudq evehn ewo ext eyao ezae faabdfghijklmnprtuxyz fbl fcs fer ffim fgr " ++
    "fiaeflprtuw fkkv flahilnry fmpu fnbgi fodimnrsx fpe fqs frcdekmopqrst " ++
    "fsels fubcdefhijmnqrtuvy fvr fwae gaabcdefghijklmnopqrstuvwxyz " ++
    "gbabcdefghijklmnopqrsuvwxyz gccdeflnrt gdabcdefghijklmnoqrstux " ++
    "geabcdfghijklmoqrsvwxyz gfktx ggabdegklnortuw ghacehklnorst " ++
    "giabcdeghilmnopqrstuwxyz gjikmnru gkadenopu glbcdhijkloruwy " ++
    "gmabdeghlmnqruvwxyz gnabcdeghijklmnoqrtuwz goabcdefghijklmnopqrstuvwxyz " ++
    "gpaen gqainru grabcdeghijkmoqrstuvwxyz gseglmnopsw gtaiu " ++
    "guabcdefghiklmnopqrstuvwxz gvacefjlmnoprsy gwabcdefgijmnrtuwx gxx " ++
    "gyabdefgilmnoryz gzain haabcdefghijklmnopqrsvwxyz hbabnou hcah hdnsy " ++
    "headghim hgmw hhiry hiabdfghijklmortwx hji hkaehkns hlabdetu " ++
    "hmabcdefghijklmnpqrstuvwxyz hnadeghijmnosu hoabcdehijklmoprstvwyz hpos " ++
    "hracekmoprtuwxz hsbhlns htiosux hubcdefghijklmopqrstuvwxyz hvceknv hwaco " ++
    "hyawx iainpr ibabdeghilmnruy icaehlr idabcdeirstu ifabefkmuy igbeglmnosw " ++
    "ihbipw iinr ijcejnos ikehikloprstvwxz ilabgiklmopsuvw imaeilnorsty " ++
    "inbceghjlmnopstz ioruw ipio iquw iraehiknoruxy isacdeghikmnortuv " ++
    "itbcdeiklmorstvwxyz ium ivbv iwkmos ixcl iyaox izhimrz " ++
    "jaabcdefhjklmnoqrstuxyz jbeijkmnortuw jcst jdagt jebeghiklnrtu jgbeko " ++
    "jhis jiabcdeghilmoqtuvy jjer jkamoprsu jles jmabcdilnrswx jnadgijls " ++
    "jobdgrsw jparx jqr jrabrtu jsl juabcdhiklmnoprstuwy jvdn jwi jyaey " ++
    "kaabcdefghijkmopqrvwxy kbabcdefghijklmnopqrstuvwxyz " ++
    "kcabcdefghijklmnopqrstuvwxyz kdacdefghijklmnopqrtuvwxyz " ++
    "keabcdefghijklmnopqrstuvwxyz kfabcdefghijklmnopqrstuvwxyz " ++
    "kgabcdefghijklmnopqrstuvwxy khabcdefghijklnopqrstuvwxyz " ++
    "kiabcdefghijlmopqstuvwxyz kjabcdefghijklmnopqrstuvxyz " ++
    "kkabcdefghijklmnopqrstuvwxyz klabcdefghijklmnopqrstuvwxyz " ++
    "kmabcdefghijklmnopqrstuvwxyz knabcdefgijklmnopqrstuvwxyz " ++
    "koacdefghijklopqstuvwxyz kpabcdefghijklmnopqrstuvwxyz " ++
    "kqabcdefghijklmnopqrstuvwxyz krabcdefhijklmnoprstuvwxyz " ++
    "ksabcdefghijklmnopqrstuvwxyz ktabcdefghijklmnopqrstuvwxyz " ++
    "kubcdefghijklmnopqstuvwxyz kvabcdefghijklmnopqrstuvwxyz " ++
    "kwabcdefghijklmnopqrstuvwxyz kxabcdefhijklmnopqrstuvwxyz " ++
    "kyabcdefghijklmnopqrstuvwxyz kzabcdefghijklmnopqrstuvwxyz " ++
    "laabcdefghijklmnpqrsuwxyz lbabcefgijklmnoqrstuvwxyz lccdefhlmpqs " ++
    "ldabdghijklmnopq leabcdefghijklmnopqrstuvwxyz lfan lgabghiklmnoqrstuz " ++
    "lhahilmnpstu liabcdefghijklopqrsuvwxyz ljaeilpwx lkabcdehijlmnorstuy " ++
    "llabcdefghijklmnopqsux lmabcdefghijklmnopqruvwxyz lnabdghijlmnosuwz " ++
    "loabcefghijklmnopqrstuvwxyz lpaenox lqr lracegiklmnortvz " ++
    "lsabcdeghilmnoprstvwy ltcghinosu luacdefhijklmnopqrstuvwyz lvaiklsu " ++
    "lwaeghlmostuw lxm lyagn lzhlnz maabcdefgijkmnopqstuvwxyz " ++
    "mbabcdefhijklmnopqrstuvwxyz mcabcdefghijklmnopqrstuvwxyz " ++
    "mdabcdefghijklmnpqrstuvwxyz meabcdefghijklmnopqrstuvwyz " ++
    "mfabcdefghijklmnopqrstuvwxyz mgabcdefghijklmnopqrstuvwxyz " ++
    "mhabcdefghijklmnopqrstuwxyz miabcdefghijklmnopqrstuwxyz " ++
    "mjabcdeghijklmnopqrstuvwxyz mkabcefghijklmnopqrstuvwxyz " ++
    "mlabcdefhijklmnopqrsuvwxz mmabcdefghijklmnopqrtuvwxyz " ++
    "mnabcdefghijklmnopqrstuvwxyz moacdefghijkmopqrstuvwxyz " ++
    "mpabcdeghijklmnopqrstuvwxyz mqabcefghijklmnopqrstuvwxyz " ++
    "mrabcdefghjklmnopqrstuvwxyz msbcdefghijklmnopqrstuvwxyz " ++
    "mtabcdefghijklmnopqrstuvwxy muabcdeghijklmnopqrstuvxyz " ++
    "mvabdefghiklmnopqrstuvwxyz mwabcdefghijklmnopqrstuvwxyz " ++
    "mxabcdefghijklmnopqrstuvwxyz mybcdefghijklmnopqrstuvwxyz " ++
    "mzabcdeghijklmnopqrstuvwxyz naabcdefghijklmnopqrstwxyz " ++
    "nbabcdefghijkmnopqrstuvwxy ncabcdefghijklmnopqrstuxz " ++
    "ndabcdfghijklmnpqrstuvwxyz neabcdefghijkmnoqrstuvwxyz nfadlru " ++
    "ngabcdefghijklmnopqrstuvwxyz nhabcdefghikmnopqrtuvwxyz " ++
    "niabcdefghijklmnoqrstuvwxyz njabdhijlmnorstuxyz " ++
    "nkabcdefghijkmnopqrstuvwxz nlacegijklmnoqruvwxyz " ++
    "nmabcdefghijklmnopqrstuvwxyz nnabcdefghijklmnpqrstuvwxyz " ++
    "noacdefghijklmnopqstuvwyz npabghilnosuxy nqgklmnoqty nrabcefgiklmnprtuxz " ++
    "nsabcdefghiklmnopqrstuvwxyz ntdegijkmoprsuwxyz " ++
    "nuabcdefghijklmnopqrstuvwxyz nvhmo nwabcegimorwxy nxadegiklmnoqrux " ++
    "nybcdefghijklmnopqrstuvwxy nzabdikmrsuyz oaackrv obiklmortu ocahmou " ++
    "odaktu ofosu ogbcegou ohtu oiaen ojbcgpsvw okabcdeghijklmnorsuvxz " ++
    "oladekmortu omabcegiklnopqrtuvwxy onabegijknoprstuwx oodgnrs opakmoty " ++
    "oraceghnorstuvwxyz osacinoptux otabdeiklmnoqrstuwxyz ouabeimn ovd owil " ++
    "oybdmy ozm paabcdefghiklmopqrstuvwxyz pbbcefghilmnoprstuvyz " ++
    "pcabcdefghijklmnprw pdacinotu peabdefghijklmopqrsvxyz pfael " ++
    "pgadgiklnsuyz phadghijklmnoqrtuvw piabcdefghijlmnoprstuvwxyz pjt " ++
    "pkabcghnoprstu plabcdefghjklnopqrstuvwyz pmabcdefhijklmnoqrstuwxyz " ++
    "pnabcdeghijklmnopqrstuvwxyz pocdefghikmnopqstvwxyz ppaeiklmnopqrstu " ++
    "pqaemw prabcdefghiklmnopqrstuwxyz psacdeghilmnopqrstuwy ptahinopqrtuvwy " ++
    "puabcdefgijkmopqrtuwxyz pwabgimnorw pxm pyemnsuxy pzehn " ++
    "quabcdfghiklmnpqrsvwxyz qvacehijlmnopswyz qwacehmst qxachlnopqrstuw qyap " ++
    "raabcdfghijklmnopqrstuvwxyz rbbklp rcf rdb reabegijlmnrsty rgaeknrsu " ++
    "rhgp riabeflmnrtu rjgis rkabhimtw rmabcdefghiklmnopqrstuvwxyz " ++
    "rnabdglnprw roabcdefglmopruw rpnt rrimot rsbiklmnw rtchmsw " ++
    "rubcefghikmopqtuyz rwaklmor rxdw rynsu rzh saabcdefhijklmopqrstuvwxyz " ++
    "sbabcdefghijklmnopqrstuvwxyz scabefghiklnopqstuvwx " ++
    "sdabcefghjklmnopqrstuvxz seabcdefghijklmnopqrstuvwyz sfbemsw " ++
    "sgabcdeghijklmnoprstuwxyz shabcdeghijklmnopqrstuvwxyz " ++
    "siabdefghijklmopqrstuvwxyz sjabcdegklmnoprstuw " ++
    "skabcdefghijkmnopqrstuvwxyz slacdefghijlmnopqrstuwxyz " ++
    "smabcdfghijklmnpqrstuvwxyz snbcefghijklmnopqrsuvwxyz " ++
    "soabcdeghijklnopqrsuvwxyz spbcdegiklmnopqrstuvxy sqahjkmnoqrstux " ++
    "srabcefghiklmnoqrstuvwxyz ssabcdefghijklmnopqrstuvxyz " ++
    "stabdefghijklmnopqrstuvwy suabcegijklmoqrstvwxyz svabcekmrsx " ++
    "swbcfghijklmnopqrstuvwxy sxbcegklmnorsuw syabcdiklmnorswxy " ++
    "szabcdeglnpsvwy taabcdefgijklnopqrsuvwxyz tbabcdefghijklmnopqrstuvwxyz " ++
    "tcabcdefghiklmnopqstuwxyz tdabcdefghijklmnoqrstuvxy " ++
    "teabcdefghikmnopqrstuvwxyz tfinort tgabcdefghijnopqrstuvwxyz " ++
    "thcdefhiklmnpqrstuvwxyz tiabcdefghijklmnopqstuvwxyz tjagijlmnopsuw " ++
    "tkabdefgklmnpqrstuvwxz tlabcdfghijklmnopqrstuvwxy " ++
    "tmabcdefghijklmnopqrstuvwyz tnabcdefghiklmnopqrstuvwxyz " ++
    "tobcdefghijklmopqrsuvwxyz tpacefgijklmnopqrtuvwxyz tqblmnopqrtuw " ++
    "trabcdefghijklmnopqrstuvwxyz tsabcdefghijklmpqrstuvwxyz " ++
    "ttabcdefghijklmnopqrstuvwyz tuabcdefghijlmnopqstuvwxyz tvadeiklmnostuwxy " ++
    "twabcdefghlmnopqrtuwxy txabceghijmnoqrstuxy tyaehijlnprstuvxyz " ++
    "tzahjlmnox uamnr ubailruy udaegijlmu ues ufi ugabehnoy uhan uisv uji " ++
    "ukaghiklpqsuvwy ulabcefiklmnuwy umabcdgimnoprsu unaegikmnpruxz uokn upiv " ++
    "urabcefghijklmnoprtuvwxyz usahikpsu utaehpru uumnru uvehl uwa uya uzns " ++
    "vaaefghijlmnoprsuvy vbbk vecdlmopr vgrt vicdfglnstv vjk vkaijklmnoptuz " ++
    "vlps vmabcdefghijklmpqrsuvwxyz vnkmp vort vraost vsilnv vto vumnt vwa " ++
    "waabcdefghijklmnopqrstuvwxyz wbabefhijklmpqrstvw wcai wddgjktuy " ++
    "weacdghilmnoprstuw wfg wgabgiouwy whagku wibcefghijklmnrtuvwy wjai " ++
    "wkabdlruwy wlaceghiklmorsuvwxy wmabcdeghimnostwx wnbcdegikmnopuwy " ++
    "woabcdefgikmnorswy wpc wrabdghiklmnoprsuvwxyz wsagikrsuv wtbfhikmw " ++
    "wuabdhlmnrtuvxy wwaborw wxaw wyabimnry xaabcdegijklmnopqrstuvwy " ++
    "xbabcdegijmnoprwxy xcbceghlmnortuvwy xdackmoqy xebdglmprstu xfa " ++
    "xgabdfgilmnruw xhacdemrtuv xiabilnprsvy xjbt xkabcdefghijklnopqrstuvwxyz " ++
    "xlabcdeginopsuy xmabcdefghjklmnopqrstuvwxyz xnabdghijkmnoqrstuyz " ++
    "xocdgikmnoprw xpabcdefghijklmnopqrstuvwxyz xqat xrabdegimnqrtuw " ++
    "xsabcdehijlmnopqrsuvy xtabcdeghijlmnopqrstuvwyz xuabdgjlmnoprtu xveinos " ++
    "xwacdegjklortw xxbkmrt xyabjklty xzhmp yaabcdefghijklmnopqrstuvwxyz " ++
    "ybabdehijklmnoxy ychlnpr ydadegks yeaceijlnrstuvy ygailmprsuw yhadls " ++
    "yiafghijklmnpqrstuvxyz ykaghiklmnortuy ylabegilmnoruy " ++
    "ymabcdeghiklmnopqrstxz ynabdeghklnoqsu yobgiklmnstxy ypabghkmnopz " ++
    "yrabeiklmnoswy yscdglmnoprsy ytalpwy yuabcdefgijklmnpqrtuwxyz yvat " ++
    "ywaglnqrtuw yxaglmuy yyruz yzgk zaabcdefghijklmopqrstuvwxyz zbaceltuw " ++
    "zcadh zdj zeaghmn zgabhmnr zhbdinwx ziabklmnrwz zkabdghknoprtuvz " ++
    "zlaejmnqsuw zmabcdefghijklmnopqrstuvwxyz znadegks zochmoqrs " ++
    "zpabcdefghijklmnopqrstuvwxyz zqe zragnops zsaklmru zteglmnpqstuxy " ++
    "zuahmny zwa zxx zybgjnp zzaj")

/-
  Other codes of three letters for languages that have one
  of two: each word is the short code and the long one.
-/
def secondCodes : List String :=
  words
    ("aaaar ababk aeave afafr akaka amamh anarg arara asasm avava ayaym azaze " ++
    "babak bebel bgbul bhbih bibis bmbam bnben bobod brbre bsbos cacat ceche " ++
    "chcha cocos crcre csces cuchu cvchv cycym dadan dedeu dvdiv dzdzo eeewe " ++
    "elell eneng eoepo esspa etest eueus fafas ffful fifin fjfij fofao frfra " ++
    "fyfry gagle gdgla glglg gngrn guguj gvglv hahau hihin hohmo hrhrv hthat " ++
    "huhun hyhye hzher iaina idind ieile igibo iiiii ikipk ioido isisl itita " ++
    "iuiku iwheb jajpn jiyid jvjav kakat kgkon kikik kjkua kkkaz klkal kmkhm " ++
    "knkan kokor krkau kskas kukur kvkom kwcor kykir lalat lbltz lglug lilim " ++
    "lnlin lolao ltlit lulub lvlav mgmlg mhmah mimri mkmkd mlmal mnmon momol " ++
    "mrmar msmsa mtmlt mymya nanau nbnob ndnde nenep ngndo nlnld nnnno nonor " ++
    "nrnbl nvnav nynya ococi ojoji omorm orori ososs papan pipli plpol pspus " ++
    "ptpor quque rmroh rnrun roron rurus rwkin sasan scsrd sdsnd sesme sgsag " ++
    "shhbs sisin skslk slslv smsmo snsna sosom sqsqi srsrp ssssw stsot susun " ++
    "svswe swswa tatam tetel tgtgk ththa titir tktuk tltgl tntsn toton trtur " ++
    "tstso tttat twtwi tytah uguig ukukr ururd uzuzb veven vivie vovol wawln " ++
    "wowol xhxho yoyor zazha zhzho zuzul")

/- A word of `longCodes` holds a code. -/
private def holdsCode
    (code : List Char)
    (word : String) : Bool :=
  match code, word.toList with
  | [a, b, c], a' :: b' :: ends => a == a' && b == b' && ends.contains c
  | _, _ => false

/- The codes from `qaa` to `qtz` are free for private use. -/
private def isPrivateCode (code : List Char) : Bool :=
  match code with
  | [a, b, _] => a == 'q' && decide ('a' ≤ b) && decide (b ≤ 't')
  | _ => false

/- The code of two letters behind another code of three. -/
private def shortCode? (code : String) : Option String :=
  (secondCodes.find? (fun w => String.ofList (w.toList.drop 2) == code)).map
    (fun w => String.ofList (w.toList.take 2))

/-
  The language that a subtag in lower case names.  A code of
  three letters stands for itself if it is listed, and for
  the code of two letters otherwise; `und` is no language in
  particular.
-/
def language? (s : String) : Option String :=
  let code := s.toList
  if code.length == 2 then
    if shortCodes.contains s then some s else none
  else if code.length == 3 && code.all Char.isLower then
    if s == "und" || isPrivateCode code || longCodes.any (holdsCode code) then
      some s
    else
      shortCode? s
  else
    none

------------------------------------------------------------
-- Codes That Were Given Up
------------------------------------------------------------

/- Codes that were given up, each with the code that replaced it. -/
def superseded : List (String × String) :=
  wordPairs
    ("in-id iw-he ji-yi jw-jv aam-aas adp-dz ajp-apc ajt-aeb asd-snz aue-ktz " ++
    "ayx-nun bgm-bcg bic-bir bjd-drl blg-iba ccq-rki cjr-mom cka-cmr cmk-xch " ++
    "coy-pij cqu-quh dit-dif drh-khk drr-kzk drw-prs gav-dev gfx-vaj ggn-gvr " ++
    "gli-kzk gti-nyc guv-duz hrr-jal ibi-opa ilw-gal jeg-oyb kgc-tdf kgh-kml " ++
    "kgm-plu koj-kwv krm-bmf ktr-dtp kvs-gdj kwq-yam kxe-tvd kxl-kru kzj-dtp " ++
    "kzt-dtp lak-ksp lii-raq llo-ngt lmm-rmx meg-cir mst-mry mwj-vaj myd-aog " ++
    "myt-mry nad-xny ncp-kdz nns-nbr nnx-ngv nom-cbr nts-pij nxu-bpp oun-vaj " ++
    "pat-kxr pcr-adx pmc-huw pmk-crr pmu-phr ppa-bfy ppr-lcq prp-gu pry-prt " ++
    "puz-pub sca-hle skk-oyb smd-kmb snb-iba szd-umi tdu-dtp thc-tpo thw-ola " ++
    "thx-oyb tie-ras tkk-twm tlw-weo tmk-tdg tmp-tyj tne-kak tnf-prs tpw-tpn " ++
    "tsf-taj uok-ema xba-cax xia-acn xkh-waw xrq-dmw xsj-suj ybd-rki yma-lrr " ++
    "ymt-mtm yos-zom yuu-yug zir-scv zkb-kjh")

/- Codes in older use, each with the code in use today. -/
def older : List (String × String) :=
  wordPairs
    ("alb-sq arm-hy baq-eu bur-my chi-zh cze-cs dut-nl fre-fr geo-ka ger-de " ++
    "gre-el ice-is mac-mk mao-mi may-ms per-fa rum-ro slo-sk tib-bo wel-cy " ++
    "tl-fil")

end Timetable.Text.Subtag
