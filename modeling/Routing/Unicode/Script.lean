import Routing.Unicode.CharSet
import Routing.Unicode.ScriptExtensionTable
import Routing.Unicode.ScriptTable

/-!
# Scripts

* `scripts`: each script under its names
* `scriptExtensions`: each script together with the characters that it borrows
-/
set_option maxRecDepth 20000

namespace Routing.Unicode

open CharSet

/-- Names in the loose spelling that look-up compares: lower case, without separators. -/
def scripts : List (List String × CharSet) :=
   [(["adlm", "adlam"], spans ScriptTable.adlam),
    (["ahom"], spans ScriptTable.ahom),
    (["hluw", "anatolianhieroglyphs"], spans ScriptTable.anatolianHieroglyphs),
    (["arab", "arabic"], spans ScriptTable.arabic),
    (["armn", "armenian"], spans ScriptTable.armenian),
    (["avst", "avestan"], spans ScriptTable.avestan),
    (["bali", "balinese"], spans ScriptTable.balinese),
    (["bamu", "bamum"], spans ScriptTable.bamum),
    (["bass", "bassavah"], spans ScriptTable.bassaVah),
    (["batk", "batak"], spans ScriptTable.batak),
    (["beng", "bengali"], spans ScriptTable.bengali),
    (["bhks", "bhaiksuki"], spans ScriptTable.bhaiksuki),
    (["bopo", "bopomofo"], spans ScriptTable.bopomofo),
    (["brah", "brahmi"], spans ScriptTable.brahmi),
    (["brai", "braille"], spans ScriptTable.braille),
    (["bugi", "buginese"], spans ScriptTable.buginese),
    (["buhd", "buhid"], spans ScriptTable.buhid),
    (["cans", "canadianaboriginal"], spans ScriptTable.canadianAboriginal),
    (["cari", "carian"], spans ScriptTable.carian),
    (["aghb", "caucasianalbanian"], spans ScriptTable.caucasianAlbanian),
    (["cakm", "chakma"], spans ScriptTable.chakma),
    (["cham"], spans ScriptTable.cham),
    (["cher", "cherokee"], spans ScriptTable.cherokee),
    (["chrs", "chorasmian"], spans ScriptTable.chorasmian),
    (["zyyy", "common"], spans ScriptTable.common),
    (["copt", "coptic", "qaac"], spans ScriptTable.coptic),
    (["xsux", "cuneiform"], spans ScriptTable.cuneiform),
    (["cprt", "cypriot"], spans ScriptTable.cypriot),
    (["cpmn", "cyprominoan"], spans ScriptTable.cyproMinoan),
    (["cyrl", "cyrillic"], spans ScriptTable.cyrillic),
    (["dsrt", "deseret"], spans ScriptTable.deseret),
    (["deva", "devanagari"], spans ScriptTable.devanagari),
    (["diak", "divesakuru"], spans ScriptTable.divesAkuru),
    (["dogr", "dogra"], spans ScriptTable.dogra),
    (["dupl", "duployan"], spans ScriptTable.duployan),
    (["egyp", "egyptianhieroglyphs"], spans ScriptTable.egyptianHieroglyphs),
    (["elba", "elbasan"], spans ScriptTable.elbasan),
    (["elym", "elymaic"], spans ScriptTable.elymaic),
    (["ethi", "ethiopic"], spans ScriptTable.ethiopic),
    (["gara", "garay"], spans ScriptTable.garay),
    (["geor", "georgian"], spans ScriptTable.georgian),
    (["glag", "glagolitic"], spans ScriptTable.glagolitic),
    (["goth", "gothic"], spans ScriptTable.gothic),
    (["gran", "grantha"], spans ScriptTable.grantha),
    (["grek", "greek"], spans ScriptTable.greek),
    (["gujr", "gujarati"], spans ScriptTable.gujarati),
    (["gong", "gunjalagondi"], spans ScriptTable.gunjalaGondi),
    (["guru", "gurmukhi"], spans ScriptTable.gurmukhi),
    (["gukh", "gurungkhema"], spans ScriptTable.gurungKhema),
    (["hani", "han"], spans ScriptTable.han),
    (["hang", "hangul"], spans ScriptTable.hangul),
    (["rohg", "hanifirohingya"], spans ScriptTable.hanifiRohingya),
    (["hano", "hanunoo"], spans ScriptTable.hanunoo),
    (["hatr", "hatran"], spans ScriptTable.hatran),
    (["hebr", "hebrew"], spans ScriptTable.hebrew),
    (["hira", "hiragana"], spans ScriptTable.hiragana),
    (["armi", "imperialaramaic"], spans ScriptTable.imperialAramaic),
    (["zinh", "inherited", "qaai"], spans ScriptTable.inherited),
    (["phli", "inscriptionalpahlavi"], spans ScriptTable.inscriptionalPahlavi),
    (["prti", "inscriptionalparthian"], spans ScriptTable.inscriptionalParthian),
    (["java", "javanese"], spans ScriptTable.javanese),
    (["kthi", "kaithi"], spans ScriptTable.kaithi),
    (["knda", "kannada"], spans ScriptTable.kannada),
    (["kana", "katakana"], spans ScriptTable.katakana),
    (["kawi"], spans ScriptTable.kawi),
    (["kali", "kayahli"], spans ScriptTable.kayahLi),
    (["khar", "kharoshthi"], spans ScriptTable.kharoshthi),
    (["kits", "khitansmallscript"], spans ScriptTable.khitanSmallScript),
    (["khmr", "khmer"], spans ScriptTable.khmer),
    (["khoj", "khojki"], spans ScriptTable.khojki),
    (["sind", "khudawadi"], spans ScriptTable.khudawadi),
    (["krai", "kiratrai"], spans ScriptTable.kiratRai),
    (["laoo", "lao"], spans ScriptTable.lao),
    (["latn", "latin"], spans ScriptTable.latin),
    (["lepc", "lepcha"], spans ScriptTable.lepcha),
    (["limb", "limbu"], spans ScriptTable.limbu),
    (["lina", "lineara"], spans ScriptTable.linearA),
    (["linb", "linearb"], spans ScriptTable.linearB),
    (["lisu"], spans ScriptTable.lisu),
    (["lyci", "lycian"], spans ScriptTable.lycian),
    (["lydi", "lydian"], spans ScriptTable.lydian),
    (["mahj", "mahajani"], spans ScriptTable.mahajani),
    (["maka", "makasar"], spans ScriptTable.makasar),
    (["mlym", "malayalam"], spans ScriptTable.malayalam),
    (["mand", "mandaic"], spans ScriptTable.mandaic),
    (["mani", "manichaean"], spans ScriptTable.manichaean),
    (["marc", "marchen"], spans ScriptTable.marchen),
    (["gonm", "masaramgondi"], spans ScriptTable.masaramGondi),
    (["medf", "medefaidrin"], spans ScriptTable.medefaidrin),
    (["mtei", "meeteimayek"], spans ScriptTable.meeteiMayek),
    (["mend", "mendekikakui"], spans ScriptTable.mendeKikakui),
    (["merc", "meroiticcursive"], spans ScriptTable.meroiticCursive),
    (["mero", "meroitichieroglyphs"], spans ScriptTable.meroiticHieroglyphs),
    (["plrd", "miao"], spans ScriptTable.miao),
    (["modi"], spans ScriptTable.modi),
    (["mong", "mongolian"], spans ScriptTable.mongolian),
    (["mroo", "mro"], spans ScriptTable.mro),
    (["mult", "multani"], spans ScriptTable.multani),
    (["mymr", "myanmar"], spans ScriptTable.myanmar),
    (["nbat", "nabataean"], spans ScriptTable.nabataean),
    (["nagm", "nagmundari"], spans ScriptTable.nagMundari),
    (["nand", "nandinagari"], spans ScriptTable.nandinagari),
    (["talu", "newtailue"], spans ScriptTable.newTaiLue),
    (["newa"], spans ScriptTable.newa),
    (["nkoo", "nko"], spans ScriptTable.nko),
    (["nshu", "nushu"], spans ScriptTable.nushu),
    (["hmnp", "nyiakengpuachuehmong"], spans ScriptTable.nyiakengPuachueHmong),
    (["ogam", "ogham"], spans ScriptTable.ogham),
    (["olck", "olchiki"], spans ScriptTable.olChiki),
    (["onao", "olonal"], spans ScriptTable.olOnal),
    (["hung", "oldhungarian"], spans ScriptTable.oldHungarian),
    (["ital", "olditalic"], spans ScriptTable.oldItalic),
    (["narb", "oldnortharabian"], spans ScriptTable.oldNorthArabian),
    (["perm", "oldpermic"], spans ScriptTable.oldPermic),
    (["xpeo", "oldpersian"], spans ScriptTable.oldPersian),
    (["sogo", "oldsogdian"], spans ScriptTable.oldSogdian),
    (["sarb", "oldsoutharabian"], spans ScriptTable.oldSouthArabian),
    (["orkh", "oldturkic"], spans ScriptTable.oldTurkic),
    (["ougr", "olduyghur"], spans ScriptTable.oldUyghur),
    (["orya", "oriya"], spans ScriptTable.oriya),
    (["osge", "osage"], spans ScriptTable.osage),
    (["osma", "osmanya"], spans ScriptTable.osmanya),
    (["hmng", "pahawhhmong"], spans ScriptTable.pahawhHmong),
    (["palm", "palmyrene"], spans ScriptTable.palmyrene),
    (["pauc", "paucinhau"], spans ScriptTable.pauCinHau),
    (["phag", "phagspa"], spans ScriptTable.phagsPa),
    (["phnx", "phoenician"], spans ScriptTable.phoenician),
    (["phlp", "psalterpahlavi"], spans ScriptTable.psalterPahlavi),
    (["rjng", "rejang"], spans ScriptTable.rejang),
    (["runr", "runic"], spans ScriptTable.runic),
    (["samr", "samaritan"], spans ScriptTable.samaritan),
    (["saur", "saurashtra"], spans ScriptTable.saurashtra),
    (["shrd", "sharada"], spans ScriptTable.sharada),
    (["shaw", "shavian"], spans ScriptTable.shavian),
    (["sidd", "siddham"], spans ScriptTable.siddham),
    (["sgnw", "signwriting"], spans ScriptTable.signwriting),
    (["sinh", "sinhala"], spans ScriptTable.sinhala),
    (["sogd", "sogdian"], spans ScriptTable.sogdian),
    (["sora", "sorasompeng"], spans ScriptTable.soraSompeng),
    (["soyo", "soyombo"], spans ScriptTable.soyombo),
    (["sund", "sundanese"], spans ScriptTable.sundanese),
    (["sunu", "sunuwar"], spans ScriptTable.sunuwar),
    (["sylo", "sylotinagri"], spans ScriptTable.sylotiNagri),
    (["syrc", "syriac"], spans ScriptTable.syriac),
    (["tglg", "tagalog"], spans ScriptTable.tagalog),
    (["tagb", "tagbanwa"], spans ScriptTable.tagbanwa),
    (["tale", "taile"], spans ScriptTable.taiLe),
    (["lana", "taitham"], spans ScriptTable.taiTham),
    (["tavt", "taiviet"], spans ScriptTable.taiViet),
    (["takr", "takri"], spans ScriptTable.takri),
    (["taml", "tamil"], spans ScriptTable.tamil),
    (["tnsa", "tangsa"], spans ScriptTable.tangsa),
    (["tang", "tangut"], spans ScriptTable.tangut),
    (["telu", "telugu"], spans ScriptTable.telugu),
    (["thaa", "thaana"], spans ScriptTable.thaana),
    (["thai"], spans ScriptTable.thai),
    (["tibt", "tibetan"], spans ScriptTable.tibetan),
    (["tfng", "tifinagh"], spans ScriptTable.tifinagh),
    (["tirh", "tirhuta"], spans ScriptTable.tirhuta),
    (["todr", "todhri"], spans ScriptTable.todhri),
    (["toto"], spans ScriptTable.toto),
    (["tutg", "tulutigalari"], spans ScriptTable.tuluTigalari),
    (["ugar", "ugaritic"], spans ScriptTable.ugaritic),
    (["vaii", "vai"], spans ScriptTable.vai),
    (["vith", "vithkuqi"], spans ScriptTable.vithkuqi),
    (["wcho", "wancho"], spans ScriptTable.wancho),
    (["wara", "warangciti"], spans ScriptTable.warangCiti),
    (["yezi", "yezidi"], spans ScriptTable.yezidi),
    (["yiii", "yi"], spans ScriptTable.yi),
    (["zanb", "zanabazarsquare"], spans ScriptTable.zanabazarSquare)]

/-- The scripts whose extensions differ from the script itself. -/
def extendedScripts : List (List String × CharSet) :=
   [(["adlm", "adlam"],
      union (spans ScriptTable.adlam) (spans ScriptExtensionTable.adlam)),
    (["arab", "arabic"],
      union (spans ScriptTable.arabic) (spans ScriptExtensionTable.arabic)),
    (["armn", "armenian"],
      union (spans ScriptTable.armenian) (spans ScriptExtensionTable.armenian)),
    (["avst", "avestan"],
      union (spans ScriptTable.avestan) (spans ScriptExtensionTable.avestan)),
    (["beng", "bengali"],
      union (spans ScriptTable.bengali) (spans ScriptExtensionTable.bengali)),
    (["bopo", "bopomofo"],
      union (spans ScriptTable.bopomofo) (spans ScriptExtensionTable.bopomofo)),
    (["bugi", "buginese"],
      union (spans ScriptTable.buginese) (spans ScriptExtensionTable.buginese)),
    (["buhd", "buhid"],
      union (spans ScriptTable.buhid) (spans ScriptExtensionTable.buhid)),
    (["cari", "carian"],
      union (spans ScriptTable.carian) (spans ScriptExtensionTable.carian)),
    (["aghb", "caucasianalbanian"],
      union (spans ScriptTable.caucasianAlbanian) (spans ScriptExtensionTable.caucasianAlbanian)),
    (["cakm", "chakma"],
      union (spans ScriptTable.chakma) (spans ScriptExtensionTable.chakma)),
    (["cher", "cherokee"],
      union (spans ScriptTable.cherokee) (spans ScriptExtensionTable.cherokee)),
    (["zyyy", "common"],
      diff (spans ScriptTable.common) (spans ScriptExtensionTable.common)),
    (["copt", "coptic", "qaac"],
      union (spans ScriptTable.coptic) (spans ScriptExtensionTable.coptic)),
    (["cprt", "cypriot"],
      union (spans ScriptTable.cypriot) (spans ScriptExtensionTable.cypriot)),
    (["cpmn", "cyprominoan"],
      union (spans ScriptTable.cyproMinoan) (spans ScriptExtensionTable.cyproMinoan)),
    (["cyrl", "cyrillic"],
      union (spans ScriptTable.cyrillic) (spans ScriptExtensionTable.cyrillic)),
    (["deva", "devanagari"],
      union (spans ScriptTable.devanagari) (spans ScriptExtensionTable.devanagari)),
    (["dogr", "dogra"],
      union (spans ScriptTable.dogra) (spans ScriptExtensionTable.dogra)),
    (["dupl", "duployan"],
      union (spans ScriptTable.duployan) (spans ScriptExtensionTable.duployan)),
    (["elba", "elbasan"],
      union (spans ScriptTable.elbasan) (spans ScriptExtensionTable.elbasan)),
    (["ethi", "ethiopic"],
      union (spans ScriptTable.ethiopic) (spans ScriptExtensionTable.ethiopic)),
    (["gara", "garay"],
      union (spans ScriptTable.garay) (spans ScriptExtensionTable.garay)),
    (["geor", "georgian"],
      union (spans ScriptTable.georgian) (spans ScriptExtensionTable.georgian)),
    (["glag", "glagolitic"],
      union (spans ScriptTable.glagolitic) (spans ScriptExtensionTable.glagolitic)),
    (["goth", "gothic"],
      union (spans ScriptTable.gothic) (spans ScriptExtensionTable.gothic)),
    (["gran", "grantha"],
      union (spans ScriptTable.grantha) (spans ScriptExtensionTable.grantha)),
    (["grek", "greek"],
      union (spans ScriptTable.greek) (spans ScriptExtensionTable.greek)),
    (["gujr", "gujarati"],
      union (spans ScriptTable.gujarati) (spans ScriptExtensionTable.gujarati)),
    (["gong", "gunjalagondi"],
      union (spans ScriptTable.gunjalaGondi) (spans ScriptExtensionTable.gunjalaGondi)),
    (["guru", "gurmukhi"],
      union (spans ScriptTable.gurmukhi) (spans ScriptExtensionTable.gurmukhi)),
    (["gukh", "gurungkhema"],
      union (spans ScriptTable.gurungKhema) (spans ScriptExtensionTable.gurungKhema)),
    (["hani", "han"],
      union (spans ScriptTable.han) (spans ScriptExtensionTable.han)),
    (["hang", "hangul"],
      union (spans ScriptTable.hangul) (spans ScriptExtensionTable.hangul)),
    (["rohg", "hanifirohingya"],
      union (spans ScriptTable.hanifiRohingya) (spans ScriptExtensionTable.hanifiRohingya)),
    (["hano", "hanunoo"],
      union (spans ScriptTable.hanunoo) (spans ScriptExtensionTable.hanunoo)),
    (["hebr", "hebrew"],
      union (spans ScriptTable.hebrew) (spans ScriptExtensionTable.hebrew)),
    (["hira", "hiragana"],
      union (spans ScriptTable.hiragana) (spans ScriptExtensionTable.hiragana)),
    (["zinh", "inherited", "qaai"],
      diff (spans ScriptTable.inherited) (spans ScriptExtensionTable.inherited)),
    (["java", "javanese"],
      union (spans ScriptTable.javanese) (spans ScriptExtensionTable.javanese)),
    (["kthi", "kaithi"],
      union (spans ScriptTable.kaithi) (spans ScriptExtensionTable.kaithi)),
    (["knda", "kannada"],
      union (spans ScriptTable.kannada) (spans ScriptExtensionTable.kannada)),
    (["kana", "katakana"],
      union (spans ScriptTable.katakana) (spans ScriptExtensionTable.katakana)),
    (["kali", "kayahli"],
      union (spans ScriptTable.kayahLi) (spans ScriptExtensionTable.kayahLi)),
    (["khoj", "khojki"],
      union (spans ScriptTable.khojki) (spans ScriptExtensionTable.khojki)),
    (["sind", "khudawadi"],
      union (spans ScriptTable.khudawadi) (spans ScriptExtensionTable.khudawadi)),
    (["latn", "latin"],
      union (spans ScriptTable.latin) (spans ScriptExtensionTable.latin)),
    (["limb", "limbu"],
      union (spans ScriptTable.limbu) (spans ScriptExtensionTable.limbu)),
    (["lina", "lineara"],
      union (spans ScriptTable.linearA) (spans ScriptExtensionTable.linearA)),
    (["linb", "linearb"],
      union (spans ScriptTable.linearB) (spans ScriptExtensionTable.linearB)),
    (["lisu"],
      union (spans ScriptTable.lisu) (spans ScriptExtensionTable.lisu)),
    (["lyci", "lycian"],
      union (spans ScriptTable.lycian) (spans ScriptExtensionTable.lycian)),
    (["lydi", "lydian"],
      union (spans ScriptTable.lydian) (spans ScriptExtensionTable.lydian)),
    (["mahj", "mahajani"],
      union (spans ScriptTable.mahajani) (spans ScriptExtensionTable.mahajani)),
    (["mlym", "malayalam"],
      union (spans ScriptTable.malayalam) (spans ScriptExtensionTable.malayalam)),
    (["mand", "mandaic"],
      union (spans ScriptTable.mandaic) (spans ScriptExtensionTable.mandaic)),
    (["mani", "manichaean"],
      union (spans ScriptTable.manichaean) (spans ScriptExtensionTable.manichaean)),
    (["gonm", "masaramgondi"],
      union (spans ScriptTable.masaramGondi) (spans ScriptExtensionTable.masaramGondi)),
    (["mero", "meroitichieroglyphs"],
      union (spans ScriptTable.meroiticHieroglyphs) (spans ScriptExtensionTable.meroiticHieroglyphs)),
    (["modi"],
      union (spans ScriptTable.modi) (spans ScriptExtensionTable.modi)),
    (["mong", "mongolian"],
      union (spans ScriptTable.mongolian) (spans ScriptExtensionTable.mongolian)),
    (["mult", "multani"],
      union (spans ScriptTable.multani) (spans ScriptExtensionTable.multani)),
    (["mymr", "myanmar"],
      union (spans ScriptTable.myanmar) (spans ScriptExtensionTable.myanmar)),
    (["nand", "nandinagari"],
      union (spans ScriptTable.nandinagari) (spans ScriptExtensionTable.nandinagari)),
    (["nkoo", "nko"],
      union (spans ScriptTable.nko) (spans ScriptExtensionTable.nko)),
    (["onao", "olonal"],
      union (spans ScriptTable.olOnal) (spans ScriptExtensionTable.olOnal)),
    (["hung", "oldhungarian"],
      union (spans ScriptTable.oldHungarian) (spans ScriptExtensionTable.oldHungarian)),
    (["perm", "oldpermic"],
      union (spans ScriptTable.oldPermic) (spans ScriptExtensionTable.oldPermic)),
    (["orkh", "oldturkic"],
      union (spans ScriptTable.oldTurkic) (spans ScriptExtensionTable.oldTurkic)),
    (["ougr", "olduyghur"],
      union (spans ScriptTable.oldUyghur) (spans ScriptExtensionTable.oldUyghur)),
    (["orya", "oriya"],
      union (spans ScriptTable.oriya) (spans ScriptExtensionTable.oriya)),
    (["osge", "osage"],
      union (spans ScriptTable.osage) (spans ScriptExtensionTable.osage)),
    (["phag", "phagspa"],
      union (spans ScriptTable.phagsPa) (spans ScriptExtensionTable.phagsPa)),
    (["phlp", "psalterpahlavi"],
      union (spans ScriptTable.psalterPahlavi) (spans ScriptExtensionTable.psalterPahlavi)),
    (["runr", "runic"],
      union (spans ScriptTable.runic) (spans ScriptExtensionTable.runic)),
    (["samr", "samaritan"],
      union (spans ScriptTable.samaritan) (spans ScriptExtensionTable.samaritan)),
    (["shrd", "sharada"],
      union (spans ScriptTable.sharada) (spans ScriptExtensionTable.sharada)),
    (["shaw", "shavian"],
      union (spans ScriptTable.shavian) (spans ScriptExtensionTable.shavian)),
    (["sinh", "sinhala"],
      union (spans ScriptTable.sinhala) (spans ScriptExtensionTable.sinhala)),
    (["sogd", "sogdian"],
      union (spans ScriptTable.sogdian) (spans ScriptExtensionTable.sogdian)),
    (["sunu", "sunuwar"],
      union (spans ScriptTable.sunuwar) (spans ScriptExtensionTable.sunuwar)),
    (["sylo", "sylotinagri"],
      union (spans ScriptTable.sylotiNagri) (spans ScriptExtensionTable.sylotiNagri)),
    (["syrc", "syriac"],
      union (spans ScriptTable.syriac) (spans ScriptExtensionTable.syriac)),
    (["tglg", "tagalog"],
      union (spans ScriptTable.tagalog) (spans ScriptExtensionTable.tagalog)),
    (["tagb", "tagbanwa"],
      union (spans ScriptTable.tagbanwa) (spans ScriptExtensionTable.tagbanwa)),
    (["tale", "taile"],
      union (spans ScriptTable.taiLe) (spans ScriptExtensionTable.taiLe)),
    (["takr", "takri"],
      union (spans ScriptTable.takri) (spans ScriptExtensionTable.takri)),
    (["taml", "tamil"],
      union (spans ScriptTable.tamil) (spans ScriptExtensionTable.tamil)),
    (["tang", "tangut"],
      union (spans ScriptTable.tangut) (spans ScriptExtensionTable.tangut)),
    (["telu", "telugu"],
      union (spans ScriptTable.telugu) (spans ScriptExtensionTable.telugu)),
    (["thaa", "thaana"],
      union (spans ScriptTable.thaana) (spans ScriptExtensionTable.thaana)),
    (["thai"],
      union (spans ScriptTable.thai) (spans ScriptExtensionTable.thai)),
    (["tibt", "tibetan"],
      union (spans ScriptTable.tibetan) (spans ScriptExtensionTable.tibetan)),
    (["tfng", "tifinagh"],
      union (spans ScriptTable.tifinagh) (spans ScriptExtensionTable.tifinagh)),
    (["tirh", "tirhuta"],
      union (spans ScriptTable.tirhuta) (spans ScriptExtensionTable.tirhuta)),
    (["todr", "todhri"],
      union (spans ScriptTable.todhri) (spans ScriptExtensionTable.todhri)),
    (["toto"],
      union (spans ScriptTable.toto) (spans ScriptExtensionTable.toto)),
    (["tutg", "tulutigalari"],
      union (spans ScriptTable.tuluTigalari) (spans ScriptExtensionTable.tuluTigalari)),
    (["yezi", "yezidi"],
      union (spans ScriptTable.yezidi) (spans ScriptExtensionTable.yezidi)),
    (["yiii", "yi"],
      union (spans ScriptTable.yi) (spans ScriptExtensionTable.yi))]

/-- The extended entry of a script hides its plain one. -/
def scriptExtensions : List (List String × CharSet) :=
  extendedScripts ++ scripts

end Routing.Unicode
