import Routing.Unicode.Age
import Routing.Unicode.Boundary

/-!
# Looking properties up by name

A property, a general category or a script is named in a loose spelling, alone or as the value of a
property.

* `PropertyQuery.resolve`: the set that a name stands for, or what is wrong with the name
-/
set_option maxRecDepth 20000

namespace Routing.Unicode

open CharSet

inductive PropertyError where
  | unknownProperty
  | unknownValue
  deriving DecidableEq, Repr

inductive PropertyQuery where
  | byName (name : List Char)
  | byValue (property value : List Char)
  deriving DecidableEq, Repr

/-- Lower case, without spaces, underscores and hyphens, and without a leading "is". The one
abbreviation that this would mistake for a category keeps its leading letters. -/
def looseName (name : List Char) : List Char :=
  let keep (cs : List Char) : List Char :=
    (cs.filter fun c => c != ' ' && c != '_' && c != '-' && decide (c.toNat < 128)).map Char.toLower
  match name with
  | a :: b :: rest =>
    if a.toLower = 'i' ∧ b.toLower = 's' then
      if keep rest = ['c'] then ['i', 's', 'c'] else keep rest
    else keep name
  | _ => keep name

def changesWhenCasemapped : CharSet :=
  unionAll [spans PropertyTable.changesWhenLowercased, spans PropertyTable.changesWhenUppercased,
    spans PropertyTable.changesWhenTitlecased]

def categoryNames : List (List String × CharSet) :=
   [(["c", "other"], Category.other),
    (["cc", "control", "cntrl"], Category.control),
    (["cf", "format"], Category.format),
    (["cn", "unassigned"], Category.unassigned),
    (["co", "privateuse"], Category.privateUse),
    (["l", "letter"], Category.letter),
    (["lc", "casedletter"], Category.casedLetter),
    (["ll", "lowercaseletter"], Category.lowercaseLetter),
    (["lm", "modifierletter"], Category.modifierLetter),
    (["lo", "otherletter"], Category.otherLetter),
    (["lt", "titlecaseletter"], Category.titlecaseLetter),
    (["lu", "uppercaseletter"], Category.uppercaseLetter),
    (["m", "mark", "combiningmark"], Category.mark),
    (["mc", "spacingmark"], Category.spacingMark),
    (["me", "enclosingmark"], Category.enclosingMark),
    (["mn", "nonspacingmark"], Category.nonspacingMark),
    (["n", "number"], Category.number),
    (["nd", "decimalnumber", "digit"], Category.decimalNumber),
    (["nl", "letternumber"], Category.letterNumber),
    (["no", "othernumber"], Category.otherNumber),
    (["p", "punctuation", "punct"], Category.punctuation),
    (["pc", "connectorpunctuation"], Category.connectorPunctuation),
    (["pd", "dashpunctuation"], Category.dashPunctuation),
    (["pe", "closepunctuation"], Category.closePunctuation),
    (["pf", "finalpunctuation"], Category.finalPunctuation),
    (["pi", "initialpunctuation"], Category.initialPunctuation),
    (["po", "otherpunctuation"], Category.otherPunctuation),
    (["ps", "openpunctuation"], Category.openPunctuation),
    (["s", "symbol"], Category.symbol),
    (["sc", "currencysymbol"], Category.currencySymbol),
    (["sk", "modifiersymbol"], Category.modifierSymbol),
    (["sm", "mathsymbol"], Category.mathSymbol),
    (["so", "othersymbol"], Category.otherSymbol),
    (["z", "separator"], Category.separator),
    (["zl", "lineseparator"], Category.lineSeparator),
    (["zp", "paragraphseparator"], Category.paragraphSeparator),
    (["zs", "spaceseparator"], Category.spaceSeparator),
    (["any"], any),
    (["assigned"], Category.assigned),
    (["ascii"], range '\x00' '\x7f')]

def binaryNames : List (List String × CharSet) :=
   [(["asciihexdigit", "ahex"], spans PropertyTable.asciiHexDigit),
    (["alphabetic", "alpha"], alphabetic),
    (["bidicontrol", "bidic"], spans PropertyTable.bidiControl),
    (["caseignorable", "ci"], caseIgnorable),
    (["cased"], cased),
    (["changeswhencasefolded", "cwcf"], spans PropertyTable.changesWhenCasefolded),
    (["changeswhencasemapped", "cwcm"], changesWhenCasemapped),
    (["changeswhenlowercased", "cwl"], spans PropertyTable.changesWhenLowercased),
    (["changeswhentitlecased", "cwt"], spans PropertyTable.changesWhenTitlecased),
    (["changeswhenuppercased", "cwu"], spans PropertyTable.changesWhenUppercased),
    (["dash"], spans PropertyTable.dash),
    (["defaultignorablecodepoint", "di"], defaultIgnorable),
    (["deprecated", "dep"], spans PropertyTable.deprecated),
    (["diacritic", "dia"], spans PropertyTable.diacritic),
    (["emoji"], spans PropertyTable.emoji),
    (["emojicomponent", "ecomp"], spans PropertyTable.emojiComponent),
    (["emojimodifier", "emod"], spans PropertyTable.emojiModifier),
    (["emojimodifierbase", "ebase"], spans PropertyTable.emojiModifierBase),
    (["emojipresentation", "epres"], spans PropertyTable.emojiPresentation),
    (["extendedpictographic", "extpict"], spans PropertyTable.extendedPictographic),
    (["extender", "ext"], spans PropertyTable.extender),
    (["graphemebase", "grbase"], graphemeBase),
    (["graphemeextend", "grext"], graphemeExtend),
    (["graphemelink", "grlink"], spans PropertyTable.graphemeLink),
    (["hexdigit", "hex"], spans PropertyTable.hexDigit),
    (["hyphen"], spans PropertyTable.hyphen),
    (["idsbinaryoperator", "idsb"], spans PropertyTable.idsBinaryOperator),
    (["idstrinaryoperator", "idst"], spans PropertyTable.idsTrinaryOperator),
    (["idsunaryoperator", "idsu"], spans PropertyTable.idsUnaryOperator),
    (["idcompatmathcontinue"], spans PropertyTable.idCompatMathContinue),
    (["idcompatmathstart"], spans PropertyTable.idCompatMathStart),
    (["idcontinue", "idc"], idContinue),
    (["idstart", "ids"], idStart),
    (["ideographic", "ideo"], spans PropertyTable.ideographic),
    (["joincontrol", "joinc"], spans PropertyTable.joinControl),
    (["logicalorderexception", "loe"], spans PropertyTable.logicalOrderException),
    (["lowercase", "lower"], lowercase),
    (["math"], math),
    (["modifiercombiningmark", "mcm"], spans PropertyTable.modifierCombiningMark),
    (["noncharactercodepoint", "nchar"], spans PropertyTable.noncharacterCodePoint),
    (["otheralphabetic", "oalpha"], spans PropertyTable.otherAlphabetic),
    (["otherdefaultignorablecodepoint", "odi"], spans PropertyTable.otherDefaultIgnorable),
    (["othergraphemeextend", "ogrext"], spans PropertyTable.otherGraphemeExtend),
    (["otheridcontinue", "oidc"], spans PropertyTable.otherIdContinue),
    (["otheridstart", "oids"], spans PropertyTable.otherIdStart),
    (["otherlowercase", "olower"], spans PropertyTable.otherLowercase),
    (["othermath", "omath"], spans PropertyTable.otherMath),
    (["otheruppercase", "oupper"], spans PropertyTable.otherUppercase),
    (["patternsyntax", "patsyn"], spans PropertyTable.patternSyntax),
    (["patternwhitespace", "patws"], spans PropertyTable.patternWhiteSpace),
    (["prependedconcatenationmark", "pcm"], spans PropertyTable.prependedMark),
    (["quotationmark", "qmark"], spans PropertyTable.quotationMark),
    (["radical"], spans PropertyTable.radical),
    (["regionalindicator", "ri"], spans PropertyTable.regionalIndicator),
    (["sentenceterminal", "sterm"], spans PropertyTable.sentenceTerminal),
    (["softdotted", "sd"], spans PropertyTable.softDotted),
    (["terminalpunctuation", "term"], spans PropertyTable.terminalPunctuation),
    (["unifiedideograph", "uideo"], spans PropertyTable.unifiedIdeograph),
    (["uppercase", "upper"], uppercase),
    (["variationselector", "vs"], spans PropertyTable.variationSelector),
    (["whitespace", "wspace", "space"], whiteSpace),
    (["xidcontinue", "xidc"], xidContinue),
    (["xidstart", "xids"], xidStart)]

/-- Properties that have values, each with the characters of every value. -/
def valuedNames : List (List String × List (List String × CharSet)) :=
   [(["age"], ages),
    (["generalcategory", "gc"], categoryNames),
    (["graphemeclusterbreak", "gcb"], graphemeBreaks),
    (["script", "sc"], scripts),
    (["scriptextensions", "scx"], scriptExtensions),
    (["sentencebreak", "sb"], sentenceBreaks),
    (["wordbreak", "wb"], wordBreaks)]

/-- Properties that have a name and no characters to select. -/
def otherNames : List String :=
   ["bidiclass", "bc", "bidimirrored", "bidim", "bidimirroringglyph", "bmg", "bidipairedbracket",
    "bpb", "bidipairedbrackettype", "bpt", "block", "blk", "canonicalcombiningclass", "ccc",
    "casefolding", "cf", "changeswhennfkccasefolded", "cwkcf", "cjkaccountingnumeric",
    "kaccountingnumeric", "cjkcompatibilityvariant", "kcompatibilityvariant", "cjkiicore", "kiicore",
    "cjkirggsource", "kirggsource", "cjkirghsource", "kirghsource", "cjkirgjsource", "kirgjsource",
    "cjkirgkpsource", "kirgkpsource", "cjkirgksource", "kirgksource", "cjkirgmsource",
    "kirgmsource", "cjkirgssource", "kirgssource", "cjkirgtsource", "kirgtsource",
    "cjkirguksource", "kirguksource", "cjkirgusource", "kirgusource", "cjkirgvsource",
    "kirgvsource", "cjkothernumeric", "kothernumeric", "cjkprimarynumeric", "kprimarynumeric",
    "cjkrsunicode", "krsunicode", "unicoderadicalstroke", "urs", "compositionexclusion", "ce",
    "decompositionmapping", "dm", "decompositiontype", "dt", "eastasianwidth", "ea",
    "equivalentunifiedideograph", "equideo", "expandsonnfc", "xonfc", "expandsonnfd", "xonfd",
    "expandsonnfkc", "xonfkc", "expandsonnfkd", "xonfkd", "fcnfkcclosure", "fcnfkc",
    "fullcompositionexclusion", "compex", "hangulsyllabletype", "hst", "ocomment", "isc",
    "indicconjunctbreak", "incb", "indicpositionalcategory", "inpc", "indicsyllabiccategory", "insc",
    "jamoshortname", "jsn", "joininggroup", "jg", "joiningtype", "jt", "kehcat", "kehdesc", "kehhg",
    "kehifao", "kehjsesh", "kehnomirror", "kehnorotate", "linebreak", "lb", "lowercasemapping", "lc",
    "nfcquickcheck", "nfcqc", "nfdquickcheck", "nfdqc", "nfkccasefold", "nfkccf",
    "nfkcquickcheck", "nfkcqc", "nfkcsimplecasefold", "nfkcscf", "nfkdquickcheck", "nfkdqc", "name",
    "na", "namealias", "numerictype", "nt", "numericvalue", "nv", "simplecasefolding", "scf", "sfc",
    "simplelowercasemapping", "slc", "simpletitlecasemapping", "stc", "simpleuppercasemapping",
    "suc", "titlecasemapping", "tc", "unicode1name", "na1", "uppercasemapping", "uc",
    "verticalorientation", "vo"]

def findNamed {α : Type} (table : List (List String × α)) (name : String) : Option α :=
  (table.find? (·.1.contains name)).map (·.2)

/-- Whether the name is that of some property, of whatever kind. -/
def isPropertyName (name : String) : Bool :=
  (findNamed binaryNames name).isSome || (findNamed valuedNames name).isSome ||
    otherNames.contains name

/-- A bare name is that of a binary property, else of a category, else of a script. The three names
that a category shares with a property of another kind mean the category. -/
def resolveName (name : String) : Except PropertyError CharSet :=
  if isPropertyName name && !(["cf", "sc", "lc"].contains name) then
    match findNamed binaryNames name with
    | some set => .ok set
    | none => .error .unknownProperty
  else if ["cs", "surrogate", "zzzz", "unknown", "hrkt", "katakanaorhiragana"].contains name then
    .error .unknownValue
  else
    match findNamed categoryNames name <|> findNamed scripts name with
    | some set => .ok set
    | none => .error .unknownProperty

def resolveValue (property value : String) : Except PropertyError CharSet :=
  match findNamed valuedNames property with
  | some table =>
    match findNamed table value with
    | some set => .ok set
    | none => .error .unknownValue
  | none => .error (if isPropertyName property then .unknownValue else .unknownProperty)

/-- The set of characters that a query names. -/
def PropertyQuery.resolve : PropertyQuery → Except PropertyError CharSet
  | byName name => resolveName (String.ofList (looseName name))
  | byValue property value =>
    resolveValue (String.ofList (looseName property)) (String.ofList (looseName value))

end Routing.Unicode
