import Routing.Unicode.BreakTable
import Routing.Unicode.Property
import Routing.Unicode.Script

/-!
# Classes for the boundaries of text

How a character takes part in graphemes, in words and in sentences. Each list holds the classes of one
property under their names in the loose spelling; characters in none of them have no class.

* `graphemeBreaks`, `wordBreaks`, `sentenceBreaks`: the classes of the three properties
-/
namespace Routing.Unicode

open CharSet

def point (n : Nat) : CharSet := single (Char.ofNat n)

def points (first last : Nat) : CharSet := range (Char.ofNat first) (Char.ofNat last)

/-- The tags, format characters that extend the one before them. -/
def tags : CharSet := points 0xE0020 0xE007F

def joiner : CharSet := point 0x200D

/-- The number signs that stand before digits and count as one of them. -/
def numberSign : CharSet := diff (spans PropertyTable.prependedMark) (point 0x70F)

def extending : CharSet := union graphemeExtend (spans PropertyTable.emojiModifier)

namespace Grapheme

def control : CharSet :=
  diff
    (unionAll
      [diff (unionAll [Category.lineSeparator, Category.paragraphSeparator, Category.control,
          Category.format])
        (union (spans PropertyTable.prependedMark) tags),
      inter Category.unassigned defaultIgnorable])
    (unionAll [single '\n', single '\r', points 0x200C 0x200D])

def spacingMark : CharSet :=
  diff (unionAll [diff Category.spacingMark graphemeExtend, point 0xE33, point 0xEB3])
    (spans BreakTable.notSpacingMark)

/-- A syllable of Hangul without a final consonant. Every block of 28 starts with one. -/
def openSyllable : CharSet := spans [⟨0xAC00, 0xD788, 28⟩]

end Grapheme

def graphemeBreaks : List (List String × CharSet) :=
   [(["control", "cn"], Grapheme.control),
    (["cr"], single '\r'),
    (["extend", "ex"], extending),
    (["l"], union (points 0x1100 0x115F) (points 0xA960 0xA97C)),
    (["lf"], single '\n'),
    (["lv"], Grapheme.openSyllable),
    (["lvt"], diff (points 0xAC00 0xD7A3) Grapheme.openSyllable),
    (["prepend", "pp"], spans BreakTable.graphemePrepend),
    (["regionalindicator", "ri"], spans PropertyTable.regionalIndicator),
    (["spacingmark", "sm"], Grapheme.spacingMark),
    (["t"], union (points 0x11A8 0x11FF) (points 0xD7CB 0xD7FB)),
    (["v"], spans BreakTable.vowelJamo),
    (["zwj"], joiner)]

namespace Word

def extend : CharSet := diff (union extending Category.spacingMark) joiner

def katakana : CharSet :=
  diff (union (spans ScriptTable.katakana) (spans BreakTable.wordKatakana)) extend

def hebrewLetter : CharSet := inter (spans ScriptTable.hebrew) Category.otherLetter

/-- Letters of alphabets. The other writing systems have classes of their own or none. -/
def letter : CharSet :=
  diff (union alphabetic (spans BreakTable.wordLetter))
    (unionAll [spans PropertyTable.ideographic, katakana, spans BreakTable.spacelessLetter,
      spans ScriptTable.hiragana, extend, hebrewLetter])

def numeric : CharSet := unionAll [Category.decimalNumber, point 0x66B, numberSign]

def format : CharSet :=
  diff Category.format
    (unionAll [points 0x200B 0x200D, tags, spans PropertyTable.prependedMark])

end Word

def wordBreaks : List (List String × CharSet) :=
   [(["aletter", "le"], Word.letter),
    (["cr"], single '\r'),
    (["doublequote", "dq"], single '"'),
    (["extend"], Word.extend),
    (["extendnumlet", "ex"], union Category.connectorPunctuation (point 0x202F)),
    (["format", "fo"], Word.format),
    (["hebrewletter", "hl"], Word.hebrewLetter),
    (["katakana", "ka"], Word.katakana),
    (["lf"], single '\n'),
    (["midletter", "ml"], spans BreakTable.midLetter),
    (["midnum", "mn"], spans BreakTable.midNumber),
    (["midnumlet", "mb"], spans BreakTable.midNumberOrLetter),
    (["newline", "nl"], unionAll [points 0xB 0xC, point 0x85, points 0x2028 0x2029]),
    (["numeric", "nu"], Word.numeric),
    (["regionalindicator", "ri"], spans PropertyTable.regionalIndicator),
    (["singlequote", "sq"], single '\''),
    (["wsegspace"],
      diff Category.spaceSeparator (unionAll [point 0xA0, point 0x2007, point 0x202F])),
    (["zwj"], joiner)]

namespace Sentence

def extend : CharSet := unionAll [graphemeExtend, Category.spacingMark, joiner]

def lineEnd : CharSet := union (point 0x85) (points 0x2028 0x2029)

def fullStop : CharSet := unionAll [single '.', point 0x2024, point 0xFE52, point 0xFF0E]

/-- The letters of Georgian are used without case, although they have one. -/
def lower : CharSet :=
  diff lowercase (unionAll [graphemeExtend, points 0x10D0 0x10FA, points 0x10FD 0x10FF])

def upper : CharSet :=
  diff (union Category.titlecaseLetter uppercase)
    (union (points 0x1C90 0x1CBA) (points 0x1CBD 0x1CBF))

def caseless : CharSet :=
  diff (union alphabetic (point 0x5F3)) (unionAll [lower, upper, extend])

end Sentence

def sentenceBreaks : List (List String × CharSet) :=
   [(["aterm", "at"], Sentence.fullStop),
    (["close", "cl"],
      unionAll [Category.openPunctuation, Category.closePunctuation, Category.initialPunctuation,
        Category.finalPunctuation, spans BreakTable.sentenceClose]),
    (["cr"], single '\r'),
    (["extend", "ex"], Sentence.extend),
    (["format", "fo"], diff Category.format (unionAll [points 0x200C 0x200D, tags, numberSign])),
    (["lf"], single '\n'),
    (["lower", "lo"], Sentence.lower),
    (["numeric", "nu"], union Word.numeric (point 0x66C)),
    (["oletter", "le"], Sentence.caseless),
    (["scontinue", "sc"], spans BreakTable.sentenceContinue),
    (["sep", "se"], Sentence.lineEnd),
    (["sp"], diff whiteSpace (unionAll [Sentence.lineEnd, single '\r', single '\n'])),
    (["sterm", "st"], diff (spans PropertyTable.sentenceTerminal) Sentence.fullStop),
    (["upper", "up"], Sentence.upper)]

end Routing.Unicode
