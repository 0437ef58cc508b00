import Routing.Unicode.CategoryTable
import Routing.Unicode.CharSet
import Routing.Unicode.PropertyTable

/-!
# Properties of characters

The general categories, their groups, and the binary properties that are put together from them.

* `word`, `digit`, `whiteSpace`: the classes that regular expressions abbreviate
* `alphabetic`: letters of any script
* `unprintable`: what has no glyph of its own
-/
namespace Routing.Unicode

open CharSet

/-! ## General categories -/

namespace Category

def uppercaseLetter : CharSet := spans CategoryTable.uppercaseLetter
def lowercaseLetter : CharSet := spans CategoryTable.lowercaseLetter
def titlecaseLetter : CharSet := spans CategoryTable.titlecaseLetter
def modifierLetter : CharSet := spans CategoryTable.modifierLetter
def otherLetter : CharSet := spans CategoryTable.otherLetter
def nonspacingMark : CharSet := spans CategoryTable.nonspacingMark
def spacingMark : CharSet := spans CategoryTable.spacingMark
def enclosingMark : CharSet := spans CategoryTable.enclosingMark
def decimalNumber : CharSet := spans CategoryTable.decimalNumber
def letterNumber : CharSet := spans CategoryTable.letterNumber
def otherNumber : CharSet := spans CategoryTable.otherNumber
def connectorPunctuation : CharSet := spans CategoryTable.connectorPunctuation
def dashPunctuation : CharSet := spans CategoryTable.dashPunctuation
def openPunctuation : CharSet := spans CategoryTable.openPunctuation
def closePunctuation : CharSet := spans CategoryTable.closePunctuation
def initialPunctuation : CharSet := spans CategoryTable.initialPunctuation
def finalPunctuation : CharSet := spans CategoryTable.finalPunctuation
def otherPunctuation : CharSet := spans CategoryTable.otherPunctuation
def mathSymbol : CharSet := spans CategoryTable.mathSymbol
def currencySymbol : CharSet := spans CategoryTable.currencySymbol
def modifierSymbol : CharSet := spans CategoryTable.modifierSymbol
def otherSymbol : CharSet := spans CategoryTable.otherSymbol
def spaceSeparator : CharSet := spans CategoryTable.spaceSeparator
def lineSeparator : CharSet := spans CategoryTable.lineSeparator
def paragraphSeparator : CharSet := spans CategoryTable.paragraphSeparator
def control : CharSet := spans CategoryTable.control
def format : CharSet := spans CategoryTable.format
def privateUse : CharSet := spans CategoryTable.privateUse

def casedLetter : CharSet :=
  unionAll [uppercaseLetter, lowercaseLetter, titlecaseLetter]

def letter : CharSet :=
  unionAll [lowercaseLetter, uppercaseLetter, titlecaseLetter, modifierLetter, otherLetter]

def mark : CharSet :=
  unionAll [nonspacingMark, spacingMark, enclosingMark]

def number : CharSet :=
  unionAll [decimalNumber, letterNumber, otherNumber]

def punctuation : CharSet :=
  unionAll [connectorPunctuation, dashPunctuation, openPunctuation, closePunctuation,
    initialPunctuation, finalPunctuation, otherPunctuation]

def symbol : CharSet :=
  unionAll [mathSymbol, currencySymbol, modifierSymbol, otherSymbol]

def separator : CharSet :=
  unionAll [spaceSeparator, lineSeparator, paragraphSeparator]

/-- The characters that have been given a meaning; of the others, none is a surrogate, since a
surrogate is no character. -/
def assigned : CharSet :=
  unionAll [letter, mark, number, punctuation, symbol, separator, control, format, privateUse]

def unassigned : CharSet :=
  compl assigned

def other : CharSet :=
  unionAll [control, format, privateUse, unassigned]

end Category

open Category

/-! ## Binary properties -/

def lowercase : CharSet := union lowercaseLetter (spans PropertyTable.otherLowercase)

def uppercase : CharSet := union uppercaseLetter (spans PropertyTable.otherUppercase)

def cased : CharSet := unionAll [lowercase, uppercase, titlecaseLetter]

def alphabetic : CharSet :=
  unionAll [lowercase, uppercase, titlecaseLetter, modifierLetter, otherLetter, letterNumber,
    spans PropertyTable.otherAlphabetic]

def whiteSpace : CharSet := spans PropertyTable.whiteSpace

def digit : CharSet := decimalNumber

/-- What a word is made of: letters, marks, digits, connectors and joiners. -/
def word : CharSet :=
  unionAll [alphabetic, mark, decimalNumber, connectorPunctuation, spans PropertyTable.joinControl]

def asciiWord : CharSet :=
  unionAll [range '0' '9', range 'A' 'Z', single '_', range 'a' 'z']

def math : CharSet := union mathSymbol (spans PropertyTable.otherMath)

def graphemeExtend : CharSet :=
  unionAll [enclosingMark, nonspacingMark, spans PropertyTable.otherGraphemeExtend]

def graphemeBase : CharSet :=
  compl (unionAll [control, format, privateUse, unassigned, lineSeparator, paragraphSeparator,
    graphemeExtend])

def caseIgnorable : CharSet :=
  unionAll [nonspacingMark, enclosingMark, format, modifierLetter, modifierSymbol,
    spans PropertyTable.wordBreakQuotes]

/-- Characters reserved for the syntax of patterns, which no identifier holds. -/
def patternReserved : CharSet :=
  union (spans PropertyTable.patternSyntax) (spans PropertyTable.patternWhiteSpace)

def idStart : CharSet :=
  union (diff (union letter letterNumber) patternReserved) (spans PropertyTable.otherIdStart)

def idContinue : CharSet :=
  union
    (diff (unionAll [idStart, nonspacingMark, spacingMark, decimalNumber, connectorPunctuation])
      patternReserved)
    (spans PropertyTable.otherIdContinue)

def xidStart : CharSet := diff idStart (spans PropertyTable.notXidStart)

def xidContinue : CharSet := diff idContinue (spans PropertyTable.notXidContinue)

/-- Format characters that are nevertheless shown. -/
def shownFormat : CharSet :=
  unionAll [range '\ufff9' '\ufffb', range (Char.ofNat 0x13430) (Char.ofNat 0x1343F),
    spans PropertyTable.prependedMark]

def defaultIgnorable : CharSet :=
  union
    (diff (union format (spans PropertyTable.variationSelector)) (union whiteSpace shownFormat))
    (spans PropertyTable.otherDefaultIgnorable)

/-- Characters without a glyph of their own, the plain space apart. -/
def unprintable : CharSet :=
  diff (unionAll [control, format, privateUse, unassigned, separator]) (single ' ')

end Routing.Unicode
