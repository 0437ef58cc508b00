import Routing.Unicode.Property

/-!
# The newest characters

Classes of characters in expressions follow version 16.0 of the standard. The names of groups and the
quoting of text follow version 17.0, which has added characters.

* `Latest.alphabetic`, `Latest.alphanumeric`: letters and digits of any script
* `Latest.unseen`: what is escaped when text is quoted
-/
set_option maxRecDepth 20000

namespace Routing.Unicode.Latest

open CharSet

/-- Alphabetic characters that version 17.0 has added. -/
def addedLetter : List Span :=
    [⟨0x88F, 0x88F, 1⟩, ⟨0xC5C, 0xC5C, 1⟩, ⟨0xCDC, 0xCDC, 1⟩, ⟨0xA7CE, 0xA7CF, 1⟩,
    ⟨0xA7D2, 0xA7D2, 1⟩, ⟨0xA7D4, 0xA7D4, 1⟩, ⟨0xA7F1, 0xA7F1, 1⟩, ⟨0x10940, 0x10959, 1⟩,
    ⟨0x10EC5, 0x10EC7, 1⟩, ⟨0x10EFA, 0x10EFB, 1⟩, ⟨0x11B60, 0x11B67, 1⟩, ⟨0x11DB0, 0x11DDB, 1⟩,
    ⟨0x16EA0, 0x16EB8, 1⟩, ⟨0x16EBB, 0x16ED3, 1⟩, ⟨0x16FF2, 0x16FF6, 1⟩, ⟨0x187F8, 0x187FF, 1⟩,
    ⟨0x18D09, 0x18D1E, 1⟩, ⟨0x18D80, 0x18DF2, 1⟩, ⟨0x1E6C0, 0x1E6DE, 1⟩, ⟨0x1E6E0, 0x1E6F5, 1⟩,
    ⟨0x1E6FE, 0x1E6FF, 1⟩, ⟨0x2B73A, 0x2B73F, 1⟩, ⟨0x2CEA2, 0x2CEAD, 1⟩, ⟨0x323B0, 0x33479, 1⟩]

/-- Numbers that version 17.0 has added. -/
def addedNumber : List Span :=
    [⟨0x11DE0, 0x11DE9, 1⟩, ⟨0x16FF4, 0x16FF6, 1⟩]

/-- Marks that version 17.0 has added. -/
def addedMark : List Span :=
    [⟨0x1ACF, 0x1ADD, 1⟩, ⟨0x1AE0, 0x1AEB, 1⟩, ⟨0x10EFA, 0x10EFB, 1⟩, ⟨0x11B60, 0x11B60, 1⟩,
    ⟨0x11B62, 0x11B64, 1⟩, ⟨0x11B66, 0x11B66, 1⟩, ⟨0x1E6E3, 0x1E6E3, 1⟩, ⟨0x1E6E6, 0x1E6E6, 1⟩,
    ⟨0x1E6EE, 0x1E6EF, 1⟩, ⟨0x1E6F5, 0x1E6F5, 1⟩]

/-- All characters that version 17.0 has added. -/
def added : List Span :=
    [⟨0x88F, 0x88F, 1⟩, ⟨0xC5C, 0xC5C, 1⟩, ⟨0xCDC, 0xCDC, 1⟩, ⟨0x1ACF, 0x1ADD, 1⟩,
    ⟨0x1AE0, 0x1AEB, 1⟩, ⟨0x20C1, 0x20C1, 1⟩, ⟨0x2B96, 0x2B96, 1⟩, ⟨0xA7CE, 0xA7CF, 1⟩,
    ⟨0xA7D2, 0xA7D2, 1⟩, ⟨0xA7D4, 0xA7D4, 1⟩, ⟨0xA7F1, 0xA7F1, 1⟩, ⟨0xFBC3, 0xFBD2, 1⟩,
    ⟨0xFD90, 0xFD91, 1⟩, ⟨0xFDC8, 0xFDCE, 1⟩, ⟨0x10940, 0x10959, 1⟩, ⟨0x10EC5, 0x10EC7, 1⟩,
    ⟨0x10ED0, 0x10ED8, 1⟩, ⟨0x10EFA, 0x10EFB, 1⟩, ⟨0x11B60, 0x11B67, 1⟩, ⟨0x11DB0, 0x11DDB, 1⟩,
    ⟨0x11DE0, 0x11DE9, 1⟩, ⟨0x16EA0, 0x16EB8, 1⟩, ⟨0x16EBB, 0x16ED3, 1⟩, ⟨0x16FF2, 0x16FF6, 1⟩,
    ⟨0x187F8, 0x187FF, 1⟩, ⟨0x18D09, 0x18D1E, 1⟩, ⟨0x18D80, 0x18DF2, 1⟩, ⟨0x1CCFA, 0x1CCFC, 1⟩,
    ⟨0x1CEBA, 0x1CED0, 1⟩, ⟨0x1CEE0, 0x1CEF0, 1⟩, ⟨0x1E6C0, 0x1E6DE, 1⟩, ⟨0x1E6E0, 0x1E6F5, 1⟩,
    ⟨0x1E6FE, 0x1E6FF, 1⟩, ⟨0x1F6D8, 0x1F6D8, 1⟩, ⟨0x1F777, 0x1F77A, 1⟩, ⟨0x1F8D0, 0x1F8D8, 1⟩,
    ⟨0x1FA54, 0x1FA57, 1⟩, ⟨0x1FA8A, 0x1FA8A, 1⟩, ⟨0x1FA8E, 0x1FA8E, 1⟩, ⟨0x1FAC8, 0x1FAC8, 1⟩,
    ⟨0x1FACD, 0x1FACD, 1⟩, ⟨0x1FAEA, 0x1FAEA, 1⟩, ⟨0x1FAEF, 0x1FAEF, 1⟩, ⟨0x1FBFA, 0x1FBFA, 1⟩,
    ⟨0x2B73A, 0x2B73F, 1⟩, ⟨0x2CEA2, 0x2CEAD, 1⟩, ⟨0x323B0, 0x33479, 1⟩]

def alphabetic : CharSet := union Unicode.alphabetic (spans addedLetter)

def alphanumeric : CharSet := unionAll [alphabetic, Category.number, spans addedNumber]

/-- Characters without a glyph of their own, the plain space apart. -/
def unprintable : CharSet :=
  diff (union Unicode.unprintable defaultIgnorable) (spans added)

/-- The sound marks of half width extend a grapheme, but are wide enough to be seen. -/
def combining : CharSet :=
  diff (union graphemeExtend (spans addedMark)) (range '\uff9e' '\uff9f')

/-- What could not be told apart or would not be seen: characters without a glyph, and those that
change the look of the one before them. -/
def unseen : CharSet := union combining unprintable

end Routing.Unicode.Latest
