import Routing.Unicode.Span

/-!
# Exceptions to text boundaries

The characters that the rules for the boundaries of graphemes, words and sentences name one by one,
and the letters of scripts that are written without spaces.
-/
set_option maxRecDepth 20000

namespace Routing.Unicode.BreakTable

/-- Characters that join the one after them. -/
def graphemePrepend : List Span :=
    [⟨0x600, 0x605, 1⟩, ⟨0x6DD, 0x6DD, 1⟩, ⟨0x70F, 0x70F, 1⟩, ⟨0x890, 0x891, 1⟩, ⟨0x8E2, 0x8E2, 1⟩,
    ⟨0xD4E, 0xD4E, 1⟩, ⟨0x110BD, 0x110BD, 1⟩, ⟨0x110CD, 0x110CD, 1⟩, ⟨0x111C2, 0x111C3, 1⟩,
    ⟨0x113D1, 0x113D1, 1⟩, ⟨0x1193F, 0x1193F, 1⟩, ⟨0x11941, 0x11941, 1⟩, ⟨0x11A3A, 0x11A3A, 1⟩,
    ⟨0x11A84, 0x11A89, 1⟩, ⟨0x11D46, 0x11D46, 1⟩, ⟨0x11F02, 0x11F02, 1⟩]

/-- Spacing marks that end a grapheme as other characters do. -/
def notSpacingMark : List Span :=
    [⟨0x102B, 0x102C, 1⟩, ⟨0x1038, 0x1038, 1⟩, ⟨0x1062, 0x1064, 1⟩, ⟨0x1067, 0x106D, 1⟩,
    ⟨0x1083, 0x1083, 1⟩, ⟨0x1087, 0x108C, 1⟩, ⟨0x108F, 0x108F, 1⟩, ⟨0x109A, 0x109C, 1⟩,
    ⟨0x1A61, 0x1A61, 1⟩, ⟨0x1A63, 0x1A64, 1⟩, ⟨0xAA7B, 0xAA7B, 1⟩, ⟨0xAA7D, 0xAA7D, 1⟩,
    ⟨0x11720, 0x11721, 1⟩]

/-- Vowels of Hangul, and those of other scripts that join in the same way. -/
def vowelJamo : List Span :=
    [⟨0x1160, 0x11A7, 1⟩, ⟨0xD7B0, 0xD7C6, 1⟩, ⟨0x16D63, 0x16D63, 1⟩, ⟨0x16D67, 0x16D6A, 1⟩]

/-- Letters of scripts in which words are found only by a dictionary. -/
def spacelessLetter : List Span :=
    [⟨0xE01, 0xE30, 1⟩, ⟨0xE32, 0xE33, 1⟩, ⟨0xE40, 0xE46, 1⟩, ⟨0xE81, 0xE82, 1⟩, ⟨0xE84, 0xE84, 1⟩,
    ⟨0xE86, 0xE8A, 1⟩, ⟨0xE8C, 0xEA3, 1⟩, ⟨0xEA5, 0xEA5, 1⟩, ⟨0xEA7, 0xEB0, 1⟩, ⟨0xEB2, 0xEB3, 1⟩,
    ⟨0xEBD, 0xEBD, 1⟩, ⟨0xEC0, 0xEC4, 1⟩, ⟨0xEC6, 0xEC6, 1⟩, ⟨0xEDC, 0xEDF, 1⟩, ⟨0x1000, 0x102A, 1⟩,
    ⟨0x103F, 0x103F, 1⟩, ⟨0x1050, 0x1055, 1⟩, ⟨0x105A, 0x105D, 1⟩, ⟨0x1061, 0x1061, 1⟩,
    ⟨0x1065, 0x1066, 1⟩, ⟨0x106E, 0x1070, 1⟩, ⟨0x1075, 0x1081, 1⟩, ⟨0x108E, 0x108E, 1⟩,
    ⟨0x1780, 0x17B3, 1⟩, ⟨0x17D7, 0x17D7, 1⟩, ⟨0x17DC, 0x17DC, 1⟩, ⟨0x1950, 0x196D, 1⟩,
    ⟨0x1970, 0x1974, 1⟩, ⟨0x1980, 0x19AB, 1⟩, ⟨0x19B0, 0x19C9, 1⟩, ⟨0x1A20, 0x1A54, 1⟩,
    ⟨0x1AA7, 0x1AA7, 1⟩, ⟨0xA9E0, 0xA9E4, 1⟩, ⟨0xA9E6, 0xA9EF, 1⟩, ⟨0xA9FA, 0xA9FE, 1⟩,
    ⟨0xAA60, 0xAA76, 1⟩, ⟨0xAA7A, 0xAA7A, 1⟩, ⟨0xAA7E, 0xAAAF, 1⟩, ⟨0xAAB1, 0xAAB1, 1⟩,
    ⟨0xAAB5, 0xAAB6, 1⟩, ⟨0xAAB9, 0xAABD, 1⟩, ⟨0xAAC0, 0xAAC0, 1⟩, ⟨0xAAC2, 0xAAC2, 1⟩,
    ⟨0xAADB, 0xAADD, 1⟩, ⟨0x11700, 0x1171A, 1⟩, ⟨0x11740, 0x11746, 1⟩]

/-- Marks that join words in Katakana without being of that script. -/
def wordKatakana : List Span :=
    [⟨0x3031, 0x3035, 1⟩, ⟨0x309B, 0x309C, 1⟩, ⟨0x30A0, 0x30A0, 1⟩, ⟨0x30FC, 0x30FC, 1⟩,
    ⟨0xFF70, 0xFF70, 1⟩]

/-- Letters of words that are not alphabetic. -/
def wordLetter : List Span :=
    [⟨0x2C2, 0x2C5, 1⟩, ⟨0x2D2, 0x2D7, 1⟩, ⟨0x2DE, 0x2DF, 1⟩, ⟨0x2E5, 0x2EB, 1⟩, ⟨0x2ED, 0x2ED, 1⟩,
    ⟨0x2EF, 0x2FF, 1⟩, ⟨0x55A, 0x55C, 1⟩, ⟨0x55E, 0x55E, 1⟩, ⟨0x58A, 0x58A, 1⟩, ⟨0x5F3, 0x5F3, 1⟩,
    ⟨0x70F, 0x70F, 1⟩, ⟨0xA708, 0xA716, 1⟩, ⟨0xA720, 0xA721, 1⟩, ⟨0xA789, 0xA78A, 1⟩,
    ⟨0xAB5B, 0xAB5B, 1⟩]

def midLetter : List Span :=
    [⟨0x3A, 0x3A, 1⟩, ⟨0xB7, 0xB7, 1⟩, ⟨0x387, 0x387, 1⟩, ⟨0x55F, 0x55F, 1⟩, ⟨0x5F4, 0x5F4, 1⟩,
    ⟨0x2027, 0x2027, 1⟩, ⟨0xFE13, 0xFE13, 1⟩, ⟨0xFE55, 0xFE55, 1⟩, ⟨0xFF1A, 0xFF1A, 1⟩]

def midNumber : List Span :=
    [⟨0x2C, 0x2C, 1⟩, ⟨0x3B, 0x3B, 1⟩, ⟨0x37E, 0x37E, 1⟩, ⟨0x589, 0x589, 1⟩, ⟨0x60C, 0x60D, 1⟩,
    ⟨0x66C, 0x66C, 1⟩, ⟨0x7F8, 0x7F8, 1⟩, ⟨0x2044, 0x2044, 1⟩, ⟨0xFE10, 0xFE10, 1⟩,
    ⟨0xFE14, 0xFE14, 1⟩, ⟨0xFE50, 0xFE50, 1⟩, ⟨0xFE54, 0xFE54, 1⟩, ⟨0xFF0C, 0xFF0C, 1⟩,
    ⟨0xFF1B, 0xFF1B, 1⟩]

def midNumberOrLetter : List Span :=
    [⟨0x2E, 0x2E, 1⟩, ⟨0x2018, 0x2019, 1⟩, ⟨0x2024, 0x2024, 1⟩, ⟨0xFE52, 0xFE52, 1⟩,
    ⟨0xFF07, 0xFF07, 1⟩, ⟨0xFF0E, 0xFF0E, 1⟩]

/-- Quotation marks that close a sentence without being brackets. -/
def sentenceClose : List Span :=
    [⟨0x22, 0x22, 1⟩, ⟨0x27, 0x27, 1⟩, ⟨0x275B, 0x2760, 1⟩, ⟨0x2E00, 0x2E01, 1⟩,
    ⟨0x2E06, 0x2E08, 1⟩, ⟨0x2E0B, 0x2E0B, 1⟩, ⟨0x1F676, 0x1F678, 1⟩]

def sentenceContinue : List Span :=
    [⟨0x2C, 0x2D, 1⟩, ⟨0x3A, 0x3B, 1⟩, ⟨0x37E, 0x37E, 1⟩, ⟨0x55D, 0x55D, 1⟩, ⟨0x60C, 0x60D, 1⟩,
    ⟨0x7F8, 0x7F8, 1⟩, ⟨0x1802, 0x1802, 1⟩, ⟨0x1808, 0x1808, 1⟩, ⟨0x2013, 0x2014, 1⟩,
    ⟨0x3001, 0x3001, 1⟩, ⟨0xFE10, 0xFE11, 1⟩, ⟨0xFE13, 0xFE14, 1⟩, ⟨0xFE31, 0xFE32, 1⟩,
    ⟨0xFE50, 0xFE51, 1⟩, ⟨0xFE54, 0xFE55, 1⟩, ⟨0xFE58, 0xFE58, 1⟩, ⟨0xFE63, 0xFE63, 1⟩,
    ⟨0xFF0C, 0xFF0D, 1⟩, ⟨0xFF1A, 0xFF1B, 1⟩, ⟨0xFF64, 0xFF64, 1⟩]

end Routing.Unicode.BreakTable
