import Routing.Unicode.Span

/-!
# Script extensions

The characters of other scripts that are also in use in a script. For `common` and `inherited` the
table holds the characters of the script that are listed under other scripts instead.
-/
set_option maxRecDepth 20000

namespace Routing.Unicode.ScriptExtensionTable

def adlam : List Span :=
    [⟨0x61F, 0x61F, 1⟩, ⟨0x640, 0x640, 1⟩, ⟨0x204F, 0x204F, 1⟩, ⟨0x2E41, 0x2E41, 1⟩]

def arabic : List Span :=
    [⟨0x60C, 0x60C, 1⟩, ⟨0x61B, 0x61B, 1⟩, ⟨0x61F, 0x61F, 1⟩, ⟨0x640, 0x640, 1⟩, ⟨0x64B, 0x655, 1⟩,
    ⟨0x670, 0x670, 1⟩, ⟨0x204F, 0x204F, 1⟩, ⟨0x2E41, 0x2E41, 1⟩, ⟨0xFD3E, 0xFD3F, 1⟩,
    ⟨0x102E0, 0x102FB, 1⟩]

def armenian : List Span :=
    [⟨0x308, 0x308, 1⟩]

def avestan : List Span :=
    [⟨0xB7, 0xB7, 1⟩, ⟨0x2E30, 0x2E31, 1⟩]

def bengali : List Span :=
    [⟨0x2BC, 0x2BC, 1⟩, ⟨0x951, 0x952, 1⟩, ⟨0x964, 0x965, 1⟩, ⟨0x1CD0, 0x1CD0, 1⟩,
    ⟨0x1CD2, 0x1CD2, 1⟩, ⟨0x1CD5, 0x1CD6, 1⟩, ⟨0x1CD8, 0x1CD8, 1⟩, ⟨0x1CE1, 0x1CE1, 1⟩,
    ⟨0x1CEA, 0x1CEA, 1⟩, ⟨0x1CED, 0x1CED, 1⟩, ⟨0x1CF2, 0x1CF2, 1⟩, ⟨0x1CF5, 0x1CF7, 1⟩,
    ⟨0xA8F1, 0xA8F1, 1⟩]

def bopomofo : List Span :=
    [⟨0x2C7, 0x2C7, 1⟩, ⟨0x2C9, 0x2CB, 1⟩, ⟨0x2D9, 0x2D9, 1⟩, ⟨0x3001, 0x3003, 1⟩,
    ⟨0x3008, 0x3011, 1⟩, ⟨0x3013, 0x301F, 1⟩, ⟨0x302A, 0x302D, 1⟩, ⟨0x3030, 0x3030, 1⟩,
    ⟨0x3037, 0x3037, 1⟩, ⟨0x30FB, 0x30FB, 1⟩, ⟨0xFE45, 0xFE46, 1⟩, ⟨0xFF61, 0xFF65, 1⟩]

def buginese : List Span :=
    [⟨0xA9CF, 0xA9CF, 1⟩]

def buhid : List Span :=
    [⟨0x1735, 0x1736, 1⟩]

def carian : List Span :=
    [⟨0xB7, 0xB7, 1⟩, ⟨0x205A, 0x205A, 1⟩, ⟨0x205D, 0x205D, 1⟩, ⟨0x2E31, 0x2E31, 1⟩]

def caucasianAlbanian : List Span :=
    [⟨0x304, 0x304, 1⟩, ⟨0x331, 0x331, 1⟩, ⟨0x35E, 0x35E, 1⟩]

def chakma : List Span :=
    [⟨0x9E6, 0x9EF, 1⟩, ⟨0x1040, 0x1049, 1⟩]

def cherokee : List Span :=
    [⟨0x300, 0x302, 1⟩, ⟨0x304, 0x304, 1⟩, ⟨0x30B, 0x30C, 1⟩, ⟨0x323, 0x324, 1⟩, ⟨0x330, 0x331, 1⟩]

def common : List Span :=
    [⟨0xB7, 0xB7, 1⟩, ⟨0x2BC, 0x2BC, 1⟩, ⟨0x2C7, 0x2C7, 1⟩, ⟨0x2C9, 0x2CB, 1⟩, ⟨0x2CD, 0x2CD, 1⟩,
    ⟨0x2D7, 0x2D7, 1⟩, ⟨0x2D9, 0x2D9, 1⟩, ⟨0x374, 0x374, 1⟩, ⟨0x60C, 0x60C, 1⟩, ⟨0x61B, 0x61B, 1⟩,
    ⟨0x61F, 0x61F, 1⟩, ⟨0x640, 0x640, 1⟩, ⟨0x964, 0x965, 1⟩, ⟨0x10FB, 0x10FB, 1⟩,
    ⟨0x16EB, 0x16ED, 1⟩, ⟨0x1735, 0x1736, 1⟩, ⟨0x1802, 0x1803, 1⟩, ⟨0x1805, 0x1805, 1⟩,
    ⟨0x1CD3, 0x1CD3, 1⟩, ⟨0x1CE1, 0x1CE1, 1⟩, ⟨0x1CE9, 0x1CEC, 1⟩, ⟨0x1CEE, 0x1CF3, 1⟩,
    ⟨0x1CF5, 0x1CF7, 1⟩, ⟨0x1CFA, 0x1CFA, 1⟩, ⟨0x202F, 0x202F, 1⟩, ⟨0x204F, 0x204F, 1⟩,
    ⟨0x205A, 0x205A, 1⟩, ⟨0x205D, 0x205D, 1⟩, ⟨0x2E17, 0x2E17, 1⟩, ⟨0x2E30, 0x2E31, 1⟩,
    ⟨0x2E3C, 0x2E3C, 1⟩, ⟨0x2E41, 0x2E41, 1⟩, ⟨0x2E43, 0x2E43, 1⟩, ⟨0x2FF0, 0x2FFF, 1⟩,
    ⟨0x3001, 0x3003, 1⟩, ⟨0x3006, 0x3006, 1⟩, ⟨0x3008, 0x3011, 1⟩, ⟨0x3013, 0x301F, 1⟩,
    ⟨0x3030, 0x3035, 1⟩, ⟨0x3037, 0x3037, 1⟩, ⟨0x303C, 0x303F, 1⟩, ⟨0x309B, 0x309C, 1⟩,
    ⟨0x30A0, 0x30A0, 1⟩, ⟨0x30FB, 0x30FC, 1⟩, ⟨0x3190, 0x319F, 1⟩, ⟨0x31C0, 0x31E5, 1⟩,
    ⟨0x31EF, 0x31EF, 1⟩, ⟨0x3220, 0x3247, 1⟩, ⟨0x3280, 0x32B0, 1⟩, ⟨0x32C0, 0x32CB, 1⟩,
    ⟨0x32FF, 0x32FF, 1⟩, ⟨0x3358, 0x3370, 1⟩, ⟨0x337B, 0x337F, 1⟩, ⟨0x33E0, 0x33FE, 1⟩,
    ⟨0xA700, 0xA707, 1⟩, ⟨0xA830, 0xA839, 1⟩, ⟨0xA92E, 0xA92E, 1⟩, ⟨0xA9CF, 0xA9CF, 1⟩,
    ⟨0xFD3E, 0xFD3F, 1⟩, ⟨0xFE45, 0xFE46, 1⟩, ⟨0xFF61, 0xFF65, 1⟩, ⟨0xFF70, 0xFF70, 1⟩,
    ⟨0xFF9E, 0xFF9F, 1⟩, ⟨0x10100, 0x10102, 1⟩, ⟨0x10107, 0x10133, 1⟩, ⟨0x10137, 0x1013F, 1⟩,
    ⟨0x102E1, 0x102FB, 1⟩, ⟨0x1BCA0, 0x1BCA3, 1⟩, ⟨0x1D360, 0x1D371, 1⟩, ⟨0x1F250, 0x1F251, 1⟩]

def coptic : List Span :=
    [⟨0xB7, 0xB7, 1⟩, ⟨0x300, 0x300, 1⟩, ⟨0x304, 0x305, 1⟩, ⟨0x307, 0x307, 1⟩, ⟨0x374, 0x375, 1⟩,
    ⟨0x2E17, 0x2E17, 1⟩, ⟨0x102E0, 0x102FB, 1⟩]

def cypriot : List Span :=
    [⟨0x10100, 0x10102, 1⟩, ⟨0x10107, 0x10133, 1⟩, ⟨0x10137, 0x1013F, 1⟩]

def cyproMinoan : List Span :=
    [⟨0x10100, 0x10101, 1⟩]

def cyrillic : List Span :=
    [⟨0x2BC, 0x2BC, 1⟩, ⟨0x300, 0x302, 1⟩, ⟨0x304, 0x308, 2⟩, ⟨0x30B, 0x30B, 1⟩, ⟨0x311, 0x311, 1⟩,
    ⟨0x485, 0x486, 1⟩, ⟨0x1DF8, 0x1DF8, 1⟩, ⟨0x2E43, 0x2E43, 1⟩]

def devanagari : List Span :=
    [⟨0x2BC, 0x2BC, 1⟩, ⟨0x951, 0x952, 1⟩, ⟨0x964, 0x965, 1⟩, ⟨0x1CD0, 0x1CF6, 1⟩,
    ⟨0x1CF8, 0x1CF9, 1⟩, ⟨0x20F0, 0x20F0, 1⟩, ⟨0xA830, 0xA839, 1⟩]

def dogra : List Span :=
    [⟨0x964, 0x96F, 1⟩, ⟨0xA830, 0xA839, 1⟩]

def duployan : List Span :=
    [⟨0xB7, 0xB7, 1⟩, ⟨0x307, 0x308, 1⟩, ⟨0x30A, 0x30A, 1⟩, ⟨0x323, 0x324, 1⟩, ⟨0x2E3C, 0x2E3C, 1⟩,
    ⟨0x1BCA0, 0x1BCA3, 1⟩]

def elbasan : List Span :=
    [⟨0xB7, 0xB7, 1⟩, ⟨0x305, 0x305, 1⟩]

def ethiopic : List Span :=
    [⟨0x30E, 0x30E, 1⟩]

def garay : List Span :=
    [⟨0x60C, 0x60C, 1⟩, ⟨0x61B, 0x61B, 1⟩, ⟨0x61F, 0x61F, 1⟩]

def georgian : List Span :=
    [⟨0xB7, 0xB7, 1⟩, ⟨0x589, 0x589, 1⟩, ⟨0x10FB, 0x10FB, 1⟩, ⟨0x205A, 0x205A, 1⟩,
    ⟨0x2E31, 0x2E31, 1⟩]

def glagolitic : List Span :=
    [⟨0xB7, 0xB7, 1⟩, ⟨0x303, 0x303, 1⟩, ⟨0x305, 0x305, 1⟩, ⟨0x484, 0x484, 1⟩, ⟨0x487, 0x487, 1⟩,
    ⟨0x589, 0x589, 1⟩, ⟨0x10FB, 0x10FB, 1⟩, ⟨0x205A, 0x205A, 1⟩, ⟨0x2E43, 0x2E43, 1⟩,
    ⟨0xA66F, 0xA66F, 1⟩]

def gothic : List Span :=
    [⟨0xB7, 0xB7, 1⟩, ⟨0x304, 0x305, 1⟩, ⟨0x308, 0x308, 1⟩, ⟨0x331, 0x331, 1⟩]

def grantha : List Span :=
    [⟨0x951, 0x952, 1⟩, ⟨0x964, 0x965, 1⟩, ⟨0xBE6, 0xBF3, 1⟩, ⟨0x1CD0, 0x1CD0, 1⟩,
    ⟨0x1CD2, 0x1CD3, 1⟩, ⟨0x1CF2, 0x1CF4, 1⟩, ⟨0x1CF8, 0x1CF9, 1⟩, ⟨0x20F0, 0x20F0, 1⟩,
    ⟨0x1133B, 0x1133B, 1⟩, ⟨0x11FD0, 0x11FD1, 1⟩, ⟨0x11FD3, 0x11FD3, 1⟩]

def greek : List Span :=
    [⟨0xB7, 0xB7, 1⟩, ⟨0x300, 0x301, 1⟩, ⟨0x304, 0x308, 2⟩, ⟨0x313, 0x313, 1⟩, ⟨0x342, 0x342, 1⟩,
    ⟨0x345, 0x345, 1⟩, ⟨0x374, 0x374, 1⟩, ⟨0x1DC0, 0x1DC1, 1⟩, ⟨0x205D, 0x205D, 1⟩]

def gujarati : List Span :=
    [⟨0x951, 0x952, 1⟩, ⟨0x964, 0x965, 1⟩, ⟨0xA830, 0xA839, 1⟩]

def gunjalaGondi : List Span :=
    [⟨0xB7, 0xB7, 1⟩, ⟨0x964, 0x965, 1⟩]

def gurmukhi : List Span :=
    [⟨0x951, 0x952, 1⟩, ⟨0x964, 0x965, 1⟩, ⟨0xA830, 0xA839, 1⟩]

def gurungKhema : List Span :=
    [⟨0x965, 0x965, 1⟩]

def han : List Span :=
    [⟨0xB7, 0xB7, 1⟩, ⟨0x2FF0, 0x2FFF, 1⟩, ⟨0x3001, 0x3003, 1⟩, ⟨0x3006, 0x3006, 1⟩,
    ⟨0x3008, 0x3011, 1⟩, ⟨0x3013, 0x301F, 1⟩, ⟨0x302A, 0x302D, 1⟩, ⟨0x3030, 0x3030, 1⟩,
    ⟨0x3037, 0x3037, 1⟩, ⟨0x303C, 0x303F, 1⟩, ⟨0x30FB, 0x30FB, 1⟩, ⟨0x3190, 0x319F, 1⟩,
    ⟨0x31C0, 0x31E5, 1⟩, ⟨0x31EF, 0x31EF, 1⟩, ⟨0x3220, 0x3247, 1⟩, ⟨0x3280, 0x32B0, 1⟩,
    ⟨0x32C0, 0x32CB, 1⟩, ⟨0x32FF, 0x32FF, 1⟩, ⟨0x3358, 0x3370, 1⟩, ⟨0x337B, 0x337F, 1⟩,
    ⟨0x33E0, 0x33FE, 1⟩, ⟨0xA700, 0xA707, 1⟩, ⟨0xFE45, 0xFE46, 1⟩, ⟨0xFF61, 0xFF65, 1⟩,
    ⟨0x1D360, 0x1D371, 1⟩, ⟨0x1F250, 0x1F251, 1⟩]

def hangul : List Span :=
    [⟨0x3001, 0x3003, 1⟩, ⟨0x3008, 0x3011, 1⟩, ⟨0x3013, 0x301F, 1⟩, ⟨0x3030, 0x3030, 1⟩,
    ⟨0x3037, 0x3037, 1⟩, ⟨0x30FB, 0x30FB, 1⟩, ⟨0xFE45, 0xFE46, 1⟩, ⟨0xFF61, 0xFF65, 1⟩]

def hanifiRohingya : List Span :=
    [⟨0x60C, 0x60C, 1⟩, ⟨0x61B, 0x61B, 1⟩, ⟨0x61F, 0x61F, 1⟩, ⟨0x640, 0x640, 1⟩, ⟨0x6D4, 0x6D4, 1⟩]

def hanunoo : List Span :=
    [⟨0x1735, 0x1736, 1⟩]

def hebrew : List Span :=
    [⟨0x307, 0x308, 1⟩]

def hiragana : List Span :=
    [⟨0x3001, 0x3003, 1⟩, ⟨0x3008, 0x3011, 1⟩, ⟨0x3013, 0x301F, 1⟩, ⟨0x3030, 0x3035, 1⟩,
    ⟨0x3037, 0x3037, 1⟩, ⟨0x303C, 0x303D, 1⟩, ⟨0x3099, 0x309C, 1⟩, ⟨0x30A0, 0x30A0, 1⟩,
    ⟨0x30FB, 0x30FC, 1⟩, ⟨0xFE45, 0xFE46, 1⟩, ⟨0xFF61, 0xFF65, 1⟩, ⟨0xFF70, 0xFF70, 1⟩,
    ⟨0xFF9E, 0xFF9F, 1⟩]

def inherited : List Span :=
    [⟨0x300, 0x30E, 1⟩, ⟨0x310, 0x311, 1⟩, ⟨0x313, 0x313, 1⟩, ⟨0x320, 0x320, 1⟩, ⟨0x323, 0x325, 1⟩,
    ⟨0x32D, 0x32E, 1⟩, ⟨0x330, 0x331, 1⟩, ⟨0x342, 0x342, 1⟩, ⟨0x345, 0x345, 1⟩, ⟨0x358, 0x358, 1⟩,
    ⟨0x35E, 0x35E, 1⟩, ⟨0x363, 0x36F, 1⟩, ⟨0x485, 0x486, 1⟩, ⟨0x64B, 0x655, 1⟩, ⟨0x670, 0x670, 1⟩,
    ⟨0x951, 0x952, 1⟩, ⟨0x1CD0, 0x1CD2, 1⟩, ⟨0x1CD4, 0x1CE0, 1⟩, ⟨0x1CE2, 0x1CE8, 1⟩,
    ⟨0x1CED, 0x1CED, 1⟩, ⟨0x1CF4, 0x1CF4, 1⟩, ⟨0x1CF8, 0x1CF9, 1⟩, ⟨0x1DC0, 0x1DC1, 1⟩,
    ⟨0x1DF8, 0x1DF8, 1⟩, ⟨0x1DFA, 0x1DFA, 1⟩, ⟨0x20F0, 0x20F0, 1⟩, ⟨0x302A, 0x302D, 1⟩,
    ⟨0x3099, 0x309A, 1⟩, ⟨0x102E0, 0x102E0, 1⟩, ⟨0x1133B, 0x1133B, 1⟩]

def javanese : List Span :=
    [⟨0xA9CF, 0xA9CF, 1⟩]

def kaithi : List Span :=
    [⟨0x966, 0x96F, 1⟩, ⟨0x2E31, 0x2E31, 1⟩, ⟨0xA830, 0xA839, 1⟩]

def kannada : List Span :=
    [⟨0x951, 0x952, 1⟩, ⟨0x964, 0x965, 1⟩, ⟨0x1CD0, 0x1CD0, 1⟩, ⟨0x1CD2, 0x1CD2, 1⟩,
    ⟨0x1CDA, 0x1CDA, 1⟩, ⟨0x1CF2, 0x1CF2, 1⟩, ⟨0x1CF4, 0x1CF4, 1⟩, ⟨0xA830, 0xA835, 1⟩]

def katakana : List Span :=
    [⟨0x305, 0x305, 1⟩, ⟨0x323, 0x323, 1⟩, ⟨0x3001, 0x3003, 1⟩, ⟨0x3008, 0x3011, 1⟩,
    ⟨0x3013, 0x301F, 1⟩, ⟨0x3030, 0x3035, 1⟩, ⟨0x3037, 0x3037, 1⟩, ⟨0x303C, 0x303D, 1⟩,
    ⟨0x3099, 0x309C, 1⟩, ⟨0x30A0, 0x30A0, 1⟩, ⟨0x30FB, 0x30FC, 1⟩, ⟨0xFE45, 0xFE46, 1⟩,
    ⟨0xFF61, 0xFF65, 1⟩, ⟨0xFF70, 0xFF70, 1⟩, ⟨0xFF9E, 0xFF9F, 1⟩]

def kayahLi : List Span :=
    [⟨0xA92E, 0xA92E, 1⟩]

def khojki : List Span :=
    [⟨0xAE6, 0xAEF, 1⟩, ⟨0xA830, 0xA839, 1⟩]

def khudawadi : List Span :=
    [⟨0x964, 0x965, 1⟩, ⟨0xA830, 0xA839, 1⟩]

def latin : List Span :=
    [⟨0xB7, 0xB7, 1⟩, ⟨0x2BC, 0x2BC, 1⟩, ⟨0x2C7, 0x2C7, 1⟩, ⟨0x2C9, 0x2CB, 1⟩, ⟨0x2CD, 0x2CD, 1⟩,
    ⟨0x2D7, 0x2D7, 1⟩, ⟨0x2D9, 0x2D9, 1⟩, ⟨0x300, 0x30E, 1⟩, ⟨0x310, 0x311, 1⟩, ⟨0x313, 0x313, 1⟩,
    ⟨0x320, 0x320, 1⟩, ⟨0x323, 0x325, 1⟩, ⟨0x32D, 0x32E, 1⟩, ⟨0x330, 0x331, 1⟩, ⟨0x358, 0x358, 1⟩,
    ⟨0x35E, 0x35E, 1⟩, ⟨0x363, 0x36F, 1⟩, ⟨0x485, 0x486, 1⟩, ⟨0x951, 0x952, 1⟩, ⟨0x10FB, 0x10FB, 1⟩,
    ⟨0x1DF8, 0x1DF8, 1⟩, ⟨0x202F, 0x202F, 1⟩, ⟨0x20F0, 0x20F0, 1⟩, ⟨0x2E17, 0x2E17, 1⟩,
    ⟨0xA700, 0xA707, 1⟩, ⟨0xA92E, 0xA92E, 1⟩]

def limbu : List Span :=
    [⟨0x965, 0x965, 1⟩]

def linearA : List Span :=
    [⟨0x10107, 0x10133, 1⟩]

def linearB : List Span :=
    [⟨0x10100, 0x10102, 1⟩, ⟨0x10107, 0x10133, 1⟩, ⟨0x10137, 0x1013F, 1⟩]

def lisu : List Span :=
    [⟨0x2BC, 0x2BC, 1⟩, ⟨0x2CD, 0x2CD, 1⟩, ⟨0x300A, 0x300B, 1⟩]

def lycian : List Span :=
    [⟨0x205A, 0x205A, 1⟩]

def lydian : List Span :=
    [⟨0xB7, 0xB7, 1⟩, ⟨0x2E31, 0x2E31, 1⟩]

def mahajani : List Span :=
    [⟨0xB7, 0xB7, 1⟩, ⟨0x964, 0x96F, 1⟩, ⟨0xA830, 0xA839, 1⟩]

def malayalam : List Span :=
    [⟨0x951, 0x952, 1⟩, ⟨0x964, 0x965, 1⟩, ⟨0x1CDA, 0x1CDA, 1⟩, ⟨0x1CF2, 0x1CF2, 1⟩,
    ⟨0xA830, 0xA832, 1⟩]

def mandaic : List Span :=
    [⟨0x640, 0x640, 1⟩]

def manichaean : List Span :=
    [⟨0x640, 0x640, 1⟩]

def masaramGondi : List Span :=
    [⟨0x964, 0x965, 1⟩]

def meroiticHieroglyphs : List Span :=
    [⟨0x205D, 0x205D, 1⟩]

def modi : List Span :=
    [⟨0xA830, 0xA839, 1⟩]

def mongolian : List Span :=
    [⟨0x1802, 0x1803, 1⟩, ⟨0x1805, 0x1805, 1⟩, ⟨0x202F, 0x202F, 1⟩, ⟨0x3001, 0x3002, 1⟩,
    ⟨0x3008, 0x300B, 1⟩]

def multani : List Span :=
    [⟨0xA66, 0xA6F, 1⟩]

def myanmar : List Span :=
    [⟨0xA92E, 0xA92E, 1⟩]

def nandinagari : List Span :=
    [⟨0x964, 0x965, 1⟩, ⟨0xCE6, 0xCEF, 1⟩, ⟨0x1CE9, 0x1CE9, 1⟩, ⟨0x1CF2, 0x1CF2, 1⟩,
    ⟨0x1CFA, 0x1CFA, 1⟩, ⟨0xA830, 0xA835, 1⟩]

def nko : List Span :=
    [⟨0x60C, 0x60C, 1⟩, ⟨0x61B, 0x61B, 1⟩, ⟨0x61F, 0x61F, 1⟩, ⟨0xFD3E, 0xFD3F, 1⟩]

def olOnal : List Span :=
    [⟨0x964, 0x965, 1⟩]

def oldHungarian : List Span :=
    [⟨0x205A, 0x205A, 1⟩, ⟨0x205D, 0x205D, 1⟩, ⟨0x2E31, 0x2E31, 1⟩, ⟨0x2E41, 0x2E41, 1⟩]

def oldPermic : List Span :=
    [⟨0xB7, 0xB7, 1⟩, ⟨0x300, 0x300, 1⟩, ⟨0x306, 0x308, 1⟩, ⟨0x313, 0x313, 1⟩, ⟨0x483, 0x483, 1⟩]

def oldTurkic : List Span :=
    [⟨0x205A, 0x205A, 1⟩, ⟨0x2E30, 0x2E30, 1⟩]

def oldUyghur : List Span :=
    [⟨0x640, 0x640, 1⟩, ⟨0x10AF2, 0x10AF2, 1⟩]

def oriya : List Span :=
    [⟨0x951, 0x952, 1⟩, ⟨0x964, 0x965, 1⟩, ⟨0x1CDA, 0x1CDA, 1⟩, ⟨0x1CF2, 0x1CF2, 1⟩]

def osage : List Span :=
    [⟨0x301, 0x301, 1⟩, ⟨0x304, 0x304, 1⟩, ⟨0x30B, 0x30B, 1⟩, ⟨0x358, 0x358, 1⟩]

def phagsPa : List Span :=
    [⟨0x1802, 0x1803, 1⟩, ⟨0x1805, 0x1805, 1⟩, ⟨0x202F, 0x202F, 1⟩, ⟨0x3002, 0x3002, 1⟩]

def psalterPahlavi : List Span :=
    [⟨0x640, 0x640, 1⟩]

def runic : List Span :=
    [⟨0x16EB, 0x16ED, 1⟩]

def samaritan : List Span :=
    [⟨0x2E31, 0x2E31, 1⟩]

def sharada : List Span :=
    [⟨0x951, 0x951, 1⟩, ⟨0x1CD7, 0x1CD7, 1⟩, ⟨0x1CD9, 0x1CD9, 1⟩, ⟨0x1CDC, 0x1CDD, 1⟩,
    ⟨0x1CE0, 0x1CE0, 1⟩, ⟨0xA830, 0xA835, 1⟩, ⟨0xA838, 0xA838, 1⟩]

def shavian : List Span :=
    [⟨0xB7, 0xB7, 1⟩]

def sinhala : List Span :=
    [⟨0x964, 0x965, 1⟩, ⟨0x1CF2, 0x1CF2, 1⟩]

def sogdian : List Span :=
    [⟨0x640, 0x640, 1⟩]

def sunuwar : List Span :=
    [⟨0x300, 0x301, 1⟩, ⟨0x303, 0x303, 1⟩, ⟨0x30D, 0x30D, 1⟩, ⟨0x310, 0x310, 1⟩, ⟨0x32D, 0x32D, 1⟩,
    ⟨0x331, 0x331, 1⟩]

def sylotiNagri : List Span :=
    [⟨0x964, 0x965, 1⟩, ⟨0x9E6, 0x9EF, 1⟩]

def syriac : List Span :=
    [⟨0x303, 0x304, 1⟩, ⟨0x307, 0x308, 1⟩, ⟨0x30A, 0x30A, 1⟩, ⟨0x320, 0x320, 1⟩, ⟨0x323, 0x325, 1⟩,
    ⟨0x32D, 0x32E, 1⟩, ⟨0x330, 0x330, 1⟩, ⟨0x60C, 0x60C, 1⟩, ⟨0x61B, 0x61C, 1⟩, ⟨0x61F, 0x61F, 1⟩,
    ⟨0x640, 0x640, 1⟩, ⟨0x64B, 0x655, 1⟩, ⟨0x670, 0x670, 1⟩, ⟨0x1DF8, 0x1DF8, 1⟩,
    ⟨0x1DFA, 0x1DFA, 1⟩]

def tagalog : List Span :=
    [⟨0x1735, 0x1736, 1⟩]

def tagbanwa : List Span :=
    [⟨0x1735, 0x1736, 1⟩]

def taiLe : List Span :=
    [⟨0x300, 0x301, 1⟩, ⟨0x307, 0x308, 1⟩, ⟨0x30C, 0x30C, 1⟩, ⟨0x1040, 0x1049, 1⟩]

def takri : List Span :=
    [⟨0x964, 0x965, 1⟩, ⟨0xA830, 0xA839, 1⟩]

def tamil : List Span :=
    [⟨0x951, 0x952, 1⟩, ⟨0x964, 0x965, 1⟩, ⟨0x1CDA, 0x1CDA, 1⟩, ⟨0xA8F3, 0xA8F3, 1⟩,
    ⟨0x11301, 0x11301, 1⟩, ⟨0x11303, 0x11303, 1⟩, ⟨0x1133B, 0x1133C, 1⟩]

def tangut : List Span :=
    [⟨0x2FF0, 0x2FFF, 1⟩, ⟨0x31EF, 0x31EF, 1⟩]

def telugu : List Span :=
    [⟨0x951, 0x952, 1⟩, ⟨0x964, 0x965, 1⟩, ⟨0x1CDA, 0x1CDA, 1⟩, ⟨0x1CF2, 0x1CF2, 1⟩]

def thaana : List Span :=
    [⟨0x60C, 0x60C, 1⟩, ⟨0x61B, 0x61C, 1⟩, ⟨0x61F, 0x61F, 1⟩, ⟨0x660, 0x669, 1⟩,
    ⟨0xFDF2, 0xFDF2, 1⟩, ⟨0xFDFD, 0xFDFD, 1⟩]

def thai : List Span :=
    [⟨0x2BC, 0x2BC, 1⟩, ⟨0x2D7, 0x2D7, 1⟩, ⟨0x303, 0x303, 1⟩, ⟨0x331, 0x331, 1⟩]

def tibetan : List Span :=
    [⟨0x3008, 0x300B, 1⟩]

def tifinagh : List Span :=
    [⟨0x302, 0x302, 1⟩, ⟨0x304, 0x304, 1⟩, ⟨0x307, 0x307, 1⟩, ⟨0x309, 0x309, 1⟩]

def tirhuta : List Span :=
    [⟨0x951, 0x952, 1⟩, ⟨0x964, 0x965, 1⟩, ⟨0x1CF2, 0x1CF2, 1⟩, ⟨0xA830, 0xA839, 1⟩]

def todhri : List Span :=
    [⟨0x301, 0x301, 1⟩, ⟨0x304, 0x304, 1⟩, ⟨0x307, 0x307, 1⟩, ⟨0x311, 0x311, 1⟩, ⟨0x313, 0x313, 1⟩,
    ⟨0x35E, 0x35E, 1⟩]

def toto : List Span :=
    [⟨0x2BC, 0x2BC, 1⟩]

def tuluTigalari : List Span :=
    [⟨0xCE6, 0xCEF, 1⟩, ⟨0x1CF2, 0x1CF2, 1⟩, ⟨0x1CF4, 0x1CF4, 1⟩, ⟨0xA830, 0xA835, 1⟩,
    ⟨0xA8F1, 0xA8F1, 1⟩]

def yezidi : List Span :=
    [⟨0x60C, 0x60C, 1⟩, ⟨0x61B, 0x61B, 1⟩, ⟨0x61F, 0x61F, 1⟩, ⟨0x660, 0x669, 1⟩]

def yi : List Span :=
    [⟨0x3001, 0x3002, 1⟩, ⟨0x3008, 0x3011, 1⟩, ⟨0x3014, 0x301B, 1⟩, ⟨0x30FB, 0x30FB, 1⟩,
    ⟨0xFF61, 0xFF65, 1⟩]

end Routing.Unicode.ScriptExtensionTable
