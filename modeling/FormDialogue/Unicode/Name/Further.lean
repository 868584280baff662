/-! # Further names

Characters that have more than one name: the usual words for control codes and their short forms,
and corrected names. -/

namespace FormDialogue.Unicode

def furtherNames : List (String × Nat) := [
  ("ACK", 0x6), ("ACKNOWLEDGE", 0x6), ("ALERT", 0x7), ("ALM", 0x61C), ("APC", 0x9F),
  ("APPLICATION PROGRAM COMMAND", 0x9F), ("BACKSPACE", 0x8), ("BEL", 0x7), ("BOM", 0xFEFF),
  ("BPH", 0x82), ("BREAK PERMITTED HERE", 0x82), ("BS", 0x8), ("BYTE ORDER MARK", 0xFEFF),
  ("BYZANTINE MUSICAL SYMBOL FTHORA SKLIRON CHROMA VASIS", 0x1D0C5), ("CAN", 0x18),
  ("CANCEL", 0x18), ("CANCEL CHARACTER", 0x94), ("CARRIAGE RETURN", 0xD), ("CCH", 0x94),
  ("CGJ", 0x34F), ("CHARACTER TABULATION", 0x9), ("CHARACTER TABULATION SET", 0x88),
  ("CHARACTER TABULATION WITH JUSTIFICATION", 0x89), ("CONTROL SEQUENCE INTRODUCER", 0x9B),
  ("CR", 0xD), ("CSI", 0x9B), ("CUNEIFORM SIGN NU11 OVER NU11 BUR OVER BUR", 0x122D5),
  ("CUNEIFORM SIGN NU11 TENU", 0x122D4), ("DATA LINK ESCAPE", 0x10), ("DC1", 0x11), ("DC2", 0x12),
  ("DC3", 0x13), ("DC4", 0x14), ("DCS", 0x90), ("DEL", 0x7F), ("DELETE", 0x7F),
  ("DEVICE CONTROL FOUR", 0x14), ("DEVICE CONTROL ONE", 0x11), ("DEVICE CONTROL STRING", 0x90),
  ("DEVICE CONTROL THREE", 0x13), ("DEVICE CONTROL TWO", 0x12), ("DLE", 0x10),
  ("END OF GUARDED AREA", 0x97), ("END OF LINE", 0xA), ("END OF MEDIUM", 0x19),
  ("END OF PROTECTED AREA", 0x97), ("END OF SELECTED AREA", 0x87), ("END OF TEXT", 0x3),
  ("END OF TRANSMISSION", 0x4), ("END OF TRANSMISSION BLOCK", 0x17), ("ENQ", 0x5),
  ("ENQUIRY", 0x5), ("EOL", 0xA), ("EOM", 0x19), ("EOT", 0x4), ("EPA", 0x97), ("ESA", 0x87),
  ("ESC", 0x1B), ("ESCAPE", 0x1B), ("ETB", 0x17), ("ETX", 0x3), ("FF", 0xC),
  ("FILE SEPARATOR", 0x1C), ("FORM FEED", 0xC), ("FS", 0x1C), ("FSI", 0x2068), ("FVS1", 0x180B),
  ("FVS2", 0x180C), ("FVS3", 0x180D), ("FVS4", 0x180F), ("GROUP SEPARATOR", 0x1D), ("GS", 0x1D),
  ("HANGUL JONGSEONG SSANGYESIEUNG", 0x11EE), ("HANGUL JONGSEONG YESIEUNG-KHIEUKH", 0x11EF),
  ("HANGUL JONGSEONG YESIEUNG-KIYEOK", 0x11EC), ("HANGUL JONGSEONG YESIEUNG-SSANGKIYEOK", 0x11ED),
  ("HENTAIGANA LETTER E-1", 0x1B001), ("HIGH OCTET PRESET", 0x81), ("HOP", 0x81),
  ("HORIZONTAL TABULATION", 0x9), ("HORIZONTAL TABULATION SET", 0x88),
  ("HORIZONTAL TABULATION WITH JUSTIFICATION", 0x89), ("HT", 0x9), ("HTJ", 0x89), ("HTS", 0x88),
  ("IND", 0x84), ("INDEX", 0x84), ("INFORMATION SEPARATOR FOUR", 0x1C),
  ("INFORMATION SEPARATOR ONE", 0x1F), ("INFORMATION SEPARATOR THREE", 0x1D),
  ("INFORMATION SEPARATOR TWO", 0x1E), ("KANNADA LETTER LLLA", 0xCDE),
  ("LAO LETTER FO FAY", 0xE9F), ("LAO LETTER FO FON", 0xE9D), ("LAO LETTER LO", 0xEA5),
  ("LAO LETTER RO", 0xEA3), ("LATIN CAPITAL LETTER GHA", 0x1A2),
  ("LATIN SMALL LETTER GHA", 0x1A3),
  ("LEFTWARDS TRIANGLE-HEADED ARROW WITH DOUBLE VERTICAL STROKE", 0x2B7A), ("LF", 0xA),
  ("LINE FEED", 0xA), ("LINE TABULATION", 0xB), ("LINE TABULATION SET", 0x8A),
  ("LOCKING-SHIFT ONE", 0xE), ("LOCKING-SHIFT ZERO", 0xF), ("LRE", 0x202A), ("LRI", 0x2066),
  ("LRM", 0x200E), ("LRO", 0x202D), ("MEDEFAIDRIN CAPITAL LETTER H", 0x16E56),
  ("MEDEFAIDRIN CAPITAL LETTER NG", 0x16E57), ("MEDEFAIDRIN SMALL LETTER H", 0x16E76),
  ("MEDEFAIDRIN SMALL LETTER NG", 0x16E77), ("MESSAGE WAITING", 0x95),
  ("MICR DASH SYMBOL", 0x2449), ("MICR ON US SYMBOL", 0x2448), ("MMSP", 0x205F), ("MVS", 0x180E),
  ("MW", 0x95), ("MYANMAR LETTER KHAMTI LLA", 0xAA6E), ("NAK", 0x15), ("NBH", 0x83),
  ("NBSP", 0xA0), ("NEGATIVE ACKNOWLEDGE", 0x15), ("NEL", 0x85), ("NEW LINE", 0xA),
  ("NEXT LINE", 0x85), ("NL", 0xA), ("NNBSP", 0x202F), ("NO BREAK HERE", 0x83), ("NUL", 0x0),
  ("NULL", 0x0), ("OPERATING SYSTEM COMMAND", 0x9D), ("OSC", 0x9D), ("PAD", 0x80),
  ("PADDING CHARACTER", 0x80), ("PARTIAL LINE BACKWARD", 0x8C), ("PARTIAL LINE DOWN", 0x8B),
  ("PARTIAL LINE FORWARD", 0x8B), ("PARTIAL LINE UP", 0x8C), ("PDF", 0x202C), ("PDI", 0x2069),
  ("PLD", 0x8B), ("PLU", 0x8C), ("PM", 0x9E),
  ("PRESENTATION FORM FOR VERTICAL RIGHT WHITE LENTICULAR BRACKET", 0xFE18),
  ("PRIVACY MESSAGE", 0x9E), ("PRIVATE USE ONE", 0x91), ("PRIVATE USE TWO", 0x92),
  ("PRIVATE USE-1", 0x91), ("PRIVATE USE-2", 0x92), ("PU1", 0x91), ("PU2", 0x92),
  ("RECORD SEPARATOR", 0x1E), ("REVERSE INDEX", 0x8D), ("REVERSE LINE FEED", 0x8D), ("RI", 0x8D),
  ("RIGHTWARDS TRIANGLE-HEADED ARROW WITH DOUBLE VERTICAL STROKE", 0x2B7C), ("RLE", 0x202B),
  ("RLI", 0x2067), ("RLM", 0x200F), ("RLO", 0x202E), ("RS", 0x1E), ("SCI", 0x9A),
  ("SET TRANSMIT STATE", 0x93), ("SGC", 0x99), ("SHIFT IN", 0xF), ("SHIFT OUT", 0xE),
  ("SHY", 0xAD), ("SI", 0xF), ("SINGLE CHARACTER INTRODUCER", 0x9A),
  ("SINGLE GRAPHIC CHARACTER INTRODUCER", 0x99), ("SINGLE SHIFT THREE", 0x8F),
  ("SINGLE SHIFT TWO", 0x8E), ("SINGLE-SHIFT-2", 0x8E), ("SINGLE-SHIFT-3", 0x8F), ("SO", 0xE),
  ("SOH", 0x1), ("SOS", 0x98), ("SP", 0x20), ("SPA", 0x96), ("SS2", 0x8E), ("SS3", 0x8F),
  ("SSA", 0x86), ("ST", 0x9C), ("START OF GUARDED AREA", 0x96), ("START OF HEADING", 0x1),
  ("START OF PROTECTED AREA", 0x96), ("START OF SELECTED AREA", 0x86), ("START OF STRING", 0x98),
  ("START OF TEXT", 0x2), ("STRING TERMINATOR", 0x9C), ("STS", 0x93), ("STX", 0x2), ("SUB", 0x1A),
  ("SUBSTITUTE", 0x1A), ("SYN", 0x16), ("SYNCHRONOUS IDLE", 0x16),
  ("SYRIAC SUBLINEAR COLON SKEWED LEFT", 0x709), ("TAB", 0x9),
  ("TIBETAN MARK BKA- SHOG GI MGO RGYAN", 0xFD0), ("UNIT SEPARATOR", 0x1F), ("US", 0x1F),
  ("VERTICAL TABULATION", 0xB), ("VERTICAL TABULATION SET", 0x8A), ("VT", 0xB), ("VTS", 0x8A),
  ("WEIERSTRASS ELLIPTIC FUNCTION", 0x2118), ("WJ", 0x2060),
  ("YI SYLLABLE ITERATION MARK", 0xA015), ("ZWJ", 0x200D), ("ZWNBSP", 0xFEFF), ("ZWNJ", 0x200C),
  ("ZWSP", 0x200B)]

end FormDialogue.Unicode
