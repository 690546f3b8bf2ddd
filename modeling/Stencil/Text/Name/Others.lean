/-! Names that characters have besides their own, and those of control characters. -/
namespace Stencil.Text.Name

def others : List (String × Nat) := [
  ("NULL", 0x0), ("NUL", 0x0), ("START OF HEADING", 0x1), ("SOH", 0x1), ("START OF TEXT", 0x2),
  ("STX", 0x2), ("END OF TEXT", 0x3), ("ETX", 0x3), ("END OF TRANSMISSION", 0x4), ("EOT", 0x4),
  ("ENQUIRY", 0x5), ("ENQ", 0x5), ("ACKNOWLEDGE", 0x6), ("ACK", 0x6), ("ALERT", 0x7), ("BEL", 0x7),
  ("BACKSPACE", 0x8), ("BS", 0x8), ("CHARACTER TABULATION", 0x9), ("HORIZONTAL TABULATION", 0x9),
  ("HT", 0x9), ("TAB", 0x9), ("LINE FEED", 0xa), ("NEW LINE", 0xa), ("END OF LINE", 0xa),
  ("LF", 0xa), ("NL", 0xa), ("EOL", 0xa), ("LINE TABULATION", 0xb), ("VERTICAL TABULATION", 0xb),
  ("VT", 0xb), ("FORM FEED", 0xc), ("FF", 0xc), ("CARRIAGE RETURN", 0xd), ("CR", 0xd),
  ("SHIFT OUT", 0xe), ("LOCKING-SHIFT ONE", 0xe), ("SO", 0xe), ("SHIFT IN", 0xf),
  ("LOCKING-SHIFT ZERO", 0xf), ("SI", 0xf), ("DATA LINK ESCAPE", 0x10), ("DLE", 0x10),
  ("DEVICE CONTROL ONE", 0x11), ("DC1", 0x11), ("DEVICE CONTROL TWO", 0x12), ("DC2", 0x12),
  ("DEVICE CONTROL THREE", 0x13), ("DC3", 0x13), ("DEVICE CONTROL FOUR", 0x14), ("DC4", 0x14),
  ("NEGATIVE ACKNOWLEDGE", 0x15), ("NAK", 0x15), ("SYNCHRONOUS IDLE", 0x16), ("SYN", 0x16),
  ("END OF TRANSMISSION BLOCK", 0x17), ("ETB", 0x17), ("CANCEL", 0x18), ("CAN", 0x18),
  ("END OF MEDIUM", 0x19), ("EOM", 0x19), ("SUBSTITUTE", 0x1a), ("SUB", 0x1a), ("ESCAPE", 0x1b),
  ("ESC", 0x1b), ("INFORMATION SEPARATOR FOUR", 0x1c), ("FILE SEPARATOR", 0x1c), ("FS", 0x1c),
  ("INFORMATION SEPARATOR THREE", 0x1d), ("GROUP SEPARATOR", 0x1d), ("GS", 0x1d),
  ("INFORMATION SEPARATOR TWO", 0x1e), ("RECORD SEPARATOR", 0x1e), ("RS", 0x1e),
  ("INFORMATION SEPARATOR ONE", 0x1f), ("UNIT SEPARATOR", 0x1f), ("US", 0x1f), ("SP", 0x20),
  ("DELETE", 0x7f), ("DEL", 0x7f), ("PADDING CHARACTER", 0x80), ("PAD", 0x80),
  ("HIGH OCTET PRESET", 0x81), ("HOP", 0x81), ("BREAK PERMITTED HERE", 0x82), ("BPH", 0x82),
  ("NO BREAK HERE", 0x83), ("NBH", 0x83), ("INDEX", 0x84), ("IND", 0x84), ("NEXT LINE", 0x85),
  ("NEL", 0x85), ("START OF SELECTED AREA", 0x86), ("SSA", 0x86), ("END OF SELECTED AREA", 0x87),
  ("ESA", 0x87), ("CHARACTER TABULATION SET", 0x88), ("HORIZONTAL TABULATION SET", 0x88),
  ("HTS", 0x88), ("CHARACTER TABULATION WITH JUSTIFICATION", 0x89),
  ("HORIZONTAL TABULATION WITH JUSTIFICATION", 0x89), ("HTJ", 0x89), ("LINE TABULATION SET", 0x8a),
  ("VERTICAL TABULATION SET", 0x8a), ("VTS", 0x8a), ("PARTIAL LINE FORWARD", 0x8b),
  ("PARTIAL LINE DOWN", 0x8b), ("PLD", 0x8b), ("PARTIAL LINE BACKWARD", 0x8c),
  ("PARTIAL LINE UP", 0x8c), ("PLU", 0x8c), ("REVERSE LINE FEED", 0x8d), ("REVERSE INDEX", 0x8d),
  ("RI", 0x8d), ("SINGLE SHIFT TWO", 0x8e), ("SINGLE-SHIFT-2", 0x8e), ("SS2", 0x8e),
  ("SINGLE SHIFT THREE", 0x8f), ("SINGLE-SHIFT-3", 0x8f), ("SS3", 0x8f),
  ("DEVICE CONTROL STRING", 0x90), ("DCS", 0x90), ("PRIVATE USE ONE", 0x91),
  ("PRIVATE USE-1", 0x91), ("PU1", 0x91), ("PRIVATE USE TWO", 0x92), ("PRIVATE USE-2", 0x92),
  ("PU2", 0x92), ("SET TRANSMIT STATE", 0x93), ("STS", 0x93), ("CANCEL CHARACTER", 0x94),
  ("CCH", 0x94), ("MESSAGE WAITING", 0x95), ("MW", 0x95), ("START OF GUARDED AREA", 0x96),
  ("START OF PROTECTED AREA", 0x96), ("SPA", 0x96), ("END OF GUARDED AREA", 0x97),
  ("END OF PROTECTED AREA", 0x97), ("EPA", 0x97), ("START OF STRING", 0x98), ("SOS", 0x98),
  ("SINGLE GRAPHIC CHARACTER INTRODUCER", 0x99), ("SGC", 0x99),
  ("SINGLE CHARACTER INTRODUCER", 0x9a), ("SCI", 0x9a), ("CONTROL SEQUENCE INTRODUCER", 0x9b),
  ("CSI", 0x9b), ("STRING TERMINATOR", 0x9c), ("ST", 0x9c), ("OPERATING SYSTEM COMMAND", 0x9d),
  ("OSC", 0x9d), ("PRIVACY MESSAGE", 0x9e), ("PM", 0x9e), ("APPLICATION PROGRAM COMMAND", 0x9f),
  ("APC", 0x9f), ("NBSP", 0xa0), ("SHY", 0xad), ("LATIN CAPITAL LETTER GHA", 0x1a2),
  ("LATIN SMALL LETTER GHA", 0x1a3), ("CGJ", 0x34f), ("ALM", 0x61c),
  ("SYRIAC SUBLINEAR COLON SKEWED LEFT", 0x709), ("KANNADA LETTER LLLA", 0xcde),
  ("LAO LETTER FO FON", 0xe9d), ("LAO LETTER FO FAY", 0xe9f), ("LAO LETTER RO", 0xea3),
  ("LAO LETTER LO", 0xea5), ("TIBETAN MARK BKA- SHOG GI MGO RGYAN", 0xfd0),
  ("HANGUL JONGSEONG YESIEUNG-KIYEOK", 0x11ec), ("HANGUL JONGSEONG YESIEUNG-SSANGKIYEOK", 0x11ed),
  ("HANGUL JONGSEONG SSANGYESIEUNG", 0x11ee), ("HANGUL JONGSEONG YESIEUNG-KHIEUKH", 0x11ef),
  ("FVS1", 0x180b), ("FVS2", 0x180c), ("FVS3", 0x180d), ("MVS", 0x180e), ("FVS4", 0x180f),
  ("ZWSP", 0x200b), ("ZWNJ", 0x200c), ("ZWJ", 0x200d), ("LRM", 0x200e), ("RLM", 0x200f),
  ("LRE", 0x202a), ("RLE", 0x202b), ("PDF", 0x202c), ("LRO", 0x202d), ("RLO", 0x202e),
  ("NNBSP", 0x202f), ("MMSP", 0x205f), ("WJ", 0x2060), ("LRI", 0x2066), ("RLI", 0x2067),
  ("FSI", 0x2068), ("PDI", 0x2069), ("WEIERSTRASS ELLIPTIC FUNCTION", 0x2118),
  ("MICR ON US SYMBOL", 0x2448), ("MICR DASH SYMBOL", 0x2449),
  ("LEFTWARDS TRIANGLE-HEADED ARROW WITH DOUBLE VERTICAL STROKE", 0x2b7a),
  ("RIGHTWARDS TRIANGLE-HEADED ARROW WITH DOUBLE VERTICAL STROKE", 0x2b7c),
  ("YI SYLLABLE ITERATION MARK", 0xa015), ("MYANMAR LETTER KHAMTI LLA", 0xaa6e), ("VS1", 0xfe00),
  ("VS2", 0xfe01), ("VS3", 0xfe02), ("VS4", 0xfe03), ("VS5", 0xfe04), ("VS6", 0xfe05),
  ("VS7", 0xfe06), ("VS8", 0xfe07), ("VS9", 0xfe08), ("VS10", 0xfe09), ("VS11", 0xfe0a),
  ("VS12", 0xfe0b), ("VS13", 0xfe0c), ("VS14", 0xfe0d), ("VS15", 0xfe0e), ("VS16", 0xfe0f),
  ("PRESENTATION FORM FOR VERTICAL RIGHT WHITE LENTICULAR BRACKET", 0xfe18),
  ("BYTE ORDER MARK", 0xfeff), ("BOM", 0xfeff), ("ZWNBSP", 0xfeff),
  ("CUNEIFORM SIGN NU11 TENU", 0x122d4), ("CUNEIFORM SIGN NU11 OVER NU11 BUR OVER BUR", 0x122d5),
  ("MEDEFAIDRIN CAPITAL LETTER H", 0x16e56), ("MEDEFAIDRIN CAPITAL LETTER NG", 0x16e57),
  ("MEDEFAIDRIN SMALL LETTER H", 0x16e76), ("MEDEFAIDRIN SMALL LETTER NG", 0x16e77),
  ("HENTAIGANA LETTER E-1", 0x1b001),
  ("BYZANTINE MUSICAL SYMBOL FTHORA SKLIRON CHROMA VASIS", 0x1d0c5), ("VS17", 0xe0100),
  ("VS18", 0xe0101), ("VS19", 0xe0102), ("VS20", 0xe0103), ("VS21", 0xe0104), ("VS22", 0xe0105),
  ("VS23", 0xe0106), ("VS24", 0xe0107), ("VS25", 0xe0108), ("VS26", 0xe0109), ("VS27", 0xe010a),
  ("VS28", 0xe010b), ("VS29", 0xe010c), ("VS30", 0xe010d), ("VS31", 0xe010e), ("VS32", 0xe010f),
  ("VS33", 0xe0110), ("VS34", 0xe0111), ("VS35", 0xe0112), ("VS36", 0xe0113), ("VS37", 0xe0114),
  ("VS38", 0xe0115), ("VS39", 0xe0116), ("VS40", 0xe0117), ("VS41", 0xe0118), ("VS42", 0xe0119),
  ("VS43", 0xe011a), ("VS44", 0xe011b), ("VS45", 0xe011c), ("VS46", 0xe011d), ("VS47", 0xe011e),
  ("VS48", 0xe011f), ("VS49", 0xe0120), ("VS50", 0xe0121), ("VS51", 0xe0122), ("VS52", 0xe0123),
  ("VS53", 0xe0124), ("VS54", 0xe0125), ("VS55", 0xe0126), ("VS56", 0xe0127), ("VS57", 0xe0128),
  ("VS58", 0xe0129), ("VS59", 0xe012a), ("VS60", 0xe012b), ("VS61", 0xe012c), ("VS62", 0xe012d),
  ("VS63", 0xe012e), ("VS64", 0xe012f), ("VS65", 0xe0130), ("VS66", 0xe0131), ("VS67", 0xe0132),
  ("VS68", 0xe0133), ("VS69", 0xe0134), ("VS70", 0xe0135), ("VS71", 0xe0136), ("VS72", 0xe0137),
  ("VS73", 0xe0138), ("VS74", 0xe0139), ("VS75", 0xe013a), ("VS76", 0xe013b), ("VS77", 0xe013c),
  ("VS78", 0xe013d), ("VS79", 0xe013e), ("VS80", 0xe013f), ("VS81", 0xe0140), ("VS82", 0xe0141),
  ("VS83", 0xe0142), ("VS84", 0xe0143), ("VS85", 0xe0144), ("VS86", 0xe0145), ("VS87", 0xe0146),
  ("VS88", 0xe0147), ("VS89", 0xe0148), ("VS90", 0xe0149), ("VS91", 0xe014a), ("VS92", 0xe014b),
  ("VS93", 0xe014c), ("VS94", 0xe014d), ("VS95", 0xe014e), ("VS96", 0xe014f), ("VS97", 0xe0150),
  ("VS98", 0xe0151), ("VS99", 0xe0152), ("VS100", 0xe0153), ("VS101", 0xe0154), ("VS102", 0xe0155),
  ("VS103", 0xe0156), ("VS104", 0xe0157), ("VS105", 0xe0158), ("VS106", 0xe0159),
  ("VS107", 0xe015a), ("VS108", 0xe015b), ("VS109", 0xe015c), ("VS110", 0xe015d),
  ("VS111", 0xe015e), ("VS112", 0xe015f), ("VS113", 0xe0160), ("VS114", 0xe0161),
  ("VS115", 0xe0162), ("VS116", 0xe0163), ("VS117", 0xe0164), ("VS118", 0xe0165),
  ("VS119", 0xe0166), ("VS120", 0xe0167), ("VS121", 0xe0168), ("VS122", 0xe0169),
  ("VS123", 0xe016a), ("VS124", 0xe016b), ("VS125", 0xe016c), ("VS126", 0xe016d),
  ("VS127", 0xe016e), ("VS128", 0xe016f), ("VS129", 0xe0170), ("VS130", 0xe0171),
  ("VS131", 0xe0172), ("VS132", 0xe0173), ("VS133", 0xe0174), ("VS134", 0xe0175),
  ("VS135", 0xe0176), ("VS136", 0xe0177), ("VS137", 0xe0178), ("VS138", 0xe0179),
  ("VS139", 0xe017a), ("VS140", 0xe017b), ("VS141", 0xe017c), ("VS142", 0xe017d),
  ("VS143", 0xe017e), ("VS144", 0xe017f), ("VS145", 0xe0180), ("VS146", 0xe0181),
  ("VS147", 0xe0182), ("VS148", 0xe0183), ("VS149", 0xe0184), ("VS150", 0xe0185),
  ("VS151", 0xe0186), ("VS152", 0xe0187), ("VS153", 0xe0188), ("VS154", 0xe0189),
  ("VS155", 0xe018a), ("VS156", 0xe018b), ("VS157", 0xe018c), ("VS158", 0xe018d),
  ("VS159", 0xe018e), ("VS160", 0xe018f), ("VS161", 0xe0190), ("VS162", 0xe0191),
  ("VS163", 0xe0192), ("VS164", 0xe0193), ("VS165", 0xe0194), ("VS166", 0xe0195),
  ("VS167", 0xe0196), ("VS168", 0xe0197), ("VS169", 0xe0198), ("VS170", 0xe0199),
  ("VS171", 0xe019a), ("VS172", 0xe019b), ("VS173", 0xe019c), ("VS174", 0xe019d),
  ("VS175", 0xe019e), ("VS176", 0xe019f), ("VS177", 0xe01a0), ("VS178", 0xe01a1),
  ("VS179", 0xe01a2), ("VS180", 0xe01a3), ("VS181", 0xe01a4), ("VS182", 0xe01a5),
  ("VS183", 0xe01a6), ("VS184", 0xe01a7), ("VS185", 0xe01a8), ("VS186", 0xe01a9),
  ("VS187", 0xe01aa), ("VS188", 0xe01ab), ("VS189", 0xe01ac), ("VS190", 0xe01ad),
  ("VS191", 0xe01ae), ("VS192", 0xe01af), ("VS193", 0xe01b0), ("VS194", 0xe01b1),
  ("VS195", 0xe01b2), ("VS196", 0xe01b3), ("VS197", 0xe01b4), ("VS198", 0xe01b5),
  ("VS199", 0xe01b6), ("VS200", 0xe01b7), ("VS201", 0xe01b8), ("VS202", 0xe01b9),
  ("VS203", 0xe01ba), ("VS204", 0xe01bb), ("VS205", 0xe01bc), ("VS206", 0xe01bd),
  ("VS207", 0xe01be), ("VS208", 0xe01bf), ("VS209", 0xe01c0), ("VS210", 0xe01c1),
  ("VS211", 0xe01c2), ("VS212", 0xe01c3), ("VS213", 0xe01c4), ("VS214", 0xe01c5),
  ("VS215", 0xe01c6), ("VS216", 0xe01c7), ("VS217", 0xe01c8), ("VS218", 0xe01c9),
  ("VS219", 0xe01ca), ("VS220", 0xe01cb), ("VS221", 0xe01cc), ("VS222", 0xe01cd),
  ("VS223", 0xe01ce), ("VS224", 0xe01cf), ("VS225", 0xe01d0), ("VS226", 0xe01d1),
  ("VS227", 0xe01d2), ("VS228", 0xe01d3), ("VS229", 0xe01d4), ("VS230", 0xe01d5),
  ("VS231", 0xe01d6), ("VS232", 0xe01d7), ("VS233", 0xe01d8), ("VS234", 0xe01d9),
  ("VS235", 0xe01da), ("VS236", 0xe01db), ("VS237", 0xe01dc), ("VS238", 0xe01dd),
  ("VS239", 0xe01de), ("VS240", 0xe01df), ("VS241", 0xe01e0), ("VS242", 0xe01e1),
  ("VS243", 0xe01e2), ("VS244", 0xe01e3), ("VS245", 0xe01e4), ("VS246", 0xe01e5),
  ("VS247", 0xe01e6), ("VS248", 0xe01e7), ("VS249", 0xe01e8), ("VS250", 0xe01e9),
  ("VS251", 0xe01ea), ("VS252", 0xe01eb), ("VS253", 0xe01ec), ("VS254", 0xe01ed),
  ("VS255", 0xe01ee), ("VS256", 0xe01ef)]

end Stencil.Text.Name
