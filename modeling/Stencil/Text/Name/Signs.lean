import Stencil.Text.Name.Run

/-! Names of the characters from U+2000 to U+2FFF, most of them signs. -/
namespace Stencil.Text.Name

def signs : List Run := [
  ⟨0x2000, "",
    "EN QUAD,EM QUAD,EN SPACE,EM SPACE,THREE-PER-EM SPACE,FOUR-PER-EM SPACE,SIX-PER-EM SPACE,FI" ++
    "GURE SPACE,PUNCTUATION SPACE,THIN SPACE,HAIR SPACE,ZERO WIDTH SPACE,ZERO WIDTH NON-JOINER," ++
    "ZERO WIDTH JOINER,LEFT-TO-RIGHT MARK,RIGHT-TO-LEFT MARK,HYPHEN,NON-BREAKING HYPHEN,FIGURE " ++
    "DASH,EN DASH,EM DASH,HORIZONTAL BAR,DOUBLE VERTICAL LINE,DOUBLE LOW LINE,LEFT SINGLE QUOTA" ++
    "TION MARK,RIGHT SINGLE QUOTATION MARK,SINGLE LOW-9 QUOTATION MARK,SINGLE HIGH-REVERSED-9 Q" ++
    "UOTATION MARK,LEFT DOUBLE QUOTATION MARK,RIGHT DOUBLE QUOTATION MARK,DOUBLE LOW-9 QUOTATIO" ++
    "N MARK,DOUBLE HIGH-REVERSED-9 QUOTATION MARK,DAGGER,DOUBLE DAGGER,BULLET,TRIANGULAR BULLET" ++
    ",ONE DOT LEADER,TWO DOT LEADER,HORIZONTAL ELLIPSIS,HYPHENATION POINT,LINE SEPARATOR,PARAGR" ++
    "APH SEPARATOR,LEFT-TO-RIGHT EMBEDDING,RIGHT-TO-LEFT EMBEDDING,POP DIRECTIONAL FORMATTING,L" ++
    "EFT-TO-RIGHT OVERRIDE,RIGHT-TO-LEFT OVERRIDE,NARROW NO-BREAK SPACE,PER MILLE SIGN,PER TEN " ++
    "THOUSAND SIGN"⟩,
  ⟨0x2032, "",
    "PRIME,DOUBLE PRIME,TRIPLE PRIME,REVERSED PRIME,REVERSED DOUBLE PRIME,REVERSED TRIPLE PRIME" ++
    ",CARET,SINGLE LEFT-POINTING ANGLE QUOTATION MARK,SINGLE RIGHT-POINTING ANGLE QUOTATION MAR" ++
    "K,REFERENCE MARK,DOUBLE EXCLAMATION MARK,INTERROBANG,OVERLINE,UNDERTIE,CHARACTER TIE,CARET" ++
    " INSERTION POINT,ASTERISM,HYPHEN BULLET,FRACTION SLASH,LEFT SQUARE BRACKET WITH QUILL,RIGH" ++
    "T SQUARE BRACKET WITH QUILL,DOUBLE QUESTION MARK,QUESTION EXCLAMATION MARK,EXCLAMATION QUE" ++
    "STION MARK,TIRONIAN SIGN ET,REVERSED PILCROW SIGN,BLACK LEFTWARDS BULLET,BLACK RIGHTWARDS " ++
    "BULLET,LOW ASTERISK,REVERSED SEMICOLON,CLOSE UP,TWO ASTERISKS ALIGNED VERTICALLY,COMMERCIA" ++
    "L MINUS SIGN,SWUNG DASH,INVERTED UNDERTIE,FLOWER PUNCTUATION MARK,THREE DOT PUNCTUATION,QU" ++
    "ADRUPLE PRIME,FOUR DOT PUNCTUATION,FIVE DOT PUNCTUATION,TWO DOT PUNCTUATION,FOUR DOT MARK," ++
    "DOTTED CROSS,TRICOLON,VERTICAL FOUR DOTS,MEDIUM MATHEMATICAL SPACE,WORD JOINER,FUNCTION AP" ++
    "PLICATION,INVISIBLE TIMES,INVISIBLE SEPARATOR,INVISIBLE PLUS,…,LEFT-TO-RIGHT ISOLATE,RIGHT" ++
    "-TO-LEFT ISOLATE,FIRST STRONG ISOLATE,POP DIRECTIONAL ISOLATE,INHIBIT SYMMETRIC SWAPPING,A" ++
    "CTIVATE SYMMETRIC SWAPPING,INHIBIT ARABIC FORM SHAPING,ACTIVATE ARABIC FORM SHAPING,NATION" ++
    "AL DIGIT SHAPES,NOMINAL DIGIT SHAPES"⟩,
  ⟨0x2070, "SUPERSCRIPT ",
    "ZERO,LATIN SMALL LETTER I,…,…,FOUR,FIVE,SIX,SEVEN,EIGHT,NINE,PLUS SIGN,MINUS,EQUALS SIGN,L" ++
    "EFT PARENTHESIS,RIGHT PARENTHESIS,LATIN SMALL LETTER N"⟩,
  ⟨0x2080, "SUBSCRIPT ",
    "ZERO,ONE,TWO,THREE,FOUR,FIVE,SIX,SEVEN,EIGHT,NINE,PLUS SIGN,MINUS,EQUALS SIGN,LEFT PARENTH" ++
    "ESIS,RIGHT PARENTHESIS"⟩,
  ⟨0x2090, "LATIN SUBSCRIPT SMALL LETTER ", "A,E,O,X,SCHWA,H,K,L,M,N,P,S,T"⟩,
  ⟨0x20a0, "",
    "EURO-CURRENCY SIGN,COLON SIGN,CRUZEIRO SIGN,FRENCH FRANC SIGN,LIRA SIGN,MILL SIGN,NAIRA SI" ++
    "GN,PESETA SIGN,RUPEE SIGN,WON SIGN,NEW SHEQEL SIGN,DONG SIGN,EURO SIGN,KIP SIGN,TUGRIK SIG" ++
    "N,DRACHMA SIGN,GERMAN PENNY SIGN,PESO SIGN,GUARANI SIGN,AUSTRAL SIGN,HRYVNIA SIGN,CEDI SIG" ++
    "N,LIVRE TOURNOIS SIGN,SPESMILO SIGN,TENGE SIGN,INDIAN RUPEE SIGN,TURKISH LIRA SIGN,NORDIC " ++
    "MARK SIGN,MANAT SIGN,RUBLE SIGN,LARI SIGN,BITCOIN SIGN,SOM SIGN"⟩,
  ⟨0x20d0, "COMBINING ",
    "LEFT HARPOON ABOVE,RIGHT HARPOON ABOVE,LONG VERTICAL LINE OVERLAY,SHORT VERTICAL LINE OVER" ++
    "LAY,ANTICLOCKWISE ARROW ABOVE,CLOCKWISE ARROW ABOVE,LEFT ARROW ABOVE,RIGHT ARROW ABOVE,RIN" ++
    "G OVERLAY,CLOCKWISE RING OVERLAY,ANTICLOCKWISE RING OVERLAY,THREE DOTS ABOVE,FOUR DOTS ABO" ++
    "VE,ENCLOSING CIRCLE,ENCLOSING SQUARE,ENCLOSING DIAMOND,ENCLOSING CIRCLE BACKSLASH,LEFT RIG" ++
    "HT ARROW ABOVE,ENCLOSING SCREEN,ENCLOSING KEYCAP,ENCLOSING UPWARD POINTING TRIANGLE,REVERS" ++
    "E SOLIDUS OVERLAY,DOUBLE VERTICAL STROKE OVERLAY,ANNUITY SYMBOL,TRIPLE UNDERDOT,WIDE BRIDG" ++
    "E ABOVE,LEFTWARDS ARROW OVERLAY,LONG DOUBLE SOLIDUS OVERLAY,RIGHTWARDS HARPOON WITH BARB D" ++
    "OWNWARDS,LEFTWARDS HARPOON WITH BARB DOWNWARDS,LEFT ARROW BELOW,RIGHT ARROW BELOW,ASTERISK" ++
    " ABOVE"⟩,
  ⟨0x2100, "",
    "ACCOUNT OF,ADDRESSED TO THE SUBJECT,DOUBLE-STRUCK CAPITAL C,DEGREE CELSIUS,CENTRE LINE SYM" ++
    "BOL,CARE OF,CADA UNA,EULER CONSTANT,SCRUPLE,DEGREE FAHRENHEIT,SCRIPT SMALL G,SCRIPT CAPITA" ++
    "L H,BLACK-LETTER CAPITAL H,DOUBLE-STRUCK CAPITAL H,PLANCK CONSTANT,PLANCK CONSTANT OVER TW" ++
    "O PI,SCRIPT CAPITAL I,BLACK-LETTER CAPITAL I,SCRIPT CAPITAL L,SCRIPT SMALL L,L B BAR SYMBO" ++
    "L,DOUBLE-STRUCK CAPITAL N,NUMERO SIGN,SOUND RECORDING COPYRIGHT,SCRIPT CAPITAL P,DOUBLE-ST" ++
    "RUCK CAPITAL P,DOUBLE-STRUCK CAPITAL Q,SCRIPT CAPITAL R,BLACK-LETTER CAPITAL R,DOUBLE-STRU" ++
    "CK CAPITAL R,PRESCRIPTION TAKE,RESPONSE,SERVICE MARK,TELEPHONE SIGN,TRADE MARK SIGN,VERSIC" ++
    "LE,DOUBLE-STRUCK CAPITAL Z,OUNCE SIGN,OHM SIGN,INVERTED OHM SIGN,BLACK-LETTER CAPITAL Z,TU" ++
    "RNED GREEK SMALL LETTER IOTA,KELVIN SIGN,ANGSTROM SIGN,SCRIPT CAPITAL B,BLACK-LETTER CAPIT" ++
    "AL C,ESTIMATED SYMBOL,SCRIPT SMALL E,SCRIPT CAPITAL E,SCRIPT CAPITAL F,TURNED CAPITAL F,SC" ++
    "RIPT CAPITAL M,SCRIPT SMALL O,ALEF SYMBOL,BET SYMBOL,GIMEL SYMBOL,DALET SYMBOL,INFORMATION" ++
    " SOURCE,ROTATED CAPITAL Q,FACSIMILE SIGN"⟩,
  ⟨0x213c, "DOUBLE-STRUCK ", "SMALL PI,SMALL GAMMA,CAPITAL GAMMA,CAPITAL PI,N-ARY SUMMATION"⟩,
  ⟨0x2141, "TURNED SANS-SERIF CAPITAL ", "G,L"⟩,
  ⟨0x2143, "", "REVERSED SANS-SERIF CAPITAL L,TURNED SANS-SERIF CAPITAL Y"⟩,
  ⟨0x2145, "DOUBLE-STRUCK ITALIC ", "CAPITAL D,SMALL D,SMALL E,SMALL I,SMALL J"⟩,
  ⟨0x214a, "",
    "PROPERTY LINE,TURNED AMPERSAND,PER SIGN,AKTIESELSKAB,TURNED SMALL F,SYMBOL FOR SAMARITAN S" ++
    "OURCE"⟩,
  ⟨0x2150, "VULGAR FRACTION ",
    "ONE SEVENTH,ONE NINTH,ONE TENTH,ONE THIRD,TWO THIRDS,ONE FIFTH,TWO FIFTHS,THREE FIFTHS,FOU" ++
    "R FIFTHS,ONE SIXTH,FIVE SIXTHS,ONE EIGHTH,THREE EIGHTHS,FIVE EIGHTHS,SEVEN EIGHTHS"⟩,
  ⟨0x215f, "FRACTION NUMERATOR ONE", ""⟩,
  ⟨0x2160, "ROMAN NUMERAL ",
    "ONE,TWO,THREE,FOUR,FIVE,SIX,SEVEN,EIGHT,NINE,TEN,ELEVEN,TWELVE,FIFTY,ONE HUNDRED,FIVE HUND" ++
    "RED,ONE THOUSAND"⟩,
  ⟨0x2170, "SMALL ROMAN NUMERAL ",
    "ONE,TWO,THREE,FOUR,FIVE,SIX,SEVEN,EIGHT,NINE,TEN,ELEVEN,TWELVE,FIFTY,ONE HUNDRED,FIVE HUND" ++
    "RED,ONE THOUSAND"⟩,
  ⟨0x2180, "ROMAN NUMERAL ", "ONE THOUSAND C D,FIVE THOUSAND,TEN THOUSAND,REVERSED ONE HUNDRED"⟩,
  ⟨0x2184, "",
    "LATIN SMALL LETTER REVERSED C,ROMAN NUMERAL SIX LATE FORM,ROMAN NUMERAL FIFTY EARLY FORM,R" ++
    "OMAN NUMERAL FIFTY THOUSAND,ROMAN NUMERAL ONE HUNDRED THOUSAND,VULGAR FRACTION ZERO THIRDS" ++
    ",TURNED DIGIT TWO,TURNED DIGIT THREE,…,…,…,…,LEFTWARDS ARROW,UPWARDS ARROW,RIGHTWARDS ARRO" ++
    "W,DOWNWARDS ARROW,LEFT RIGHT ARROW,UP DOWN ARROW,NORTH WEST ARROW,NORTH EAST ARROW,SOUTH E" ++
    "AST ARROW,SOUTH WEST ARROW,LEFTWARDS ARROW WITH STROKE,RIGHTWARDS ARROW WITH STROKE,LEFTWA" ++
    "RDS WAVE ARROW,RIGHTWARDS WAVE ARROW,LEFTWARDS TWO HEADED ARROW,UPWARDS TWO HEADED ARROW,R" ++
    "IGHTWARDS TWO HEADED ARROW,DOWNWARDS TWO HEADED ARROW,LEFTWARDS ARROW WITH TAIL,RIGHTWARDS" ++
    " ARROW WITH TAIL,LEFTWARDS ARROW FROM BAR,UPWARDS ARROW FROM BAR,RIGHTWARDS ARROW FROM BAR" ++
    ",DOWNWARDS ARROW FROM BAR,UP DOWN ARROW WITH BASE,LEFTWARDS ARROW WITH HOOK,RIGHTWARDS ARR" ++
    "OW WITH HOOK,LEFTWARDS ARROW WITH LOOP,RIGHTWARDS ARROW WITH LOOP,LEFT RIGHT WAVE ARROW,LE" ++
    "FT RIGHT ARROW WITH STROKE,DOWNWARDS ZIGZAG ARROW,UPWARDS ARROW WITH TIP LEFTWARDS,UPWARDS" ++
    " ARROW WITH TIP RIGHTWARDS,DOWNWARDS ARROW WITH TIP LEFTWARDS,DOWNWARDS ARROW WITH TIP RIG" ++
    "HTWARDS,RIGHTWARDS ARROW WITH CORNER DOWNWARDS,DOWNWARDS ARROW WITH CORNER LEFTWARDS,ANTIC" ++
    "LOCKWISE TOP SEMICIRCLE ARROW,CLOCKWISE TOP SEMICIRCLE ARROW,NORTH WEST ARROW TO LONG BAR," ++
    "LEFTWARDS ARROW TO BAR OVER RIGHTWARDS ARROW TO BAR,ANTICLOCKWISE OPEN CIRCLE ARROW,CLOCKW" ++
    "ISE OPEN CIRCLE ARROW"⟩,
  ⟨0x21bc, "LEFTWARDS HARPOON WITH BARB ", "UPWARDS,DOWNWARDS"⟩,
  ⟨0x21be, "UPWARDS HARPOON WITH BARB ", "RIGHTWARDS,LEFTWARDS"⟩,
  ⟨0x21c0, "RIGHTWARDS HARPOON WITH BARB ", "UPWARDS,DOWNWARDS"⟩,
  ⟨0x21c2, "DOWNWARDS HARPOON WITH BARB ", "RIGHTWARDS,LEFTWARDS"⟩,
  ⟨0x21c4, "",
    "RIGHTWARDS ARROW OVER LEFTWARDS ARROW,UPWARDS ARROW LEFTWARDS OF DOWNWARDS ARROW,LEFTWARDS" ++
    " ARROW OVER RIGHTWARDS ARROW,LEFTWARDS PAIRED ARROWS,UPWARDS PAIRED ARROWS,RIGHTWARDS PAIR" ++
    "ED ARROWS,DOWNWARDS PAIRED ARROWS,LEFTWARDS HARPOON OVER RIGHTWARDS HARPOON,RIGHTWARDS HAR" ++
    "POON OVER LEFTWARDS HARPOON,LEFTWARDS DOUBLE ARROW WITH STROKE,LEFT RIGHT DOUBLE ARROW WIT" ++
    "H STROKE,RIGHTWARDS DOUBLE ARROW WITH STROKE,LEFTWARDS DOUBLE ARROW,UPWARDS DOUBLE ARROW,R" ++
    "IGHTWARDS DOUBLE ARROW,DOWNWARDS DOUBLE ARROW,LEFT RIGHT DOUBLE ARROW,UP DOWN DOUBLE ARROW" ++
    ",NORTH WEST DOUBLE ARROW,NORTH EAST DOUBLE ARROW,SOUTH EAST DOUBLE ARROW,SOUTH WEST DOUBLE" ++
    " ARROW,LEFTWARDS TRIPLE ARROW,RIGHTWARDS TRIPLE ARROW,LEFTWARDS SQUIGGLE ARROW,RIGHTWARDS " ++
    "SQUIGGLE ARROW,UPWARDS ARROW WITH DOUBLE STROKE,DOWNWARDS ARROW WITH DOUBLE STROKE,LEFTWAR" ++
    "DS DASHED ARROW,UPWARDS DASHED ARROW,RIGHTWARDS DASHED ARROW,DOWNWARDS DASHED ARROW,LEFTWA" ++
    "RDS ARROW TO BAR,RIGHTWARDS ARROW TO BAR,LEFTWARDS WHITE ARROW,UPWARDS WHITE ARROW,RIGHTWA" ++
    "RDS WHITE ARROW,DOWNWARDS WHITE ARROW"⟩,
  ⟨0x21ea, "UPWARDS WHITE ",
    "ARROW FROM BAR,ARROW ON PEDESTAL,ARROW ON PEDESTAL WITH HORIZONTAL BAR,ARROW ON PEDESTAL W" ++
    "ITH VERTICAL BAR,DOUBLE ARROW,DOUBLE ARROW ON PEDESTAL"⟩,
  ⟨0x21f0, "",
    "RIGHTWARDS WHITE ARROW FROM WALL,NORTH WEST ARROW TO CORNER,SOUTH EAST ARROW TO CORNER,UP " ++
    "DOWN WHITE ARROW,RIGHT ARROW WITH SMALL CIRCLE,DOWNWARDS ARROW LEFTWARDS OF UPWARDS ARROW," ++
    "THREE RIGHTWARDS ARROWS,LEFTWARDS ARROW WITH VERTICAL STROKE,RIGHTWARDS ARROW WITH VERTICA" ++
    "L STROKE,LEFT RIGHT ARROW WITH VERTICAL STROKE,LEFTWARDS ARROW WITH DOUBLE VERTICAL STROKE" ++
    ",RIGHTWARDS ARROW WITH DOUBLE VERTICAL STROKE,LEFT RIGHT ARROW WITH DOUBLE VERTICAL STROKE" ++
    ",LEFTWARDS OPEN-HEADED ARROW,RIGHTWARDS OPEN-HEADED ARROW,LEFT RIGHT OPEN-HEADED ARROW,FOR" ++
    " ALL,COMPLEMENT,PARTIAL DIFFERENTIAL,THERE EXISTS,THERE DOES NOT EXIST,EMPTY SET,INCREMENT" ++
    ",NABLA,ELEMENT OF,NOT AN ELEMENT OF,SMALL ELEMENT OF,CONTAINS AS MEMBER,DOES NOT CONTAIN A" ++
    "S MEMBER,SMALL CONTAINS AS MEMBER,END OF PROOF,N-ARY PRODUCT,N-ARY COPRODUCT,N-ARY SUMMATI" ++
    "ON,MINUS SIGN,MINUS-OR-PLUS SIGN,DOT PLUS"⟩,
  ⟨0x2215, "",
    "DIVISION SLASH,SET MINUS,ASTERISK OPERATOR,RING OPERATOR,BULLET OPERATOR,SQUARE ROOT,CUBE " ++
    "ROOT,FOURTH ROOT,PROPORTIONAL TO,INFINITY,RIGHT ANGLE,ANGLE,MEASURED ANGLE,SPHERICAL ANGLE" ++
    ",DIVIDES,DOES NOT DIVIDE,PARALLEL TO,NOT PARALLEL TO,LOGICAL AND,LOGICAL OR,INTERSECTION,U" ++
    "NION,INTEGRAL,DOUBLE INTEGRAL,TRIPLE INTEGRAL,CONTOUR INTEGRAL,SURFACE INTEGRAL,VOLUME INT" ++
    "EGRAL,CLOCKWISE INTEGRAL,CLOCKWISE CONTOUR INTEGRAL,ANTICLOCKWISE CONTOUR INTEGRAL,THEREFO" ++
    "RE,BECAUSE,RATIO,PROPORTION,DOT MINUS,EXCESS,GEOMETRIC PROPORTION,HOMOTHETIC,TILDE OPERATO" ++
    "R,REVERSED TILDE,INVERTED LAZY S,SINE WAVE,WREATH PRODUCT,NOT TILDE,MINUS TILDE,ASYMPTOTIC" ++
    "ALLY EQUAL TO,NOT ASYMPTOTICALLY EQUAL TO,APPROXIMATELY EQUAL TO,APPROXIMATELY BUT NOT ACT" ++
    "UALLY EQUAL TO,NEITHER APPROXIMATELY NOR ACTUALLY EQUAL TO,ALMOST EQUAL TO,NOT ALMOST EQUA" ++
    "L TO,ALMOST EQUAL OR EQUAL TO,TRIPLE TILDE,ALL EQUAL TO,EQUIVALENT TO,GEOMETRICALLY EQUIVA" ++
    "LENT TO,DIFFERENCE BETWEEN,APPROACHES THE LIMIT,GEOMETRICALLY EQUAL TO"⟩,
  ⟨0x2252, "",
    "APPROXIMATELY EQUAL TO OR THE IMAGE OF,IMAGE OF OR APPROXIMATELY EQUAL TO,COLON EQUALS,EQU" ++
    "ALS COLON,RING IN EQUAL TO,RING EQUAL TO,CORRESPONDS TO,ESTIMATES,EQUIANGULAR TO,STAR EQUA" ++
    "LS,DELTA EQUAL TO,EQUAL TO BY DEFINITION,MEASURED BY,QUESTIONED EQUAL TO,NOT EQUAL TO,IDEN" ++
    "TICAL TO,NOT IDENTICAL TO,STRICTLY EQUIVALENT TO,LESS-THAN OR EQUAL TO,GREATER-THAN OR EQU" ++
    "AL TO,LESS-THAN OVER EQUAL TO,GREATER-THAN OVER EQUAL TO,LESS-THAN BUT NOT EQUAL TO,GREATE" ++
    "R-THAN BUT NOT EQUAL TO,MUCH LESS-THAN,MUCH GREATER-THAN,BETWEEN,NOT EQUIVALENT TO,NOT LES" ++
    "S-THAN,NOT GREATER-THAN,NEITHER LESS-THAN NOR EQUAL TO,NEITHER GREATER-THAN NOR EQUAL TO,L" ++
    "ESS-THAN OR EQUIVALENT TO,GREATER-THAN OR EQUIVALENT TO,NEITHER LESS-THAN NOR EQUIVALENT T" ++
    "O,NEITHER GREATER-THAN NOR EQUIVALENT TO,LESS-THAN OR GREATER-THAN,GREATER-THAN OR LESS-TH" ++
    "AN,NEITHER LESS-THAN NOR GREATER-THAN,NEITHER GREATER-THAN NOR LESS-THAN,PRECEDES,SUCCEEDS" ++
    ",PRECEDES OR EQUAL TO,SUCCEEDS OR EQUAL TO,PRECEDES OR EQUIVALENT TO,SUCCEEDS OR EQUIVALEN" ++
    "T TO,DOES NOT PRECEDE,DOES NOT SUCCEED,SUBSET OF,SUPERSET OF,NOT A SUBSET OF,NOT A SUPERSE" ++
    "T OF,SUBSET OF OR EQUAL TO,SUPERSET OF OR EQUAL TO,NEITHER A SUBSET OF NOR EQUAL TO,NEITHE" ++
    "R A SUPERSET OF NOR EQUAL TO,SUBSET OF WITH NOT EQUAL TO,SUPERSET OF WITH NOT EQUAL TO,MUL" ++
    "TISET,MULTISET MULTIPLICATION,MULTISET UNION"⟩,
  ⟨0x228f, "SQUARE ", "IMAGE OF,ORIGINAL OF,IMAGE OF OR EQUAL TO,ORIGINAL OF OR EQUAL TO,CAP,CUP"⟩,
  ⟨0x2295, "CIRCLED ",
    "PLUS,MINUS,TIMES,DIVISION SLASH,DOT OPERATOR,RING OPERATOR,ASTERISK OPERATOR,EQUALS,DASH"⟩,
  ⟨0x229e, "SQUARED ", "PLUS,MINUS,TIMES,DOT OPERATOR"⟩,
  ⟨0x22a2, "",
    "RIGHT TACK,LEFT TACK,DOWN TACK,UP TACK,ASSERTION,MODELS,TRUE,FORCES,TRIPLE VERTICAL BAR RI" ++
    "GHT TURNSTILE,DOUBLE VERTICAL BAR DOUBLE RIGHT TURNSTILE,DOES NOT PROVE,NOT TRUE,DOES NOT " ++
    "FORCE,NEGATED DOUBLE VERTICAL BAR DOUBLE RIGHT TURNSTILE,PRECEDES UNDER RELATION,SUCCEEDS " ++
    "UNDER RELATION,NORMAL SUBGROUP OF,CONTAINS AS NORMAL SUBGROUP,NORMAL SUBGROUP OF OR EQUAL " ++
    "TO,CONTAINS AS NORMAL SUBGROUP OR EQUAL TO,ORIGINAL OF,IMAGE OF,MULTIMAP,HERMITIAN CONJUGA" ++
    "TE MATRIX,INTERCALATE,XOR,NAND,NOR,RIGHT ANGLE WITH ARC,RIGHT TRIANGLE,N-ARY LOGICAL AND,N" ++
    "-ARY LOGICAL OR,N-ARY INTERSECTION,N-ARY UNION,DIAMOND OPERATOR,DOT OPERATOR,STAR OPERATOR" ++
    ",DIVISION TIMES,BOWTIE,LEFT NORMAL FACTOR SEMIDIRECT PRODUCT,RIGHT NORMAL FACTOR SEMIDIREC" ++
    "T PRODUCT,LEFT SEMIDIRECT PRODUCT,RIGHT SEMIDIRECT PRODUCT,REVERSED TILDE EQUALS,CURLY LOG" ++
    "ICAL OR,CURLY LOGICAL AND,DOUBLE SUBSET,DOUBLE SUPERSET,DOUBLE INTERSECTION,DOUBLE UNION,P" ++
    "ITCHFORK,EQUAL AND PARALLEL TO,LESS-THAN WITH DOT,GREATER-THAN WITH DOT,VERY MUCH LESS-THA" ++
    "N,VERY MUCH GREATER-THAN,LESS-THAN EQUAL TO OR GREATER-THAN,GREATER-THAN EQUAL TO OR LESS-" ++
    "THAN"⟩,
  ⟨0x22dc, "EQUAL TO OR ", "LESS-THAN,GREATER-THAN,PRECEDES,SUCCEEDS"⟩,
  ⟨0x22e0, "",
    "DOES NOT PRECEDE OR EQUAL,DOES NOT SUCCEED OR EQUAL,NOT SQUARE IMAGE OF OR EQUAL TO,NOT SQ" ++
    "UARE ORIGINAL OF OR EQUAL TO,SQUARE IMAGE OF OR NOT EQUAL TO,SQUARE ORIGINAL OF OR NOT EQU" ++
    "AL TO,LESS-THAN BUT NOT EQUIVALENT TO,GREATER-THAN BUT NOT EQUIVALENT TO,PRECEDES BUT NOT " ++
    "EQUIVALENT TO,SUCCEEDS BUT NOT EQUIVALENT TO,NOT NORMAL SUBGROUP OF,DOES NOT CONTAIN AS NO" ++
    "RMAL SUBGROUP,NOT NORMAL SUBGROUP OF OR EQUAL TO,DOES NOT CONTAIN AS NORMAL SUBGROUP OR EQ" ++
    "UAL,VERTICAL ELLIPSIS,MIDLINE HORIZONTAL ELLIPSIS,UP RIGHT DIAGONAL ELLIPSIS,DOWN RIGHT DI" ++
    "AGONAL ELLIPSIS,ELEMENT OF WITH LONG HORIZONTAL STROKE,ELEMENT OF WITH VERTICAL BAR AT END" ++
    " OF HORIZONTAL STROKE,SMALL ELEMENT OF WITH VERTICAL BAR AT END OF HORIZONTAL STROKE,ELEME" ++
    "NT OF WITH DOT ABOVE,ELEMENT OF WITH OVERBAR,SMALL ELEMENT OF WITH OVERBAR,ELEMENT OF WITH" ++
    " UNDERBAR"⟩,
  ⟨0x22f9, "",
    "ELEMENT OF WITH TWO HORIZONTAL STROKES,CONTAINS WITH LONG HORIZONTAL STROKE,CONTAINS WITH " ++
    "VERTICAL BAR AT END OF HORIZONTAL STROKE,SMALL CONTAINS WITH VERTICAL BAR AT END OF HORIZO" ++
    "NTAL STROKE,CONTAINS WITH OVERBAR,SMALL CONTAINS WITH OVERBAR,Z NOTATION BAG MEMBERSHIP,DI" ++
    "AMETER SIGN,ELECTRIC ARROW,HOUSE,UP ARROWHEAD,DOWN ARROWHEAD,PROJECTIVE,PERSPECTIVE,WAVY L" ++
    "INE,LEFT CEILING,RIGHT CEILING,LEFT FLOOR,RIGHT FLOOR,BOTTOM RIGHT CROP,BOTTOM LEFT CROP,T" ++
    "OP RIGHT CROP,TOP LEFT CROP,REVERSED NOT SIGN,SQUARE LOZENGE,ARC,SEGMENT,SECTOR,TELEPHONE " ++
    "RECORDER,POSITION INDICATOR,VIEWDATA SQUARE,PLACE OF INTEREST SIGN,TURNED NOT SIGN,WATCH,H" ++
    "OURGLASS,TOP LEFT CORNER,TOP RIGHT CORNER,BOTTOM LEFT CORNER,BOTTOM RIGHT CORNER,TOP HALF " ++
    "INTEGRAL,BOTTOM HALF INTEGRAL,FROWN,SMILE,UP ARROWHEAD BETWEEN TWO HORIZONTAL BARS,OPTION " ++
    "KEY,ERASE TO THE RIGHT,X IN A RECTANGLE BOX,KEYBOARD,LEFT-POINTING ANGLE BRACKET,RIGHT-POI" ++
    "NTING ANGLE BRACKET,ERASE TO THE LEFT,BENZENE RING,CYLINDRICITY,ALL AROUND-PROFILE,SYMMETR" ++
    "Y,TOTAL RUNOUT,DIMENSION ORIGIN,CONICAL TAPER,SLOPE,COUNTERBORE,COUNTERSINK"⟩,
  ⟨0x2336, "APL FUNCTIONAL SYMBOL ",
    "I-BEAM,SQUISH QUAD,QUAD EQUAL,QUAD DIVIDE,QUAD DIAMOND,QUAD JOT,QUAD CIRCLE,CIRCLE STILE,C" ++
    "IRCLE JOT,SLASH BAR,BACKSLASH BAR,QUAD SLASH,QUAD BACKSLASH,QUAD LESS-THAN,QUAD GREATER-TH" ++
    "AN,LEFTWARDS VANE,RIGHTWARDS VANE,QUAD LEFTWARDS ARROW,QUAD RIGHTWARDS ARROW,CIRCLE BACKSL" ++
    "ASH,DOWN TACK UNDERBAR,DELTA STILE,QUAD DOWN CARET,QUAD DELTA,DOWN TACK JOT,UPWARDS VANE,Q" ++
    "UAD UPWARDS ARROW,UP TACK OVERBAR,DEL STILE,QUAD UP CARET,QUAD DEL,UP TACK JOT,DOWNWARDS V" ++
    "ANE,QUAD DOWNWARDS ARROW,QUOTE UNDERBAR,DELTA UNDERBAR,DIAMOND UNDERBAR,JOT UNDERBAR,CIRCL" ++
    "E UNDERBAR,UP SHOE JOT,QUOTE QUAD,CIRCLE STAR,QUAD COLON,UP TACK DIAERESIS,DEL DIAERESIS,S" ++
    "TAR DIAERESIS,JOT DIAERESIS,CIRCLE DIAERESIS,DOWN SHOE STILE,LEFT SHOE STILE,TILDE DIAERES" ++
    "IS,GREATER-THAN DIAERESIS,COMMA BAR,DEL TILDE,ZILDE,STILE TILDE,SEMICOLON UNDERBAR,QUAD NO" ++
    "T EQUAL,QUAD QUESTION,DOWN CARET TILDE,UP CARET TILDE,IOTA,RHO,OMEGA,ALPHA UNDERBAR,EPSILO" ++
    "N UNDERBAR,IOTA UNDERBAR,OMEGA UNDERBAR,ALPHA"⟩,
  ⟨0x237b, "",
    "NOT CHECK MARK,RIGHT ANGLE WITH DOWNWARDS ZIGZAG ARROW,SHOULDERED OPEN BOX,BELL SYMBOL,VER" ++
    "TICAL LINE WITH MIDDLE DOT,INSERTION SYMBOL,CONTINUOUS UNDERLINE SYMBOL,DISCONTINUOUS UNDE" ++
    "RLINE SYMBOL,EMPHASIS SYMBOL,COMPOSITION SYMBOL,WHITE SQUARE WITH CENTRE VERTICAL LINE,ENT" ++
    "ER SYMBOL,ALTERNATIVE KEY SYMBOL,HELM SYMBOL,CIRCLED HORIZONTAL BAR WITH NOTCH,CIRCLED TRI" ++
    "ANGLE DOWN,BROKEN CIRCLE WITH NORTHWEST ARROW,UNDO SYMBOL,MONOSTABLE SYMBOL,HYSTERESIS SYM" ++
    "BOL,OPEN-CIRCUIT-OUTPUT H-TYPE SYMBOL,OPEN-CIRCUIT-OUTPUT L-TYPE SYMBOL,PASSIVE-PULL-DOWN-" ++
    "OUTPUT SYMBOL,PASSIVE-PULL-UP-OUTPUT SYMBOL,DIRECT CURRENT SYMBOL FORM TWO,SOFTWARE-FUNCTI" ++
    "ON SYMBOL,APL FUNCTIONAL SYMBOL QUAD,DECIMAL SEPARATOR KEY SYMBOL,PREVIOUS PAGE,NEXT PAGE," ++
    "PRINT SCREEN SYMBOL,CLEAR SCREEN SYMBOL"⟩,
  ⟨0x239b, "LEFT PARENTHESIS ", "UPPER HOOK,EXTENSION,LOWER HOOK"⟩,
  ⟨0x239e, "RIGHT PARENTHESIS ", "UPPER HOOK,EXTENSION,LOWER HOOK"⟩,
  ⟨0x23a1, "LEFT SQUARE BRACKET ", "UPPER CORNER,EXTENSION,LOWER CORNER"⟩,
  ⟨0x23a4, "RIGHT SQUARE BRACKET ", "UPPER CORNER,EXTENSION,LOWER CORNER"⟩,
  ⟨0x23a7, "LEFT CURLY BRACKET ", "UPPER HOOK,MIDDLE PIECE,LOWER HOOK"⟩,
  ⟨0x23aa, "",
    "CURLY BRACKET EXTENSION,RIGHT CURLY BRACKET UPPER HOOK,RIGHT CURLY BRACKET MIDDLE PIECE,RI" ++
    "GHT CURLY BRACKET LOWER HOOK,INTEGRAL EXTENSION,HORIZONTAL LINE EXTENSION,UPPER LEFT OR LO" ++
    "WER RIGHT CURLY BRACKET SECTION,UPPER RIGHT OR LOWER LEFT CURLY BRACKET SECTION,SUMMATION " ++
    "TOP,SUMMATION BOTTOM,TOP SQUARE BRACKET,BOTTOM SQUARE BRACKET,BOTTOM SQUARE BRACKET OVER T" ++
    "OP SQUARE BRACKET,RADICAL SYMBOL BOTTOM,LEFT VERTICAL BOX LINE,RIGHT VERTICAL BOX LINE"⟩,
  ⟨0x23ba, "HORIZONTAL SCAN LINE-", "1,3,7,9"⟩,
  ⟨0x23be, "DENTISTRY SYMBOL LIGHT ",
    "VERTICAL AND TOP RIGHT,VERTICAL AND BOTTOM RIGHT,VERTICAL WITH CIRCLE,DOWN AND HORIZONTAL " ++
    "WITH CIRCLE,UP AND HORIZONTAL WITH CIRCLE,VERTICAL WITH TRIANGLE,DOWN AND HORIZONTAL WITH " ++
    "TRIANGLE,UP AND HORIZONTAL WITH TRIANGLE,VERTICAL AND WAVE,DOWN AND HORIZONTAL WITH WAVE,U" ++
    "P AND HORIZONTAL WITH WAVE,DOWN AND HORIZONTAL,UP AND HORIZONTAL,VERTICAL AND TOP LEFT,VER" ++
    "TICAL AND BOTTOM LEFT"⟩,
  ⟨0x23cd, "", "SQUARE FOOT,RETURN SYMBOL,EJECT SYMBOL,VERTICAL LINE EXTENSION"⟩,
  ⟨0x23d1, "METRICAL ",
    "BREVE,LONG OVER SHORT,SHORT OVER LONG,LONG OVER TWO SHORTS,TWO SHORTS OVER LONG,TWO SHORTS" ++
    " JOINED,TRISEME,TETRASEME,PENTASEME"⟩,
  ⟨0x23da, "",
    "EARTH GROUND,FUSE,TOP PARENTHESIS,BOTTOM PARENTHESIS,TOP CURLY BRACKET,BOTTOM CURLY BRACKE" ++
    "T,TOP TORTOISE SHELL BRACKET,BOTTOM TORTOISE SHELL BRACKET,WHITE TRAPEZIUM,BENZENE RING WI" ++
    "TH CIRCLE,STRAIGHTNESS,FLATNESS,AC CURRENT,ELECTRICAL INTERSECTION,DECIMAL EXPONENT SYMBOL" ++
    ",BLACK RIGHT-POINTING DOUBLE TRIANGLE,BLACK LEFT-POINTING DOUBLE TRIANGLE,BLACK UP-POINTIN" ++
    "G DOUBLE TRIANGLE,BLACK DOWN-POINTING DOUBLE TRIANGLE,BLACK RIGHT-POINTING DOUBLE TRIANGLE" ++
    " WITH VERTICAL BAR,BLACK LEFT-POINTING DOUBLE TRIANGLE WITH VERTICAL BAR,BLACK RIGHT-POINT" ++
    "ING TRIANGLE WITH DOUBLE VERTICAL BAR,ALARM CLOCK,STOPWATCH,TIMER CLOCK,HOURGLASS WITH FLO" ++
    "WING SAND,BLACK MEDIUM LEFT-POINTING TRIANGLE,BLACK MEDIUM RIGHT-POINTING TRIANGLE,BLACK M" ++
    "EDIUM UP-POINTING TRIANGLE,BLACK MEDIUM DOWN-POINTING TRIANGLE,DOUBLE VERTICAL BAR,BLACK S" ++
    "QUARE FOR STOP,BLACK CIRCLE FOR RECORD,POWER SYMBOL,POWER ON-OFF SYMBOL,POWER ON SYMBOL,PO" ++
    "WER SLEEP SYMBOL,OBSERVER EYE SYMBOL"⟩,
  ⟨0x2400, "SYMBOL FOR ",
    "NULL,START OF HEADING,START OF TEXT,END OF TEXT,END OF TRANSMISSION,ENQUIRY,ACKNOWLEDGE,BE" ++
    "LL,BACKSPACE,HORIZONTAL TABULATION,LINE FEED,VERTICAL TABULATION,FORM FEED,CARRIAGE RETURN" ++
    ",SHIFT OUT,SHIFT IN,DATA LINK ESCAPE,DEVICE CONTROL ONE,DEVICE CONTROL TWO,DEVICE CONTROL " ++
    "THREE,DEVICE CONTROL FOUR,NEGATIVE ACKNOWLEDGE,SYNCHRONOUS IDLE,END OF TRANSMISSION BLOCK," ++
    "CANCEL,END OF MEDIUM,SUBSTITUTE,ESCAPE,FILE SEPARATOR,GROUP SEPARATOR,RECORD SEPARATOR,UNI" ++
    "T SEPARATOR,SPACE,DELETE"⟩,
  ⟨0x2422, "",
    "BLANK SYMBOL,OPEN BOX,SYMBOL FOR NEWLINE,SYMBOL FOR DELETE FORM TWO,SYMBOL FOR SUBSTITUTE " ++
    "FORM TWO"⟩,
  ⟨0x2440, "OCR ",
    "HOOK,CHAIR,FORK,INVERTED FORK,BELT BUCKLE,BOW TIE,BRANCH BANK IDENTIFICATION,AMOUNT OF CHE" ++
    "CK,DASH,CUSTOMER ACCOUNT NUMBER,DOUBLE BACKSLASH"⟩,
  ⟨0x2460, "CIRCLED DIGIT ", "ONE,TWO,THREE,FOUR,FIVE,SIX,SEVEN,EIGHT,NINE"⟩,
  ⟨0x2469, "CIRCLED NUMBER ",
    "TEN,ELEVEN,TWELVE,THIRTEEN,FOURTEEN,FIFTEEN,SIXTEEN,SEVENTEEN,EIGHTEEN,NINETEEN,TWENTY"⟩,
  ⟨0x2474, "PARENTHESIZED DIGIT ", "ONE,TWO,THREE,FOUR,FIVE,SIX,SEVEN,EIGHT,NINE"⟩,
  ⟨0x247d, "PARENTHESIZED NUMBER ",
    "TEN,ELEVEN,TWELVE,THIRTEEN,FOURTEEN,FIFTEEN,SIXTEEN,SEVENTEEN,EIGHTEEN,NINETEEN,TWENTY"⟩,
  ⟨0x2488, "DIGIT ",
    "ONE FULL STOP,TWO FULL STOP,THREE FULL STOP,FOUR FULL STOP,FIVE FULL STOP,SIX FULL STOP,SE" ++
    "VEN FULL STOP,EIGHT FULL STOP,NINE FULL STOP"⟩,
  ⟨0x2491, "NUMBER ",
    "TEN FULL STOP,ELEVEN FULL STOP,TWELVE FULL STOP,THIRTEEN FULL STOP,FOURTEEN FULL STOP,FIFT" ++
    "EEN FULL STOP,SIXTEEN FULL STOP,SEVENTEEN FULL STOP,EIGHTEEN FULL STOP,NINETEEN FULL STOP," ++
    "TWENTY FULL STOP"⟩,
  ⟨0x249c, "PARENTHESIZED LATIN SMALL LETTER ",
    "A,B,C,D,E,F,G,H,I,J,K,L,M,N,O,P,Q,R,S,T,U,V,W,X,Y,Z"⟩,
  ⟨0x24b6, "CIRCLED LATIN CAPITAL LETTER ", "A,B,C,D,E,F,G,H,I,J,K,L,M,N,O,P,Q,R,S,T,U,V,W,X,Y,Z"⟩,
  ⟨0x24d0, "CIRCLED LATIN SMALL LETTER ", "A,B,C,D,E,F,G,H,I,J,K,L,M,N,O,P,Q,R,S,T,U,V,W,X,Y,Z"⟩,
  ⟨0x24ea, "CIRCLED DIGIT ZERO", ""⟩,
  ⟨0x24eb, "NEGATIVE CIRCLED NUMBER ",
    "ELEVEN,TWELVE,THIRTEEN,FOURTEEN,FIFTEEN,SIXTEEN,SEVENTEEN,EIGHTEEN,NINETEEN,TWENTY"⟩,
  ⟨0x24f5, "DOUBLE CIRCLED DIGIT ", "ONE,TWO,THREE,FOUR,FIVE,SIX,SEVEN,EIGHT,NINE"⟩,
  ⟨0x24fe, "", "DOUBLE CIRCLED NUMBER TEN,NEGATIVE CIRCLED DIGIT ZERO"⟩,
  ⟨0x2500, "BOX DRAWINGS ",
    "LIGHT HORIZONTAL,HEAVY HORIZONTAL,LIGHT VERTICAL,HEAVY VERTICAL,LIGHT TRIPLE DASH HORIZONT" ++
    "AL,HEAVY TRIPLE DASH HORIZONTAL,LIGHT TRIPLE DASH VERTICAL,HEAVY TRIPLE DASH VERTICAL,LIGH" ++
    "T QUADRUPLE DASH HORIZONTAL,HEAVY QUADRUPLE DASH HORIZONTAL,LIGHT QUADRUPLE DASH VERTICAL," ++
    "HEAVY QUADRUPLE DASH VERTICAL,LIGHT DOWN AND RIGHT,DOWN LIGHT AND RIGHT HEAVY,DOWN HEAVY A" ++
    "ND RIGHT LIGHT,HEAVY DOWN AND RIGHT,LIGHT DOWN AND LEFT,DOWN LIGHT AND LEFT HEAVY,DOWN HEA" ++
    "VY AND LEFT LIGHT,HEAVY DOWN AND LEFT,LIGHT UP AND RIGHT,UP LIGHT AND RIGHT HEAVY,UP HEAVY" ++
    " AND RIGHT LIGHT,HEAVY UP AND RIGHT,LIGHT UP AND LEFT,UP LIGHT AND LEFT HEAVY,UP HEAVY AND" ++
    " LEFT LIGHT,HEAVY UP AND LEFT,LIGHT VERTICAL AND RIGHT,VERTICAL LIGHT AND RIGHT HEAVY,UP H" ++
    "EAVY AND RIGHT DOWN LIGHT,DOWN HEAVY AND RIGHT UP LIGHT,VERTICAL HEAVY AND RIGHT LIGHT,DOW" ++
    "N LIGHT AND RIGHT UP HEAVY,UP LIGHT AND RIGHT DOWN HEAVY,HEAVY VERTICAL AND RIGHT,LIGHT VE" ++
    "RTICAL AND LEFT,VERTICAL LIGHT AND LEFT HEAVY,UP HEAVY AND LEFT DOWN LIGHT,DOWN HEAVY AND " ++
    "LEFT UP LIGHT,VERTICAL HEAVY AND LEFT LIGHT,DOWN LIGHT AND LEFT UP HEAVY,UP LIGHT AND LEFT" ++
    " DOWN HEAVY,HEAVY VERTICAL AND LEFT,LIGHT DOWN AND HORIZONTAL,LEFT HEAVY AND RIGHT DOWN LI" ++
    "GHT,RIGHT HEAVY AND LEFT DOWN LIGHT,DOWN LIGHT AND HORIZONTAL HEAVY,DOWN HEAVY AND HORIZON" ++
    "TAL LIGHT,RIGHT LIGHT AND LEFT DOWN HEAVY,LEFT LIGHT AND RIGHT DOWN HEAVY,HEAVY DOWN AND H" ++
    "ORIZONTAL,LIGHT UP AND HORIZONTAL,LEFT HEAVY AND RIGHT UP LIGHT,RIGHT HEAVY AND LEFT UP LI" ++
    "GHT,UP LIGHT AND HORIZONTAL HEAVY,UP HEAVY AND HORIZONTAL LIGHT,RIGHT LIGHT AND LEFT UP HE" ++
    "AVY,LEFT LIGHT AND RIGHT UP HEAVY,HEAVY UP AND HORIZONTAL,LIGHT VERTICAL AND HORIZONTAL,LE" ++
    "FT HEAVY AND RIGHT VERTICAL LIGHT,RIGHT HEAVY AND LEFT VERTICAL LIGHT,VERTICAL LIGHT AND H" ++
    "ORIZONTAL HEAVY,UP HEAVY AND DOWN HORIZONTAL LIGHT,DOWN HEAVY AND UP HORIZONTAL LIGHT,VERT" ++
    "ICAL HEAVY AND HORIZONTAL LIGHT,LEFT UP HEAVY AND RIGHT DOWN LIGHT,RIGHT UP HEAVY AND LEFT" ++
    " DOWN LIGHT,LEFT DOWN HEAVY AND RIGHT UP LIGHT,RIGHT DOWN HEAVY AND LEFT UP LIGHT,DOWN LIG" ++
    "HT AND UP HORIZONTAL HEAVY,UP LIGHT AND DOWN HORIZONTAL HEAVY,RIGHT LIGHT AND LEFT VERTICA" ++
    "L HEAVY,LEFT LIGHT AND RIGHT VERTICAL HEAVY,HEAVY VERTICAL AND HORIZONTAL,LIGHT DOUBLE DAS" ++
    "H HORIZONTAL,HEAVY DOUBLE DASH HORIZONTAL,LIGHT DOUBLE DASH VERTICAL,HEAVY DOUBLE DASH VER" ++
    "TICAL,DOUBLE HORIZONTAL,DOUBLE VERTICAL,DOWN SINGLE AND RIGHT DOUBLE,DOWN DOUBLE AND RIGHT" ++
    " SINGLE,DOUBLE DOWN AND RIGHT,DOWN SINGLE AND LEFT DOUBLE,DOWN DOUBLE AND LEFT SINGLE,DOUB" ++
    "LE DOWN AND LEFT,UP SINGLE AND RIGHT DOUBLE,UP DOUBLE AND RIGHT SINGLE,DOUBLE UP AND RIGHT" ++
    ",UP SINGLE AND LEFT DOUBLE,UP DOUBLE AND LEFT SINGLE,DOUBLE UP AND LEFT,VERTICAL SINGLE AN" ++
    "D RIGHT DOUBLE,VERTICAL DOUBLE AND RIGHT SINGLE,DOUBLE VERTICAL AND RIGHT,VERTICAL SINGLE " ++
    "AND LEFT DOUBLE,VERTICAL DOUBLE AND LEFT SINGLE,DOUBLE VERTICAL AND LEFT,DOWN SINGLE AND H" ++
    "ORIZONTAL DOUBLE,DOWN DOUBLE AND HORIZONTAL SINGLE,DOUBLE DOWN AND HORIZONTAL,UP SINGLE AN" ++
    "D HORIZONTAL DOUBLE,UP DOUBLE AND HORIZONTAL SINGLE,DOUBLE UP AND HORIZONTAL,VERTICAL SING" ++
    "LE AND HORIZONTAL DOUBLE,VERTICAL DOUBLE AND HORIZONTAL SINGLE,DOUBLE VERTICAL AND HORIZON" ++
    "TAL,LIGHT ARC DOWN AND RIGHT,LIGHT ARC DOWN AND LEFT,LIGHT ARC UP AND LEFT,LIGHT ARC UP AN" ++
    "D RIGHT,LIGHT DIAGONAL UPPER RIGHT TO LOWER LEFT,LIGHT DIAGONAL UPPER LEFT TO LOWER RIGHT," ++
    "LIGHT DIAGONAL CROSS,LIGHT LEFT,LIGHT UP,LIGHT RIGHT,LIGHT DOWN,HEAVY LEFT,HEAVY UP,HEAVY " ++
    "RIGHT,HEAVY DOWN,LIGHT LEFT AND HEAVY RIGHT,LIGHT UP AND HEAVY DOWN,HEAVY LEFT AND LIGHT R" ++
    "IGHT,HEAVY UP AND LIGHT DOWN"⟩,
  ⟨0x2580, "",
    "UPPER HALF BLOCK,LOWER ONE EIGHTH BLOCK,LOWER ONE QUARTER BLOCK,LOWER THREE EIGHTHS BLOCK," ++
    "LOWER HALF BLOCK,LOWER FIVE EIGHTHS BLOCK,LOWER THREE QUARTERS BLOCK,LOWER SEVEN EIGHTHS B" ++
    "LOCK,FULL BLOCK,LEFT SEVEN EIGHTHS BLOCK,LEFT THREE QUARTERS BLOCK,LEFT FIVE EIGHTHS BLOCK" ++
    ",LEFT HALF BLOCK,LEFT THREE EIGHTHS BLOCK,LEFT ONE QUARTER BLOCK,LEFT ONE EIGHTH BLOCK,RIG" ++
    "HT HALF BLOCK,LIGHT SHADE,MEDIUM SHADE,DARK SHADE,UPPER ONE EIGHTH BLOCK,RIGHT ONE EIGHTH " ++
    "BLOCK,QUADRANT LOWER LEFT,QUADRANT LOWER RIGHT"⟩,
  ⟨0x2598, "QUADRANT UPPER ",
    "LEFT,LEFT AND LOWER LEFT AND LOWER RIGHT,LEFT AND LOWER RIGHT,LEFT AND UPPER RIGHT AND LOW" ++
    "ER LEFT,LEFT AND UPPER RIGHT AND LOWER RIGHT,RIGHT,RIGHT AND LOWER LEFT,RIGHT AND LOWER LE" ++
    "FT AND LOWER RIGHT"⟩,
  ⟨0x25a0, "",
    "BLACK SQUARE,WHITE SQUARE,WHITE SQUARE WITH ROUNDED CORNERS,WHITE SQUARE CONTAINING BLACK " ++
    "SMALL SQUARE"⟩,
  ⟨0x25a4, "SQUARE WITH ",
    "HORIZONTAL FILL,VERTICAL FILL,ORTHOGONAL CROSSHATCH FILL,UPPER LEFT TO LOWER RIGHT FILL,UP" ++
    "PER RIGHT TO LOWER LEFT FILL,DIAGONAL CROSSHATCH FILL"⟩,
  ⟨0x25aa, "",
    "BLACK SMALL SQUARE,WHITE SMALL SQUARE,BLACK RECTANGLE,WHITE RECTANGLE,BLACK VERTICAL RECTA" ++
    "NGLE,WHITE VERTICAL RECTANGLE,BLACK PARALLELOGRAM,WHITE PARALLELOGRAM,BLACK UP-POINTING TR" ++
    "IANGLE,WHITE UP-POINTING TRIANGLE,BLACK UP-POINTING SMALL TRIANGLE,WHITE UP-POINTING SMALL" ++
    " TRIANGLE,BLACK RIGHT-POINTING TRIANGLE,WHITE RIGHT-POINTING TRIANGLE,BLACK RIGHT-POINTING" ++
    " SMALL TRIANGLE,WHITE RIGHT-POINTING SMALL TRIANGLE,BLACK RIGHT-POINTING POINTER,WHITE RIG" ++
    "HT-POINTING POINTER,BLACK DOWN-POINTING TRIANGLE,WHITE DOWN-POINTING TRIANGLE,BLACK DOWN-P" ++
    "OINTING SMALL TRIANGLE,WHITE DOWN-POINTING SMALL TRIANGLE,BLACK LEFT-POINTING TRIANGLE,WHI" ++
    "TE LEFT-POINTING TRIANGLE,BLACK LEFT-POINTING SMALL TRIANGLE,WHITE LEFT-POINTING SMALL TRI" ++
    "ANGLE,BLACK LEFT-POINTING POINTER,WHITE LEFT-POINTING POINTER,BLACK DIAMOND,WHITE DIAMOND," ++
    "WHITE DIAMOND CONTAINING BLACK SMALL DIAMOND,FISHEYE,LOZENGE,WHITE CIRCLE,DOTTED CIRCLE,CI" ++
    "RCLE WITH VERTICAL FILL,BULLSEYE,BLACK CIRCLE"⟩,
  ⟨0x25d0, "CIRCLE WITH ",
    "LEFT HALF BLACK,RIGHT HALF BLACK,LOWER HALF BLACK,UPPER HALF BLACK,UPPER RIGHT QUADRANT BL" ++
    "ACK,ALL BUT UPPER LEFT QUADRANT BLACK"⟩,
  ⟨0x25d6, "",
    "LEFT HALF BLACK CIRCLE,RIGHT HALF BLACK CIRCLE,INVERSE BULLET,INVERSE WHITE CIRCLE,UPPER H" ++
    "ALF INVERSE WHITE CIRCLE,LOWER HALF INVERSE WHITE CIRCLE,UPPER LEFT QUADRANT CIRCULAR ARC," ++
    "UPPER RIGHT QUADRANT CIRCULAR ARC,LOWER RIGHT QUADRANT CIRCULAR ARC,LOWER LEFT QUADRANT CI" ++
    "RCULAR ARC,UPPER HALF CIRCLE,LOWER HALF CIRCLE,BLACK LOWER RIGHT TRIANGLE,BLACK LOWER LEFT" ++
    " TRIANGLE,BLACK UPPER LEFT TRIANGLE,BLACK UPPER RIGHT TRIANGLE,WHITE BULLET,SQUARE WITH LE" ++
    "FT HALF BLACK,SQUARE WITH RIGHT HALF BLACK,SQUARE WITH UPPER LEFT DIAGONAL HALF BLACK,SQUA" ++
    "RE WITH LOWER RIGHT DIAGONAL HALF BLACK,WHITE SQUARE WITH VERTICAL BISECTING LINE,WHITE UP" ++
    "-POINTING TRIANGLE WITH DOT,UP-POINTING TRIANGLE WITH LEFT HALF BLACK,UP-POINTING TRIANGLE" ++
    " WITH RIGHT HALF BLACK,LARGE CIRCLE"⟩,
  ⟨0x25f0, "WHITE SQUARE WITH ",
    "UPPER LEFT QUADRANT,LOWER LEFT QUADRANT,LOWER RIGHT QUADRANT,UPPER RIGHT QUADRANT"⟩,
  ⟨0x25f4, "WHITE CIRCLE WITH ",
    "UPPER LEFT QUADRANT,LOWER LEFT QUADRANT,LOWER RIGHT QUADRANT,UPPER RIGHT QUADRANT"⟩,
  ⟨0x25f8, "",
    "UPPER LEFT TRIANGLE,UPPER RIGHT TRIANGLE,LOWER LEFT TRIANGLE,WHITE MEDIUM SQUARE,BLACK MED" ++
    "IUM SQUARE,WHITE MEDIUM SMALL SQUARE,BLACK MEDIUM SMALL SQUARE,LOWER RIGHT TRIANGLE,BLACK " ++
    "SUN WITH RAYS,CLOUD,UMBRELLA,SNOWMAN,COMET,BLACK STAR,WHITE STAR,LIGHTNING,THUNDERSTORM,SU" ++
    "N,ASCENDING NODE,DESCENDING NODE,CONJUNCTION,OPPOSITION,BLACK TELEPHONE,WHITE TELEPHONE,BA" ++
    "LLOT BOX,BALLOT BOX WITH CHECK,BALLOT BOX WITH X,SALTIRE,UMBRELLA WITH RAIN DROPS,HOT BEVE" ++
    "RAGE,WHITE SHOGI PIECE,BLACK SHOGI PIECE,SHAMROCK,REVERSED ROTATED FLORAL HEART BULLET,BLA" ++
    "CK LEFT POINTING INDEX,BLACK RIGHT POINTING INDEX,WHITE LEFT POINTING INDEX,WHITE UP POINT" ++
    "ING INDEX,WHITE RIGHT POINTING INDEX,WHITE DOWN POINTING INDEX,SKULL AND CROSSBONES,CAUTIO" ++
    "N SIGN,RADIOACTIVE SIGN,BIOHAZARD SIGN,CADUCEUS,ANKH,ORTHODOX CROSS,CHI RHO,CROSS OF LORRA" ++
    "INE,CROSS OF JERUSALEM,STAR AND CRESCENT,FARSI SYMBOL,ADI SHAKTI,HAMMER AND SICKLE,PEACE S" ++
    "YMBOL,YIN YANG"⟩,
  ⟨0x2630, "TRIGRAM FOR ", "HEAVEN,LAKE,FIRE,THUNDER,WIND,WATER,MOUNTAIN,EARTH"⟩,
  ⟨0x2638, "",
    "WHEEL OF DHARMA,WHITE FROWNING FACE,WHITE SMILING FACE,BLACK SMILING FACE,WHITE SUN WITH R" ++
    "AYS,FIRST QUARTER MOON,LAST QUARTER MOON,MERCURY,FEMALE SIGN,EARTH,MALE SIGN,JUPITER,SATUR" ++
    "N,URANUS,NEPTUNE,PLUTO,ARIES,TAURUS,GEMINI,CANCER,LEO,VIRGO,LIBRA,SCORPIUS,SAGITTARIUS,CAP" ++
    "RICORN,AQUARIUS,PISCES"⟩,
  ⟨0x2654, "WHITE CHESS ", "KING,QUEEN,ROOK,BISHOP,KNIGHT,PAWN"⟩,
  ⟨0x265a, "BLACK CHESS ", "KING,QUEEN,ROOK,BISHOP,KNIGHT,PAWN"⟩,
  ⟨0x2660, "",
    "BLACK SPADE SUIT,WHITE HEART SUIT,WHITE DIAMOND SUIT,BLACK CLUB SUIT,WHITE SPADE SUIT,BLAC" ++
    "K HEART SUIT,BLACK DIAMOND SUIT,WHITE CLUB SUIT,HOT SPRINGS,QUARTER NOTE,EIGHTH NOTE,BEAME" ++
    "D EIGHTH NOTES,BEAMED SIXTEENTH NOTES,MUSIC FLAT SIGN,MUSIC NATURAL SIGN,MUSIC SHARP SIGN," ++
    "WEST SYRIAC CROSS,EAST SYRIAC CROSS,UNIVERSAL RECYCLING SYMBOL"⟩,
  ⟨0x2673, "RECYCLING SYMBOL FOR TYPE-",
    "1 PLASTICS,2 PLASTICS,3 PLASTICS,4 PLASTICS,5 PLASTICS,6 PLASTICS,7 PLASTICS"⟩,
  ⟨0x267a, "",
    "RECYCLING SYMBOL FOR GENERIC MATERIALS,BLACK UNIVERSAL RECYCLING SYMBOL,RECYCLED PAPER SYM" ++
    "BOL,PARTIALLY-RECYCLED PAPER SYMBOL,PERMANENT PAPER SIGN,WHEELCHAIR SYMBOL"⟩,
  ⟨0x2680, "DIE FACE-", "1,2,3,4,5,6"⟩,
  ⟨0x2686, "",
    "WHITE CIRCLE WITH DOT RIGHT,WHITE CIRCLE WITH TWO DOTS,BLACK CIRCLE WITH WHITE DOT RIGHT,B" ++
    "LACK CIRCLE WITH TWO WHITE DOTS,MONOGRAM FOR YANG,MONOGRAM FOR YIN,DIGRAM FOR GREATER YANG" ++
    ",DIGRAM FOR LESSER YIN,DIGRAM FOR LESSER YANG,DIGRAM FOR GREATER YIN,WHITE FLAG,BLACK FLAG" ++
    ",HAMMER AND PICK,ANCHOR,CROSSED SWORDS,STAFF OF AESCULAPIUS,SCALES,ALEMBIC,FLOWER,GEAR,STA" ++
    "FF OF HERMES,ATOM SYMBOL,FLEUR-DE-LIS,OUTLINED WHITE STAR,THREE LINES CONVERGING RIGHT,THR" ++
    "EE LINES CONVERGING LEFT,WARNING SIGN,HIGH VOLTAGE SIGN,DOUBLED FEMALE SIGN,DOUBLED MALE S" ++
    "IGN,INTERLOCKED FEMALE AND MALE SIGN,MALE AND FEMALE SIGN,MALE WITH STROKE SIGN,MALE WITH " ++
    "STROKE AND MALE AND FEMALE SIGN,VERTICAL MALE WITH STROKE SIGN,HORIZONTAL MALE WITH STROKE" ++
    " SIGN,MEDIUM WHITE CIRCLE,MEDIUM BLACK CIRCLE,MEDIUM SMALL WHITE CIRCLE,MARRIAGE SYMBOL,DI" ++
    "VORCE SYMBOL,UNMARRIED PARTNERSHIP SYMBOL,COFFIN,FUNERAL URN,NEUTER,CERES,PALLAS,JUNO,VEST" ++
    "A,CHIRON,BLACK MOON LILITH,SEXTILE,SEMISEXTILE,QUINCUNX,SESQUIQUADRATE,SOCCER BALL,BASEBAL" ++
    "L"⟩,
  ⟨0x26bf, "",
    "SQUARED KEY,WHITE DRAUGHTS MAN,WHITE DRAUGHTS KING,BLACK DRAUGHTS MAN,BLACK DRAUGHTS KING," ++
    "SNOWMAN WITHOUT SNOW,SUN BEHIND CLOUD,RAIN,BLACK SNOWMAN,THUNDER CLOUD AND RAIN,TURNED WHI" ++
    "TE SHOGI PIECE,TURNED BLACK SHOGI PIECE,WHITE DIAMOND IN SQUARE,CROSSING LANES,DISABLED CA" ++
    "R,OPHIUCHUS,PICK,CAR SLIDING,HELMET WITH WHITE CROSS,CIRCLED CROSSING LANES,CHAINS,NO ENTR" ++
    "Y,ALTERNATE ONE-WAY LEFT WAY TRAFFIC,BLACK TWO-WAY LEFT WAY TRAFFIC,WHITE TWO-WAY LEFT WAY" ++
    " TRAFFIC,BLACK LEFT LANE MERGE,WHITE LEFT LANE MERGE,DRIVE SLOW SIGN,HEAVY WHITE DOWN-POIN" ++
    "TING TRIANGLE,LEFT CLOSED ENTRY,SQUARED SALTIRE,FALLING DIAGONAL IN WHITE CIRCLE IN BLACK " ++
    "SQUARE,BLACK TRUCK,RESTRICTED LEFT ENTRY-1,RESTRICTED LEFT ENTRY-2,ASTRONOMICAL SYMBOL FOR" ++
    " URANUS,HEAVY CIRCLE WITH STROKE AND TWO DOTS ABOVE,PENTAGRAM,RIGHT-HANDED INTERLACED PENT" ++
    "AGRAM,LEFT-HANDED INTERLACED PENTAGRAM,INVERTED PENTAGRAM,BLACK CROSS ON SHIELD,SHINTO SHR" ++
    "INE,CHURCH,CASTLE,HISTORIC SITE,GEAR WITHOUT HUB,GEAR WITH HANDLES,MAP SYMBOL FOR LIGHTHOU" ++
    "SE,MOUNTAIN,UMBRELLA ON GROUND,FOUNTAIN,FLAG IN HOLE,FERRY,SAILBOAT,SQUARE FOUR CORNERS,SK" ++
    "IER,ICE SKATE,PERSON WITH BALL,TENT,JAPANESE BANK SYMBOL"⟩,
  ⟨0x26fc, "",
    "HEADSTONE GRAVEYARD SYMBOL,FUEL PUMP,CUP ON BLACK SQUARE,WHITE FLAG WITH HORIZONTAL MIDDLE" ++
    " BLACK STRIPE,BLACK SAFETY SCISSORS,UPPER BLADE SCISSORS,BLACK SCISSORS,LOWER BLADE SCISSO" ++
    "RS,WHITE SCISSORS,WHITE HEAVY CHECK MARK,TELEPHONE LOCATION SIGN,TAPE DRIVE,AIRPLANE,ENVEL" ++
    "OPE,RAISED FIST,RAISED HAND,VICTORY HAND,WRITING HAND,LOWER RIGHT PENCIL,PENCIL,UPPER RIGH" ++
    "T PENCIL,WHITE NIB,BLACK NIB,CHECK MARK,HEAVY CHECK MARK,MULTIPLICATION X,HEAVY MULTIPLICA" ++
    "TION X,BALLOT X,HEAVY BALLOT X,OUTLINED GREEK CROSS,HEAVY GREEK CROSS,OPEN CENTRE CROSS,HE" ++
    "AVY OPEN CENTRE CROSS,LATIN CROSS,SHADOWED WHITE LATIN CROSS,OUTLINED LATIN CROSS,MALTESE " ++
    "CROSS,STAR OF DAVID,FOUR TEARDROP-SPOKED ASTERISK,FOUR BALLOON-SPOKED ASTERISK,HEAVY FOUR " ++
    "BALLOON-SPOKED ASTERISK,FOUR CLUB-SPOKED ASTERISK,BLACK FOUR POINTED STAR,WHITE FOUR POINT" ++
    "ED STAR,SPARKLES,STRESS OUTLINED WHITE STAR,CIRCLED WHITE STAR,OPEN CENTRE BLACK STAR,BLAC" ++
    "K CENTRE WHITE STAR,OUTLINED BLACK STAR,HEAVY OUTLINED BLACK STAR,PINWHEEL STAR,SHADOWED W" ++
    "HITE STAR,HEAVY ASTERISK,OPEN CENTRE ASTERISK,EIGHT SPOKED ASTERISK,EIGHT POINTED BLACK ST" ++
    "AR,EIGHT POINTED PINWHEEL STAR,SIX POINTED BLACK STAR,EIGHT POINTED RECTILINEAR BLACK STAR" ++
    ",HEAVY EIGHT POINTED RECTILINEAR BLACK STAR"⟩,
  ⟨0x2739, "",
    "TWELVE POINTED BLACK STAR,SIXTEEN POINTED ASTERISK,TEARDROP-SPOKED ASTERISK,OPEN CENTRE TE" ++
    "ARDROP-SPOKED ASTERISK,HEAVY TEARDROP-SPOKED ASTERISK,SIX PETALLED BLACK AND WHITE FLORETT" ++
    "E,BLACK FLORETTE,WHITE FLORETTE,EIGHT PETALLED OUTLINED BLACK FLORETTE,CIRCLED OPEN CENTRE" ++
    " EIGHT POINTED STAR,HEAVY TEARDROP-SPOKED PINWHEEL ASTERISK,SNOWFLAKE,TIGHT TRIFOLIATE SNO" ++
    "WFLAKE,HEAVY CHEVRON SNOWFLAKE,SPARKLE,HEAVY SPARKLE,BALLOON-SPOKED ASTERISK,EIGHT TEARDRO" ++
    "P-SPOKED PROPELLER ASTERISK,HEAVY EIGHT TEARDROP-SPOKED PROPELLER ASTERISK,CROSS MARK,SHAD" ++
    "OWED WHITE CIRCLE,NEGATIVE SQUARED CROSS MARK,LOWER RIGHT DROP-SHADOWED WHITE SQUARE,UPPER" ++
    " RIGHT DROP-SHADOWED WHITE SQUARE,LOWER RIGHT SHADOWED WHITE SQUARE,UPPER RIGHT SHADOWED W" ++
    "HITE SQUARE,BLACK QUESTION MARK ORNAMENT,WHITE QUESTION MARK ORNAMENT,WHITE EXCLAMATION MA" ++
    "RK ORNAMENT,BLACK DIAMOND MINUS WHITE X,HEAVY EXCLAMATION MARK SYMBOL,LIGHT VERTICAL BAR,M" ++
    "EDIUM VERTICAL BAR,HEAVY VERTICAL BAR,HEAVY SINGLE TURNED COMMA QUOTATION MARK ORNAMENT,HE" ++
    "AVY SINGLE COMMA QUOTATION MARK ORNAMENT,HEAVY DOUBLE TURNED COMMA QUOTATION MARK ORNAMENT" ++
    ",HEAVY DOUBLE COMMA QUOTATION MARK ORNAMENT,HEAVY LOW SINGLE COMMA QUOTATION MARK ORNAMENT" ++
    ",HEAVY LOW DOUBLE COMMA QUOTATION MARK ORNAMENT,CURVED STEM PARAGRAPH SIGN ORNAMENT,HEAVY " ++
    "EXCLAMATION MARK ORNAMENT,HEAVY HEART EXCLAMATION MARK ORNAMENT,HEAVY BLACK HEART,ROTATED " ++
    "HEAVY BLACK HEART BULLET,FLORAL HEART,ROTATED FLORAL HEART BULLET,MEDIUM LEFT PARENTHESIS " ++
    "ORNAMENT,MEDIUM RIGHT PARENTHESIS ORNAMENT,MEDIUM FLATTENED LEFT PARENTHESIS ORNAMENT,MEDI" ++
    "UM FLATTENED RIGHT PARENTHESIS ORNAMENT,MEDIUM LEFT-POINTING ANGLE BRACKET ORNAMENT,MEDIUM" ++
    " RIGHT-POINTING ANGLE BRACKET ORNAMENT,HEAVY LEFT-POINTING ANGLE QUOTATION MARK ORNAMENT,H" ++
    "EAVY RIGHT-POINTING ANGLE QUOTATION MARK ORNAMENT,HEAVY LEFT-POINTING ANGLE BRACKET ORNAME" ++
    "NT,HEAVY RIGHT-POINTING ANGLE BRACKET ORNAMENT,LIGHT LEFT TORTOISE SHELL BRACKET ORNAMENT," ++
    "LIGHT RIGHT TORTOISE SHELL BRACKET ORNAMENT,MEDIUM LEFT CURLY BRACKET ORNAMENT,MEDIUM RIGH" ++
    "T CURLY BRACKET ORNAMENT"⟩,
  ⟨0x2776, "DINGBAT NEGATIVE CIRCLED ",
    "DIGIT ONE,DIGIT TWO,DIGIT THREE,DIGIT FOUR,DIGIT FIVE,DIGIT SIX,DIGIT SEVEN,DIGIT EIGHT,DI" ++
    "GIT NINE,NUMBER TEN"⟩,
  ⟨0x2780, "DINGBAT CIRCLED SANS-SERIF ",
    "DIGIT ONE,DIGIT TWO,DIGIT THREE,DIGIT FOUR,DIGIT FIVE,DIGIT SIX,DIGIT SEVEN,DIGIT EIGHT,DI" ++
    "GIT NINE,NUMBER TEN"⟩,
  ⟨0x278a, "DINGBAT NEGATIVE CIRCLED SANS-SERIF DIGIT ",
    "ONE,TWO,THREE,FOUR,FIVE,SIX,SEVEN,EIGHT,NINE"⟩,
  ⟨0x2793, "",
    "DINGBAT NEGATIVE CIRCLED SANS-SERIF NUMBER TEN,HEAVY WIDE-HEADED RIGHTWARDS ARROW,HEAVY PL" ++
    "US SIGN,HEAVY MINUS SIGN,HEAVY DIVISION SIGN,HEAVY SOUTH EAST ARROW,HEAVY RIGHTWARDS ARROW" ++
    ",HEAVY NORTH EAST ARROW,DRAFTING POINT RIGHTWARDS ARROW,HEAVY ROUND-TIPPED RIGHTWARDS ARRO" ++
    "W,TRIANGLE-HEADED RIGHTWARDS ARROW,HEAVY TRIANGLE-HEADED RIGHTWARDS ARROW,DASHED TRIANGLE-" ++
    "HEADED RIGHTWARDS ARROW,HEAVY DASHED TRIANGLE-HEADED RIGHTWARDS ARROW,BLACK RIGHTWARDS ARR" ++
    "OW,THREE-D TOP-LIGHTED RIGHTWARDS ARROWHEAD,THREE-D BOTTOM-LIGHTED RIGHTWARDS ARROWHEAD,BL" ++
    "ACK RIGHTWARDS ARROWHEAD,HEAVY BLACK CURVED DOWNWARDS AND RIGHTWARDS ARROW,HEAVY BLACK CUR" ++
    "VED UPWARDS AND RIGHTWARDS ARROW,SQUAT BLACK RIGHTWARDS ARROW,HEAVY CONCAVE-POINTED BLACK " ++
    "RIGHTWARDS ARROW,RIGHT-SHADED WHITE RIGHTWARDS ARROW,LEFT-SHADED WHITE RIGHTWARDS ARROW,BA" ++
    "CK-TILTED SHADOWED WHITE RIGHTWARDS ARROW,FRONT-TILTED SHADOWED WHITE RIGHTWARDS ARROW,HEA" ++
    "VY LOWER RIGHT-SHADOWED WHITE RIGHTWARDS ARROW,HEAVY UPPER RIGHT-SHADOWED WHITE RIGHTWARDS" ++
    " ARROW,NOTCHED LOWER RIGHT-SHADOWED WHITE RIGHTWARDS ARROW,CURLY LOOP,NOTCHED UPPER RIGHT-" ++
    "SHADOWED WHITE RIGHTWARDS ARROW,CIRCLED HEAVY WHITE RIGHTWARDS ARROW,WHITE-FEATHERED RIGHT" ++
    "WARDS ARROW"⟩,
  ⟨0x27b4, "BLACK-FEATHERED ", "SOUTH EAST ARROW,RIGHTWARDS ARROW,NORTH EAST ARROW"⟩,
  ⟨0x27b7, "HEAVY BLACK-FEATHERED ", "SOUTH EAST ARROW,RIGHTWARDS ARROW,NORTH EAST ARROW"⟩,
  ⟨0x27ba, "",
    "TEARDROP-BARBED RIGHTWARDS ARROW,HEAVY TEARDROP-SHANKED RIGHTWARDS ARROW,WEDGE-TAILED RIGH" ++
    "TWARDS ARROW,HEAVY WEDGE-TAILED RIGHTWARDS ARROW,OPEN-OUTLINED RIGHTWARDS ARROW,DOUBLE CUR" ++
    "LY LOOP,THREE DIMENSIONAL ANGLE,WHITE TRIANGLE CONTAINING SMALL WHITE TRIANGLE,PERPENDICUL" ++
    "AR,OPEN SUBSET,OPEN SUPERSET,LEFT S-SHAPED BAG DELIMITER,RIGHT S-SHAPED BAG DELIMITER,OR W" ++
    "ITH DOT INSIDE,REVERSE SOLIDUS PRECEDING SUBSET,SUPERSET PRECEDING SOLIDUS,VERTICAL BAR WI" ++
    "TH HORIZONTAL STROKE,MATHEMATICAL RISING DIAGONAL,LONG DIVISION,MATHEMATICAL FALLING DIAGO" ++
    "NAL,SQUARED LOGICAL AND,SQUARED LOGICAL OR,WHITE DIAMOND WITH CENTRED DOT,AND WITH DOT,ELE" ++
    "MENT OF OPENING UPWARDS,LOWER RIGHT CORNER WITH DOT,UPPER LEFT CORNER WITH DOT,LEFT OUTER " ++
    "JOIN,RIGHT OUTER JOIN,FULL OUTER JOIN,LARGE UP TACK,LARGE DOWN TACK,LEFT AND RIGHT DOUBLE " ++
    "TURNSTILE,LEFT AND RIGHT TACK,LEFT MULTIMAP,LONG RIGHT TACK,LONG LEFT TACK,UP TACK WITH CI" ++
    "RCLE ABOVE,LOZENGE DIVIDED BY HORIZONTAL RULE"⟩,
  ⟨0x27e1, "WHITE CONCAVE-SIDED DIAMOND", ", WITH LEFTWARDS TICK, WITH RIGHTWARDS TICK"⟩,
  ⟨0x27e4, "WHITE SQUARE WITH ", "LEFTWARDS TICK,RIGHTWARDS TICK"⟩,
  ⟨0x27e6, "MATHEMATICAL ",
    "LEFT WHITE SQUARE BRACKET,RIGHT WHITE SQUARE BRACKET,LEFT ANGLE BRACKET,RIGHT ANGLE BRACKE" ++
    "T,LEFT DOUBLE ANGLE BRACKET,RIGHT DOUBLE ANGLE BRACKET,LEFT WHITE TORTOISE SHELL BRACKET,R" ++
    "IGHT WHITE TORTOISE SHELL BRACKET,LEFT FLATTENED PARENTHESIS,RIGHT FLATTENED PARENTHESIS"⟩,
  ⟨0x27f0, "",
    "UPWARDS QUADRUPLE ARROW,DOWNWARDS QUADRUPLE ARROW,ANTICLOCKWISE GAPPED CIRCLE ARROW,CLOCKW" ++
    "ISE GAPPED CIRCLE ARROW,RIGHT ARROW WITH CIRCLED PLUS"⟩,
  ⟨0x27f5, "LONG ",
    "LEFTWARDS ARROW,RIGHTWARDS ARROW,LEFT RIGHT ARROW,LEFTWARDS DOUBLE ARROW,RIGHTWARDS DOUBLE" ++
    " ARROW,LEFT RIGHT DOUBLE ARROW,LEFTWARDS ARROW FROM BAR,RIGHTWARDS ARROW FROM BAR,LEFTWARD" ++
    "S DOUBLE ARROW FROM BAR,RIGHTWARDS DOUBLE ARROW FROM BAR,RIGHTWARDS SQUIGGLE ARROW"⟩,
  ⟨0x2800, "BRAILLE PATTERN BLANK", ""⟩,
  ⟨0x2801, "BRAILLE PATTERN DOTS-",
    "1,2,12,3,13,23,123,4,14,24,124,34,134,234,1234,5,15,25,125,35,135,235,1235,45,145,245,1245" ++
    ",345,1345,2345,12345,6,16,26,126,36,136,236,1236,46,146,246,1246,346,1346,2346,12346,56,15" ++
    "6,256,1256,356,1356,2356,12356,456,1456,2456,12456,3456,13456,23456,123456,7,17,27,127,37," ++
    "137,237,1237,47,147,247,1247,347,1347,2347,12347,57,157,257,1257,357,1357,2357,12357,457,1" ++
    "457,2457,12457,3457,13457,23457,123457,67,167,267,1267,367,1367,2367,12367,467,1467,2467,1" ++
    "2467,3467,13467,23467,123467,567,1567,2567,12567,3567,13567,23567,123567,4567,14567,24567," ++
    "124567,34567,134567,234567,1234567,8,18,28,128,38,138,238,1238,48,148,248,1248,348,1348,23" ++
    "48,12348,58,158,258,1258,358,1358,2358,12358,458,1458,2458,12458,3458,13458,23458,123458,6" ++
    "8,168,268,1268,368,1368,2368,12368,468,1468,2468,12468,3468,13468,23468,123468,568,1568,25" ++
    "68,12568,3568,13568,23568,123568,4568,14568,24568,124568,34568,134568,234568,1234568,78,17" ++
    "8,278,1278,378,1378,2378,12378,478,1478,2478,12478,3478,13478,23478,123478,578,1578,2578,1" ++
    "2578,3578,13578,23578,123578,4578,14578,24578,124578,34578,134578,234578,1234578,678,1678," ++
    "2678,12678,3678,13678,23678,123678,4678,14678,24678,124678,34678,134678,234678,1234678,567" ++
    "8,15678,25678,125678,35678,135678,235678,1235678,45678,145678,245678,1245678,345678,134567" ++
    "8,2345678,12345678"⟩,
  ⟨0x2900, "RIGHTWARDS TWO-HEADED ARROW WITH ", "VERTICAL STROKE,DOUBLE VERTICAL STROKE"⟩,
  ⟨0x2902, "",
    "LEFTWARDS DOUBLE ARROW WITH VERTICAL STROKE,RIGHTWARDS DOUBLE ARROW WITH VERTICAL STROKE,L" ++
    "EFT RIGHT DOUBLE ARROW WITH VERTICAL STROKE,RIGHTWARDS TWO-HEADED ARROW FROM BAR,LEFTWARDS" ++
    " DOUBLE ARROW FROM BAR,RIGHTWARDS DOUBLE ARROW FROM BAR,DOWNWARDS ARROW WITH HORIZONTAL ST" ++
    "ROKE,UPWARDS ARROW WITH HORIZONTAL STROKE,UPWARDS TRIPLE ARROW,DOWNWARDS TRIPLE ARROW,LEFT" ++
    "WARDS DOUBLE DASH ARROW,RIGHTWARDS DOUBLE DASH ARROW,LEFTWARDS TRIPLE DASH ARROW,RIGHTWARD" ++
    "S TRIPLE DASH ARROW,RIGHTWARDS TWO-HEADED TRIPLE DASH ARROW,RIGHTWARDS ARROW WITH DOTTED S" ++
    "TEM,UPWARDS ARROW TO BAR,DOWNWARDS ARROW TO BAR"⟩,
  ⟨0x2914, "RIGHTWARDS ARROW WITH TAIL WITH ", "VERTICAL STROKE,DOUBLE VERTICAL STROKE"⟩,
  ⟨0x2916, "RIGHTWARDS TWO-HEADED ARROW WITH TAIL",
    ", WITH VERTICAL STROKE, WITH DOUBLE VERTICAL STROKE"⟩,
  ⟨0x2919, "",
    "LEFTWARDS ARROW-TAIL,RIGHTWARDS ARROW-TAIL,LEFTWARDS DOUBLE ARROW-TAIL,RIGHTWARDS DOUBLE A" ++
    "RROW-TAIL,LEFTWARDS ARROW TO BLACK DIAMOND,RIGHTWARDS ARROW TO BLACK DIAMOND,LEFTWARDS ARR" ++
    "OW FROM BAR TO BLACK DIAMOND,RIGHTWARDS ARROW FROM BAR TO BLACK DIAMOND,NORTH WEST AND SOU" ++
    "TH EAST ARROW,NORTH EAST AND SOUTH WEST ARROW,NORTH WEST ARROW WITH HOOK,NORTH EAST ARROW " ++
    "WITH HOOK,SOUTH EAST ARROW WITH HOOK,SOUTH WEST ARROW WITH HOOK,NORTH WEST ARROW AND NORTH" ++
    " EAST ARROW,NORTH EAST ARROW AND SOUTH EAST ARROW,SOUTH EAST ARROW AND SOUTH WEST ARROW,SO" ++
    "UTH WEST ARROW AND NORTH WEST ARROW,RISING DIAGONAL CROSSING FALLING DIAGONAL,FALLING DIAG" ++
    "ONAL CROSSING RISING DIAGONAL,SOUTH EAST ARROW CROSSING NORTH EAST ARROW,NORTH EAST ARROW " ++
    "CROSSING SOUTH EAST ARROW,FALLING DIAGONAL CROSSING NORTH EAST ARROW,RISING DIAGONAL CROSS" ++
    "ING SOUTH EAST ARROW,NORTH EAST ARROW CROSSING NORTH WEST ARROW,NORTH WEST ARROW CROSSING " ++
    "NORTH EAST ARROW,WAVE ARROW POINTING DIRECTLY RIGHT"⟩,
  ⟨0x2934, "ARROW POINTING RIGHTWARDS THEN CURVING ", "UPWARDS,DOWNWARDS"⟩,
  ⟨0x2936, "ARROW POINTING DOWNWARDS THEN CURVING ", "LEFTWARDS,RIGHTWARDS"⟩,
  ⟨0x2938, "",
    "RIGHT-SIDE ARC CLOCKWISE ARROW,LEFT-SIDE ARC ANTICLOCKWISE ARROW,TOP ARC ANTICLOCKWISE ARR" ++
    "OW,BOTTOM ARC ANTICLOCKWISE ARROW,TOP ARC CLOCKWISE ARROW WITH MINUS,TOP ARC ANTICLOCKWISE" ++
    " ARROW WITH PLUS,LOWER RIGHT SEMICIRCULAR CLOCKWISE ARROW,LOWER LEFT SEMICIRCULAR ANTICLOC" ++
    "KWISE ARROW,ANTICLOCKWISE CLOSED CIRCLE ARROW,CLOCKWISE CLOSED CIRCLE ARROW,RIGHTWARDS ARR" ++
    "OW ABOVE SHORT LEFTWARDS ARROW,LEFTWARDS ARROW ABOVE SHORT RIGHTWARDS ARROW,SHORT RIGHTWAR" ++
    "DS ARROW ABOVE LEFTWARDS ARROW,RIGHTWARDS ARROW WITH PLUS BELOW,LEFTWARDS ARROW WITH PLUS " ++
    "BELOW,RIGHTWARDS ARROW THROUGH X,LEFT RIGHT ARROW THROUGH SMALL CIRCLE,UPWARDS TWO-HEADED " ++
    "ARROW FROM SMALL CIRCLE,LEFT BARB UP RIGHT BARB DOWN HARPOON,LEFT BARB DOWN RIGHT BARB UP " ++
    "HARPOON,UP BARB RIGHT DOWN BARB LEFT HARPOON,UP BARB LEFT DOWN BARB RIGHT HARPOON,LEFT BAR" ++
    "B UP RIGHT BARB UP HARPOON,UP BARB RIGHT DOWN BARB RIGHT HARPOON,LEFT BARB DOWN RIGHT BARB" ++
    " DOWN HARPOON,UP BARB LEFT DOWN BARB LEFT HARPOON,LEFTWARDS HARPOON WITH BARB UP TO BAR,RI" ++
    "GHTWARDS HARPOON WITH BARB UP TO BAR,UPWARDS HARPOON WITH BARB RIGHT TO BAR,DOWNWARDS HARP" ++
    "OON WITH BARB RIGHT TO BAR,LEFTWARDS HARPOON WITH BARB DOWN TO BAR,RIGHTWARDS HARPOON WITH" ++
    " BARB DOWN TO BAR,UPWARDS HARPOON WITH BARB LEFT TO BAR,DOWNWARDS HARPOON WITH BARB LEFT T" ++
    "O BAR,LEFTWARDS HARPOON WITH BARB UP FROM BAR,RIGHTWARDS HARPOON WITH BARB UP FROM BAR,UPW" ++
    "ARDS HARPOON WITH BARB RIGHT FROM BAR,DOWNWARDS HARPOON WITH BARB RIGHT FROM BAR,LEFTWARDS" ++
    " HARPOON WITH BARB DOWN FROM BAR,RIGHTWARDS HARPOON WITH BARB DOWN FROM BAR,UPWARDS HARPOO" ++
    "N WITH BARB LEFT FROM BAR,DOWNWARDS HARPOON WITH BARB LEFT FROM BAR,LEFTWARDS HARPOON WITH" ++
    " BARB UP ABOVE LEFTWARDS HARPOON WITH BARB DOWN,UPWARDS HARPOON WITH BARB LEFT BESIDE UPWA" ++
    "RDS HARPOON WITH BARB RIGHT,RIGHTWARDS HARPOON WITH BARB UP ABOVE RIGHTWARDS HARPOON WITH " ++
    "BARB DOWN,DOWNWARDS HARPOON WITH BARB LEFT BESIDE DOWNWARDS HARPOON WITH BARB RIGHT"⟩,
  ⟨0x2966, "LEFTWARDS HARPOON WITH BARB ",
    "UP ABOVE RIGHTWARDS HARPOON WITH BARB UP,DOWN ABOVE RIGHTWARDS HARPOON WITH BARB DOWN"⟩,
  ⟨0x2968, "RIGHTWARDS HARPOON WITH BARB ",
    "UP ABOVE LEFTWARDS HARPOON WITH BARB UP,DOWN ABOVE LEFTWARDS HARPOON WITH BARB DOWN"⟩,
  ⟨0x296a, "LEFTWARDS HARPOON WITH BARB ", "UP ABOVE LONG DASH,DOWN BELOW LONG DASH"⟩,
  ⟨0x296c, "RIGHTWARDS HARPOON WITH BARB ", "UP ABOVE LONG DASH,DOWN BELOW LONG DASH"⟩,
  ⟨0x296e, "",
    "UPWARDS HARPOON WITH BARB LEFT BESIDE DOWNWARDS HARPOON WITH BARB RIGHT,DOWNWARDS HARPOON " ++
    "WITH BARB LEFT BESIDE UPWARDS HARPOON WITH BARB RIGHT,RIGHT DOUBLE ARROW WITH ROUNDED HEAD" ++
    ",EQUALS SIGN ABOVE RIGHTWARDS ARROW,TILDE OPERATOR ABOVE RIGHTWARDS ARROW,LEFTWARDS ARROW " ++
    "ABOVE TILDE OPERATOR,RIGHTWARDS ARROW ABOVE TILDE OPERATOR,RIGHTWARDS ARROW ABOVE ALMOST E" ++
    "QUAL TO,LESS-THAN ABOVE LEFTWARDS ARROW,LEFTWARDS ARROW THROUGH LESS-THAN,GREATER-THAN ABO" ++
    "VE RIGHTWARDS ARROW,SUBSET ABOVE RIGHTWARDS ARROW,LEFTWARDS ARROW THROUGH SUBSET,SUPERSET " ++
    "ABOVE LEFTWARDS ARROW,LEFT FISH TAIL,RIGHT FISH TAIL,UP FISH TAIL,DOWN FISH TAIL,TRIPLE VE" ++
    "RTICAL BAR DELIMITER,Z NOTATION SPOT,Z NOTATION TYPE COLON,LEFT WHITE CURLY BRACKET,RIGHT " ++
    "WHITE CURLY BRACKET,LEFT WHITE PARENTHESIS,RIGHT WHITE PARENTHESIS,Z NOTATION LEFT IMAGE B" ++
    "RACKET,Z NOTATION RIGHT IMAGE BRACKET,Z NOTATION LEFT BINDING BRACKET,Z NOTATION RIGHT BIN" ++
    "DING BRACKET,LEFT SQUARE BRACKET WITH UNDERBAR,RIGHT SQUARE BRACKET WITH UNDERBAR,LEFT SQU" ++
    "ARE BRACKET WITH TICK IN TOP CORNER,RIGHT SQUARE BRACKET WITH TICK IN BOTTOM CORNER,LEFT S" ++
    "QUARE BRACKET WITH TICK IN BOTTOM CORNER,RIGHT SQUARE BRACKET WITH TICK IN TOP CORNER,LEFT" ++
    " ANGLE BRACKET WITH DOT,RIGHT ANGLE BRACKET WITH DOT,LEFT ARC LESS-THAN BRACKET,RIGHT ARC " ++
    "GREATER-THAN BRACKET,DOUBLE LEFT ARC GREATER-THAN BRACKET,DOUBLE RIGHT ARC LESS-THAN BRACK" ++
    "ET,LEFT BLACK TORTOISE SHELL BRACKET,RIGHT BLACK TORTOISE SHELL BRACKET,DOTTED FENCE,VERTI" ++
    "CAL ZIGZAG LINE,MEASURED ANGLE OPENING LEFT,RIGHT ANGLE VARIANT WITH SQUARE,MEASURED RIGHT" ++
    " ANGLE WITH DOT,ANGLE WITH S INSIDE,ACUTE ANGLE,SPHERICAL ANGLE OPENING LEFT,SPHERICAL ANG" ++
    "LE OPENING UP,TURNED ANGLE,REVERSED ANGLE,ANGLE WITH UNDERBAR,REVERSED ANGLE WITH UNDERBAR" ++
    ",OBLIQUE ANGLE OPENING UP,OBLIQUE ANGLE OPENING DOWN"⟩,
  ⟨0x29a8, "MEASURED ANGLE WITH OPEN ARM ENDING IN ARROW POINTING ",
    "UP AND RIGHT,UP AND LEFT,DOWN AND RIGHT,DOWN AND LEFT,RIGHT AND UP,LEFT AND UP,RIGHT AND D" ++
    "OWN,LEFT AND DOWN"⟩,
  ⟨0x29b0, "REVERSED EMPTY SET", ""⟩,
  ⟨0x29b1, "EMPTY SET WITH ", "OVERBAR,SMALL CIRCLE ABOVE,RIGHT ARROW ABOVE,LEFT ARROW ABOVE"⟩,
  ⟨0x29b5, "CIRCLE",
    " WITH HORIZONTAL BAR,D VERTICAL BAR,D PARALLEL,D REVERSE SOLIDUS,D PERPENDICULAR, DIVIDED " ++
    "BY HORIZONTAL BAR AND TOP HALF DIVIDED BY VERTICAL BAR, WITH SUPERIMPOSED X,D ANTICLOCKWIS" ++
    "E-ROTATED DIVISION SIGN"⟩,
  ⟨0x29bd, "",
    "UP ARROW THROUGH CIRCLE,CIRCLED WHITE BULLET,CIRCLED BULLET,CIRCLED LESS-THAN,CIRCLED GREA" ++
    "TER-THAN,CIRCLE WITH SMALL CIRCLE TO THE RIGHT,CIRCLE WITH TWO HORIZONTAL STROKES TO THE R" ++
    "IGHT,SQUARED RISING DIAGONAL SLASH,SQUARED FALLING DIAGONAL SLASH,SQUARED ASTERISK,SQUARED" ++
    " SMALL CIRCLE,SQUARED SQUARE,TWO JOINED SQUARES,TRIANGLE WITH DOT ABOVE,TRIANGLE WITH UNDE" ++
    "RBAR,S IN TRIANGLE,TRIANGLE WITH SERIFS AT BOTTOM,RIGHT TRIANGLE ABOVE LEFT TRIANGLE,LEFT " ++
    "TRIANGLE BESIDE VERTICAL BAR,VERTICAL BAR BESIDE RIGHT TRIANGLE,BOWTIE WITH LEFT HALF BLAC" ++
    "K,BOWTIE WITH RIGHT HALF BLACK,BLACK BOWTIE,TIMES WITH LEFT HALF BLACK,TIMES WITH RIGHT HA" ++
    "LF BLACK,WHITE HOURGLASS,BLACK HOURGLASS,LEFT WIGGLY FENCE,RIGHT WIGGLY FENCE,LEFT DOUBLE " ++
    "WIGGLY FENCE,RIGHT DOUBLE WIGGLY FENCE,INCOMPLETE INFINITY,TIE OVER INFINITY,INFINITY NEGA" ++
    "TED WITH VERTICAL BAR,DOUBLE-ENDED MULTIMAP,SQUARE WITH CONTOURED OUTLINE,INCREASES AS,SHU" ++
    "FFLE PRODUCT,EQUALS SIGN AND SLANTED PARALLEL,EQUALS SIGN AND SLANTED PARALLEL WITH TILDE " ++
    "ABOVE,IDENTICAL TO AND SLANTED PARALLEL,GLEICH STARK,THERMODYNAMIC,DOWN-POINTING TRIANGLE " ++
    "WITH LEFT HALF BLACK,DOWN-POINTING TRIANGLE WITH RIGHT HALF BLACK,BLACK DIAMOND WITH DOWN " ++
    "ARROW,BLACK LOZENGE,WHITE CIRCLE WITH DOWN ARROW,BLACK CIRCLE WITH DOWN ARROW"⟩,
  ⟨0x29ee, "ERROR-BARRED ",
    "WHITE SQUARE,BLACK SQUARE,WHITE DIAMOND,BLACK DIAMOND,WHITE CIRCLE,BLACK CIRCLE"⟩,
  ⟨0x29f4, "",
    "RULE-DELAYED,REVERSE SOLIDUS OPERATOR,SOLIDUS WITH OVERBAR,REVERSE SOLIDUS WITH HORIZONTAL" ++
    " STROKE,BIG SOLIDUS,BIG REVERSE SOLIDUS,DOUBLE PLUS,TRIPLE PLUS,LEFT-POINTING CURVED ANGLE" ++
    " BRACKET,RIGHT-POINTING CURVED ANGLE BRACKET,TINY,MINY,N-ARY CIRCLED DOT OPERATOR,N-ARY CI" ++
    "RCLED PLUS OPERATOR,N-ARY CIRCLED TIMES OPERATOR,N-ARY UNION OPERATOR WITH DOT,N-ARY UNION" ++
    " OPERATOR WITH PLUS,N-ARY SQUARE INTERSECTION OPERATOR,N-ARY SQUARE UNION OPERATOR,TWO LOG" ++
    "ICAL AND OPERATOR,TWO LOGICAL OR OPERATOR,N-ARY TIMES OPERATOR,MODULO TWO SUM,SUMMATION WI" ++
    "TH INTEGRAL,QUADRUPLE INTEGRAL OPERATOR,FINITE PART INTEGRAL,INTEGRAL WITH DOUBLE STROKE,I" ++
    "NTEGRAL AVERAGE WITH SLASH,CIRCULATION FUNCTION,ANTICLOCKWISE INTEGRATION,LINE INTEGRATION" ++
    " WITH RECTANGULAR PATH AROUND POLE,LINE INTEGRATION WITH SEMICIRCULAR PATH AROUND POLE,LIN" ++
    "E INTEGRATION NOT INCLUDING THE POLE,INTEGRAL AROUND A POINT OPERATOR,QUATERNION INTEGRAL " ++
    "OPERATOR"⟩,
  ⟨0x2a17, "INTEGRAL WITH ",
    "LEFTWARDS ARROW WITH HOOK,TIMES SIGN,INTERSECTION,UNION,OVERBAR,UNDERBAR"⟩,
  ⟨0x2a1d, "", "JOIN,LARGE LEFT TRIANGLE OPERATOR"⟩,
  ⟨0x2a1f, "Z NOTATION SCHEMA ", "COMPOSITION,PIPING,PROJECTION"⟩,
  ⟨0x2a22, "PLUS SIGN WITH ",
    "SMALL CIRCLE ABOVE,CIRCUMFLEX ACCENT ABOVE,TILDE ABOVE,DOT BELOW,TILDE BELOW,SUBSCRIPT TWO" ++
    ",BLACK TRIANGLE"⟩,
  ⟨0x2a29, "MINUS SIGN WITH ", "COMMA ABOVE,DOT BELOW,FALLING DOTS,RISING DOTS"⟩,
  ⟨0x2a2d, "",
    "PLUS SIGN IN LEFT HALF CIRCLE,PLUS SIGN IN RIGHT HALF CIRCLE,VECTOR OR CROSS PRODUCT,MULTI" ++
    "PLICATION SIGN WITH DOT ABOVE,MULTIPLICATION SIGN WITH UNDERBAR,SEMIDIRECT PRODUCT WITH BO" ++
    "TTOM CLOSED,SMASH PRODUCT,MULTIPLICATION SIGN IN LEFT HALF CIRCLE,MULTIPLICATION SIGN IN R" ++
    "IGHT HALF CIRCLE,CIRCLED MULTIPLICATION SIGN WITH CIRCUMFLEX ACCENT,MULTIPLICATION SIGN IN" ++
    " DOUBLE CIRCLE,CIRCLED DIVISION SIGN,PLUS SIGN IN TRIANGLE,MINUS SIGN IN TRIANGLE,MULTIPLI" ++
    "CATION SIGN IN TRIANGLE,INTERIOR PRODUCT,RIGHTHAND INTERIOR PRODUCT,Z NOTATION RELATIONAL " ++
    "COMPOSITION,AMALGAMATION OR COPRODUCT,INTERSECTION WITH DOT,UNION WITH MINUS SIGN,UNION WI" ++
    "TH OVERBAR,INTERSECTION WITH OVERBAR,INTERSECTION WITH LOGICAL AND,UNION WITH LOGICAL OR,U" ++
    "NION ABOVE INTERSECTION,INTERSECTION ABOVE UNION,UNION ABOVE BAR ABOVE INTERSECTION,INTERS" ++
    "ECTION ABOVE BAR ABOVE UNION,UNION BESIDE AND JOINED WITH UNION,INTERSECTION BESIDE AND JO" ++
    "INED WITH INTERSECTION,CLOSED UNION WITH SERIFS,CLOSED INTERSECTION WITH SERIFS,DOUBLE SQU" ++
    "ARE INTERSECTION,DOUBLE SQUARE UNION,CLOSED UNION WITH SERIFS AND SMASH PRODUCT,LOGICAL AN" ++
    "D WITH DOT ABOVE,LOGICAL OR WITH DOT ABOVE,DOUBLE LOGICAL AND,DOUBLE LOGICAL OR,TWO INTERS" ++
    "ECTING LOGICAL AND,TWO INTERSECTING LOGICAL OR,SLOPING LARGE OR,SLOPING LARGE AND"⟩,
  ⟨0x2a59, "LOGICAL ",
    "OR OVERLAPPING LOGICAL AND,AND WITH MIDDLE STEM,OR WITH MIDDLE STEM,AND WITH HORIZONTAL DA" ++
    "SH,OR WITH HORIZONTAL DASH,AND WITH DOUBLE OVERBAR,AND WITH UNDERBAR,AND WITH DOUBLE UNDER" ++
    "BAR"⟩,
  ⟨0x2a61, "",
    "SMALL VEE WITH UNDERBAR,LOGICAL OR WITH DOUBLE OVERBAR,LOGICAL OR WITH DOUBLE UNDERBAR,Z N" ++
    "OTATION DOMAIN ANTIRESTRICTION,Z NOTATION RANGE ANTIRESTRICTION,EQUALS SIGN WITH DOT BELOW" ++
    ",IDENTICAL WITH DOT ABOVE,TRIPLE HORIZONTAL BAR WITH DOUBLE VERTICAL STROKE,TRIPLE HORIZON" ++
    "TAL BAR WITH TRIPLE VERTICAL STROKE,TILDE OPERATOR WITH DOT ABOVE,TILDE OPERATOR WITH RISI" ++
    "NG DOTS,SIMILAR MINUS SIMILAR,CONGRUENT WITH DOT ABOVE,EQUALS WITH ASTERISK,ALMOST EQUAL T" ++
    "O WITH CIRCUMFLEX ACCENT,APPROXIMATELY EQUAL OR EQUAL TO,EQUALS SIGN ABOVE PLUS SIGN,PLUS " ++
    "SIGN ABOVE EQUALS SIGN,EQUALS SIGN ABOVE TILDE OPERATOR,DOUBLE COLON EQUAL,TWO CONSECUTIVE" ++
    " EQUALS SIGNS,THREE CONSECUTIVE EQUALS SIGNS,EQUALS SIGN WITH TWO DOTS ABOVE AND TWO DOTS " ++
    "BELOW,EQUIVALENT WITH FOUR DOTS ABOVE,LESS-THAN WITH CIRCLE INSIDE,GREATER-THAN WITH CIRCL" ++
    "E INSIDE,LESS-THAN WITH QUESTION MARK ABOVE,GREATER-THAN WITH QUESTION MARK ABOVE,LESS-THA" ++
    "N OR SLANTED EQUAL TO,GREATER-THAN OR SLANTED EQUAL TO,LESS-THAN OR SLANTED EQUAL TO WITH " ++
    "DOT INSIDE,GREATER-THAN OR SLANTED EQUAL TO WITH DOT INSIDE,LESS-THAN OR SLANTED EQUAL TO " ++
    "WITH DOT ABOVE,GREATER-THAN OR SLANTED EQUAL TO WITH DOT ABOVE,LESS-THAN OR SLANTED EQUAL " ++
    "TO WITH DOT ABOVE RIGHT,GREATER-THAN OR SLANTED EQUAL TO WITH DOT ABOVE LEFT,LESS-THAN OR " ++
    "APPROXIMATE,GREATER-THAN OR APPROXIMATE,LESS-THAN AND SINGLE-LINE NOT EQUAL TO,GREATER-THA" ++
    "N AND SINGLE-LINE NOT EQUAL TO,LESS-THAN AND NOT APPROXIMATE,GREATER-THAN AND NOT APPROXIM" ++
    "ATE,LESS-THAN ABOVE DOUBLE-LINE EQUAL ABOVE GREATER-THAN,GREATER-THAN ABOVE DOUBLE-LINE EQ" ++
    "UAL ABOVE LESS-THAN,LESS-THAN ABOVE SIMILAR OR EQUAL,GREATER-THAN ABOVE SIMILAR OR EQUAL,L" ++
    "ESS-THAN ABOVE SIMILAR ABOVE GREATER-THAN,GREATER-THAN ABOVE SIMILAR ABOVE LESS-THAN,LESS-" ++
    "THAN ABOVE GREATER-THAN ABOVE DOUBLE-LINE EQUAL,GREATER-THAN ABOVE LESS-THAN ABOVE DOUBLE-" ++
    "LINE EQUAL,LESS-THAN ABOVE SLANTED EQUAL ABOVE GREATER-THAN ABOVE SLANTED EQUAL,GREATER-TH" ++
    "AN ABOVE SLANTED EQUAL ABOVE LESS-THAN ABOVE SLANTED EQUAL"⟩,
  ⟨0x2a95, "SLANTED EQUAL TO OR ",
    "LESS-THAN,GREATER-THAN,LESS-THAN WITH DOT INSIDE,GREATER-THAN WITH DOT INSIDE"⟩,
  ⟨0x2a99, "DOUBLE-LINE ",
    "EQUAL TO OR LESS-THAN,EQUAL TO OR GREATER-THAN,SLANTED EQUAL TO OR LESS-THAN,SLANTED EQUAL" ++
    " TO OR GREATER-THAN"⟩,
  ⟨0x2a9d, "SIMILAR ",
    "OR LESS-THAN,OR GREATER-THAN,ABOVE LESS-THAN ABOVE EQUALS SIGN,ABOVE GREATER-THAN ABOVE EQ" ++
    "UALS SIGN"⟩,
  ⟨0x2aa1, "DOUBLE NESTED ", "LESS-THAN,GREATER-THAN,LESS-THAN WITH UNDERBAR"⟩,
  ⟨0x2aa4, "",
    "GREATER-THAN OVERLAPPING LESS-THAN,GREATER-THAN BESIDE LESS-THAN,LESS-THAN CLOSED BY CURVE" ++
    ",GREATER-THAN CLOSED BY CURVE,LESS-THAN CLOSED BY CURVE ABOVE SLANTED EQUAL,GREATER-THAN C" ++
    "LOSED BY CURVE ABOVE SLANTED EQUAL,SMALLER THAN,LARGER THAN,SMALLER THAN OR EQUAL TO,LARGE" ++
    "R THAN OR EQUAL TO,EQUALS SIGN WITH BUMPY ABOVE,PRECEDES ABOVE SINGLE-LINE EQUALS SIGN,SUC" ++
    "CEEDS ABOVE SINGLE-LINE EQUALS SIGN,PRECEDES ABOVE SINGLE-LINE NOT EQUAL TO,SUCCEEDS ABOVE" ++
    " SINGLE-LINE NOT EQUAL TO,PRECEDES ABOVE EQUALS SIGN,SUCCEEDS ABOVE EQUALS SIGN,PRECEDES A" ++
    "BOVE NOT EQUAL TO,SUCCEEDS ABOVE NOT EQUAL TO,PRECEDES ABOVE ALMOST EQUAL TO,SUCCEEDS ABOV" ++
    "E ALMOST EQUAL TO,PRECEDES ABOVE NOT ALMOST EQUAL TO,SUCCEEDS ABOVE NOT ALMOST EQUAL TO,DO" ++
    "UBLE PRECEDES,DOUBLE SUCCEEDS,SUBSET WITH DOT,SUPERSET WITH DOT,SUBSET WITH PLUS SIGN BELO" ++
    "W,SUPERSET WITH PLUS SIGN BELOW,SUBSET WITH MULTIPLICATION SIGN BELOW,SUPERSET WITH MULTIP" ++
    "LICATION SIGN BELOW,SUBSET OF OR EQUAL TO WITH DOT ABOVE,SUPERSET OF OR EQUAL TO WITH DOT " ++
    "ABOVE,SUBSET OF ABOVE EQUALS SIGN,SUPERSET OF ABOVE EQUALS SIGN,SUBSET OF ABOVE TILDE OPER" ++
    "ATOR,SUPERSET OF ABOVE TILDE OPERATOR,SUBSET OF ABOVE ALMOST EQUAL TO,SUPERSET OF ABOVE AL" ++
    "MOST EQUAL TO,SUBSET OF ABOVE NOT EQUAL TO,SUPERSET OF ABOVE NOT EQUAL TO,SQUARE LEFT OPEN" ++
    " BOX OPERATOR,SQUARE RIGHT OPEN BOX OPERATOR"⟩,
  ⟨0x2acf, "CLOSED SU", "BSET,PERSET,BSET OR EQUAL TO,PERSET OR EQUAL TO"⟩,
  ⟨0x2ad3, "",
    "SUBSET ABOVE SUPERSET,SUPERSET ABOVE SUBSET,SUBSET ABOVE SUBSET,SUPERSET ABOVE SUPERSET,SU" ++
    "PERSET BESIDE SUBSET,SUPERSET BESIDE AND JOINED BY DASH WITH SUBSET,ELEMENT OF OPENING DOW" ++
    "NWARDS,PITCHFORK WITH TEE TOP,TRANSVERSAL INTERSECTION,FORKING,NONFORKING,SHORT LEFT TACK," ++
    "SHORT DOWN TACK,SHORT UP TACK,PERPENDICULAR WITH S,VERTICAL BAR TRIPLE RIGHT TURNSTILE,DOU" ++
    "BLE VERTICAL BAR LEFT TURNSTILE,VERTICAL BAR DOUBLE LEFT TURNSTILE,DOUBLE VERTICAL BAR DOU" ++
    "BLE LEFT TURNSTILE,LONG DASH FROM LEFT MEMBER OF DOUBLE VERTICAL,SHORT DOWN TACK WITH OVER" ++
    "BAR,SHORT UP TACK WITH UNDERBAR,SHORT UP TACK ABOVE SHORT DOWN TACK,DOUBLE DOWN TACK,DOUBL" ++
    "E UP TACK,DOUBLE STROKE NOT SIGN,REVERSED DOUBLE STROKE NOT SIGN,DOES NOT DIVIDE WITH REVE" ++
    "RSED NEGATION SLASH,VERTICAL LINE WITH CIRCLE ABOVE,VERTICAL LINE WITH CIRCLE BELOW,DOWN T" ++
    "ACK WITH CIRCLE BELOW,PARALLEL WITH HORIZONTAL STROKE,PARALLEL WITH TILDE OPERATOR,TRIPLE " ++
    "VERTICAL BAR BINARY RELATION,TRIPLE VERTICAL BAR WITH HORIZONTAL STROKE,TRIPLE COLON OPERA" ++
    "TOR,TRIPLE NESTED LESS-THAN,TRIPLE NESTED GREATER-THAN,DOUBLE-LINE SLANTED LESS-THAN OR EQ" ++
    "UAL TO,DOUBLE-LINE SLANTED GREATER-THAN OR EQUAL TO,TRIPLE SOLIDUS BINARY RELATION,LARGE T" ++
    "RIPLE VERTICAL BAR OPERATOR,DOUBLE SOLIDUS OPERATOR,WHITE VERTICAL BAR,N-ARY WHITE VERTICA" ++
    "L BAR,NORTH EAST WHITE ARROW,NORTH WEST WHITE ARROW,SOUTH EAST WHITE ARROW,SOUTH WEST WHIT" ++
    "E ARROW,LEFT RIGHT WHITE ARROW,LEFTWARDS BLACK ARROW,UPWARDS BLACK ARROW,DOWNWARDS BLACK A" ++
    "RROW,NORTH EAST BLACK ARROW,NORTH WEST BLACK ARROW,SOUTH EAST BLACK ARROW,SOUTH WEST BLACK" ++
    " ARROW,LEFT RIGHT BLACK ARROW,UP DOWN BLACK ARROW"⟩,
  ⟨0x2b0e, "RIGHTWARDS ARROW WITH TIP ", "DOWNWARDS,UPWARDS"⟩,
  ⟨0x2b10, "LEFTWARDS ARROW WITH TIP ", "DOWNWARDS,UPWARDS"⟩,
  ⟨0x2b12, "SQUARE WITH ",
    "TOP HALF BLACK,BOTTOM HALF BLACK,UPPER RIGHT DIAGONAL HALF BLACK,LOWER LEFT DIAGONAL HALF " ++
    "BLACK"⟩,
  ⟨0x2b16, "DIAMOND WITH ", "LEFT HALF BLACK,RIGHT HALF BLACK,TOP HALF BLACK,BOTTOM HALF BLACK"⟩,
  ⟨0x2b1a, "",
    "DOTTED SQUARE,BLACK LARGE SQUARE,WHITE LARGE SQUARE,BLACK VERY SMALL SQUARE,WHITE VERY SMA" ++
    "LL SQUARE,BLACK PENTAGON,WHITE PENTAGON,WHITE HEXAGON,BLACK HEXAGON,HORIZONTAL BLACK HEXAG" ++
    "ON,BLACK LARGE CIRCLE,BLACK MEDIUM DIAMOND,WHITE MEDIUM DIAMOND,BLACK MEDIUM LOZENGE,WHITE" ++
    " MEDIUM LOZENGE,BLACK SMALL DIAMOND,BLACK SMALL LOZENGE,WHITE SMALL LOZENGE,BLACK HORIZONT" ++
    "AL ELLIPSE,WHITE HORIZONTAL ELLIPSE,BLACK VERTICAL ELLIPSE,WHITE VERTICAL ELLIPSE,LEFT ARR" ++
    "OW WITH SMALL CIRCLE,THREE LEFTWARDS ARROWS,LEFT ARROW WITH CIRCLED PLUS,LONG LEFTWARDS SQ" ++
    "UIGGLE ARROW"⟩,
  ⟨0x2b34, "LEFTWARDS TWO-HEADED ",
    "ARROW WITH VERTICAL STROKE,ARROW WITH DOUBLE VERTICAL STROKE,ARROW FROM BAR,TRIPLE DASH AR" ++
    "ROW"⟩,
  ⟨0x2b38, "LEFTWARDS ARROW WITH ",
    "DOTTED STEM,TAIL WITH VERTICAL STROKE,TAIL WITH DOUBLE VERTICAL STROKE"⟩,
  ⟨0x2b3b, "LEFTWARDS TWO-HEADED ARROW WITH TAIL",
    ", WITH VERTICAL STROKE, WITH DOUBLE VERTICAL STROKE"⟩,
  ⟨0x2b3e, "",
    "LEFTWARDS ARROW THROUGH X,WAVE ARROW POINTING DIRECTLY LEFT,EQUALS SIGN ABOVE LEFTWARDS AR" ++
    "ROW,REVERSE TILDE OPERATOR ABOVE LEFTWARDS ARROW,LEFTWARDS ARROW ABOVE REVERSE ALMOST EQUA" ++
    "L TO,RIGHTWARDS ARROW THROUGH GREATER-THAN,RIGHTWARDS ARROW THROUGH SUPERSET,LEFTWARDS QUA" ++
    "DRUPLE ARROW,RIGHTWARDS QUADRUPLE ARROW,REVERSE TILDE OPERATOR ABOVE RIGHTWARDS ARROW,RIGH" ++
    "TWARDS ARROW ABOVE REVERSE ALMOST EQUAL TO,TILDE OPERATOR ABOVE LEFTWARDS ARROW,LEFTWARDS " ++
    "ARROW ABOVE ALMOST EQUAL TO,LEFTWARDS ARROW ABOVE REVERSE TILDE OPERATOR,RIGHTWARDS ARROW " ++
    "ABOVE REVERSE TILDE OPERATOR,DOWNWARDS TRIANGLE-HEADED ZIGZAG ARROW,SHORT SLANTED NORTH AR" ++
    "ROW,SHORT BACKSLANTED SOUTH ARROW,WHITE MEDIUM STAR,BLACK SMALL STAR,WHITE SMALL STAR,BLAC" ++
    "K RIGHT-POINTING PENTAGON,WHITE RIGHT-POINTING PENTAGON,HEAVY LARGE CIRCLE,HEAVY OVAL WITH" ++
    " OVAL INSIDE,HEAVY CIRCLE WITH CIRCLE INSIDE,HEAVY CIRCLE,HEAVY CIRCLED SALTIRE,SLANTED NO" ++
    "RTH ARROW WITH HOOKED HEAD,BACKSLANTED SOUTH ARROW WITH HOOKED TAIL,SLANTED NORTH ARROW WI" ++
    "TH HORIZONTAL TAIL,BACKSLANTED SOUTH ARROW WITH HORIZONTAL TAIL,BENT ARROW POINTING DOWNWA" ++
    "RDS THEN NORTH EAST,SHORT BENT ARROW POINTING DOWNWARDS THEN NORTH EAST,LEFTWARDS TRIANGLE" ++
    "-HEADED ARROW,UPWARDS TRIANGLE-HEADED ARROW,RIGHTWARDS TRIANGLE-HEADED ARROW,DOWNWARDS TRI" ++
    "ANGLE-HEADED ARROW,LEFT RIGHT TRIANGLE-HEADED ARROW,UP DOWN TRIANGLE-HEADED ARROW,NORTH WE" ++
    "ST TRIANGLE-HEADED ARROW,NORTH EAST TRIANGLE-HEADED ARROW,SOUTH EAST TRIANGLE-HEADED ARROW" ++
    ",SOUTH WEST TRIANGLE-HEADED ARROW,LEFTWARDS TRIANGLE-HEADED DASHED ARROW,UPWARDS TRIANGLE-" ++
    "HEADED DASHED ARROW,RIGHTWARDS TRIANGLE-HEADED DASHED ARROW,DOWNWARDS TRIANGLE-HEADED DASH" ++
    "ED ARROW,CLOCKWISE TRIANGLE-HEADED OPEN CIRCLE ARROW,ANTICLOCKWISE TRIANGLE-HEADED OPEN CI" ++
    "RCLE ARROW,LEFTWARDS TRIANGLE-HEADED ARROW TO BAR,UPWARDS TRIANGLE-HEADED ARROW TO BAR,RIG" ++
    "HTWARDS TRIANGLE-HEADED ARROW TO BAR,DOWNWARDS TRIANGLE-HEADED ARROW TO BAR"⟩,
  ⟨0x2b76, "",
    "NORTH WEST TRIANGLE-HEADED ARROW TO BAR,NORTH EAST TRIANGLE-HEADED ARROW TO BAR,SOUTH EAST" ++
    " TRIANGLE-HEADED ARROW TO BAR,SOUTH WEST TRIANGLE-HEADED ARROW TO BAR,LEFTWARDS TRIANGLE-H" ++
    "EADED ARROW WITH DOUBLE HORIZONTAL STROKE,UPWARDS TRIANGLE-HEADED ARROW WITH DOUBLE HORIZO" ++
    "NTAL STROKE,RIGHTWARDS TRIANGLE-HEADED ARROW WITH DOUBLE HORIZONTAL STROKE,DOWNWARDS TRIAN" ++
    "GLE-HEADED ARROW WITH DOUBLE HORIZONTAL STROKE,HORIZONTAL TAB KEY,VERTICAL TAB KEY,LEFTWAR" ++
    "DS TRIANGLE-HEADED ARROW OVER RIGHTWARDS TRIANGLE-HEADED ARROW,UPWARDS TRIANGLE-HEADED ARR" ++
    "OW LEFTWARDS OF DOWNWARDS TRIANGLE-HEADED ARROW,RIGHTWARDS TRIANGLE-HEADED ARROW OVER LEFT" ++
    "WARDS TRIANGLE-HEADED ARROW,DOWNWARDS TRIANGLE-HEADED ARROW LEFTWARDS OF UPWARDS TRIANGLE-" ++
    "HEADED ARROW,LEFTWARDS TRIANGLE-HEADED PAIRED ARROWS,UPWARDS TRIANGLE-HEADED PAIRED ARROWS" ++
    ",RIGHTWARDS TRIANGLE-HEADED PAIRED ARROWS,DOWNWARDS TRIANGLE-HEADED PAIRED ARROWS,LEFTWARD" ++
    "S BLACK CIRCLED WHITE ARROW,UPWARDS BLACK CIRCLED WHITE ARROW,RIGHTWARDS BLACK CIRCLED WHI" ++
    "TE ARROW,DOWNWARDS BLACK CIRCLED WHITE ARROW"⟩,
  ⟨0x2b8c, "ANTICLOCKWISE TRIANGLE-HEADED ",
    "RIGHT U-SHAPED ARROW,BOTTOM U-SHAPED ARROW,LEFT U-SHAPED ARROW,TOP U-SHAPED ARROW"⟩,
  ⟨0x2b90, "",
    "RETURN LEFT,RETURN RIGHT,NEWLINE LEFT,NEWLINE RIGHT,FOUR CORNER ARROWS CIRCLING ANTICLOCKW" ++
    "ISE,RIGHTWARDS BLACK ARROW,…,SYMBOL FOR TYPE A ELECTRONICS,THREE-D TOP-LIGHTED LEFTWARDS E" ++
    "QUILATERAL ARROWHEAD,THREE-D RIGHT-LIGHTED UPWARDS EQUILATERAL ARROWHEAD,THREE-D TOP-LIGHT" ++
    "ED RIGHTWARDS EQUILATERAL ARROWHEAD,THREE-D LEFT-LIGHTED DOWNWARDS EQUILATERAL ARROWHEAD,B" ++
    "LACK LEFTWARDS EQUILATERAL ARROWHEAD,BLACK UPWARDS EQUILATERAL ARROWHEAD,BLACK RIGHTWARDS " ++
    "EQUILATERAL ARROWHEAD,BLACK DOWNWARDS EQUILATERAL ARROWHEAD"⟩,
  ⟨0x2ba0, "DOWNWARDS TRIANGLE-HEADED ARROW WITH LONG TIP ", "LEFTWARDS,RIGHTWARDS"⟩,
  ⟨0x2ba2, "UPWARDS TRIANGLE-HEADED ARROW WITH LONG TIP ", "LEFTWARDS,RIGHTWARDS"⟩,
  ⟨0x2ba4, "",
    "LEFTWARDS TRIANGLE-HEADED ARROW WITH LONG TIP UPWARDS,RIGHTWARDS TRIANGLE-HEADED ARROW WIT" ++
    "H LONG TIP UPWARDS,LEFTWARDS TRIANGLE-HEADED ARROW WITH LONG TIP DOWNWARDS,RIGHTWARDS TRIA" ++
    "NGLE-HEADED ARROW WITH LONG TIP DOWNWARDS"⟩,
  ⟨0x2ba8, "BLACK CURVED ",
    "DOWNWARDS AND LEFTWARDS ARROW,DOWNWARDS AND RIGHTWARDS ARROW,UPWARDS AND LEFTWARDS ARROW,U" ++
    "PWARDS AND RIGHTWARDS ARROW,LEFTWARDS AND UPWARDS ARROW,RIGHTWARDS AND UPWARDS ARROW,LEFTW" ++
    "ARDS AND DOWNWARDS ARROW,RIGHTWARDS AND DOWNWARDS ARROW"⟩,
  ⟨0x2bb0, "RIBBON ARROW ",
    "DOWN LEFT,DOWN RIGHT,UP LEFT,UP RIGHT,LEFT UP,RIGHT UP,LEFT DOWN,RIGHT DOWN"⟩,
  ⟨0x2bb8, "",
    "UPWARDS WHITE ARROW FROM BAR WITH HORIZONTAL BAR,UP ARROWHEAD IN A RECTANGLE BOX,OVERLAPPI" ++
    "NG WHITE SQUARES,OVERLAPPING WHITE AND BLACK SQUARES,OVERLAPPING BLACK SQUARES,BALLOT BOX " ++
    "WITH LIGHT X,CIRCLED X,CIRCLED BOLD X,BLACK SQUARE CENTRED,BLACK DIAMOND CENTRED,TURNED BL" ++
    "ACK PENTAGON,HORIZONTAL BLACK OCTAGON,BLACK OCTAGON,BLACK MEDIUM UP-POINTING TRIANGLE CENT" ++
    "RED,BLACK MEDIUM DOWN-POINTING TRIANGLE CENTRED,BLACK MEDIUM LEFT-POINTING TRIANGLE CENTRE" ++
    "D,BLACK MEDIUM RIGHT-POINTING TRIANGLE CENTRED,NEPTUNE FORM TWO,TOP HALF BLACK CIRCLE,BOTT" ++
    "OM HALF BLACK CIRCLE,LIGHT FOUR POINTED BLACK CUSP,ROTATED LIGHT FOUR POINTED BLACK CUSP,W" ++
    "HITE FOUR POINTED CUSP,ROTATED WHITE FOUR POINTED CUSP,SQUARE POSITION INDICATOR,UNCERTAIN" ++
    "TY SIGN,GROUP MARK,PLUTO FORM TWO,PLUTO FORM THREE,PLUTO FORM FOUR,PLUTO FORM FIVE,TRANSPL" ++
    "UTO,PROSERPINA,ASTRAEA,HYGIEA,PHOLUS,NESSUS,WHITE MOON SELENA,BLACK DIAMOND ON CROSS,TRUE " ++
    "LIGHT MOON ARTA,CUPIDO,HADES,ZEUS,KRONOS,APOLLON,ADMETOS,VULCANUS,POSEIDON,LEFT HALF BLACK" ++
    " STAR,RIGHT HALF BLACK STAR,STAR WITH LEFT HALF BLACK,STAR WITH RIGHT HALF BLACK,LEFTWARDS" ++
    " TWO-HEADED ARROW WITH TRIANGLE ARROWHEADS,UPWARDS TWO-HEADED ARROW WITH TRIANGLE ARROWHEA" ++
    "DS,RIGHTWARDS TWO-HEADED ARROW WITH TRIANGLE ARROWHEADS,DOWNWARDS TWO-HEADED ARROW WITH TR" ++
    "IANGLE ARROWHEADS,ERIS FORM ONE,ERIS FORM TWO,SEDNA"⟩,
  ⟨0x2bf3, "RUSSIAN ASTROLOGICAL SYMBOL ", "VIGINTILE,NOVILE,QUINTILE,BINOVILE,SENTAGON,TREDECILE"⟩,
  ⟨0x2bf9, "",
    "EQUALS SIGN WITH INFINITY BELOW,UNITED SYMBOL,SEPARATED SYMBOL,DOUBLED SYMBOL,PASSED SYMBO" ++
    "L,REVERSED RIGHT ANGLE,HELLSCHREIBER PAUSE SYMBOL"⟩,
  ⟨0x2c00, "GLAGOLITIC CAPITAL LETTER ",
    "AZU,BUKY,VEDE,GLAGOLI,DOBRO,YESTU,ZHIVETE,DZELO,ZEMLJA,IZHE,INITIAL IZHE,I,DJERVI,KAKO,LJU" ++
    "DIJE,MYSLITE,NASHI,ONU,POKOJI,RITSI,SLOVO,TVRIDO,UKU,FRITU,HERU,OTU,PE,SHTA,TSI,CHRIVI,SHA" ++
    ",YERU,YERI,YATI,SPIDERY HA,YU,SMALL YUS,SMALL YUS WITH TAIL,YO,IOTATED SMALL YUS,BIG YUS,I" ++
    "OTATED BIG YUS,FITA,IZHITSA,SHTAPIC,TROKUTASTI A,LATINATE MYSLITE,CAUDATE CHRIVI"⟩,
  ⟨0x2c30, "GLAGOLITIC SMALL LETTER ",
    "AZU,BUKY,VEDE,GLAGOLI,DOBRO,YESTU,ZHIVETE,DZELO,ZEMLJA,IZHE,INITIAL IZHE,I,DJERVI,KAKO,LJU" ++
    "DIJE,MYSLITE,NASHI,ONU,POKOJI,RITSI,SLOVO,TVRIDO,UKU,FRITU,HERU,OTU,PE,SHTA,TSI,CHRIVI,SHA" ++
    ",YERU,YERI,YATI,SPIDERY HA,YU,SMALL YUS,SMALL YUS WITH TAIL,YO,IOTATED SMALL YUS,BIG YUS,I" ++
    "OTATED BIG YUS,FITA,IZHITSA,SHTAPIC,TROKUTASTI A,LATINATE MYSLITE,CAUDATE CHRIVI"⟩,
  ⟨0x2c60, "LATIN ",
    "CAPITAL LETTER L WITH DOUBLE BAR,SMALL LETTER L WITH DOUBLE BAR,CAPITAL LETTER L WITH MIDD" ++
    "LE TILDE,CAPITAL LETTER P WITH STROKE,CAPITAL LETTER R WITH TAIL,SMALL LETTER A WITH STROK" ++
    "E,SMALL LETTER T WITH DIAGONAL STROKE,CAPITAL LETTER H WITH DESCENDER,SMALL LETTER H WITH " ++
    "DESCENDER,CAPITAL LETTER K WITH DESCENDER,SMALL LETTER K WITH DESCENDER,CAPITAL LETTER Z W" ++
    "ITH DESCENDER,SMALL LETTER Z WITH DESCENDER,CAPITAL LETTER ALPHA,CAPITAL LETTER M WITH HOO" ++
    "K,CAPITAL LETTER TURNED A,CAPITAL LETTER TURNED ALPHA,SMALL LETTER V WITH RIGHT HOOK,CAPIT" ++
    "AL LETTER W WITH HOOK,SMALL LETTER W WITH HOOK,SMALL LETTER V WITH CURL,CAPITAL LETTER HAL" ++
    "F H"⟩,
  ⟨0x2c76, "LATIN SMALL LETTER ",
    "HALF H,TAILLESS PHI,E WITH NOTCH,TURNED R WITH TAIL,O WITH LOW RING INSIDE"⟩,
  ⟨0x2c7b, "",
    "LATIN LETTER SMALL CAPITAL TURNED E,LATIN SUBSCRIPT SMALL LETTER J,MODIFIER LETTER CAPITAL" ++
    " V,LATIN CAPITAL LETTER S WITH SWASH TAIL,LATIN CAPITAL LETTER Z WITH SWASH TAIL"⟩,
  ⟨0x2c80, "COPTIC ",
    "CAPITAL LETTER ALFA,SMALL LETTER ALFA,CAPITAL LETTER VIDA,SMALL LETTER VIDA,CAPITAL LETTER" ++
    " GAMMA,SMALL LETTER GAMMA,CAPITAL LETTER DALDA,SMALL LETTER DALDA,CAPITAL LETTER EIE,SMALL" ++
    " LETTER EIE,CAPITAL LETTER SOU,SMALL LETTER SOU,CAPITAL LETTER ZATA,SMALL LETTER ZATA,CAPI" ++
    "TAL LETTER HATE,SMALL LETTER HATE,CAPITAL LETTER THETHE,SMALL LETTER THETHE,CAPITAL LETTER" ++
    " IAUDA,SMALL LETTER IAUDA,CAPITAL LETTER KAPA,SMALL LETTER KAPA,CAPITAL LETTER LAULA,SMALL" ++
    " LETTER LAULA,CAPITAL LETTER MI,SMALL LETTER MI,CAPITAL LETTER NI,SMALL LETTER NI,CAPITAL " ++
    "LETTER KSI,SMALL LETTER KSI,CAPITAL LETTER O,SMALL LETTER O,CAPITAL LETTER PI,SMALL LETTER" ++
    " PI,CAPITAL LETTER RO,SMALL LETTER RO,CAPITAL LETTER SIMA,SMALL LETTER SIMA,CAPITAL LETTER" ++
    " TAU,SMALL LETTER TAU,CAPITAL LETTER UA,SMALL LETTER UA,CAPITAL LETTER FI,SMALL LETTER FI," ++
    "CAPITAL LETTER KHI,SMALL LETTER KHI,CAPITAL LETTER PSI,SMALL LETTER PSI,CAPITAL LETTER OOU" ++
    ",SMALL LETTER OOU,CAPITAL LETTER DIALECT-P ALEF,SMALL LETTER DIALECT-P ALEF,CAPITAL LETTER" ++
    " OLD COPTIC AIN,SMALL LETTER OLD COPTIC AIN,CAPITAL LETTER CRYPTOGRAMMIC EIE,SMALL LETTER " ++
    "CRYPTOGRAMMIC EIE,CAPITAL LETTER DIALECT-P KAPA,SMALL LETTER DIALECT-P KAPA,CAPITAL LETTER" ++
    " DIALECT-P NI,SMALL LETTER DIALECT-P NI,CAPITAL LETTER CRYPTOGRAMMIC NI,SMALL LETTER CRYPT" ++
    "OGRAMMIC NI,CAPITAL LETTER OLD COPTIC OOU,SMALL LETTER OLD COPTIC OOU,CAPITAL LETTER SAMPI" ++
    ",SMALL LETTER SAMPI,CAPITAL LETTER CROSSED SHEI,SMALL LETTER CROSSED SHEI,CAPITAL LETTER O" ++
    "LD COPTIC SHEI,SMALL LETTER OLD COPTIC SHEI,CAPITAL LETTER OLD COPTIC ESH,SMALL LETTER OLD" ++
    " COPTIC ESH,CAPITAL LETTER AKHMIMIC KHEI,SMALL LETTER AKHMIMIC KHEI,CAPITAL LETTER DIALECT" ++
    "-P HORI,SMALL LETTER DIALECT-P HORI,CAPITAL LETTER OLD COPTIC HORI,SMALL LETTER OLD COPTIC" ++
    " HORI,CAPITAL LETTER OLD COPTIC HA,SMALL LETTER OLD COPTIC HA,CAPITAL LETTER L-SHAPED HA,S" ++
    "MALL LETTER L-SHAPED HA,CAPITAL LETTER OLD COPTIC HEI,SMALL LETTER OLD COPTIC HEI,CAPITAL " ++
    "LETTER OLD COPTIC HAT,SMALL LETTER OLD COPTIC HAT,CAPITAL LETTER OLD COPTIC GANGIA,SMALL L" ++
    "ETTER OLD COPTIC GANGIA,CAPITAL LETTER OLD COPTIC DJA,SMALL LETTER OLD COPTIC DJA,CAPITAL " ++
    "LETTER OLD COPTIC SHIMA,SMALL LETTER OLD COPTIC SHIMA,CAPITAL LETTER OLD NUBIAN SHIMA,SMAL" ++
    "L LETTER OLD NUBIAN SHIMA,CAPITAL LETTER OLD NUBIAN NGI,SMALL LETTER OLD NUBIAN NGI,CAPITA" ++
    "L LETTER OLD NUBIAN NYI,SMALL LETTER OLD NUBIAN NYI,CAPITAL LETTER OLD NUBIAN WAU,SMALL LE" ++
    "TTER OLD NUBIAN WAU,SYMBOL KAI,SYMBOL MI RO,SYMBOL PI RO,SYMBOL STAUROS,SYMBOL TAU RO,SYMB" ++
    "OL KHI RO,SYMBOL SHIMA SIMA,CAPITAL LETTER CRYPTOGRAMMIC SHEI,SMALL LETTER CRYPTOGRAMMIC S" ++
    "HEI,CAPITAL LETTER CRYPTOGRAMMIC GANGIA,SMALL LETTER CRYPTOGRAMMIC GANGIA,COMBINING NI ABO" ++
    "VE,COMBINING SPIRITUS ASPER,COMBINING SPIRITUS LENIS,CAPITAL LETTER BOHAIRIC KHEI,SMALL LE" ++
    "TTER BOHAIRIC KHEI,…,…,…,…,…,OLD NUBIAN FULL STOP,OLD NUBIAN DIRECT QUESTION MARK,OLD NUBI" ++
    "AN INDIRECT QUESTION MARK,OLD NUBIAN VERSE DIVIDER,FRACTION ONE HALF,FULL STOP,MORPHOLOGIC" ++
    "AL DIVIDER"⟩,
  ⟨0x2d00, "GEORGIAN SMALL LETTER ",
    "AN,BAN,GAN,DON,EN,VIN,ZEN,TAN,IN,KAN,LAS,MAN,NAR,ON,PAR,ZHAR,RAE,SAN,TAR,UN,PHAR,KHAR,GHAN" ++
    ",QAR,SHIN,CHIN,CAN,JIL,CIL,CHAR,XAN,JHAN,HAE,HE,HIE,WE,HAR,HOE,…,YN,…,…,…,…,…,AEN"⟩,
  ⟨0x2d30, "TIFINAGH LETTER ",
    "YA,YAB,YABH,YAG,YAGHH,BERBER ACADEMY YAJ,YAJ,YAD,YADH,YADD,YADDH,YEY,YAF,YAK,TUAREG YAK,YA" ++
    "KHH,YAH,BERBER ACADEMY YAH,TUAREG YAH,YAHH,YAA,YAKH,TUAREG YAKH,YAQ,TUAREG YAQ,YI,YAZH,AHA" ++
    "GGAR YAZH,TUAREG YAZH,YAL,YAM,YAN,TUAREG YAGN,TUAREG YANG,YAP,YU,YAR,YARR,YAGH,TUAREG YAGH" ++
    ",AYER YAGH,YAS,YASS,YASH,YAT,YATH,YACH,YATT,YAV,YAW,YAY,YAZ,TAWELLEMET YAZ,YAZZ,YE,YO"⟩,
  ⟨0x2d6f, "TIFINAGH ", "MODIFIER LETTER LABIALIZATION MARK,SEPARATOR MARK"⟩,
  ⟨0x2d7f, "TIFINAGH CONSONANT JOINER", ""⟩,
  ⟨0x2d80, "ETHIOPIC SYLLABLE ",
    "LOA,MOA,ROA,SOA,SHOA,BOA,TOA,COA,NOA,NYOA,GLOTTAL OA,ZOA,DOA,DDOA,JOA,THOA,CHOA,PHOA,POA,G" ++
    "GWA,GGWI,GGWEE,GGWE,…,…,…,…,…,…,…,…,…,SSA,SSU,SSI,SSAA,SSEE,SSE,SSO,…,CCA,CCU,CCI,CCAA,CCE" ++
    "E,CCE,CCO,…,ZZA,ZZU,ZZI,ZZAA,ZZEE,ZZE,ZZO,…,CCHA,CCHU,CCHI,CCHAA,CCHEE,CCHE,CCHO,…,QYA,QYU" ++
    ",QYI,QYAA,QYEE,QYE,QYO,…,KYA,KYU,KYI,KYAA,KYEE,KYE,KYO,…,XYA,XYU,XYI,XYAA,XYEE,XYE,XYO,…,G" ++
    "YA,GYU,GYI,GYAA,GYEE,GYE,GYO"⟩,
  ⟨0x2de0, "COMBINING CYRILLIC LETTER ",
    "BE,VE,GHE,DE,ZHE,ZE,KA,EL,EM,EN,O,PE,ER,ES,TE,HA,TSE,CHE,SHA,SHCHA,FITA,ES-TE,A,IE,DJERV,M" ++
    "ONOGRAPH UK,YAT,YU,IOTIFIED A,LITTLE YUS,BIG YUS,IOTIFIED BIG YUS"⟩,
  ⟨0x2e00, "",
    "RIGHT ANGLE SUBSTITUTION MARKER,RIGHT ANGLE DOTTED SUBSTITUTION MARKER,LEFT SUBSTITUTION B" ++
    "RACKET,RIGHT SUBSTITUTION BRACKET,LEFT DOTTED SUBSTITUTION BRACKET,RIGHT DOTTED SUBSTITUTI" ++
    "ON BRACKET,RAISED INTERPOLATION MARKER,RAISED DOTTED INTERPOLATION MARKER,DOTTED TRANSPOSI" ++
    "TION MARKER,LEFT TRANSPOSITION BRACKET,RIGHT TRANSPOSITION BRACKET,RAISED SQUARE,LEFT RAIS" ++
    "ED OMISSION BRACKET,RIGHT RAISED OMISSION BRACKET,EDITORIAL CORONIS,PARAGRAPHOS,FORKED PAR" ++
    "AGRAPHOS,REVERSED FORKED PARAGRAPHOS,HYPODIASTOLE,DOTTED OBELOS,DOWNWARDS ANCORA,UPWARDS A" ++
    "NCORA,DOTTED RIGHT-POINTING ANGLE,DOUBLE OBLIQUE HYPHEN,INVERTED INTERROBANG,PALM BRANCH,H" ++
    "YPHEN WITH DIAERESIS,TILDE WITH RING ABOVE,LEFT LOW PARAPHRASE BRACKET,RIGHT LOW PARAPHRAS" ++
    "E BRACKET,TILDE WITH DOT ABOVE,TILDE WITH DOT BELOW,LEFT VERTICAL BAR WITH QUILL"⟩,
  ⟨0x2e21, "",
    "RIGHT VERTICAL BAR WITH QUILL,TOP LEFT HALF BRACKET,TOP RIGHT HALF BRACKET,BOTTOM LEFT HAL" ++
    "F BRACKET,BOTTOM RIGHT HALF BRACKET,LEFT SIDEWAYS U BRACKET,RIGHT SIDEWAYS U BRACKET,LEFT " ++
    "DOUBLE PARENTHESIS,RIGHT DOUBLE PARENTHESIS,TWO DOTS OVER ONE DOT PUNCTUATION,ONE DOT OVER" ++
    " TWO DOTS PUNCTUATION,SQUARED FOUR DOT PUNCTUATION,FIVE DOT MARK,REVERSED QUESTION MARK,VE" ++
    "RTICAL TILDE,RING POINT,WORD SEPARATOR MIDDLE DOT,TURNED COMMA,RAISED DOT,RAISED COMMA,TUR" ++
    "NED SEMICOLON,DAGGER WITH LEFT GUARD,DAGGER WITH RIGHT GUARD,TURNED DAGGER,TOP HALF SECTIO" ++
    "N SIGN,TWO-EM DASH,THREE-EM DASH,STENOGRAPHIC FULL STOP,VERTICAL SIX DOTS,WIGGLY VERTICAL " ++
    "LINE,CAPITULUM,DOUBLE HYPHEN,REVERSED COMMA,DOUBLE LOW-REVERSED-9 QUOTATION MARK,DASH WITH" ++
    " LEFT UPTURN,DOUBLE SUSPENSION MARK,INVERTED LOW KAVYKA,INVERTED LOW KAVYKA WITH KAVYKA AB" ++
    "OVE,LOW KAVYKA,LOW KAVYKA WITH DOT,DOUBLE STACKED COMMA,DOTTED SOLIDUS,TRIPLE DAGGER,MEDIE" ++
    "VAL COMMA,PARAGRAPHUS MARK,PUNCTUS ELEVATUS MARK,CORNISH VERSE DIVIDER,CROSS PATTY WITH RI" ++
    "GHT CROSSBAR,CROSS PATTY WITH LEFT CROSSBAR,TIRONIAN SIGN CAPITAL ET,MEDIEVAL EXCLAMATION " ++
    "MARK,MEDIEVAL QUESTION MARK,LEFT SQUARE BRACKET WITH STROKE,RIGHT SQUARE BRACKET WITH STRO" ++
    "KE,LEFT SQUARE BRACKET WITH DOUBLE STROKE,RIGHT SQUARE BRACKET WITH DOUBLE STROKE,TOP HALF" ++
    " LEFT PARENTHESIS,TOP HALF RIGHT PARENTHESIS,BOTTOM HALF LEFT PARENTHESIS,BOTTOM HALF RIGH" ++
    "T PARENTHESIS,OBLIQUE HYPHEN"⟩,
  ⟨0x2e80, "CJK RADICAL ",
    "REPEAT,CLIFF,SECOND ONE,SECOND TWO,SECOND THREE,PERSON,BOX,TABLE,KNIFE ONE,KNIFE TWO,DIVIN" ++
    "ATION,SEAL,SMALL ONE,SMALL TWO,LAME ONE,LAME TWO,LAME THREE,LAME FOUR,SNAKE,THREAD,SNOUT O" ++
    "NE,SNOUT TWO,HEART ONE,HEART TWO,HAND,RAP,…,CHOKE,SUN,MOON,DEATH,MOTHER,CIVILIAN,WATER ONE" ++
    ",WATER TWO,FIRE,PAW ONE,PAW TWO,SIMPLIFIED HALF TREE TRUNK,COW,DOG,JADE,BOLT OF CLOTH,EYE," ++
    "SPIRIT ONE,SPIRIT TWO,BAMBOO,SILK,C-SIMPLIFIED SILK,NET ONE,NET TWO,NET THREE,NET FOUR,MES" ++
    "H,SHEEP,RAM,EWE,OLD,BRUSH ONE,BRUSH TWO,MEAT,MORTAR,GRASS ONE,GRASS TWO,GRASS THREE,TIGER," ++
    "CLOTHES,WEST ONE,WEST TWO,C-SIMPLIFIED SEE,SIMPLIFIED HORN,HORN,C-SIMPLIFIED SPEECH,C-SIMP" ++
    "LIFIED SHELL,FOOT,C-SIMPLIFIED CART,SIMPLIFIED WALK,WALK ONE,WALK TWO,CITY,C-SIMPLIFIED GO" ++
    "LD,LONG ONE,LONG TWO,C-SIMPLIFIED LONG,C-SIMPLIFIED GATE,MOUND ONE,MOUND TWO,RAIN,BLUE,C-S" ++
    "IMPLIFIED TANNED LEATHER,C-SIMPLIFIED LEAF,C-SIMPLIFIED WIND,C-SIMPLIFIED FLY,EAT ONE,EAT " ++
    "TWO,EAT THREE,C-SIMPLIFIED EAT,HEAD,C-SIMPLIFIED HORSE,BONE,GHOST,C-SIMPLIFIED FISH,C-SIMP" ++
    "LIFIED BIRD,C-SIMPLIFIED SALT,SIMPLIFIED WHEAT,SIMPLIFIED YELLOW,C-SIMPLIFIED FROG,J-SIMPL" ++
    "IFIED EVEN,C-SIMPLIFIED EVEN,J-SIMPLIFIED TOOTH,C-SIMPLIFIED TOOTH,J-SIMPLIFIED DRAGON,C-S" ++
    "IMPLIFIED DRAGON,TURTLE,J-SIMPLIFIED TURTLE,C-SIMPLIFIED TURTLE"⟩,
  ⟨0x2f00, "KANGXI RADICAL ",
    "ONE,LINE,DOT,SLASH,SECOND,HOOK,TWO,LID,MAN,LEGS,ENTER,EIGHT,DOWN BOX,COVER,ICE,TABLE,OPEN " ++
    "BOX,KNIFE,POWER,WRAP,SPOON,RIGHT OPEN BOX,HIDING ENCLOSURE,TEN,DIVINATION,SEAL,CLIFF,PRIVA" ++
    "TE,AGAIN,MOUTH,ENCLOSURE,EARTH,SCHOLAR,GO,GO SLOWLY,EVENING,BIG,WOMAN,CHILD,ROOF,INCH,SMAL" ++
    "L,LAME,CORPSE,SPROUT,MOUNTAIN,RIVER,WORK,ONESELF,TURBAN,DRY,SHORT THREAD,DOTTED CLIFF,LONG" ++
    " STRIDE,TWO HANDS,SHOOT,BOW,SNOUT,BRISTLE,STEP,HEART,HALBERD,DOOR,HAND,BRANCH,RAP,SCRIPT,D" ++
    "IPPER,AXE,SQUARE,NOT,SUN,SAY,MOON,TREE,LACK,STOP,DEATH,WEAPON,DO NOT,COMPARE,FUR,CLAN,STEA" ++
    "M,WATER,FIRE,CLAW,FATHER,DOUBLE X,HALF TREE TRUNK,SLICE,FANG,COW,DOG,PROFOUND,JADE,MELON,T" ++
    "ILE,SWEET,LIFE,USE,FIELD,BOLT OF CLOTH,SICKNESS,DOTTED TENT,WHITE,SKIN,DISH,EYE,SPEAR,ARRO" ++
    "W,STONE,SPIRIT,TRACK,GRAIN,CAVE,STAND,BAMBOO,RICE,SILK,JAR,NET,SHEEP,FEATHER,OLD,AND,PLOW," ++
    "EAR,BRUSH,MEAT,MINISTER,SELF,ARRIVE,MORTAR,TONGUE,OPPOSE,BOAT,STOPPING,COLOR,GRASS,TIGER,I" ++
    "NSECT,BLOOD,WALK ENCLOSURE,CLOTHES,WEST,SEE,HORN,SPEECH,VALLEY,BEAN,PIG,BADGER,SHELL,RED,R" ++
    "UN,FOOT,BODY,CART,BITTER,MORNING,WALK,CITY,WINE,DISTINGUISH,VILLAGE,GOLD,LONG,GATE,MOUND,S" ++
    "LAVE,SHORT TAILED BIRD,RAIN,BLUE,WRONG,FACE,LEATHER,TANNED LEATHER,LEEK,SOUND,LEAF,WIND,FL" ++
    "Y,EAT,HEAD,FRAGRANT,HORSE,BONE,TALL,HAIR,FIGHT,SACRIFICIAL WINE,CAULDRON,GHOST,FISH,BIRD,S" ++
    "ALT,DEER,WHEAT,HEMP,YELLOW,MILLET,BLACK,EMBROIDERY,FROG,TRIPOD,DRUM,RAT,NOSE,EVEN,TOOTH,DR" ++
    "AGON,TURTLE,FLUTE"⟩,
  ⟨0x2ff0, "IDEOGRAPHIC DESCRIPTION CHARACTER ",
    "LEFT TO RIGHT,ABOVE TO BELOW,LEFT TO MIDDLE AND RIGHT,ABOVE TO MIDDLE AND BELOW,FULL SURRO" ++
    "UND,SURROUND FROM ABOVE,SURROUND FROM BELOW,SURROUND FROM LEFT,SURROUND FROM UPPER LEFT,SU" ++
    "RROUND FROM UPPER RIGHT,SURROUND FROM LOWER LEFT,OVERLAID"⟩]

end Stencil.Text.Name
