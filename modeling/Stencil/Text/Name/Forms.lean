import Stencil.Text.Name.Run

/-! Names of the characters from U+3000 to U+FFFF, among them those of East Asia and forms for
compatibility. -/
namespace Stencil.Text.Name

def forms : List Run := [
  ⟨0x3000, "",
    "IDEOGRAPHIC SPACE,IDEOGRAPHIC COMMA,IDEOGRAPHIC FULL STOP,DITTO MARK,JAPANESE INDUSTRIAL S" ++
    "TANDARD SYMBOL,IDEOGRAPHIC ITERATION MARK,IDEOGRAPHIC CLOSING MARK,IDEOGRAPHIC NUMBER ZERO" ++
    ",LEFT ANGLE BRACKET,RIGHT ANGLE BRACKET,LEFT DOUBLE ANGLE BRACKET,RIGHT DOUBLE ANGLE BRACK" ++
    "ET,LEFT CORNER BRACKET,RIGHT CORNER BRACKET,LEFT WHITE CORNER BRACKET,RIGHT WHITE CORNER B" ++
    "RACKET,LEFT BLACK LENTICULAR BRACKET,RIGHT BLACK LENTICULAR BRACKET,POSTAL MARK,GETA MARK," ++
    "LEFT TORTOISE SHELL BRACKET,RIGHT TORTOISE SHELL BRACKET,LEFT WHITE LENTICULAR BRACKET,RIG" ++
    "HT WHITE LENTICULAR BRACKET,LEFT WHITE TORTOISE SHELL BRACKET,RIGHT WHITE TORTOISE SHELL B" ++
    "RACKET,LEFT WHITE SQUARE BRACKET,RIGHT WHITE SQUARE BRACKET,WAVE DASH,REVERSED DOUBLE PRIM" ++
    "E QUOTATION MARK,DOUBLE PRIME QUOTATION MARK,LOW DOUBLE PRIME QUOTATION MARK,POSTAL MARK F" ++
    "ACE"⟩,
  ⟨0x3021, "HANGZHOU NUMERAL ", "ONE,TWO,THREE,FOUR,FIVE,SIX,SEVEN,EIGHT,NINE"⟩,
  ⟨0x302a, "IDEOGRAPHIC ",
    "LEVEL TONE MARK,RISING TONE MARK,DEPARTING TONE MARK,ENTERING TONE MARK"⟩,
  ⟨0x302e, "", "HANGUL SINGLE DOT TONE MARK,HANGUL DOUBLE DOT TONE MARK,WAVY DASH"⟩,
  ⟨0x3031, "VERTICAL KANA REPEAT ",
    "MARK,WITH VOICED SOUND MARK,MARK UPPER HALF,WITH VOICED SOUND MARK UPPER HALF,MARK LOWER H" ++
    "ALF"⟩,
  ⟨0x3036, "",
    "CIRCLED POSTAL MARK,IDEOGRAPHIC TELEGRAPH LINE FEED SEPARATOR SYMBOL,HANGZHOU NUMERAL TEN," ++
    "HANGZHOU NUMERAL TWENTY,HANGZHOU NUMERAL THIRTY,VERTICAL IDEOGRAPHIC ITERATION MARK,MASU M" ++
    "ARK,PART ALTERNATION MARK,IDEOGRAPHIC VARIATION INDICATOR,IDEOGRAPHIC HALF FILL SPACE"⟩,
  ⟨0x3041, "HIRAGANA LETTER ",
    "SMALL A,A,SMALL I,I,SMALL U,U,SMALL E,E,SMALL O,O,KA,GA,KI,GI,KU,GU,KE,GE,KO,GO,SA,ZA,SI,Z" ++
    "I,SU,ZU,SE,ZE,SO,ZO,TA,DA,TI,DI,SMALL TU,TU,DU,TE,DE,TO,DO,NA,NI,NU,NE,NO,HA,BA,PA,HI,BI,P" ++
    "I,HU,BU,PU,HE,BE,PE,HO,BO,PO,MA,MI,MU,ME,MO,SMALL YA,YA,SMALL YU,YU,SMALL YO,YO,RA,RI,RU,R" ++
    "E,RO,SMALL WA,WA,WI,WE,WO,N,VU,SMALL KA,SMALL KE"⟩,
  ⟨0x3099, "COMBINING KATAKANA-HIRAGANA ", "VOICED SOUND MARK,SEMI-VOICED SOUND MARK"⟩,
  ⟨0x309b, "",
    "KATAKANA-HIRAGANA VOICED SOUND MARK,KATAKANA-HIRAGANA SEMI-VOICED SOUND MARK,HIRAGANA ITER" ++
    "ATION MARK,HIRAGANA VOICED ITERATION MARK,HIRAGANA DIGRAPH YORI,KATAKANA-HIRAGANA DOUBLE H" ++
    "YPHEN"⟩,
  ⟨0x30a1, "KATAKANA LETTER ",
    "SMALL A,A,SMALL I,I,SMALL U,U,SMALL E,E,SMALL O,O,KA,GA,KI,GI,KU,GU,KE,GE,KO,GO,SA,ZA,SI,Z" ++
    "I,SU,ZU,SE,ZE,SO,ZO,TA,DA,TI,DI,SMALL TU,TU,DU,TE,DE,TO,DO,NA,NI,NU,NE,NO,HA,BA,PA,HI,BI,P" ++
    "I,HU,BU,PU,HE,BE,PE,HO,BO,PO,MA,MI,MU,ME,MO,SMALL YA,YA,SMALL YU,YU,SMALL YO,YO,RA,RI,RU,R" ++
    "E,RO,SMALL WA,WA,WI,WE,WO,N,VU,SMALL KA,SMALL KE,VA,VI,VE,VO"⟩,
  ⟨0x30fb, "KATAKANA",
    " MIDDLE DOT,-HIRAGANA PROLONGED SOUND MARK, ITERATION MARK, VOICED ITERATION MARK, DIGRAPH" ++
    " KOTO"⟩,
  ⟨0x3105, "BOPOMOFO LETTER ",
    "B,P,M,F,D,T,N,L,G,K,H,J,Q,X,ZH,CH,SH,R,Z,C,S,A,O,E,EH,AI,EI,AU,OU,AN,EN,ANG,ENG,ER,I,U,IU," ++
    "V,NG,GN,IH,O WITH DOT ABOVE,NN"⟩,
  ⟨0x3131, "HANGUL LETTER ",
    "KIYEOK,SSANGKIYEOK,KIYEOK-SIOS,NIEUN,NIEUN-CIEUC,NIEUN-HIEUH,TIKEUT,SSANGTIKEUT,RIEUL,RIEU" ++
    "L-KIYEOK,RIEUL-MIEUM,RIEUL-PIEUP,RIEUL-SIOS,RIEUL-THIEUTH,RIEUL-PHIEUPH,RIEUL-HIEUH,MIEUM," ++
    "PIEUP,SSANGPIEUP,PIEUP-SIOS,SIOS,SSANGSIOS,IEUNG,CIEUC,SSANGCIEUC,CHIEUCH,KHIEUKH,THIEUTH," ++
    "PHIEUPH,HIEUH,A,AE,YA,YAE,EO,E,YEO,YE,O,WA,WAE,OE,YO,U,WEO,WE,WI,YU,EU,YI,I"⟩,
  ⟨0x3164, "HANGUL FILLER", ""⟩,
  ⟨0x3165, "HANGUL LETTER ",
    "SSANGNIEUN,NIEUN-TIKEUT,NIEUN-SIOS,NIEUN-PANSIOS,RIEUL-KIYEOK-SIOS,RIEUL-TIKEUT,RIEUL-PIEU" ++
    "P-SIOS,RIEUL-PANSIOS,RIEUL-YEORINHIEUH,MIEUM-PIEUP,MIEUM-SIOS,MIEUM-PANSIOS,KAPYEOUNMIEUM," ++
    "PIEUP-KIYEOK,PIEUP-TIKEUT,PIEUP-SIOS-KIYEOK,PIEUP-SIOS-TIKEUT,PIEUP-CIEUC,PIEUP-THIEUTH,KA" ++
    "PYEOUNPIEUP,KAPYEOUNSSANGPIEUP,SIOS-KIYEOK,SIOS-NIEUN,SIOS-TIKEUT,SIOS-PIEUP,SIOS-CIEUC,PA" ++
    "NSIOS,SSANGIEUNG,YESIEUNG,YESIEUNG-SIOS,YESIEUNG-PANSIOS,KAPYEOUNPHIEUPH,SSANGHIEUH,YEORIN" ++
    "HIEUH,YO-YA,YO-YAE,YO-I,YU-YEO,YU-YE,YU-I,ARAEA,ARAEAE"⟩,
  ⟨0x3190, "IDEOGRAPHIC ANNOTATION ",
    "LINKING MARK,REVERSE MARK,ONE MARK,TWO MARK,THREE MARK,FOUR MARK,TOP MARK,MIDDLE MARK,BOTT" ++
    "OM MARK,FIRST MARK,SECOND MARK,THIRD MARK,FOURTH MARK,HEAVEN MARK,EARTH MARK,MAN MARK"⟩,
  ⟨0x31a0, "BOPOMOFO LETTER ",
    "BU,ZI,JI,GU,EE,ENN,OO,ONN,IR,ANN,INN,UNN,IM,NGG,AINN,AUNN,AM,OM,ONG,INNN"⟩,
  ⟨0x31b4, "BOPOMOFO FINAL LETTER ", "P,T,K,H"⟩,
  ⟨0x31b8, "BOPOMOFO ",
    "LETTER GH,LETTER LH,LETTER ZY,FINAL LETTER G,LETTER GW,LETTER KW,LETTER OE,LETTER AH"⟩,
  ⟨0x31c0, "CJK STROKE ",
    "T,WG,XG,BXG,SW,HZZ,HZG,HP,HZWG,SZWG,HZT,HZZP,HPWG,HZW,HZZZ,N,H,S,P,SP,D,HZ,HG,SZ,SWZ,ST,SG" ++
    ",PD,PZ,TN,SZZ,SWG,HXWG,HZZZG,PG,Q"⟩,
  ⟨0x31f0, "KATAKANA LETTER SMALL ", "KU,SI,SU,TO,NU,HA,HI,HU,HE,HO,MU,RA,RI,RU,RE,RO"⟩,
  ⟨0x3200, "PARENTHESIZED HANGUL ",
    "KIYEOK,NIEUN,TIKEUT,RIEUL,MIEUM,PIEUP,SIOS,IEUNG,CIEUC,CHIEUCH,KHIEUKH,THIEUTH,PHIEUPH,HIE" ++
    "UH,KIYEOK A,NIEUN A,TIKEUT A,RIEUL A,MIEUM A,PIEUP A,SIOS A,IEUNG A,CIEUC A,CHIEUCH A,KHIE" ++
    "UKH A,THIEUTH A,PHIEUPH A,HIEUH A,CIEUC U"⟩,
  ⟨0x321d, "PARENTHESIZED KOREAN CHARACTER O", "JEON, HU"⟩,
  ⟨0x3220, "PARENTHESIZED IDEOGRAPH ",
    "ONE,TWO,THREE,FOUR,FIVE,SIX,SEVEN,EIGHT,NINE,TEN,MOON,FIRE,WATER,WOOD,METAL,EARTH,SUN,STOC" ++
    "K,HAVE,SOCIETY,NAME,SPECIAL,FINANCIAL,CONGRATULATION,LABOR,REPRESENT,CALL,STUDY,SUPERVISE," ++
    "ENTERPRISE,RESOURCE,ALLIANCE,FESTIVAL,REST,SELF,REACH"⟩,
  ⟨0x3244, "CIRCLED IDEOGRAPH ", "QUESTION,KINDERGARTEN,SCHOOL,KOTO"⟩,
  ⟨0x3248, "CIRCLED NUMBER ",
    "TEN ON BLACK SQUARE,TWENTY ON BLACK SQUARE,THIRTY ON BLACK SQUARE,FORTY ON BLACK SQUARE,FI" ++
    "FTY ON BLACK SQUARE,SIXTY ON BLACK SQUARE,SEVENTY ON BLACK SQUARE,EIGHTY ON BLACK SQUARE"⟩,
  ⟨0x3250, "PARTNERSHIP SIGN", ""⟩,
  ⟨0x3251, "CIRCLED NUMBER TWENTY ", "ONE,TWO,THREE,FOUR,FIVE,SIX,SEVEN,EIGHT,NINE"⟩,
  ⟨0x325a, "CIRCLED NUMBER THIRTY", ", ONE, TWO, THREE, FOUR, FIVE"⟩,
  ⟨0x3260, "CIRCLED HANGUL ",
    "KIYEOK,NIEUN,TIKEUT,RIEUL,MIEUM,PIEUP,SIOS,IEUNG,CIEUC,CHIEUCH,KHIEUKH,THIEUTH,PHIEUPH,HIE" ++
    "UH,KIYEOK A,NIEUN A,TIKEUT A,RIEUL A,MIEUM A,PIEUP A,SIOS A,IEUNG A,CIEUC A,CHIEUCH A,KHIE" ++
    "UKH A,THIEUTH A,PHIEUPH A,HIEUH A"⟩,
  ⟨0x327c, "CIRCLED KOREAN CHARACTER ", "CHAMKO,JUEUI"⟩,
  ⟨0x327e, "", "CIRCLED HANGUL IEUNG U,KOREAN STANDARD SYMBOL"⟩,
  ⟨0x3280, "CIRCLED IDEOGRAPH ",
    "ONE,TWO,THREE,FOUR,FIVE,SIX,SEVEN,EIGHT,NINE,TEN,MOON,FIRE,WATER,WOOD,METAL,EARTH,SUN,STOC" ++
    "K,HAVE,SOCIETY,NAME,SPECIAL,FINANCIAL,CONGRATULATION,LABOR,SECRET,MALE,FEMALE,SUITABLE,EXC" ++
    "ELLENT,PRINT,ATTENTION,ITEM,REST,COPY,CORRECT,HIGH,CENTRE,LOW,LEFT,RIGHT,MEDICINE,RELIGION" ++
    ",STUDY,SUPERVISE,ENTERPRISE,RESOURCE,ALLIANCE,NIGHT"⟩,
  ⟨0x32b1, "CIRCLED NUMBER ",
    "THIRTY SIX,THIRTY SEVEN,THIRTY EIGHT,THIRTY NINE,FORTY,FORTY ONE,FORTY TWO,FORTY THREE,FOR" ++
    "TY FOUR,FORTY FIVE,FORTY SIX,FORTY SEVEN,FORTY EIGHT,FORTY NINE,FIFTY"⟩,
  ⟨0x32c0, "IDEOGRAPHIC TELEGRAPH SYMBOL FOR ",
    "JANUARY,FEBRUARY,MARCH,APRIL,MAY,JUNE,JULY,AUGUST,SEPTEMBER,OCTOBER,NOVEMBER,DECEMBER"⟩,
  ⟨0x32cc, "", "SQUARE HG,SQUARE ERG,SQUARE EV,LIMITED LIABILITY SIGN"⟩,
  ⟨0x32d0, "CIRCLED KATAKANA ",
    "A,I,U,E,O,KA,KI,KU,KE,KO,SA,SI,SU,SE,SO,TA,TI,TU,TE,TO,NA,NI,NU,NE,NO,HA,HI,HU,HE,HO,MA,MI" ++
    ",MU,ME,MO,YA,YU,YO,RA,RI,RU,RE,RO,WA,WI,WE,WO"⟩,
  ⟨0x32ff, "SQUARE ",
    "ERA NAME REIWA,APAATO,ARUHUA,ANPEA,AARU,ININGU,INTI,UON,ESUKUUDO,EEKAA,ONSU,OOMU,KAIRI,KAR" ++
    "ATTO,KARORII,GARON,GANMA,GIGA,GINII,KYURII,GIRUDAA,KIRO,KIROGURAMU,KIROMEETORU,KIROWATTO,G" ++
    "URAMU,GURAMUTON,KURUZEIRO,KUROONE,KEESU,KORUNA,KOOPO,SAIKURU,SANTIIMU,SIRINGU,SENTI,SENTO," ++
    "DAASU,DESI,DORU,TON,NANO,NOTTO,HAITU,PAASENTO,PAATU,BAARERU,PIASUTORU,PIKURU,PIKO,BIRU,HUA" ++
    "RADDO,HUIITO,BUSSYERU,HURAN,HEKUTAARU,PESO,PENIHI,HERUTU,PENSU,PEEZI,BEETA,POINTO,BORUTO,H" ++
    "ON,PONDO,HOORU,HOON,MAIKURO,MAIRU,MAHHA,MARUKU,MANSYON,MIKURON,MIRI,MIRIBAARU,MEGA,MEGATON" ++
    ",MEETORU,YAADO,YAARU,YUAN,RITTORU,RIRA,RUPII,RUUBURU,REMU,RENTOGEN,WATTO"⟩,
  ⟨0x3358, "IDEOGRAPHIC TELEGRAPH SYMBOL FOR HOUR ",
    "ZERO,ONE,TWO,THREE,FOUR,FIVE,SIX,SEVEN,EIGHT,NINE,TEN,ELEVEN,TWELVE,THIRTEEN,FOURTEEN,FIFT" ++
    "EEN,SIXTEEN,SEVENTEEN,EIGHTEEN,NINETEEN,TWENTY,TWENTY-ONE,TWENTY-TWO,TWENTY-THREE,TWENTY-F" ++
    "OUR"⟩,
  ⟨0x3371, "SQUARE ",
    "HPA,DA,AU,BAR,OV,PC,DM,DM SQUARED,DM CUBED,IU,ERA NAME HEISEI,ERA NAME SYOUWA,ERA NAME TAI" ++
    "SYOU,ERA NAME MEIZI,CORPORATION,PA AMPS,NA,MU A,MA,KA,KB,MB,GB,CAL,KCAL,PF,NF,MU F,MU G,MG" ++
    ",KG,HZ,KHZ,MHZ,GHZ,THZ,MU L,ML,DL,KL,FM,NM,MU M,MM,CM,KM,MM SQUARED,CM SQUARED,M SQUARED,K" ++
    "M SQUARED,MM CUBED,CM CUBED,M CUBED,KM CUBED,M OVER S,M OVER S SQUARED,PA,KPA,MPA,GPA,RAD," ++
    "RAD OVER S,RAD OVER S SQUARED,PS,NS,MU S,MS,PV,NV,MU V,MV,KV,MV MEGA,PW,NW,MU W,MW,KW,MW M" ++
    "EGA,K OHM,M OHM,AM,BQ,CC,CD,C OVER KG,CO,DB,GY,HA,HP,IN,KK,KM CAPITAL,KT,LM,LN,LOG,LX,MB S" ++
    "MALL,MIL,MOL,PH,PM,PPM,PR,SR,SV,WB,V OVER M,A OVER M"⟩,
  ⟨0x33e0, "IDEOGRAPHIC TELEGRAPH SYMBOL FOR DAY ",
    "ONE,TWO,THREE,FOUR,FIVE,SIX,SEVEN,EIGHT,NINE,TEN,ELEVEN,TWELVE,THIRTEEN,FOURTEEN,FIFTEEN,S" ++
    "IXTEEN,SEVENTEEN,EIGHTEEN,NINETEEN,TWENTY,TWENTY-ONE,TWENTY-TWO,TWENTY-THREE,TWENTY-FOUR,T" ++
    "WENTY-FIVE,TWENTY-SIX,TWENTY-SEVEN,TWENTY-EIGHT,TWENTY-NINE,THIRTY,THIRTY-ONE"⟩,
  ⟨0x33ff, "SQUARE GAL", ""⟩,
  ⟨0x4dc0, "HEXAGRAM FOR ",
    "THE CREATIVE HEAVEN,THE RECEPTIVE EARTH,DIFFICULTY AT THE BEGINNING,YOUTHFUL FOLLY,WAITING" ++
    ",CONFLICT,THE ARMY,HOLDING TOGETHER,SMALL TAMING,TREADING,PEACE,STANDSTILL,FELLOWSHIP,GREA" ++
    "T POSSESSION,MODESTY,ENTHUSIASM,FOLLOWING,WORK ON THE DECAYED,APPROACH,CONTEMPLATION,BITIN" ++
    "G THROUGH,GRACE,SPLITTING APART,RETURN,INNOCENCE,GREAT TAMING,MOUTH CORNERS,GREAT PREPONDE" ++
    "RANCE,THE ABYSMAL WATER,THE CLINGING FIRE,INFLUENCE,DURATION,RETREAT,GREAT POWER,PROGRESS," ++
    "DARKENING OF THE LIGHT,THE FAMILY,OPPOSITION,OBSTRUCTION,DELIVERANCE,DECREASE,INCREASE,BRE" ++
    "AKTHROUGH,COMING TO MEET,GATHERING TOGETHER,PUSHING UPWARD,OPPRESSION,THE WELL,REVOLUTION," ++
    "THE CAULDRON,THE AROUSING THUNDER,THE KEEPING STILL MOUNTAIN,DEVELOPMENT,THE MARRYING MAID" ++
    "EN,ABUNDANCE,THE WANDERER,THE GENTLE WIND,THE JOYOUS LAKE,DISPERSION,LIMITATION,INNER TRUT" ++
    "H,SMALL PREPONDERANCE,AFTER COMPLETION,BEFORE COMPLETION"⟩,
  ⟨0xa000, "YI SYLLABLE ",
    "IT,IX,I,IP,IET,IEX,IE,IEP,AT,AX,A,AP,UOX,UO,UOP,OT,OX,O,OP,EX,E,WU,BIT,BIX,BI,BIP,BIET,BIE" ++
    "X,BIE,BIEP,BAT,BAX,BA,BAP,BUOX,BUO,BUOP,BOT,BOX,BO,BOP,BEX,BE,BEP,BUT,BUX,BU,BUP,BURX,BUR," ++
    "BYT,BYX,BY,BYP,BYRX,BYR,PIT,PIX,PI,PIP,PIEX,PIE,PIEP,PAT,PAX,PA,PAP,PUOX,PUO,PUOP,POT,POX," ++
    "PO,POP,PUT,PUX,PU,PUP,PURX,PUR,PYT,PYX,PY,PYP,PYRX,PYR"⟩,
  ⟨0xa056, "YI SYLLABLE BB",
    "IT,IX,I,IP,IET,IEX,IE,IEP,AT,AX,A,AP,UOX,UO,UOP,OT,OX,O,OP,EX,E,EP,UT,UX,U,UP,URX,UR,YT,YX" ++
    ",Y,YP"⟩,
  ⟨0xa076, "YI SYLLABLE NB",
    "IT,IX,I,IP,IEX,IE,IEP,AT,AX,A,AP,OT,OX,O,OP,UT,UX,U,UP,URX,UR,YT,YX,Y,YP,YRX,YR"⟩,
  ⟨0xa091, "YI SYLLABLE HM",
    "IT,IX,I,IP,IEX,IE,IEP,AT,AX,A,AP,UOX,UO,UOP,OT,OX,O,OP,UT,UX,U,UP,URX,UR,YX,Y,YP,YRX,YR"⟩,
  ⟨0xa0ae, "YI SYLLABLE ",
    "MIT,MIX,MI,MIP,MIEX,MIE,MIEP,MAT,MAX,MA,MAP,MUOT,MUOX,MUO,MUOP,MOT,MOX,MO,MOP,MEX,ME,MUT,M" ++
    "UX,MU,MUP,MURX,MUR,MYT,MYX,MY,MYP,FIT,FIX,FI,FIP,FAT,FAX,FA,FAP,FOX,FO,FOP,FUT,FUX,FU,FUP," ++
    "FURX,FUR,FYT,FYX,FY,FYP,VIT,VIX,VI,VIP,VIET,VIEX,VIE,VIEP,VAT,VAX,VA,VAP,VOT,VOX,VO,VOP,VE" ++
    "X,VEP,VUT,VUX,VU,VUP,VURX,VUR,VYT,VYX,VY,VYP,VYRX,VYR,DIT,DIX,DI,DIP,DIEX,DIE,DIEP,DAT,DAX" ++
    ",DA,DAP,DUOX,DUO,DOT,DOX,DO,DOP,DEX,DE,DEP,DUT,DUX,DU,DUP,DURX,DUR,TIT,TIX,TI,TIP,TIEX,TIE" ++
    ",TIEP,TAT,TAX,TA,TAP,TUOT,TUOX,TUO,TUOP,TOT,TOX,TO,TOP,TEX,TE,TEP,TUT,TUX,TU,TUP,TURX,TUR"⟩,
  ⟨0xa136, "YI SYLLABLE DD",
    "IT,IX,I,IP,IEX,IE,IEP,AT,AX,A,AP,UOX,UO,UOP,OT,OX,O,OP,EX,E,EP,UT,UX,U,UP,URX,UR"⟩,
  ⟨0xa151, "YI SYLLABLE ND", "IT,IX,I,IP,IEX,IE,AT,AX,A,AP,OT,OX,O,OP,EX,E,EP,UT,UX,U,UP,URX,UR"⟩,
  ⟨0xa168, "YI SYLLABLE HN", "IT,IX,I,IP,IET,IEX,IE,IEP,AT,AX,A,AP,UOX,UO,OT,OX,OP,EX,E,EP,UT"⟩,
  ⟨0xa17d, "YI SYLLABLE N",
    "IT,IX,I,IP,IEX,IE,IEP,AX,A,AP,UOX,UO,UOP,OT,OX,O,OP,EX,E,EP,UT,UX,U,UP,URX,UR"⟩,
  ⟨0xa197, "YI SYLLABLE HL",
    "IT,IX,I,IP,IEX,IE,IEP,AT,AX,A,AP,UOX,UO,UOP,OX,O,OP,EX,E,EP,UT,UX,U,UP,URX,UR,YT,YX,Y,YP,Y" ++
    "RX,YR"⟩,
  ⟨0xa1b7, "YI SYLLABLE L",
    "IT,IX,I,IP,IET,IEX,IE,IEP,AT,AX,A,AP,UOT,UOX,UO,UOP,OT,OX,O,OP,EX,E,EP,UT,UX,U,UP,URX,UR,Y" ++
    "T,YX,Y,YP,YRX,YR"⟩,
  ⟨0xa1da, "YI SYLLABLE G",
    "IT,IX,I,IP,IET,IEX,IE,IEP,AT,AX,A,AP,UOT,UOX,UO,UOP,OT,OX,O,OP,ET,EX,E,EP,UT,UX,U,UP,URX,U" ++
    "R"⟩,
  ⟨0xa1f8, "YI SYLLABLE K",
    "IT,IX,I,IP,IEX,IE,IEP,AT,AX,A,AP,UOX,UO,UOP,OT,OX,O,OP,ET,EX,E,EP,UT,UX,U,UP,URX,UR"⟩,
  ⟨0xa214, "YI SYLLABLE GG",
    "IT,IX,I,IEX,IE,IEP,AT,AX,A,AP,UOT,UOX,UO,UOP,OT,OX,O,OP,ET,EX,E,EP,UT,UX,U,UP,URX,UR"⟩,
  ⟨0xa230, "YI SYLLABLE MG", "IEX,IE,AT,AX,A,AP,UOX,UO,UOP,OT,OX,O,OP,EX,E,EP,UT,UX,U,UP,URX,UR"⟩,
  ⟨0xa246, "YI SYLLABLE HX",
    "IT,IX,I,IP,IET,IEX,IE,IEP,AT,AX,A,AP,UOT,UOX,UO,UOP,OT,OX,O,OP,EX,E,EP"⟩,
  ⟨0xa25d, "YI SYLLABLE ",
    "NGIEX,NGIE,NGIEP,NGAT,NGAX,NGA,NGAP,NGUOT,NGUOX,NGUO,NGOT,NGOX,NGO,NGOP,NGEX,NGE,NGEP,HIT," ++
    "HIEX,HIE,HAT,HAX,HA,HAP,HUOT,HUOX,HUO,HUOP,HOT,HOX,HO,HOP,HEX,HE,HEP,WAT,WAX,WA,WAP,WUOX,W" ++
    "UO,WUOP,WOX,WO,WOP,WEX,WE,WEP,ZIT,ZIX,ZI,ZIP,ZIEX,ZIE,ZIEP,ZAT,ZAX,ZA,ZAP,ZUOX,ZUO,ZUOP,ZO" ++
    "T,ZOX,ZO,ZOP,ZEX,ZE,ZEP,ZUT,ZUX,ZU,ZUP,ZURX,ZUR,ZYT,ZYX,ZY,ZYP,ZYRX,ZYR,CIT,CIX,CI,CIP,CIE" ++
    "T,CIEX,CIE,CIEP,CAT,CAX,CA,CAP,CUOX,CUO,CUOP,COT,COX,CO,COP,CEX,CE,CEP,CUT,CUX,CU,CUP,CURX" ++
    ",CUR,CYT,CYX,CY,CYP,CYRX,CYR"⟩,
  ⟨0xa2d0, "YI SYLLABLE ZZ",
    "IT,IX,I,IP,IET,IEX,IE,IEP,AT,AX,A,AP,OX,O,OP,EX,E,EP,UX,U,UP,URX,UR,YT,YX,Y,YP,YRX,YR"⟩,
  ⟨0xa2ed, "YI SYLLABLE NZ",
    "IT,IX,I,IP,IEX,IE,IEP,AT,AX,A,AP,UOX,UO,OX,OP,EX,E,UX,U,UP,URX,UR,YT,YX,Y,YP,YRX,YR"⟩,
  ⟨0xa309, "YI SYLLABLE S",
    "IT,IX,I,IP,IEX,IE,IEP,AT,AX,A,AP,UOX,UO,UOP,OT,OX,O,OP,EX,E,EP,UT,UX,U,UP,URX,UR,YT,YX,Y,Y" ++
    "P,YRX,YR,SIT,SIX,SI,SIP,SIEX,SIE,SIEP,SAT,SAX,SA,SAP,SOT,SOX,SO,SOP,SEX,SE,SEP,SUT,SUX,SU," ++
    "SUP,SYT,SYX,SY,SYP,SYRX,SYR"⟩,
  ⟨0xa346, "YI SYLLABLE ZH",
    "AT,AX,A,AP,UOX,UO,UOP,OT,OX,O,OP,ET,EX,E,EP,UT,UX,U,UP,URX,UR,YT,YX,Y,YP,YRX,YR"⟩,
  ⟨0xa361, "YI SYLLABLE CH",
    "AT,AX,A,AP,UOT,UOX,UO,UOP,OT,OX,O,OP,ET,EX,E,EP,UX,U,UP,URX,UR,YT,YX,Y,YP,YRX,YR"⟩,
  ⟨0xa37c, "YI SYLLABLE RR",
    "AX,A,UOX,UO,OT,OX,O,OP,ET,EX,E,EP,UT,UX,U,UP,URX,UR,YT,YX,Y,YP,YRX,YR"⟩,
  ⟨0xa394, "YI SYLLABLE NR", "AT,AX,A,AP,OX,O,OP,ET,EX,E,EP,UT,UX,U,UP,URX,UR,YT,YX,Y,YP,YRX,YR"⟩,
  ⟨0xa3ab, "YI SYLLABLE SH",
    "AT,AX,A,AP,UOX,UO,UOP,OT,OX,O,OP,ET,EX,E,EP,UT,UX,U,UP,URX,UR,YT,YX,Y,YP,YRX,YR"⟩,
  ⟨0xa3c6, "YI SYLLABLE R",
    "AT,AX,A,AP,UOX,UO,UOP,OT,OX,O,OP,EX,E,EP,UT,UX,U,UP,URX,UR,YT,YX,Y,YP,YRX,YR"⟩,
  ⟨0xa3e0, "YI SYLLABLE J",
    "IT,IX,I,IP,IET,IEX,IE,IEP,UOT,UOX,UO,UOP,OT,OX,O,OP,UT,UX,U,UP,URX,UR,YT,YX,Y,YP,YRX,YR"⟩,
  ⟨0xa3fc, "YI SYLLABLE Q",
    "IT,IX,I,IP,IET,IEX,IE,IEP,UOT,UOX,UO,UOP,OT,OX,O,OP,UT,UX,U,UP,URX,UR,YT,YX,Y,YP,YRX,YR"⟩,
  ⟨0xa418, "YI SYLLABLE JJ",
    "IT,IX,I,IP,IET,IEX,IE,IEP,UOX,UO,UOP,OT,OX,O,OP,UT,UX,U,UP,URX,UR,YT,YX,Y,YP"⟩,
  ⟨0xa431, "YI SYLLABLE NJ",
    "IT,IX,I,IP,IET,IEX,IE,IEP,UOX,UO,OT,OX,O,OP,UX,U,UP,URX,UR,YT,YX,Y,YP,YRX,YR"⟩,
  ⟨0xa44a, "YI SYLLABLE NY", "IT,IX,I,IP,IET,IEX,IE,IEP,UOX,UO,UOP,OT,OX,O,OP,UT,UX,U,UP"⟩,
  ⟨0xa45d, "YI SYLLABLE X", "IT,IX,I,IP,IET,IEX,IE,IEP,UOX,UO,OT,OX,O,OP,YT,YX,Y,YP,YRX,YR"⟩,
  ⟨0xa471, "YI SYLLABLE Y",
    "IT,IX,I,IP,IET,IEX,IE,IEP,UOT,UOX,UO,UOP,OT,OX,O,OP,UT,UX,U,UP,URX,UR,YT,YX,Y,YP,YRX,YR"⟩,
  ⟨0xa490, "YI RADICAL ",
    "QOT,LI,KIT,NYIP,CYP,SSI,GGOP,GEP,MI,HXIT,LYR,BBUT,MOP,YO,PUT,HXUO,TAT,GA,ZUP,CYT,DDUR,BUR," ++
    "GGUO,NYOP,TU,OP,JJUT,ZOT,PYT,HMO,YIT,VUR,SHY,VEP,ZA,JO,NZUP,JJY,GOT,JJIE,WO,DU,SHUR,LIE,CY" ++
    ",CUOP,CIP,HXOP,SHAT,ZUR,SHOP,CHE,ZZIET,NBIE,KE"⟩,
  ⟨0xa4d0, "LISU LETTER ",
    "BA,PA,PHA,DA,TA,THA,GA,KA,KHA,JA,CA,CHA,DZA,TSA,TSHA,MA,NA,LA,SA,ZHA,ZA,NGA,HA,XA,HHA,FA,W" ++
    "A,SHA,YA,GHA,A,AE,E,EU,I,O,U,UE,UH,OE,TONE MYA TI,TONE NA PO,TONE MYA CYA,TONE MYA BO,TONE" ++
    " MYA NA,TONE MYA JEU"⟩,
  ⟨0xa4fe, "LISU PUNCTUATION ", "COMMA,FULL STOP"⟩,
  ⟨0xa500, "VAI SYLLABLE ",
    "EE,EEN,HEE,WEE,WEEN,PEE,BHEE,BEE,MBEE,KPEE,MGBEE,GBEE,FEE,VEE,TEE,THEE,DHEE,DHHEE,LEE,REE," ++
    "DEE,NDEE,SEE,SHEE,ZEE,ZHEE,CEE,JEE,NJEE,YEE,KEE,NGGEE,GEE,MEE,NEE,NYEE,I,IN,HI,HIN,WI,WIN," ++
    "PI,BHI,BI,MBI,KPI,MGBI,GBI,FI,VI,TI,THI,DHI,DHHI,LI,RI,DI,NDI,SI,SHI,ZI,ZHI,CI,JI,NJI,YI,K" ++
    "I,NGGI,GI,MI,NI,NYI,A,AN,NGAN,HA,HAN,WA,WAN,PA,BHA,BA,MBA,KPA,KPAN,MGBA,GBA,FA,VA,TA,THA,D" ++
    "HA,DHHA,LA,RA,DA,NDA,SA,SHA,ZA,ZHA,CA,JA,NJA,YA,KA,KAN,NGGA,GA,MA,NA,NYA,OO,OON,HOO,WOO,WO" ++
    "ON,POO,BHOO,BOO,MBOO,KPOO,MGBOO,GBOO,FOO,VOO,TOO,THOO,DHOO,DHHOO,LOO,ROO,DOO,NDOO,SOO,SHOO" ++
    ",ZOO,ZHOO,COO,JOO,NJOO,YOO,KOO,NGGOO,GOO,MOO,NOO,NYOO,U,UN,HU,HUN,WU,WUN,PU,BHU,BU,MBU,KPU" ++
    ",MGBU,GBU,FU,VU,TU,THU,DHU,DHHU,LU,RU,DU,NDU,SU,SHU,ZU,ZHU,CU,JU,NJU,YU,KU,NGGU,GU,MU,NU,N" ++
    "YU,O,ON,NGON,HO,HON,WO,WON,PO,BHO,BO,MBO,KPO,MGBO,GBO,GBON,FO,VO,TO,THO,DHO,DHHO,LO,RO,DO," ++
    "NDO,SO,SHO,ZO,ZHO,CO,JO,NJO,YO,KO,NGGO,GO,MO,NO,NYO,E,EN,NGEN,HE,HEN,WE,WEN,PE,BHE,BE,MBE," ++
    "KPE,KPEN,MGBE,GBE,GBEN,FE,VE,TE,THE,DHE,DHHE,LE,RE,DE,NDE,SE,SHE,ZE,ZHE,CE,JE,NJE,YE,KE,NG" ++
    "GE,NGGEN,GE,GEN,ME,NE,NYE,NG,LENGTHENER"⟩,
  ⟨0xa60d, "VAI ", "COMMA,FULL STOP,QUESTION MARK"⟩,
  ⟨0xa610, "VAI SYLLABLE NDOLE ", "FA,KA,SOO"⟩,
  ⟨0xa613, "VAI SYMBOL ", "FEENG,KEENG,TING,NII,BANG,FAA,TAA,DANG,DOONG,KUNG,TONG,DO-O,JONG"⟩,
  ⟨0xa620, "VAI DIGIT ", "ZERO,ONE,TWO,THREE,FOUR,FIVE,SIX,SEVEN,EIGHT,NINE"⟩,
  ⟨0xa62a, "VAI SYLLABLE NDOLE ", "MA,DO"⟩,
  ⟨0xa640, "CYRILLIC ",
    "CAPITAL LETTER ZEMLYA,SMALL LETTER ZEMLYA,CAPITAL LETTER DZELO,SMALL LETTER DZELO,CAPITAL " ++
    "LETTER REVERSED DZE,SMALL LETTER REVERSED DZE,CAPITAL LETTER IOTA,SMALL LETTER IOTA,CAPITA" ++
    "L LETTER DJERV,SMALL LETTER DJERV,CAPITAL LETTER MONOGRAPH UK,SMALL LETTER MONOGRAPH UK,CA" ++
    "PITAL LETTER BROAD OMEGA,SMALL LETTER BROAD OMEGA,CAPITAL LETTER NEUTRAL YER,SMALL LETTER " ++
    "NEUTRAL YER,CAPITAL LETTER YERU WITH BACK YER,SMALL LETTER YERU WITH BACK YER,CAPITAL LETT" ++
    "ER IOTIFIED YAT,SMALL LETTER IOTIFIED YAT,CAPITAL LETTER REVERSED YU,SMALL LETTER REVERSED" ++
    " YU,CAPITAL LETTER IOTIFIED A,SMALL LETTER IOTIFIED A,CAPITAL LETTER CLOSED LITTLE YUS,SMA" ++
    "LL LETTER CLOSED LITTLE YUS,CAPITAL LETTER BLENDED YUS,SMALL LETTER BLENDED YUS,CAPITAL LE" ++
    "TTER IOTIFIED CLOSED LITTLE YUS,SMALL LETTER IOTIFIED CLOSED LITTLE YUS,CAPITAL LETTER YN," ++
    "SMALL LETTER YN,CAPITAL LETTER REVERSED TSE,SMALL LETTER REVERSED TSE,CAPITAL LETTER SOFT " ++
    "DE,SMALL LETTER SOFT DE,CAPITAL LETTER SOFT EL,SMALL LETTER SOFT EL,CAPITAL LETTER SOFT EM" ++
    ",SMALL LETTER SOFT EM,CAPITAL LETTER MONOCULAR O,SMALL LETTER MONOCULAR O,CAPITAL LETTER B" ++
    "INOCULAR O,SMALL LETTER BINOCULAR O,CAPITAL LETTER DOUBLE MONOCULAR O,SMALL LETTER DOUBLE " ++
    "MONOCULAR O,LETTER MULTIOCULAR O"⟩,
  ⟨0xa66f, "COMBINING CYRILLIC ",
    "VZMET,TEN MILLIONS SIGN,HUNDRED MILLIONS SIGN,THOUSAND MILLIONS SIGN"⟩,
  ⟨0xa673, "SLAVONIC ASTERISK", ""⟩,
  ⟨0xa674, "COMBINING CYRILLIC LETTER ", "UKRAINIAN IE,I,YI,U,HARD SIGN,YERU,SOFT SIGN,OMEGA"⟩,
  ⟨0xa67c, "COMBINING CYRILLIC ", "KAVYKA,PAYEROK"⟩,
  ⟨0xa67e, "CYRILLIC ",
    "KAVYKA,PAYEROK,CAPITAL LETTER DWE,SMALL LETTER DWE,CAPITAL LETTER DZWE,SMALL LETTER DZWE,C" ++
    "APITAL LETTER ZHWE,SMALL LETTER ZHWE,CAPITAL LETTER CCHE,SMALL LETTER CCHE,CAPITAL LETTER " ++
    "DZZE,SMALL LETTER DZZE,CAPITAL LETTER TE WITH MIDDLE HOOK,SMALL LETTER TE WITH MIDDLE HOOK" ++
    ",CAPITAL LETTER TWE,SMALL LETTER TWE,CAPITAL LETTER TSWE,SMALL LETTER TSWE,CAPITAL LETTER " ++
    "TSSE,SMALL LETTER TSSE,CAPITAL LETTER TCHE,SMALL LETTER TCHE,CAPITAL LETTER HWE,SMALL LETT" ++
    "ER HWE,CAPITAL LETTER SHWE,SMALL LETTER SHWE,CAPITAL LETTER DOUBLE O,SMALL LETTER DOUBLE O" ++
    ",CAPITAL LETTER CROSSED O,SMALL LETTER CROSSED O"⟩,
  ⟨0xa69c, "MODIFIER LETTER CYRILLIC ", "HARD SIGN,SOFT SIGN"⟩,
  ⟨0xa69e, "COMBINING CYRILLIC LETTER ", "EF,IOTIFIED E"⟩,
  ⟨0xa6a0, "BAMUM LETTER ",
    "A,KA,U,KU,EE,REE,TAE,O,NYI,I,LA,PA,RII,RIEE,LEEEE,MEEEE,TAA,NDAA,NJAEM,M,SUU,MU,SHII,SI,SH" ++
    "EUX,SEUX,KYEE,KET,NUAE,NU,NJUAE,YOQ,SHU,YUQ,YA,NSHA,KEUX,PEUX,NJEE,NTEE,PUE,WUE,PEE,FEE,RU" ++
    ",LU,MI,NI,REUX,RAE,KEN,NGKWAEN,NGGA,NGA,SHO,PUAE,FU,FOM,WA,NA,LI,PI,LOQ,KO,MBEN,REN,MEN,MA" ++
    ",TI,KI,MO,MBAA,TET,KPA,TEN,NTUU,SAMBA,FAAMAE,KOVUU,KOGHOM"⟩,
  ⟨0xa6f0, "BAMUM ",
    "COMBINING MARK KOQNDON,COMBINING MARK TUKWENTIS,NJAEMLI,FULL STOP,COLON,COMMA,SEMICOLON,QU" ++
    "ESTION MARK"⟩,
  ⟨0xa700, "MODIFIER LETTER CHINESE TONE Y",
    "IN PING,ANG PING,IN SHANG,ANG SHANG,IN QU,ANG QU,IN RU,ANG RU"⟩,
  ⟨0xa708, "MODIFIER LETTER ",
    "EXTRA-HIGH DOTTED TONE BAR,HIGH DOTTED TONE BAR,MID DOTTED TONE BAR,LOW DOTTED TONE BAR,EX" ++
    "TRA-LOW DOTTED TONE BAR,EXTRA-HIGH DOTTED LEFT-STEM TONE BAR,HIGH DOTTED LEFT-STEM TONE BA" ++
    "R,MID DOTTED LEFT-STEM TONE BAR,LOW DOTTED LEFT-STEM TONE BAR,EXTRA-LOW DOTTED LEFT-STEM T" ++
    "ONE BAR,EXTRA-HIGH LEFT-STEM TONE BAR,HIGH LEFT-STEM TONE BAR,MID LEFT-STEM TONE BAR,LOW L" ++
    "EFT-STEM TONE BAR,EXTRA-LOW LEFT-STEM TONE BAR,DOT VERTICAL BAR,DOT SLASH,DOT HORIZONTAL B" ++
    "AR,LOWER RIGHT CORNER ANGLE,RAISED UP ARROW,RAISED DOWN ARROW,RAISED EXCLAMATION MARK,RAIS" ++
    "ED INVERTED EXCLAMATION MARK,LOW INVERTED EXCLAMATION MARK,STRESS AND HIGH TONE,STRESS AND" ++
    " LOW TONE"⟩,
  ⟨0xa722, "LATIN ",
    "CAPITAL LETTER EGYPTOLOGICAL ALEF,SMALL LETTER EGYPTOLOGICAL ALEF,CAPITAL LETTER EGYPTOLOG" ++
    "ICAL AIN,SMALL LETTER EGYPTOLOGICAL AIN,CAPITAL LETTER HENG,SMALL LETTER HENG,CAPITAL LETT" ++
    "ER TZ,SMALL LETTER TZ,CAPITAL LETTER TRESILLO,SMALL LETTER TRESILLO,CAPITAL LETTER CUATRIL" ++
    "LO,SMALL LETTER CUATRILLO,CAPITAL LETTER CUATRILLO WITH COMMA,SMALL LETTER CUATRILLO WITH " ++
    "COMMA,LETTER SMALL CAPITAL F,LETTER SMALL CAPITAL S,CAPITAL LETTER AA,SMALL LETTER AA,CAPI" ++
    "TAL LETTER AO,SMALL LETTER AO,CAPITAL LETTER AU,SMALL LETTER AU,CAPITAL LETTER AV,SMALL LE" ++
    "TTER AV,CAPITAL LETTER AV WITH HORIZONTAL BAR,SMALL LETTER AV WITH HORIZONTAL BAR,CAPITAL " ++
    "LETTER AY,SMALL LETTER AY,CAPITAL LETTER REVERSED C WITH DOT,SMALL LETTER REVERSED C WITH " ++
    "DOT,CAPITAL LETTER K WITH STROKE,SMALL LETTER K WITH STROKE,CAPITAL LETTER K WITH DIAGONAL" ++
    " STROKE,SMALL LETTER K WITH DIAGONAL STROKE,CAPITAL LETTER K WITH STROKE AND DIAGONAL STRO" ++
    "KE,SMALL LETTER K WITH STROKE AND DIAGONAL STROKE,CAPITAL LETTER BROKEN L,SMALL LETTER BRO" ++
    "KEN L,CAPITAL LETTER L WITH HIGH STROKE,SMALL LETTER L WITH HIGH STROKE,CAPITAL LETTER O W" ++
    "ITH LONG STROKE OVERLAY,SMALL LETTER O WITH LONG STROKE OVERLAY,CAPITAL LETTER O WITH LOOP" ++
    ",SMALL LETTER O WITH LOOP,CAPITAL LETTER OO,SMALL LETTER OO,CAPITAL LETTER P WITH STROKE T" ++
    "HROUGH DESCENDER,SMALL LETTER P WITH STROKE THROUGH DESCENDER,CAPITAL LETTER P WITH FLOURI" ++
    "SH,SMALL LETTER P WITH FLOURISH,CAPITAL LETTER P WITH SQUIRREL TAIL,SMALL LETTER P WITH SQ" ++
    "UIRREL TAIL,CAPITAL LETTER Q WITH STROKE THROUGH DESCENDER,SMALL LETTER Q WITH STROKE THRO" ++
    "UGH DESCENDER,CAPITAL LETTER Q WITH DIAGONAL STROKE,SMALL LETTER Q WITH DIAGONAL STROKE,CA" ++
    "PITAL LETTER R ROTUNDA,SMALL LETTER R ROTUNDA,CAPITAL LETTER RUM ROTUNDA,SMALL LETTER RUM " ++
    "ROTUNDA,CAPITAL LETTER V WITH DIAGONAL STROKE,SMALL LETTER V WITH DIAGONAL STROKE,CAPITAL " ++
    "LETTER VY,SMALL LETTER VY,CAPITAL LETTER VISIGOTHIC Z,SMALL LETTER VISIGOTHIC Z,CAPITAL LE" ++
    "TTER THORN WITH STROKE,SMALL LETTER THORN WITH STROKE,CAPITAL LETTER THORN WITH STROKE THR" ++
    "OUGH DESCENDER,SMALL LETTER THORN WITH STROKE THROUGH DESCENDER,CAPITAL LETTER VEND,SMALL " ++
    "LETTER VEND,CAPITAL LETTER ET,SMALL LETTER ET,CAPITAL LETTER IS,SMALL LETTER IS,CAPITAL LE" ++
    "TTER CON,SMALL LETTER CON"⟩,
  ⟨0xa770, "MODIFIER LETTER US", ""⟩,
  ⟨0xa771, "LATIN SMALL LETTER ", "DUM,LUM,MUM,NUM,RUM"⟩,
  ⟨0xa776, "LATIN ",
    "LETTER SMALL CAPITAL RUM,SMALL LETTER TUM,SMALL LETTER UM,CAPITAL LETTER INSULAR D,SMALL L" ++
    "ETTER INSULAR D,CAPITAL LETTER INSULAR F,SMALL LETTER INSULAR F,CAPITAL LETTER INSULAR G,C" ++
    "APITAL LETTER TURNED INSULAR G,SMALL LETTER TURNED INSULAR G,CAPITAL LETTER TURNED L,SMALL" ++
    " LETTER TURNED L,CAPITAL LETTER INSULAR R,SMALL LETTER INSULAR R,CAPITAL LETTER INSULAR S," ++
    "SMALL LETTER INSULAR S,CAPITAL LETTER INSULAR T,SMALL LETTER INSULAR T"⟩,
  ⟨0xa788, "MODIFIER LETTER ", "LOW CIRCUMFLEX ACCENT,COLON,SHORT EQUALS SIGN"⟩,
  ⟨0xa78b, "LATIN ",
    "CAPITAL LETTER SALTILLO,SMALL LETTER SALTILLO,CAPITAL LETTER TURNED H,SMALL LETTER L WITH " ++
    "RETROFLEX HOOK AND BELT,LETTER SINOLOGICAL DOT,CAPITAL LETTER N WITH DESCENDER,SMALL LETTE" ++
    "R N WITH DESCENDER,CAPITAL LETTER C WITH BAR,SMALL LETTER C WITH BAR,SMALL LETTER C WITH P" ++
    "ALATAL HOOK,SMALL LETTER H WITH PALATAL HOOK,CAPITAL LETTER B WITH FLOURISH,SMALL LETTER B" ++
    " WITH FLOURISH,CAPITAL LETTER F WITH STROKE,SMALL LETTER F WITH STROKE,CAPITAL LETTER VOLA" ++
    "PUK AE,SMALL LETTER VOLAPUK AE,CAPITAL LETTER VOLAPUK OE,SMALL LETTER VOLAPUK OE,CAPITAL L" ++
    "ETTER VOLAPUK UE,SMALL LETTER VOLAPUK UE,CAPITAL LETTER G WITH OBLIQUE STROKE,SMALL LETTER" ++
    " G WITH OBLIQUE STROKE,CAPITAL LETTER K WITH OBLIQUE STROKE,SMALL LETTER K WITH OBLIQUE ST" ++
    "ROKE,CAPITAL LETTER N WITH OBLIQUE STROKE,SMALL LETTER N WITH OBLIQUE STROKE,CAPITAL LETTE" ++
    "R R WITH OBLIQUE STROKE,SMALL LETTER R WITH OBLIQUE STROKE,CAPITAL LETTER S WITH OBLIQUE S" ++
    "TROKE,SMALL LETTER S WITH OBLIQUE STROKE,CAPITAL LETTER H WITH HOOK,CAPITAL LETTER REVERSE" ++
    "D OPEN E,CAPITAL LETTER SCRIPT G,CAPITAL LETTER L WITH BELT,CAPITAL LETTER SMALL CAPITAL I" ++
    ",LETTER SMALL CAPITAL Q,CAPITAL LETTER TURNED K,CAPITAL LETTER TURNED T,CAPITAL LETTER J W" ++
    "ITH CROSSED-TAIL,CAPITAL LETTER CHI,CAPITAL LETTER BETA,SMALL LETTER BETA,CAPITAL LETTER O" ++
    "MEGA,SMALL LETTER OMEGA,CAPITAL LETTER U WITH STROKE,SMALL LETTER U WITH STROKE,CAPITAL LE" ++
    "TTER GLOTTAL A,SMALL LETTER GLOTTAL A,CAPITAL LETTER GLOTTAL I,SMALL LETTER GLOTTAL I,CAPI" ++
    "TAL LETTER GLOTTAL U,SMALL LETTER GLOTTAL U,CAPITAL LETTER OLD POLISH O,SMALL LETTER OLD P" ++
    "OLISH O,CAPITAL LETTER ANGLICANA W,SMALL LETTER ANGLICANA W,CAPITAL LETTER C WITH PALATAL " ++
    "HOOK,CAPITAL LETTER S WITH HOOK,CAPITAL LETTER Z WITH PALATAL HOOK,CAPITAL LETTER D WITH S" ++
    "HORT STROKE OVERLAY,SMALL LETTER D WITH SHORT STROKE OVERLAY,CAPITAL LETTER S WITH SHORT S" ++
    "TROKE OVERLAY,SMALL LETTER S WITH SHORT STROKE OVERLAY,…,…,…,…,…,CAPITAL LETTER CLOSED INS" ++
    "ULAR G,SMALL LETTER CLOSED INSULAR G,…,SMALL LETTER DOUBLE THORN,…,SMALL LETTER DOUBLE WYN" ++
    "N,CAPITAL LETTER MIDDLE SCOTS S,SMALL LETTER MIDDLE SCOTS S,CAPITAL LETTER SIGMOID S,SMALL" ++
    " LETTER SIGMOID S"⟩,
  ⟨0xa7f2, "MODIFIER LETTER CAPITAL ", "C,F,Q"⟩,
  ⟨0xa7f5, "",
    "LATIN CAPITAL LETTER REVERSED HALF H,LATIN SMALL LETTER REVERSED HALF H,LATIN EPIGRAPHIC L" ++
    "ETTER SIDEWAYS I,MODIFIER LETTER CAPITAL H WITH STROKE,MODIFIER LETTER SMALL LIGATURE OE,L" ++
    "ATIN LETTER SMALL CAPITAL TURNED M"⟩,
  ⟨0xa7fb, "LATIN EPIGRAPHIC LETTER ", "REVERSED F,REVERSED P,INVERTED M,I LONGA,ARCHAIC M"⟩,
  ⟨0xa800, "SYLOTI NAGRI ",
    "LETTER A,LETTER I,SIGN DVISVARA,LETTER U,LETTER E,LETTER O,SIGN HASANTA,LETTER KO,LETTER K" ++
    "HO,LETTER GO,LETTER GHO,SIGN ANUSVARA"⟩,
  ⟨0xa80c, "SYLOTI NAGRI LETTER ",
    "CO,CHO,JO,JHO,TTO,TTHO,DDO,DDHO,TO,THO,DO,DHO,NO,PO,PHO,BO,BHO,MO,RO,LO,RRO,SO,HO"⟩,
  ⟨0xa823, "SYLOTI NAGRI VOWEL SIGN ", "A,I,U,E,OO"⟩,
  ⟨0xa828, "SYLOTI NAGRI ",
    "POETRY MARK-1,POETRY MARK-2,POETRY MARK-3,POETRY MARK-4,SIGN ALTERNATE HASANTA"⟩,
  ⟨0xa830, "NORTH INDIC FRACTION ",
    "ONE QUARTER,ONE HALF,THREE QUARTERS,ONE SIXTEENTH,ONE EIGHTH,THREE SIXTEENTHS"⟩,
  ⟨0xa836, "NORTH INDIC ", "QUARTER MARK,PLACEHOLDER MARK,RUPEE MARK,QUANTITY MARK"⟩,
  ⟨0xa840, "PHAGS-PA LETTER ",
    "KA,KHA,GA,NGA,CA,CHA,JA,NYA,TA,THA,DA,NA,PA,PHA,BA,MA,TSA,TSHA,DZA,WA,ZHA,ZA,SMALL A,YA,RA" ++
    ",LA,SHA,SA,HA,A,I,U,E,O,QA,XA,FA,GGA,EE"⟩,
  ⟨0xa867, "PHAGS-PA ",
    "SUBJOINED LETTER WA,SUBJOINED LETTER YA,LETTER TTA,LETTER TTHA,LETTER DDA,LETTER NNA,LETTE" ++
    "R ALTERNATE YA,LETTER VOICELESS SHA,LETTER VOICED HA,LETTER ASPIRATED FA,SUBJOINED LETTER " ++
    "RA,SUPERFIXED LETTER RA,LETTER CANDRABINDU,SINGLE HEAD MARK,DOUBLE HEAD MARK,MARK SHAD,MAR" ++
    "K DOUBLE SHAD"⟩,
  ⟨0xa880, "SAURASHTRA SIGN ", "ANUSVARA,VISARGA"⟩,
  ⟨0xa882, "SAURASHTRA LETTER ",
    "A,AA,I,II,U,UU,VOCALIC R,VOCALIC RR,VOCALIC L,VOCALIC LL,E,EE,AI,O,OO,AU,KA,KHA,GA,GHA,NGA" ++
    ",CA,CHA,JA,JHA,NYA,TTA,TTHA,DDA,DDHA,NNA,TA,THA,DA,DHA,NA,PA,PHA,BA,BHA,MA,YA,RA,LA,VA,SHA" ++
    ",SSA,SA,HA,LLA"⟩,
  ⟨0xa8b4, "SAURASHTRA CONSONANT SIGN HAARU", ""⟩,
  ⟨0xa8b5, "SAURASHTRA VOWEL SIGN ",
    "AA,I,II,U,UU,VOCALIC R,VOCALIC RR,VOCALIC L,VOCALIC LL,E,EE,AI,O,OO,AU"⟩,
  ⟨0xa8c4, "SAURASHTRA ", "SIGN VIRAMA,SIGN CANDRABINDU,…,…,…,…,…,…,…,…,DANDA,DOUBLE DANDA"⟩,
  ⟨0xa8d0, "SAURASHTRA DIGIT ", "ZERO,ONE,TWO,THREE,FOUR,FIVE,SIX,SEVEN,EIGHT,NINE"⟩,
  ⟨0xa8e0, "COMBINING DEVANAGARI DIGIT ", "ZERO,ONE,TWO,THREE,FOUR,FIVE,SIX,SEVEN,EIGHT,NINE"⟩,
  ⟨0xa8ea, "COMBINING DEVANAGARI ",
    "LETTER A,LETTER U,LETTER KA,LETTER NA,LETTER PA,LETTER RA,LETTER VI,SIGN AVAGRAHA"⟩,
  ⟨0xa8f2, "DEVANAGARI ",
    "SIGN SPACING CANDRABINDU,SIGN CANDRABINDU VIRAMA,SIGN DOUBLE CANDRABINDU VIRAMA,SIGN CANDR" ++
    "ABINDU TWO,SIGN CANDRABINDU THREE,SIGN CANDRABINDU AVAGRAHA,SIGN PUSHPIKA,GAP FILLER,CARET" ++
    ",HEADSTROKE,SIGN SIDDHAM,JAIN OM,LETTER AY,VOWEL SIGN AY"⟩,
  ⟨0xa900, "KAYAH LI DIGIT ", "ZERO,ONE,TWO,THREE,FOUR,FIVE,SIX,SEVEN,EIGHT,NINE"⟩,
  ⟨0xa90a, "KAYAH LI LETTER ",
    "KA,KHA,GA,NGA,SA,SHA,ZA,NYA,TA,HTA,NA,PA,PHA,MA,DA,BA,RA,YA,LA,WA,THA,HA,VA,CA,A,OE,I,OO"⟩,
  ⟨0xa926, "KAYAH LI ",
    "VOWEL UE,VOWEL E,VOWEL U,VOWEL EE,VOWEL O,TONE PLOPHU,TONE CALYA,TONE CALYA PLOPHU,SIGN CW" ++
    "I,SIGN SHYA"⟩,
  ⟨0xa930, "REJANG LETTER ",
    "KA,GA,NGA,TA,DA,NA,PA,BA,MA,CA,JA,NYA,SA,RA,LA,YA,WA,HA,MBA,NGGA,NDA,NYJA,A"⟩,
  ⟨0xa947, "REJANG VOWEL SIGN ", "I,U,E,AI,O,AU,EU,EA"⟩,
  ⟨0xa94f, "REJANG CONSONANT SIGN ", "NG,N,R,H"⟩,
  ⟨0xa953, "REJANG ", "VIRAMA,…,…,…,…,…,…,…,…,…,…,…,SECTION MARK"⟩,
  ⟨0xa960, "HANGUL CHOSEONG TIKEUT-", "MIEUM,PIEUP,SIOS,CIEUC"⟩,
  ⟨0xa964, "HANGUL CHOSEONG RIEUL-",
    "KIYEOK,SSANGKIYEOK,TIKEUT,SSANGTIKEUT,MIEUM,PIEUP,SSANGPIEUP,KAPYEOUNPIEUP,SIOS,CIEUC,KHIE" ++
    "UKH"⟩,
  ⟨0xa96f, "HANGUL CHOSEONG ",
    "MIEUM-KIYEOK,MIEUM-TIKEUT,MIEUM-SIOS,PIEUP-SIOS-THIEUTH,PIEUP-KHIEUKH,PIEUP-HIEUH,SSANGSIO" ++
    "S-PIEUP,IEUNG-RIEUL,IEUNG-HIEUH,SSANGCIEUC-HIEUH,SSANGTHIEUTH,PHIEUPH-HIEUH,HIEUH-SIOS,SSA" ++
    "NGYEORINHIEUH"⟩,
  ⟨0xa980, "JAVANESE SIGN ", "PANYANGGA,CECAK,LAYAR,WIGNYAN"⟩,
  ⟨0xa984, "JAVANESE LETTER ",
    "A,I KAWI,I,II,U,PA CEREK,NGA LELET,NGA LELET RASWADI,E,AI,O,KA,KA SASAK,KA MURDA,GA,GA MUR" ++
    "DA,NGA,CA,CA MURDA,JA,NYA MURDA,JA MAHAPRANA,NYA,TTA,TTA MAHAPRANA,DDA,DDA MAHAPRANA,NA MU" ++
    "RDA,TA,TA MURDA,DA,DA MAHAPRANA,NA,PA,PA MURDA,BA,BA MURDA,MA,YA,RA,RA AGUNG,LA,WA,SA MURD" ++
    "A,SA MAHAPRANA,SA,HA"⟩,
  ⟨0xa9b3, "JAVANESE SIGN CECAK TELU", ""⟩,
  ⟨0xa9b4, "JAVANESE VOWEL SIGN ",
    "TARUNG,TOLONG,WULU,WULU MELIK,SUKU,SUKU MENDUT,TALING,DIRGA MURE,PEPET"⟩,
  ⟨0xa9bd, "JAVANESE ",
    "CONSONANT SIGN KERET,CONSONANT SIGN PENGKAL,CONSONANT SIGN CAKRA,PANGKON,LEFT RERENGGAN,RI" ++
    "GHT RERENGGAN,PADA ANDAP,PADA MADYA,PADA LUHUR,PADA WINDU,PADA PANGKAT,PADA LINGSA,PADA LU" ++
    "NGSI,PADA ADEG,PADA ADEG ADEG,PADA PISELEH,TURNED PADA PISELEH,…,PANGRANGKEP"⟩,
  ⟨0xa9d0, "JAVANESE DIGIT ", "ZERO,ONE,TWO,THREE,FOUR,FIVE,SIX,SEVEN,EIGHT,NINE"⟩,
  ⟨0xa9de, "JAVANESE PADA ", "TIRTA TUMETES,ISEN-ISEN"⟩,
  ⟨0xa9e0, "MYANMAR LETTER SHAN ", "GHA,CHA,JHA,NNA,BHA"⟩,
  ⟨0xa9e5, "MYANMAR ", "SIGN SHAN SAW,MODIFIER LETTER SHAN REDUPLICATION"⟩,
  ⟨0xa9e7, "MYANMAR LETTER TAI LAING ", "NYA,FA,GA,GHA,JA,JHA,DDA,DDHA,NNA"⟩,
  ⟨0xa9f0, "MYANMAR TAI LAING DIGIT ", "ZERO,ONE,TWO,THREE,FOUR,FIVE,SIX,SEVEN,EIGHT,NINE"⟩,
  ⟨0xa9fa, "MYANMAR LETTER TAI LAING ", "LLA,DA,DHA,BA,BHA"⟩,
  ⟨0xaa00, "CHAM LETTER ",
    "A,I,U,E,AI,O,KA,KHA,GA,GHA,NGUE,NGA,CHA,CHHA,JA,JHA,NHUE,NHA,NHJA,TA,THA,DA,DHA,NUE,NA,DDA" ++
    ",PA,PPA,PHA,BA,BHA,MUE,MA,BBA,YA,RA,LA,VA,SSA,SA,HA"⟩,
  ⟨0xaa29, "CHAM VOWEL SIGN ", "AA,I,II,EI,U,OE,O,AI,AU,UE"⟩,
  ⟨0xaa33, "CHAM CONSONANT SIGN ", "YA,RA,LA,WA"⟩,
  ⟨0xaa40, "CHAM ", "LETTER FINAL K,LETTER FINAL G,LETTER FINAL NG,CONSONANT SIGN FINAL NG"⟩,
  ⟨0xaa44, "CHAM LETTER FINAL ", "CH,T,N,P,Y,R,L,SS"⟩,
  ⟨0xaa4c, "CHAM CONSONANT SIGN FINAL ", "M,H"⟩,
  ⟨0xaa50, "CHAM DIGIT ", "ZERO,ONE,TWO,THREE,FOUR,FIVE,SIX,SEVEN,EIGHT,NINE"⟩,
  ⟨0xaa5c, "CHAM PUNCTUATION ", "SPIRAL,DANDA,DOUBLE DANDA,TRIPLE DANDA"⟩,
  ⟨0xaa60, "MYANMAR LETTER KHAMTI ", "GA,CA,CHA,JA,JHA,NYA,TTA,TTHA,DDA,DDHA,DHA,NA,SA,HA,HHA,FA"⟩,
  ⟨0xaa70, "MYANMAR ",
    "MODIFIER LETTER KHAMTI REDUPLICATION,LETTER KHAMTI XA,LETTER KHAMTI ZA,LETTER KHAMTI RA,LO" ++
    "GOGRAM KHAMTI OAY,LOGOGRAM KHAMTI QN,LOGOGRAM KHAMTI HM,SYMBOL AITON EXCLAMATION,SYMBOL AI" ++
    "TON ONE,SYMBOL AITON TWO,LETTER AITON RA,SIGN PAO KAREN TONE,SIGN TAI LAING TONE-2,SIGN TA" ++
    "I LAING TONE-5,LETTER SHWE PALAUNG CHA,LETTER SHWE PALAUNG SHA"⟩,
  ⟨0xaa80, "TAI VIET LETTER ",
    "LOW KO,HIGH KO,LOW KHO,HIGH KHO,LOW KHHO,HIGH KHHO,LOW GO,HIGH GO,LOW NGO,HIGH NGO,LOW CO," ++
    "HIGH CO,LOW CHO,HIGH CHO,LOW SO,HIGH SO,LOW NYO,HIGH NYO,LOW DO,HIGH DO,LOW TO,HIGH TO,LOW" ++
    " THO,HIGH THO,LOW NO,HIGH NO,LOW BO,HIGH BO,LOW PO,HIGH PO,LOW PHO,HIGH PHO,LOW FO,HIGH FO" ++
    ",LOW MO,HIGH MO,LOW YO,HIGH YO,LOW RO,HIGH RO,LOW LO,HIGH LO,LOW VO,HIGH VO,LOW HO,HIGH HO" ++
    ",LOW O,HIGH O"⟩,
  ⟨0xaab0, "TAI VIET ",
    "MAI KANG,VOWEL AA,VOWEL I,VOWEL UE,VOWEL U,VOWEL E,VOWEL O,MAI KHIT,VOWEL IA,VOWEL UEA,VOW" ++
    "EL UA,VOWEL AUE,VOWEL AY,VOWEL AN,VOWEL AM,TONE MAI EK,TONE MAI NUENG,TONE MAI THO,TONE MA" ++
    "I SONG"⟩,
  ⟨0xaadb, "TAI VIET SYMBOL ", "KON,NUENG,SAM,HO HOI,KOI KOI"⟩,
  ⟨0xaae0, "MEETEI MAYEK LETTER ", "E,O,CHA,NYA,TTA,TTHA,DDA,DDHA,NNA,SHA,SSA"⟩,
  ⟨0xaaeb, "MEETEI MAYEK VOWEL SIGN ", "II,UU,AAI,AU,AAU"⟩,
  ⟨0xaaf0, "MEETEI MAYEK ",
    "CHEIKHAN,AHANG KHUDAM,ANJI,SYLLABLE REPETITION MARK,WORD REPETITION MARK,VOWEL SIGN VISARG" ++
    "A,VIRAMA"⟩,
  ⟨0xab01, "ETHIOPIC SYLLABLE ",
    "TTHU,TTHI,TTHAA,TTHEE,TTHE,TTHO,…,…,DDHU,DDHI,DDHAA,DDHEE,DDHE,DDHO,…,…,DZU,DZI,DZAA,DZEE," ++
    "DZE,DZO,…,…,…,…,…,…,…,…,…,CCHHA,CCHHU,CCHHI,CCHHAA,CCHHEE,CCHHE,CCHHO,…,BBA,BBU,BBI,BBAA,B" ++
    "BEE,BBE,BBO"⟩,
  ⟨0xab30, "LATIN SMALL LETTER ",
    "BARRED ALPHA,A REVERSED-SCHWA,BLACKLETTER E,BARRED E,E WITH FLOURISH,LENIS F,SCRIPT G WITH" ++
    " CROSSED-TAIL,L WITH INVERTED LAZY S,L WITH DOUBLE MIDDLE TILDE,L WITH MIDDLE RING,M WITH " ++
    "CROSSED-TAIL,N WITH CROSSED-TAIL,ENG WITH CROSSED-TAIL,BLACKLETTER O,BLACKLETTER O WITH ST" ++
    "ROKE,OPEN O WITH STROKE,INVERTED OE,TURNED OE WITH STROKE,TURNED OE WITH HORIZONTAL STROKE" ++
    ",TURNED O OPEN-O,TURNED O OPEN-O WITH STROKE,STIRRUP R"⟩,
  ⟨0xab46, "LATIN LETTER SMALL CAPITAL R WITH RIGHT LEG", ""⟩,
  ⟨0xab47, "LATIN SMALL LETTER ",
    "R WITHOUT HANDLE,DOUBLE R,R WITH CROSSED-TAIL,DOUBLE R WITH CROSSED-TAIL,SCRIPT R,SCRIPT R" ++
    " WITH RING,BASELINE ESH,U WITH SHORT RIGHT LEG,U BAR WITH SHORT RIGHT LEG,UI,TURNED UI,U W" ++
    "ITH LEFT HOOK,CHI,CHI WITH LOW RIGHT RING,CHI WITH LOW LEFT SERIF,X WITH LOW RIGHT RING,X " ++
    "WITH LONG LEFT LEG,X WITH LONG LEFT LEG AND LOW RIGHT RING,X WITH LONG LEFT LEG WITH SERIF" ++
    ",Y WITH SHORT RIGHT LEG"⟩,
  ⟨0xab5b, "MODIFIER BREVE WITH INVERTED BREVE", ""⟩,
  ⟨0xab5c, "MODIFIER LETTER SMALL ",
    "HENG,L WITH INVERTED LAZY S,L WITH MIDDLE TILDE,U WITH LEFT HOOK"⟩,
  ⟨0xab60, "LATIN SMALL LETTER ", "SAKHA YAT,IOTIFIED E,OPEN OE,UO,INVERTED ALPHA"⟩,
  ⟨0xab65, "GREEK LETTER SMALL CAPITAL OMEGA", ""⟩,
  ⟨0xab66, "LATIN SMALL LETTER ",
    "DZ DIGRAPH WITH RETROFLEX HOOK,TS DIGRAPH WITH RETROFLEX HOOK,TURNED R WITH MIDDLE TILDE"⟩,
  ⟨0xab69, "MODIFIER LETTER ", "SMALL TURNED W,LEFT TACK,RIGHT TACK"⟩,
  ⟨0xab70, "CHEROKEE SMALL LETTER ",
    "A,E,I,O,U,V,GA,KA,GE,GI,GO,GU,GV,HA,HE,HI,HO,HU,HV,LA,LE,LI,LO,LU,LV,MA,ME,MI,MO,MU,NA,HNA" ++
    ",NAH,NE,NI,NO,NU,NV,QUA,QUE,QUI,QUO,QUU,QUV,SA,S,SE,SI,SO,SU,SV,DA,TA,DE,TE,DI,TI,DO,DU,DV" ++
    ",DLA,TLA,TLE,TLI,TLO,TLU,TLV,TSA,TSE,TSI,TSO,TSU,TSV,WA,WE,WI,WO,WU,WV,YA"⟩,
  ⟨0xabc0, "MEETEI MAYEK LETTER ",
    "KOK,SAM,LAI,MIT,PA,NA,CHIL,TIL,KHOU,NGOU,THOU,WAI,YANG,HUK,UN,I,PHAM,ATIYA,GOK,JHAM,RAI,BA" ++
    ",JIL,DIL,GHOU,DHOU,BHAM,KOK LONSUM,LAI LONSUM,MIT LONSUM,PA LONSUM,NA LONSUM,TIL LONSUM,NG" ++
    "OU LONSUM,I LONSUM"⟩,
  ⟨0xabe3, "MEETEI MAYEK VOWEL SIGN ", "ONAP,INAP,ANAP,YENAP,SOUNAP,UNAP,CHEINAP,NUNG"⟩,
  ⟨0xabeb, "MEETEI MAYEK ", "CHEIKHEI,LUM IYEK,APUN IYEK"⟩,
  ⟨0xabf0, "MEETEI MAYEK DIGIT ", "ZERO,ONE,TWO,THREE,FOUR,FIVE,SIX,SEVEN,EIGHT,NINE"⟩,
  ⟨0xd7b0, "HANGUL JUNGSEONG ",
    "O-YEO,O-O-I,YO-A,YO-AE,YO-EO,U-YEO,U-I-I,YU-AE,YU-O,EU-A,EU-EO,EU-E,EU-O,I-YA-O,I-YAE,I-YE" ++
    "O,I-YE,I-O-I,I-YO,I-YU,I-I,ARAEA-A,ARAEA-E"⟩,
  ⟨0xd7cb, "HANGUL JONGSEONG ",
    "NIEUN-RIEUL,NIEUN-CHIEUCH,SSANGTIKEUT,SSANGTIKEUT-PIEUP,TIKEUT-PIEUP,TIKEUT-SIOS,TIKEUT-SI" ++
    "OS-KIYEOK,TIKEUT-CIEUC,TIKEUT-CHIEUCH,TIKEUT-THIEUTH,RIEUL-SSANGKIYEOK,RIEUL-KIYEOK-HIEUH," ++
    "SSANGRIEUL-KHIEUKH,RIEUL-MIEUM-HIEUH,RIEUL-PIEUP-TIKEUT,RIEUL-PIEUP-PHIEUPH,RIEUL-YESIEUNG" ++
    ",RIEUL-YEORINHIEUH-HIEUH,KAPYEOUNRIEUL,MIEUM-NIEUN,MIEUM-SSANGNIEUN,SSANGMIEUM,MIEUM-PIEUP" ++
    "-SIOS,MIEUM-CIEUC,PIEUP-TIKEUT,PIEUP-RIEUL-PHIEUPH,PIEUP-MIEUM,SSANGPIEUP,PIEUP-SIOS-TIKEU" ++
    "T,PIEUP-CIEUC,PIEUP-CHIEUCH,SIOS-MIEUM,SIOS-KAPYEOUNPIEUP,SSANGSIOS-KIYEOK,SSANGSIOS-TIKEU" ++
    "T,SIOS-PANSIOS,SIOS-CIEUC,SIOS-CHIEUCH,SIOS-THIEUTH,SIOS-HIEUH,PANSIOS-PIEUP,PANSIOS-KAPYE" ++
    "OUNPIEUP,YESIEUNG-MIEUM,YESIEUNG-HIEUH,CIEUC-PIEUP,CIEUC-SSANGPIEUP,SSANGCIEUC,PHIEUPH-SIO" ++
    "S,PHIEUPH-THIEUTH"⟩,
  ⟨0xfb00, "LATIN SMALL LIGATURE ", "FF,FI,FL,FFI,FFL,LONG S T,ST"⟩,
  ⟨0xfb13, "ARMENIAN SMALL LIGATURE ", "MEN NOW,MEN ECH,MEN INI,VEW NOW,MEN XEH"⟩,
  ⟨0xfb1d, "HEBREW ",
    "LETTER YOD WITH HIRIQ,POINT JUDEO-SPANISH VARIKA,LIGATURE YIDDISH YOD YOD PATAH"⟩,
  ⟨0xfb20, "HEBREW LETTER ",
    "ALTERNATIVE AYIN,WIDE ALEF,WIDE DALET,WIDE HE,WIDE KAF,WIDE LAMED,WIDE FINAL MEM,WIDE RESH" ++
    ",WIDE TAV,ALTERNATIVE PLUS SIGN,SHIN WITH SHIN DOT,SHIN WITH SIN DOT,SHIN WITH DAGESH AND " ++
    "SHIN DOT,SHIN WITH DAGESH AND SIN DOT,ALEF WITH PATAH,ALEF WITH QAMATS,ALEF WITH MAPIQ,BET" ++
    " WITH DAGESH,GIMEL WITH DAGESH,DALET WITH DAGESH,HE WITH MAPIQ,VAV WITH DAGESH,ZAYIN WITH " ++
    "DAGESH,…,TET WITH DAGESH,YOD WITH DAGESH,FINAL KAF WITH DAGESH,KAF WITH DAGESH,LAMED WITH " ++
    "DAGESH,…,MEM WITH DAGESH,…,NUN WITH DAGESH,SAMEKH WITH DAGESH,…,FINAL PE WITH DAGESH,PE WI" ++
    "TH DAGESH,…,TSADI WITH DAGESH,QOF WITH DAGESH,RESH WITH DAGESH,SHIN WITH DAGESH,TAV WITH D" ++
    "AGESH,VAV WITH HOLAM,BET WITH RAFE,KAF WITH RAFE,PE WITH RAFE"⟩,
  ⟨0xfb4f, "HEBREW LIGATURE ALEF LAMED", ""⟩,
  ⟨0xfb50, "ARABIC LETTER ",
    "ALEF WASLA ISOLATED FORM,ALEF WASLA FINAL FORM,BEEH ISOLATED FORM,BEEH FINAL FORM,BEEH INI" ++
    "TIAL FORM,BEEH MEDIAL FORM,PEH ISOLATED FORM,PEH FINAL FORM,PEH INITIAL FORM,PEH MEDIAL FO" ++
    "RM,BEHEH ISOLATED FORM,BEHEH FINAL FORM,BEHEH INITIAL FORM,BEHEH MEDIAL FORM,TTEHEH ISOLAT" ++
    "ED FORM,TTEHEH FINAL FORM,TTEHEH INITIAL FORM,TTEHEH MEDIAL FORM,TEHEH ISOLATED FORM,TEHEH" ++
    " FINAL FORM,TEHEH INITIAL FORM,TEHEH MEDIAL FORM,TTEH ISOLATED FORM,TTEH FINAL FORM,TTEH I" ++
    "NITIAL FORM,TTEH MEDIAL FORM,VEH ISOLATED FORM,VEH FINAL FORM,VEH INITIAL FORM,VEH MEDIAL " ++
    "FORM,PEHEH ISOLATED FORM,PEHEH FINAL FORM,PEHEH INITIAL FORM,PEHEH MEDIAL FORM,DYEH ISOLAT" ++
    "ED FORM,DYEH FINAL FORM,DYEH INITIAL FORM,DYEH MEDIAL FORM,NYEH ISOLATED FORM,NYEH FINAL F" ++
    "ORM,NYEH INITIAL FORM,NYEH MEDIAL FORM,TCHEH ISOLATED FORM,TCHEH FINAL FORM,TCHEH INITIAL " ++
    "FORM,TCHEH MEDIAL FORM,TCHEHEH ISOLATED FORM,TCHEHEH FINAL FORM,TCHEHEH INITIAL FORM,TCHEH" ++
    "EH MEDIAL FORM,DDAHAL ISOLATED FORM,DDAHAL FINAL FORM,DAHAL ISOLATED FORM,DAHAL FINAL FORM" ++
    ",DUL ISOLATED FORM,DUL FINAL FORM,DDAL ISOLATED FORM,DDAL FINAL FORM,JEH ISOLATED FORM,JEH" ++
    " FINAL FORM,RREH ISOLATED FORM,RREH FINAL FORM,KEHEH ISOLATED FORM,KEHEH FINAL FORM,KEHEH " ++
    "INITIAL FORM,KEHEH MEDIAL FORM,GAF ISOLATED FORM,GAF FINAL FORM,GAF INITIAL FORM,GAF MEDIA" ++
    "L FORM,GUEH ISOLATED FORM,GUEH FINAL FORM,GUEH INITIAL FORM,GUEH MEDIAL FORM,NGOEH ISOLATE" ++
    "D FORM,NGOEH FINAL FORM,NGOEH INITIAL FORM,NGOEH MEDIAL FORM,NOON GHUNNA ISOLATED FORM,NOO" ++
    "N GHUNNA FINAL FORM,RNOON ISOLATED FORM,RNOON FINAL FORM,RNOON INITIAL FORM,RNOON MEDIAL F" ++
    "ORM,HEH WITH YEH ABOVE ISOLATED FORM,HEH WITH YEH ABOVE FINAL FORM,HEH GOAL ISOLATED FORM," ++
    "HEH GOAL FINAL FORM,HEH GOAL INITIAL FORM,HEH GOAL MEDIAL FORM"⟩,
  ⟨0xfbaa, "ARABIC LETTER HEH DOACHASHMEE ", "ISOLATED FORM,FINAL FORM,INITIAL FORM,MEDIAL FORM"⟩,
  ⟨0xfbae, "ARABIC LETTER YEH BARREE ",
    "ISOLATED FORM,FINAL FORM,WITH HAMZA ABOVE ISOLATED FORM,WITH HAMZA ABOVE FINAL FORM"⟩,
  ⟨0xfbb2, "ARABIC SYMBOL ",
    "DOT ABOVE,DOT BELOW,TWO DOTS ABOVE,TWO DOTS BELOW,THREE DOTS ABOVE,THREE DOTS BELOW,THREE " ++
    "DOTS POINTING DOWNWARDS ABOVE,THREE DOTS POINTING DOWNWARDS BELOW,FOUR DOTS ABOVE,FOUR DOT" ++
    "S BELOW,DOUBLE VERTICAL BAR BELOW,TWO DOTS VERTICALLY ABOVE,TWO DOTS VERTICALLY BELOW,RING" ++
    ",SMALL TAH ABOVE,SMALL TAH BELOW,WASLA ABOVE"⟩,
  ⟨0xfbd3, "ARABIC LETTER ",
    "NG ISOLATED FORM,NG FINAL FORM,NG INITIAL FORM,NG MEDIAL FORM,U ISOLATED FORM,U FINAL FORM" ++
    ",OE ISOLATED FORM,OE FINAL FORM,YU ISOLATED FORM,YU FINAL FORM,U WITH HAMZA ABOVE ISOLATED" ++
    " FORM,VE ISOLATED FORM,VE FINAL FORM,KIRGHIZ OE ISOLATED FORM,KIRGHIZ OE FINAL FORM,KIRGHI" ++
    "Z YU ISOLATED FORM,KIRGHIZ YU FINAL FORM,E ISOLATED FORM,E FINAL FORM,E INITIAL FORM,E MED" ++
    "IAL FORM,UIGHUR KAZAKH KIRGHIZ ALEF MAKSURA INITIAL FORM,UIGHUR KAZAKH KIRGHIZ ALEF MAKSUR" ++
    "A MEDIAL FORM"⟩,
  ⟨0xfbea, "ARABIC LIGATURE YEH WITH HAMZA ABOVE WITH ",
    "ALEF ISOLATED FORM,ALEF FINAL FORM,AE ISOLATED FORM,AE FINAL FORM,WAW ISOLATED FORM,WAW FI" ++
    "NAL FORM,U ISOLATED FORM,U FINAL FORM,OE ISOLATED FORM,OE FINAL FORM,YU ISOLATED FORM,YU F" ++
    "INAL FORM,E ISOLATED FORM,E FINAL FORM,E INITIAL FORM"⟩,
  ⟨0xfbf9, "ARABIC LIGATURE UIGHUR KIRGHIZ YEH WITH HAMZA ABOVE WITH ALEF MAKSURA ",
    "ISOLATED FORM,FINAL FORM,INITIAL FORM"⟩,
  ⟨0xfbfc, "ARABIC LETTER FARSI YEH ", "ISOLATED FORM,FINAL FORM,INITIAL FORM,MEDIAL FORM"⟩,
  ⟨0xfc00, "ARABIC LIGATURE YEH WITH HAMZA ABOVE WITH ",
    "JEEM ISOLATED FORM,HAH ISOLATED FORM,MEEM ISOLATED FORM,ALEF MAKSURA ISOLATED FORM,YEH ISO" ++
    "LATED FORM"⟩,
  ⟨0xfc05, "ARABIC LIGATURE BEH WITH ",
    "JEEM ISOLATED FORM,HAH ISOLATED FORM,KHAH ISOLATED FORM,MEEM ISOLATED FORM,ALEF MAKSURA IS" ++
    "OLATED FORM,YEH ISOLATED FORM"⟩,
  ⟨0xfc0b, "ARABIC LIGATURE TEH WITH ",
    "JEEM ISOLATED FORM,HAH ISOLATED FORM,KHAH ISOLATED FORM,MEEM ISOLATED FORM,ALEF MAKSURA IS" ++
    "OLATED FORM,YEH ISOLATED FORM"⟩,
  ⟨0xfc11, "ARABIC LIGATURE ",
    "THEH WITH JEEM ISOLATED FORM,THEH WITH MEEM ISOLATED FORM,THEH WITH ALEF MAKSURA ISOLATED " ++
    "FORM,THEH WITH YEH ISOLATED FORM,JEEM WITH HAH ISOLATED FORM,JEEM WITH MEEM ISOLATED FORM," ++
    "HAH WITH JEEM ISOLATED FORM,HAH WITH MEEM ISOLATED FORM,KHAH WITH JEEM ISOLATED FORM,KHAH " ++
    "WITH HAH ISOLATED FORM,KHAH WITH MEEM ISOLATED FORM,SEEN WITH JEEM ISOLATED FORM,SEEN WITH" ++
    " HAH ISOLATED FORM,SEEN WITH KHAH ISOLATED FORM,SEEN WITH MEEM ISOLATED FORM,SAD WITH HAH " ++
    "ISOLATED FORM,SAD WITH MEEM ISOLATED FORM,DAD WITH JEEM ISOLATED FORM,DAD WITH HAH ISOLATE" ++
    "D FORM,DAD WITH KHAH ISOLATED FORM,DAD WITH MEEM ISOLATED FORM,TAH WITH HAH ISOLATED FORM," ++
    "TAH WITH MEEM ISOLATED FORM,ZAH WITH MEEM ISOLATED FORM,AIN WITH JEEM ISOLATED FORM,AIN WI" ++
    "TH MEEM ISOLATED FORM,GHAIN WITH JEEM ISOLATED FORM,GHAIN WITH MEEM ISOLATED FORM,FEH WITH" ++
    " JEEM ISOLATED FORM,FEH WITH HAH ISOLATED FORM,FEH WITH KHAH ISOLATED FORM,FEH WITH MEEM I" ++
    "SOLATED FORM,FEH WITH ALEF MAKSURA ISOLATED FORM,FEH WITH YEH ISOLATED FORM,QAF WITH HAH I" ++
    "SOLATED FORM,QAF WITH MEEM ISOLATED FORM,QAF WITH ALEF MAKSURA ISOLATED FORM,QAF WITH YEH " ++
    "ISOLATED FORM"⟩,
  ⟨0xfc37, "ARABIC LIGATURE KAF WITH ",
    "ALEF ISOLATED FORM,JEEM ISOLATED FORM,HAH ISOLATED FORM,KHAH ISOLATED FORM,LAM ISOLATED FO" ++
    "RM,MEEM ISOLATED FORM,ALEF MAKSURA ISOLATED FORM,YEH ISOLATED FORM"⟩,
  ⟨0xfc3f, "ARABIC LIGATURE LAM WITH ",
    "JEEM ISOLATED FORM,HAH ISOLATED FORM,KHAH ISOLATED FORM,MEEM ISOLATED FORM,ALEF MAKSURA IS" ++
    "OLATED FORM,YEH ISOLATED FORM"⟩,
  ⟨0xfc45, "ARABIC LIGATURE MEEM WITH ",
    "JEEM ISOLATED FORM,HAH ISOLATED FORM,KHAH ISOLATED FORM,MEEM ISOLATED FORM,ALEF MAKSURA IS" ++
    "OLATED FORM,YEH ISOLATED FORM"⟩,
  ⟨0xfc4b, "ARABIC LIGATURE NOON WITH ",
    "JEEM ISOLATED FORM,HAH ISOLATED FORM,KHAH ISOLATED FORM,MEEM ISOLATED FORM,ALEF MAKSURA IS" ++
    "OLATED FORM,YEH ISOLATED FORM"⟩,
  ⟨0xfc51, "ARABIC LIGATURE ",
    "HEH WITH JEEM ISOLATED FORM,HEH WITH MEEM ISOLATED FORM,HEH WITH ALEF MAKSURA ISOLATED FOR" ++
    "M,HEH WITH YEH ISOLATED FORM,YEH WITH JEEM ISOLATED FORM,YEH WITH HAH ISOLATED FORM,YEH WI" ++
    "TH KHAH ISOLATED FORM,YEH WITH MEEM ISOLATED FORM,YEH WITH ALEF MAKSURA ISOLATED FORM,YEH " ++
    "WITH YEH ISOLATED FORM,THAL WITH SUPERSCRIPT ALEF ISOLATED FORM,REH WITH SUPERSCRIPT ALEF " ++
    "ISOLATED FORM,ALEF MAKSURA WITH SUPERSCRIPT ALEF ISOLATED FORM"⟩,
  ⟨0xfc5e, "ARABIC LIGATURE SHADDA WITH ",
    "DAMMATAN ISOLATED FORM,KASRATAN ISOLATED FORM,FATHA ISOLATED FORM,DAMMA ISOLATED FORM,KASR" ++
    "A ISOLATED FORM,SUPERSCRIPT ALEF ISOLATED FORM"⟩,
  ⟨0xfc64, "ARABIC LIGATURE YEH WITH HAMZA ABOVE WITH ",
    "REH FINAL FORM,ZAIN FINAL FORM,MEEM FINAL FORM,NOON FINAL FORM,ALEF MAKSURA FINAL FORM,YEH" ++
    " FINAL FORM"⟩,
  ⟨0xfc6a, "ARABIC LIGATURE BEH WITH ",
    "REH FINAL FORM,ZAIN FINAL FORM,MEEM FINAL FORM,NOON FINAL FORM,ALEF MAKSURA FINAL FORM,YEH" ++
    " FINAL FORM"⟩,
  ⟨0xfc70, "ARABIC LIGATURE TEH WITH ",
    "REH FINAL FORM,ZAIN FINAL FORM,MEEM FINAL FORM,NOON FINAL FORM,ALEF MAKSURA FINAL FORM,YEH" ++
    " FINAL FORM"⟩,
  ⟨0xfc76, "ARABIC LIGATURE THEH WITH ",
    "REH FINAL FORM,ZAIN FINAL FORM,MEEM FINAL FORM,NOON FINAL FORM,ALEF MAKSURA FINAL FORM,YEH" ++
    " FINAL FORM"⟩,
  ⟨0xfc7c, "ARABIC LIGATURE ",
    "FEH WITH ALEF MAKSURA FINAL FORM,FEH WITH YEH FINAL FORM,QAF WITH ALEF MAKSURA FINAL FORM," ++
    "QAF WITH YEH FINAL FORM,KAF WITH ALEF FINAL FORM,KAF WITH LAM FINAL FORM,KAF WITH MEEM FIN" ++
    "AL FORM,KAF WITH ALEF MAKSURA FINAL FORM,KAF WITH YEH FINAL FORM,LAM WITH MEEM FINAL FORM," ++
    "LAM WITH ALEF MAKSURA FINAL FORM,LAM WITH YEH FINAL FORM,MEEM WITH ALEF FINAL FORM,MEEM WI" ++
    "TH MEEM FINAL FORM,NOON WITH REH FINAL FORM,NOON WITH ZAIN FINAL FORM,NOON WITH MEEM FINAL" ++
    " FORM,NOON WITH NOON FINAL FORM,NOON WITH ALEF MAKSURA FINAL FORM,NOON WITH YEH FINAL FORM" ++
    ",ALEF MAKSURA WITH SUPERSCRIPT ALEF FINAL FORM"⟩,
  ⟨0xfc91, "ARABIC LIGATURE YEH WITH ",
    "REH FINAL FORM,ZAIN FINAL FORM,MEEM FINAL FORM,NOON FINAL FORM,ALEF MAKSURA FINAL FORM,YEH" ++
    " FINAL FORM"⟩,
  ⟨0xfc97, "ARABIC LIGATURE YEH WITH HAMZA ABOVE WITH ",
    "JEEM INITIAL FORM,HAH INITIAL FORM,KHAH INITIAL FORM,MEEM INITIAL FORM,HEH INITIAL FORM"⟩,
  ⟨0xfc9c, "ARABIC LIGATURE ",
    "BEH WITH JEEM INITIAL FORM,BEH WITH HAH INITIAL FORM,BEH WITH KHAH INITIAL FORM,BEH WITH M" ++
    "EEM INITIAL FORM,BEH WITH HEH INITIAL FORM,TEH WITH JEEM INITIAL FORM,TEH WITH HAH INITIAL" ++
    " FORM,TEH WITH KHAH INITIAL FORM,TEH WITH MEEM INITIAL FORM,TEH WITH HEH INITIAL FORM,THEH" ++
    " WITH MEEM INITIAL FORM,JEEM WITH HAH INITIAL FORM,JEEM WITH MEEM INITIAL FORM,HAH WITH JE" ++
    "EM INITIAL FORM,HAH WITH MEEM INITIAL FORM,KHAH WITH JEEM INITIAL FORM,KHAH WITH MEEM INIT" ++
    "IAL FORM,SEEN WITH JEEM INITIAL FORM,SEEN WITH HAH INITIAL FORM,SEEN WITH KHAH INITIAL FOR" ++
    "M,SEEN WITH MEEM INITIAL FORM,SAD WITH HAH INITIAL FORM,SAD WITH KHAH INITIAL FORM,SAD WIT" ++
    "H MEEM INITIAL FORM,DAD WITH JEEM INITIAL FORM,DAD WITH HAH INITIAL FORM,DAD WITH KHAH INI" ++
    "TIAL FORM,DAD WITH MEEM INITIAL FORM,TAH WITH HAH INITIAL FORM,ZAH WITH MEEM INITIAL FORM," ++
    "AIN WITH JEEM INITIAL FORM,AIN WITH MEEM INITIAL FORM,GHAIN WITH JEEM INITIAL FORM,GHAIN W" ++
    "ITH MEEM INITIAL FORM,FEH WITH JEEM INITIAL FORM,FEH WITH HAH INITIAL FORM,FEH WITH KHAH I" ++
    "NITIAL FORM,FEH WITH MEEM INITIAL FORM,QAF WITH HAH INITIAL FORM,QAF WITH MEEM INITIAL FOR" ++
    "M,KAF WITH JEEM INITIAL FORM,KAF WITH HAH INITIAL FORM,KAF WITH KHAH INITIAL FORM,KAF WITH" ++
    " LAM INITIAL FORM,KAF WITH MEEM INITIAL FORM,LAM WITH JEEM INITIAL FORM,LAM WITH HAH INITI" ++
    "AL FORM,LAM WITH KHAH INITIAL FORM,LAM WITH MEEM INITIAL FORM,LAM WITH HEH INITIAL FORM,ME" ++
    "EM WITH JEEM INITIAL FORM,MEEM WITH HAH INITIAL FORM,MEEM WITH KHAH INITIAL FORM,MEEM WITH" ++
    " MEEM INITIAL FORM,NOON WITH JEEM INITIAL FORM,NOON WITH HAH INITIAL FORM,NOON WITH KHAH I" ++
    "NITIAL FORM,NOON WITH MEEM INITIAL FORM,NOON WITH HEH INITIAL FORM,HEH WITH JEEM INITIAL F" ++
    "ORM,HEH WITH MEEM INITIAL FORM,HEH WITH SUPERSCRIPT ALEF INITIAL FORM,YEH WITH JEEM INITIA" ++
    "L FORM,YEH WITH HAH INITIAL FORM,YEH WITH KHAH INITIAL FORM,YEH WITH MEEM INITIAL FORM,YEH" ++
    " WITH HEH INITIAL FORM,YEH WITH HAMZA ABOVE WITH MEEM MEDIAL FORM,YEH WITH HAMZA ABOVE WIT" ++
    "H HEH MEDIAL FORM,BEH WITH MEEM MEDIAL FORM,BEH WITH HEH MEDIAL FORM,TEH WITH MEEM MEDIAL " ++
    "FORM,TEH WITH HEH MEDIAL FORM,THEH WITH MEEM MEDIAL FORM,THEH WITH HEH MEDIAL FORM,SEEN WI" ++
    "TH MEEM MEDIAL FORM,SEEN WITH HEH MEDIAL FORM,SHEEN WITH MEEM MEDIAL FORM,SHEEN WITH HEH M" ++
    "EDIAL FORM,KAF WITH LAM MEDIAL FORM,KAF WITH MEEM MEDIAL FORM,LAM WITH MEEM MEDIAL FORM,NO" ++
    "ON WITH MEEM MEDIAL FORM,NOON WITH HEH MEDIAL FORM,YEH WITH MEEM MEDIAL FORM,YEH WITH HEH " ++
    "MEDIAL FORM,SHADDA WITH FATHA MEDIAL FORM,SHADDA WITH DAMMA MEDIAL FORM,SHADDA WITH KASRA " ++
    "MEDIAL FORM,TAH WITH ALEF MAKSURA ISOLATED FORM,TAH WITH YEH ISOLATED FORM,AIN WITH ALEF M" ++
    "AKSURA ISOLATED FORM,AIN WITH YEH ISOLATED FORM,GHAIN WITH ALEF MAKSURA ISOLATED FORM,GHAI" ++
    "N WITH YEH ISOLATED FORM,SEEN WITH ALEF MAKSURA ISOLATED FORM,SEEN WITH YEH ISOLATED FORM," ++
    "SHEEN WITH ALEF MAKSURA ISOLATED FORM,SHEEN WITH YEH ISOLATED FORM,HAH WITH ALEF MAKSURA I" ++
    "SOLATED FORM,HAH WITH YEH ISOLATED FORM,JEEM WITH ALEF MAKSURA ISOLATED FORM,JEEM WITH YEH" ++
    " ISOLATED FORM,KHAH WITH ALEF MAKSURA ISOLATED FORM,KHAH WITH YEH ISOLATED FORM,SAD WITH A" ++
    "LEF MAKSURA ISOLATED FORM,SAD WITH YEH ISOLATED FORM,DAD WITH ALEF MAKSURA ISOLATED FORM,D" ++
    "AD WITH YEH ISOLATED FORM,SHEEN WITH JEEM ISOLATED FORM,SHEEN WITH HAH ISOLATED FORM,SHEEN" ++
    " WITH KHAH ISOLATED FORM,SHEEN WITH MEEM ISOLATED FORM,SHEEN WITH REH ISOLATED FORM,SEEN W" ++
    "ITH REH ISOLATED FORM,SAD WITH REH ISOLATED FORM,DAD WITH REH ISOLATED FORM,TAH WITH ALEF " ++
    "MAKSURA FINAL FORM,TAH WITH YEH FINAL FORM,AIN WITH ALEF MAKSURA FINAL FORM,AIN WITH YEH F" ++
    "INAL FORM,GHAIN WITH ALEF MAKSURA FINAL FORM,GHAIN WITH YEH FINAL FORM,SEEN WITH ALEF MAKS" ++
    "URA FINAL FORM,SEEN WITH YEH FINAL FORM,SHEEN WITH ALEF MAKSURA FINAL FORM,SHEEN WITH YEH " ++
    "FINAL FORM,HAH WITH ALEF MAKSURA FINAL FORM,HAH WITH YEH FINAL FORM,JEEM WITH ALEF MAKSURA" ++
    " FINAL FORM,JEEM WITH YEH FINAL FORM,KHAH WITH ALEF MAKSURA FINAL FORM,KHAH WITH YEH FINAL" ++
    " FORM,SAD WITH ALEF MAKSURA FINAL FORM,SAD WITH YEH FINAL FORM,DAD WITH ALEF MAKSURA FINAL" ++
    " FORM,DAD WITH YEH FINAL FORM,SHEEN WITH JEEM FINAL FORM,SHEEN WITH HAH FINAL FORM,SHEEN W" ++
    "ITH KHAH FINAL FORM,SHEEN WITH MEEM FINAL FORM,SHEEN WITH REH FINAL FORM,SEEN WITH REH FIN" ++
    "AL FORM,SAD WITH REH FINAL FORM,DAD WITH REH FINAL FORM,SHEEN WITH JEEM INITIAL FORM,SHEEN" ++
    " WITH HAH INITIAL FORM,SHEEN WITH KHAH INITIAL FORM,SHEEN WITH MEEM INITIAL FORM,SEEN WITH" ++
    " HEH INITIAL FORM,SHEEN WITH HEH INITIAL FORM,TAH WITH MEEM INITIAL FORM,SEEN WITH JEEM ME" ++
    "DIAL FORM,SEEN WITH HAH MEDIAL FORM,SEEN WITH KHAH MEDIAL FORM,SHEEN WITH JEEM MEDIAL FORM" ++
    ",SHEEN WITH HAH MEDIAL FORM,SHEEN WITH KHAH MEDIAL FORM,TAH WITH MEEM MEDIAL FORM,ZAH WITH" ++
    " MEEM MEDIAL FORM,ALEF WITH FATHATAN FINAL FORM,ALEF WITH FATHATAN ISOLATED FORM"⟩,
  ⟨0xfd3e, "", "ORNATE LEFT PARENTHESIS,ORNATE RIGHT PARENTHESIS,ARABIC LIGATURE RAHIMAHU ALLAAH"⟩,
  ⟨0xfd41, "ARABIC LIGATURE RADI ALLAAHU ANH", ",AA,UM,UMAA,UNNA"⟩,
  ⟨0xfd46, "ARABIC LIGATURE ",
    "SALLALLAAHU ALAYHI WA-AALIH,ALAYHI AS-SALAAM,ALAYHIM AS-SALAAM,ALAYHIMAA AS-SALAAM,ALAYHI " ++
    "AS-SALAATU WAS-SALAAM,QUDDISA SIRRAH,SALLALLAHU ALAYHI WAAALIHEE WA-SALLAM,ALAYHAA AS-SALA" ++
    "AM,TABAARAKA WA-TAAALAA,RAHIMAHUM ALLAAH,TEH WITH JEEM WITH MEEM INITIAL FORM,TEH WITH HAH" ++
    " WITH JEEM FINAL FORM,TEH WITH HAH WITH JEEM INITIAL FORM,TEH WITH HAH WITH MEEM INITIAL F" ++
    "ORM,TEH WITH KHAH WITH MEEM INITIAL FORM,TEH WITH MEEM WITH JEEM INITIAL FORM,TEH WITH MEE" ++
    "M WITH HAH INITIAL FORM,TEH WITH MEEM WITH KHAH INITIAL FORM,JEEM WITH MEEM WITH HAH FINAL" ++
    " FORM,JEEM WITH MEEM WITH HAH INITIAL FORM,HAH WITH MEEM WITH YEH FINAL FORM,HAH WITH MEEM" ++
    " WITH ALEF MAKSURA FINAL FORM,SEEN WITH HAH WITH JEEM INITIAL FORM,SEEN WITH JEEM WITH HAH" ++
    " INITIAL FORM,SEEN WITH JEEM WITH ALEF MAKSURA FINAL FORM"⟩,
  ⟨0xfd5f, "ARABIC LIGATURE SEEN WITH MEEM WITH ",
    "HAH FINAL FORM,HAH INITIAL FORM,JEEM INITIAL FORM,MEEM FINAL FORM,MEEM INITIAL FORM"⟩,
  ⟨0xfd64, "ARABIC LIGATURE SAD WITH ",
    "HAH WITH HAH FINAL FORM,HAH WITH HAH INITIAL FORM,MEEM WITH MEEM FINAL FORM"⟩,
  ⟨0xfd67, "ARABIC LIGATURE SHEEN WITH ",
    "HAH WITH MEEM FINAL FORM,HAH WITH MEEM INITIAL FORM,JEEM WITH YEH FINAL FORM,MEEM WITH KHA" ++
    "H FINAL FORM,MEEM WITH KHAH INITIAL FORM,MEEM WITH MEEM FINAL FORM,MEEM WITH MEEM INITIAL " ++
    "FORM"⟩,
  ⟨0xfd6e, "ARABIC LIGATURE ",
    "DAD WITH HAH WITH ALEF MAKSURA FINAL FORM,DAD WITH KHAH WITH MEEM FINAL FORM,DAD WITH KHAH" ++
    " WITH MEEM INITIAL FORM,TAH WITH MEEM WITH HAH FINAL FORM,TAH WITH MEEM WITH HAH INITIAL F" ++
    "ORM,TAH WITH MEEM WITH MEEM INITIAL FORM,TAH WITH MEEM WITH YEH FINAL FORM,AIN WITH JEEM W" ++
    "ITH MEEM FINAL FORM,AIN WITH MEEM WITH MEEM FINAL FORM,AIN WITH MEEM WITH MEEM INITIAL FOR" ++
    "M,AIN WITH MEEM WITH ALEF MAKSURA FINAL FORM,GHAIN WITH MEEM WITH MEEM FINAL FORM,GHAIN WI" ++
    "TH MEEM WITH YEH FINAL FORM,GHAIN WITH MEEM WITH ALEF MAKSURA FINAL FORM,FEH WITH KHAH WIT" ++
    "H MEEM FINAL FORM,FEH WITH KHAH WITH MEEM INITIAL FORM,QAF WITH MEEM WITH HAH FINAL FORM,Q" ++
    "AF WITH MEEM WITH MEEM FINAL FORM"⟩,
  ⟨0xfd80, "ARABIC LIGATURE LAM WITH ",
    "HAH WITH MEEM FINAL FORM,HAH WITH YEH FINAL FORM,HAH WITH ALEF MAKSURA FINAL FORM,JEEM WIT" ++
    "H JEEM INITIAL FORM,JEEM WITH JEEM FINAL FORM,KHAH WITH MEEM FINAL FORM,KHAH WITH MEEM INI" ++
    "TIAL FORM,MEEM WITH HAH FINAL FORM,MEEM WITH HAH INITIAL FORM"⟩,
  ⟨0xfd89, "ARABIC LIGATURE MEEM WITH ",
    "HAH WITH JEEM INITIAL FORM,HAH WITH MEEM INITIAL FORM,HAH WITH YEH FINAL FORM,JEEM WITH HA" ++
    "H INITIAL FORM,JEEM WITH MEEM INITIAL FORM,KHAH WITH JEEM INITIAL FORM,KHAH WITH MEEM INIT" ++
    "IAL FORM,…,…,JEEM WITH KHAH INITIAL FORM"⟩,
  ⟨0xfd93, "ARABIC LIGATURE ",
    "HEH WITH MEEM WITH JEEM INITIAL FORM,HEH WITH MEEM WITH MEEM INITIAL FORM,NOON WITH HAH WI" ++
    "TH MEEM INITIAL FORM,NOON WITH HAH WITH ALEF MAKSURA FINAL FORM,NOON WITH JEEM WITH MEEM F" ++
    "INAL FORM,NOON WITH JEEM WITH MEEM INITIAL FORM,NOON WITH JEEM WITH ALEF MAKSURA FINAL FOR" ++
    "M,NOON WITH MEEM WITH YEH FINAL FORM,NOON WITH MEEM WITH ALEF MAKSURA FINAL FORM,YEH WITH " ++
    "MEEM WITH MEEM FINAL FORM,YEH WITH MEEM WITH MEEM INITIAL FORM,BEH WITH KHAH WITH YEH FINA" ++
    "L FORM,TEH WITH JEEM WITH YEH FINAL FORM,TEH WITH JEEM WITH ALEF MAKSURA FINAL FORM,TEH WI" ++
    "TH KHAH WITH YEH FINAL FORM,TEH WITH KHAH WITH ALEF MAKSURA FINAL FORM,TEH WITH MEEM WITH " ++
    "YEH FINAL FORM,TEH WITH MEEM WITH ALEF MAKSURA FINAL FORM,JEEM WITH MEEM WITH YEH FINAL FO" ++
    "RM,JEEM WITH HAH WITH ALEF MAKSURA FINAL FORM,JEEM WITH MEEM WITH ALEF MAKSURA FINAL FORM," ++
    "SEEN WITH KHAH WITH ALEF MAKSURA FINAL FORM,SAD WITH HAH WITH YEH FINAL FORM,SHEEN WITH HA" ++
    "H WITH YEH FINAL FORM,DAD WITH HAH WITH YEH FINAL FORM,LAM WITH JEEM WITH YEH FINAL FORM,L" ++
    "AM WITH MEEM WITH YEH FINAL FORM,YEH WITH HAH WITH YEH FINAL FORM,YEH WITH JEEM WITH YEH F" ++
    "INAL FORM,YEH WITH MEEM WITH YEH FINAL FORM,MEEM WITH MEEM WITH YEH FINAL FORM,QAF WITH ME" ++
    "EM WITH YEH FINAL FORM,NOON WITH HAH WITH YEH FINAL FORM,QAF WITH MEEM WITH HAH INITIAL FO" ++
    "RM,LAM WITH HAH WITH MEEM INITIAL FORM,AIN WITH MEEM WITH YEH FINAL FORM,KAF WITH MEEM WIT" ++
    "H YEH FINAL FORM,NOON WITH JEEM WITH HAH INITIAL FORM,MEEM WITH KHAH WITH YEH FINAL FORM,L" ++
    "AM WITH JEEM WITH MEEM INITIAL FORM,KAF WITH MEEM WITH MEEM FINAL FORM,LAM WITH JEEM WITH " ++
    "MEEM FINAL FORM,NOON WITH JEEM WITH HAH FINAL FORM,JEEM WITH HAH WITH YEH FINAL FORM,HAH W" ++
    "ITH JEEM WITH YEH FINAL FORM,MEEM WITH JEEM WITH YEH FINAL FORM,FEH WITH MEEM WITH YEH FIN" ++
    "AL FORM,BEH WITH HAH WITH YEH FINAL FORM,KAF WITH MEEM WITH MEEM INITIAL FORM,AIN WITH JEE" ++
    "M WITH MEEM INITIAL FORM,SAD WITH MEEM WITH MEEM INITIAL FORM,SEEN WITH KHAH WITH YEH FINA" ++
    "L FORM,NOON WITH JEEM WITH YEH FINAL FORM,…,…,…,…,…,…,…,SALAAMUHU ALAYNAA"⟩,
  ⟨0xfdf0, "ARABIC LIGATURE ",
    "SALLA USED AS KORANIC STOP SIGN ISOLATED FORM,QALA USED AS KORANIC STOP SIGN ISOLATED FORM" ++
    ",ALLAH ISOLATED FORM,AKBAR ISOLATED FORM,MOHAMMAD ISOLATED FORM,SALAM ISOLATED FORM,RASOUL" ++
    " ISOLATED FORM,ALAYHE ISOLATED FORM,WASALLAM ISOLATED FORM,SALLA ISOLATED FORM,SALLALLAHOU" ++
    " ALAYHE WASALLAM,JALLAJALALOUHOU"⟩,
  ⟨0xfdfc, "RIAL SIGN", ""⟩,
  ⟨0xfdfd, "ARABIC LIGATURE ", "BISMILLAH AR-RAHMAN AR-RAHEEM,SUBHAANAHU WA TAAALAA,AZZA WA JALL"⟩,
  ⟨0xfe00, "VARIATION SELECTOR-", "1,2,3,4,5,6,7,8,9,10,11,12,13,14,15,16"⟩,
  ⟨0xfe10, "PRESENTATION FORM FOR VERTICAL ",
    "COMMA,IDEOGRAPHIC COMMA,IDEOGRAPHIC FULL STOP,COLON,SEMICOLON,EXCLAMATION MARK,QUESTION MA" ++
    "RK,LEFT WHITE LENTICULAR BRACKET,RIGHT WHITE LENTICULAR BRAKCET,HORIZONTAL ELLIPSIS"⟩,
  ⟨0xfe20, "COMBINING ",
    "LIGATURE LEFT HALF,LIGATURE RIGHT HALF,DOUBLE TILDE LEFT HALF,DOUBLE TILDE RIGHT HALF,MACR" ++
    "ON LEFT HALF,MACRON RIGHT HALF,CONJOINING MACRON,LIGATURE LEFT HALF BELOW,LIGATURE RIGHT H" ++
    "ALF BELOW,TILDE LEFT HALF BELOW,TILDE RIGHT HALF BELOW,MACRON LEFT HALF BELOW,MACRON RIGHT" ++
    " HALF BELOW,CONJOINING MACRON BELOW,CYRILLIC TITLO LEFT HALF,CYRILLIC TITLO RIGHT HALF"⟩,
  ⟨0xfe30, "PRESENTATION FORM FOR VERTICAL ",
    "TWO DOT LEADER,EM DASH,EN DASH,LOW LINE,WAVY LOW LINE,LEFT PARENTHESIS,RIGHT PARENTHESIS,L" ++
    "EFT CURLY BRACKET,RIGHT CURLY BRACKET,LEFT TORTOISE SHELL BRACKET,RIGHT TORTOISE SHELL BRA" ++
    "CKET,LEFT BLACK LENTICULAR BRACKET,RIGHT BLACK LENTICULAR BRACKET,LEFT DOUBLE ANGLE BRACKE" ++
    "T,RIGHT DOUBLE ANGLE BRACKET,LEFT ANGLE BRACKET,RIGHT ANGLE BRACKET,LEFT CORNER BRACKET,RI" ++
    "GHT CORNER BRACKET,LEFT WHITE CORNER BRACKET,RIGHT WHITE CORNER BRACKET"⟩,
  ⟨0xfe45, "",
    "SESAME DOT,WHITE SESAME DOT,PRESENTATION FORM FOR VERTICAL LEFT SQUARE BRACKET,PRESENTATIO" ++
    "N FORM FOR VERTICAL RIGHT SQUARE BRACKET,DASHED OVERLINE,CENTRELINE OVERLINE,WAVY OVERLINE" ++
    ",DOUBLE WAVY OVERLINE,DASHED LOW LINE,CENTRELINE LOW LINE,WAVY LOW LINE"⟩,
  ⟨0xfe50, "SMALL ",
    "COMMA,IDEOGRAPHIC COMMA,FULL STOP,…,SEMICOLON,COLON,QUESTION MARK,EXCLAMATION MARK,EM DASH" ++
    ",LEFT PARENTHESIS,RIGHT PARENTHESIS,LEFT CURLY BRACKET,RIGHT CURLY BRACKET,LEFT TORTOISE S" ++
    "HELL BRACKET,RIGHT TORTOISE SHELL BRACKET,NUMBER SIGN,AMPERSAND,ASTERISK,PLUS SIGN,HYPHEN-" ++
    "MINUS,LESS-THAN SIGN,GREATER-THAN SIGN,EQUALS SIGN,…,REVERSE SOLIDUS,DOLLAR SIGN,PERCENT S" ++
    "IGN,COMMERCIAL AT"⟩,
  ⟨0xfe70, "ARABIC ",
    "FATHATAN ISOLATED FORM,TATWEEL WITH FATHATAN ABOVE,DAMMATAN ISOLATED FORM,TAIL FRAGMENT,KA" ++
    "SRATAN ISOLATED FORM,…,FATHA ISOLATED FORM,FATHA MEDIAL FORM,DAMMA ISOLATED FORM,DAMMA MED" ++
    "IAL FORM,KASRA ISOLATED FORM,KASRA MEDIAL FORM,SHADDA ISOLATED FORM,SHADDA MEDIAL FORM,SUK" ++
    "UN ISOLATED FORM,SUKUN MEDIAL FORM"⟩,
  ⟨0xfe80, "ARABIC LETTER ",
    "HAMZA ISOLATED FORM,ALEF WITH MADDA ABOVE ISOLATED FORM,ALEF WITH MADDA ABOVE FINAL FORM,A" ++
    "LEF WITH HAMZA ABOVE ISOLATED FORM,ALEF WITH HAMZA ABOVE FINAL FORM,WAW WITH HAMZA ABOVE I" ++
    "SOLATED FORM,WAW WITH HAMZA ABOVE FINAL FORM,ALEF WITH HAMZA BELOW ISOLATED FORM,ALEF WITH" ++
    " HAMZA BELOW FINAL FORM,YEH WITH HAMZA ABOVE ISOLATED FORM,YEH WITH HAMZA ABOVE FINAL FORM" ++
    ",YEH WITH HAMZA ABOVE INITIAL FORM,YEH WITH HAMZA ABOVE MEDIAL FORM,ALEF ISOLATED FORM,ALE" ++
    "F FINAL FORM,BEH ISOLATED FORM,BEH FINAL FORM,BEH INITIAL FORM,BEH MEDIAL FORM,TEH MARBUTA" ++
    " ISOLATED FORM,TEH MARBUTA FINAL FORM,TEH ISOLATED FORM,TEH FINAL FORM,TEH INITIAL FORM,TE" ++
    "H MEDIAL FORM,THEH ISOLATED FORM,THEH FINAL FORM,THEH INITIAL FORM,THEH MEDIAL FORM,JEEM I" ++
    "SOLATED FORM,JEEM FINAL FORM,JEEM INITIAL FORM,JEEM MEDIAL FORM,HAH ISOLATED FORM,HAH FINA" ++
    "L FORM,HAH INITIAL FORM,HAH MEDIAL FORM,KHAH ISOLATED FORM,KHAH FINAL FORM,KHAH INITIAL FO" ++
    "RM,KHAH MEDIAL FORM,DAL ISOLATED FORM,DAL FINAL FORM,THAL ISOLATED FORM,THAL FINAL FORM,RE" ++
    "H ISOLATED FORM,REH FINAL FORM,ZAIN ISOLATED FORM,ZAIN FINAL FORM,SEEN ISOLATED FORM,SEEN " ++
    "FINAL FORM,SEEN INITIAL FORM,SEEN MEDIAL FORM,SHEEN ISOLATED FORM,SHEEN FINAL FORM,SHEEN I" ++
    "NITIAL FORM,SHEEN MEDIAL FORM,SAD ISOLATED FORM,SAD FINAL FORM,SAD INITIAL FORM,SAD MEDIAL" ++
    " FORM,DAD ISOLATED FORM,DAD FINAL FORM,DAD INITIAL FORM,DAD MEDIAL FORM,TAH ISOLATED FORM," ++
    "TAH FINAL FORM,TAH INITIAL FORM,TAH MEDIAL FORM,ZAH ISOLATED FORM,ZAH FINAL FORM,ZAH INITI" ++
    "AL FORM,ZAH MEDIAL FORM,AIN ISOLATED FORM,AIN FINAL FORM,AIN INITIAL FORM,AIN MEDIAL FORM," ++
    "GHAIN ISOLATED FORM,GHAIN FINAL FORM,GHAIN INITIAL FORM,GHAIN MEDIAL FORM,FEH ISOLATED FOR" ++
    "M,FEH FINAL FORM,FEH INITIAL FORM,FEH MEDIAL FORM,QAF ISOLATED FORM,QAF FINAL FORM,QAF INI" ++
    "TIAL FORM,QAF MEDIAL FORM,KAF ISOLATED FORM,KAF FINAL FORM,KAF INITIAL FORM,KAF MEDIAL FOR" ++
    "M,LAM ISOLATED FORM,LAM FINAL FORM,LAM INITIAL FORM,LAM MEDIAL FORM,MEEM ISOLATED FORM,MEE" ++
    "M FINAL FORM,MEEM INITIAL FORM,MEEM MEDIAL FORM,NOON ISOLATED FORM,NOON FINAL FORM,NOON IN" ++
    "ITIAL FORM,NOON MEDIAL FORM,HEH ISOLATED FORM,HEH FINAL FORM,HEH INITIAL FORM,HEH MEDIAL F" ++
    "ORM,WAW ISOLATED FORM,WAW FINAL FORM,ALEF MAKSURA ISOLATED FORM,ALEF MAKSURA FINAL FORM,YE" ++
    "H ISOLATED FORM,YEH FINAL FORM,YEH INITIAL FORM,YEH MEDIAL FORM"⟩,
  ⟨0xfef5, "ARABIC LIGATURE LAM WITH ALEF ",
    "WITH MADDA ABOVE ISOLATED FORM,WITH MADDA ABOVE FINAL FORM,WITH HAMZA ABOVE ISOLATED FORM," ++
    "WITH HAMZA ABOVE FINAL FORM,WITH HAMZA BELOW ISOLATED FORM,WITH HAMZA BELOW FINAL FORM,ISO" ++
    "LATED FORM,FINAL FORM"⟩,
  ⟨0xfeff, "ZERO WIDTH NO-BREAK SPACE", ""⟩,
  ⟨0xff01, "FULLWIDTH ",
    "EXCLAMATION MARK,QUOTATION MARK,NUMBER SIGN,DOLLAR SIGN,PERCENT SIGN,AMPERSAND,APOSTROPHE," ++
    "LEFT PARENTHESIS,RIGHT PARENTHESIS,ASTERISK,PLUS SIGN,COMMA,HYPHEN-MINUS,FULL STOP,SOLIDUS" ++
    ",DIGIT ZERO,DIGIT ONE,DIGIT TWO,DIGIT THREE,DIGIT FOUR,DIGIT FIVE,DIGIT SIX,DIGIT SEVEN,DI" ++
    "GIT EIGHT,DIGIT NINE,COLON,SEMICOLON,LESS-THAN SIGN,EQUALS SIGN,GREATER-THAN SIGN,QUESTION" ++
    " MARK,COMMERCIAL AT"⟩,
  ⟨0xff21, "FULLWIDTH LATIN CAPITAL LETTER ",
    "A,B,C,D,E,F,G,H,I,J,K,L,M,N,O,P,Q,R,S,T,U,V,W,X,Y,Z"⟩,
  ⟨0xff3b, "FULLWIDTH ",
    "LEFT SQUARE BRACKET,REVERSE SOLIDUS,RIGHT SQUARE BRACKET,CIRCUMFLEX ACCENT,LOW LINE,GRAVE " ++
    "ACCENT"⟩,
  ⟨0xff41, "FULLWIDTH LATIN SMALL LETTER ", "A,B,C,D,E,F,G,H,I,J,K,L,M,N,O,P,Q,R,S,T,U,V,W,X,Y,Z"⟩,
  ⟨0xff5b, "FULLWIDTH ",
    "LEFT CURLY BRACKET,VERTICAL LINE,RIGHT CURLY BRACKET,TILDE,LEFT WHITE PARENTHESIS,RIGHT WH" ++
    "ITE PARENTHESIS"⟩,
  ⟨0xff61, "HALFWIDTH ",
    "IDEOGRAPHIC FULL STOP,LEFT CORNER BRACKET,RIGHT CORNER BRACKET,IDEOGRAPHIC COMMA,KATAKANA " ++
    "MIDDLE DOT,KATAKANA LETTER WO"⟩,
  ⟨0xff67, "HALFWIDTH KATAKANA LETTER SMALL ", "A,I,U,E,O,YA,YU,YO,TU"⟩,
  ⟨0xff70, "HALFWIDTH KATAKANA-HIRAGANA PROLONGED SOUND MARK", ""⟩,
  ⟨0xff71, "HALFWIDTH KATAKANA LETTER ",
    "A,I,U,E,O,KA,KI,KU,KE,KO,SA,SI,SU,SE,SO,TA,TI,TU,TE,TO,NA,NI,NU,NE,NO,HA,HI,HU,HE,HO,MA,MI" ++
    ",MU,ME,MO,YA,YU,YO,RA,RI,RU,RE,RO,WA,N"⟩,
  ⟨0xff9e, "HALFWIDTH ",
    "KATAKANA VOICED SOUND MARK,KATAKANA SEMI-VOICED SOUND MARK,HANGUL FILLER"⟩,
  ⟨0xffa1, "HALFWIDTH HANGUL LETTER ",
    "KIYEOK,SSANGKIYEOK,KIYEOK-SIOS,NIEUN,NIEUN-CIEUC,NIEUN-HIEUH,TIKEUT,SSANGTIKEUT,RIEUL,RIEU" ++
    "L-KIYEOK,RIEUL-MIEUM,RIEUL-PIEUP,RIEUL-SIOS,RIEUL-THIEUTH,RIEUL-PHIEUPH,RIEUL-HIEUH,MIEUM," ++
    "PIEUP,SSANGPIEUP,PIEUP-SIOS,SIOS,SSANGSIOS,IEUNG,CIEUC,SSANGCIEUC,CHIEUCH,KHIEUKH,THIEUTH," ++
    "PHIEUPH,HIEUH,…,…,…,A,AE,YA,YAE,EO,E,…,…,YEO,YE,O,WA,WAE,OE,…,…,YO,U,WEO,WE,WI,YU,…,…,EU,Y" ++
    "I,I"⟩,
  ⟨0xffe0, "FULLWIDTH ", "CENT SIGN,POUND SIGN,NOT SIGN,MACRON,BROKEN BAR,YEN SIGN,WON SIGN"⟩,
  ⟨0xffe8, "HALFWIDTH ",
    "FORMS LIGHT VERTICAL,LEFTWARDS ARROW,UPWARDS ARROW,RIGHTWARDS ARROW,DOWNWARDS ARROW,BLACK " ++
    "SQUARE,WHITE CIRCLE"⟩,
  ⟨0xfff9, "INTERLINEAR ANNOTATION ", "ANCHOR,SEPARATOR,TERMINATOR"⟩,
  ⟨0xfffc, "", "OBJECT REPLACEMENT CHARACTER,REPLACEMENT CHARACTER"⟩]

end Stencil.Text.Name
