import Stencil.Text.Name.Run

/-! Names of the characters from U+1D000 on, among them those of notations and pictures. -/
namespace Stencil.Text.Name

def figures : List Run := [
  ⟨0x1d000, "BYZANTINE MUSICAL SYMBOL ",
    "PSILI,DASEIA,PERISPOMENI,OXEIA EKFONITIKON,OXEIA DIPLI,VAREIA EKFONITIKON,VAREIA DIPLI,KAT" ++
    "HISTI,SYRMATIKI,PARAKLITIKI,YPOKRISIS,YPOKRISIS DIPLI,KREMASTI,APESO EKFONITIKON,EXO EKFON" ++
    "ITIKON,TELEIA,KENTIMATA,APOSTROFOS,APOSTROFOS DIPLI,SYNEVMA,THITA,OLIGON ARCHAION,GORGON A" ++
    "RCHAION,PSILON,CHAMILON,VATHY,ISON ARCHAION,KENTIMA ARCHAION,KENTIMATA ARCHAION,SAXIMATA,P" ++
    "ARICHON,STAVROS APODEXIA,OXEIAI ARCHAION,VAREIAI ARCHAION,APODERMA ARCHAION,APOTHEMA,KLASM" ++
    "A,REVMA,PIASMA ARCHAION,TINAGMA,ANATRICHISMA,SEISMA,SYNAGMA ARCHAION,SYNAGMA META STAVROU," ++
    "OYRANISMA ARCHAION,THEMA,LEMOI,DYO,TRIA,TESSERA,KRATIMATA,APESO EXO NEO,FTHORA ARCHAION,IM" ++
    "IFTHORA,TROMIKON ARCHAION,KATAVA TROMIKON,PELASTON,PSIFISTON,KONTEVMA,CHOREVMA ARCHAION,RA" ++
    "PISMA,PARAKALESMA ARCHAION,PARAKLITIKI ARCHAION,ICHADIN,NANA,PETASMA,KONTEVMA ALLO,TROMIKO" ++
    "N ALLO,STRAGGISMATA,GRONTHISMATA,ISON NEO,OLIGON NEO,OXEIA NEO,PETASTI,KOUFISMA,PETASTOKOU" ++
    "FISMA,KRATIMOKOUFISMA,PELASTON NEO,KENTIMATA NEO ANO,KENTIMA NEO ANO,YPSILI,APOSTROFOS NEO" ++
    ",APOSTROFOI SYNDESMOS NEO,YPORROI,KRATIMOYPORROON,ELAFRON,CHAMILI,MIKRON ISON,VAREIA NEO,P" ++
    "IASMA NEO,PSIFISTON NEO,OMALON,ANTIKENOMA,LYGISMA,PARAKLITIKI NEO,PARAKALESMA NEO,ETERON P" ++
    "ARAKALESMA,KYLISMA,ANTIKENOKYLISMA,TROMIKON NEO,EKSTREPTON,SYNAGMA NEO,SYRMA,CHOREVMA NEO," ++
    "EPEGERMA,SEISMA NEO,XIRON KLASMA,TROMIKOPSIFISTON,PSIFISTOLYGISMA,TROMIKOLYGISMA,TROMIKOPA" ++
    "RAKALESMA,PSIFISTOPARAKALESMA,TROMIKOSYNAGMA,PSIFISTOSYNAGMA,GORGOSYNTHETON,ARGOSYNTHETON," ++
    "ETERON ARGOSYNTHETON,OYRANISMA NEO,THEMATISMOS ESO,THEMATISMOS EXO,THEMA APLOUN,THES KAI A" ++
    "POTHES,KATAVASMA,ENDOFONON,YFEN KATO,YFEN ANO,STAVROS,KLASMA ANO,DIPLI ARCHAION,KRATIMA AR" ++
    "CHAION,KRATIMA ALLO,KRATIMA NEO,APODERMA NEO,APLI,DIPLI,TRIPLI,TETRAPLI,KORONIS,LEIMMA ENO" ++
    "S CHRONOU,LEIMMA DYO CHRONON,LEIMMA TRION CHRONON,LEIMMA TESSARON CHRONON,LEIMMA IMISEOS C" ++
    "HRONOU,GORGON NEO ANO,GORGON PARESTIGMENON ARISTERA,GORGON PARESTIGMENON DEXIA,DIGORGON,DI" ++
    "GORGON PARESTIGMENON ARISTERA KATO,DIGORGON PARESTIGMENON ARISTERA ANO,DIGORGON PARESTIGME" ++
    "NON DEXIA,TRIGORGON,ARGON,IMIDIARGON,DIARGON,AGOGI POLI ARGI,AGOGI ARGOTERI,AGOGI ARGI,AGO" ++
    "GI METRIA,AGOGI MESI,AGOGI GORGI,AGOGI GORGOTERI,AGOGI POLI GORGI,MARTYRIA PROTOS ICHOS,MA" ++
    "RTYRIA ALLI PROTOS ICHOS,MARTYRIA DEYTEROS ICHOS,MARTYRIA ALLI DEYTEROS ICHOS,MARTYRIA TRI" ++
    "TOS ICHOS,MARTYRIA TRIFONIAS,MARTYRIA TETARTOS ICHOS,MARTYRIA TETARTOS LEGETOS ICHOS,MARTY" ++
    "RIA LEGETOS ICHOS,MARTYRIA PLAGIOS ICHOS,ISAKIA TELOUS ICHIMATOS,APOSTROFOI TELOUS ICHIMAT" ++
    "OS,FANEROSIS TETRAFONIAS,FANEROSIS MONOFONIAS,FANEROSIS DIFONIAS,MARTYRIA VARYS ICHOS,MART" ++
    "YRIA PROTOVARYS ICHOS,MARTYRIA PLAGIOS TETARTOS ICHOS,GORTHMIKON N APLOUN,GORTHMIKON N DIP" ++
    "LOUN,ENARXIS KAI FTHORA VOU,IMIFONON,IMIFTHORON,FTHORA ARCHAION DEYTEROU ICHOU,FTHORA DIAT" ++
    "ONIKI PA,FTHORA DIATONIKI NANA,FTHORA NAOS ICHOS,FTHORA DIATONIKI DI,FTHORA SKLIRON DIATON" ++
    "ON DI,FTHORA DIATONIKI KE,FTHORA DIATONIKI ZO,FTHORA DIATONIKI NI KATO,FTHORA DIATONIKI NI" ++
    " ANO,FTHORA MALAKON CHROMA DIFONIAS,FTHORA MALAKON CHROMA MONOFONIAS,FHTORA SKLIRON CHROMA" ++
    " VASIS,FTHORA SKLIRON CHROMA SYNAFI,FTHORA NENANO,CHROA ZYGOS,CHROA KLITON,CHROA SPATHI,FT" ++
    "HORA I YFESIS TETARTIMORION,FTHORA ENARMONIOS ANTIFONIA,YFESIS TRITIMORION,DIESIS TRITIMOR" ++
    "ION,DIESIS TETARTIMORION,DIESIS APLI DYO DODEKATA,DIESIS MONOGRAMMOS TESSERA DODEKATA,DIES" ++
    "IS DIGRAMMOS EX DODEKATA,DIESIS TRIGRAMMOS OKTO DODEKATA,YFESIS APLI DYO DODEKATA,YFESIS M" ++
    "ONOGRAMMOS TESSERA DODEKATA,YFESIS DIGRAMMOS EX DODEKATA,YFESIS TRIGRAMMOS OKTO DODEKATA,G" ++
    "ENIKI DIESIS,GENIKI YFESIS,DIASTOLI APLI MIKRI,DIASTOLI APLI MEGALI,DIASTOLI DIPLI,DIASTOL" ++
    "I THESEOS,SIMANSIS THESEOS,SIMANSIS THESEOS DISIMOU,SIMANSIS THESEOS TRISIMOU,SIMANSIS THE" ++
    "SEOS TETRASIMOU,SIMANSIS ARSEOS,SIMANSIS ARSEOS DISIMOU,SIMANSIS ARSEOS TRISIMOU,SIMANSIS " ++
    "ARSEOS TETRASIMOU,DIGRAMMA GG,DIFTOGGOS OU,STIGMA,ARKTIKO PA,ARKTIKO VOU,ARKTIKO GA,ARKTIK" ++
    "O DI,ARKTIKO KE,ARKTIKO ZO,ARKTIKO NI,KENTIMATA NEO MESO,KENTIMA NEO MESO,KENTIMATA NEO KA" ++
    "TO,KENTIMA NEO KATO,KLASMA KATO,GORGON NEO KATO"⟩,
  ⟨0x1d100, "MUSICAL SYMBOL ",
    "SINGLE BARLINE,DOUBLE BARLINE,FINAL BARLINE,REVERSE FINAL BARLINE,DASHED BARLINE,SHORT BAR" ++
    "LINE,LEFT REPEAT SIGN,RIGHT REPEAT SIGN,REPEAT DOTS,DAL SEGNO,DA CAPO,SEGNO,CODA,REPEATED " ++
    "FIGURE-1,REPEATED FIGURE-2,REPEATED FIGURE-3,FERMATA,FERMATA BELOW,BREATH MARK,CAESURA,BRA" ++
    "CE,BRACKET,ONE-LINE STAFF,TWO-LINE STAFF,THREE-LINE STAFF,FOUR-LINE STAFF,FIVE-LINE STAFF," ++
    "SIX-LINE STAFF,SIX-STRING FRETBOARD,FOUR-STRING FRETBOARD,G CLEF,G CLEF OTTAVA ALTA,G CLEF" ++
    " OTTAVA BASSA,C CLEF,F CLEF,F CLEF OTTAVA ALTA,F CLEF OTTAVA BASSA,DRUM CLEF-1,DRUM CLEF-2" ++
    ",…,…,MULTIPLE MEASURE REST,DOUBLE SHARP,DOUBLE FLAT,FLAT UP,FLAT DOWN,NATURAL UP,NATURAL D" ++
    "OWN,SHARP UP,SHARP DOWN,QUARTER TONE SHARP,QUARTER TONE FLAT,COMMON TIME,CUT TIME,OTTAVA A" ++
    "LTA,OTTAVA BASSA,QUINDICESIMA ALTA,QUINDICESIMA BASSA,MULTI REST,WHOLE REST,HALF REST,QUAR" ++
    "TER REST,EIGHTH REST,SIXTEENTH REST,THIRTY-SECOND REST,SIXTY-FOURTH REST,ONE HUNDRED TWENT" ++
    "Y-EIGHTH REST,X NOTEHEAD,PLUS NOTEHEAD,CIRCLE X NOTEHEAD,SQUARE NOTEHEAD WHITE,SQUARE NOTE" ++
    "HEAD BLACK"⟩,
  ⟨0x1d148, "MUSICAL SYMBOL TRIANGLE NOTEHEAD ",
    "UP WHITE,UP BLACK,LEFT WHITE,LEFT BLACK,RIGHT WHITE,RIGHT BLACK,DOWN WHITE,DOWN BLACK,UP R" ++
    "IGHT WHITE,UP RIGHT BLACK"⟩,
  ⟨0x1d152, "MUSICAL SYMBOL ",
    "MOON NOTEHEAD WHITE,MOON NOTEHEAD BLACK,TRIANGLE-ROUND NOTEHEAD DOWN WHITE,TRIANGLE-ROUND " ++
    "NOTEHEAD DOWN BLACK,PARENTHESIS NOTEHEAD,VOID NOTEHEAD,NOTEHEAD BLACK,NULL NOTEHEAD,CLUSTE" ++
    "R NOTEHEAD WHITE,CLUSTER NOTEHEAD BLACK,BREVE,WHOLE NOTE,HALF NOTE,QUARTER NOTE,EIGHTH NOT" ++
    "E,SIXTEENTH NOTE,THIRTY-SECOND NOTE,SIXTY-FOURTH NOTE,ONE HUNDRED TWENTY-EIGHTH NOTE,COMBI" ++
    "NING STEM,COMBINING SPRECHGESANG STEM,COMBINING TREMOLO-1,COMBINING TREMOLO-2,COMBINING TR" ++
    "EMOLO-3,FINGERED TREMOLO-1,FINGERED TREMOLO-2,FINGERED TREMOLO-3,COMBINING AUGMENTATION DO" ++
    "T,COMBINING FLAG-1,COMBINING FLAG-2,COMBINING FLAG-3,COMBINING FLAG-4,COMBINING FLAG-5,BEG" ++
    "IN BEAM,END BEAM,BEGIN TIE,END TIE,BEGIN SLUR,END SLUR,BEGIN PHRASE,END PHRASE,COMBINING A" ++
    "CCENT,COMBINING STACCATO,COMBINING TENUTO,COMBINING STACCATISSIMO,COMBINING MARCATO,COMBIN" ++
    "ING MARCATO-STACCATO,COMBINING ACCENT-STACCATO,COMBINING LOURE,ARPEGGIATO UP,ARPEGGIATO DO" ++
    "WN,COMBINING DOIT,COMBINING RIP,COMBINING FLIP,COMBINING SMEAR,COMBINING BEND,COMBINING DO" ++
    "UBLE TONGUE,COMBINING TRIPLE TONGUE,RINFORZANDO,SUBITO,Z,PIANO,MEZZO,FORTE,CRESCENDO,DECRE" ++
    "SCENDO,GRACE NOTE SLASH,GRACE NOTE NO SLASH,TR,TURN,INVERTED TURN,TURN SLASH,TURN UP"⟩,
  ⟨0x1d19b, "MUSICAL SYMBOL ORNAMENT STROKE-", "1,2,3,4,5,6,7,8,9,10,11"⟩,
  ⟨0x1d1a6, "MUSICAL SYMBOL ",
    "HAUPTSTIMME,NEBENSTIMME,END OF STIMME,DEGREE SLASH,COMBINING DOWN BOW,COMBINING UP BOW,COM" ++
    "BINING HARMONIC,COMBINING SNAP PIZZICATO,PEDAL MARK,PEDAL UP MARK,HALF PEDAL MARK,GLISSAND" ++
    "O UP,GLISSANDO DOWN,WITH FINGERNAILS,DAMP,DAMP ALL,MAXIMA,LONGA,BREVIS,SEMIBREVIS WHITE,SE" ++
    "MIBREVIS BLACK,MINIMA,MINIMA BLACK,SEMIMINIMA WHITE,SEMIMINIMA BLACK,FUSA WHITE,FUSA BLACK" ++
    ",LONGA PERFECTA REST,LONGA IMPERFECTA REST,BREVIS REST,SEMIBREVIS REST,MINIMA REST,SEMIMIN" ++
    "IMA REST"⟩,
  ⟨0x1d1c7, "MUSICAL SYMBOL TEMPUS PERFECTUM CUM PROLATIONE ",
    "PERFECTA,IMPERFECTA,PERFECTA DIMINUTION-1"⟩,
  ⟨0x1d1ca, "MUSICAL SYMBOL TEMPUS IMPERFECTUM CUM PROLATIONE ",
    "PERFECTA,IMPERFECTA,IMPERFECTA DIMINUTION-1,IMPERFECTA DIMINUTION-2,IMPERFECTA DIMINUTION-" ++
    "3"⟩,
  ⟨0x1d1cf, "MUSICAL SYMBOL ",
    "CROIX,GREGORIAN C CLEF,GREGORIAN F CLEF,SQUARE B,VIRGA,PODATUS,CLIVIS,SCANDICUS,CLIMACUS,T" ++
    "ORCULUS,PORRECTUS,PORRECTUS FLEXUS,SCANDICUS FLEXUS,TORCULUS RESUPINUS,PES SUBPUNCTIS,KIEV" ++
    "AN C CLEF,KIEVAN END OF PIECE,KIEVAN FINAL NOTE,KIEVAN RECITATIVE MARK,KIEVAN WHOLE NOTE,K" ++
    "IEVAN HALF NOTE,KIEVAN QUARTER NOTE STEM DOWN,KIEVAN QUARTER NOTE STEM UP,KIEVAN EIGHTH NO" ++
    "TE STEM DOWN,KIEVAN EIGHTH NOTE STEM UP,KIEVAN FLAT SIGN,SORI,KORON"⟩,
  ⟨0x1d200, "GREEK VOCAL NOTATION SYMBOL-",
    "1,2,3,4,5,6,7,8,9,10,11,12,13,14,15,16,17,18,19,20,21,22,23,24,50,51,52,53,54"⟩,
  ⟨0x1d21d, "GREEK INSTRUMENTAL NOTATION SYMBOL-",
    "1,2,4,5,7,8,11,12,13,14,17,18,19,23,24,25,26,27,29,30,32,36,37,38,39,40,42,43,45,47,48,49," ++
    "50,51,52,53,54"⟩,
  ⟨0x1d242, "COMBINING GREEK MUSICAL ", "TRISEME,TETRASEME,PENTASEME"⟩,
  ⟨0x1d245, "GREEK MUSICAL LEIMMA", ""⟩,
  ⟨0x1d2e0, "MAYAN NUMERAL ",
    "ZERO,ONE,TWO,THREE,FOUR,FIVE,SIX,SEVEN,EIGHT,NINE,TEN,ELEVEN,TWELVE,THIRTEEN,FOURTEEN,FIFT" ++
    "EEN,SIXTEEN,SEVENTEEN,EIGHTEEN,NINETEEN"⟩,
  ⟨0x1d300, "MONOGRAM FOR EARTH", ""⟩,
  ⟨0x1d301, "DIGRAM FOR ", "HEAVENLY EARTH,HUMAN EARTH,EARTHLY HEAVEN,EARTHLY HUMAN,EARTH"⟩,
  ⟨0x1d306, "TETRAGRAM FOR ",
    "CENTRE,FULL CIRCLE,MIRED,BARRIER,KEEPING SMALL,CONTRARIETY,ASCENT,OPPOSITION,BRANCHING OUT" ++
    ",DEFECTIVENESS OR DISTORTION,DIVERGENCE,YOUTHFULNESS,INCREASE,PENETRATION,REACH,CONTACT,HO" ++
    "LDING BACK,WAITING,FOLLOWING,ADVANCE,RELEASE,RESISTANCE,EASE,JOY,CONTENTION,ENDEAVOUR,DUTI" ++
    "ES,CHANGE,DECISIVENESS,BOLD RESOLUTION,PACKING,LEGION,CLOSENESS,KINSHIP,GATHERING,STRENGTH" ++
    ",PURITY,FULLNESS,RESIDENCE,LAW OR MODEL,RESPONSE,GOING TO MEET,ENCOUNTERS,STOVE,GREATNESS," ++
    "ENLARGEMENT,PATTERN,RITUAL,FLIGHT,VASTNESS OR WASTING,CONSTANCY,MEASURE,ETERNITY,UNITY,DIM" ++
    "INISHMENT,CLOSED MOUTH,GUARDEDNESS,GATHERING IN,MASSING,ACCUMULATION,EMBELLISHMENT,DOUBT,W" ++
    "ATCH,SINKING,INNER,DEPARTURE,DARKENING,DIMMING,EXHAUSTION,SEVERANCE,STOPPAGE,HARDNESS,COMP" ++
    "LETION,CLOSURE,FAILURE,AGGRAVATION,COMPLIANCE,ON THE VERGE,DIFFICULTIES,LABOURING,FOSTERIN" ++
    "G"⟩,
  ⟨0x1d360, "COUNTING ROD UNIT DIGIT ", "ONE,TWO,THREE,FOUR,FIVE,SIX,SEVEN,EIGHT,NINE"⟩,
  ⟨0x1d369, "COUNTING ROD TENS DIGIT ", "ONE,TWO,THREE,FOUR,FIVE,SIX,SEVEN,EIGHT,NINE"⟩,
  ⟨0x1d372, "IDEOGRAPHIC TALLY MARK ", "ONE,TWO,THREE,FOUR,FIVE"⟩,
  ⟨0x1d377, "TALLY MARK ", "ONE,FIVE"⟩,
  ⟨0x1d400, "MATHEMATICAL BOLD CAPITAL ", "A,B,C,D,E,F,G,H,I,J,K,L,M,N,O,P,Q,R,S,T,U,V,W,X,Y,Z"⟩,
  ⟨0x1d41a, "MATHEMATICAL BOLD SMALL ", "A,B,C,D,E,F,G,H,I,J,K,L,M,N,O,P,Q,R,S,T,U,V,W,X,Y,Z"⟩,
  ⟨0x1d434, "MATHEMATICAL ITALIC CAPITAL ", "A,B,C,D,E,F,G,H,I,J,K,L,M,N,O,P,Q,R,S,T,U,V,W,X,Y,Z"⟩,
  ⟨0x1d44e, "MATHEMATICAL ITALIC SMALL ", "A,B,C,D,E,F,G,…,I,J,K,L,M,N,O,P,Q,R,S,T,U,V,W,X,Y,Z"⟩,
  ⟨0x1d468, "MATHEMATICAL BOLD ITALIC CAPITAL ",
    "A,B,C,D,E,F,G,H,I,J,K,L,M,N,O,P,Q,R,S,T,U,V,W,X,Y,Z"⟩,
  ⟨0x1d482, "MATHEMATICAL BOLD ITALIC SMALL ",
    "A,B,C,D,E,F,G,H,I,J,K,L,M,N,O,P,Q,R,S,T,U,V,W,X,Y,Z"⟩,
  ⟨0x1d49c, "MATHEMATICAL SCRIPT CAPITAL ", "A,…,C,D,…,…,G,…,…,J,K,…,…,N,O,P,Q,…,S,T,U,V,W,X,Y,Z"⟩,
  ⟨0x1d4b6, "MATHEMATICAL SCRIPT SMALL ", "A,B,C,D,…,F,…,H,I,J,K,L,M,N,…,P,Q,R,S,T,U,V,W,X,Y,Z"⟩,
  ⟨0x1d4d0, "MATHEMATICAL BOLD SCRIPT CAPITAL ",
    "A,B,C,D,E,F,G,H,I,J,K,L,M,N,O,P,Q,R,S,T,U,V,W,X,Y,Z"⟩,
  ⟨0x1d4ea, "MATHEMATICAL BOLD SCRIPT SMALL ",
    "A,B,C,D,E,F,G,H,I,J,K,L,M,N,O,P,Q,R,S,T,U,V,W,X,Y,Z"⟩,
  ⟨0x1d504, "MATHEMATICAL FRAKTUR CAPITAL ", "A,B,…,D,E,F,G,…,…,J,K,L,M,N,O,P,Q,…,S,T,U,V,W,X,Y"⟩,
  ⟨0x1d51e, "MATHEMATICAL FRAKTUR SMALL ", "A,B,C,D,E,F,G,H,I,J,K,L,M,N,O,P,Q,R,S,T,U,V,W,X,Y,Z"⟩,
  ⟨0x1d538, "MATHEMATICAL DOUBLE-STRUCK CAPITAL ",
    "A,B,…,D,E,F,G,…,I,J,K,L,M,…,O,…,…,…,S,T,U,V,W,X,Y"⟩,
  ⟨0x1d552, "MATHEMATICAL DOUBLE-STRUCK SMALL ",
    "A,B,C,D,E,F,G,H,I,J,K,L,M,N,O,P,Q,R,S,T,U,V,W,X,Y,Z"⟩,
  ⟨0x1d56c, "MATHEMATICAL BOLD FRAKTUR CAPITAL ",
    "A,B,C,D,E,F,G,H,I,J,K,L,M,N,O,P,Q,R,S,T,U,V,W,X,Y,Z"⟩,
  ⟨0x1d586, "MATHEMATICAL BOLD FRAKTUR SMALL ",
    "A,B,C,D,E,F,G,H,I,J,K,L,M,N,O,P,Q,R,S,T,U,V,W,X,Y,Z"⟩,
  ⟨0x1d5a0, "MATHEMATICAL SANS-SERIF CAPITAL ",
    "A,B,C,D,E,F,G,H,I,J,K,L,M,N,O,P,Q,R,S,T,U,V,W,X,Y,Z"⟩,
  ⟨0x1d5ba, "MATHEMATICAL SANS-SERIF SMALL ",
    "A,B,C,D,E,F,G,H,I,J,K,L,M,N,O,P,Q,R,S,T,U,V,W,X,Y,Z"⟩,
  ⟨0x1d5d4, "MATHEMATICAL SANS-SERIF BOLD CAPITAL ",
    "A,B,C,D,E,F,G,H,I,J,K,L,M,N,O,P,Q,R,S,T,U,V,W,X,Y,Z"⟩,
  ⟨0x1d5ee, "MATHEMATICAL SANS-SERIF BOLD SMALL ",
    "A,B,C,D,E,F,G,H,I,J,K,L,M,N,O,P,Q,R,S,T,U,V,W,X,Y,Z"⟩,
  ⟨0x1d608, "MATHEMATICAL SANS-SERIF ITALIC CAPITAL ",
    "A,B,C,D,E,F,G,H,I,J,K,L,M,N,O,P,Q,R,S,T,U,V,W,X,Y,Z"⟩,
  ⟨0x1d622, "MATHEMATICAL SANS-SERIF ITALIC SMALL ",
    "A,B,C,D,E,F,G,H,I,J,K,L,M,N,O,P,Q,R,S,T,U,V,W,X,Y,Z"⟩,
  ⟨0x1d63c, "MATHEMATICAL SANS-SERIF BOLD ITALIC CAPITAL ",
    "A,B,C,D,E,F,G,H,I,J,K,L,M,N,O,P,Q,R,S,T,U,V,W,X,Y,Z"⟩,
  ⟨0x1d656, "MATHEMATICAL SANS-SERIF BOLD ITALIC SMALL ",
    "A,B,C,D,E,F,G,H,I,J,K,L,M,N,O,P,Q,R,S,T,U,V,W,X,Y,Z"⟩,
  ⟨0x1d670, "MATHEMATICAL MONOSPACE CAPITAL ",
    "A,B,C,D,E,F,G,H,I,J,K,L,M,N,O,P,Q,R,S,T,U,V,W,X,Y,Z"⟩,
  ⟨0x1d68a, "MATHEMATICAL MONOSPACE SMALL ", "A,B,C,D,E,F,G,H,I,J,K,L,M,N,O,P,Q,R,S,T,U,V,W,X,Y,Z"⟩,
  ⟨0x1d6a4, "MATHEMATICAL ITALIC SMALL DOTLESS ", "I,J"⟩,
  ⟨0x1d6a8, "MATHEMATICAL BOLD CAPITAL ",
    "ALPHA,BETA,GAMMA,DELTA,EPSILON,ZETA,ETA,THETA,IOTA,KAPPA,LAMDA,MU,NU,XI,OMICRON,PI,RHO,THE" ++
    "TA SYMBOL,SIGMA,TAU,UPSILON,PHI,CHI,PSI,OMEGA"⟩,
  ⟨0x1d6c1, "MATHEMATICAL BOLD NABLA", ""⟩,
  ⟨0x1d6c2, "MATHEMATICAL BOLD SMALL ",
    "ALPHA,BETA,GAMMA,DELTA,EPSILON,ZETA,ETA,THETA,IOTA,KAPPA,LAMDA,MU,NU,XI,OMICRON,PI,RHO,FIN" ++
    "AL SIGMA,SIGMA,TAU,UPSILON,PHI,CHI,PSI,OMEGA"⟩,
  ⟨0x1d6db, "MATHEMATICAL BOLD ",
    "PARTIAL DIFFERENTIAL,EPSILON SYMBOL,THETA SYMBOL,KAPPA SYMBOL,PHI SYMBOL,RHO SYMBOL,PI SYM" ++
    "BOL"⟩,
  ⟨0x1d6e2, "MATHEMATICAL ITALIC CAPITAL ",
    "ALPHA,BETA,GAMMA,DELTA,EPSILON,ZETA,ETA,THETA,IOTA,KAPPA,LAMDA,MU,NU,XI,OMICRON,PI,RHO,THE" ++
    "TA SYMBOL,SIGMA,TAU,UPSILON,PHI,CHI,PSI,OMEGA"⟩,
  ⟨0x1d6fb, "MATHEMATICAL ITALIC NABLA", ""⟩,
  ⟨0x1d6fc, "MATHEMATICAL ITALIC SMALL ",
    "ALPHA,BETA,GAMMA,DELTA,EPSILON,ZETA,ETA,THETA,IOTA,KAPPA,LAMDA,MU,NU,XI,OMICRON,PI,RHO,FIN" ++
    "AL SIGMA,SIGMA,TAU,UPSILON,PHI,CHI,PSI,OMEGA"⟩,
  ⟨0x1d715, "MATHEMATICAL ITALIC ",
    "PARTIAL DIFFERENTIAL,EPSILON SYMBOL,THETA SYMBOL,KAPPA SYMBOL,PHI SYMBOL,RHO SYMBOL,PI SYM" ++
    "BOL"⟩,
  ⟨0x1d71c, "MATHEMATICAL BOLD ITALIC CAPITAL ",
    "ALPHA,BETA,GAMMA,DELTA,EPSILON,ZETA,ETA,THETA,IOTA,KAPPA,LAMDA,MU,NU,XI,OMICRON,PI,RHO,THE" ++
    "TA SYMBOL,SIGMA,TAU,UPSILON,PHI,CHI,PSI,OMEGA"⟩,
  ⟨0x1d735, "MATHEMATICAL BOLD ITALIC NABLA", ""⟩,
  ⟨0x1d736, "MATHEMATICAL BOLD ITALIC SMALL ",
    "ALPHA,BETA,GAMMA,DELTA,EPSILON,ZETA,ETA,THETA,IOTA,KAPPA,LAMDA,MU,NU,XI,OMICRON,PI,RHO,FIN" ++
    "AL SIGMA,SIGMA,TAU,UPSILON,PHI,CHI,PSI,OMEGA"⟩,
  ⟨0x1d74f, "MATHEMATICAL BOLD ITALIC ",
    "PARTIAL DIFFERENTIAL,EPSILON SYMBOL,THETA SYMBOL,KAPPA SYMBOL,PHI SYMBOL,RHO SYMBOL,PI SYM" ++
    "BOL"⟩,
  ⟨0x1d756, "MATHEMATICAL SANS-SERIF BOLD CAPITAL ",
    "ALPHA,BETA,GAMMA,DELTA,EPSILON,ZETA,ETA,THETA,IOTA,KAPPA,LAMDA,MU,NU,XI,OMICRON,PI,RHO,THE" ++
    "TA SYMBOL,SIGMA,TAU,UPSILON,PHI,CHI,PSI,OMEGA"⟩,
  ⟨0x1d76f, "MATHEMATICAL SANS-SERIF BOLD NABLA", ""⟩,
  ⟨0x1d770, "MATHEMATICAL SANS-SERIF BOLD SMALL ",
    "ALPHA,BETA,GAMMA,DELTA,EPSILON,ZETA,ETA,THETA,IOTA,KAPPA,LAMDA,MU,NU,XI,OMICRON,PI,RHO,FIN" ++
    "AL SIGMA,SIGMA,TAU,UPSILON,PHI,CHI,PSI,OMEGA"⟩,
  ⟨0x1d789, "MATHEMATICAL SANS-SERIF BOLD ",
    "PARTIAL DIFFERENTIAL,EPSILON SYMBOL,THETA SYMBOL,KAPPA SYMBOL,PHI SYMBOL,RHO SYMBOL,PI SYM" ++
    "BOL"⟩,
  ⟨0x1d790, "MATHEMATICAL SANS-SERIF BOLD ITALIC CAPITAL ",
    "ALPHA,BETA,GAMMA,DELTA,EPSILON,ZETA,ETA,THETA,IOTA,KAPPA,LAMDA,MU,NU,XI,OMICRON,PI,RHO,THE" ++
    "TA SYMBOL,SIGMA,TAU,UPSILON,PHI,CHI,PSI,OMEGA"⟩,
  ⟨0x1d7a9, "MATHEMATICAL SANS-SERIF BOLD ITALIC NABLA", ""⟩,
  ⟨0x1d7aa, "MATHEMATICAL SANS-SERIF BOLD ITALIC SMALL ",
    "ALPHA,BETA,GAMMA,DELTA,EPSILON,ZETA,ETA,THETA,IOTA,KAPPA,LAMDA,MU,NU,XI,OMICRON,PI,RHO,FIN" ++
    "AL SIGMA,SIGMA,TAU,UPSILON,PHI,CHI,PSI,OMEGA"⟩,
  ⟨0x1d7c3, "MATHEMATICAL SANS-SERIF BOLD ITALIC ",
    "PARTIAL DIFFERENTIAL,EPSILON SYMBOL,THETA SYMBOL,KAPPA SYMBOL,PHI SYMBOL,RHO SYMBOL,PI SYM" ++
    "BOL"⟩,
  ⟨0x1d7ca, "MATHEMATICAL BOLD ", "CAPITAL DIGAMMA,SMALL DIGAMMA"⟩,
  ⟨0x1d7ce, "MATHEMATICAL BOLD DIGIT ", "ZERO,ONE,TWO,THREE,FOUR,FIVE,SIX,SEVEN,EIGHT,NINE"⟩,
  ⟨0x1d7d8, "MATHEMATICAL DOUBLE-STRUCK DIGIT ",
    "ZERO,ONE,TWO,THREE,FOUR,FIVE,SIX,SEVEN,EIGHT,NINE"⟩,
  ⟨0x1d7e2, "MATHEMATICAL SANS-SERIF DIGIT ", "ZERO,ONE,TWO,THREE,FOUR,FIVE,SIX,SEVEN,EIGHT,NINE"⟩,
  ⟨0x1d7ec, "MATHEMATICAL SANS-SERIF BOLD DIGIT ",
    "ZERO,ONE,TWO,THREE,FOUR,FIVE,SIX,SEVEN,EIGHT,NINE"⟩,
  ⟨0x1d7f6, "MATHEMATICAL MONOSPACE DIGIT ", "ZERO,ONE,TWO,THREE,FOUR,FIVE,SIX,SEVEN,EIGHT,NINE"⟩,
  ⟨0x1d800, "SIGNWRITING HAND-",
    "FIST INDEX,CIRCLE INDEX,CUP INDEX,OVAL INDEX,HINGE INDEX,ANGLE INDEX,FIST INDEX BENT,CIRCL" ++
    "E INDEX BENT,FIST THUMB UNDER INDEX BENT,FIST INDEX RAISED KNUCKLE,FIST INDEX CUPPED,FIST " ++
    "INDEX HINGED,FIST INDEX HINGED LOW,CIRCLE INDEX HINGE,FIST INDEX MIDDLE,CIRCLE INDEX MIDDL" ++
    "E"⟩,
  ⟨0x1d810, "SIGNWRITING HAND-FIST INDEX ",
    "MIDDLE BENT,MIDDLE RAISED KNUCKLES,MIDDLE HINGED,UP MIDDLE HINGED,HINGED MIDDLE UP"⟩,
  ⟨0x1d815, "SIGNWRITING HAND-FIST INDEX MIDDLE CONJOINED",
    ", INDEX BENT, MIDDLE BENT, CUPPED, HINGED"⟩,
  ⟨0x1d81a, "SIGNWRITING HAND-",
    "FIST INDEX MIDDLE CROSSED,CIRCLE INDEX MIDDLE CROSSED,FIST MIDDLE BENT OVER INDEX,FIST IND" ++
    "EX BENT OVER MIDDLE,FIST INDEX MIDDLE THUMB,CIRCLE INDEX MIDDLE THUMB"⟩,
  ⟨0x1d820, "SIGNWRITING HAND-FIST INDEX ",
    "MIDDLE STRAIGHT THUMB BENT,MIDDLE BENT THUMB STRAIGHT,MIDDLE THUMB BENT,MIDDLE HINGED SPRE" ++
    "AD THUMB SIDE,UP MIDDLE HINGED THUMB SIDE,UP MIDDLE HINGED THUMB CONJOINED,HINGED MIDDLE U" ++
    "P THUMB SIDE,MIDDLE UP SPREAD THUMB FORWARD,MIDDLE THUMB CUPPED,MIDDLE THUMB CIRCLED,MIDDL" ++
    "E THUMB HOOKED,MIDDLE THUMB HINGED"⟩,
  ⟨0x1d82c, "SIGNWRITING HAND-FIST ",
    "THUMB BETWEEN INDEX MIDDLE STRAIGHT,INDEX MIDDLE CONJOINED THUMB SIDE,INDEX MIDDLE CONJOIN" ++
    "ED THUMB SIDE CONJOINED,INDEX MIDDLE CONJOINED THUMB SIDE BENT,MIDDLE THUMB HOOKED INDEX U" ++
    "P,INDEX THUMB HOOKED MIDDLE UP,INDEX MIDDLE CONJOINED HINGED THUMB SIDE,INDEX MIDDLE CROSS" ++
    "ED THUMB SIDE,INDEX MIDDLE CONJOINED THUMB FORWARD,INDEX MIDDLE CONJOINED CUPPED THUMB FOR" ++
    "WARD,MIDDLE THUMB CUPPED INDEX UP,INDEX THUMB CUPPED MIDDLE UP,MIDDLE THUMB CIRCLED INDEX " ++
    "UP,MIDDLE THUMB CIRCLED INDEX HINGED,INDEX THUMB ANGLED OUT MIDDLE UP,INDEX THUMB ANGLED I" ++
    "N MIDDLE UP,INDEX THUMB CIRCLED MIDDLE UP,INDEX MIDDLE THUMB CONJOINED HINGED,INDEX MIDDLE" ++
    " THUMB ANGLED OUT,INDEX MIDDLE THUMB ANGLED,MIDDLE THUMB ANGLED OUT INDEX UP,MIDDLE THUMB " ++
    "ANGLED OUT INDEX CROSSED,MIDDLE THUMB ANGLED INDEX UP,INDEX THUMB HOOKED MIDDLE HINGED"⟩,
  ⟨0x1d844, "SIGNWRITING HAND-FLAT FOUR FINGERS", ", BENT, HINGED, CONJOINED, CONJOINED SPLIT"⟩,
  ⟨0x1d849, "SIGNWRITING HAND-",
    "CLAW FOUR FINGERS CONJOINED,FIST FOUR FINGERS CONJOINED BENT,HINGE FOUR FINGERS CONJOINED," ++
    "FLAT FIVE FINGERS SPREAD,FLAT HEEL FIVE FINGERS SPREAD,FLAT FIVE FINGERS SPREAD FOUR BENT," ++
    "FLAT HEEL FIVE FINGERS SPREAD FOUR BENT,FLAT FIVE FINGERS SPREAD BENT,FLAT HEEL FIVE FINGE" ++
    "RS SPREAD BENT,FLAT FIVE FINGERS SPREAD THUMB FORWARD,CUP FIVE FINGERS SPREAD,CUP FIVE FIN" ++
    "GERS SPREAD OPEN,HINGE FIVE FINGERS SPREAD OPEN,OVAL FIVE FINGERS SPREAD,FLAT FIVE FINGERS" ++
    " SPREAD HINGED,FLAT FIVE FINGERS SPREAD HINGED THUMB SIDE,FLAT FIVE FINGERS SPREAD HINGED " ++
    "NO THUMB,FLAT,FLAT BETWEEN PALM FACINGS,FLAT HEEL,FLAT THUMB SIDE,FLAT HEEL THUMB SIDE,FLA" ++
    "T THUMB BENT,FLAT THUMB FORWARD,FLAT SPLIT INDEX THUMB SIDE,FLAT SPLIT CENTRE,FLAT SPLIT C" ++
    "ENTRE THUMB SIDE,FLAT SPLIT CENTRE THUMB SIDE BENT,FLAT SPLIT LITTLE,CLAW,CLAW THUMB SIDE," ++
    "CLAW NO THUMB,CLAW THUMB FORWARD,HOOK CURLICUE,HOOK,CUP OPEN,CUP,CUP OPEN THUMB SIDE,CUP T" ++
    "HUMB SIDE,CUP OPEN NO THUMB,CUP NO THUMB,CUP OPEN THUMB FORWARD,CUP THUMB FORWARD,CURLICUE" ++
    " OPEN,CURLICUE,CIRCLE,OVAL,OVAL THUMB SIDE,OVAL NO THUMB,OVAL THUMB FORWARD,HINGE OPEN,HIN" ++
    "GE OPEN THUMB FORWARD,HINGE,HINGE SMALL,HINGE OPEN THUMB SIDE,HINGE THUMB SIDE,HINGE OPEN " ++
    "NO THUMB,HINGE NO THUMB,HINGE THUMB SIDE TOUCHING INDEX,HINGE THUMB BETWEEN MIDDLE RING,AN" ++
    "GLE,FIST INDEX MIDDLE RING,CIRCLE INDEX MIDDLE RING,HINGE INDEX MIDDLE RING,ANGLE INDEX MI" ++
    "DDLE RING,HINGE LITTLE,FIST INDEX MIDDLE RING BENT,FIST INDEX MIDDLE RING CONJOINED,HINGE " ++
    "INDEX MIDDLE RING CONJOINED,FIST LITTLE DOWN,FIST LITTLE DOWN RIPPLE STRAIGHT,FIST LITTLE " ++
    "DOWN RIPPLE CURVED,FIST LITTLE DOWN OTHERS CIRCLED,FIST LITTLE UP,FIST THUMB UNDER LITTLE " ++
    "UP,CIRCLE LITTLE UP,OVAL LITTLE UP,ANGLE LITTLE UP,FIST LITTLE RAISED KNUCKLE,FIST LITTLE " ++
    "BENT,FIST LITTLE TOUCHES THUMB,FIST LITTLE THUMB,HINGE LITTLE THUMB,FIST LITTLE INDEX THUM" ++
    "B,HINGE LITTLE INDEX THUMB,ANGLE LITTLE INDEX THUMB INDEX THUMB OUT,ANGLE LITTLE INDEX THU" ++
    "MB INDEX THUMB,FIST LITTLE INDEX,CIRCLE LITTLE INDEX,HINGE LITTLE INDEX,ANGLE LITTLE INDEX" ++
    ",FIST INDEX MIDDLE LITTLE,CIRCLE INDEX MIDDLE LITTLE,HINGE INDEX MIDDLE LITTLE,HINGE RING," ++
    "ANGLE INDEX MIDDLE LITTLE,FIST INDEX MIDDLE CROSS LITTLE,CIRCLE INDEX MIDDLE CROSS LITTLE," ++
    "FIST RING DOWN,HINGE RING DOWN INDEX THUMB HOOK MIDDLE,ANGLE RING DOWN MIDDLE THUMB INDEX " ++
    "CROSS,FIST RING UP,FIST RING RAISED KNUCKLE,FIST RING LITTLE,CIRCLE RING LITTLE,OVAL RING " ++
    "LITTLE,ANGLE RING LITTLE,FIST RING MIDDLE,FIST RING MIDDLE CONJOINED,FIST RING MIDDLE RAIS" ++
    "ED KNUCKLES,FIST RING INDEX,FIST RING THUMB,HOOK RING THUMB,FIST INDEX RING LITTLE,CIRCLE " ++
    "INDEX RING LITTLE,CURLICUE INDEX RING LITTLE ON,HOOK INDEX RING LITTLE OUT,HOOK INDEX RING" ++
    " LITTLE IN,HOOK INDEX RING LITTLE UNDER,CUP INDEX RING LITTLE,HINGE INDEX RING LITTLE,ANGL" ++
    "E INDEX RING LITTLE OUT,ANGLE INDEX RING LITTLE,FIST MIDDLE DOWN,HINGE MIDDLE,FIST MIDDLE " ++
    "UP,CIRCLE MIDDLE UP,FIST MIDDLE RAISED KNUCKLE,FIST MIDDLE UP THUMB SIDE,HOOK MIDDLE THUMB" ++
    ",FIST MIDDLE THUMB LITTLE,FIST MIDDLE LITTLE,FIST MIDDLE RING LITTLE,CIRCLE MIDDLE RING LI" ++
    "TTLE,CURLICUE MIDDLE RING LITTLE ON,CUP MIDDLE RING LITTLE,HINGE MIDDLE RING LITTLE,ANGLE " ++
    "MIDDLE RING LITTLE OUT,ANGLE MIDDLE RING LITTLE IN,ANGLE MIDDLE RING LITTLE,CIRCLE MIDDLE " ++
    "RING LITTLE BENT,CLAW MIDDLE RING LITTLE CONJOINED,CLAW MIDDLE RING LITTLE CONJOINED SIDE," ++
    "HOOK MIDDLE RING LITTLE CONJOINED OUT,HOOK MIDDLE RING LITTLE CONJOINED IN,HOOK MIDDLE RIN" ++
    "G LITTLE CONJOINED,HINGE INDEX HINGED,FIST INDEX THUMB SIDE,HINGE INDEX THUMB SIDE"⟩,
  ⟨0x1d8de, "SIGNWRITING HAND-FIST INDEX THUMB ",
    "SIDE THUMB DIAGONAL,SIDE THUMB CONJOINED,SIDE THUMB BENT,SIDE INDEX BENT,SIDE BOTH BENT,SI" ++
    "DE INDEX HINGE,FORWARD INDEX STRAIGHT,FORWARD INDEX BENT,HOOK,CURLICUE,CURVE THUMB INSIDE"⟩,
  ⟨0x1d8e9, "SIGNWRITING HAND-",
    "CLAW INDEX THUMB CURVE THUMB INSIDE,FIST INDEX THUMB CURVE THUMB UNDER,FIST INDEX THUMB CI" ++
    "RCLE,CUP INDEX THUMB,CUP INDEX THUMB OPEN"⟩,
  ⟨0x1d8ee, "SIGNWRITING HAND-HINGE INDEX THUMB", " OPEN, LARGE,, SMALL"⟩,
  ⟨0x1d8f2, "SIGNWRITING HAND-ANGLE INDEX THUMB", " OUT, IN,"⟩,
  ⟨0x1d8f5, "SIGNWRITING HAND-FIST THUMB",
    ", HEEL, SIDE DIAGONAL, SIDE CONJOINED, SIDE BENT, FORWARD, BETWEEN INDEX MIDDLE, BETWEEN M" ++
    "IDDLE RING, BETWEEN RING LITTLE, UNDER TWO FINGERS, OVER TWO FINGERS, UNDER THREE FINGERS," ++
    " UNDER FOUR FINGERS, OVER FOUR RAISED KNUCKLES"⟩,
  ⟨0x1d903, "SIGNWRITING ",
    "HAND-FIST,HAND-FIST HEEL,TOUCH SINGLE,TOUCH MULTIPLE,TOUCH BETWEEN,GRASP SINGLE,GRASP MULT" ++
    "IPLE,GRASP BETWEEN,STRIKE SINGLE,STRIKE MULTIPLE,STRIKE BETWEEN,BRUSH SINGLE,BRUSH MULTIPL" ++
    "E,BRUSH BETWEEN,RUB SINGLE,RUB MULTIPLE,RUB BETWEEN,SURFACE SYMBOLS,SURFACE BETWEEN,SQUEEZ" ++
    "E LARGE SINGLE,SQUEEZE SMALL SINGLE,SQUEEZE LARGE MULTIPLE,SQUEEZE SMALL MULTIPLE,SQUEEZE " ++
    "SEQUENTIAL,FLICK LARGE SINGLE,FLICK SMALL SINGLE,FLICK LARGE MULTIPLE,FLICK SMALL MULTIPLE" ++
    ",FLICK SEQUENTIAL,SQUEEZE FLICK ALTERNATING"⟩,
  ⟨0x1d921, "SIGNWRITING MOVEMENT-",
    "HINGE UP DOWN LARGE,HINGE UP DOWN SMALL,HINGE UP SEQUENTIAL,HINGE DOWN SEQUENTIAL,HINGE UP" ++
    " DOWN ALTERNATING LARGE,HINGE UP DOWN ALTERNATING SMALL,HINGE SIDE TO SIDE SCISSORS,WALLPL" ++
    "ANE FINGER CONTACT,FLOORPLANE FINGER CONTACT"⟩,
  ⟨0x1d92a, "SIGNWRITING MOVEMENT-WALLPLANE ",
    "SINGLE STRAIGHT SMALL,SINGLE STRAIGHT MEDIUM,SINGLE STRAIGHT LARGE,SINGLE STRAIGHT LARGEST" ++
    ",SINGLE WRIST FLEX,DOUBLE STRAIGHT,DOUBLE WRIST FLEX,DOUBLE ALTERNATING,DOUBLE ALTERNATING" ++
    " WRIST FLEX,CROSS,TRIPLE STRAIGHT MOVEMENT,TRIPLE WRIST FLEX,TRIPLE ALTERNATING,TRIPLE ALT" ++
    "ERNATING WRIST FLEX,BEND SMALL,BEND MEDIUM,BEND LARGE,CORNER SMALL,CORNER MEDIUM,CORNER LA" ++
    "RGE,CORNER ROTATION,CHECK SMALL,CHECK MEDIUM,CHECK LARGE,BOX SMALL,BOX MEDIUM,BOX LARGE,ZI" ++
    "GZAG SMALL,ZIGZAG MEDIUM,ZIGZAG LARGE,PEAKS SMALL,PEAKS MEDIUM,PEAKS LARGE"⟩,
  ⟨0x1d94b, "SIGNWRITING TRAVEL-WALLPLANE ",
    "ROTATION-WALLPLANE SINGLE,ROTATION-WALLPLANE DOUBLE,ROTATION-WALLPLANE ALTERNATING,ROTATIO" ++
    "N-FLOORPLANE SINGLE,ROTATION-FLOORPLANE DOUBLE,ROTATION-FLOORPLANE ALTERNATING,SHAKING,ARM" ++
    " SPIRAL SINGLE,ARM SPIRAL DOUBLE,ARM SPIRAL TRIPLE"⟩,
  ⟨0x1d955, "SIGNWRITING MOVEMENT-DIAGONAL ",
    "AWAY SMALL,AWAY MEDIUM,AWAY LARGE,AWAY LARGEST,TOWARDS SMALL,TOWARDS MEDIUM,TOWARDS LARGE," ++
    "TOWARDS LARGEST"⟩,
  ⟨0x1d95d, "SIGNWRITING MOVEMENT-DIAGONAL BETWEEN ",
    "AWAY SMALL,AWAY MEDIUM,AWAY LARGE,AWAY LARGEST,TOWARDS SMALL,TOWARDS MEDIUM,TOWARDS LARGE," ++
    "TOWARDS LARGEST"⟩,
  ⟨0x1d965, "SIGNWRITING MOVEMENT-FLOORPLANE ",
    "SINGLE STRAIGHT SMALL,SINGLE STRAIGHT MEDIUM,SINGLE STRAIGHT LARGE,SINGLE STRAIGHT LARGEST" ++
    ",SINGLE WRIST FLEX,DOUBLE STRAIGHT,DOUBLE WRIST FLEX,DOUBLE ALTERNATING,DOUBLE ALTERNATING" ++
    " WRIST FLEX,CROSS,TRIPLE STRAIGHT MOVEMENT,TRIPLE WRIST FLEX,TRIPLE ALTERNATING MOVEMENT,T" ++
    "RIPLE ALTERNATING WRIST FLEX,BEND,CORNER SMALL,CORNER MEDIUM,CORNER LARGE,CHECK,BOX SMALL," ++
    "BOX MEDIUM,BOX LARGE,ZIGZAG SMALL,ZIGZAG MEDIUM,ZIGZAG LARGE,PEAKS SMALL,PEAKS MEDIUM,PEAK" ++
    "S LARGE"⟩,
  ⟨0x1d981, "SIGNWRITING TRAVEL-FLOORPLANE ",
    "ROTATION-FLOORPLANE SINGLE,ROTATION-FLOORPLANE DOUBLE,ROTATION-FLOORPLANE ALTERNATING,ROTA" ++
    "TION-WALLPLANE SINGLE,ROTATION-WALLPLANE DOUBLE,ROTATION-WALLPLANE ALTERNATING,SHAKING"⟩,
  ⟨0x1d988, "SIGNWRITING MOVEMENT-WALLPLANE ",
    "CURVE QUARTER SMALL,CURVE QUARTER MEDIUM,CURVE QUARTER LARGE,CURVE QUARTER LARGEST,CURVE H" ++
    "ALF-CIRCLE SMALL,CURVE HALF-CIRCLE MEDIUM,CURVE HALF-CIRCLE LARGE,CURVE HALF-CIRCLE LARGES" ++
    "T,CURVE THREE-QUARTER CIRCLE SMALL,CURVE THREE-QUARTER CIRCLE MEDIUM,HUMP SMALL,HUMP MEDIU" ++
    "M,HUMP LARGE,LOOP SMALL,LOOP MEDIUM,LOOP LARGE,LOOP SMALL DOUBLE,WAVE CURVE DOUBLE SMALL,W" ++
    "AVE CURVE DOUBLE MEDIUM,WAVE CURVE DOUBLE LARGE,WAVE CURVE TRIPLE SMALL,WAVE CURVE TRIPLE " ++
    "MEDIUM,WAVE CURVE TRIPLE LARGE,CURVE THEN STRAIGHT,CURVED CROSS SMALL,CURVED CROSS MEDIUM"⟩,
  ⟨0x1d9a2, "SIGNWRITING ROTATION-WALLPLANE ", "SINGLE,DOUBLE,ALTERNATE"⟩,
  ⟨0x1d9a5, "SIGNWRITING MOVEMENT-WALLPLANE ",
    "SHAKING,CURVE HITTING FRONT WALL,HUMP HITTING FRONT WALL,LOOP HITTING FRONT WALL,WAVE HITT" ++
    "ING FRONT WALL"⟩,
  ⟨0x1d9aa, "SIGNWRITING ROTATION-WALLPLANE ",
    "SINGLE HITTING FRONT WALL,DOUBLE HITTING FRONT WALL,ALTERNATING HITTING FRONT WALL"⟩,
  ⟨0x1d9ad, "SIGNWRITING MOVEMENT-WALLPLANE ",
    "CURVE HITTING CHEST,HUMP HITTING CHEST,LOOP HITTING CHEST,WAVE HITTING CHEST"⟩,
  ⟨0x1d9b1, "SIGNWRITING ROTATION-WALLPLANE ",
    "SINGLE HITTING CHEST,DOUBLE HITTING CHEST,ALTERNATING HITTING CHEST"⟩,
  ⟨0x1d9b4, "SIGNWRITING MOVEMENT-WALLPLANE WAVE DIAGONAL PATH ", "SMALL,MEDIUM,LARGE"⟩,
  ⟨0x1d9b7, "SIGNWRITING MOVEMENT-FLOORPLANE CURVE HITTING CEILING ", "SMALL,LARGE"⟩,
  ⟨0x1d9b9, "SIGNWRITING MOVEMENT-FLOORPLANE HUMP HITTING CEILING ",
    "SMALL DOUBLE,LARGE DOUBLE,SMALL TRIPLE,LARGE TRIPLE"⟩,
  ⟨0x1d9bd, "SIGNWRITING MOVEMENT-FLOORPLANE LOOP HITTING CEILING ",
    "SMALL SINGLE,LARGE SINGLE,SMALL DOUBLE,LARGE DOUBLE"⟩,
  ⟨0x1d9c1, "SIGNWRITING MOVEMENT-FLOORPLANE WAVE HITTING CEILING ", "SMALL,LARGE"⟩,
  ⟨0x1d9c3, "SIGNWRITING ROTATION-FLOORPLANE ",
    "SINGLE HITTING CEILING,DOUBLE HITTING CEILING,ALTERNATING HITTING CEILING"⟩,
  ⟨0x1d9c6, "SIGNWRITING MOVEMENT-FLOORPLANE ",
    "CURVE HITTING FLOOR SMALL,CURVE HITTING FLOOR LARGE,HUMP HITTING FLOOR SMALL DOUBLE,HUMP H" ++
    "ITTING FLOOR LARGE DOUBLE,HUMP HITTING FLOOR TRIPLE SMALL TRIPLE,HUMP HITTING FLOOR TRIPLE" ++
    " LARGE TRIPLE,LOOP HITTING FLOOR SMALL SINGLE,LOOP HITTING FLOOR LARGE SINGLE,LOOP HITTING" ++
    " FLOOR SMALL DOUBLE,LOOP HITTING FLOOR LARGE DOUBLE,WAVE HITTING FLOOR SMALL,WAVE HITTING " ++
    "FLOOR LARGE"⟩,
  ⟨0x1d9d2, "SIGNWRITING ROTATION-FLOORPLANE ",
    "SINGLE HITTING FLOOR,DOUBLE HITTING FLOOR,ALTERNATING HITTING FLOOR"⟩,
  ⟨0x1d9d5, "SIGNWRITING MOVEMENT-FLOORPLANE ",
    "CURVE SMALL,CURVE MEDIUM,CURVE LARGE,CURVE LARGEST,CURVE COMBINED,HUMP SMALL,LOOP SMALL,WA" ++
    "VE SNAKE,WAVE SMALL,WAVE LARGE"⟩,
  ⟨0x1d9df, "SIGNWRITING ROTATION-FLOORPLANE ", "SINGLE,DOUBLE,ALTERNATING"⟩,
  ⟨0x1d9e2, "SIGNWRITING MOVEMENT-FLOORPLANE SHAKING PARALLEL", ""⟩,
  ⟨0x1d9e3, "SIGNWRITING MOVEMENT-WALLPLANE ARM CIRCLE ",
    "SMALL SINGLE,MEDIUM SINGLE,SMALL DOUBLE,MEDIUM DOUBLE"⟩,
  ⟨0x1d9e7, "SIGNWRITING MOVEMENT-FLOORPLANE ARM CIRCLE HITTING WALL ",
    "SMALL SINGLE,MEDIUM SINGLE,LARGE SINGLE,SMALL DOUBLE,MEDIUM DOUBLE,LARGE DOUBLE"⟩,
  ⟨0x1d9ed, "SIGNWRITING MOVEMENT-",
    "WALLPLANE WRIST CIRCLE FRONT SINGLE,WALLPLANE WRIST CIRCLE FRONT DOUBLE,FLOORPLANE WRIST C" ++
    "IRCLE HITTING WALL SINGLE,FLOORPLANE WRIST CIRCLE HITTING WALL DOUBLE,WALLPLANE FINGER CIR" ++
    "CLES SINGLE,WALLPLANE FINGER CIRCLES DOUBLE,FLOORPLANE FINGER CIRCLES HITTING WALL SINGLE," ++
    "FLOORPLANE FINGER CIRCLES HITTING WALL DOUBLE"⟩,
  ⟨0x1d9f5, "SIGNWRITING DYNAMIC ",
    "ARROWHEAD SMALL,ARROWHEAD LARGE,FAST,SLOW,TENSE,RELAXED,SIMULTANEOUS,SIMULTANEOUS ALTERNAT" ++
    "ING,EVERY OTHER TIME,GRADUAL"⟩,
  ⟨0x1d9ff, "SIGNWRITING HEAD", ", RIM"⟩,
  ⟨0x1da01, "SIGNWRITING HEAD MOVEMENT",
    "-WALLPLANE STRAIGHT,-WALLPLANE TILT,-FLOORPLANE STRAIGHT,-WALLPLANE CURVE,-FLOORPLANE CURV" ++
    "E, CIRCLE"⟩,
  ⟨0x1da07, "SIGNWRITING FACE DIRECTION POSITION NOSE ",
    "FORWARD TILTING,UP OR DOWN,UP OR DOWN TILTING"⟩,
  ⟨0x1da0a, "SIGNWRITING EYEBROWS STRAIGHT ", "UP,NEUTRAL,DOWN"⟩,
  ⟨0x1da0d, "SIGNWRITING DREAMY EYEBROWS ", "NEUTRAL DOWN,DOWN NEUTRAL,UP NEUTRAL,NEUTRAL UP"⟩,
  ⟨0x1da11, "SIGNWRITING FOREHEAD ", "NEUTRAL,CONTACT,WRINKLED"⟩,
  ⟨0x1da14, "SIGNWRITING EYE",
    "S OPEN,S SQUEEZED,S CLOSED, BLINK SINGLE, BLINK MULTIPLE,S HALF OPEN,S WIDE OPEN,S HALF CL" ++
    "OSED,S WIDENING MOVEMENT, WINK,LASHES UP,LASHES DOWN,LASHES FLUTTERING"⟩,
  ⟨0x1da21, "SIGNWRITING EYEGAZE-WALLPLANE STRAIGHT", ", DOUBLE, ALTERNATING"⟩,
  ⟨0x1da24, "SIGNWRITING EYEGAZE-FLOORPLANE STRAIGHT", ", DOUBLE, ALTERNATING"⟩,
  ⟨0x1da27, "SIGNWRITING ",
    "EYEGAZE-WALLPLANE CURVED,EYEGAZE-FLOORPLANE CURVED,EYEGAZE-WALLPLANE CIRCLING,CHEEKS PUFFE" ++
    "D,CHEEKS NEUTRAL,CHEEKS SUCKED,TENSE CHEEKS HIGH,TENSE CHEEKS MIDDLE,TENSE CHEEKS LOW,EARS" ++
    ",NOSE NEUTRAL,NOSE CONTACT,NOSE WRINKLES,NOSE WIGGLES,AIR BLOWING OUT,AIR SUCKING IN,AIR B" ++
    "LOW SMALL ROTATIONS,AIR SUCK SMALL ROTATIONS,BREATH INHALE,BREATH EXHALE"⟩,
  ⟨0x1da3b, "SIGNWRITING MOUTH ",
    "CLOSED NEUTRAL,CLOSED FORWARD,CLOSED CONTACT,SMILE,SMILE WRINKLED,SMILE OPEN,FROWN,FROWN W" ++
    "RINKLED,FROWN OPEN,OPEN CIRCLE,OPEN FORWARD,OPEN WRINKLED,OPEN OVAL,OPEN OVAL WRINKLED,OPE" ++
    "N OVAL YAWN,OPEN RECTANGLE,OPEN RECTANGLE WRINKLED,OPEN RECTANGLE YAWN,KISS,KISS FORWARD,K" ++
    "ISS WRINKLED,TENSE,TENSE FORWARD,TENSE SUCKED"⟩,
  ⟨0x1da53, "SIGNWRITING ",
    "LIPS PRESSED TOGETHER,LIP LOWER OVER UPPER,LIP UPPER OVER LOWER,MOUTH CORNERS,MOUTH WRINKL" ++
    "ES SINGLE,MOUTH WRINKLES DOUBLE,TONGUE STICKING OUT FAR,TONGUE LICKING LIPS,TONGUE TIP BET" ++
    "WEEN LIPS,TONGUE TIP TOUCHING INSIDE MOUTH,TONGUE INSIDE MOUTH RELAXED,TONGUE MOVES AGAINS" ++
    "T CHEEK,TONGUE CENTRE STICKING OUT,TONGUE CENTRE INSIDE MOUTH,TEETH,TEETH MOVEMENT,TEETH O" ++
    "N TONGUE,TEETH ON TONGUE MOVEMENT,TEETH ON LIPS,TEETH ON LIPS MOVEMENT,TEETH BITE LIPS,MOV" ++
    "EMENT-WALLPLANE JAW,MOVEMENT-FLOORPLANE JAW,NECK,HAIR,EXCITEMENT,SHOULDER HIP SPINE,SHOULD" ++
    "ER HIP POSITIONS,WALLPLANE SHOULDER HIP MOVE,FLOORPLANE SHOULDER HIP MOVE,SHOULDER TILTING" ++
    " FROM WAIST,TORSO-WALLPLANE STRAIGHT STRETCH,TORSO-WALLPLANE CURVED BEND,TORSO-FLOORPLANE " ++
    "TWISTING,UPPER BODY TILTING FROM HIP JOINTS,LIMB COMBINATION,LIMB LENGTH-1,LIMB LENGTH-2,L" ++
    "IMB LENGTH-3,LIMB LENGTH-4,LIMB LENGTH-5,LIMB LENGTH-6,LIMB LENGTH-7,FINGER,LOCATION-WALLP" ++
    "LANE SPACE,LOCATION-FLOORPLANE SPACE,LOCATION HEIGHT,LOCATION WIDTH,LOCATION DEPTH,LOCATIO" ++
    "N HEAD NECK,LOCATION TORSO,LOCATION LIMBS DIGITS,COMMA,FULL STOP,SEMICOLON,COLON,PARENTHES" ++
    "IS"⟩,
  ⟨0x1da9b, "SIGNWRITING FILL MODIFIER-", "2,3,4,5,6"⟩,
  ⟨0x1daa1, "SIGNWRITING ROTATION MODIFIER-", "2,3,4,5,6,7,8,9,10,11,12,13,14,15,16"⟩,
  ⟨0x1df00, "LATIN ",
    "SMALL LETTER FENG DIGRAPH WITH TRILL,SMALL LETTER REVERSED SCRIPT G,LETTER SMALL CAPITAL T" ++
    "URNED G,SMALL LETTER REVERSED K,LETTER SMALL CAPITAL L WITH BELT,SMALL LETTER LEZH WITH RE" ++
    "TROFLEX HOOK,SMALL LETTER TURNED Y WITH BELT,SMALL LETTER REVERSED ENG,SMALL LETTER TURNED" ++
    " R WITH LONG LEG AND RETROFLEX HOOK,SMALL LETTER T WITH HOOK AND RETROFLEX HOOK,LETTER RET" ++
    "ROFLEX CLICK WITH RETROFLEX HOOK,SMALL LETTER ESH WITH DOUBLE BAR,SMALL LETTER ESH WITH DO" ++
    "UBLE BAR AND CURL,SMALL LETTER TURNED T WITH CURL,LETTER INVERTED GLOTTAL STOP WITH CURL,L" ++
    "ETTER STRETCHED C WITH CURL,LETTER SMALL CAPITAL TURNED K"⟩,
  ⟨0x1df11, "LATIN SMALL LETTER ",
    "L WITH FISHHOOK,DEZH DIGRAPH WITH PALATAL HOOK,L WITH BELT AND PALATAL HOOK,ENG WITH PALAT" ++
    "AL HOOK,TURNED R WITH PALATAL HOOK,R WITH FISHHOOK AND PALATAL HOOK,TESH DIGRAPH WITH PALA" ++
    "TAL HOOK,EZH WITH PALATAL HOOK,DEZH DIGRAPH WITH RETROFLEX HOOK,I WITH STROKE AND RETROFLE" ++
    "X HOOK,O WITH RETROFLEX HOOK,TESH DIGRAPH WITH RETROFLEX HOOK,C WITH RETROFLEX HOOK,S WITH" ++
    " CURL"⟩,
  ⟨0x1e000, "COMBINING GLAGOLITIC LETTER ",
    "AZU,BUKY,VEDE,GLAGOLI,DOBRO,YESTU,ZHIVETE,…,ZEMLJA,IZHE,INITIAL IZHE,I,DJERVI,KAKO,LJUDIJE" ++
    ",MYSLITE,NASHI,ONU,POKOJI,RITSI,SLOVO,TVRIDO,UKU,FRITU,HERU,…,…,SHTA,TSI,CHRIVI,SHA,YERU,Y" ++
    "ERI,YATI,…,YU,SMALL YUS,…,YO,IOTATED SMALL YUS,BIG YUS,IOTATED BIG YUS,FITA"⟩,
  ⟨0x1e100, "NYIAKENG PUACHUE HMONG LETTER ",
    "MA,TSA,NTA,TA,HA,NA,XA,NKA,CA,LA,SA,ZA,NCA,NTSA,KA,DA,NYA,NRA,VA,NTXA,TXA,FA,RA,QA,YA,NQA," ++
    "PA,XYA,NPA,DLA,NPLA,HAH,MLA,PLA,GA,RRA,A,AA,I,U,O,OO,E,EE,W"⟩,
  ⟨0x1e130, "NYIAKENG PUACHUE HMONG ",
    "TONE-B,TONE-M,TONE-J,TONE-V,TONE-S,TONE-G,TONE-D,SIGN FOR PERSON,SIGN FOR THING,SIGN FOR L" ++
    "OCATION,SIGN FOR ANIMAL,SIGN FOR INVERTEBRATE,SIGN XW XW,SYLLABLE LENGTHENER,…,…,DIGIT ZER" ++
    "O,DIGIT ONE,DIGIT TWO,DIGIT THREE,DIGIT FOUR,DIGIT FIVE,DIGIT SIX,DIGIT SEVEN,DIGIT EIGHT," ++
    "DIGIT NINE,…,…,…,…,LOGOGRAM NYAJ,CIRCLED CA"⟩,
  ⟨0x1e290, "TOTO LETTER ",
    "PA,BA,TA,DA,KA,GA,MA,NA,NGA,SA,CHA,YA,WA,JA,HA,RA,LA,I,BREATHY I,IU,BREATHY IU,U,E,BREATHY" ++
    " E,EO,BREATHY EO,O,AE,BREATHY AE,A"⟩,
  ⟨0x1e2ae, "TOTO SIGN RISING TONE", ""⟩,
  ⟨0x1e2c0, "WANCHO LETTER ",
    "AA,A,BA,CA,DA,GA,YA,PHA,LA,NA,PA,TA,THA,FA,SA,SHA,JA,ZA,WA,VA,KA,O,AU,RA,MA,KHA,HA,E,I,NGA" ++
    ",U,LLHA,TSA,TRA,ONG,AANG,ANG,ING,ON,EN,AAN,NYA,UEN,YIH"⟩,
  ⟨0x1e2ec, "WANCHO TONE ", "TUP,TUPNI,KOI,KOINI"⟩,
  ⟨0x1e2f0, "WANCHO DIGIT ", "ZERO,ONE,TWO,THREE,FOUR,FIVE,SIX,SEVEN,EIGHT,NINE"⟩,
  ⟨0x1e2ff, "WANCHO NGUN SIGN", ""⟩,
  ⟨0x1e7e0, "ETHIOPIC SYLLABLE ",
    "HHYA,HHYU,HHYI,HHYAA,HHYEE,HHYE,HHYO,…,GURAGE HHWA,HHWI,HHWEE,HHWE"⟩,
  ⟨0x1e7ed, "ETHIOPIC SYLLABLE GURAGE ",
    "MWI,MWEE,…,QWI,QWEE,QWE,BWI,BWEE,KWI,KWEE,KWE,GWI,GWEE,GWE,FWI,FWEE,PWI,PWEE"⟩,
  ⟨0x1e800, "MENDE KIKAKUI SYLLABLE M",
    "001 KI,002 KA,003 KU,065 KEE,095 KE,076 KOO,048 KO,179 KUA,004 WI,005 WA,006 WU,126 WEE,11" ++
    "8 WE,114 WOO,045 WO,194 WUI,143 WEI,061 WVI,049 WVA,139 WVE,007 MIN,008 MAN,009 MUN,059 ME" ++
    "N,094 MON,154 MUAN,189 MUEN,010 BI,011 BA,012 BU,150 BEE,097 BE,103 BOO,138 BO,013 I,014 A" ++
    ",015 U,163 EE,100 E,165 OO,147 O,137 EI,131 IN,135 IN,195 AN,178 EN,019 SI,020 SA,021 SU,1" ++
    "62 SEE,116 SE,136 SOO,079 SO,196 SIA,025 LI,026 LA,027 LU,084 LEE,073 LE,054 LOO,153 LO,11" ++
    "0 LONG LE,016 DI,017 DA,018 DU,089 DEE,180 DOO,181 DO,022 TI,023 TA,024 TU,091 TEE,055 TE," ++
    "104 TOO,069 TO,028 JI,029 JA,030 JU,157 JEE,113 JE,160 JOO,063 JO,175 LONG JO,031 YI,032 Y" ++
    "A,033 YU,109 YEE,080 YE,141 YOO,121 YO,034 FI,035 FA,036 FU,078 FEE,075 FE,133 FOO,088 FO," ++
    "197 FUA,101 FAN,037 NIN,038 NAN,039 NUN,117 NEN,169 NON,176 HI,041 HA,186 HU,040 HEE,096 H" ++
    "E,042 HOO,140 HO,083 HEEI,128 HOOU,053 HIN,130 HAN,087 HUN,052 HEN,193 HON,046 HUAN,090 NG" ++
    "GI,043 NGGA,082 NGGU,115 NGGEE,146 NGGE,156 NGGOO,120 NGGO,159 NGGAA,127 NGGUA,086 LONG NG" ++
    "GE,106 LONG NGGOO,183 LONG NGGO,155 GI,111 GA,168 GU,190 GEE,166 GUEI,167 GUAN,184 NGEN,05" ++
    "7 NGON,177 NGUAN,068 PI,099 PA,050 PU,081 PEE,051 PE,102 POO,066 PO,145 MBI,062 MBA,122 MB" ++
    "U,047 MBEE,188 MBEE,072 MBE,172 MBOO,174 MBO,187 MBUU,161 LONG MBE,105 LONG MBOO,142 LONG " ++
    "MBO,132 KPI,092 KPA,074 KPU,044 KPEE,108 KPE,112 KPOO,158 KPO,124 GBI,056 GBA,148 GBU,093 " ++
    "GBEE,107 GBE,071 GBOO,070 GBO,171 RA,123 NDI,129 NDA,125 NDU,191 NDEE,119 NDE,067 NDOO,064" ++
    " NDO,152 NJA,192 NJU,149 NJEE,134 NJOO,182 VI,185 VA,151 VU,173 VEE,085 VE,144 VOO,077 VO," ++
    "164 NYIN,058 NYAN,170 NYUN,098 NYEN,060 NYON"⟩,
  ⟨0x1e8c7, "MENDE KIKAKUI DIGIT ", "ONE,TWO,THREE,FOUR,FIVE,SIX,SEVEN,EIGHT,NINE"⟩,
  ⟨0x1e8d0, "MENDE KIKAKUI COMBINING NUMBER ",
    "TEENS,TENS,HUNDREDS,THOUSANDS,TEN THOUSANDS,HUNDRED THOUSANDS,MILLIONS"⟩,
  ⟨0x1e900, "ADLAM CAPITAL LETTER ",
    "ALIF,DAALI,LAAM,MIIM,BA,SINNYIIYHE,PE,BHE,RA,E,FA,I,O,DHA,YHE,WAW,NUN,KAF,YA,U,JIIM,CHI,HA" ++
    ",QAAF,GA,NYA,TU,NHA,VA,KHA,GBE,ZAL,KPO,SHA"⟩,
  ⟨0x1e922, "ADLAM SMALL LETTER ",
    "ALIF,DAALI,LAAM,MIIM,BA,SINNYIIYHE,PE,BHE,RA,E,FA,I,O,DHA,YHE,WAW,NUN,KAF,YA,U,JIIM,CHI,HA" ++
    ",QAAF,GA,NYA,TU,NHA,VA,KHA,GBE,ZAL,KPO,SHA"⟩,
  ⟨0x1e944, "ADLAM ",
    "ALIF LENGTHENER,VOWEL LENGTHENER,GEMINATION MARK,HAMZA,CONSONANT MODIFIER,GEMINATE CONSONA" ++
    "NT MODIFIER,NUKTA,NASALIZATION MARK"⟩,
  ⟨0x1e950, "ADLAM DIGIT ", "ZERO,ONE,TWO,THREE,FOUR,FIVE,SIX,SEVEN,EIGHT,NINE"⟩,
  ⟨0x1e95e, "ADLAM INITIAL ", "EXCLAMATION MARK,QUESTION MARK"⟩,
  ⟨0x1ec71, "INDIC SIYAQ NUMBER ",
    "ONE,TWO,THREE,FOUR,FIVE,SIX,SEVEN,EIGHT,NINE,TEN,TWENTY,THIRTY,FORTY,FIFTY,SIXTY,SEVENTY,E" ++
    "IGHTY,NINETY,ONE HUNDRED,TWO HUNDRED,THREE HUNDRED,FOUR HUNDRED,FIVE HUNDRED,SIX HUNDRED,S" ++
    "EVEN HUNDRED,EIGHT HUNDRED,NINE HUNDRED,ONE THOUSAND,TWO THOUSAND,THREE THOUSAND,FOUR THOU" ++
    "SAND,FIVE THOUSAND,SIX THOUSAND,SEVEN THOUSAND,EIGHT THOUSAND,NINE THOUSAND,TEN THOUSAND,T" ++
    "WENTY THOUSAND,THIRTY THOUSAND,FORTY THOUSAND,FIFTY THOUSAND,SIXTY THOUSAND,SEVENTY THOUSA" ++
    "ND,EIGHTY THOUSAND,NINETY THOUSAND,LAKH,LAKHAN"⟩,
  ⟨0x1eca0, "INDIC SIYAQ ", "LAKH MARK,NUMBER KAROR,NUMBER KARORAN"⟩,
  ⟨0x1eca3, "INDIC SIYAQ NUMBER PREFIXED ", "ONE,TWO,THREE,FOUR,FIVE,SIX,SEVEN,EIGHT,NINE"⟩,
  ⟨0x1ecac, "INDIC SIYAQ ",
    "PLACEHOLDER,FRACTION ONE QUARTER,FRACTION ONE HALF,FRACTION THREE QUARTERS,RUPEE MARK,NUMB" ++
    "ER ALTERNATE ONE,NUMBER ALTERNATE TWO,NUMBER ALTERNATE TEN THOUSAND,ALTERNATE LAKH MARK"⟩,
  ⟨0x1ed01, "OTTOMAN SIYAQ NUMBER ",
    "ONE,TWO,THREE,FOUR,FIVE,SIX,SEVEN,EIGHT,NINE,TEN,TWENTY,THIRTY,FORTY,FIFTY,SIXTY,SEVENTY,E" ++
    "IGHTY,NINETY,ONE HUNDRED,TWO HUNDRED,THREE HUNDRED,FOUR HUNDRED,FIVE HUNDRED,SIX HUNDRED,S" ++
    "EVEN HUNDRED,EIGHT HUNDRED,NINE HUNDRED,ONE THOUSAND,TWO THOUSAND,THREE THOUSAND,FOUR THOU" ++
    "SAND,FIVE THOUSAND,SIX THOUSAND,SEVEN THOUSAND,EIGHT THOUSAND,NINE THOUSAND,TEN THOUSAND,T" ++
    "WENTY THOUSAND,THIRTY THOUSAND,FORTY THOUSAND,FIFTY THOUSAND,SIXTY THOUSAND,SEVENTY THOUSA" ++
    "ND,EIGHTY THOUSAND,NINETY THOUSAND"⟩,
  ⟨0x1ed2e, "OTTOMAN SIYAQ MARRATAN", ""⟩,
  ⟨0x1ed2f, "OTTOMAN SIYAQ ALTERNATE NUMBER ",
    "TWO,THREE,FOUR,FIVE,SIX,SEVEN,EIGHT,NINE,TEN,FOUR HUNDRED,SIX HUNDRED,TWO THOUSAND,TEN THO" ++
    "USAND"⟩,
  ⟨0x1ed3c, "OTTOMAN SIYAQ FRACTION ONE ", "HALF,SIXTH"⟩,
  ⟨0x1ee00, "ARABIC MATHEMATICAL ",
    "ALEF,BEH,JEEM,DAL,…,WAW,ZAIN,HAH,TAH,YEH,KAF,LAM,MEEM,NOON,SEEN,AIN,FEH,SAD,QAF,REH,SHEEN," ++
    "TEH,THEH,KHAH,THAL,DAD,ZAH,GHAIN,DOTLESS BEH,DOTLESS NOON,DOTLESS FEH,DOTLESS QAF"⟩,
  ⟨0x1ee21, "ARABIC MATHEMATICAL INITIAL ",
    "BEH,JEEM,…,HEH,…,…,HAH,…,YEH,KAF,LAM,MEEM,NOON,SEEN,AIN,FEH,SAD,QAF,…,SHEEN,TEH,THEH,KHAH," ++
    "…,DAD,…,GHAIN"⟩,
  ⟨0x1ee42, "ARABIC MATHEMATICAL TAILED ",
    "JEEM,…,…,…,…,HAH,…,YEH,…,LAM,…,NOON,SEEN,AIN,…,SAD,QAF,…,SHEEN,…,…,KHAH,…,DAD,…,GHAIN,…,DO" ++
    "TLESS NOON,…,DOTLESS QAF"⟩,
  ⟨0x1ee61, "ARABIC MATHEMATICAL STRETCHED ",
    "BEH,JEEM,…,HEH,…,…,HAH,TAH,YEH,KAF,…,MEEM,NOON,SEEN,AIN,FEH,SAD,QAF,…,SHEEN,TEH,THEH,KHAH," ++
    "…,DAD,ZAH,GHAIN,DOTLESS BEH,…,DOTLESS FEH"⟩,
  ⟨0x1ee80, "ARABIC MATHEMATICAL LOOPED ",
    "ALEF,BEH,JEEM,DAL,HEH,WAW,ZAIN,HAH,TAH,YEH,…,LAM,MEEM,NOON,SEEN,AIN,FEH,SAD,QAF,REH,SHEEN," ++
    "TEH,THEH,KHAH,THAL,DAD,ZAH,GHAIN"⟩,
  ⟨0x1eea1, "ARABIC MATHEMATICAL DOUBLE-STRUCK ",
    "BEH,JEEM,DAL,…,WAW,ZAIN,HAH,TAH,YEH,…,LAM,MEEM,NOON,SEEN,AIN,FEH,SAD,QAF,REH,SHEEN,TEH,THE" ++
    "H,KHAH,THAL,DAD,ZAH,GHAIN"⟩,
  ⟨0x1eef0, "ARABIC MATHEMATICAL OPERATOR ", "MEEM WITH HAH WITH TATWEEL,HAH WITH DAL"⟩,
  ⟨0x1f000, "MAHJONG TILE ",
    "EAST WIND,SOUTH WIND,WEST WIND,NORTH WIND,RED DRAGON,GREEN DRAGON,WHITE DRAGON,ONE OF CHAR" ++
    "ACTERS,TWO OF CHARACTERS,THREE OF CHARACTERS,FOUR OF CHARACTERS,FIVE OF CHARACTERS,SIX OF " ++
    "CHARACTERS,SEVEN OF CHARACTERS,EIGHT OF CHARACTERS,NINE OF CHARACTERS,ONE OF BAMBOOS,TWO O" ++
    "F BAMBOOS,THREE OF BAMBOOS,FOUR OF BAMBOOS,FIVE OF BAMBOOS,SIX OF BAMBOOS,SEVEN OF BAMBOOS" ++
    ",EIGHT OF BAMBOOS,NINE OF BAMBOOS,ONE OF CIRCLES,TWO OF CIRCLES,THREE OF CIRCLES,FOUR OF C" ++
    "IRCLES,FIVE OF CIRCLES,SIX OF CIRCLES,SEVEN OF CIRCLES,EIGHT OF CIRCLES,NINE OF CIRCLES,PL" ++
    "UM,ORCHID,BAMBOO,CHRYSANTHEMUM,SPRING,SUMMER,AUTUMN,WINTER,JOKER,BACK"⟩,
  ⟨0x1f030, "DOMINO TILE HORIZONTAL BACK", ""⟩,
  ⟨0x1f031, "DOMINO TILE HORIZONTAL-0",
    "0-00,0-01,0-02,0-03,0-04,0-05,0-06,1-00,1-01,1-02,1-03,1-04,1-05,1-06,2-00,2-01,2-02,2-03," ++
    "2-04,2-05,2-06,3-00,3-01,3-02,3-03,3-04,3-05,3-06,4-00,4-01,4-02,4-03,4-04,4-05,4-06,5-00," ++
    "5-01,5-02,5-03,5-04,5-05,5-06,6-00,6-01,6-02,6-03,6-04,6-05,6-06"⟩,
  ⟨0x1f062, "DOMINO TILE VERTICAL BACK", ""⟩,
  ⟨0x1f063, "DOMINO TILE VERTICAL-0",
    "0-00,0-01,0-02,0-03,0-04,0-05,0-06,1-00,1-01,1-02,1-03,1-04,1-05,1-06,2-00,2-01,2-02,2-03," ++
    "2-04,2-05,2-06,3-00,3-01,3-02,3-03,3-04,3-05,3-06,4-00,4-01,4-02,4-03,4-04,4-05,4-06,5-00," ++
    "5-01,5-02,5-03,5-04,5-05,5-06,6-00,6-01,6-02,6-03,6-04,6-05,6-06"⟩,
  ⟨0x1f0a0, "PLAYING CARD ",
    "BACK,ACE OF SPADES,TWO OF SPADES,THREE OF SPADES,FOUR OF SPADES,FIVE OF SPADES,SIX OF SPAD" ++
    "ES,SEVEN OF SPADES,EIGHT OF SPADES,NINE OF SPADES,TEN OF SPADES,JACK OF SPADES,KNIGHT OF S" ++
    "PADES,QUEEN OF SPADES,KING OF SPADES,…,…,ACE OF HEARTS,TWO OF HEARTS,THREE OF HEARTS,FOUR " ++
    "OF HEARTS,FIVE OF HEARTS,SIX OF HEARTS,SEVEN OF HEARTS,EIGHT OF HEARTS,NINE OF HEARTS,TEN " ++
    "OF HEARTS,JACK OF HEARTS,KNIGHT OF HEARTS,QUEEN OF HEARTS,KING OF HEARTS,RED JOKER,…,ACE O" ++
    "F DIAMONDS,TWO OF DIAMONDS,THREE OF DIAMONDS,FOUR OF DIAMONDS,FIVE OF DIAMONDS,SIX OF DIAM" ++
    "ONDS,SEVEN OF DIAMONDS,EIGHT OF DIAMONDS,NINE OF DIAMONDS,TEN OF DIAMONDS,JACK OF DIAMONDS" ++
    ",KNIGHT OF DIAMONDS,QUEEN OF DIAMONDS,KING OF DIAMONDS,BLACK JOKER,…,ACE OF CLUBS,TWO OF C" ++
    "LUBS,THREE OF CLUBS,FOUR OF CLUBS,FIVE OF CLUBS,SIX OF CLUBS,SEVEN OF CLUBS,EIGHT OF CLUBS" ++
    ",NINE OF CLUBS,TEN OF CLUBS,JACK OF CLUBS,KNIGHT OF CLUBS,QUEEN OF CLUBS,KING OF CLUBS,WHI" ++
    "TE JOKER,FOOL"⟩,
  ⟨0x1f0e1, "PLAYING CARD TRUMP-", "1,2,3,4,5,6,7,8,9,10,11,12,13,14,15,16,17,18,19,20,21"⟩,
  ⟨0x1f100, "DIGIT ",
    "ZERO FULL STOP,ZERO COMMA,ONE COMMA,TWO COMMA,THREE COMMA,FOUR COMMA,FIVE COMMA,SIX COMMA," ++
    "SEVEN COMMA,EIGHT COMMA,NINE COMMA"⟩,
  ⟨0x1f10b, "",
    "DINGBAT CIRCLED SANS-SERIF DIGIT ZERO,DINGBAT NEGATIVE CIRCLED SANS-SERIF DIGIT ZERO,CIRCL" ++
    "ED ZERO WITH SLASH,CIRCLED ANTICLOCKWISE ARROW,CIRCLED DOLLAR SIGN WITH OVERLAID BACKSLASH"⟩,
  ⟨0x1f110, "PARENTHESIZED LATIN CAPITAL LETTER ",
    "A,B,C,D,E,F,G,H,I,J,K,L,M,N,O,P,Q,R,S,T,U,V,W,X,Y,Z"⟩,
  ⟨0x1f12a, "",
    "TORTOISE SHELL BRACKETED LATIN CAPITAL LETTER S,CIRCLED ITALIC LATIN CAPITAL LETTER C,CIRC" ++
    "LED ITALIC LATIN CAPITAL LETTER R,CIRCLED CD,CIRCLED WZ,COPYLEFT SYMBOL"⟩,
  ⟨0x1f130, "SQUARED LATIN CAPITAL LETTER ", "A,B,C,D,E,F,G,H,I,J,K,L,M,N,O,P,Q,R,S,T,U,V,W,X,Y,Z"⟩,
  ⟨0x1f14a, "SQUARED ", "HV,MV,SD,SS,PPV,WC"⟩,
  ⟨0x1f150, "NEGATIVE CIRCLED LATIN CAPITAL LETTER ",
    "A,B,C,D,E,F,G,H,I,J,K,L,M,N,O,P,Q,R,S,T,U,V,W,X,Y,Z"⟩,
  ⟨0x1f16a, "RAISED M", "C SIGN,D SIGN,R SIGN"⟩,
  ⟨0x1f16d, "CIRCLED ", "CC,C WITH OVERLAID BACKSLASH,HUMAN FIGURE"⟩,
  ⟨0x1f170, "NEGATIVE SQUARED LATIN CAPITAL LETTER ",
    "A,B,C,D,E,F,G,H,I,J,K,L,M,N,O,P,Q,R,S,T,U,V,W,X,Y,Z"⟩,
  ⟨0x1f18a, "CROSSED NEGATIVE SQUARED LATIN CAPITAL LETTER P", ""⟩,
  ⟨0x1f18b, "NEGATIVE SQUARED ", "IC,PA,SA,AB,WC"⟩,
  ⟨0x1f190, "SQUARE DJ", ""⟩,
  ⟨0x1f191, "SQUARED ",
    "CL,COOL,FREE,ID,NEW,NG,OK,SOS,UP WITH EXCLAMATION MARK,VS,THREE D,SECOND SCREEN,TWO K,FOUR" ++
    " K,EIGHT K,FIVE POINT ONE,SEVEN POINT ONE,TWENTY-TWO POINT TWO,SIXTY P,ONE HUNDRED TWENTY " ++
    "P,LATIN SMALL LETTER D,HC,HDR,HI-RES,LOSSLESS,SHV,UHD,VOD"⟩,
  ⟨0x1f1ad, "MASK WORK SYMBOL", ""⟩,
  ⟨0x1f1e6, "REGIONAL INDICATOR SYMBOL LETTER ",
    "A,B,C,D,E,F,G,H,I,J,K,L,M,N,O,P,Q,R,S,T,U,V,W,X,Y,Z"⟩,
  ⟨0x1f200, "SQUARE", " HIRAGANA HOKA,D KATAKANA KOKO,D KATAKANA SA"⟩,
  ⟨0x1f210, "SQUARED CJK UNIFIED IDEOGRAPH-", "624B,5B57,53CC"⟩,
  ⟨0x1f213, "SQUARED KATAKANA DE", ""⟩,
  ⟨0x1f214, "SQUARED CJK UNIFIED IDEOGRAPH-",
    "4E8C,591A,89E3,5929,4EA4,6620,7121,6599,524D,5F8C,518D,65B0,521D,7D42,751F,8CA9,58F0,5439," ++
    "6F14,6295,6355,4E00,4E09,904A,5DE6,4E2D,53F3,6307,8D70,6253,7981,7A7A,5408,6E80,6709,6708," ++
    "7533,5272,55B6,914D"⟩,
  ⟨0x1f240, "TORTOISE SHELL BRACKETED CJK UNIFIED IDEOGRAPH-",
    "672C,4E09,4E8C,5B89,70B9,6253,76D7,52DD,6557"⟩,
  ⟨0x1f250, "CIRCLED IDEOGRAPH A", "DVANTAGE,CCEPT"⟩,
  ⟨0x1f260, "ROUNDED SYMBOL FOR ", "FU,LU,SHOU,XI,SHUANGXI,CAI"⟩,
  ⟨0x1f300, "",
    "CYCLONE,FOGGY,CLOSED UMBRELLA,NIGHT WITH STARS,SUNRISE OVER MOUNTAINS,SUNRISE,CITYSCAPE AT" ++
    " DUSK,SUNSET OVER BUILDINGS,RAINBOW,BRIDGE AT NIGHT,WATER WAVE,VOLCANO,MILKY WAY,EARTH GLO" ++
    "BE EUROPE-AFRICA,EARTH GLOBE AMERICAS,EARTH GLOBE ASIA-AUSTRALIA,GLOBE WITH MERIDIANS,NEW " ++
    "MOON SYMBOL,WAXING CRESCENT MOON SYMBOL,FIRST QUARTER MOON SYMBOL,WAXING GIBBOUS MOON SYMB" ++
    "OL,FULL MOON SYMBOL,WANING GIBBOUS MOON SYMBOL,LAST QUARTER MOON SYMBOL,WANING CRESCENT MO" ++
    "ON SYMBOL,CRESCENT MOON,NEW MOON WITH FACE,FIRST QUARTER MOON WITH FACE,LAST QUARTER MOON " ++
    "WITH FACE,FULL MOON WITH FACE,SUN WITH FACE,GLOWING STAR,SHOOTING STAR,THERMOMETER,BLACK D" ++
    "ROPLET"⟩,
  ⟨0x1f323, "WHITE SUN", ", WITH SMALL CLOUD, BEHIND CLOUD, BEHIND CLOUD WITH RAIN"⟩,
  ⟨0x1f327, "CLOUD WITH ", "RAIN,SNOW,LIGHTNING,TORNADO"⟩,
  ⟨0x1f32b, "",
    "FOG,WIND BLOWING FACE,HOT DOG,TACO,BURRITO,CHESTNUT,SEEDLING,EVERGREEN TREE,DECIDUOUS TREE" ++
    ",PALM TREE,CACTUS,HOT PEPPER,TULIP,CHERRY BLOSSOM,ROSE,HIBISCUS,SUNFLOWER,BLOSSOM,EAR OF M" ++
    "AIZE,EAR OF RICE,HERB,FOUR LEAF CLOVER,MAPLE LEAF,FALLEN LEAF,LEAF FLUTTERING IN WIND"⟩,
  ⟨0x1f344, "",
    "MUSHROOM,TOMATO,AUBERGINE,GRAPES,MELON,WATERMELON,TANGERINE,LEMON,BANANA,PINEAPPLE,RED APP" ++
    "LE,GREEN APPLE,PEAR,PEACH,CHERRIES,STRAWBERRY,HAMBURGER,SLICE OF PIZZA,MEAT ON BONE,POULTR" ++
    "Y LEG,RICE CRACKER,RICE BALL,COOKED RICE,CURRY AND RICE,STEAMING BOWL,SPAGHETTI,BREAD,FREN" ++
    "CH FRIES,ROASTED SWEET POTATO,DANGO,ODEN,SUSHI,FRIED SHRIMP,FISH CAKE WITH SWIRL DESIGN,SO" ++
    "FT ICE CREAM,SHAVED ICE,ICE CREAM,DOUGHNUT,COOKIE,CHOCOLATE BAR,CANDY,LOLLIPOP,CUSTARD,HON" ++
    "EY POT,SHORTCAKE,BENTO BOX,POT OF FOOD,COOKING,FORK AND KNIFE,TEACUP WITHOUT HANDLE,SAKE B" ++
    "OTTLE AND CUP,WINE GLASS,COCKTAIL GLASS,TROPICAL DRINK,BEER MUG,CLINKING BEER MUGS,BABY BO" ++
    "TTLE,FORK AND KNIFE WITH PLATE,BOTTLE WITH POPPING CORK,POPCORN,RIBBON"⟩,
  ⟨0x1f381, "",
    "WRAPPED PRESENT,BIRTHDAY CAKE,JACK-O-LANTERN,CHRISTMAS TREE,FATHER CHRISTMAS,FIREWORKS,FIR" ++
    "EWORK SPARKLER,BALLOON,PARTY POPPER,CONFETTI BALL,TANABATA TREE,CROSSED FLAGS,PINE DECORAT" ++
    "ION,JAPANESE DOLLS,CARP STREAMER,WIND CHIME,MOON VIEWING CEREMONY,SCHOOL SATCHEL,GRADUATIO" ++
    "N CAP,HEART WITH TIP ON THE LEFT,BOUQUET OF FLOWERS,MILITARY MEDAL,REMINDER RIBBON,MUSICAL" ++
    " KEYBOARD WITH JACKS,STUDIO MICROPHONE,LEVEL SLIDER,CONTROL KNOBS,BEAMED ASCENDING MUSICAL" ++
    " NOTES,BEAMED DESCENDING MUSICAL NOTES,FILM FRAMES,ADMISSION TICKETS,CAROUSEL HORSE,FERRIS" ++
    " WHEEL,ROLLER COASTER,FISHING POLE AND FISH,MICROPHONE,MOVIE CAMERA,CINEMA,HEADPHONE,ARTIS" ++
    "T PALETTE,TOP HAT,CIRCUS TENT,TICKET,CLAPPER BOARD,PERFORMING ARTS,VIDEO GAME,DIRECT HIT,S" ++
    "LOT MACHINE,BILLIARDS,GAME DIE,BOWLING,FLOWER PLAYING CARDS,MUSICAL NOTE,MULTIPLE MUSICAL " ++
    "NOTES,SAXOPHONE,GUITAR,MUSICAL KEYBOARD,TRUMPET,VIOLIN,MUSICAL SCORE,RUNNING SHIRT WITH SA" ++
    "SH"⟩,
  ⟨0x1f3be, "",
    "TENNIS RACQUET AND BALL,SKI AND SKI BOOT,BASKETBALL AND HOOP,CHEQUERED FLAG,SNOWBOARDER,RU" ++
    "NNER,SURFER,SPORTS MEDAL,TROPHY,HORSE RACING,AMERICAN FOOTBALL,RUGBY FOOTBALL,SWIMMER,WEIG" ++
    "HT LIFTER,GOLFER,RACING MOTORCYCLE,RACING CAR,CRICKET BAT AND BALL,VOLLEYBALL,FIELD HOCKEY" ++
    " STICK AND BALL,ICE HOCKEY STICK AND PUCK,TABLE TENNIS PADDLE AND BALL,SNOW CAPPED MOUNTAI" ++
    "N,CAMPING,BEACH WITH UMBRELLA,BUILDING CONSTRUCTION,HOUSE BUILDINGS,CITYSCAPE,DERELICT HOU" ++
    "SE BUILDING,CLASSICAL BUILDING,DESERT,DESERT ISLAND,NATIONAL PARK,STADIUM,HOUSE BUILDING,H" ++
    "OUSE WITH GARDEN,OFFICE BUILDING,JAPANESE POST OFFICE,EUROPEAN POST OFFICE,HOSPITAL,BANK,A" ++
    "UTOMATED TELLER MACHINE,HOTEL,LOVE HOTEL,CONVENIENCE STORE,SCHOOL,DEPARTMENT STORE,FACTORY" ++
    ",IZAKAYA LANTERN,JAPANESE CASTLE,EUROPEAN CASTLE,WHITE PENNANT,BLACK PENNANT,WAVING WHITE " ++
    "FLAG,WAVING BLACK FLAG,ROSETTE,BLACK ROSETTE,LABEL,BADMINTON RACQUET AND SHUTTLECOCK,BOW A" ++
    "ND ARROW,AMPHORA"⟩,
  ⟨0x1f3fb, "EMOJI MODIFIER FITZPATRICK TYPE-", "1-2,3,4,5,6"⟩,
  ⟨0x1f400, "",
    "RAT,MOUSE,OX,WATER BUFFALO,COW,TIGER,LEOPARD,RABBIT,CAT,DRAGON,CROCODILE,WHALE,SNAIL,SNAKE" ++
    ",HORSE,RAM,GOAT,SHEEP,MONKEY,ROOSTER,CHICKEN,DOG,PIG,BOAR,ELEPHANT,OCTOPUS,SPIRAL SHELL,BU" ++
    "G,ANT,HONEYBEE,LADY BEETLE,FISH,TROPICAL FISH,BLOWFISH,TURTLE,HATCHING CHICK,BABY CHICK,FR" ++
    "ONT-FACING BABY CHICK,BIRD,PENGUIN,KOALA,POODLE,DROMEDARY CAMEL,BACTRIAN CAMEL,DOLPHIN,MOU" ++
    "SE FACE,COW FACE,TIGER FACE,RABBIT FACE,CAT FACE,DRAGON FACE,SPOUTING WHALE,HORSE FACE,MON" ++
    "KEY FACE,DOG FACE,PIG FACE,FROG FACE,HAMSTER FACE"⟩,
  ⟨0x1f43a, "",
    "WOLF FACE,BEAR FACE,PANDA FACE,PIG NOSE,PAW PRINTS,CHIPMUNK,EYES,EYE,EAR,NOSE,MOUTH,TONGUE" ++
    ",WHITE UP POINTING BACKHAND INDEX,WHITE DOWN POINTING BACKHAND INDEX,WHITE LEFT POINTING B" ++
    "ACKHAND INDEX,WHITE RIGHT POINTING BACKHAND INDEX,FISTED HAND SIGN,WAVING HAND SIGN,OK HAN" ++
    "D SIGN,THUMBS UP SIGN,THUMBS DOWN SIGN,CLAPPING HANDS SIGN,OPEN HANDS SIGN,CROWN,WOMANS HA" ++
    "T,EYEGLASSES,NECKTIE,T-SHIRT,JEANS,DRESS,KIMONO,BIKINI,WOMANS CLOTHES,PURSE,HANDBAG,POUCH," ++
    "MANS SHOE,ATHLETIC SHOE,HIGH-HEELED SHOE,WOMANS SANDAL,WOMANS BOOTS,FOOTPRINTS,BUST IN SIL" ++
    "HOUETTE,BUSTS IN SILHOUETTE,BOY,GIRL,MAN,WOMAN,FAMILY,MAN AND WOMAN HOLDING HANDS,TWO MEN " ++
    "HOLDING HANDS,TWO WOMEN HOLDING HANDS,POLICE OFFICER,WOMAN WITH BUNNY EARS,BRIDE WITH VEIL" ++
    ",PERSON WITH BLOND HAIR,MAN WITH GUA PI MAO,MAN WITH TURBAN,OLDER MAN,OLDER WOMAN,BABY"⟩,
  ⟨0x1f477, "",
    "CONSTRUCTION WORKER,PRINCESS,JAPANESE OGRE,JAPANESE GOBLIN,GHOST,BABY ANGEL,EXTRATERRESTRI" ++
    "AL ALIEN,ALIEN MONSTER,IMP,SKULL,INFORMATION DESK PERSON,GUARDSMAN,DANCER,LIPSTICK,NAIL PO" ++
    "LISH,FACE MASSAGE,HAIRCUT,BARBER POLE,SYRINGE,PILL,KISS MARK,LOVE LETTER,RING,GEM STONE,KI" ++
    "SS,BOUQUET,COUPLE WITH HEART,WEDDING,BEATING HEART,BROKEN HEART,TWO HEARTS,SPARKLING HEART" ++
    ",GROWING HEART,HEART WITH ARROW,BLUE HEART,GREEN HEART,YELLOW HEART,PURPLE HEART,HEART WIT" ++
    "H RIBBON,REVOLVING HEARTS,HEART DECORATION,DIAMOND SHAPE WITH A DOT INSIDE,ELECTRIC LIGHT " ++
    "BULB,ANGER SYMBOL,BOMB,SLEEPING SYMBOL,COLLISION SYMBOL,SPLASHING SWEAT SYMBOL,DROPLET,DAS" ++
    "H SYMBOL,PILE OF POO,FLEXED BICEPS,DIZZY SYMBOL,SPEECH BALLOON,THOUGHT BALLOON,WHITE FLOWE" ++
    "R,HUNDRED POINTS SYMBOL,MONEY BAG,CURRENCY EXCHANGE,HEAVY DOLLAR SIGN,CREDIT CARD"⟩,
  ⟨0x1f4b4, "BANKNOTE WITH ", "YEN SIGN,DOLLAR SIGN,EURO SIGN,POUND SIGN"⟩,
  ⟨0x1f4b8, "",
    "MONEY WITH WINGS,CHART WITH UPWARDS TREND AND YEN SIGN,SEAT,PERSONAL COMPUTER,BRIEFCASE,MI" ++
    "NIDISC,FLOPPY DISK,OPTICAL DISC,DVD,FILE FOLDER,OPEN FILE FOLDER,PAGE WITH CURL"⟩,
  ⟨0x1f4c4, "",
    "PAGE FACING UP,CALENDAR,TEAR-OFF CALENDAR,CARD INDEX,CHART WITH UPWARDS TREND,CHART WITH D" ++
    "OWNWARDS TREND,BAR CHART,CLIPBOARD,PUSHPIN,ROUND PUSHPIN,PAPERCLIP,STRAIGHT RULER,TRIANGUL" ++
    "AR RULER,BOOKMARK TABS,LEDGER,NOTEBOOK,NOTEBOOK WITH DECORATIVE COVER,CLOSED BOOK,OPEN BOO" ++
    "K,GREEN BOOK,BLUE BOOK,ORANGE BOOK,BOOKS,NAME BADGE,SCROLL,MEMO,TELEPHONE RECEIVER,PAGER,F" ++
    "AX MACHINE,SATELLITE ANTENNA,PUBLIC ADDRESS LOUDSPEAKER,CHEERING MEGAPHONE,OUTBOX TRAY,INB" ++
    "OX TRAY,PACKAGE,E-MAIL SYMBOL,INCOMING ENVELOPE,ENVELOPE WITH DOWNWARDS ARROW ABOVE,CLOSED" ++
    " MAILBOX WITH LOWERED FLAG,CLOSED MAILBOX WITH RAISED FLAG,OPEN MAILBOX WITH RAISED FLAG,O" ++
    "PEN MAILBOX WITH LOWERED FLAG,POSTBOX,POSTAL HORN,NEWSPAPER,MOBILE PHONE,MOBILE PHONE WITH" ++
    " RIGHTWARDS ARROW AT LEFT,VIBRATION MODE,MOBILE PHONE OFF,NO MOBILE PHONES,ANTENNA WITH BA" ++
    "RS,CAMERA,CAMERA WITH FLASH,VIDEO CAMERA,TELEVISION,RADIO,VIDEOCASSETTE,FILM PROJECTOR,POR" ++
    "TABLE STEREO,PRAYER BEADS,TWISTED RIGHTWARDS ARROWS"⟩,
  ⟨0x1f501, "CLOCKWISE RIGHTWARDS AND LEFTWARDS OPEN CIRCLE ARROWS", ", WITH CIRCLED ONE OVERLAY"⟩,
  ⟨0x1f503, "",
    "CLOCKWISE DOWNWARDS AND UPWARDS OPEN CIRCLE ARROWS,ANTICLOCKWISE DOWNWARDS AND UPWARDS OPE" ++
    "N CIRCLE ARROWS,LOW BRIGHTNESS SYMBOL,HIGH BRIGHTNESS SYMBOL,SPEAKER WITH CANCELLATION STR" ++
    "OKE,SPEAKER,SPEAKER WITH ONE SOUND WAVE,SPEAKER WITH THREE SOUND WAVES,BATTERY,ELECTRIC PL" ++
    "UG,LEFT-POINTING MAGNIFYING GLASS,RIGHT-POINTING MAGNIFYING GLASS,LOCK WITH INK PEN,CLOSED" ++
    " LOCK WITH KEY,KEY,LOCK,OPEN LOCK,BELL,BELL WITH CANCELLATION STROKE,BOOKMARK,LINK SYMBOL," ++
    "RADIO BUTTON,BACK WITH LEFTWARDS ARROW ABOVE,END WITH LEFTWARDS ARROW ABOVE,ON WITH EXCLAM" ++
    "ATION MARK WITH LEFT RIGHT ARROW ABOVE,SOON WITH RIGHTWARDS ARROW ABOVE,TOP WITH UPWARDS A" ++
    "RROW ABOVE,NO ONE UNDER EIGHTEEN SYMBOL,KEYCAP TEN"⟩,
  ⟨0x1f520, "INPUT SYMBOL FOR ",
    "LATIN CAPITAL LETTERS,LATIN SMALL LETTERS,NUMBERS,SYMBOLS,LATIN LETTERS"⟩,
  ⟨0x1f525, "",
    "FIRE,ELECTRIC TORCH,WRENCH,HAMMER,NUT AND BOLT,HOCHO,PISTOL,MICROSCOPE,TELESCOPE,CRYSTAL B" ++
    "ALL,SIX POINTED STAR WITH MIDDLE DOT,JAPANESE SYMBOL FOR BEGINNER,TRIDENT EMBLEM,BLACK SQU" ++
    "ARE BUTTON,WHITE SQUARE BUTTON,LARGE RED CIRCLE,LARGE BLUE CIRCLE,LARGE ORANGE DIAMOND,LAR" ++
    "GE BLUE DIAMOND,SMALL ORANGE DIAMOND,SMALL BLUE DIAMOND,UP-POINTING RED TRIANGLE,DOWN-POIN" ++
    "TING RED TRIANGLE,UP-POINTING SMALL RED TRIANGLE,DOWN-POINTING SMALL RED TRIANGLE,LOWER RI" ++
    "GHT SHADOWED WHITE CIRCLE,UPPER RIGHT SHADOWED WHITE CIRCLE,CIRCLED CROSS POMMEE,CROSS POM" ++
    "MEE WITH HALF-CIRCLE BELOW,CROSS POMMEE,NOTCHED LEFT SEMICIRCLE WITH THREE DOTS,NOTCHED RI" ++
    "GHT SEMICIRCLE WITH THREE DOTS,SYMBOL FOR MARKS CHAPTER,WHITE LATIN CROSS,HEAVY LATIN CROS" ++
    "S,CELTIC CROSS,OM SYMBOL,DOVE OF PEACE,KAABA,MOSQUE,SYNAGOGUE,MENORAH WITH NINE BRANCHES,B" ++
    "OWL OF HYGIEIA"⟩,
  ⟨0x1f550, "CLOCK FACE ",
    "ONE OCLOCK,TWO OCLOCK,THREE OCLOCK,FOUR OCLOCK,FIVE OCLOCK,SIX OCLOCK,SEVEN OCLOCK,EIGHT O" ++
    "CLOCK,NINE OCLOCK,TEN OCLOCK,ELEVEN OCLOCK,TWELVE OCLOCK,ONE-THIRTY,TWO-THIRTY,THREE-THIRT" ++
    "Y,FOUR-THIRTY,FIVE-THIRTY,SIX-THIRTY,SEVEN-THIRTY,EIGHT-THIRTY,NINE-THIRTY,TEN-THIRTY,ELEV" ++
    "EN-THIRTY,TWELVE-THIRTY"⟩,
  ⟨0x1f568, "RIGHT SPEAKER", ", WITH ONE SOUND WAVE, WITH THREE SOUND WAVES"⟩,
  ⟨0x1f56b, "",
    "BULLHORN,BULLHORN WITH SOUND WAVES,RINGING BELL,BOOK,CANDLE,MANTELPIECE CLOCK,BLACK SKULL " ++
    "AND CROSSBONES,NO PIRACY,HOLE,MAN IN BUSINESS SUIT LEVITATING,SLEUTH OR SPY,DARK SUNGLASSE" ++
    "S,SPIDER,SPIDER WEB,JOYSTICK,MAN DANCING,LEFT HAND TELEPHONE RECEIVER,TELEPHONE RECEIVER W" ++
    "ITH PAGE,RIGHT HAND TELEPHONE RECEIVER,WHITE TOUCHTONE TELEPHONE,BLACK TOUCHTONE TELEPHONE" ++
    ",TELEPHONE ON TOP OF MODEM,CLAMSHELL MOBILE PHONE,BACK OF ENVELOPE,STAMPED ENVELOPE,ENVELO" ++
    "PE WITH LIGHTNING,FLYING ENVELOPE,PEN OVER STAMPED ENVELOPE,LINKED PAPERCLIPS,BLACK PUSHPI" ++
    "N"⟩,
  ⟨0x1f589, "LOWER LEFT ", "PENCIL,BALLPOINT PEN,FOUNTAIN PEN,PAINTBRUSH,CRAYON"⟩,
  ⟨0x1f58e, "",
    "LEFT WRITING HAND,TURNED OK HAND SIGN,RAISED HAND WITH FINGERS SPLAYED,REVERSED RAISED HAN" ++
    "D WITH FINGERS SPLAYED,REVERSED THUMBS UP SIGN,REVERSED THUMBS DOWN SIGN,REVERSED VICTORY " ++
    "HAND,REVERSED HAND WITH MIDDLE FINGER EXTENDED,RAISED HAND WITH PART BETWEEN MIDDLE AND RI" ++
    "NG FINGERS,WHITE DOWN POINTING LEFT HAND INDEX,SIDEWAYS WHITE LEFT POINTING INDEX,SIDEWAYS" ++
    " WHITE RIGHT POINTING INDEX,SIDEWAYS BLACK LEFT POINTING INDEX,SIDEWAYS BLACK RIGHT POINTI" ++
    "NG INDEX,BLACK LEFT POINTING BACKHAND INDEX,BLACK RIGHT POINTING BACKHAND INDEX,SIDEWAYS W" ++
    "HITE UP POINTING INDEX,SIDEWAYS WHITE DOWN POINTING INDEX,SIDEWAYS BLACK UP POINTING INDEX" ++
    ",SIDEWAYS BLACK DOWN POINTING INDEX,BLACK UP POINTING BACKHAND INDEX,BLACK DOWN POINTING B" ++
    "ACKHAND INDEX,BLACK HEART,DESKTOP COMPUTER,KEYBOARD AND MOUSE,THREE NETWORKED COMPUTERS,PR" ++
    "INTER,POCKET CALCULATOR,BLACK HARD SHELL FLOPPY DISK,WHITE HARD SHELL FLOPPY DISK,SOFT SHE" ++
    "LL FLOPPY DISK,TAPE CARTRIDGE,WIRED KEYBOARD,ONE BUTTON MOUSE,TWO BUTTON MOUSE,THREE BUTTO" ++
    "N MOUSE,TRACKBALL,OLD PERSONAL COMPUTER,HARD DISK,SCREEN,PRINTER ICON,FAX ICON,OPTICAL DIS" ++
    "C ICON,DOCUMENT WITH TEXT,DOCUMENT WITH TEXT AND PICTURE,DOCUMENT WITH PICTURE,FRAME WITH " ++
    "PICTURE,FRAME WITH TILES,FRAME WITH AN X,BLACK FOLDER,FOLDER,OPEN FOLDER,CARD INDEX DIVIDE" ++
    "RS,CARD FILE BOX,FILE CABINET,EMPTY NOTE"⟩,
  ⟨0x1f5c6, "",
    "EMPTY NOTE PAGE,EMPTY NOTE PAD,NOTE,NOTE PAGE,NOTE PAD,EMPTY DOCUMENT,EMPTY PAGE,EMPTY PAG" ++
    "ES,DOCUMENT,PAGE,PAGES,WASTEBASKET,SPIRAL NOTE PAD,SPIRAL CALENDAR PAD,DESKTOP WINDOW,MINI" ++
    "MIZE,MAXIMIZE,OVERLAP,CLOCKWISE RIGHT AND LEFT SEMICIRCLE ARROWS,CANCELLATION X,INCREASE F" ++
    "ONT SIZE SYMBOL,DECREASE FONT SIZE SYMBOL,COMPRESSION,OLD KEY,ROLLED-UP NEWSPAPER,PAGE WIT" ++
    "H CIRCLED TEXT,STOCK CHART,DAGGER KNIFE,LIPS,SPEAKING HEAD IN SILHOUETTE,THREE RAYS ABOVE," ++
    "THREE RAYS BELOW,THREE RAYS LEFT,THREE RAYS RIGHT,LEFT SPEECH BUBBLE,RIGHT SPEECH BUBBLE,T" ++
    "WO SPEECH BUBBLES,THREE SPEECH BUBBLES,LEFT THOUGHT BUBBLE,RIGHT THOUGHT BUBBLE,LEFT ANGER" ++
    " BUBBLE,RIGHT ANGER BUBBLE,MOOD BUBBLE,LIGHTNING MOOD BUBBLE,LIGHTNING MOOD,BALLOT BOX WIT" ++
    "H BALLOT,BALLOT SCRIPT X,BALLOT BOX WITH SCRIPT X,BALLOT BOLD SCRIPT X,BALLOT BOX WITH BOL" ++
    "D SCRIPT X,LIGHT CHECK MARK,BALLOT BOX WITH BOLD CHECK,WORLD MAP,MOUNT FUJI,TOKYO TOWER,ST" ++
    "ATUE OF LIBERTY,SILHOUETTE OF JAPAN,MOYAI,GRINNING FACE,GRINNING FACE WITH SMILING EYES,FA" ++
    "CE WITH TEARS OF JOY"⟩,
  ⟨0x1f603, "SMILING FACE WITH ",
    "OPEN MOUTH,OPEN MOUTH AND SMILING EYES,OPEN MOUTH AND COLD SWEAT,OPEN MOUTH AND TIGHTLY-CL" ++
    "OSED EYES,HALO,HORNS"⟩,
  ⟨0x1f609, "",
    "WINKING FACE,SMILING FACE WITH SMILING EYES,FACE SAVOURING DELICIOUS FOOD,RELIEVED FACE,SM" ++
    "ILING FACE WITH HEART-SHAPED EYES,SMILING FACE WITH SUNGLASSES,SMIRKING FACE,NEUTRAL FACE," ++
    "EXPRESSIONLESS FACE,UNAMUSED FACE,FACE WITH COLD SWEAT,PENSIVE FACE,CONFUSED FACE,CONFOUND" ++
    "ED FACE,KISSING FACE,FACE THROWING A KISS,KISSING FACE WITH SMILING EYES,KISSING FACE WITH" ++
    " CLOSED EYES"⟩,
  ⟨0x1f61b, "FACE WITH STUCK-OUT TONGUE", ", AND WINKING EYE, AND TIGHTLY-CLOSED EYES"⟩,
  ⟨0x1f61e, "",
    "DISAPPOINTED FACE,WORRIED FACE,ANGRY FACE,POUTING FACE,CRYING FACE,PERSEVERING FACE,FACE W" ++
    "ITH LOOK OF TRIUMPH,DISAPPOINTED BUT RELIEVED FACE,FROWNING FACE WITH OPEN MOUTH,ANGUISHED" ++
    " FACE,FEARFUL FACE,WEARY FACE,SLEEPY FACE,TIRED FACE,GRIMACING FACE,LOUDLY CRYING FACE,FAC" ++
    "E WITH OPEN MOUTH,HUSHED FACE,FACE WITH OPEN MOUTH AND COLD SWEAT,FACE SCREAMING IN FEAR,A" ++
    "STONISHED FACE,FLUSHED FACE,SLEEPING FACE,DIZZY FACE,FACE WITHOUT MOUTH,FACE WITH MEDICAL " ++
    "MASK,GRINNING CAT FACE WITH SMILING EYES,CAT FACE WITH TEARS OF JOY,SMILING CAT FACE WITH " ++
    "OPEN MOUTH,SMILING CAT FACE WITH HEART-SHAPED EYES,CAT FACE WITH WRY SMILE,KISSING CAT FAC" ++
    "E WITH CLOSED EYES"⟩,
  ⟨0x1f63e, "",
    "POUTING CAT FACE,CRYING CAT FACE,WEARY CAT FACE,SLIGHTLY FROWNING FACE,SLIGHTLY SMILING FA" ++
    "CE,UPSIDE-DOWN FACE,FACE WITH ROLLING EYES,FACE WITH NO GOOD GESTURE,FACE WITH OK GESTURE," ++
    "PERSON BOWING DEEPLY,SEE-NO-EVIL MONKEY,HEAR-NO-EVIL MONKEY,SPEAK-NO-EVIL MONKEY,HAPPY PER" ++
    "SON RAISING ONE HAND,PERSON RAISING BOTH HANDS IN CELEBRATION,PERSON FROWNING,PERSON WITH " ++
    "POUTING FACE,PERSON WITH FOLDED HANDS,NORTH WEST POINTING LEAF,SOUTH WEST POINTING LEAF,NO" ++
    "RTH EAST POINTING LEAF,SOUTH EAST POINTING LEAF,TURNED NORTH WEST POINTING LEAF,TURNED SOU" ++
    "TH WEST POINTING LEAF,TURNED NORTH EAST POINTING LEAF,TURNED SOUTH EAST POINTING LEAF,NORT" ++
    "H WEST POINTING VINE LEAF,SOUTH WEST POINTING VINE LEAF,NORTH EAST POINTING VINE LEAF,SOUT" ++
    "H EAST POINTING VINE LEAF,HEAVY NORTH WEST POINTING VINE LEAF,HEAVY SOUTH WEST POINTING VI" ++
    "NE LEAF,HEAVY NORTH EAST POINTING VINE LEAF,HEAVY SOUTH EAST POINTING VINE LEAF,NORTH WEST" ++
    " POINTING BUD,SOUTH WEST POINTING BUD,NORTH EAST POINTING BUD,SOUTH EAST POINTING BUD,HEAV" ++
    "Y NORTH WEST POINTING BUD,HEAVY SOUTH WEST POINTING BUD,HEAVY NORTH EAST POINTING BUD,HEAV" ++
    "Y SOUTH EAST POINTING BUD,HOLLOW QUILT SQUARE ORNAMENT,HOLLOW QUILT SQUARE ORNAMENT IN BLA" ++
    "CK SQUARE,SOLID QUILT SQUARE ORNAMENT,SOLID QUILT SQUARE ORNAMENT IN BLACK SQUARE,LEFTWARD" ++
    "S ROCKET,UPWARDS ROCKET,RIGHTWARDS ROCKET,DOWNWARDS ROCKET,SCRIPT LIGATURE ET ORNAMENT,HEA" ++
    "VY SCRIPT LIGATURE ET ORNAMENT,LIGATURE OPEN ET ORNAMENT,HEAVY LIGATURE OPEN ET ORNAMENT,H" ++
    "EAVY AMPERSAND ORNAMENT,SWASH AMPERSAND ORNAMENT,SANS-SERIF HEAVY DOUBLE TURNED COMMA QUOT" ++
    "ATION MARK ORNAMENT,SANS-SERIF HEAVY DOUBLE COMMA QUOTATION MARK ORNAMENT,SANS-SERIF HEAVY" ++
    " LOW DOUBLE COMMA QUOTATION MARK ORNAMENT,HEAVY INTERROBANG ORNAMENT,SANS-SERIF INTERROBAN" ++
    "G ORNAMENT"⟩,
  ⟨0x1f67b, "",
    "HEAVY SANS-SERIF INTERROBANG ORNAMENT,VERY HEAVY SOLIDUS,VERY HEAVY REVERSE SOLIDUS,CHECKE" ++
    "R BOARD,REVERSE CHECKER BOARD,ROCKET,HELICOPTER,STEAM LOCOMOTIVE,RAILWAY CAR,HIGH-SPEED TR" ++
    "AIN,HIGH-SPEED TRAIN WITH BULLET NOSE,TRAIN,METRO,LIGHT RAIL,STATION,TRAM,TRAM CAR,BUS,ONC" ++
    "OMING BUS,TROLLEYBUS,BUS STOP,MINIBUS,AMBULANCE,FIRE ENGINE,POLICE CAR,ONCOMING POLICE CAR" ++
    ",TAXI,ONCOMING TAXI,AUTOMOBILE,ONCOMING AUTOMOBILE,RECREATIONAL VEHICLE,DELIVERY TRUCK,ART" ++
    "ICULATED LORRY,TRACTOR,MONORAIL,MOUNTAIN RAILWAY,SUSPENSION RAILWAY,MOUNTAIN CABLEWAY,AERI" ++
    "AL TRAMWAY,SHIP,ROWBOAT,SPEEDBOAT,HORIZONTAL TRAFFIC LIGHT,VERTICAL TRAFFIC LIGHT,CONSTRUC" ++
    "TION SIGN,POLICE CARS REVOLVING LIGHT,TRIANGULAR FLAG ON POST,DOOR,NO ENTRY SIGN,SMOKING S" ++
    "YMBOL,NO SMOKING SYMBOL,PUT LITTER IN ITS PLACE SYMBOL,DO NOT LITTER SYMBOL,POTABLE WATER " ++
    "SYMBOL,NON-POTABLE WATER SYMBOL,BICYCLE,NO BICYCLES,BICYCLIST,MOUNTAIN BICYCLIST,PEDESTRIA" ++
    "N,NO PEDESTRIANS"⟩,
  ⟨0x1f6b8, "",
    "CHILDREN CROSSING,MENS SYMBOL,WOMENS SYMBOL,RESTROOM,BABY SYMBOL,TOILET,WATER CLOSET,SHOWE" ++
    "R,BATH,BATHTUB,PASSPORT CONTROL,CUSTOMS,BAGGAGE CLAIM,LEFT LUGGAGE,TRIANGLE WITH ROUNDED C" ++
    "ORNERS,PROHIBITED SIGN,CIRCLED INFORMATION SOURCE,BOYS SYMBOL,GIRLS SYMBOL,COUCH AND LAMP," ++
    "SLEEPING ACCOMMODATION,SHOPPING BAGS,BELLHOP BELL,BED,PLACE OF WORSHIP,OCTAGONAL SIGN,SHOP" ++
    "PING TROLLEY,STUPA,PAGODA,HINDU TEMPLE,HUT,ELEVATOR,…,…,…,…,…,PLAYGROUND SLIDE,WHEEL,RING " ++
    "BUOY,HAMMER AND WRENCH,SHIELD,OIL DRUM,MOTORWAY,RAILWAY TRACK,MOTOR BOAT,UP-POINTING MILIT" ++
    "ARY AIRPLANE,UP-POINTING AIRPLANE,UP-POINTING SMALL AIRPLANE,SMALL AIRPLANE,NORTHEAST-POIN" ++
    "TING AIRPLANE,AIRPLANE DEPARTURE,AIRPLANE ARRIVING,…,…,…,SATELLITE,ONCOMING FIRE ENGINE,DI" ++
    "ESEL LOCOMOTIVE,PASSENGER SHIP,SCOOTER,MOTOR SCOOTER,CANOE,SLED,FLYING SAUCER,SKATEBOARD,A" ++
    "UTO RICKSHAW,PICKUP TRUCK,ROLLER SKATE"⟩,
  ⟨0x1f700, "ALCHEMICAL SYMBOL FOR ",
    "QUINTESSENCE,AIR,FIRE,EARTH,WATER,AQUAFORTIS,AQUA REGIA,AQUA REGIA-2,AQUA VITAE,AQUA VITAE" ++
    "-2,VINEGAR,VINEGAR-2,VINEGAR-3,SULFUR,PHILOSOPHERS SULFUR,BLACK SULFUR,MERCURY SUBLIMATE,M" ++
    "ERCURY SUBLIMATE-2,MERCURY SUBLIMATE-3,CINNABAR,SALT,NITRE,VITRIOL,VITRIOL-2,ROCK SALT,ROC" ++
    "K SALT-2,GOLD,SILVER,IRON ORE,IRON ORE-2,CROCUS OF IRON,REGULUS OF IRON,COPPER ORE,IRON-CO" ++
    "PPER ORE,SUBLIMATE OF COPPER,CROCUS OF COPPER,CROCUS OF COPPER-2,COPPER ANTIMONIATE,SALT O" ++
    "F COPPER ANTIMONIATE,SUBLIMATE OF SALT OF COPPER,VERDIGRIS,TIN ORE,LEAD ORE,ANTIMONY ORE,S" ++
    "UBLIMATE OF ANTIMONY,SALT OF ANTIMONY,SUBLIMATE OF SALT OF ANTIMONY,VINEGAR OF ANTIMONY,RE" ++
    "GULUS OF ANTIMONY,REGULUS OF ANTIMONY-2,REGULUS,REGULUS-2,REGULUS-3,REGULUS-4,ALKALI,ALKAL" ++
    "I-2,MARCASITE,SAL-AMMONIAC,ARSENIC,REALGAR,REALGAR-2,AURIPIGMENT,BISMUTH ORE,TARTAR,TARTAR" ++
    "-2,QUICK LIME,BORAX,BORAX-2,BORAX-3,ALUM,OIL,SPIRIT,TINCTURE,GUM,WAX,POWDER,CALX,TUTTY,CAP" ++
    "UT MORTUUM,SCEPTER OF JOVE,CADUCEUS,TRIDENT,STARRED TRIDENT,LODESTONE,SOAP,URINE,HORSE DUN" ++
    "G,ASHES,POT ASHES,BRICK,POWDERED BRICK,AMALGAM,STRATUM SUPER STRATUM,STRATUM SUPER STRATUM" ++
    "-2,SUBLIMATION,PRECIPITATE,DISTILL,DISSOLVE,DISSOLVE-2,PURIFY,PUTREFACTION,CRUCIBLE,CRUCIB" ++
    "LE-2,CRUCIBLE-3,CRUCIBLE-4,CRUCIBLE-5,ALEMBIC,BATH OF MARY,BATH OF VAPOURS,RETORT,HOUR,NIG" ++
    "HT,DAY-NIGHT,MONTH,HALF DRAM,HALF OUNCE"⟩,
  ⟨0x1f780, "",
    "BLACK LEFT-POINTING ISOSCELES RIGHT TRIANGLE,BLACK UP-POINTING ISOSCELES RIGHT TRIANGLE,BL" ++
    "ACK RIGHT-POINTING ISOSCELES RIGHT TRIANGLE,BLACK DOWN-POINTING ISOSCELES RIGHT TRIANGLE,B" ++
    "LACK SLIGHTLY SMALL CIRCLE,MEDIUM BOLD WHITE CIRCLE,BOLD WHITE CIRCLE,HEAVY WHITE CIRCLE,V" ++
    "ERY HEAVY WHITE CIRCLE,EXTREMELY HEAVY WHITE CIRCLE,WHITE CIRCLE CONTAINING BLACK SMALL CI" ++
    "RCLE,ROUND TARGET,BLACK TINY SQUARE,BLACK SLIGHTLY SMALL SQUARE,LIGHT WHITE SQUARE,MEDIUM " ++
    "WHITE SQUARE,BOLD WHITE SQUARE,HEAVY WHITE SQUARE,VERY HEAVY WHITE SQUARE,EXTREMELY HEAVY " ++
    "WHITE SQUARE,WHITE SQUARE CONTAINING BLACK VERY SMALL SQUARE,WHITE SQUARE CONTAINING BLACK" ++
    " MEDIUM SQUARE,SQUARE TARGET,BLACK TINY DIAMOND,BLACK VERY SMALL DIAMOND,BLACK MEDIUM SMAL" ++
    "L DIAMOND"⟩,
  ⟨0x1f79a, "WHITE DIAMOND CONTAINING BLACK ", "VERY SMALL DIAMOND,MEDIUM DIAMOND"⟩,
  ⟨0x1f79c, "",
    "DIAMOND TARGET,BLACK TINY LOZENGE,BLACK VERY SMALL LOZENGE,BLACK MEDIUM SMALL LOZENGE,WHIT" ++
    "E LOZENGE CONTAINING BLACK SMALL LOZENGE,THIN GREEK CROSS,LIGHT GREEK CROSS,MEDIUM GREEK C" ++
    "ROSS,BOLD GREEK CROSS,VERY BOLD GREEK CROSS,VERY HEAVY GREEK CROSS,EXTREMELY HEAVY GREEK C" ++
    "ROSS,THIN SALTIRE,LIGHT SALTIRE,MEDIUM SALTIRE,BOLD SALTIRE,HEAVY SALTIRE,VERY HEAVY SALTI" ++
    "RE,EXTREMELY HEAVY SALTIRE,LIGHT FIVE SPOKED ASTERISK,MEDIUM FIVE SPOKED ASTERISK,BOLD FIV" ++
    "E SPOKED ASTERISK,HEAVY FIVE SPOKED ASTERISK,VERY HEAVY FIVE SPOKED ASTERISK,EXTREMELY HEA" ++
    "VY FIVE SPOKED ASTERISK,LIGHT SIX SPOKED ASTERISK,MEDIUM SIX SPOKED ASTERISK,BOLD SIX SPOK" ++
    "ED ASTERISK,HEAVY SIX SPOKED ASTERISK,VERY HEAVY SIX SPOKED ASTERISK,EXTREMELY HEAVY SIX S" ++
    "POKED ASTERISK,LIGHT EIGHT SPOKED ASTERISK,MEDIUM EIGHT SPOKED ASTERISK,BOLD EIGHT SPOKED " ++
    "ASTERISK,HEAVY EIGHT SPOKED ASTERISK,VERY HEAVY EIGHT SPOKED ASTERISK,LIGHT THREE POINTED " ++
    "BLACK STAR,MEDIUM THREE POINTED BLACK STAR,THREE POINTED BLACK STAR,MEDIUM THREE POINTED P" ++
    "INWHEEL STAR,LIGHT FOUR POINTED BLACK STAR,MEDIUM FOUR POINTED BLACK STAR,FOUR POINTED BLA" ++
    "CK STAR,MEDIUM FOUR POINTED PINWHEEL STAR,REVERSE LIGHT FOUR POINTED PINWHEEL STAR,LIGHT F" ++
    "IVE POINTED BLACK STAR,HEAVY FIVE POINTED BLACK STAR,MEDIUM SIX POINTED BLACK STAR,HEAVY S" ++
    "IX POINTED BLACK STAR,SIX POINTED PINWHEEL STAR,MEDIUM EIGHT POINTED BLACK STAR,HEAVY EIGH" ++
    "T POINTED BLACK STAR,VERY HEAVY EIGHT POINTED BLACK STAR,HEAVY EIGHT POINTED PINWHEEL STAR" ++
    ",LIGHT TWELVE POINTED BLACK STAR,HEAVY TWELVE POINTED BLACK STAR,HEAVY TWELVE POINTED PINW" ++
    "HEEL STAR,CIRCLED TRIANGLE,NEGATIVE CIRCLED TRIANGLE,CIRCLED SQUARE,NEGATIVE CIRCLED SQUAR" ++
    "E"⟩,
  ⟨0x1f7e0, "LARGE ",
    "ORANGE CIRCLE,YELLOW CIRCLE,GREEN CIRCLE,PURPLE CIRCLE,BROWN CIRCLE,RED SQUARE,BLUE SQUARE" ++
    ",ORANGE SQUARE,YELLOW SQUARE,GREEN SQUARE,PURPLE SQUARE,BROWN SQUARE"⟩,
  ⟨0x1f7f0, "HEAVY EQUALS SIGN", ""⟩,
  ⟨0x1f800, "",
    "LEFTWARDS ARROW WITH SMALL TRIANGLE ARROWHEAD,UPWARDS ARROW WITH SMALL TRIANGLE ARROWHEAD," ++
    "RIGHTWARDS ARROW WITH SMALL TRIANGLE ARROWHEAD,DOWNWARDS ARROW WITH SMALL TRIANGLE ARROWHE" ++
    "AD,LEFTWARDS ARROW WITH MEDIUM TRIANGLE ARROWHEAD,UPWARDS ARROW WITH MEDIUM TRIANGLE ARROW" ++
    "HEAD,RIGHTWARDS ARROW WITH MEDIUM TRIANGLE ARROWHEAD,DOWNWARDS ARROW WITH MEDIUM TRIANGLE " ++
    "ARROWHEAD,LEFTWARDS ARROW WITH LARGE TRIANGLE ARROWHEAD,UPWARDS ARROW WITH LARGE TRIANGLE " ++
    "ARROWHEAD,RIGHTWARDS ARROW WITH LARGE TRIANGLE ARROWHEAD,DOWNWARDS ARROW WITH LARGE TRIANG" ++
    "LE ARROWHEAD,…,…,…,…,LEFTWARDS ARROW WITH SMALL EQUILATERAL ARROWHEAD,UPWARDS ARROW WITH S" ++
    "MALL EQUILATERAL ARROWHEAD,RIGHTWARDS ARROW WITH SMALL EQUILATERAL ARROWHEAD,DOWNWARDS ARR" ++
    "OW WITH SMALL EQUILATERAL ARROWHEAD,LEFTWARDS ARROW WITH EQUILATERAL ARROWHEAD,UPWARDS ARR" ++
    "OW WITH EQUILATERAL ARROWHEAD,RIGHTWARDS ARROW WITH EQUILATERAL ARROWHEAD,DOWNWARDS ARROW " ++
    "WITH EQUILATERAL ARROWHEAD"⟩,
  ⟨0x1f818, "HEAVY ",
    "LEFTWARDS ARROW WITH EQUILATERAL ARROWHEAD,UPWARDS ARROW WITH EQUILATERAL ARROWHEAD,RIGHTW" ++
    "ARDS ARROW WITH EQUILATERAL ARROWHEAD,DOWNWARDS ARROW WITH EQUILATERAL ARROWHEAD,LEFTWARDS" ++
    " ARROW WITH LARGE EQUILATERAL ARROWHEAD,UPWARDS ARROW WITH LARGE EQUILATERAL ARROWHEAD,RIG" ++
    "HTWARDS ARROW WITH LARGE EQUILATERAL ARROWHEAD,DOWNWARDS ARROW WITH LARGE EQUILATERAL ARRO" ++
    "WHEAD"⟩,
  ⟨0x1f820, "",
    "LEFTWARDS TRIANGLE-HEADED ARROW WITH NARROW SHAFT,UPWARDS TRIANGLE-HEADED ARROW WITH NARRO" ++
    "W SHAFT,RIGHTWARDS TRIANGLE-HEADED ARROW WITH NARROW SHAFT,DOWNWARDS TRIANGLE-HEADED ARROW" ++
    " WITH NARROW SHAFT,LEFTWARDS TRIANGLE-HEADED ARROW WITH MEDIUM SHAFT,UPWARDS TRIANGLE-HEAD" ++
    "ED ARROW WITH MEDIUM SHAFT,RIGHTWARDS TRIANGLE-HEADED ARROW WITH MEDIUM SHAFT,DOWNWARDS TR" ++
    "IANGLE-HEADED ARROW WITH MEDIUM SHAFT,LEFTWARDS TRIANGLE-HEADED ARROW WITH BOLD SHAFT,UPWA" ++
    "RDS TRIANGLE-HEADED ARROW WITH BOLD SHAFT,RIGHTWARDS TRIANGLE-HEADED ARROW WITH BOLD SHAFT" ++
    ",DOWNWARDS TRIANGLE-HEADED ARROW WITH BOLD SHAFT,LEFTWARDS TRIANGLE-HEADED ARROW WITH HEAV" ++
    "Y SHAFT,UPWARDS TRIANGLE-HEADED ARROW WITH HEAVY SHAFT,RIGHTWARDS TRIANGLE-HEADED ARROW WI" ++
    "TH HEAVY SHAFT,DOWNWARDS TRIANGLE-HEADED ARROW WITH HEAVY SHAFT,LEFTWARDS TRIANGLE-HEADED " ++
    "ARROW WITH VERY HEAVY SHAFT,UPWARDS TRIANGLE-HEADED ARROW WITH VERY HEAVY SHAFT,RIGHTWARDS" ++
    " TRIANGLE-HEADED ARROW WITH VERY HEAVY SHAFT,DOWNWARDS TRIANGLE-HEADED ARROW WITH VERY HEA" ++
    "VY SHAFT,LEFTWARDS FINGER-POST ARROW,UPWARDS FINGER-POST ARROW,RIGHTWARDS FINGER-POST ARRO" ++
    "W,DOWNWARDS FINGER-POST ARROW,LEFTWARDS SQUARED ARROW,UPWARDS SQUARED ARROW,RIGHTWARDS SQU" ++
    "ARED ARROW,DOWNWARDS SQUARED ARROW,LEFTWARDS COMPRESSED ARROW,UPWARDS COMPRESSED ARROW,RIG" ++
    "HTWARDS COMPRESSED ARROW,DOWNWARDS COMPRESSED ARROW,LEFTWARDS HEAVY COMPRESSED ARROW,UPWAR" ++
    "DS HEAVY COMPRESSED ARROW,RIGHTWARDS HEAVY COMPRESSED ARROW,DOWNWARDS HEAVY COMPRESSED ARR" ++
    "OW,LEFTWARDS HEAVY ARROW,UPWARDS HEAVY ARROW,RIGHTWARDS HEAVY ARROW,DOWNWARDS HEAVY ARROW," ++
    "…,…,…,…,…,…,…,…,LEFTWARDS SANS-SERIF ARROW,UPWARDS SANS-SERIF ARROW,RIGHTWARDS SANS-SERIF " ++
    "ARROW,DOWNWARDS SANS-SERIF ARROW,NORTH WEST SANS-SERIF ARROW,NORTH EAST SANS-SERIF ARROW,S" ++
    "OUTH EAST SANS-SERIF ARROW,SOUTH WEST SANS-SERIF ARROW,LEFT RIGHT SANS-SERIF ARROW,UP DOWN" ++
    " SANS-SERIF ARROW"⟩,
  ⟨0x1f860, "WIDE-HEADED ",
    "LEFTWARDS LIGHT BARB ARROW,UPWARDS LIGHT BARB ARROW,RIGHTWARDS LIGHT BARB ARROW,DOWNWARDS " ++
    "LIGHT BARB ARROW,NORTH WEST LIGHT BARB ARROW,NORTH EAST LIGHT BARB ARROW,SOUTH EAST LIGHT " ++
    "BARB ARROW,SOUTH WEST LIGHT BARB ARROW,LEFTWARDS BARB ARROW,UPWARDS BARB ARROW,RIGHTWARDS " ++
    "BARB ARROW,DOWNWARDS BARB ARROW,NORTH WEST BARB ARROW,NORTH EAST BARB ARROW,SOUTH EAST BAR" ++
    "B ARROW,SOUTH WEST BARB ARROW,LEFTWARDS MEDIUM BARB ARROW,UPWARDS MEDIUM BARB ARROW,RIGHTW" ++
    "ARDS MEDIUM BARB ARROW,DOWNWARDS MEDIUM BARB ARROW,NORTH WEST MEDIUM BARB ARROW,NORTH EAST" ++
    " MEDIUM BARB ARROW,SOUTH EAST MEDIUM BARB ARROW,SOUTH WEST MEDIUM BARB ARROW,LEFTWARDS HEA" ++
    "VY BARB ARROW,UPWARDS HEAVY BARB ARROW,RIGHTWARDS HEAVY BARB ARROW,DOWNWARDS HEAVY BARB AR" ++
    "ROW,NORTH WEST HEAVY BARB ARROW,NORTH EAST HEAVY BARB ARROW,SOUTH EAST HEAVY BARB ARROW,SO" ++
    "UTH WEST HEAVY BARB ARROW,LEFTWARDS VERY HEAVY BARB ARROW,UPWARDS VERY HEAVY BARB ARROW,RI" ++
    "GHTWARDS VERY HEAVY BARB ARROW,DOWNWARDS VERY HEAVY BARB ARROW,NORTH WEST VERY HEAVY BARB " ++
    "ARROW,NORTH EAST VERY HEAVY BARB ARROW,SOUTH EAST VERY HEAVY BARB ARROW,SOUTH WEST VERY HE" ++
    "AVY BARB ARROW"⟩,
  ⟨0x1f890, "",
    "LEFTWARDS TRIANGLE ARROWHEAD,UPWARDS TRIANGLE ARROWHEAD,RIGHTWARDS TRIANGLE ARROWHEAD,DOWN" ++
    "WARDS TRIANGLE ARROWHEAD,LEFTWARDS WHITE ARROW WITHIN TRIANGLE ARROWHEAD,UPWARDS WHITE ARR" ++
    "OW WITHIN TRIANGLE ARROWHEAD,RIGHTWARDS WHITE ARROW WITHIN TRIANGLE ARROWHEAD,DOWNWARDS WH" ++
    "ITE ARROW WITHIN TRIANGLE ARROWHEAD,LEFTWARDS ARROW WITH NOTCHED TAIL,UPWARDS ARROW WITH N" ++
    "OTCHED TAIL,RIGHTWARDS ARROW WITH NOTCHED TAIL,DOWNWARDS ARROW WITH NOTCHED TAIL"⟩,
  ⟨0x1f89c, "HEAVY ARROW SHAFT WIDTH ", "ONE,TWO THIRDS,ONE HALF,ONE THIRD"⟩,
  ⟨0x1f8a0, "",
    "LEFTWARDS BOTTOM-SHADED WHITE ARROW,RIGHTWARDS BOTTOM SHADED WHITE ARROW,LEFTWARDS TOP SHA" ++
    "DED WHITE ARROW,RIGHTWARDS TOP SHADED WHITE ARROW,LEFTWARDS LEFT-SHADED WHITE ARROW,RIGHTW" ++
    "ARDS RIGHT-SHADED WHITE ARROW,LEFTWARDS RIGHT-SHADED WHITE ARROW,RIGHTWARDS LEFT-SHADED WH" ++
    "ITE ARROW,LEFTWARDS BACK-TILTED SHADOWED WHITE ARROW,RIGHTWARDS BACK-TILTED SHADOWED WHITE" ++
    " ARROW,LEFTWARDS FRONT-TILTED SHADOWED WHITE ARROW,RIGHTWARDS FRONT-TILTED SHADOWED WHITE " ++
    "ARROW,WHITE ARROW SHAFT WIDTH ONE,WHITE ARROW SHAFT WIDTH TWO THIRDS,…,…,ARROW POINTING UP" ++
    "WARDS THEN NORTH WEST,ARROW POINTING RIGHTWARDS THEN CURVING SOUTH WEST"⟩,
  ⟨0x1f900, "CIRCLED CROSS FORMEE", " WITH FOUR DOTS, WITH TWO DOTS,"⟩,
  ⟨0x1f903, "LEFT HALF CIRCLE", " WITH FOUR DOTS, WITH THREE DOTS, WITH TWO DOTS, WITH DOT,"⟩,
  ⟨0x1f908, "DOWNWARD FACING ", "HOOK,NOTCHED HOOK,HOOK WITH DOT,NOTCHED HOOK WITH DOT"⟩,
  ⟨0x1f90c, "",
    "PINCHED FINGERS,WHITE HEART,BROWN HEART,PINCHING HAND,ZIPPER-MOUTH FACE,MONEY-MOUTH FACE,F" ++
    "ACE WITH THERMOMETER,NERD FACE,THINKING FACE,FACE WITH HEAD-BANDAGE,ROBOT FACE,HUGGING FAC" ++
    "E,SIGN OF THE HORNS,CALL ME HAND,RAISED BACK OF HAND,LEFT-FACING FIST,RIGHT-FACING FIST,HA" ++
    "NDSHAKE,HAND WITH INDEX AND MIDDLE FINGERS CROSSED,I LOVE YOU HAND SIGN,FACE WITH COWBOY H" ++
    "AT,CLOWN FACE,NAUSEATED FACE,ROLLING ON THE FLOOR LAUGHING,DROOLING FACE,LYING FACE,FACE P" ++
    "ALM,SNEEZING FACE,FACE WITH ONE EYEBROW RAISED,GRINNING FACE WITH STAR EYES,GRINNING FACE " ++
    "WITH ONE LARGE AND ONE SMALL EYE,FACE WITH FINGER COVERING CLOSED LIPS,SERIOUS FACE WITH S" ++
    "YMBOLS COVERING MOUTH,SMILING FACE WITH SMILING EYES AND HAND COVERING MOUTH,FACE WITH OPE" ++
    "N MOUTH VOMITING,SHOCKED FACE WITH EXPLODING HEAD,PREGNANT WOMAN,BREAST-FEEDING,PALMS UP T" ++
    "OGETHER,SELFIE,PRINCE,MAN IN TUXEDO,MOTHER CHRISTMAS,SHRUG,PERSON DOING CARTWHEEL,JUGGLING" ++
    ",FENCER,MODERN PENTATHLON,WRESTLERS,WATER POLO,HANDBALL,DIVING MASK,WILTED FLOWER,DRUM WIT" ++
    "H DRUMSTICKS,CLINKING GLASSES,TUMBLER GLASS,SPOON,GOAL NET,RIFLE,FIRST PLACE MEDAL,SECOND " ++
    "PLACE MEDAL"⟩,
  ⟨0x1f949, "",
    "THIRD PLACE MEDAL,BOXING GLOVE,MARTIAL ARTS UNIFORM,CURLING STONE,LACROSSE STICK AND BALL," ++
    "SOFTBALL,FLYING DISC,CROISSANT,AVOCADO,CUCUMBER,BACON,POTATO,CARROT,BAGUETTE BREAD,GREEN S" ++
    "ALAD,SHALLOW PAN OF FOOD,STUFFED FLATBREAD,EGG,GLASS OF MILK,PEANUTS,KIWIFRUIT,PANCAKES,DU" ++
    "MPLING,FORTUNE COOKIE,TAKEOUT BOX,CHOPSTICKS,BOWL WITH SPOON,CUP WITH STRAW,COCONUT,BROCCO" ++
    "LI,PIE,PRETZEL,CUT OF MEAT,SANDWICH,CANNED FOOD,LEAFY GREEN,MANGO,MOON CAKE,BAGEL,SMILING " ++
    "FACE WITH SMILING EYES AND THREE HEARTS,YAWNING FACE,SMILING FACE WITH TEAR,FACE WITH PART" ++
    "Y HORN AND PARTY HAT,FACE WITH UNEVEN EYES AND WAVY MOUTH,OVERHEATED FACE,FREEZING FACE,NI" ++
    "NJA,DISGUISED FACE,FACE HOLDING BACK TEARS,FACE WITH PLEADING EYES,SARI,LAB COAT,GOGGLES,H" ++
    "IKING BOOT,FLAT SHOE,CRAB,LION FACE,SCORPION,TURKEY,UNICORN FACE,EAGLE"⟩,
  ⟨0x1f986, "",
    "DUCK,BAT,SHARK,OWL,FOX FACE,BUTTERFLY,DEER,GORILLA,LIZARD,RHINOCEROS,SHRIMP,SQUID,GIRAFFE " ++
    "FACE,ZEBRA FACE,HEDGEHOG,SAUROPOD,T-REX,CRICKET,KANGAROO,LLAMA,PEACOCK,HIPPOPOTAMUS,PARROT" ++
    ",RACCOON,LOBSTER,MOSQUITO,MICROBE,BADGER,SWAN,MAMMOTH,DODO,SLOTH,OTTER,ORANGUTAN,SKUNK,FLA" ++
    "MINGO,OYSTER,BEAVER,BISON,SEAL,GUIDE DOG,PROBING CANE,EMOJI COMPONENT RED HAIR,EMOJI COMPO" ++
    "NENT CURLY HAIR,EMOJI COMPONENT BALD,EMOJI COMPONENT WHITE HAIR,BONE,LEG,FOOT,TOOTH,SUPERH" ++
    "ERO,SUPERVILLAIN,SAFETY VEST,EAR WITH HEARING AID,MOTORIZED WHEELCHAIR,MANUAL WHEELCHAIR,M" ++
    "ECHANICAL ARM,MECHANICAL LEG,CHEESE WEDGE,CUPCAKE,SALT SHAKER"⟩,
  ⟨0x1f9c3, "",
    "BEVERAGE BOX,GARLIC,ONION,FALAFEL,WAFFLE,BUTTER,MATE DRINK,ICE CUBE,BUBBLE TEA,TROLL,STAND" ++
    "ING PERSON,KNEELING PERSON,DEAF PERSON,FACE WITH MONOCLE,ADULT,CHILD,OLDER ADULT,BEARDED P" ++
    "ERSON,PERSON WITH HEADSCARF,PERSON IN STEAMY ROOM,PERSON CLIMBING,PERSON IN LOTUS POSITION" ++
    ",MAGE,FAIRY,VAMPIRE,MERPERSON,ELF,GENIE,ZOMBIE,BRAIN,ORANGE HEART,BILLED CAP,SCARF,GLOVES," ++
    "COAT,SOCKS,RED GIFT ENVELOPE,FIRECRACKER,JIGSAW PUZZLE PIECE,TEST TUBE,PETRI DISH,DNA DOUB" ++
    "LE HELIX,COMPASS,ABACUS,FIRE EXTINGUISHER,TOOLBOX,BRICK,MAGNET,LUGGAGE,LOTION BOTTLE,SPOOL" ++
    " OF THREAD,BALL OF YARN,SAFETY PIN,TEDDY BEAR,BROOM,BASKET,ROLL OF PAPER,BAR OF SOAP,SPONG" ++
    "E,RECEIPT,NAZAR AMULET"⟩,
  ⟨0x1fa00, "NEUTRAL CHESS ", "KING,QUEEN,ROOK,BISHOP,KNIGHT,PAWN"⟩,
  ⟨0x1fa06, "",
    "WHITE CHESS KNIGHT ROTATED FORTY-FIVE DEGREES,BLACK CHESS KNIGHT ROTATED FORTY-FIVE DEGREE" ++
    "S,NEUTRAL CHESS KNIGHT ROTATED FORTY-FIVE DEGREES"⟩,
  ⟨0x1fa09, "WHITE CHESS ",
    "KING ROTATED NINETY DEGREES,QUEEN ROTATED NINETY DEGREES,ROOK ROTATED NINETY DEGREES,BISHO" ++
    "P ROTATED NINETY DEGREES,KNIGHT ROTATED NINETY DEGREES,PAWN ROTATED NINETY DEGREES"⟩,
  ⟨0x1fa0f, "BLACK CHESS ",
    "KING ROTATED NINETY DEGREES,QUEEN ROTATED NINETY DEGREES,ROOK ROTATED NINETY DEGREES,BISHO" ++
    "P ROTATED NINETY DEGREES,KNIGHT ROTATED NINETY DEGREES,PAWN ROTATED NINETY DEGREES"⟩,
  ⟨0x1fa15, "NEUTRAL CHESS ",
    "KING ROTATED NINETY DEGREES,QUEEN ROTATED NINETY DEGREES,ROOK ROTATED NINETY DEGREES,BISHO" ++
    "P ROTATED NINETY DEGREES,KNIGHT ROTATED NINETY DEGREES,PAWN ROTATED NINETY DEGREES"⟩,
  ⟨0x1fa1b, "",
    "WHITE CHESS KNIGHT ROTATED ONE HUNDRED THIRTY-FIVE DEGREES,BLACK CHESS KNIGHT ROTATED ONE " ++
    "HUNDRED THIRTY-FIVE DEGREES,NEUTRAL CHESS KNIGHT ROTATED ONE HUNDRED THIRTY-FIVE DEGREES"⟩,
  ⟨0x1fa1e, "WHITE CHESS TURNED ", "KING,QUEEN,ROOK,BISHOP,KNIGHT,PAWN"⟩,
  ⟨0x1fa24, "BLACK CHESS TURNED ", "KING,QUEEN,ROOK,BISHOP,KNIGHT,PAWN"⟩,
  ⟨0x1fa2a, "NEUTRAL CHESS TURNED ", "KING,QUEEN,ROOK,BISHOP,KNIGHT,PAWN"⟩,
  ⟨0x1fa30, "",
    "WHITE CHESS KNIGHT ROTATED TWO HUNDRED TWENTY-FIVE DEGREES,BLACK CHESS KNIGHT ROTATED TWO " ++
    "HUNDRED TWENTY-FIVE DEGREES,NEUTRAL CHESS KNIGHT ROTATED TWO HUNDRED TWENTY-FIVE DEGREES"⟩,
  ⟨0x1fa33, "WHITE CHESS ",
    "KING ROTATED TWO HUNDRED SEVENTY DEGREES,QUEEN ROTATED TWO HUNDRED SEVENTY DEGREES,ROOK RO" ++
    "TATED TWO HUNDRED SEVENTY DEGREES,BISHOP ROTATED TWO HUNDRED SEVENTY DEGREES,KNIGHT ROTATE" ++
    "D TWO HUNDRED SEVENTY DEGREES,PAWN ROTATED TWO HUNDRED SEVENTY DEGREES"⟩,
  ⟨0x1fa39, "BLACK CHESS ",
    "KING ROTATED TWO HUNDRED SEVENTY DEGREES,QUEEN ROTATED TWO HUNDRED SEVENTY DEGREES,ROOK RO" ++
    "TATED TWO HUNDRED SEVENTY DEGREES,BISHOP ROTATED TWO HUNDRED SEVENTY DEGREES,KNIGHT ROTATE" ++
    "D TWO HUNDRED SEVENTY DEGREES,PAWN ROTATED TWO HUNDRED SEVENTY DEGREES"⟩,
  ⟨0x1fa3f, "NEUTRAL CHESS ",
    "KING ROTATED TWO HUNDRED SEVENTY DEGREES,QUEEN ROTATED TWO HUNDRED SEVENTY DEGREES,ROOK RO" ++
    "TATED TWO HUNDRED SEVENTY DEGREES,BISHOP ROTATED TWO HUNDRED SEVENTY DEGREES,KNIGHT ROTATE" ++
    "D TWO HUNDRED SEVENTY DEGREES,PAWN ROTATED TWO HUNDRED SEVENTY DEGREES"⟩,
  ⟨0x1fa45, "",
    "WHITE CHESS KNIGHT ROTATED THREE HUNDRED FIFTEEN DEGREES,BLACK CHESS KNIGHT ROTATED THREE " ++
    "HUNDRED FIFTEEN DEGREES,NEUTRAL CHESS KNIGHT ROTATED THREE HUNDRED FIFTEEN DEGREES,WHITE C" ++
    "HESS EQUIHOPPER,BLACK CHESS EQUIHOPPER,NEUTRAL CHESS EQUIHOPPER,WHITE CHESS EQUIHOPPER ROT" ++
    "ATED NINETY DEGREES,BLACK CHESS EQUIHOPPER ROTATED NINETY DEGREES,NEUTRAL CHESS EQUIHOPPER" ++
    " ROTATED NINETY DEGREES"⟩,
  ⟨0x1fa4e, "WHITE CHESS KNIGHT-", "QUEEN,ROOK,BISHOP"⟩,
  ⟨0x1fa51, "BLACK CHESS KNIGHT-", "QUEEN,ROOK,BISHOP"⟩,
  ⟨0x1fa60, "XIANGQI RED ", "GENERAL,MANDARIN,ELEPHANT,HORSE,CHARIOT,CANNON,SOLDIER"⟩,
  ⟨0x1fa67, "XIANGQI BLACK ", "GENERAL,MANDARIN,ELEPHANT,HORSE,CHARIOT,CANNON,SOLDIER"⟩,
  ⟨0x1fa70, "",
    "BALLET SHOES,ONE-PIECE SWIMSUIT,BRIEFS,SHORTS,THONG SANDAL,…,…,…,DROP OF BLOOD,ADHESIVE BA" ++
    "NDAGE,STETHOSCOPE,X-RAY,CRUTCH,…,…,…,YO-YO,KITE,PARACHUTE,BOOMERANG,MAGIC WAND,PINATA,NEST" ++
    "ING DOLLS"⟩,
  ⟨0x1fa90, "",
    "RINGED PLANET,CHAIR,RAZOR,AXE,DIYA LAMP,BANJO,MILITARY HELMET,ACCORDION,LONG DRUM,COIN,CAR" ++
    "PENTRY SAW,SCREWDRIVER,LADDER,HOOK,MIRROR,WINDOW,PLUNGER,SEWING NEEDLE,KNOT,BUCKET,MOUSE T" ++
    "RAP,TOOTHBRUSH,HEADSTONE,PLACARD,ROCK,MIRROR BALL,IDENTIFICATION CARD,LOW BATTERY,HAMSA,…," ++
    "…,…,FLY,WORM,BEETLE,COCKROACH,POTTED PLANT,WOOD,FEATHER,LOTUS,CORAL,EMPTY NEST,NEST WITH E" ++
    "GGS,…,…,…,…,…,ANATOMICAL HEART,LUNGS,PEOPLE HUGGING,PREGNANT MAN,PREGNANT PERSON,PERSON WI" ++
    "TH CROWN"⟩,
  ⟨0x1fad0, "",
    "BLUEBERRIES,BELL PEPPER,OLIVE,FLATBREAD,TAMALE,FONDUE,TEAPOT,POURING LIQUID,BEANS,JAR,…,…," ++
    "…,…,…,…,MELTING FACE,SALUTING FACE,FACE WITH OPEN EYES AND HAND OVER MOUTH,FACE WITH PEEKI" ++
    "NG EYE,FACE WITH DIAGONAL MOUTH,DOTTED LINE FACE,BITING LIP,BUBBLES,…,…,…,…,…,…,…,…,HAND W" ++
    "ITH INDEX FINGER AND THUMB CROSSED,RIGHTWARDS HAND,LEFTWARDS HAND,PALM DOWN HAND,PALM UP H" ++
    "AND,INDEX POINTING AT THE VIEWER,HEART HANDS"⟩,
  ⟨0x1fb00, "BLOCK SEXTANT-",
    "1,2,12,3,13,23,123,4,14,24,124,34,134,234,1234,5,15,25,125,35,235,1235,45,145,245,1245,345" ++
    ",1345,2345,12345,6,16,26,126,36,136,236,1236,46,146,1246,346,1346,2346,12346,56,156,256,12" ++
    "56,356,1356,2356,12356,456,1456,2456,12456,3456,13456,23456"⟩,
  ⟨0x1fb3c, "LOWER LEFT BLOCK DIAGONAL ",
    "LOWER MIDDLE LEFT TO LOWER CENTRE,LOWER MIDDLE LEFT TO LOWER RIGHT,UPPER MIDDLE LEFT TO LO" ++
    "WER CENTRE,UPPER MIDDLE LEFT TO LOWER RIGHT,UPPER LEFT TO LOWER CENTRE"⟩,
  ⟨0x1fb41, "LOWER RIGHT BLOCK DIAGONAL UPPER MIDDLE LEFT TO UPPER ", "CENTRE,RIGHT"⟩,
  ⟨0x1fb43, "LOWER RIGHT BLOCK DIAGONAL LOWER ",
    "MIDDLE LEFT TO UPPER CENTRE,MIDDLE LEFT TO UPPER RIGHT,LEFT TO UPPER CENTRE,MIDDLE LEFT TO" ++
    " UPPER MIDDLE RIGHT,CENTRE TO LOWER MIDDLE RIGHT,LEFT TO LOWER MIDDLE RIGHT,CENTRE TO UPPE" ++
    "R MIDDLE RIGHT,LEFT TO UPPER MIDDLE RIGHT,CENTRE TO UPPER RIGHT"⟩,
  ⟨0x1fb4c, "LOWER LEFT BLOCK DIAGONAL UPPER ",
    "CENTRE TO UPPER MIDDLE RIGHT,LEFT TO UPPER MIDDLE RIGHT,CENTRE TO LOWER MIDDLE RIGHT,LEFT " ++
    "TO LOWER MIDDLE RIGHT,CENTRE TO LOWER RIGHT,MIDDLE LEFT TO LOWER MIDDLE RIGHT"⟩,
  ⟨0x1fb52, "UPPER RIGHT BLOCK DIAGONAL ",
    "LOWER MIDDLE LEFT TO LOWER CENTRE,LOWER MIDDLE LEFT TO LOWER RIGHT,UPPER MIDDLE LEFT TO LO" ++
    "WER CENTRE,UPPER MIDDLE LEFT TO LOWER RIGHT,UPPER LEFT TO LOWER CENTRE"⟩,
  ⟨0x1fb57, "UPPER LEFT BLOCK DIAGONAL UPPER MIDDLE LEFT TO UPPER ", "CENTRE,RIGHT"⟩,
  ⟨0x1fb59, "UPPER LEFT BLOCK DIAGONAL LOWER ",
    "MIDDLE LEFT TO UPPER CENTRE,MIDDLE LEFT TO UPPER RIGHT,LEFT TO UPPER CENTRE,MIDDLE LEFT TO" ++
    " UPPER MIDDLE RIGHT,CENTRE TO LOWER MIDDLE RIGHT,LEFT TO LOWER MIDDLE RIGHT,CENTRE TO UPPE" ++
    "R MIDDLE RIGHT,LEFT TO UPPER MIDDLE RIGHT,CENTRE TO UPPER RIGHT"⟩,
  ⟨0x1fb62, "UPPER RIGHT BLOCK DIAGONAL UPPER ",
    "CENTRE TO UPPER MIDDLE RIGHT,LEFT TO UPPER MIDDLE RIGHT,CENTRE TO LOWER MIDDLE RIGHT,LEFT " ++
    "TO LOWER MIDDLE RIGHT,CENTRE TO LOWER RIGHT,MIDDLE LEFT TO LOWER MIDDLE RIGHT"⟩,
  ⟨0x1fb68, "",
    "UPPER AND RIGHT AND LOWER TRIANGULAR THREE QUARTERS BLOCK,LEFT AND LOWER AND RIGHT TRIANGU" ++
    "LAR THREE QUARTERS BLOCK,UPPER AND LEFT AND LOWER TRIANGULAR THREE QUARTERS BLOCK,LEFT AND" ++
    " UPPER AND RIGHT TRIANGULAR THREE QUARTERS BLOCK,LEFT TRIANGULAR ONE QUARTER BLOCK,UPPER T" ++
    "RIANGULAR ONE QUARTER BLOCK,RIGHT TRIANGULAR ONE QUARTER BLOCK,LOWER TRIANGULAR ONE QUARTE" ++
    "R BLOCK"⟩,
  ⟨0x1fb70, "VERTICAL ONE EIGHTH BLOCK-", "2,3,4,5,6,7"⟩,
  ⟨0x1fb76, "HORIZONTAL ONE EIGHTH BLOCK-", "2,3,4,5,6,7"⟩,
  ⟨0x1fb7c, "",
    "LEFT AND LOWER ONE EIGHTH BLOCK,LEFT AND UPPER ONE EIGHTH BLOCK,RIGHT AND UPPER ONE EIGHTH" ++
    " BLOCK,RIGHT AND LOWER ONE EIGHTH BLOCK,UPPER AND LOWER ONE EIGHTH BLOCK,HORIZONTAL ONE EI" ++
    "GHTH BLOCK-1358,UPPER ONE QUARTER BLOCK,UPPER THREE EIGHTHS BLOCK,UPPER FIVE EIGHTHS BLOCK" ++
    ",UPPER THREE QUARTERS BLOCK,UPPER SEVEN EIGHTHS BLOCK,RIGHT ONE QUARTER BLOCK,RIGHT THREE " ++
    "EIGHTHS BLOCK,RIGHT FIVE EIGHTHS BLOCK,RIGHT THREE QUARTERS BLOCK,RIGHT SEVEN EIGHTHS BLOC" ++
    "K,LEFT HALF MEDIUM SHADE,RIGHT HALF MEDIUM SHADE,UPPER HALF MEDIUM SHADE,LOWER HALF MEDIUM" ++
    " SHADE,INVERSE MEDIUM SHADE,UPPER HALF BLOCK AND LOWER HALF INVERSE MEDIUM SHADE,UPPER HAL" ++
    "F INVERSE MEDIUM SHADE AND LOWER HALF BLOCK,…,LEFT HALF INVERSE MEDIUM SHADE AND RIGHT HAL" ++
    "F BLOCK,CHECKER BOARD FILL,INVERSE CHECKER BOARD FILL,HEAVY HORIZONTAL FILL,UPPER LEFT TO " ++
    "LOWER RIGHT FILL,UPPER RIGHT TO LOWER LEFT FILL,UPPER AND LOWER TRIANGULAR HALF BLOCK,LEFT" ++
    " AND RIGHT TRIANGULAR HALF BLOCK,UPPER LEFT TRIANGULAR MEDIUM SHADE,UPPER RIGHT TRIANGULAR" ++
    " MEDIUM SHADE,LOWER RIGHT TRIANGULAR MEDIUM SHADE,LOWER LEFT TRIANGULAR MEDIUM SHADE"⟩,
  ⟨0x1fba0, "BOX DRAWINGS LIGHT DIAGONAL ",
    "UPPER CENTRE TO MIDDLE LEFT,UPPER CENTRE TO MIDDLE RIGHT,MIDDLE LEFT TO LOWER CENTRE,MIDDL" ++
    "E RIGHT TO LOWER CENTRE,UPPER CENTRE TO MIDDLE LEFT TO LOWER CENTRE,UPPER CENTRE TO MIDDLE" ++
    " RIGHT TO LOWER CENTRE,MIDDLE LEFT TO LOWER CENTRE TO MIDDLE RIGHT,MIDDLE LEFT TO UPPER CE" ++
    "NTRE TO MIDDLE RIGHT,UPPER CENTRE TO MIDDLE LEFT AND MIDDLE RIGHT TO LOWER CENTRE,UPPER CE" ++
    "NTRE TO MIDDLE RIGHT AND MIDDLE LEFT TO LOWER CENTRE,UPPER CENTRE TO MIDDLE RIGHT TO LOWER" ++
    " CENTRE TO MIDDLE LEFT,UPPER CENTRE TO MIDDLE LEFT TO LOWER CENTRE TO MIDDLE RIGHT,MIDDLE " ++
    "LEFT TO UPPER CENTRE TO MIDDLE RIGHT TO LOWER CENTRE,MIDDLE RIGHT TO UPPER CENTRE TO MIDDL" ++
    "E LEFT TO LOWER CENTRE,DIAMOND"⟩,
  ⟨0x1fbaf, "",
    "BOX DRAWINGS LIGHT HORIZONTAL WITH VERTICAL STROKE,ARROWHEAD-SHAPED POINTER,INVERSE CHECK " ++
    "MARK,LEFT HALF RUNNING MAN,RIGHT HALF RUNNING MAN,INVERSE DOWNWARDS ARROW WITH TIP LEFTWAR" ++
    "DS,LEFTWARDS ARROW AND UPPER AND LOWER ONE EIGHTH BLOCK,RIGHTWARDS ARROW AND UPPER AND LOW" ++
    "ER ONE EIGHTH BLOCK,DOWNWARDS ARROW AND RIGHT ONE EIGHTH BLOCK,UPWARDS ARROW AND RIGHT ONE" ++
    " EIGHTH BLOCK,LEFT HALF FOLDER,RIGHT HALF FOLDER,VOIDED GREEK CROSS,RIGHT OPEN SQUARED DOT" ++
    ",NEGATIVE DIAGONAL CROSS,NEGATIVE DIAGONAL MIDDLE RIGHT TO LOWER CENTRE,NEGATIVE DIAGONAL " ++
    "DIAMOND,WHITE HEAVY SALTIRE WITH ROUNDED CORNERS,LEFT THIRD WHITE RIGHT POINTING INDEX,MID" ++
    "DLE THIRD WHITE RIGHT POINTING INDEX,RIGHT THIRD WHITE RIGHT POINTING INDEX,NEGATIVE SQUAR" ++
    "ED QUESTION MARK,STICK FIGURE,STICK FIGURE WITH ARMS RAISED,STICK FIGURE LEANING LEFT,STIC" ++
    "K FIGURE LEANING RIGHT,STICK FIGURE WITH DRESS,WHITE UP-POINTING CHEVRON"⟩,
  ⟨0x1fbf0, "SEGMENTED DIGIT ", "ZERO,ONE,TWO,THREE,FOUR,FIVE,SIX,SEVEN,EIGHT,NINE"⟩,
  ⟨0xe0001, "LANGUAGE TAG", ""⟩,
  ⟨0xe0020, "TAG ",
    "SPACE,EXCLAMATION MARK,QUOTATION MARK,NUMBER SIGN,DOLLAR SIGN,PERCENT SIGN,AMPERSAND,APOST" ++
    "ROPHE,LEFT PARENTHESIS,RIGHT PARENTHESIS,ASTERISK,PLUS SIGN,COMMA,HYPHEN-MINUS,FULL STOP,S" ++
    "OLIDUS,DIGIT ZERO,DIGIT ONE,DIGIT TWO,DIGIT THREE,DIGIT FOUR,DIGIT FIVE,DIGIT SIX,DIGIT SE" ++
    "VEN,DIGIT EIGHT,DIGIT NINE,COLON,SEMICOLON,LESS-THAN SIGN,EQUALS SIGN,GREATER-THAN SIGN,QU" ++
    "ESTION MARK,COMMERCIAL AT"⟩,
  ⟨0xe0041, "TAG LATIN CAPITAL LETTER ", "A,B,C,D,E,F,G,H,I,J,K,L,M,N,O,P,Q,R,S,T,U,V,W,X,Y,Z"⟩,
  ⟨0xe005b, "TAG ",
    "LEFT SQUARE BRACKET,REVERSE SOLIDUS,RIGHT SQUARE BRACKET,CIRCUMFLEX ACCENT,LOW LINE,GRAVE " ++
    "ACCENT"⟩,
  ⟨0xe0061, "TAG LATIN SMALL LETTER ", "A,B,C,D,E,F,G,H,I,J,K,L,M,N,O,P,Q,R,S,T,U,V,W,X,Y,Z"⟩,
  ⟨0xe007b, "",
    "TAG LEFT CURLY BRACKET,TAG VERTICAL LINE,TAG RIGHT CURLY BRACKET,TAG TILDE,CANCEL TAG"⟩,
  ⟨0xe0100, "VARIATION SELECTOR-",
    "17,18,19,20,21,22,23,24,25,26,27,28,29,30,31,32,33,34,35,36,37,38,39,40,41,42,43,44,45,46," ++
    "47,48,49,50,51,52,53,54,55,56,57,58,59,60,61,62,63,64,65,66,67,68,69,70,71,72,73,74,75,76," ++
    "77,78,79,80,81,82,83,84,85,86,87,88,89,90,91,92,93,94,95,96,97,98,99"⟩,
  ⟨0xe0153, "VARIATION SELECTOR-1",
    "00,01,02,03,04,05,06,07,08,09,10,11,12,13,14,15,16,17,18,19,20,21,22,23,24,25,26,27,28,29," ++
    "30,31,32,33,34,35,36,37,38,39,40,41,42,43,44,45,46,47,48,49,50,51,52,53,54,55,56,57,58,59," ++
    "60,61,62,63,64,65,66,67,68,69,70,71,72,73,74,75,76,77,78,79,80,81,82,83,84,85,86,87,88,89," ++
    "90,91,92,93,94,95,96,97,98,99"⟩,
  ⟨0xe01b7, "VARIATION SELECTOR-2",
    "00,01,02,03,04,05,06,07,08,09,10,11,12,13,14,15,16,17,18,19,20,21,22,23,24,25,26,27,28,29," ++
    "30,31,32,33,34,35,36,37,38,39,40,41,42,43,44,45,46,47,48,49,50,51,52,53,54,55,56"⟩]

end Stencil.Text.Name
