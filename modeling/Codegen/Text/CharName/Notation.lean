/-!
Names of characters, from version 14 of the Unicode Character Database: musical and mathematical
notation, U+1D000 to U+1EFFF.
-/

namespace Codegen.Text.CharName

def notationRows : List String :=
  ["1D000 BYZANTINE MUSICAL SYMBOL: PSILI, DASEIA, PERISPOMENI, OXEIA EKFONITIKON, OXEIA DIPLI",
   "1D005 BYZANTINE MUSICAL SYMBOL VAREIA: EKFONITIKON, DIPLI",
   "1D007 BYZANTINE MUSICAL SYMBOL: KATHISTI, SYRMATIKI, PARAKLITIKI, YPOKRISIS, YPOKRISIS DIPLI",
   "1D00C BYZANTINE MUSICAL SYMBOL: KREMASTI, APESO EKFONITIKON, EXO EKFONITIKON, TELEIA",
   "1D010 BYZANTINE MUSICAL SYMBOL: KENTIMATA, APOSTROFOS, APOSTROFOS DIPLI, SYNEVMA, THITA",
   "1D015 BYZANTINE MUSICAL SYMBOL: OLIGON ARCHAION, GORGON ARCHAION, PSILON, CHAMILON, VATHY",
   "1D01A BYZANTINE MUSICAL SYMBOL: ISON ARCHAION, KENTIMA ARCHAION, KENTIMATA ARCHAION, SAXIMATA",
   "1D01E BYZANTINE MUSICAL SYMBOL: PARICHON, STAVROS APODEXIA, OXEIAI ARCHAION, VAREIAI ARCHAION",
   "1D022 BYZANTINE MUSICAL SYMBOL: APODERMA ARCHAION, APOTHEMA, KLASMA, REVMA, PIASMA ARCHAION",
   "1D027 BYZANTINE MUSICAL SYMBOL: TINAGMA, ANATRICHISMA, SEISMA, SYNAGMA ARCHAION",
   "1D02B BYZANTINE MUSICAL SYMBOL: SYNAGMA META STAVROU, OYRANISMA ARCHAION, THEMA, LEMOI",
   "1D02F BYZANTINE MUSICAL SYMBOL: DYO, TRIA, TESSERA, KRATIMATA, APESO EXO NEO, FTHORA ARCHAION",
   "1D035 BYZANTINE MUSICAL SYMBOL: IMIFTHORA, TROMIKON ARCHAION, KATAVA TROMIKON",
   "1D038 BYZANTINE MUSICAL SYMBOL: PELASTON, PSIFISTON, KONTEVMA, CHOREVMA ARCHAION",
   "1D03C BYZANTINE MUSICAL SYMBOL: RAPISMA, PARAKALESMA ARCHAION, PARAKLITIKI ARCHAION, ICHADIN",
   "1D040 BYZANTINE MUSICAL SYMBOL: NANA, PETASMA, KONTEVMA ALLO, TROMIKON ALLO, STRAGGISMATA",
   "1D045 BYZANTINE MUSICAL SYMBOL: GRONTHISMATA, ISON NEO, OLIGON NEO, OXEIA NEO, PETASTI",
   "1D04A BYZANTINE MUSICAL SYMBOL: KOUFISMA, PETASTOKOUFISMA, KRATIMOKOUFISMA, PELASTON NEO",
   "1D04E BYZANTINE MUSICAL SYMBOL: KENTIMATA NEO ANO, KENTIMA NEO ANO, YPSILI, APOSTROFOS NEO",
   "1D052 BYZANTINE MUSICAL SYMBOL: APOSTROFOI SYNDESMOS NEO, YPORROI, KRATIMOYPORROON",
   "1D055 BYZANTINE MUSICAL SYMBOL: ELAFRON, CHAMILI, MIKRON ISON, VAREIA NEO, PIASMA NEO",
   "1D05A BYZANTINE MUSICAL SYMBOL: PSIFISTON NEO, OMALON, ANTIKENOMA, LYGISMA, PARAKLITIKI NEO",
   "1D05F BYZANTINE MUSICAL SYMBOL: PARAKALESMA NEO, ETERON PARAKALESMA, KYLISMA, ANTIKENOKYLISMA",
   "1D063 BYZANTINE MUSICAL SYMBOL: TROMIKON NEO, EKSTREPTON, SYNAGMA NEO, SYRMA, CHOREVMA NEO",
   "1D068 BYZANTINE MUSICAL SYMBOL: EPEGERMA, SEISMA NEO, XIRON KLASMA, TROMIKOPSIFISTON",
   "1D06C BYZANTINE MUSICAL SYMBOL: PSIFISTOLYGISMA, TROMIKOLYGISMA, TROMIKOPARAKALESMA",
   "1D06F BYZANTINE MUSICAL SYMBOL: PSIFISTOPARAKALESMA, TROMIKOSYNAGMA, PSIFISTOSYNAGMA",
   "1D072 BYZANTINE MUSICAL SYMBOL: GORGOSYNTHETON, ARGOSYNTHETON, ETERON ARGOSYNTHETON",
   "1D075 BYZANTINE MUSICAL SYMBOL: OYRANISMA NEO, THEMATISMOS ESO, THEMATISMOS EXO, THEMA APLOUN",
   "1D079 BYZANTINE MUSICAL SYMBOL: THES KAI APOTHES, KATAVASMA, ENDOFONON, YFEN KATO, YFEN ANO",
   "1D07E BYZANTINE MUSICAL SYMBOL: STAVROS, KLASMA ANO, DIPLI ARCHAION, KRATIMA ARCHAION",
   "1D082 BYZANTINE MUSICAL SYMBOL: KRATIMA ALLO, KRATIMA NEO, APODERMA NEO, APLI, DIPLI, TRIPLI",
   "1D088 BYZANTINE MUSICAL SYMBOL: TETRAPLI, KORONIS, LEIMMA ENOS CHRONOU, LEIMMA DYO CHRONON",
   "1D08C BYZANTINE MUSICAL SYMBOL LEIMMA: TRION CHRONON, TESSARON CHRONON, IMISEOS CHRONOU",
   "1D08F BYZANTINE MUSICAL SYMBOL GORGON: NEO ANO, PARESTIGMENON ARISTERA, PARESTIGMENON DEXIA",
   "1D092 BYZANTINE MUSICAL SYMBOL DIGORGON",
   "1D093 BYZANTINE MUSICAL SYMBOL DIGORGON PARESTIGMENON: ARISTERA KATO, ARISTERA ANO, DEXIA",
   "1D096 BYZANTINE MUSICAL SYMBOL: TRIGORGON, ARGON, IMIDIARGON, DIARGON",
   "1D09A BYZANTINE MUSICAL SYMBOL AGOGI: POLI ARGI, ARGOTERI",
   "1D09C BYZANTINE MUSICAL SYMBOL AGOGI: ARGI, METRIA, MESI, GORGI, GORGOTERI, POLI GORGI",
   "1D0A2 BYZANTINE MUSICAL SYMBOL MARTYRIA: PROTOS ICHOS, ALLI PROTOS ICHOS, DEYTEROS ICHOS",
   "1D0A5 BYZANTINE MUSICAL SYMBOL MARTYRIA: ALLI DEYTEROS ICHOS, TRITOS ICHOS, TRIFONIAS",
   "1D0A8 BYZANTINE MUSICAL SYMBOL MARTYRIA TETARTOS: ICHOS, LEGETOS ICHOS",
   "1D0AA BYZANTINE MUSICAL SYMBOL MARTYRIA: LEGETOS ICHOS, PLAGIOS ICHOS",
   "1D0AC BYZANTINE MUSICAL SYMBOL: ISAKIA TELOUS ICHIMATOS, APOSTROFOI TELOUS ICHIMATOS",
   "1D0AE BYZANTINE MUSICAL SYMBOL FANEROSIS: TETRAFONIAS, MONOFONIAS, DIFONIAS",
   "1D0B1 BYZANTINE MUSICAL SYMBOL MARTYRIA VARYS ICHOS",
   "1D0B2 BYZANTINE MUSICAL SYMBOL MARTYRIA: PROTOVARYS ICHOS, PLAGIOS TETARTOS ICHOS",
   "1D0B4 BYZANTINE MUSICAL SYMBOL GORTHMIKON N: APLOUN, DIPLOUN",
   "1D0B6 BYZANTINE MUSICAL SYMBOL: ENARXIS KAI FTHORA VOU, IMIFONON, IMIFTHORON",
   "1D0B9 BYZANTINE MUSICAL SYMBOL FTHORA: ARCHAION DEYTEROU ICHOU, DIATONIKI PA, DIATONIKI NANA",
   "1D0BC BYZANTINE MUSICAL SYMBOL FTHORA: NAOS ICHOS, DIATONIKI DI, SKLIRON DIATONON DI",
   "1D0BF BYZANTINE MUSICAL SYMBOL FTHORA DIATONIKI: KE, ZO, NI KATO, NI ANO",
   "1D0C3 BYZANTINE MUSICAL SYMBOL FTHORA MALAKON CHROMA: DIFONIAS, MONOFONIAS",
   "1D0C5 BYZANTINE MUSICAL SYMBOL: FHTORA SKLIRON CHROMA VASIS, FTHORA SKLIRON CHROMA SYNAFI",
   "1D0C7 BYZANTINE MUSICAL SYMBOL: FTHORA NENANO, CHROA ZYGOS, CHROA KLITON, CHROA SPATHI",
   "1D0CB BYZANTINE MUSICAL SYMBOL FTHORA: I YFESIS TETARTIMORION, ENARMONIOS ANTIFONIA",
   "1D0CD BYZANTINE MUSICAL SYMBOL: YFESIS TRITIMORION, DIESIS TRITIMORION, DIESIS TETARTIMORION",
   "1D0D0 BYZANTINE MUSICAL SYMBOL DIESIS: APLI DYO DODEKATA, MONOGRAMMOS TESSERA DODEKATA",
   "1D0D2 BYZANTINE MUSICAL SYMBOL DIESIS: DIGRAMMOS EX DODEKATA, TRIGRAMMOS OKTO DODEKATA",
   "1D0D4 BYZANTINE MUSICAL SYMBOL YFESIS: APLI DYO DODEKATA, MONOGRAMMOS TESSERA DODEKATA",
   "1D0D6 BYZANTINE MUSICAL SYMBOL YFESIS: DIGRAMMOS EX DODEKATA, TRIGRAMMOS OKTO DODEKATA",
   "1D0D8 BYZANTINE MUSICAL SYMBOL GENIKI: DIESIS, YFESIS",
   "1D0DA BYZANTINE MUSICAL SYMBOL DIASTOLI: APLI MIKRI, APLI MEGALI, DIPLI, THESEOS",
   "1D0DE BYZANTINE MUSICAL SYMBOL SIMANSIS: THESEOS, THESEOS DISIMOU",
   "1D0E0 BYZANTINE MUSICAL SYMBOL SIMANSIS: THESEOS TRISIMOU, THESEOS TETRASIMOU, ARSEOS",
   "1D0E3 BYZANTINE MUSICAL SYMBOL SIMANSIS ARSEOS: DISIMOU, TRISIMOU, TETRASIMOU",
   "1D0E6 BYZANTINE MUSICAL SYMBOL: DIGRAMMA GG, DIFTOGGOS OU, STIGMA",
   "1D0E9 BYZANTINE MUSICAL SYMBOL ARKTIKO: PA, VOU, GA, DI, KE, ZO, NI",
   "1D0F0 BYZANTINE MUSICAL SYMBOL: KENTIMATA NEO MESO, KENTIMA NEO MESO, KENTIMATA NEO KATO",
   "1D0F3 BYZANTINE MUSICAL SYMBOL: KENTIMA NEO KATO, KLASMA KATO, GORGON NEO KATO",
   "1D100 MUSICAL SYMBOL: SINGLE BARLINE, DOUBLE BARLINE, FINAL BARLINE",
   "1D103 MUSICAL SYMBOL: REVERSE FINAL BARLINE, DASHED BARLINE, SHORT BARLINE, LEFT REPEAT SIGN",
   "1D107 MUSICAL SYMBOL: RIGHT REPEAT SIGN, REPEAT DOTS, DAL SEGNO, DA CAPO, SEGNO",
   "1D10C MUSICAL SYMBOL: CODA, REPEATED FIGURE-1, REPEATED FIGURE-2, REPEATED FIGURE-3, FERMATA",
   "1D111 MUSICAL SYMBOL: FERMATA BELOW, BREATH MARK, CAESURA, BRACE, BRACKET, ONE-LINE STAFF",
   "1D117 MUSICAL SYMBOL: TWO-LINE STAFF, THREE-LINE STAFF, FOUR-LINE STAFF, FIVE-LINE STAFF",
   "1D11B MUSICAL SYMBOL: SIX-LINE STAFF, SIX-STRING FRETBOARD, FOUR-STRING FRETBOARD",
   "1D11E MUSICAL SYMBOL: G CLEF, G CLEF OTTAVA ALTA, G CLEF OTTAVA BASSA, C CLEF, F CLEF",
   "1D123 MUSICAL SYMBOL: F CLEF OTTAVA ALTA, F CLEF OTTAVA BASSA, DRUM CLEF-1, DRUM CLEF-2",
   "1D129 MUSICAL SYMBOL: MULTIPLE MEASURE REST, DOUBLE SHARP, DOUBLE FLAT, FLAT UP, FLAT DOWN",
   "1D12E MUSICAL SYMBOL: NATURAL UP, NATURAL DOWN, SHARP UP, SHARP DOWN, QUARTER TONE SHARP",
   "1D133 MUSICAL SYMBOL: QUARTER TONE FLAT, COMMON TIME, CUT TIME, OTTAVA ALTA",
   "1D137 MUSICAL SYMBOL: OTTAVA BASSA, QUINDICESIMA ALTA, QUINDICESIMA BASSA, MULTI REST",
   "1D13B MUSICAL SYMBOL: WHOLE REST, HALF REST, QUARTER REST, EIGHTH REST, SIXTEENTH REST",
   "1D140 MUSICAL SYMBOL: THIRTY-SECOND REST, SIXTY-FOURTH REST, ONE HUNDRED TWENTY-EIGHTH REST",
   "1D143 MUSICAL SYMBOL: X NOTEHEAD, PLUS NOTEHEAD, CIRCLE X NOTEHEAD",
   "1D146 MUSICAL SYMBOL SQUARE NOTEHEAD: WHITE, BLACK",
   "1D148 MUSICAL SYMBOL TRIANGLE NOTEHEAD: UP WHITE, UP BLACK, LEFT WHITE, LEFT BLACK",
   "1D14C MUSICAL SYMBOL TRIANGLE NOTEHEAD: RIGHT WHITE, RIGHT BLACK, DOWN WHITE, DOWN BLACK",
   "1D150 MUSICAL SYMBOL TRIANGLE NOTEHEAD UP RIGHT: WHITE, BLACK",
   "1D152 MUSICAL SYMBOL MOON NOTEHEAD: WHITE, BLACK",
   "1D154 MUSICAL SYMBOL TRIANGLE-ROUND NOTEHEAD DOWN: WHITE, BLACK",
   "1D156 MUSICAL SYMBOL: PARENTHESIS NOTEHEAD, VOID NOTEHEAD, NOTEHEAD BLACK, NULL NOTEHEAD",
   "1D15A MUSICAL SYMBOL CLUSTER NOTEHEAD: WHITE, BLACK",
   "1D15C MUSICAL SYMBOL: BREVE, WHOLE NOTE, HALF NOTE, QUARTER NOTE, EIGHTH NOTE, SIXTEENTH NOTE",
   "1D162 MUSICAL SYMBOL: THIRTY-SECOND NOTE, SIXTY-FOURTH NOTE, ONE HUNDRED TWENTY-EIGHTH NOTE",
   "1D165 MUSICAL SYMBOL COMBINING: STEM, SPRECHGESANG STEM, TREMOLO-1, TREMOLO-2, TREMOLO-3",
   "1D16A MUSICAL SYMBOL FINGERED: TREMOLO-1, TREMOLO-2, TREMOLO-3",
   "1D16D MUSICAL SYMBOL COMBINING: AUGMENTATION DOT, FLAG-1, FLAG-2, FLAG-3, FLAG-4, FLAG-5",
   "1D173 MUSICAL SYMBOL: BEGIN BEAM, END BEAM",
   "1D175 MUSICAL SYMBOL: BEGIN TIE, END TIE, BEGIN SLUR, END SLUR, BEGIN PHRASE, END PHRASE",
   "1D17B MUSICAL SYMBOL COMBINING: ACCENT, STACCATO, TENUTO, STACCATISSIMO",
   "1D17F MUSICAL SYMBOL COMBINING: MARCATO, MARCATO-STACCATO, ACCENT-STACCATO, LOURE",
   "1D183 MUSICAL SYMBOL ARPEGGIATO: UP, DOWN",
   "1D185 MUSICAL SYMBOL COMBINING: DOIT, RIP, FLIP, SMEAR, BEND, DOUBLE TONGUE, TRIPLE TONGUE",
   "1D18C MUSICAL SYMBOL: RINFORZANDO, SUBITO, Z, PIANO, MEZZO, FORTE, CRESCENDO, DECRESCENDO",
   "1D194 MUSICAL SYMBOL GRACE NOTE: SLASH, NO SLASH",
   "1D196 MUSICAL SYMBOL: TR, TURN, INVERTED TURN, TURN SLASH, TURN UP",
   "1D19B MUSICAL SYMBOL ORNAMENT: STROKE-1, STROKE-2, STROKE-3, STROKE-4, STROKE-5",
   "1D1A0 MUSICAL SYMBOL ORNAMENT: STROKE-6, STROKE-7, STROKE-8, STROKE-9, STROKE-10, STROKE-11",
   "1D1A6 MUSICAL SYMBOL: HAUPTSTIMME, NEBENSTIMME, END OF STIMME, DEGREE SLASH",
   "1D1AA MUSICAL SYMBOL COMBINING: DOWN BOW, UP BOW, HARMONIC, SNAP PIZZICATO",
   "1D1AE MUSICAL SYMBOL: PEDAL MARK, PEDAL UP MARK, HALF PEDAL MARK",
   "1D1B1 MUSICAL SYMBOL: GLISSANDO UP, GLISSANDO DOWN, WITH FINGERNAILS, DAMP, DAMP ALL, MAXIMA",
   "1D1B7 MUSICAL SYMBOL: LONGA, BREVIS, SEMIBREVIS WHITE, SEMIBREVIS BLACK, MINIMA, MINIMA BLACK",
   "1D1BD MUSICAL SYMBOL SEMIMINIMA: WHITE, BLACK",
   "1D1BF MUSICAL SYMBOL: FUSA WHITE, FUSA BLACK, LONGA PERFECTA REST, LONGA IMPERFECTA REST",
   "1D1C3 MUSICAL SYMBOL: BREVIS REST, SEMIBREVIS REST, MINIMA REST, SEMIMINIMA REST",
   "1D1C7 MUSICAL SYMBOL TEMPUS PERFECTUM CUM PROLATIONE PERFECTA",
   "1D1C8 MUSICAL SYMBOL TEMPUS PERFECTUM CUM PROLATIONE: IMPERFECTA, PERFECTA DIMINUTION-1",
   "1D1CA MUSICAL SYMBOL TEMPUS IMPERFECTUM CUM PROLATIONE PERFECTA",
   "1D1CB MUSICAL SYMBOL TEMPUS IMPERFECTUM CUM PROLATIONE: IMPERFECTA, IMPERFECTA DIMINUTION-1",
   "1D1CD MUSICAL SYMBOL TEMPUS IMPERFECTUM CUM PROLATIONE IMPERFECTA: DIMINUTION-2, DIMINUTION-3",
   "1D1CF MUSICAL SYMBOL: CROIX, GREGORIAN C CLEF, GREGORIAN F CLEF, SQUARE B, VIRGA, PODATUS",
   "1D1D5 MUSICAL SYMBOL: CLIVIS, SCANDICUS, CLIMACUS, TORCULUS, PORRECTUS, PORRECTUS FLEXUS",
   "1D1DB MUSICAL SYMBOL: SCANDICUS FLEXUS, TORCULUS RESUPINUS, PES SUBPUNCTIS, KIEVAN C CLEF",
   "1D1DF MUSICAL SYMBOL KIEVAN: END OF PIECE, FINAL NOTE, RECITATIVE MARK, WHOLE NOTE, HALF NOTE",
   "1D1E4 MUSICAL SYMBOL KIEVAN QUARTER NOTE STEM: DOWN, UP",
   "1D1E6 MUSICAL SYMBOL KIEVAN EIGHTH NOTE STEM: DOWN, UP",
   "1D1E8 MUSICAL SYMBOL: KIEVAN FLAT SIGN, SORI, KORON",
   "1D200 GREEK VOCAL NOTATION: SYMBOL-1, SYMBOL-2, SYMBOL-3, SYMBOL-4, SYMBOL-5",
   "1D205 GREEK VOCAL NOTATION: SYMBOL-6, SYMBOL-7, SYMBOL-8, SYMBOL-9, SYMBOL-10, SYMBOL-11",
   "1D20B GREEK VOCAL NOTATION: SYMBOL-12, SYMBOL-13, SYMBOL-14, SYMBOL-15, SYMBOL-16, SYMBOL-17",
   "1D211 GREEK VOCAL NOTATION: SYMBOL-18, SYMBOL-19, SYMBOL-20, SYMBOL-21, SYMBOL-22, SYMBOL-23",
   "1D217 GREEK VOCAL NOTATION: SYMBOL-24, SYMBOL-50, SYMBOL-51, SYMBOL-52, SYMBOL-53, SYMBOL-54",
   "1D21D GREEK INSTRUMENTAL NOTATION: SYMBOL-1, SYMBOL-2, SYMBOL-4, SYMBOL-5, SYMBOL-7, SYMBOL-8",
   "1D223 GREEK INSTRUMENTAL NOTATION SYMBOL-11",
   "1D224 GREEK INSTRUMENTAL NOTATION: SYMBOL-12, SYMBOL-13, SYMBOL-14, SYMBOL-17, SYMBOL-18",
   "1D229 GREEK INSTRUMENTAL NOTATION: SYMBOL-19, SYMBOL-23, SYMBOL-24, SYMBOL-25, SYMBOL-26",
   "1D22E GREEK INSTRUMENTAL NOTATION: SYMBOL-27, SYMBOL-29, SYMBOL-30, SYMBOL-32, SYMBOL-36",
   "1D233 GREEK INSTRUMENTAL NOTATION: SYMBOL-37, SYMBOL-38, SYMBOL-39, SYMBOL-40, SYMBOL-42",
   "1D238 GREEK INSTRUMENTAL NOTATION: SYMBOL-43, SYMBOL-45, SYMBOL-47, SYMBOL-48, SYMBOL-49",
   "1D23D GREEK INSTRUMENTAL NOTATION: SYMBOL-50, SYMBOL-51, SYMBOL-52, SYMBOL-53, SYMBOL-54",
   "1D242 COMBINING GREEK MUSICAL: TRISEME, TETRASEME, PENTASEME",
   "1D245 GREEK MUSICAL LEIMMA",
   "1D2E0 MAYAN NUMERAL: ZERO, ONE, TWO, THREE, FOUR, FIVE, SIX, SEVEN, EIGHT, NINE, TEN, ELEVEN",
   "1D2EC MAYAN NUMERAL TWELVE",
   "1D2ED MAYAN NUMERAL: THIRTEEN, FOURTEEN, FIFTEEN, SIXTEEN, SEVENTEEN, EIGHTEEN, NINETEEN",
   "1D300 MONOGRAM FOR EARTH",
   "1D301 DIGRAM FOR: HEAVENLY EARTH, HUMAN EARTH, EARTHLY HEAVEN, EARTHLY HUMAN, EARTH",
   "1D306 TETRAGRAM FOR: CENTRE, FULL CIRCLE, MIRED, BARRIER, KEEPING SMALL, CONTRARIETY, ASCENT",
   "1D30D TETRAGRAM FOR: OPPOSITION, BRANCHING OUT, DEFECTIVENESS OR DISTORTION, DIVERGENCE",
   "1D311 TETRAGRAM FOR: YOUTHFULNESS, INCREASE, PENETRATION, REACH, CONTACT, HOLDING BACK",
   "1D317 TETRAGRAM FOR: WAITING, FOLLOWING, ADVANCE, RELEASE, RESISTANCE, EASE, JOY, CONTENTION",
   "1D31F TETRAGRAM FOR: ENDEAVOUR, DUTIES, CHANGE, DECISIVENESS, BOLD RESOLUTION, PACKING",
   "1D325 TETRAGRAM FOR: LEGION, CLOSENESS, KINSHIP, GATHERING, STRENGTH, PURITY, FULLNESS",
   "1D32C TETRAGRAM FOR: RESIDENCE, LAW OR MODEL, RESPONSE, GOING TO MEET, ENCOUNTERS, STOVE",
   "1D332 TETRAGRAM FOR: GREATNESS, ENLARGEMENT, PATTERN, RITUAL, FLIGHT, VASTNESS OR WASTING",
   "1D338 TETRAGRAM FOR: CONSTANCY, MEASURE, ETERNITY, UNITY, DIMINISHMENT, CLOSED MOUTH",
   "1D33E TETRAGRAM FOR: GUARDEDNESS, GATHERING IN, MASSING, ACCUMULATION, EMBELLISHMENT",
   "1D343 TETRAGRAM FOR: DOUBT, WATCH, SINKING, INNER, DEPARTURE, DARKENING, DIMMING, EXHAUSTION",
   "1D34B TETRAGRAM FOR: SEVERANCE, STOPPAGE, HARDNESS, COMPLETION, CLOSURE, FAILURE, AGGRAVATION",
   "1D352 TETRAGRAM FOR: COMPLIANCE, ON THE VERGE, DIFFICULTIES, LABOURING, FOSTERING",
   "1D360 COUNTING ROD UNIT DIGIT: ONE, TWO, THREE, FOUR, FIVE, SIX, SEVEN, EIGHT, NINE",
   "1D369 COUNTING ROD TENS DIGIT: ONE, TWO, THREE, FOUR, FIVE, SIX, SEVEN, EIGHT, NINE",
   "1D372 IDEOGRAPHIC TALLY MARK: ONE, TWO, THREE, FOUR, FIVE",
   "1D377 TALLY MARK: ONE, FIVE",
   "1D400 MATHEMATICAL BOLD CAPITAL: A, B, C, D, E, F",
   "1D406 MATHEMATICAL BOLD CAPITAL: G, H, I, J, K, L, M, N, O, P, Q, R, S, T, U, V, W, X, Y, Z",
   "1D41A MATHEMATICAL BOLD SMALL: A, B, C, D, E",
   "1D41F MATHEMATICAL BOLD SMALL: F, G, H, I, J, K, L, M, N, O, P, Q, R, S, T, U, V, W, X, Y, Z",
   "1D434 MATHEMATICAL ITALIC CAPITAL: A, B, C, D, E, F",
   "1D43A MATHEMATICAL ITALIC CAPITAL: G, H, I, J, K, L, M, N, O, P, Q, R, S, T, U, V, W, X, Y, Z",
   "1D44E MATHEMATICAL ITALIC SMALL: A, B, C, D, E, F, G",
   "1D456 MATHEMATICAL ITALIC SMALL: I, J, K, L, M, N, O, P, Q, R, S, T, U, V, W, X, Y, Z",
   "1D468 MATHEMATICAL BOLD ITALIC CAPITAL: A, B, C, D, E, F, G, H",
   "1D470 MATHEMATICAL BOLD ITALIC CAPITAL: I, J, K, L, M, N, O, P, Q, R, S, T, U, V, W, X, Y, Z",
   "1D482 MATHEMATICAL BOLD ITALIC SMALL: A, B, C, D, E, F, G",
   "1D489 MATHEMATICAL BOLD ITALIC SMALL: H, I, J, K, L, M, N, O, P, Q, R, S, T, U, V, W, X, Y, Z",
   "1D49C MATHEMATICAL SCRIPT CAPITAL A",
   "1D49E MATHEMATICAL SCRIPT CAPITAL: C, D",
   "1D4A2 MATHEMATICAL SCRIPT CAPITAL G",
   "1D4A5 MATHEMATICAL SCRIPT CAPITAL: J, K",
   "1D4A9 MATHEMATICAL SCRIPT CAPITAL: N, O, P, Q",
   "1D4AE MATHEMATICAL SCRIPT CAPITAL: S, T, U, V, W, X, Y, Z",
   "1D4B6 MATHEMATICAL SCRIPT SMALL: A, B, C, D",
   "1D4BB MATHEMATICAL SCRIPT SMALL F",
   "1D4BD MATHEMATICAL SCRIPT SMALL: H, I, J, K, L, M, N",
   "1D4C5 MATHEMATICAL SCRIPT SMALL: P, Q, R, S, T, U, V, W, X, Y, Z",
   "1D4D0 MATHEMATICAL BOLD SCRIPT CAPITAL: A, B, C, D, E, F, G, H",
   "1D4D8 MATHEMATICAL BOLD SCRIPT CAPITAL: I, J, K, L, M, N, O, P, Q, R, S, T, U, V, W, X, Y, Z",
   "1D4EA MATHEMATICAL BOLD SCRIPT SMALL: A, B, C, D, E, F, G",
   "1D4F1 MATHEMATICAL BOLD SCRIPT SMALL: H, I, J, K, L, M, N, O, P, Q, R, S, T, U, V, W, X, Y, Z",
   "1D504 MATHEMATICAL FRAKTUR CAPITAL: A, B",
   "1D507 MATHEMATICAL FRAKTUR CAPITAL: D, E, F, G",
   "1D50D MATHEMATICAL FRAKTUR CAPITAL: J, K, L, M, N, O, P, Q",
   "1D516 MATHEMATICAL FRAKTUR CAPITAL: S, T, U, V, W, X, Y",
   "1D51E MATHEMATICAL FRAKTUR SMALL: A, B, C, D, E, F",
   "1D524 MATHEMATICAL FRAKTUR SMALL: G, H, I, J, K, L, M, N, O, P, Q, R, S, T, U, V, W, X, Y, Z",
   "1D538 MATHEMATICAL DOUBLE-STRUCK CAPITAL: A, B",
   "1D53B MATHEMATICAL DOUBLE-STRUCK CAPITAL: D, E, F, G",
   "1D540 MATHEMATICAL DOUBLE-STRUCK CAPITAL: I, J, K, L, M",
   "1D546 MATHEMATICAL DOUBLE-STRUCK CAPITAL O",
   "1D54A MATHEMATICAL DOUBLE-STRUCK CAPITAL: S, T, U, V, W, X, Y",
   "1D552 MATHEMATICAL DOUBLE-STRUCK SMALL: A, B, C, D, E, F, G, H",
   "1D55A MATHEMATICAL DOUBLE-STRUCK SMALL: I, J, K, L, M, N, O, P, Q, R, S, T, U, V, W, X, Y, Z",
   "1D56C MATHEMATICAL BOLD FRAKTUR CAPITAL: A, B, C, D, E, F, G, H",
   "1D574 MATHEMATICAL BOLD FRAKTUR CAPITAL: I, J, K, L, M, N, O, P, Q, R, S, T, U, V, W, X, Y, Z",
   "1D586 MATHEMATICAL BOLD FRAKTUR SMALL: A, B, C, D, E, F, G, H",
   "1D58E MATHEMATICAL BOLD FRAKTUR SMALL: I, J, K, L, M, N, O, P, Q, R, S, T, U, V, W, X, Y, Z",
   "1D5A0 MATHEMATICAL SANS-SERIF CAPITAL: A, B, C, D, E, F, G, H",
   "1D5A8 MATHEMATICAL SANS-SERIF CAPITAL: I, J, K, L, M, N, O, P, Q, R, S, T, U, V, W, X, Y, Z",
   "1D5BA MATHEMATICAL SANS-SERIF SMALL: A, B, C, D, E, F, G",
   "1D5C1 MATHEMATICAL SANS-SERIF SMALL: H, I, J, K, L, M, N, O, P, Q, R, S, T, U, V, W, X, Y, Z",
   "1D5D4 MATHEMATICAL SANS-SERIF BOLD CAPITAL: A, B, C, D, E, F, G, H, I",
   "1D5DD MATHEMATICAL SANS-SERIF BOLD CAPITAL: J, K, L, M, N, O, P, Q, R, S, T, U, V, W, X, Y, Z",
   "1D5EE MATHEMATICAL SANS-SERIF BOLD SMALL: A, B, C, D, E, F, G, H, I",
   "1D5F7 MATHEMATICAL SANS-SERIF BOLD SMALL: J, K, L, M, N, O, P, Q, R, S, T, U, V, W, X, Y, Z",
   "1D608 MATHEMATICAL SANS-SERIF ITALIC CAPITAL: A, B, C, D, E, F, G, H, I, J",
   "1D612 MATHEMATICAL SANS-SERIF ITALIC CAPITAL: K, L, M, N, O, P, Q, R, S, T, U, V, W, X, Y, Z",
   "1D622 MATHEMATICAL SANS-SERIF ITALIC SMALL: A, B, C, D, E, F, G, H, I",
   "1D62B MATHEMATICAL SANS-SERIF ITALIC SMALL: J, K, L, M, N, O, P, Q, R, S, T, U, V, W, X, Y, Z",
   "1D63C MATHEMATICAL SANS-SERIF BOLD ITALIC CAPITAL: A, B, C, D, E, F, G, H, I, J, K, L",
   "1D648 MATHEMATICAL SANS-SERIF BOLD ITALIC CAPITAL: M, N, O, P, Q, R, S, T, U, V, W, X, Y, Z",
   "1D656 MATHEMATICAL SANS-SERIF BOLD ITALIC SMALL: A, B, C, D, E, F, G, H, I, J, K",
   "1D661 MATHEMATICAL SANS-SERIF BOLD ITALIC SMALL: L, M, N, O, P, Q, R, S, T, U, V, W, X, Y, Z",
   "1D670 MATHEMATICAL MONOSPACE CAPITAL: A, B, C, D, E, F, G",
   "1D677 MATHEMATICAL MONOSPACE CAPITAL: H, I, J, K, L, M, N, O, P, Q, R, S, T, U, V, W, X, Y, Z",
   "1D68A MATHEMATICAL MONOSPACE SMALL: A, B, C, D, E, F, G",
   "1D691 MATHEMATICAL MONOSPACE SMALL: H, I, J, K, L, M, N, O, P, Q, R, S, T, U, V, W, X, Y, Z",
   "1D6A4 MATHEMATICAL ITALIC SMALL DOTLESS: I, J",
   "1D6A8 MATHEMATICAL BOLD CAPITAL: ALPHA, BETA, GAMMA, DELTA, EPSILON, ZETA",
   "1D6AE MATHEMATICAL BOLD CAPITAL: ETA, THETA, IOTA, KAPPA, LAMDA, MU, NU, XI, OMICRON, PI",
   "1D6B8 MATHEMATICAL BOLD CAPITAL: RHO, THETA SYMBOL, SIGMA, TAU, UPSILON, PHI, CHI, PSI, OMEGA",
   "1D6C1 MATHEMATICAL BOLD NABLA",
   "1D6C2 MATHEMATICAL BOLD SMALL: ALPHA, BETA, GAMMA, DELTA, EPSILON",
   "1D6C7 MATHEMATICAL BOLD SMALL: ZETA, ETA, THETA, IOTA, KAPPA, LAMDA, MU, NU, XI, OMICRON, PI",
   "1D6D2 MATHEMATICAL BOLD SMALL: RHO, FINAL SIGMA, SIGMA, TAU, UPSILON, PHI, CHI, PSI, OMEGA",
   "1D6DB MATHEMATICAL BOLD: PARTIAL DIFFERENTIAL, EPSILON SYMBOL",
   "1D6DD MATHEMATICAL BOLD: THETA SYMBOL, KAPPA SYMBOL, PHI SYMBOL, RHO SYMBOL, PI SYMBOL",
   "1D6E2 MATHEMATICAL ITALIC CAPITAL: ALPHA, BETA, GAMMA, DELTA, EPSILON, ZETA, ETA",
   "1D6E9 MATHEMATICAL ITALIC CAPITAL: THETA, IOTA, KAPPA, LAMDA, MU, NU, XI, OMICRON, PI, RHO",
   "1D6F3 MATHEMATICAL ITALIC CAPITAL: THETA SYMBOL, SIGMA, TAU, UPSILON, PHI, CHI, PSI, OMEGA",
   "1D6FB MATHEMATICAL ITALIC: NABLA, SMALL ALPHA, SMALL BETA, SMALL GAMMA, SMALL DELTA",
   "1D700 MATHEMATICAL ITALIC SMALL: EPSILON, ZETA, ETA, THETA, IOTA, KAPPA, LAMDA, MU, NU, XI",
   "1D70A MATHEMATICAL ITALIC SMALL: OMICRON, PI, RHO, FINAL SIGMA, SIGMA, TAU, UPSILON, PHI, CHI",
   "1D713 MATHEMATICAL ITALIC: SMALL PSI, SMALL OMEGA, PARTIAL DIFFERENTIAL, EPSILON SYMBOL",
   "1D717 MATHEMATICAL ITALIC: THETA SYMBOL, KAPPA SYMBOL, PHI SYMBOL, RHO SYMBOL, PI SYMBOL",
   "1D71C MATHEMATICAL BOLD ITALIC CAPITAL: ALPHA, BETA, GAMMA, DELTA, EPSILON, ZETA, ETA",
   "1D723 MATHEMATICAL BOLD ITALIC CAPITAL: THETA, IOTA, KAPPA, LAMDA, MU, NU, XI, OMICRON, PI",
   "1D72C MATHEMATICAL BOLD ITALIC CAPITAL: RHO, THETA SYMBOL, SIGMA, TAU, UPSILON, PHI, CHI, PSI",
   "1D734 MATHEMATICAL BOLD ITALIC: CAPITAL OMEGA, NABLA",
   "1D736 MATHEMATICAL BOLD ITALIC SMALL: ALPHA, BETA, GAMMA, DELTA, EPSILON, ZETA, ETA",
   "1D73D MATHEMATICAL BOLD ITALIC SMALL: THETA, IOTA, KAPPA, LAMDA, MU, NU, XI, OMICRON, PI, RHO",
   "1D747 MATHEMATICAL BOLD ITALIC SMALL: FINAL SIGMA, SIGMA, TAU, UPSILON, PHI, CHI, PSI, OMEGA",
   "1D74F MATHEMATICAL BOLD ITALIC: PARTIAL DIFFERENTIAL, EPSILON SYMBOL",
   "1D751 MATHEMATICAL BOLD ITALIC: THETA SYMBOL, KAPPA SYMBOL, PHI SYMBOL, RHO SYMBOL, PI SYMBOL",
   "1D756 MATHEMATICAL SANS-SERIF BOLD CAPITAL: ALPHA, BETA, GAMMA",
   "1D759 MATHEMATICAL SANS-SERIF BOLD CAPITAL: DELTA, EPSILON, ZETA, ETA, THETA, IOTA, KAPPA",
   "1D760 MATHEMATICAL SANS-SERIF BOLD CAPITAL: LAMDA, MU, NU, XI, OMICRON, PI, RHO, THETA SYMBOL",
   "1D768 MATHEMATICAL SANS-SERIF BOLD CAPITAL: SIGMA, TAU, UPSILON, PHI, CHI, PSI, OMEGA",
   "1D76F MATHEMATICAL SANS-SERIF BOLD: NABLA, SMALL ALPHA, SMALL BETA, SMALL GAMMA",
   "1D773 MATHEMATICAL SANS-SERIF BOLD SMALL: DELTA, EPSILON, ZETA, ETA, THETA, IOTA, KAPPA",
   "1D77A MATHEMATICAL SANS-SERIF BOLD SMALL: LAMDA, MU, NU, XI, OMICRON, PI, RHO, FINAL SIGMA",
   "1D782 MATHEMATICAL SANS-SERIF BOLD SMALL: SIGMA, TAU, UPSILON, PHI, CHI, PSI, OMEGA",
   "1D789 MATHEMATICAL SANS-SERIF BOLD: PARTIAL DIFFERENTIAL, EPSILON SYMBOL, THETA SYMBOL",
   "1D78C MATHEMATICAL SANS-SERIF BOLD: KAPPA SYMBOL, PHI SYMBOL, RHO SYMBOL, PI SYMBOL",
   "1D790 MATHEMATICAL SANS-SERIF BOLD ITALIC CAPITAL: ALPHA, BETA, GAMMA, DELTA, EPSILON",
   "1D795 MATHEMATICAL SANS-SERIF BOLD ITALIC CAPITAL: ZETA, ETA, THETA, IOTA, KAPPA, LAMDA",
   "1D79B MATHEMATICAL SANS-SERIF BOLD ITALIC CAPITAL: MU, NU, XI, OMICRON, PI, RHO, THETA SYMBOL",
   "1D7A2 MATHEMATICAL SANS-SERIF BOLD ITALIC CAPITAL: SIGMA, TAU, UPSILON, PHI, CHI, PSI, OMEGA",
   "1D7A9 MATHEMATICAL SANS-SERIF BOLD ITALIC NABLA",
   "1D7AA MATHEMATICAL SANS-SERIF BOLD ITALIC SMALL: ALPHA, BETA, GAMMA, DELTA, EPSILON",
   "1D7AF MATHEMATICAL SANS-SERIF BOLD ITALIC SMALL: ZETA, ETA, THETA, IOTA, KAPPA, LAMDA",
   "1D7B5 MATHEMATICAL SANS-SERIF BOLD ITALIC SMALL: MU, NU, XI, OMICRON, PI, RHO, FINAL SIGMA",
   "1D7BC MATHEMATICAL SANS-SERIF BOLD ITALIC SMALL: SIGMA, TAU, UPSILON, PHI, CHI, PSI, OMEGA",
   "1D7C3 MATHEMATICAL SANS-SERIF BOLD ITALIC: PARTIAL DIFFERENTIAL, EPSILON SYMBOL, THETA SYMBOL",
   "1D7C6 MATHEMATICAL SANS-SERIF BOLD ITALIC: KAPPA SYMBOL, PHI SYMBOL, RHO SYMBOL, PI SYMBOL",
   "1D7CA MATHEMATICAL BOLD: CAPITAL DIGAMMA, SMALL DIGAMMA",
   "1D7CE MATHEMATICAL BOLD DIGIT: ZERO, ONE, TWO, THREE, FOUR, FIVE, SIX, SEVEN, EIGHT, NINE",
   "1D7D8 MATHEMATICAL DOUBLE-STRUCK DIGIT ZERO",
   "1D7D9 MATHEMATICAL DOUBLE-STRUCK DIGIT: ONE, TWO, THREE, FOUR, FIVE, SIX, SEVEN, EIGHT, NINE",
   "1D7E2 MATHEMATICAL SANS-SERIF DIGIT: ZERO, ONE, TWO, THREE, FOUR, FIVE, SIX, SEVEN, EIGHT",
   "1D7EB MATHEMATICAL SANS-SERIF: DIGIT NINE, BOLD DIGIT ZERO, BOLD DIGIT ONE",
   "1D7EE MATHEMATICAL SANS-SERIF BOLD DIGIT: TWO, THREE, FOUR, FIVE, SIX, SEVEN, EIGHT, NINE",
   "1D7F6 MATHEMATICAL MONOSPACE DIGIT ZERO",
   "1D7F7 MATHEMATICAL MONOSPACE DIGIT: ONE, TWO, THREE, FOUR, FIVE, SIX, SEVEN, EIGHT, NINE",
   "1D800 SIGNWRITING: HAND-FIST INDEX, HAND-CIRCLE INDEX, HAND-CUP INDEX",
   "1D803 SIGNWRITING: HAND-OVAL INDEX, HAND-HINGE INDEX, HAND-ANGLE INDEX, HAND-FIST INDEX BENT",
   "1D807 SIGNWRITING: HAND-CIRCLE INDEX BENT, HAND-FIST THUMB UNDER INDEX BENT",
   "1D809 SIGNWRITING HAND-FIST INDEX: RAISED KNUCKLE, CUPPED, HINGED, HINGED LOW",
   "1D80D SIGNWRITING: HAND-CIRCLE INDEX HINGE, HAND-FIST INDEX MIDDLE, HAND-CIRCLE INDEX MIDDLE",
   "1D810 SIGNWRITING HAND-FIST INDEX MIDDLE: BENT, RAISED KNUCKLES, HINGED",
   "1D813 SIGNWRITING HAND-FIST INDEX: UP MIDDLE HINGED, HINGED MIDDLE UP, MIDDLE CONJOINED",
   "1D816 SIGNWRITING HAND-FIST INDEX MIDDLE CONJOINED: INDEX BENT, MIDDLE BENT, CUPPED, HINGED",
   "1D81A SIGNWRITING: HAND-FIST INDEX MIDDLE CROSSED, HAND-CIRCLE INDEX MIDDLE CROSSED",
   "1D81C SIGNWRITING HAND-FIST: MIDDLE BENT OVER INDEX, INDEX BENT OVER MIDDLE",
   "1D81E SIGNWRITING: HAND-FIST INDEX MIDDLE THUMB, HAND-CIRCLE INDEX MIDDLE THUMB",
   "1D820 SIGNWRITING HAND-FIST INDEX MIDDLE: STRAIGHT THUMB BENT, BENT THUMB STRAIGHT",
   "1D822 SIGNWRITING HAND-FIST INDEX MIDDLE: THUMB BENT, HINGED SPREAD THUMB SIDE",
   "1D824 SIGNWRITING HAND-FIST INDEX UP MIDDLE HINGED THUMB: SIDE, CONJOINED",
   "1D826 SIGNWRITING HAND-FIST INDEX HINGED MIDDLE UP THUMB SIDE",
   "1D827 SIGNWRITING HAND-FIST INDEX MIDDLE UP SPREAD THUMB FORWARD",
   "1D828 SIGNWRITING HAND-FIST INDEX MIDDLE THUMB: CUPPED, CIRCLED, HOOKED, HINGED",
   "1D82C SIGNWRITING HAND-FIST THUMB BETWEEN INDEX MIDDLE STRAIGHT",
   "1D82D SIGNWRITING HAND-FIST INDEX MIDDLE CONJOINED THUMB: SIDE, SIDE CONJOINED, SIDE BENT",
   "1D830 SIGNWRITING HAND-FIST: MIDDLE THUMB HOOKED INDEX UP, INDEX THUMB HOOKED MIDDLE UP",
   "1D832 SIGNWRITING HAND-FIST INDEX MIDDLE: CONJOINED HINGED THUMB SIDE, CROSSED THUMB SIDE",
   "1D834 SIGNWRITING HAND-FIST INDEX MIDDLE CONJOINED: THUMB FORWARD, CUPPED THUMB FORWARD",
   "1D836 SIGNWRITING HAND-FIST: MIDDLE THUMB CUPPED INDEX UP, INDEX THUMB CUPPED MIDDLE UP",
   "1D838 SIGNWRITING HAND-FIST MIDDLE THUMB CIRCLED INDEX: UP, HINGED",
   "1D83A SIGNWRITING HAND-FIST INDEX THUMB ANGLED: OUT MIDDLE UP, IN MIDDLE UP",
   "1D83C SIGNWRITING HAND-FIST INDEX THUMB CIRCLED MIDDLE UP",
   "1D83D SIGNWRITING HAND-FIST INDEX MIDDLE THUMB: CONJOINED HINGED, ANGLED OUT, ANGLED",
   "1D840 SIGNWRITING HAND-FIST MIDDLE THUMB ANGLED: OUT INDEX UP, OUT INDEX CROSSED, INDEX UP",
   "1D843 SIGNWRITING: HAND-FIST INDEX THUMB HOOKED MIDDLE HINGED, HAND-FLAT FOUR FINGERS",
   "1D845 SIGNWRITING HAND-FLAT FOUR FINGERS: BENT, HINGED, CONJOINED, CONJOINED SPLIT",
   "1D849 SIGNWRITING: HAND-CLAW FOUR FINGERS CONJOINED, HAND-FIST FOUR FINGERS CONJOINED BENT",
   "1D84B SIGNWRITING: HAND-HINGE FOUR FINGERS CONJOINED, HAND-FLAT FIVE FINGERS SPREAD",
   "1D84D SIGNWRITING HAND-FLAT: HEEL FIVE FINGERS SPREAD, FIVE FINGERS SPREAD FOUR BENT",
   "1D84F SIGNWRITING HAND-FLAT: HEEL FIVE FINGERS SPREAD FOUR BENT, FIVE FINGERS SPREAD BENT",
   "1D851 SIGNWRITING HAND-FLAT: HEEL FIVE FINGERS SPREAD BENT, FIVE FINGERS SPREAD THUMB FORWARD",
   "1D853 SIGNWRITING HAND-CUP FIVE FINGERS: SPREAD, SPREAD OPEN",
   "1D855 SIGNWRITING: HAND-HINGE FIVE FINGERS SPREAD OPEN, HAND-OVAL FIVE FINGERS SPREAD",
   "1D857 SIGNWRITING HAND-FLAT FIVE FINGERS SPREAD: HINGED, HINGED THUMB SIDE, HINGED NO THUMB",
   "1D85A SIGNWRITING HAND-FLAT",
   "1D85B SIGNWRITING HAND-FLAT: BETWEEN PALM FACINGS, HEEL, THUMB SIDE, HEEL THUMB SIDE",
   "1D85F SIGNWRITING HAND-FLAT: THUMB BENT, THUMB FORWARD, SPLIT INDEX THUMB SIDE",
   "1D862 SIGNWRITING HAND-FLAT SPLIT: CENTRE, CENTRE THUMB SIDE, CENTRE THUMB SIDE BENT, LITTLE",
   "1D866 SIGNWRITING HAND-CLAW",
   "1D867 SIGNWRITING HAND-CLAW: THUMB SIDE, NO THUMB, THUMB FORWARD",
   "1D86A SIGNWRITING: HAND-HOOK CURLICUE, HAND-HOOK, HAND-CUP OPEN, HAND-CUP",
   "1D86E SIGNWRITING HAND-CUP: OPEN THUMB SIDE, THUMB SIDE",
   "1D870 SIGNWRITING HAND-CUP: OPEN NO THUMB, NO THUMB, OPEN THUMB FORWARD, THUMB FORWARD",
   "1D874 SIGNWRITING: HAND-CURLICUE OPEN, HAND-CURLICUE, HAND-CIRCLE, HAND-OVAL",
   "1D878 SIGNWRITING HAND-OVAL: THUMB SIDE, NO THUMB, THUMB FORWARD",
   "1D87B SIGNWRITING: HAND-HINGE OPEN, HAND-HINGE OPEN THUMB FORWARD, HAND-HINGE",
   "1D87E SIGNWRITING HAND-HINGE: SMALL, OPEN THUMB SIDE, THUMB SIDE, OPEN NO THUMB, NO THUMB",
   "1D883 SIGNWRITING HAND-HINGE THUMB: SIDE TOUCHING INDEX, BETWEEN MIDDLE RING",
   "1D885 SIGNWRITING: HAND-ANGLE, HAND-FIST INDEX MIDDLE RING, HAND-CIRCLE INDEX MIDDLE RING",
   "1D888 SIGNWRITING HAND-HINGE INDEX MIDDLE RING",
   "1D889 SIGNWRITING: HAND-ANGLE INDEX MIDDLE RING, HAND-HINGE LITTLE",
   "1D88B SIGNWRITING HAND-FIST INDEX MIDDLE RING: BENT, CONJOINED",
   "1D88D SIGNWRITING HAND-HINGE INDEX MIDDLE RING CONJOINED",
   "1D88E SIGNWRITING HAND-FIST LITTLE: DOWN, DOWN RIPPLE STRAIGHT, DOWN RIPPLE CURVED",
   "1D891 SIGNWRITING HAND-FIST: LITTLE DOWN OTHERS CIRCLED, LITTLE UP, THUMB UNDER LITTLE UP",
   "1D894 SIGNWRITING: HAND-CIRCLE LITTLE UP, HAND-OVAL LITTLE UP, HAND-ANGLE LITTLE UP",
   "1D897 SIGNWRITING HAND-FIST LITTLE: RAISED KNUCKLE, BENT, TOUCHES THUMB, THUMB",
   "1D89B SIGNWRITING HAND-HINGE LITTLE THUMB",
   "1D89C SIGNWRITING: HAND-FIST LITTLE INDEX THUMB, HAND-HINGE LITTLE INDEX THUMB",
   "1D89E SIGNWRITING HAND-ANGLE LITTLE INDEX THUMB INDEX: THUMB OUT, THUMB",
   "1D8A0 SIGNWRITING: HAND-FIST LITTLE INDEX, HAND-CIRCLE LITTLE INDEX, HAND-HINGE LITTLE INDEX",
   "1D8A3 SIGNWRITING: HAND-ANGLE LITTLE INDEX, HAND-FIST INDEX MIDDLE LITTLE",
   "1D8A5 SIGNWRITING: HAND-CIRCLE INDEX MIDDLE LITTLE, HAND-HINGE INDEX MIDDLE LITTLE",
   "1D8A7 SIGNWRITING: HAND-HINGE RING, HAND-ANGLE INDEX MIDDLE LITTLE",
   "1D8A9 SIGNWRITING: HAND-FIST INDEX MIDDLE CROSS LITTLE, HAND-CIRCLE INDEX MIDDLE CROSS LITTLE",
   "1D8AB SIGNWRITING: HAND-FIST RING DOWN, HAND-HINGE RING DOWN INDEX THUMB HOOK MIDDLE",
   "1D8AD SIGNWRITING HAND-ANGLE RING DOWN MIDDLE THUMB INDEX CROSS",
   "1D8AE SIGNWRITING HAND-FIST RING: UP, RAISED KNUCKLE, LITTLE",
   "1D8B1 SIGNWRITING: HAND-CIRCLE RING LITTLE, HAND-OVAL RING LITTLE, HAND-ANGLE RING LITTLE",
   "1D8B4 SIGNWRITING HAND-FIST RING: MIDDLE, MIDDLE CONJOINED, MIDDLE RAISED KNUCKLES, INDEX",
   "1D8B8 SIGNWRITING: HAND-FIST RING THUMB, HAND-HOOK RING THUMB, HAND-FIST INDEX RING LITTLE",
   "1D8BB SIGNWRITING: HAND-CIRCLE INDEX RING LITTLE, HAND-CURLICUE INDEX RING LITTLE ON",
   "1D8BD SIGNWRITING HAND-HOOK INDEX RING LITTLE: OUT, IN, UNDER",
   "1D8C0 SIGNWRITING: HAND-CUP INDEX RING LITTLE, HAND-HINGE INDEX RING LITTLE",
   "1D8C2 SIGNWRITING HAND-ANGLE INDEX RING: LITTLE OUT, LITTLE",
   "1D8C4 SIGNWRITING: HAND-FIST MIDDLE DOWN, HAND-HINGE MIDDLE, HAND-FIST MIDDLE UP",
   "1D8C7 SIGNWRITING: HAND-CIRCLE MIDDLE UP, HAND-FIST MIDDLE RAISED KNUCKLE",
   "1D8C9 SIGNWRITING: HAND-FIST MIDDLE UP THUMB SIDE, HAND-HOOK MIDDLE THUMB",
   "1D8CB SIGNWRITING HAND-FIST MIDDLE: THUMB LITTLE, LITTLE, RING LITTLE",
   "1D8CE SIGNWRITING: HAND-CIRCLE MIDDLE RING LITTLE, HAND-CURLICUE MIDDLE RING LITTLE ON",
   "1D8D0 SIGNWRITING: HAND-CUP MIDDLE RING LITTLE, HAND-HINGE MIDDLE RING LITTLE",
   "1D8D2 SIGNWRITING HAND-ANGLE MIDDLE RING: LITTLE OUT, LITTLE IN, LITTLE",
   "1D8D5 SIGNWRITING HAND-CIRCLE MIDDLE RING LITTLE BENT",
   "1D8D6 SIGNWRITING HAND-CLAW MIDDLE RING LITTLE: CONJOINED, CONJOINED SIDE",
   "1D8D8 SIGNWRITING HAND-HOOK MIDDLE RING LITTLE: CONJOINED OUT, CONJOINED IN, CONJOINED",
   "1D8DB SIGNWRITING HAND-HINGE INDEX HINGED",
   "1D8DC SIGNWRITING: HAND-FIST INDEX THUMB SIDE, HAND-HINGE INDEX THUMB SIDE",
   "1D8DE SIGNWRITING HAND-FIST INDEX THUMB SIDE THUMB: DIAGONAL, CONJOINED, BENT",
   "1D8E1 SIGNWRITING HAND-FIST INDEX THUMB SIDE: INDEX BENT, BOTH BENT, INDEX HINGE",
   "1D8E4 SIGNWRITING HAND-FIST INDEX THUMB FORWARD INDEX: STRAIGHT, BENT",
   "1D8E6 SIGNWRITING HAND-FIST INDEX THUMB: HOOK, CURLICUE, CURVE THUMB INSIDE",
   "1D8E9 SIGNWRITING HAND-CLAW INDEX THUMB CURVE THUMB INSIDE",
   "1D8EA SIGNWRITING HAND-FIST INDEX THUMB: CURVE THUMB UNDER, CIRCLE",
   "1D8EC SIGNWRITING HAND-CUP INDEX: THUMB, THUMB OPEN",
   "1D8EE SIGNWRITING HAND-HINGE INDEX: THUMB OPEN, THUMB LARGE, THUMB, THUMB SMALL",
   "1D8F2 SIGNWRITING HAND-ANGLE INDEX: THUMB OUT, THUMB IN, THUMB",
   "1D8F5 SIGNWRITING HAND-FIST THUMB",
   "1D8F6 SIGNWRITING HAND-FIST THUMB: HEEL, SIDE DIAGONAL, SIDE CONJOINED, SIDE BENT, FORWARD",
   "1D8FB SIGNWRITING HAND-FIST THUMB BETWEEN: INDEX MIDDLE, MIDDLE RING, RING LITTLE",
   "1D8FE SIGNWRITING HAND-FIST THUMB: UNDER TWO FINGERS, OVER TWO FINGERS, UNDER THREE FINGERS",
   "1D901 SIGNWRITING HAND-FIST THUMB: UNDER FOUR FINGERS, OVER FOUR RAISED KNUCKLES",
   "1D903 SIGNWRITING: HAND-FIST, HAND-FIST HEEL, TOUCH SINGLE, TOUCH MULTIPLE, TOUCH BETWEEN",
   "1D908 SIGNWRITING GRASP: SINGLE, MULTIPLE, BETWEEN",
   "1D90B SIGNWRITING STRIKE: SINGLE, MULTIPLE, BETWEEN",
   "1D90E SIGNWRITING: BRUSH SINGLE, BRUSH MULTIPLE, BRUSH BETWEEN, RUB SINGLE, RUB MULTIPLE",
   "1D913 SIGNWRITING: RUB BETWEEN, SURFACE SYMBOLS, SURFACE BETWEEN, SQUEEZE LARGE SINGLE",
   "1D917 SIGNWRITING SQUEEZE: SMALL SINGLE, LARGE MULTIPLE, SMALL MULTIPLE, SEQUENTIAL",
   "1D91B SIGNWRITING FLICK: LARGE SINGLE, SMALL SINGLE, LARGE MULTIPLE, SMALL MULTIPLE",
   "1D91F SIGNWRITING: FLICK SEQUENTIAL, SQUEEZE FLICK ALTERNATING",
   "1D921 SIGNWRITING MOVEMENT-HINGE UP DOWN: LARGE, SMALL",
   "1D923 SIGNWRITING MOVEMENT-HINGE: UP SEQUENTIAL, DOWN SEQUENTIAL, UP DOWN ALTERNATING LARGE",
   "1D926 SIGNWRITING MOVEMENT-HINGE: UP DOWN ALTERNATING SMALL, SIDE TO SIDE SCISSORS",
   "1D928 SIGNWRITING: MOVEMENT-WALLPLANE FINGER CONTACT, MOVEMENT-FLOORPLANE FINGER CONTACT",
   "1D92A SIGNWRITING MOVEMENT-WALLPLANE SINGLE STRAIGHT: SMALL, MEDIUM, LARGE, LARGEST",
   "1D92E SIGNWRITING MOVEMENT-WALLPLANE: SINGLE WRIST FLEX, DOUBLE STRAIGHT",
   "1D930 SIGNWRITING MOVEMENT-WALLPLANE DOUBLE: WRIST FLEX, ALTERNATING, ALTERNATING WRIST FLEX",
   "1D933 SIGNWRITING MOVEMENT-WALLPLANE: CROSS, TRIPLE STRAIGHT MOVEMENT",
   "1D935 SIGNWRITING MOVEMENT-WALLPLANE TRIPLE: WRIST FLEX, ALTERNATING, ALTERNATING WRIST FLEX",
   "1D938 SIGNWRITING MOVEMENT-WALLPLANE BEND: SMALL, MEDIUM, LARGE",
   "1D93B SIGNWRITING MOVEMENT-WALLPLANE CORNER: SMALL, MEDIUM, LARGE, ROTATION",
   "1D93F SIGNWRITING MOVEMENT-WALLPLANE CHECK: SMALL, MEDIUM, LARGE",
   "1D942 SIGNWRITING MOVEMENT-WALLPLANE BOX: SMALL, MEDIUM, LARGE",
   "1D945 SIGNWRITING MOVEMENT-WALLPLANE ZIGZAG: SMALL, MEDIUM, LARGE",
   "1D948 SIGNWRITING MOVEMENT-WALLPLANE PEAKS: SMALL, MEDIUM, LARGE",
   "1D94B SIGNWRITING TRAVEL-WALLPLANE ROTATION-WALLPLANE: SINGLE, DOUBLE, ALTERNATING",
   "1D94E SIGNWRITING TRAVEL-WALLPLANE ROTATION-FLOORPLANE: SINGLE, DOUBLE, ALTERNATING",
   "1D951 SIGNWRITING TRAVEL-WALLPLANE SHAKING",
   "1D952 SIGNWRITING TRAVEL-WALLPLANE ARM SPIRAL: SINGLE, DOUBLE, TRIPLE",
   "1D955 SIGNWRITING MOVEMENT-DIAGONAL AWAY: SMALL, MEDIUM, LARGE, LARGEST",
   "1D959 SIGNWRITING MOVEMENT-DIAGONAL TOWARDS: SMALL, MEDIUM, LARGE, LARGEST",
   "1D95D SIGNWRITING MOVEMENT-DIAGONAL BETWEEN AWAY: SMALL, MEDIUM, LARGE, LARGEST",
   "1D961 SIGNWRITING MOVEMENT-DIAGONAL BETWEEN TOWARDS: SMALL, MEDIUM, LARGE, LARGEST",
   "1D965 SIGNWRITING MOVEMENT-FLOORPLANE SINGLE STRAIGHT: SMALL, MEDIUM, LARGE, LARGEST",
   "1D969 SIGNWRITING MOVEMENT-FLOORPLANE: SINGLE WRIST FLEX, DOUBLE STRAIGHT",
   "1D96B SIGNWRITING MOVEMENT-FLOORPLANE DOUBLE: WRIST FLEX, ALTERNATING, ALTERNATING WRIST FLEX",
   "1D96E SIGNWRITING MOVEMENT-FLOORPLANE: CROSS, TRIPLE STRAIGHT MOVEMENT, TRIPLE WRIST FLEX",
   "1D971 SIGNWRITING MOVEMENT-FLOORPLANE TRIPLE ALTERNATING: MOVEMENT, WRIST FLEX",
   "1D973 SIGNWRITING MOVEMENT-FLOORPLANE: BEND, CORNER SMALL, CORNER MEDIUM, CORNER LARGE, CHECK",
   "1D978 SIGNWRITING MOVEMENT-FLOORPLANE BOX: SMALL, MEDIUM, LARGE",
   "1D97B SIGNWRITING MOVEMENT-FLOORPLANE ZIGZAG: SMALL, MEDIUM, LARGE",
   "1D97E SIGNWRITING MOVEMENT-FLOORPLANE PEAKS: SMALL, MEDIUM, LARGE",
   "1D981 SIGNWRITING TRAVEL-FLOORPLANE ROTATION-FLOORPLANE: SINGLE, DOUBLE, ALTERNATING",
   "1D984 SIGNWRITING TRAVEL-FLOORPLANE ROTATION-WALLPLANE: SINGLE, DOUBLE, ALTERNATING",
   "1D987 SIGNWRITING TRAVEL-FLOORPLANE SHAKING",
   "1D988 SIGNWRITING MOVEMENT-WALLPLANE CURVE QUARTER: SMALL, MEDIUM, LARGE, LARGEST",
   "1D98C SIGNWRITING MOVEMENT-WALLPLANE CURVE HALF-CIRCLE: SMALL, MEDIUM, LARGE, LARGEST",
   "1D990 SIGNWRITING MOVEMENT-WALLPLANE CURVE THREE-QUARTER CIRCLE: SMALL, MEDIUM",
   "1D992 SIGNWRITING MOVEMENT-WALLPLANE HUMP: SMALL, MEDIUM, LARGE",
   "1D995 SIGNWRITING MOVEMENT-WALLPLANE LOOP: SMALL, MEDIUM, LARGE, SMALL DOUBLE",
   "1D999 SIGNWRITING MOVEMENT-WALLPLANE WAVE CURVE DOUBLE: SMALL, MEDIUM, LARGE",
   "1D99C SIGNWRITING MOVEMENT-WALLPLANE WAVE CURVE TRIPLE: SMALL, MEDIUM, LARGE",
   "1D99F SIGNWRITING MOVEMENT-WALLPLANE CURVE THEN STRAIGHT",
   "1D9A0 SIGNWRITING MOVEMENT-WALLPLANE CURVED CROSS: SMALL, MEDIUM",
   "1D9A2 SIGNWRITING ROTATION-WALLPLANE: SINGLE, DOUBLE, ALTERNATE",
   "1D9A5 SIGNWRITING MOVEMENT-WALLPLANE SHAKING",
   "1D9A6 SIGNWRITING MOVEMENT-WALLPLANE: CURVE HITTING FRONT WALL, HUMP HITTING FRONT WALL",
   "1D9A8 SIGNWRITING MOVEMENT-WALLPLANE: LOOP HITTING FRONT WALL, WAVE HITTING FRONT WALL",
   "1D9AA SIGNWRITING ROTATION-WALLPLANE: SINGLE HITTING FRONT WALL, DOUBLE HITTING FRONT WALL",
   "1D9AC SIGNWRITING ROTATION-WALLPLANE ALTERNATING HITTING FRONT WALL",
   "1D9AD SIGNWRITING MOVEMENT-WALLPLANE: CURVE HITTING CHEST, HUMP HITTING CHEST",
   "1D9AF SIGNWRITING MOVEMENT-WALLPLANE: LOOP HITTING CHEST, WAVE HITTING CHEST",
   "1D9B1 SIGNWRITING ROTATION-WALLPLANE SINGLE HITTING CHEST",
   "1D9B2 SIGNWRITING ROTATION-WALLPLANE: DOUBLE HITTING CHEST, ALTERNATING HITTING CHEST",
   "1D9B4 SIGNWRITING MOVEMENT-WALLPLANE WAVE DIAGONAL PATH: SMALL, MEDIUM, LARGE",
   "1D9B7 SIGNWRITING MOVEMENT-FLOORPLANE CURVE HITTING CEILING: SMALL, LARGE",
   "1D9B9 SIGNWRITING MOVEMENT-FLOORPLANE HUMP HITTING CEILING: SMALL DOUBLE, LARGE DOUBLE",
   "1D9BB SIGNWRITING MOVEMENT-FLOORPLANE HUMP HITTING CEILING: SMALL TRIPLE, LARGE TRIPLE",
   "1D9BD SIGNWRITING MOVEMENT-FLOORPLANE LOOP HITTING CEILING: SMALL SINGLE, LARGE SINGLE",
   "1D9BF SIGNWRITING MOVEMENT-FLOORPLANE LOOP HITTING CEILING: SMALL DOUBLE, LARGE DOUBLE",
   "1D9C1 SIGNWRITING MOVEMENT-FLOORPLANE WAVE HITTING CEILING: SMALL, LARGE",
   "1D9C3 SIGNWRITING ROTATION-FLOORPLANE SINGLE HITTING CEILING",
   "1D9C4 SIGNWRITING ROTATION-FLOORPLANE: DOUBLE HITTING CEILING, ALTERNATING HITTING CEILING",
   "1D9C6 SIGNWRITING MOVEMENT-FLOORPLANE CURVE HITTING FLOOR: SMALL, LARGE",
   "1D9C8 SIGNWRITING MOVEMENT-FLOORPLANE HUMP HITTING FLOOR: SMALL DOUBLE, LARGE DOUBLE",
   "1D9CA SIGNWRITING MOVEMENT-FLOORPLANE HUMP HITTING FLOOR TRIPLE: SMALL TRIPLE, LARGE TRIPLE",
   "1D9CC SIGNWRITING MOVEMENT-FLOORPLANE LOOP HITTING FLOOR: SMALL SINGLE, LARGE SINGLE",
   "1D9CE SIGNWRITING MOVEMENT-FLOORPLANE LOOP HITTING FLOOR: SMALL DOUBLE, LARGE DOUBLE",
   "1D9D0 SIGNWRITING MOVEMENT-FLOORPLANE WAVE HITTING FLOOR: SMALL, LARGE",
   "1D9D2 SIGNWRITING ROTATION-FLOORPLANE SINGLE HITTING FLOOR",
   "1D9D3 SIGNWRITING ROTATION-FLOORPLANE: DOUBLE HITTING FLOOR, ALTERNATING HITTING FLOOR",
   "1D9D5 SIGNWRITING MOVEMENT-FLOORPLANE CURVE: SMALL, MEDIUM, LARGE, LARGEST, COMBINED",
   "1D9DA SIGNWRITING MOVEMENT-FLOORPLANE: HUMP SMALL, LOOP SMALL",
   "1D9DC SIGNWRITING MOVEMENT-FLOORPLANE WAVE: SNAKE, SMALL, LARGE",
   "1D9DF SIGNWRITING ROTATION-FLOORPLANE: SINGLE, DOUBLE, ALTERNATING",
   "1D9E2 SIGNWRITING MOVEMENT-FLOORPLANE SHAKING PARALLEL",
   "1D9E3 SIGNWRITING MOVEMENT-WALLPLANE ARM CIRCLE SMALL SINGLE",
   "1D9E4 SIGNWRITING MOVEMENT-WALLPLANE ARM CIRCLE: MEDIUM SINGLE, SMALL DOUBLE, MEDIUM DOUBLE",
   "1D9E7 SIGNWRITING MOVEMENT-FLOORPLANE ARM CIRCLE HITTING WALL: SMALL SINGLE, MEDIUM SINGLE",
   "1D9E9 SIGNWRITING MOVEMENT-FLOORPLANE ARM CIRCLE HITTING WALL: LARGE SINGLE, SMALL DOUBLE",
   "1D9EB SIGNWRITING MOVEMENT-FLOORPLANE ARM CIRCLE HITTING WALL: MEDIUM DOUBLE, LARGE DOUBLE",
   "1D9ED SIGNWRITING MOVEMENT-WALLPLANE WRIST CIRCLE FRONT: SINGLE, DOUBLE",
   "1D9EF SIGNWRITING MOVEMENT-FLOORPLANE WRIST CIRCLE HITTING WALL: SINGLE, DOUBLE",
   "1D9F1 SIGNWRITING MOVEMENT-WALLPLANE FINGER CIRCLES: SINGLE, DOUBLE",
   "1D9F3 SIGNWRITING MOVEMENT-FLOORPLANE FINGER CIRCLES HITTING WALL: SINGLE, DOUBLE",
   "1D9F5 SIGNWRITING DYNAMIC: ARROWHEAD SMALL, ARROWHEAD LARGE, FAST, SLOW, TENSE, RELAXED",
   "1D9FB SIGNWRITING DYNAMIC: SIMULTANEOUS, SIMULTANEOUS ALTERNATING, EVERY OTHER TIME, GRADUAL",
   "1D9FF SIGNWRITING: HEAD, HEAD RIM, HEAD MOVEMENT-WALLPLANE STRAIGHT",
   "1DA02 SIGNWRITING HEAD: MOVEMENT-WALLPLANE TILT, MOVEMENT-FLOORPLANE STRAIGHT",
   "1DA04 SIGNWRITING HEAD: MOVEMENT-WALLPLANE CURVE, MOVEMENT-FLOORPLANE CURVE, MOVEMENT CIRCLE",
   "1DA07 SIGNWRITING FACE DIRECTION POSITION NOSE FORWARD TILTING",
   "1DA08 SIGNWRITING FACE DIRECTION POSITION NOSE UP OR: DOWN, DOWN TILTING",
   "1DA0A SIGNWRITING EYEBROWS STRAIGHT: UP, NEUTRAL, DOWN",
   "1DA0D SIGNWRITING DREAMY EYEBROWS: NEUTRAL DOWN, DOWN NEUTRAL, UP NEUTRAL, NEUTRAL UP",
   "1DA11 SIGNWRITING FOREHEAD: NEUTRAL, CONTACT, WRINKLED",
   "1DA14 SIGNWRITING EYES: OPEN, SQUEEZED, CLOSED",
   "1DA17 SIGNWRITING EYE BLINK: SINGLE, MULTIPLE",
   "1DA19 SIGNWRITING EYES: HALF OPEN, WIDE OPEN, HALF CLOSED, WIDENING MOVEMENT",
   "1DA1D SIGNWRITING: EYE WINK, EYELASHES UP, EYELASHES DOWN, EYELASHES FLUTTERING",
   "1DA21 SIGNWRITING EYEGAZE-WALLPLANE: STRAIGHT, STRAIGHT DOUBLE, STRAIGHT ALTERNATING",
   "1DA24 SIGNWRITING EYEGAZE-FLOORPLANE: STRAIGHT, STRAIGHT DOUBLE, STRAIGHT ALTERNATING",
   "1DA27 SIGNWRITING: EYEGAZE-WALLPLANE CURVED, EYEGAZE-FLOORPLANE CURVED",
   "1DA29 SIGNWRITING: EYEGAZE-WALLPLANE CIRCLING, CHEEKS PUFFED, CHEEKS NEUTRAL, CHEEKS SUCKED",
   "1DA2D SIGNWRITING TENSE CHEEKS: HIGH, MIDDLE, LOW",
   "1DA30 SIGNWRITING: EARS, NOSE NEUTRAL, NOSE CONTACT, NOSE WRINKLES, NOSE WIGGLES",
   "1DA35 SIGNWRITING AIR: BLOWING OUT, SUCKING IN, BLOW SMALL ROTATIONS, SUCK SMALL ROTATIONS",
   "1DA39 SIGNWRITING BREATH: INHALE, EXHALE",
   "1DA3B SIGNWRITING MOUTH CLOSED: NEUTRAL, FORWARD, CONTACT",
   "1DA3E SIGNWRITING MOUTH: SMILE, SMILE WRINKLED, SMILE OPEN, FROWN, FROWN WRINKLED, FROWN OPEN",
   "1DA44 SIGNWRITING MOUTH OPEN: CIRCLE, FORWARD, WRINKLED, OVAL, OVAL WRINKLED, OVAL YAWN",
   "1DA4A SIGNWRITING MOUTH: OPEN RECTANGLE, OPEN RECTANGLE WRINKLED, OPEN RECTANGLE YAWN, KISS",
   "1DA4E SIGNWRITING MOUTH: KISS FORWARD, KISS WRINKLED, TENSE, TENSE FORWARD, TENSE SUCKED",
   "1DA53 SIGNWRITING: LIPS PRESSED TOGETHER, LIP LOWER OVER UPPER, LIP UPPER OVER LOWER",
   "1DA56 SIGNWRITING MOUTH: CORNERS, WRINKLES SINGLE, WRINKLES DOUBLE",
   "1DA59 SIGNWRITING TONGUE: STICKING OUT FAR, LICKING LIPS",
   "1DA5B SIGNWRITING TONGUE: TIP BETWEEN LIPS, TIP TOUCHING INSIDE MOUTH, INSIDE MOUTH RELAXED",
   "1DA5E SIGNWRITING TONGUE: MOVES AGAINST CHEEK, CENTRE STICKING OUT, CENTRE INSIDE MOUTH",
   "1DA61 SIGNWRITING: TEETH, TEETH MOVEMENT",
   "1DA63 SIGNWRITING TEETH: ON TONGUE, ON TONGUE MOVEMENT, ON LIPS, ON LIPS MOVEMENT, BITE LIPS",
   "1DA68 SIGNWRITING: MOVEMENT-WALLPLANE JAW, MOVEMENT-FLOORPLANE JAW, NECK, HAIR, EXCITEMENT",
   "1DA6D SIGNWRITING: SHOULDER HIP SPINE, SHOULDER HIP POSITIONS, WALLPLANE SHOULDER HIP MOVE",
   "1DA70 SIGNWRITING: FLOORPLANE SHOULDER HIP MOVE, SHOULDER TILTING FROM WAIST",
   "1DA72 SIGNWRITING TORSO-WALLPLANE: STRAIGHT STRETCH, CURVED BEND",
   "1DA74 SIGNWRITING TORSO-FLOORPLANE TWISTING",
   "1DA75 SIGNWRITING: UPPER BODY TILTING FROM HIP JOINTS, LIMB COMBINATION",
   "1DA77 SIGNWRITING LIMB: LENGTH-1, LENGTH-2, LENGTH-3, LENGTH-4, LENGTH-5, LENGTH-6, LENGTH-7",
   "1DA7E SIGNWRITING: FINGER, LOCATION-WALLPLANE SPACE, LOCATION-FLOORPLANE SPACE",
   "1DA81 SIGNWRITING LOCATION: HEIGHT, WIDTH, DEPTH, HEAD NECK, TORSO, LIMBS DIGITS",
   "1DA87 SIGNWRITING: COMMA, FULL STOP, SEMICOLON, COLON, PARENTHESIS",
   "1DA9B SIGNWRITING FILL: MODIFIER-2, MODIFIER-3, MODIFIER-4, MODIFIER-5, MODIFIER-6",
   "1DAA1 SIGNWRITING ROTATION: MODIFIER-2, MODIFIER-3, MODIFIER-4, MODIFIER-5, MODIFIER-6",
   "1DAA6 SIGNWRITING ROTATION: MODIFIER-7, MODIFIER-8, MODIFIER-9, MODIFIER-10, MODIFIER-11",
   "1DAAB SIGNWRITING ROTATION: MODIFIER-12, MODIFIER-13, MODIFIER-14, MODIFIER-15, MODIFIER-16",
   "1DF00 LATIN SMALL LETTER: FENG DIGRAPH WITH TRILL, REVERSED SCRIPT G",
   "1DF02 LATIN LETTER SMALL CAPITAL TURNED G",
   "1DF03 LATIN: SMALL LETTER REVERSED K, LETTER SMALL CAPITAL L WITH BELT",
   "1DF05 LATIN SMALL LETTER: LEZH WITH RETROFLEX HOOK, TURNED Y WITH BELT, REVERSED ENG",
   "1DF08 LATIN SMALL LETTER TURNED R WITH LONG LEG AND RETROFLEX HOOK",
   "1DF09 LATIN SMALL LETTER T WITH HOOK AND RETROFLEX HOOK",
   "1DF0A LATIN LETTER RETROFLEX CLICK WITH RETROFLEX HOOK",
   "1DF0B LATIN SMALL LETTER ESH WITH DOUBLE: BAR, BAR AND CURL",
   "1DF0D LATIN: SMALL LETTER TURNED T WITH CURL, LETTER INVERTED GLOTTAL STOP WITH CURL",
   "1DF0F LATIN LETTER: STRETCHED C WITH CURL, SMALL CAPITAL TURNED K",
   "1DF11 LATIN SMALL LETTER: L WITH FISHHOOK, DEZH DIGRAPH WITH PALATAL HOOK",
   "1DF13 LATIN SMALL LETTER: L WITH BELT AND PALATAL HOOK, ENG WITH PALATAL HOOK",
   "1DF15 LATIN SMALL LETTER: TURNED R WITH PALATAL HOOK, R WITH FISHHOOK AND PALATAL HOOK",
   "1DF17 LATIN SMALL LETTER: TESH DIGRAPH WITH PALATAL HOOK, EZH WITH PALATAL HOOK",
   "1DF19 LATIN SMALL LETTER: DEZH DIGRAPH WITH RETROFLEX HOOK, I WITH STROKE AND RETROFLEX HOOK",
   "1DF1B LATIN SMALL LETTER: O WITH RETROFLEX HOOK, TESH DIGRAPH WITH RETROFLEX HOOK",
   "1DF1D LATIN SMALL LETTER: C WITH RETROFLEX HOOK, S WITH CURL",
   "1E000 COMBINING GLAGOLITIC LETTER: AZU, BUKY, VEDE, GLAGOLI, DOBRO, YESTU, ZHIVETE",
   "1E008 COMBINING GLAGOLITIC LETTER ZEMLJA",
   "1E009 COMBINING GLAGOLITIC LETTER: IZHE, INITIAL IZHE, I, DJERVI, KAKO, LJUDIJE, MYSLITE",
   "1E010 COMBINING GLAGOLITIC LETTER: NASHI, ONU, POKOJI, RITSI, SLOVO, TVRIDO, UKU, FRITU, HERU",
   "1E01B COMBINING GLAGOLITIC LETTER: SHTA, TSI, CHRIVI, SHA, YERU, YERI, YATI",
   "1E023 COMBINING GLAGOLITIC LETTER: YU, SMALL YUS",
   "1E026 COMBINING GLAGOLITIC LETTER: YO, IOTATED SMALL YUS, BIG YUS, IOTATED BIG YUS, FITA",
   "1E100 NYIAKENG PUACHUE HMONG LETTER: MA, TSA, NTA, TA, HA, NA",
   "1E106 NYIAKENG PUACHUE HMONG LETTER: XA, NKA, CA, LA, SA, ZA, NCA, NTSA, KA, DA, NYA, NRA, VA",
   "1E113 NYIAKENG PUACHUE HMONG LETTER: NTXA, TXA, FA, RA, QA, YA, NQA, PA, XYA, NPA, DLA, NPLA",
   "1E11F NYIAKENG PUACHUE HMONG LETTER: HAH, MLA, PLA, GA, RRA, A, AA, I, U, O, OO, E, EE, W",
   "1E130 NYIAKENG PUACHUE HMONG: TONE-B, TONE-M, TONE-J, TONE-V, TONE-S, TONE-G, TONE-D",
   "1E137 NYIAKENG PUACHUE HMONG SIGN FOR: PERSON, THING, LOCATION, ANIMAL, INVERTEBRATE",
   "1E13C NYIAKENG PUACHUE HMONG: SIGN XW XW, SYLLABLE LENGTHENER",
   "1E140 NYIAKENG PUACHUE HMONG DIGIT ZERO",
   "1E141 NYIAKENG PUACHUE HMONG DIGIT: ONE, TWO, THREE, FOUR, FIVE, SIX, SEVEN, EIGHT, NINE",
   "1E14E NYIAKENG PUACHUE HMONG: LOGOGRAM NYAJ, CIRCLED CA",
   "1E290 TOTO LETTER: PA, BA, TA, DA, KA, GA, MA, NA, NGA, SA, CHA, YA, WA, JA, HA, RA",
   "1E2A0 TOTO LETTER: LA, I, BREATHY I, IU, BREATHY IU, U, E, BREATHY E, EO, BREATHY EO, O, AE",
   "1E2AC TOTO: LETTER BREATHY AE, LETTER A, SIGN RISING TONE",
   "1E2C0 WANCHO LETTER: AA, A, BA, CA, DA, GA, YA, PHA, LA, NA, PA",
   "1E2CB WANCHO LETTER: TA, THA, FA, SA, SHA, JA, ZA, WA, VA, KA, O, AU, RA, MA, KHA, HA, E, I",
   "1E2DD WANCHO LETTER: NGA, U, LLHA, TSA, TRA, ONG, AANG, ANG, ING, ON, EN, AAN, NYA, UEN, YIH",
   "1E2EC WANCHO TONE: TUP, TUPNI, KOI, KOINI",
   "1E2F0 WANCHO DIGIT: ZERO, ONE, TWO, THREE, FOUR, FIVE, SIX, SEVEN, EIGHT, NINE",
   "1E2FF WANCHO NGUN SIGN",
   "1E7E0 ETHIOPIC SYLLABLE: HHYA, HHYU, HHYI, HHYAA, HHYEE, HHYE, HHYO",
   "1E7E8 ETHIOPIC SYLLABLE: GURAGE HHWA, HHWI, HHWEE, HHWE",
   "1E7ED ETHIOPIC SYLLABLE GURAGE: MWI, MWEE",
   "1E7F0 ETHIOPIC SYLLABLE GURAGE: QWI, QWEE, QWE, BWI",
   "1E7F4 ETHIOPIC SYLLABLE GURAGE: BWEE, KWI, KWEE, KWE, GWI, GWEE, GWE, FWI, FWEE, PWI, PWEE",
   "1E800 MENDE KIKAKUI SYLLABLE: M001 KI, M002 KA, M003 KU, M065 KEE",
   "1E804 MENDE KIKAKUI SYLLABLE: M095 KE, M076 KOO, M048 KO, M179 KUA, M004 WI, M005 WA, M006 WU",
   "1E80B MENDE KIKAKUI SYLLABLE: M126 WEE, M118 WE, M114 WOO, M045 WO, M194 WUI, M143 WEI",
   "1E811 MENDE KIKAKUI SYLLABLE: M061 WVI, M049 WVA, M139 WVE, M007 MIN, M008 MAN, M009 MUN",
   "1E817 MENDE KIKAKUI SYLLABLE: M059 MEN, M094 MON, M154 MUAN, M189 MUEN, M010 BI, M011 BA",
   "1E81D MENDE KIKAKUI SYLLABLE: M012 BU, M150 BEE, M097 BE, M103 BOO, M138 BO, M013 I, M014 A",
   "1E824 MENDE KIKAKUI SYLLABLE: M015 U, M163 EE, M100 E, M165 OO, M147 O, M137 EI, M131 IN",
   "1E82B MENDE KIKAKUI SYLLABLE: M135 IN, M195 AN, M178 EN, M019 SI, M020 SA, M021 SU, M162 SEE",
   "1E832 MENDE KIKAKUI SYLLABLE: M116 SE, M136 SOO, M079 SO, M196 SIA, M025 LI, M026 LA, M027 LU",
   "1E839 MENDE KIKAKUI SYLLABLE: M084 LEE, M073 LE, M054 LOO, M153 LO, M110 LONG LE, M016 DI",
   "1E83F MENDE KIKAKUI SYLLABLE: M017 DA, M018 DU, M089 DEE, M180 DOO, M181 DO, M022 TI, M023 TA",
   "1E846 MENDE KIKAKUI SYLLABLE: M024 TU, M091 TEE, M055 TE, M104 TOO, M069 TO, M028 JI, M029 JA",
   "1E84D MENDE KIKAKUI SYLLABLE: M030 JU, M157 JEE, M113 JE, M160 JOO, M063 JO, M175 LONG JO",
   "1E853 MENDE KIKAKUI SYLLABLE: M031 YI, M032 YA, M033 YU, M109 YEE, M080 YE, M141 YOO, M121 YO",
   "1E85A MENDE KIKAKUI SYLLABLE: M034 FI, M035 FA, M036 FU, M078 FEE, M075 FE, M133 FOO, M088 FO",
   "1E861 MENDE KIKAKUI SYLLABLE: M197 FUA, M101 FAN, M037 NIN, M038 NAN, M039 NUN, M117 NEN",
   "1E867 MENDE KIKAKUI SYLLABLE: M169 NON, M176 HI, M041 HA, M186 HU, M040 HEE, M096 HE",
   "1E86D MENDE KIKAKUI SYLLABLE: M042 HOO, M140 HO, M083 HEEI, M128 HOOU, M053 HIN, M130 HAN",
   "1E873 MENDE KIKAKUI SYLLABLE: M087 HUN, M052 HEN, M193 HON, M046 HUAN, M090 NGGI, M043 NGGA",
   "1E879 MENDE KIKAKUI SYLLABLE: M082 NGGU, M115 NGGEE, M146 NGGE, M156 NGGOO, M120 NGGO",
   "1E87E MENDE KIKAKUI SYLLABLE: M159 NGGAA, M127 NGGUA, M086 LONG NGGE, M106 LONG NGGOO",
   "1E882 MENDE KIKAKUI SYLLABLE: M183 LONG NGGO, M155 GI, M111 GA, M168 GU, M190 GEE",
   "1E887 MENDE KIKAKUI SYLLABLE: M166 GUEI, M167 GUAN, M184 NGEN, M057 NGON, M177 NGUAN",
   "1E88C MENDE KIKAKUI SYLLABLE: M068 PI, M099 PA, M050 PU, M081 PEE, M051 PE, M102 POO",
   "1E892 MENDE KIKAKUI SYLLABLE: M066 PO, M145 MBI, M062 MBA, M122 MBU, M047 MBEE, M188 MBEE",
   "1E898 MENDE KIKAKUI SYLLABLE: M072 MBE, M172 MBOO, M174 MBO, M187 MBUU, M161 LONG MBE",
   "1E89D MENDE KIKAKUI SYLLABLE: M105 LONG MBOO, M142 LONG MBO, M132 KPI, M092 KPA",
   "1E8A1 MENDE KIKAKUI SYLLABLE: M074 KPU, M044 KPEE, M108 KPE, M112 KPOO, M158 KPO, M124 GBI",
   "1E8A7 MENDE KIKAKUI SYLLABLE: M056 GBA, M148 GBU, M093 GBEE, M107 GBE, M071 GBOO, M070 GBO",
   "1E8AD MENDE KIKAKUI SYLLABLE: M171 RA, M123 NDI, M129 NDA, M125 NDU, M191 NDEE, M119 NDE",
   "1E8B3 MENDE KIKAKUI SYLLABLE: M067 NDOO, M064 NDO, M152 NJA, M192 NJU, M149 NJEE, M134 NJOO",
   "1E8B9 MENDE KIKAKUI SYLLABLE: M182 VI, M185 VA, M151 VU, M173 VEE, M085 VE, M144 VOO",
   "1E8BF MENDE KIKAKUI SYLLABLE: M077 VO, M164 NYIN, M058 NYAN, M170 NYUN, M098 NYEN, M060 NYON",
   "1E8C7 MENDE KIKAKUI DIGIT: ONE, TWO, THREE, FOUR, FIVE, SIX, SEVEN, EIGHT, NINE",
   "1E8D0 MENDE KIKAKUI COMBINING NUMBER: TEENS, TENS, HUNDREDS",
   "1E8D3 MENDE KIKAKUI COMBINING NUMBER: THOUSANDS, TEN THOUSANDS, HUNDRED THOUSANDS, MILLIONS",
   "1E900 ADLAM CAPITAL LETTER: ALIF, DAALI, LAAM, MIIM, BA, SINNYIIYHE",
   "1E906 ADLAM CAPITAL LETTER: PE, BHE, RA, E, FA, I, O, DHA, YHE, WAW, NUN, KAF, YA, U, JIIM",
   "1E915 ADLAM CAPITAL LETTER: CHI, HA, QAAF, GA, NYA, TU, NHA, VA, KHA, GBE, ZAL, KPO, SHA",
   "1E922 ADLAM SMALL LETTER: ALIF, DAALI, LAAM, MIIM, BA, SINNYIIYHE",
   "1E928 ADLAM SMALL LETTER: PE, BHE, RA, E, FA, I, O, DHA, YHE, WAW, NUN, KAF, YA, U",
   "1E936 ADLAM SMALL LETTER: JIIM, CHI, HA, QAAF, GA, NYA, TU, NHA, VA, KHA, GBE, ZAL, KPO, SHA",
   "1E944 ADLAM: ALIF LENGTHENER, VOWEL LENGTHENER, GEMINATION MARK",
   "1E947 ADLAM: HAMZA, CONSONANT MODIFIER, GEMINATE CONSONANT MODIFIER, NUKTA, NASALIZATION MARK",
   "1E950 ADLAM DIGIT: ZERO, ONE, TWO, THREE, FOUR, FIVE, SIX, SEVEN, EIGHT, NINE",
   "1E95E ADLAM INITIAL: EXCLAMATION MARK, QUESTION MARK",
   "1EC71 INDIC SIYAQ NUMBER: ONE, TWO, THREE, FOUR, FIVE, SIX, SEVEN, EIGHT",
   "1EC79 INDIC SIYAQ NUMBER: NINE, TEN, TWENTY, THIRTY, FORTY, FIFTY, SIXTY, SEVENTY, EIGHTY",
   "1EC82 INDIC SIYAQ NUMBER: NINETY, ONE HUNDRED, TWO HUNDRED, THREE HUNDRED, FOUR HUNDRED",
   "1EC87 INDIC SIYAQ NUMBER: FIVE HUNDRED, SIX HUNDRED, SEVEN HUNDRED, EIGHT HUNDRED",
   "1EC8B INDIC SIYAQ NUMBER: NINE HUNDRED, ONE THOUSAND, TWO THOUSAND, THREE THOUSAND",
   "1EC8F INDIC SIYAQ NUMBER: FOUR THOUSAND, FIVE THOUSAND, SIX THOUSAND, SEVEN THOUSAND",
   "1EC93 INDIC SIYAQ NUMBER: EIGHT THOUSAND, NINE THOUSAND, TEN THOUSAND, TWENTY THOUSAND",
   "1EC97 INDIC SIYAQ NUMBER: THIRTY THOUSAND, FORTY THOUSAND, FIFTY THOUSAND, SIXTY THOUSAND",
   "1EC9B INDIC SIYAQ NUMBER: SEVENTY THOUSAND, EIGHTY THOUSAND, NINETY THOUSAND, LAKH, LAKHAN",
   "1ECA0 INDIC SIYAQ: LAKH MARK, NUMBER KAROR, NUMBER KARORAN",
   "1ECA3 INDIC SIYAQ NUMBER PREFIXED: ONE, TWO, THREE, FOUR, FIVE, SIX, SEVEN, EIGHT, NINE",
   "1ECAC INDIC SIYAQ: PLACEHOLDER, FRACTION ONE QUARTER",
   "1ECAE INDIC SIYAQ: FRACTION ONE HALF, FRACTION THREE QUARTERS, RUPEE MARK",
   "1ECB1 INDIC SIYAQ NUMBER ALTERNATE: ONE, TWO, TEN THOUSAND",
   "1ECB4 INDIC SIYAQ ALTERNATE LAKH MARK",
   "1ED01 OTTOMAN SIYAQ NUMBER: ONE, TWO, THREE, FOUR, FIVE, SIX, SEVEN, EIGHT, NINE, TEN, TWENTY",
   "1ED0C OTTOMAN SIYAQ NUMBER: THIRTY, FORTY, FIFTY, SIXTY, SEVENTY, EIGHTY, NINETY, ONE HUNDRED",
   "1ED14 OTTOMAN SIYAQ NUMBER: TWO HUNDRED, THREE HUNDRED, FOUR HUNDRED, FIVE HUNDRED",
   "1ED18 OTTOMAN SIYAQ NUMBER: SIX HUNDRED, SEVEN HUNDRED, EIGHT HUNDRED, NINE HUNDRED",
   "1ED1C OTTOMAN SIYAQ NUMBER: ONE THOUSAND, TWO THOUSAND, THREE THOUSAND, FOUR THOUSAND",
   "1ED20 OTTOMAN SIYAQ NUMBER: FIVE THOUSAND, SIX THOUSAND, SEVEN THOUSAND, EIGHT THOUSAND",
   "1ED24 OTTOMAN SIYAQ NUMBER: NINE THOUSAND, TEN THOUSAND, TWENTY THOUSAND, THIRTY THOUSAND",
   "1ED28 OTTOMAN SIYAQ NUMBER: FORTY THOUSAND, FIFTY THOUSAND, SIXTY THOUSAND, SEVENTY THOUSAND",
   "1ED2C OTTOMAN SIYAQ: NUMBER EIGHTY THOUSAND, NUMBER NINETY THOUSAND, MARRATAN",
   "1ED2F OTTOMAN SIYAQ ALTERNATE NUMBER: TWO, THREE, FOUR, FIVE, SIX, SEVEN, EIGHT, NINE, TEN",
   "1ED38 OTTOMAN SIYAQ ALTERNATE NUMBER: FOUR HUNDRED, SIX HUNDRED, TWO THOUSAND, TEN THOUSAND",
   "1ED3C OTTOMAN SIYAQ FRACTION ONE: HALF, SIXTH",
   "1EE00 ARABIC MATHEMATICAL: ALEF, BEH, JEEM, DAL",
   "1EE05 ARABIC MATHEMATICAL: WAW, ZAIN, HAH, TAH, YEH, KAF, LAM, MEEM, NOON, SEEN, AIN",
   "1EE10 ARABIC MATHEMATICAL: FEH, SAD, QAF, REH, SHEEN, TEH, THEH, KHAH, THAL, DAD, ZAH, GHAIN",
   "1EE1C ARABIC MATHEMATICAL DOTLESS: BEH, NOON, FEH, QAF",
   "1EE21 ARABIC MATHEMATICAL INITIAL: BEH, JEEM",
   "1EE24 ARABIC MATHEMATICAL INITIAL HEH",
   "1EE27 ARABIC MATHEMATICAL INITIAL HAH",
   "1EE29 ARABIC MATHEMATICAL INITIAL: YEH, KAF, LAM, MEEM, NOON, SEEN, AIN, FEH, SAD, QAF",
   "1EE34 ARABIC MATHEMATICAL INITIAL: SHEEN, TEH, THEH, KHAH",
   "1EE39 ARABIC MATHEMATICAL INITIAL DAD",
   "1EE3B ARABIC MATHEMATICAL INITIAL GHAIN",
   "1EE42 ARABIC MATHEMATICAL TAILED JEEM",
   "1EE47 ARABIC MATHEMATICAL TAILED HAH",
   "1EE49 ARABIC MATHEMATICAL TAILED YEH",
   "1EE4B ARABIC MATHEMATICAL TAILED LAM",
   "1EE4D ARABIC MATHEMATICAL TAILED: NOON, SEEN, AIN",
   "1EE51 ARABIC MATHEMATICAL TAILED: SAD, QAF",
   "1EE54 ARABIC MATHEMATICAL TAILED SHEEN",
   "1EE57 ARABIC MATHEMATICAL TAILED KHAH",
   "1EE59 ARABIC MATHEMATICAL TAILED DAD",
   "1EE5B ARABIC MATHEMATICAL TAILED GHAIN",
   "1EE5D ARABIC MATHEMATICAL TAILED DOTLESS NOON",
   "1EE5F ARABIC MATHEMATICAL TAILED DOTLESS QAF",
   "1EE61 ARABIC MATHEMATICAL STRETCHED: BEH, JEEM",
   "1EE64 ARABIC MATHEMATICAL STRETCHED HEH",
   "1EE67 ARABIC MATHEMATICAL STRETCHED: HAH, TAH, YEH, KAF",
   "1EE6C ARABIC MATHEMATICAL STRETCHED: MEEM, NOON, SEEN, AIN, FEH, SAD, QAF",
   "1EE74 ARABIC MATHEMATICAL STRETCHED: SHEEN, TEH, THEH, KHAH",
   "1EE79 ARABIC MATHEMATICAL STRETCHED: DAD, ZAH, GHAIN, DOTLESS BEH",
   "1EE7E ARABIC MATHEMATICAL STRETCHED DOTLESS FEH",
   "1EE80 ARABIC MATHEMATICAL LOOPED: ALEF, BEH, JEEM, DAL, HEH, WAW, ZAIN, HAH, TAH, YEH",
   "1EE8B ARABIC MATHEMATICAL LOOPED: LAM, MEEM, NOON, SEEN, AIN, FEH, SAD",
   "1EE92 ARABIC MATHEMATICAL LOOPED: QAF, REH, SHEEN, TEH, THEH, KHAH, THAL, DAD, ZAH, GHAIN",
   "1EEA1 ARABIC MATHEMATICAL DOUBLE-STRUCK: BEH, JEEM, DAL",
   "1EEA5 ARABIC MATHEMATICAL DOUBLE-STRUCK: WAW, ZAIN, HAH, TAH, YEH",
   "1EEAB ARABIC MATHEMATICAL DOUBLE-STRUCK: LAM, MEEM, NOON, SEEN, AIN, FEH, SAD, QAF",
   "1EEB3 ARABIC MATHEMATICAL DOUBLE-STRUCK: REH, SHEEN, TEH, THEH, KHAH, THAL, DAD, ZAH, GHAIN",
   "1EEF0 ARABIC MATHEMATICAL OPERATOR: MEEM WITH HAH WITH TATWEEL, HAH WITH DAL"]

end Codegen.Text.CharName
