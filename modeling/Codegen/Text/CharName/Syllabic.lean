/-!
Names of characters, from version 14 of the Unicode Character Database: the syllabaries of East
Asia, later scripts and compatibility forms, U+3000 to U+FFFF.
-/

namespace Codegen.Text.CharName

def syllabicRows : List String :=
  ["3000 IDEOGRAPHIC: SPACE, COMMA, FULL STOP",
   "3003 DITTO MARK, JAPANESE INDUSTRIAL STANDARD SYMBOL",
   "3005 IDEOGRAPHIC: ITERATION MARK, CLOSING MARK, NUMBER ZERO",
   "3008 LEFT ANGLE BRACKET, RIGHT ANGLE BRACKET",
   "300A LEFT DOUBLE ANGLE BRACKET, RIGHT DOUBLE ANGLE BRACKET, LEFT CORNER BRACKET",
   "300D RIGHT CORNER BRACKET, LEFT WHITE CORNER BRACKET, RIGHT WHITE CORNER BRACKET",
   "3010 LEFT BLACK LENTICULAR BRACKET, RIGHT BLACK LENTICULAR BRACKET, POSTAL MARK, GETA MARK",
   "3014 LEFT TORTOISE SHELL BRACKET, RIGHT TORTOISE SHELL BRACKET, LEFT WHITE LENTICULAR BRACKET",
   "3017 RIGHT WHITE LENTICULAR BRACKET, LEFT WHITE TORTOISE SHELL BRACKET",
   "3019 RIGHT WHITE TORTOISE SHELL BRACKET, LEFT WHITE SQUARE BRACKET",
   "301B RIGHT WHITE SQUARE BRACKET, WAVE DASH, REVERSED DOUBLE PRIME QUOTATION MARK",
   "301E DOUBLE PRIME QUOTATION MARK, LOW DOUBLE PRIME QUOTATION MARK, POSTAL MARK FACE",
   "3021 HANGZHOU NUMERAL: ONE, TWO, THREE, FOUR, FIVE, SIX, SEVEN, EIGHT, NINE",
   "302A IDEOGRAPHIC: LEVEL TONE MARK, RISING TONE MARK, DEPARTING TONE MARK, ENTERING TONE MARK",
   "302E HANGUL SINGLE DOT TONE MARK, HANGUL DOUBLE DOT TONE MARK, WAVY DASH",
   "3031 VERTICAL KANA REPEAT: MARK, WITH VOICED SOUND MARK, MARK UPPER HALF",
   "3034 VERTICAL KANA REPEAT: WITH VOICED SOUND MARK UPPER HALF, MARK LOWER HALF",
   "3036 CIRCLED POSTAL MARK, IDEOGRAPHIC TELEGRAPH LINE FEED SEPARATOR SYMBOL",
   "3038 HANGZHOU NUMERAL: TEN, TWENTY, THIRTY",
   "303B VERTICAL IDEOGRAPHIC ITERATION MARK, MASU MARK, PART ALTERNATION MARK",
   "303E IDEOGRAPHIC: VARIATION INDICATOR, HALF FILL SPACE",
   "3041 HIRAGANA LETTER: SMALL A, A, SMALL I, I, SMALL U, U, SMALL E, E",
   "3049 HIRAGANA LETTER: SMALL O, O, KA, GA, KI, GI, KU, GU, KE, GE, KO, GO, SA, ZA, SI, ZI, SU",
   "305A HIRAGANA LETTER: ZU, SE, ZE, SO, ZO, TA, DA, TI, DI, SMALL TU, TU, DU, TE, DE, TO, DO",
   "306A HIRAGANA LETTER: NA, NI, NU, NE, NO, HA, BA, PA, HI, BI, PI, HU, BU, PU, HE, BE, PE, HO",
   "307C HIRAGANA LETTER: BO, PO, MA, MI, MU, ME, MO, SMALL YA, YA, SMALL YU, YU, SMALL YO, YO",
   "3089 HIRAGANA LETTER: RA, RI, RU, RE, RO, SMALL WA, WA, WI, WE, WO, N, VU, SMALL KA, SMALL KE",
   "3099 COMBINING KATAKANA-HIRAGANA: VOICED SOUND MARK, SEMI-VOICED SOUND MARK",
   "309B KATAKANA-HIRAGANA: VOICED SOUND MARK, SEMI-VOICED SOUND MARK",
   "309D HIRAGANA: ITERATION MARK, VOICED ITERATION MARK, DIGRAPH YORI",
   "30A0 KATAKANA-HIRAGANA DOUBLE HYPHEN",
   "30A1 KATAKANA LETTER: SMALL A, A, SMALL I, I, SMALL U, U, SMALL E, E, SMALL O, O, KA",
   "30AC KATAKANA LETTER: GA, KI, GI, KU, GU, KE, GE, KO, GO, SA, ZA, SI, ZI, SU, ZU, SE, ZE, SO",
   "30BE KATAKANA LETTER: ZO, TA, DA, TI, DI, SMALL TU, TU, DU, TE, DE, TO, DO, NA, NI, NU, NE",
   "30CE KATAKANA LETTER: NO, HA, BA, PA, HI, BI, PI, HU, BU, PU, HE, BE, PE, HO, BO, PO, MA, MI",
   "30E0 KATAKANA LETTER: MU, ME, MO, SMALL YA, YA, SMALL YU, YU, SMALL YO, YO, RA, RI, RU, RE",
   "30ED KATAKANA LETTER: RO, SMALL WA, WA, WI, WE, WO, N, VU, SMALL KA, SMALL KE, VA, VI, VE, VO",
   "30FB KATAKANA MIDDLE DOT, KATAKANA-HIRAGANA PROLONGED SOUND MARK",
   "30FD KATAKANA: ITERATION MARK, VOICED ITERATION MARK, DIGRAPH KOTO",
   "3105 BOPOMOFO LETTER: B, P, M, F, D, T",
   "310B BOPOMOFO LETTER: N, L, G, K, H, J, Q, X, ZH, CH, SH, R, Z, C, S, A, O, E, EH, AI, EI, AU",
   "3121 BOPOMOFO LETTER: OU, AN, EN, ANG, ENG, ER, I, U, IU, V, NG, GN, IH, O WITH DOT ABOVE, NN",
   "3131 HANGUL LETTER: KIYEOK, SSANGKIYEOK, KIYEOK-SIOS",
   "3134 HANGUL LETTER: NIEUN, NIEUN-CIEUC, NIEUN-HIEUH, TIKEUT, SSANGTIKEUT, RIEUL, RIEUL-KIYEOK",
   "313B HANGUL LETTER: RIEUL-MIEUM, RIEUL-PIEUP, RIEUL-SIOS, RIEUL-THIEUTH, RIEUL-PHIEUPH",
   "3140 HANGUL LETTER: RIEUL-HIEUH, MIEUM, PIEUP, SSANGPIEUP, PIEUP-SIOS, SIOS, SSANGSIOS, IEUNG",
   "3148 HANGUL LETTER: CIEUC, SSANGCIEUC, CHIEUCH, KHIEUKH, THIEUTH, PHIEUPH, HIEUH, A, AE, YA",
   "3152 HANGUL LETTER: YAE, EO, E, YEO, YE, O, WA, WAE, OE, YO, U, WEO, WE, WI, YU, EU, YI, I",
   "3164 HANGUL FILLER",
   "3165 HANGUL LETTER: SSANGNIEUN, NIEUN-TIKEUT, NIEUN-SIOS, NIEUN-PANSIOS, RIEUL-KIYEOK-SIOS",
   "316A HANGUL LETTER: RIEUL-TIKEUT, RIEUL-PIEUP-SIOS, RIEUL-PANSIOS, RIEUL-YEORINHIEUH",
   "316E HANGUL LETTER: MIEUM-PIEUP, MIEUM-SIOS, MIEUM-PANSIOS, KAPYEOUNMIEUM, PIEUP-KIYEOK",
   "3173 HANGUL LETTER: PIEUP-TIKEUT, PIEUP-SIOS-KIYEOK, PIEUP-SIOS-TIKEUT, PIEUP-CIEUC",
   "3177 HANGUL LETTER: PIEUP-THIEUTH, KAPYEOUNPIEUP, KAPYEOUNSSANGPIEUP, SIOS-KIYEOK",
   "317B HANGUL LETTER: SIOS-NIEUN, SIOS-TIKEUT, SIOS-PIEUP, SIOS-CIEUC, PANSIOS, SSANGIEUNG",
   "3181 HANGUL LETTER: YESIEUNG, YESIEUNG-SIOS, YESIEUNG-PANSIOS, KAPYEOUNPHIEUPH, SSANGHIEUH",
   "3186 HANGUL LETTER: YEORINHIEUH, YO-YA, YO-YAE, YO-I, YU-YEO, YU-YE, YU-I, ARAEA, ARAEAE",
   "3190 IDEOGRAPHIC ANNOTATION LINKING MARK",
   "3191 IDEOGRAPHIC ANNOTATION: REVERSE MARK, ONE MARK, TWO MARK, THREE MARK, FOUR MARK",
   "3196 IDEOGRAPHIC ANNOTATION: TOP MARK, MIDDLE MARK, BOTTOM MARK, FIRST MARK, SECOND MARK",
   "319B IDEOGRAPHIC ANNOTATION: THIRD MARK, FOURTH MARK, HEAVEN MARK, EARTH MARK, MAN MARK",
   "31A0 BOPOMOFO LETTER: BU, ZI, JI, GU, EE",
   "31A5 BOPOMOFO LETTER: ENN, OO, ONN, IR, ANN, INN, UNN, IM, NGG, AINN, AUNN, AM, OM, ONG, INNN",
   "31B4 BOPOMOFO FINAL LETTER: P, T, K, H",
   "31B8 BOPOMOFO: LETTER GH, LETTER LH, LETTER ZY, FINAL LETTER G",
   "31BC BOPOMOFO LETTER: GW, KW, OE, AH",
   "31C0 CJK STROKE: T, WG",
   "31C2 CJK STROKE: XG, BXG, SW, HZZ, HZG, HP, HZWG, SZWG, HZT, HZZP, HPWG, HZW, HZZZ, N, H, S",
   "31D2 CJK STROKE: P, SP, D, HZ, HG, SZ, SWZ, ST, SG, PD, PZ, TN, SZZ, SWG, HXWG, HZZZG, PG, Q",
   "31F0 KATAKANA LETTER SMALL: KU, SI, SU, TO, NU, HA, HI, HU, HE, HO, MU, RA, RI, RU, RE, RO",
   "3200 PARENTHESIZED HANGUL: KIYEOK, NIEUN, TIKEUT, RIEUL, MIEUM, PIEUP, SIOS, IEUNG, CIEUC",
   "3209 PARENTHESIZED HANGUL: CHIEUCH, KHIEUKH, THIEUTH, PHIEUPH, HIEUH, KIYEOK A, NIEUN A",
   "3210 PARENTHESIZED HANGUL: TIKEUT A, RIEUL A, MIEUM A, PIEUP A, SIOS A, IEUNG A, CIEUC A",
   "3217 PARENTHESIZED HANGUL: CHIEUCH A, KHIEUKH A, THIEUTH A, PHIEUPH A, HIEUH A, CIEUC U",
   "321D PARENTHESIZED KOREAN CHARACTER: OJEON, O HU",
   "3220 PARENTHESIZED IDEOGRAPH: ONE, TWO, THREE, FOUR, FIVE",
   "3225 PARENTHESIZED IDEOGRAPH: SIX, SEVEN, EIGHT, NINE, TEN, MOON, FIRE, WATER, WOOD, METAL",
   "322F PARENTHESIZED IDEOGRAPH: EARTH, SUN, STOCK, HAVE, SOCIETY, NAME, SPECIAL, FINANCIAL",
   "3237 PARENTHESIZED IDEOGRAPH: CONGRATULATION, LABOR, REPRESENT, CALL, STUDY, SUPERVISE",
   "323D PARENTHESIZED IDEOGRAPH: ENTERPRISE, RESOURCE, ALLIANCE, FESTIVAL, REST, SELF, REACH",
   "3244 CIRCLED IDEOGRAPH: QUESTION, KINDERGARTEN, SCHOOL, KOTO",
   "3248 CIRCLED NUMBER: TEN ON BLACK SQUARE, TWENTY ON BLACK SQUARE",
   "324A CIRCLED NUMBER: THIRTY ON BLACK SQUARE, FORTY ON BLACK SQUARE, FIFTY ON BLACK SQUARE",
   "324D CIRCLED NUMBER: SIXTY ON BLACK SQUARE, SEVENTY ON BLACK SQUARE, EIGHTY ON BLACK SQUARE",
   "3250 PARTNERSHIP SIGN",
   "3251 CIRCLED NUMBER TWENTY: ONE, TWO, THREE, FOUR, FIVE, SIX, SEVEN, EIGHT, NINE",
   "325A CIRCLED NUMBER THIRTY",
   "325B CIRCLED NUMBER THIRTY: ONE, TWO, THREE, FOUR, FIVE",
   "3260 CIRCLED HANGUL: KIYEOK, NIEUN, TIKEUT, RIEUL",
   "3264 CIRCLED HANGUL: MIEUM, PIEUP, SIOS, IEUNG, CIEUC, CHIEUCH, KHIEUKH, THIEUTH, PHIEUPH",
   "326D CIRCLED HANGUL: HIEUH, KIYEOK A, NIEUN A, TIKEUT A, RIEUL A, MIEUM A, PIEUP A, SIOS A",
   "3275 CIRCLED HANGUL: IEUNG A, CIEUC A, CHIEUCH A, KHIEUKH A, THIEUTH A, PHIEUPH A, HIEUH A",
   "327C CIRCLED KOREAN CHARACTER: CHAMKO, JUEUI",
   "327E CIRCLED HANGUL IEUNG U, KOREAN STANDARD SYMBOL",
   "3280 CIRCLED IDEOGRAPH: ONE, TWO, THREE, FOUR, FIVE",
   "3285 CIRCLED IDEOGRAPH: SIX, SEVEN, EIGHT, NINE, TEN, MOON, FIRE, WATER, WOOD, METAL, EARTH",
   "3290 CIRCLED IDEOGRAPH: SUN, STOCK, HAVE, SOCIETY, NAME, SPECIAL, FINANCIAL, CONGRATULATION",
   "3298 CIRCLED IDEOGRAPH: LABOR, SECRET, MALE, FEMALE, SUITABLE, EXCELLENT, PRINT, ATTENTION",
   "32A0 CIRCLED IDEOGRAPH: ITEM, REST, COPY, CORRECT, HIGH, CENTRE, LOW, LEFT, RIGHT, MEDICINE",
   "32AA CIRCLED IDEOGRAPH: RELIGION, STUDY, SUPERVISE, ENTERPRISE, RESOURCE, ALLIANCE, NIGHT",
   "32B1 CIRCLED NUMBER: THIRTY SIX, THIRTY SEVEN, THIRTY EIGHT, THIRTY NINE, FORTY",
   "32B6 CIRCLED NUMBER FORTY: ONE, TWO, THREE, FOUR, FIVE, SIX, SEVEN, EIGHT, NINE",
   "32BF CIRCLED NUMBER FIFTY",
   "32C0 IDEOGRAPHIC TELEGRAPH SYMBOL FOR: JANUARY, FEBRUARY, MARCH, APRIL, MAY, JUNE",
   "32C6 IDEOGRAPHIC TELEGRAPH SYMBOL FOR: JULY, AUGUST, SEPTEMBER, OCTOBER, NOVEMBER, DECEMBER",
   "32CC SQUARE: HG, ERG, EV",
   "32CF LIMITED LIABILITY SIGN",
   "32D0 CIRCLED KATAKANA: A, I, U, E, O, KA, KI, KU, KE, KO, SA",
   "32DB CIRCLED KATAKANA: SI, SU, SE, SO, TA, TI, TU, TE, TO, NA, NI, NU, NE, NO, HA, HI, HU, HE",
   "32ED CIRCLED KATAKANA: HO, MA, MI, MU, ME, MO, YA, YU, YO, RA, RI, RU, RE, RO, WA, WI, WE, WO",
   "32FF SQUARE: ERA NAME REIWA, APAATO, ARUHUA, ANPEA, AARU, ININGU, INTI, UON, ESUKUUDO",
   "3308 SQUARE: EEKAA, ONSU, OOMU, KAIRI, KARATTO, KARORII, GARON, GANMA, GIGA, GINII, KYURII",
   "3313 SQUARE: GIRUDAA, KIRO, KIROGURAMU, KIROMEETORU, KIROWATTO, GURAMU, GURAMUTON, KURUZEIRO",
   "331B SQUARE: KUROONE, KEESU, KORUNA, KOOPO, SAIKURU, SANTIIMU, SIRINGU, SENTI, SENTO",
   "3324 SQUARE: DAASU, DESI, DORU, TON, NANO, NOTTO, HAITU, PAASENTO, PAATU, BAARERU, PIASUTORU",
   "332F SQUARE: PIKURU, PIKO, BIRU, HUARADDO, HUIITO, BUSSYERU, HURAN, HEKUTAARU, PESO, PENIHI",
   "3339 SQUARE: HERUTU, PENSU, PEEZI, BEETA, POINTO, BORUTO, HON, PONDO, HOORU, HOON, MAIKURO",
   "3344 SQUARE: MAIRU, MAHHA, MARUKU, MANSYON, MIKURON, MIRI, MIRIBAARU, MEGA, MEGATON, MEETORU",
   "334E SQUARE: YAADO, YAARU, YUAN, RITTORU, RIRA, RUPII, RUUBURU, REMU, RENTOGEN, WATTO",
   "3358 IDEOGRAPHIC TELEGRAPH SYMBOL FOR HOUR: ZERO, ONE",
   "335A IDEOGRAPHIC TELEGRAPH SYMBOL FOR HOUR: TWO, THREE, FOUR, FIVE, SIX, SEVEN, EIGHT, NINE",
   "3362 IDEOGRAPHIC TELEGRAPH SYMBOL FOR HOUR: TEN, ELEVEN, TWELVE, THIRTEEN, FOURTEEN, FIFTEEN",
   "3368 IDEOGRAPHIC TELEGRAPH SYMBOL FOR HOUR: SIXTEEN, SEVENTEEN, EIGHTEEN, NINETEEN, TWENTY",
   "336D IDEOGRAPHIC TELEGRAPH SYMBOL FOR HOUR: TWENTY-ONE, TWENTY-TWO, TWENTY-THREE, TWENTY-FOUR",
   "3371 SQUARE: HPA, DA, AU, BAR, OV, PC, DM, DM SQUARED, DM CUBED, IU",
   "337B SQUARE ERA NAME: HEISEI, SYOUWA, TAISYOU, MEIZI",
   "337F SQUARE: CORPORATION, PA AMPS, NA",
   "3382 SQUARE: MU A, MA, KA, KB, MB, GB, CAL, KCAL, PF, NF, MU F, MU G, MG, KG, HZ, KHZ, MHZ",
   "3393 SQUARE: GHZ, THZ, MU L, ML, DL, KL, FM, NM, MU M, MM, CM, KM, MM SQUARED, CM SQUARED",
   "33A1 SQUARE: M SQUARED, KM SQUARED, MM CUBED, CM CUBED, M CUBED, KM CUBED, M OVER S",
   "33A8 SQUARE: M OVER S SQUARED, PA, KPA, MPA, GPA, RAD, RAD OVER S, RAD OVER S SQUARED, PS, NS",
   "33B2 SQUARE: MU S, MS, PV, NV, MU V, MV, KV, MV MEGA, PW, NW, MU W, MW, KW, MW MEGA, K OHM",
   "33C1 SQUARE: M OHM, AM, BQ, CC, CD, C OVER KG, CO, DB, GY, HA, HP, IN, KK, KM CAPITAL, KT, LM",
   "33D1 SQUARE: LN, LOG, LX, MB SMALL, MIL, MOL, PH, PM, PPM, PR, SR, SV, WB, V OVER M, A OVER M",
   "33E0 IDEOGRAPHIC TELEGRAPH SYMBOL FOR DAY: ONE, TWO, THREE, FOUR, FIVE, SIX, SEVEN, EIGHT",
   "33E8 IDEOGRAPHIC TELEGRAPH SYMBOL FOR DAY: NINE, TEN, ELEVEN, TWELVE, THIRTEEN, FOURTEEN",
   "33EE IDEOGRAPHIC TELEGRAPH SYMBOL FOR DAY: FIFTEEN, SIXTEEN, SEVENTEEN, EIGHTEEN, NINETEEN",
   "33F3 IDEOGRAPHIC TELEGRAPH SYMBOL FOR DAY: TWENTY, TWENTY-ONE, TWENTY-TWO, TWENTY-THREE",
   "33F7 IDEOGRAPHIC TELEGRAPH SYMBOL FOR DAY: TWENTY-FOUR, TWENTY-FIVE, TWENTY-SIX, TWENTY-SEVEN",
   "33FB IDEOGRAPHIC TELEGRAPH SYMBOL FOR DAY: TWENTY-EIGHT, TWENTY-NINE, THIRTY, THIRTY-ONE",
   "33FF SQUARE GAL",
   "4DC0 HEXAGRAM FOR THE: CREATIVE HEAVEN, RECEPTIVE EARTH",
   "4DC2 HEXAGRAM FOR: DIFFICULTY AT THE BEGINNING, YOUTHFUL FOLLY, WAITING, CONFLICT, THE ARMY",
   "4DC7 HEXAGRAM FOR: HOLDING TOGETHER, SMALL TAMING, TREADING, PEACE, STANDSTILL, FELLOWSHIP",
   "4DCD HEXAGRAM FOR: GREAT POSSESSION, MODESTY, ENTHUSIASM, FOLLOWING, WORK ON THE DECAYED",
   "4DD2 HEXAGRAM FOR: APPROACH, CONTEMPLATION, BITING THROUGH, GRACE, SPLITTING APART",
   "4DD7 HEXAGRAM FOR: RETURN, INNOCENCE, GREAT TAMING, MOUTH CORNERS, GREAT PREPONDERANCE",
   "4DDC HEXAGRAM FOR: THE ABYSMAL WATER, THE CLINGING FIRE, INFLUENCE, DURATION, RETREAT",
   "4DE1 HEXAGRAM FOR: GREAT POWER, PROGRESS, DARKENING OF THE LIGHT, THE FAMILY, OPPOSITION",
   "4DE6 HEXAGRAM FOR: OBSTRUCTION, DELIVERANCE, DECREASE, INCREASE, BREAKTHROUGH, COMING TO MEET",
   "4DEC HEXAGRAM FOR: GATHERING TOGETHER, PUSHING UPWARD, OPPRESSION, THE WELL, REVOLUTION",
   "4DF1 HEXAGRAM FOR THE: CAULDRON, AROUSING THUNDER, KEEPING STILL MOUNTAIN",
   "4DF4 HEXAGRAM FOR: DEVELOPMENT, THE MARRYING MAIDEN, ABUNDANCE",
   "4DF7 HEXAGRAM FOR: THE WANDERER, THE GENTLE WIND, THE JOYOUS LAKE, DISPERSION, LIMITATION",
   "4DFC HEXAGRAM FOR: INNER TRUTH, SMALL PREPONDERANCE, AFTER COMPLETION, BEFORE COMPLETION",
   "A000 YI SYLLABLE: IT, IX, I, IP, IET, IEX, IE, IEP, AT, AX, A, AP, UOX, UO, UOP, OT",
   "A010 YI SYLLABLE: OX, O, OP, EX, E, WU, BIT, BIX, BI, BIP, BIET, BIEX, BIE, BIEP, BAT, BAX",
   "A020 YI SYLLABLE: BA, BAP, BUOX, BUO, BUOP, BOT, BOX, BO, BOP, BEX, BE, BEP, BUT, BUX, BU",
   "A02F YI SYLLABLE: BUP, BURX, BUR, BYT, BYX, BY, BYP, BYRX, BYR, PIT, PIX, PI, PIP, PIEX, PIE",
   "A03E YI SYLLABLE: PIEP, PAT, PAX, PA, PAP, PUOX, PUO, PUOP, POT, POX, PO, POP, PUT, PUX, PU",
   "A04D YI SYLLABLE: PUP, PURX, PUR, PYT, PYX, PY, PYP, PYRX, PYR, BBIT, BBIX, BBI, BBIP, BBIET",
   "A05B YI SYLLABLE: BBIEX, BBIE, BBIEP, BBAT, BBAX, BBA, BBAP, BBUOX, BBUO, BBUOP, BBOT, BBOX",
   "A067 YI SYLLABLE: BBO, BBOP, BBEX, BBE, BBEP, BBUT, BBUX, BBU, BBUP, BBURX, BBUR, BBYT, BBYX",
   "A074 YI SYLLABLE: BBY, BBYP, NBIT, NBIX, NBI, NBIP, NBIEX, NBIE, NBIEP, NBAT, NBAX, NBA, NBAP",
   "A081 YI SYLLABLE: NBOT, NBOX, NBO, NBOP, NBUT, NBUX, NBU, NBUP, NBURX, NBUR, NBYT, NBYX, NBY",
   "A08E YI SYLLABLE: NBYP, NBYRX, NBYR, HMIT, HMIX, HMI, HMIP, HMIEX, HMIE, HMIEP, HMAT, HMAX",
   "A09A YI SYLLABLE: HMA, HMAP, HMUOX, HMUO, HMUOP, HMOT, HMOX, HMO, HMOP, HMUT, HMUX, HMU, HMUP",
   "A0A7 YI SYLLABLE HMURX",
   "A0A8 YI SYLLABLE: HMUR, HMYX, HMY, HMYP, HMYRX, HMYR, MIT, MIX, MI, MIP, MIEX, MIE, MIEP, MAT",
   "A0B6 YI SYLLABLE: MAX, MA, MAP, MUOT, MUOX, MUO, MUOP, MOT, MOX, MO, MOP, MEX, ME, MUT, MUX",
   "A0C5 YI SYLLABLE: MU, MUP, MURX, MUR, MYT, MYX, MY, MYP, FIT, FIX, FI, FIP, FAT, FAX, FA, FAP",
   "A0D5 YI SYLLABLE: FOX, FO, FOP, FUT, FUX, FU, FUP, FURX, FUR, FYT, FYX, FY, FYP, VIT, VIX, VI",
   "A0E5 YI SYLLABLE: VIP, VIET, VIEX, VIE, VIEP, VAT, VAX, VA, VAP, VOT, VOX, VO, VOP, VEX, VEP",
   "A0F4 YI SYLLABLE: VUT, VUX, VU, VUP, VURX, VUR, VYT, VYX, VY, VYP, VYRX, VYR, DIT, DIX, DI",
   "A103 YI SYLLABLE: DIP, DIEX, DIE, DIEP, DAT, DAX, DA, DAP, DUOX, DUO, DOT, DOX, DO, DOP, DEX",
   "A112 YI SYLLABLE: DE, DEP, DUT, DUX, DU, DUP, DURX, DUR, TIT, TIX, TI, TIP, TIEX, TIE, TIEP",
   "A121 YI SYLLABLE: TAT, TAX, TA, TAP, TUOT, TUOX, TUO, TUOP, TOT, TOX, TO, TOP, TEX, TE, TEP",
   "A130 YI SYLLABLE: TUT, TUX, TU, TUP, TURX, TUR, DDIT, DDIX, DDI, DDIP, DDIEX, DDIE, DDIEP",
   "A13D YI SYLLABLE: DDAT, DDAX, DDA, DDAP, DDUOX, DDUO, DDUOP, DDOT, DDOX, DDO, DDOP, DDEX",
   "A149 YI SYLLABLE: DDE, DDEP, DDUT, DDUX, DDU, DDUP, DDURX, DDUR, NDIT, NDIX, NDI, NDIP, NDIEX",
   "A156 YI SYLLABLE: NDIE, NDAT, NDAX, NDA, NDAP, NDOT, NDOX, NDO, NDOP, NDEX, NDE, NDEP, NDUT",
   "A163 YI SYLLABLE: NDUX, NDU, NDUP, NDURX, NDUR, HNIT, HNIX, HNI, HNIP, HNIET, HNIEX, HNIE",
   "A16F YI SYLLABLE: HNIEP, HNAT, HNAX, HNA, HNAP, HNUOX, HNUO, HNOT, HNOX, HNOP, HNEX, HNE",
   "A17B YI SYLLABLE: HNEP, HNUT, NIT, NIX, NI, NIP, NIEX, NIE, NIEP, NAX, NA, NAP, NUOX, NUO",
   "A189 YI SYLLABLE: NUOP, NOT, NOX, NO, NOP, NEX, NE, NEP, NUT, NUX, NU, NUP, NURX, NUR, HLIT",
   "A198 YI SYLLABLE: HLIX, HLI, HLIP, HLIEX, HLIE, HLIEP, HLAT, HLAX, HLA, HLAP, HLUOX, HLUO",
   "A1A4 YI SYLLABLE: HLUOP, HLOX, HLO, HLOP, HLEX, HLE, HLEP, HLUT, HLUX, HLU, HLUP, HLURX, HLUR",
   "A1B1 YI SYLLABLE: HLYT, HLYX, HLY, HLYP, HLYRX, HLYR, LIT, LIX, LI, LIP, LIET, LIEX, LIE",
   "A1BE YI SYLLABLE: LIEP, LAT, LAX, LA, LAP, LUOT, LUOX, LUO, LUOP, LOT, LOX, LO, LOP, LEX, LE",
   "A1CD YI SYLLABLE: LEP, LUT, LUX, LU, LUP, LURX, LUR, LYT, LYX, LY, LYP, LYRX, LYR, GIT, GIX",
   "A1DC YI SYLLABLE: GI, GIP, GIET, GIEX, GIE, GIEP, GAT, GAX, GA, GAP, GUOT, GUOX, GUO, GUOP",
   "A1EA YI SYLLABLE: GOT, GOX, GO, GOP, GET, GEX, GE, GEP, GUT, GUX, GU, GUP, GURX, GUR, KIT",
   "A1F9 YI SYLLABLE: KIX, KI, KIP, KIEX, KIE, KIEP, KAT, KAX, KA, KAP, KUOX, KUO, KUOP, KOT, KOX",
   "A208 YI SYLLABLE: KO, KOP, KET, KEX, KE, KEP, KUT, KUX, KU, KUP, KURX, KUR, GGIT, GGIX, GGI",
   "A217 YI SYLLABLE: GGIEX, GGIE, GGIEP, GGAT, GGAX, GGA, GGAP, GGUOT, GGUOX, GGUO, GGUOP, GGOT",
   "A223 YI SYLLABLE: GGOX, GGO, GGOP, GGET, GGEX, GGE, GGEP, GGUT, GGUX, GGU, GGUP, GGURX, GGUR",
   "A230 YI SYLLABLE: MGIEX, MGIE, MGAT, MGAX, MGA, MGAP, MGUOX, MGUO, MGUOP, MGOT, MGOX, MGO",
   "A23C YI SYLLABLE: MGOP, MGEX, MGE, MGEP, MGUT, MGUX, MGU, MGUP, MGURX, MGUR, HXIT, HXIX, HXI",
   "A249 YI SYLLABLE: HXIP, HXIET, HXIEX, HXIE, HXIEP, HXAT, HXAX, HXA, HXAP, HXUOT, HXUOX, HXUO",
   "A255 YI SYLLABLE: HXUOP, HXOT, HXOX, HXO, HXOP, HXEX, HXE, HXEP, NGIEX, NGIE, NGIEP, NGAT",
   "A261 YI SYLLABLE: NGAX, NGA, NGAP, NGUOT, NGUOX, NGUO, NGOT, NGOX, NGO, NGOP, NGEX, NGE, NGEP",
   "A26E YI SYLLABLE: HIT, HIEX, HIE, HAT, HAX, HA, HAP, HUOT, HUOX, HUO, HUOP, HOT, HOX, HO, HOP",
   "A27D YI SYLLABLE: HEX, HE, HEP, WAT, WAX, WA, WAP, WUOX, WUO, WUOP, WOX, WO, WOP, WEX, WE",
   "A28C YI SYLLABLE: WEP, ZIT, ZIX, ZI, ZIP, ZIEX, ZIE, ZIEP, ZAT, ZAX, ZA, ZAP, ZUOX, ZUO, ZUOP",
   "A29B YI SYLLABLE: ZOT, ZOX, ZO, ZOP, ZEX, ZE, ZEP, ZUT, ZUX, ZU, ZUP, ZURX, ZUR, ZYT, ZYX, ZY",
   "A2AB YI SYLLABLE: ZYP, ZYRX, ZYR, CIT, CIX, CI, CIP, CIET, CIEX, CIE, CIEP, CAT, CAX, CA, CAP",
   "A2BA YI SYLLABLE: CUOX, CUO, CUOP, COT, COX, CO, COP, CEX, CE, CEP, CUT, CUX, CU, CUP, CURX",
   "A2C9 YI SYLLABLE: CUR, CYT, CYX, CY, CYP, CYRX, CYR, ZZIT, ZZIX, ZZI, ZZIP, ZZIET, ZZIEX",
   "A2D6 YI SYLLABLE: ZZIE, ZZIEP, ZZAT, ZZAX, ZZA, ZZAP, ZZOX, ZZO, ZZOP, ZZEX, ZZE, ZZEP, ZZUX",
   "A2E3 YI SYLLABLE: ZZU, ZZUP, ZZURX, ZZUR, ZZYT, ZZYX, ZZY, ZZYP, ZZYRX, ZZYR, NZIT, NZIX, NZI",
   "A2F0 YI SYLLABLE: NZIP, NZIEX, NZIE, NZIEP, NZAT, NZAX, NZA, NZAP, NZUOX, NZUO, NZOX, NZOP",
   "A2FC YI SYLLABLE: NZEX, NZE, NZUX, NZU, NZUP, NZURX, NZUR, NZYT, NZYX, NZY, NZYP, NZYRX, NZYR",
   "A309 YI SYLLABLE: SIT, SIX, SI, SIP, SIEX, SIE, SIEP, SAT, SAX, SA, SAP, SUOX, SUO, SUOP, SOT",
   "A318 YI SYLLABLE: SOX, SO, SOP, SEX, SE, SEP, SUT, SUX, SU, SUP, SURX, SUR, SYT, SYX, SY, SYP",
   "A328 YI SYLLABLE: SYRX, SYR, SSIT, SSIX, SSI, SSIP, SSIEX, SSIE, SSIEP, SSAT, SSAX, SSA, SSAP",
   "A335 YI SYLLABLE: SSOT, SSOX, SSO, SSOP, SSEX, SSE, SSEP, SSUT, SSUX, SSU, SSUP, SSYT, SSYX",
   "A342 YI SYLLABLE: SSY, SSYP, SSYRX, SSYR, ZHAT, ZHAX, ZHA, ZHAP, ZHUOX, ZHUO, ZHUOP, ZHOT",
   "A34E YI SYLLABLE: ZHOX, ZHO, ZHOP, ZHET, ZHEX, ZHE, ZHEP, ZHUT, ZHUX, ZHU, ZHUP, ZHURX, ZHUR",
   "A35B YI SYLLABLE: ZHYT, ZHYX, ZHY, ZHYP, ZHYRX, ZHYR, CHAT, CHAX, CHA, CHAP, CHUOT, CHUOX",
   "A367 YI SYLLABLE: CHUO, CHUOP, CHOT, CHOX, CHO, CHOP, CHET, CHEX, CHE, CHEP, CHUX, CHU, CHUP",
   "A374 YI SYLLABLE: CHURX, CHUR, CHYT, CHYX, CHY, CHYP, CHYRX, CHYR, RRAX, RRA, RRUOX, RRUO",
   "A380 YI SYLLABLE: RROT, RROX, RRO, RROP, RRET, RREX, RRE, RREP, RRUT, RRUX, RRU, RRUP, RRURX",
   "A38D YI SYLLABLE: RRUR, RRYT, RRYX, RRY, RRYP, RRYRX, RRYR, NRAT, NRAX, NRA, NRAP, NROX, NRO",
   "A39A YI SYLLABLE: NROP, NRET, NREX, NRE, NREP, NRUT, NRUX, NRU, NRUP, NRURX, NRUR, NRYT, NRYX",
   "A3A7 YI SYLLABLE: NRY, NRYP, NRYRX, NRYR, SHAT, SHAX, SHA, SHAP, SHUOX, SHUO, SHUOP, SHOT",
   "A3B3 YI SYLLABLE: SHOX, SHO, SHOP, SHET, SHEX, SHE, SHEP, SHUT, SHUX, SHU, SHUP, SHURX, SHUR",
   "A3C0 YI SYLLABLE: SHYT, SHYX, SHY, SHYP, SHYRX, SHYR, RAT, RAX, RA, RAP, RUOX, RUO, RUOP",
   "A3CD YI SYLLABLE: ROT, ROX, RO, ROP, REX, RE, REP, RUT, RUX, RU, RUP, RURX, RUR, RYT, RYX, RY",
   "A3DD YI SYLLABLE: RYP, RYRX, RYR, JIT, JIX, JI, JIP, JIET, JIEX, JIE, JIEP, JUOT, JUOX, JUO",
   "A3EB YI SYLLABLE: JUOP, JOT, JOX, JO, JOP, JUT, JUX, JU, JUP, JURX, JUR, JYT, JYX, JY, JYP",
   "A3FA YI SYLLABLE: JYRX, JYR, QIT, QIX, QI, QIP, QIET, QIEX, QIE, QIEP, QUOT, QUOX, QUO, QUOP",
   "A408 YI SYLLABLE: QOT, QOX, QO, QOP, QUT, QUX, QU, QUP, QURX, QUR, QYT, QYX, QY, QYP, QYRX",
   "A417 YI SYLLABLE: QYR, JJIT, JJIX, JJI, JJIP, JJIET, JJIEX, JJIE, JJIEP, JJUOX, JJUO, JJUOP",
   "A423 YI SYLLABLE: JJOT, JJOX, JJO, JJOP, JJUT, JJUX, JJU, JJUP, JJURX, JJUR, JJYT, JJYX, JJY",
   "A430 YI SYLLABLE: JJYP, NJIT, NJIX, NJI, NJIP, NJIET, NJIEX, NJIE, NJIEP, NJUOX, NJUO, NJOT",
   "A43C YI SYLLABLE: NJOX, NJO, NJOP, NJUX, NJU, NJUP, NJURX, NJUR, NJYT, NJYX, NJY, NJYP, NJYRX",
   "A449 YI SYLLABLE: NJYR, NYIT, NYIX, NYI, NYIP, NYIET, NYIEX, NYIE, NYIEP, NYUOX, NYUO, NYUOP",
   "A455 YI SYLLABLE: NYOT, NYOX, NYO, NYOP, NYUT, NYUX, NYU, NYUP, XIT, XIX, XI, XIP, XIET",
   "A462 YI SYLLABLE: XIEX, XIE, XIEP, XUOX, XUO, XOT, XOX, XO, XOP, XYT, XYX, XY, XYP, XYRX",
   "A470 YI SYLLABLE: XYR, YIT, YIX, YI, YIP, YIET, YIEX, YIE, YIEP, YUOT, YUOX, YUO, YUOP, YOT",
   "A47E YI SYLLABLE: YOX, YO, YOP, YUT, YUX, YU, YUP, YURX, YUR, YYT, YYX, YY, YYP, YYRX, YYR",
   "A490 YI RADICAL: QOT, LI, KIT, NYIP, CYP, SSI, GGOP, GEP, MI, HXIT, LYR",
   "A49B YI RADICAL: BBUT, MOP, YO, PUT, HXUO, TAT, GA, ZUP, CYT, DDUR, BUR, GGUO, NYOP, TU, OP",
   "A4AA YI RADICAL: JJUT, ZOT, PYT, HMO, YIT, VUR, SHY, VEP, ZA, JO, NZUP, JJY, GOT, JJIE, WO",
   "A4B9 YI RADICAL: DU, SHUR, LIE, CY, CUOP, CIP, HXOP, SHAT, ZUR, SHOP, CHE, ZZIET, NBIE, KE",
   "A4D0 LISU LETTER: BA, PA, PHA, DA, TA, THA, GA, KA, KHA, JA",
   "A4DA LISU LETTER: CA, CHA, DZA, TSA, TSHA, MA, NA, LA, SA, ZHA, ZA, NGA, HA, XA, HHA, FA, WA",
   "A4EB LISU LETTER: SHA, YA, GHA, A, AE, E, EU, I, O, U, UE, UH, OE, TONE MYA TI, TONE NA PO",
   "A4FA LISU LETTER TONE MYA: CYA, BO, NA, JEU",
   "A4FE LISU PUNCTUATION: COMMA, FULL STOP",
   "A500 VAI SYLLABLE: EE, EEN, HEE, WEE, WEEN, PEE, BHEE",
   "A507 VAI SYLLABLE: BEE, MBEE, KPEE, MGBEE, GBEE, FEE, VEE, TEE, THEE, DHEE, DHHEE, LEE, REE",
   "A514 VAI SYLLABLE: DEE, NDEE, SEE, SHEE, ZEE, ZHEE, CEE, JEE, NJEE, YEE, KEE, NGGEE, GEE, MEE",
   "A522 VAI SYLLABLE: NEE, NYEE, I, IN, HI, HIN, WI, WIN, PI, BHI, BI, MBI, KPI, MGBI, GBI, FI",
   "A532 VAI SYLLABLE: VI, TI, THI, DHI, DHHI, LI, RI, DI, NDI, SI, SHI, ZI, ZHI, CI, JI, NJI, YI",
   "A543 VAI SYLLABLE: KI, NGGI, GI, MI, NI, NYI, A, AN, NGAN, HA, HAN, WA, WAN, PA, BHA, BA, MBA",
   "A554 VAI SYLLABLE: KPA, KPAN, MGBA, GBA, FA, VA, TA, THA, DHA, DHHA, LA, RA, DA, NDA, SA, SHA",
   "A564 VAI SYLLABLE: ZA, ZHA, CA, JA, NJA, YA, KA, KAN, NGGA, GA, MA, NA, NYA, OO, OON, HOO",
   "A574 VAI SYLLABLE: WOO, WOON, POO, BHOO, BOO, MBOO, KPOO, MGBOO, GBOO, FOO, VOO, TOO, THOO",
   "A581 VAI SYLLABLE: DHOO, DHHOO, LOO, ROO, DOO, NDOO, SOO, SHOO, ZOO, ZHOO, COO, JOO, NJOO",
   "A58E VAI SYLLABLE: YOO, KOO, NGGOO, GOO, MOO, NOO, NYOO, U, UN, HU, HUN, WU, WUN, PU, BHU",
   "A59D VAI SYLLABLE: BU, MBU, KPU, MGBU, GBU, FU, VU, TU, THU, DHU, DHHU, LU, RU, DU, NDU, SU",
   "A5AD VAI SYLLABLE: SHU, ZU, ZHU, CU, JU, NJU, YU, KU, NGGU, GU, MU, NU, NYU, O, ON, NGON, HO",
   "A5BE VAI SYLLABLE: HON, WO, WON, PO, BHO, BO, MBO, KPO, MGBO, GBO, GBON, FO, VO, TO, THO, DHO",
   "A5CE VAI SYLLABLE: DHHO, LO, RO, DO, NDO, SO, SHO, ZO, ZHO, CO, JO, NJO, YO, KO, NGGO, GO, MO",
   "A5DF VAI SYLLABLE: NO, NYO, E, EN, NGEN, HE, HEN, WE, WEN, PE, BHE, BE, MBE, KPE, KPEN, MGBE",
   "A5EF VAI SYLLABLE: GBE, GBEN, FE, VE, TE, THE, DHE, DHHE, LE, RE, DE, NDE, SE, SHE, ZE, ZHE",
   "A5FF VAI SYLLABLE: CE, JE, NJE, YE, KE, NGGE, NGGEN, GE, GEN, ME, NE, NYE, NG, LENGTHENER",
   "A60D VAI: COMMA, FULL STOP, QUESTION MARK",
   "A610 VAI SYLLABLE NDOLE: FA, KA, SOO",
   "A613 VAI SYMBOL: FEENG, KEENG, TING, NII, BANG, FAA, TAA, DANG, DOONG, KUNG, TONG, DO-O, JONG",
   "A620 VAI DIGIT: ZERO, ONE, TWO, THREE, FOUR, FIVE, SIX, SEVEN, EIGHT, NINE",
   "A62A VAI SYLLABLE NDOLE: MA, DO",
   "A640 CYRILLIC: CAPITAL LETTER ZEMLYA, SMALL LETTER ZEMLYA, CAPITAL LETTER DZELO",
   "A643 CYRILLIC: SMALL LETTER DZELO, CAPITAL LETTER REVERSED DZE, SMALL LETTER REVERSED DZE",
   "A646 CYRILLIC: CAPITAL LETTER IOTA, SMALL LETTER IOTA, CAPITAL LETTER DJERV",
   "A649 CYRILLIC: SMALL LETTER DJERV, CAPITAL LETTER MONOGRAPH UK, SMALL LETTER MONOGRAPH UK",
   "A64C CYRILLIC CAPITAL LETTER BROAD OMEGA",
   "A64D CYRILLIC: SMALL LETTER BROAD OMEGA, CAPITAL LETTER NEUTRAL YER, SMALL LETTER NEUTRAL YER",
   "A650 CYRILLIC CAPITAL LETTER YERU WITH BACK YER",
   "A651 CYRILLIC: SMALL LETTER YERU WITH BACK YER, CAPITAL LETTER IOTIFIED YAT",
   "A653 CYRILLIC: SMALL LETTER IOTIFIED YAT, CAPITAL LETTER REVERSED YU",
   "A655 CYRILLIC: SMALL LETTER REVERSED YU, CAPITAL LETTER IOTIFIED A, SMALL LETTER IOTIFIED A",
   "A658 CYRILLIC CAPITAL LETTER CLOSED LITTLE YUS",
   "A659 CYRILLIC: SMALL LETTER CLOSED LITTLE YUS, CAPITAL LETTER BLENDED YUS",
   "A65B CYRILLIC: SMALL LETTER BLENDED YUS, CAPITAL LETTER IOTIFIED CLOSED LITTLE YUS",
   "A65D CYRILLIC: SMALL LETTER IOTIFIED CLOSED LITTLE YUS, CAPITAL LETTER YN, SMALL LETTER YN",
   "A660 CYRILLIC: CAPITAL LETTER REVERSED TSE, SMALL LETTER REVERSED TSE, CAPITAL LETTER SOFT DE",
   "A663 CYRILLIC: SMALL LETTER SOFT DE, CAPITAL LETTER SOFT EL, SMALL LETTER SOFT EL",
   "A666 CYRILLIC: CAPITAL LETTER SOFT EM, SMALL LETTER SOFT EM, CAPITAL LETTER MONOCULAR O",
   "A669 CYRILLIC: SMALL LETTER MONOCULAR O, CAPITAL LETTER BINOCULAR O, SMALL LETTER BINOCULAR O",
   "A66C CYRILLIC CAPITAL LETTER DOUBLE MONOCULAR O",
   "A66D CYRILLIC: SMALL LETTER DOUBLE MONOCULAR O, LETTER MULTIOCULAR O",
   "A66F COMBINING CYRILLIC: VZMET, TEN MILLIONS SIGN, HUNDRED MILLIONS SIGN",
   "A672 COMBINING CYRILLIC THOUSAND MILLIONS SIGN, SLAVONIC ASTERISK",
   "A674 COMBINING CYRILLIC LETTER: UKRAINIAN IE, I, YI, U, HARD SIGN, YERU, SOFT SIGN, OMEGA",
   "A67C COMBINING CYRILLIC: KAVYKA, PAYEROK",
   "A67E CYRILLIC: KAVYKA, PAYEROK, CAPITAL LETTER DWE, SMALL LETTER DWE",
   "A682 CYRILLIC: CAPITAL LETTER DZWE, SMALL LETTER DZWE, CAPITAL LETTER ZHWE, SMALL LETTER ZHWE",
   "A686 CYRILLIC: CAPITAL LETTER CCHE, SMALL LETTER CCHE, CAPITAL LETTER DZZE, SMALL LETTER DZZE",
   "A68A CYRILLIC CAPITAL LETTER TE WITH MIDDLE HOOK",
   "A68B CYRILLIC: SMALL LETTER TE WITH MIDDLE HOOK, CAPITAL LETTER TWE, SMALL LETTER TWE",
   "A68E CYRILLIC: CAPITAL LETTER TSWE, SMALL LETTER TSWE, CAPITAL LETTER TSSE, SMALL LETTER TSSE",
   "A692 CYRILLIC: CAPITAL LETTER TCHE, SMALL LETTER TCHE, CAPITAL LETTER HWE, SMALL LETTER HWE",
   "A696 CYRILLIC: CAPITAL LETTER SHWE, SMALL LETTER SHWE, CAPITAL LETTER DOUBLE O",
   "A699 CYRILLIC: SMALL LETTER DOUBLE O, CAPITAL LETTER CROSSED O, SMALL LETTER CROSSED O",
   "A69C MODIFIER LETTER CYRILLIC: HARD SIGN, SOFT SIGN",
   "A69E COMBINING CYRILLIC LETTER: EF, IOTIFIED E",
   "A6A0 BAMUM LETTER: A, KA, U, KU, EE, REE, TAE, O, NYI, I, LA",
   "A6AB BAMUM LETTER: PA, RII, RIEE, LEEEE, MEEEE, TAA, NDAA, NJAEM, M, SUU, MU, SHII, SI, SHEUX",
   "A6B9 BAMUM LETTER: SEUX, KYEE, KET, NUAE, NU, NJUAE, YOQ, SHU, YUQ, YA, NSHA, KEUX, PEUX",
   "A6C6 BAMUM LETTER: NJEE, NTEE, PUE, WUE, PEE, FEE, RU, LU, MI, NI, REUX, RAE, KEN, NGKWAEN",
   "A6D4 BAMUM LETTER: NGGA, NGA, SHO, PUAE, FU, FOM, WA, NA, LI, PI, LOQ, KO, MBEN, REN, MEN",
   "A6E3 BAMUM LETTER: MA, TI, KI, MO, MBAA, TET, KPA, TEN, NTUU, SAMBA, FAAMAE, KOVUU, KOGHOM",
   "A6F0 BAMUM COMBINING MARK: KOQNDON, TUKWENTIS",
   "A6F2 BAMUM: NJAEMLI, FULL STOP, COLON, COMMA, SEMICOLON, QUESTION MARK",
   "A700 MODIFIER LETTER CHINESE TONE: YIN PING, YANG PING",
   "A702 MODIFIER LETTER CHINESE TONE: YIN SHANG, YANG SHANG, YIN QU, YANG QU, YIN RU, YANG RU",
   "A708 MODIFIER LETTER: EXTRA-HIGH DOTTED TONE BAR, HIGH DOTTED TONE BAR",
   "A70A MODIFIER LETTER: MID DOTTED TONE BAR, LOW DOTTED TONE BAR, EXTRA-LOW DOTTED TONE BAR",
   "A70D MODIFIER LETTER: EXTRA-HIGH DOTTED LEFT-STEM TONE BAR, HIGH DOTTED LEFT-STEM TONE BAR",
   "A70F MODIFIER LETTER: MID DOTTED LEFT-STEM TONE BAR, LOW DOTTED LEFT-STEM TONE BAR",
   "A711 MODIFIER LETTER: EXTRA-LOW DOTTED LEFT-STEM TONE BAR, EXTRA-HIGH LEFT-STEM TONE BAR",
   "A713 MODIFIER LETTER: HIGH LEFT-STEM TONE BAR, MID LEFT-STEM TONE BAR, LOW LEFT-STEM TONE BAR",
   "A716 MODIFIER LETTER: EXTRA-LOW LEFT-STEM TONE BAR, DOT VERTICAL BAR, DOT SLASH",
   "A719 MODIFIER LETTER: DOT HORIZONTAL BAR, LOWER RIGHT CORNER ANGLE, RAISED UP ARROW",
   "A71C MODIFIER LETTER RAISED: DOWN ARROW, EXCLAMATION MARK, INVERTED EXCLAMATION MARK",
   "A71F MODIFIER LETTER LOW INVERTED EXCLAMATION MARK",
   "A720 MODIFIER LETTER STRESS AND: HIGH TONE, LOW TONE",
   "A722 LATIN CAPITAL LETTER EGYPTOLOGICAL ALEF",
   "A723 LATIN: SMALL LETTER EGYPTOLOGICAL ALEF, CAPITAL LETTER EGYPTOLOGICAL AIN",
   "A725 LATIN: SMALL LETTER EGYPTOLOGICAL AIN, CAPITAL LETTER HENG",
   "A727 LATIN: SMALL LETTER HENG, CAPITAL LETTER TZ, SMALL LETTER TZ, CAPITAL LETTER TRESILLO",
   "A72B LATIN: SMALL LETTER TRESILLO, CAPITAL LETTER CUATRILLO, SMALL LETTER CUATRILLO",
   "A72E LATIN: CAPITAL LETTER CUATRILLO WITH COMMA, SMALL LETTER CUATRILLO WITH COMMA",
   "A730 LATIN LETTER SMALL CAPITAL: F, S",
   "A732 LATIN: CAPITAL LETTER AA, SMALL LETTER AA, CAPITAL LETTER AO, SMALL LETTER AO",
   "A736 LATIN: CAPITAL LETTER AU, SMALL LETTER AU, CAPITAL LETTER AV, SMALL LETTER AV",
   "A73A LATIN CAPITAL LETTER AV WITH HORIZONTAL BAR",
   "A73B LATIN: SMALL LETTER AV WITH HORIZONTAL BAR, CAPITAL LETTER AY, SMALL LETTER AY",
   "A73E LATIN: CAPITAL LETTER REVERSED C WITH DOT, SMALL LETTER REVERSED C WITH DOT",
   "A740 LATIN: CAPITAL LETTER K WITH STROKE, SMALL LETTER K WITH STROKE",
   "A742 LATIN: CAPITAL LETTER K WITH DIAGONAL STROKE, SMALL LETTER K WITH DIAGONAL STROKE",
   "A744 LATIN CAPITAL LETTER K WITH STROKE AND DIAGONAL STROKE",
   "A745 LATIN SMALL LETTER K WITH STROKE AND DIAGONAL STROKE",
   "A746 LATIN: CAPITAL LETTER BROKEN L, SMALL LETTER BROKEN L, CAPITAL LETTER L WITH HIGH STROKE",
   "A749 LATIN: SMALL LETTER L WITH HIGH STROKE, CAPITAL LETTER O WITH LONG STROKE OVERLAY",
   "A74B LATIN SMALL LETTER O WITH LONG STROKE OVERLAY",
   "A74C LATIN: CAPITAL LETTER O WITH LOOP, SMALL LETTER O WITH LOOP, CAPITAL LETTER OO",
   "A74F LATIN: SMALL LETTER OO, CAPITAL LETTER P WITH STROKE THROUGH DESCENDER",
   "A751 LATIN: SMALL LETTER P WITH STROKE THROUGH DESCENDER, CAPITAL LETTER P WITH FLOURISH",
   "A753 LATIN: SMALL LETTER P WITH FLOURISH, CAPITAL LETTER P WITH SQUIRREL TAIL",
   "A755 LATIN: SMALL LETTER P WITH SQUIRREL TAIL, CAPITAL LETTER Q WITH STROKE THROUGH DESCENDER",
   "A757 LATIN SMALL LETTER Q WITH STROKE THROUGH DESCENDER",
   "A758 LATIN: CAPITAL LETTER Q WITH DIAGONAL STROKE, SMALL LETTER Q WITH DIAGONAL STROKE",
   "A75A LATIN: CAPITAL LETTER R ROTUNDA, SMALL LETTER R ROTUNDA, CAPITAL LETTER RUM ROTUNDA",
   "A75D LATIN: SMALL LETTER RUM ROTUNDA, CAPITAL LETTER V WITH DIAGONAL STROKE",
   "A75F LATIN: SMALL LETTER V WITH DIAGONAL STROKE, CAPITAL LETTER VY",
   "A761 LATIN: SMALL LETTER VY, CAPITAL LETTER VISIGOTHIC Z, SMALL LETTER VISIGOTHIC Z",
   "A764 LATIN: CAPITAL LETTER THORN WITH STROKE, SMALL LETTER THORN WITH STROKE",
   "A766 LATIN CAPITAL LETTER THORN WITH STROKE THROUGH DESCENDER",
   "A767 LATIN SMALL LETTER THORN WITH STROKE THROUGH DESCENDER",
   "A768 LATIN: CAPITAL LETTER VEND, SMALL LETTER VEND, CAPITAL LETTER ET, SMALL LETTER ET",
   "A76C LATIN: CAPITAL LETTER IS, SMALL LETTER IS, CAPITAL LETTER CON, SMALL LETTER CON",
   "A770 MODIFIER LETTER US",
   "A771 LATIN SMALL LETTER: DUM, LUM, MUM, NUM, RUM",
   "A776 LATIN: LETTER SMALL CAPITAL RUM, SMALL LETTER TUM, SMALL LETTER UM",
   "A779 LATIN: CAPITAL LETTER INSULAR D, SMALL LETTER INSULAR D, CAPITAL LETTER INSULAR F",
   "A77C LATIN: SMALL LETTER INSULAR F, CAPITAL LETTER INSULAR G, CAPITAL LETTER TURNED INSULAR G",
   "A77F LATIN: SMALL LETTER TURNED INSULAR G, CAPITAL LETTER TURNED L, SMALL LETTER TURNED L",
   "A782 LATIN: CAPITAL LETTER INSULAR R, SMALL LETTER INSULAR R, CAPITAL LETTER INSULAR S",
   "A785 LATIN: SMALL LETTER INSULAR S, CAPITAL LETTER INSULAR T, SMALL LETTER INSULAR T",
   "A788 MODIFIER LETTER: LOW CIRCUMFLEX ACCENT, COLON, SHORT EQUALS SIGN",
   "A78B LATIN: CAPITAL LETTER SALTILLO, SMALL LETTER SALTILLO, CAPITAL LETTER TURNED H",
   "A78E LATIN SMALL LETTER L WITH RETROFLEX HOOK AND BELT",
   "A78F LATIN: LETTER SINOLOGICAL DOT, CAPITAL LETTER N WITH DESCENDER",
   "A791 LATIN: SMALL LETTER N WITH DESCENDER, CAPITAL LETTER C WITH BAR",
   "A793 LATIN SMALL LETTER: C WITH BAR, C WITH PALATAL HOOK, H WITH PALATAL HOOK",
   "A796 LATIN: CAPITAL LETTER B WITH FLOURISH, SMALL LETTER B WITH FLOURISH",
   "A798 LATIN: CAPITAL LETTER F WITH STROKE, SMALL LETTER F WITH STROKE",
   "A79A LATIN: CAPITAL LETTER VOLAPUK AE, SMALL LETTER VOLAPUK AE, CAPITAL LETTER VOLAPUK OE",
   "A79D LATIN: SMALL LETTER VOLAPUK OE, CAPITAL LETTER VOLAPUK UE, SMALL LETTER VOLAPUK UE",
   "A7A0 LATIN: CAPITAL LETTER G WITH OBLIQUE STROKE, SMALL LETTER G WITH OBLIQUE STROKE",
   "A7A2 LATIN: CAPITAL LETTER K WITH OBLIQUE STROKE, SMALL LETTER K WITH OBLIQUE STROKE",
   "A7A4 LATIN: CAPITAL LETTER N WITH OBLIQUE STROKE, SMALL LETTER N WITH OBLIQUE STROKE",
   "A7A6 LATIN: CAPITAL LETTER R WITH OBLIQUE STROKE, SMALL LETTER R WITH OBLIQUE STROKE",
   "A7A8 LATIN: CAPITAL LETTER S WITH OBLIQUE STROKE, SMALL LETTER S WITH OBLIQUE STROKE",
   "A7AA LATIN CAPITAL LETTER: H WITH HOOK, REVERSED OPEN E, SCRIPT G, L WITH BELT",
   "A7AE LATIN: CAPITAL LETTER SMALL CAPITAL I, LETTER SMALL CAPITAL Q",
   "A7B0 LATIN CAPITAL LETTER: TURNED K, TURNED T, J WITH CROSSED-TAIL, CHI, BETA",
   "A7B5 LATIN SMALL LETTER BETA",
   "A7B6 LATIN: CAPITAL LETTER OMEGA, SMALL LETTER OMEGA, CAPITAL LETTER U WITH STROKE",
   "A7B9 LATIN: SMALL LETTER U WITH STROKE, CAPITAL LETTER GLOTTAL A",
   "A7BB LATIN: SMALL LETTER GLOTTAL A, CAPITAL LETTER GLOTTAL I, SMALL LETTER GLOTTAL I",
   "A7BE LATIN: CAPITAL LETTER GLOTTAL U, SMALL LETTER GLOTTAL U, CAPITAL LETTER OLD POLISH O",
   "A7C1 LATIN: SMALL LETTER OLD POLISH O, CAPITAL LETTER ANGLICANA W, SMALL LETTER ANGLICANA W",
   "A7C4 LATIN CAPITAL LETTER C WITH PALATAL HOOK",
   "A7C5 LATIN CAPITAL LETTER: S WITH HOOK, Z WITH PALATAL HOOK, D WITH SHORT STROKE OVERLAY",
   "A7C8 LATIN SMALL LETTER D WITH SHORT STROKE OVERLAY",
   "A7C9 LATIN CAPITAL LETTER S WITH SHORT STROKE OVERLAY",
   "A7CA LATIN SMALL LETTER S WITH SHORT STROKE OVERLAY",
   "A7D0 LATIN: CAPITAL LETTER CLOSED INSULAR G, SMALL LETTER CLOSED INSULAR G",
   "A7D3 LATIN SMALL LETTER DOUBLE THORN",
   "A7D5 LATIN: SMALL LETTER DOUBLE WYNN, CAPITAL LETTER MIDDLE SCOTS S",
   "A7D7 LATIN: SMALL LETTER MIDDLE SCOTS S, CAPITAL LETTER SIGMOID S, SMALL LETTER SIGMOID S",
   "A7F2 MODIFIER LETTER CAPITAL: C, F, Q",
   "A7F5 LATIN CAPITAL LETTER REVERSED HALF H",
   "A7F6 LATIN: SMALL LETTER REVERSED HALF H, EPIGRAPHIC LETTER SIDEWAYS I",
   "A7F8 MODIFIER LETTER: CAPITAL H WITH STROKE, SMALL LIGATURE OE",
   "A7FA LATIN LETTER SMALL CAPITAL TURNED M",
   "A7FB LATIN EPIGRAPHIC LETTER: REVERSED F, REVERSED P, INVERTED M, I LONGA, ARCHAIC M",
   "A800 SYLOTI NAGRI: LETTER A, LETTER I, SIGN DVISVARA, LETTER U, LETTER E, LETTER O",
   "A806 SYLOTI NAGRI: SIGN HASANTA, LETTER KO, LETTER KHO, LETTER GO, LETTER GHO, SIGN ANUSVARA",
   "A80C SYLOTI NAGRI LETTER: CO, CHO, JO, JHO, TTO, TTHO, DDO, DDHO",
   "A814 SYLOTI NAGRI LETTER: TO, THO, DO, DHO, NO, PO, PHO, BO, BHO, MO, RO, LO, RRO, SO, HO",
   "A823 SYLOTI NAGRI VOWEL SIGN: A, I, U, E, OO",
   "A828 SYLOTI NAGRI POETRY: MARK-1, MARK-2, MARK-3, MARK-4",
   "A82C SYLOTI NAGRI SIGN ALTERNATE HASANTA",
   "A830 NORTH INDIC FRACTION ONE: QUARTER, HALF",
   "A832 NORTH INDIC FRACTION: THREE QUARTERS, ONE SIXTEENTH, ONE EIGHTH, THREE SIXTEENTHS",
   "A836 NORTH INDIC: QUARTER MARK, PLACEHOLDER MARK, RUPEE MARK, QUANTITY MARK",
   "A840 PHAGS-PA LETTER: KA, KHA, GA, NGA, CA, CHA",
   "A846 PHAGS-PA LETTER: JA, NYA, TA, THA, DA, NA, PA, PHA, BA, MA, TSA, TSHA, DZA, WA, ZHA, ZA",
   "A856 PHAGS-PA LETTER: SMALL A, YA, RA, LA, SHA, SA, HA, A, I, U, E, O, QA, XA, FA, GGA, EE",
   "A867 PHAGS-PA SUBJOINED LETTER: WA, YA",
   "A869 PHAGS-PA LETTER: TTA, TTHA, DDA, NNA, ALTERNATE YA, VOICELESS SHA, VOICED HA",
   "A870 PHAGS-PA: LETTER ASPIRATED FA, SUBJOINED LETTER RA",
   "A872 PHAGS-PA: SUPERFIXED LETTER RA, LETTER CANDRABINDU, SINGLE HEAD MARK, DOUBLE HEAD MARK",
   "A876 PHAGS-PA MARK: SHAD, DOUBLE SHAD",
   "A880 SAURASHTRA SIGN: ANUSVARA, VISARGA",
   "A882 SAURASHTRA LETTER: A, AA, I, II, U, UU, VOCALIC R, VOCALIC RR",
   "A88A SAURASHTRA LETTER: VOCALIC L, VOCALIC LL, E, EE, AI, O, OO, AU, KA, KHA, GA, GHA",
   "A896 SAURASHTRA LETTER: NGA, CA, CHA, JA, JHA, NYA, TTA, TTHA, DDA, DDHA, NNA, TA, THA, DA",
   "A8A4 SAURASHTRA LETTER: DHA, NA, PA, PHA, BA, BHA, MA, YA, RA, LA, VA, SHA, SSA, SA, HA, LLA",
   "A8B4 SAURASHTRA CONSONANT SIGN HAARU",
   "A8B5 SAURASHTRA VOWEL SIGN: AA, I, II, U, UU, VOCALIC R",
   "A8BB SAURASHTRA VOWEL SIGN: VOCALIC RR, VOCALIC L, VOCALIC LL, E, EE, AI, O, OO, AU",
   "A8C4 SAURASHTRA SIGN: VIRAMA, CANDRABINDU",
   "A8CE SAURASHTRA: DANDA, DOUBLE DANDA",
   "A8D0 SAURASHTRA DIGIT: ZERO, ONE, TWO, THREE, FOUR, FIVE, SIX, SEVEN, EIGHT, NINE",
   "A8E0 COMBINING DEVANAGARI DIGIT: ZERO, ONE, TWO, THREE, FOUR, FIVE, SIX, SEVEN, EIGHT, NINE",
   "A8EA COMBINING DEVANAGARI LETTER: A, U, KA, NA, PA, RA, VI",
   "A8F1 COMBINING DEVANAGARI SIGN AVAGRAHA",
   "A8F2 DEVANAGARI SIGN: SPACING CANDRABINDU, CANDRABINDU VIRAMA, DOUBLE CANDRABINDU VIRAMA",
   "A8F5 DEVANAGARI SIGN CANDRABINDU: TWO, THREE, AVAGRAHA",
   "A8F8 DEVANAGARI: SIGN PUSHPIKA, GAP FILLER",
   "A8FA DEVANAGARI: CARET, HEADSTROKE, SIGN SIDDHAM, JAIN OM, LETTER AY, VOWEL SIGN AY",
   "A900 KAYAH LI DIGIT: ZERO, ONE, TWO, THREE, FOUR, FIVE, SIX, SEVEN, EIGHT, NINE",
   "A90A KAYAH LI LETTER: KA, KHA, GA, NGA, SA, SHA, ZA, NYA, TA, HTA",
   "A914 KAYAH LI LETTER: NA, PA, PHA, MA, DA, BA, RA, YA, LA, WA, THA, HA, VA, CA, A, OE, I, OO",
   "A926 KAYAH LI VOWEL: UE, E, U, EE, O",
   "A92B KAYAH LI: TONE PLOPHU, TONE CALYA, TONE CALYA PLOPHU, SIGN CWI, SIGN SHYA",
   "A930 REJANG LETTER: KA, GA, NGA, TA, DA, NA",
   "A936 REJANG LETTER: PA, BA, MA, CA, JA, NYA, SA, RA, LA, YA, WA, HA, MBA, NGGA, NDA, NYJA, A",
   "A947 REJANG VOWEL SIGN: I, U, E, AI, O, AU, EU, EA",
   "A94F REJANG CONSONANT SIGN: NG, N, R, H",
   "A953 REJANG VIRAMA",
   "A95F REJANG SECTION MARK",
   "A960 HANGUL CHOSEONG: TIKEUT-MIEUM, TIKEUT-PIEUP, TIKEUT-SIOS, TIKEUT-CIEUC",
   "A964 HANGUL CHOSEONG: RIEUL-KIYEOK, RIEUL-SSANGKIYEOK, RIEUL-TIKEUT, RIEUL-SSANGTIKEUT",
   "A968 HANGUL CHOSEONG: RIEUL-MIEUM, RIEUL-PIEUP, RIEUL-SSANGPIEUP, RIEUL-KAPYEOUNPIEUP",
   "A96C HANGUL CHOSEONG: RIEUL-SIOS, RIEUL-CIEUC, RIEUL-KHIEUKH, MIEUM-KIYEOK, MIEUM-TIKEUT",
   "A971 HANGUL CHOSEONG: MIEUM-SIOS, PIEUP-SIOS-THIEUTH, PIEUP-KHIEUKH, PIEUP-HIEUH",
   "A975 HANGUL CHOSEONG: SSANGSIOS-PIEUP, IEUNG-RIEUL, IEUNG-HIEUH, SSANGCIEUC-HIEUH",
   "A979 HANGUL CHOSEONG: SSANGTHIEUTH, PHIEUPH-HIEUH, HIEUH-SIOS, SSANGYEORINHIEUH",
   "A980 JAVANESE SIGN: PANYANGGA, CECAK, LAYAR, WIGNYAN",
   "A984 JAVANESE LETTER: A, I KAWI, I, II, U, PA CEREK, NGA LELET, NGA LELET RASWADI",
   "A98C JAVANESE LETTER: E, AI, O, KA, KA SASAK, KA MURDA, GA, GA MURDA, NGA, CA, CA MURDA, JA",
   "A998 JAVANESE LETTER: NYA MURDA, JA MAHAPRANA, NYA, TTA, TTA MAHAPRANA, DDA, DDA MAHAPRANA",
   "A99F JAVANESE LETTER: NA MURDA, TA, TA MURDA, DA, DA MAHAPRANA, NA, PA, PA MURDA, BA",
   "A9A8 JAVANESE LETTER: BA MURDA, MA, YA, RA, RA AGUNG, LA, WA, SA MURDA, SA MAHAPRANA, SA, HA",
   "A9B3 JAVANESE: SIGN CECAK TELU, VOWEL SIGN TARUNG, VOWEL SIGN TOLONG",
   "A9B6 JAVANESE VOWEL SIGN: WULU, WULU MELIK, SUKU, SUKU MENDUT, TALING, DIRGA MURE, PEPET",
   "A9BD JAVANESE CONSONANT SIGN: KERET, PENGKAL, CAKRA",
   "A9C0 JAVANESE: PANGKON, LEFT RERENGGAN, RIGHT RERENGGAN, PADA ANDAP",
   "A9C4 JAVANESE PADA: MADYA, LUHUR, WINDU, PANGKAT, LINGSA, LUNGSI, ADEG, ADEG ADEG, PISELEH",
   "A9CD JAVANESE TURNED PADA PISELEH",
   "A9CF JAVANESE PANGRANGKEP",
   "A9D0 JAVANESE DIGIT: ZERO, ONE, TWO, THREE, FOUR, FIVE, SIX, SEVEN, EIGHT, NINE",
   "A9DE JAVANESE PADA: TIRTA TUMETES, ISEN-ISEN",
   "A9E0 MYANMAR LETTER SHAN: GHA, CHA, JHA, NNA, BHA",
   "A9E5 MYANMAR: SIGN SHAN SAW, MODIFIER LETTER SHAN REDUPLICATION",
   "A9E7 MYANMAR LETTER TAI LAING: NYA, FA, GA, GHA, JA, JHA, DDA, DDHA, NNA",
   "A9F0 MYANMAR TAI LAING DIGIT: ZERO, ONE, TWO, THREE, FOUR, FIVE, SIX, SEVEN, EIGHT, NINE",
   "A9FA MYANMAR LETTER TAI LAING: LLA, DA, DHA, BA, BHA",
   "AA00 CHAM LETTER: A, I, U, E, AI, O, KA, KHA, GA",
   "AA09 CHAM LETTER: GHA, NGUE, NGA, CHA, CHHA, JA, JHA, NHUE, NHA, NHJA, TA, THA, DA, DHA, NUE",
   "AA18 CHAM LETTER: NA, DDA, PA, PPA, PHA, BA, BHA, MUE, MA, BBA, YA, RA, LA, VA, SSA, SA, HA",
   "AA29 CHAM VOWEL SIGN: AA, I, II, EI, U, OE, O, AI, AU, UE",
   "AA33 CHAM CONSONANT SIGN: YA, RA, LA, WA",
   "AA40 CHAM LETTER FINAL: K, G, NG",
   "AA43 CHAM CONSONANT SIGN FINAL NG",
   "AA44 CHAM LETTER FINAL: CH, T, N, P, Y, R, L, SS",
   "AA4C CHAM CONSONANT SIGN FINAL: M, H",
   "AA50 CHAM DIGIT: ZERO, ONE, TWO, THREE, FOUR, FIVE, SIX, SEVEN, EIGHT, NINE",
   "AA5C CHAM PUNCTUATION: SPIRAL, DANDA, DOUBLE DANDA, TRIPLE DANDA",
   "AA60 MYANMAR LETTER KHAMTI: GA, CA, CHA, JA, JHA, NYA, TTA, TTHA, DDA, DDHA, DHA, NA, SA, HA",
   "AA6E MYANMAR: LETTER KHAMTI HHA, LETTER KHAMTI FA, MODIFIER LETTER KHAMTI REDUPLICATION",
   "AA71 MYANMAR LETTER KHAMTI: XA, ZA, RA",
   "AA74 MYANMAR LOGOGRAM KHAMTI: OAY, QN, HM",
   "AA77 MYANMAR SYMBOL AITON: EXCLAMATION, ONE, TWO",
   "AA7A MYANMAR: LETTER AITON RA, SIGN PAO KAREN TONE",
   "AA7C MYANMAR SIGN TAI LAING: TONE-2, TONE-5",
   "AA7E MYANMAR LETTER SHWE PALAUNG: CHA, SHA",
   "AA80 TAI VIET LETTER: LOW KO, HIGH KO, LOW KHO, HIGH KHO, LOW KHHO, HIGH KHHO, LOW GO",
   "AA87 TAI VIET LETTER: HIGH GO, LOW NGO, HIGH NGO, LOW CO, HIGH CO, LOW CHO, HIGH CHO, LOW SO",
   "AA8F TAI VIET LETTER: HIGH SO, LOW NYO, HIGH NYO, LOW DO, HIGH DO, LOW TO, HIGH TO, LOW THO",
   "AA97 TAI VIET LETTER: HIGH THO, LOW NO, HIGH NO, LOW BO, HIGH BO, LOW PO, HIGH PO, LOW PHO",
   "AA9F TAI VIET LETTER: HIGH PHO, LOW FO, HIGH FO, LOW MO, HIGH MO, LOW YO, HIGH YO, LOW RO",
   "AAA7 TAI VIET LETTER: HIGH RO, LOW LO, HIGH LO, LOW VO, HIGH VO, LOW HO, HIGH HO, LOW O",
   "AAAF TAI VIET: LETTER HIGH O, MAI KANG",
   "AAB1 TAI VIET VOWEL: AA, I, UE, U, E, O",
   "AAB7 TAI VIET MAI KHIT",
   "AAB8 TAI VIET VOWEL: IA, UEA, UA, AUE, AY, AN, AM",
   "AABF TAI VIET TONE MAI: EK, NUENG, THO, SONG",
   "AADB TAI VIET SYMBOL: KON, NUENG, SAM, HO HOI, KOI KOI",
   "AAE0 MEETEI MAYEK LETTER: E, O, CHA, NYA, TTA, TTHA, DDA, DDHA, NNA, SHA, SSA",
   "AAEB MEETEI MAYEK VOWEL SIGN: II, UU, AAI, AU, AAU",
   "AAF0 MEETEI MAYEK: CHEIKHAN, AHANG KHUDAM, ANJI",
   "AAF3 MEETEI MAYEK: SYLLABLE REPETITION MARK, WORD REPETITION MARK, VOWEL SIGN VISARGA, VIRAMA",
   "AB01 ETHIOPIC SYLLABLE: TTHU, TTHI, TTHAA, TTHEE, TTHE, TTHO",
   "AB09 ETHIOPIC SYLLABLE: DDHU, DDHI, DDHAA, DDHEE, DDHE, DDHO",
   "AB11 ETHIOPIC SYLLABLE: DZU, DZI, DZAA, DZEE, DZE, DZO",
   "AB20 ETHIOPIC SYLLABLE: CCHHA, CCHHU, CCHHI, CCHHAA, CCHHEE, CCHHE, CCHHO",
   "AB28 ETHIOPIC SYLLABLE: BBA, BBU, BBI, BBAA, BBEE, BBE, BBO",
   "AB30 LATIN SMALL LETTER: BARRED ALPHA, A REVERSED-SCHWA, BLACKLETTER E",
   "AB33 LATIN SMALL LETTER: BARRED E, E WITH FLOURISH, LENIS F, SCRIPT G WITH CROSSED-TAIL",
   "AB37 LATIN SMALL LETTER L WITH: INVERTED LAZY S, DOUBLE MIDDLE TILDE, MIDDLE RING",
   "AB3A LATIN SMALL LETTER: M WITH CROSSED-TAIL, N WITH CROSSED-TAIL, ENG WITH CROSSED-TAIL",
   "AB3D LATIN SMALL LETTER BLACKLETTER: O, O WITH STROKE",
   "AB3F LATIN SMALL LETTER: OPEN O WITH STROKE, INVERTED OE, TURNED OE WITH STROKE",
   "AB42 LATIN SMALL LETTER TURNED: OE WITH HORIZONTAL STROKE, O OPEN-O, O OPEN-O WITH STROKE",
   "AB45 LATIN: SMALL LETTER STIRRUP R, LETTER SMALL CAPITAL R WITH RIGHT LEG",
   "AB47 LATIN SMALL LETTER: R WITHOUT HANDLE, DOUBLE R, R WITH CROSSED-TAIL",
   "AB4A LATIN SMALL LETTER: DOUBLE R WITH CROSSED-TAIL, SCRIPT R, SCRIPT R WITH RING",
   "AB4D LATIN SMALL LETTER: BASELINE ESH, U WITH SHORT RIGHT LEG, U BAR WITH SHORT RIGHT LEG",
   "AB50 LATIN SMALL LETTER: UI, TURNED UI, U WITH LEFT HOOK, CHI, CHI WITH LOW RIGHT RING",
   "AB55 LATIN SMALL LETTER: CHI WITH LOW LEFT SERIF, X WITH LOW RIGHT RING",
   "AB57 LATIN SMALL LETTER X WITH LONG LEFT: LEG, LEG AND LOW RIGHT RING, LEG WITH SERIF",
   "AB5A LATIN SMALL LETTER Y WITH SHORT RIGHT LEG",
   "AB5B MODIFIER: BREVE WITH INVERTED BREVE, LETTER SMALL HENG",
   "AB5D MODIFIER LETTER SMALL: L WITH INVERTED LAZY S, L WITH MIDDLE TILDE, U WITH LEFT HOOK",
   "AB60 LATIN SMALL LETTER: SAKHA YAT, IOTIFIED E, OPEN OE, UO, INVERTED ALPHA",
   "AB65 GREEK LETTER SMALL CAPITAL OMEGA, LATIN SMALL LETTER DZ DIGRAPH WITH RETROFLEX HOOK",
   "AB67 LATIN SMALL LETTER: TS DIGRAPH WITH RETROFLEX HOOK, TURNED R WITH MIDDLE TILDE",
   "AB69 MODIFIER LETTER: SMALL TURNED W, LEFT TACK, RIGHT TACK",
   "AB70 CHEROKEE SMALL LETTER: A, E, I",
   "AB73 CHEROKEE SMALL LETTER: O, U, V, GA, KA, GE, GI, GO, GU, GV, HA, HE, HI, HO, HU, HV, LA",
   "AB84 CHEROKEE SMALL LETTER: LE, LI, LO, LU, LV, MA, ME, MI, MO, MU, NA, HNA, NAH, NE, NI, NO",
   "AB94 CHEROKEE SMALL LETTER: NU, NV, QUA, QUE, QUI, QUO, QUU, QUV, SA, S, SE, SI, SO, SU, SV",
   "ABA3 CHEROKEE SMALL LETTER: DA, TA, DE, TE, DI, TI, DO, DU, DV, DLA, TLA, TLE, TLI, TLO, TLU",
   "ABB2 CHEROKEE SMALL LETTER: TLV, TSA, TSE, TSI, TSO, TSU, TSV, WA, WE, WI, WO, WU, WV, YA",
   "ABC0 MEETEI MAYEK LETTER: KOK, SAM, LAI, MIT, PA, NA, CHIL",
   "ABC7 MEETEI MAYEK LETTER: TIL, KHOU, NGOU, THOU, WAI, YANG, HUK, UN, I, PHAM, ATIYA, GOK",
   "ABD3 MEETEI MAYEK LETTER: JHAM, RAI, BA, JIL, DIL, GHOU, DHOU, BHAM, KOK LONSUM, LAI LONSUM",
   "ABDD MEETEI MAYEK LETTER: MIT LONSUM, PA LONSUM, NA LONSUM, TIL LONSUM, NGOU LONSUM, I LONSUM",
   "ABE3 MEETEI MAYEK VOWEL SIGN: ONAP, INAP, ANAP, YENAP, SOUNAP, UNAP, CHEINAP, NUNG",
   "ABEB MEETEI MAYEK: CHEIKHEI, LUM IYEK, APUN IYEK",
   "ABF0 MEETEI MAYEK DIGIT: ZERO, ONE, TWO, THREE, FOUR, FIVE, SIX, SEVEN, EIGHT, NINE",
   "D7B0 HANGUL JUNGSEONG: O-YEO, O-O-I",
   "D7B2 HANGUL JUNGSEONG: YO-A, YO-AE, YO-EO, U-YEO, U-I-I, YU-AE, YU-O, EU-A, EU-EO, EU-E, EU-O",
   "D7BD HANGUL JUNGSEONG: I-YA-O, I-YAE, I-YEO, I-YE, I-O-I, I-YO, I-YU, I-I, ARAEA-A, ARAEA-E",
   "D7CB HANGUL JONGSEONG: NIEUN-RIEUL, NIEUN-CHIEUCH, SSANGTIKEUT, SSANGTIKEUT-PIEUP",
   "D7CF HANGUL JONGSEONG: TIKEUT-PIEUP, TIKEUT-SIOS, TIKEUT-SIOS-KIYEOK, TIKEUT-CIEUC",
   "D7D3 HANGUL JONGSEONG: TIKEUT-CHIEUCH, TIKEUT-THIEUTH, RIEUL-SSANGKIYEOK, RIEUL-KIYEOK-HIEUH",
   "D7D7 HANGUL JONGSEONG SSANGRIEUL-KHIEUKH",
   "D7D8 HANGUL JONGSEONG: RIEUL-MIEUM-HIEUH, RIEUL-PIEUP-TIKEUT, RIEUL-PIEUP-PHIEUPH",
   "D7DB HANGUL JONGSEONG: RIEUL-YESIEUNG, RIEUL-YEORINHIEUH-HIEUH, KAPYEOUNRIEUL",
   "D7DE HANGUL JONGSEONG: MIEUM-NIEUN, MIEUM-SSANGNIEUN, SSANGMIEUM, MIEUM-PIEUP-SIOS",
   "D7E2 HANGUL JONGSEONG: MIEUM-CIEUC, PIEUP-TIKEUT, PIEUP-RIEUL-PHIEUPH, PIEUP-MIEUM",
   "D7E6 HANGUL JONGSEONG: SSANGPIEUP, PIEUP-SIOS-TIKEUT, PIEUP-CIEUC, PIEUP-CHIEUCH, SIOS-MIEUM",
   "D7EB HANGUL JONGSEONG: SIOS-KAPYEOUNPIEUP, SSANGSIOS-KIYEOK, SSANGSIOS-TIKEUT, SIOS-PANSIOS",
   "D7EF HANGUL JONGSEONG: SIOS-CIEUC, SIOS-CHIEUCH, SIOS-THIEUTH, SIOS-HIEUH, PANSIOS-PIEUP",
   "D7F4 HANGUL JONGSEONG: PANSIOS-KAPYEOUNPIEUP, YESIEUNG-MIEUM, YESIEUNG-HIEUH, CIEUC-PIEUP",
   "D7F8 HANGUL JONGSEONG: CIEUC-SSANGPIEUP, SSANGCIEUC, PHIEUPH-SIOS, PHIEUPH-THIEUTH",
   "FB00 LATIN SMALL LIGATURE: FF, FI, FL, FFI, FFL, LONG S T, ST",
   "FB13 ARMENIAN SMALL LIGATURE: MEN NOW, MEN ECH, MEN INI, VEW NOW, MEN XEH",
   "FB1D HEBREW: LETTER YOD WITH HIRIQ, POINT JUDEO-SPANISH VARIKA",
   "FB1F HEBREW: LIGATURE YIDDISH YOD YOD PATAH, LETTER ALTERNATIVE AYIN",
   "FB21 HEBREW LETTER WIDE: ALEF, DALET, HE, KAF, LAMED, FINAL MEM, RESH, TAV",
   "FB29 HEBREW LETTER ALTERNATIVE PLUS SIGN",
   "FB2A HEBREW LETTER SHIN WITH: SHIN DOT, SIN DOT, DAGESH AND SHIN DOT, DAGESH AND SIN DOT",
   "FB2E HEBREW LETTER ALEF WITH: PATAH, QAMATS, MAPIQ",
   "FB31 HEBREW LETTER: BET WITH DAGESH, GIMEL WITH DAGESH",
   "FB33 HEBREW LETTER: DALET WITH DAGESH, HE WITH MAPIQ, VAV WITH DAGESH, ZAYIN WITH DAGESH",
   "FB38 HEBREW LETTER: TET WITH DAGESH, YOD WITH DAGESH, FINAL KAF WITH DAGESH, KAF WITH DAGESH",
   "FB3C HEBREW LETTER LAMED WITH DAGESH",
   "FB3E HEBREW LETTER MEM WITH DAGESH",
   "FB40 HEBREW LETTER: NUN WITH DAGESH, SAMEKH WITH DAGESH",
   "FB43 HEBREW LETTER: FINAL PE WITH DAGESH, PE WITH DAGESH",
   "FB46 HEBREW LETTER: TSADI WITH DAGESH, QOF WITH DAGESH, RESH WITH DAGESH, SHIN WITH DAGESH",
   "FB4A HEBREW LETTER: TAV WITH DAGESH, VAV WITH HOLAM, BET WITH RAFE, KAF WITH RAFE",
   "FB4E HEBREW: LETTER PE WITH RAFE, LIGATURE ALEF LAMED",
   "FB50 ARABIC LETTER ALEF WASLA: ISOLATED FORM, FINAL FORM",
   "FB52 ARABIC LETTER BEEH: ISOLATED FORM, FINAL FORM, INITIAL FORM, MEDIAL FORM",
   "FB56 ARABIC LETTER PEH: ISOLATED FORM, FINAL FORM, INITIAL FORM, MEDIAL FORM",
   "FB5A ARABIC LETTER BEHEH: ISOLATED FORM, FINAL FORM, INITIAL FORM, MEDIAL FORM",
   "FB5E ARABIC LETTER TTEHEH: ISOLATED FORM, FINAL FORM, INITIAL FORM, MEDIAL FORM",
   "FB62 ARABIC LETTER TEHEH: ISOLATED FORM, FINAL FORM, INITIAL FORM, MEDIAL FORM",
   "FB66 ARABIC LETTER TTEH: ISOLATED FORM, FINAL FORM, INITIAL FORM, MEDIAL FORM",
   "FB6A ARABIC LETTER VEH: ISOLATED FORM, FINAL FORM, INITIAL FORM, MEDIAL FORM",
   "FB6E ARABIC LETTER PEHEH: ISOLATED FORM, FINAL FORM, INITIAL FORM, MEDIAL FORM",
   "FB72 ARABIC LETTER DYEH: ISOLATED FORM, FINAL FORM, INITIAL FORM, MEDIAL FORM",
   "FB76 ARABIC LETTER NYEH: ISOLATED FORM, FINAL FORM, INITIAL FORM, MEDIAL FORM",
   "FB7A ARABIC LETTER TCHEH: ISOLATED FORM, FINAL FORM, INITIAL FORM, MEDIAL FORM",
   "FB7E ARABIC LETTER TCHEHEH: ISOLATED FORM, FINAL FORM, INITIAL FORM, MEDIAL FORM",
   "FB82 ARABIC LETTER DDAHAL: ISOLATED FORM, FINAL FORM",
   "FB84 ARABIC LETTER DAHAL: ISOLATED FORM, FINAL FORM",
   "FB86 ARABIC LETTER: DUL ISOLATED FORM, DUL FINAL FORM, DDAL ISOLATED FORM, DDAL FINAL FORM",
   "FB8A ARABIC LETTER: JEH ISOLATED FORM, JEH FINAL FORM, RREH ISOLATED FORM, RREH FINAL FORM",
   "FB8E ARABIC LETTER KEHEH: ISOLATED FORM, FINAL FORM, INITIAL FORM, MEDIAL FORM",
   "FB92 ARABIC LETTER GAF: ISOLATED FORM, FINAL FORM, INITIAL FORM, MEDIAL FORM",
   "FB96 ARABIC LETTER GUEH: ISOLATED FORM, FINAL FORM, INITIAL FORM, MEDIAL FORM",
   "FB9A ARABIC LETTER NGOEH: ISOLATED FORM, FINAL FORM, INITIAL FORM, MEDIAL FORM",
   "FB9E ARABIC LETTER NOON GHUNNA: ISOLATED FORM, FINAL FORM",
   "FBA0 ARABIC LETTER RNOON: ISOLATED FORM, FINAL FORM, INITIAL FORM, MEDIAL FORM",
   "FBA4 ARABIC LETTER HEH WITH YEH ABOVE: ISOLATED FORM, FINAL FORM",
   "FBA6 ARABIC LETTER HEH GOAL: ISOLATED FORM, FINAL FORM, INITIAL FORM, MEDIAL FORM",
   "FBAA ARABIC LETTER HEH DOACHASHMEE: ISOLATED FORM, FINAL FORM, INITIAL FORM, MEDIAL FORM",
   "FBAE ARABIC LETTER YEH BARREE: ISOLATED FORM, FINAL FORM",
   "FBB0 ARABIC LETTER YEH BARREE WITH HAMZA ABOVE: ISOLATED FORM, FINAL FORM",
   "FBB2 ARABIC SYMBOL: DOT ABOVE, DOT BELOW, TWO DOTS ABOVE, TWO DOTS BELOW, THREE DOTS ABOVE",
   "FBB7 ARABIC SYMBOL THREE DOTS: BELOW, POINTING DOWNWARDS ABOVE, POINTING DOWNWARDS BELOW",
   "FBBA ARABIC SYMBOL: FOUR DOTS ABOVE, FOUR DOTS BELOW, DOUBLE VERTICAL BAR BELOW",
   "FBBD ARABIC SYMBOL TWO DOTS VERTICALLY: ABOVE, BELOW",
   "FBBF ARABIC SYMBOL: RING, SMALL TAH ABOVE, SMALL TAH BELOW, WASLA ABOVE",
   "FBD3 ARABIC LETTER NG: ISOLATED FORM, FINAL FORM, INITIAL FORM, MEDIAL FORM",
   "FBD7 ARABIC LETTER: U ISOLATED FORM, U FINAL FORM, OE ISOLATED FORM, OE FINAL FORM",
   "FBDB ARABIC LETTER YU: ISOLATED FORM, FINAL FORM",
   "FBDD ARABIC LETTER: U WITH HAMZA ABOVE ISOLATED FORM, VE ISOLATED FORM, VE FINAL FORM",
   "FBE0 ARABIC LETTER KIRGHIZ: OE ISOLATED FORM, OE FINAL FORM, YU ISOLATED FORM, YU FINAL FORM",
   "FBE4 ARABIC LETTER E: ISOLATED FORM, FINAL FORM, INITIAL FORM, MEDIAL FORM",
   "FBE8 ARABIC LETTER UIGHUR KAZAKH KIRGHIZ ALEF MAKSURA: INITIAL FORM, MEDIAL FORM",
   "FBEA ARABIC LIGATURE YEH WITH HAMZA ABOVE WITH ALEF: ISOLATED FORM, FINAL FORM",
   "FBEC ARABIC LIGATURE YEH WITH HAMZA ABOVE WITH AE: ISOLATED FORM, FINAL FORM",
   "FBEE ARABIC LIGATURE YEH WITH HAMZA ABOVE WITH WAW: ISOLATED FORM, FINAL FORM",
   "FBF0 ARABIC LIGATURE YEH WITH HAMZA ABOVE WITH U: ISOLATED FORM, FINAL FORM",
   "FBF2 ARABIC LIGATURE YEH WITH HAMZA ABOVE WITH OE: ISOLATED FORM, FINAL FORM",
   "FBF4 ARABIC LIGATURE YEH WITH HAMZA ABOVE WITH YU: ISOLATED FORM, FINAL FORM",
   "FBF6 ARABIC LIGATURE YEH WITH HAMZA ABOVE WITH E: ISOLATED FORM, FINAL FORM, INITIAL FORM",
   "FBF9 ARABIC LIGATURE UIGHUR KIRGHIZ YEH WITH HAMZA ABOVE WITH ALEF MAKSURA ISOLATED FORM",
   "FBFA ARABIC LIGATURE UIGHUR KIRGHIZ YEH WITH HAMZA ABOVE WITH ALEF MAKSURA FINAL FORM",
   "FBFB ARABIC LIGATURE UIGHUR KIRGHIZ YEH WITH HAMZA ABOVE WITH ALEF MAKSURA INITIAL FORM",
   "FBFC ARABIC LETTER FARSI YEH: ISOLATED FORM, FINAL FORM, INITIAL FORM, MEDIAL FORM",
   "FC00 ARABIC LIGATURE YEH WITH HAMZA ABOVE WITH JEEM ISOLATED FORM",
   "FC01 ARABIC LIGATURE YEH WITH HAMZA ABOVE WITH: HAH ISOLATED FORM, MEEM ISOLATED FORM",
   "FC03 ARABIC LIGATURE YEH WITH HAMZA ABOVE WITH: ALEF MAKSURA ISOLATED FORM, YEH ISOLATED FORM",
   "FC05 ARABIC LIGATURE BEH WITH: JEEM ISOLATED FORM, HAH ISOLATED FORM, KHAH ISOLATED FORM",
   "FC08 ARABIC LIGATURE BEH WITH: MEEM ISOLATED FORM, ALEF MAKSURA ISOLATED FORM",
   "FC0A ARABIC LIGATURE: BEH WITH YEH ISOLATED FORM, TEH WITH JEEM ISOLATED FORM",
   "FC0C ARABIC LIGATURE TEH WITH: HAH ISOLATED FORM, KHAH ISOLATED FORM, MEEM ISOLATED FORM",
   "FC0F ARABIC LIGATURE TEH WITH: ALEF MAKSURA ISOLATED FORM, YEH ISOLATED FORM",
   "FC11 ARABIC LIGATURE THEH WITH: JEEM ISOLATED FORM, MEEM ISOLATED FORM",
   "FC13 ARABIC LIGATURE THEH WITH: ALEF MAKSURA ISOLATED FORM, YEH ISOLATED FORM",
   "FC15 ARABIC LIGATURE JEEM WITH: HAH ISOLATED FORM, MEEM ISOLATED FORM",
   "FC17 ARABIC LIGATURE HAH WITH: JEEM ISOLATED FORM, MEEM ISOLATED FORM",
   "FC19 ARABIC LIGATURE KHAH WITH: JEEM ISOLATED FORM, HAH ISOLATED FORM, MEEM ISOLATED FORM",
   "FC1C ARABIC LIGATURE SEEN WITH: JEEM ISOLATED FORM, HAH ISOLATED FORM, KHAH ISOLATED FORM",
   "FC1F ARABIC LIGATURE: SEEN WITH MEEM ISOLATED FORM, SAD WITH HAH ISOLATED FORM",
   "FC21 ARABIC LIGATURE: SAD WITH MEEM ISOLATED FORM, DAD WITH JEEM ISOLATED FORM",
   "FC23 ARABIC LIGATURE DAD WITH: HAH ISOLATED FORM, KHAH ISOLATED FORM, MEEM ISOLATED FORM",
   "FC26 ARABIC LIGATURE TAH WITH: HAH ISOLATED FORM, MEEM ISOLATED FORM",
   "FC28 ARABIC LIGATURE: ZAH WITH MEEM ISOLATED FORM, AIN WITH JEEM ISOLATED FORM",
   "FC2A ARABIC LIGATURE: AIN WITH MEEM ISOLATED FORM, GHAIN WITH JEEM ISOLATED FORM",
   "FC2C ARABIC LIGATURE: GHAIN WITH MEEM ISOLATED FORM, FEH WITH JEEM ISOLATED FORM",
   "FC2E ARABIC LIGATURE FEH WITH: HAH ISOLATED FORM, KHAH ISOLATED FORM, MEEM ISOLATED FORM",
   "FC31 ARABIC LIGATURE FEH WITH: ALEF MAKSURA ISOLATED FORM, YEH ISOLATED FORM",
   "FC33 ARABIC LIGATURE QAF WITH: HAH ISOLATED FORM, MEEM ISOLATED FORM",
   "FC35 ARABIC LIGATURE QAF WITH: ALEF MAKSURA ISOLATED FORM, YEH ISOLATED FORM",
   "FC37 ARABIC LIGATURE KAF WITH: ALEF ISOLATED FORM, JEEM ISOLATED FORM, HAH ISOLATED FORM",
   "FC3A ARABIC LIGATURE KAF WITH: KHAH ISOLATED FORM, LAM ISOLATED FORM, MEEM ISOLATED FORM",
   "FC3D ARABIC LIGATURE KAF WITH: ALEF MAKSURA ISOLATED FORM, YEH ISOLATED FORM",
   "FC3F ARABIC LIGATURE LAM WITH JEEM ISOLATED FORM",
   "FC40 ARABIC LIGATURE LAM WITH: HAH ISOLATED FORM, KHAH ISOLATED FORM, MEEM ISOLATED FORM",
   "FC43 ARABIC LIGATURE LAM WITH: ALEF MAKSURA ISOLATED FORM, YEH ISOLATED FORM",
   "FC45 ARABIC LIGATURE MEEM WITH: JEEM ISOLATED FORM, HAH ISOLATED FORM, KHAH ISOLATED FORM",
   "FC48 ARABIC LIGATURE MEEM WITH: MEEM ISOLATED FORM, ALEF MAKSURA ISOLATED FORM",
   "FC4A ARABIC LIGATURE: MEEM WITH YEH ISOLATED FORM, NOON WITH JEEM ISOLATED FORM",
   "FC4C ARABIC LIGATURE NOON WITH: HAH ISOLATED FORM, KHAH ISOLATED FORM, MEEM ISOLATED FORM",
   "FC4F ARABIC LIGATURE NOON WITH: ALEF MAKSURA ISOLATED FORM, YEH ISOLATED FORM",
   "FC51 ARABIC LIGATURE HEH WITH: JEEM ISOLATED FORM, MEEM ISOLATED FORM",
   "FC53 ARABIC LIGATURE HEH WITH: ALEF MAKSURA ISOLATED FORM, YEH ISOLATED FORM",
   "FC55 ARABIC LIGATURE YEH WITH: JEEM ISOLATED FORM, HAH ISOLATED FORM, KHAH ISOLATED FORM",
   "FC58 ARABIC LIGATURE YEH WITH: MEEM ISOLATED FORM, ALEF MAKSURA ISOLATED FORM",
   "FC5A ARABIC LIGATURE: YEH WITH YEH ISOLATED FORM, THAL WITH SUPERSCRIPT ALEF ISOLATED FORM",
   "FC5C ARABIC LIGATURE REH WITH SUPERSCRIPT ALEF ISOLATED FORM",
   "FC5D ARABIC LIGATURE ALEF MAKSURA WITH SUPERSCRIPT ALEF ISOLATED FORM",
   "FC5E ARABIC LIGATURE SHADDA WITH: DAMMATAN ISOLATED FORM, KASRATAN ISOLATED FORM",
   "FC60 ARABIC LIGATURE SHADDA WITH: FATHA ISOLATED FORM, DAMMA ISOLATED FORM",
   "FC62 ARABIC LIGATURE SHADDA WITH: KASRA ISOLATED FORM, SUPERSCRIPT ALEF ISOLATED FORM",
   "FC64 ARABIC LIGATURE YEH WITH HAMZA ABOVE WITH: REH FINAL FORM, ZAIN FINAL FORM",
   "FC66 ARABIC LIGATURE YEH WITH HAMZA ABOVE WITH: MEEM FINAL FORM, NOON FINAL FORM",
   "FC68 ARABIC LIGATURE YEH WITH HAMZA ABOVE WITH: ALEF MAKSURA FINAL FORM, YEH FINAL FORM",
   "FC6A ARABIC LIGATURE BEH WITH: REH FINAL FORM, ZAIN FINAL FORM, MEEM FINAL FORM",
   "FC6D ARABIC LIGATURE BEH WITH: NOON FINAL FORM, ALEF MAKSURA FINAL FORM, YEH FINAL FORM",
   "FC70 ARABIC LIGATURE TEH WITH: REH FINAL FORM, ZAIN FINAL FORM, MEEM FINAL FORM",
   "FC73 ARABIC LIGATURE TEH WITH: NOON FINAL FORM, ALEF MAKSURA FINAL FORM, YEH FINAL FORM",
   "FC76 ARABIC LIGATURE THEH WITH: REH FINAL FORM, ZAIN FINAL FORM, MEEM FINAL FORM",
   "FC79 ARABIC LIGATURE THEH WITH: NOON FINAL FORM, ALEF MAKSURA FINAL FORM, YEH FINAL FORM",
   "FC7C ARABIC LIGATURE FEH WITH: ALEF MAKSURA FINAL FORM, YEH FINAL FORM",
   "FC7E ARABIC LIGATURE QAF WITH: ALEF MAKSURA FINAL FORM, YEH FINAL FORM",
   "FC80 ARABIC LIGATURE KAF WITH: ALEF FINAL FORM, LAM FINAL FORM",
   "FC82 ARABIC LIGATURE KAF WITH: MEEM FINAL FORM, ALEF MAKSURA FINAL FORM, YEH FINAL FORM",
   "FC85 ARABIC LIGATURE LAM WITH: MEEM FINAL FORM, ALEF MAKSURA FINAL FORM, YEH FINAL FORM",
   "FC88 ARABIC LIGATURE MEEM WITH: ALEF FINAL FORM, MEEM FINAL FORM",
   "FC8A ARABIC LIGATURE NOON WITH: REH FINAL FORM, ZAIN FINAL FORM, MEEM FINAL FORM",
   "FC8D ARABIC LIGATURE NOON WITH: NOON FINAL FORM, ALEF MAKSURA FINAL FORM, YEH FINAL FORM",
   "FC90 ARABIC LIGATURE ALEF MAKSURA WITH SUPERSCRIPT ALEF FINAL FORM",
   "FC91 ARABIC LIGATURE YEH WITH: REH FINAL FORM, ZAIN FINAL FORM, MEEM FINAL FORM",
   "FC94 ARABIC LIGATURE YEH WITH: NOON FINAL FORM, ALEF MAKSURA FINAL FORM, YEH FINAL FORM",
   "FC97 ARABIC LIGATURE YEH WITH HAMZA ABOVE WITH: JEEM INITIAL FORM, HAH INITIAL FORM",
   "FC99 ARABIC LIGATURE YEH WITH HAMZA ABOVE WITH: KHAH INITIAL FORM, MEEM INITIAL FORM",
   "FC9B ARABIC LIGATURE: YEH WITH HAMZA ABOVE WITH HEH INITIAL FORM, BEH WITH JEEM INITIAL FORM",
   "FC9D ARABIC LIGATURE BEH WITH: HAH INITIAL FORM, KHAH INITIAL FORM, MEEM INITIAL FORM",
   "FCA0 ARABIC LIGATURE: BEH WITH HEH INITIAL FORM, TEH WITH JEEM INITIAL FORM",
   "FCA2 ARABIC LIGATURE TEH WITH: HAH INITIAL FORM, KHAH INITIAL FORM, MEEM INITIAL FORM",
   "FCA5 ARABIC LIGATURE: TEH WITH HEH INITIAL FORM, THEH WITH MEEM INITIAL FORM",
   "FCA7 ARABIC LIGATURE JEEM WITH: HAH INITIAL FORM, MEEM INITIAL FORM",
   "FCA9 ARABIC LIGATURE HAH WITH: JEEM INITIAL FORM, MEEM INITIAL FORM",
   "FCAB ARABIC LIGATURE KHAH WITH: JEEM INITIAL FORM, MEEM INITIAL FORM",
   "FCAD ARABIC LIGATURE SEEN WITH JEEM INITIAL FORM",
   "FCAE ARABIC LIGATURE SEEN WITH: HAH INITIAL FORM, KHAH INITIAL FORM, MEEM INITIAL FORM",
   "FCB1 ARABIC LIGATURE SAD WITH: HAH INITIAL FORM, KHAH INITIAL FORM, MEEM INITIAL FORM",
   "FCB4 ARABIC LIGATURE DAD WITH: JEEM INITIAL FORM, HAH INITIAL FORM, KHAH INITIAL FORM",
   "FCB7 ARABIC LIGATURE: DAD WITH MEEM INITIAL FORM, TAH WITH HAH INITIAL FORM",
   "FCB9 ARABIC LIGATURE: ZAH WITH MEEM INITIAL FORM, AIN WITH JEEM INITIAL FORM",
   "FCBB ARABIC LIGATURE: AIN WITH MEEM INITIAL FORM, GHAIN WITH JEEM INITIAL FORM",
   "FCBD ARABIC LIGATURE: GHAIN WITH MEEM INITIAL FORM, FEH WITH JEEM INITIAL FORM",
   "FCBF ARABIC LIGATURE FEH WITH: HAH INITIAL FORM, KHAH INITIAL FORM, MEEM INITIAL FORM",
   "FCC2 ARABIC LIGATURE QAF WITH: HAH INITIAL FORM, MEEM INITIAL FORM",
   "FCC4 ARABIC LIGATURE KAF WITH: JEEM INITIAL FORM, HAH INITIAL FORM",
   "FCC6 ARABIC LIGATURE KAF WITH: KHAH INITIAL FORM, LAM INITIAL FORM, MEEM INITIAL FORM",
   "FCC9 ARABIC LIGATURE LAM WITH: JEEM INITIAL FORM, HAH INITIAL FORM",
   "FCCB ARABIC LIGATURE LAM WITH: KHAH INITIAL FORM, MEEM INITIAL FORM, HEH INITIAL FORM",
   "FCCE ARABIC LIGATURE MEEM WITH: JEEM INITIAL FORM, HAH INITIAL FORM, KHAH INITIAL FORM",
   "FCD1 ARABIC LIGATURE: MEEM WITH MEEM INITIAL FORM, NOON WITH JEEM INITIAL FORM",
   "FCD3 ARABIC LIGATURE NOON WITH: HAH INITIAL FORM, KHAH INITIAL FORM, MEEM INITIAL FORM",
   "FCD6 ARABIC LIGATURE: NOON WITH HEH INITIAL FORM, HEH WITH JEEM INITIAL FORM",
   "FCD8 ARABIC LIGATURE HEH WITH: MEEM INITIAL FORM, SUPERSCRIPT ALEF INITIAL FORM",
   "FCDA ARABIC LIGATURE YEH WITH: JEEM INITIAL FORM, HAH INITIAL FORM",
   "FCDC ARABIC LIGATURE YEH WITH: KHAH INITIAL FORM, MEEM INITIAL FORM, HEH INITIAL FORM",
   "FCDF ARABIC LIGATURE YEH WITH HAMZA ABOVE WITH: MEEM MEDIAL FORM, HEH MEDIAL FORM",
   "FCE1 ARABIC LIGATURE BEH WITH: MEEM MEDIAL FORM, HEH MEDIAL FORM",
   "FCE3 ARABIC LIGATURE TEH WITH: MEEM MEDIAL FORM, HEH MEDIAL FORM",
   "FCE5 ARABIC LIGATURE THEH WITH: MEEM MEDIAL FORM, HEH MEDIAL FORM",
   "FCE7 ARABIC LIGATURE SEEN WITH: MEEM MEDIAL FORM, HEH MEDIAL FORM",
   "FCE9 ARABIC LIGATURE SHEEN WITH: MEEM MEDIAL FORM, HEH MEDIAL FORM",
   "FCEB ARABIC LIGATURE KAF WITH: LAM MEDIAL FORM, MEEM MEDIAL FORM",
   "FCED ARABIC LIGATURE LAM WITH MEEM MEDIAL FORM",
   "FCEE ARABIC LIGATURE NOON WITH: MEEM MEDIAL FORM, HEH MEDIAL FORM",
   "FCF0 ARABIC LIGATURE YEH WITH: MEEM MEDIAL FORM, HEH MEDIAL FORM",
   "FCF2 ARABIC LIGATURE SHADDA WITH: FATHA MEDIAL FORM, DAMMA MEDIAL FORM, KASRA MEDIAL FORM",
   "FCF5 ARABIC LIGATURE TAH WITH: ALEF MAKSURA ISOLATED FORM, YEH ISOLATED FORM",
   "FCF7 ARABIC LIGATURE AIN WITH: ALEF MAKSURA ISOLATED FORM, YEH ISOLATED FORM",
   "FCF9 ARABIC LIGATURE GHAIN WITH: ALEF MAKSURA ISOLATED FORM, YEH ISOLATED FORM",
   "FCFB ARABIC LIGATURE SEEN WITH: ALEF MAKSURA ISOLATED FORM, YEH ISOLATED FORM",
   "FCFD ARABIC LIGATURE SHEEN WITH: ALEF MAKSURA ISOLATED FORM, YEH ISOLATED FORM",
   "FCFF ARABIC LIGATURE HAH WITH: ALEF MAKSURA ISOLATED FORM, YEH ISOLATED FORM",
   "FD01 ARABIC LIGATURE JEEM WITH: ALEF MAKSURA ISOLATED FORM, YEH ISOLATED FORM",
   "FD03 ARABIC LIGATURE KHAH WITH: ALEF MAKSURA ISOLATED FORM, YEH ISOLATED FORM",
   "FD05 ARABIC LIGATURE SAD WITH: ALEF MAKSURA ISOLATED FORM, YEH ISOLATED FORM",
   "FD07 ARABIC LIGATURE DAD WITH: ALEF MAKSURA ISOLATED FORM, YEH ISOLATED FORM",
   "FD09 ARABIC LIGATURE SHEEN WITH: JEEM ISOLATED FORM, HAH ISOLATED FORM",
   "FD0B ARABIC LIGATURE SHEEN WITH: KHAH ISOLATED FORM, MEEM ISOLATED FORM, REH ISOLATED FORM",
   "FD0E ARABIC LIGATURE SEEN WITH REH ISOLATED FORM",
   "FD0F ARABIC LIGATURE: SAD WITH REH ISOLATED FORM, DAD WITH REH ISOLATED FORM",
   "FD11 ARABIC LIGATURE TAH WITH: ALEF MAKSURA FINAL FORM, YEH FINAL FORM",
   "FD13 ARABIC LIGATURE AIN WITH: ALEF MAKSURA FINAL FORM, YEH FINAL FORM",
   "FD15 ARABIC LIGATURE GHAIN WITH: ALEF MAKSURA FINAL FORM, YEH FINAL FORM",
   "FD17 ARABIC LIGATURE SEEN WITH: ALEF MAKSURA FINAL FORM, YEH FINAL FORM",
   "FD19 ARABIC LIGATURE SHEEN WITH: ALEF MAKSURA FINAL FORM, YEH FINAL FORM",
   "FD1B ARABIC LIGATURE HAH WITH: ALEF MAKSURA FINAL FORM, YEH FINAL FORM",
   "FD1D ARABIC LIGATURE JEEM WITH: ALEF MAKSURA FINAL FORM, YEH FINAL FORM",
   "FD1F ARABIC LIGATURE KHAH WITH: ALEF MAKSURA FINAL FORM, YEH FINAL FORM",
   "FD21 ARABIC LIGATURE SAD WITH: ALEF MAKSURA FINAL FORM, YEH FINAL FORM",
   "FD23 ARABIC LIGATURE DAD WITH: ALEF MAKSURA FINAL FORM, YEH FINAL FORM",
   "FD25 ARABIC LIGATURE SHEEN WITH: JEEM FINAL FORM, HAH FINAL FORM",
   "FD27 ARABIC LIGATURE SHEEN WITH: KHAH FINAL FORM, MEEM FINAL FORM, REH FINAL FORM",
   "FD2A ARABIC LIGATURE SEEN WITH REH FINAL FORM",
   "FD2B ARABIC LIGATURE: SAD WITH REH FINAL FORM, DAD WITH REH FINAL FORM",
   "FD2D ARABIC LIGATURE SHEEN WITH: JEEM INITIAL FORM, HAH INITIAL FORM, KHAH INITIAL FORM",
   "FD30 ARABIC LIGATURE: SHEEN WITH MEEM INITIAL FORM, SEEN WITH HEH INITIAL FORM",
   "FD32 ARABIC LIGATURE: SHEEN WITH HEH INITIAL FORM, TAH WITH MEEM INITIAL FORM",
   "FD34 ARABIC LIGATURE SEEN WITH: JEEM MEDIAL FORM, HAH MEDIAL FORM, KHAH MEDIAL FORM",
   "FD37 ARABIC LIGATURE SHEEN WITH: JEEM MEDIAL FORM, HAH MEDIAL FORM, KHAH MEDIAL FORM",
   "FD3A ARABIC LIGATURE: TAH WITH MEEM MEDIAL FORM, ZAH WITH MEEM MEDIAL FORM",
   "FD3C ARABIC LIGATURE ALEF WITH FATHATAN: FINAL FORM, ISOLATED FORM",
   "FD3E ORNATE LEFT PARENTHESIS, ORNATE RIGHT PARENTHESIS, ARABIC LIGATURE RAHIMAHU ALLAAH",
   "FD41 ARABIC LIGATURE RADI ALLAAHU: ANH, ANHAA, ANHUM, ANHUMAA, ANHUNNA",
   "FD46 ARABIC LIGATURE: SALLALLAAHU ALAYHI WA-AALIH, ALAYHI AS-SALAAM, ALAYHIM AS-SALAAM",
   "FD49 ARABIC LIGATURE: ALAYHIMAA AS-SALAAM, ALAYHI AS-SALAATU WAS-SALAAM, QUDDISA SIRRAH",
   "FD4C ARABIC LIGATURE SALLALLAHU ALAYHI WAAALIHEE WA-SALLAM",
   "FD4D ARABIC LIGATURE: ALAYHAA AS-SALAAM, TABAARAKA WA-TAAALAA, RAHIMAHUM ALLAAH",
   "FD50 ARABIC LIGATURE TEH WITH JEEM WITH MEEM INITIAL FORM",
   "FD51 ARABIC LIGATURE TEH WITH HAH WITH: JEEM FINAL FORM, JEEM INITIAL FORM, MEEM INITIAL FORM",
   "FD54 ARABIC LIGATURE TEH WITH: KHAH WITH MEEM INITIAL FORM, MEEM WITH JEEM INITIAL FORM",
   "FD56 ARABIC LIGATURE TEH WITH MEEM WITH: HAH INITIAL FORM, KHAH INITIAL FORM",
   "FD58 ARABIC LIGATURE JEEM WITH MEEM WITH HAH: FINAL FORM, INITIAL FORM",
   "FD5A ARABIC LIGATURE HAH WITH MEEM WITH: YEH FINAL FORM, ALEF MAKSURA FINAL FORM",
   "FD5C ARABIC LIGATURE SEEN WITH HAH WITH JEEM INITIAL FORM",
   "FD5D ARABIC LIGATURE SEEN WITH JEEM WITH: HAH INITIAL FORM, ALEF MAKSURA FINAL FORM",
   "FD5F ARABIC LIGATURE SEEN WITH MEEM WITH: HAH FINAL FORM, HAH INITIAL FORM, JEEM INITIAL FORM",
   "FD62 ARABIC LIGATURE SEEN WITH MEEM WITH MEEM: FINAL FORM, INITIAL FORM",
   "FD64 ARABIC LIGATURE SAD WITH HAH WITH HAH: FINAL FORM, INITIAL FORM",
   "FD66 ARABIC LIGATURE: SAD WITH MEEM WITH MEEM FINAL FORM, SHEEN WITH HAH WITH MEEM FINAL FORM",
   "FD68 ARABIC LIGATURE SHEEN WITH: HAH WITH MEEM INITIAL FORM, JEEM WITH YEH FINAL FORM",
   "FD6A ARABIC LIGATURE SHEEN WITH MEEM WITH KHAH: FINAL FORM, INITIAL FORM",
   "FD6C ARABIC LIGATURE SHEEN WITH MEEM WITH MEEM: FINAL FORM, INITIAL FORM",
   "FD6E ARABIC LIGATURE DAD WITH: HAH WITH ALEF MAKSURA FINAL FORM, KHAH WITH MEEM FINAL FORM",
   "FD70 ARABIC LIGATURE: DAD WITH KHAH WITH MEEM INITIAL FORM, TAH WITH MEEM WITH HAH FINAL FORM",
   "FD72 ARABIC LIGATURE TAH WITH MEEM WITH: HAH INITIAL FORM, MEEM INITIAL FORM, YEH FINAL FORM",
   "FD75 ARABIC LIGATURE AIN WITH: JEEM WITH MEEM FINAL FORM, MEEM WITH MEEM FINAL FORM",
   "FD77 ARABIC LIGATURE AIN WITH MEEM WITH: MEEM INITIAL FORM, ALEF MAKSURA FINAL FORM",
   "FD79 ARABIC LIGATURE GHAIN WITH MEEM WITH MEEM FINAL FORM",
   "FD7A ARABIC LIGATURE GHAIN WITH MEEM WITH: YEH FINAL FORM, ALEF MAKSURA FINAL FORM",
   "FD7C ARABIC LIGATURE FEH WITH KHAH WITH MEEM: FINAL FORM, INITIAL FORM",
   "FD7E ARABIC LIGATURE QAF WITH MEEM WITH: HAH FINAL FORM, MEEM FINAL FORM",
   "FD80 ARABIC LIGATURE LAM WITH HAH WITH MEEM FINAL FORM",
   "FD81 ARABIC LIGATURE LAM WITH HAH WITH: YEH FINAL FORM, ALEF MAKSURA FINAL FORM",
   "FD83 ARABIC LIGATURE LAM WITH JEEM WITH JEEM: INITIAL FORM, FINAL FORM",
   "FD85 ARABIC LIGATURE LAM WITH KHAH WITH MEEM: FINAL FORM, INITIAL FORM",
   "FD87 ARABIC LIGATURE LAM WITH MEEM WITH HAH: FINAL FORM, INITIAL FORM",
   "FD89 ARABIC LIGATURE MEEM WITH HAH WITH: JEEM INITIAL FORM, MEEM INITIAL FORM, YEH FINAL FORM",
   "FD8C ARABIC LIGATURE MEEM WITH JEEM WITH: HAH INITIAL FORM, MEEM INITIAL FORM",
   "FD8E ARABIC LIGATURE MEEM WITH KHAH WITH: JEEM INITIAL FORM, MEEM INITIAL FORM",
   "FD92 ARABIC LIGATURE MEEM WITH JEEM WITH KHAH INITIAL FORM",
   "FD93 ARABIC LIGATURE HEH WITH MEEM WITH: JEEM INITIAL FORM, MEEM INITIAL FORM",
   "FD95 ARABIC LIGATURE NOON WITH HAH WITH: MEEM INITIAL FORM, ALEF MAKSURA FINAL FORM",
   "FD97 ARABIC LIGATURE NOON WITH JEEM WITH MEEM: FINAL FORM, INITIAL FORM",
   "FD99 ARABIC LIGATURE NOON WITH JEEM WITH ALEF MAKSURA FINAL FORM",
   "FD9A ARABIC LIGATURE NOON WITH MEEM WITH: YEH FINAL FORM, ALEF MAKSURA FINAL FORM",
   "FD9C ARABIC LIGATURE YEH WITH MEEM WITH MEEM: FINAL FORM, INITIAL FORM",
   "FD9E ARABIC LIGATURE BEH WITH KHAH WITH YEH FINAL FORM",
   "FD9F ARABIC LIGATURE TEH WITH JEEM WITH: YEH FINAL FORM, ALEF MAKSURA FINAL FORM",
   "FDA1 ARABIC LIGATURE TEH WITH KHAH WITH: YEH FINAL FORM, ALEF MAKSURA FINAL FORM",
   "FDA3 ARABIC LIGATURE TEH WITH MEEM WITH: YEH FINAL FORM, ALEF MAKSURA FINAL FORM",
   "FDA5 ARABIC LIGATURE JEEM WITH: MEEM WITH YEH FINAL FORM, HAH WITH ALEF MAKSURA FINAL FORM",
   "FDA7 ARABIC LIGATURE JEEM WITH MEEM WITH ALEF MAKSURA FINAL FORM",
   "FDA8 ARABIC LIGATURE SEEN WITH KHAH WITH ALEF MAKSURA FINAL FORM",
   "FDA9 ARABIC LIGATURE: SAD WITH HAH WITH YEH FINAL FORM, SHEEN WITH HAH WITH YEH FINAL FORM",
   "FDAB ARABIC LIGATURE: DAD WITH HAH WITH YEH FINAL FORM, LAM WITH JEEM WITH YEH FINAL FORM",
   "FDAD ARABIC LIGATURE: LAM WITH MEEM WITH YEH FINAL FORM, YEH WITH HAH WITH YEH FINAL FORM",
   "FDAF ARABIC LIGATURE YEH WITH: JEEM WITH YEH FINAL FORM, MEEM WITH YEH FINAL FORM",
   "FDB1 ARABIC LIGATURE: MEEM WITH MEEM WITH YEH FINAL FORM, QAF WITH MEEM WITH YEH FINAL FORM",
   "FDB3 ARABIC LIGATURE: NOON WITH HAH WITH YEH FINAL FORM, QAF WITH MEEM WITH HAH INITIAL FORM",
   "FDB5 ARABIC LIGATURE: LAM WITH HAH WITH MEEM INITIAL FORM, AIN WITH MEEM WITH YEH FINAL FORM",
   "FDB7 ARABIC LIGATURE: KAF WITH MEEM WITH YEH FINAL FORM, NOON WITH JEEM WITH HAH INITIAL FORM",
   "FDB9 ARABIC LIGATURE MEEM WITH KHAH WITH YEH FINAL FORM",
   "FDBA ARABIC LIGATURE LAM WITH JEEM WITH MEEM INITIAL FORM",
   "FDBB ARABIC LIGATURE KAF WITH MEEM WITH MEEM FINAL FORM",
   "FDBC ARABIC LIGATURE: LAM WITH JEEM WITH MEEM FINAL FORM, NOON WITH JEEM WITH HAH FINAL FORM",
   "FDBE ARABIC LIGATURE: JEEM WITH HAH WITH YEH FINAL FORM, HAH WITH JEEM WITH YEH FINAL FORM",
   "FDC0 ARABIC LIGATURE: MEEM WITH JEEM WITH YEH FINAL FORM, FEH WITH MEEM WITH YEH FINAL FORM",
   "FDC2 ARABIC LIGATURE: BEH WITH HAH WITH YEH FINAL FORM, KAF WITH MEEM WITH MEEM INITIAL FORM",
   "FDC4 ARABIC LIGATURE AIN WITH JEEM WITH MEEM INITIAL FORM",
   "FDC5 ARABIC LIGATURE SAD WITH MEEM WITH MEEM INITIAL FORM",
   "FDC6 ARABIC LIGATURE: SEEN WITH KHAH WITH YEH FINAL FORM, NOON WITH JEEM WITH YEH FINAL FORM",
   "FDCF ARABIC LIGATURE SALAAMUHU ALAYNAA",
   "FDF0 ARABIC LIGATURE SALLA USED AS KORANIC STOP SIGN ISOLATED FORM",
   "FDF1 ARABIC LIGATURE: QALA USED AS KORANIC STOP SIGN ISOLATED FORM, ALLAH ISOLATED FORM",
   "FDF3 ARABIC LIGATURE: AKBAR ISOLATED FORM, MOHAMMAD ISOLATED FORM, SALAM ISOLATED FORM",
   "FDF6 ARABIC LIGATURE: RASOUL ISOLATED FORM, ALAYHE ISOLATED FORM, WASALLAM ISOLATED FORM",
   "FDF9 ARABIC LIGATURE: SALLA ISOLATED FORM, SALLALLAHOU ALAYHE WASALLAM, JALLAJALALOUHOU",
   "FDFC RIAL SIGN",
   "FDFD ARABIC LIGATURE: BISMILLAH AR-RAHMAN AR-RAHEEM, SUBHAANAHU WA TAAALAA, AZZA WA JALL",
   "FE00 VARIATION: SELECTOR-1, SELECTOR-2, SELECTOR-3, SELECTOR-4",
   "FE04 VARIATION: SELECTOR-5, SELECTOR-6, SELECTOR-7, SELECTOR-8, SELECTOR-9, SELECTOR-10",
   "FE0A VARIATION: SELECTOR-11, SELECTOR-12, SELECTOR-13, SELECTOR-14, SELECTOR-15, SELECTOR-16",
   "FE10 PRESENTATION FORM FOR VERTICAL: COMMA, IDEOGRAPHIC COMMA, IDEOGRAPHIC FULL STOP",
   "FE13 PRESENTATION FORM FOR VERTICAL: COLON, SEMICOLON, EXCLAMATION MARK, QUESTION MARK",
   "FE17 PRESENTATION FORM FOR VERTICAL LEFT WHITE LENTICULAR BRACKET",
   "FE18 PRESENTATION FORM FOR VERTICAL: RIGHT WHITE LENTICULAR BRAKCET, HORIZONTAL ELLIPSIS",
   "FE20 COMBINING LIGATURE: LEFT HALF, RIGHT HALF",
   "FE22 COMBINING DOUBLE TILDE: LEFT HALF, RIGHT HALF",
   "FE24 COMBINING: MACRON LEFT HALF, MACRON RIGHT HALF, CONJOINING MACRON",
   "FE27 COMBINING LIGATURE: LEFT HALF BELOW, RIGHT HALF BELOW",
   "FE29 COMBINING TILDE: LEFT HALF BELOW, RIGHT HALF BELOW",
   "FE2B COMBINING: MACRON LEFT HALF BELOW, MACRON RIGHT HALF BELOW, CONJOINING MACRON BELOW",
   "FE2E COMBINING CYRILLIC TITLO: LEFT HALF, RIGHT HALF",
   "FE30 PRESENTATION FORM FOR VERTICAL TWO DOT LEADER",
   "FE31 PRESENTATION FORM FOR VERTICAL: EM DASH, EN DASH, LOW LINE, WAVY LOW LINE",
   "FE35 PRESENTATION FORM FOR VERTICAL: LEFT PARENTHESIS, RIGHT PARENTHESIS, LEFT CURLY BRACKET",
   "FE38 PRESENTATION FORM FOR VERTICAL: RIGHT CURLY BRACKET, LEFT TORTOISE SHELL BRACKET",
   "FE3A PRESENTATION FORM FOR VERTICAL RIGHT TORTOISE SHELL BRACKET",
   "FE3B PRESENTATION FORM FOR VERTICAL LEFT BLACK LENTICULAR BRACKET",
   "FE3C PRESENTATION FORM FOR VERTICAL RIGHT BLACK LENTICULAR BRACKET",
   "FE3D PRESENTATION FORM FOR VERTICAL: LEFT DOUBLE ANGLE BRACKET, RIGHT DOUBLE ANGLE BRACKET",
   "FE3F PRESENTATION FORM FOR VERTICAL: LEFT ANGLE BRACKET, RIGHT ANGLE BRACKET",
   "FE41 PRESENTATION FORM FOR VERTICAL: LEFT CORNER BRACKET, RIGHT CORNER BRACKET",
   "FE43 PRESENTATION FORM FOR VERTICAL: LEFT WHITE CORNER BRACKET, RIGHT WHITE CORNER BRACKET",
   "FE45 SESAME DOT, WHITE SESAME DOT",
   "FE47 PRESENTATION FORM FOR VERTICAL: LEFT SQUARE BRACKET, RIGHT SQUARE BRACKET",
   "FE49 DASHED OVERLINE, CENTRELINE OVERLINE",
   "FE4B WAVY OVERLINE, DOUBLE WAVY OVERLINE, DASHED LOW LINE, CENTRELINE LOW LINE, WAVY LOW LINE",
   "FE50 SMALL: COMMA, IDEOGRAPHIC COMMA, FULL STOP",
   "FE54 SMALL: SEMICOLON, COLON, QUESTION MARK, EXCLAMATION MARK, EM DASH",
   "FE59 SMALL: LEFT PARENTHESIS, RIGHT PARENTHESIS, LEFT CURLY BRACKET, RIGHT CURLY BRACKET",
   "FE5D SMALL: LEFT TORTOISE SHELL BRACKET, RIGHT TORTOISE SHELL BRACKET, NUMBER SIGN, AMPERSAND",
   "FE61 SMALL: ASTERISK, PLUS SIGN, HYPHEN-MINUS, LESS-THAN SIGN, GREATER-THAN SIGN, EQUALS SIGN",
   "FE68 SMALL: REVERSE SOLIDUS, DOLLAR SIGN, PERCENT SIGN, COMMERCIAL AT",
   "FE70 ARABIC: FATHATAN ISOLATED FORM, TATWEEL WITH FATHATAN ABOVE",
   "FE72 ARABIC: DAMMATAN ISOLATED FORM, TAIL FRAGMENT, KASRATAN ISOLATED FORM",
   "FE76 ARABIC: FATHA ISOLATED FORM, FATHA MEDIAL FORM, DAMMA ISOLATED FORM, DAMMA MEDIAL FORM",
   "FE7A ARABIC: KASRA ISOLATED FORM, KASRA MEDIAL FORM, SHADDA ISOLATED FORM, SHADDA MEDIAL FORM",
   "FE7E ARABIC: SUKUN ISOLATED FORM, SUKUN MEDIAL FORM, LETTER HAMZA ISOLATED FORM",
   "FE81 ARABIC LETTER ALEF WITH MADDA ABOVE: ISOLATED FORM, FINAL FORM",
   "FE83 ARABIC LETTER ALEF WITH HAMZA ABOVE: ISOLATED FORM, FINAL FORM",
   "FE85 ARABIC LETTER WAW WITH HAMZA ABOVE: ISOLATED FORM, FINAL FORM",
   "FE87 ARABIC LETTER ALEF WITH HAMZA BELOW: ISOLATED FORM, FINAL FORM",
   "FE89 ARABIC LETTER YEH WITH HAMZA ABOVE: ISOLATED FORM, FINAL FORM, INITIAL FORM, MEDIAL FORM",
   "FE8D ARABIC LETTER ALEF: ISOLATED FORM, FINAL FORM",
   "FE8F ARABIC LETTER BEH: ISOLATED FORM, FINAL FORM, INITIAL FORM, MEDIAL FORM",
   "FE93 ARABIC LETTER TEH MARBUTA: ISOLATED FORM, FINAL FORM",
   "FE95 ARABIC LETTER TEH: ISOLATED FORM, FINAL FORM, INITIAL FORM, MEDIAL FORM",
   "FE99 ARABIC LETTER THEH: ISOLATED FORM, FINAL FORM, INITIAL FORM, MEDIAL FORM",
   "FE9D ARABIC LETTER JEEM: ISOLATED FORM, FINAL FORM, INITIAL FORM, MEDIAL FORM",
   "FEA1 ARABIC LETTER HAH: ISOLATED FORM, FINAL FORM, INITIAL FORM, MEDIAL FORM",
   "FEA5 ARABIC LETTER KHAH: ISOLATED FORM, FINAL FORM, INITIAL FORM, MEDIAL FORM",
   "FEA9 ARABIC LETTER: DAL ISOLATED FORM, DAL FINAL FORM, THAL ISOLATED FORM, THAL FINAL FORM",
   "FEAD ARABIC LETTER: REH ISOLATED FORM, REH FINAL FORM, ZAIN ISOLATED FORM, ZAIN FINAL FORM",
   "FEB1 ARABIC LETTER SEEN: ISOLATED FORM, FINAL FORM, INITIAL FORM, MEDIAL FORM",
   "FEB5 ARABIC LETTER SHEEN: ISOLATED FORM, FINAL FORM, INITIAL FORM, MEDIAL FORM",
   "FEB9 ARABIC LETTER SAD: ISOLATED FORM, FINAL FORM, INITIAL FORM, MEDIAL FORM",
   "FEBD ARABIC LETTER DAD: ISOLATED FORM, FINAL FORM, INITIAL FORM, MEDIAL FORM",
   "FEC1 ARABIC LETTER TAH: ISOLATED FORM, FINAL FORM, INITIAL FORM, MEDIAL FORM",
   "FEC5 ARABIC LETTER ZAH: ISOLATED FORM, FINAL FORM, INITIAL FORM, MEDIAL FORM",
   "FEC9 ARABIC LETTER AIN: ISOLATED FORM, FINAL FORM, INITIAL FORM, MEDIAL FORM",
   "FECD ARABIC LETTER GHAIN: ISOLATED FORM, FINAL FORM, INITIAL FORM, MEDIAL FORM",
   "FED1 ARABIC LETTER FEH: ISOLATED FORM, FINAL FORM, INITIAL FORM, MEDIAL FORM",
   "FED5 ARABIC LETTER QAF: ISOLATED FORM, FINAL FORM, INITIAL FORM, MEDIAL FORM",
   "FED9 ARABIC LETTER KAF: ISOLATED FORM, FINAL FORM, INITIAL FORM, MEDIAL FORM",
   "FEDD ARABIC LETTER LAM: ISOLATED FORM, FINAL FORM, INITIAL FORM, MEDIAL FORM",
   "FEE1 ARABIC LETTER MEEM: ISOLATED FORM, FINAL FORM, INITIAL FORM, MEDIAL FORM",
   "FEE5 ARABIC LETTER NOON: ISOLATED FORM, FINAL FORM, INITIAL FORM, MEDIAL FORM",
   "FEE9 ARABIC LETTER HEH: ISOLATED FORM, FINAL FORM, INITIAL FORM, MEDIAL FORM",
   "FEED ARABIC LETTER WAW: ISOLATED FORM, FINAL FORM",
   "FEEF ARABIC LETTER ALEF MAKSURA: ISOLATED FORM, FINAL FORM",
   "FEF1 ARABIC LETTER YEH: ISOLATED FORM, FINAL FORM, INITIAL FORM, MEDIAL FORM",
   "FEF5 ARABIC LIGATURE LAM WITH ALEF WITH MADDA ABOVE: ISOLATED FORM, FINAL FORM",
   "FEF7 ARABIC LIGATURE LAM WITH ALEF WITH HAMZA ABOVE: ISOLATED FORM, FINAL FORM",
   "FEF9 ARABIC LIGATURE LAM WITH ALEF WITH HAMZA BELOW: ISOLATED FORM, FINAL FORM",
   "FEFB ARABIC LIGATURE LAM WITH ALEF: ISOLATED FORM, FINAL FORM",
   "FEFF ZERO WIDTH NO-BREAK SPACE",
   "FF01 FULLWIDTH: EXCLAMATION MARK, QUOTATION MARK, NUMBER SIGN, DOLLAR SIGN",
   "FF05 FULLWIDTH: PERCENT SIGN, AMPERSAND, APOSTROPHE, LEFT PARENTHESIS, RIGHT PARENTHESIS",
   "FF0A FULLWIDTH: ASTERISK, PLUS SIGN, COMMA, HYPHEN-MINUS, FULL STOP, SOLIDUS",
   "FF10 FULLWIDTH DIGIT: ZERO, ONE, TWO, THREE, FOUR, FIVE, SIX, SEVEN, EIGHT, NINE",
   "FF1A FULLWIDTH: COLON, SEMICOLON",
   "FF1C FULLWIDTH: LESS-THAN SIGN, EQUALS SIGN, GREATER-THAN SIGN, QUESTION MARK, COMMERCIAL AT",
   "FF21 FULLWIDTH LATIN CAPITAL LETTER: A, B, C, D, E, F, G",
   "FF28 FULLWIDTH LATIN CAPITAL LETTER: H, I, J, K, L, M, N, O, P, Q, R, S, T, U, V, W, X, Y, Z",
   "FF3B FULLWIDTH: LEFT SQUARE BRACKET, REVERSE SOLIDUS",
   "FF3D FULLWIDTH: RIGHT SQUARE BRACKET, CIRCUMFLEX ACCENT, LOW LINE, GRAVE ACCENT",
   "FF41 FULLWIDTH LATIN SMALL LETTER: A, B, C, D, E, F",
   "FF47 FULLWIDTH LATIN SMALL LETTER: G, H, I, J, K, L, M, N, O, P, Q, R, S, T, U, V, W, X, Y, Z",
   "FF5B FULLWIDTH: LEFT CURLY BRACKET, VERTICAL LINE",
   "FF5D FULLWIDTH: RIGHT CURLY BRACKET, TILDE, LEFT WHITE PARENTHESIS, RIGHT WHITE PARENTHESIS",
   "FF61 HALFWIDTH: IDEOGRAPHIC FULL STOP, LEFT CORNER BRACKET, RIGHT CORNER BRACKET",
   "FF64 HALFWIDTH: IDEOGRAPHIC COMMA, KATAKANA MIDDLE DOT, KATAKANA LETTER WO",
   "FF67 HALFWIDTH KATAKANA LETTER SMALL: A, I, U, E, O, YA, YU, YO, TU",
   "FF70 HALFWIDTH KATAKANA-HIRAGANA PROLONGED SOUND MARK",
   "FF71 HALFWIDTH KATAKANA LETTER: A, I, U, E, O, KA, KI, KU, KE, KO, SA, SI, SU, SE",
   "FF7F HALFWIDTH KATAKANA LETTER: SO, TA, TI, TU, TE, TO, NA, NI, NU, NE, NO, HA, HI, HU, HE",
   "FF8E HALFWIDTH KATAKANA LETTER: HO, MA, MI, MU, ME, MO, YA, YU, YO, RA, RI, RU, RE, RO, WA, N",
   "FF9E HALFWIDTH KATAKANA: VOICED SOUND MARK, SEMI-VOICED SOUND MARK",
   "FFA0 HALFWIDTH HANGUL: FILLER, LETTER KIYEOK, LETTER SSANGKIYEOK",
   "FFA3 HALFWIDTH HANGUL LETTER: KIYEOK-SIOS, NIEUN, NIEUN-CIEUC, NIEUN-HIEUH, TIKEUT",
   "FFA8 HALFWIDTH HANGUL LETTER: SSANGTIKEUT, RIEUL, RIEUL-KIYEOK, RIEUL-MIEUM, RIEUL-PIEUP",
   "FFAD HALFWIDTH HANGUL LETTER: RIEUL-SIOS, RIEUL-THIEUTH, RIEUL-PHIEUPH, RIEUL-HIEUH",
   "FFB1 HALFWIDTH HANGUL LETTER: MIEUM, PIEUP, SSANGPIEUP, PIEUP-SIOS, SIOS, SSANGSIOS, IEUNG",
   "FFB8 HALFWIDTH HANGUL LETTER: CIEUC, SSANGCIEUC, CHIEUCH, KHIEUKH, THIEUTH, PHIEUPH, HIEUH",
   "FFC2 HALFWIDTH HANGUL LETTER: A, AE, YA, YAE, EO, E",
   "FFCA HALFWIDTH HANGUL LETTER: YEO, YE, O, WA, WAE, OE",
   "FFD2 HALFWIDTH HANGUL LETTER: YO, U, WEO, WE, WI, YU",
   "FFDA HALFWIDTH HANGUL LETTER: EU, YI, I",
   "FFE0 FULLWIDTH: CENT SIGN, POUND SIGN, NOT SIGN, MACRON, BROKEN BAR, YEN SIGN, WON SIGN",
   "FFE8 HALFWIDTH: FORMS LIGHT VERTICAL, LEFTWARDS ARROW",
   "FFEA HALFWIDTH: UPWARDS ARROW, RIGHTWARDS ARROW, DOWNWARDS ARROW, BLACK SQUARE, WHITE CIRCLE",
   "FFF9 INTERLINEAR ANNOTATION: ANCHOR, SEPARATOR, TERMINATOR",
   "FFFC OBJECT REPLACEMENT CHARACTER, REPLACEMENT CHARACTER"]

end Codegen.Text.CharName
