/-!
Names of characters, from version 14 of the Unicode Character Database: punctuation, arrows,
mathematics and other signs, U+2000 to U+2FFF.
-/

namespace Codegen.Text.CharName

def signRows : List String :=
  ["2000 EN QUAD, EM QUAD, EN SPACE, EM SPACE, THREE-PER-EM SPACE, FOUR-PER-EM SPACE",
   "2006 SIX-PER-EM SPACE, FIGURE SPACE, PUNCTUATION SPACE, THIN SPACE, HAIR SPACE",
   "200B ZERO WIDTH: SPACE, NON-JOINER, JOINER",
   "200E LEFT-TO-RIGHT MARK, RIGHT-TO-LEFT MARK, HYPHEN",
   "2011 NON-BREAKING HYPHEN, FIGURE DASH, EN DASH, EM DASH, HORIZONTAL BAR, DOUBLE VERTICAL LINE",
   "2017 DOUBLE LOW LINE, LEFT SINGLE QUOTATION MARK, RIGHT SINGLE QUOTATION MARK",
   "201A SINGLE: LOW-9 QUOTATION MARK, HIGH-REVERSED-9 QUOTATION MARK",
   "201C LEFT DOUBLE QUOTATION MARK, RIGHT DOUBLE QUOTATION MARK",
   "201E DOUBLE: LOW-9 QUOTATION MARK, HIGH-REVERSED-9 QUOTATION MARK",
   "2020 DAGGER, DOUBLE DAGGER, BULLET, TRIANGULAR BULLET, ONE DOT LEADER, TWO DOT LEADER",
   "2026 HORIZONTAL ELLIPSIS, HYPHENATION POINT, LINE SEPARATOR, PARAGRAPH SEPARATOR",
   "202A LEFT-TO-RIGHT EMBEDDING, RIGHT-TO-LEFT EMBEDDING, POP DIRECTIONAL FORMATTING",
   "202D LEFT-TO-RIGHT OVERRIDE, RIGHT-TO-LEFT OVERRIDE, NARROW NO-BREAK SPACE",
   "2030 PER MILLE SIGN, PER TEN THOUSAND SIGN, PRIME, DOUBLE PRIME, TRIPLE PRIME",
   "2035 REVERSED: PRIME, DOUBLE PRIME, TRIPLE PRIME",
   "2038 CARET",
   "2039 SINGLE: LEFT-POINTING ANGLE QUOTATION MARK, RIGHT-POINTING ANGLE QUOTATION MARK",
   "203B REFERENCE MARK, DOUBLE EXCLAMATION MARK, INTERROBANG",
   "203E OVERLINE, UNDERTIE, CHARACTER TIE, CARET INSERTION POINT, ASTERISM, HYPHEN BULLET",
   "2044 FRACTION SLASH, LEFT SQUARE BRACKET WITH QUILL, RIGHT SQUARE BRACKET WITH QUILL",
   "2047 DOUBLE QUESTION MARK, QUESTION EXCLAMATION MARK, EXCLAMATION QUESTION MARK",
   "204A TIRONIAN SIGN ET, REVERSED PILCROW SIGN, BLACK LEFTWARDS BULLET",
   "204D BLACK RIGHTWARDS BULLET, LOW ASTERISK, REVERSED SEMICOLON, CLOSE UP",
   "2051 TWO ASTERISKS ALIGNED VERTICALLY, COMMERCIAL MINUS SIGN, SWUNG DASH, INVERTED UNDERTIE",
   "2055 FLOWER PUNCTUATION MARK, THREE DOT PUNCTUATION, QUADRUPLE PRIME, FOUR DOT PUNCTUATION",
   "2059 FIVE DOT PUNCTUATION, TWO DOT PUNCTUATION, FOUR DOT MARK, DOTTED CROSS, TRICOLON",
   "205E VERTICAL FOUR DOTS, MEDIUM MATHEMATICAL SPACE, WORD JOINER, FUNCTION APPLICATION",
   "2062 INVISIBLE: TIMES, SEPARATOR, PLUS",
   "2066 LEFT-TO-RIGHT ISOLATE",
   "2067 RIGHT-TO-LEFT ISOLATE, FIRST STRONG ISOLATE, POP DIRECTIONAL ISOLATE",
   "206A INHIBIT SYMMETRIC SWAPPING, ACTIVATE SYMMETRIC SWAPPING, INHIBIT ARABIC FORM SHAPING",
   "206D ACTIVATE ARABIC FORM SHAPING, NATIONAL DIGIT SHAPES, NOMINAL DIGIT SHAPES",
   "2070 SUPERSCRIPT: ZERO, LATIN SMALL LETTER I",
   "2074 SUPERSCRIPT: FOUR, FIVE, SIX, SEVEN, EIGHT, NINE, PLUS SIGN, MINUS",
   "207C SUPERSCRIPT: EQUALS SIGN, LEFT PARENTHESIS, RIGHT PARENTHESIS, LATIN SMALL LETTER N",
   "2080 SUBSCRIPT: ZERO, ONE, TWO, THREE, FOUR, FIVE, SIX, SEVEN, EIGHT",
   "2089 SUBSCRIPT: NINE, PLUS SIGN, MINUS, EQUALS SIGN, LEFT PARENTHESIS, RIGHT PARENTHESIS",
   "2090 LATIN SUBSCRIPT SMALL LETTER: A, E, O, X, SCHWA, H, K, L, M, N, P, S, T",
   "20A0 EURO-CURRENCY SIGN, COLON SIGN, CRUZEIRO SIGN",
   "20A3 FRENCH FRANC SIGN, LIRA SIGN, MILL SIGN, NAIRA SIGN, PESETA SIGN, RUPEE SIGN",
   "20A9 WON SIGN, NEW SHEQEL SIGN, DONG SIGN, EURO SIGN, KIP SIGN, TUGRIK SIGN, DRACHMA SIGN",
   "20B0 GERMAN PENNY SIGN, PESO SIGN, GUARANI SIGN, AUSTRAL SIGN, HRYVNIA SIGN, CEDI SIGN",
   "20B6 LIVRE TOURNOIS SIGN, SPESMILO SIGN, TENGE SIGN, INDIAN RUPEE SIGN, TURKISH LIRA SIGN",
   "20BB NORDIC MARK SIGN, MANAT SIGN, RUBLE SIGN, LARI SIGN, BITCOIN SIGN, SOM SIGN",
   "20D0 COMBINING: LEFT HARPOON ABOVE, RIGHT HARPOON ABOVE, LONG VERTICAL LINE OVERLAY",
   "20D3 COMBINING: SHORT VERTICAL LINE OVERLAY, ANTICLOCKWISE ARROW ABOVE, CLOCKWISE ARROW ABOVE",
   "20D6 COMBINING: LEFT ARROW ABOVE, RIGHT ARROW ABOVE, RING OVERLAY, CLOCKWISE RING OVERLAY",
   "20DA COMBINING: ANTICLOCKWISE RING OVERLAY, THREE DOTS ABOVE, FOUR DOTS ABOVE",
   "20DD COMBINING ENCLOSING: CIRCLE, SQUARE, DIAMOND, CIRCLE BACKSLASH",
   "20E1 COMBINING LEFT RIGHT ARROW ABOVE",
   "20E2 COMBINING ENCLOSING: SCREEN, KEYCAP, UPWARD POINTING TRIANGLE",
   "20E5 COMBINING REVERSE SOLIDUS OVERLAY",
   "20E6 COMBINING: DOUBLE VERTICAL STROKE OVERLAY, ANNUITY SYMBOL, TRIPLE UNDERDOT",
   "20E9 COMBINING: WIDE BRIDGE ABOVE, LEFTWARDS ARROW OVERLAY, LONG DOUBLE SOLIDUS OVERLAY",
   "20EC COMBINING: RIGHTWARDS HARPOON WITH BARB DOWNWARDS, LEFTWARDS HARPOON WITH BARB DOWNWARDS",
   "20EE COMBINING: LEFT ARROW BELOW, RIGHT ARROW BELOW, ASTERISK ABOVE",
   "2100 ACCOUNT OF, ADDRESSED TO THE SUBJECT, DOUBLE-STRUCK CAPITAL C",
   "2103 DEGREE CELSIUS, CENTRE LINE SYMBOL, CARE OF, CADA UNA, EULER CONSTANT",
   "2108 SCRUPLE, DEGREE FAHRENHEIT, SCRIPT SMALL G, SCRIPT CAPITAL H, BLACK-LETTER CAPITAL H",
   "210D DOUBLE-STRUCK CAPITAL H, PLANCK CONSTANT, PLANCK CONSTANT OVER TWO PI, SCRIPT CAPITAL I",
   "2111 BLACK-LETTER CAPITAL I, SCRIPT CAPITAL L, SCRIPT SMALL L, L B BAR SYMBOL",
   "2115 DOUBLE-STRUCK CAPITAL N, NUMERO SIGN, SOUND RECORDING COPYRIGHT, SCRIPT CAPITAL P",
   "2119 DOUBLE-STRUCK CAPITAL: P, Q",
   "211B SCRIPT CAPITAL R, BLACK-LETTER CAPITAL R, DOUBLE-STRUCK CAPITAL R",
   "211E PRESCRIPTION TAKE, RESPONSE, SERVICE MARK, TELEPHONE SIGN, TRADE MARK SIGN",
   "2123 VERSICLE, DOUBLE-STRUCK CAPITAL Z, OUNCE SIGN, OHM SIGN, INVERTED OHM SIGN",
   "2128 BLACK-LETTER CAPITAL Z, TURNED GREEK SMALL LETTER IOTA, KELVIN SIGN, ANGSTROM SIGN",
   "212C SCRIPT CAPITAL B, BLACK-LETTER CAPITAL C, ESTIMATED SYMBOL, SCRIPT SMALL E",
   "2130 SCRIPT CAPITAL: E, F",
   "2132 TURNED CAPITAL F, SCRIPT CAPITAL M, SCRIPT SMALL O, ALEF SYMBOL, BET SYMBOL",
   "2137 GIMEL SYMBOL, DALET SYMBOL, INFORMATION SOURCE, ROTATED CAPITAL Q, FACSIMILE SIGN",
   "213C DOUBLE-STRUCK: SMALL PI, SMALL GAMMA, CAPITAL GAMMA, CAPITAL PI, N-ARY SUMMATION",
   "2141 TURNED SANS-SERIF CAPITAL: G, L",
   "2143 REVERSED SANS-SERIF CAPITAL L, TURNED SANS-SERIF CAPITAL Y",
   "2145 DOUBLE-STRUCK ITALIC: CAPITAL D, SMALL D, SMALL E, SMALL I, SMALL J",
   "214A PROPERTY LINE",
   "214B TURNED AMPERSAND, PER SIGN, AKTIESELSKAB, TURNED SMALL F, SYMBOL FOR SAMARITAN SOURCE",
   "2150 VULGAR FRACTION ONE: SEVENTH, NINTH, TENTH, THIRD",
   "2154 VULGAR FRACTION: TWO THIRDS, ONE FIFTH, TWO FIFTHS, THREE FIFTHS, FOUR FIFTHS, ONE SIXTH",
   "215A VULGAR FRACTION: FIVE SIXTHS, ONE EIGHTH, THREE EIGHTHS, FIVE EIGHTHS, SEVEN EIGHTHS",
   "215F FRACTION NUMERATOR ONE",
   "2160 ROMAN NUMERAL: ONE, TWO, THREE, FOUR, FIVE, SIX, SEVEN, EIGHT",
   "2168 ROMAN NUMERAL: NINE, TEN, ELEVEN, TWELVE, FIFTY, ONE HUNDRED, FIVE HUNDRED, ONE THOUSAND",
   "2170 SMALL ROMAN NUMERAL: ONE, TWO, THREE, FOUR, FIVE, SIX, SEVEN, EIGHT, NINE",
   "2179 SMALL ROMAN NUMERAL: TEN, ELEVEN, TWELVE, FIFTY, ONE HUNDRED, FIVE HUNDRED, ONE THOUSAND",
   "2180 ROMAN NUMERAL: ONE THOUSAND C D, FIVE THOUSAND, TEN THOUSAND, REVERSED ONE HUNDRED",
   "2184 LATIN SMALL LETTER REVERSED C",
   "2185 ROMAN NUMERAL: SIX LATE FORM, FIFTY EARLY FORM, FIFTY THOUSAND, ONE HUNDRED THOUSAND",
   "2189 VULGAR FRACTION ZERO THIRDS",
   "218A TURNED DIGIT: TWO, THREE",
   "2190 LEFTWARDS ARROW, UPWARDS ARROW",
   "2192 RIGHTWARDS ARROW, DOWNWARDS ARROW, LEFT RIGHT ARROW, UP DOWN ARROW, NORTH WEST ARROW",
   "2197 NORTH EAST ARROW, SOUTH EAST ARROW, SOUTH WEST ARROW, LEFTWARDS ARROW WITH STROKE",
   "219B RIGHTWARDS ARROW WITH STROKE, LEFTWARDS WAVE ARROW, RIGHTWARDS WAVE ARROW",
   "219E LEFTWARDS TWO HEADED ARROW, UPWARDS TWO HEADED ARROW, RIGHTWARDS TWO HEADED ARROW",
   "21A1 DOWNWARDS TWO HEADED ARROW, LEFTWARDS ARROW WITH TAIL, RIGHTWARDS ARROW WITH TAIL",
   "21A4 LEFTWARDS ARROW FROM BAR, UPWARDS ARROW FROM BAR, RIGHTWARDS ARROW FROM BAR",
   "21A7 DOWNWARDS ARROW FROM BAR, UP DOWN ARROW WITH BASE, LEFTWARDS ARROW WITH HOOK",
   "21AA RIGHTWARDS ARROW WITH HOOK, LEFTWARDS ARROW WITH LOOP, RIGHTWARDS ARROW WITH LOOP",
   "21AD LEFT RIGHT WAVE ARROW, LEFT RIGHT ARROW WITH STROKE, DOWNWARDS ZIGZAG ARROW",
   "21B0 UPWARDS ARROW WITH TIP: LEFTWARDS, RIGHTWARDS",
   "21B2 DOWNWARDS ARROW WITH TIP: LEFTWARDS, RIGHTWARDS",
   "21B4 RIGHTWARDS ARROW WITH CORNER DOWNWARDS, DOWNWARDS ARROW WITH CORNER LEFTWARDS",
   "21B6 ANTICLOCKWISE TOP SEMICIRCLE ARROW, CLOCKWISE TOP SEMICIRCLE ARROW",
   "21B8 NORTH WEST ARROW TO LONG BAR, LEFTWARDS ARROW TO BAR OVER RIGHTWARDS ARROW TO BAR",
   "21BA ANTICLOCKWISE OPEN CIRCLE ARROW, CLOCKWISE OPEN CIRCLE ARROW",
   "21BC LEFTWARDS HARPOON WITH BARB: UPWARDS, DOWNWARDS",
   "21BE UPWARDS HARPOON WITH BARB: RIGHTWARDS, LEFTWARDS",
   "21C0 RIGHTWARDS HARPOON WITH BARB: UPWARDS, DOWNWARDS",
   "21C2 DOWNWARDS HARPOON WITH BARB: RIGHTWARDS, LEFTWARDS",
   "21C4 RIGHTWARDS ARROW OVER LEFTWARDS ARROW, UPWARDS ARROW LEFTWARDS OF DOWNWARDS ARROW",
   "21C6 LEFTWARDS: ARROW OVER RIGHTWARDS ARROW, PAIRED ARROWS",
   "21C8 UPWARDS PAIRED ARROWS, RIGHTWARDS PAIRED ARROWS, DOWNWARDS PAIRED ARROWS",
   "21CB LEFTWARDS HARPOON OVER RIGHTWARDS HARPOON, RIGHTWARDS HARPOON OVER LEFTWARDS HARPOON",
   "21CD LEFTWARDS DOUBLE ARROW WITH STROKE, LEFT RIGHT DOUBLE ARROW WITH STROKE",
   "21CF RIGHTWARDS DOUBLE ARROW WITH STROKE, LEFTWARDS DOUBLE ARROW, UPWARDS DOUBLE ARROW",
   "21D2 RIGHTWARDS DOUBLE ARROW, DOWNWARDS DOUBLE ARROW, LEFT RIGHT DOUBLE ARROW",
   "21D5 UP DOWN DOUBLE ARROW, NORTH WEST DOUBLE ARROW, NORTH EAST DOUBLE ARROW",
   "21D8 SOUTH: EAST DOUBLE ARROW, WEST DOUBLE ARROW",
   "21DA LEFTWARDS TRIPLE ARROW, RIGHTWARDS TRIPLE ARROW",
   "21DC LEFTWARDS SQUIGGLE ARROW, RIGHTWARDS SQUIGGLE ARROW, UPWARDS ARROW WITH DOUBLE STROKE",
   "21DF DOWNWARDS ARROW WITH DOUBLE STROKE, LEFTWARDS DASHED ARROW",
   "21E1 UPWARDS DASHED ARROW, RIGHTWARDS DASHED ARROW, DOWNWARDS DASHED ARROW",
   "21E4 LEFTWARDS ARROW TO BAR, RIGHTWARDS ARROW TO BAR, LEFTWARDS WHITE ARROW",
   "21E7 UPWARDS WHITE ARROW, RIGHTWARDS WHITE ARROW, DOWNWARDS WHITE ARROW",
   "21EA UPWARDS WHITE ARROW: FROM BAR, ON PEDESTAL",
   "21EC UPWARDS WHITE ARROW ON PEDESTAL WITH: HORIZONTAL BAR, VERTICAL BAR",
   "21EE UPWARDS WHITE DOUBLE: ARROW, ARROW ON PEDESTAL",
   "21F0 RIGHTWARDS WHITE ARROW FROM WALL, NORTH WEST ARROW TO CORNER",
   "21F2 SOUTH EAST ARROW TO CORNER, UP DOWN WHITE ARROW, RIGHT ARROW WITH SMALL CIRCLE",
   "21F5 DOWNWARDS ARROW LEFTWARDS OF UPWARDS ARROW, THREE RIGHTWARDS ARROWS",
   "21F7 LEFTWARDS ARROW WITH VERTICAL STROKE, RIGHTWARDS ARROW WITH VERTICAL STROKE",
   "21F9 LEFT RIGHT ARROW WITH VERTICAL STROKE, LEFTWARDS ARROW WITH DOUBLE VERTICAL STROKE",
   "21FB RIGHTWARDS ARROW WITH DOUBLE VERTICAL STROKE",
   "21FC LEFT RIGHT ARROW WITH DOUBLE VERTICAL STROKE",
   "21FD LEFTWARDS OPEN-HEADED ARROW, RIGHTWARDS OPEN-HEADED ARROW, LEFT RIGHT OPEN-HEADED ARROW",
   "2200 FOR ALL, COMPLEMENT, PARTIAL DIFFERENTIAL, THERE EXISTS, THERE DOES NOT EXIST",
   "2205 EMPTY SET, INCREMENT, NABLA, ELEMENT OF, NOT AN ELEMENT OF, SMALL ELEMENT OF",
   "220B CONTAINS AS MEMBER, DOES NOT CONTAIN AS MEMBER, SMALL CONTAINS AS MEMBER, END OF PROOF",
   "220F N-ARY: PRODUCT, COPRODUCT, SUMMATION",
   "2212 MINUS SIGN, MINUS-OR-PLUS SIGN, DOT PLUS, DIVISION SLASH, SET MINUS, ASTERISK OPERATOR",
   "2218 RING OPERATOR, BULLET OPERATOR, SQUARE ROOT, CUBE ROOT, FOURTH ROOT, PROPORTIONAL TO",
   "221E INFINITY, RIGHT ANGLE, ANGLE, MEASURED ANGLE, SPHERICAL ANGLE, DIVIDES, DOES NOT DIVIDE",
   "2225 PARALLEL TO, NOT PARALLEL TO, LOGICAL AND, LOGICAL OR, INTERSECTION, UNION, INTEGRAL",
   "222C DOUBLE INTEGRAL, TRIPLE INTEGRAL, CONTOUR INTEGRAL, SURFACE INTEGRAL, VOLUME INTEGRAL",
   "2231 CLOCKWISE INTEGRAL, CLOCKWISE CONTOUR INTEGRAL, ANTICLOCKWISE CONTOUR INTEGRAL",
   "2234 THEREFORE, BECAUSE, RATIO, PROPORTION, DOT MINUS, EXCESS, GEOMETRIC PROPORTION",
   "223B HOMOTHETIC, TILDE OPERATOR, REVERSED TILDE, INVERTED LAZY S, SINE WAVE, WREATH PRODUCT",
   "2241 NOT TILDE, MINUS TILDE, ASYMPTOTICALLY EQUAL TO, NOT ASYMPTOTICALLY EQUAL TO",
   "2245 APPROXIMATELY: EQUAL TO, BUT NOT ACTUALLY EQUAL TO",
   "2247 NEITHER APPROXIMATELY NOR ACTUALLY EQUAL TO",
   "2248 ALMOST EQUAL TO, NOT ALMOST EQUAL TO, ALMOST EQUAL OR EQUAL TO, TRIPLE TILDE",
   "224C ALL EQUAL TO, EQUIVALENT TO, GEOMETRICALLY EQUIVALENT TO, DIFFERENCE BETWEEN",
   "2250 APPROACHES THE LIMIT, GEOMETRICALLY EQUAL TO, APPROXIMATELY EQUAL TO OR THE IMAGE OF",
   "2253 IMAGE OF OR APPROXIMATELY EQUAL TO, COLON EQUALS, EQUALS COLON",
   "2256 RING IN EQUAL TO, RING EQUAL TO, CORRESPONDS TO, ESTIMATES, EQUIANGULAR TO, STAR EQUALS",
   "225C DELTA EQUAL TO, EQUAL TO BY DEFINITION, MEASURED BY, QUESTIONED EQUAL TO, NOT EQUAL TO",
   "2261 IDENTICAL TO, NOT IDENTICAL TO, STRICTLY EQUIVALENT TO, LESS-THAN OR EQUAL TO",
   "2265 GREATER-THAN OR EQUAL TO, LESS-THAN OVER EQUAL TO, GREATER-THAN OVER EQUAL TO",
   "2268 LESS-THAN BUT NOT EQUAL TO, GREATER-THAN BUT NOT EQUAL TO, MUCH LESS-THAN",
   "226B MUCH GREATER-THAN, BETWEEN, NOT EQUIVALENT TO, NOT LESS-THAN, NOT GREATER-THAN",
   "2270 NEITHER: LESS-THAN NOR EQUAL TO, GREATER-THAN NOR EQUAL TO",
   "2272 LESS-THAN OR EQUIVALENT TO, GREATER-THAN OR EQUIVALENT TO",
   "2274 NEITHER: LESS-THAN NOR EQUIVALENT TO, GREATER-THAN NOR EQUIVALENT TO",
   "2276 LESS-THAN OR GREATER-THAN, GREATER-THAN OR LESS-THAN",
   "2278 NEITHER LESS-THAN NOR GREATER-THAN, NEITHER GREATER-THAN NOR LESS-THAN, PRECEDES",
   "227B SUCCEEDS, PRECEDES OR EQUAL TO, SUCCEEDS OR EQUAL TO, PRECEDES OR EQUIVALENT TO",
   "227F SUCCEEDS OR EQUIVALENT TO, DOES NOT PRECEDE, DOES NOT SUCCEED, SUBSET OF, SUPERSET OF",
   "2284 NOT A SUBSET OF, NOT A SUPERSET OF, SUBSET OF OR EQUAL TO, SUPERSET OF OR EQUAL TO",
   "2288 NEITHER A: SUBSET OF NOR EQUAL TO, SUPERSET OF NOR EQUAL TO",
   "228A SUBSET OF WITH NOT EQUAL TO, SUPERSET OF WITH NOT EQUAL TO, MULTISET",
   "228D MULTISET: MULTIPLICATION, UNION",
   "228F SQUARE: IMAGE OF, ORIGINAL OF, IMAGE OF OR EQUAL TO, ORIGINAL OF OR EQUAL TO, CAP, CUP",
   "2295 CIRCLED: PLUS, MINUS, TIMES",
   "2298 CIRCLED: DIVISION SLASH, DOT OPERATOR, RING OPERATOR, ASTERISK OPERATOR, EQUALS, DASH",
   "229E SQUARED: PLUS, MINUS, TIMES, DOT OPERATOR",
   "22A2 RIGHT TACK, LEFT TACK",
   "22A4 DOWN TACK, UP TACK, ASSERTION, MODELS, TRUE, FORCES, TRIPLE VERTICAL BAR RIGHT TURNSTILE",
   "22AB DOUBLE VERTICAL BAR DOUBLE RIGHT TURNSTILE, DOES NOT PROVE, NOT TRUE, DOES NOT FORCE",
   "22AF NEGATED DOUBLE VERTICAL BAR DOUBLE RIGHT TURNSTILE, PRECEDES UNDER RELATION",
   "22B1 SUCCEEDS UNDER RELATION, NORMAL SUBGROUP OF, CONTAINS AS NORMAL SUBGROUP",
   "22B4 NORMAL SUBGROUP OF OR EQUAL TO, CONTAINS AS NORMAL SUBGROUP OR EQUAL TO",
   "22B6 ORIGINAL OF, IMAGE OF, MULTIMAP, HERMITIAN CONJUGATE MATRIX, INTERCALATE, XOR, NAND, NOR",
   "22BE RIGHT: ANGLE WITH ARC, TRIANGLE",
   "22C0 N-ARY: LOGICAL AND, LOGICAL OR, INTERSECTION, UNION",
   "22C4 DIAMOND OPERATOR, DOT OPERATOR, STAR OPERATOR, DIVISION TIMES",
   "22C8 BOWTIE, LEFT NORMAL FACTOR SEMIDIRECT PRODUCT, RIGHT NORMAL FACTOR SEMIDIRECT PRODUCT",
   "22CB LEFT SEMIDIRECT PRODUCT, RIGHT SEMIDIRECT PRODUCT, REVERSED TILDE EQUALS",
   "22CE CURLY LOGICAL: OR, AND",
   "22D0 DOUBLE: SUBSET, SUPERSET, INTERSECTION, UNION",
   "22D4 PITCHFORK, EQUAL AND PARALLEL TO, LESS-THAN WITH DOT, GREATER-THAN WITH DOT",
   "22D8 VERY MUCH: LESS-THAN, GREATER-THAN",
   "22DA LESS-THAN EQUAL TO OR GREATER-THAN, GREATER-THAN EQUAL TO OR LESS-THAN",
   "22DC EQUAL TO OR: LESS-THAN, GREATER-THAN, PRECEDES, SUCCEEDS",
   "22E0 DOES NOT: PRECEDE OR EQUAL, SUCCEED OR EQUAL",
   "22E2 NOT SQUARE: IMAGE OF OR EQUAL TO, ORIGINAL OF OR EQUAL TO",
   "22E4 SQUARE: IMAGE OF OR NOT EQUAL TO, ORIGINAL OF OR NOT EQUAL TO",
   "22E6 LESS-THAN BUT NOT EQUIVALENT TO, GREATER-THAN BUT NOT EQUIVALENT TO",
   "22E8 PRECEDES BUT NOT EQUIVALENT TO, SUCCEEDS BUT NOT EQUIVALENT TO, NOT NORMAL SUBGROUP OF",
   "22EB DOES NOT CONTAIN AS NORMAL SUBGROUP, NOT NORMAL SUBGROUP OF OR EQUAL TO",
   "22ED DOES NOT CONTAIN AS NORMAL SUBGROUP OR EQUAL, VERTICAL ELLIPSIS",
   "22EF MIDLINE HORIZONTAL ELLIPSIS, UP RIGHT DIAGONAL ELLIPSIS, DOWN RIGHT DIAGONAL ELLIPSIS",
   "22F2 ELEMENT OF WITH: LONG HORIZONTAL STROKE, VERTICAL BAR AT END OF HORIZONTAL STROKE",
   "22F4 SMALL ELEMENT OF WITH VERTICAL BAR AT END OF HORIZONTAL STROKE",
   "22F5 ELEMENT OF WITH: DOT ABOVE, OVERBAR",
   "22F7 SMALL ELEMENT OF WITH OVERBAR",
   "22F8 ELEMENT OF WITH: UNDERBAR, TWO HORIZONTAL STROKES",
   "22FA CONTAINS WITH: LONG HORIZONTAL STROKE, VERTICAL BAR AT END OF HORIZONTAL STROKE",
   "22FC SMALL CONTAINS WITH VERTICAL BAR AT END OF HORIZONTAL STROKE, CONTAINS WITH OVERBAR",
   "22FE SMALL CONTAINS WITH OVERBAR, Z NOTATION BAG MEMBERSHIP, DIAMETER SIGN",
   "2301 ELECTRIC ARROW, HOUSE, UP ARROWHEAD, DOWN ARROWHEAD, PROJECTIVE, PERSPECTIVE",
   "2307 WAVY LINE, LEFT CEILING, RIGHT CEILING, LEFT FLOOR, RIGHT FLOOR, BOTTOM RIGHT CROP",
   "230D BOTTOM LEFT CROP, TOP RIGHT CROP, TOP LEFT CROP, REVERSED NOT SIGN, SQUARE LOZENGE",
   "2312 ARC, SEGMENT, SECTOR, TELEPHONE RECORDER, POSITION INDICATOR, VIEWDATA SQUARE",
   "2318 PLACE OF INTEREST SIGN, TURNED NOT SIGN, WATCH, HOURGLASS, TOP LEFT CORNER",
   "231D TOP RIGHT CORNER, BOTTOM LEFT CORNER, BOTTOM RIGHT CORNER, TOP HALF INTEGRAL",
   "2321 BOTTOM HALF INTEGRAL, FROWN, SMILE, UP ARROWHEAD BETWEEN TWO HORIZONTAL BARS",
   "2325 OPTION KEY, ERASE TO THE RIGHT, X IN A RECTANGLE BOX",
   "2328 KEYBOARD, LEFT-POINTING ANGLE BRACKET, RIGHT-POINTING ANGLE BRACKET",
   "232B ERASE TO THE LEFT, BENZENE RING, CYLINDRICITY, ALL AROUND-PROFILE",
   "232F SYMMETRY, TOTAL RUNOUT, DIMENSION ORIGIN, CONICAL TAPER, SLOPE, COUNTERBORE, COUNTERSINK",
   "2336 APL FUNCTIONAL SYMBOL: I-BEAM, SQUISH QUAD",
   "2338 APL FUNCTIONAL SYMBOL QUAD: EQUAL, DIVIDE, DIAMOND, JOT, CIRCLE",
   "233D APL FUNCTIONAL SYMBOL: CIRCLE STILE, CIRCLE JOT, SLASH BAR, BACKSLASH BAR, QUAD SLASH",
   "2342 APL FUNCTIONAL SYMBOL: QUAD BACKSLASH, QUAD LESS-THAN, QUAD GREATER-THAN, LEFTWARDS VANE",
   "2346 APL FUNCTIONAL SYMBOL: RIGHTWARDS VANE, QUAD LEFTWARDS ARROW, QUAD RIGHTWARDS ARROW",
   "2349 APL FUNCTIONAL SYMBOL: CIRCLE BACKSLASH, DOWN TACK UNDERBAR, DELTA STILE",
   "234C APL FUNCTIONAL SYMBOL: QUAD DOWN CARET, QUAD DELTA, DOWN TACK JOT, UPWARDS VANE",
   "2350 APL FUNCTIONAL SYMBOL: QUAD UPWARDS ARROW, UP TACK OVERBAR, DEL STILE, QUAD UP CARET",
   "2354 APL FUNCTIONAL SYMBOL: QUAD DEL, UP TACK JOT, DOWNWARDS VANE, QUAD DOWNWARDS ARROW",
   "2358 APL FUNCTIONAL SYMBOL: QUOTE UNDERBAR, DELTA UNDERBAR, DIAMOND UNDERBAR, JOT UNDERBAR",
   "235C APL FUNCTIONAL SYMBOL: CIRCLE UNDERBAR, UP SHOE JOT, QUOTE QUAD, CIRCLE STAR",
   "2360 APL FUNCTIONAL SYMBOL: QUAD COLON, UP TACK DIAERESIS, DEL DIAERESIS, STAR DIAERESIS",
   "2364 APL FUNCTIONAL SYMBOL: JOT DIAERESIS, CIRCLE DIAERESIS, DOWN SHOE STILE, LEFT SHOE STILE",
   "2368 APL FUNCTIONAL SYMBOL: TILDE DIAERESIS, GREATER-THAN DIAERESIS, COMMA BAR",
   "236B APL FUNCTIONAL SYMBOL: DEL TILDE, ZILDE, STILE TILDE, SEMICOLON UNDERBAR, QUAD NOT EQUAL",
   "2370 APL FUNCTIONAL SYMBOL: QUAD QUESTION, DOWN CARET TILDE, UP CARET TILDE, IOTA, RHO, OMEGA",
   "2376 APL FUNCTIONAL SYMBOL: ALPHA UNDERBAR, EPSILON UNDERBAR, IOTA UNDERBAR, OMEGA UNDERBAR",
   "237A APL FUNCTIONAL SYMBOL ALPHA, NOT CHECK MARK, RIGHT ANGLE WITH DOWNWARDS ZIGZAG ARROW",
   "237D SHOULDERED OPEN BOX, BELL SYMBOL, VERTICAL LINE WITH MIDDLE DOT",
   "2380 INSERTION SYMBOL, CONTINUOUS UNDERLINE SYMBOL, DISCONTINUOUS UNDERLINE SYMBOL",
   "2383 EMPHASIS SYMBOL, COMPOSITION SYMBOL, WHITE SQUARE WITH CENTRE VERTICAL LINE",
   "2386 ENTER SYMBOL, ALTERNATIVE KEY SYMBOL, HELM SYMBOL",
   "2389 CIRCLED: HORIZONTAL BAR WITH NOTCH, TRIANGLE DOWN",
   "238B BROKEN CIRCLE WITH NORTHWEST ARROW, UNDO SYMBOL, MONOSTABLE SYMBOL, HYSTERESIS SYMBOL",
   "238F OPEN-CIRCUIT-OUTPUT: H-TYPE SYMBOL, L-TYPE SYMBOL",
   "2391 PASSIVE-PULL-DOWN-OUTPUT SYMBOL",
   "2392 PASSIVE-PULL-UP-OUTPUT SYMBOL, DIRECT CURRENT SYMBOL FORM TWO",
   "2394 SOFTWARE-FUNCTION SYMBOL, APL FUNCTIONAL SYMBOL QUAD, DECIMAL SEPARATOR KEY SYMBOL",
   "2397 PREVIOUS PAGE, NEXT PAGE, PRINT SCREEN SYMBOL, CLEAR SCREEN SYMBOL",
   "239B LEFT PARENTHESIS: UPPER HOOK, EXTENSION, LOWER HOOK",
   "239E RIGHT PARENTHESIS: UPPER HOOK, EXTENSION, LOWER HOOK",
   "23A1 LEFT SQUARE BRACKET: UPPER CORNER, EXTENSION, LOWER CORNER",
   "23A4 RIGHT SQUARE BRACKET: UPPER CORNER, EXTENSION, LOWER CORNER",
   "23A7 LEFT CURLY BRACKET: UPPER HOOK, MIDDLE PIECE, LOWER HOOK",
   "23AA CURLY BRACKET EXTENSION",
   "23AB RIGHT CURLY BRACKET: UPPER HOOK, MIDDLE PIECE, LOWER HOOK",
   "23AE INTEGRAL EXTENSION",
   "23AF HORIZONTAL LINE EXTENSION, UPPER LEFT OR LOWER RIGHT CURLY BRACKET SECTION",
   "23B1 UPPER RIGHT OR LOWER LEFT CURLY BRACKET SECTION",
   "23B2 SUMMATION TOP, SUMMATION BOTTOM, TOP SQUARE BRACKET",
   "23B5 BOTTOM SQUARE: BRACKET, BRACKET OVER TOP SQUARE BRACKET",
   "23B7 RADICAL SYMBOL BOTTOM, LEFT VERTICAL BOX LINE, RIGHT VERTICAL BOX LINE",
   "23BA HORIZONTAL SCAN: LINE-1, LINE-3, LINE-7, LINE-9",
   "23BE DENTISTRY SYMBOL LIGHT VERTICAL: AND TOP RIGHT, AND BOTTOM RIGHT, WITH CIRCLE",
   "23C1 DENTISTRY SYMBOL LIGHT: DOWN AND HORIZONTAL WITH CIRCLE, UP AND HORIZONTAL WITH CIRCLE",
   "23C3 DENTISTRY SYMBOL LIGHT: VERTICAL WITH TRIANGLE, DOWN AND HORIZONTAL WITH TRIANGLE",
   "23C5 DENTISTRY SYMBOL LIGHT: UP AND HORIZONTAL WITH TRIANGLE, VERTICAL AND WAVE",
   "23C7 DENTISTRY SYMBOL LIGHT: DOWN AND HORIZONTAL WITH WAVE, UP AND HORIZONTAL WITH WAVE",
   "23C9 DENTISTRY SYMBOL LIGHT: DOWN AND HORIZONTAL, UP AND HORIZONTAL",
   "23CB DENTISTRY SYMBOL LIGHT VERTICAL AND: TOP LEFT, BOTTOM LEFT",
   "23CD SQUARE FOOT, RETURN SYMBOL, EJECT SYMBOL, VERTICAL LINE EXTENSION",
   "23D1 METRICAL: BREVE, LONG OVER SHORT, SHORT OVER LONG, LONG OVER TWO SHORTS",
   "23D5 METRICAL: TWO SHORTS OVER LONG, TWO SHORTS JOINED, TRISEME, TETRASEME, PENTASEME",
   "23DA EARTH GROUND, FUSE, TOP PARENTHESIS, BOTTOM PARENTHESIS, TOP CURLY BRACKET",
   "23DF BOTTOM CURLY BRACKET, TOP TORTOISE SHELL BRACKET, BOTTOM TORTOISE SHELL BRACKET",
   "23E2 WHITE TRAPEZIUM, BENZENE RING WITH CIRCLE, STRAIGHTNESS, FLATNESS, AC CURRENT",
   "23E7 ELECTRICAL INTERSECTION, DECIMAL EXPONENT SYMBOL, BLACK RIGHT-POINTING DOUBLE TRIANGLE",
   "23EA BLACK: LEFT-POINTING DOUBLE TRIANGLE, UP-POINTING DOUBLE TRIANGLE",
   "23EC BLACK: DOWN-POINTING DOUBLE TRIANGLE, RIGHT-POINTING DOUBLE TRIANGLE WITH VERTICAL BAR",
   "23EE BLACK LEFT-POINTING DOUBLE TRIANGLE WITH VERTICAL BAR",
   "23EF BLACK RIGHT-POINTING TRIANGLE WITH DOUBLE VERTICAL BAR, ALARM CLOCK",
   "23F1 STOPWATCH, TIMER CLOCK, HOURGLASS WITH FLOWING SAND, BLACK MEDIUM LEFT-POINTING TRIANGLE",
   "23F5 BLACK MEDIUM: RIGHT-POINTING TRIANGLE, UP-POINTING TRIANGLE, DOWN-POINTING TRIANGLE",
   "23F8 DOUBLE VERTICAL BAR, BLACK SQUARE FOR STOP, BLACK CIRCLE FOR RECORD",
   "23FB POWER: SYMBOL, ON-OFF SYMBOL, ON SYMBOL, SLEEP SYMBOL",
   "23FF OBSERVER EYE SYMBOL",
   "2400 SYMBOL FOR: NULL, START OF HEADING, START OF TEXT, END OF TEXT, END OF TRANSMISSION",
   "2405 SYMBOL FOR: ENQUIRY, ACKNOWLEDGE, BELL, BACKSPACE, HORIZONTAL TABULATION, LINE FEED",
   "240B SYMBOL FOR VERTICAL TABULATION",
   "240C SYMBOL FOR: FORM FEED, CARRIAGE RETURN, SHIFT OUT, SHIFT IN, DATA LINK ESCAPE",
   "2411 SYMBOL FOR DEVICE CONTROL: ONE, TWO, THREE, FOUR",
   "2415 SYMBOL FOR: NEGATIVE ACKNOWLEDGE, SYNCHRONOUS IDLE, END OF TRANSMISSION BLOCK",
   "2418 SYMBOL FOR: CANCEL, END OF MEDIUM, SUBSTITUTE, ESCAPE, FILE SEPARATOR",
   "241D SYMBOL FOR: GROUP SEPARATOR, RECORD SEPARATOR, UNIT SEPARATOR, SPACE, DELETE",
   "2422 BLANK SYMBOL, OPEN BOX",
   "2424 SYMBOL FOR: NEWLINE, DELETE FORM TWO, SUBSTITUTE FORM TWO",
   "2440 OCR: HOOK, CHAIR, FORK, INVERTED FORK, BELT BUCKLE, BOW TIE, BRANCH BANK IDENTIFICATION",
   "2447 OCR: AMOUNT OF CHECK, DASH, CUSTOMER ACCOUNT NUMBER, DOUBLE BACKSLASH",
   "2460 CIRCLED DIGIT: ONE, TWO, THREE, FOUR, FIVE, SIX, SEVEN, EIGHT, NINE",
   "2469 CIRCLED NUMBER: TEN, ELEVEN, TWELVE, THIRTEEN",
   "246D CIRCLED NUMBER: FOURTEEN, FIFTEEN, SIXTEEN, SEVENTEEN, EIGHTEEN, NINETEEN, TWENTY",
   "2474 PARENTHESIZED DIGIT: ONE, TWO, THREE, FOUR, FIVE, SIX, SEVEN, EIGHT, NINE",
   "247D PARENTHESIZED NUMBER: TEN, ELEVEN, TWELVE, THIRTEEN",
   "2481 PARENTHESIZED NUMBER: FOURTEEN, FIFTEEN, SIXTEEN, SEVENTEEN, EIGHTEEN, NINETEEN, TWENTY",
   "2488 DIGIT: ONE FULL STOP, TWO FULL STOP, THREE FULL STOP, FOUR FULL STOP",
   "248C DIGIT: FIVE FULL STOP, SIX FULL STOP, SEVEN FULL STOP, EIGHT FULL STOP, NINE FULL STOP",
   "2491 NUMBER: TEN FULL STOP, ELEVEN FULL STOP, TWELVE FULL STOP",
   "2494 NUMBER: THIRTEEN FULL STOP, FOURTEEN FULL STOP, FIFTEEN FULL STOP, SIXTEEN FULL STOP",
   "2498 NUMBER: SEVENTEEN FULL STOP, EIGHTEEN FULL STOP, NINETEEN FULL STOP, TWENTY FULL STOP",
   "249C PARENTHESIZED LATIN SMALL LETTER: A, B, C, D, E, F, G, H",
   "24A4 PARENTHESIZED LATIN SMALL LETTER: I, J, K, L, M, N, O, P, Q, R, S, T, U, V, W, X, Y, Z",
   "24B6 CIRCLED LATIN CAPITAL LETTER: A, B, C, D, E, F",
   "24BC CIRCLED LATIN CAPITAL LETTER: G, H, I, J, K, L, M, N, O, P, Q, R, S, T, U, V, W, X, Y, Z",
   "24D0 CIRCLED LATIN SMALL LETTER: A, B, C, D, E, F",
   "24D6 CIRCLED LATIN SMALL LETTER: G, H, I, J, K, L, M, N, O, P, Q, R, S, T, U, V, W, X, Y, Z",
   "24EA CIRCLED DIGIT ZERO",
   "24EB NEGATIVE CIRCLED NUMBER: ELEVEN, TWELVE, THIRTEEN, FOURTEEN",
   "24EF NEGATIVE CIRCLED NUMBER: FIFTEEN, SIXTEEN, SEVENTEEN, EIGHTEEN, NINETEEN, TWENTY",
   "24F5 DOUBLE CIRCLED DIGIT: ONE, TWO, THREE, FOUR, FIVE, SIX, SEVEN, EIGHT, NINE",
   "24FE DOUBLE CIRCLED NUMBER TEN, NEGATIVE CIRCLED DIGIT ZERO",
   "2500 BOX DRAWINGS: LIGHT HORIZONTAL, HEAVY HORIZONTAL, LIGHT VERTICAL",
   "2503 BOX DRAWINGS: HEAVY VERTICAL, LIGHT TRIPLE DASH HORIZONTAL, HEAVY TRIPLE DASH HORIZONTAL",
   "2506 BOX DRAWINGS: LIGHT TRIPLE DASH VERTICAL, HEAVY TRIPLE DASH VERTICAL",
   "2508 BOX DRAWINGS: LIGHT QUADRUPLE DASH HORIZONTAL, HEAVY QUADRUPLE DASH HORIZONTAL",
   "250A BOX DRAWINGS: LIGHT QUADRUPLE DASH VERTICAL, HEAVY QUADRUPLE DASH VERTICAL",
   "250C BOX DRAWINGS: LIGHT DOWN AND RIGHT, DOWN LIGHT AND RIGHT HEAVY",
   "250E BOX DRAWINGS: DOWN HEAVY AND RIGHT LIGHT, HEAVY DOWN AND RIGHT, LIGHT DOWN AND LEFT",
   "2511 BOX DRAWINGS: DOWN LIGHT AND LEFT HEAVY, DOWN HEAVY AND LEFT LIGHT, HEAVY DOWN AND LEFT",
   "2514 BOX DRAWINGS: LIGHT UP AND RIGHT, UP LIGHT AND RIGHT HEAVY, UP HEAVY AND RIGHT LIGHT",
   "2517 BOX DRAWINGS: HEAVY UP AND RIGHT, LIGHT UP AND LEFT, UP LIGHT AND LEFT HEAVY",
   "251A BOX DRAWINGS: UP HEAVY AND LEFT LIGHT, HEAVY UP AND LEFT, LIGHT VERTICAL AND RIGHT",
   "251D BOX DRAWINGS: VERTICAL LIGHT AND RIGHT HEAVY, UP HEAVY AND RIGHT DOWN LIGHT",
   "251F BOX DRAWINGS: DOWN HEAVY AND RIGHT UP LIGHT, VERTICAL HEAVY AND RIGHT LIGHT",
   "2521 BOX DRAWINGS: DOWN LIGHT AND RIGHT UP HEAVY, UP LIGHT AND RIGHT DOWN HEAVY",
   "2523 BOX DRAWINGS: HEAVY VERTICAL AND RIGHT, LIGHT VERTICAL AND LEFT",
   "2525 BOX DRAWINGS: VERTICAL LIGHT AND LEFT HEAVY, UP HEAVY AND LEFT DOWN LIGHT",
   "2527 BOX DRAWINGS: DOWN HEAVY AND LEFT UP LIGHT, VERTICAL HEAVY AND LEFT LIGHT",
   "2529 BOX DRAWINGS: DOWN LIGHT AND LEFT UP HEAVY, UP LIGHT AND LEFT DOWN HEAVY",
   "252B BOX DRAWINGS: HEAVY VERTICAL AND LEFT, LIGHT DOWN AND HORIZONTAL",
   "252D BOX DRAWINGS: LEFT HEAVY AND RIGHT DOWN LIGHT, RIGHT HEAVY AND LEFT DOWN LIGHT",
   "252F BOX DRAWINGS DOWN: LIGHT AND HORIZONTAL HEAVY, HEAVY AND HORIZONTAL LIGHT",
   "2531 BOX DRAWINGS: RIGHT LIGHT AND LEFT DOWN HEAVY, LEFT LIGHT AND RIGHT DOWN HEAVY",
   "2533 BOX DRAWINGS: HEAVY DOWN AND HORIZONTAL, LIGHT UP AND HORIZONTAL",
   "2535 BOX DRAWINGS: LEFT HEAVY AND RIGHT UP LIGHT, RIGHT HEAVY AND LEFT UP LIGHT",
   "2537 BOX DRAWINGS UP: LIGHT AND HORIZONTAL HEAVY, HEAVY AND HORIZONTAL LIGHT",
   "2539 BOX DRAWINGS: RIGHT LIGHT AND LEFT UP HEAVY, LEFT LIGHT AND RIGHT UP HEAVY",
   "253B BOX DRAWINGS: HEAVY UP AND HORIZONTAL, LIGHT VERTICAL AND HORIZONTAL",
   "253D BOX DRAWINGS: LEFT HEAVY AND RIGHT VERTICAL LIGHT, RIGHT HEAVY AND LEFT VERTICAL LIGHT",
   "253F BOX DRAWINGS: VERTICAL LIGHT AND HORIZONTAL HEAVY, UP HEAVY AND DOWN HORIZONTAL LIGHT",
   "2541 BOX DRAWINGS: DOWN HEAVY AND UP HORIZONTAL LIGHT, VERTICAL HEAVY AND HORIZONTAL LIGHT",
   "2543 BOX DRAWINGS: LEFT UP HEAVY AND RIGHT DOWN LIGHT, RIGHT UP HEAVY AND LEFT DOWN LIGHT",
   "2545 BOX DRAWINGS: LEFT DOWN HEAVY AND RIGHT UP LIGHT, RIGHT DOWN HEAVY AND LEFT UP LIGHT",
   "2547 BOX DRAWINGS: DOWN LIGHT AND UP HORIZONTAL HEAVY, UP LIGHT AND DOWN HORIZONTAL HEAVY",
   "2549 BOX DRAWINGS: RIGHT LIGHT AND LEFT VERTICAL HEAVY, LEFT LIGHT AND RIGHT VERTICAL HEAVY",
   "254B BOX DRAWINGS: HEAVY VERTICAL AND HORIZONTAL, LIGHT DOUBLE DASH HORIZONTAL",
   "254D BOX DRAWINGS: HEAVY DOUBLE DASH HORIZONTAL, LIGHT DOUBLE DASH VERTICAL",
   "254F BOX DRAWINGS: HEAVY DOUBLE DASH VERTICAL, DOUBLE HORIZONTAL, DOUBLE VERTICAL",
   "2552 BOX DRAWINGS DOWN: SINGLE AND RIGHT DOUBLE, DOUBLE AND RIGHT SINGLE",
   "2554 BOX DRAWINGS: DOUBLE DOWN AND RIGHT, DOWN SINGLE AND LEFT DOUBLE",
   "2556 BOX DRAWINGS: DOWN DOUBLE AND LEFT SINGLE, DOUBLE DOWN AND LEFT",
   "2558 BOX DRAWINGS UP: SINGLE AND RIGHT DOUBLE, DOUBLE AND RIGHT SINGLE",
   "255A BOX DRAWINGS: DOUBLE UP AND RIGHT, UP SINGLE AND LEFT DOUBLE, UP DOUBLE AND LEFT SINGLE",
   "255D BOX DRAWINGS: DOUBLE UP AND LEFT, VERTICAL SINGLE AND RIGHT DOUBLE",
   "255F BOX DRAWINGS: VERTICAL DOUBLE AND RIGHT SINGLE, DOUBLE VERTICAL AND RIGHT",
   "2561 BOX DRAWINGS VERTICAL: SINGLE AND LEFT DOUBLE, DOUBLE AND LEFT SINGLE",
   "2563 BOX DRAWINGS: DOUBLE VERTICAL AND LEFT, DOWN SINGLE AND HORIZONTAL DOUBLE",
   "2565 BOX DRAWINGS: DOWN DOUBLE AND HORIZONTAL SINGLE, DOUBLE DOWN AND HORIZONTAL",
   "2567 BOX DRAWINGS UP: SINGLE AND HORIZONTAL DOUBLE, DOUBLE AND HORIZONTAL SINGLE",
   "2569 BOX DRAWINGS: DOUBLE UP AND HORIZONTAL, VERTICAL SINGLE AND HORIZONTAL DOUBLE",
   "256B BOX DRAWINGS: VERTICAL DOUBLE AND HORIZONTAL SINGLE, DOUBLE VERTICAL AND HORIZONTAL",
   "256D BOX DRAWINGS LIGHT ARC: DOWN AND RIGHT, DOWN AND LEFT, UP AND LEFT, UP AND RIGHT",
   "2571 BOX DRAWINGS LIGHT DIAGONAL: UPPER RIGHT TO LOWER LEFT, UPPER LEFT TO LOWER RIGHT, CROSS",
   "2574 BOX DRAWINGS LIGHT: LEFT, UP, RIGHT, DOWN",
   "2578 BOX DRAWINGS HEAVY: LEFT, UP, RIGHT, DOWN",
   "257C BOX DRAWINGS LIGHT: LEFT AND HEAVY RIGHT, UP AND HEAVY DOWN",
   "257E BOX DRAWINGS HEAVY: LEFT AND LIGHT RIGHT, UP AND LIGHT DOWN",
   "2580 UPPER HALF BLOCK",
   "2581 LOWER: ONE EIGHTH BLOCK, ONE QUARTER BLOCK, THREE EIGHTHS BLOCK",
   "2584 LOWER: HALF BLOCK, FIVE EIGHTHS BLOCK, THREE QUARTERS BLOCK, SEVEN EIGHTHS BLOCK",
   "2588 FULL BLOCK, LEFT SEVEN EIGHTHS BLOCK",
   "258A LEFT: THREE QUARTERS BLOCK, FIVE EIGHTHS BLOCK, HALF BLOCK, THREE EIGHTHS BLOCK",
   "258E LEFT ONE QUARTER BLOCK, LEFT ONE EIGHTH BLOCK, RIGHT HALF BLOCK",
   "2591 LIGHT SHADE, MEDIUM SHADE, DARK SHADE, UPPER ONE EIGHTH BLOCK, RIGHT ONE EIGHTH BLOCK",
   "2596 QUADRANT: LOWER LEFT, LOWER RIGHT, UPPER LEFT",
   "2599 QUADRANT UPPER LEFT AND LOWER: LEFT AND LOWER RIGHT, RIGHT",
   "259B QUADRANT UPPER LEFT AND UPPER RIGHT AND LOWER: LEFT, RIGHT",
   "259D QUADRANT UPPER: RIGHT, RIGHT AND LOWER LEFT, RIGHT AND LOWER LEFT AND LOWER RIGHT",
   "25A0 BLACK SQUARE, WHITE SQUARE",
   "25A2 WHITE SQUARE: WITH ROUNDED CORNERS, CONTAINING BLACK SMALL SQUARE",
   "25A4 SQUARE WITH: HORIZONTAL FILL, VERTICAL FILL, ORTHOGONAL CROSSHATCH FILL",
   "25A7 SQUARE WITH UPPER: LEFT TO LOWER RIGHT FILL, RIGHT TO LOWER LEFT FILL",
   "25A9 SQUARE WITH DIAGONAL CROSSHATCH FILL, BLACK SMALL SQUARE",
   "25AB WHITE SMALL SQUARE, BLACK RECTANGLE, WHITE RECTANGLE, BLACK VERTICAL RECTANGLE",
   "25AF WHITE VERTICAL RECTANGLE, BLACK PARALLELOGRAM, WHITE PARALLELOGRAM",
   "25B2 BLACK UP-POINTING TRIANGLE, WHITE UP-POINTING TRIANGLE, BLACK UP-POINTING SMALL TRIANGLE",
   "25B5 WHITE UP-POINTING SMALL TRIANGLE, BLACK RIGHT-POINTING TRIANGLE",
   "25B7 WHITE RIGHT-POINTING TRIANGLE, BLACK RIGHT-POINTING SMALL TRIANGLE",
   "25B9 WHITE RIGHT-POINTING SMALL TRIANGLE, BLACK RIGHT-POINTING POINTER",
   "25BB WHITE RIGHT-POINTING POINTER, BLACK DOWN-POINTING TRIANGLE, WHITE DOWN-POINTING TRIANGLE",
   "25BE BLACK DOWN-POINTING SMALL TRIANGLE, WHITE DOWN-POINTING SMALL TRIANGLE",
   "25C0 BLACK LEFT-POINTING TRIANGLE, WHITE LEFT-POINTING TRIANGLE",
   "25C2 BLACK LEFT-POINTING SMALL TRIANGLE, WHITE LEFT-POINTING SMALL TRIANGLE",
   "25C4 BLACK LEFT-POINTING POINTER, WHITE LEFT-POINTING POINTER",
   "25C6 BLACK DIAMOND, WHITE DIAMOND, WHITE DIAMOND CONTAINING BLACK SMALL DIAMOND, FISHEYE",
   "25CA LOZENGE, WHITE CIRCLE, DOTTED CIRCLE, CIRCLE WITH VERTICAL FILL, BULLSEYE, BLACK CIRCLE",
   "25D0 CIRCLE WITH: LEFT HALF BLACK, RIGHT HALF BLACK, LOWER HALF BLACK, UPPER HALF BLACK",
   "25D4 CIRCLE WITH: UPPER RIGHT QUADRANT BLACK, ALL BUT UPPER LEFT QUADRANT BLACK",
   "25D6 LEFT HALF BLACK CIRCLE, RIGHT HALF BLACK CIRCLE, INVERSE BULLET",
   "25D9 INVERSE WHITE CIRCLE, UPPER HALF INVERSE WHITE CIRCLE, LOWER HALF INVERSE WHITE CIRCLE",
   "25DC UPPER: LEFT QUADRANT CIRCULAR ARC, RIGHT QUADRANT CIRCULAR ARC",
   "25DE LOWER: RIGHT QUADRANT CIRCULAR ARC, LEFT QUADRANT CIRCULAR ARC",
   "25E0 UPPER HALF CIRCLE, LOWER HALF CIRCLE",
   "25E2 BLACK LOWER: RIGHT TRIANGLE, LEFT TRIANGLE",
   "25E4 BLACK UPPER: LEFT TRIANGLE, RIGHT TRIANGLE",
   "25E6 WHITE BULLET",
   "25E7 SQUARE WITH: LEFT HALF BLACK, RIGHT HALF BLACK, UPPER LEFT DIAGONAL HALF BLACK",
   "25EA SQUARE WITH LOWER RIGHT DIAGONAL HALF BLACK",
   "25EB WHITE: SQUARE WITH VERTICAL BISECTING LINE, UP-POINTING TRIANGLE WITH DOT",
   "25ED UP-POINTING TRIANGLE WITH: LEFT HALF BLACK, RIGHT HALF BLACK",
   "25EF LARGE CIRCLE, WHITE SQUARE WITH UPPER LEFT QUADRANT",
   "25F1 WHITE SQUARE WITH: LOWER LEFT QUADRANT, LOWER RIGHT QUADRANT, UPPER RIGHT QUADRANT",
   "25F4 WHITE CIRCLE WITH: UPPER LEFT QUADRANT, LOWER LEFT QUADRANT, LOWER RIGHT QUADRANT",
   "25F7 WHITE CIRCLE WITH UPPER RIGHT QUADRANT, UPPER LEFT TRIANGLE, UPPER RIGHT TRIANGLE",
   "25FA LOWER LEFT TRIANGLE, WHITE MEDIUM SQUARE, BLACK MEDIUM SQUARE, WHITE MEDIUM SMALL SQUARE",
   "25FE BLACK MEDIUM SMALL SQUARE, LOWER RIGHT TRIANGLE, BLACK SUN WITH RAYS, CLOUD, UMBRELLA",
   "2603 SNOWMAN, COMET, BLACK STAR, WHITE STAR, LIGHTNING, THUNDERSTORM, SUN, ASCENDING NODE",
   "260B DESCENDING NODE, CONJUNCTION, OPPOSITION, BLACK TELEPHONE, WHITE TELEPHONE, BALLOT BOX",
   "2611 BALLOT BOX WITH: CHECK, X",
   "2613 SALTIRE, UMBRELLA WITH RAIN DROPS, HOT BEVERAGE",
   "2616 WHITE SHOGI PIECE, BLACK SHOGI PIECE, SHAMROCK, REVERSED ROTATED FLORAL HEART BULLET",
   "261A BLACK: LEFT POINTING INDEX, RIGHT POINTING INDEX",
   "261C WHITE: LEFT POINTING INDEX, UP POINTING INDEX, RIGHT POINTING INDEX, DOWN POINTING INDEX",
   "2620 SKULL AND CROSSBONES, CAUTION SIGN, RADIOACTIVE SIGN, BIOHAZARD SIGN",
   "2624 CADUCEUS, ANKH, ORTHODOX CROSS, CHI RHO, CROSS OF LORRAINE, CROSS OF JERUSALEM",
   "262A STAR AND CRESCENT, FARSI SYMBOL, ADI SHAKTI, HAMMER AND SICKLE, PEACE SYMBOL, YIN YANG",
   "2630 TRIGRAM FOR: HEAVEN, LAKE, FIRE, THUNDER, WIND, WATER, MOUNTAIN, EARTH",
   "2638 WHEEL OF DHARMA, WHITE FROWNING FACE, WHITE SMILING FACE",
   "263B BLACK SMILING FACE, WHITE SUN WITH RAYS, FIRST QUARTER MOON, LAST QUARTER MOON, MERCURY",
   "2640 FEMALE SIGN, EARTH, MALE SIGN, JUPITER, SATURN, URANUS, NEPTUNE, PLUTO, ARIES, TAURUS",
   "264A GEMINI, CANCER, LEO, VIRGO, LIBRA, SCORPIUS, SAGITTARIUS, CAPRICORN, AQUARIUS, PISCES",
   "2654 WHITE CHESS: KING, QUEEN, ROOK, BISHOP, KNIGHT, PAWN",
   "265A BLACK CHESS: KING, QUEEN, ROOK, BISHOP, KNIGHT, PAWN",
   "2660 BLACK SPADE SUIT, WHITE HEART SUIT, WHITE DIAMOND SUIT",
   "2663 BLACK CLUB SUIT, WHITE SPADE SUIT, BLACK HEART SUIT, BLACK DIAMOND SUIT, WHITE CLUB SUIT",
   "2668 HOT SPRINGS, QUARTER NOTE, EIGHTH NOTE, BEAMED EIGHTH NOTES, BEAMED SIXTEENTH NOTES",
   "266D MUSIC: FLAT SIGN, NATURAL SIGN, SHARP SIGN",
   "2670 WEST SYRIAC CROSS",
   "2671 EAST SYRIAC CROSS, UNIVERSAL RECYCLING SYMBOL, RECYCLING SYMBOL FOR TYPE-1 PLASTICS",
   "2674 RECYCLING SYMBOL FOR: TYPE-2 PLASTICS, TYPE-3 PLASTICS, TYPE-4 PLASTICS, TYPE-5 PLASTICS",
   "2678 RECYCLING SYMBOL FOR: TYPE-6 PLASTICS, TYPE-7 PLASTICS, GENERIC MATERIALS",
   "267B BLACK UNIVERSAL RECYCLING SYMBOL, RECYCLED PAPER SYMBOL",
   "267D PARTIALLY-RECYCLED PAPER SYMBOL, PERMANENT PAPER SIGN, WHEELCHAIR SYMBOL",
   "2680 DIE: FACE-1, FACE-2, FACE-3, FACE-4, FACE-5, FACE-6",
   "2686 WHITE CIRCLE WITH: DOT RIGHT, TWO DOTS",
   "2688 BLACK CIRCLE WITH: WHITE DOT RIGHT, TWO WHITE DOTS",
   "268A MONOGRAM FOR: YANG, YIN",
   "268C DIGRAM FOR: GREATER YANG, LESSER YIN, LESSER YANG, GREATER YIN",
   "2690 WHITE FLAG",
   "2691 BLACK FLAG, HAMMER AND PICK, ANCHOR, CROSSED SWORDS, STAFF OF AESCULAPIUS, SCALES",
   "2697 ALEMBIC, FLOWER, GEAR, STAFF OF HERMES, ATOM SYMBOL, FLEUR-DE-LIS, OUTLINED WHITE STAR",
   "269E THREE LINES CONVERGING: RIGHT, LEFT",
   "26A0 WARNING SIGN, HIGH VOLTAGE SIGN, DOUBLED FEMALE SIGN",
   "26A3 DOUBLED MALE SIGN, INTERLOCKED FEMALE AND MALE SIGN, MALE AND FEMALE SIGN",
   "26A6 MALE WITH STROKE: SIGN, AND MALE AND FEMALE SIGN",
   "26A8 VERTICAL MALE WITH STROKE SIGN, HORIZONTAL MALE WITH STROKE SIGN",
   "26AA MEDIUM: WHITE CIRCLE, BLACK CIRCLE, SMALL WHITE CIRCLE",
   "26AD MARRIAGE SYMBOL, DIVORCE SYMBOL, UNMARRIED PARTNERSHIP SYMBOL",
   "26B0 COFFIN, FUNERAL URN, NEUTER, CERES, PALLAS, JUNO, VESTA, CHIRON, BLACK MOON LILITH",
   "26B9 SEXTILE, SEMISEXTILE, QUINCUNX, SESQUIQUADRATE, SOCCER BALL, BASEBALL, SQUARED KEY",
   "26C0 WHITE DRAUGHTS: MAN, KING",
   "26C2 BLACK DRAUGHTS: MAN, KING",
   "26C4 SNOWMAN WITHOUT SNOW, SUN BEHIND CLOUD, RAIN, BLACK SNOWMAN, THUNDER CLOUD AND RAIN",
   "26C9 TURNED: WHITE SHOGI PIECE, BLACK SHOGI PIECE",
   "26CB WHITE DIAMOND IN SQUARE, CROSSING LANES, DISABLED CAR",
   "26CE OPHIUCHUS, PICK, CAR SLIDING, HELMET WITH WHITE CROSS, CIRCLED CROSSING LANES",
   "26D3 CHAINS, NO ENTRY, ALTERNATE ONE-WAY LEFT WAY TRAFFIC, BLACK TWO-WAY LEFT WAY TRAFFIC",
   "26D7 WHITE TWO-WAY LEFT WAY TRAFFIC, BLACK LEFT LANE MERGE, WHITE LEFT LANE MERGE",
   "26DA DRIVE SLOW SIGN, HEAVY WHITE DOWN-POINTING TRIANGLE, LEFT CLOSED ENTRY",
   "26DD SQUARED SALTIRE, FALLING DIAGONAL IN WHITE CIRCLE IN BLACK SQUARE, BLACK TRUCK",
   "26E0 RESTRICTED LEFT: ENTRY-1, ENTRY-2",
   "26E2 ASTRONOMICAL SYMBOL FOR URANUS, HEAVY CIRCLE WITH STROKE AND TWO DOTS ABOVE, PENTAGRAM",
   "26E5 RIGHT-HANDED INTERLACED PENTAGRAM, LEFT-HANDED INTERLACED PENTAGRAM, INVERTED PENTAGRAM",
   "26E8 BLACK CROSS ON SHIELD, SHINTO SHRINE, CHURCH, CASTLE, HISTORIC SITE, GEAR WITHOUT HUB",
   "26EE GEAR WITH HANDLES, MAP SYMBOL FOR LIGHTHOUSE, MOUNTAIN, UMBRELLA ON GROUND, FOUNTAIN",
   "26F3 FLAG IN HOLE, FERRY, SAILBOAT, SQUARE FOUR CORNERS, SKIER, ICE SKATE, PERSON WITH BALL",
   "26FA TENT, JAPANESE BANK SYMBOL, HEADSTONE GRAVEYARD SYMBOL, FUEL PUMP, CUP ON BLACK SQUARE",
   "26FF WHITE FLAG WITH HORIZONTAL MIDDLE BLACK STRIPE, BLACK SAFETY SCISSORS",
   "2701 UPPER BLADE SCISSORS, BLACK SCISSORS, LOWER BLADE SCISSORS, WHITE SCISSORS",
   "2705 WHITE HEAVY CHECK MARK, TELEPHONE LOCATION SIGN, TAPE DRIVE, AIRPLANE, ENVELOPE",
   "270A RAISED: FIST, HAND",
   "270C VICTORY HAND, WRITING HAND, LOWER RIGHT PENCIL, PENCIL, UPPER RIGHT PENCIL, WHITE NIB",
   "2712 BLACK NIB, CHECK MARK, HEAVY CHECK MARK, MULTIPLICATION X, HEAVY MULTIPLICATION X",
   "2717 BALLOT X, HEAVY BALLOT X, OUTLINED GREEK CROSS, HEAVY GREEK CROSS",
   "271B OPEN CENTRE CROSS, HEAVY OPEN CENTRE CROSS, LATIN CROSS, SHADOWED WHITE LATIN CROSS",
   "271F OUTLINED LATIN CROSS, MALTESE CROSS, STAR OF DAVID, FOUR TEARDROP-SPOKED ASTERISK",
   "2723 FOUR BALLOON-SPOKED ASTERISK, HEAVY FOUR BALLOON-SPOKED ASTERISK",
   "2725 FOUR CLUB-SPOKED ASTERISK, BLACK FOUR POINTED STAR, WHITE FOUR POINTED STAR",
   "2728 SPARKLES, STRESS OUTLINED WHITE STAR, CIRCLED WHITE STAR, OPEN CENTRE BLACK STAR",
   "272C BLACK CENTRE WHITE STAR, OUTLINED BLACK STAR, HEAVY OUTLINED BLACK STAR, PINWHEEL STAR",
   "2730 SHADOWED WHITE STAR, HEAVY ASTERISK, OPEN CENTRE ASTERISK, EIGHT SPOKED ASTERISK",
   "2734 EIGHT POINTED: BLACK STAR, PINWHEEL STAR",
   "2736 SIX POINTED BLACK STAR, EIGHT POINTED RECTILINEAR BLACK STAR",
   "2738 HEAVY EIGHT POINTED RECTILINEAR BLACK STAR, TWELVE POINTED BLACK STAR",
   "273A SIXTEEN POINTED ASTERISK, TEARDROP-SPOKED ASTERISK, OPEN CENTRE TEARDROP-SPOKED ASTERISK",
   "273D HEAVY TEARDROP-SPOKED ASTERISK, SIX PETALLED BLACK AND WHITE FLORETTE",
   "273F BLACK FLORETTE, WHITE FLORETTE, EIGHT PETALLED OUTLINED BLACK FLORETTE",
   "2742 CIRCLED OPEN CENTRE EIGHT POINTED STAR, HEAVY TEARDROP-SPOKED PINWHEEL ASTERISK",
   "2744 SNOWFLAKE, TIGHT TRIFOLIATE SNOWFLAKE, HEAVY CHEVRON SNOWFLAKE, SPARKLE",
   "2748 HEAVY SPARKLE, BALLOON-SPOKED ASTERISK, EIGHT TEARDROP-SPOKED PROPELLER ASTERISK",
   "274B HEAVY EIGHT TEARDROP-SPOKED PROPELLER ASTERISK, CROSS MARK, SHADOWED WHITE CIRCLE",
   "274E NEGATIVE SQUARED CROSS MARK, LOWER RIGHT DROP-SHADOWED WHITE SQUARE",
   "2750 UPPER RIGHT DROP-SHADOWED WHITE SQUARE, LOWER RIGHT SHADOWED WHITE SQUARE",
   "2752 UPPER RIGHT SHADOWED WHITE SQUARE, BLACK QUESTION MARK ORNAMENT",
   "2754 WHITE: QUESTION MARK ORNAMENT, EXCLAMATION MARK ORNAMENT",
   "2756 BLACK DIAMOND MINUS WHITE X, HEAVY EXCLAMATION MARK SYMBOL",
   "2758 LIGHT VERTICAL BAR, MEDIUM VERTICAL BAR, HEAVY VERTICAL BAR",
   "275B HEAVY SINGLE: TURNED COMMA QUOTATION MARK ORNAMENT, COMMA QUOTATION MARK ORNAMENT",
   "275D HEAVY DOUBLE: TURNED COMMA QUOTATION MARK ORNAMENT, COMMA QUOTATION MARK ORNAMENT",
   "275F HEAVY LOW: SINGLE COMMA QUOTATION MARK ORNAMENT, DOUBLE COMMA QUOTATION MARK ORNAMENT",
   "2761 CURVED STEM PARAGRAPH SIGN ORNAMENT",
   "2762 HEAVY: EXCLAMATION MARK ORNAMENT, HEART EXCLAMATION MARK ORNAMENT, BLACK HEART",
   "2765 ROTATED HEAVY BLACK HEART BULLET, FLORAL HEART, ROTATED FLORAL HEART BULLET",
   "2768 MEDIUM: LEFT PARENTHESIS ORNAMENT, RIGHT PARENTHESIS ORNAMENT",
   "276A MEDIUM FLATTENED: LEFT PARENTHESIS ORNAMENT, RIGHT PARENTHESIS ORNAMENT",
   "276C MEDIUM: LEFT-POINTING ANGLE BRACKET ORNAMENT, RIGHT-POINTING ANGLE BRACKET ORNAMENT",
   "276E HEAVY LEFT-POINTING ANGLE QUOTATION MARK ORNAMENT",
   "276F HEAVY RIGHT-POINTING ANGLE QUOTATION MARK ORNAMENT",
   "2770 HEAVY: LEFT-POINTING ANGLE BRACKET ORNAMENT, RIGHT-POINTING ANGLE BRACKET ORNAMENT",
   "2772 LIGHT: LEFT TORTOISE SHELL BRACKET ORNAMENT, RIGHT TORTOISE SHELL BRACKET ORNAMENT",
   "2774 MEDIUM: LEFT CURLY BRACKET ORNAMENT, RIGHT CURLY BRACKET ORNAMENT",
   "2776 DINGBAT NEGATIVE CIRCLED DIGIT: ONE, TWO, THREE, FOUR, FIVE, SIX, SEVEN, EIGHT, NINE",
   "277F DINGBAT NEGATIVE CIRCLED NUMBER TEN",
   "2780 DINGBAT CIRCLED SANS-SERIF DIGIT: ONE, TWO, THREE, FOUR, FIVE, SIX, SEVEN, EIGHT, NINE",
   "2789 DINGBAT CIRCLED SANS-SERIF NUMBER TEN",
   "278A DINGBAT NEGATIVE CIRCLED SANS-SERIF DIGIT: ONE, TWO, THREE, FOUR, FIVE, SIX, SEVEN",
   "2791 DINGBAT NEGATIVE CIRCLED SANS-SERIF: DIGIT EIGHT, DIGIT NINE, NUMBER TEN",
   "2794 HEAVY: WIDE-HEADED RIGHTWARDS ARROW, PLUS SIGN",
   "2796 HEAVY: MINUS SIGN, DIVISION SIGN, SOUTH EAST ARROW, RIGHTWARDS ARROW, NORTH EAST ARROW",
   "279B DRAFTING POINT RIGHTWARDS ARROW, HEAVY ROUND-TIPPED RIGHTWARDS ARROW",
   "279D TRIANGLE-HEADED RIGHTWARDS ARROW, HEAVY TRIANGLE-HEADED RIGHTWARDS ARROW",
   "279F DASHED TRIANGLE-HEADED RIGHTWARDS ARROW, HEAVY DASHED TRIANGLE-HEADED RIGHTWARDS ARROW",
   "27A1 BLACK RIGHTWARDS ARROW, THREE-D TOP-LIGHTED RIGHTWARDS ARROWHEAD",
   "27A3 THREE-D BOTTOM-LIGHTED RIGHTWARDS ARROWHEAD, BLACK RIGHTWARDS ARROWHEAD",
   "27A5 HEAVY BLACK CURVED: DOWNWARDS AND RIGHTWARDS ARROW, UPWARDS AND RIGHTWARDS ARROW",
   "27A7 SQUAT BLACK RIGHTWARDS ARROW",
   "27A8 HEAVY CONCAVE-POINTED BLACK RIGHTWARDS ARROW, RIGHT-SHADED WHITE RIGHTWARDS ARROW",
   "27AA LEFT-SHADED WHITE RIGHTWARDS ARROW, BACK-TILTED SHADOWED WHITE RIGHTWARDS ARROW",
   "27AC FRONT-TILTED SHADOWED WHITE RIGHTWARDS ARROW",
   "27AD HEAVY LOWER RIGHT-SHADOWED WHITE RIGHTWARDS ARROW",
   "27AE HEAVY UPPER RIGHT-SHADOWED WHITE RIGHTWARDS ARROW",
   "27AF NOTCHED LOWER RIGHT-SHADOWED WHITE RIGHTWARDS ARROW",
   "27B0 CURLY LOOP, NOTCHED UPPER RIGHT-SHADOWED WHITE RIGHTWARDS ARROW",
   "27B2 CIRCLED HEAVY WHITE RIGHTWARDS ARROW, WHITE-FEATHERED RIGHTWARDS ARROW",
   "27B4 BLACK-FEATHERED: SOUTH EAST ARROW, RIGHTWARDS ARROW, NORTH EAST ARROW",
   "27B7 HEAVY BLACK-FEATHERED: SOUTH EAST ARROW, RIGHTWARDS ARROW, NORTH EAST ARROW",
   "27BA TEARDROP-BARBED RIGHTWARDS ARROW",
   "27BB HEAVY TEARDROP-SHANKED RIGHTWARDS ARROW, WEDGE-TAILED RIGHTWARDS ARROW",
   "27BD HEAVY WEDGE-TAILED RIGHTWARDS ARROW, OPEN-OUTLINED RIGHTWARDS ARROW, DOUBLE CURLY LOOP",
   "27C0 THREE DIMENSIONAL ANGLE, WHITE TRIANGLE CONTAINING SMALL WHITE TRIANGLE",
   "27C2 PERPENDICULAR, OPEN SUBSET, OPEN SUPERSET, LEFT S-SHAPED BAG DELIMITER",
   "27C6 RIGHT S-SHAPED BAG DELIMITER, OR WITH DOT INSIDE, REVERSE SOLIDUS PRECEDING SUBSET",
   "27C9 SUPERSET PRECEDING SOLIDUS, VERTICAL BAR WITH HORIZONTAL STROKE",
   "27CB MATHEMATICAL RISING DIAGONAL, LONG DIVISION, MATHEMATICAL FALLING DIAGONAL",
   "27CE SQUARED LOGICAL: AND, OR",
   "27D0 WHITE DIAMOND WITH CENTRED DOT, AND WITH DOT",
   "27D2 ELEMENT OF OPENING UPWARDS, LOWER RIGHT CORNER WITH DOT, UPPER LEFT CORNER WITH DOT",
   "27D5 LEFT OUTER JOIN, RIGHT OUTER JOIN, FULL OUTER JOIN, LARGE UP TACK, LARGE DOWN TACK",
   "27DA LEFT AND RIGHT: DOUBLE TURNSTILE, TACK",
   "27DC LEFT MULTIMAP, LONG RIGHT TACK",
   "27DE LONG LEFT TACK, UP TACK WITH CIRCLE ABOVE, LOZENGE DIVIDED BY HORIZONTAL RULE",
   "27E1 WHITE CONCAVE-SIDED: DIAMOND, DIAMOND WITH LEFTWARDS TICK, DIAMOND WITH RIGHTWARDS TICK",
   "27E4 WHITE SQUARE WITH: LEFTWARDS TICK, RIGHTWARDS TICK",
   "27E6 MATHEMATICAL: LEFT WHITE SQUARE BRACKET, RIGHT WHITE SQUARE BRACKET, LEFT ANGLE BRACKET",
   "27E9 MATHEMATICAL: RIGHT ANGLE BRACKET, LEFT DOUBLE ANGLE BRACKET, RIGHT DOUBLE ANGLE BRACKET",
   "27EC MATHEMATICAL: LEFT WHITE TORTOISE SHELL BRACKET, RIGHT WHITE TORTOISE SHELL BRACKET",
   "27EE MATHEMATICAL: LEFT FLATTENED PARENTHESIS, RIGHT FLATTENED PARENTHESIS",
   "27F0 UPWARDS QUADRUPLE ARROW, DOWNWARDS QUADRUPLE ARROW, ANTICLOCKWISE GAPPED CIRCLE ARROW",
   "27F3 CLOCKWISE GAPPED CIRCLE ARROW, RIGHT ARROW WITH CIRCLED PLUS",
   "27F5 LONG: LEFTWARDS ARROW, RIGHTWARDS ARROW, LEFT RIGHT ARROW, LEFTWARDS DOUBLE ARROW",
   "27F9 LONG: RIGHTWARDS DOUBLE ARROW, LEFT RIGHT DOUBLE ARROW, LEFTWARDS ARROW FROM BAR",
   "27FC LONG: RIGHTWARDS ARROW FROM BAR, LEFTWARDS DOUBLE ARROW FROM BAR",
   "27FE LONG RIGHTWARDS: DOUBLE ARROW FROM BAR, SQUIGGLE ARROW",
   "2800 BRAILLE PATTERN: BLANK, DOTS-1, DOTS-2, DOTS-12",
   "2804 BRAILLE PATTERN: DOTS-3, DOTS-13, DOTS-23, DOTS-123, DOTS-4, DOTS-14, DOTS-24, DOTS-124",
   "280C BRAILLE PATTERN: DOTS-34, DOTS-134, DOTS-234, DOTS-1234, DOTS-5, DOTS-15, DOTS-25",
   "2813 BRAILLE PATTERN: DOTS-125, DOTS-35, DOTS-135, DOTS-235, DOTS-1235, DOTS-45, DOTS-145",
   "281A BRAILLE PATTERN: DOTS-245, DOTS-1245, DOTS-345, DOTS-1345, DOTS-2345, DOTS-12345",
   "2820 BRAILLE PATTERN: DOTS-6, DOTS-16, DOTS-26, DOTS-126, DOTS-36, DOTS-136, DOTS-236",
   "2827 BRAILLE PATTERN: DOTS-1236, DOTS-46, DOTS-146, DOTS-246, DOTS-1246, DOTS-346, DOTS-1346",
   "282E BRAILLE PATTERN: DOTS-2346, DOTS-12346, DOTS-56, DOTS-156, DOTS-256, DOTS-1256",
   "2834 BRAILLE PATTERN: DOTS-356, DOTS-1356, DOTS-2356, DOTS-12356, DOTS-456, DOTS-1456",
   "283A BRAILLE PATTERN: DOTS-2456, DOTS-12456, DOTS-3456, DOTS-13456, DOTS-23456, DOTS-123456",
   "2840 BRAILLE PATTERN: DOTS-7, DOTS-17, DOTS-27, DOTS-127, DOTS-37, DOTS-137, DOTS-237",
   "2847 BRAILLE PATTERN: DOTS-1237, DOTS-47, DOTS-147, DOTS-247, DOTS-1247, DOTS-347, DOTS-1347",
   "284E BRAILLE PATTERN: DOTS-2347, DOTS-12347, DOTS-57, DOTS-157, DOTS-257, DOTS-1257",
   "2854 BRAILLE PATTERN: DOTS-357, DOTS-1357, DOTS-2357, DOTS-12357, DOTS-457, DOTS-1457",
   "285A BRAILLE PATTERN: DOTS-2457, DOTS-12457, DOTS-3457, DOTS-13457, DOTS-23457, DOTS-123457",
   "2860 BRAILLE PATTERN: DOTS-67, DOTS-167, DOTS-267, DOTS-1267, DOTS-367, DOTS-1367",
   "2866 BRAILLE PATTERN: DOTS-2367, DOTS-12367, DOTS-467, DOTS-1467, DOTS-2467, DOTS-12467",
   "286C BRAILLE PATTERN: DOTS-3467, DOTS-13467, DOTS-23467, DOTS-123467, DOTS-567, DOTS-1567",
   "2872 BRAILLE PATTERN: DOTS-2567, DOTS-12567, DOTS-3567, DOTS-13567, DOTS-23567, DOTS-123567",
   "2878 BRAILLE PATTERN: DOTS-4567, DOTS-14567, DOTS-24567, DOTS-124567, DOTS-34567, DOTS-134567",
   "287E BRAILLE PATTERN: DOTS-234567, DOTS-1234567, DOTS-8, DOTS-18, DOTS-28, DOTS-128, DOTS-38",
   "2885 BRAILLE PATTERN: DOTS-138, DOTS-238, DOTS-1238, DOTS-48, DOTS-148, DOTS-248, DOTS-1248",
   "288C BRAILLE PATTERN: DOTS-348, DOTS-1348, DOTS-2348, DOTS-12348, DOTS-58, DOTS-158",
   "2892 BRAILLE PATTERN: DOTS-258, DOTS-1258, DOTS-358, DOTS-1358, DOTS-2358, DOTS-12358",
   "2898 BRAILLE PATTERN: DOTS-458, DOTS-1458, DOTS-2458, DOTS-12458, DOTS-3458, DOTS-13458",
   "289E BRAILLE PATTERN: DOTS-23458, DOTS-123458, DOTS-68, DOTS-168, DOTS-268, DOTS-1268",
   "28A4 BRAILLE PATTERN: DOTS-368, DOTS-1368, DOTS-2368, DOTS-12368, DOTS-468, DOTS-1468",
   "28AA BRAILLE PATTERN: DOTS-2468, DOTS-12468, DOTS-3468, DOTS-13468, DOTS-23468, DOTS-123468",
   "28B0 BRAILLE PATTERN: DOTS-568, DOTS-1568, DOTS-2568, DOTS-12568, DOTS-3568, DOTS-13568",
   "28B6 BRAILLE PATTERN: DOTS-23568, DOTS-123568, DOTS-4568, DOTS-14568, DOTS-24568, DOTS-124568",
   "28BC BRAILLE PATTERN: DOTS-34568, DOTS-134568, DOTS-234568, DOTS-1234568, DOTS-78, DOTS-178",
   "28C2 BRAILLE PATTERN: DOTS-278, DOTS-1278, DOTS-378, DOTS-1378, DOTS-2378, DOTS-12378",
   "28C8 BRAILLE PATTERN: DOTS-478, DOTS-1478, DOTS-2478, DOTS-12478, DOTS-3478, DOTS-13478",
   "28CE BRAILLE PATTERN: DOTS-23478, DOTS-123478, DOTS-578, DOTS-1578, DOTS-2578, DOTS-12578",
   "28D4 BRAILLE PATTERN: DOTS-3578, DOTS-13578, DOTS-23578, DOTS-123578, DOTS-4578, DOTS-14578",
   "28DA BRAILLE PATTERN: DOTS-24578, DOTS-124578, DOTS-34578, DOTS-134578, DOTS-234578",
   "28DF BRAILLE PATTERN: DOTS-1234578, DOTS-678, DOTS-1678, DOTS-2678, DOTS-12678, DOTS-3678",
   "28E5 BRAILLE PATTERN: DOTS-13678, DOTS-23678, DOTS-123678, DOTS-4678, DOTS-14678, DOTS-24678",
   "28EB BRAILLE PATTERN: DOTS-124678, DOTS-34678, DOTS-134678, DOTS-234678, DOTS-1234678",
   "28F0 BRAILLE PATTERN: DOTS-5678, DOTS-15678, DOTS-25678, DOTS-125678, DOTS-35678, DOTS-135678",
   "28F6 BRAILLE PATTERN: DOTS-235678, DOTS-1235678, DOTS-45678, DOTS-145678, DOTS-245678",
   "28FB BRAILLE PATTERN: DOTS-1245678, DOTS-345678, DOTS-1345678, DOTS-2345678, DOTS-12345678",
   "2900 RIGHTWARDS TWO-HEADED ARROW WITH: VERTICAL STROKE, DOUBLE VERTICAL STROKE",
   "2902 LEFTWARDS DOUBLE ARROW WITH VERTICAL STROKE",
   "2903 RIGHTWARDS DOUBLE ARROW WITH VERTICAL STROKE",
   "2904 LEFT RIGHT DOUBLE ARROW WITH VERTICAL STROKE",
   "2905 RIGHTWARDS TWO-HEADED ARROW FROM BAR, LEFTWARDS DOUBLE ARROW FROM BAR",
   "2907 RIGHTWARDS DOUBLE ARROW FROM BAR, DOWNWARDS ARROW WITH HORIZONTAL STROKE",
   "2909 UPWARDS ARROW WITH HORIZONTAL STROKE, UPWARDS TRIPLE ARROW, DOWNWARDS TRIPLE ARROW",
   "290C LEFTWARDS DOUBLE DASH ARROW, RIGHTWARDS DOUBLE DASH ARROW, LEFTWARDS TRIPLE DASH ARROW",
   "290F RIGHTWARDS: TRIPLE DASH ARROW, TWO-HEADED TRIPLE DASH ARROW, ARROW WITH DOTTED STEM",
   "2912 UPWARDS ARROW TO BAR, DOWNWARDS ARROW TO BAR",
   "2914 RIGHTWARDS ARROW WITH TAIL WITH: VERTICAL STROKE, DOUBLE VERTICAL STROKE",
   "2916 RIGHTWARDS TWO-HEADED ARROW WITH TAIL",
   "2917 RIGHTWARDS TWO-HEADED ARROW WITH TAIL WITH: VERTICAL STROKE, DOUBLE VERTICAL STROKE",
   "2919 LEFTWARDS ARROW-TAIL, RIGHTWARDS ARROW-TAIL, LEFTWARDS DOUBLE ARROW-TAIL",
   "291C RIGHTWARDS DOUBLE ARROW-TAIL, LEFTWARDS ARROW TO BLACK DIAMOND",
   "291E RIGHTWARDS ARROW TO BLACK DIAMOND, LEFTWARDS ARROW FROM BAR TO BLACK DIAMOND",
   "2920 RIGHTWARDS ARROW FROM BAR TO BLACK DIAMOND, NORTH WEST AND SOUTH EAST ARROW",
   "2922 NORTH: EAST AND SOUTH WEST ARROW, WEST ARROW WITH HOOK, EAST ARROW WITH HOOK",
   "2925 SOUTH: EAST ARROW WITH HOOK, WEST ARROW WITH HOOK",
   "2927 NORTH: WEST ARROW AND NORTH EAST ARROW, EAST ARROW AND SOUTH EAST ARROW",
   "2929 SOUTH: EAST ARROW AND SOUTH WEST ARROW, WEST ARROW AND NORTH WEST ARROW",
   "292B RISING DIAGONAL CROSSING FALLING DIAGONAL, FALLING DIAGONAL CROSSING RISING DIAGONAL",
   "292D SOUTH EAST ARROW CROSSING NORTH EAST ARROW, NORTH EAST ARROW CROSSING SOUTH EAST ARROW",
   "292F FALLING DIAGONAL CROSSING NORTH EAST ARROW, RISING DIAGONAL CROSSING SOUTH EAST ARROW",
   "2931 NORTH: EAST ARROW CROSSING NORTH WEST ARROW, WEST ARROW CROSSING NORTH EAST ARROW",
   "2933 WAVE ARROW POINTING DIRECTLY RIGHT",
   "2934 ARROW POINTING RIGHTWARDS THEN CURVING: UPWARDS, DOWNWARDS",
   "2936 ARROW POINTING DOWNWARDS THEN CURVING: LEFTWARDS, RIGHTWARDS",
   "2938 RIGHT-SIDE ARC CLOCKWISE ARROW, LEFT-SIDE ARC ANTICLOCKWISE ARROW",
   "293A TOP ARC ANTICLOCKWISE ARROW, BOTTOM ARC ANTICLOCKWISE ARROW",
   "293C TOP ARC: CLOCKWISE ARROW WITH MINUS, ANTICLOCKWISE ARROW WITH PLUS",
   "293E LOWER: RIGHT SEMICIRCULAR CLOCKWISE ARROW, LEFT SEMICIRCULAR ANTICLOCKWISE ARROW",
   "2940 ANTICLOCKWISE CLOSED CIRCLE ARROW",
   "2941 CLOCKWISE CLOSED CIRCLE ARROW, RIGHTWARDS ARROW ABOVE SHORT LEFTWARDS ARROW",
   "2943 LEFTWARDS ARROW ABOVE SHORT RIGHTWARDS ARROW",
   "2944 SHORT RIGHTWARDS ARROW ABOVE LEFTWARDS ARROW, RIGHTWARDS ARROW WITH PLUS BELOW",
   "2946 LEFTWARDS ARROW WITH PLUS BELOW, RIGHTWARDS ARROW THROUGH X",
   "2948 LEFT RIGHT ARROW THROUGH SMALL CIRCLE, UPWARDS TWO-HEADED ARROW FROM SMALL CIRCLE",
   "294A LEFT BARB: UP RIGHT BARB DOWN HARPOON, DOWN RIGHT BARB UP HARPOON",
   "294C UP BARB: RIGHT DOWN BARB LEFT HARPOON, LEFT DOWN BARB RIGHT HARPOON",
   "294E LEFT BARB UP RIGHT BARB UP HARPOON, UP BARB RIGHT DOWN BARB RIGHT HARPOON",
   "2950 LEFT BARB DOWN RIGHT BARB DOWN HARPOON, UP BARB LEFT DOWN BARB LEFT HARPOON",
   "2952 LEFTWARDS HARPOON WITH BARB UP TO BAR, RIGHTWARDS HARPOON WITH BARB UP TO BAR",
   "2954 UPWARDS HARPOON WITH BARB RIGHT TO BAR, DOWNWARDS HARPOON WITH BARB RIGHT TO BAR",
   "2956 LEFTWARDS HARPOON WITH BARB DOWN TO BAR, RIGHTWARDS HARPOON WITH BARB DOWN TO BAR",
   "2958 UPWARDS HARPOON WITH BARB LEFT TO BAR, DOWNWARDS HARPOON WITH BARB LEFT TO BAR",
   "295A LEFTWARDS HARPOON WITH BARB UP FROM BAR, RIGHTWARDS HARPOON WITH BARB UP FROM BAR",
   "295C UPWARDS HARPOON WITH BARB RIGHT FROM BAR, DOWNWARDS HARPOON WITH BARB RIGHT FROM BAR",
   "295E LEFTWARDS HARPOON WITH BARB DOWN FROM BAR, RIGHTWARDS HARPOON WITH BARB DOWN FROM BAR",
   "2960 UPWARDS HARPOON WITH BARB LEFT FROM BAR, DOWNWARDS HARPOON WITH BARB LEFT FROM BAR",
   "2962 LEFTWARDS HARPOON WITH BARB UP ABOVE LEFTWARDS HARPOON WITH BARB DOWN",
   "2963 UPWARDS HARPOON WITH BARB LEFT BESIDE UPWARDS HARPOON WITH BARB RIGHT",
   "2964 RIGHTWARDS HARPOON WITH BARB UP ABOVE RIGHTWARDS HARPOON WITH BARB DOWN",
   "2965 DOWNWARDS HARPOON WITH BARB LEFT BESIDE DOWNWARDS HARPOON WITH BARB RIGHT",
   "2966 LEFTWARDS HARPOON WITH BARB UP ABOVE RIGHTWARDS HARPOON WITH BARB UP",
   "2967 LEFTWARDS HARPOON WITH BARB DOWN ABOVE RIGHTWARDS HARPOON WITH BARB DOWN",
   "2968 RIGHTWARDS HARPOON WITH BARB UP ABOVE LEFTWARDS HARPOON WITH BARB UP",
   "2969 RIGHTWARDS HARPOON WITH BARB DOWN ABOVE LEFTWARDS HARPOON WITH BARB DOWN",
   "296A LEFTWARDS HARPOON WITH BARB: UP ABOVE LONG DASH, DOWN BELOW LONG DASH",
   "296C RIGHTWARDS HARPOON WITH BARB: UP ABOVE LONG DASH, DOWN BELOW LONG DASH",
   "296E UPWARDS HARPOON WITH BARB LEFT BESIDE DOWNWARDS HARPOON WITH BARB RIGHT",
   "296F DOWNWARDS HARPOON WITH BARB LEFT BESIDE UPWARDS HARPOON WITH BARB RIGHT",
   "2970 RIGHT DOUBLE ARROW WITH ROUNDED HEAD, EQUALS SIGN ABOVE RIGHTWARDS ARROW",
   "2972 TILDE OPERATOR ABOVE RIGHTWARDS ARROW, LEFTWARDS ARROW ABOVE TILDE OPERATOR",
   "2974 RIGHTWARDS ARROW ABOVE: TILDE OPERATOR, ALMOST EQUAL TO",
   "2976 LESS-THAN ABOVE LEFTWARDS ARROW, LEFTWARDS ARROW THROUGH LESS-THAN",
   "2978 GREATER-THAN ABOVE RIGHTWARDS ARROW, SUBSET ABOVE RIGHTWARDS ARROW",
   "297A LEFTWARDS ARROW THROUGH SUBSET, SUPERSET ABOVE LEFTWARDS ARROW, LEFT FISH TAIL",
   "297D RIGHT FISH TAIL, UP FISH TAIL, DOWN FISH TAIL, TRIPLE VERTICAL BAR DELIMITER",
   "2981 Z NOTATION SPOT, Z NOTATION TYPE COLON, LEFT WHITE CURLY BRACKET",
   "2984 RIGHT WHITE CURLY BRACKET, LEFT WHITE PARENTHESIS, RIGHT WHITE PARENTHESIS",
   "2987 Z NOTATION: LEFT IMAGE BRACKET, RIGHT IMAGE BRACKET, LEFT BINDING BRACKET",
   "298A Z NOTATION RIGHT BINDING BRACKET, LEFT SQUARE BRACKET WITH UNDERBAR",
   "298C RIGHT SQUARE BRACKET WITH UNDERBAR, LEFT SQUARE BRACKET WITH TICK IN TOP CORNER",
   "298E RIGHT SQUARE BRACKET WITH TICK IN BOTTOM CORNER",
   "298F LEFT SQUARE BRACKET WITH TICK IN BOTTOM CORNER",
   "2990 RIGHT SQUARE BRACKET WITH TICK IN TOP CORNER, LEFT ANGLE BRACKET WITH DOT",
   "2992 RIGHT ANGLE BRACKET WITH DOT, LEFT ARC LESS-THAN BRACKET, RIGHT ARC GREATER-THAN BRACKET",
   "2995 DOUBLE: LEFT ARC GREATER-THAN BRACKET, RIGHT ARC LESS-THAN BRACKET",
   "2997 LEFT BLACK TORTOISE SHELL BRACKET, RIGHT BLACK TORTOISE SHELL BRACKET, DOTTED FENCE",
   "299A VERTICAL ZIGZAG LINE, MEASURED ANGLE OPENING LEFT, RIGHT ANGLE VARIANT WITH SQUARE",
   "299D MEASURED RIGHT ANGLE WITH DOT, ANGLE WITH S INSIDE, ACUTE ANGLE",
   "29A0 SPHERICAL ANGLE OPENING: LEFT, UP",
   "29A2 TURNED ANGLE, REVERSED ANGLE, ANGLE WITH UNDERBAR, REVERSED ANGLE WITH UNDERBAR",
   "29A6 OBLIQUE ANGLE OPENING: UP, DOWN",
   "29A8 MEASURED ANGLE WITH OPEN ARM ENDING IN ARROW POINTING UP AND: RIGHT, LEFT",
   "29AA MEASURED ANGLE WITH OPEN ARM ENDING IN ARROW POINTING DOWN AND: RIGHT, LEFT",
   "29AC MEASURED ANGLE WITH OPEN ARM ENDING IN ARROW POINTING: RIGHT AND UP, LEFT AND UP",
   "29AE MEASURED ANGLE WITH OPEN ARM ENDING IN ARROW POINTING: RIGHT AND DOWN, LEFT AND DOWN",
   "29B0 REVERSED EMPTY SET",
   "29B1 EMPTY SET WITH: OVERBAR, SMALL CIRCLE ABOVE, RIGHT ARROW ABOVE, LEFT ARROW ABOVE",
   "29B5 CIRCLE WITH HORIZONTAL BAR",
   "29B6 CIRCLED: VERTICAL BAR, PARALLEL, REVERSE SOLIDUS, PERPENDICULAR",
   "29BA CIRCLE DIVIDED BY HORIZONTAL BAR AND TOP HALF DIVIDED BY VERTICAL BAR",
   "29BB CIRCLE WITH SUPERIMPOSED X",
   "29BC CIRCLED ANTICLOCKWISE-ROTATED DIVISION SIGN, UP ARROW THROUGH CIRCLE",
   "29BE CIRCLED: WHITE BULLET, BULLET, LESS-THAN, GREATER-THAN",
   "29C2 CIRCLE WITH: SMALL CIRCLE TO THE RIGHT, TWO HORIZONTAL STROKES TO THE RIGHT",
   "29C4 SQUARED: RISING DIAGONAL SLASH, FALLING DIAGONAL SLASH, ASTERISK, SMALL CIRCLE, SQUARE",
   "29C9 TWO JOINED SQUARES",
   "29CA TRIANGLE WITH: DOT ABOVE, UNDERBAR",
   "29CC S IN TRIANGLE, TRIANGLE WITH SERIFS AT BOTTOM, RIGHT TRIANGLE ABOVE LEFT TRIANGLE",
   "29CF LEFT TRIANGLE BESIDE VERTICAL BAR, VERTICAL BAR BESIDE RIGHT TRIANGLE",
   "29D1 BOWTIE WITH: LEFT HALF BLACK, RIGHT HALF BLACK",
   "29D3 BLACK BOWTIE, TIMES WITH LEFT HALF BLACK",
   "29D5 TIMES WITH RIGHT HALF BLACK, WHITE HOURGLASS, BLACK HOURGLASS, LEFT WIGGLY FENCE",
   "29D9 RIGHT WIGGLY FENCE, LEFT DOUBLE WIGGLY FENCE, RIGHT DOUBLE WIGGLY FENCE",
   "29DC INCOMPLETE INFINITY, TIE OVER INFINITY, INFINITY NEGATED WITH VERTICAL BAR",
   "29DF DOUBLE-ENDED MULTIMAP, SQUARE WITH CONTOURED OUTLINE, INCREASES AS, SHUFFLE PRODUCT",
   "29E3 EQUALS SIGN AND SLANTED: PARALLEL, PARALLEL WITH TILDE ABOVE",
   "29E5 IDENTICAL TO AND SLANTED PARALLEL, GLEICH STARK, THERMODYNAMIC",
   "29E8 DOWN-POINTING TRIANGLE WITH: LEFT HALF BLACK, RIGHT HALF BLACK",
   "29EA BLACK: DIAMOND WITH DOWN ARROW, LOZENGE",
   "29EC WHITE CIRCLE WITH DOWN ARROW, BLACK CIRCLE WITH DOWN ARROW",
   "29EE ERROR-BARRED: WHITE SQUARE, BLACK SQUARE, WHITE DIAMOND, BLACK DIAMOND, WHITE CIRCLE",
   "29F3 ERROR-BARRED BLACK CIRCLE, RULE-DELAYED",
   "29F5 REVERSE SOLIDUS OPERATOR, SOLIDUS WITH OVERBAR, REVERSE SOLIDUS WITH HORIZONTAL STROKE",
   "29F8 BIG SOLIDUS, BIG REVERSE SOLIDUS, DOUBLE PLUS, TRIPLE PLUS",
   "29FC LEFT-POINTING CURVED ANGLE BRACKET, RIGHT-POINTING CURVED ANGLE BRACKET, TINY, MINY",
   "2A00 N-ARY CIRCLED: DOT OPERATOR, PLUS OPERATOR, TIMES OPERATOR",
   "2A03 N-ARY UNION OPERATOR WITH: DOT, PLUS",
   "2A05 N-ARY SQUARE: INTERSECTION OPERATOR, UNION OPERATOR",
   "2A07 TWO LOGICAL: AND OPERATOR, OR OPERATOR",
   "2A09 N-ARY TIMES OPERATOR, MODULO TWO SUM, SUMMATION WITH INTEGRAL",
   "2A0C QUADRUPLE INTEGRAL OPERATOR, FINITE PART INTEGRAL, INTEGRAL WITH DOUBLE STROKE",
   "2A0F INTEGRAL AVERAGE WITH SLASH, CIRCULATION FUNCTION, ANTICLOCKWISE INTEGRATION",
   "2A12 LINE INTEGRATION WITH: RECTANGULAR PATH AROUND POLE, SEMICIRCULAR PATH AROUND POLE",
   "2A14 LINE INTEGRATION NOT INCLUDING THE POLE",
   "2A15 INTEGRAL AROUND A POINT OPERATOR, QUATERNION INTEGRAL OPERATOR",
   "2A17 INTEGRAL WITH: LEFTWARDS ARROW WITH HOOK, TIMES SIGN, INTERSECTION, UNION, OVERBAR",
   "2A1C INTEGRAL WITH UNDERBAR, JOIN, LARGE LEFT TRIANGLE OPERATOR",
   "2A1F Z NOTATION SCHEMA: COMPOSITION, PIPING, PROJECTION",
   "2A22 PLUS SIGN WITH: SMALL CIRCLE ABOVE, CIRCUMFLEX ACCENT ABOVE",
   "2A24 PLUS SIGN WITH: TILDE ABOVE, DOT BELOW, TILDE BELOW, SUBSCRIPT TWO, BLACK TRIANGLE",
   "2A29 MINUS SIGN WITH: COMMA ABOVE, DOT BELOW, FALLING DOTS, RISING DOTS",
   "2A2D PLUS SIGN IN: LEFT HALF CIRCLE, RIGHT HALF CIRCLE",
   "2A2F VECTOR OR CROSS PRODUCT",
   "2A30 MULTIPLICATION SIGN WITH: DOT ABOVE, UNDERBAR",
   "2A32 SEMIDIRECT PRODUCT WITH BOTTOM CLOSED, SMASH PRODUCT",
   "2A34 MULTIPLICATION SIGN IN: LEFT HALF CIRCLE, RIGHT HALF CIRCLE",
   "2A36 CIRCLED MULTIPLICATION SIGN WITH CIRCUMFLEX ACCENT, MULTIPLICATION SIGN IN DOUBLE CIRCLE",
   "2A38 CIRCLED DIVISION SIGN, PLUS SIGN IN TRIANGLE, MINUS SIGN IN TRIANGLE",
   "2A3B MULTIPLICATION SIGN IN TRIANGLE, INTERIOR PRODUCT, RIGHTHAND INTERIOR PRODUCT",
   "2A3E Z NOTATION RELATIONAL COMPOSITION, AMALGAMATION OR COPRODUCT, INTERSECTION WITH DOT",
   "2A41 UNION WITH: MINUS SIGN, OVERBAR",
   "2A43 INTERSECTION WITH: OVERBAR, LOGICAL AND",
   "2A45 UNION WITH LOGICAL OR, UNION ABOVE INTERSECTION, INTERSECTION ABOVE UNION",
   "2A48 UNION ABOVE BAR ABOVE INTERSECTION, INTERSECTION ABOVE BAR ABOVE UNION",
   "2A4A UNION BESIDE AND JOINED WITH UNION, INTERSECTION BESIDE AND JOINED WITH INTERSECTION",
   "2A4C CLOSED: UNION WITH SERIFS, INTERSECTION WITH SERIFS",
   "2A4E DOUBLE SQUARE: INTERSECTION, UNION",
   "2A50 CLOSED UNION WITH SERIFS AND SMASH PRODUCT",
   "2A51 LOGICAL: AND WITH DOT ABOVE, OR WITH DOT ABOVE",
   "2A53 DOUBLE LOGICAL: AND, OR",
   "2A55 TWO INTERSECTING LOGICAL: AND, OR",
   "2A57 SLOPING LARGE: OR, AND",
   "2A59 LOGICAL: OR OVERLAPPING LOGICAL AND, AND WITH MIDDLE STEM",
   "2A5B LOGICAL: OR WITH MIDDLE STEM, AND WITH HORIZONTAL DASH, OR WITH HORIZONTAL DASH",
   "2A5E LOGICAL AND WITH: DOUBLE OVERBAR, UNDERBAR, DOUBLE UNDERBAR",
   "2A61 SMALL VEE WITH UNDERBAR",
   "2A62 LOGICAL OR WITH DOUBLE: OVERBAR, UNDERBAR",
   "2A64 Z NOTATION: DOMAIN ANTIRESTRICTION, RANGE ANTIRESTRICTION",
   "2A66 EQUALS SIGN WITH DOT BELOW, IDENTICAL WITH DOT ABOVE",
   "2A68 TRIPLE HORIZONTAL BAR WITH: DOUBLE VERTICAL STROKE, TRIPLE VERTICAL STROKE",
   "2A6A TILDE OPERATOR WITH: DOT ABOVE, RISING DOTS",
   "2A6C SIMILAR MINUS SIMILAR, CONGRUENT WITH DOT ABOVE, EQUALS WITH ASTERISK",
   "2A6F ALMOST EQUAL TO WITH CIRCUMFLEX ACCENT, APPROXIMATELY EQUAL OR EQUAL TO",
   "2A71 EQUALS SIGN ABOVE PLUS SIGN, PLUS SIGN ABOVE EQUALS SIGN",
   "2A73 EQUALS SIGN ABOVE TILDE OPERATOR, DOUBLE COLON EQUAL, TWO CONSECUTIVE EQUALS SIGNS",
   "2A76 THREE CONSECUTIVE EQUALS SIGNS, EQUALS SIGN WITH TWO DOTS ABOVE AND TWO DOTS BELOW",
   "2A78 EQUIVALENT WITH FOUR DOTS ABOVE, LESS-THAN WITH CIRCLE INSIDE",
   "2A7A GREATER-THAN WITH CIRCLE INSIDE, LESS-THAN WITH QUESTION MARK ABOVE",
   "2A7C GREATER-THAN WITH QUESTION MARK ABOVE, LESS-THAN OR SLANTED EQUAL TO",
   "2A7E GREATER-THAN OR SLANTED EQUAL TO, LESS-THAN OR SLANTED EQUAL TO WITH DOT INSIDE",
   "2A80 GREATER-THAN OR SLANTED EQUAL TO WITH DOT INSIDE",
   "2A81 LESS-THAN OR SLANTED EQUAL TO WITH DOT ABOVE",
   "2A82 GREATER-THAN OR SLANTED EQUAL TO WITH DOT ABOVE",
   "2A83 LESS-THAN OR SLANTED EQUAL TO WITH DOT ABOVE RIGHT",
   "2A84 GREATER-THAN OR SLANTED EQUAL TO WITH DOT ABOVE LEFT, LESS-THAN OR APPROXIMATE",
   "2A86 GREATER-THAN OR APPROXIMATE, LESS-THAN AND SINGLE-LINE NOT EQUAL TO",
   "2A88 GREATER-THAN AND SINGLE-LINE NOT EQUAL TO, LESS-THAN AND NOT APPROXIMATE",
   "2A8A GREATER-THAN AND NOT APPROXIMATE, LESS-THAN ABOVE DOUBLE-LINE EQUAL ABOVE GREATER-THAN",
   "2A8C GREATER-THAN ABOVE DOUBLE-LINE EQUAL ABOVE LESS-THAN",
   "2A8D LESS-THAN ABOVE SIMILAR OR EQUAL, GREATER-THAN ABOVE SIMILAR OR EQUAL",
   "2A8F LESS-THAN ABOVE SIMILAR ABOVE GREATER-THAN, GREATER-THAN ABOVE SIMILAR ABOVE LESS-THAN",
   "2A91 LESS-THAN ABOVE GREATER-THAN ABOVE DOUBLE-LINE EQUAL",
   "2A92 GREATER-THAN ABOVE LESS-THAN ABOVE DOUBLE-LINE EQUAL",
   "2A93 LESS-THAN ABOVE SLANTED EQUAL ABOVE GREATER-THAN ABOVE SLANTED EQUAL",
   "2A94 GREATER-THAN ABOVE SLANTED EQUAL ABOVE LESS-THAN ABOVE SLANTED EQUAL",
   "2A95 SLANTED EQUAL TO OR: LESS-THAN, GREATER-THAN, LESS-THAN WITH DOT INSIDE",
   "2A98 SLANTED EQUAL TO OR GREATER-THAN WITH DOT INSIDE",
   "2A99 DOUBLE-LINE EQUAL TO OR: LESS-THAN, GREATER-THAN",
   "2A9B DOUBLE-LINE SLANTED EQUAL TO OR: LESS-THAN, GREATER-THAN",
   "2A9D SIMILAR OR: LESS-THAN, GREATER-THAN",
   "2A9F SIMILAR ABOVE: LESS-THAN ABOVE EQUALS SIGN, GREATER-THAN ABOVE EQUALS SIGN",
   "2AA1 DOUBLE NESTED: LESS-THAN, GREATER-THAN, LESS-THAN WITH UNDERBAR",
   "2AA4 GREATER-THAN: OVERLAPPING LESS-THAN, BESIDE LESS-THAN",
   "2AA6 LESS-THAN CLOSED BY CURVE",
   "2AA7 GREATER-THAN CLOSED BY CURVE, LESS-THAN CLOSED BY CURVE ABOVE SLANTED EQUAL",
   "2AA9 GREATER-THAN CLOSED BY CURVE ABOVE SLANTED EQUAL, SMALLER THAN, LARGER THAN",
   "2AAC SMALLER THAN OR EQUAL TO, LARGER THAN OR EQUAL TO, EQUALS SIGN WITH BUMPY ABOVE",
   "2AAF PRECEDES ABOVE SINGLE-LINE EQUALS SIGN, SUCCEEDS ABOVE SINGLE-LINE EQUALS SIGN",
   "2AB1 PRECEDES ABOVE SINGLE-LINE NOT EQUAL TO, SUCCEEDS ABOVE SINGLE-LINE NOT EQUAL TO",
   "2AB3 PRECEDES ABOVE EQUALS SIGN, SUCCEEDS ABOVE EQUALS SIGN",
   "2AB5 PRECEDES ABOVE NOT EQUAL TO, SUCCEEDS ABOVE NOT EQUAL TO, PRECEDES ABOVE ALMOST EQUAL TO",
   "2AB8 SUCCEEDS ABOVE ALMOST EQUAL TO, PRECEDES ABOVE NOT ALMOST EQUAL TO",
   "2ABA SUCCEEDS ABOVE NOT ALMOST EQUAL TO, DOUBLE PRECEDES, DOUBLE SUCCEEDS, SUBSET WITH DOT",
   "2ABE SUPERSET WITH DOT, SUBSET WITH PLUS SIGN BELOW, SUPERSET WITH PLUS SIGN BELOW",
   "2AC1 SUBSET WITH MULTIPLICATION SIGN BELOW, SUPERSET WITH MULTIPLICATION SIGN BELOW",
   "2AC3 SUBSET OF OR EQUAL TO WITH DOT ABOVE, SUPERSET OF OR EQUAL TO WITH DOT ABOVE",
   "2AC5 SUBSET OF ABOVE EQUALS SIGN, SUPERSET OF ABOVE EQUALS SIGN",
   "2AC7 SUBSET OF ABOVE TILDE OPERATOR, SUPERSET OF ABOVE TILDE OPERATOR",
   "2AC9 SUBSET OF ABOVE ALMOST EQUAL TO, SUPERSET OF ABOVE ALMOST EQUAL TO",
   "2ACB SUBSET OF ABOVE NOT EQUAL TO, SUPERSET OF ABOVE NOT EQUAL TO",
   "2ACD SQUARE: LEFT OPEN BOX OPERATOR, RIGHT OPEN BOX OPERATOR",
   "2ACF CLOSED: SUBSET, SUPERSET, SUBSET OR EQUAL TO, SUPERSET OR EQUAL TO",
   "2AD3 SUBSET ABOVE SUPERSET, SUPERSET ABOVE SUBSET, SUBSET ABOVE SUBSET",
   "2AD6 SUPERSET: ABOVE SUPERSET, BESIDE SUBSET, BESIDE AND JOINED BY DASH WITH SUBSET",
   "2AD9 ELEMENT OF OPENING DOWNWARDS, PITCHFORK WITH TEE TOP, TRANSVERSAL INTERSECTION, FORKING",
   "2ADD NONFORKING, SHORT LEFT TACK, SHORT DOWN TACK, SHORT UP TACK, PERPENDICULAR WITH S",
   "2AE2 VERTICAL BAR TRIPLE RIGHT TURNSTILE, DOUBLE VERTICAL BAR LEFT TURNSTILE",
   "2AE4 VERTICAL BAR DOUBLE LEFT TURNSTILE, DOUBLE VERTICAL BAR DOUBLE LEFT TURNSTILE",
   "2AE6 LONG DASH FROM LEFT MEMBER OF DOUBLE VERTICAL, SHORT DOWN TACK WITH OVERBAR",
   "2AE8 SHORT UP TACK: WITH UNDERBAR, ABOVE SHORT DOWN TACK",
   "2AEA DOUBLE: DOWN TACK, UP TACK, STROKE NOT SIGN",
   "2AED REVERSED DOUBLE STROKE NOT SIGN, DOES NOT DIVIDE WITH REVERSED NEGATION SLASH",
   "2AEF VERTICAL LINE WITH CIRCLE: ABOVE, BELOW",
   "2AF1 DOWN TACK WITH CIRCLE BELOW",
   "2AF2 PARALLEL WITH: HORIZONTAL STROKE, TILDE OPERATOR",
   "2AF4 TRIPLE VERTICAL BAR: BINARY RELATION, WITH HORIZONTAL STROKE",
   "2AF6 TRIPLE: COLON OPERATOR, NESTED LESS-THAN, NESTED GREATER-THAN",
   "2AF9 DOUBLE-LINE SLANTED: LESS-THAN OR EQUAL TO, GREATER-THAN OR EQUAL TO",
   "2AFB TRIPLE SOLIDUS BINARY RELATION, LARGE TRIPLE VERTICAL BAR OPERATOR",
   "2AFD DOUBLE SOLIDUS OPERATOR, WHITE VERTICAL BAR, N-ARY WHITE VERTICAL BAR",
   "2B00 NORTH: EAST WHITE ARROW, WEST WHITE ARROW",
   "2B02 SOUTH EAST WHITE ARROW, SOUTH WEST WHITE ARROW, LEFT RIGHT WHITE ARROW",
   "2B05 LEFTWARDS BLACK ARROW, UPWARDS BLACK ARROW, DOWNWARDS BLACK ARROW",
   "2B08 NORTH EAST BLACK ARROW, NORTH WEST BLACK ARROW, SOUTH EAST BLACK ARROW",
   "2B0B SOUTH WEST BLACK ARROW, LEFT RIGHT BLACK ARROW, UP DOWN BLACK ARROW",
   "2B0E RIGHTWARDS ARROW WITH TIP: DOWNWARDS, UPWARDS",
   "2B10 LEFTWARDS ARROW WITH TIP: DOWNWARDS, UPWARDS",
   "2B12 SQUARE WITH: TOP HALF BLACK, BOTTOM HALF BLACK, UPPER RIGHT DIAGONAL HALF BLACK",
   "2B15 SQUARE WITH LOWER LEFT DIAGONAL HALF BLACK",
   "2B16 DIAMOND WITH: LEFT HALF BLACK, RIGHT HALF BLACK, TOP HALF BLACK, BOTTOM HALF BLACK",
   "2B1A DOTTED SQUARE, BLACK LARGE SQUARE, WHITE LARGE SQUARE",
   "2B1D BLACK VERY SMALL SQUARE, WHITE VERY SMALL SQUARE, BLACK PENTAGON, WHITE PENTAGON",
   "2B21 WHITE HEXAGON, BLACK HEXAGON, HORIZONTAL BLACK HEXAGON, BLACK LARGE CIRCLE",
   "2B25 BLACK MEDIUM DIAMOND, WHITE MEDIUM DIAMOND, BLACK MEDIUM LOZENGE, WHITE MEDIUM LOZENGE",
   "2B29 BLACK SMALL: DIAMOND, LOZENGE",
   "2B2B WHITE SMALL LOZENGE, BLACK HORIZONTAL ELLIPSE, WHITE HORIZONTAL ELLIPSE",
   "2B2E BLACK VERTICAL ELLIPSE, WHITE VERTICAL ELLIPSE, LEFT ARROW WITH SMALL CIRCLE",
   "2B31 THREE LEFTWARDS ARROWS, LEFT ARROW WITH CIRCLED PLUS, LONG LEFTWARDS SQUIGGLE ARROW",
   "2B34 LEFTWARDS TWO-HEADED ARROW: WITH VERTICAL STROKE, WITH DOUBLE VERTICAL STROKE, FROM BAR",
   "2B37 LEFTWARDS: TWO-HEADED TRIPLE DASH ARROW, ARROW WITH DOTTED STEM",
   "2B39 LEFTWARDS ARROW WITH TAIL WITH: VERTICAL STROKE, DOUBLE VERTICAL STROKE",
   "2B3B LEFTWARDS TWO-HEADED ARROW WITH TAIL",
   "2B3C LEFTWARDS TWO-HEADED ARROW WITH TAIL WITH: VERTICAL STROKE, DOUBLE VERTICAL STROKE",
   "2B3E LEFTWARDS ARROW THROUGH X, WAVE ARROW POINTING DIRECTLY LEFT",
   "2B40 EQUALS SIGN ABOVE LEFTWARDS ARROW, REVERSE TILDE OPERATOR ABOVE LEFTWARDS ARROW",
   "2B42 LEFTWARDS ARROW ABOVE REVERSE ALMOST EQUAL TO",
   "2B43 RIGHTWARDS ARROW THROUGH: GREATER-THAN, SUPERSET",
   "2B45 LEFTWARDS QUADRUPLE ARROW",
   "2B46 RIGHTWARDS QUADRUPLE ARROW, REVERSE TILDE OPERATOR ABOVE RIGHTWARDS ARROW",
   "2B48 RIGHTWARDS ARROW ABOVE REVERSE ALMOST EQUAL TO, TILDE OPERATOR ABOVE LEFTWARDS ARROW",
   "2B4A LEFTWARDS ARROW ABOVE: ALMOST EQUAL TO, REVERSE TILDE OPERATOR",
   "2B4C RIGHTWARDS ARROW ABOVE REVERSE TILDE OPERATOR, DOWNWARDS TRIANGLE-HEADED ZIGZAG ARROW",
   "2B4E SHORT: SLANTED NORTH ARROW, BACKSLANTED SOUTH ARROW",
   "2B50 WHITE MEDIUM STAR, BLACK SMALL STAR, WHITE SMALL STAR",
   "2B53 BLACK RIGHT-POINTING PENTAGON, WHITE RIGHT-POINTING PENTAGON, HEAVY LARGE CIRCLE",
   "2B56 HEAVY: OVAL WITH OVAL INSIDE, CIRCLE WITH CIRCLE INSIDE, CIRCLE, CIRCLED SALTIRE",
   "2B5A SLANTED NORTH ARROW WITH HOOKED HEAD, BACKSLANTED SOUTH ARROW WITH HOOKED TAIL",
   "2B5C SLANTED NORTH ARROW WITH HORIZONTAL TAIL, BACKSLANTED SOUTH ARROW WITH HORIZONTAL TAIL",
   "2B5E BENT ARROW POINTING DOWNWARDS THEN NORTH EAST",
   "2B5F SHORT BENT ARROW POINTING DOWNWARDS THEN NORTH EAST, LEFTWARDS TRIANGLE-HEADED ARROW",
   "2B61 UPWARDS TRIANGLE-HEADED ARROW, RIGHTWARDS TRIANGLE-HEADED ARROW",
   "2B63 DOWNWARDS TRIANGLE-HEADED ARROW, LEFT RIGHT TRIANGLE-HEADED ARROW",
   "2B65 UP DOWN TRIANGLE-HEADED ARROW, NORTH WEST TRIANGLE-HEADED ARROW",
   "2B67 NORTH EAST TRIANGLE-HEADED ARROW, SOUTH EAST TRIANGLE-HEADED ARROW",
   "2B69 SOUTH WEST TRIANGLE-HEADED ARROW, LEFTWARDS TRIANGLE-HEADED DASHED ARROW",
   "2B6B UPWARDS TRIANGLE-HEADED DASHED ARROW, RIGHTWARDS TRIANGLE-HEADED DASHED ARROW",
   "2B6D DOWNWARDS TRIANGLE-HEADED DASHED ARROW, CLOCKWISE TRIANGLE-HEADED OPEN CIRCLE ARROW",
   "2B6F ANTICLOCKWISE TRIANGLE-HEADED OPEN CIRCLE ARROW",
   "2B70 LEFTWARDS TRIANGLE-HEADED ARROW TO BAR, UPWARDS TRIANGLE-HEADED ARROW TO BAR",
   "2B72 RIGHTWARDS TRIANGLE-HEADED ARROW TO BAR, DOWNWARDS TRIANGLE-HEADED ARROW TO BAR",
   "2B76 NORTH: WEST TRIANGLE-HEADED ARROW TO BAR, EAST TRIANGLE-HEADED ARROW TO BAR",
   "2B78 SOUTH: EAST TRIANGLE-HEADED ARROW TO BAR, WEST TRIANGLE-HEADED ARROW TO BAR",
   "2B7A LEFTWARDS TRIANGLE-HEADED ARROW WITH DOUBLE HORIZONTAL STROKE",
   "2B7B UPWARDS TRIANGLE-HEADED ARROW WITH DOUBLE HORIZONTAL STROKE",
   "2B7C RIGHTWARDS TRIANGLE-HEADED ARROW WITH DOUBLE HORIZONTAL STROKE",
   "2B7D DOWNWARDS TRIANGLE-HEADED ARROW WITH DOUBLE HORIZONTAL STROKE, HORIZONTAL TAB KEY",
   "2B7F VERTICAL TAB KEY, LEFTWARDS TRIANGLE-HEADED ARROW OVER RIGHTWARDS TRIANGLE-HEADED ARROW",
   "2B81 UPWARDS TRIANGLE-HEADED ARROW LEFTWARDS OF DOWNWARDS TRIANGLE-HEADED ARROW",
   "2B82 RIGHTWARDS TRIANGLE-HEADED ARROW OVER LEFTWARDS TRIANGLE-HEADED ARROW",
   "2B83 DOWNWARDS TRIANGLE-HEADED ARROW LEFTWARDS OF UPWARDS TRIANGLE-HEADED ARROW",
   "2B84 LEFTWARDS TRIANGLE-HEADED PAIRED ARROWS, UPWARDS TRIANGLE-HEADED PAIRED ARROWS",
   "2B86 RIGHTWARDS TRIANGLE-HEADED PAIRED ARROWS, DOWNWARDS TRIANGLE-HEADED PAIRED ARROWS",
   "2B88 LEFTWARDS BLACK CIRCLED WHITE ARROW, UPWARDS BLACK CIRCLED WHITE ARROW",
   "2B8A RIGHTWARDS BLACK CIRCLED WHITE ARROW, DOWNWARDS BLACK CIRCLED WHITE ARROW",
   "2B8C ANTICLOCKWISE TRIANGLE-HEADED: RIGHT U-SHAPED ARROW, BOTTOM U-SHAPED ARROW",
   "2B8E ANTICLOCKWISE TRIANGLE-HEADED: LEFT U-SHAPED ARROW, TOP U-SHAPED ARROW",
   "2B90 RETURN: LEFT, RIGHT",
   "2B92 NEWLINE: LEFT, RIGHT",
   "2B94 FOUR CORNER ARROWS CIRCLING ANTICLOCKWISE, RIGHTWARDS BLACK ARROW",
   "2B97 SYMBOL FOR TYPE A ELECTRONICS, THREE-D TOP-LIGHTED LEFTWARDS EQUILATERAL ARROWHEAD",
   "2B99 THREE-D RIGHT-LIGHTED UPWARDS EQUILATERAL ARROWHEAD",
   "2B9A THREE-D TOP-LIGHTED RIGHTWARDS EQUILATERAL ARROWHEAD",
   "2B9B THREE-D LEFT-LIGHTED DOWNWARDS EQUILATERAL ARROWHEAD",
   "2B9C BLACK: LEFTWARDS EQUILATERAL ARROWHEAD, UPWARDS EQUILATERAL ARROWHEAD",
   "2B9E BLACK: RIGHTWARDS EQUILATERAL ARROWHEAD, DOWNWARDS EQUILATERAL ARROWHEAD",
   "2BA0 DOWNWARDS TRIANGLE-HEADED ARROW WITH LONG TIP: LEFTWARDS, RIGHTWARDS",
   "2BA2 UPWARDS TRIANGLE-HEADED ARROW WITH LONG TIP: LEFTWARDS, RIGHTWARDS",
   "2BA4 LEFTWARDS TRIANGLE-HEADED ARROW WITH LONG TIP UPWARDS",
   "2BA5 RIGHTWARDS TRIANGLE-HEADED ARROW WITH LONG TIP UPWARDS",
   "2BA6 LEFTWARDS TRIANGLE-HEADED ARROW WITH LONG TIP DOWNWARDS",
   "2BA7 RIGHTWARDS TRIANGLE-HEADED ARROW WITH LONG TIP DOWNWARDS",
   "2BA8 BLACK CURVED DOWNWARDS AND: LEFTWARDS ARROW, RIGHTWARDS ARROW",
   "2BAA BLACK CURVED UPWARDS AND: LEFTWARDS ARROW, RIGHTWARDS ARROW",
   "2BAC BLACK CURVED: LEFTWARDS AND UPWARDS ARROW, RIGHTWARDS AND UPWARDS ARROW",
   "2BAE BLACK CURVED: LEFTWARDS AND DOWNWARDS ARROW, RIGHTWARDS AND DOWNWARDS ARROW",
   "2BB0 RIBBON ARROW DOWN: LEFT, RIGHT",
   "2BB2 RIBBON ARROW: UP LEFT, UP RIGHT, LEFT UP, RIGHT UP, LEFT DOWN, RIGHT DOWN",
   "2BB8 UPWARDS WHITE ARROW FROM BAR WITH HORIZONTAL BAR, UP ARROWHEAD IN A RECTANGLE BOX",
   "2BBA OVERLAPPING: WHITE SQUARES, WHITE AND BLACK SQUARES, BLACK SQUARES",
   "2BBD BALLOT BOX WITH LIGHT X, CIRCLED X, CIRCLED BOLD X, BLACK SQUARE CENTRED",
   "2BC1 BLACK DIAMOND CENTRED, TURNED BLACK PENTAGON, HORIZONTAL BLACK OCTAGON, BLACK OCTAGON",
   "2BC5 BLACK MEDIUM: UP-POINTING TRIANGLE CENTRED, DOWN-POINTING TRIANGLE CENTRED",
   "2BC7 BLACK MEDIUM: LEFT-POINTING TRIANGLE CENTRED, RIGHT-POINTING TRIANGLE CENTRED",
   "2BC9 NEPTUNE FORM TWO",
   "2BCA TOP HALF BLACK CIRCLE, BOTTOM HALF BLACK CIRCLE, LIGHT FOUR POINTED BLACK CUSP",
   "2BCD ROTATED LIGHT FOUR POINTED BLACK CUSP, WHITE FOUR POINTED CUSP",
   "2BCF ROTATED WHITE FOUR POINTED CUSP, SQUARE POSITION INDICATOR, UNCERTAINTY SIGN, GROUP MARK",
   "2BD3 PLUTO FORM: TWO, THREE, FOUR, FIVE",
   "2BD7 TRANSPLUTO, PROSERPINA, ASTRAEA, HYGIEA, PHOLUS, NESSUS, WHITE MOON SELENA",
   "2BDE BLACK DIAMOND ON CROSS, TRUE LIGHT MOON ARTA, CUPIDO, HADES, ZEUS, KRONOS",
   "2BE4 APOLLON, ADMETOS, VULCANUS, POSEIDON, LEFT HALF BLACK STAR, RIGHT HALF BLACK STAR",
   "2BEA STAR WITH: LEFT HALF BLACK, RIGHT HALF BLACK",
   "2BEC LEFTWARDS TWO-HEADED ARROW WITH TRIANGLE ARROWHEADS",
   "2BED UPWARDS TWO-HEADED ARROW WITH TRIANGLE ARROWHEADS",
   "2BEE RIGHTWARDS TWO-HEADED ARROW WITH TRIANGLE ARROWHEADS",
   "2BEF DOWNWARDS TWO-HEADED ARROW WITH TRIANGLE ARROWHEADS, ERIS FORM ONE, ERIS FORM TWO, SEDNA",
   "2BF3 RUSSIAN ASTROLOGICAL SYMBOL: VIGINTILE, NOVILE, QUINTILE, BINOVILE, SENTAGON, TREDECILE",
   "2BF9 EQUALS SIGN WITH INFINITY BELOW, UNITED SYMBOL, SEPARATED SYMBOL",
   "2BFC DOUBLED SYMBOL, PASSED SYMBOL, REVERSED RIGHT ANGLE, HELLSCHREIBER PAUSE SYMBOL",
   "2C00 GLAGOLITIC CAPITAL LETTER: AZU, BUKY, VEDE, GLAGOLI, DOBRO, YESTU",
   "2C06 GLAGOLITIC CAPITAL LETTER: ZHIVETE, DZELO, ZEMLJA, IZHE, INITIAL IZHE, I, DJERVI, KAKO",
   "2C0E GLAGOLITIC CAPITAL LETTER: LJUDIJE, MYSLITE, NASHI, ONU, POKOJI, RITSI, SLOVO, TVRIDO",
   "2C16 GLAGOLITIC CAPITAL LETTER: UKU, FRITU, HERU, OTU, PE, SHTA, TSI, CHRIVI, SHA, YERU, YERI",
   "2C21 GLAGOLITIC CAPITAL LETTER: YATI, SPIDERY HA, YU, SMALL YUS, SMALL YUS WITH TAIL, YO",
   "2C27 GLAGOLITIC CAPITAL LETTER: IOTATED SMALL YUS, BIG YUS, IOTATED BIG YUS, FITA, IZHITSA",
   "2C2C GLAGOLITIC CAPITAL LETTER: SHTAPIC, TROKUTASTI A, LATINATE MYSLITE, CAUDATE CHRIVI",
   "2C30 GLAGOLITIC SMALL LETTER: AZU, BUKY, VEDE, GLAGOLI, DOBRO, YESTU, ZHIVETE, DZELO",
   "2C38 GLAGOLITIC SMALL LETTER: ZEMLJA, IZHE, INITIAL IZHE, I, DJERVI, KAKO, LJUDIJE, MYSLITE",
   "2C40 GLAGOLITIC SMALL LETTER: NASHI, ONU, POKOJI, RITSI, SLOVO, TVRIDO, UKU, FRITU, HERU, OTU",
   "2C4A GLAGOLITIC SMALL LETTER: PE, SHTA, TSI, CHRIVI, SHA, YERU, YERI, YATI, SPIDERY HA, YU",
   "2C54 GLAGOLITIC SMALL LETTER SMALL: YUS, YUS WITH TAIL",
   "2C56 GLAGOLITIC SMALL LETTER: YO, IOTATED SMALL YUS, BIG YUS, IOTATED BIG YUS, FITA, IZHITSA",
   "2C5C GLAGOLITIC SMALL LETTER: SHTAPIC, TROKUTASTI A, LATINATE MYSLITE, CAUDATE CHRIVI",
   "2C60 LATIN: CAPITAL LETTER L WITH DOUBLE BAR, SMALL LETTER L WITH DOUBLE BAR",
   "2C62 LATIN CAPITAL LETTER: L WITH MIDDLE TILDE, P WITH STROKE, R WITH TAIL",
   "2C65 LATIN SMALL LETTER: A WITH STROKE, T WITH DIAGONAL STROKE",
   "2C67 LATIN: CAPITAL LETTER H WITH DESCENDER, SMALL LETTER H WITH DESCENDER",
   "2C69 LATIN: CAPITAL LETTER K WITH DESCENDER, SMALL LETTER K WITH DESCENDER",
   "2C6B LATIN: CAPITAL LETTER Z WITH DESCENDER, SMALL LETTER Z WITH DESCENDER",
   "2C6D LATIN CAPITAL LETTER: ALPHA, M WITH HOOK, TURNED A, TURNED ALPHA",
   "2C71 LATIN: SMALL LETTER V WITH RIGHT HOOK, CAPITAL LETTER W WITH HOOK",
   "2C73 LATIN: SMALL LETTER W WITH HOOK, SMALL LETTER V WITH CURL, CAPITAL LETTER HALF H",
   "2C76 LATIN SMALL LETTER: HALF H, TAILLESS PHI, E WITH NOTCH, TURNED R WITH TAIL",
   "2C7A LATIN: SMALL LETTER O WITH LOW RING INSIDE, LETTER SMALL CAPITAL TURNED E",
   "2C7C LATIN SUBSCRIPT SMALL LETTER J, MODIFIER LETTER CAPITAL V",
   "2C7E LATIN CAPITAL LETTER: S WITH SWASH TAIL, Z WITH SWASH TAIL",
   "2C80 COPTIC: CAPITAL LETTER ALFA, SMALL LETTER ALFA, CAPITAL LETTER VIDA, SMALL LETTER VIDA",
   "2C84 COPTIC: CAPITAL LETTER GAMMA, SMALL LETTER GAMMA, CAPITAL LETTER DALDA",
   "2C87 COPTIC: SMALL LETTER DALDA, CAPITAL LETTER EIE, SMALL LETTER EIE, CAPITAL LETTER SOU",
   "2C8B COPTIC: SMALL LETTER SOU, CAPITAL LETTER ZATA, SMALL LETTER ZATA, CAPITAL LETTER HATE",
   "2C8F COPTIC: SMALL LETTER HATE, CAPITAL LETTER THETHE, SMALL LETTER THETHE",
   "2C92 COPTIC: CAPITAL LETTER IAUDA, SMALL LETTER IAUDA, CAPITAL LETTER KAPA",
   "2C95 COPTIC: SMALL LETTER KAPA, CAPITAL LETTER LAULA, SMALL LETTER LAULA, CAPITAL LETTER MI",
   "2C99 COPTIC: SMALL LETTER MI, CAPITAL LETTER NI, SMALL LETTER NI, CAPITAL LETTER KSI",
   "2C9D COPTIC: SMALL LETTER KSI, CAPITAL LETTER O, SMALL LETTER O, CAPITAL LETTER PI",
   "2CA1 COPTIC: SMALL LETTER PI, CAPITAL LETTER RO, SMALL LETTER RO, CAPITAL LETTER SIMA",
   "2CA5 COPTIC: SMALL LETTER SIMA, CAPITAL LETTER TAU, SMALL LETTER TAU, CAPITAL LETTER UA",
   "2CA9 COPTIC: SMALL LETTER UA, CAPITAL LETTER FI, SMALL LETTER FI, CAPITAL LETTER KHI",
   "2CAD COPTIC: SMALL LETTER KHI, CAPITAL LETTER PSI, SMALL LETTER PSI, CAPITAL LETTER OOU",
   "2CB1 COPTIC: SMALL LETTER OOU, CAPITAL LETTER DIALECT-P ALEF, SMALL LETTER DIALECT-P ALEF",
   "2CB4 COPTIC: CAPITAL LETTER OLD COPTIC AIN, SMALL LETTER OLD COPTIC AIN",
   "2CB6 COPTIC: CAPITAL LETTER CRYPTOGRAMMIC EIE, SMALL LETTER CRYPTOGRAMMIC EIE",
   "2CB8 COPTIC: CAPITAL LETTER DIALECT-P KAPA, SMALL LETTER DIALECT-P KAPA",
   "2CBA COPTIC: CAPITAL LETTER DIALECT-P NI, SMALL LETTER DIALECT-P NI",
   "2CBC COPTIC: CAPITAL LETTER CRYPTOGRAMMIC NI, SMALL LETTER CRYPTOGRAMMIC NI",
   "2CBE COPTIC: CAPITAL LETTER OLD COPTIC OOU, SMALL LETTER OLD COPTIC OOU, CAPITAL LETTER SAMPI",
   "2CC1 COPTIC: SMALL LETTER SAMPI, CAPITAL LETTER CROSSED SHEI, SMALL LETTER CROSSED SHEI",
   "2CC4 COPTIC CAPITAL LETTER OLD COPTIC SHEI",
   "2CC5 COPTIC: SMALL LETTER OLD COPTIC SHEI, CAPITAL LETTER OLD COPTIC ESH",
   "2CC7 COPTIC: SMALL LETTER OLD COPTIC ESH, CAPITAL LETTER AKHMIMIC KHEI",
   "2CC9 COPTIC: SMALL LETTER AKHMIMIC KHEI, CAPITAL LETTER DIALECT-P HORI",
   "2CCB COPTIC: SMALL LETTER DIALECT-P HORI, CAPITAL LETTER OLD COPTIC HORI",
   "2CCD COPTIC: SMALL LETTER OLD COPTIC HORI, CAPITAL LETTER OLD COPTIC HA",
   "2CCF COPTIC: SMALL LETTER OLD COPTIC HA, CAPITAL LETTER L-SHAPED HA, SMALL LETTER L-SHAPED HA",
   "2CD2 COPTIC: CAPITAL LETTER OLD COPTIC HEI, SMALL LETTER OLD COPTIC HEI",
   "2CD4 COPTIC: CAPITAL LETTER OLD COPTIC HAT, SMALL LETTER OLD COPTIC HAT",
   "2CD6 COPTIC: CAPITAL LETTER OLD COPTIC GANGIA, SMALL LETTER OLD COPTIC GANGIA",
   "2CD8 COPTIC: CAPITAL LETTER OLD COPTIC DJA, SMALL LETTER OLD COPTIC DJA",
   "2CDA COPTIC: CAPITAL LETTER OLD COPTIC SHIMA, SMALL LETTER OLD COPTIC SHIMA",
   "2CDC COPTIC: CAPITAL LETTER OLD NUBIAN SHIMA, SMALL LETTER OLD NUBIAN SHIMA",
   "2CDE COPTIC: CAPITAL LETTER OLD NUBIAN NGI, SMALL LETTER OLD NUBIAN NGI",
   "2CE0 COPTIC: CAPITAL LETTER OLD NUBIAN NYI, SMALL LETTER OLD NUBIAN NYI",
   "2CE2 COPTIC: CAPITAL LETTER OLD NUBIAN WAU, SMALL LETTER OLD NUBIAN WAU",
   "2CE4 COPTIC SYMBOL: KAI, MI RO, PI RO, STAUROS, TAU RO, KHI RO, SHIMA SIMA",
   "2CEB COPTIC: CAPITAL LETTER CRYPTOGRAMMIC SHEI, SMALL LETTER CRYPTOGRAMMIC SHEI",
   "2CED COPTIC: CAPITAL LETTER CRYPTOGRAMMIC GANGIA, SMALL LETTER CRYPTOGRAMMIC GANGIA",
   "2CEF COPTIC COMBINING: NI ABOVE, SPIRITUS ASPER, SPIRITUS LENIS",
   "2CF2 COPTIC: CAPITAL LETTER BOHAIRIC KHEI, SMALL LETTER BOHAIRIC KHEI",
   "2CF9 COPTIC OLD NUBIAN: FULL STOP, DIRECT QUESTION MARK, INDIRECT QUESTION MARK",
   "2CFC COPTIC: OLD NUBIAN VERSE DIVIDER, FRACTION ONE HALF, FULL STOP, MORPHOLOGICAL DIVIDER",
   "2D00 GEORGIAN SMALL LETTER: AN, BAN, GAN, DON, EN, VIN, ZEN, TAN, IN, KAN, LAS, MAN, NAR",
   "2D0D GEORGIAN SMALL LETTER: ON, PAR, ZHAR, RAE, SAN, TAR, UN, PHAR, KHAR, GHAN, QAR, SHIN",
   "2D19 GEORGIAN SMALL LETTER: CHIN, CAN, JIL, CIL, CHAR, XAN, JHAN, HAE, HE, HIE, WE, HAR, HOE",
   "2D27 GEORGIAN SMALL LETTER YN",
   "2D2D GEORGIAN SMALL LETTER AEN",
   "2D30 TIFINAGH LETTER: YA, YAB, YABH, YAG, YAGHH, BERBER ACADEMY YAJ, YAJ, YAD, YADH",
   "2D39 TIFINAGH LETTER: YADD, YADDH, YEY, YAF, YAK, TUAREG YAK, YAKHH, YAH, BERBER ACADEMY YAH",
   "2D42 TIFINAGH LETTER: TUAREG YAH, YAHH, YAA, YAKH, TUAREG YAKH, YAQ, TUAREG YAQ, YI, YAZH",
   "2D4B TIFINAGH LETTER: AHAGGAR YAZH, TUAREG YAZH, YAL, YAM, YAN, TUAREG YAGN, TUAREG YANG",
   "2D52 TIFINAGH LETTER: YAP, YU, YAR, YARR, YAGH, TUAREG YAGH, AYER YAGH, YAS, YASS, YASH",
   "2D5C TIFINAGH LETTER: YAT, YATH, YACH, YATT, YAV, YAW, YAY, YAZ, TAWELLEMET YAZ, YAZZ, YE, YO",
   "2D6F TIFINAGH: MODIFIER LETTER LABIALIZATION MARK, SEPARATOR MARK",
   "2D7F TIFINAGH CONSONANT JOINER",
   "2D80 ETHIOPIC SYLLABLE: LOA, MOA, ROA, SOA, SHOA, BOA, TOA, COA, NOA, NYOA, GLOTTAL OA",
   "2D8B ETHIOPIC SYLLABLE: ZOA, DOA, DDOA, JOA, THOA, CHOA, PHOA, POA, GGWA, GGWI, GGWEE, GGWE",
   "2DA0 ETHIOPIC SYLLABLE: SSA, SSU, SSI, SSAA, SSEE, SSE, SSO",
   "2DA8 ETHIOPIC SYLLABLE: CCA, CCU, CCI, CCAA, CCEE, CCE, CCO",
   "2DB0 ETHIOPIC SYLLABLE: ZZA, ZZU, ZZI, ZZAA, ZZEE, ZZE, ZZO",
   "2DB8 ETHIOPIC SYLLABLE: CCHA, CCHU, CCHI, CCHAA, CCHEE, CCHE, CCHO",
   "2DC0 ETHIOPIC SYLLABLE: QYA, QYU, QYI, QYAA, QYEE, QYE, QYO",
   "2DC8 ETHIOPIC SYLLABLE: KYA, KYU, KYI, KYAA, KYEE, KYE, KYO",
   "2DD0 ETHIOPIC SYLLABLE: XYA, XYU, XYI, XYAA, XYEE, XYE, XYO",
   "2DD8 ETHIOPIC SYLLABLE: GYA, GYU, GYI, GYAA, GYEE, GYE, GYO",
   "2DE0 COMBINING CYRILLIC LETTER BE",
   "2DE1 COMBINING CYRILLIC LETTER: VE, GHE, DE, ZHE, ZE, KA, EL, EM, EN, O, PE, ER, ES, TE, HA",
   "2DF0 COMBINING CYRILLIC LETTER: TSE, CHE, SHA, SHCHA, FITA, ES-TE, A, IE, DJERV, MONOGRAPH UK",
   "2DFA COMBINING CYRILLIC LETTER: YAT, YU, IOTIFIED A, LITTLE YUS, BIG YUS, IOTIFIED BIG YUS",
   "2E00 RIGHT ANGLE: SUBSTITUTION MARKER, DOTTED SUBSTITUTION MARKER",
   "2E02 LEFT SUBSTITUTION BRACKET, RIGHT SUBSTITUTION BRACKET, LEFT DOTTED SUBSTITUTION BRACKET",
   "2E05 RIGHT DOTTED SUBSTITUTION BRACKET, RAISED INTERPOLATION MARKER",
   "2E07 RAISED DOTTED INTERPOLATION MARKER, DOTTED TRANSPOSITION MARKER",
   "2E09 LEFT TRANSPOSITION BRACKET, RIGHT TRANSPOSITION BRACKET, RAISED SQUARE",
   "2E0C LEFT RAISED OMISSION BRACKET, RIGHT RAISED OMISSION BRACKET, EDITORIAL CORONIS",
   "2E0F PARAGRAPHOS, FORKED PARAGRAPHOS, REVERSED FORKED PARAGRAPHOS, HYPODIASTOLE",
   "2E13 DOTTED OBELOS, DOWNWARDS ANCORA, UPWARDS ANCORA, DOTTED RIGHT-POINTING ANGLE",
   "2E17 DOUBLE OBLIQUE HYPHEN, INVERTED INTERROBANG, PALM BRANCH, HYPHEN WITH DIAERESIS",
   "2E1B TILDE WITH RING ABOVE, LEFT LOW PARAPHRASE BRACKET, RIGHT LOW PARAPHRASE BRACKET",
   "2E1E TILDE WITH DOT: ABOVE, BELOW",
   "2E20 LEFT VERTICAL BAR WITH QUILL, RIGHT VERTICAL BAR WITH QUILL",
   "2E22 TOP LEFT HALF BRACKET, TOP RIGHT HALF BRACKET, BOTTOM LEFT HALF BRACKET",
   "2E25 BOTTOM RIGHT HALF BRACKET, LEFT SIDEWAYS U BRACKET, RIGHT SIDEWAYS U BRACKET",
   "2E28 LEFT DOUBLE PARENTHESIS, RIGHT DOUBLE PARENTHESIS, TWO DOTS OVER ONE DOT PUNCTUATION",
   "2E2B ONE DOT OVER TWO DOTS PUNCTUATION, SQUARED FOUR DOT PUNCTUATION",
   "2E2D FIVE DOT MARK, REVERSED QUESTION MARK, VERTICAL TILDE, RING POINT",
   "2E31 WORD SEPARATOR MIDDLE DOT, TURNED COMMA, RAISED DOT, RAISED COMMA, TURNED SEMICOLON",
   "2E36 DAGGER WITH: LEFT GUARD, RIGHT GUARD",
   "2E38 TURNED DAGGER, TOP HALF SECTION SIGN, TWO-EM DASH, THREE-EM DASH, STENOGRAPHIC FULL STOP",
   "2E3D VERTICAL SIX DOTS, WIGGLY VERTICAL LINE, CAPITULUM, DOUBLE HYPHEN, REVERSED COMMA",
   "2E42 DOUBLE LOW-REVERSED-9 QUOTATION MARK, DASH WITH LEFT UPTURN, DOUBLE SUSPENSION MARK",
   "2E45 INVERTED LOW: KAVYKA, KAVYKA WITH KAVYKA ABOVE",
   "2E47 LOW KAVYKA, LOW KAVYKA WITH DOT, DOUBLE STACKED COMMA, DOTTED SOLIDUS, TRIPLE DAGGER",
   "2E4C MEDIEVAL COMMA, PARAGRAPHUS MARK, PUNCTUS ELEVATUS MARK, CORNISH VERSE DIVIDER",
   "2E50 CROSS PATTY WITH: RIGHT CROSSBAR, LEFT CROSSBAR",
   "2E52 TIRONIAN SIGN CAPITAL ET, MEDIEVAL EXCLAMATION MARK, MEDIEVAL QUESTION MARK",
   "2E55 LEFT SQUARE BRACKET WITH STROKE, RIGHT SQUARE BRACKET WITH STROKE",
   "2E57 LEFT SQUARE BRACKET WITH DOUBLE STROKE, RIGHT SQUARE BRACKET WITH DOUBLE STROKE",
   "2E59 TOP HALF: LEFT PARENTHESIS, RIGHT PARENTHESIS",
   "2E5B BOTTOM HALF: LEFT PARENTHESIS, RIGHT PARENTHESIS",
   "2E5D OBLIQUE HYPHEN",
   "2E80 CJK RADICAL: REPEAT, CLIFF, SECOND ONE, SECOND TWO, SECOND THREE, PERSON",
   "2E86 CJK RADICAL: BOX, TABLE, KNIFE ONE, KNIFE TWO, DIVINATION, SEAL, SMALL ONE, SMALL TWO",
   "2E8E CJK RADICAL LAME: ONE, TWO, THREE, FOUR",
   "2E92 CJK RADICAL: SNAKE, THREAD, SNOUT ONE, SNOUT TWO, HEART ONE, HEART TWO, HAND, RAP",
   "2E9B CJK RADICAL: CHOKE, SUN, MOON, DEATH, MOTHER, CIVILIAN, WATER ONE, WATER TWO",
   "2EA3 CJK RADICAL: FIRE, PAW ONE, PAW TWO, SIMPLIFIED HALF TREE TRUNK, COW, DOG, JADE",
   "2EAA CJK RADICAL: BOLT OF CLOTH, EYE, SPIRIT ONE, SPIRIT TWO, BAMBOO, SILK, C-SIMPLIFIED SILK",
   "2EB1 CJK RADICAL NET: ONE, TWO, THREE, FOUR",
   "2EB5 CJK RADICAL: MESH, SHEEP, RAM, EWE, OLD, BRUSH ONE, BRUSH TWO, MEAT, MORTAR",
   "2EBE CJK RADICAL GRASS: ONE, TWO, THREE",
   "2EC1 CJK RADICAL: TIGER, CLOTHES, WEST ONE, WEST TWO, C-SIMPLIFIED SEE, SIMPLIFIED HORN, HORN",
   "2EC8 CJK RADICAL C-SIMPLIFIED: SPEECH, SHELL",
   "2ECA CJK RADICAL: FOOT, C-SIMPLIFIED CART, SIMPLIFIED WALK",
   "2ECD CJK RADICAL: WALK ONE, WALK TWO, CITY, C-SIMPLIFIED GOLD, LONG ONE, LONG TWO",
   "2ED3 CJK RADICAL: C-SIMPLIFIED LONG, C-SIMPLIFIED GATE, MOUND ONE, MOUND TWO, RAIN, BLUE",
   "2ED9 CJK RADICAL C-SIMPLIFIED: TANNED LEATHER, LEAF, WIND, FLY",
   "2EDD CJK RADICAL EAT: ONE, TWO, THREE",
   "2EE0 CJK RADICAL: C-SIMPLIFIED EAT, HEAD, C-SIMPLIFIED HORSE, BONE, GHOST",
   "2EE5 CJK RADICAL C-SIMPLIFIED: FISH, BIRD, SALT",
   "2EE8 CJK RADICAL SIMPLIFIED: WHEAT, YELLOW",
   "2EEA CJK RADICAL: C-SIMPLIFIED FROG, J-SIMPLIFIED EVEN, C-SIMPLIFIED EVEN",
   "2EED CJK RADICAL: J-SIMPLIFIED TOOTH, C-SIMPLIFIED TOOTH, J-SIMPLIFIED DRAGON",
   "2EF0 CJK RADICAL: C-SIMPLIFIED DRAGON, TURTLE, J-SIMPLIFIED TURTLE, C-SIMPLIFIED TURTLE",
   "2F00 KANGXI RADICAL: ONE, LINE, DOT, SLASH, SECOND, HOOK, TWO, LID",
   "2F08 KANGXI RADICAL: MAN, LEGS, ENTER, EIGHT, DOWN BOX, COVER, ICE, TABLE, OPEN BOX, KNIFE",
   "2F12 KANGXI RADICAL: POWER, WRAP, SPOON, RIGHT OPEN BOX, HIDING ENCLOSURE, TEN, DIVINATION",
   "2F19 KANGXI RADICAL: SEAL, CLIFF, PRIVATE, AGAIN, MOUTH, ENCLOSURE, EARTH, SCHOLAR, GO",
   "2F22 KANGXI RADICAL: GO SLOWLY, EVENING, BIG, WOMAN, CHILD, ROOF, INCH, SMALL, LAME, CORPSE",
   "2F2C KANGXI RADICAL: SPROUT, MOUNTAIN, RIVER, WORK, ONESELF, TURBAN, DRY, SHORT THREAD",
   "2F34 KANGXI RADICAL: DOTTED CLIFF, LONG STRIDE, TWO HANDS, SHOOT, BOW, SNOUT, BRISTLE, STEP",
   "2F3C KANGXI RADICAL: HEART, HALBERD, DOOR, HAND, BRANCH, RAP, SCRIPT, DIPPER, AXE, SQUARE",
   "2F46 KANGXI RADICAL: NOT, SUN, SAY, MOON, TREE, LACK, STOP, DEATH, WEAPON, DO NOT, COMPARE",
   "2F51 KANGXI RADICAL: FUR, CLAN, STEAM, WATER, FIRE, CLAW, FATHER, DOUBLE X, HALF TREE TRUNK",
   "2F5A KANGXI RADICAL: SLICE, FANG, COW, DOG, PROFOUND, JADE, MELON, TILE, SWEET, LIFE",
   "2F64 KANGXI RADICAL: USE, FIELD, BOLT OF CLOTH, SICKNESS, DOTTED TENT, WHITE, SKIN, DISH",
   "2F6C KANGXI RADICAL: EYE, SPEAR, ARROW, STONE, SPIRIT, TRACK, GRAIN, CAVE, STAND, BAMBOO",
   "2F76 KANGXI RADICAL: RICE, SILK, JAR, NET, SHEEP, FEATHER, OLD, AND, PLOW, EAR, BRUSH, MEAT",
   "2F82 KANGXI RADICAL: MINISTER, SELF, ARRIVE, MORTAR, TONGUE, OPPOSE, BOAT, STOPPING, COLOR",
   "2F8B KANGXI RADICAL: GRASS, TIGER, INSECT, BLOOD, WALK ENCLOSURE, CLOTHES, WEST, SEE, HORN",
   "2F94 KANGXI RADICAL: SPEECH, VALLEY, BEAN, PIG, BADGER, SHELL, RED, RUN, FOOT, BODY, CART",
   "2F9F KANGXI RADICAL: BITTER, MORNING, WALK, CITY, WINE, DISTINGUISH, VILLAGE, GOLD, LONG",
   "2FA8 KANGXI RADICAL: GATE, MOUND, SLAVE, SHORT TAILED BIRD, RAIN, BLUE, WRONG, FACE, LEATHER",
   "2FB1 KANGXI RADICAL: TANNED LEATHER, LEEK, SOUND, LEAF, WIND, FLY, EAT, HEAD, FRAGRANT",
   "2FBA KANGXI RADICAL: HORSE, BONE, TALL, HAIR, FIGHT, SACRIFICIAL WINE, CAULDRON, GHOST",
   "2FC2 KANGXI RADICAL: FISH, BIRD, SALT, DEER, WHEAT, HEMP, YELLOW, MILLET, BLACK, EMBROIDERY",
   "2FCC KANGXI RADICAL: FROG, TRIPOD, DRUM, RAT, NOSE, EVEN, TOOTH, DRAGON, TURTLE, FLUTE",
   "2FF0 IDEOGRAPHIC DESCRIPTION CHARACTER: LEFT TO RIGHT, ABOVE TO BELOW",
   "2FF2 IDEOGRAPHIC DESCRIPTION CHARACTER: LEFT TO MIDDLE AND RIGHT, ABOVE TO MIDDLE AND BELOW",
   "2FF4 IDEOGRAPHIC DESCRIPTION CHARACTER: FULL SURROUND, SURROUND FROM ABOVE",
   "2FF6 IDEOGRAPHIC DESCRIPTION CHARACTER SURROUND FROM: BELOW, LEFT, UPPER LEFT, UPPER RIGHT",
   "2FFA IDEOGRAPHIC DESCRIPTION CHARACTER: SURROUND FROM LOWER LEFT, OVERLAID"]

end Codegen.Text.CharName
