/-!
Names of characters, from version 14 of the Unicode Character Database: the alphabets of Europe and
the Near East, U+0000 to U+07FF.
-/

namespace Codegen.Text.CharName

def letterRows : List String :=
  ["20 SPACE, EXCLAMATION MARK, QUOTATION MARK",
   "23 NUMBER SIGN, DOLLAR SIGN, PERCENT SIGN, AMPERSAND, APOSTROPHE, LEFT PARENTHESIS",
   "29 RIGHT PARENTHESIS, ASTERISK, PLUS SIGN, COMMA, HYPHEN-MINUS, FULL STOP, SOLIDUS",
   "30 DIGIT: ZERO, ONE, TWO, THREE, FOUR, FIVE, SIX, SEVEN, EIGHT, NINE",
   "3A COLON",
   "3B SEMICOLON, LESS-THAN SIGN, EQUALS SIGN, GREATER-THAN SIGN, QUESTION MARK, COMMERCIAL AT",
   "41 LATIN CAPITAL LETTER: A, B, C",
   "44 LATIN CAPITAL LETTER: D, E, F, G, H, I, J, K, L, M, N, O, P, Q, R, S, T, U, V, W, X, Y, Z",
   "5B LEFT SQUARE BRACKET",
   "5C REVERSE SOLIDUS, RIGHT SQUARE BRACKET, CIRCUMFLEX ACCENT, LOW LINE, GRAVE ACCENT",
   "61 LATIN SMALL LETTER: A, B",
   "63 LATIN SMALL LETTER: C, D, E, F, G, H, I, J, K, L, M, N, O, P, Q, R, S, T, U, V, W, X, Y, Z",
   "7B LEFT CURLY BRACKET, VERTICAL LINE, RIGHT CURLY BRACKET, TILDE",
   "A0 NO-BREAK SPACE, INVERTED EXCLAMATION MARK",
   "A2 CENT SIGN, POUND SIGN, CURRENCY SIGN, YEN SIGN, BROKEN BAR, SECTION SIGN, DIAERESIS",
   "A9 COPYRIGHT SIGN, FEMININE ORDINAL INDICATOR, LEFT-POINTING DOUBLE ANGLE QUOTATION MARK",
   "AC NOT SIGN, SOFT HYPHEN, REGISTERED SIGN, MACRON, DEGREE SIGN, PLUS-MINUS SIGN",
   "B2 SUPERSCRIPT: TWO, THREE",
   "B4 ACUTE ACCENT, MICRO SIGN, PILCROW SIGN, MIDDLE DOT, CEDILLA",
   "B9 SUPERSCRIPT ONE, MASCULINE ORDINAL INDICATOR, RIGHT-POINTING DOUBLE ANGLE QUOTATION MARK",
   "BC VULGAR FRACTION: ONE QUARTER, ONE HALF, THREE QUARTERS",
   "BF INVERTED QUESTION MARK",
   "C0 LATIN CAPITAL LETTER A WITH: GRAVE, ACUTE, CIRCUMFLEX, TILDE, DIAERESIS, RING ABOVE",
   "C6 LATIN CAPITAL LETTER: AE, C WITH CEDILLA",
   "C8 LATIN CAPITAL LETTER E WITH: GRAVE, ACUTE, CIRCUMFLEX, DIAERESIS",
   "CC LATIN CAPITAL LETTER I WITH: GRAVE, ACUTE, CIRCUMFLEX, DIAERESIS",
   "D0 LATIN CAPITAL LETTER: ETH, N WITH TILDE",
   "D2 LATIN CAPITAL LETTER O WITH: GRAVE, ACUTE, CIRCUMFLEX, TILDE, DIAERESIS",
   "D7 MULTIPLICATION SIGN",
   "D8 LATIN CAPITAL LETTER: O WITH STROKE, U WITH GRAVE, U WITH ACUTE",
   "DB LATIN CAPITAL LETTER: U WITH CIRCUMFLEX, U WITH DIAERESIS, Y WITH ACUTE, THORN",
   "DF LATIN SMALL LETTER SHARP S",
   "E0 LATIN SMALL LETTER A WITH: GRAVE, ACUTE, CIRCUMFLEX, TILDE, DIAERESIS, RING ABOVE",
   "E6 LATIN SMALL LETTER: AE, C WITH CEDILLA",
   "E8 LATIN SMALL LETTER E WITH: GRAVE, ACUTE, CIRCUMFLEX, DIAERESIS",
   "EC LATIN SMALL LETTER I WITH: GRAVE, ACUTE, CIRCUMFLEX, DIAERESIS",
   "F0 LATIN SMALL LETTER: ETH, N WITH TILDE",
   "F2 LATIN SMALL LETTER O WITH: GRAVE, ACUTE, CIRCUMFLEX, TILDE, DIAERESIS",
   "F7 DIVISION SIGN, LATIN SMALL LETTER O WITH STROKE",
   "F9 LATIN SMALL LETTER U WITH: GRAVE, ACUTE, CIRCUMFLEX, DIAERESIS",
   "FD LATIN SMALL LETTER: Y WITH ACUTE, THORN, Y WITH DIAERESIS",
   "100 LATIN CAPITAL LETTER A WITH MACRON",
   "101 LATIN: SMALL LETTER A WITH MACRON, CAPITAL LETTER A WITH BREVE, SMALL LETTER A WITH BREVE",
   "104 LATIN CAPITAL LETTER A WITH OGONEK",
   "105 LATIN: SMALL LETTER A WITH OGONEK, CAPITAL LETTER C WITH ACUTE, SMALL LETTER C WITH ACUTE",
   "108 LATIN CAPITAL LETTER C WITH CIRCUMFLEX",
   "109 LATIN: SMALL LETTER C WITH CIRCUMFLEX, CAPITAL LETTER C WITH DOT ABOVE",
   "10B LATIN: SMALL LETTER C WITH DOT ABOVE, CAPITAL LETTER C WITH CARON",
   "10D LATIN: SMALL LETTER C WITH CARON, CAPITAL LETTER D WITH CARON, SMALL LETTER D WITH CARON",
   "110 LATIN CAPITAL LETTER D WITH STROKE",
   "111 LATIN: SMALL LETTER D WITH STROKE, CAPITAL LETTER E WITH MACRON",
   "113 LATIN: SMALL LETTER E WITH MACRON, CAPITAL LETTER E WITH BREVE, SMALL LETTER E WITH BREVE",
   "116 LATIN CAPITAL LETTER E WITH DOT ABOVE",
   "117 LATIN: SMALL LETTER E WITH DOT ABOVE, CAPITAL LETTER E WITH OGONEK",
   "119 LATIN: SMALL LETTER E WITH OGONEK, CAPITAL LETTER E WITH CARON, SMALL LETTER E WITH CARON",
   "11C LATIN CAPITAL LETTER G WITH CIRCUMFLEX",
   "11D LATIN: SMALL LETTER G WITH CIRCUMFLEX, CAPITAL LETTER G WITH BREVE",
   "11F LATIN: SMALL LETTER G WITH BREVE, CAPITAL LETTER G WITH DOT ABOVE",
   "121 LATIN: SMALL LETTER G WITH DOT ABOVE, CAPITAL LETTER G WITH CEDILLA",
   "123 LATIN: SMALL LETTER G WITH CEDILLA, CAPITAL LETTER H WITH CIRCUMFLEX",
   "125 LATIN: SMALL LETTER H WITH CIRCUMFLEX, CAPITAL LETTER H WITH STROKE",
   "127 LATIN: SMALL LETTER H WITH STROKE, CAPITAL LETTER I WITH TILDE, SMALL LETTER I WITH TILDE",
   "12A LATIN CAPITAL LETTER I WITH MACRON",
   "12B LATIN: SMALL LETTER I WITH MACRON, CAPITAL LETTER I WITH BREVE, SMALL LETTER I WITH BREVE",
   "12E LATIN: CAPITAL LETTER I WITH OGONEK, SMALL LETTER I WITH OGONEK",
   "130 LATIN: CAPITAL LETTER I WITH DOT ABOVE, SMALL LETTER DOTLESS I",
   "132 LATIN: CAPITAL LIGATURE IJ, SMALL LIGATURE IJ, CAPITAL LETTER J WITH CIRCUMFLEX",
   "135 LATIN: SMALL LETTER J WITH CIRCUMFLEX, CAPITAL LETTER K WITH CEDILLA",
   "137 LATIN: SMALL LETTER K WITH CEDILLA, SMALL LETTER KRA, CAPITAL LETTER L WITH ACUTE",
   "13A LATIN: SMALL LETTER L WITH ACUTE, CAPITAL LETTER L WITH CEDILLA",
   "13C LATIN: SMALL LETTER L WITH CEDILLA, CAPITAL LETTER L WITH CARON",
   "13E LATIN: SMALL LETTER L WITH CARON, CAPITAL LETTER L WITH MIDDLE DOT",
   "140 LATIN: SMALL LETTER L WITH MIDDLE DOT, CAPITAL LETTER L WITH STROKE",
   "142 LATIN: SMALL LETTER L WITH STROKE, CAPITAL LETTER N WITH ACUTE, SMALL LETTER N WITH ACUTE",
   "145 LATIN CAPITAL LETTER N WITH CEDILLA",
   "146 LATIN: SMALL LETTER N WITH CEDILLA, CAPITAL LETTER N WITH CARON",
   "148 LATIN SMALL LETTER N: WITH CARON, PRECEDED BY APOSTROPHE",
   "14A LATIN: CAPITAL LETTER ENG, SMALL LETTER ENG, CAPITAL LETTER O WITH MACRON",
   "14D LATIN: SMALL LETTER O WITH MACRON, CAPITAL LETTER O WITH BREVE, SMALL LETTER O WITH BREVE",
   "150 LATIN: CAPITAL LETTER O WITH DOUBLE ACUTE, SMALL LETTER O WITH DOUBLE ACUTE",
   "152 LATIN: CAPITAL LIGATURE OE, SMALL LIGATURE OE, CAPITAL LETTER R WITH ACUTE",
   "155 LATIN: SMALL LETTER R WITH ACUTE, CAPITAL LETTER R WITH CEDILLA",
   "157 LATIN: SMALL LETTER R WITH CEDILLA, CAPITAL LETTER R WITH CARON",
   "159 LATIN: SMALL LETTER R WITH CARON, CAPITAL LETTER S WITH ACUTE, SMALL LETTER S WITH ACUTE",
   "15C LATIN CAPITAL LETTER S WITH CIRCUMFLEX",
   "15D LATIN: SMALL LETTER S WITH CIRCUMFLEX, CAPITAL LETTER S WITH CEDILLA",
   "15F LATIN: SMALL LETTER S WITH CEDILLA, CAPITAL LETTER S WITH CARON",
   "161 LATIN: SMALL LETTER S WITH CARON, CAPITAL LETTER T WITH CEDILLA",
   "163 LATIN: SMALL LETTER T WITH CEDILLA, CAPITAL LETTER T WITH CARON",
   "165 LATIN: SMALL LETTER T WITH CARON, CAPITAL LETTER T WITH STROKE",
   "167 LATIN: SMALL LETTER T WITH STROKE, CAPITAL LETTER U WITH TILDE, SMALL LETTER U WITH TILDE",
   "16A LATIN CAPITAL LETTER U WITH MACRON",
   "16B LATIN: SMALL LETTER U WITH MACRON, CAPITAL LETTER U WITH BREVE, SMALL LETTER U WITH BREVE",
   "16E LATIN: CAPITAL LETTER U WITH RING ABOVE, SMALL LETTER U WITH RING ABOVE",
   "170 LATIN: CAPITAL LETTER U WITH DOUBLE ACUTE, SMALL LETTER U WITH DOUBLE ACUTE",
   "172 LATIN: CAPITAL LETTER U WITH OGONEK, SMALL LETTER U WITH OGONEK",
   "174 LATIN: CAPITAL LETTER W WITH CIRCUMFLEX, SMALL LETTER W WITH CIRCUMFLEX",
   "176 LATIN: CAPITAL LETTER Y WITH CIRCUMFLEX, SMALL LETTER Y WITH CIRCUMFLEX",
   "178 LATIN CAPITAL LETTER: Y WITH DIAERESIS, Z WITH ACUTE",
   "17A LATIN: SMALL LETTER Z WITH ACUTE, CAPITAL LETTER Z WITH DOT ABOVE",
   "17C LATIN: SMALL LETTER Z WITH DOT ABOVE, CAPITAL LETTER Z WITH CARON",
   "17E LATIN SMALL LETTER: Z WITH CARON, LONG S, B WITH STROKE",
   "181 LATIN CAPITAL LETTER B WITH: HOOK, TOPBAR",
   "183 LATIN: SMALL LETTER B WITH TOPBAR, CAPITAL LETTER TONE SIX, SMALL LETTER TONE SIX",
   "186 LATIN: CAPITAL LETTER OPEN O, CAPITAL LETTER C WITH HOOK, SMALL LETTER C WITH HOOK",
   "189 LATIN CAPITAL LETTER: AFRICAN D, D WITH HOOK, D WITH TOPBAR",
   "18C LATIN SMALL LETTER: D WITH TOPBAR, TURNED DELTA",
   "18E LATIN CAPITAL LETTER: REVERSED E, SCHWA, OPEN E, F WITH HOOK",
   "192 LATIN SMALL LETTER F WITH HOOK",
   "193 LATIN: CAPITAL LETTER G WITH HOOK, CAPITAL LETTER GAMMA, SMALL LETTER HV",
   "196 LATIN CAPITAL LETTER: IOTA, I WITH STROKE, K WITH HOOK",
   "199 LATIN SMALL LETTER: K WITH HOOK, L WITH BAR, LAMBDA WITH STROKE",
   "19C LATIN CAPITAL LETTER: TURNED M, N WITH LEFT HOOK",
   "19E LATIN SMALL LETTER N WITH LONG RIGHT LEG",
   "19F LATIN CAPITAL LETTER O WITH: MIDDLE TILDE, HORN",
   "1A1 LATIN: SMALL LETTER O WITH HORN, CAPITAL LETTER OI",
   "1A3 LATIN: SMALL LETTER OI, CAPITAL LETTER P WITH HOOK, SMALL LETTER P WITH HOOK",
   "1A6 LATIN: LETTER YR, CAPITAL LETTER TONE TWO, SMALL LETTER TONE TWO",
   "1A9 LATIN: CAPITAL LETTER ESH, LETTER REVERSED ESH LOOP, SMALL LETTER T WITH PALATAL HOOK",
   "1AC LATIN: CAPITAL LETTER T WITH HOOK, SMALL LETTER T WITH HOOK",
   "1AE LATIN CAPITAL LETTER: T WITH RETROFLEX HOOK, U WITH HORN",
   "1B0 LATIN SMALL LETTER U WITH HORN",
   "1B1 LATIN CAPITAL LETTER: UPSILON, V WITH HOOK, Y WITH HOOK",
   "1B4 LATIN: SMALL LETTER Y WITH HOOK, CAPITAL LETTER Z WITH STROKE, SMALL LETTER Z WITH STROKE",
   "1B7 LATIN CAPITAL LETTER: EZH, EZH REVERSED",
   "1B9 LATIN SMALL LETTER EZH: REVERSED, WITH TAIL",
   "1BB LATIN: LETTER TWO WITH STROKE, CAPITAL LETTER TONE FIVE, SMALL LETTER TONE FIVE",
   "1BE LATIN LETTER INVERTED GLOTTAL STOP WITH STROKE",
   "1BF LATIN LETTER: WYNN, DENTAL CLICK, LATERAL CLICK, ALVEOLAR CLICK, RETROFLEX CLICK",
   "1C4 LATIN CAPITAL LETTER: DZ WITH CARON, D WITH SMALL LETTER Z WITH CARON",
   "1C6 LATIN: SMALL LETTER DZ WITH CARON, CAPITAL LETTER LJ",
   "1C8 LATIN: CAPITAL LETTER L WITH SMALL LETTER J, SMALL LETTER LJ, CAPITAL LETTER NJ",
   "1CB LATIN: CAPITAL LETTER N WITH SMALL LETTER J, SMALL LETTER NJ, CAPITAL LETTER A WITH CARON",
   "1CE LATIN: SMALL LETTER A WITH CARON, CAPITAL LETTER I WITH CARON, SMALL LETTER I WITH CARON",
   "1D1 LATIN CAPITAL LETTER O WITH CARON",
   "1D2 LATIN: SMALL LETTER O WITH CARON, CAPITAL LETTER U WITH CARON, SMALL LETTER U WITH CARON",
   "1D5 LATIN CAPITAL LETTER U WITH DIAERESIS AND MACRON",
   "1D6 LATIN SMALL LETTER U WITH DIAERESIS AND MACRON",
   "1D7 LATIN: CAPITAL LETTER U WITH DIAERESIS AND ACUTE, SMALL LETTER U WITH DIAERESIS AND ACUTE",
   "1D9 LATIN: CAPITAL LETTER U WITH DIAERESIS AND CARON, SMALL LETTER U WITH DIAERESIS AND CARON",
   "1DB LATIN: CAPITAL LETTER U WITH DIAERESIS AND GRAVE, SMALL LETTER U WITH DIAERESIS AND GRAVE",
   "1DD LATIN: SMALL LETTER TURNED E, CAPITAL LETTER A WITH DIAERESIS AND MACRON",
   "1DF LATIN SMALL LETTER A WITH DIAERESIS AND MACRON",
   "1E0 LATIN CAPITAL LETTER A WITH DOT ABOVE AND MACRON",
   "1E1 LATIN: SMALL LETTER A WITH DOT ABOVE AND MACRON, CAPITAL LETTER AE WITH MACRON",
   "1E3 LATIN: SMALL LETTER AE WITH MACRON, CAPITAL LETTER G WITH STROKE",
   "1E5 LATIN: SMALL LETTER G WITH STROKE, CAPITAL LETTER G WITH CARON",
   "1E7 LATIN: SMALL LETTER G WITH CARON, CAPITAL LETTER K WITH CARON, SMALL LETTER K WITH CARON",
   "1EA LATIN CAPITAL LETTER O WITH OGONEK",
   "1EB LATIN: SMALL LETTER O WITH OGONEK, CAPITAL LETTER O WITH OGONEK AND MACRON",
   "1ED LATIN: SMALL LETTER O WITH OGONEK AND MACRON, CAPITAL LETTER EZH WITH CARON",
   "1EF LATIN SMALL LETTER: EZH WITH CARON, J WITH CARON",
   "1F1 LATIN CAPITAL LETTER: DZ, D WITH SMALL LETTER Z",
   "1F3 LATIN: SMALL LETTER DZ, CAPITAL LETTER G WITH ACUTE, SMALL LETTER G WITH ACUTE",
   "1F6 LATIN CAPITAL LETTER: HWAIR, WYNN, N WITH GRAVE",
   "1F9 LATIN: SMALL LETTER N WITH GRAVE, CAPITAL LETTER A WITH RING ABOVE AND ACUTE",
   "1FB LATIN: SMALL LETTER A WITH RING ABOVE AND ACUTE, CAPITAL LETTER AE WITH ACUTE",
   "1FD LATIN: SMALL LETTER AE WITH ACUTE, CAPITAL LETTER O WITH STROKE AND ACUTE",
   "1FF LATIN: SMALL LETTER O WITH STROKE AND ACUTE, CAPITAL LETTER A WITH DOUBLE GRAVE",
   "201 LATIN: SMALL LETTER A WITH DOUBLE GRAVE, CAPITAL LETTER A WITH INVERTED BREVE",
   "203 LATIN: SMALL LETTER A WITH INVERTED BREVE, CAPITAL LETTER E WITH DOUBLE GRAVE",
   "205 LATIN: SMALL LETTER E WITH DOUBLE GRAVE, CAPITAL LETTER E WITH INVERTED BREVE",
   "207 LATIN: SMALL LETTER E WITH INVERTED BREVE, CAPITAL LETTER I WITH DOUBLE GRAVE",
   "209 LATIN: SMALL LETTER I WITH DOUBLE GRAVE, CAPITAL LETTER I WITH INVERTED BREVE",
   "20B LATIN: SMALL LETTER I WITH INVERTED BREVE, CAPITAL LETTER O WITH DOUBLE GRAVE",
   "20D LATIN: SMALL LETTER O WITH DOUBLE GRAVE, CAPITAL LETTER O WITH INVERTED BREVE",
   "20F LATIN: SMALL LETTER O WITH INVERTED BREVE, CAPITAL LETTER R WITH DOUBLE GRAVE",
   "211 LATIN: SMALL LETTER R WITH DOUBLE GRAVE, CAPITAL LETTER R WITH INVERTED BREVE",
   "213 LATIN: SMALL LETTER R WITH INVERTED BREVE, CAPITAL LETTER U WITH DOUBLE GRAVE",
   "215 LATIN: SMALL LETTER U WITH DOUBLE GRAVE, CAPITAL LETTER U WITH INVERTED BREVE",
   "217 LATIN: SMALL LETTER U WITH INVERTED BREVE, CAPITAL LETTER S WITH COMMA BELOW",
   "219 LATIN: SMALL LETTER S WITH COMMA BELOW, CAPITAL LETTER T WITH COMMA BELOW",
   "21B LATIN: SMALL LETTER T WITH COMMA BELOW, CAPITAL LETTER YOGH",
   "21D LATIN: SMALL LETTER YOGH, CAPITAL LETTER H WITH CARON, SMALL LETTER H WITH CARON",
   "220 LATIN: CAPITAL LETTER N WITH LONG RIGHT LEG, SMALL LETTER D WITH CURL, CAPITAL LETTER OU",
   "223 LATIN: SMALL LETTER OU, CAPITAL LETTER Z WITH HOOK, SMALL LETTER Z WITH HOOK",
   "226 LATIN CAPITAL LETTER A WITH DOT ABOVE",
   "227 LATIN: SMALL LETTER A WITH DOT ABOVE, CAPITAL LETTER E WITH CEDILLA",
   "229 LATIN: SMALL LETTER E WITH CEDILLA, CAPITAL LETTER O WITH DIAERESIS AND MACRON",
   "22B LATIN: SMALL LETTER O WITH DIAERESIS AND MACRON, CAPITAL LETTER O WITH TILDE AND MACRON",
   "22D LATIN: SMALL LETTER O WITH TILDE AND MACRON, CAPITAL LETTER O WITH DOT ABOVE",
   "22F LATIN: SMALL LETTER O WITH DOT ABOVE, CAPITAL LETTER O WITH DOT ABOVE AND MACRON",
   "231 LATIN: SMALL LETTER O WITH DOT ABOVE AND MACRON, CAPITAL LETTER Y WITH MACRON",
   "233 LATIN SMALL LETTER: Y WITH MACRON, L WITH CURL",
   "235 LATIN SMALL LETTER: N WITH CURL, T WITH CURL, DOTLESS J, DB DIGRAPH, QP DIGRAPH",
   "23A LATIN CAPITAL LETTER: A WITH STROKE, C WITH STROKE",
   "23C LATIN SMALL LETTER C WITH STROKE",
   "23D LATIN CAPITAL LETTER: L WITH BAR, T WITH DIAGONAL STROKE",
   "23F LATIN SMALL LETTER: S WITH SWASH TAIL, Z WITH SWASH TAIL",
   "241 LATIN: CAPITAL LETTER GLOTTAL STOP, SMALL LETTER GLOTTAL STOP",
   "243 LATIN CAPITAL LETTER: B WITH STROKE, U BAR, TURNED V, E WITH STROKE",
   "247 LATIN: SMALL LETTER E WITH STROKE, CAPITAL LETTER J WITH STROKE",
   "249 LATIN: SMALL LETTER J WITH STROKE, CAPITAL LETTER SMALL Q WITH HOOK TAIL",
   "24B LATIN: SMALL LETTER Q WITH HOOK TAIL, CAPITAL LETTER R WITH STROKE",
   "24D LATIN: SMALL LETTER R WITH STROKE, CAPITAL LETTER Y WITH STROKE",
   "24F LATIN SMALL LETTER: Y WITH STROKE, TURNED A, ALPHA, TURNED ALPHA, B WITH HOOK",
   "254 LATIN SMALL LETTER: OPEN O, C WITH CURL, D WITH TAIL, D WITH HOOK, REVERSED E, SCHWA",
   "25A LATIN SMALL LETTER: SCHWA WITH HOOK, OPEN E, REVERSED OPEN E, REVERSED OPEN E WITH HOOK",
   "25E LATIN SMALL LETTER: CLOSED REVERSED OPEN E, DOTLESS J WITH STROKE, G WITH HOOK, SCRIPT G",
   "262 LATIN: LETTER SMALL CAPITAL G, SMALL LETTER GAMMA",
   "264 LATIN SMALL LETTER: RAMS HORN, TURNED H, H WITH HOOK, HENG WITH HOOK, I WITH STROKE, IOTA",
   "26A LATIN LETTER SMALL CAPITAL I",
   "26B LATIN SMALL LETTER L WITH: MIDDLE TILDE, BELT, RETROFLEX HOOK",
   "26E LATIN SMALL LETTER: LEZH, TURNED M, TURNED M WITH LONG LEG, M WITH HOOK",
   "272 LATIN SMALL LETTER N WITH: LEFT HOOK, RETROFLEX HOOK",
   "274 LATIN: LETTER SMALL CAPITAL N, SMALL LETTER BARRED O, LETTER SMALL CAPITAL OE",
   "277 LATIN SMALL LETTER: CLOSED OMEGA, PHI, TURNED R, TURNED R WITH LONG LEG",
   "27B LATIN SMALL LETTER: TURNED R WITH HOOK, R WITH LONG LEG, R WITH TAIL, R WITH FISHHOOK",
   "27F LATIN SMALL LETTER REVERSED R WITH FISHHOOK",
   "280 LATIN LETTER SMALL CAPITAL: R, INVERTED R",
   "282 LATIN SMALL LETTER: S WITH HOOK, ESH, DOTLESS J WITH STROKE AND HOOK",
   "285 LATIN SMALL LETTER: SQUAT REVERSED ESH, ESH WITH CURL, TURNED T, T WITH RETROFLEX HOOK",
   "289 LATIN SMALL LETTER: U BAR, UPSILON, V WITH HOOK, TURNED V, TURNED W, TURNED Y",
   "28F LATIN LETTER SMALL CAPITAL Y",
   "290 LATIN SMALL LETTER: Z WITH RETROFLEX HOOK, Z WITH CURL, EZH, EZH WITH CURL",
   "294 LATIN LETTER: GLOTTAL STOP, PHARYNGEAL VOICED FRICATIVE",
   "296 LATIN LETTER: INVERTED GLOTTAL STOP, STRETCHED C, BILABIAL CLICK, SMALL CAPITAL B",
   "29A LATIN SMALL LETTER CLOSED OPEN E",
   "29B LATIN LETTER SMALL CAPITAL: G WITH HOOK, H",
   "29D LATIN SMALL LETTER: J WITH CROSSED-TAIL, TURNED K",
   "29F LATIN: LETTER SMALL CAPITAL L, SMALL LETTER Q WITH HOOK",
   "2A1 LATIN LETTER: GLOTTAL STOP WITH STROKE, REVERSED GLOTTAL STOP WITH STROKE",
   "2A3 LATIN SMALL LETTER: DZ DIGRAPH, DEZH DIGRAPH, DZ DIGRAPH WITH CURL, TS DIGRAPH",
   "2A7 LATIN SMALL LETTER: TESH DIGRAPH, TC DIGRAPH WITH CURL, FENG DIGRAPH, LS DIGRAPH",
   "2AB LATIN: SMALL LETTER LZ DIGRAPH, LETTER BILABIAL PERCUSSIVE, LETTER BIDENTAL PERCUSSIVE",
   "2AE LATIN SMALL LETTER TURNED H WITH: FISHHOOK, FISHHOOK AND TAIL",
   "2B0 MODIFIER LETTER SMALL: H, H WITH HOOK, J, R, TURNED R, TURNED R WITH HOOK",
   "2B6 MODIFIER LETTER: SMALL CAPITAL INVERTED R, SMALL W, SMALL Y, PRIME",
   "2BA MODIFIER LETTER: DOUBLE PRIME, TURNED COMMA, APOSTROPHE, REVERSED COMMA, RIGHT HALF RING",
   "2BF MODIFIER LETTER: LEFT HALF RING, GLOTTAL STOP, REVERSED GLOTTAL STOP, LEFT ARROWHEAD",
   "2C3 MODIFIER LETTER: RIGHT ARROWHEAD, UP ARROWHEAD, DOWN ARROWHEAD, CIRCUMFLEX ACCENT",
   "2C7 CARON",
   "2C8 MODIFIER LETTER: VERTICAL LINE, MACRON, ACUTE ACCENT, GRAVE ACCENT",
   "2CC MODIFIER LETTER LOW: VERTICAL LINE, MACRON, GRAVE ACCENT, ACUTE ACCENT",
   "2D0 MODIFIER LETTER: TRIANGULAR COLON, HALF TRIANGULAR COLON, CENTRED RIGHT HALF RING",
   "2D3 MODIFIER LETTER: CENTRED LEFT HALF RING, UP TACK, DOWN TACK, PLUS SIGN, MINUS SIGN",
   "2D8 BREVE, DOT ABOVE, RING ABOVE, OGONEK, SMALL TILDE, DOUBLE ACUTE ACCENT",
   "2DE MODIFIER LETTER: RHOTIC HOOK, CROSS ACCENT, SMALL GAMMA, SMALL L, SMALL S",
   "2E3 MODIFIER LETTER: SMALL X, SMALL REVERSED GLOTTAL STOP, EXTRA-HIGH TONE BAR, HIGH TONE BAR",
   "2E7 MODIFIER LETTER: MID TONE BAR, LOW TONE BAR, EXTRA-LOW TONE BAR, YIN DEPARTING TONE MARK",
   "2EB MODIFIER LETTER: YANG DEPARTING TONE MARK, VOICING, UNASPIRATED, DOUBLE APOSTROPHE",
   "2EF MODIFIER LETTER LOW: DOWN ARROWHEAD, UP ARROWHEAD, LEFT ARROWHEAD, RIGHT ARROWHEAD, RING",
   "2F4 MODIFIER LETTER MIDDLE: GRAVE ACCENT, DOUBLE GRAVE ACCENT, DOUBLE ACUTE ACCENT",
   "2F7 MODIFIER LETTER: LOW TILDE, RAISED COLON, BEGIN HIGH TONE, END HIGH TONE",
   "2FB MODIFIER LETTER: BEGIN LOW TONE, END LOW TONE, SHELF, OPEN SHELF, LOW LEFT ARROW",
   "300 COMBINING: GRAVE ACCENT, ACUTE ACCENT, CIRCUMFLEX ACCENT",
   "303 COMBINING: TILDE, MACRON, OVERLINE, BREVE, DOT ABOVE, DIAERESIS, HOOK ABOVE, RING ABOVE",
   "30B COMBINING: DOUBLE ACUTE ACCENT, CARON, VERTICAL LINE ABOVE, DOUBLE VERTICAL LINE ABOVE",
   "30F COMBINING: DOUBLE GRAVE ACCENT, CANDRABINDU, INVERTED BREVE, TURNED COMMA ABOVE",
   "313 COMBINING: COMMA ABOVE, REVERSED COMMA ABOVE, COMMA ABOVE RIGHT, GRAVE ACCENT BELOW",
   "317 COMBINING: ACUTE ACCENT BELOW, LEFT TACK BELOW, RIGHT TACK BELOW, LEFT ANGLE ABOVE",
   "31B COMBINING: HORN, LEFT HALF RING BELOW, UP TACK BELOW, DOWN TACK BELOW, PLUS SIGN BELOW",
   "320 COMBINING: MINUS SIGN BELOW, PALATALIZED HOOK BELOW, RETROFLEX HOOK BELOW",
   "323 COMBINING: DOT BELOW, DIAERESIS BELOW, RING BELOW, COMMA BELOW, CEDILLA, OGONEK",
   "329 COMBINING: VERTICAL LINE BELOW, BRIDGE BELOW, INVERTED DOUBLE ARCH BELOW, CARON BELOW",
   "32D COMBINING: CIRCUMFLEX ACCENT BELOW, BREVE BELOW, INVERTED BREVE BELOW, TILDE BELOW",
   "331 COMBINING: MACRON BELOW, LOW LINE, DOUBLE LOW LINE, TILDE OVERLAY, SHORT STROKE OVERLAY",
   "336 COMBINING: LONG STROKE OVERLAY, SHORT SOLIDUS OVERLAY, LONG SOLIDUS OVERLAY",
   "339 COMBINING: RIGHT HALF RING BELOW, INVERTED BRIDGE BELOW, SQUARE BELOW, SEAGULL BELOW",
   "33D COMBINING: X ABOVE, VERTICAL TILDE, DOUBLE OVERLINE, GRAVE TONE MARK, ACUTE TONE MARK",
   "342 COMBINING GREEK: PERISPOMENI, KORONIS, DIALYTIKA TONOS, YPOGEGRAMMENI",
   "346 COMBINING: BRIDGE ABOVE, EQUALS SIGN BELOW, DOUBLE VERTICAL LINE BELOW",
   "349 COMBINING: LEFT ANGLE BELOW, NOT TILDE ABOVE, HOMOTHETIC ABOVE",
   "34C COMBINING: ALMOST EQUAL TO ABOVE, LEFT RIGHT ARROW BELOW, UPWARDS ARROW BELOW",
   "34F COMBINING: GRAPHEME JOINER, RIGHT ARROWHEAD ABOVE, LEFT HALF RING ABOVE, FERMATA, X BELOW",
   "354 COMBINING LEFT ARROWHEAD BELOW",
   "355 COMBINING RIGHT: ARROWHEAD BELOW, ARROWHEAD AND UP ARROWHEAD BELOW, HALF RING ABOVE",
   "358 COMBINING: DOT ABOVE RIGHT, ASTERISK BELOW, DOUBLE RING BELOW, ZIGZAG ABOVE",
   "35C COMBINING DOUBLE: BREVE BELOW, BREVE, MACRON, MACRON BELOW, TILDE, INVERTED BREVE",
   "362 COMBINING DOUBLE RIGHTWARDS ARROW BELOW",
   "363 COMBINING LATIN SMALL LETTER: A, E, I, O, U, C, D, H, M, R, T, V, X",
   "370 GREEK: CAPITAL LETTER HETA, SMALL LETTER HETA, CAPITAL LETTER ARCHAIC SAMPI",
   "373 GREEK: SMALL LETTER ARCHAIC SAMPI, NUMERAL SIGN, LOWER NUMERAL SIGN",
   "376 GREEK: CAPITAL LETTER PAMPHYLIAN DIGAMMA, SMALL LETTER PAMPHYLIAN DIGAMMA",
   "37A GREEK YPOGEGRAMMENI",
   "37B GREEK SMALL: REVERSED LUNATE SIGMA SYMBOL, DOTTED LUNATE SIGMA SYMBOL",
   "37D GREEK: SMALL REVERSED DOTTED LUNATE SIGMA SYMBOL, QUESTION MARK, CAPITAL LETTER YOT",
   "384 GREEK: TONOS, DIALYTIKA TONOS, CAPITAL LETTER ALPHA WITH TONOS, ANO TELEIA",
   "388 GREEK CAPITAL LETTER: EPSILON WITH TONOS, ETA WITH TONOS, IOTA WITH TONOS",
   "38C GREEK CAPITAL LETTER OMICRON WITH TONOS",
   "38E GREEK CAPITAL LETTER: UPSILON WITH TONOS, OMEGA WITH TONOS",
   "390 GREEK SMALL LETTER IOTA WITH DIALYTIKA AND TONOS",
   "391 GREEK CAPITAL LETTER: ALPHA, BETA, GAMMA, DELTA, EPSILON",
   "396 GREEK CAPITAL LETTER: ZETA, ETA, THETA, IOTA, KAPPA, LAMDA, MU, NU, XI, OMICRON, PI, RHO",
   "3A3 GREEK CAPITAL LETTER: SIGMA, TAU, UPSILON, PHI, CHI, PSI, OMEGA, IOTA WITH DIALYTIKA",
   "3AB GREEK CAPITAL LETTER UPSILON WITH DIALYTIKA",
   "3AC GREEK SMALL LETTER: ALPHA WITH TONOS, EPSILON WITH TONOS, ETA WITH TONOS, IOTA WITH TONOS",
   "3B0 GREEK SMALL LETTER UPSILON WITH DIALYTIKA AND TONOS",
   "3B1 GREEK SMALL LETTER: ALPHA, BETA, GAMMA, DELTA, EPSILON, ZETA, ETA, THETA, IOTA, KAPPA",
   "3BB GREEK SMALL LETTER: LAMDA, MU, NU, XI, OMICRON, PI, RHO, FINAL SIGMA, SIGMA, TAU, UPSILON",
   "3C6 GREEK SMALL LETTER: PHI, CHI, PSI, OMEGA, IOTA WITH DIALYTIKA, UPSILON WITH DIALYTIKA",
   "3CC GREEK SMALL LETTER: OMICRON WITH TONOS, UPSILON WITH TONOS, OMEGA WITH TONOS",
   "3CF GREEK: CAPITAL KAI SYMBOL, BETA SYMBOL, THETA SYMBOL",
   "3D2 GREEK UPSILON WITH: HOOK SYMBOL, ACUTE AND HOOK SYMBOL, DIAERESIS AND HOOK SYMBOL",
   "3D5 GREEK PHI SYMBOL",
   "3D6 GREEK: PI SYMBOL, KAI SYMBOL, LETTER ARCHAIC KOPPA, SMALL LETTER ARCHAIC KOPPA",
   "3DA GREEK: LETTER STIGMA, SMALL LETTER STIGMA, LETTER DIGAMMA, SMALL LETTER DIGAMMA",
   "3DE GREEK: LETTER KOPPA, SMALL LETTER KOPPA, LETTER SAMPI, SMALL LETTER SAMPI",
   "3E2 COPTIC: CAPITAL LETTER SHEI, SMALL LETTER SHEI, CAPITAL LETTER FEI",
   "3E5 COPTIC: SMALL LETTER FEI, CAPITAL LETTER KHEI, SMALL LETTER KHEI, CAPITAL LETTER HORI",
   "3E9 COPTIC: SMALL LETTER HORI, CAPITAL LETTER GANGIA, SMALL LETTER GANGIA",
   "3EC COPTIC: CAPITAL LETTER SHIMA, SMALL LETTER SHIMA, CAPITAL LETTER DEI, SMALL LETTER DEI",
   "3F0 GREEK: KAPPA SYMBOL, RHO SYMBOL, LUNATE SIGMA SYMBOL, LETTER YOT, CAPITAL THETA SYMBOL",
   "3F5 GREEK: LUNATE EPSILON SYMBOL, REVERSED LUNATE EPSILON SYMBOL, CAPITAL LETTER SHO",
   "3F8 GREEK: SMALL LETTER SHO, CAPITAL LUNATE SIGMA SYMBOL, CAPITAL LETTER SAN",
   "3FB GREEK: SMALL LETTER SAN, RHO WITH STROKE SYMBOL, CAPITAL REVERSED LUNATE SIGMA SYMBOL",
   "3FE GREEK CAPITAL: DOTTED LUNATE SIGMA SYMBOL, REVERSED DOTTED LUNATE SIGMA SYMBOL",
   "400 CYRILLIC CAPITAL LETTER: IE WITH GRAVE, IO, DJE, GJE",
   "404 CYRILLIC CAPITAL LETTER: UKRAINIAN IE, DZE, BYELORUSSIAN-UKRAINIAN I, YI, JE, LJE, NJE",
   "40B CYRILLIC CAPITAL LETTER: TSHE, KJE, I WITH GRAVE, SHORT U, DZHE, A, BE, VE, GHE, DE, IE",
   "416 CYRILLIC CAPITAL LETTER: ZHE, ZE, I, SHORT I, KA, EL, EM, EN, O, PE, ER, ES, TE, U, EF",
   "425 CYRILLIC CAPITAL LETTER: HA, TSE, CHE, SHA, SHCHA, HARD SIGN, YERU, SOFT SIGN, E, YU, YA",
   "430 CYRILLIC SMALL LETTER: A, BE, VE, GHE, DE, IE, ZHE, ZE",
   "438 CYRILLIC SMALL LETTER: I, SHORT I, KA, EL, EM, EN, O, PE, ER, ES, TE, U, EF, HA, TSE, CHE",
   "448 CYRILLIC SMALL LETTER: SHA, SHCHA, HARD SIGN, YERU, SOFT SIGN, E, YU, YA, IE WITH GRAVE",
   "451 CYRILLIC SMALL LETTER: IO, DJE, GJE, UKRAINIAN IE, DZE, BYELORUSSIAN-UKRAINIAN I",
   "457 CYRILLIC SMALL LETTER: YI, JE, LJE, NJE, TSHE, KJE, I WITH GRAVE, SHORT U, DZHE",
   "460 CYRILLIC: CAPITAL LETTER OMEGA, SMALL LETTER OMEGA, CAPITAL LETTER YAT, SMALL LETTER YAT",
   "464 CYRILLIC: CAPITAL LETTER IOTIFIED E, SMALL LETTER IOTIFIED E, CAPITAL LETTER LITTLE YUS",
   "467 CYRILLIC: SMALL LETTER LITTLE YUS, CAPITAL LETTER IOTIFIED LITTLE YUS",
   "469 CYRILLIC: SMALL LETTER IOTIFIED LITTLE YUS, CAPITAL LETTER BIG YUS, SMALL LETTER BIG YUS",
   "46C CYRILLIC: CAPITAL LETTER IOTIFIED BIG YUS, SMALL LETTER IOTIFIED BIG YUS",
   "46E CYRILLIC: CAPITAL LETTER KSI, SMALL LETTER KSI, CAPITAL LETTER PSI, SMALL LETTER PSI",
   "472 CYRILLIC: CAPITAL LETTER FITA, SMALL LETTER FITA, CAPITAL LETTER IZHITSA",
   "475 CYRILLIC: SMALL LETTER IZHITSA, CAPITAL LETTER IZHITSA WITH DOUBLE GRAVE ACCENT",
   "477 CYRILLIC SMALL LETTER IZHITSA WITH DOUBLE GRAVE ACCENT",
   "478 CYRILLIC: CAPITAL LETTER UK, SMALL LETTER UK, CAPITAL LETTER ROUND OMEGA",
   "47B CYRILLIC: SMALL LETTER ROUND OMEGA, CAPITAL LETTER OMEGA WITH TITLO",
   "47D CYRILLIC: SMALL LETTER OMEGA WITH TITLO, CAPITAL LETTER OT",
   "47F CYRILLIC: SMALL LETTER OT, CAPITAL LETTER KOPPA, SMALL LETTER KOPPA, THOUSANDS SIGN",
   "483 COMBINING CYRILLIC: TITLO, PALATALIZATION, DASIA PNEUMATA",
   "486 COMBINING CYRILLIC: PSILI PNEUMATA, POKRYTIE, HUNDRED THOUSANDS SIGN, MILLIONS SIGN",
   "48A CYRILLIC CAPITAL LETTER SHORT I WITH TAIL",
   "48B CYRILLIC: SMALL LETTER SHORT I WITH TAIL, CAPITAL LETTER SEMISOFT SIGN",
   "48D CYRILLIC: SMALL LETTER SEMISOFT SIGN, CAPITAL LETTER ER WITH TICK",
   "48F CYRILLIC: SMALL LETTER ER WITH TICK, CAPITAL LETTER GHE WITH UPTURN",
   "491 CYRILLIC: SMALL LETTER GHE WITH UPTURN, CAPITAL LETTER GHE WITH STROKE",
   "493 CYRILLIC: SMALL LETTER GHE WITH STROKE, CAPITAL LETTER GHE WITH MIDDLE HOOK",
   "495 CYRILLIC: SMALL LETTER GHE WITH MIDDLE HOOK, CAPITAL LETTER ZHE WITH DESCENDER",
   "497 CYRILLIC: SMALL LETTER ZHE WITH DESCENDER, CAPITAL LETTER ZE WITH DESCENDER",
   "499 CYRILLIC: SMALL LETTER ZE WITH DESCENDER, CAPITAL LETTER KA WITH DESCENDER",
   "49B CYRILLIC: SMALL LETTER KA WITH DESCENDER, CAPITAL LETTER KA WITH VERTICAL STROKE",
   "49D CYRILLIC: SMALL LETTER KA WITH VERTICAL STROKE, CAPITAL LETTER KA WITH STROKE",
   "49F CYRILLIC: SMALL LETTER KA WITH STROKE, CAPITAL LETTER BASHKIR KA, SMALL LETTER BASHKIR KA",
   "4A2 CYRILLIC CAPITAL LETTER EN WITH DESCENDER",
   "4A3 CYRILLIC: SMALL LETTER EN WITH DESCENDER, CAPITAL LIGATURE EN GHE, SMALL LIGATURE EN GHE",
   "4A6 CYRILLIC CAPITAL LETTER PE WITH MIDDLE HOOK",
   "4A7 CYRILLIC: SMALL LETTER PE WITH MIDDLE HOOK, CAPITAL LETTER ABKHASIAN HA",
   "4A9 CYRILLIC: SMALL LETTER ABKHASIAN HA, CAPITAL LETTER ES WITH DESCENDER",
   "4AB CYRILLIC: SMALL LETTER ES WITH DESCENDER, CAPITAL LETTER TE WITH DESCENDER",
   "4AD CYRILLIC: SMALL LETTER TE WITH DESCENDER, CAPITAL LETTER STRAIGHT U",
   "4AF CYRILLIC: SMALL LETTER STRAIGHT U, CAPITAL LETTER STRAIGHT U WITH STROKE",
   "4B1 CYRILLIC: SMALL LETTER STRAIGHT U WITH STROKE, CAPITAL LETTER HA WITH DESCENDER",
   "4B3 CYRILLIC: SMALL LETTER HA WITH DESCENDER, CAPITAL LIGATURE TE TSE, SMALL LIGATURE TE TSE",
   "4B6 CYRILLIC: CAPITAL LETTER CHE WITH DESCENDER, SMALL LETTER CHE WITH DESCENDER",
   "4B8 CYRILLIC: CAPITAL LETTER CHE WITH VERTICAL STROKE, SMALL LETTER CHE WITH VERTICAL STROKE",
   "4BA CYRILLIC: CAPITAL LETTER SHHA, SMALL LETTER SHHA, CAPITAL LETTER ABKHASIAN CHE",
   "4BD CYRILLIC: SMALL LETTER ABKHASIAN CHE, CAPITAL LETTER ABKHASIAN CHE WITH DESCENDER",
   "4BF CYRILLIC SMALL LETTER ABKHASIAN CHE WITH DESCENDER",
   "4C0 CYRILLIC: LETTER PALOCHKA, CAPITAL LETTER ZHE WITH BREVE, SMALL LETTER ZHE WITH BREVE",
   "4C3 CYRILLIC CAPITAL LETTER KA WITH HOOK",
   "4C4 CYRILLIC: SMALL LETTER KA WITH HOOK, CAPITAL LETTER EL WITH TAIL",
   "4C6 CYRILLIC: SMALL LETTER EL WITH TAIL, CAPITAL LETTER EN WITH HOOK",
   "4C8 CYRILLIC: SMALL LETTER EN WITH HOOK, CAPITAL LETTER EN WITH TAIL",
   "4CA CYRILLIC: SMALL LETTER EN WITH TAIL, CAPITAL LETTER KHAKASSIAN CHE",
   "4CC CYRILLIC: SMALL LETTER KHAKASSIAN CHE, CAPITAL LETTER EM WITH TAIL",
   "4CE CYRILLIC: SMALL LETTER EM WITH TAIL, SMALL LETTER PALOCHKA, CAPITAL LETTER A WITH BREVE",
   "4D1 CYRILLIC: SMALL LETTER A WITH BREVE, CAPITAL LETTER A WITH DIAERESIS",
   "4D3 CYRILLIC: SMALL LETTER A WITH DIAERESIS, CAPITAL LIGATURE A IE",
   "4D5 CYRILLIC: SMALL LIGATURE A IE, CAPITAL LETTER IE WITH BREVE, SMALL LETTER IE WITH BREVE",
   "4D8 CYRILLIC: CAPITAL LETTER SCHWA, SMALL LETTER SCHWA, CAPITAL LETTER SCHWA WITH DIAERESIS",
   "4DB CYRILLIC: SMALL LETTER SCHWA WITH DIAERESIS, CAPITAL LETTER ZHE WITH DIAERESIS",
   "4DD CYRILLIC: SMALL LETTER ZHE WITH DIAERESIS, CAPITAL LETTER ZE WITH DIAERESIS",
   "4DF CYRILLIC: SMALL LETTER ZE WITH DIAERESIS, CAPITAL LETTER ABKHASIAN DZE",
   "4E1 CYRILLIC: SMALL LETTER ABKHASIAN DZE, CAPITAL LETTER I WITH MACRON",
   "4E3 CYRILLIC: SMALL LETTER I WITH MACRON, CAPITAL LETTER I WITH DIAERESIS",
   "4E5 CYRILLIC: SMALL LETTER I WITH DIAERESIS, CAPITAL LETTER O WITH DIAERESIS",
   "4E7 CYRILLIC: SMALL LETTER O WITH DIAERESIS, CAPITAL LETTER BARRED O, SMALL LETTER BARRED O",
   "4EA CYRILLIC: CAPITAL LETTER BARRED O WITH DIAERESIS, SMALL LETTER BARRED O WITH DIAERESIS",
   "4EC CYRILLIC: CAPITAL LETTER E WITH DIAERESIS, SMALL LETTER E WITH DIAERESIS",
   "4EE CYRILLIC: CAPITAL LETTER U WITH MACRON, SMALL LETTER U WITH MACRON",
   "4F0 CYRILLIC: CAPITAL LETTER U WITH DIAERESIS, SMALL LETTER U WITH DIAERESIS",
   "4F2 CYRILLIC: CAPITAL LETTER U WITH DOUBLE ACUTE, SMALL LETTER U WITH DOUBLE ACUTE",
   "4F4 CYRILLIC: CAPITAL LETTER CHE WITH DIAERESIS, SMALL LETTER CHE WITH DIAERESIS",
   "4F6 CYRILLIC: CAPITAL LETTER GHE WITH DESCENDER, SMALL LETTER GHE WITH DESCENDER",
   "4F8 CYRILLIC: CAPITAL LETTER YERU WITH DIAERESIS, SMALL LETTER YERU WITH DIAERESIS",
   "4FA CYRILLIC: CAPITAL LETTER GHE WITH STROKE AND HOOK, SMALL LETTER GHE WITH STROKE AND HOOK",
   "4FC CYRILLIC: CAPITAL LETTER HA WITH HOOK, SMALL LETTER HA WITH HOOK",
   "4FE CYRILLIC: CAPITAL LETTER HA WITH STROKE, SMALL LETTER HA WITH STROKE",
   "500 CYRILLIC: CAPITAL LETTER KOMI DE, SMALL LETTER KOMI DE, CAPITAL LETTER KOMI DJE",
   "503 CYRILLIC: SMALL LETTER KOMI DJE, CAPITAL LETTER KOMI ZJE, SMALL LETTER KOMI ZJE",
   "506 CYRILLIC: CAPITAL LETTER KOMI DZJE, SMALL LETTER KOMI DZJE, CAPITAL LETTER KOMI LJE",
   "509 CYRILLIC: SMALL LETTER KOMI LJE, CAPITAL LETTER KOMI NJE, SMALL LETTER KOMI NJE",
   "50C CYRILLIC: CAPITAL LETTER KOMI SJE, SMALL LETTER KOMI SJE, CAPITAL LETTER KOMI TJE",
   "50F CYRILLIC: SMALL LETTER KOMI TJE, CAPITAL LETTER REVERSED ZE, SMALL LETTER REVERSED ZE",
   "512 CYRILLIC: CAPITAL LETTER EL WITH HOOK, SMALL LETTER EL WITH HOOK, CAPITAL LETTER LHA",
   "515 CYRILLIC: SMALL LETTER LHA, CAPITAL LETTER RHA, SMALL LETTER RHA, CAPITAL LETTER YAE",
   "519 CYRILLIC: SMALL LETTER YAE, CAPITAL LETTER QA, SMALL LETTER QA, CAPITAL LETTER WE",
   "51D CYRILLIC: SMALL LETTER WE, CAPITAL LETTER ALEUT KA, SMALL LETTER ALEUT KA",
   "520 CYRILLIC CAPITAL LETTER EL WITH MIDDLE HOOK",
   "521 CYRILLIC: SMALL LETTER EL WITH MIDDLE HOOK, CAPITAL LETTER EN WITH MIDDLE HOOK",
   "523 CYRILLIC: SMALL LETTER EN WITH MIDDLE HOOK, CAPITAL LETTER PE WITH DESCENDER",
   "525 CYRILLIC: SMALL LETTER PE WITH DESCENDER, CAPITAL LETTER SHHA WITH DESCENDER",
   "527 CYRILLIC: SMALL LETTER SHHA WITH DESCENDER, CAPITAL LETTER EN WITH LEFT HOOK",
   "529 CYRILLIC: SMALL LETTER EN WITH LEFT HOOK, CAPITAL LETTER DZZHE, SMALL LETTER DZZHE",
   "52C CYRILLIC: CAPITAL LETTER DCHE, SMALL LETTER DCHE, CAPITAL LETTER EL WITH DESCENDER",
   "52F CYRILLIC SMALL LETTER EL WITH DESCENDER",
   "531 ARMENIAN CAPITAL LETTER: AYB, BEN, GIM, DA, ECH, ZA, EH, ET, TO, ZHE, INI, LIWN",
   "53D ARMENIAN CAPITAL LETTER: XEH, CA, KEN, HO, JA, GHAD, CHEH, MEN, YI, NOW, SHA, VO, CHA",
   "54A ARMENIAN CAPITAL LETTER: PEH, JHEH, RA, SEH, VEW, TIWN, REH, CO, YIWN, PIWR, KEH, OH, FEH",
   "559 ARMENIAN: MODIFIER LETTER LEFT HALF RING, APOSTROPHE",
   "55B ARMENIAN: EMPHASIS MARK, EXCLAMATION MARK, COMMA, QUESTION MARK, ABBREVIATION MARK",
   "560 ARMENIAN SMALL LETTER: TURNED AYB, AYB, BEN, GIM, DA, ECH, ZA, EH, ET, TO, ZHE, INI",
   "56C ARMENIAN SMALL LETTER: LIWN, XEH, CA, KEN, HO, JA, GHAD, CHEH, MEN, YI, NOW, SHA, VO, CHA",
   "57A ARMENIAN SMALL LETTER: PEH, JHEH, RA, SEH, VEW, TIWN, REH, CO, YIWN, PIWR, KEH, OH, FEH",
   "587 ARMENIAN: SMALL LIGATURE ECH YIWN, SMALL LETTER YI WITH STROKE, FULL STOP, HYPHEN",
   "58D RIGHT-FACING ARMENIAN ETERNITY SIGN",
   "58E LEFT-FACING ARMENIAN ETERNITY SIGN, ARMENIAN DRAM SIGN",
   "591 HEBREW ACCENT: ETNAHTA, SEGOL, SHALSHELET, ZAQEF QATAN, ZAQEF GADOL, TIPEHA",
   "597 HEBREW ACCENT: REVIA, ZARQA, PASHTA, YETIV, TEVIR, GERESH, GERESH MUQDAM, GERSHAYIM",
   "59F HEBREW ACCENT: QARNEY PARA, TELISHA GEDOLA, PAZER, ATNAH HAFUKH, MUNAH, MAHAPAKH, MERKHA",
   "5A6 HEBREW ACCENT: MERKHA KEFULA, DARGA, QADMA, TELISHA QETANA, YERAH BEN YOMO, OLE, ILUY",
   "5AD HEBREW: ACCENT DEHI, ACCENT ZINOR, MARK MASORA CIRCLE",
   "5B0 HEBREW POINT: SHEVA, HATAF SEGOL, HATAF PATAH, HATAF QAMATS, HIRIQ, TSERE, SEGOL",
   "5B7 HEBREW POINT: PATAH, QAMATS, HOLAM, HOLAM HASER FOR VAV, QUBUTS, DAGESH OR MAPIQ, METEG",
   "5BE HEBREW: PUNCTUATION MAQAF, POINT RAFE, PUNCTUATION PASEQ, POINT SHIN DOT, POINT SIN DOT",
   "5C3 HEBREW PUNCTUATION SOF PASUQ",
   "5C4 HEBREW: MARK UPPER DOT, MARK LOWER DOT, PUNCTUATION NUN HAFUKHA, POINT QAMATS QATAN",
   "5D0 HEBREW LETTER: ALEF, BET, GIMEL, DALET, HE, VAV",
   "5D6 HEBREW LETTER: ZAYIN, HET, TET, YOD, FINAL KAF, KAF, LAMED, FINAL MEM, MEM, FINAL NUN",
   "5E0 HEBREW LETTER: NUN, SAMEKH, AYIN, FINAL PE, PE, FINAL TSADI, TSADI, QOF, RESH, SHIN, TAV",
   "5EF HEBREW YOD TRIANGLE",
   "5F0 HEBREW LIGATURE YIDDISH: DOUBLE VAV, VAV YOD, DOUBLE YOD",
   "5F3 HEBREW PUNCTUATION: GERESH, GERSHAYIM",
   "600 ARABIC: NUMBER SIGN, SIGN SANAH, FOOTNOTE MARKER, SIGN SAFHA, SIGN SAMVAT",
   "605 ARABIC NUMBER MARK ABOVE, ARABIC-INDIC CUBE ROOT, ARABIC-INDIC FOURTH ROOT, ARABIC RAY",
   "609 ARABIC-INDIC PER: MILLE SIGN, TEN THOUSAND SIGN",
   "60B AFGHANI SIGN, ARABIC COMMA",
   "60D ARABIC: DATE SEPARATOR, POETIC VERSE SIGN, SIGN MISRA, SIGN SALLALLAHOU ALAYHE WASSALLAM",
   "611 ARABIC SIGN: ALAYHE ASSALLAM, RAHMATULLAH ALAYHE, RADI ALLAHOU ANHU, TAKHALLUS",
   "615 ARABIC SMALL: HIGH TAH, HIGH LIGATURE ALEF WITH LAM WITH YEH, HIGH ZAIN, FATHA, DAMMA",
   "61A ARABIC: SMALL KASRA, SEMICOLON, LETTER MARK",
   "61D ARABIC: END OF TEXT MARK, TRIPLE DOT PUNCTUATION MARK, QUESTION MARK, LETTER KASHMIRI YEH",
   "621 ARABIC LETTER: HAMZA, ALEF WITH MADDA ABOVE, ALEF WITH HAMZA ABOVE, WAW WITH HAMZA ABOVE",
   "625 ARABIC LETTER: ALEF WITH HAMZA BELOW, YEH WITH HAMZA ABOVE, ALEF, BEH, TEH MARBUTA, TEH",
   "62B ARABIC LETTER: THEH, JEEM, HAH, KHAH, DAL, THAL, REH, ZAIN, SEEN, SHEEN, SAD, DAD, TAH",
   "638 ARABIC LETTER: ZAH, AIN, GHAIN, KEHEH WITH TWO DOTS ABOVE, KEHEH WITH THREE DOTS BELOW",
   "63D ARABIC LETTER FARSI YEH WITH: INVERTED V, TWO DOTS ABOVE, THREE DOTS ABOVE",
   "640 ARABIC TATWEEL",
   "641 ARABIC LETTER: FEH, QAF, KAF, LAM, MEEM, NOON, HEH, WAW, ALEF MAKSURA, YEH",
   "64B ARABIC: FATHATAN, DAMMATAN, KASRATAN, FATHA, DAMMA, KASRA, SHADDA, SUKUN, MADDAH ABOVE",
   "654 ARABIC HAMZA: ABOVE, BELOW",
   "656 ARABIC: SUBSCRIPT ALEF, INVERTED DAMMA, MARK NOON GHUNNA, ZWARAKAY",
   "65A ARABIC VOWEL SIGN: SMALL V ABOVE, INVERTED SMALL V ABOVE, DOT BELOW",
   "65D ARABIC: REVERSED DAMMA, FATHA WITH TWO DOTS, WAVY HAMZA BELOW",
   "660 ARABIC-INDIC DIGIT: ZERO, ONE, TWO, THREE, FOUR, FIVE, SIX, SEVEN, EIGHT, NINE",
   "66A ARABIC: PERCENT SIGN, DECIMAL SEPARATOR, THOUSANDS SEPARATOR, FIVE POINTED STAR",
   "66E ARABIC LETTER: DOTLESS BEH, DOTLESS QAF, SUPERSCRIPT ALEF, ALEF WASLA",
   "672 ARABIC LETTER ALEF WITH WAVY HAMZA: ABOVE, BELOW",
   "674 ARABIC LETTER HIGH: HAMZA, HAMZA ALEF, HAMZA WAW",
   "677 ARABIC LETTER: U WITH HAMZA ABOVE, HIGH HAMZA YEH, TTEH, TTEHEH, BEEH",
   "67C ARABIC LETTER TEH WITH: RING, THREE DOTS ABOVE DOWNWARDS",
   "67E ARABIC LETTER: PEH, TEHEH, BEHEH, HAH WITH HAMZA ABOVE, HAH WITH TWO DOTS VERTICAL ABOVE",
   "683 ARABIC LETTER: NYEH, DYEH, HAH WITH THREE DOTS ABOVE, TCHEH, TCHEHEH, DDAL",
   "689 ARABIC LETTER DAL WITH: RING, DOT BELOW, DOT BELOW AND SMALL TAH",
   "68C ARABIC LETTER: DAHAL, DDAHAL, DUL, DAL WITH THREE DOTS ABOVE DOWNWARDS",
   "690 ARABIC LETTER: DAL WITH FOUR DOTS ABOVE, RREH, REH WITH SMALL V, REH WITH RING",
   "694 ARABIC LETTER REH WITH: DOT BELOW, SMALL V BELOW, DOT BELOW AND DOT ABOVE, TWO DOTS ABOVE",
   "698 ARABIC LETTER: JEH, REH WITH FOUR DOTS ABOVE, SEEN WITH DOT BELOW AND DOT ABOVE",
   "69B ARABIC LETTER SEEN WITH THREE DOTS: BELOW, BELOW AND THREE DOTS ABOVE",
   "69D ARABIC LETTER SAD WITH: TWO DOTS BELOW, THREE DOTS ABOVE",
   "69F ARABIC LETTER: TAH WITH THREE DOTS ABOVE, AIN WITH THREE DOTS ABOVE, DOTLESS FEH",
   "6A2 ARABIC LETTER FEH WITH DOT: MOVED BELOW, BELOW",
   "6A4 ARABIC LETTER: VEH, FEH WITH THREE DOTS BELOW, PEHEH, QAF WITH DOT ABOVE",
   "6A8 ARABIC LETTER: QAF WITH THREE DOTS ABOVE, KEHEH, SWASH KAF, KAF WITH RING",
   "6AC ARABIC LETTER: KAF WITH DOT ABOVE, NG, KAF WITH THREE DOTS BELOW, GAF, GAF WITH RING",
   "6B1 ARABIC LETTER: NGOEH, GAF WITH TWO DOTS BELOW, GUEH, GAF WITH THREE DOTS ABOVE",
   "6B5 ARABIC LETTER LAM WITH: SMALL V, DOT ABOVE, THREE DOTS ABOVE, THREE DOTS BELOW",
   "6B9 ARABIC LETTER: NOON WITH DOT BELOW, NOON GHUNNA, RNOON, NOON WITH RING",
   "6BD ARABIC LETTER: NOON WITH THREE DOTS ABOVE, HEH DOACHASHMEE, TCHEH WITH DOT ABOVE",
   "6C0 ARABIC LETTER: HEH WITH YEH ABOVE, HEH GOAL, HEH GOAL WITH HAMZA ABOVE, TEH MARBUTA GOAL",
   "6C4 ARABIC LETTER: WAW WITH RING, KIRGHIZ OE, OE, U, YU, KIRGHIZ YU, WAW WITH TWO DOTS ABOVE",
   "6CB ARABIC LETTER: VE, FARSI YEH, YEH WITH TAIL, YEH WITH SMALL V, WAW WITH DOT ABOVE, E",
   "6D1 ARABIC LETTER YEH: WITH THREE DOTS BELOW, BARREE, BARREE WITH HAMZA ABOVE",
   "6D4 ARABIC: FULL STOP, LETTER AE, SMALL HIGH LIGATURE SAD WITH LAM WITH ALEF MAKSURA",
   "6D7 ARABIC SMALL HIGH LIGATURE QAF WITH LAM WITH ALEF MAKSURA",
   "6D8 ARABIC SMALL HIGH: MEEM INITIAL FORM, LAM ALEF, JEEM, THREE DOTS, SEEN",
   "6DD ARABIC: END OF AYAH, START OF RUB EL HIZB",
   "6DF ARABIC SMALL HIGH: ROUNDED ZERO, UPRIGHT RECTANGULAR ZERO, DOTLESS HEAD OF KHAH",
   "6E2 ARABIC SMALL: HIGH MEEM ISOLATED FORM, LOW SEEN, HIGH MADDA, WAW, YEH, HIGH YEH",
   "6E8 ARABIC: SMALL HIGH NOON, PLACE OF SAJDAH, EMPTY CENTRE LOW STOP",
   "6EB ARABIC: EMPTY CENTRE HIGH STOP, ROUNDED HIGH STOP WITH FILLED CENTRE, SMALL LOW MEEM",
   "6EE ARABIC LETTER: DAL WITH INVERTED V, REH WITH INVERTED V",
   "6F0 EXTENDED ARABIC-INDIC DIGIT: ZERO, ONE, TWO, THREE, FOUR, FIVE, SIX, SEVEN, EIGHT, NINE",
   "6FA ARABIC LETTER: SHEEN WITH DOT BELOW, DAD WITH DOT BELOW, GHAIN WITH DOT BELOW",
   "6FD ARABIC: SIGN SINDHI AMPERSAND, SIGN SINDHI POSTPOSITION MEN, LETTER HEH WITH INVERTED V",
   "700 SYRIAC: END OF PARAGRAPH, SUPRALINEAR FULL STOP, SUBLINEAR FULL STOP, SUPRALINEAR COLON",
   "704 SYRIAC: SUBLINEAR COLON, HORIZONTAL COLON, COLON SKEWED LEFT, COLON SKEWED RIGHT",
   "708 SYRIAC: SUPRALINEAR COLON SKEWED LEFT, SUBLINEAR COLON SKEWED RIGHT, CONTRACTION",
   "70B SYRIAC HARKLEAN: OBELUS, METOBELUS, ASTERISCUS",
   "70F SYRIAC: ABBREVIATION MARK, LETTER ALAPH, LETTER SUPERSCRIPT ALAPH",
   "712 SYRIAC LETTER: BETH, GAMAL, GAMAL GARSHUNI, DALATH, DOTLESS DALATH RISH, HE, WAW",
   "719 SYRIAC LETTER: ZAIN, HETH, TETH, TETH GARSHUNI, YUDH, YUDH HE, KAPH, LAMADH, MIM, NUN",
   "723 SYRIAC LETTER: SEMKATH, FINAL SEMKATH, E, PE, REVERSED PE, SADHE, QAPH, RISH, SHIN, TAW",
   "72D SYRIAC LETTER PERSIAN: BHETH, GHAMAL, DHALATH",
   "730 SYRIAC PTHAHA: ABOVE, BELOW, DOTTED",
   "733 SYRIAC ZQAPHA: ABOVE, BELOW, DOTTED",
   "736 SYRIAC RBASA: ABOVE, BELOW",
   "738 SYRIAC DOTTED ZLAMA: HORIZONTAL, ANGULAR",
   "73A SYRIAC: HBASA ABOVE, HBASA BELOW, HBASA-ESASA DOTTED",
   "73D SYRIAC: ESASA ABOVE, ESASA BELOW, RWAHA, FEMININE DOT, QUSHSHAYA, RUKKAKHA",
   "743 SYRIAC TWO VERTICAL DOTS: ABOVE, BELOW",
   "745 SYRIAC THREE DOTS: ABOVE, BELOW",
   "747 SYRIAC: OBLIQUE LINE ABOVE, OBLIQUE LINE BELOW, MUSIC, BARREKH",
   "74D SYRIAC LETTER SOGDIAN: ZHAIN, KHAPH, FE",
   "750 ARABIC LETTER BEH WITH: THREE DOTS HORIZONTALLY BELOW, DOT BELOW AND THREE DOTS ABOVE",
   "752 ARABIC LETTER BEH WITH THREE DOTS POINTING UPWARDS: BELOW, BELOW AND TWO DOTS ABOVE",
   "754 ARABIC LETTER BEH WITH: TWO DOTS BELOW AND DOT ABOVE, INVERTED SMALL V BELOW, SMALL V",
   "757 ARABIC LETTER HAH WITH: TWO DOTS ABOVE, THREE DOTS POINTING UPWARDS BELOW",
   "759 ARABIC LETTER DAL WITH: TWO DOTS VERTICALLY BELOW AND SMALL TAH, INVERTED SMALL V BELOW",
   "75B ARABIC LETTER: REH WITH STROKE, SEEN WITH FOUR DOTS ABOVE, AIN WITH TWO DOTS ABOVE",
   "75E ARABIC LETTER AIN WITH: THREE DOTS POINTING DOWNWARDS ABOVE, TWO DOTS VERTICALLY ABOVE",
   "760 ARABIC LETTER FEH WITH: TWO DOTS BELOW, THREE DOTS POINTING UPWARDS BELOW",
   "762 ARABIC LETTER KEHEH WITH: DOT ABOVE, THREE DOTS ABOVE, THREE DOTS POINTING UPWARDS BELOW",
   "765 ARABIC LETTER MEEM WITH DOT: ABOVE, BELOW",
   "767 ARABIC LETTER NOON WITH: TWO DOTS BELOW, SMALL TAH, SMALL V",
   "76A ARABIC LETTER: LAM WITH BAR, REH WITH TWO DOTS VERTICALLY ABOVE, REH WITH HAMZA ABOVE",
   "76D ARABIC LETTER SEEN WITH TWO DOTS VERTICALLY ABOVE",
   "76E ARABIC LETTER HAH WITH SMALL ARABIC LETTER TAH: BELOW, AND TWO DOTS",
   "770 ARABIC LETTER SEEN WITH SMALL ARABIC LETTER TAH AND TWO DOTS",
   "771 ARABIC LETTER REH WITH SMALL ARABIC LETTER TAH AND TWO DOTS",
   "772 ARABIC LETTER HAH WITH SMALL ARABIC LETTER TAH ABOVE",
   "773 ARABIC LETTER ALEF WITH EXTENDED ARABIC-INDIC DIGIT: TWO ABOVE, THREE ABOVE",
   "775 ARABIC LETTER FARSI YEH WITH EXTENDED ARABIC-INDIC DIGIT TWO ABOVE",
   "776 ARABIC LETTER FARSI YEH WITH EXTENDED ARABIC-INDIC DIGIT: THREE ABOVE, FOUR BELOW",
   "778 ARABIC LETTER WAW WITH EXTENDED ARABIC-INDIC DIGIT: TWO ABOVE, THREE ABOVE",
   "77A ARABIC LETTER YEH BARREE WITH EXTENDED ARABIC-INDIC DIGIT: TWO ABOVE, THREE ABOVE",
   "77C ARABIC LETTER HAH WITH EXTENDED ARABIC-INDIC DIGIT FOUR BELOW",
   "77D ARABIC LETTER SEEN WITH: EXTENDED ARABIC-INDIC DIGIT FOUR ABOVE, INVERTED V",
   "77F ARABIC LETTER KAF WITH TWO DOTS ABOVE",
   "780 THAANA LETTER: HAA, SHAVIYANI, NOONU, RAA, BAA, LHAVIYANI, KAAFU, ALIFU, VAAVU",
   "789 THAANA LETTER: MEEMU, FAAFU, DHAALU, THAA, LAAMU, GAAFU, GNAVIYANI, SEENU, DAVIYANI",
   "792 THAANA LETTER: ZAVIYANI, TAVIYANI, YAA, PAVIYANI, JAVIYANI, CHAVIYANI, TTAA, HHAA, KHAA",
   "79B THAANA LETTER: THAALU, ZAA, SHEENU, SAADHU, DAADHU, TO, ZO, AINU, GHAINU, QAAFU, WAAVU",
   "7A6 THAANA: ABAFILI, AABAAFILI, IBIFILI, EEBEEFILI",
   "7AA THAANA: UBUFILI, OOBOOFILI, EBEFILI, EYBEYFILI, OBOFILI, OABOAFILI, SUKUN, LETTER NAA",
   "7C0 NKO DIGIT: ZERO, ONE, TWO, THREE, FOUR, FIVE, SIX, SEVEN, EIGHT, NINE",
   "7CA NKO LETTER: A, EE, I, E, U, OO, O, DAGBASINNA, N, BA, PA, TA, JA, CHA, DA",
   "7D9 NKO LETTER: RA, RRA, SA, GBA, FA, KA, LA, NA WOLOSO, MA, NYA, NA, HA, WA, YA, NYA WOLOSO",
   "7E8 NKO LETTER JONA: JA, CHA, RA",
   "7EB NKO COMBINING SHORT: HIGH TONE, LOW TONE, RISING TONE",
   "7EE NKO COMBINING LONG: DESCENDING TONE, HIGH TONE, LOW TONE, RISING TONE",
   "7F2 NKO COMBINING: NASALIZATION MARK, DOUBLE DOT ABOVE",
   "7F4 NKO: HIGH TONE APOSTROPHE, LOW TONE APOSTROPHE",
   "7F6 NKO: SYMBOL OO DENNEN, SYMBOL GBAKURUNEN, COMMA, EXCLAMATION MARK, LAJANYALAN",
   "7FD NKO: DANTAYALAN, DOROME SIGN, TAMAN SIGN"]

end Codegen.Text.CharName
