/-!
Names of characters, from version 14 of the Unicode Character Database: the scripts of Asia, Africa
and the Americas, U+0800 to U+1FFF.
-/

namespace Codegen.Text.CharName

def scriptRows : List String :=
  ["800 SAMARITAN LETTER: ALAF, BIT, GAMAN, DALAT, IY, BAA, ZEN, IT, TIT, YUT",
   "80A SAMARITAN LETTER: KAAF, LABAT, MIM, NUN, SINGAAT, IN, FI, TSAADIY, QUF, RISH, SHAN, TAAF",
   "816 SAMARITAN MARK: IN, IN-ALAF, OCCLUSION, DAGESH",
   "81A SAMARITAN: MODIFIER LETTER EPENTHETIC YUT, MARK EPENTHETIC YUT",
   "81C SAMARITAN VOWEL SIGN: LONG E, E, OVERLONG AA, LONG AA, AA, OVERLONG A, LONG A, A",
   "824 SAMARITAN MODIFIER LETTER SHORT A",
   "825 SAMARITAN VOWEL SIGN: SHORT A, LONG U, U",
   "828 SAMARITAN MODIFIER LETTER I",
   "829 SAMARITAN VOWEL SIGN: LONG I, I, O, SUKUN",
   "82D SAMARITAN MARK NEQUDAA",
   "830 SAMARITAN PUNCTUATION: NEQUDAA, AFSAAQ, ANGED, BAU, ATMAAU, SHIYYAALAA",
   "836 SAMARITAN: ABBREVIATION MARK, PUNCTUATION MELODIC QITSA",
   "838 SAMARITAN PUNCTUATION: ZIQAA, QITSA, ZAEF, TURU, ARKAANU, SOF MASHFAAT, ANNAAU",
   "840 MANDAIC LETTER: HALQA, AB, AG, AD, AH, USHENNA, AZ, IT, ATT, AKSA",
   "84A MANDAIC LETTER: AK, AL, AM, AN, AS, IN, AP, ASZ, AQ, AR, ASH, AT, DUSHENNA, KAD, AIN",
   "859 MANDAIC: AFFRICATION MARK, VOCALIZATION MARK, GEMINATION MARK",
   "85E MANDAIC PUNCTUATION",
   "860 SYRIAC LETTER MALAYALAM: NGA, JA, NYA, TTA, NNA, NNNA, BHA, RA, LLA, LLLA, SSA",
   "870 ARABIC LETTER ALEF WITH ATTACHED: FATHA, TOP RIGHT FATHA",
   "872 ARABIC LETTER ALEF WITH: RIGHT MIDDLE STROKE, LEFT MIDDLE STROKE",
   "874 ARABIC LETTER ALEF WITH ATTACHED: KASRA, BOTTOM RIGHT KASRA, ROUND DOT ABOVE",
   "877 ARABIC LETTER ALEF WITH ATTACHED: RIGHT ROUND DOT, LEFT ROUND DOT, ROUND DOT BELOW",
   "87A ARABIC LETTER ALEF WITH: DOT ABOVE, ATTACHED TOP RIGHT FATHA AND DOT ABOVE",
   "87C ARABIC LETTER ALEF WITH RIGHT MIDDLE STROKE AND DOT ABOVE",
   "87D ARABIC LETTER ALEF WITH ATTACHED BOTTOM RIGHT KASRA AND DOT ABOVE",
   "87E ARABIC LETTER ALEF WITH ATTACHED TOP RIGHT FATHA AND LEFT RING",
   "87F ARABIC LETTER ALEF WITH RIGHT MIDDLE STROKE AND LEFT RING",
   "880 ARABIC LETTER ALEF WITH ATTACHED BOTTOM RIGHT KASRA AND LEFT RING",
   "881 ARABIC LETTER ALEF WITH ATTACHED: RIGHT HAMZA, LEFT HAMZA",
   "883 ARABIC TATWEEL WITH: OVERSTRUCK HAMZA, OVERSTRUCK WAW, TWO DOTS BELOW",
   "886 ARABIC: LETTER THIN YEH, BASELINE ROUND DOT, RAISED ROUND DOT",
   "889 ARABIC LETTER: NOON WITH INVERTED SMALL V, HAH WITH INVERTED SMALL V BELOW",
   "88B ARABIC LETTER TAH WITH: DOT BELOW, THREE DOTS BELOW",
   "88D ARABIC: LETTER KEHEH WITH TWO DOTS VERTICALLY BELOW, VERTICAL TAIL",
   "890 ARABIC: POUND MARK ABOVE, PIASTRE MARK ABOVE",
   "898 ARABIC SMALL: HIGH WORD AL-JUZ, LOW WORD ISHMAAM, LOW WORD IMAALA, LOW WORD TASHEEL",
   "89C ARABIC: MADDA WAAJIB, SUPERSCRIPT ALEF MOKHASSAS, DOUBLED MADDA, HALF MADDA OVER MADDA",
   "8A0 ARABIC LETTER: BEH WITH SMALL V BELOW, BEH WITH HAMZA ABOVE, JEEM WITH TWO DOTS ABOVE",
   "8A3 ARABIC LETTER: TAH WITH TWO DOTS ABOVE, FEH WITH DOT BELOW AND THREE DOTS ABOVE",
   "8A5 ARABIC LETTER: QAF WITH DOT BELOW, LAM WITH DOUBLE BAR, MEEM WITH THREE DOTS ABOVE",
   "8A8 ARABIC LETTER YEH WITH TWO DOTS BELOW AND: HAMZA ABOVE, DOT ABOVE",
   "8AA ARABIC LETTER REH WITH LOOP",
   "8AB ARABIC LETTER: WAW WITH DOT WITHIN, ROHINGYA YEH, LOW ALEF, DAL WITH THREE DOTS BELOW",
   "8AF ARABIC LETTER: SAD WITH THREE DOTS BELOW, GAF WITH INVERTED STROKE, STRAIGHT WAW",
   "8B2 ARABIC LETTER: ZAIN WITH INVERTED V ABOVE, AIN WITH THREE DOTS BELOW, KAF WITH DOT BELOW",
   "8B5 ARABIC LETTER: QAF WITH DOT BELOW AND NO DOTS ABOVE, BEH WITH SMALL MEEM ABOVE",
   "8B7 ARABIC LETTER: PEH WITH SMALL MEEM ABOVE, TEH WITH SMALL TEH ABOVE",
   "8B9 ARABIC LETTER: REH WITH SMALL NOON ABOVE, YEH WITH TWO DOTS BELOW AND SMALL NOON ABOVE",
   "8BB ARABIC LETTER: AFRICAN FEH, AFRICAN QAF, AFRICAN NOON, PEH WITH SMALL V, TEH WITH SMALL V",
   "8C0 ARABIC LETTER: TTEH WITH SMALL V, TCHEH WITH SMALL V, KEHEH WITH SMALL V",
   "8C3 ARABIC LETTER: GHAIN WITH THREE DOTS ABOVE, AFRICAN QAF WITH THREE DOTS ABOVE",
   "8C5 ARABIC LETTER JEEM WITH THREE DOTS: ABOVE, BELOW",
   "8C7 ARABIC: LETTER LAM WITH SMALL ARABIC LETTER TAH ABOVE, LETTER GRAF, SMALL FARSI YEH",
   "8CA ARABIC SMALL HIGH: FARSI YEH, YEH BARREE WITH TWO DOTS BELOW, WORD SAH, ZAH",
   "8CE ARABIC LARGE ROUND DOT: ABOVE, BELOW",
   "8D0 ARABIC: SUKUN BELOW, LARGE CIRCLE BELOW, LARGE ROUND DOT INSIDE CIRCLE BELOW",
   "8D3 ARABIC SMALL: LOW WAW, HIGH WORD AR-RUB",
   "8D5 ARABIC SMALL: HIGH SAD, HIGH AIN, HIGH QAF, HIGH NOON WITH KASRA, LOW NOON WITH KASRA",
   "8DA ARABIC SMALL HIGH WORD: ATH-THALATHA, AS-SAJDA, AN-NISF, SAKTA, QIF, WAQFA",
   "8E0 ARABIC SMALL HIGH: FOOTNOTE MARKER, SIGN SAFHA",
   "8E2 ARABIC: DISPUTED END OF AYAH, TURNED DAMMA BELOW",
   "8E4 ARABIC CURLY: FATHA, DAMMA, KASRA, FATHATAN, DAMMATAN, KASRATAN",
   "8EA ARABIC TONE: ONE DOT ABOVE, TWO DOTS ABOVE, LOOP ABOVE, ONE DOT BELOW, TWO DOTS BELOW",
   "8EF ARABIC: TONE LOOP BELOW, OPEN FATHATAN, OPEN DAMMATAN, OPEN KASRATAN, SMALL HIGH WAW",
   "8F4 ARABIC: FATHA WITH RING, FATHA WITH DOT ABOVE, KASRA WITH DOT BELOW, LEFT ARROWHEAD ABOVE",
   "8F8 ARABIC: RIGHT ARROWHEAD ABOVE, LEFT ARROWHEAD BELOW, RIGHT ARROWHEAD BELOW",
   "8FB ARABIC DOUBLE RIGHT ARROWHEAD: ABOVE, ABOVE WITH DOT",
   "8FD ARABIC: RIGHT ARROWHEAD ABOVE WITH DOT, DAMMA WITH DOT, MARK SIDEWAYS NOON GHUNNA",
   "900 DEVANAGARI SIGN: INVERTED CANDRABINDU, CANDRABINDU, ANUSVARA, VISARGA",
   "904 DEVANAGARI LETTER: SHORT A, A, AA, I, II, U, UU, VOCALIC R, VOCALIC L, CANDRA E, SHORT E",
   "90F DEVANAGARI LETTER: E, AI, CANDRA O, SHORT O, O, AU, KA, KHA, GA, GHA, NGA, CA, CHA",
   "91C DEVANAGARI LETTER: JA, JHA, NYA, TTA, TTHA, DDA, DDHA, NNA, TA, THA, DA, DHA, NA, NNNA",
   "92A DEVANAGARI LETTER: PA, PHA, BA, BHA, MA, YA, RA, RRA, LA, LLA, LLLA, VA, SHA, SSA, SA, HA",
   "93A DEVANAGARI: VOWEL SIGN OE, VOWEL SIGN OOE, SIGN NUKTA, SIGN AVAGRAHA",
   "93E DEVANAGARI VOWEL SIGN: AA, I, II, U, UU, VOCALIC R",
   "944 DEVANAGARI VOWEL SIGN: VOCALIC RR, CANDRA E, SHORT E, E, AI, CANDRA O, SHORT O, O, AU",
   "94D DEVANAGARI: SIGN VIRAMA, VOWEL SIGN PRISHTHAMATRA E, VOWEL SIGN AW",
   "950 DEVANAGARI: OM, STRESS SIGN UDATTA, STRESS SIGN ANUDATTA, GRAVE ACCENT, ACUTE ACCENT",
   "955 DEVANAGARI VOWEL SIGN: CANDRA LONG E, UE, UUE",
   "958 DEVANAGARI LETTER: QA, KHHA, GHHA, ZA, DDDHA, RHA, FA, YYA, VOCALIC RR, VOCALIC LL",
   "962 DEVANAGARI: VOWEL SIGN VOCALIC L, VOWEL SIGN VOCALIC LL, DANDA, DOUBLE DANDA",
   "966 DEVANAGARI DIGIT: ZERO, ONE, TWO, THREE, FOUR, FIVE, SIX, SEVEN, EIGHT, NINE",
   "970 DEVANAGARI: ABBREVIATION SIGN, SIGN HIGH SPACING DOT",
   "972 DEVANAGARI LETTER: CANDRA A, OE, OOE, AW",
   "976 DEVANAGARI LETTER: UE, UUE, MARWARI DDA, ZHA, HEAVY YA, GGA, JJA, GLOTTAL STOP, DDDA, BBA",
   "980 BENGALI: ANJI, SIGN CANDRABINDU, SIGN ANUSVARA, SIGN VISARGA",
   "985 BENGALI LETTER: A, AA, I, II, U, UU, VOCALIC R, VOCALIC L",
   "98F BENGALI LETTER: E, AI",
   "993 BENGALI LETTER: O, AU, KA, KHA, GA, GHA, NGA",
   "99A BENGALI LETTER: CA, CHA, JA, JHA, NYA, TTA, TTHA, DDA, DDHA, NNA, TA, THA, DA, DHA, NA",
   "9AA BENGALI LETTER: PA, PHA, BA, BHA, MA, YA, RA",
   "9B2 BENGALI LETTER LA",
   "9B6 BENGALI LETTER: SHA, SSA, SA, HA",
   "9BC BENGALI SIGN: NUKTA, AVAGRAHA",
   "9BE BENGALI VOWEL SIGN: AA, I, II, U, UU, VOCALIC R, VOCALIC RR",
   "9C7 BENGALI VOWEL SIGN: E, AI",
   "9CB BENGALI: VOWEL SIGN O, VOWEL SIGN AU, SIGN VIRAMA, LETTER KHANDA TA",
   "9D7 BENGALI AU LENGTH MARK",
   "9DC BENGALI LETTER: RRA, RHA",
   "9DF BENGALI LETTER: YYA, VOCALIC RR, VOCALIC LL",
   "9E2 BENGALI VOWEL SIGN VOCALIC: L, LL",
   "9E6 BENGALI DIGIT: ZERO, ONE, TWO, THREE, FOUR, FIVE, SIX, SEVEN, EIGHT, NINE",
   "9F0 BENGALI LETTER RA WITH: MIDDLE DIAGONAL, LOWER DIAGONAL",
   "9F2 BENGALI RUPEE: MARK, SIGN",
   "9F4 BENGALI CURRENCY NUMERATOR: ONE, TWO, THREE, FOUR, ONE LESS THAN THE DENOMINATOR",
   "9F9 BENGALI CURRENCY DENOMINATOR SIXTEEN",
   "9FA BENGALI: ISSHAR, GANDA MARK, LETTER VEDIC ANUSVARA, ABBREVIATION SIGN, SANDHI MARK",
   "A01 GURMUKHI SIGN: ADAK BINDI, BINDI, VISARGA",
   "A05 GURMUKHI LETTER: A, AA, I, II, U, UU",
   "A0F GURMUKHI LETTER: EE, AI",
   "A13 GURMUKHI LETTER: OO, AU, KA, KHA, GA, GHA, NGA",
   "A1A GURMUKHI LETTER: CA, CHA, JA, JHA, NYA, TTA, TTHA, DDA, DDHA, NNA, TA, THA, DA, DHA, NA",
   "A2A GURMUKHI LETTER: PA, PHA, BA, BHA, MA, YA, RA",
   "A32 GURMUKHI LETTER: LA, LLA",
   "A35 GURMUKHI LETTER: VA, SHA",
   "A38 GURMUKHI LETTER: SA, HA",
   "A3C GURMUKHI SIGN NUKTA",
   "A3E GURMUKHI VOWEL SIGN: AA, I, II, U, UU",
   "A47 GURMUKHI VOWEL SIGN: EE, AI",
   "A4B GURMUKHI: VOWEL SIGN OO, VOWEL SIGN AU, SIGN VIRAMA",
   "A51 GURMUKHI SIGN UDAAT",
   "A59 GURMUKHI LETTER: KHHA, GHHA, ZA, RRA",
   "A5E GURMUKHI LETTER FA",
   "A66 GURMUKHI DIGIT: ZERO, ONE, TWO, THREE, FOUR, FIVE, SIX, SEVEN, EIGHT, NINE",
   "A70 GURMUKHI: TIPPI, ADDAK, IRI, URA, EK ONKAR, SIGN YAKASH, ABBREVIATION SIGN",
   "A81 GUJARATI SIGN: CANDRABINDU, ANUSVARA, VISARGA",
   "A85 GUJARATI LETTER: A, AA, I, II, U, UU, VOCALIC R, VOCALIC L",
   "A8D GUJARATI VOWEL CANDRA E",
   "A8F GUJARATI: LETTER E, LETTER AI, VOWEL CANDRA O",
   "A93 GUJARATI LETTER: O, AU, KA, KHA, GA, GHA, NGA",
   "A9A GUJARATI LETTER: CA, CHA, JA, JHA, NYA, TTA, TTHA, DDA, DDHA, NNA, TA, THA, DA, DHA, NA",
   "AAA GUJARATI LETTER: PA, PHA, BA, BHA, MA, YA, RA",
   "AB2 GUJARATI LETTER: LA, LLA",
   "AB5 GUJARATI LETTER: VA, SHA, SSA, SA, HA",
   "ABC GUJARATI SIGN: NUKTA, AVAGRAHA",
   "ABE GUJARATI VOWEL SIGN: AA, I, II, U, UU, VOCALIC R, VOCALIC RR, CANDRA E",
   "AC7 GUJARATI VOWEL SIGN: E, AI, CANDRA O",
   "ACB GUJARATI: VOWEL SIGN O, VOWEL SIGN AU, SIGN VIRAMA",
   "AD0 GUJARATI OM",
   "AE0 GUJARATI LETTER VOCALIC: RR, LL",
   "AE2 GUJARATI VOWEL SIGN VOCALIC: L, LL",
   "AE6 GUJARATI DIGIT: ZERO, ONE, TWO, THREE, FOUR, FIVE, SIX, SEVEN, EIGHT, NINE",
   "AF0 GUJARATI: ABBREVIATION SIGN, RUPEE SIGN",
   "AF9 GUJARATI: LETTER ZHA, SIGN SUKUN, SIGN SHADDA",
   "AFC GUJARATI SIGN: MADDAH, THREE-DOT NUKTA ABOVE, CIRCLE NUKTA ABOVE, TWO-CIRCLE NUKTA ABOVE",
   "B01 ORIYA SIGN: CANDRABINDU, ANUSVARA, VISARGA",
   "B05 ORIYA LETTER: A, AA, I, II, U, UU, VOCALIC R, VOCALIC L",
   "B0F ORIYA LETTER: E, AI",
   "B13 ORIYA LETTER: O, AU, KA, KHA, GA, GHA",
   "B19 ORIYA LETTER: NGA, CA, CHA, JA, JHA, NYA, TTA, TTHA, DDA, DDHA, NNA, TA, THA, DA, DHA, NA",
   "B2A ORIYA LETTER: PA, PHA, BA, BHA, MA, YA, RA",
   "B32 ORIYA LETTER: LA, LLA",
   "B35 ORIYA LETTER: VA, SHA, SSA, SA, HA",
   "B3C ORIYA SIGN: NUKTA, AVAGRAHA",
   "B3E ORIYA VOWEL SIGN: AA, I, II, U, UU, VOCALIC R, VOCALIC RR",
   "B47 ORIYA VOWEL SIGN: E, AI",
   "B4B ORIYA: VOWEL SIGN O, VOWEL SIGN AU, SIGN VIRAMA",
   "B55 ORIYA: SIGN OVERLINE, AI LENGTH MARK, AU LENGTH MARK",
   "B5C ORIYA LETTER: RRA, RHA",
   "B5F ORIYA LETTER: YYA, VOCALIC RR, VOCALIC LL",
   "B62 ORIYA VOWEL SIGN VOCALIC: L, LL",
   "B66 ORIYA DIGIT: ZERO, ONE, TWO, THREE, FOUR, FIVE, SIX, SEVEN, EIGHT, NINE",
   "B70 ORIYA: ISSHAR, LETTER WA, FRACTION ONE QUARTER",
   "B73 ORIYA FRACTION: ONE HALF, THREE QUARTERS, ONE SIXTEENTH, ONE EIGHTH, THREE SIXTEENTHS",
   "B82 TAMIL SIGN: ANUSVARA, VISARGA",
   "B85 TAMIL LETTER: A, AA, I, II, U, UU",
   "B8E TAMIL LETTER: E, EE, AI",
   "B92 TAMIL LETTER: O, OO, AU, KA",
   "B99 TAMIL LETTER: NGA, CA",
   "B9C TAMIL LETTER JA",
   "B9E TAMIL LETTER: NYA, TTA",
   "BA3 TAMIL LETTER: NNA, TA",
   "BA8 TAMIL LETTER: NA, NNNA, PA",
   "BAE TAMIL LETTER: MA, YA, RA, RRA, LA, LLA, LLLA, VA, SHA, SSA, SA, HA",
   "BBE TAMIL VOWEL SIGN: AA, I, II, U, UU",
   "BC6 TAMIL VOWEL SIGN: E, EE, AI",
   "BCA TAMIL VOWEL SIGN: O, OO, AU",
   "BCD TAMIL SIGN VIRAMA",
   "BD0 TAMIL OM",
   "BD7 TAMIL AU LENGTH MARK",
   "BE6 TAMIL DIGIT: ZERO, ONE, TWO, THREE, FOUR, FIVE, SIX, SEVEN, EIGHT, NINE",
   "BF0 TAMIL: NUMBER TEN, NUMBER ONE HUNDRED, NUMBER ONE THOUSAND, DAY SIGN, MONTH SIGN",
   "BF5 TAMIL: YEAR SIGN, DEBIT SIGN, CREDIT SIGN, AS ABOVE SIGN, RUPEE SIGN, NUMBER SIGN",
   "C00 TELUGU SIGN COMBINING CANDRABINDU ABOVE",
   "C01 TELUGU SIGN: CANDRABINDU, ANUSVARA, VISARGA, COMBINING ANUSVARA ABOVE",
   "C05 TELUGU LETTER: A, AA, I, II, U, UU, VOCALIC R, VOCALIC L",
   "C0E TELUGU LETTER: E, EE, AI",
   "C12 TELUGU LETTER: O, OO, AU, KA, KHA, GA, GHA, NGA",
   "C1A TELUGU LETTER: CA, CHA, JA, JHA, NYA, TTA, TTHA, DDA, DDHA, NNA, TA, THA, DA, DHA, NA",
   "C2A TELUGU LETTER: PA, PHA, BA, BHA, MA, YA, RA, RRA, LA, LLA, LLLA, VA, SHA, SSA, SA, HA",
   "C3C TELUGU SIGN: NUKTA, AVAGRAHA",
   "C3E TELUGU VOWEL SIGN: AA, I, II, U, UU, VOCALIC R, VOCALIC RR",
   "C46 TELUGU VOWEL SIGN: E, EE, AI",
   "C4A TELUGU VOWEL SIGN: O, OO, AU",
   "C4D TELUGU SIGN VIRAMA",
   "C55 TELUGU: LENGTH MARK, AI LENGTH MARK",
   "C58 TELUGU LETTER: TSA, DZA, RRRA",
   "C5D TELUGU LETTER NAKAARA POLLU",
   "C60 TELUGU LETTER VOCALIC: RR, LL",
   "C62 TELUGU VOWEL SIGN VOCALIC: L, LL",
   "C66 TELUGU DIGIT: ZERO, ONE, TWO, THREE, FOUR, FIVE, SIX, SEVEN, EIGHT, NINE",
   "C77 TELUGU SIGN SIDDHAM",
   "C78 TELUGU FRACTION DIGIT: ZERO FOR ODD POWERS OF FOUR, ONE FOR ODD POWERS OF FOUR",
   "C7A TELUGU FRACTION DIGIT: TWO FOR ODD POWERS OF FOUR, THREE FOR ODD POWERS OF FOUR",
   "C7C TELUGU FRACTION DIGIT: ONE FOR EVEN POWERS OF FOUR, TWO FOR EVEN POWERS OF FOUR",
   "C7E TELUGU: FRACTION DIGIT THREE FOR EVEN POWERS OF FOUR, SIGN TUUMU",
   "C80 KANNADA SIGN: SPACING CANDRABINDU, CANDRABINDU, ANUSVARA, VISARGA, SIDDHAM",
   "C85 KANNADA LETTER: A, AA, I, II, U, UU, VOCALIC R, VOCALIC L",
   "C8E KANNADA LETTER: E, EE, AI",
   "C92 KANNADA LETTER: O, OO, AU, KA, KHA, GA, GHA, NGA",
   "C9A KANNADA LETTER: CA, CHA, JA, JHA, NYA, TTA, TTHA, DDA, DDHA, NNA, TA, THA, DA, DHA, NA",
   "CAA KANNADA LETTER: PA, PHA, BA, BHA, MA, YA, RA, RRA, LA, LLA",
   "CB5 KANNADA LETTER: VA, SHA, SSA, SA, HA",
   "CBC KANNADA SIGN: NUKTA, AVAGRAHA",
   "CBE KANNADA VOWEL SIGN: AA, I, II, U, UU, VOCALIC R, VOCALIC RR",
   "CC6 KANNADA VOWEL SIGN: E, EE, AI",
   "CCA KANNADA VOWEL SIGN: O, OO, AU",
   "CCD KANNADA SIGN VIRAMA",
   "CD5 KANNADA: LENGTH MARK, AI LENGTH MARK",
   "CDD KANNADA LETTER: NAKAARA POLLU, FA",
   "CE0 KANNADA LETTER VOCALIC: RR, LL",
   "CE2 KANNADA VOWEL SIGN VOCALIC: L, LL",
   "CE6 KANNADA DIGIT: ZERO, ONE, TWO, THREE, FOUR, FIVE, SIX, SEVEN, EIGHT, NINE",
   "CF1 KANNADA SIGN: JIHVAMULIYA, UPADHMANIYA",
   "D00 MALAYALAM SIGN: COMBINING ANUSVARA ABOVE, CANDRABINDU, ANUSVARA, VISARGA",
   "D04 MALAYALAM LETTER: VEDIC ANUSVARA, A, AA, I, II, U, UU, VOCALIC R, VOCALIC L",
   "D0E MALAYALAM LETTER: E, EE, AI",
   "D12 MALAYALAM LETTER: O, OO, AU, KA, KHA, GA, GHA, NGA, CA, CHA, JA, JHA",
   "D1E MALAYALAM LETTER: NYA, TTA, TTHA, DDA, DDHA, NNA, TA, THA, DA, DHA, NA, NNNA, PA, PHA",
   "D2C MALAYALAM LETTER: BA, BHA, MA, YA, RA, RRA, LA, LLA, LLLA, VA, SHA, SSA, SA, HA, TTTA",
   "D3B MALAYALAM SIGN: VERTICAL BAR VIRAMA, CIRCULAR VIRAMA, AVAGRAHA",
   "D3E MALAYALAM VOWEL SIGN: AA, I, II, U, UU, VOCALIC R, VOCALIC RR",
   "D46 MALAYALAM VOWEL SIGN: E, EE, AI",
   "D4A MALAYALAM VOWEL SIGN: O, OO, AU",
   "D4D MALAYALAM: SIGN VIRAMA, LETTER DOT REPH, SIGN PARA",
   "D54 MALAYALAM LETTER CHILLU: M, Y, LLL",
   "D57 MALAYALAM AU LENGTH MARK",
   "D58 MALAYALAM FRACTION: ONE ONE-HUNDRED-AND-SIXTIETH, ONE FORTIETH, THREE EIGHTIETHS",
   "D5B MALAYALAM FRACTION: ONE TWENTIETH, ONE TENTH, THREE TWENTIETHS, ONE FIFTH",
   "D5F MALAYALAM LETTER: ARCHAIC II, VOCALIC RR, VOCALIC LL",
   "D62 MALAYALAM VOWEL SIGN VOCALIC: L, LL",
   "D66 MALAYALAM DIGIT: ZERO, ONE, TWO, THREE, FOUR, FIVE, SIX, SEVEN, EIGHT, NINE",
   "D70 MALAYALAM NUMBER: TEN, ONE HUNDRED, ONE THOUSAND",
   "D73 MALAYALAM FRACTION: ONE QUARTER, ONE HALF, THREE QUARTERS, ONE SIXTEENTH, ONE EIGHTH",
   "D78 MALAYALAM: FRACTION THREE SIXTEENTHS, DATE MARK",
   "D7A MALAYALAM LETTER CHILLU: NN, N, RR, L, LL, K",
   "D81 SINHALA SIGN: CANDRABINDU, ANUSVARAYA, VISARGAYA",
   "D85 SINHALA LETTER: AYANNA, AAYANNA",
   "D87 SINHALA LETTER: AEYANNA, AEEYANNA, IYANNA, IIYANNA, UYANNA, UUYANNA, IRUYANNA, IRUUYANNA",
   "D8F SINHALA LETTER: ILUYANNA, ILUUYANNA, EYANNA, EEYANNA, AIYANNA, OYANNA, OOYANNA, AUYANNA",
   "D9A SINHALA LETTER: ALPAPRAANA KAYANNA, MAHAAPRAANA KAYANNA, ALPAPRAANA GAYANNA",
   "D9D SINHALA LETTER: MAHAAPRAANA GAYANNA, KANTAJA NAASIKYAYA, SANYAKA GAYANNA",
   "DA0 SINHALA LETTER: ALPAPRAANA CAYANNA, MAHAAPRAANA CAYANNA, ALPAPRAANA JAYANNA",
   "DA3 SINHALA LETTER: MAHAAPRAANA JAYANNA, TAALUJA NAASIKYAYA, TAALUJA SANYOOGA NAAKSIKYAYA",
   "DA6 SINHALA LETTER: SANYAKA JAYANNA, ALPAPRAANA TTAYANNA, MAHAAPRAANA TTAYANNA",
   "DA9 SINHALA LETTER: ALPAPRAANA DDAYANNA, MAHAAPRAANA DDAYANNA, MUURDHAJA NAYANNA",
   "DAC SINHALA LETTER: SANYAKA DDAYANNA, ALPAPRAANA TAYANNA, MAHAAPRAANA TAYANNA",
   "DAF SINHALA LETTER: ALPAPRAANA DAYANNA, MAHAAPRAANA DAYANNA, DANTAJA NAYANNA",
   "DB3 SINHALA LETTER SANYAKA DAYANNA",
   "DB4 SINHALA LETTER: ALPAPRAANA PAYANNA, MAHAAPRAANA PAYANNA, ALPAPRAANA BAYANNA",
   "DB7 SINHALA LETTER: MAHAAPRAANA BAYANNA, MAYANNA, AMBA BAYANNA, YAYANNA, RAYANNA",
   "DBD SINHALA LETTER DANTAJA LAYANNA",
   "DC0 SINHALA LETTER: VAYANNA, TAALUJA SAYANNA",
   "DC2 SINHALA LETTER: MUURDHAJA SAYANNA, DANTAJA SAYANNA, HAYANNA, MUURDHAJA LAYANNA, FAYANNA",
   "DCA SINHALA SIGN AL-LAKUNA",
   "DCF SINHALA VOWEL SIGN: AELA-PILLA, KETTI AEDA-PILLA",
   "DD1 SINHALA VOWEL SIGN: DIGA AEDA-PILLA, KETTI IS-PILLA, DIGA IS-PILLA, KETTI PAA-PILLA",
   "DD6 SINHALA VOWEL SIGN DIGA PAA-PILLA",
   "DD8 SINHALA VOWEL SIGN: GAETTA-PILLA, KOMBUVA, DIGA KOMBUVA, KOMBU DEKA",
   "DDC SINHALA VOWEL SIGN KOMBUVA HAA: AELA-PILLA, DIGA AELA-PILLA, GAYANUKITTA",
   "DDF SINHALA VOWEL SIGN GAYANUKITTA",
   "DE6 SINHALA LITH DIGIT: ZERO, ONE, TWO, THREE, FOUR, FIVE, SIX, SEVEN, EIGHT, NINE",
   "DF2 SINHALA VOWEL SIGN DIGA: GAETTA-PILLA, GAYANUKITTA",
   "DF4 SINHALA PUNCTUATION KUNDDALIYA",
   "E01 THAI CHARACTER: KO KAI, KHO KHAI, KHO KHUAT, KHO KHWAI, KHO KHON, KHO RAKHANG, NGO NGU",
   "E08 THAI CHARACTER CHO: CHAN, CHING, CHANG",
   "E0B THAI CHARACTER: SO SO, CHO CHOE, YO YING, DO CHADA, TO PATAK, THO THAN, THO NANGMONTHO",
   "E12 THAI CHARACTER: THO PHUTHAO, NO NEN, DO DEK, TO TAO, THO THUNG, THO THAHAN, THO THONG",
   "E19 THAI CHARACTER: NO NU, BO BAIMAI, PO PLA, PHO PHUNG, FO FA, PHO PHAN, FO FAN, PHO SAMPHAO",
   "E21 THAI CHARACTER: MO MA, YO YAK, RO RUA, RU, LO LING, LU, WO WAEN, SO SALA, SO RUSI, SO SUA",
   "E2B THAI CHARACTER: HO HIP, LO CHULA, O ANG, HO NOKHUK, PAIYANNOI, SARA A, MAI HAN-AKAT",
   "E32 THAI CHARACTER SARA: AA, AM, I, II, UE, UEE, U, UU",
   "E3A THAI CHARACTER PHINTHU",
   "E3F THAI CURRENCY SYMBOL BAHT",
   "E40 THAI CHARACTER SARA: E, AE, O, AI MAIMUAN, AI MAIMALAI",
   "E45 THAI CHARACTER: LAKKHANGYAO, MAIYAMOK, MAITAIKHU, MAI EK",
   "E49 THAI CHARACTER: MAI THO, MAI TRI, MAI CHATTAWA, THANTHAKHAT, NIKHAHIT, YAMAKKAN, FONGMAN",
   "E50 THAI DIGIT: ZERO, ONE, TWO, THREE, FOUR, FIVE, SIX, SEVEN, EIGHT, NINE",
   "E5A THAI CHARACTER: ANGKHANKHU, KHOMUT",
   "E81 LAO LETTER: KO, KHO SUNG",
   "E84 LAO LETTER KHO TAM",
   "E86 LAO LETTER: PALI GHA, NGO, CO, PALI CHA, SO TAM",
   "E8C LAO LETTER: PALI JHA, NYO",
   "E8E LAO LETTER PALI: NYA, TTA, TTHA, DDA, DDHA, NNA",
   "E94 LAO LETTER: DO, TO, THO SUNG, THO TAM, PALI DHA",
   "E99 LAO LETTER: NO, BO, PO, PHO SUNG, FO TAM, PHO TAM, FO SUNG, PALI BHA, MO, YO, LO LING",
   "EA5 LAO LETTER LO LOOT",
   "EA7 LAO LETTER: WO, SANSKRIT SHA, SANSKRIT SSA, SO SUNG, HO SUNG, PALI LLA, O, HO TAM",
   "EAF LAO ELLIPSIS",
   "EB0 LAO VOWEL SIGN: A, MAI KAN, AA, AM, I, II, Y, YY, U, UU",
   "EBA LAO: SIGN PALI VIRAMA, VOWEL SIGN MAI KON",
   "EBC LAO SEMIVOWEL SIGN: LO, NYO",
   "EC0 LAO VOWEL SIGN: E, EI, O, AY, AI",
   "EC6 LAO KO LA",
   "EC8 LAO TONE MAI: EK, THO, TI, CATAWA",
   "ECC LAO: CANCELLATION MARK, NIGGAHITA",
   "ED0 LAO DIGIT: ZERO, ONE, TWO, THREE, FOUR, FIVE, SIX, SEVEN, EIGHT, NINE",
   "EDC LAO HO: NO, MO",
   "EDE LAO LETTER KHMU: GO, NYO",
   "F00 TIBETAN SYLLABLE OM",
   "F01 TIBETAN MARK GTER YIG MGO: TRUNCATED A, -UM RNAM BCAD MA, -UM GTER TSHEG MA",
   "F04 TIBETAN MARK INITIAL YIG MGO MDUN MA",
   "F05 TIBETAN MARK: CLOSING YIG MGO SGAB MA, CARET YIG MGO PHUR SHAD MA, YIG MGO TSHEG SHAD MA",
   "F08 TIBETAN MARK: SBRUL SHAD, BSKUR YIG MGO, BKA- SHOG YIG MGO, INTERSYLLABIC TSHEG",
   "F0C TIBETAN MARK: DELIMITER TSHEG BSTAR, SHAD, NYIS SHAD, TSHEG SHAD, NYIS TSHEG SHAD",
   "F11 TIBETAN MARK: RIN CHEN SPUNGS SHAD, RGYA GRAM SHAD, CARET -DZUD RTAGS ME LONG CAN",
   "F14 TIBETAN: MARK GTER TSHEG, LOGOTYPE SIGN CHAD RTAGS, LOGOTYPE SIGN LHAG RTAGS",
   "F17 TIBETAN ASTROLOGICAL SIGN: SGRA GCAN -CHAR RTAGS, -KHYUD PA, SDONG TSHUGS",
   "F1A TIBETAN SIGN RDEL: DKAR GCIG, DKAR GNYIS, DKAR GSUM, NAG GCIG, NAG GNYIS, DKAR RDEL NAG",
   "F20 TIBETAN DIGIT: ZERO, ONE, TWO, THREE, FOUR, FIVE, SIX, SEVEN, EIGHT, NINE",
   "F2A TIBETAN DIGIT HALF: ONE, TWO, THREE, FOUR, FIVE, SIX, SEVEN, EIGHT, NINE, ZERO",
   "F34 TIBETAN MARK: BSDUS RTAGS, NGAS BZUNG NYI ZLA, CARET -DZUD RTAGS BZHI MIG CAN",
   "F37 TIBETAN MARK: NGAS BZUNG SGOR RTAGS, CHE MGO, TSA -PHRU, GUG RTAGS GYON, GUG RTAGS GYAS",
   "F3C TIBETAN MARK ANG KHANG: GYON, GYAS",
   "F3E TIBETAN SIGN: YAR TSHES, MAR TSHES",
   "F40 TIBETAN LETTER: KA, KHA, GA, GHA, NGA, CA, CHA, JA",
   "F49 TIBETAN LETTER: NYA, TTA, TTHA, DDA, DDHA, NNA",
   "F4F TIBETAN LETTER: TA, THA, DA, DHA, NA, PA, PHA, BA, BHA, MA, TSA, TSHA, DZA, DZHA, WA, ZHA",
   "F5F TIBETAN LETTER: ZA, -A, YA, RA, LA, SHA, SSA, SA, HA, A, KSSA, FIXED-FORM RA, KKA, RRA",
   "F71 TIBETAN VOWEL SIGN: AA, I, II, U, UU, VOCALIC R, VOCALIC RR, VOCALIC L, VOCALIC LL, E, EE",
   "F7C TIBETAN: VOWEL SIGN O, VOWEL SIGN OO, SIGN RJES SU NGA RO, SIGN RNAM BCAD",
   "F80 TIBETAN VOWEL SIGN REVERSED: I, II",
   "F82 TIBETAN SIGN: NYI ZLA NAA DA, SNA LDAN",
   "F84 TIBETAN: MARK HALANTA, MARK PALUTA, SIGN LCI RTAGS, SIGN YANG RTAGS",
   "F88 TIBETAN SIGN: LCE TSA CAN, MCHU CAN, GRU CAN RGYINGS, GRU MED RGYINGS, INVERTED MCHU CAN",
   "F8D TIBETAN SUBJOINED SIGN: LCE TSA CAN, MCHU CAN, INVERTED MCHU CAN",
   "F90 TIBETAN SUBJOINED LETTER: KA, KHA, GA, GHA, NGA, CA, CHA, JA",
   "F99 TIBETAN SUBJOINED LETTER: NYA, TTA, TTHA, DDA, DDHA",
   "F9E TIBETAN SUBJOINED LETTER: NNA, TA, THA, DA, DHA, NA, PA, PHA, BA, BHA, MA, TSA, TSHA, DZA",
   "FAC TIBETAN SUBJOINED LETTER: DZHA, WA, ZHA, ZA, -A, YA, RA, LA, SHA, SSA, SA, HA, A, KSSA",
   "FBA TIBETAN SUBJOINED LETTER FIXED-FORM: WA, YA, RA",
   "FBE TIBETAN KU RU: KHA, KHA BZHI MIG CAN",
   "FC0 TIBETAN CANTILLATION SIGN: HEAVY BEAT, LIGHT BEAT, CANG TE-U, SBUB -CHAL",
   "FC4 TIBETAN SYMBOL: DRIL BU, RDO RJE, PADMA GDAN, RDO RJE RGYA GRAM, PHUR PA, NOR BU",
   "FCA TIBETAN SYMBOL NOR BU: NYIS -KHYIL, GSUM -KHYIL, BZHI -KHYIL",
   "FCE TIBETAN SIGN RDEL NAG: RDEL DKAR, GSUM",
   "FD0 TIBETAN MARK: BSKA- SHOG GI MGO RGYAN, MNYAM YIG GI MGO RGYAN, NYIS TSHEG",
   "FD3 TIBETAN MARK: INITIAL BRDA RNYING YIG MGO MDUN MA, CLOSING BRDA RNYING YIG MGO SGAB MA",
   "FD5 RIGHT-FACING SVASTI SIGN, LEFT-FACING SVASTI SIGN",
   "FD7 RIGHT-FACING SVASTI SIGN WITH DOTS, LEFT-FACING SVASTI SIGN WITH DOTS",
   "FD9 TIBETAN MARK: LEADING MCHAN RTAGS, TRAILING MCHAN RTAGS",
   "1000 MYANMAR LETTER: KA, KHA, GA, GHA, NGA, CA, CHA, JA, JHA, NYA, NNYA",
   "100B MYANMAR LETTER: TTA, TTHA, DDA, DDHA, NNA, TA, THA, DA, DHA, NA, PA, PHA, BA, BHA, MA",
   "101A MYANMAR LETTER: YA, RA, LA, WA, SA, HA, LLA, A, SHAN A, I, II, U, UU, E, MON E, O, AU",
   "102B MYANMAR VOWEL SIGN: TALL AA, AA, I, II, U, UU, E, AI, MON II, MON O, E ABOVE",
   "1036 MYANMAR SIGN: ANUSVARA, DOT BELOW, VISARGA, VIRAMA, ASAT",
   "103B MYANMAR CONSONANT SIGN MEDIAL: YA, RA, WA, HA",
   "103F MYANMAR LETTER GREAT SA",
   "1040 MYANMAR DIGIT: ZERO, ONE, TWO, THREE, FOUR, FIVE, SIX, SEVEN, EIGHT, NINE",
   "104A MYANMAR SIGN: LITTLE SECTION, SECTION",
   "104C MYANMAR SYMBOL: LOCATIVE, COMPLETED, AFOREMENTIONED, GENITIVE",
   "1050 MYANMAR LETTER: SHA, SSA, VOCALIC R, VOCALIC RR, VOCALIC L, VOCALIC LL",
   "1056 MYANMAR VOWEL SIGN VOCALIC: R, RR, L, LL",
   "105A MYANMAR LETTER MON: NGA, JHA, BBA, BBE",
   "105E MYANMAR CONSONANT SIGN MON MEDIAL: NA, MA, LA",
   "1061 MYANMAR: LETTER SGAW KAREN SHA, VOWEL SIGN SGAW KAREN EU",
   "1063 MYANMAR TONE MARK SGAW KAREN: HATHI, KE PHO",
   "1065 MYANMAR LETTER WESTERN PWO KAREN: THA, PWA",
   "1067 MYANMAR VOWEL SIGN WESTERN PWO KAREN: EU, UE",
   "1069 MYANMAR SIGN WESTERN PWO KAREN: TONE-1, TONE-2, TONE-3, TONE-4, TONE-5",
   "106E MYANMAR LETTER EASTERN PWO KAREN: NNA, YWA, GHWA",
   "1071 MYANMAR VOWEL SIGN: GEBA KAREN I, KAYAH OE, KAYAH U, KAYAH EE",
   "1075 MYANMAR LETTER SHAN: KA, KHA, GA, CA, ZA, NYA, DA, NA, PHA, FA, BA, THA, HA",
   "1082 MYANMAR CONSONANT SIGN SHAN MEDIAL WA",
   "1083 MYANMAR VOWEL SIGN SHAN: AA, E, E ABOVE, FINAL Y",
   "1087 MYANMAR SIGN SHAN: TONE-2, TONE-3, TONE-5, TONE-6",
   "108B MYANMAR SIGN SHAN COUNCIL: TONE-2, TONE-3, EMPHATIC TONE",
   "108E MYANMAR: LETTER RUMAI PALAUNG FA, SIGN RUMAI PALAUNG TONE-5",
   "1090 MYANMAR SHAN DIGIT: ZERO, ONE, TWO, THREE, FOUR, FIVE, SIX, SEVEN, EIGHT, NINE",
   "109A MYANMAR SIGN KHAMTI: TONE-1, TONE-3",
   "109C MYANMAR VOWEL SIGN AITON: A, AI",
   "109E MYANMAR SYMBOL SHAN: ONE, EXCLAMATION",
   "10A0 GEORGIAN CAPITAL LETTER AN",
   "10A1 GEORGIAN CAPITAL LETTER: BAN, GAN, DON, EN, VIN, ZEN, TAN, IN, KAN, LAS, MAN, NAR, ON",
   "10AE GEORGIAN CAPITAL LETTER: PAR, ZHAR, RAE, SAN, TAR, UN, PHAR, KHAR, GHAN, QAR, SHIN, CHIN",
   "10BA GEORGIAN CAPITAL LETTER: CAN, JIL, CIL, CHAR, XAN, JHAN, HAE, HE, HIE, WE, HAR, HOE",
   "10C7 GEORGIAN CAPITAL LETTER YN",
   "10CD GEORGIAN CAPITAL LETTER AEN",
   "10D0 GEORGIAN LETTER: AN, BAN, GAN, DON, EN, VIN, ZEN, TAN, IN, KAN, LAS, MAN, NAR, ON",
   "10DE GEORGIAN LETTER: PAR, ZHAR, RAE, SAN, TAR, UN, PHAR, KHAR, GHAN, QAR, SHIN, CHIN, CAN",
   "10EB GEORGIAN LETTER: JIL, CIL, CHAR, XAN, JHAN, HAE, HE, HIE, WE, HAR, HOE, FI, YN, ELIFI",
   "10F9 GEORGIAN: LETTER TURNED GAN, LETTER AIN, PARAGRAPH SEPARATOR",
   "10FC MODIFIER LETTER GEORGIAN NAR",
   "10FD GEORGIAN LETTER: AEN, HARD SIGN, LABIAL SIGN",
   "1100 HANGUL CHOSEONG: KIYEOK, SSANGKIYEOK, NIEUN, TIKEUT, SSANGTIKEUT",
   "1105 HANGUL CHOSEONG: RIEUL, MIEUM, PIEUP, SSANGPIEUP, SIOS, SSANGSIOS, IEUNG, CIEUC",
   "110D HANGUL CHOSEONG: SSANGCIEUC, CHIEUCH, KHIEUKH, THIEUTH, PHIEUPH, HIEUH, NIEUN-KIYEOK",
   "1114 HANGUL CHOSEONG: SSANGNIEUN, NIEUN-TIKEUT, NIEUN-PIEUP, TIKEUT-KIYEOK, RIEUL-NIEUN",
   "1119 HANGUL CHOSEONG: SSANGRIEUL, RIEUL-HIEUH, KAPYEOUNRIEUL, MIEUM-PIEUP, KAPYEOUNMIEUM",
   "111E HANGUL CHOSEONG: PIEUP-KIYEOK, PIEUP-NIEUN, PIEUP-TIKEUT, PIEUP-SIOS, PIEUP-SIOS-KIYEOK",
   "1123 HANGUL CHOSEONG: PIEUP-SIOS-TIKEUT, PIEUP-SIOS-PIEUP, PIEUP-SSANGSIOS, PIEUP-SIOS-CIEUC",
   "1127 HANGUL CHOSEONG: PIEUP-CIEUC, PIEUP-CHIEUCH, PIEUP-THIEUTH, PIEUP-PHIEUPH, KAPYEOUNPIEUP",
   "112C HANGUL CHOSEONG: KAPYEOUNSSANGPIEUP, SIOS-KIYEOK, SIOS-NIEUN, SIOS-TIKEUT, SIOS-RIEUL",
   "1131 HANGUL CHOSEONG: SIOS-MIEUM, SIOS-PIEUP, SIOS-PIEUP-KIYEOK, SIOS-SSANGSIOS, SIOS-IEUNG",
   "1136 HANGUL CHOSEONG: SIOS-CIEUC, SIOS-CHIEUCH, SIOS-KHIEUKH, SIOS-THIEUTH, SIOS-PHIEUPH",
   "113B HANGUL CHOSEONG: SIOS-HIEUH, CHITUEUMSIOS, CHITUEUMSSANGSIOS, CEONGCHIEUMSIOS",
   "113F HANGUL CHOSEONG: CEONGCHIEUMSSANGSIOS, PANSIOS, IEUNG-KIYEOK, IEUNG-TIKEUT",
   "1143 HANGUL CHOSEONG: IEUNG-MIEUM, IEUNG-PIEUP, IEUNG-SIOS, IEUNG-PANSIOS, SSANGIEUNG",
   "1148 HANGUL CHOSEONG: IEUNG-CIEUC, IEUNG-CHIEUCH, IEUNG-THIEUTH, IEUNG-PHIEUPH, YESIEUNG",
   "114D HANGUL CHOSEONG: CIEUC-IEUNG, CHITUEUMCIEUC, CHITUEUMSSANGCIEUC, CEONGCHIEUMCIEUC",
   "1151 HANGUL CHOSEONG: CEONGCHIEUMSSANGCIEUC, CHIEUCH-KHIEUKH, CHIEUCH-HIEUH, CHITUEUMCHIEUCH",
   "1155 HANGUL CHOSEONG: CEONGCHIEUMCHIEUCH, PHIEUPH-PIEUP, KAPYEOUNPHIEUPH, SSANGHIEUH",
   "1159 HANGUL CHOSEONG: YEORINHIEUH, KIYEOK-TIKEUT, NIEUN-SIOS, NIEUN-CIEUC, NIEUN-HIEUH",
   "115E HANGUL: CHOSEONG TIKEUT-RIEUL, CHOSEONG FILLER, JUNGSEONG FILLER",
   "1161 HANGUL JUNGSEONG: A, AE, YA, YAE, EO, E, YEO, YE, O, WA, WAE, OE, YO, U, WEO, WE, WI",
   "1172 HANGUL JUNGSEONG: YU, EU, YI, I, A-O, A-U, YA-O, YA-YO, EO-O, EO-U, EO-EU, YEO-O, YEO-U",
   "117F HANGUL JUNGSEONG: O-EO, O-E, O-YE, O-O, O-U, YO-YA, YO-YAE, YO-YEO, YO-O, YO-I, U-A",
   "118A HANGUL JUNGSEONG: U-AE, U-EO-EU, U-YE, U-U, YU-A, YU-EO, YU-E, YU-YEO, YU-YE, YU-U, YU-I",
   "1195 HANGUL JUNGSEONG: EU-U, EU-EU, YI-U, I-A, I-YA, I-O, I-U, I-EU, I-ARAEA, ARAEA, ARAEA-EO",
   "11A0 HANGUL JUNGSEONG: ARAEA-U, ARAEA-I, SSANGARAEA, A-EU, YA-U, YEO-YA, O-YA, O-YAE",
   "11A8 HANGUL JONGSEONG: KIYEOK, SSANGKIYEOK, KIYEOK-SIOS, NIEUN, NIEUN-CIEUC",
   "11AD HANGUL JONGSEONG: NIEUN-HIEUH, TIKEUT, RIEUL, RIEUL-KIYEOK, RIEUL-MIEUM, RIEUL-PIEUP",
   "11B3 HANGUL JONGSEONG: RIEUL-SIOS, RIEUL-THIEUTH, RIEUL-PHIEUPH, RIEUL-HIEUH, MIEUM, PIEUP",
   "11B9 HANGUL JONGSEONG: PIEUP-SIOS, SIOS, SSANGSIOS, IEUNG, CIEUC, CHIEUCH, KHIEUKH, THIEUTH",
   "11C1 HANGUL JONGSEONG: PHIEUPH, HIEUH, KIYEOK-RIEUL, KIYEOK-SIOS-KIYEOK, NIEUN-KIYEOK",
   "11C6 HANGUL JONGSEONG: NIEUN-TIKEUT, NIEUN-SIOS, NIEUN-PANSIOS, NIEUN-THIEUTH, TIKEUT-KIYEOK",
   "11CB HANGUL JONGSEONG: TIKEUT-RIEUL, RIEUL-KIYEOK-SIOS, RIEUL-NIEUN, RIEUL-TIKEUT",
   "11CF HANGUL JONGSEONG: RIEUL-TIKEUT-HIEUH, SSANGRIEUL, RIEUL-MIEUM-KIYEOK, RIEUL-MIEUM-SIOS",
   "11D3 HANGUL JONGSEONG: RIEUL-PIEUP-SIOS, RIEUL-PIEUP-HIEUH, RIEUL-KAPYEOUNPIEUP",
   "11D6 HANGUL JONGSEONG: RIEUL-SSANGSIOS, RIEUL-PANSIOS, RIEUL-KHIEUKH, RIEUL-YEORINHIEUH",
   "11DA HANGUL JONGSEONG: MIEUM-KIYEOK, MIEUM-RIEUL, MIEUM-PIEUP, MIEUM-SIOS, MIEUM-SSANGSIOS",
   "11DF HANGUL JONGSEONG: MIEUM-PANSIOS, MIEUM-CHIEUCH, MIEUM-HIEUH, KAPYEOUNMIEUM",
   "11E3 HANGUL JONGSEONG: PIEUP-RIEUL, PIEUP-PHIEUPH, PIEUP-HIEUH, KAPYEOUNPIEUP, SIOS-KIYEOK",
   "11E8 HANGUL JONGSEONG: SIOS-TIKEUT, SIOS-RIEUL, SIOS-PIEUP, PANSIOS, IEUNG-KIYEOK",
   "11ED HANGUL JONGSEONG: IEUNG-SSANGKIYEOK, SSANGIEUNG, IEUNG-KHIEUKH, YESIEUNG, YESIEUNG-SIOS",
   "11F2 HANGUL JONGSEONG: YESIEUNG-PANSIOS, PHIEUPH-PIEUP, KAPYEOUNPHIEUPH, HIEUH-NIEUN",
   "11F6 HANGUL JONGSEONG: HIEUH-RIEUL, HIEUH-MIEUM, HIEUH-PIEUP, YEORINHIEUH, KIYEOK-NIEUN",
   "11FB HANGUL JONGSEONG: KIYEOK-PIEUP, KIYEOK-CHIEUCH, KIYEOK-KHIEUKH, KIYEOK-HIEUH, SSANGNIEUN",
   "1200 ETHIOPIC SYLLABLE: HA, HU, HI, HAA, HEE, HE, HO, HOA, LA, LU, LI, LAA, LEE, LE, LO, LWA",
   "1210 ETHIOPIC SYLLABLE: HHA, HHU, HHI, HHAA, HHEE, HHE, HHO, HHWA, MA, MU, MI, MAA, MEE, ME",
   "121E ETHIOPIC SYLLABLE: MO, MWA, SZA, SZU, SZI, SZAA, SZEE, SZE, SZO, SZWA, RA, RU, RI, RAA",
   "122C ETHIOPIC SYLLABLE: REE, RE, RO, RWA, SA, SU, SI, SAA, SEE, SE, SO, SWA, SHA, SHU, SHI",
   "123B ETHIOPIC SYLLABLE: SHAA, SHEE, SHE, SHO, SHWA, QA, QU, QI, QAA, QEE, QE, QO, QOA, QWA",
   "124A ETHIOPIC SYLLABLE: QWI, QWAA, QWEE, QWE",
   "1250 ETHIOPIC SYLLABLE: QHA, QHU, QHI, QHAA, QHEE, QHE, QHO",
   "1258 ETHIOPIC SYLLABLE QHWA",
   "125A ETHIOPIC SYLLABLE: QHWI, QHWAA, QHWEE, QHWE",
   "1260 ETHIOPIC SYLLABLE: BA, BU, BI, BAA, BEE, BE, BO, BWA, VA",
   "1269 ETHIOPIC SYLLABLE: VU, VI, VAA, VEE, VE, VO, VWA, TA, TU, TI, TAA, TEE, TE, TO, TWA, CA",
   "1279 ETHIOPIC SYLLABLE: CU, CI, CAA, CEE, CE, CO, CWA, XA, XU, XI, XAA, XEE, XE, XO, XOA, XWA",
   "128A ETHIOPIC SYLLABLE: XWI, XWAA, XWEE, XWE",
   "1290 ETHIOPIC SYLLABLE: NA, NU",
   "1292 ETHIOPIC SYLLABLE: NI, NAA, NEE, NE, NO, NWA, NYA, NYU, NYI, NYAA, NYEE, NYE, NYO, NYWA",
   "12A0 ETHIOPIC SYLLABLE GLOTTAL: A, U, I, AA, EE, E, O, WA",
   "12A8 ETHIOPIC SYLLABLE: KA, KU, KI, KAA, KEE, KE, KO, KOA, KWA",
   "12B2 ETHIOPIC SYLLABLE: KWI, KWAA, KWEE, KWE",
   "12B8 ETHIOPIC SYLLABLE: KXA, KXU, KXI, KXAA, KXEE, KXE, KXO",
   "12C0 ETHIOPIC SYLLABLE KXWA",
   "12C2 ETHIOPIC SYLLABLE: KXWI, KXWAA, KXWEE, KXWE",
   "12C8 ETHIOPIC SYLLABLE: WA, WU, WI, WAA, WEE, WE, WO, WOA",
   "12D0 ETHIOPIC SYLLABLE PHARYNGEAL: A, U, I, AA, EE, E, O",
   "12D8 ETHIOPIC SYLLABLE: ZA, ZU, ZI, ZAA, ZEE, ZE, ZO, ZWA, ZHA, ZHU, ZHI, ZHAA",
   "12E4 ETHIOPIC SYLLABLE: ZHEE, ZHE, ZHO, ZHWA, YA, YU, YI, YAA, YEE, YE, YO, YOA, DA, DU, DI",
   "12F3 ETHIOPIC SYLLABLE: DAA, DEE, DE, DO, DWA, DDA, DDU, DDI, DDAA, DDEE, DDE, DDO, DDWA, JA",
   "1301 ETHIOPIC SYLLABLE: JU, JI, JAA, JEE, JE, JO, JWA, GA, GU, GI, GAA, GEE, GE, GO, GOA, GWA",
   "1312 ETHIOPIC SYLLABLE: GWI, GWAA, GWEE, GWE",
   "1318 ETHIOPIC SYLLABLE: GGA, GGU, GGI, GGAA, GGEE, GGE, GGO, GGWAA, THA, THU, THI, THAA",
   "1324 ETHIOPIC SYLLABLE: THEE, THE, THO, THWA, CHA, CHU, CHI, CHAA, CHEE, CHE, CHO, CHWA, PHA",
   "1331 ETHIOPIC SYLLABLE: PHU, PHI, PHAA, PHEE, PHE, PHO, PHWA, TSA, TSU, TSI, TSAA, TSEE, TSE",
   "133E ETHIOPIC SYLLABLE: TSO, TSWA, TZA, TZU, TZI, TZAA, TZEE, TZE, TZO, TZOA, FA, FU, FI, FAA",
   "134C ETHIOPIC SYLLABLE: FEE, FE, FO, FWA, PA, PU, PI, PAA, PEE, PE, PO, PWA, RYA, MYA, FYA",
   "135D ETHIOPIC COMBINING: GEMINATION AND VOWEL LENGTH MARK, VOWEL LENGTH MARK, GEMINATION MARK",
   "1360 ETHIOPIC: SECTION MARK, WORDSPACE, FULL STOP",
   "1363 ETHIOPIC: COMMA, SEMICOLON, COLON, PREFACE COLON, QUESTION MARK, PARAGRAPH SEPARATOR",
   "1369 ETHIOPIC DIGIT: ONE, TWO, THREE, FOUR, FIVE, SIX, SEVEN, EIGHT, NINE",
   "1372 ETHIOPIC NUMBER: TEN, TWENTY, THIRTY",
   "1375 ETHIOPIC NUMBER: FORTY, FIFTY, SIXTY, SEVENTY, EIGHTY, NINETY, HUNDRED, TEN THOUSAND",
   "1380 ETHIOPIC SYLLABLE: SEBATBEIT MWA, MWI, MWEE, MWE, SEBATBEIT BWA, BWI, BWEE",
   "1387 ETHIOPIC SYLLABLE: BWE, SEBATBEIT FWA, FWI, FWEE, FWE, SEBATBEIT PWA, PWI, PWEE, PWE",
   "1390 ETHIOPIC TONAL MARK: YIZET, DERET, RIKRIK",
   "1393 ETHIOPIC TONAL MARK: SHORT RIKRIK, DIFAT, KENAT, CHIRET, HIDET, DERET-HIDET, KURT",
   "13A0 CHEROKEE LETTER: A, E, I, O, U, V, GA, KA, GE, GI, GO, GU, GV, HA, HE, HI, HO, HU, HV",
   "13B3 CHEROKEE LETTER: LA, LE, LI, LO, LU, LV, MA, ME, MI, MO, MU, NA, HNA, NAH, NE, NI, NO",
   "13C4 CHEROKEE LETTER: NU, NV, QUA, QUE, QUI, QUO, QUU, QUV, SA, S, SE, SI, SO, SU, SV, DA, TA",
   "13D5 CHEROKEE LETTER: DE, TE, DI, TI, DO, DU, DV, DLA, TLA, TLE, TLI, TLO, TLU, TLV, TSA, TSE",
   "13E5 CHEROKEE LETTER: TSI, TSO, TSU, TSV, WA, WE, WI, WO, WU, WV, YA, YE, YI, YO, YU, YV, MV",
   "13F8 CHEROKEE SMALL LETTER: YE, YI, YO, YU, YV, MV",
   "1400 CANADIAN SYLLABICS: HYPHEN, E, AAI, I, II, O, OO, Y-CREE OO, CARRIER EE, CARRIER I",
   "140A CANADIAN SYLLABICS: A, AA, WE, WEST-CREE WE, WI, WEST-CREE WI, WII, WEST-CREE WII, WO",
   "1413 CANADIAN SYLLABICS: WEST-CREE WO, WOO, WEST-CREE WOO, NASKAPI WOO, WA, WEST-CREE WA, WAA",
   "141A CANADIAN SYLLABICS: WEST-CREE WAA, NASKAPI WAA, AI, Y-CREE W, GLOTTAL STOP, FINAL ACUTE",
   "1420 CANADIAN SYLLABICS FINAL: GRAVE, BOTTOM HALF RING, TOP HALF RING, RIGHT HALF RING, RING",
   "1425 CANADIAN SYLLABICS FINAL DOUBLE: ACUTE, SHORT VERTICAL STROKES",
   "1427 CANADIAN SYLLABICS FINAL: MIDDLE DOT, SHORT HORIZONTAL STROKE, PLUS, DOWN TACK",
   "142B CANADIAN SYLLABICS: EN, IN, ON, AN, PE, PAAI, PI, PII, PO, POO",
   "1435 CANADIAN SYLLABICS: Y-CREE POO, CARRIER HEE, CARRIER HI, PA, PAA, PWE, WEST-CREE PWE",
   "143C CANADIAN SYLLABICS: PWI, WEST-CREE PWI, PWII, WEST-CREE PWII, PWO, WEST-CREE PWO",
   "1442 CANADIAN SYLLABICS: PWOO, WEST-CREE PWOO, PWA, WEST-CREE PWA, PWAA, WEST-CREE PWAA",
   "1448 CANADIAN SYLLABICS: Y-CREE PWAA, P, WEST-CREE P, CARRIER H, TE, TAAI, TI, TII, TO, TOO",
   "1452 CANADIAN SYLLABICS: Y-CREE TOO, CARRIER DEE, CARRIER DI, TA, TAA, TWE, WEST-CREE TWE",
   "1459 CANADIAN SYLLABICS: TWI, WEST-CREE TWI, TWII, WEST-CREE TWII, TWO, WEST-CREE TWO",
   "145F CANADIAN SYLLABICS: TWOO, WEST-CREE TWOO, TWA, WEST-CREE TWA, TWAA, WEST-CREE TWAA",
   "1465 CANADIAN SYLLABICS: NASKAPI TWAA, T, TTE, TTI, TTO, TTA, KE, KAAI, KI, KII",
   "146F CANADIAN SYLLABICS: KO, KOO, Y-CREE KOO, KA, KAA, KWE, WEST-CREE KWE, KWI, WEST-CREE KWI",
   "1478 CANADIAN SYLLABICS: KWII, WEST-CREE KWII, KWO, WEST-CREE KWO, KWOO, WEST-CREE KWOO",
   "147E CANADIAN SYLLABICS: KWA, WEST-CREE KWA, KWAA, WEST-CREE KWAA, NASKAPI KWAA, K, KW",
   "1485 CANADIAN SYLLABICS SOUTH-SLAVEY: KEH, KIH, KOH, KAH",
   "1489 CANADIAN SYLLABICS: CE, CAAI, CI, CII, CO, COO, Y-CREE COO, CA",
   "1491 CANADIAN SYLLABICS: CAA, CWE, WEST-CREE CWE, CWI, WEST-CREE CWI, CWII, WEST-CREE CWII",
   "1498 CANADIAN SYLLABICS: CWO, WEST-CREE CWO, CWOO, WEST-CREE CWOO, CWA, WEST-CREE CWA",
   "149E CANADIAN SYLLABICS: CWAA, WEST-CREE CWAA, NASKAPI CWAA, C, SAYISI TH, ME, MAAI, MI, MII",
   "14A7 CANADIAN SYLLABICS: MO, MOO, Y-CREE MOO, MA, MAA, MWE, WEST-CREE MWE, MWI, WEST-CREE MWI",
   "14B0 CANADIAN SYLLABICS: MWII, WEST-CREE MWII, MWO, WEST-CREE MWO, MWOO, WEST-CREE MWOO",
   "14B6 CANADIAN SYLLABICS: MWA, WEST-CREE MWA, MWAA, WEST-CREE MWAA, NASKAPI MWAA, M",
   "14BC CANADIAN SYLLABICS: WEST-CREE M, MH, ATHAPASCAN M, SAYISI M, NE, NAAI, NI, NII, NO, NOO",
   "14C6 CANADIAN SYLLABICS: Y-CREE NOO, NA, NAA, NWE, WEST-CREE NWE, NWA, WEST-CREE NWA, NWAA",
   "14CE CANADIAN SYLLABICS: WEST-CREE NWAA, NASKAPI NWAA, N, CARRIER NG, NH, LE, LAAI, LI, LII",
   "14D7 CANADIAN SYLLABICS: LO, LOO, Y-CREE LOO, LA, LAA, LWE, WEST-CREE LWE, LWI, WEST-CREE LWI",
   "14E0 CANADIAN SYLLABICS: LWII, WEST-CREE LWII, LWO, WEST-CREE LWO, LWOO, WEST-CREE LWOO",
   "14E6 CANADIAN SYLLABICS: LWA, WEST-CREE LWA, LWAA, WEST-CREE LWAA, L, WEST-CREE L, MEDIAL L",
   "14ED CANADIAN SYLLABICS: SE, SAAI, SI, SII, SO, SOO, Y-CREE SOO, SA, SAA, SWE, WEST-CREE SWE",
   "14F8 CANADIAN SYLLABICS: SWI, WEST-CREE SWI, SWII, WEST-CREE SWII, SWO, WEST-CREE SWO",
   "14FE CANADIAN SYLLABICS: SWOO, WEST-CREE SWOO, SWA, WEST-CREE SWA, SWAA, WEST-CREE SWAA",
   "1504 CANADIAN SYLLABICS: NASKAPI SWAA, S, ATHAPASCAN S, SW, BLACKFOOT S, MOOSE-CREE SK",
   "150A CANADIAN SYLLABICS NASKAPI: SKW, S-W, SPWA, STWA, SKWA, SCWA",
   "1510 CANADIAN SYLLABICS: SHE, SHI, SHII, SHO, SHOO, SHA, SHAA, SHWE, WEST-CREE SHWE, SHWI",
   "151A CANADIAN SYLLABICS WEST-CREE SHWI",
   "151B CANADIAN SYLLABICS: SHWII, WEST-CREE SHWII, SHWO, WEST-CREE SHWO, SHWOO, WEST-CREE SHWOO",
   "1521 CANADIAN SYLLABICS: SHWA, WEST-CREE SHWA, SHWAA, WEST-CREE SHWAA, SH, YE, YAAI, YI, YII",
   "152A CANADIAN SYLLABICS: YO, YOO, Y-CREE YOO, YA, YAA, YWE, WEST-CREE YWE, YWI, WEST-CREE YWI",
   "1533 CANADIAN SYLLABICS: YWII, WEST-CREE YWII, YWO, WEST-CREE YWO, YWOO, WEST-CREE YWOO",
   "1539 CANADIAN SYLLABICS: YWA, WEST-CREE YWA, YWAA, WEST-CREE YWAA, NASKAPI YWAA",
   "153E CANADIAN SYLLABICS: Y, BIBLE-CREE Y, WEST-CREE Y, SAYISI YI, RE, R-CREE RE, WEST-CREE LE",
   "1545 CANADIAN SYLLABICS: RAAI, RI, RII, RO, ROO, WEST-CREE LO, RA, RAA, WEST-CREE LA",
   "154E CANADIAN SYLLABICS: RWAA, WEST-CREE RWAA, R, WEST-CREE R, MEDIAL R, FE, FAAI",
   "1555 CANADIAN SYLLABICS: FI, FII, FO, FOO, FA, FAA, FWAA, WEST-CREE FWAA, F, THE, N-CREE THE",
   "1560 CANADIAN SYLLABICS: THI, N-CREE THI, THII, N-CREE THII, THO, THOO, THA, THAA, THWAA",
   "1569 CANADIAN SYLLABICS: WEST-CREE THWAA, TH, TTHE, TTHI, TTHO, TTHA, TTH, TYE, TYI, TYO, TYA",
   "1574 CANADIAN SYLLABICS NUNAVIK: HE, HI, HII, HO, HOO, HA, HAA, H",
   "157C CANADIAN SYLLABICS NUNAVUT H",
   "157D CANADIAN SYLLABICS: HK, QAAI, QI, QII, QO, QOO, QA, QAA, Q, TLHE, TLHI, TLHO, TLHA",
   "158A CANADIAN SYLLABICS WEST-CREE: RE, RI, RO, RA",
   "158E CANADIAN SYLLABICS: NGAAI, NGI, NGII, NGO, NGOO, NGA, NGAA, NG, NNG",
   "1597 CANADIAN SYLLABICS SAYISI: SHE, SHI, SHO, SHA",
   "159B CANADIAN SYLLABICS WOODS-CREE: THE, THI, THO, THA, TH",
   "15A0 CANADIAN SYLLABICS: LHI, LHII, LHO, LHOO, LHA, LHAA, LH",
   "15A7 CANADIAN SYLLABICS TH-CREE: THE, THI, THII, THO, THOO, THA, THAA, TH",
   "15AF CANADIAN SYLLABICS AIVILIK B",
   "15B0 CANADIAN SYLLABICS BLACKFOOT: E, I, O, A, WE, WI, WO, WA, NE, NI, NO, NA, KE, KI, KO, KA",
   "15C0 CANADIAN SYLLABICS SAYISI: HE, HI, HO, HA",
   "15C4 CANADIAN SYLLABICS CARRIER: GHU, GHO, GHE, GHEE, GHI, GHA, RU, RO, RE, REE, RI, RA, WU",
   "15D1 CANADIAN SYLLABICS CARRIER: WO, WE, WEE, WI, WA, HWU, HWO, HWE, HWEE, HWI, HWA, THU, THO",
   "15DE CANADIAN SYLLABICS CARRIER: THE, THEE, THI, THA, TTU, TTO, TTE, TTEE, TTI, TTA, PU, PO",
   "15EA CANADIAN SYLLABICS CARRIER: PE, PEE, PI, PA, P, GU, GO, GE, GEE, GI, GA, KHU, KHO, KHE",
   "15F8 CANADIAN SYLLABICS CARRIER: KHEE, KHI, KHA, KKU, KKO, KKE, KKEE, KKI, KKA, KK, NU, NO",
   "1604 CANADIAN SYLLABICS CARRIER: NE, NEE, NI, NA, MU, MO, ME, MEE, MI, MA, YU, YO, YE, YEE",
   "1612 CANADIAN SYLLABICS: CARRIER YI, CARRIER YA, CARRIER JU, SAYISI JU",
   "1616 CANADIAN SYLLABICS: CARRIER JO, CARRIER JE, CARRIER JEE, CARRIER JI, SAYISI JI",
   "161B CANADIAN SYLLABICS CARRIER: JA, JJU, JJO, JJE, JJEE, JJI, JJA, LU, LO, LE, LEE, LI, LA",
   "1628 CANADIAN SYLLABICS CARRIER: DLU, DLO, DLE, DLEE, DLI, DLA, LHU, LHO, LHE, LHEE, LHI, LHA",
   "1634 CANADIAN SYLLABICS CARRIER: TLHU, TLHO, TLHE, TLHEE, TLHI, TLHA, TLU, TLO, TLE, TLEE",
   "163E CANADIAN SYLLABICS CARRIER: TLI, TLA, ZU, ZO, ZE, ZEE, ZI, ZA, Z, INITIAL Z, DZU, DZO",
   "164A CANADIAN SYLLABICS CARRIER: DZE, DZEE, DZI, DZA, SU, SO, SE, SEE, SI, SA, SHU, SHO, SHE",
   "1657 CANADIAN SYLLABICS CARRIER: SHEE, SHI, SHA, SH, TSU, TSO, TSE, TSEE, TSI, TSA, CHU, CHO",
   "1663 CANADIAN SYLLABICS CARRIER: CHE, CHEE, CHI, CHA, TTSU, TTSO, TTSE, TTSEE, TTSI, TTSA",
   "166D CANADIAN SYLLABICS CHI SIGN",
   "166E CANADIAN SYLLABICS: FULL STOP, QAI, NGAI, NNGI, NNGII, NNGO, NNGOO, NNGA, NNGAA",
   "1677 CANADIAN SYLLABICS WOODS-CREE: THWEE, THWI, THWII, THWO, THWOO, THWA, THWAA, FINAL TH",
   "167F CANADIAN SYLLABICS BLACKFOOT W, OGHAM SPACE MARK",
   "1681 OGHAM LETTER: BEITH, LUIS, FEARN, SAIL, NION",
   "1686 OGHAM LETTER: UATH, DAIR, TINNE, COLL, CEIRT, MUIN, GORT, NGEADAL, STRAIF, RUIS, AILM",
   "1691 OGHAM LETTER: ONN, UR, EADHADH, IODHADH, EABHADH, OR, UILLEANN, IFIN, EAMHANCHOLL, PEITH",
   "169B OGHAM: FEATHER MARK, REVERSED FEATHER MARK",
   "16A0 RUNIC LETTER: FEHU FEOH FE F, V, URUZ UR U, YR, Y, W, THURISAZ THURS THORN",
   "16A7 RUNIC LETTER: ETH, ANSUZ A, OS O, AC A, AESC, LONG-BRANCH-OSS O, SHORT-TWIG-OSS O",
   "16AE RUNIC LETTER: O, OE, ON, RAIDO RAD REID R, KAUNA, CEN, KAUN K, G, ENG, GEBO GYFU G, GAR",
   "16B9 RUNIC LETTER: WUNJO WYNN W, HAGLAZ H, HAEGL H, LONG-BRANCH-HAGALL H, SHORT-TWIG-HAGALL H",
   "16BE RUNIC LETTER: NAUDIZ NYD NAUD N, SHORT-TWIG-NAUD N, DOTTED-N, ISAZ IS ISS I, E, JERAN J",
   "16C4 RUNIC LETTER: GER, LONG-BRANCH-AR AE, SHORT-TWIG-AR A, IWAZ EOH, PERTHO PEORTH P",
   "16C9 RUNIC LETTER: ALGIZ EOLHX, SOWILO S, SIGEL LONG-BRANCH-SOL S, SHORT-TWIG-SOL S",
   "16CD RUNIC LETTER: C, Z, TIWAZ TIR TYR T, SHORT-TWIG-TYR T, D, BERKANAN BEORC BJARKAN B",
   "16D3 RUNIC LETTER: SHORT-TWIG-BJARKAN B, DOTTED-P, OPEN-P, EHWAZ EH E",
   "16D7 RUNIC LETTER: MANNAZ MAN M, LONG-BRANCH-MADR M, SHORT-TWIG-MADR M, LAUKAZ LAGU LOGR L",
   "16DB RUNIC LETTER: DOTTED-L, INGWAZ, ING, DAGAZ DAEG D, OTHALAN ETHEL O, EAR, IOR, CWEORTH",
   "16E3 RUNIC LETTER: CALC, CEALC, STAN, LONG-BRANCH-YR, SHORT-TWIG-YR, ICELANDIC-YR, Q, X",
   "16EB RUNIC: SINGLE PUNCTUATION, MULTIPLE PUNCTUATION, CROSS PUNCTUATION",
   "16EE RUNIC: ARLAUG SYMBOL, TVIMADUR SYMBOL, BELGTHOR SYMBOL, LETTER K, LETTER SH, LETTER OO",
   "16F4 RUNIC LETTER FRANKS CASKET: OS, IS, EH, AC, AESC",
   "1700 TAGALOG LETTER: A, I, U, KA, GA, NGA, TA, DA, NA, PA, BA, MA, YA, RA, LA, WA, SA, HA",
   "1712 TAGALOG: VOWEL SIGN I, VOWEL SIGN U, SIGN VIRAMA, SIGN PAMUDPOD",
   "171F TAGALOG LETTER ARCHAIC RA",
   "1720 HANUNOO LETTER: A, I, U, KA, GA, NGA, TA, DA, NA, PA, BA, MA, YA, RA, LA, WA, SA, HA",
   "1732 HANUNOO: VOWEL SIGN I, VOWEL SIGN U, SIGN PAMUDPOD",
   "1735 PHILIPPINE: SINGLE PUNCTUATION, DOUBLE PUNCTUATION",
   "1740 BUHID LETTER: A, I, U, KA, GA, NGA, TA, DA, NA, PA, BA, MA, YA, RA, LA, WA, SA, HA",
   "1752 BUHID VOWEL SIGN: I, U",
   "1760 TAGBANWA LETTER: A, I, U, KA, GA, NGA, TA, DA, NA, PA, BA, MA, YA",
   "176E TAGBANWA LETTER: LA, WA, SA",
   "1772 TAGBANWA VOWEL SIGN: I, U",
   "1780 KHMER LETTER: KA, KHA",
   "1782 KHMER LETTER: KO, KHO, NGO, CA, CHA, CO, CHO, NYO, DA, TTHA, DO, TTHO, NNO, TA, THA, TO",
   "1792 KHMER LETTER: THO, NO, BA, PHA, PO, PHO, MO, YO, RO, LO, VO, SHA, SSO, SA, HA, LA, QA",
   "17A3 KHMER INDEPENDENT VOWEL: QAQ, QAA, QI, QII, QU, QUK, QUU, QUUV",
   "17AB KHMER INDEPENDENT VOWEL: RY, RYY, LY, LYY, QE, QAI, QOO TYPE ONE, QOO TYPE TWO, QAU",
   "17B4 KHMER VOWEL INHERENT: AQ, AA",
   "17B6 KHMER VOWEL SIGN: AA, I, II, Y, YY, U, UU, UA, OE, YA, IE, E, AE, AI, OO, AU",
   "17C6 KHMER SIGN: NIKAHIT, REAHMUK, YUUKALEAPINTU, MUUSIKATOAN, TRIISAP, BANTOC",
   "17CC KHMER SIGN: ROBAT, TOANDAKHIAT, KAKABAT, AHSDA, SAMYOK SANNYA, VIRIAM, COENG, BATHAMASAT",
   "17D4 KHMER SIGN: KHAN, BARIYOOSAN, CAMNUC PII KUUH, LEK TOO, BEYYAL, PHNAEK MUAN, KOOMUUT",
   "17DB KHMER: CURRENCY SYMBOL RIEL, SIGN AVAKRAHASANYA, SIGN ATTHACAN",
   "17E0 KHMER DIGIT: ZERO, ONE, TWO, THREE, FOUR, FIVE, SIX, SEVEN, EIGHT, NINE",
   "17F0 KHMER SYMBOL LEK ATTAK: SON, MUOY, PII, BEI, BUON, PRAM, PRAM-MUOY, PRAM-PII, PRAM-BEI",
   "17F9 KHMER SYMBOL LEK ATTAK PRAM-BUON",
   "1800 MONGOLIAN: BIRGA, ELLIPSIS, COMMA, FULL STOP, COLON, FOUR DOTS, TODO SOFT HYPHEN",
   "1807 MONGOLIAN: SIBE SYLLABLE BOUNDARY MARKER, MANCHU COMMA, MANCHU FULL STOP, NIRUGU",
   "180B MONGOLIAN FREE VARIATION SELECTOR: ONE, TWO, THREE",
   "180E MONGOLIAN: VOWEL SEPARATOR, FREE VARIATION SELECTOR FOUR",
   "1810 MONGOLIAN DIGIT: ZERO, ONE, TWO, THREE, FOUR, FIVE, SIX, SEVEN, EIGHT, NINE",
   "1820 MONGOLIAN LETTER A",
   "1821 MONGOLIAN LETTER: E, I, O, U, OE, UE, EE, NA, ANG, BA, PA, QA, GA, MA, LA, SA, SHA, TA",
   "1833 MONGOLIAN LETTER: DA, CHA, JA, YA, RA, WA, FA, KA, KHA, TSA, ZA, HAA, ZRA, LHA, ZHI, CHI",
   "1843 MONGOLIAN LETTER TODO: LONG VOWEL SIGN, E, I, O, U, OE, UE, ANG, BA, PA, QA",
   "184E MONGOLIAN LETTER TODO: GA, MA, TA, DA, CHA, JA, TSA, YA, WA, KA, GAA, HAA, JIA, NIA, DZA",
   "185D MONGOLIAN LETTER SIBE: E, I, IY, UE, U, ANG, KA",
   "1864 MONGOLIAN LETTER SIBE: GA, HA, PA, SHA, TA, DA, JA, FA, GAA, HAA, TSA, ZA, RAA, CHA, ZHA",
   "1873 MONGOLIAN LETTER MANCHU: I, KA, RA, FA, ZHA",
   "1878 MONGOLIAN LETTER CHA WITH TWO DOTS",
   "1880 MONGOLIAN LETTER ALI GALI: ANUSVARA ONE, VISARGA ONE, DAMARU, UBADAMA",
   "1884 MONGOLIAN LETTER ALI GALI: INVERTED UBADAMA, BALUDA, THREE BALUDA, A, I, KA, NGA",
   "188B MONGOLIAN LETTER ALI GALI: CA, TTA, TTHA, DDA, NNA, TA, DA, PA, PHA, SSA, ZHA, ZA, AH",
   "1898 MONGOLIAN LETTER TODO ALI GALI: TA, ZHA",
   "189A MONGOLIAN LETTER MANCHU ALI GALI: GHA, NGA, CA, JHA, TTA, DDHA, TA, DHA, SSA, CYA, ZHA",
   "18A5 MONGOLIAN LETTER: MANCHU ALI GALI ZA, ALI GALI HALF U, ALI GALI HALF YA",
   "18A8 MONGOLIAN LETTER: MANCHU ALI GALI BHA, ALI GALI DAGALGA, MANCHU ALI GALI LHA",
   "18B0 CANADIAN SYLLABICS: OY, AY, AAY, WAY, POY",
   "18B5 CANADIAN SYLLABICS: PAY, PWOY, TAY, KAY, KWAY, MAY, NOY, NAY, LAY, SOY, SAY, SHOY, SHAY",
   "18C2 CANADIAN SYLLABICS: SHWOY, YOY, YAY, RAY, NWI, OJIBWAY NWI, NWII, OJIBWAY NWII, NWO",
   "18CB CANADIAN SYLLABICS: OJIBWAY NWO, NWOO, OJIBWAY NWOO, RWEE, RWI, RWII, RWO, RWOO, RWA",
   "18D4 CANADIAN SYLLABICS OJIBWAY: P, T, K, C, M, N, S, SH",
   "18DC CANADIAN SYLLABICS: EASTERN W, WESTERN W, FINAL SMALL RING, FINAL RAISED DOT",
   "18E0 CANADIAN SYLLABICS: R-CREE RWE, WEST-CREE LOO, WEST-CREE LAA, THWE, THWA, TTHWE",
   "18E6 CANADIAN SYLLABICS: TTHOO, TTHAA, TLHWE, TLHOO, SAYISI SHWE, SAYISI SHOO, SAYISI HOO",
   "18ED CANADIAN SYLLABICS: CARRIER GWU, CARRIER DENE GEE, CARRIER GAA, CARRIER GWA, SAYISI JUU",
   "18F2 CANADIAN SYLLABICS: CARRIER JWA, BEAVER DENE L, BEAVER DENE R, CARRIER DENTAL S",
   "1900 LIMBU VOWEL-CARRIER LETTER",
   "1901 LIMBU LETTER: KA, KHA, GA, GHA, NGA, CA, CHA, JA, JHA, YAN, TA, THA, DA",
   "190E LIMBU LETTER: DHA, NA, PA, PHA, BA, BHA, MA, YA, RA, LA, WA, SHA, SSA, SA, HA, GYAN, TRA",
   "1920 LIMBU VOWEL SIGN: A, I, U, EE, AI, OO, AU, E, O",
   "1929 LIMBU SUBJOINED LETTER: YA, RA, WA",
   "1930 LIMBU SMALL LETTER: KA, NGA, ANUSVARA, TA, NA, PA, MA, RA, LA",
   "1939 LIMBU SIGN: MUKPHRENG, KEMPHRENG, SA-I",
   "1940 LIMBU SIGN LOO",
   "1944 LIMBU: EXCLAMATION MARK, QUESTION MARK",
   "1946 LIMBU DIGIT: ZERO, ONE, TWO, THREE, FOUR, FIVE, SIX, SEVEN, EIGHT, NINE",
   "1950 TAI LE LETTER: KA, XA, NGA, TSA, SA, YA, TA, THA, LA, PA, PHA",
   "195B TAI LE LETTER: MA, FA, VA, HA, QA, KHA, TSHA, NA, A, I, EE, EH, U, OO, O, UE, E, AUE, AI",
   "1970 TAI LE LETTER: TONE-2, TONE-3, TONE-4, TONE-5, TONE-6",
   "1980 NEW TAI LUE LETTER: HIGH QA, LOW QA, HIGH KA, HIGH XA, HIGH NGA, LOW KA, LOW XA, LOW NGA",
   "1988 NEW TAI LUE LETTER: HIGH TSA, HIGH SA, HIGH YA, LOW TSA, LOW SA, LOW YA, HIGH TA",
   "198F NEW TAI LUE LETTER: HIGH THA, HIGH NA, LOW TA, LOW THA, LOW NA, HIGH PA, HIGH PHA",
   "1996 NEW TAI LUE LETTER: HIGH MA, LOW PA, LOW PHA, LOW MA, HIGH FA, HIGH VA, HIGH LA",
   "199D NEW TAI LUE LETTER: LOW FA, LOW VA, LOW LA, HIGH HA, HIGH DA, HIGH BA, LOW HA, LOW DA",
   "19A5 NEW TAI LUE LETTER: LOW BA, HIGH KVA, HIGH XVA, LOW KVA, LOW XVA, HIGH SUA, LOW SUA",
   "19B0 NEW TAI LUE VOWEL SIGN VOWEL SHORTENER",
   "19B1 NEW TAI LUE VOWEL SIGN: AA, II, U, UU, E, AE, O, OA, UE, AY, AAY, UY, OY, OAY, UEY, IY",
   "19C1 NEW TAI LUE LETTER FINAL: V, NG, N, M, K, D, B",
   "19C8 NEW TAI LUE TONE: MARK-1, MARK-2",
   "19D0 NEW TAI LUE DIGIT: ZERO, ONE, TWO, THREE, FOUR, FIVE, SIX, SEVEN, EIGHT, NINE",
   "19DA NEW TAI LUE THAM DIGIT ONE",
   "19DE NEW TAI LUE SIGN: LAE, LAEV",
   "19E0 KHMER SYMBOL: PATHAMASAT, MUOY KOET, PII KOET, BEI KOET, BUON KOET",
   "19E5 KHMER SYMBOL: PRAM KOET, PRAM-MUOY KOET, PRAM-PII KOET, PRAM-BEI KOET, PRAM-BUON KOET",
   "19EA KHMER SYMBOL: DAP KOET, DAP-MUOY KOET, DAP-PII KOET, DAP-BEI KOET, DAP-BUON KOET",
   "19EF KHMER SYMBOL: DAP-PRAM KOET, TUTEYASAT, MUOY ROC, PII ROC, BEI ROC, BUON ROC, PRAM ROC",
   "19F6 KHMER SYMBOL: PRAM-MUOY ROC, PRAM-PII ROC, PRAM-BEI ROC, PRAM-BUON ROC, DAP ROC",
   "19FB KHMER SYMBOL: DAP-MUOY ROC, DAP-PII ROC, DAP-BEI ROC, DAP-BUON ROC, DAP-PRAM ROC",
   "1A00 BUGINESE LETTER: KA, GA, NGA, NGKA, PA, BA",
   "1A06 BUGINESE LETTER: MA, MPA, TA, DA, NA, NRA, CA, JA, NYA, NYCA, YA, RA, LA, VA, SA, A, HA",
   "1A17 BUGINESE VOWEL SIGN: I, U, E, O, AE",
   "1A1E BUGINESE: PALLAWA, END OF SECTION",
   "1A20 TAI THAM LETTER HIGH: KA, KHA, KXA",
   "1A23 TAI THAM LETTER: LOW KA, LOW KXA, LOW KHA, NGA, HIGH CA, HIGH CHA, LOW CA, LOW SA",
   "1A2B TAI THAM LETTER: LOW CHA, NYA, RATA, HIGH RATHA, DA, LOW RATHA, RANA, HIGH TA, HIGH THA",
   "1A34 TAI THAM LETTER: LOW TA, LOW THA, NA, BA, HIGH PA, HIGH PHA, HIGH FA, LOW PA, LOW FA",
   "1A3D TAI THAM LETTER: LOW PHA, MA, LOW YA, HIGH YA, RA, RUE, LA, LUE, WA, HIGH SHA, HIGH SSA",
   "1A48 TAI THAM LETTER: HIGH SA, HIGH HA, LLA, A, LOW HA, I, II, U, UU, EE, OO, LAE, GREAT SA",
   "1A55 TAI THAM CONSONANT SIGN: MEDIAL RA, MEDIAL LA, LA TANG LAI",
   "1A58 TAI THAM SIGN MAI KANG LAI",
   "1A59 TAI THAM CONSONANT SIGN: FINAL NGA, LOW PA, HIGH RATHA OR LOW PA, MA, BA, SA",
   "1A60 TAI THAM SIGN SAKOT",
   "1A61 TAI THAM VOWEL SIGN: A, MAI SAT, AA, TALL AA, I, II",
   "1A67 TAI THAM VOWEL SIGN: UE, UUE, U, UU, O, OA BELOW, OY, E, AE, OO, AI, THAM AI, OA ABOVE",
   "1A74 TAI THAM SIGN: MAI KANG, TONE-1, TONE-2, KHUEN TONE-3",
   "1A78 TAI THAM SIGN: KHUEN TONE-4, KHUEN TONE-5, RA HAAM, MAI SAM, KHUEN-LUE KARAN",
   "1A7F TAI THAM COMBINING CRYPTOGRAMMIC DOT",
   "1A80 TAI THAM HORA DIGIT: ZERO, ONE, TWO, THREE, FOUR, FIVE, SIX, SEVEN, EIGHT, NINE",
   "1A90 TAI THAM THAM DIGIT: ZERO, ONE, TWO, THREE, FOUR, FIVE, SIX, SEVEN, EIGHT, NINE",
   "1AA0 TAI THAM SIGN: WIANG, WIANGWAAK, SAWAN, KEOW, HOY, DOKMAI, REVERSED ROTATED RANA",
   "1AA7 TAI THAM SIGN: MAI YAMOK, KAAN, KAANKUU, SATKAAN, SATKAANKUU, HANG, CAANG",
   "1AB0 COMBINING: DOUBLED CIRCUMFLEX ACCENT, DIAERESIS-RING",
   "1AB2 COMBINING: INFINITY, DOWNWARDS ARROW, TRIPLE DOT, X-X BELOW, WIGGLY LINE BELOW",
   "1AB7 COMBINING: OPEN MARK BELOW, DOUBLE OPEN MARK BELOW, LIGHT CENTRALIZATION STROKE BELOW",
   "1ABA COMBINING: STRONG CENTRALIZATION STROKE BELOW, PARENTHESES ABOVE",
   "1ABC COMBINING: DOUBLE PARENTHESES ABOVE, PARENTHESES BELOW, PARENTHESES OVERLAY",
   "1ABF COMBINING LATIN SMALL LETTER: W BELOW, TURNED W BELOW",
   "1AC1 COMBINING LEFT PARENTHESIS ABOVE LEFT",
   "1AC2 COMBINING: RIGHT PARENTHESIS ABOVE RIGHT, LEFT PARENTHESIS BELOW LEFT",
   "1AC4 COMBINING: RIGHT PARENTHESIS BELOW RIGHT, SQUARE BRACKETS ABOVE",
   "1AC6 COMBINING: NUMBER SIGN ABOVE, INVERTED DOUBLE ARCH ABOVE, PLUS SIGN ABOVE",
   "1AC9 COMBINING: DOUBLE PLUS SIGN ABOVE, DOUBLE PLUS SIGN BELOW, TRIPLE ACUTE ACCENT",
   "1ACC COMBINING LATIN SMALL LETTER INSULAR: G, R, T",
   "1B00 BALINESE SIGN: ULU RICEM, ULU CANDRA, CECEK, SURANG, BISAH",
   "1B05 BALINESE LETTER: AKARA, AKARA TEDUNG, IKARA, IKARA TEDUNG, UKARA, UKARA TEDUNG",
   "1B0B BALINESE LETTER: RA REPA, RA REPA TEDUNG, LA LENGA, LA LENGA TEDUNG, EKARA, AIKARA",
   "1B11 BALINESE LETTER: OKARA, OKARA TEDUNG, KA, KA MAHAPRANA, GA, GA GORA, NGA, CA, CA LACA",
   "1B1A BALINESE LETTER: JA, JA JERA, NYA, TA LATIK, TA MURDA MAHAPRANA, DA MURDA ALPAPRANA",
   "1B20 BALINESE LETTER: DA MURDA MAHAPRANA, NA RAMBAT, TA, TA TAWA, DA, DA MADU, NA, PA",
   "1B28 BALINESE LETTER: PA KAPAL, BA, BA KEMBANG, MA, YA, RA, LA, WA, SA SAGA, SA SAPA, SA, HA",
   "1B34 BALINESE SIGN REREKAN",
   "1B35 BALINESE VOWEL SIGN: TEDUNG, ULU, ULU SARI, SUKU, SUKU ILUT",
   "1B3A BALINESE VOWEL SIGN: RA REPA, RA REPA TEDUNG, LA LENGA, LA LENGA TEDUNG, TALING",
   "1B3F BALINESE VOWEL SIGN: TALING REPA, TALING TEDUNG, TALING REPA TEDUNG, PEPET, PEPET TEDUNG",
   "1B44 BALINESE: ADEG ADEG, LETTER KAF SASAK, LETTER KHOT SASAK",
   "1B47 BALINESE LETTER: TZIR SASAK, EF SASAK, VE SASAK, ZAL SASAK, ASYURA SASAK, ARCHAIC JNYA",
   "1B50 BALINESE DIGIT: ZERO, ONE, TWO, THREE, FOUR, FIVE, SIX, SEVEN, EIGHT, NINE",
   "1B5A BALINESE: PANTI, PAMADA, WINDU, CARIK PAMUNGKAH, CARIK SIKI, CARIK PAREREN, PAMENENG",
   "1B61 BALINESE MUSICAL SYMBOL: DONG, DENG, DUNG, DANG, DANG SURANG, DING, DAENG, DEUNG, DAING",
   "1B6A BALINESE MUSICAL SYMBOL DANG GEDE",
   "1B6B BALINESE MUSICAL SYMBOL COMBINING: TEGEH, ENDEP, KEMPUL, KEMPLI, JEGOGAN",
   "1B70 BALINESE MUSICAL SYMBOL COMBINING: KEMPUL WITH JEGOGAN, KEMPLI WITH JEGOGAN, BENDE, GONG",
   "1B74 BALINESE MUSICAL SYMBOL RIGHT-HAND: OPEN DUG, OPEN DAG, CLOSED TUK, CLOSED TAK",
   "1B78 BALINESE MUSICAL SYMBOL LEFT-HAND: OPEN PANG, OPEN PUNG, CLOSED PLAK, CLOSED PLUK",
   "1B7C BALINESE: MUSICAL SYMBOL LEFT-HAND OPEN PING, PANTI LANTANG, PAMADA LANTANG",
   "1B80 SUNDANESE SIGN: PANYECEK, PANGLAYAR, PANGWISAD",
   "1B83 SUNDANESE LETTER: A, I, U, AE, O, E, EU, KA, QA, GA, NGA, CA, JA",
   "1B90 SUNDANESE LETTER: ZA, NYA, TA, DA, NA, PA, FA, VA, BA, MA, YA, RA, LA, WA, SA, XA, HA",
   "1BA1 SUNDANESE CONSONANT SIGN: PAMINGKAL, PANYAKRA, PANYIKU",
   "1BA4 SUNDANESE VOWEL SIGN: PANGHULU, PANYUKU, PANAELAENG, PANOLONG, PAMEPET, PANEULEUNG",
   "1BAA SUNDANESE SIGN: PAMAAEH, VIRAMA",
   "1BAC SUNDANESE CONSONANT SIGN PASANGAN: MA, WA",
   "1BAE SUNDANESE LETTER: KHA, SYA",
   "1BB0 SUNDANESE DIGIT: ZERO, ONE, TWO, THREE, FOUR, FIVE, SIX, SEVEN, EIGHT, NINE",
   "1BBA SUNDANESE AVAGRAHA",
   "1BBB SUNDANESE LETTER: REU, LEU, BHA, FINAL K, FINAL M",
   "1BC0 BATAK LETTER: A, SIMALUNGUN A, HA, SIMALUNGUN HA",
   "1BC4 BATAK LETTER: MANDAILING HA, BA, KARO BA, PA, SIMALUNGUN PA, NA, MANDAILING NA, WA",
   "1BCC BATAK LETTER: SIMALUNGUN WA, PAKPAK WA, GA, SIMALUNGUN GA, JA, DA, RA, SIMALUNGUN RA, MA",
   "1BD5 BATAK LETTER: SIMALUNGUN MA, SOUTHERN TA, NORTHERN TA, SA, SIMALUNGUN SA, MANDAILING SA",
   "1BDB BATAK LETTER: YA, SIMALUNGUN YA, NGA, LA, SIMALUNGUN LA, NYA, CA, NDA, MBA, I, U",
   "1BE6 BATAK SIGN TOMPI",
   "1BE7 BATAK VOWEL SIGN: E, PAKPAK E, EE, I, KARO I, O, KARO O, U, U FOR SIMALUNGUN SA",
   "1BF0 BATAK: CONSONANT SIGN NG, CONSONANT SIGN H, PANGOLAT, PANONGONAN",
   "1BFC BATAK SYMBOL BINDU: NA METEK, PINARBORAS, JUDUL, PANGOLAT",
   "1C00 LEPCHA LETTER: KA, KLA, KHA",
   "1C03 LEPCHA LETTER: GA, GLA, NGA, CA, CHA, JA, NYA, TA, THA, DA, NA, PA, PLA, PHA, FA, FLA",
   "1C13 LEPCHA LETTER: BA, BLA, MA, MLA, TSA, TSHA, DZA, YA, RA, LA, HA, HLA, VA, SA, SHA, WA, A",
   "1C24 LEPCHA SUBJOINED LETTER: YA, RA",
   "1C26 LEPCHA VOWEL SIGN: AA, I, O, OO, U, UU, E",
   "1C2D LEPCHA CONSONANT SIGN: K, M, L, N, P, R, T, NYIN-DO, KANG",
   "1C36 LEPCHA SIGN: RAN, NUKTA",
   "1C3B LEPCHA PUNCTUATION: TA-ROL, NYET THYOOM TA-ROL, CER-WA, TSHOOK CER-WA, TSHOOK",
   "1C40 LEPCHA DIGIT: ZERO, ONE, TWO, THREE, FOUR, FIVE, SIX, SEVEN, EIGHT, NINE",
   "1C4D LEPCHA LETTER: TTA, TTHA, DDA",
   "1C50 OL CHIKI DIGIT: ZERO, ONE, TWO, THREE, FOUR, FIVE, SIX, SEVEN, EIGHT, NINE",
   "1C5A OL CHIKI LETTER: LA, AT, AG, ANG, AL, LAA, AAK, AAJ, AAM, AAW, LI, IS, IH",
   "1C67 OL CHIKI LETTER: INY, IR, LU, UC, UD, UNN, UY, LE, EP, EDD, EN, ERR, LO, OTT, OB, OV, OH",
   "1C78 OL CHIKI: MU TTUDDAG, GAAHLAA TTUDDAAG, MU-GAAHLAA TTUDDAAG, RELAA, PHAARKAA, AHAD",
   "1C7E OL CHIKI PUNCTUATION: MUCAAD, DOUBLE MUCAAD",
   "1C80 CYRILLIC SMALL LETTER: ROUNDED VE, LONG-LEGGED DE, NARROW O, WIDE ES",
   "1C84 CYRILLIC SMALL LETTER: TALL TE, THREE-LEGGED TE, TALL HARD SIGN, TALL YAT, UNBLENDED UK",
   "1C90 GEORGIAN MTAVRULI CAPITAL LETTER: AN, BAN, GAN, DON, EN, VIN, ZEN, TAN, IN, KAN, LAS",
   "1C9B GEORGIAN MTAVRULI CAPITAL LETTER: MAN, NAR, ON, PAR, ZHAR, RAE, SAN, TAR, UN, PHAR, KHAR",
   "1CA6 GEORGIAN MTAVRULI CAPITAL LETTER GHAN",
   "1CA7 GEORGIAN MTAVRULI CAPITAL LETTER: QAR, SHIN, CHIN, CAN, JIL, CIL, CHAR, XAN, JHAN, HAE",
   "1CB1 GEORGIAN MTAVRULI CAPITAL LETTER: HE, HIE, WE, HAR, HOE, FI, YN, ELIFI, TURNED GAN, AIN",
   "1CBD GEORGIAN MTAVRULI CAPITAL LETTER: AEN, HARD SIGN, LABIAL SIGN",
   "1CC0 SUNDANESE PUNCTUATION BINDU: SURYA, PANGLONG, PURNAMA",
   "1CC3 SUNDANESE PUNCTUATION BINDU: CAKRA, LEU SATANGA, KA SATANGA, DA SATANGA, BA SATANGA",
   "1CD0 VEDIC: TONE KARSHANA, TONE SHARA, TONE PRENKHA, SIGN NIHSHVASA",
   "1CD4 VEDIC: SIGN YAJURVEDIC MIDLINE SVARITA, TONE YAJURVEDIC AGGRAVATED INDEPENDENT SVARITA",
   "1CD6 VEDIC TONE YAJURVEDIC: INDEPENDENT SVARITA, KATHAKA INDEPENDENT SVARITA",
   "1CD8 VEDIC TONE: CANDRA BELOW, YAJURVEDIC KATHAKA INDEPENDENT SVARITA SCHROEDER",
   "1CDA VEDIC TONE: DOUBLE SVARITA, TRIPLE SVARITA, KATHAKA ANUDATTA, DOT BELOW",
   "1CDE VEDIC TONE: TWO DOTS BELOW, THREE DOTS BELOW, RIGVEDIC KASHMIRI INDEPENDENT SVARITA",
   "1CE1 VEDIC: TONE ATHARVAVEDIC INDEPENDENT SVARITA, SIGN VISARGA SVARITA, SIGN VISARGA UDATTA",
   "1CE4 VEDIC SIGN: REVERSED VISARGA UDATTA, VISARGA ANUDATTA, REVERSED VISARGA ANUDATTA",
   "1CE7 VEDIC SIGN VISARGA: UDATTA WITH TAIL, ANUDATTA WITH TAIL",
   "1CE9 VEDIC SIGN ANUSVARA: ANTARGOMUKHA, BAHIRGOMUKHA, VAMAGOMUKHA, VAMAGOMUKHA WITH TAIL",
   "1CED VEDIC SIGN: TIRYAK, HEXIFORM LONG ANUSVARA, LONG ANUSVARA, RTHANG LONG ANUSVARA",
   "1CF1 VEDIC SIGN: ANUSVARA UBHAYATO MUKHA, ARDHAVISARGA, ROTATED ARDHAVISARGA",
   "1CF4 VEDIC: TONE CANDRA ABOVE, SIGN JIHVAMULIYA, SIGN UPADHMANIYA, SIGN ATIKRAMA",
   "1CF8 VEDIC: TONE RING ABOVE, TONE DOUBLE RING ABOVE, SIGN DOUBLE ANUSVARA ANTARGOMUKHA",
   "1D00 LATIN LETTER SMALL CAPITAL: A, AE",
   "1D02 LATIN SMALL LETTER TURNED AE",
   "1D03 LATIN LETTER SMALL CAPITAL: BARRED B, C, D, ETH, E",
   "1D08 LATIN SMALL LETTER TURNED: OPEN E, I",
   "1D0A LATIN LETTER SMALL CAPITAL: J, K, L WITH STROKE, M, REVERSED N, O, OPEN O",
   "1D11 LATIN SMALL LETTER SIDEWAYS: O, OPEN O, O WITH STROKE",
   "1D14 LATIN: SMALL LETTER TURNED OE, LETTER SMALL CAPITAL OU",
   "1D16 LATIN SMALL LETTER: TOP HALF O, BOTTOM HALF O",
   "1D18 LATIN LETTER SMALL CAPITAL: P, REVERSED R, TURNED R, T, U",
   "1D1D LATIN SMALL LETTER SIDEWAYS: U, DIAERESIZED U, TURNED M",
   "1D20 LATIN LETTER SMALL CAPITAL: V, W, Z, EZH",
   "1D24 LATIN LETTER: VOICED LARYNGEAL SPIRANT, AIN",
   "1D26 GREEK LETTER SMALL CAPITAL: GAMMA, LAMDA, PI, RHO, PSI",
   "1D2B CYRILLIC LETTER SMALL CAPITAL EL",
   "1D2C MODIFIER LETTER CAPITAL: A, AE, B, BARRED B, D, E, REVERSED E",
   "1D33 MODIFIER LETTER CAPITAL: G, H, I, J, K, L, M, N, REVERSED N, O, OU, P, R, T, U, W",
   "1D43 MODIFIER LETTER SMALL: A, TURNED A, ALPHA",
   "1D46 MODIFIER LETTER SMALL: TURNED AE, B, D, E, SCHWA, OPEN E, TURNED OPEN E, G, TURNED I, K",
   "1D50 MODIFIER LETTER SMALL: M, ENG, O, OPEN O, TOP HALF O, BOTTOM HALF O, P, T, U, SIDEWAYS U",
   "1D5A MODIFIER LETTER SMALL: TURNED M, V, AIN, BETA, GREEK GAMMA, DELTA, GREEK PHI, CHI",
   "1D62 LATIN SUBSCRIPT SMALL LETTER: I, R, U, V",
   "1D66 GREEK SUBSCRIPT SMALL LETTER: BETA, GAMMA, RHO, PHI, CHI",
   "1D6B LATIN SMALL LETTER: UE, B WITH MIDDLE TILDE, D WITH MIDDLE TILDE, F WITH MIDDLE TILDE",
   "1D6F LATIN SMALL LETTER: M WITH MIDDLE TILDE, N WITH MIDDLE TILDE, P WITH MIDDLE TILDE",
   "1D72 LATIN SMALL LETTER R WITH: MIDDLE TILDE, FISHHOOK AND MIDDLE TILDE",
   "1D74 LATIN SMALL LETTER: S WITH MIDDLE TILDE, T WITH MIDDLE TILDE, Z WITH MIDDLE TILDE",
   "1D77 LATIN SMALL LETTER TURNED G, MODIFIER LETTER CYRILLIC EN",
   "1D79 LATIN SMALL LETTER: INSULAR G, TH WITH STRIKETHROUGH",
   "1D7B LATIN SMALL: CAPITAL LETTER I WITH STROKE, LETTER IOTA WITH STROKE, LETTER P WITH STROKE",
   "1D7E LATIN SMALL: CAPITAL LETTER U WITH STROKE, LETTER UPSILON WITH STROKE",
   "1D80 LATIN SMALL LETTER: B WITH PALATAL HOOK, D WITH PALATAL HOOK, F WITH PALATAL HOOK",
   "1D83 LATIN SMALL LETTER: G WITH PALATAL HOOK, K WITH PALATAL HOOK, L WITH PALATAL HOOK",
   "1D86 LATIN SMALL LETTER: M WITH PALATAL HOOK, N WITH PALATAL HOOK, P WITH PALATAL HOOK",
   "1D89 LATIN SMALL LETTER: R WITH PALATAL HOOK, S WITH PALATAL HOOK, ESH WITH PALATAL HOOK",
   "1D8C LATIN SMALL LETTER: V WITH PALATAL HOOK, X WITH PALATAL HOOK, Z WITH PALATAL HOOK",
   "1D8F LATIN SMALL LETTER: A WITH RETROFLEX HOOK, ALPHA WITH RETROFLEX HOOK",
   "1D91 LATIN SMALL LETTER: D WITH HOOK AND TAIL, E WITH RETROFLEX HOOK",
   "1D93 LATIN SMALL LETTER: OPEN E WITH RETROFLEX HOOK, REVERSED OPEN E WITH RETROFLEX HOOK",
   "1D95 LATIN SMALL LETTER: SCHWA WITH RETROFLEX HOOK, I WITH RETROFLEX HOOK",
   "1D97 LATIN SMALL LETTER: OPEN O WITH RETROFLEX HOOK, ESH WITH RETROFLEX HOOK",
   "1D99 LATIN SMALL LETTER: U WITH RETROFLEX HOOK, EZH WITH RETROFLEX HOOK",
   "1D9B MODIFIER LETTER SMALL: TURNED ALPHA, C, C WITH CURL, ETH, REVERSED OPEN E",
   "1DA0 MODIFIER LETTER SMALL: F, DOTLESS J WITH STROKE, SCRIPT G, TURNED H, I WITH STROKE, IOTA",
   "1DA6 MODIFIER LETTER SMALL CAPITAL: I, I WITH STROKE",
   "1DA8 MODIFIER LETTER SMALL: J WITH CROSSED-TAIL, L WITH RETROFLEX HOOK, L WITH PALATAL HOOK",
   "1DAB MODIFIER LETTER SMALL: CAPITAL L, M WITH HOOK, TURNED M WITH LONG LEG, N WITH LEFT HOOK",
   "1DAF MODIFIER LETTER SMALL: N WITH RETROFLEX HOOK, CAPITAL N, BARRED O, PHI, S WITH HOOK",
   "1DB4 MODIFIER LETTER SMALL: ESH, T WITH PALATAL HOOK, U BAR, UPSILON, CAPITAL U, V WITH HOOK",
   "1DBA MODIFIER LETTER SMALL: TURNED V, Z, Z WITH RETROFLEX HOOK, Z WITH CURL, EZH, THETA",
   "1DC0 COMBINING: DOTTED GRAVE ACCENT, DOTTED ACUTE ACCENT, SNAKE BELOW, SUSPENSION MARK",
   "1DC4 COMBINING: MACRON-ACUTE, GRAVE-MACRON, MACRON-GRAVE, ACUTE-MACRON, GRAVE-ACUTE-GRAVE",
   "1DC9 COMBINING: ACUTE-GRAVE-ACUTE, LATIN SMALL LETTER R BELOW, BREVE-MACRON",
   "1DCC COMBINING: MACRON-BREVE, DOUBLE CIRCUMFLEX ABOVE, OGONEK ABOVE, ZIGZAG BELOW",
   "1DD0 COMBINING: IS BELOW, UR ABOVE, US ABOVE, LATIN SMALL LETTER FLATTENED OPEN A ABOVE",
   "1DD4 COMBINING LATIN SMALL LETTER: AE, AO, AV, C CEDILLA, INSULAR D, ETH, G",
   "1DDB COMBINING LATIN: LETTER SMALL CAPITAL G, SMALL LETTER K, SMALL LETTER L",
   "1DDE COMBINING LATIN LETTER SMALL CAPITAL: L, M",
   "1DE0 COMBINING LATIN: SMALL LETTER N, LETTER SMALL CAPITAL N, LETTER SMALL CAPITAL R",
   "1DE3 COMBINING LATIN SMALL LETTER: R ROTUNDA, S, LONG S, Z, ALPHA, B, BETA, SCHWA, F",
   "1DEC COMBINING LATIN SMALL LETTER L WITH DOUBLE MIDDLE TILDE",
   "1DED COMBINING LATIN SMALL LETTER O WITH LIGHT CENTRALIZATION STROKE",
   "1DEE COMBINING LATIN SMALL LETTER: P, ESH, U WITH LIGHT CENTRALIZATION STROKE",
   "1DF1 COMBINING LATIN SMALL LETTER: W, A WITH DIAERESIS, O WITH DIAERESIS, U WITH DIAERESIS",
   "1DF5 COMBINING: UP TACK ABOVE, KAVYKA ABOVE RIGHT, KAVYKA ABOVE LEFT",
   "1DF8 COMBINING: DOT ABOVE LEFT, WIDE INVERTED BRIDGE BELOW, DOT BELOW LEFT, DELETION MARK",
   "1DFC COMBINING: DOUBLE INVERTED BREVE BELOW, ALMOST EQUAL TO BELOW, LEFT ARROWHEAD ABOVE",
   "1DFF COMBINING RIGHT ARROWHEAD AND DOWN ARROWHEAD BELOW",
   "1E00 LATIN CAPITAL LETTER A WITH RING BELOW",
   "1E01 LATIN: SMALL LETTER A WITH RING BELOW, CAPITAL LETTER B WITH DOT ABOVE",
   "1E03 LATIN: SMALL LETTER B WITH DOT ABOVE, CAPITAL LETTER B WITH DOT BELOW",
   "1E05 LATIN: SMALL LETTER B WITH DOT BELOW, CAPITAL LETTER B WITH LINE BELOW",
   "1E07 LATIN: SMALL LETTER B WITH LINE BELOW, CAPITAL LETTER C WITH CEDILLA AND ACUTE",
   "1E09 LATIN: SMALL LETTER C WITH CEDILLA AND ACUTE, CAPITAL LETTER D WITH DOT ABOVE",
   "1E0B LATIN: SMALL LETTER D WITH DOT ABOVE, CAPITAL LETTER D WITH DOT BELOW",
   "1E0D LATIN: SMALL LETTER D WITH DOT BELOW, CAPITAL LETTER D WITH LINE BELOW",
   "1E0F LATIN: SMALL LETTER D WITH LINE BELOW, CAPITAL LETTER D WITH CEDILLA",
   "1E11 LATIN: SMALL LETTER D WITH CEDILLA, CAPITAL LETTER D WITH CIRCUMFLEX BELOW",
   "1E13 LATIN: SMALL LETTER D WITH CIRCUMFLEX BELOW, CAPITAL LETTER E WITH MACRON AND GRAVE",
   "1E15 LATIN: SMALL LETTER E WITH MACRON AND GRAVE, CAPITAL LETTER E WITH MACRON AND ACUTE",
   "1E17 LATIN: SMALL LETTER E WITH MACRON AND ACUTE, CAPITAL LETTER E WITH CIRCUMFLEX BELOW",
   "1E19 LATIN: SMALL LETTER E WITH CIRCUMFLEX BELOW, CAPITAL LETTER E WITH TILDE BELOW",
   "1E1B LATIN: SMALL LETTER E WITH TILDE BELOW, CAPITAL LETTER E WITH CEDILLA AND BREVE",
   "1E1D LATIN: SMALL LETTER E WITH CEDILLA AND BREVE, CAPITAL LETTER F WITH DOT ABOVE",
   "1E1F LATIN: SMALL LETTER F WITH DOT ABOVE, CAPITAL LETTER G WITH MACRON",
   "1E21 LATIN: SMALL LETTER G WITH MACRON, CAPITAL LETTER H WITH DOT ABOVE",
   "1E23 LATIN: SMALL LETTER H WITH DOT ABOVE, CAPITAL LETTER H WITH DOT BELOW",
   "1E25 LATIN: SMALL LETTER H WITH DOT BELOW, CAPITAL LETTER H WITH DIAERESIS",
   "1E27 LATIN: SMALL LETTER H WITH DIAERESIS, CAPITAL LETTER H WITH CEDILLA",
   "1E29 LATIN: SMALL LETTER H WITH CEDILLA, CAPITAL LETTER H WITH BREVE BELOW",
   "1E2B LATIN: SMALL LETTER H WITH BREVE BELOW, CAPITAL LETTER I WITH TILDE BELOW",
   "1E2D LATIN: SMALL LETTER I WITH TILDE BELOW, CAPITAL LETTER I WITH DIAERESIS AND ACUTE",
   "1E2F LATIN: SMALL LETTER I WITH DIAERESIS AND ACUTE, CAPITAL LETTER K WITH ACUTE",
   "1E31 LATIN: SMALL LETTER K WITH ACUTE, CAPITAL LETTER K WITH DOT BELOW",
   "1E33 LATIN: SMALL LETTER K WITH DOT BELOW, CAPITAL LETTER K WITH LINE BELOW",
   "1E35 LATIN: SMALL LETTER K WITH LINE BELOW, CAPITAL LETTER L WITH DOT BELOW",
   "1E37 LATIN: SMALL LETTER L WITH DOT BELOW, CAPITAL LETTER L WITH DOT BELOW AND MACRON",
   "1E39 LATIN: SMALL LETTER L WITH DOT BELOW AND MACRON, CAPITAL LETTER L WITH LINE BELOW",
   "1E3B LATIN: SMALL LETTER L WITH LINE BELOW, CAPITAL LETTER L WITH CIRCUMFLEX BELOW",
   "1E3D LATIN: SMALL LETTER L WITH CIRCUMFLEX BELOW, CAPITAL LETTER M WITH ACUTE",
   "1E3F LATIN: SMALL LETTER M WITH ACUTE, CAPITAL LETTER M WITH DOT ABOVE",
   "1E41 LATIN: SMALL LETTER M WITH DOT ABOVE, CAPITAL LETTER M WITH DOT BELOW",
   "1E43 LATIN: SMALL LETTER M WITH DOT BELOW, CAPITAL LETTER N WITH DOT ABOVE",
   "1E45 LATIN: SMALL LETTER N WITH DOT ABOVE, CAPITAL LETTER N WITH DOT BELOW",
   "1E47 LATIN: SMALL LETTER N WITH DOT BELOW, CAPITAL LETTER N WITH LINE BELOW",
   "1E49 LATIN: SMALL LETTER N WITH LINE BELOW, CAPITAL LETTER N WITH CIRCUMFLEX BELOW",
   "1E4B LATIN: SMALL LETTER N WITH CIRCUMFLEX BELOW, CAPITAL LETTER O WITH TILDE AND ACUTE",
   "1E4D LATIN: SMALL LETTER O WITH TILDE AND ACUTE, CAPITAL LETTER O WITH TILDE AND DIAERESIS",
   "1E4F LATIN: SMALL LETTER O WITH TILDE AND DIAERESIS, CAPITAL LETTER O WITH MACRON AND GRAVE",
   "1E51 LATIN: SMALL LETTER O WITH MACRON AND GRAVE, CAPITAL LETTER O WITH MACRON AND ACUTE",
   "1E53 LATIN: SMALL LETTER O WITH MACRON AND ACUTE, CAPITAL LETTER P WITH ACUTE",
   "1E55 LATIN: SMALL LETTER P WITH ACUTE, CAPITAL LETTER P WITH DOT ABOVE",
   "1E57 LATIN: SMALL LETTER P WITH DOT ABOVE, CAPITAL LETTER R WITH DOT ABOVE",
   "1E59 LATIN: SMALL LETTER R WITH DOT ABOVE, CAPITAL LETTER R WITH DOT BELOW",
   "1E5B LATIN: SMALL LETTER R WITH DOT BELOW, CAPITAL LETTER R WITH DOT BELOW AND MACRON",
   "1E5D LATIN: SMALL LETTER R WITH DOT BELOW AND MACRON, CAPITAL LETTER R WITH LINE BELOW",
   "1E5F LATIN: SMALL LETTER R WITH LINE BELOW, CAPITAL LETTER S WITH DOT ABOVE",
   "1E61 LATIN: SMALL LETTER S WITH DOT ABOVE, CAPITAL LETTER S WITH DOT BELOW",
   "1E63 LATIN: SMALL LETTER S WITH DOT BELOW, CAPITAL LETTER S WITH ACUTE AND DOT ABOVE",
   "1E65 LATIN SMALL LETTER S WITH ACUTE AND DOT ABOVE",
   "1E66 LATIN CAPITAL LETTER S WITH CARON AND DOT ABOVE",
   "1E67 LATIN SMALL LETTER S WITH CARON AND DOT ABOVE",
   "1E68 LATIN CAPITAL LETTER S WITH DOT BELOW AND DOT ABOVE",
   "1E69 LATIN: SMALL LETTER S WITH DOT BELOW AND DOT ABOVE, CAPITAL LETTER T WITH DOT ABOVE",
   "1E6B LATIN: SMALL LETTER T WITH DOT ABOVE, CAPITAL LETTER T WITH DOT BELOW",
   "1E6D LATIN: SMALL LETTER T WITH DOT BELOW, CAPITAL LETTER T WITH LINE BELOW",
   "1E6F LATIN: SMALL LETTER T WITH LINE BELOW, CAPITAL LETTER T WITH CIRCUMFLEX BELOW",
   "1E71 LATIN: SMALL LETTER T WITH CIRCUMFLEX BELOW, CAPITAL LETTER U WITH DIAERESIS BELOW",
   "1E73 LATIN: SMALL LETTER U WITH DIAERESIS BELOW, CAPITAL LETTER U WITH TILDE BELOW",
   "1E75 LATIN: SMALL LETTER U WITH TILDE BELOW, CAPITAL LETTER U WITH CIRCUMFLEX BELOW",
   "1E77 LATIN: SMALL LETTER U WITH CIRCUMFLEX BELOW, CAPITAL LETTER U WITH TILDE AND ACUTE",
   "1E79 LATIN: SMALL LETTER U WITH TILDE AND ACUTE, CAPITAL LETTER U WITH MACRON AND DIAERESIS",
   "1E7B LATIN: SMALL LETTER U WITH MACRON AND DIAERESIS, CAPITAL LETTER V WITH TILDE",
   "1E7D LATIN: SMALL LETTER V WITH TILDE, CAPITAL LETTER V WITH DOT BELOW",
   "1E7F LATIN: SMALL LETTER V WITH DOT BELOW, CAPITAL LETTER W WITH GRAVE",
   "1E81 LATIN: SMALL LETTER W WITH GRAVE, CAPITAL LETTER W WITH ACUTE, SMALL LETTER W WITH ACUTE",
   "1E84 LATIN CAPITAL LETTER W WITH DIAERESIS",
   "1E85 LATIN: SMALL LETTER W WITH DIAERESIS, CAPITAL LETTER W WITH DOT ABOVE",
   "1E87 LATIN: SMALL LETTER W WITH DOT ABOVE, CAPITAL LETTER W WITH DOT BELOW",
   "1E89 LATIN: SMALL LETTER W WITH DOT BELOW, CAPITAL LETTER X WITH DOT ABOVE",
   "1E8B LATIN: SMALL LETTER X WITH DOT ABOVE, CAPITAL LETTER X WITH DIAERESIS",
   "1E8D LATIN: SMALL LETTER X WITH DIAERESIS, CAPITAL LETTER Y WITH DOT ABOVE",
   "1E8F LATIN: SMALL LETTER Y WITH DOT ABOVE, CAPITAL LETTER Z WITH CIRCUMFLEX",
   "1E91 LATIN: SMALL LETTER Z WITH CIRCUMFLEX, CAPITAL LETTER Z WITH DOT BELOW",
   "1E93 LATIN: SMALL LETTER Z WITH DOT BELOW, CAPITAL LETTER Z WITH LINE BELOW",
   "1E95 LATIN SMALL LETTER: Z WITH LINE BELOW, H WITH LINE BELOW, T WITH DIAERESIS",
   "1E98 LATIN SMALL LETTER: W WITH RING ABOVE, Y WITH RING ABOVE, A WITH RIGHT HALF RING",
   "1E9B LATIN SMALL LETTER LONG S WITH: DOT ABOVE, DIAGONAL STROKE, HIGH STROKE",
   "1E9E LATIN: CAPITAL LETTER SHARP S, SMALL LETTER DELTA, CAPITAL LETTER A WITH DOT BELOW",
   "1EA1 LATIN: SMALL LETTER A WITH DOT BELOW, CAPITAL LETTER A WITH HOOK ABOVE",
   "1EA3 LATIN: SMALL LETTER A WITH HOOK ABOVE, CAPITAL LETTER A WITH CIRCUMFLEX AND ACUTE",
   "1EA5 LATIN SMALL LETTER A WITH CIRCUMFLEX AND ACUTE",
   "1EA6 LATIN CAPITAL LETTER A WITH CIRCUMFLEX AND GRAVE",
   "1EA7 LATIN SMALL LETTER A WITH CIRCUMFLEX AND GRAVE",
   "1EA8 LATIN CAPITAL LETTER A WITH CIRCUMFLEX AND HOOK ABOVE",
   "1EA9 LATIN SMALL LETTER A WITH CIRCUMFLEX AND HOOK ABOVE",
   "1EAA LATIN CAPITAL LETTER A WITH CIRCUMFLEX AND TILDE",
   "1EAB LATIN SMALL LETTER A WITH CIRCUMFLEX AND TILDE",
   "1EAC LATIN CAPITAL LETTER A WITH CIRCUMFLEX AND DOT BELOW",
   "1EAD LATIN SMALL LETTER A WITH CIRCUMFLEX AND DOT BELOW",
   "1EAE LATIN CAPITAL LETTER A WITH BREVE AND ACUTE",
   "1EAF LATIN: SMALL LETTER A WITH BREVE AND ACUTE, CAPITAL LETTER A WITH BREVE AND GRAVE",
   "1EB1 LATIN: SMALL LETTER A WITH BREVE AND GRAVE, CAPITAL LETTER A WITH BREVE AND HOOK ABOVE",
   "1EB3 LATIN: SMALL LETTER A WITH BREVE AND HOOK ABOVE, CAPITAL LETTER A WITH BREVE AND TILDE",
   "1EB5 LATIN: SMALL LETTER A WITH BREVE AND TILDE, CAPITAL LETTER A WITH BREVE AND DOT BELOW",
   "1EB7 LATIN: SMALL LETTER A WITH BREVE AND DOT BELOW, CAPITAL LETTER E WITH DOT BELOW",
   "1EB9 LATIN: SMALL LETTER E WITH DOT BELOW, CAPITAL LETTER E WITH HOOK ABOVE",
   "1EBB LATIN: SMALL LETTER E WITH HOOK ABOVE, CAPITAL LETTER E WITH TILDE",
   "1EBD LATIN: SMALL LETTER E WITH TILDE, CAPITAL LETTER E WITH CIRCUMFLEX AND ACUTE",
   "1EBF LATIN SMALL LETTER E WITH CIRCUMFLEX AND ACUTE",
   "1EC0 LATIN CAPITAL LETTER E WITH CIRCUMFLEX AND GRAVE",
   "1EC1 LATIN SMALL LETTER E WITH CIRCUMFLEX AND GRAVE",
   "1EC2 LATIN CAPITAL LETTER E WITH CIRCUMFLEX AND HOOK ABOVE",
   "1EC3 LATIN SMALL LETTER E WITH CIRCUMFLEX AND HOOK ABOVE",
   "1EC4 LATIN CAPITAL LETTER E WITH CIRCUMFLEX AND TILDE",
   "1EC5 LATIN SMALL LETTER E WITH CIRCUMFLEX AND TILDE",
   "1EC6 LATIN CAPITAL LETTER E WITH CIRCUMFLEX AND DOT BELOW",
   "1EC7 LATIN: SMALL LETTER E WITH CIRCUMFLEX AND DOT BELOW, CAPITAL LETTER I WITH HOOK ABOVE",
   "1EC9 LATIN: SMALL LETTER I WITH HOOK ABOVE, CAPITAL LETTER I WITH DOT BELOW",
   "1ECB LATIN: SMALL LETTER I WITH DOT BELOW, CAPITAL LETTER O WITH DOT BELOW",
   "1ECD LATIN: SMALL LETTER O WITH DOT BELOW, CAPITAL LETTER O WITH HOOK ABOVE",
   "1ECF LATIN: SMALL LETTER O WITH HOOK ABOVE, CAPITAL LETTER O WITH CIRCUMFLEX AND ACUTE",
   "1ED1 LATIN SMALL LETTER O WITH CIRCUMFLEX AND ACUTE",
   "1ED2 LATIN CAPITAL LETTER O WITH CIRCUMFLEX AND GRAVE",
   "1ED3 LATIN SMALL LETTER O WITH CIRCUMFLEX AND GRAVE",
   "1ED4 LATIN CAPITAL LETTER O WITH CIRCUMFLEX AND HOOK ABOVE",
   "1ED5 LATIN SMALL LETTER O WITH CIRCUMFLEX AND HOOK ABOVE",
   "1ED6 LATIN CAPITAL LETTER O WITH CIRCUMFLEX AND TILDE",
   "1ED7 LATIN SMALL LETTER O WITH CIRCUMFLEX AND TILDE",
   "1ED8 LATIN CAPITAL LETTER O WITH CIRCUMFLEX AND DOT BELOW",
   "1ED9 LATIN SMALL LETTER O WITH CIRCUMFLEX AND DOT BELOW",
   "1EDA LATIN CAPITAL LETTER O WITH HORN AND ACUTE",
   "1EDB LATIN: SMALL LETTER O WITH HORN AND ACUTE, CAPITAL LETTER O WITH HORN AND GRAVE",
   "1EDD LATIN: SMALL LETTER O WITH HORN AND GRAVE, CAPITAL LETTER O WITH HORN AND HOOK ABOVE",
   "1EDF LATIN: SMALL LETTER O WITH HORN AND HOOK ABOVE, CAPITAL LETTER O WITH HORN AND TILDE",
   "1EE1 LATIN: SMALL LETTER O WITH HORN AND TILDE, CAPITAL LETTER O WITH HORN AND DOT BELOW",
   "1EE3 LATIN: SMALL LETTER O WITH HORN AND DOT BELOW, CAPITAL LETTER U WITH DOT BELOW",
   "1EE5 LATIN: SMALL LETTER U WITH DOT BELOW, CAPITAL LETTER U WITH HOOK ABOVE",
   "1EE7 LATIN: SMALL LETTER U WITH HOOK ABOVE, CAPITAL LETTER U WITH HORN AND ACUTE",
   "1EE9 LATIN: SMALL LETTER U WITH HORN AND ACUTE, CAPITAL LETTER U WITH HORN AND GRAVE",
   "1EEB LATIN: SMALL LETTER U WITH HORN AND GRAVE, CAPITAL LETTER U WITH HORN AND HOOK ABOVE",
   "1EED LATIN: SMALL LETTER U WITH HORN AND HOOK ABOVE, CAPITAL LETTER U WITH HORN AND TILDE",
   "1EEF LATIN: SMALL LETTER U WITH HORN AND TILDE, CAPITAL LETTER U WITH HORN AND DOT BELOW",
   "1EF1 LATIN: SMALL LETTER U WITH HORN AND DOT BELOW, CAPITAL LETTER Y WITH GRAVE",
   "1EF3 LATIN: SMALL LETTER Y WITH GRAVE, CAPITAL LETTER Y WITH DOT BELOW",
   "1EF5 LATIN: SMALL LETTER Y WITH DOT BELOW, CAPITAL LETTER Y WITH HOOK ABOVE",
   "1EF7 LATIN: SMALL LETTER Y WITH HOOK ABOVE, CAPITAL LETTER Y WITH TILDE",
   "1EF9 LATIN: SMALL LETTER Y WITH TILDE, CAPITAL LETTER MIDDLE-WELSH LL",
   "1EFB LATIN: SMALL LETTER MIDDLE-WELSH LL, CAPITAL LETTER MIDDLE-WELSH V",
   "1EFD LATIN: SMALL LETTER MIDDLE-WELSH V, CAPITAL LETTER Y WITH LOOP, SMALL LETTER Y WITH LOOP",
   "1F00 GREEK SMALL LETTER ALPHA WITH: PSILI, DASIA, PSILI AND VARIA, DASIA AND VARIA",
   "1F04 GREEK SMALL LETTER ALPHA WITH: PSILI AND OXIA, DASIA AND OXIA, PSILI AND PERISPOMENI",
   "1F07 GREEK SMALL LETTER ALPHA WITH DASIA AND PERISPOMENI",
   "1F08 GREEK CAPITAL LETTER ALPHA WITH: PSILI, DASIA, PSILI AND VARIA, DASIA AND VARIA",
   "1F0C GREEK CAPITAL LETTER ALPHA WITH: PSILI AND OXIA, DASIA AND OXIA, PSILI AND PERISPOMENI",
   "1F0F GREEK CAPITAL LETTER ALPHA WITH DASIA AND PERISPOMENI",
   "1F10 GREEK SMALL LETTER EPSILON WITH: PSILI, DASIA, PSILI AND VARIA",
   "1F13 GREEK SMALL LETTER EPSILON WITH: DASIA AND VARIA, PSILI AND OXIA, DASIA AND OXIA",
   "1F18 GREEK CAPITAL LETTER EPSILON WITH: PSILI, DASIA, PSILI AND VARIA",
   "1F1B GREEK CAPITAL LETTER EPSILON WITH: DASIA AND VARIA, PSILI AND OXIA, DASIA AND OXIA",
   "1F20 GREEK SMALL LETTER ETA WITH: PSILI, DASIA, PSILI AND VARIA, DASIA AND VARIA",
   "1F24 GREEK SMALL LETTER ETA WITH: PSILI AND OXIA, DASIA AND OXIA, PSILI AND PERISPOMENI",
   "1F27 GREEK SMALL LETTER ETA WITH DASIA AND PERISPOMENI",
   "1F28 GREEK CAPITAL LETTER ETA WITH: PSILI, DASIA, PSILI AND VARIA, DASIA AND VARIA",
   "1F2C GREEK CAPITAL LETTER ETA WITH: PSILI AND OXIA, DASIA AND OXIA, PSILI AND PERISPOMENI",
   "1F2F GREEK CAPITAL LETTER ETA WITH DASIA AND PERISPOMENI",
   "1F30 GREEK SMALL LETTER IOTA WITH: PSILI, DASIA, PSILI AND VARIA, DASIA AND VARIA",
   "1F34 GREEK SMALL LETTER IOTA WITH: PSILI AND OXIA, DASIA AND OXIA, PSILI AND PERISPOMENI",
   "1F37 GREEK SMALL LETTER IOTA WITH DASIA AND PERISPOMENI",
   "1F38 GREEK CAPITAL LETTER IOTA WITH: PSILI, DASIA, PSILI AND VARIA, DASIA AND VARIA",
   "1F3C GREEK CAPITAL LETTER IOTA WITH: PSILI AND OXIA, DASIA AND OXIA, PSILI AND PERISPOMENI",
   "1F3F GREEK CAPITAL LETTER IOTA WITH DASIA AND PERISPOMENI",
   "1F40 GREEK SMALL LETTER OMICRON WITH: PSILI, DASIA, PSILI AND VARIA",
   "1F43 GREEK SMALL LETTER OMICRON WITH: DASIA AND VARIA, PSILI AND OXIA, DASIA AND OXIA",
   "1F48 GREEK CAPITAL LETTER OMICRON WITH: PSILI, DASIA, PSILI AND VARIA",
   "1F4B GREEK CAPITAL LETTER OMICRON WITH: DASIA AND VARIA, PSILI AND OXIA, DASIA AND OXIA",
   "1F50 GREEK SMALL LETTER UPSILON WITH: PSILI, DASIA, PSILI AND VARIA, DASIA AND VARIA",
   "1F54 GREEK SMALL LETTER UPSILON WITH: PSILI AND OXIA, DASIA AND OXIA, PSILI AND PERISPOMENI",
   "1F57 GREEK SMALL LETTER UPSILON WITH DASIA AND PERISPOMENI",
   "1F59 GREEK CAPITAL LETTER UPSILON WITH DASIA",
   "1F5B GREEK CAPITAL LETTER UPSILON WITH DASIA AND VARIA",
   "1F5D GREEK CAPITAL LETTER UPSILON WITH DASIA AND OXIA",
   "1F5F GREEK CAPITAL LETTER UPSILON WITH DASIA AND PERISPOMENI",
   "1F60 GREEK SMALL LETTER OMEGA WITH: PSILI, DASIA, PSILI AND VARIA, DASIA AND VARIA",
   "1F64 GREEK SMALL LETTER OMEGA WITH: PSILI AND OXIA, DASIA AND OXIA, PSILI AND PERISPOMENI",
   "1F67 GREEK SMALL LETTER OMEGA WITH DASIA AND PERISPOMENI",
   "1F68 GREEK CAPITAL LETTER OMEGA WITH: PSILI, DASIA, PSILI AND VARIA, DASIA AND VARIA",
   "1F6C GREEK CAPITAL LETTER OMEGA WITH: PSILI AND OXIA, DASIA AND OXIA, PSILI AND PERISPOMENI",
   "1F6F GREEK CAPITAL LETTER OMEGA WITH DASIA AND PERISPOMENI",
   "1F70 GREEK SMALL LETTER ALPHA WITH: VARIA, OXIA",
   "1F72 GREEK SMALL LETTER EPSILON WITH: VARIA, OXIA",
   "1F74 GREEK SMALL LETTER: ETA WITH VARIA, ETA WITH OXIA, IOTA WITH VARIA, IOTA WITH OXIA",
   "1F78 GREEK SMALL LETTER OMICRON WITH: VARIA, OXIA",
   "1F7A GREEK SMALL LETTER UPSILON WITH: VARIA, OXIA",
   "1F7C GREEK SMALL LETTER OMEGA WITH: VARIA, OXIA",
   "1F80 GREEK SMALL LETTER ALPHA WITH: PSILI AND YPOGEGRAMMENI, DASIA AND YPOGEGRAMMENI",
   "1F82 GREEK SMALL LETTER ALPHA WITH PSILI AND VARIA AND YPOGEGRAMMENI",
   "1F83 GREEK SMALL LETTER ALPHA WITH DASIA AND VARIA AND YPOGEGRAMMENI",
   "1F84 GREEK SMALL LETTER ALPHA WITH PSILI AND OXIA AND YPOGEGRAMMENI",
   "1F85 GREEK SMALL LETTER ALPHA WITH DASIA AND OXIA AND YPOGEGRAMMENI",
   "1F86 GREEK SMALL LETTER ALPHA WITH PSILI AND PERISPOMENI AND YPOGEGRAMMENI",
   "1F87 GREEK SMALL LETTER ALPHA WITH DASIA AND PERISPOMENI AND YPOGEGRAMMENI",
   "1F88 GREEK CAPITAL LETTER ALPHA WITH: PSILI AND PROSGEGRAMMENI, DASIA AND PROSGEGRAMMENI",
   "1F8A GREEK CAPITAL LETTER ALPHA WITH PSILI AND VARIA AND PROSGEGRAMMENI",
   "1F8B GREEK CAPITAL LETTER ALPHA WITH DASIA AND VARIA AND PROSGEGRAMMENI",
   "1F8C GREEK CAPITAL LETTER ALPHA WITH PSILI AND OXIA AND PROSGEGRAMMENI",
   "1F8D GREEK CAPITAL LETTER ALPHA WITH DASIA AND OXIA AND PROSGEGRAMMENI",
   "1F8E GREEK CAPITAL LETTER ALPHA WITH PSILI AND PERISPOMENI AND PROSGEGRAMMENI",
   "1F8F GREEK CAPITAL LETTER ALPHA WITH DASIA AND PERISPOMENI AND PROSGEGRAMMENI",
   "1F90 GREEK SMALL LETTER ETA WITH PSILI AND YPOGEGRAMMENI",
   "1F91 GREEK SMALL LETTER ETA WITH: DASIA AND YPOGEGRAMMENI, PSILI AND VARIA AND YPOGEGRAMMENI",
   "1F93 GREEK SMALL LETTER ETA WITH DASIA AND VARIA AND YPOGEGRAMMENI",
   "1F94 GREEK SMALL LETTER ETA WITH PSILI AND OXIA AND YPOGEGRAMMENI",
   "1F95 GREEK SMALL LETTER ETA WITH DASIA AND OXIA AND YPOGEGRAMMENI",
   "1F96 GREEK SMALL LETTER ETA WITH PSILI AND PERISPOMENI AND YPOGEGRAMMENI",
   "1F97 GREEK SMALL LETTER ETA WITH DASIA AND PERISPOMENI AND YPOGEGRAMMENI",
   "1F98 GREEK CAPITAL LETTER ETA WITH: PSILI AND PROSGEGRAMMENI, DASIA AND PROSGEGRAMMENI",
   "1F9A GREEK CAPITAL LETTER ETA WITH PSILI AND VARIA AND PROSGEGRAMMENI",
   "1F9B GREEK CAPITAL LETTER ETA WITH DASIA AND VARIA AND PROSGEGRAMMENI",
   "1F9C GREEK CAPITAL LETTER ETA WITH PSILI AND OXIA AND PROSGEGRAMMENI",
   "1F9D GREEK CAPITAL LETTER ETA WITH DASIA AND OXIA AND PROSGEGRAMMENI",
   "1F9E GREEK CAPITAL LETTER ETA WITH PSILI AND PERISPOMENI AND PROSGEGRAMMENI",
   "1F9F GREEK CAPITAL LETTER ETA WITH DASIA AND PERISPOMENI AND PROSGEGRAMMENI",
   "1FA0 GREEK SMALL LETTER OMEGA WITH: PSILI AND YPOGEGRAMMENI, DASIA AND YPOGEGRAMMENI",
   "1FA2 GREEK SMALL LETTER OMEGA WITH PSILI AND VARIA AND YPOGEGRAMMENI",
   "1FA3 GREEK SMALL LETTER OMEGA WITH DASIA AND VARIA AND YPOGEGRAMMENI",
   "1FA4 GREEK SMALL LETTER OMEGA WITH PSILI AND OXIA AND YPOGEGRAMMENI",
   "1FA5 GREEK SMALL LETTER OMEGA WITH DASIA AND OXIA AND YPOGEGRAMMENI",
   "1FA6 GREEK SMALL LETTER OMEGA WITH PSILI AND PERISPOMENI AND YPOGEGRAMMENI",
   "1FA7 GREEK SMALL LETTER OMEGA WITH DASIA AND PERISPOMENI AND YPOGEGRAMMENI",
   "1FA8 GREEK CAPITAL LETTER OMEGA WITH: PSILI AND PROSGEGRAMMENI, DASIA AND PROSGEGRAMMENI",
   "1FAA GREEK CAPITAL LETTER OMEGA WITH PSILI AND VARIA AND PROSGEGRAMMENI",
   "1FAB GREEK CAPITAL LETTER OMEGA WITH DASIA AND VARIA AND PROSGEGRAMMENI",
   "1FAC GREEK CAPITAL LETTER OMEGA WITH PSILI AND OXIA AND PROSGEGRAMMENI",
   "1FAD GREEK CAPITAL LETTER OMEGA WITH DASIA AND OXIA AND PROSGEGRAMMENI",
   "1FAE GREEK CAPITAL LETTER OMEGA WITH PSILI AND PERISPOMENI AND PROSGEGRAMMENI",
   "1FAF GREEK CAPITAL LETTER OMEGA WITH DASIA AND PERISPOMENI AND PROSGEGRAMMENI",
   "1FB0 GREEK SMALL LETTER ALPHA WITH: VRACHY, MACRON, VARIA AND YPOGEGRAMMENI, YPOGEGRAMMENI",
   "1FB4 GREEK SMALL LETTER ALPHA WITH OXIA AND YPOGEGRAMMENI",
   "1FB6 GREEK SMALL LETTER ALPHA WITH: PERISPOMENI, PERISPOMENI AND YPOGEGRAMMENI",
   "1FB8 GREEK CAPITAL LETTER ALPHA WITH: VRACHY, MACRON, VARIA, OXIA, PROSGEGRAMMENI",
   "1FBD GREEK: KORONIS, PROSGEGRAMMENI, PSILI, PERISPOMENI, DIALYTIKA AND PERISPOMENI",
   "1FC2 GREEK SMALL LETTER ETA WITH VARIA AND YPOGEGRAMMENI",
   "1FC3 GREEK SMALL LETTER ETA WITH: YPOGEGRAMMENI, OXIA AND YPOGEGRAMMENI",
   "1FC6 GREEK SMALL LETTER ETA WITH: PERISPOMENI, PERISPOMENI AND YPOGEGRAMMENI",
   "1FC8 GREEK CAPITAL LETTER EPSILON WITH: VARIA, OXIA",
   "1FCA GREEK CAPITAL LETTER ETA WITH: VARIA, OXIA, PROSGEGRAMMENI",
   "1FCD GREEK PSILI AND: VARIA, OXIA, PERISPOMENI",
   "1FD0 GREEK SMALL LETTER IOTA WITH: VRACHY, MACRON, DIALYTIKA AND VARIA, DIALYTIKA AND OXIA",
   "1FD6 GREEK SMALL LETTER IOTA WITH: PERISPOMENI, DIALYTIKA AND PERISPOMENI",
   "1FD8 GREEK CAPITAL LETTER IOTA WITH: VRACHY, MACRON, VARIA, OXIA",
   "1FDD GREEK DASIA AND: VARIA, OXIA, PERISPOMENI",
   "1FE0 GREEK SMALL LETTER UPSILON WITH: VRACHY, MACRON, DIALYTIKA AND VARIA, DIALYTIKA AND OXIA",
   "1FE4 GREEK SMALL LETTER RHO WITH: PSILI, DASIA",
   "1FE6 GREEK SMALL LETTER UPSILON WITH: PERISPOMENI, DIALYTIKA AND PERISPOMENI",
   "1FE8 GREEK CAPITAL LETTER UPSILON WITH: VRACHY, MACRON, VARIA, OXIA",
   "1FEC GREEK: CAPITAL LETTER RHO WITH DASIA, DIALYTIKA AND VARIA, DIALYTIKA AND OXIA, VARIA",
   "1FF2 GREEK SMALL LETTER OMEGA WITH VARIA AND YPOGEGRAMMENI",
   "1FF3 GREEK SMALL LETTER OMEGA WITH: YPOGEGRAMMENI, OXIA AND YPOGEGRAMMENI",
   "1FF6 GREEK SMALL LETTER OMEGA WITH: PERISPOMENI, PERISPOMENI AND YPOGEGRAMMENI",
   "1FF8 GREEK CAPITAL LETTER OMICRON WITH: VARIA, OXIA",
   "1FFA GREEK CAPITAL LETTER OMEGA WITH: VARIA, OXIA, PROSGEGRAMMENI",
   "1FFD GREEK: OXIA, DASIA"]

end Codegen.Text.CharName
