/-!
Names of characters, from version 14 of the Unicode Character Database: the ancient and lesser
scripts, U+10000 to U+12FFF.
-/

namespace Codegen.Text.CharName

def ancientRows : List String :=
  ["10000 LINEAR B SYLLABLE: B008 A, B038 E, B028 I, B061 O, B010 U",
   "10005 LINEAR B SYLLABLE: B001 DA, B045 DE, B007 DI, B014 DO, B051 DU, B057 JA, B046 JE",
   "1000D LINEAR B SYLLABLE: B036 JO, B065 JU, B077 KA, B044 KE, B067 KI",
   "10012 LINEAR B SYLLABLE: B070 KO, B081 KU, B080 MA, B013 ME, B073 MI, B015 MO, B023 MU",
   "10019 LINEAR B SYLLABLE: B006 NA, B024 NE, B030 NI, B052 NO, B055 NU, B003 PA, B072 PE",
   "10020 LINEAR B SYLLABLE: B039 PI, B011 PO, B050 PU, B016 QA, B078 QE, B021 QI, B032 QO",
   "10028 LINEAR B SYLLABLE: B060 RA, B027 RE, B053 RI, B002 RO, B026 RU",
   "1002D LINEAR B SYLLABLE: B031 SA, B009 SE, B041 SI, B012 SO, B058 SU, B059 TA, B004 TE",
   "10034 LINEAR B SYLLABLE: B037 TI, B005 TO, B069 TU, B054 WA, B075 WE, B040 WI, B042 WO",
   "1003C LINEAR B SYLLABLE: B017 ZA, B074 ZE",
   "1003F LINEAR B SYLLABLE B020 ZO",
   "10040 LINEAR B SYLLABLE: B025 A2, B043 A3, B085 AU, B071 DWE, B090 DWO, B048 NWA, B029 PU2",
   "10047 LINEAR B SYLLABLE: B062 PTE, B076 RA2, B033 RA3, B068 RO2, B066 TA2, B087 TWE, B091 TWO",
   "10050 LINEAR B SYMBOL: B018, B019",
   "10052 LINEAR B SYMBOL: B022, B034, B047, B049, B056, B063, B064, B079, B082, B083, B086, B089",
   "10080 LINEAR B IDEOGRAM: B100 MAN, B102 WOMAN, B104 DEER, B105 EQUID",
   "10084 LINEAR B IDEOGRAM: B105F MARE, B105M STALLION, B106F EWE, B106M RAM, B107F SHE-GOAT",
   "10089 LINEAR B IDEOGRAM: B107M HE-GOAT, B108F SOW, B108M BOAR, B109F COW, B109M BULL",
   "1008E LINEAR B IDEOGRAM: B120 WHEAT, B121 BARLEY, B122 OLIVE, B123 SPICE, B125 CYPERUS",
   "10093 LINEAR B MONOGRAM: B127 KAPO, B128 KANAKO",
   "10095 LINEAR B IDEOGRAM: B130 OIL, B131 WINE, B132",
   "10098 LINEAR B: MONOGRAM B133 AREPA, MONOGRAM B135 MERI, IDEOGRAM B140 BRONZE",
   "1009B LINEAR B IDEOGRAM: B141 GOLD, B142, B145 WOOL, B146, B150, B151 HORN, B152, B153, B154",
   "100A4 LINEAR B MONOGRAM B156 TURO2",
   "100A5 LINEAR B IDEOGRAM: B157, B158, B159 CLOTH, B160, B161, B162 GARMENT, B163 ARMOUR, B164",
   "100AD LINEAR B IDEOGRAM: B165, B166, B167, B168, B169, B170, B171, B172, B173 MONTH, B174",
   "100B7 LINEAR B IDEOGRAM: B176 TREE, B177, B178, B179, B180, B181, B182, B183, B184, B185",
   "100C1 LINEAR B IDEOGRAM: B189, B190, B191 HELMET, B220 FOOTSTOOL, B225 BATHTUB, B230 SPEAR",
   "100C7 LINEAR B IDEOGRAM: B231 ARROW, B232, B233 SWORD, B234, B236, B240 WHEELED CHARIOT",
   "100CD LINEAR B IDEOGRAM: B241 CHARIOT, B242 CHARIOT FRAME, B243 WHEEL, B245, B246",
   "100D2 LINEAR B: MONOGRAM B247 DIPTE, IDEOGRAM B248",
   "100D4 LINEAR B IDEOGRAM: B249, B251, B252, B253, B254 DART, B255, B256, B257, B258, B259",
   "100DE LINEAR B IDEOGRAM VESSEL: B155, B200, B201, B202, B203, B204, B205, B206, B207",
   "100E7 LINEAR B IDEOGRAM VESSEL: B208, B209, B210, B211, B212, B213, B214, B215, B216, B217",
   "100F1 LINEAR B IDEOGRAM VESSEL: B218, B219, B221, B222, B226, B227, B228, B229, B250, B305",
   "10100 AEGEAN: WORD SEPARATOR LINE, WORD SEPARATOR DOT, CHECK MARK",
   "10107 AEGEAN NUMBER: ONE, TWO, THREE, FOUR, FIVE, SIX, SEVEN, EIGHT",
   "1010F AEGEAN NUMBER: NINE, TEN, TWENTY, THIRTY, FORTY, FIFTY, SIXTY, SEVENTY, EIGHTY, NINETY",
   "10119 AEGEAN NUMBER: ONE HUNDRED, TWO HUNDRED, THREE HUNDRED, FOUR HUNDRED, FIVE HUNDRED",
   "1011E AEGEAN NUMBER: SIX HUNDRED, SEVEN HUNDRED, EIGHT HUNDRED, NINE HUNDRED, ONE THOUSAND",
   "10123 AEGEAN NUMBER: TWO THOUSAND, THREE THOUSAND, FOUR THOUSAND, FIVE THOUSAND, SIX THOUSAND",
   "10128 AEGEAN NUMBER: SEVEN THOUSAND, EIGHT THOUSAND, NINE THOUSAND, TEN THOUSAND",
   "1012C AEGEAN NUMBER: TWENTY THOUSAND, THIRTY THOUSAND, FORTY THOUSAND, FIFTY THOUSAND",
   "10130 AEGEAN NUMBER: SIXTY THOUSAND, SEVENTY THOUSAND, EIGHTY THOUSAND, NINETY THOUSAND",
   "10137 AEGEAN WEIGHT: BASE UNIT, FIRST SUBUNIT, SECOND SUBUNIT, THIRD SUBUNIT, FOURTH SUBUNIT",
   "1013C AEGEAN: DRY MEASURE FIRST SUBUNIT, LIQUID MEASURE FIRST SUBUNIT",
   "1013E AEGEAN MEASURE: SECOND SUBUNIT, THIRD SUBUNIT",
   "10140 GREEK ACROPHONIC ATTIC ONE: QUARTER, HALF, DRACHMA",
   "10143 GREEK ACROPHONIC ATTIC: FIVE, FIFTY, FIVE HUNDRED, FIVE THOUSAND",
   "10147 GREEK ACROPHONIC ATTIC: FIFTY THOUSAND, FIVE TALENTS, TEN TALENTS, FIFTY TALENTS",
   "1014B GREEK ACROPHONIC ATTIC: ONE HUNDRED TALENTS, FIVE HUNDRED TALENTS, ONE THOUSAND TALENTS",
   "1014E GREEK ACROPHONIC ATTIC: FIVE THOUSAND TALENTS, FIVE STATERS, TEN STATERS, FIFTY STATERS",
   "10152 GREEK ACROPHONIC ATTIC: ONE HUNDRED STATERS, FIVE HUNDRED STATERS, ONE THOUSAND STATERS",
   "10155 GREEK ACROPHONIC ATTIC: TEN THOUSAND STATERS, FIFTY THOUSAND STATERS, TEN MNAS",
   "10158 GREEK ACROPHONIC: HERAEUM ONE PLETHRON, THESPIAN ONE, HERMIONIAN ONE, EPIDAUREAN TWO",
   "1015C GREEK ACROPHONIC: THESPIAN TWO, CYRENAIC TWO DRACHMAS, EPIDAUREAN TWO DRACHMAS",
   "1015F GREEK ACROPHONIC TROEZENIAN: FIVE, TEN, TEN ALTERNATE FORM",
   "10162 GREEK ACROPHONIC: HERMIONIAN TEN, MESSENIAN TEN, THESPIAN TEN, THESPIAN THIRTY",
   "10166 GREEK ACROPHONIC: TROEZENIAN FIFTY, TROEZENIAN FIFTY ALTERNATE FORM, HERMIONIAN FIFTY",
   "10169 GREEK ACROPHONIC THESPIAN: FIFTY, ONE HUNDRED, THREE HUNDRED",
   "1016C GREEK ACROPHONIC: EPIDAUREAN FIVE HUNDRED, TROEZENIAN FIVE HUNDRED",
   "1016E GREEK ACROPHONIC: THESPIAN FIVE HUNDRED, CARYSTIAN FIVE HUNDRED, NAXIAN FIVE HUNDRED",
   "10171 GREEK ACROPHONIC: THESPIAN ONE THOUSAND, THESPIAN FIVE THOUSAND, DELPHIC FIVE MNAS",
   "10174 GREEK: ACROPHONIC STRATIAN FIFTY MNAS, ONE HALF SIGN, ONE HALF SIGN ALTERNATE FORM",
   "10177 GREEK: TWO THIRDS SIGN, THREE QUARTERS SIGN, YEAR SIGN, TALENT SIGN, DRACHMA SIGN",
   "1017C GREEK: OBOL SIGN, TWO OBOLS SIGN, THREE OBOLS SIGN, FOUR OBOLS SIGN, FIVE OBOLS SIGN",
   "10181 GREEK: METRETES SIGN, KYATHOS BASE SIGN, LITRA SIGN, OUNKIA SIGN, XESTES SIGN",
   "10186 GREEK: ARTABE SIGN, AROURA SIGN, GRAMMA SIGN, TRYBLION BASE SIGN, ZERO SIGN",
   "1018B GREEK ONE QUARTER SIGN, GREEK SINUSOID SIGN, GREEK INDICTION SIGN, NOMISMA SIGN",
   "10190 ROMAN: SEXTANS SIGN, UNCIA SIGN, SEMUNCIA SIGN, SEXTULA SIGN, DIMIDIA SEXTULA SIGN",
   "10195 ROMAN: SILIQUA SIGN, DENARIUS SIGN, QUINARIUS SIGN, SESTERTIUS SIGN, DUPONDIUS SIGN",
   "1019A ROMAN AS SIGN, ROMAN CENTURIAL SIGN, ASCIA SYMBOL",
   "101A0 GREEK SYMBOL TAU RHO",
   "101D0 PHAISTOS DISC SIGN PEDESTRIAN",
   "101D1 PHAISTOS DISC SIGN: PLUMED HEAD, TATTOOED HEAD, CAPTIVE, CHILD, WOMAN, HELMET",
   "101D7 PHAISTOS DISC SIGN: GAUNTLET, TIARA, ARROW, BOW, SHIELD, CLUB, MANACLES, MATTOCK",
   "101DF PHAISTOS DISC SIGN: SAW, LID, BOOMERANG, CARPENTRY PLANE, DOLIUM, COMB, SLING, COLUMN",
   "101E7 PHAISTOS DISC SIGN: BEEHIVE, SHIP, HORN, HIDE, BULLS LEG, CAT, RAM, EAGLE, DOVE, TUNNY",
   "101F1 PHAISTOS DISC SIGN: BEE, PLANE TREE, VINE, PAPYRUS, ROSETTE, LILY, OX BACK, FLUTE",
   "101F9 PHAISTOS DISC SIGN: GRATER, STRAINER, SMALL AXE, WAVY BAND, COMBINING OBLIQUE STROKE",
   "10280 LYCIAN LETTER: A, E, B, BH, G, D, I",
   "10287 LYCIAN LETTER: W, Z, TH, J, K, Q, L, M, N, MM, NN, U, P, KK, R, S, T, TT, AN, EN, H, X",
   "102A0 CARIAN LETTER: A, P2, D, L, UUU, R, LD, A2, Q, B, M, O, D2, T, SH",
   "102AF CARIAN LETTER: SH2, S, C-18, U, NN, X, N, TT2, P, SS, I, E, UUUU, K, K2, ND, UU, G, G2",
   "102C2 CARIAN LETTER: ST, ST2, NG, II, C-39, TT, UUU2, RR, MB, MB2, MB3, MB4, LD2, E2, UUU3",
   "102E0 COPTIC EPACT THOUSANDS MARK",
   "102E1 COPTIC EPACT DIGIT: ONE, TWO, THREE, FOUR, FIVE, SIX, SEVEN, EIGHT, NINE",
   "102EA COPTIC EPACT NUMBER: TEN, TWENTY, THIRTY, FORTY, FIFTY, SIXTY, SEVENTY, EIGHTY",
   "102F2 COPTIC EPACT NUMBER: NINETY, ONE HUNDRED, TWO HUNDRED, THREE HUNDRED, FOUR HUNDRED",
   "102F7 COPTIC EPACT NUMBER FIVE HUNDRED",
   "102F8 COPTIC EPACT NUMBER: SIX HUNDRED, SEVEN HUNDRED, EIGHT HUNDRED, NINE HUNDRED",
   "10300 OLD ITALIC LETTER: A, BE, KE, DE, E, VE, ZE, HE, THE, I, KA, EL, EM, EN, ESH, O",
   "10310 OLD ITALIC LETTER: PE, SHE, KU, ER, ES, TE, U, EKS, PHE, KHE, EF, ERS, CHE, II, UU, ESS",
   "10320 OLD ITALIC NUMERAL: ONE, FIVE, TEN, FIFTY",
   "1032D OLD ITALIC LETTER: YE, NORTHERN TSE, SOUTHERN TSE",
   "10330 GOTHIC LETTER: AHSA, BAIRKAN, GIBA, DAGS, AIHVUS, QAIRTHRA, IUJA, HAGL",
   "10338 GOTHIC LETTER: THIUTH, EIS, KUSMA, LAGUS, MANNA, NAUTHS, JER, URUS, PAIRTHRA, NINETY",
   "10342 GOTHIC LETTER: RAIDA, SAUIL, TEIWS, WINJA, FAIHU, IGGWS, HWAIR, OTHAL, NINE HUNDRED",
   "10350 OLD PERMIC LETTER: AN, BUR, GAI, DOI, E, ZHOI, DZHOI, ZATA, DZITA, I, KOKE, LEI",
   "1035C OLD PERMIC LETTER: MENOE, NENOE, VOOI, PEEI, REI, SII, TAI, U, CHERY, SHOOI, SHCHOOI",
   "10367 OLD PERMIC LETTER: YRY, YERU, O, OO, EF, HA, TSIU, VER, YER, YERI, YAT, IE, YU, YA, IA",
   "10376 COMBINING OLD PERMIC LETTER: AN, DOI, ZATA, NENOE, SII",
   "10380 UGARITIC LETTER: ALPA, BETA, GAMLA, KHA",
   "10384 UGARITIC LETTER: DELTA, HO, WO, ZETA, HOTA, TET, YOD, KAF, SHIN, LAMDA, MEM, DHAL, NUN",
   "10391 UGARITIC LETTER: ZU, SAMKA, AIN, PU, SADE, QOPA, RASHA, THANNA, GHAIN, TO, I, U, SSU",
   "1039F UGARITIC WORD DIVIDER, OLD PERSIAN SIGN A",
   "103A1 OLD PERSIAN SIGN: I, U, KA, KU, GA, GU, XA, CA, JA, JI, TA, TU, DA, DI, DU, THA, PA, BA",
   "103B3 OLD PERSIAN SIGN: FA, NA, NU, MA, MI, MU, YA, VA, VI, RA, RU, LA, SA, ZA, SHA, SSA, HA",
   "103C8 OLD PERSIAN SIGN: AURAMAZDAA, AURAMAZDAA-2, AURAMAZDAAHA, XSHAAYATHIYA, DAHYAAUSH",
   "103CD OLD PERSIAN: SIGN DAHYAAUSH-2, SIGN BAGA, SIGN BUUMISH, WORD DIVIDER",
   "103D1 OLD PERSIAN NUMBER: ONE, TWO, TEN, TWENTY, HUNDRED",
   "10400 DESERET CAPITAL LETTER LONG: I, E, A, AH, O, OO",
   "10406 DESERET CAPITAL LETTER SHORT: I, E, A, AH, O, OO",
   "1040C DESERET CAPITAL LETTER: AY, OW, WU, YEE, H, PEE, BEE, TEE, DEE, CHEE, JEE, KAY, GAY, EF",
   "1041A DESERET CAPITAL LETTER: VEE, ETH, THEE, ES, ZEE, ESH, ZHEE, ER, EL, EM, EN, ENG, OI, EW",
   "10428 DESERET SMALL LETTER LONG: I, E, A, AH, O, OO",
   "1042E DESERET SMALL LETTER SHORT: I, E, A, AH, O, OO",
   "10434 DESERET SMALL LETTER: AY, OW, WU, YEE, H, PEE, BEE, TEE, DEE, CHEE, JEE, KAY, GAY, EF",
   "10442 DESERET SMALL LETTER: VEE, ETH, THEE, ES, ZEE, ESH, ZHEE, ER, EL, EM, EN, ENG, OI, EW",
   "10450 SHAVIAN LETTER: PEEP, TOT, KICK, FEE, THIGH, SO, SURE, CHURCH",
   "10458 SHAVIAN LETTER: YEA, HUNG, BIB, DEAD, GAG, VOW, THEY, ZOO, MEASURE, JUDGE, WOE, HA-HA",
   "10464 SHAVIAN LETTER: LOLL, MIME, IF, EGG, ASH, ADO, ON, WOOL, OUT, AH, ROAR, NUN, EAT, AGE",
   "10472 SHAVIAN LETTER: ICE, UP, OAK, OOZE, OIL, AWE, ARE, OR, AIR, ERR, ARRAY, EAR, IAN, YEW",
   "10480 OSMANYA LETTER: ALEF, BA, TA, JA, XA, KHA, DEEL, RA, SA, SHIIN, DHA, CAYN, GA, FA",
   "1048E OSMANYA LETTER: QAAF, KAAF, LAAN, MIIN, NUUN, WAW, HA, YA, A, E, I, O, U, AA, EE, OO",
   "104A0 OSMANYA DIGIT: ZERO, ONE, TWO, THREE, FOUR, FIVE, SIX, SEVEN, EIGHT, NINE",
   "104B0 OSAGE CAPITAL LETTER: A, AI, AIN, AH, BRA, CHA, EHCHA, E",
   "104B8 OSAGE CAPITAL LETTER: EIN, HA, HYA, I, KA, EHKA, KYA, LA, MA, NA, O, OIN, PA, EHPA, SA",
   "104C7 OSAGE CAPITAL LETTER: SHA, TA, EHTA, TSA, EHTSA, TSHA, DHA, U, WA, KHA, GHA, ZA, ZHA",
   "104D8 OSAGE SMALL LETTER: A, AI, AIN, AH, BRA, CHA, EHCHA",
   "104DF OSAGE SMALL LETTER: E, EIN, HA, HYA, I, KA, EHKA, KYA, LA, MA, NA, O, OIN, PA, EHPA",
   "104EE OSAGE SMALL LETTER: SA, SHA, TA, EHTA, TSA, EHTSA, TSHA, DHA, U, WA, KHA, GHA, ZA, ZHA",
   "10500 ELBASAN LETTER: A, BE, CE, CHE, DE, NDE",
   "10506 ELBASAN LETTER: DHE, EI, E, FE, GE, GJE, HE, I, JE, KE, LE, LLE, ME, NE, NA, NJE, O, PE",
   "10518 ELBASAN LETTER: QE, RE, RRE, SE, SHE, TE, THE, U, VE, XE, Y, ZE, ZHE, GHE, GHAMMA, KHE",
   "10530 CAUCASIAN ALBANIAN LETTER: ALT, BET, GIM, DAT, EB, ZARL, EYN, ZHIL, TAS, CHA",
   "1053A CAUCASIAN ALBANIAN LETTER: YOWD, ZHA, IRB, SHA, LAN, INYA, XEYN, DYAN, CAR, JHOX, KAR",
   "10545 CAUCASIAN ALBANIAN LETTER: LYIT, HEYT, QAY, AOR, CHOY, CHI, CYAY, MAQ, QAR, NOWC, DZYAY",
   "10550 CAUCASIAN ALBANIAN LETTER: SHAK, JAYN, ON, TYAY, FAM, DZAY, CHAT, PEN, GHEYS, RAT",
   "1055A CAUCASIAN ALBANIAN LETTER: SEYK, VEYZ, TIWR, SHOY, IWN, CYAW, CAYN, YAYD, PIWR, KIW",
   "1056F CAUCASIAN ALBANIAN CITATION MARK",
   "10570 VITHKUQI CAPITAL LETTER: A, BBE, BE, CE, CHE, DE, DHE, EI, E, FE, GA",
   "1057C VITHKUQI CAPITAL LETTER: HA, HHA, I, IJE, JE, KA, LA, LLA, ME, NE, NJE, O, PE, QA, RE",
   "1058C VITHKUQI CAPITAL LETTER: SE, SHE, TE, THE, U, VE, XE",
   "10594 VITHKUQI CAPITAL LETTER: Y, ZE",
   "10597 VITHKUQI SMALL LETTER: A, BBE, BE, CE, CHE, DE, DHE, EI, E, FE, GA",
   "105A3 VITHKUQI SMALL LETTER: HA, HHA, I, IJE, JE, KA, LA, LLA, ME, NE, NJE, O, PE, QA, RE",
   "105B3 VITHKUQI SMALL LETTER: SE, SHE, TE, THE, U, VE, XE",
   "105BB VITHKUQI SMALL LETTER: Y, ZE",
   "10600 LINEAR A SIGN: AB001, AB002, AB003, AB004, AB005, AB006, AB007",
   "10607 LINEAR A SIGN: AB008, AB009, AB010, AB011, AB013, AB016, AB017, AB020, AB021, AB021F",
   "10611 LINEAR A SIGN: AB021M, AB022, AB022F, AB022M, AB023, AB023M, AB024, AB026, AB027",
   "1061A LINEAR A SIGN: AB028, A028B, AB029, AB030, AB031, AB034, AB037, AB038, AB039, AB040",
   "10624 LINEAR A SIGN: AB041, AB044, AB045, AB046, AB047, AB048, AB049, AB050, AB051, AB053",
   "1062E LINEAR A SIGN: AB054, AB055, AB056, AB057, AB058, AB059, AB060, AB061, AB065, AB066",
   "10638 LINEAR A SIGN: AB067, AB069, AB070, AB073, AB074, AB076, AB077, AB078, AB079, AB080",
   "10642 LINEAR A SIGN: AB081, AB082, AB085, AB086, AB087, A100-102, AB118, AB120, A120B, AB122",
   "1064C LINEAR A SIGN: AB123, AB131A, AB131B, A131C, AB164, AB171, AB180, AB188, AB191, A301",
   "10656 LINEAR A SIGN: A302, A303, A304, A305, A306, A307, A308, A309A, A309B, A309C, A310",
   "10661 LINEAR A SIGN: A311, A312, A313A, A313B, A313C, A314, A315, A316, A317, A318, A319",
   "1066C LINEAR A SIGN: A320, A321, A322, A323, A324, A325, A326, A327, A328, A329, A330, A331",
   "10678 LINEAR A SIGN: A332, A333, A334, A335, A336, A337, A338, A339, A340, A341, A342, A343",
   "10684 LINEAR A SIGN: A344, A345, A346, A347, A348, A349, A350, A351, A352, A353, A354, A355",
   "10690 LINEAR A SIGN: A356, A357, A358, A359, A360, A361, A362, A363, A364, A365, A366, A367",
   "1069C LINEAR A SIGN: A368, A369, A370, A371, A400-VAS, A401-VAS, A402-VAS, A403-VAS, A404-VAS",
   "106A5 LINEAR A SIGN: A405-VAS, A406-VAS, A407-VAS, A408-VAS, A409-VAS, A410-VAS, A411-VAS",
   "106AC LINEAR A SIGN: A412-VAS, A413-VAS, A414-VAS, A415-VAS, A416-VAS, A417-VAS, A418-VAS",
   "106B3 LINEAR A SIGN: A501, A502, A503, A504, A505, A506, A508, A509, A510, A511, A512, A513",
   "106BF LINEAR A SIGN: A515, A516, A520, A521, A523, A524, A525, A526, A527, A528, A529, A530",
   "106CB LINEAR A SIGN: A531, A532, A534, A535, A536, A537, A538, A539, A540, A541, A542, A545",
   "106D7 LINEAR A SIGN: A547, A548, A549, A550, A551, A552, A553, A554, A555, A556, A557, A559",
   "106E3 LINEAR A SIGN: A563, A564, A565, A566, A568, A569, A570, A571, A572, A573, A574, A575",
   "106EF LINEAR A SIGN: A576, A577, A578, A579, A580, A581, A582, A583, A584, A585, A586, A587",
   "106FB LINEAR A SIGN: A588, A589, A591, A592, A594, A595, A596, A598, A600, A601, A602, A603",
   "10707 LINEAR A SIGN: A604, A606, A608, A609, A610, A611, A612, A613, A614, A615, A616, A617",
   "10713 LINEAR A SIGN: A618, A619, A620, A621, A622, A623, A624, A626, A627, A628, A629, A634",
   "1071F LINEAR A SIGN: A637, A638, A640, A642, A643, A644, A645, A646, A648, A649, A651, A652",
   "1072B LINEAR A SIGN: A653, A654, A655, A656, A657, A658, A659, A660, A661, A662, A663, A664",
   "10740 LINEAR A SIGN: A701 A, A702 B, A703 D, A704 E, A705 F, A706 H, A707 J, A708 K",
   "10748 LINEAR A SIGN: A709 L, A709-2 L2, A709-3 L3, A709-4 L4, A709-6 L6, A710 W, A711 X",
   "1074F LINEAR A SIGN: A712 Y, A713 OMEGA, A714 ABB, A715 BB, A717 DD, A726 EYYY, A732 JE",
   "10760 LINEAR A SIGN: A800, A801, A802, A803, A804, A805, A806, A807",
   "10780 MODIFIER LETTER SMALL CAPITAL AA",
   "10781 MODIFIER LETTER SUPERSCRIPT: TRIANGULAR COLON, HALF TRIANGULAR COLON",
   "10783 MODIFIER LETTER SMALL: AE, CAPITAL B, B WITH HOOK",
   "10787 MODIFIER LETTER SMALL DZ: DIGRAPH, DIGRAPH WITH RETROFLEX HOOK, DIGRAPH WITH CURL",
   "1078A MODIFIER LETTER SMALL: DEZH DIGRAPH, D WITH TAIL, D WITH HOOK, D WITH HOOK AND TAIL",
   "1078E MODIFIER LETTER SMALL: REVERSED E, CLOSED REVERSED OPEN E, FENG DIGRAPH, RAMS HORN",
   "10792 MODIFIER LETTER SMALL: CAPITAL G, G WITH HOOK, CAPITAL G WITH HOOK, H WITH STROKE",
   "10796 MODIFIER LETTER SMALL: CAPITAL H, HENG WITH HOOK, DOTLESS J WITH STROKE AND HOOK",
   "10799 MODIFIER LETTER SMALL: LS DIGRAPH, LZ DIGRAPH, L WITH BELT, CAPITAL L WITH BELT",
   "1079D MODIFIER LETTER SMALL: L WITH RETROFLEX HOOK AND BELT, LEZH, LEZH WITH RETROFLEX HOOK",
   "107A0 MODIFIER LETTER SMALL TURNED: Y, Y WITH BELT",
   "107A2 MODIFIER LETTER SMALL: O WITH STROKE, CAPITAL OE, CLOSED OMEGA, Q",
   "107A6 MODIFIER LETTER SMALL TURNED R WITH LONG: LEG, LEG AND RETROFLEX HOOK",
   "107A8 MODIFIER LETTER SMALL: R WITH TAIL, R WITH FISHHOOK, CAPITAL R, TC DIGRAPH WITH CURL",
   "107AC MODIFIER LETTER SMALL TS: DIGRAPH, DIGRAPH WITH RETROFLEX HOOK",
   "107AE MODIFIER LETTER SMALL: TESH DIGRAPH, T WITH RETROFLEX HOOK, V WITH RIGHT HOOK",
   "107B2 MODIFIER LETTER SMALL CAPITAL Y",
   "107B3 MODIFIER LETTER: GLOTTAL STOP WITH STROKE, REVERSED GLOTTAL STOP WITH STROKE",
   "107B5 MODIFIER LETTER: BILABIAL CLICK, DENTAL CLICK, LATERAL CLICK",
   "107B8 MODIFIER LETTER: ALVEOLAR CLICK, RETROFLEX CLICK WITH RETROFLEX HOOK, SMALL S WITH CURL",
   "10800 CYPRIOT SYLLABLE: A, E, I, O, U, JA",
   "10808 CYPRIOT SYLLABLE JO",
   "1080A CYPRIOT SYLLABLE: KA, KE, KI, KO, KU, LA, LE, LI, LO, LU",
   "10814 CYPRIOT SYLLABLE: MA, ME, MI, MO, MU, NA, NE, NI, NO, NU, PA, PE, PI, PO, PU, RA, RE",
   "10825 CYPRIOT SYLLABLE: RI, RO, RU, SA, SE, SI, SO, SU, TA, TE, TI, TO, TU, WA, WE, WI, WO",
   "10837 CYPRIOT SYLLABLE: XA, XE",
   "1083C CYPRIOT SYLLABLE ZA",
   "1083F CYPRIOT SYLLABLE ZO",
   "10840 IMPERIAL ARAMAIC LETTER: ALEPH, BETH",
   "10842 IMPERIAL ARAMAIC LETTER: GIMEL, DALETH, HE, WAW, ZAYIN, HETH, TETH, YODH, KAPH, LAMEDH",
   "1084C IMPERIAL ARAMAIC LETTER: MEM, NUN, SAMEKH, AYIN, PE, SADHE, QOPH, RESH, SHIN, TAW",
   "10857 IMPERIAL ARAMAIC: SECTION SIGN, NUMBER ONE, NUMBER TWO",
   "1085A IMPERIAL ARAMAIC NUMBER: THREE, TEN, TWENTY, ONE HUNDRED, ONE THOUSAND, TEN THOUSAND",
   "10860 PALMYRENE LETTER: ALEPH, BETH, GIMEL, DALETH, HE, WAW, ZAYIN, HETH, TETH, YODH, KAPH",
   "1086B PALMYRENE LETTER: LAMEDH, MEM, FINAL NUN, NUN, SAMEKH, AYIN, PE, SADHE, QOPH, RESH",
   "10875 PALMYRENE: LETTER SHIN, LETTER TAW, LEFT-POINTING FLEURON, RIGHT-POINTING FLEURON",
   "10879 PALMYRENE NUMBER: ONE, TWO, THREE, FOUR, FIVE, TEN, TWENTY",
   "10880 NABATAEAN LETTER: FINAL ALEPH, ALEPH, FINAL BETH, BETH",
   "10884 NABATAEAN LETTER: GIMEL, DALETH, FINAL HE, HE, WAW, ZAYIN, HETH, TETH, FINAL YODH, YODH",
   "1088E NABATAEAN LETTER: FINAL KAPH, KAPH, FINAL LAMEDH, LAMEDH, FINAL MEM, MEM, FINAL NUN",
   "10895 NABATAEAN LETTER: NUN, SAMEKH, AYIN, PE, SADHE, QOPH, RESH, FINAL SHIN, SHIN, TAW",
   "108A7 NABATAEAN: NUMBER ONE, NUMBER TWO, NUMBER THREE, NUMBER FOUR, CRUCIFORM NUMBER FOUR",
   "108AC NABATAEAN NUMBER: FIVE, TEN, TWENTY, ONE HUNDRED",
   "108E0 HATRAN LETTER: ALEPH, BETH, GIMEL, DALETH-RESH, HE, WAW, ZAYN",
   "108E7 HATRAN LETTER: HETH, TETH, YODH, KAPH, LAMEDH, MEM, NUN, SAMEKH, AYN, PE, SADHE, QOPH",
   "108F4 HATRAN LETTER: SHIN, TAW",
   "108FB HATRAN NUMBER: ONE, FIVE, TEN, TWENTY, ONE HUNDRED",
   "10900 PHOENICIAN LETTER: ALF, BET, GAML, DELT, HE, WAU, ZAI, HET, TET",
   "10909 PHOENICIAN LETTER: YOD, KAF, LAMD, MEM, NUN, SEMK, AIN, PE, SADE, QOF, ROSH, SHIN, TAU",
   "10916 PHOENICIAN NUMBER: ONE, TEN, TWENTY, ONE HUNDRED, TWO, THREE",
   "1091F PHOENICIAN WORD SEPARATOR",
   "10920 LYDIAN LETTER: A, B, G, D",
   "10924 LYDIAN LETTER: E, V, I, Y, K, L, M, N, O, R, SS, T, U, F, Q, S, TT, AN, EN, LY, NN, C",
   "1093F LYDIAN TRIANGULAR MARK",
   "10980 MEROITIC HIEROGLYPHIC LETTER: A, E, I, O, YA, WA",
   "10986 MEROITIC HIEROGLYPHIC LETTER: BA, BA-2, PA, MA, NA, NA-2, NE, NE-2, RA, RA-2, LA, KHA",
   "10992 MEROITIC HIEROGLYPHIC LETTER: HHA, SA, SA-2, SE, KA, QA, TA, TA-2, TE, TE-2, TO, DA",
   "1099E MEROITIC HIEROGLYPHIC SYMBOL: VIDJ, VIDJ-2",
   "109A0 MEROITIC CURSIVE LETTER: A, E, I, O, YA, WA, BA, PA, MA, NA, NE",
   "109AB MEROITIC CURSIVE LETTER: RA, LA, KHA, HHA, SA, ARCHAIC SA, SE, KA, QA, TA, TE, TO, DA",
   "109BC MEROITIC CURSIVE FRACTION: ELEVEN TWELFTHS, ONE HALF",
   "109BE MEROITIC CURSIVE LOGOGRAM: RMT, IMN",
   "109C0 MEROITIC CURSIVE NUMBER: ONE, TWO, THREE, FOUR, FIVE, SIX, SEVEN",
   "109C7 MEROITIC CURSIVE NUMBER: EIGHT, NINE, TEN, TWENTY, THIRTY, FORTY, FIFTY, SIXTY, SEVENTY",
   "109D2 MEROITIC CURSIVE NUMBER: ONE HUNDRED, TWO HUNDRED, THREE HUNDRED, FOUR HUNDRED",
   "109D6 MEROITIC CURSIVE NUMBER: FIVE HUNDRED, SIX HUNDRED, SEVEN HUNDRED, EIGHT HUNDRED",
   "109DA MEROITIC CURSIVE NUMBER: NINE HUNDRED, ONE THOUSAND, TWO THOUSAND, THREE THOUSAND",
   "109DE MEROITIC CURSIVE NUMBER: FOUR THOUSAND, FIVE THOUSAND, SIX THOUSAND, SEVEN THOUSAND",
   "109E2 MEROITIC CURSIVE NUMBER: EIGHT THOUSAND, NINE THOUSAND, TEN THOUSAND, TWENTY THOUSAND",
   "109E6 MEROITIC CURSIVE NUMBER: THIRTY THOUSAND, FORTY THOUSAND, FIFTY THOUSAND",
   "109E9 MEROITIC CURSIVE NUMBER: SIXTY THOUSAND, SEVENTY THOUSAND, EIGHTY THOUSAND",
   "109EC MEROITIC CURSIVE NUMBER: NINETY THOUSAND, ONE HUNDRED THOUSAND, TWO HUNDRED THOUSAND",
   "109EF MEROITIC CURSIVE NUMBER: THREE HUNDRED THOUSAND, FOUR HUNDRED THOUSAND",
   "109F1 MEROITIC CURSIVE NUMBER: FIVE HUNDRED THOUSAND, SIX HUNDRED THOUSAND",
   "109F3 MEROITIC CURSIVE NUMBER: SEVEN HUNDRED THOUSAND, EIGHT HUNDRED THOUSAND",
   "109F5 MEROITIC CURSIVE: NUMBER NINE HUNDRED THOUSAND, FRACTION ONE TWELFTH",
   "109F7 MEROITIC CURSIVE FRACTION: TWO TWELFTHS, THREE TWELFTHS, FOUR TWELFTHS, FIVE TWELFTHS",
   "109FB MEROITIC CURSIVE FRACTION: SIX TWELFTHS, SEVEN TWELFTHS, EIGHT TWELFTHS, NINE TWELFTHS",
   "109FF MEROITIC CURSIVE FRACTION TEN TWELFTHS, KHAROSHTHI LETTER A",
   "10A01 KHAROSHTHI VOWEL SIGN: I, U, VOCALIC R",
   "10A05 KHAROSHTHI VOWEL SIGN: E, O",
   "10A0C KHAROSHTHI: VOWEL LENGTH MARK, SIGN DOUBLE RING BELOW, SIGN ANUSVARA, SIGN VISARGA",
   "10A10 KHAROSHTHI LETTER: KA, KHA, GA, GHA",
   "10A15 KHAROSHTHI LETTER: CA, CHA, JA",
   "10A19 KHAROSHTHI LETTER: NYA, TTA, TTHA, DDA, DDHA, NNA, TA, THA, DA, DHA, NA, PA, PHA, BA",
   "10A27 KHAROSHTHI LETTER: BHA, MA, YA, RA, LA, VA, SHA, SSA, SA, ZA, HA, KKA, TTTHA, TTTA, VHA",
   "10A38 KHAROSHTHI SIGN: BAR ABOVE, CAUDA, DOT BELOW",
   "10A3F KHAROSHTHI: VIRAMA, DIGIT ONE, DIGIT TWO, DIGIT THREE, DIGIT FOUR, NUMBER TEN",
   "10A45 KHAROSHTHI: NUMBER TWENTY, NUMBER ONE HUNDRED, NUMBER ONE THOUSAND, FRACTION ONE HALF",
   "10A50 KHAROSHTHI PUNCTUATION: DOT, SMALL CIRCLE, CIRCLE",
   "10A53 KHAROSHTHI PUNCTUATION: CRESCENT BAR, MANGALAM, LOTUS, DANDA, DOUBLE DANDA, LINES",
   "10A60 OLD SOUTH ARABIAN LETTER: HE, LAMEDH, HETH, MEM, QOPH, WAW, SHIN, RESH, BETH, TAW",
   "10A6A OLD SOUTH ARABIAN LETTER: SAT, KAPH, NUN, KHETH, SADHE, SAMEKH, FE, ALEF, AYN, DHADHE",
   "10A74 OLD SOUTH ARABIAN LETTER: GIMEL, DALETH, GHAYN, TETH, ZAYN, DHALETH, YODH, THAW, THETH",
   "10A7D OLD SOUTH ARABIAN: NUMBER ONE, NUMBER FIFTY, NUMERIC INDICATOR",
   "10A80 OLD NORTH ARABIAN LETTER: HEH, LAM, HAH, MEEM, QAF, WAW, ES-2",
   "10A87 OLD NORTH ARABIAN LETTER: REH, BEH, TEH, ES-1, KAF, NOON, KHAH, SAD, ES-3, FEH, ALEF",
   "10A92 OLD NORTH ARABIAN LETTER: AIN, DAD, GEEM, DAL, GHAIN, TAH, ZAIN, THAL, YEH, THEH, ZAH",
   "10A9D OLD NORTH ARABIAN NUMBER: ONE, TEN, TWENTY",
   "10AC0 MANICHAEAN LETTER: ALEPH, BETH, BHETH, GIMEL, GHIMEL, DALETH, HE, WAW",
   "10AC8 MANICHAEAN SIGN UD",
   "10AC9 MANICHAEAN LETTER: ZAYIN, ZHAYIN, JAYIN, JHAYIN, HETH, TETH, YODH",
   "10AD0 MANICHAEAN LETTER: KAPH, XAPH, KHAPH, LAMEDH, DHAMEDH, THAMEDH, MEM, NUN, SAMEKH, AYIN",
   "10ADA MANICHAEAN LETTER: AAYIN, PE, FE, SADHE, QOPH, XOPH, QHOPH, RESH, SHIN, SSHIN, TAW",
   "10AE5 MANICHAEAN ABBREVIATION MARK: ABOVE, BELOW",
   "10AEB MANICHAEAN NUMBER: ONE, FIVE, TEN, TWENTY, ONE HUNDRED",
   "10AF0 MANICHAEAN PUNCTUATION: STAR, FLEURON, DOUBLE DOT WITHIN DOT",
   "10AF3 MANICHAEAN PUNCTUATION: DOT WITHIN DOT, DOT, TWO DOTS, LINE FILLER",
   "10B00 AVESTAN LETTER: A, AA, AO, AAO, AN, AAN",
   "10B06 AVESTAN LETTER: AE, AEE, E, EE, O, OO, I, II, U, UU, KE, XE, XYE, XVE, GE, GGE, GHE, CE",
   "10B18 AVESTAN LETTER: JE, TE, THE, DE, DHE, TTE, PE, FE, BE, BHE, NGE, NGYE, NGVE, NE, NYE",
   "10B27 AVESTAN LETTER: NNE, ME, HME, YYE, YE, VE, RE, LE, SE, ZE, SHE, ZHE, SHYE, SSHE, HE",
   "10B39 AVESTAN ABBREVIATION MARK",
   "10B3A TINY TWO DOTS OVER ONE DOT PUNCTUATION, SMALL TWO DOTS OVER ONE DOT PUNCTUATION",
   "10B3C LARGE: TWO DOTS OVER ONE DOT PUNCTUATION, ONE DOT OVER TWO DOTS PUNCTUATION",
   "10B3E LARGE: TWO RINGS OVER ONE RING PUNCTUATION, ONE RING OVER TWO RINGS PUNCTUATION",
   "10B40 INSCRIPTIONAL PARTHIAN LETTER: ALEPH, BETH, GIMEL",
   "10B43 INSCRIPTIONAL PARTHIAN LETTER: DALETH, HE, WAW, ZAYIN, HETH, TETH, YODH, KAPH, LAMEDH",
   "10B4C INSCRIPTIONAL PARTHIAN LETTER: MEM, NUN, SAMEKH, AYIN, PE, SADHE, QOPH, RESH, SHIN, TAW",
   "10B58 INSCRIPTIONAL PARTHIAN NUMBER: ONE, TWO, THREE, FOUR, TEN, TWENTY, ONE HUNDRED",
   "10B5F INSCRIPTIONAL: PARTHIAN NUMBER ONE THOUSAND, PAHLAVI LETTER ALEPH, PAHLAVI LETTER BETH",
   "10B62 INSCRIPTIONAL PAHLAVI LETTER: GIMEL, DALETH, HE, WAW-AYIN-RESH, ZAYIN, HETH, TETH, YODH",
   "10B6A INSCRIPTIONAL PAHLAVI LETTER: KAPH, LAMEDH, MEM-QOPH, NUN, SAMEKH, PE, SADHE, SHIN, TAW",
   "10B78 INSCRIPTIONAL PAHLAVI NUMBER: ONE, TWO, THREE, FOUR, TEN, TWENTY",
   "10B7E INSCRIPTIONAL PAHLAVI NUMBER ONE: HUNDRED, THOUSAND",
   "10B80 PSALTER PAHLAVI LETTER: ALEPH, BETH, GIMEL, DALETH, HE, WAW-AYIN-RESH, ZAYIN, HETH",
   "10B88 PSALTER PAHLAVI LETTER: YODH, KAPH, LAMEDH, MEM-QOPH, NUN, SAMEKH, PE, SADHE, SHIN, TAW",
   "10B99 PSALTER PAHLAVI: SECTION MARK, TURNED SECTION MARK",
   "10B9B PSALTER PAHLAVI FOUR DOTS WITH: CROSS, DOT",
   "10BA9 PSALTER PAHLAVI NUMBER: ONE, TWO, THREE, FOUR, TEN, TWENTY, ONE HUNDRED",
   "10C00 OLD TURKIC LETTER: ORKHON A, YENISEI A, YENISEI AE, ORKHON I, YENISEI I, YENISEI E",
   "10C06 OLD TURKIC LETTER: ORKHON O, ORKHON OE, YENISEI OE, ORKHON AB, YENISEI AB, ORKHON AEB",
   "10C0C OLD TURKIC LETTER: YENISEI AEB, ORKHON AG, YENISEI AG, ORKHON AEG, YENISEI AEG",
   "10C11 OLD TURKIC LETTER: ORKHON AD, YENISEI AD, ORKHON AED, ORKHON EZ, YENISEI EZ",
   "10C16 OLD TURKIC LETTER: ORKHON AY, YENISEI AY, ORKHON AEY, YENISEI AEY, ORKHON AEK",
   "10C1B OLD TURKIC LETTER: YENISEI AEK, ORKHON OEK, YENISEI OEK, ORKHON AL, YENISEI AL",
   "10C20 OLD TURKIC LETTER ORKHON: AEL, ELT, EM, AN, AEN",
   "10C25 OLD TURKIC LETTER: YENISEI AEN, ORKHON ENT, YENISEI ENT, ORKHON ENC, YENISEI ENC",
   "10C2A OLD TURKIC LETTER: ORKHON ENY, YENISEI ENY, YENISEI ANG, ORKHON ENG, YENISEI AENG",
   "10C2F OLD TURKIC LETTER ORKHON: EP, OP, IC, EC",
   "10C33 OLD TURKIC LETTER: YENISEI EC, ORKHON AQ, YENISEI AQ, ORKHON IQ, YENISEI IQ, ORKHON OQ",
   "10C39 OLD TURKIC LETTER: YENISEI OQ, ORKHON AR, YENISEI AR, ORKHON AER, ORKHON AS, ORKHON AES",
   "10C3F OLD TURKIC LETTER: ORKHON ASH, YENISEI ASH, ORKHON ESH, YENISEI ESH, ORKHON AT",
   "10C44 OLD TURKIC LETTER: YENISEI AT, ORKHON AET, YENISEI AET, ORKHON OT, ORKHON BASH",
   "10C80 OLD HUNGARIAN CAPITAL LETTER: A, AA, EB, AMB, EC, ENC, ECS, ED, AND, E",
   "10C8A OLD HUNGARIAN CAPITAL LETTER: CLOSE E, EE, EF, EG, EGY, EH, I, II, EJ, EK, AK, UNK, EL",
   "10C97 OLD HUNGARIAN CAPITAL LETTER: ELY, EM, EN, ENY, O, OO, NIKOLSBURG OE, RUDIMENTA OE, OEE",
   "10CA0 OLD HUNGARIAN CAPITAL LETTER: EP, EMP, ER, SHORT ER, ES, ESZ, ET, ENT, ETY, ECH, U, UU",
   "10CAC OLD HUNGARIAN CAPITAL LETTER NIKOLSBURG UE",
   "10CAD OLD HUNGARIAN CAPITAL LETTER: RUDIMENTA UE, EV, EZ, EZS, ENT-SHAPED SIGN, US",
   "10CC0 OLD HUNGARIAN SMALL LETTER: A, AA, EB, AMB, EC, ENC, ECS, ED, AND, E, CLOSE E, EE",
   "10CCC OLD HUNGARIAN SMALL LETTER: EF, EG, EGY, EH, I, II, EJ, EK, AK, UNK, EL, ELY, EM, EN",
   "10CDA OLD HUNGARIAN SMALL LETTER: ENY, O, OO, NIKOLSBURG OE, RUDIMENTA OE, OEE, EP, EMP, ER",
   "10CE3 OLD HUNGARIAN SMALL LETTER: SHORT ER, ES, ESZ, ET, ENT, ETY, ECH, U, UU, NIKOLSBURG UE",
   "10CED OLD HUNGARIAN SMALL LETTER: RUDIMENTA UE, EV, EZ, EZS, ENT-SHAPED SIGN, US",
   "10CFA OLD HUNGARIAN NUMBER: ONE, FIVE, TEN, FIFTY, ONE HUNDRED, ONE THOUSAND",
   "10D00 HANIFI ROHINGYA LETTER: A, BA",
   "10D02 HANIFI ROHINGYA LETTER: PA, TA, TTA, JA, CA, HA, KHA, FA, DA, DDA, RA, RRA, ZA, SA, SHA",
   "10D11 HANIFI ROHINGYA LETTER: KA, GA, LA, MA, NA, WA, KINNA WA, YA, KINNA YA, NGA, NYA, VA",
   "10D1D HANIFI ROHINGYA VOWEL: A, I, U, E, O",
   "10D22 HANIFI ROHINGYA MARK: SAKIN, NA KHONNA",
   "10D24 HANIFI ROHINGYA SIGN: HARBAHAY, TAHALA, TANA, TASSI",
   "10D30 HANIFI ROHINGYA DIGIT: ZERO, ONE, TWO, THREE, FOUR, FIVE, SIX, SEVEN, EIGHT, NINE",
   "10E60 RUMI DIGIT: ONE, TWO, THREE, FOUR, FIVE, SIX, SEVEN, EIGHT, NINE",
   "10E69 RUMI NUMBER: TEN, TWENTY, THIRTY, FORTY, FIFTY, SIXTY, SEVENTY",
   "10E70 RUMI NUMBER: EIGHTY, NINETY, ONE HUNDRED, TWO HUNDRED, THREE HUNDRED, FOUR HUNDRED",
   "10E76 RUMI NUMBER: FIVE HUNDRED, SIX HUNDRED, SEVEN HUNDRED, EIGHT HUNDRED, NINE HUNDRED",
   "10E7B RUMI FRACTION: ONE HALF, ONE QUARTER, ONE THIRD, TWO THIRDS",
   "10E80 YEZIDI LETTER ELIF",
   "10E81 YEZIDI LETTER: BE, PE, PHE, THE, SE, CIM, CHIM, CHHIM, HHA, XA, DAL, ZAL, RA, RHA, ZA",
   "10E90 YEZIDI LETTER: JA, SIN, SHIN, SAD, DAD, TA, ZE, EYN, XHEYN, FA, VA, VA ALTERNATE FORM",
   "10E9C YEZIDI LETTER: QAF, KAF, KHAF, GAF, LAM, MIM, NUN, UM, WAW, OW, EW, HAY, YOT, ET",
   "10EAB YEZIDI: COMBINING HAMZA MARK, COMBINING MADDA MARK, HYPHENATION MARK",
   "10EB0 YEZIDI LETTER: LAM WITH DOT ABOVE, YOT WITH CIRCUMFLEX ABOVE",
   "10F00 OLD SOGDIAN LETTER: ALEPH, FINAL ALEPH, BETH, FINAL BETH",
   "10F04 OLD SOGDIAN LETTER: GIMEL, HE, FINAL HE, WAW, ZAYIN, HETH, YODH, KAPH, LAMEDH, MEM, NUN",
   "10F0F OLD SOGDIAN LETTER FINAL: NUN, NUN WITH VERTICAL TAIL",
   "10F11 OLD SOGDIAN LETTER: SAMEKH, AYIN, ALTERNATE AYIN, PE, SADHE, FINAL SADHE",
   "10F17 OLD SOGDIAN LETTER: FINAL SADHE WITH VERTICAL TAIL, RESH-AYIN-DALETH, SHIN, TAW",
   "10F1B OLD SOGDIAN LETTER FINAL: TAW, TAW WITH VERTICAL TAIL",
   "10F1D OLD SOGDIAN NUMBER: ONE, TWO, THREE, FOUR, FIVE, TEN, TWENTY, THIRTY, ONE HUNDRED",
   "10F26 OLD SOGDIAN: FRACTION ONE HALF, LIGATURE AYIN-DALETH",
   "10F30 SOGDIAN LETTER: ALEPH, BETH, GIMEL, HE, WAW, ZAYIN, HETH, YODH, KAPH, LAMEDH",
   "10F3A SOGDIAN LETTER: MEM, NUN, SAMEKH, AYIN, PE, SADHE, RESH-AYIN, SHIN, TAW, FETH, LESH",
   "10F45 SOGDIAN: INDEPENDENT SHIN, COMBINING DOT BELOW",
   "10F47 SOGDIAN COMBINING: TWO DOTS BELOW, DOT ABOVE, TWO DOTS ABOVE, CURVE ABOVE, CURVE BELOW",
   "10F4C SOGDIAN COMBINING: HOOK ABOVE, HOOK BELOW, LONG HOOK BELOW, RESH BELOW, STROKE BELOW",
   "10F51 SOGDIAN NUMBER: ONE, TEN, TWENTY, ONE HUNDRED",
   "10F55 SOGDIAN PUNCTUATION TWO VERTICAL: BARS, BARS WITH DOTS",
   "10F57 SOGDIAN PUNCTUATION: CIRCLE WITH DOT, TWO CIRCLES WITH DOTS, HALF CIRCLE WITH DOT",
   "10F70 OLD UYGHUR LETTER: ALEPH, BETH, GIMEL-HETH, WAW, ZAYIN, FINAL HETH, YODH",
   "10F77 OLD UYGHUR LETTER: KAPH, LAMEDH, MEM, NUN, SAMEKH, PE, SADHE, RESH, SHIN, TAW, LESH",
   "10F82 OLD UYGHUR COMBINING: DOT ABOVE, DOT BELOW, TWO DOTS ABOVE, TWO DOTS BELOW",
   "10F86 OLD UYGHUR PUNCTUATION: BAR, TWO BARS, TWO DOTS, FOUR DOTS",
   "10FB0 CHORASMIAN LETTER ALEPH",
   "10FB1 CHORASMIAN LETTER: SMALL ALEPH, BETH, GIMEL, DALETH, HE, WAW, CURLED WAW, ZAYIN, HETH",
   "10FBA CHORASMIAN LETTER: YODH, KAPH, LAMEDH, MEM, NUN, SAMEKH, AYIN, PE, RESH, SHIN, TAW",
   "10FC5 CHORASMIAN NUMBER: ONE, TWO, THREE, FOUR, TEN, TWENTY, ONE HUNDRED",
   "10FE0 ELYMAIC LETTER: ALEPH, BETH, GIMEL, DALETH, HE, WAW, ZAYIN, HETH, TETH, YODH",
   "10FEA ELYMAIC LETTER: KAPH, LAMEDH, MEM, NUN, SAMEKH, AYIN, PE, SADHE, QOPH, RESH, SHIN, TAW",
   "10FF6 ELYMAIC LIGATURE ZAYIN-YODH",
   "11000 BRAHMI SIGN: CANDRABINDU, ANUSVARA, VISARGA, JIHVAMULIYA, UPADHMANIYA",
   "11005 BRAHMI LETTER: A, AA, I, II, U, UU, VOCALIC R, VOCALIC RR, VOCALIC L, VOCALIC LL",
   "1100F BRAHMI LETTER: E, AI, O, AU, KA, KHA, GA, GHA, NGA, CA, CHA, JA, JHA, NYA, TTA, TTHA",
   "1101F BRAHMI LETTER: DDA, DDHA, NNA, TA, THA, DA, DHA, NA, PA, PHA, BA, BHA, MA, YA, RA, LA",
   "1102F BRAHMI LETTER: VA, SHA, SSA, SA, HA, LLA, OLD TAMIL LLLA, OLD TAMIL RRA, OLD TAMIL NNNA",
   "11038 BRAHMI VOWEL SIGN: AA, BHATTIPROLU AA, I, II",
   "1103C BRAHMI VOWEL SIGN: U, UU, VOCALIC R, VOCALIC RR, VOCALIC L, VOCALIC LL, E, AI, O, AU",
   "11046 BRAHMI: VIRAMA, DANDA, DOUBLE DANDA",
   "11049 BRAHMI PUNCTUATION: DOT, DOUBLE DOT, LINE, CRESCENT BAR, LOTUS",
   "11052 BRAHMI NUMBER: ONE, TWO, THREE, FOUR, FIVE, SIX, SEVEN, EIGHT",
   "1105A BRAHMI NUMBER: NINE, TEN, TWENTY, THIRTY, FORTY, FIFTY, SIXTY, SEVENTY, EIGHTY, NINETY",
   "11064 BRAHMI NUMBER ONE: HUNDRED, THOUSAND",
   "11066 BRAHMI DIGIT: ZERO, ONE, TWO, THREE, FOUR, FIVE, SIX, SEVEN, EIGHT, NINE",
   "11070 BRAHMI SIGN OLD TAMIL VIRAMA",
   "11071 BRAHMI LETTER OLD TAMIL SHORT: E, O",
   "11073 BRAHMI VOWEL SIGN OLD TAMIL SHORT: E, O",
   "11075 BRAHMI LETTER OLD TAMIL LLA",
   "1107F BRAHMI NUMBER JOINER",
   "11080 KAITHI SIGN: CANDRABINDU, ANUSVARA, VISARGA",
   "11083 KAITHI LETTER: A, AA, I, II, U, UU, E, AI, O, AU, KA, KHA, GA, GHA",
   "11091 KAITHI LETTER: NGA, CA, CHA, JA, JHA, NYA, TTA, TTHA, DDA, DDDHA, DDHA, RHA, NNA, TA",
   "1109F KAITHI LETTER: THA, DA, DHA, NA, PA, PHA, BA, BHA, MA, YA, RA, LA, VA, SHA, SSA, SA, HA",
   "110B0 KAITHI VOWEL SIGN: AA, I, II, U, UU, E, AI, O, AU",
   "110B9 KAITHI: SIGN VIRAMA, SIGN NUKTA, ABBREVIATION SIGN, ENUMERATION SIGN, NUMBER SIGN",
   "110BE KAITHI: SECTION MARK, DOUBLE SECTION MARK, DANDA, DOUBLE DANDA, VOWEL SIGN VOCALIC R",
   "110CD KAITHI NUMBER SIGN ABOVE",
   "110D0 SORA SOMPENG LETTER: SAH, TAH, BAH, CAH, DAH, GAH, MAH, NGAH, LAH, NAH, VAH",
   "110DB SORA SOMPENG LETTER: PAH, YAH, RAH, HAH, KAH, JAH, NYAH, AH, EEH, IH, UH, OH, EH, MAE",
   "110F0 SORA SOMPENG DIGIT: ZERO, ONE, TWO, THREE, FOUR, FIVE, SIX, SEVEN, EIGHT, NINE",
   "11100 CHAKMA SIGN: CANDRABINDU, ANUSVARA, VISARGA",
   "11103 CHAKMA LETTER: AA, I, U, E, KAA, KHAA, GAA, GHAA, NGAA, CAA",
   "1110D CHAKMA LETTER: CHAA, JAA, JHAA, NYAA, TTAA, TTHAA, DDAA, DDHAA, NNAA, TAA, THAA, DAA",
   "11119 CHAKMA LETTER: DHAA, NAA, PAA, PHAA, BAA, BHAA, MAA, YYAA, YAA, RAA, LAA, WAA, SAA, HAA",
   "11127 CHAKMA VOWEL SIGN: A, I, II, U, UU, E, AI, O, AU, OI",
   "11131 CHAKMA: O MARK, AU MARK, VIRAMA, MAAYYAA",
   "11136 CHAKMA DIGIT: ZERO, ONE, TWO, THREE, FOUR, FIVE, SIX, SEVEN, EIGHT, NINE",
   "11140 CHAKMA: SECTION MARK, DANDA, DOUBLE DANDA",
   "11143 CHAKMA: QUESTION MARK, LETTER LHAA, VOWEL SIGN AA, VOWEL SIGN EI, LETTER VAA",
   "11150 MAHAJANI LETTER: A, I, U, E",
   "11154 MAHAJANI LETTER: O, KA, KHA, GA, GHA, CA, CHA, JA, JHA, NYA, TTA, TTHA, DDA, DDHA, NNA",
   "11163 MAHAJANI LETTER: TA, THA, DA, DHA, NA, PA, PHA, BA, BHA, MA, RA, LA, VA, SA, HA, RRA",
   "11173 MAHAJANI: SIGN NUKTA, ABBREVIATION SIGN, SECTION MARK, LIGATURE SHRI",
   "11180 SHARADA SIGN: CANDRABINDU, ANUSVARA, VISARGA",
   "11183 SHARADA LETTER: A, AA, I, II, U, UU",
   "11189 SHARADA LETTER: VOCALIC R, VOCALIC RR, VOCALIC L, VOCALIC LL, E, AI, O, AU, KA, KHA, GA",
   "11194 SHARADA LETTER: GHA, NGA, CA, CHA, JA, JHA, NYA, TTA, TTHA, DDA, DDHA, NNA, TA, THA, DA",
   "111A3 SHARADA LETTER: DHA, NA, PA, PHA, BA, BHA, MA, YA, RA, LA, LLA, VA, SHA, SSA, SA, HA",
   "111B3 SHARADA VOWEL SIGN: AA, I, II",
   "111B6 SHARADA VOWEL SIGN: U, UU, VOCALIC R, VOCALIC RR, VOCALIC L, VOCALIC LL, E, AI, O, AU",
   "111C0 SHARADA SIGN: VIRAMA, AVAGRAHA, JIHVAMULIYA, UPADHMANIYA",
   "111C4 SHARADA: OM, DANDA, DOUBLE DANDA, ABBREVIATION SIGN, SEPARATOR",
   "111C9 SHARADA: SANDHI MARK, SIGN NUKTA, VOWEL MODIFIER MARK, EXTRA SHORT VOWEL MARK",
   "111CD SHARADA: SUTRA MARK, VOWEL SIGN PRISHTHAMATRA E, SIGN INVERTED CANDRABINDU",
   "111D0 SHARADA DIGIT: ZERO, ONE, TWO, THREE, FOUR, FIVE, SIX, SEVEN, EIGHT, NINE",
   "111DA SHARADA: EKAM, SIGN SIDDHAM, HEADSTROKE, CONTINUATION SIGN",
   "111DE SHARADA SECTION: MARK-1, MARK-2",
   "111E1 SINHALA ARCHAIC DIGIT: ONE, TWO, THREE, FOUR, FIVE, SIX, SEVEN, EIGHT, NINE",
   "111EA SINHALA ARCHAIC NUMBER: TEN, TWENTY, THIRTY, FORTY, FIFTY",
   "111EF SINHALA ARCHAIC NUMBER: SIXTY, SEVENTY, EIGHTY, NINETY, ONE HUNDRED, ONE THOUSAND",
   "11200 KHOJKI LETTER: A, AA, I, U, E, AI, O, AU, KA, KHA, GA, GGA, GHA, NGA, CA, CHA, JA, JJA",
   "11213 KHOJKI LETTER: NYA, TTA, TTHA, DDA, DDHA, NNA, TA, THA, DA",
   "1121C KHOJKI LETTER: DDDA, DHA, NA, PA, PHA, BA, BBA, BHA, MA, YA, RA, LA, VA, SA, HA, LLA",
   "1122C KHOJKI VOWEL SIGN: AA, I, II, U, E, AI, O, AU",
   "11234 KHOJKI SIGN: ANUSVARA, VIRAMA, NUKTA, SHADDA",
   "11238 KHOJKI: DANDA, DOUBLE DANDA, WORD SEPARATOR",
   "1123B KHOJKI: SECTION MARK, DOUBLE SECTION MARK, ABBREVIATION SIGN, SIGN SUKUN",
   "11280 MULTANI LETTER: A, I, U, E, KA, KHA, GA",
   "11288 MULTANI LETTER GHA",
   "1128A MULTANI LETTER: CA, CHA, JA, JJA",
   "1128F MULTANI LETTER: NYA, TTA, TTHA, DDA, DDDA, DDHA, NNA, TA, THA, DA, DHA, NA, PA, PHA, BA",
   "1129F MULTANI LETTER: BHA, MA, YA, RA, LA, VA, SA, HA, RRA, RHA",
   "112A9 MULTANI SECTION MARK",
   "112B0 KHUDAWADI LETTER: A, AA, I, II, U, UU, E, AI, O, AU, KA, KHA, GA, GGA, GHA, NGA, CA",
   "112C1 KHUDAWADI LETTER: CHA, JA, JJA, JHA, NYA, TTA, TTHA, DDA, DDDA, RRA, DDHA, NNA, TA, THA",
   "112CF KHUDAWADI LETTER: DA, DHA, NA, PA, PHA, BA, BBA, BHA, MA, YA, RA, LA, VA, SHA, SA, HA",
   "112DF KHUDAWADI SIGN ANUSVARA",
   "112E0 KHUDAWADI VOWEL SIGN: AA, I, II, U, UU, E, AI, O, AU",
   "112E9 KHUDAWADI SIGN: NUKTA, VIRAMA",
   "112F0 KHUDAWADI DIGIT: ZERO, ONE, TWO, THREE, FOUR, FIVE, SIX, SEVEN, EIGHT, NINE",
   "11300 GRANTHA SIGN: COMBINING ANUSVARA ABOVE, CANDRABINDU, ANUSVARA, VISARGA",
   "11305 GRANTHA LETTER: A, AA, I, II, U, UU, VOCALIC R, VOCALIC L",
   "1130F GRANTHA LETTER: EE, AI",
   "11313 GRANTHA LETTER: OO, AU, KA, KHA, GA, GHA, NGA",
   "1131A GRANTHA LETTER: CA, CHA, JA, JHA, NYA, TTA, TTHA, DDA, DDHA, NNA, TA, THA, DA, DHA, NA",
   "1132A GRANTHA LETTER: PA, PHA, BA, BHA, MA, YA, RA",
   "11332 GRANTHA LETTER: LA, LLA",
   "11335 GRANTHA LETTER: VA, SHA, SSA, SA, HA",
   "1133B COMBINING BINDU BELOW",
   "1133C GRANTHA SIGN: NUKTA, AVAGRAHA",
   "1133E GRANTHA VOWEL SIGN: AA, I, II, U, UU, VOCALIC R, VOCALIC RR",
   "11347 GRANTHA VOWEL SIGN: EE, AI",
   "1134B GRANTHA: VOWEL SIGN OO, VOWEL SIGN AU, SIGN VIRAMA",
   "11350 GRANTHA OM",
   "11357 GRANTHA AU LENGTH MARK",
   "1135D GRANTHA SIGN PLUTA",
   "1135E GRANTHA LETTER: VEDIC ANUSVARA, VEDIC DOUBLE ANUSVARA, VOCALIC RR, VOCALIC LL",
   "11362 GRANTHA VOWEL SIGN VOCALIC: L, LL",
   "11366 COMBINING GRANTHA DIGIT: ZERO, ONE, TWO, THREE, FOUR, FIVE, SIX",
   "11370 COMBINING GRANTHA LETTER: A, KA, NA, VI, PA",
   "11400 NEWA LETTER: A, AA, I, II, U, UU, VOCALIC R, VOCALIC RR",
   "11408 NEWA LETTER: VOCALIC L, VOCALIC LL, E, AI, O, AU, KA, KHA, GA, GHA, NGA, NGHA, CA",
   "11415 NEWA LETTER: CHA, JA, JHA, NYA, NYHA, TTA, TTHA, DDA, DDHA, NNA, TA, THA, DA, DHA, NA",
   "11424 NEWA LETTER: NHA, PA, PHA, BA, BHA, MA, MHA, YA, RA, RHA, LA, LHA, WA, SHA, SSA, SA, HA",
   "11435 NEWA VOWEL SIGN: AA, I",
   "11437 NEWA VOWEL SIGN: II, U, UU, VOCALIC R, VOCALIC RR, VOCALIC L, VOCALIC LL, E, AI, O, AU",
   "11442 NEWA SIGN: VIRAMA, CANDRABINDU, ANUSVARA, VISARGA, NUKTA, AVAGRAHA, FINAL ANUSVARA",
   "11449 NEWA: OM, SIDDHI, DANDA, DOUBLE DANDA, COMMA, GAP FILLER, ABBREVIATION SIGN",
   "11450 NEWA DIGIT: ZERO, ONE, TWO, THREE, FOUR, FIVE, SIX, SEVEN, EIGHT, NINE",
   "1145A NEWA: DOUBLE COMMA, PLACEHOLDER MARK",
   "1145D NEWA: INSERTION SIGN, SANDHI MARK, LETTER VEDIC ANUSVARA",
   "11460 NEWA SIGN: JIHVAMULIYA, UPADHMANIYA",
   "11480 TIRHUTA ANJI",
   "11481 TIRHUTA LETTER: A, AA, I, II, U",
   "11486 TIRHUTA LETTER: UU, VOCALIC R, VOCALIC RR, VOCALIC L, VOCALIC LL, E, AI, O, AU, KA, KHA",
   "11491 TIRHUTA LETTER: GA, GHA, NGA, CA, CHA, JA, JHA, NYA, TTA, TTHA, DDA, DDHA, NNA, TA, THA",
   "114A0 TIRHUTA LETTER: DA, DHA, NA, PA, PHA, BA, BHA, MA, YA, RA, LA, VA, SHA, SSA, SA, HA",
   "114B0 TIRHUTA VOWEL SIGN: AA, I, II, U, UU, VOCALIC R",
   "114B6 TIRHUTA VOWEL SIGN: VOCALIC RR, VOCALIC L, VOCALIC LL, E, SHORT E, AI, O, SHORT O, AU",
   "114BF TIRHUTA SIGN: CANDRABINDU, ANUSVARA, VISARGA, VIRAMA, NUKTA, AVAGRAHA",
   "114C5 TIRHUTA: GVANG, ABBREVIATION SIGN, OM",
   "114D0 TIRHUTA DIGIT: ZERO, ONE, TWO, THREE, FOUR, FIVE, SIX, SEVEN, EIGHT, NINE",
   "11580 SIDDHAM LETTER: A, AA, I, II, U",
   "11585 SIDDHAM LETTER: UU, VOCALIC R, VOCALIC RR, VOCALIC L, VOCALIC LL, E, AI, O, AU, KA, KHA",
   "11590 SIDDHAM LETTER: GA, GHA, NGA, CA, CHA, JA, JHA, NYA, TTA, TTHA, DDA, DDHA, NNA, TA, THA",
   "1159F SIDDHAM LETTER: DA, DHA, NA, PA, PHA, BA, BHA, MA, YA, RA, LA, VA, SHA, SSA, SA, HA",
   "115AF SIDDHAM VOWEL SIGN: AA, I, II, U, UU, VOCALIC R, VOCALIC RR",
   "115B8 SIDDHAM VOWEL SIGN: E, AI, O, AU",
   "115BC SIDDHAM SIGN: CANDRABINDU, ANUSVARA, VISARGA, VIRAMA, NUKTA, SIDDHAM",
   "115C2 SIDDHAM: DANDA, DOUBLE DANDA, SEPARATOR DOT, SEPARATOR BAR",
   "115C6 SIDDHAM REPETITION: MARK-1, MARK-2, MARK-3",
   "115C9 SIDDHAM: END OF TEXT MARK, SECTION MARK WITH TRIDENT AND U-SHAPED ORNAMENTS",
   "115CB SIDDHAM SECTION MARK WITH: TRIDENT AND DOTTED CRESCENTS, RAYS AND DOTTED CRESCENTS",
   "115CD SIDDHAM SECTION MARK WITH RAYS AND DOTTED: DOUBLE CRESCENTS, TRIPLE CRESCENTS",
   "115CF SIDDHAM SECTION MARK: DOUBLE RING, DOUBLE RING WITH RAYS, WITH DOUBLE CRESCENTS",
   "115D2 SIDDHAM SECTION MARK WITH: TRIPLE CRESCENTS, QUADRUPLE CRESCENTS, SEPTUPLE CRESCENTS",
   "115D5 SIDDHAM SECTION MARK WITH CIRCLES AND: RAYS, TWO ENCLOSURES, FOUR ENCLOSURES",
   "115D8 SIDDHAM LETTER THREE-CIRCLE ALTERNATE I",
   "115D9 SIDDHAM LETTER: TWO-CIRCLE ALTERNATE I, TWO-CIRCLE ALTERNATE II, ALTERNATE U",
   "115DC SIDDHAM VOWEL SIGN ALTERNATE: U, UU",
   "11600 MODI LETTER: A, AA, I, II",
   "11604 MODI LETTER: U, UU, VOCALIC R, VOCALIC RR, VOCALIC L, VOCALIC LL, E, AI, O, AU, KA, KHA",
   "11610 MODI LETTER: GA, GHA, NGA, CA, CHA, JA, JHA, NYA, TTA, TTHA, DDA, DDHA, NNA, TA, THA",
   "1161F MODI LETTER: DA, DHA, NA, PA, PHA, BA, BHA, MA, YA, RA, LA, VA, SHA, SSA, SA, HA, LLA",
   "11630 MODI VOWEL SIGN: AA, I",
   "11632 MODI VOWEL SIGN: II, U, UU, VOCALIC R, VOCALIC RR, VOCALIC L, VOCALIC LL, E, AI, O, AU",
   "1163D MODI SIGN: ANUSVARA, VISARGA, VIRAMA, ARDHACANDRA",
   "11641 MODI: DANDA, DOUBLE DANDA, ABBREVIATION SIGN, SIGN HUVA",
   "11650 MODI DIGIT: ZERO, ONE, TWO, THREE, FOUR, FIVE, SIX, SEVEN, EIGHT, NINE",
   "11660 MONGOLIAN: BIRGA WITH ORNAMENT, ROTATED BIRGA, DOUBLE BIRGA WITH ORNAMENT",
   "11663 MONGOLIAN: TRIPLE BIRGA WITH ORNAMENT, BIRGA WITH DOUBLE ORNAMENT",
   "11665 MONGOLIAN ROTATED BIRGA WITH: ORNAMENT, DOUBLE ORNAMENT",
   "11667 MONGOLIAN INVERTED: BIRGA, BIRGA WITH DOUBLE ORNAMENT",
   "11669 MONGOLIAN SWIRL: BIRGA, BIRGA WITH ORNAMENT, BIRGA WITH DOUBLE ORNAMENT",
   "1166C MONGOLIAN TURNED SWIRL BIRGA WITH DOUBLE ORNAMENT",
   "11680 TAKRI LETTER: A, AA, I, II, U, UU, E, AI, O, AU, KA",
   "1168B TAKRI LETTER: KHA, GA, GHA, NGA, CA, CHA, JA, JHA, NYA, TTA, TTHA, DDA, DDHA, NNA, TA",
   "1169A TAKRI LETTER: THA, DA, DHA, NA, PA, PHA, BA, BHA, MA, YA, RA, LA, VA, SHA, SA, HA, RRA",
   "116AB TAKRI SIGN: ANUSVARA, VISARGA",
   "116AD TAKRI VOWEL SIGN: AA, I, II, U, UU, E, AI, O, AU",
   "116B6 TAKRI: SIGN VIRAMA, SIGN NUKTA, LETTER ARCHAIC KHA, ABBREVIATION SIGN",
   "116C0 TAKRI DIGIT: ZERO, ONE, TWO, THREE, FOUR, FIVE, SIX, SEVEN, EIGHT, NINE",
   "11700 AHOM LETTER: KA, KHA, NGA, NA, TA, ALTERNATE TA, PA, PHA, BA, MA, JA, CHA, THA, RA",
   "1170E AHOM LETTER: LA, SA, NYA, HA, A, DA, DHA, GA, ALTERNATE GA, GHA, BHA, JHA, ALTERNATE BA",
   "1171D AHOM CONSONANT SIGN MEDIAL: LA, RA, LIGATING RA",
   "11720 AHOM VOWEL SIGN: A, AA, I, II, U, UU, E, AW, O, AI, AM",
   "1172B AHOM SIGN KILLER",
   "11730 AHOM DIGIT: ZERO, ONE, TWO, THREE, FOUR, FIVE, SIX, SEVEN, EIGHT, NINE",
   "1173A AHOM NUMBER: TEN, TWENTY",
   "1173C AHOM: SIGN SMALL SECTION, SIGN SECTION, SIGN RULAI, SYMBOL VI",
   "11740 AHOM LETTER: CA, TTA, TTHA, DDA, DDHA, NNA, LLA",
   "11800 DOGRA LETTER: A, AA, I, II, U, UU, E, AI, O, AU, KA, KHA",
   "1180C DOGRA LETTER: GA, GHA, NGA, CA, CHA, JA, JHA, NYA, TTA, TTHA, DDA, DDHA, NNA, TA, THA",
   "1181B DOGRA LETTER: DA, DHA, NA, PA, PHA, BA, BHA, MA, YA, RA, LA, VA, SHA, SSA, SA, HA, RRA",
   "1182C DOGRA VOWEL SIGN: AA, I, II, U, UU, VOCALIC R, VOCALIC RR, E, AI, O, AU",
   "11837 DOGRA: SIGN ANUSVARA, SIGN VISARGA, SIGN VIRAMA, SIGN NUKTA, ABBREVIATION SIGN",
   "118A0 WARANG CITI CAPITAL LETTER: NGAA, A, WI, YU, YA, YO, II",
   "118A7 WARANG CITI CAPITAL LETTER: UU, E, O, ANG, GA, KO, ENY, YUJ, UC, ENN, ODD, TTE, NUNG",
   "118B4 WARANG CITI CAPITAL LETTER: DA, AT, AM, BU, PU, HIYO, HOLO, HORR, HAR, SSUU, SII, VIYO",
   "118C0 WARANG CITI SMALL LETTER: NGAA, A, WI, YU, YA, YO",
   "118C6 WARANG CITI SMALL LETTER: II, UU, E, O, ANG, GA, KO, ENY, YUJ, UC, ENN, ODD, TTE, NUNG",
   "118D4 WARANG CITI SMALL LETTER: DA, AT, AM, BU, PU, HIYO, HOLO, HORR, HAR, SSUU, SII, VIYO",
   "118E0 WARANG CITI DIGIT: ZERO, ONE, TWO, THREE, FOUR, FIVE, SIX, SEVEN, EIGHT, NINE",
   "118EA WARANG CITI NUMBER: TEN, TWENTY, THIRTY, FORTY, FIFTY, SIXTY, SEVENTY, EIGHTY, NINETY",
   "118FF WARANG CITI OM",
   "11900 DIVES AKURU LETTER: A, AA, I, II, U, UU, E",
   "11909 DIVES AKURU LETTER O",
   "1190C DIVES AKURU LETTER: KA, KHA, GA, GHA, NGA, CA, CHA, JA",
   "11915 DIVES AKURU LETTER: NYA, TTA",
   "11918 DIVES AKURU LETTER: DDA, DDHA, NNA, TA, THA, DA, DHA, NA, PA",
   "11921 DIVES AKURU LETTER: PHA, BA, BHA, MA, YA, YYA, RA, LA, VA, SHA, SSA, SA, HA, LLA, ZA",
   "11930 DIVES AKURU VOWEL SIGN: AA, I, II, U, UU, E",
   "11937 DIVES AKURU VOWEL SIGN: AI, O",
   "1193B DIVES AKURU SIGN: ANUSVARA, CANDRABINDU, HALANTA",
   "1193E DIVES AKURU: VIRAMA, PREFIXED NASAL SIGN, MEDIAL YA, INITIAL RA",
   "11942 DIVES AKURU: MEDIAL RA, SIGN NUKTA, DOUBLE DANDA, GAP FILLER, END OF TEXT MARK",
   "11950 DIVES AKURU DIGIT: ZERO, ONE, TWO, THREE, FOUR, FIVE, SIX, SEVEN, EIGHT, NINE",
   "119A0 NANDINAGARI LETTER: A, AA, I, II, U, UU, VOCALIC R, VOCALIC RR",
   "119AA NANDINAGARI LETTER: E, AI, O, AU, KA, KHA, GA, GHA, NGA, CA",
   "119B4 NANDINAGARI LETTER: CHA, JA, JHA, NYA, TTA, TTHA, DDA, DDHA, NNA, TA, THA, DA, DHA, NA",
   "119C2 NANDINAGARI LETTER: PA, PHA, BA, BHA, MA, YA, RA, LA, VA, SHA, SSA, SA, HA, LLA, RRA",
   "119D1 NANDINAGARI VOWEL SIGN: AA, I, II, U, UU, VOCALIC R, VOCALIC RR",
   "119DA NANDINAGARI VOWEL SIGN: E, AI, O, AU",
   "119DE NANDINAGARI SIGN: ANUSVARA, VISARGA, VIRAMA, AVAGRAHA, SIDDHAM",
   "119E3 NANDINAGARI: HEADSTROKE, VOWEL SIGN PRISHTHAMATRA E",
   "11A00 ZANABAZAR SQUARE LETTER A",
   "11A01 ZANABAZAR SQUARE VOWEL SIGN: I, UE, U, E, OE, O, AI, AU, REVERSED I",
   "11A0A ZANABAZAR SQUARE VOWEL LENGTH MARK",
   "11A0B ZANABAZAR SQUARE LETTER: KA, KHA, GA, GHA, NGA, CA, CHA, JA, NYA, TTA, TTHA, DDA, DDHA",
   "11A18 ZANABAZAR SQUARE LETTER: NNA, TA, THA, DA, DHA, NA, PA, PHA, BA, BHA, MA, TSA, TSHA",
   "11A25 ZANABAZAR SQUARE LETTER: DZA, DZHA, ZHA, ZA, -A, YA, RA, LA, VA, SHA, SSA, SA, HA, KSSA",
   "11A33 ZANABAZAR SQUARE: FINAL CONSONANT MARK, SIGN VIRAMA",
   "11A35 ZANABAZAR SQUARE SIGN: CANDRABINDU, CANDRABINDU WITH ORNAMENT, CANDRA WITH ORNAMENT",
   "11A38 ZANABAZAR SQUARE: SIGN ANUSVARA, SIGN VISARGA, CLUSTER-INITIAL LETTER RA",
   "11A3B ZANABAZAR SQUARE CLUSTER-FINAL LETTER: YA, RA, LA, VA",
   "11A3F ZANABAZAR SQUARE: INITIAL HEAD MARK, CLOSING HEAD MARK, MARK TSHEG, MARK SHAD",
   "11A43 ZANABAZAR SQUARE: MARK DOUBLE SHAD, MARK LONG TSHEG, INITIAL DOUBLE-LINED HEAD MARK",
   "11A46 ZANABAZAR SQUARE: CLOSING DOUBLE-LINED HEAD MARK, SUBJOINER",
   "11A50 SOYOMBO LETTER A",
   "11A51 SOYOMBO VOWEL SIGN: I, UE, U, E, O, OE, AI, AU, VOCALIC R, VOCALIC L",
   "11A5B SOYOMBO VOWEL LENGTH MARK",
   "11A5C SOYOMBO LETTER: KA, KHA, GA, GHA, NGA, CA, CHA, JA, JHA",
   "11A65 SOYOMBO LETTER: NYA, TTA, TTHA, DDA, DDHA, NNA, TA, THA, DA, DHA, NA, PA, PHA, BA, BHA",
   "11A74 SOYOMBO LETTER: MA, TSA, TSHA, DZA, ZHA, ZA, -A, YA, RA, LA, VA, SHA, SSA, SA, HA, KSSA",
   "11A84 SOYOMBO SIGN: JIHVAMULIYA, UPADHMANIYA",
   "11A86 SOYOMBO CLUSTER-INITIAL LETTER: RA, LA, SHA, SA",
   "11A8A SOYOMBO FINAL CONSONANT SIGN: G, K, NG, D, N, B, M, R, L, SH, S, -A",
   "11A96 SOYOMBO: SIGN ANUSVARA, SIGN VISARGA, GEMINATION MARK, SUBJOINER",
   "11A9A SOYOMBO MARK: TSHEG, SHAD, DOUBLE SHAD, PLUTA",
   "11A9E SOYOMBO HEAD MARK WITH MOON AND: SUN AND TRIPLE FLAME, SUN AND FLAME, SUN",
   "11AA1 SOYOMBO TERMINAL: MARK-1, MARK-2",
   "11AB0 CANADIAN SYLLABICS NATTILIK: HI, HII, HO, HOO, HA, HAA, SHRI, SHRII, SHRO, SHROO, SHRA",
   "11ABB CANADIAN SYLLABICS: NATTILIK SHRAA, SPE, SPI, SPO, SPA",
   "11AC0 PAU CIN HAU LETTER: PA, KA, LA, MA, DA, ZA, VA, NGA, HA, GA, KHA",
   "11ACB PAU CIN HAU LETTER: SA, BA, CA, TA, THA, NA, PHA, RA, FA, CHA, A, E, I, O, U, UA, IA",
   "11ADC PAU CIN HAU LETTER FINAL: P, K, T, M, N, L, W, NG, Y",
   "11AE5 PAU CIN HAU: RISING TONE LONG, RISING TONE, SANDHI GLOTTAL STOP",
   "11AE8 PAU CIN HAU RISING TONE: LONG FINAL, FINAL",
   "11AEA PAU CIN HAU SANDHI: GLOTTAL STOP FINAL, TONE LONG, TONE, TONE LONG FINAL, TONE FINAL",
   "11AEF PAU CIN HAU: MID-LEVEL TONE, GLOTTAL STOP VARIANT",
   "11AF1 PAU CIN HAU MID-LEVEL TONE: LONG FINAL, FINAL",
   "11AF3 PAU CIN HAU: LOW-FALLING TONE LONG, LOW-FALLING TONE, GLOTTAL STOP",
   "11AF6 PAU CIN HAU: LOW-FALLING TONE LONG FINAL, LOW-FALLING TONE FINAL, GLOTTAL STOP FINAL",
   "11C00 BHAIKSUKI LETTER: A, AA, I, II, U, UU, VOCALIC R, VOCALIC RR, VOCALIC L",
   "11C0A BHAIKSUKI LETTER: E, AI, O, AU, KA, KHA, GA",
   "11C11 BHAIKSUKI LETTER: GHA, NGA, CA, CHA, JA, JHA, NYA, TTA, TTHA, DDA, DDHA, NNA, TA, THA",
   "11C1F BHAIKSUKI LETTER: DA, DHA, NA, PA, PHA, BA, BHA, MA, YA, RA, LA, VA, SHA, SSA, SA, HA",
   "11C2F BHAIKSUKI VOWEL SIGN: AA, I, II, U, UU, VOCALIC R, VOCALIC RR, VOCALIC L",
   "11C38 BHAIKSUKI VOWEL SIGN: E, AI, O, AU",
   "11C3C BHAIKSUKI SIGN: CANDRABINDU, ANUSVARA, VISARGA, VIRAMA, AVAGRAHA",
   "11C41 BHAIKSUKI: DANDA, DOUBLE DANDA, WORD SEPARATOR, GAP FILLER-1, GAP FILLER-2",
   "11C50 BHAIKSUKI DIGIT: ZERO, ONE, TWO, THREE, FOUR, FIVE, SIX, SEVEN, EIGHT, NINE",
   "11C5A BHAIKSUKI NUMBER: ONE, TWO, THREE, FOUR, FIVE, SIX, SEVEN, EIGHT, NINE",
   "11C63 BHAIKSUKI NUMBER: TEN, TWENTY, THIRTY, FORTY, FIFTY, SIXTY, SEVENTY, EIGHTY, NINETY",
   "11C6C BHAIKSUKI HUNDREDS UNIT MARK",
   "11C70 MARCHEN: HEAD MARK, MARK SHAD",
   "11C72 MARCHEN LETTER: KA, KHA, GA, NGA, CA, CHA, JA, NYA, TA, THA, DA, NA, PA, PHA",
   "11C80 MARCHEN LETTER: BA, MA, TSA, TSHA, DZA, WA, ZHA, ZA, -A, YA, RA, LA, SHA, SA, HA, A",
   "11C92 MARCHEN SUBJOINED LETTER: KA, KHA, GA, NGA, CA, CHA, JA, NYA",
   "11C9A MARCHEN SUBJOINED LETTER: TA, THA, DA, NA, PA, PHA, BA, MA, TSA, TSHA, DZA, WA, ZHA, ZA",
   "11CA9 MARCHEN SUBJOINED LETTER: YA, RA, LA, SHA, SA, HA, A",
   "11CB0 MARCHEN VOWEL SIGN: AA, I, U, E, O",
   "11CB5 MARCHEN SIGN: ANUSVARA, CANDRABINDU",
   "11D00 MASARAM GONDI LETTER: A, AA, I, II, U, UU, E",
   "11D08 MASARAM GONDI LETTER: AI, O",
   "11D0B MASARAM GONDI LETTER: AU, KA, KHA, GA, GHA, NGA, CA, CHA, JA, JHA",
   "11D15 MASARAM GONDI LETTER: NYA, TTA, TTHA, DDA, DDHA, NNA, TA, THA, DA, DHA, NA, PA, PHA, BA",
   "11D23 MASARAM GONDI LETTER: BHA, MA, YA, RA, LA, VA, SHA, SSA, SA, HA, LLA, KSSA, JNYA, TRA",
   "11D31 MASARAM GONDI VOWEL SIGN: AA, I, II, U, UU, VOCALIC R",
   "11D3A MASARAM GONDI VOWEL SIGN E",
   "11D3C MASARAM GONDI VOWEL SIGN: AI, O",
   "11D3F MASARAM GONDI: VOWEL SIGN AU, SIGN ANUSVARA, SIGN VISARGA",
   "11D42 MASARAM GONDI: SIGN NUKTA, SIGN CANDRA, SIGN HALANTA, VIRAMA, REPHA, RA-KARA",
   "11D50 MASARAM GONDI DIGIT: ZERO, ONE, TWO, THREE, FOUR, FIVE, SIX, SEVEN, EIGHT, NINE",
   "11D60 GUNJALA GONDI LETTER: A, AA, I, II, U, UU",
   "11D67 GUNJALA GONDI LETTER: EE, AI",
   "11D6A GUNJALA GONDI LETTER: OO, AU, YA",
   "11D6D GUNJALA GONDI LETTER: VA, BA, BHA, MA, KA, KHA, TA, THA, LA, GA, GHA, DA, DHA, NA, CA",
   "11D7C GUNJALA GONDI LETTER: CHA, TTA, TTHA, LLA, JA, JHA, DDA, DDHA, NGA, PA, PHA, HA, RA, SA",
   "11D8A GUNJALA GONDI VOWEL SIGN: AA, I, II, U, UU",
   "11D90 GUNJALA GONDI VOWEL SIGN: EE, AI",
   "11D93 GUNJALA GONDI: VOWEL SIGN OO, VOWEL SIGN AU, SIGN ANUSVARA, SIGN VISARGA, VIRAMA, OM",
   "11DA0 GUNJALA GONDI DIGIT: ZERO, ONE, TWO, THREE, FOUR, FIVE, SIX, SEVEN, EIGHT, NINE",
   "11EE0 MAKASAR LETTER: KA, GA, NGA, PA, BA, MA, TA, DA, NA, CA, JA, NYA, YA, RA, LA, VA, SA, A",
   "11EF2 MAKASAR ANGKA",
   "11EF3 MAKASAR VOWEL SIGN: I, U, E, O",
   "11EF7 MAKASAR: PASSIMBANG, END OF SECTION",
   "11FB0 LISU LETTER YHA",
   "11FC0 TAMIL FRACTION ONE: THREE-HUNDRED-AND-TWENTIETH, ONE-HUNDRED-AND-SIXTIETH",
   "11FC2 TAMIL FRACTION ONE: EIGHTIETH, SIXTY-FOURTH, FORTIETH, THIRTY-SECOND",
   "11FC6 TAMIL FRACTION THREE: EIGHTIETHS, SIXTY-FOURTHS",
   "11FC8 TAMIL FRACTION ONE: TWENTIETH, SIXTEENTH-1, SIXTEENTH-2, TENTH, EIGHTH",
   "11FCD TAMIL FRACTION: THREE TWENTIETHS, THREE SIXTEENTHS, ONE FIFTH, ONE QUARTER",
   "11FD1 TAMIL FRACTION: ONE HALF-1, ONE HALF-2, THREE QUARTERS, DOWNSCALING FACTOR KIIZH",
   "11FD5 TAMIL SIGN: NEL, CEVITU, AAZHAAKKU, UZHAKKU, MUUVUZHAKKU, KURUNI",
   "11FDB TAMIL SIGN: PATHAKKU, MUKKURUNI, KAACU, PANAM, PON, VARAAKAN, PAARAM, KUZHI, VELI",
   "11FE4 TAMIL: WET CULTIVATION SIGN, DRY CULTIVATION SIGN, LAND SIGN, SALT PAN SIGN",
   "11FE8 TAMIL TRADITIONAL: CREDIT SIGN, NUMBER SIGN",
   "11FEA TAMIL: CURRENT SIGN, AND ODD SIGN, SPENT SIGN, TOTAL SIGN",
   "11FEE TAMIL: IN POSSESSION SIGN, STARTING FROM SIGN, SIGN MUTHALIYA, SIGN VAKAIYARAA",
   "11FFF TAMIL PUNCTUATION END OF TEXT, CUNEIFORM SIGN A",
   "12001 CUNEIFORM SIGN A TIMES: A, BAD, GAN2 TENU, HA, IGI, LAGAR GUNU, MUSH, SAG",
   "12009 CUNEIFORM SIGN: A2, AB",
   "1200B CUNEIFORM SIGN AB TIMES: ASH2, DUN3 GUNU, GAL, GAN2 TENU, HA, IGI GUNU, IMIN, LAGAB",
   "12013 CUNEIFORM SIGN: AB TIMES SHESH, AB TIMES U PLUS U PLUS U, AB GUNU, AB2",
   "12017 CUNEIFORM SIGN AB2 TIMES: BALAG, GAN2 TENU, ME PLUS EN, SHA3, TAK4",
   "1201C CUNEIFORM SIGN: AD, AK, AK TIMES ERIN2, AK TIMES SHITA PLUS GISH, AL",
   "12021 CUNEIFORM SIGN AL TIMES: AL, DIM2, GISH, HA, KAD3, KI, SHE, USH",
   "12029 CUNEIFORM SIGN: ALAN, ALEPH, AMAR, AMAR TIMES SHE, AN, AN OVER AN, AN THREE TIMES",
   "12030 CUNEIFORM SIGN AN PLUS NAGA: OPPOSING AN PLUS NAGA, SQUARED",
   "12032 CUNEIFORM SIGN: ANSHE, APIN, ARAD, ARAD TIMES KUR, ARKAB, ASAL2, ASH",
   "12039 CUNEIFORM SIGN ASH: ZIDA TENU, KABA TENU, OVER ASH TUG2 OVER TUG2 TUG2 OVER TUG2 PAP",
   "1203C CUNEIFORM SIGN ASH OVER ASH OVER: ASH, ASH CROSSING ASH OVER ASH OVER ASH",
   "1203E CUNEIFORM SIGN: ASH2, ASHGAB, BA, BAD, BAG3, BAHAR2, BAL, BAL OVER BAL",
   "12046 CUNEIFORM SIGN: BALAG, BAR, BARA2, BI, BI TIMES A, BI TIMES GAR, BI TIMES IGI GUNU",
   "1204D CUNEIFORM SIGN: BU, BU OVER BU AB, BU OVER BU UN, BU CROSSING BU, BULUG",
   "12052 CUNEIFORM SIGN: BULUG OVER BULUG, BUR, BUR2, DA, DAG, DAG KISIM5 TIMES A PLUS MASH",
   "12058 CUNEIFORM SIGN DAG KISIM5 TIMES: AMAR, BALAG, BI, GA, GA PLUS MASH, GI, GIR2",
   "1205F CUNEIFORM SIGN DAG KISIM5 TIMES: GUD, HA, IR, IR PLUS LU, KAK, LA, LU, LU PLUS MASH2",
   "12067 CUNEIFORM SIGN DAG KISIM5 TIMES: LUM, NE, PAP PLUS PAP, SI, TAK4, U2 PLUS GIR2, USH",
   "1206E CUNEIFORM SIGN: DAM, DAR, DARA3, DARA4, DI, DIB, DIM, DIM TIMES SHE, DIM2",
   "12077 CUNEIFORM SIGN: DIN, DIN KASKAL U GUNU DISH, DISH, DU, DU OVER DU, DU GUNU, DU SHESHIG",
   "1207E CUNEIFORM SIGN: DUB, DUB TIMES ESH2, DUB2, DUG, DUGUD, DUH, DUN, DUN3, DUN3 GUNU",
   "12087 CUNEIFORM SIGN: DUN3 GUNU GUNU, DUN4, DUR2, E, E TIMES PAP, E OVER E NUN OVER NUN, E2",
   "1208E CUNEIFORM SIGN E2 TIMES: A PLUS HA PLUS DA, GAR, MI, SAL, SHE, U",
   "12094 CUNEIFORM SIGN: EDIN, EGIR, EL, EN, EN TIMES GAN2, EN TIMES GAN2 TENU, EN TIMES ME",
   "1209B CUNEIFORM SIGN: EN CROSSING EN, EN OPPOSING EN, EN SQUARED, EREN, ERIN2, ESH2, EZEN",
   "120A2 CUNEIFORM SIGN EZEN TIMES: A, A PLUS LAL, A PLUS LAL TIMES LAL, AN, BAD",
   "120A7 CUNEIFORM SIGN EZEN TIMES: DUN3 GUNU, DUN3 GUNU GUNU, HA, HA GUNU, IGI GUNU, KASKAL",
   "120AD CUNEIFORM SIGN EZEN TIMES: KASKAL SQUARED, KU3, LA, LAL TIMES LAL, LI, LU, U2, UD",
   "120B5 CUNEIFORM SIGN: GA, GA GUNU, GA2, GA2 TIMES A PLUS DA PLUS HA, GA2 TIMES A PLUS HA",
   "120BA CUNEIFORM SIGN GA2 TIMES: A PLUS IGI, AB2 TENU PLUS TAB, AN, ASH, ASH2 PLUS GAL",
   "120BF CUNEIFORM SIGN GA2 TIMES: BAD, BAR PLUS RA, BUR, BUR PLUS RA, DA, DI, DIM TIMES SHE",
   "120C6 CUNEIFORM SIGN GA2 TIMES: DUB, EL, EL PLUS LA, EN, EN TIMES GAN2 TENU, GAN2 TENU",
   "120CC CUNEIFORM SIGN GA2 TIMES: GAR, GI, GI4, GI4 PLUS A, GIR2 PLUS SU, HA PLUS LU PLUS ESH2",
   "120D2 CUNEIFORM SIGN GA2 TIMES: HAL, HAL PLUS LA, HI PLUS LI, HUB2, IGI GUNU",
   "120D7 CUNEIFORM SIGN GA2 TIMES: ISH PLUS HU PLUS ASH, KAK, KASKAL, KID, KID PLUS LAL",
   "120DC CUNEIFORM SIGN GA2 TIMES: KU3 PLUS AN, LA, ME PLUS EN, MI, NUN, NUN OVER NUN, PA, SAL",
   "120E4 CUNEIFORM SIGN GA2 TIMES: SAR, SHE, SHE PLUS TUR, SHID, SUM, TAK4, U, UD, UD PLUS DU",
   "120ED CUNEIFORM SIGN: GA2 OVER GA2, GABA, GABA CROSSING GABA, GAD, GAD OVER GAD GAR OVER GAR",
   "120F2 CUNEIFORM SIGN: GAL, GAL GAD OVER GAD GAR OVER GAR, GALAM, GAM, GAN",
   "120F7 CUNEIFORM SIGN: GAN2, GAN2 TENU, GAN2 OVER GAN2, GAN2 CROSSING GAN2, GAR, GAR3, GASHAN",
   "120FE CUNEIFORM SIGN: GESHTIN, GESHTIN TIMES KUR, GI, GI TIMES E, GI TIMES U, GI CROSSING GI",
   "12104 CUNEIFORM SIGN: GI4, GI4 OVER GI4, GI4 CROSSING GI4, GIDIM, GIR2, GIR2 GUNU, GIR3",
   "1210B CUNEIFORM SIGN GIR3 TIMES: A PLUS IGI, GAN2 TENU, IGI, LU PLUS IGI, PA",
   "12110 CUNEIFORM SIGN: GISAL, GISH, GISH CROSSING GISH, GISH TIMES BAD",
   "12114 CUNEIFORM SIGN: GISH TIMES TAK4, GISH TENU, GU, GU CROSSING GU, GU2, GU2 TIMES KAK",
   "1211A CUNEIFORM SIGN GU2: TIMES KAK TIMES IGI GUNU, TIMES NUN, TIMES SAL PLUS TUG2, GUNU",
   "1211E CUNEIFORM SIGN: GUD, GUD TIMES A PLUS KUR, GUD TIMES KUR, GUD OVER GUD LUGAL, GUL, GUM",
   "12124 CUNEIFORM SIGN: GUM TIMES SHE, GUR, GUR7, GURUN, GURUSH, HA, HA TENU, HA GUNU, HAL, HI",
   "1212E CUNEIFORM SIGN HI TIMES: ASH, ASH2, BAD, DISH, GAD, KIN, NUN, SHE, U",
   "12137 CUNEIFORM SIGN: HU, HUB2",
   "12139 CUNEIFORM SIGN HUB2 TIMES: AN, HAL, KASKAL, LISH, UD",
   "1213E CUNEIFORM SIGN: HUL2, I, I A, IB, IDIM, IDIM OVER IDIM BUR, IDIM OVER IDIM SQUARED",
   "12145 CUNEIFORM SIGN: IG, IGI, IGI DIB, IGI RI, IGI OVER IGI SHIR OVER SHIR UD OVER UD",
   "1214A CUNEIFORM SIGN: IGI GUNU, IL, IL TIMES GAN2 TENU, IL2, IM, IM TIMES TAK4",
   "12150 CUNEIFORM SIGN: IM CROSSING IM, IM OPPOSING IM, IM SQUARED, IMIN, IN, IR, ISH, KA",
   "12158 CUNEIFORM SIGN KA TIMES: A, AD, AD PLUS KU3, ASH2, BAD, BALAG, BAR",
   "1215F CUNEIFORM SIGN KA TIMES: BI, ERIN2, ESH2, GA, GAL, GAN2 TENU, GAR, GAR PLUS SHA3 PLUS A",
   "12167 CUNEIFORM SIGN KA TIMES: GI, GIR2, GISH PLUS SAR, GISH CROSSING GISH, GU, GUR7, IGI, IM",
   "1216F CUNEIFORM SIGN KA TIMES: KAK, KI, KID, LI, LU, ME, ME PLUS DU, ME PLUS GI, ME PLUS TE",
   "12178 CUNEIFORM SIGN KA TIMES: MI, MI PLUS NUNUZ, NE, NUN, PI, RU, SA, SAR, SHA, SHE",
   "12182 CUNEIFORM SIGN KA TIMES: SHID, SHU, SIG, SUHUR, TAR, U, U2, UD, UMUM TIMES PA, USH, ZI",
   "1218D CUNEIFORM SIGN: KA2, KA2 CROSSING KA2, KAB, KAD2, KAD3, KAD4, KAD5, KAD5 OVER KAD5",
   "12195 CUNEIFORM SIGN: KAK, KAK TIMES IGI GUNU, KAL, KAL TIMES BAD, KAL CROSSING KAL",
   "1219A CUNEIFORM SIGN: KAM2, KAM4, KASKAL, KASKAL LAGAB TIMES U OVER LAGAB TIMES U",
   "1219E CUNEIFORM SIGN: KASKAL OVER KASKAL LAGAB TIMES U OVER LAGAB TIMES U, KESH2, KI",
   "121A1 CUNEIFORM SIGN: KI TIMES BAD, KI TIMES U, KI TIMES UD, KID, KIN, KISAL, KISH, KISIM5",
   "121A9 CUNEIFORM SIGN: KISIM5 OVER KISIM5, KU, KU OVER HI TIMES ASH2 KU OVER HI TIMES ASH2",
   "121AC CUNEIFORM SIGN: KU3, KU4, KU4 VARIANT FORM, KU7",
   "121B0 CUNEIFORM SIGN: KUL, KUL GUNU, KUN, KUR, KUR OPPOSING KUR, KUSHU2, KWU318, LA, LAGAB",
   "121B9 CUNEIFORM SIGN LAGAB TIMES: A, A PLUS DA PLUS HA, A PLUS GAR, A PLUS LAL, AL, AN",
   "121BF CUNEIFORM SIGN LAGAB TIMES: ASH ZIDA TENU, BAD, BI, DAR, EN, GA, GAR, GUD, GUD PLUS GUD",
   "121C8 CUNEIFORM SIGN LAGAB TIMES: HA, HAL, HI TIMES NUN, IGI GUNU, IM, IM PLUS HA",
   "121CE CUNEIFORM SIGN LAGAB TIMES: IM PLUS LU, KI, KIN, KU3, KUL, KUL PLUS HI PLUS A, LAGAB",
   "121D5 CUNEIFORM SIGN LAGAB TIMES: LISH, LU, LUL, ME, ME PLUS EN, MUSH, NE, SHE PLUS SUM",
   "121DD CUNEIFORM SIGN LAGAB TIMES: SHITA PLUS GISH PLUS ERIN2, SHITA PLUS GISH TENU, SHU2",
   "121E0 CUNEIFORM SIGN LAGAB TIMES: SHU2 PLUS SHU2, SUM, TAG, TAK4, TE PLUS A PLUS SU PLUS NA",
   "121E5 CUNEIFORM SIGN LAGAB TIMES: U, U PLUS A, U PLUS U PLUS U, U2 PLUS ASH, UD, USH",
   "121EB CUNEIFORM SIGN: LAGAB SQUARED, LAGAR",
   "121ED CUNEIFORM SIGN LAGAR: TIMES SHE, TIMES SHE PLUS SUM, GUNU, GUNU OVER LAGAR GUNU SHE",
   "121F1 CUNEIFORM SIGN: LAHSHU, LAL, LAL TIMES LAL, LAM, LAM TIMES KUR",
   "121F6 CUNEIFORM SIGN: LAM TIMES KUR PLUS RU, LI, LIL, LIMMU2, LISH, LU, LU TIMES BAD, LU2",
   "121FE CUNEIFORM SIGN LU2 TIMES: AL, BAD, ESH2, ESH2 TENU, GAN2 TENU",
   "12203 CUNEIFORM SIGN LU2 TIMES: HI TIMES BAD, IM, KAD2, KAD3, KAD3 PLUS ASH, KI, LA PLUS ASH",
   "1220A CUNEIFORM SIGN LU2 TIMES: LAGAB, ME PLUS EN, NE, NU, SI PLUS ASH, SIK2 PLUS BU, TUG2",
   "12211 CUNEIFORM SIGN LU2: TENU, CROSSING LU2, OPPOSING LU2, SQUARED, SHESHIG",
   "12216 CUNEIFORM SIGN: LU3, LUGAL, LUGAL OVER LUGAL, LUGAL OPPOSING LUGAL",
   "1221A CUNEIFORM SIGN: LUGAL SHESHIG, LUH, LUL, LUM, LUM OVER LUM, LUM OVER LUM GAR OVER GAR",
   "12220 CUNEIFORM SIGN: MA, MA TIMES TAK4, MA GUNU, MA2, MAH, MAR, MASH, MASH2",
   "12228 CUNEIFORM SIGN: ME, MES, MI, MIN, MU, MU OVER MU, MUG, MUG GUNU, MUNSUB, MURGU2, MUSH",
   "12233 CUNEIFORM SIGN MUSH: TIMES A, TIMES KUR, TIMES ZA, OVER MUSH, OVER MUSH TIMES A PLUS NA",
   "12238 CUNEIFORM SIGN: MUSH CROSSING MUSH, MUSH3",
   "1223A CUNEIFORM SIGN MUSH3 TIMES: A, A PLUS DI, DI",
   "1223D CUNEIFORM SIGN: MUSH3 GUNU, NA, NA2, NAGA, NAGA INVERTED, NAGA TIMES SHU TENU",
   "12243 CUNEIFORM SIGN: NAGA OPPOSING NAGA, NAGAR, NAM NUTILLU, NAM, NAM2, NE, NE TIMES A",
   "1224A CUNEIFORM SIGN: NE TIMES UD, NE SHESHIG, NI, NI TIMES E, NI2, NIM, NIM TIMES GAN2 TENU",
   "12251 CUNEIFORM SIGN: NIM TIMES GAR PLUS GAN2 TENU, NINDA2, NINDA2 TIMES AN",
   "12254 CUNEIFORM SIGN NINDA2 TIMES: ASH, ASH PLUS ASH, GUD, ME PLUS GAN2 TENU, NE, NUN, SHE",
   "1225B CUNEIFORM SIGN NINDA2 TIMES SHE PLUS: A AN, ASH, ASH PLUS ASH",
   "1225E CUNEIFORM SIGN: NINDA2 TIMES U2 PLUS ASH, NINDA2 TIMES USH, NISAG, NU, NU11, NUN",
   "12264 CUNEIFORM SIGN NUN LAGAR TIMES: GAR, MASH, SAL, SAL OVER NUN LAGAR TIMES SAL, USH",
   "12269 CUNEIFORM SIGN NUN: TENU, OVER NUN, CROSSING NUN, CROSSING NUN LAGAR OVER LAGAR",
   "1226D CUNEIFORM SIGN NUNUZ",
   "1226E CUNEIFORM SIGN NUNUZ AB2 TIMES: ASHGAB, BI, DUG, GUD, IGI GUNU, KAD3, LA, NE, SILA3, U2",
   "12278 CUNEIFORM SIGN NUNUZ KISIM5 TIMES: BI, BI U",
   "1227A CUNEIFORM SIGN: PA, PAD, PAN, PAP, PESH2, PI",
   "12280 CUNEIFORM SIGN PI TIMES: A, AB, BI, BU, E, I, IB, U, U2",
   "12289 CUNEIFORM SIGN: PI CROSSING PI, PIRIG, PIRIG TIMES KAL, PIRIG TIMES UD, PIRIG TIMES ZA",
   "1228E CUNEIFORM SIGN: PIRIG OPPOSING PIRIG, RA, RAB, RI, RU, SA, SAG NUTILLU, SAG",
   "12296 CUNEIFORM SIGN SAG TIMES: A, DU, DUB, HA, KAK, KUR, LUM, MI, NUN, SAL, SHID, TAB, U2",
   "122A3 CUNEIFORM SIGN SAG: TIMES UB, TIMES UM, TIMES UR, TIMES USH, OVER SAG, GUNU",
   "122A9 CUNEIFORM SIGN: SAL, SAL LAGAB TIMES ASH2, SANGA2, SAR, SHA, SHA3",
   "122AF CUNEIFORM SIGN SHA3 TIMES: A, BAD, GISH, NE, SHU2, TUR, U, U PLUS A",
   "122B7 CUNEIFORM SIGN: SHA6, SHAB6, SHAR2, SHE, SHE HU, SHE OVER SHE GAD OVER GAD GAR OVER GAR",
   "122BD CUNEIFORM SIGN: SHE OVER SHE TAB OVER TAB GAR OVER GAR, SHEG9",
   "122BF CUNEIFORM SIGN: SHEN, SHESH, SHESH2, SHESHLAM, SHID, SHID TIMES A, SHID TIMES IM, SHIM",
   "122C7 CUNEIFORM SIGN SHIM TIMES: A, BAL, BULUG, DIN, GAR, IGI, IGI GUNU, KUSHU2, LUL, MUG",
   "122D1 CUNEIFORM SIGN: SHIM TIMES SAL, SHINIG, SHIR, SHIR TENU, SHIR OVER SHIR BUR OVER BUR",
   "122D6 CUNEIFORM SIGN: SHITA, SHU, SHU OVER INVERTED SHU, SHU2, SHUBUR, SI, SI GUNU, SIG, SIG4",
   "122DF CUNEIFORM SIGN: SIG4 OVER SIG4 SHU2, SIK2, SILA3, SU, SU OVER SU, SUD, SUD2, SUHUR",
   "122E7 CUNEIFORM SIGN: SUM, SUMASH, SUR, SUR9, TA, TA ASTERISK, TA TIMES HI, TA TIMES MI",
   "122EF CUNEIFORM SIGN: TA GUNU, TAB, TAB OVER TAB NI OVER NI DISH OVER DISH, TAB SQUARED, TAG",
   "122F4 CUNEIFORM SIGN TAG TIMES: BI, GUD, SHE, SHU, TUG2, UD",
   "122FA CUNEIFORM SIGN: TAK4, TAR, TE, TE GUNU, TI, TI TENU, TIL, TIR, TIR TIMES TAK4",
   "12303 CUNEIFORM SIGN TIR OVER: TIR, TIR GAD OVER GAD GAR OVER GAR",
   "12305 CUNEIFORM SIGN: TU, TUG2, TUK, TUM, TUR, TUR OVER TUR ZA OVER ZA, U, U GUD, U U U",
   "1230E CUNEIFORM SIGN U OVER U: PA OVER PA GAR OVER GAR, SUR OVER SUR",
   "12310 CUNEIFORM SIGN: U OVER U U REVERSED OVER U REVERSED, U2, UB, UD, UD KUSHU2",
   "12315 CUNEIFORM SIGN UD TIMES: BAD, MI, U PLUS U PLUS U, U PLUS U PLUS U GUNU",
   "12319 CUNEIFORM SIGN: UD GUNU, UD SHESHIG, UD SHESHIG TIMES BAD, UDUG, UM",
   "1231E CUNEIFORM SIGN UM TIMES: LAGAB, ME PLUS DA, SHA3, U",
   "12322 CUNEIFORM SIGN: UMBIN, UMUM, UMUM TIMES KASKAL",
   "12325 CUNEIFORM SIGN: UMUM TIMES PA, UN, UN GUNU, UR, UR CROSSING UR, UR SHESHIG, UR2",
   "1232C CUNEIFORM SIGN UR2 TIMES: A PLUS HA, A PLUS NA, AL, HA, NUN, U2, U2 PLUS ASH",
   "12333 CUNEIFORM SIGN: UR2 TIMES U2 PLUS BI, UR4, URI, URI3, URU",
   "12338 CUNEIFORM SIGN URU TIMES: A, ASHGAB, BAR, DUN, GA, GAL, GAN2 TENU, GAR, GU, HA, IGI, IM",
   "12344 CUNEIFORM SIGN URU TIMES: ISH, KI, LUM, MIN, PA, SHE, SIG4, TU, U PLUS GUD, UD, URUDA",
   "1234F CUNEIFORM SIGN: URUDA, URUDA TIMES U, USH",
   "12352 CUNEIFORM SIGN USH TIMES: A, KU, KUR, TAK4",
   "12356 CUNEIFORM SIGN: USHX, USH2, USHUMX, UTUKI, UZ3, UZ3 TIMES KASKAL",
   "1235C CUNEIFORM SIGN: UZU, ZA, ZA TENU, ZA SQUARED TIMES KUR, ZAG, ZAMX, ZE2, ZI",
   "12364 CUNEIFORM SIGN: ZI OVER ZI, ZI3, ZIB, ZIB KABA TENU, ZIG, ZIZ2, ZU, ZU5, ZU5 TIMES A",
   "1236D CUNEIFORM SIGN: ZUBUR, ZUM, KAP ELAMITE, AB TIMES NUN, AB2 TIMES A, AMAR TIMES KUG",
   "12373 CUNEIFORM SIGN: DAG KISIM5 TIMES U2 PLUS MASH, DAG3, DISH PLUS SHU, DUB TIMES SHE",
   "12377 CUNEIFORM SIGN EZEN TIMES: GUD, SHE",
   "12379 CUNEIFORM SIGN: GA2 TIMES AN PLUS KAK PLUS A, GA2 TIMES ASH2, GE22, GIG, HUSH",
   "1237E CUNEIFORM SIGN KA TIMES: ANSHE, ASH3, GISH, GUD, HI TIMES ASH2, LUM, PA, SHUL, TU, UR2",
   "12388 CUNEIFORM SIGN: LAGAB TIMES GI, LU2 SHESHIG TIMES BAD",
   "1238A CUNEIFORM SIGN: LU2 TIMES ESH2 PLUS LAL, LU2 TIMES SHU, MESH, MUSH3 TIMES ZA, NA4, NIN",
   "12390 CUNEIFORM SIGN: NIN9, NINDA2 TIMES BAL, NINDA2 TIMES GI, NU11 ROTATED NINETY DEGREES",
   "12394 CUNEIFORM SIGN: PESH2 ASTERISK, PIR2, SAG TIMES IGI GUNU, TI2, UM TIMES ME, U U",
   "12400 CUNEIFORM NUMERIC SIGN: TWO ASH, THREE ASH, FOUR ASH, FIVE ASH",
   "12404 CUNEIFORM NUMERIC SIGN: SIX ASH, SEVEN ASH, EIGHT ASH, NINE ASH, THREE DISH, FOUR DISH",
   "1240A CUNEIFORM NUMERIC SIGN: FIVE DISH, SIX DISH, SEVEN DISH, EIGHT DISH, NINE DISH",
   "1240F CUNEIFORM NUMERIC SIGN: FOUR U, FIVE U, SIX U, SEVEN U, EIGHT U, NINE U, ONE GESH2",
   "12416 CUNEIFORM NUMERIC SIGN: TWO GESH2, THREE GESH2, FOUR GESH2, FIVE GESH2, SIX GESH2",
   "1241B CUNEIFORM NUMERIC SIGN: SEVEN GESH2, EIGHT GESH2, NINE GESH2, ONE GESHU, TWO GESHU",
   "12420 CUNEIFORM NUMERIC SIGN: THREE GESHU, FOUR GESHU, FIVE GESHU, TWO SHAR2, THREE SHAR2",
   "12425 CUNEIFORM NUMERIC SIGN: THREE SHAR2 VARIANT FORM, FOUR SHAR2, FIVE SHAR2, SIX SHAR2",
   "12429 CUNEIFORM NUMERIC SIGN: SEVEN SHAR2, EIGHT SHAR2, NINE SHAR2, ONE SHARU, TWO SHARU",
   "1242E CUNEIFORM NUMERIC SIGN: THREE SHARU, THREE SHARU VARIANT FORM, FOUR SHARU, FIVE SHARU",
   "12432 CUNEIFORM NUMERIC SIGN SHAR2 TIMES GAL PLUS: DISH, MIN",
   "12434 CUNEIFORM NUMERIC SIGN: ONE BURU, TWO BURU",
   "12436 CUNEIFORM NUMERIC SIGN: THREE BURU, THREE BURU VARIANT FORM, FOUR BURU, FIVE BURU",
   "1243A CUNEIFORM NUMERIC SIGN THREE VARIANT FORM: ESH16, ESH21",
   "1243C CUNEIFORM NUMERIC SIGN FOUR VARIANT FORM: LIMMU, LIMMU4, LIMMU A, LIMMU B",
   "12440 CUNEIFORM NUMERIC SIGN SIX VARIANT FORM ASH9",
   "12441 CUNEIFORM NUMERIC SIGN SEVEN VARIANT FORM: IMIN3, IMIN A, IMIN B",
   "12444 CUNEIFORM NUMERIC SIGN EIGHT VARIANT FORM: USSU, USSU3",
   "12446 CUNEIFORM NUMERIC SIGN NINE VARIANT FORM: ILIMMU, ILIMMU3, ILIMMU4, ILIMMU A",
   "1244A CUNEIFORM NUMERIC SIGN: TWO ASH TENU, THREE ASH TENU, FOUR ASH TENU, FIVE ASH TENU",
   "1244E CUNEIFORM NUMERIC SIGN: SIX ASH TENU, ONE BAN2, TWO BAN2, THREE BAN2, FOUR BAN2",
   "12453 CUNEIFORM NUMERIC SIGN: FOUR BAN2 VARIANT FORM, FIVE BAN2, FIVE BAN2 VARIANT FORM",
   "12456 CUNEIFORM NUMERIC SIGN: NIGIDAMIN, NIGIDAESH, ONE ESHE3, TWO ESHE3, ONE THIRD DISH",
   "1245B CUNEIFORM NUMERIC SIGN: TWO THIRDS DISH, FIVE SIXTHS DISH, ONE THIRD VARIANT FORM A",
   "1245E CUNEIFORM NUMERIC SIGN: TWO THIRDS VARIANT FORM A, ONE EIGHTH ASH, ONE QUARTER ASH",
   "12461 CUNEIFORM NUMERIC SIGN OLD ASSYRIAN ONE: SIXTH, QUARTER",
   "12463 CUNEIFORM NUMERIC SIGN ONE: QUARTER GUR, HALF GUR",
   "12465 CUNEIFORM NUMERIC SIGN ELAMITE: ONE THIRD, TWO THIRDS, FORTY, FIFTY",
   "12469 CUNEIFORM NUMERIC SIGN: FOUR U VARIANT FORM, FIVE U VARIANT FORM, SIX U VARIANT FORM",
   "1246C CUNEIFORM NUMERIC SIGN: SEVEN U VARIANT FORM, EIGHT U VARIANT FORM, NINE U VARIANT FORM",
   "12470 CUNEIFORM PUNCTUATION SIGN: OLD ASSYRIAN WORD DIVIDER, VERTICAL COLON",
   "12472 CUNEIFORM PUNCTUATION SIGN DIAGONAL: COLON, TRICOLON, QUADCOLON",
   "12480 CUNEIFORM SIGN: AB TIMES NUN TENU, AB TIMES SHU2, AD TIMES ESH2, BAD TIMES DISH TENU",
   "12484 CUNEIFORM SIGN BAHAR2 TIMES: AB2, NI, ZA",
   "12487 CUNEIFORM SIGN: BU OVER BU TIMES NA2, DA TIMES TAK4",
   "12489 CUNEIFORM SIGN: DAG TIMES KUR, DIM TIMES IGI, DIM TIMES U U U, DIM2 TIMES UD",
   "1248D CUNEIFORM SIGN DUG TIMES: ANSHE, ASH, ASH AT LEFT, DIN",
   "12491 CUNEIFORM SIGN DUG TIMES: DUN, ERIN2, GA, GI, GIR2 GUNU, GISH, HA, HI, IGI GUNU, KASKAL",
   "1249B CUNEIFORM SIGN DUG TIMES: KUR, KUSHU2, KUSHU2 PLUS KASKAL, LAK-020, LAM, LAM TIMES KUR",
   "124A1 CUNEIFORM SIGN DUG TIMES: LUH PLUS GISH, MASH, MES, MI, NI, PI, SHE, SI GUNU",
   "124A9 CUNEIFORM SIGN: E2 TIMES KUR, E2 TIMES PAP, ERIN2 X, ESH2 CROSSING ESH2",
   "124AD CUNEIFORM SIGN EZEN SHESHIG TIMES: ASH, HI, IGI GUNU, LA, LAL, ME, MES, SU",
   "124B5 CUNEIFORM SIGN EZEN TIMES SU",
   "124B6 CUNEIFORM SIGN GA2 TIMES: BAHAR2, DIM GUNU, DUG TIMES IGI GUNU, DUG TIMES KASKAL, EREN",
   "124BB CUNEIFORM SIGN GA2 TIMES: GA, GAR PLUS DI, GAR PLUS NE, HA PLUS A, KUSHU2 PLUS KASKAL",
   "124C0 CUNEIFORM SIGN GA2 TIMES: LAM, LAM TIMES KUR, LUH, MUSH, NE, NE PLUS E2, NE PLUS GI",
   "124C7 CUNEIFORM SIGN: GA2 TIMES SHIM, GA2 TIMES ZIZ2, GABA ROTATED NINETY DEGREES",
   "124CA CUNEIFORM SIGN: GESHTIN TIMES U, GISH TIMES GISH CROSSING GISH, GU2 TIMES IGI GUNU",
   "124CD CUNEIFORM SIGN: GUD PLUS GISH TIMES TAK4, HA TENU GUNU, HI TIMES ASH OVER HI TIMES ASH",
   "124D0 CUNEIFORM SIGN KA TIMES: BU, KA, U U U, UR",
   "124D4 CUNEIFORM SIGN: LAGAB TIMES ZU OVER ZU, LAK-003, LAK-021",
   "124D7 CUNEIFORM SIGN: LAK-025, LAK-030, LAK-050, LAK-051, LAK-062, LAK-079 OVER LAK-079 GUNU",
   "124DD CUNEIFORM SIGN: LAK-080, LAK-081 OVER LAK-081, LAK-092, LAK-130, LAK-142",
   "124E2 CUNEIFORM SIGN: LAK-210, LAK-219, LAK-220, LAK-225, LAK-228, LAK-238, LAK-265, LAK-266",
   "124EA CUNEIFORM SIGN: LAK-343, LAK-347, LAK-348, LAK-383, LAK-384, LAK-390, LAK-441, LAK-449",
   "124F2 CUNEIFORM SIGN LAK-449 TIMES: GU, IGI, PAP PLUS LU3, PAP PLUS PAP PLUS LU3, U2 PLUS BA",
   "124F7 CUNEIFORM SIGN: LAK-450, LAK-457, LAK-470",
   "124FA CUNEIFORM SIGN: LAK-483, LAK-490, LAK-492, LAK-493, LAK-495, LAK-550, LAK-608, LAK-617",
   "12502 CUNEIFORM SIGN LAK-617 TIMES: ASH, BAD, DUN3 GUNU GUNU, KU3, LA, TAR, TE, U2, UD, URUDA",
   "1250C CUNEIFORM SIGN: LAK-636, LAK-648",
   "1250E CUNEIFORM SIGN LAK-648 TIMES: DUB, GA, IGI, IGI GUNU",
   "12512 CUNEIFORM SIGN LAK-648 TIMES: NI, PAP PLUS PAP PLUS LU3, SHESH PLUS KI, UD, URUDA",
   "12517 CUNEIFORM SIGN: LAK-724, LAK-749, LU2 GUNU TIMES ASH",
   "1251A CUNEIFORM SIGN LU2 TIMES: DISH, HAL, PAP, PAP PLUS PAP PLUS LU3, TAK4",
   "1251F CUNEIFORM SIGN: MI PLUS ZA7, MUSH OVER MUSH TIMES GA, MUSH OVER MUSH TIMES KAK",
   "12522 CUNEIFORM SIGN NINDA2 TIMES: DIM GUNU, GISH, GUL",
   "12525 CUNEIFORM SIGN NINDA2 TIMES: HI, KESH2, LAK-050, MASH, PAP PLUS PAP, U, U PLUS U, URUDA",
   "1252D CUNEIFORM SIGN SAG: GUNU TIMES HA, TIMES EN, TIMES SHE AT LEFT, TIMES TAK4",
   "12531 CUNEIFORM SIGN: SHA6 TENU, SHE OVER SHE, SHE PLUS HUB2, SHE PLUS NAM2, SHE PLUS SAR",
   "12536 CUNEIFORM SIGN SHU2 PLUS: DUG TIMES NI, E2 TIMES AN",
   "12538 CUNEIFORM SIGN: SI TIMES TAK4, TAK4 PLUS SAG, TUM TIMES GAN2 TENU, TUM TIMES THREE DISH",
   "1253C CUNEIFORM SIGN: UR2 INVERTED, UR2 TIMES UD, URU TIMES DARA3, URU TIMES LAK-668",
   "12540 CUNEIFORM SIGN: URU TIMES LU3, ZA7, ZU OVER ZU PLUS SAR, ZU5 TIMES THREE DISH TENU",
   "12F90 CYPRO-MINOAN SIGN CM001",
   "12F91 CYPRO-MINOAN SIGN: CM002, CM004, CM005, CM006, CM007, CM008, CM009, CM010, CM011, CM012",
   "12F9B CYPRO-MINOAN SIGN: CM012B, CM013, CM015, CM017, CM019, CM021, CM023, CM024, CM025",
   "12FA4 CYPRO-MINOAN SIGN: CM026, CM027, CM028, CM029, CM030, CM033, CM034, CM035, CM036, CM037",
   "12FAE CYPRO-MINOAN SIGN: CM038, CM039, CM040, CM041, CM044, CM046, CM047, CM049, CM050, CM051",
   "12FB8 CYPRO-MINOAN SIGN: CM052, CM053, CM054, CM055, CM056, CM058, CM059, CM060, CM061, CM062",
   "12FC2 CYPRO-MINOAN SIGN: CM063, CM064, CM066, CM067, CM068, CM069, CM070, CM071, CM072, CM073",
   "12FCC CYPRO-MINOAN SIGN: CM074, CM075, CM075B, CM076, CM078, CM079, CM080, CM081, CM082",
   "12FD5 CYPRO-MINOAN SIGN: CM083, CM084, CM085, CM086, CM087, CM088, CM089, CM090, CM091, CM092",
   "12FDF CYPRO-MINOAN SIGN: CM094, CM095, CM096, CM097, CM098, CM099, CM100, CM101, CM102, CM103",
   "12FE9 CYPRO-MINOAN SIGN: CM104, CM105, CM107, CM108, CM109, CM110, CM112, CM114, CM301, CM302"]

end Codegen.Text.CharName
