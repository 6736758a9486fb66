/-!
Names of characters, from version 14 of the Unicode Character Database: hieroglyphs and large
syllabaries, U+13000 to U+1CFFF.
-/

namespace Codegen.Text.CharName

def glyphRows : List String :=
  ["13000 EGYPTIAN HIEROGLYPH A001",
   "13001 EGYPTIAN HIEROGLYPH: A002, A003, A004, A005, A005A, A006, A006A, A006B, A007, A008",
   "1300B EGYPTIAN HIEROGLYPH: A009, A010, A011, A012, A013, A014, A014A, A015, A016, A017, A017A",
   "13016 EGYPTIAN HIEROGLYPH: A018, A019, A020, A021, A022, A023, A024, A025, A026, A027, A028",
   "13021 EGYPTIAN HIEROGLYPH: A029, A030, A031, A032, A032A, A033, A034, A035, A036, A037, A038",
   "1302C EGYPTIAN HIEROGLYPH: A039, A040, A040A, A041, A042, A042A, A043, A043A, A044, A045",
   "13036 EGYPTIAN HIEROGLYPH: A045A, A046, A047, A048, A049, A050, A051, A052, A053, A054, A055",
   "13041 EGYPTIAN HIEROGLYPH: A056, A057, A058, A059, A060, A061, A062, A063, A064, A065, A066",
   "1304C EGYPTIAN HIEROGLYPH: A067, A068, A069, A070, B001, B002, B003, B004, B005, B005A, B006",
   "13057 EGYPTIAN HIEROGLYPH: B007, B008, B009, C001, C002, C002A, C002B, C002C, C003, C004",
   "13061 EGYPTIAN HIEROGLYPH: C005, C006, C007, C008, C009, C010, C010A, C011, C012, C013, C014",
   "1306C EGYPTIAN HIEROGLYPH: C015, C016, C017, C018, C019, C020, C021, C022, C023, C024, D001",
   "13077 EGYPTIAN HIEROGLYPH: D002, D003, D004, D005, D006, D007, D008, D008A, D009, D010, D011",
   "13082 EGYPTIAN HIEROGLYPH: D012, D013, D014, D015, D016, D017, D018, D019, D020, D021, D022",
   "1308D EGYPTIAN HIEROGLYPH: D023, D024, D025, D026, D027, D027A, D028, D029, D030, D031, D031A",
   "13098 EGYPTIAN HIEROGLYPH: D032, D033, D034, D034A, D035, D036, D037, D038, D039, D040, D041",
   "130A3 EGYPTIAN HIEROGLYPH: D042, D043, D044, D045, D046, D046A, D047, D048, D048A, D049, D050",
   "130AE EGYPTIAN HIEROGLYPH: D050A, D050B, D050C, D050D, D050E, D050F, D050G, D050H, D050I",
   "130B7 EGYPTIAN HIEROGLYPH: D051, D052, D052A, D053, D054, D054A, D055, D056, D057, D058",
   "130C1 EGYPTIAN HIEROGLYPH: D059, D060, D061, D062, D063, D064, D065, D066, D067, D067A, D067B",
   "130CC EGYPTIAN HIEROGLYPH: D067C, D067D, D067E, D067F, D067G, D067H, E001, E002, E003, E004",
   "130D6 EGYPTIAN HIEROGLYPH: E005, E006, E007, E008, E008A, E009, E009A, E010, E011, E012, E013",
   "130E1 EGYPTIAN HIEROGLYPH: E014, E015, E016, E016A, E017, E017A, E018, E019, E020, E020A",
   "130EB EGYPTIAN HIEROGLYPH: E021, E022, E023, E024, E025, E026, E027, E028, E028A, E029, E030",
   "130F6 EGYPTIAN HIEROGLYPH: E031, E032, E033, E034, E034A, E036, E037, E038, F001, F001A, F002",
   "13101 EGYPTIAN HIEROGLYPH: F003, F004, F005, F006, F007, F008, F009, F010, F011, F012, F013",
   "1310C EGYPTIAN HIEROGLYPH: F013A, F014, F015, F016, F017, F018, F019, F020, F021, F021A, F022",
   "13117 EGYPTIAN HIEROGLYPH: F023, F024, F025, F026, F027, F028, F029, F030, F031, F031A, F032",
   "13122 EGYPTIAN HIEROGLYPH: F033, F034, F035, F036, F037, F037A, F038, F038A, F039, F040, F041",
   "1312D EGYPTIAN HIEROGLYPH: F042, F043, F044, F045, F045A, F046, F046A, F047, F047A, F048",
   "13137 EGYPTIAN HIEROGLYPH: F049, F050, F051, F051A, F051B, F051C, F052, F053, G001, G002",
   "13141 EGYPTIAN HIEROGLYPH: G003, G004, G005, G006, G006A, G007, G007A, G007B, G008, G009",
   "1314B EGYPTIAN HIEROGLYPH: G010, G011, G011A, G012, G013, G014, G015, G016, G017, G018, G019",
   "13156 EGYPTIAN HIEROGLYPH: G020, G020A, G021, G022, G023, G024, G025, G026, G026A, G027, G028",
   "13161 EGYPTIAN HIEROGLYPH: G029, G030, G031, G032, G033, G034, G035, G036, G036A, G037, G037A",
   "1316C EGYPTIAN HIEROGLYPH: G038, G039, G040, G041, G042, G043, G043A, G044, G045, G045A, G046",
   "13177 EGYPTIAN HIEROGLYPH: G047, G048, G049, G050, G051, G052, G053, G054, H001, H002, H003",
   "13182 EGYPTIAN HIEROGLYPH: H004, H005, H006, H006A, H007, H008, I001, I002, I003, I004, I005",
   "1318D EGYPTIAN HIEROGLYPH: I005A, I006, I007, I008, I009, I009A, I010, I010A, I011, I011A",
   "13197 EGYPTIAN HIEROGLYPH: I012, I013, I014, I015, K001, K002, K003, K004, K005, K006, K007",
   "131A2 EGYPTIAN HIEROGLYPH: K008, L001, L002, L002A, L003, L004, L005, L006, L006A, L007, L008",
   "131AD EGYPTIAN HIEROGLYPH: M001, M001A, M001B, M002, M003, M003A, M004, M005, M006, M007",
   "131B7 EGYPTIAN HIEROGLYPH: M008, M009, M010, M010A, M011, M012, M012A, M012B, M012C, M012D",
   "131C1 EGYPTIAN HIEROGLYPH: M012E, M012F, M012G, M012H, M013, M014, M015, M015A, M016, M016A",
   "131CB EGYPTIAN HIEROGLYPH: M017, M017A, M018, M019, M020, M021, M022, M022A, M023, M024",
   "131D5 EGYPTIAN HIEROGLYPH: M024A, M025, M026, M027, M028, M028A, M029, M030, M031, M031A",
   "131DF EGYPTIAN HIEROGLYPH: M032, M033, M033A, M033B, M034, M035, M036, M037, M038, M039",
   "131E9 EGYPTIAN HIEROGLYPH: M040, M040A, M041, M042, M043, M044, N001, N002, N003, N004, N005",
   "131F4 EGYPTIAN HIEROGLYPH: N006, N007, N008, N009, N010, N011, N012, N013, N014, N015, N016",
   "131FF EGYPTIAN HIEROGLYPH: N017, N018, N018A, N018B, N019, N020, N021, N022, N023, N024, N025",
   "1320A EGYPTIAN HIEROGLYPH: N025A, N026, N027, N028, N029, N030, N031, N032, N033, N033A, N034",
   "13215 EGYPTIAN HIEROGLYPH: N034A, N035, N035A, N036, N037, N037A, N038, N039, N040, N041",
   "1321F EGYPTIAN HIEROGLYPH: N042, NL001, NL002, NL003, NL004, NL005, NL005A, NL006, NL007",
   "13228 EGYPTIAN HIEROGLYPH: NL008, NL009, NL010, NL011, NL012, NL013, NL014, NL015, NL016",
   "13231 EGYPTIAN HIEROGLYPH: NL017, NL017A, NL018, NL019, NL020, NU001, NU002, NU003, NU004",
   "1323A EGYPTIAN HIEROGLYPH: NU005, NU006, NU007, NU008, NU009, NU010, NU010A, NU011, NU011A",
   "13243 EGYPTIAN HIEROGLYPH: NU012, NU013, NU014, NU015, NU016, NU017, NU018, NU018A, NU019",
   "1324C EGYPTIAN HIEROGLYPH: NU020, NU021, NU022, NU022A, O001, O001A, O002, O003, O004, O005",
   "13256 EGYPTIAN HIEROGLYPH: O005A, O006, O006A, O006B, O006C, O006D, O006E, O006F, O007, O008",
   "13260 EGYPTIAN HIEROGLYPH: O009, O010, O010A, O010B, O010C, O011, O012, O013, O014, O015",
   "1326A EGYPTIAN HIEROGLYPH: O016, O017, O018, O019, O019A, O020, O020A, O021, O022, O023, O024",
   "13275 EGYPTIAN HIEROGLYPH: O024A, O025, O025A, O026, O027, O028, O029, O029A, O030, O030A",
   "1327F EGYPTIAN HIEROGLYPH: O031, O032, O033, O033A, O034, O035, O036, O036A, O036B, O036C",
   "13289 EGYPTIAN HIEROGLYPH: O036D, O037, O038, O039, O040, O041, O042, O043, O044, O045, O046",
   "13294 EGYPTIAN HIEROGLYPH: O047, O048, O049, O050, O050A, O050B, O051, P001, P001A, P002",
   "1329E EGYPTIAN HIEROGLYPH: P003, P003A, P004, P005, P006, P007, P008, P009, P010, P011, Q001",
   "132A9 EGYPTIAN HIEROGLYPH: Q002, Q003, Q004, Q005, Q006, Q007, R001, R002, R002A, R003, R003A",
   "132B4 EGYPTIAN HIEROGLYPH: R003B, R004, R005, R006, R007, R008, R009, R010, R010A, R011",
   "132BE EGYPTIAN HIEROGLYPH: R012, R013, R014, R015, R016, R016A, R017, R018, R019, R020, R021",
   "132C9 EGYPTIAN HIEROGLYPH: R022, R023, R024, R025, R026, R027, R028, R029, S001, S002, S002A",
   "132D4 EGYPTIAN HIEROGLYPH: S003, S004, S005, S006, S006A, S007, S008, S009, S010, S011, S012",
   "132DF EGYPTIAN HIEROGLYPH: S013, S014, S014A, S014B, S015, S016, S017, S017A, S018, S019",
   "132E9 EGYPTIAN HIEROGLYPH: S020, S021, S022, S023, S024, S025, S026, S026A, S026B, S027, S028",
   "132F4 EGYPTIAN HIEROGLYPH: S029, S030, S031, S032, S033, S034, S035, S035A, S036, S037, S038",
   "132FF EGYPTIAN HIEROGLYPH: S039, S040, S041, S042, S043, S044, S045, S046, T001, T002, T003",
   "1330A EGYPTIAN HIEROGLYPH: T003A, T004, T005, T006, T007, T007A, T008, T008A, T009, T009A",
   "13314 EGYPTIAN HIEROGLYPH: T010, T011, T011A, T012, T013, T014, T015, T016, T016A, T017",
   "1331E EGYPTIAN HIEROGLYPH: T018, T019, T020, T021, T022, T023, T024, T025, T026, T027, T028",
   "13329 EGYPTIAN HIEROGLYPH: T029, T030, T031, T032, T032A, T033, T033A, T034, T035, T036, U001",
   "13334 EGYPTIAN HIEROGLYPH: U002, U003, U004, U005, U006, U006A, U006B, U007, U008, U009, U010",
   "1333F EGYPTIAN HIEROGLYPH: U011, U012, U013, U014, U015, U016, U017, U018, U019, U020, U021",
   "1334A EGYPTIAN HIEROGLYPH: U022, U023, U023A, U024, U025, U026, U027, U028, U029, U029A, U030",
   "13355 EGYPTIAN HIEROGLYPH: U031, U032, U032A, U033, U034, U035, U036, U037, U038, U039, U040",
   "13360 EGYPTIAN HIEROGLYPH: U041, U042, V001, V001A, V001B, V001C, V001D, V001E, V001F, V001G",
   "1336A EGYPTIAN HIEROGLYPH: V001H, V001I, V002, V002A, V003, V004, V005, V006, V007, V007A",
   "13374 EGYPTIAN HIEROGLYPH: V007B, V008, V009, V010, V011, V011A, V011B, V011C, V012, V012A",
   "1337E EGYPTIAN HIEROGLYPH: V012B, V013, V014, V015, V016, V017, V018, V019, V020, V020A",
   "13388 EGYPTIAN HIEROGLYPH: V020B, V020C, V020D, V020E, V020F, V020G, V020H, V020I, V020J",
   "13391 EGYPTIAN HIEROGLYPH: V020K, V020L, V021, V022, V023, V023A, V024, V025, V026, V027",
   "1339B EGYPTIAN HIEROGLYPH: V028, V028A, V029, V029A, V030, V030A, V031, V031A, V032, V033",
   "133A5 EGYPTIAN HIEROGLYPH: V033A, V034, V035, V036, V037, V037A, V038, V039, V040, V040A",
   "133AF EGYPTIAN HIEROGLYPH: W001, W002, W003, W003A, W004, W005, W006, W007, W008, W009, W009A",
   "133BA EGYPTIAN HIEROGLYPH: W010, W010A, W011, W012, W013, W014, W014A, W015, W016, W017",
   "133C4 EGYPTIAN HIEROGLYPH: W017A, W018, W018A, W019, W020, W021, W022, W023, W024, W024A",
   "133CE EGYPTIAN HIEROGLYPH: W025, X001, X002, X003, X004, X004A, X004B, X005, X006, X006A",
   "133D8 EGYPTIAN HIEROGLYPH: X007, X008, X008A, Y001, Y001A, Y002, Y003, Y004, Y005, Y006, Y007",
   "133E3 EGYPTIAN HIEROGLYPH: Y008, Z001, Z002, Z002A, Z002B, Z002C, Z002D, Z003, Z003A, Z003B",
   "133ED EGYPTIAN HIEROGLYPH: Z004, Z004A, Z005, Z005A, Z006, Z007, Z008, Z009, Z010, Z011, Z012",
   "133F8 EGYPTIAN HIEROGLYPH: Z013, Z014, Z015, Z015A, Z015B, Z015C, Z015D, Z015E, Z015F, Z015G",
   "13402 EGYPTIAN HIEROGLYPH: Z015H, Z015I, Z016, Z016A, Z016B, Z016C, Z016D, Z016E, Z016F",
   "1340B EGYPTIAN HIEROGLYPH: Z016G, Z016H, AA001, AA002, AA003, AA004, AA005, AA006, AA007",
   "13414 EGYPTIAN HIEROGLYPH: AA007A, AA007B, AA008, AA009, AA010, AA011, AA012, AA013, AA014",
   "1341D EGYPTIAN HIEROGLYPH: AA015, AA016, AA017, AA018, AA019, AA020, AA021, AA022, AA023",
   "13426 EGYPTIAN HIEROGLYPH: AA024, AA025, AA026, AA027, AA028, AA029, AA030, AA031, AA032",
   "13430 EGYPTIAN HIEROGLYPH: VERTICAL JOINER, HORIZONTAL JOINER",
   "13432 EGYPTIAN HIEROGLYPH INSERT AT: TOP START, BOTTOM START, TOP END, BOTTOM END",
   "13436 EGYPTIAN HIEROGLYPH: OVERLAY MIDDLE, BEGIN SEGMENT, END SEGMENT",
   "14400 ANATOLIAN HIEROGLYPH: A001, A002, A003, A004, A005, A006, A007, A008, A009, A010, A010A",
   "1440B ANATOLIAN HIEROGLYPH: A011, A012, A013, A014, A015, A016, A017, A018, A019, A020, A021",
   "14416 ANATOLIAN HIEROGLYPH: A022, A023, A024, A025, A026, A026A, A027, A028, A029, A030, A031",
   "14421 ANATOLIAN HIEROGLYPH: A032, A033, A034, A035, A036, A037, A038, A039, A039A, A040, A041",
   "1442C ANATOLIAN HIEROGLYPH: A041A, A042, A043, A044, A045, A045A, A046, A046A, A046B, A047",
   "14436 ANATOLIAN HIEROGLYPH: A048, A049, A050, A051, A052, A053, A054, A055, A056, A057, A058",
   "14441 ANATOLIAN HIEROGLYPH: A059, A060, A061, A062, A063, A064, A065, A066, A066A, A066B",
   "1444B ANATOLIAN HIEROGLYPH: A066C, A067, A068, A069, A070, A071, A072, A073, A074, A075, A076",
   "14456 ANATOLIAN HIEROGLYPH: A077, A078, A079, A080, A081, A082, A083, A084, A085, A086, A087",
   "14461 ANATOLIAN HIEROGLYPH: A088, A089, A090, A091, A092, A093, A094, A095, A096, A097, A097A",
   "1446C ANATOLIAN HIEROGLYPH: A098, A098A, A099, A100, A100A, A101, A101A, A102, A102A, A103",
   "14476 ANATOLIAN HIEROGLYPH: A104, A104A, A104B, A104C, A105, A105A, A105B, A106, A107, A107A",
   "14480 ANATOLIAN HIEROGLYPH: A107B, A107C, A108, A109, A110, A110A, A110B, A111, A112, A113",
   "1448A ANATOLIAN HIEROGLYPH: A114, A115, A115A, A116, A117, A118, A119, A120, A121, A122, A123",
   "14495 ANATOLIAN HIEROGLYPH: A124, A125, A125A, A126, A127, A128, A129, A130, A131, A132, A133",
   "144A0 ANATOLIAN HIEROGLYPH: A134, A135, A135A, A136, A137, A138, A139, A140, A141, A142, A143",
   "144AB ANATOLIAN HIEROGLYPH: A144, A145, A146, A147, A148, A149, A150, A151, A152, A153, A154",
   "144B6 ANATOLIAN HIEROGLYPH: A155, A156, A157, A158, A159, A160, A161, A162, A163, A164, A165",
   "144C1 ANATOLIAN HIEROGLYPH: A166, A167, A168, A169, A170, A171, A172, A173, A174, A175, A176",
   "144CC ANATOLIAN HIEROGLYPH: A177, A178, A179, A180, A181, A182, A183, A184, A185, A186, A187",
   "144D7 ANATOLIAN HIEROGLYPH: A188, A189, A190, A191, A192, A193, A194, A195, A196, A197, A198",
   "144E2 ANATOLIAN HIEROGLYPH: A199, A200, A201, A202, A202A, A202B, A203, A204, A205, A206",
   "144EC ANATOLIAN HIEROGLYPH: A207, A207A, A208, A209, A209A, A210, A211, A212, A213, A214",
   "144F6 ANATOLIAN HIEROGLYPH: A215, A215A, A216, A216A, A217, A218, A219, A220, A221, A222",
   "14500 ANATOLIAN HIEROGLYPH: A223, A224, A225, A226, A227, A227A, A228, A229, A230, A231, A232",
   "1450B ANATOLIAN HIEROGLYPH: A233, A234, A235, A236, A237, A238, A239, A240, A241, A242, A243",
   "14516 ANATOLIAN HIEROGLYPH: A244, A245, A246, A247, A248, A249, A250, A251, A252, A253, A254",
   "14521 ANATOLIAN HIEROGLYPH: A255, A256, A257, A258, A259, A260, A261, A262, A263, A264, A265",
   "1452C ANATOLIAN HIEROGLYPH: A266, A267, A267A, A268, A269, A270, A271, A272, A273, A274, A275",
   "14537 ANATOLIAN HIEROGLYPH: A276, A277, A278, A279, A280, A281, A282, A283, A284, A285, A286",
   "14542 ANATOLIAN HIEROGLYPH: A287, A288, A289, A289A, A290, A291, A292, A293, A294, A294A",
   "1454C ANATOLIAN HIEROGLYPH: A295, A296, A297, A298, A299, A299A, A300, A301, A302, A303, A304",
   "14557 ANATOLIAN HIEROGLYPH: A305, A306, A307, A308, A309, A309A, A310, A311, A312, A313, A314",
   "14562 ANATOLIAN HIEROGLYPH: A315, A316, A317, A318, A319, A320, A321, A322, A323, A324, A325",
   "1456D ANATOLIAN HIEROGLYPH: A326, A327, A328, A329, A329A, A330, A331, A332A, A332B, A332C",
   "14577 ANATOLIAN HIEROGLYPH: A333, A334, A335, A336, A336A, A336B, A336C, A337, A338, A339",
   "14581 ANATOLIAN HIEROGLYPH: A340, A341, A342, A343, A344, A345, A346, A347, A348, A349, A350",
   "1458C ANATOLIAN HIEROGLYPH: A351, A352, A353, A354, A355, A356, A357, A358, A359, A359A, A360",
   "14597 ANATOLIAN HIEROGLYPH: A361, A362, A363, A364, A364A, A365, A366, A367, A368, A368A",
   "145A1 ANATOLIAN HIEROGLYPH: A369, A370, A371, A371A, A372, A373, A374, A375, A376, A377",
   "145AB ANATOLIAN HIEROGLYPH: A378, A379, A380, A381, A381A, A382, A383 RA OR RI, A383A, A384",
   "145B4 ANATOLIAN HIEROGLYPH: A385, A386, A386A, A387, A388, A389, A390, A391, A392, A393 EIGHT",
   "145BE ANATOLIAN HIEROGLYPH: A394, A395, A396, A397, A398, A399, A400, A401, A402, A403",
   "145C8 ANATOLIAN HIEROGLYPH: A404, A405, A406, A407, A408, A409, A410 BEGIN LOGOGRAM MARK",
   "145CF ANATOLIAN HIEROGLYPH A410A END LOGOGRAM MARK",
   "145D0 ANATOLIAN HIEROGLYPH: A411, A412, A413, A414, A415, A416, A417, A418, A419",
   "145D9 ANATOLIAN HIEROGLYPH: A420, A421, A422, A423, A424, A425, A426, A427, A428, A429, A430",
   "145E4 ANATOLIAN HIEROGLYPH: A431, A432, A433, A434, A435, A436, A437, A438, A439, A440, A441",
   "145EF ANATOLIAN HIEROGLYPH: A442, A443, A444, A445, A446, A447, A448, A449, A450, A450A, A451",
   "145FA ANATOLIAN HIEROGLYPH: A452, A453, A454, A455, A456, A457, A457A, A458, A459, A460, A461",
   "14605 ANATOLIAN HIEROGLYPH: A462, A463, A464, A465, A466, A467, A468, A469, A470, A471, A472",
   "14610 ANATOLIAN HIEROGLYPH: A473, A474, A475, A476, A477, A478, A479, A480, A481, A482, A483",
   "1461B ANATOLIAN HIEROGLYPH: A484, A485, A486, A487, A488, A489, A490, A491, A492, A493, A494",
   "14626 ANATOLIAN HIEROGLYPH: A495, A496, A497, A501, A502, A503, A504, A505, A506, A507, A508",
   "14631 ANATOLIAN HIEROGLYPH: A509, A510, A511, A512, A513, A514, A515, A516, A517, A518, A519",
   "1463C ANATOLIAN HIEROGLYPH: A520, A521, A522, A523, A524, A525, A526, A527, A528, A529, A530",
   "16800 BAMUM LETTER PHASE-A: NGKUE MFON, GBIEE FON, PON MFON PIPAEMGBIEE, PON MFON PIPAEMBA",
   "16804 BAMUM LETTER PHASE-A: NAA MFON, SHUENSHUET, TITA MFON, NZA MFON, SHINDA PA NJI",
   "16809 BAMUM LETTER PHASE-A: PON PA NJI PIPAEMGBIEE, PON PA NJI PIPAEMBA, MAEMBGBIEE",
   "1680C BAMUM LETTER PHASE-A: TU MAEMBA, NGANGU, MAEMVEUX, MANSUAE, MVEUAENGAM, SEUNYAM",
   "16812 BAMUM LETTER PHASE-A: NTOQPEN, KEUKEUTNDA, NKINDI, SUU, NGKUENZEUM, LAPAQ, LET KUT",
   "16819 BAMUM LETTER PHASE-A: NTAP MFAA, MAEKEUP, PASHAE, GHEUAERAE, PAMSHAE, MON NGGEUAET",
   "1681F BAMUM LETTER PHASE-A: NZUN MEUT, U YUQ NAE, GHEUAEGHEUAE, NTAP NTAA, SISA, MGBASA",
   "16825 BAMUM LETTER PHASE-A: MEUNJOMNDEUQ, MOOMPUQ, KAFA, PA LEERAEWA, NDA LEERAEWA, PET",
   "1682B BAMUM LETTER PHASE-A: MAEMKPEN, NIKA, PUP, TUAEP, LUAEP, SONJAM, TEUTEUWEN, MAENYI, KET",
   "16834 BAMUM LETTER PHASE-A: NDAANGGEUAET, KUOQ, MOOMEUT, SHUM, LOMMAE, FIRI, ROM, KPOQ, SOQ",
   "1683D BAMUM LETTER PHASE-A: MAP PIEET, SHIRAE, NTAP, SHOQ NSHUT YUM, NYIT MONGKEUAEQ, PAARAE",
   "16843 BAMUM LETTER PHASE-A: NKAARAE, UNKNOWN, NGGEN, MAESI, NJAM, MBANYI, NYET, TEUAEN",
   "1684B BAMUM LETTER PHASE-A: SOT, PAAM, NSHIEE, MAEM, NYI, KAQ, NSHA, VEE, LU, NEN, NAQ, MBAQ",
   "16857 BAMUM LETTER PHASE-B: NSHUET, TU MAEMGBIEE, SIEE, SET TU, LOM NTEUM, MBA MAELEE, KIEEM",
   "1685E BAMUM LETTER PHASE-B: YEURAE, MBAARAE, KAM, PEESHI, YAFU LEERAEWA, LAM NSHUT NYAM",
   "16864 BAMUM LETTER PHASE-B: NTIEE SHEUOQ, NDU NJAA, GHEUGHEUAEM, PIT, TU NSIEE, SHET NJAQ",
   "1686A BAMUM LETTER PHASE-B: SHEUAEQTU, MFON TEUAEQ, MBIT MBAAKET, NYI NTEUM, KEUPUQ",
   "1686F BAMUM LETTER PHASE-B: GHEUGHEN, KEUYEUX, LAANAE, PARUM, VEUM, NGKINDI MVOP, NGGEU MBU",
   "16876 BAMUM LETTER PHASE-B: WUAET, SAKEUAE, TAAM, MEUQ, NGGUOQ, NGGUOQ LARGE, MFIYAQ, SUE",
   "1687E BAMUM LETTER PHASE-B: MBEURI, MONTIEEN, NYAEMAE, PUNGAAM, MEUT NGGEET, FEUX, MBUOQ, FEE",
   "16886 BAMUM LETTER PHASE-B: KEUAEM, MA NJEUAENA, MA NJUQA, LET, NGGAAM, NSEN, MA, KIQ, NGOM",
   "1688F BAMUM LETTER PHASE-C NGKUE MAEMBA",
   "16890 BAMUM LETTER PHASE-C: NZA, YUM, WANGKUOQ, NGGEN, NDEUAEREE, NGKAQ, GHARAE, MBEEKEET",
   "16898 BAMUM LETTER PHASE-C: GBAYI, NYIR MKPARAQ MEUN, NTU MBIT, MBEUM, PIRIEEN, NDOMBU",
   "1689E BAMUM LETTER PHASE-C: MBAA CABBAGE-TREE, KEUSHEUAEP, GHAP, KEUKAQ, YU MUOMAE, NZEUM",
   "168A4 BAMUM LETTER PHASE-C: MBUE, NSEUAEN, MBIT, YEUQ, KPARAQ, KAA, SEUX, NDIDA, TAASHAE",
   "168AD BAMUM LETTER PHASE-C: NJUEQ, TITA YUE, SUAET, NGGUAEN NYAM, VEUX, NANSANAQ, MA KEUAERI",
   "168B4 BAMUM LETTER PHASE-C: NTAA, NGGUON, LAP, MBIRIEEN, MGBASAQ, NTEUNGBA, TEUTEUX",
   "168BB BAMUM LETTER PHASE-C: NGGUM, FUE, NDEUT, NSA, NSHAQ, BUNG, VEUAEPEN, MBERAE, RU",
   "168C4 BAMUM LETTER PHASE-C: NJAEM, LAM, TITUAEP, NSUOT NGOM, NJEEEE, KET, NGGU, MAESI, MBUAEM",
   "168CD BAMUM LETTER PHASE-C: LU, KUT, NJAM, NGOM, WUP, NGGUEET, NSOM, NTEN, KUOP NKAARAE",
   "168D6 BAMUM LETTER PHASE-C: NSUN, NDAM, MA NSIEE, YAA, NDAP, SHUEQ, SETFON, MBI, MAEMBA",
   "168DF BAMUM LETTER PHASE-C: MBANYI, KEUSEUX, MBEUX, KEUM, MBAA PICKET, YUWOQ, NJEUX, MIEE",
   "168E7 BAMUM LETTER PHASE-C: MUAE, SHIQ, KEN LAW, KEN FATIGUE, NGAQ, NAQ, LIQ, PIN, PEN, TET",
   "168F1 BAMUM LETTER PHASE-D: MBUO, WAP, NJI, MFON, NJIEE, LIEE, NJEUT, NSHEE, NGGAAMAE",
   "168FA BAMUM LETTER PHASE-D: NYAM, WUAEN, NGKUN, SHEE, NGKAP, KEUAETMEUN, TEUT, SHEUAE, NJAP",
   "16903 BAMUM LETTER PHASE-D: SUE, KET, YAEMMAE, KUOM, SAP, MFEUT, NDEUX, MALEERI, MEUT, SEUAEQ",
   "1690D BAMUM LETTER PHASE-D: YEN, NJEUAEM, KEUOT MBUAE, NGKEURI, TU, GHAA, NGKYEE, FEUFEUAET",
   "16915 BAMUM LETTER PHASE-D: NDEE, MGBOFUM, LEUAEP, NDON, MONI, MGBEUN, PUUT, MGBIEE, MFO, LUM",
   "1691F BAMUM LETTER PHASE-D: NSIEEP, MBAA, KWAET, NYET, TEUAEN, SOT, YUWOQ, KEUM, RAEM, TEEEE",
   "16929 BAMUM LETTER PHASE-D: NGKEUAEQ, MFEUAE, NSIEET, KEUP, PIP, PEUTAE, NYUE, LET, NGGAAM",
   "16932 BAMUM LETTER PHASE-D: MFIEE, NGGWAEN, YUOM, PAP, YUOP, NDAM, NTEUM, SUAE, KUN, NGGEUX",
   "1693C BAMUM LETTER PHASE-D: NGKIEE, TUOT, MEUN, KUQ, NSUM, TEUN, MAENJET, NGGAP, LEUM, NGGUOM",
   "16946 BAMUM LETTER PHASE-D: NSHUT, NJUEQ, GHEUAE, KU, REN OLD, TAE, TOQ, NYI, RII, LEEEE",
   "16950 BAMUM LETTER PHASE-D: MEEEE, M, SUU, MU, SHII, SHEUX, KYEE, NU, SHU, NTEE, PEE, NI",
   "1695C BAMUM LETTER PHASE-D: SHOQ, PUQ, MVOP, LOQ, REN MUCH, TI, NTUU, MBAA SEVEN, SAQ, FAA",
   "16966 BAMUM LETTER PHASE-E: NDAP, TOON, MBEUM, LAP, VOM, LOON, PAA, SOM, RAQ, NSHUOP",
   "16970 BAMUM LETTER PHASE-E: NDUN, PUAE, TAM, NGKA, KPEUX, WUO, SEE, NGGEUAET, PAAM, TOO, KUOP",
   "1697B BAMUM LETTER PHASE-E: LOM, NSHIEE, NGOP, MAEM, NGKEUX, NGOQ, NSHUE, RIMGBA, NJEUX, PEEM",
   "16985 BAMUM LETTER PHASE-E: SAA, NGGURAE, MGBA, GHEUX, NGKEUAEM, NJAEMLI, MAP, LOOT, NGGEEEE",
   "1698E BAMUM LETTER PHASE-E: NDIQ, TAEN NTEUM, SET, PUM, NDAA SOFTNESS, NGGUAESHAE NYAM",
   "16994 BAMUM LETTER PHASE-E: YIEE, GHEUN, TUAE, YEUAE, PO, TUMAE, KEUAE, SUAEN, TEUAEQ",
   "1699D BAMUM LETTER PHASE-E: VEUAE, WEUX, LAAM, PU, TAAQ, GHAAMAE, NGEUREUT, SHEUAEQ, MGBEN",
   "169A6 BAMUM LETTER PHASE-E: MBEE, NZAQ, NKOM, GBET, TUM, KUET, YAP, NYI CLEAVER, YIT, MFEUQ",
   "169B0 BAMUM LETTER PHASE-E: NDIAQ, PIEEQ, YUEQ, LEUAEM, FUE, GBEUX, NGKUP, KET, MAE, NGKAAMI",
   "169BA BAMUM LETTER PHASE-E: GHET, FA, NTUM, PEUT, YEUM, NGGEUAE, NYI BETWEEN, NZUQ, POON",
   "169C3 BAMUM LETTER PHASE-E: MIEE, FUET, NAE, MUAE, GHEUAE, FU I, MVI, PUAQ, NGKUM, KUT, PIET",
   "169CE BAMUM LETTER PHASE-E: NTAP, YEUAET, NGGUP, PA PEOPLE, FU CALL, FOM, NJEE, A, TOQ, O, I",
   "169D9 BAMUM LETTER PHASE-E: LAQ, PA PLURAL, TAA, TAQ, NDAA MY HOUSE, SHIQ, YEUX, NGUAE, YUAEN",
   "169E2 BAMUM LETTER PHASE-E YOQ: SWIMMING, COVER",
   "169E4 BAMUM LETTER PHASE-E: YUQ, YUN, KEUX, PEUX, NJEE EPOCH, PUE, WUE",
   "169EB BAMUM LETTER PHASE-E: FEE, VEE, LU, MI, REUX, RAE, NGUAET, NGA, SHO, SHOQ, FU REMEDY",
   "169F6 BAMUM LETTER PHASE-E: NA, PI, LOQ, KO, MEN, MA, MAQ, TEU, KI, MON, TEN, FAQ, GHOM",
   "16A03 BAMUM LETTER PHASE-F: KA, U, KU, EE, REE",
   "16A08 BAMUM LETTER PHASE-F: TAE, NYI, LA, RII, RIEE, MEEEE, TAA, NDAA, NJAEM, M, SUU, SHII",
   "16A14 BAMUM LETTER PHASE-F: SI, SEUX, KYEE, KET, NUAE, NU, NJUAE, YOQ, SHU, YA, NSHA, PEUX",
   "16A20 BAMUM LETTER PHASE-F: NTEE, WUE, PEE, RU, NI, REUX, KEN, NGKWAEN, NGGA, SHO, PUAE, FOM",
   "16A2C BAMUM LETTER PHASE-F: WA, LI, LOQ, KO, MBEN, REN, MA, MO, MBAA, TET, KPA, SAMBA, VUEQ",
   "16A40 MRO LETTER: TA, NGI, YO, MIM, BA, DA, A, PHI, KHAI, HAO, DAI, CHU, KEAAE, OL",
   "16A4E MRO LETTER: MAEM, NIN, PA, OO, O, RO, SHI, THEA, EA, WA, E, KO, LAN, LA, HAI, RI, TEK",
   "16A60 MRO DIGIT: ZERO, ONE, TWO, THREE, FOUR, FIVE, SIX, SEVEN, EIGHT, NINE",
   "16A6E MRO: DANDA, DOUBLE DANDA",
   "16A70 TANGSA LETTER: OZ, OC, OQ, OX, AZ, AC, AQ, AX, VZ, VC, VQ, VX, EZ, EC, EQ, EX, IZ, IC",
   "16A82 TANGSA LETTER: IQ, IX, UZ, UC, UQ, UX, AWZ, AWC, AWQ, AWX, UIZ, UIC, UIQ, UIX, FINAL NG",
   "16A91 TANGSA LETTER LONG UEX",
   "16A92 TANGSA LETTER: SHORT UEZ, SHORT AWX, UEC, UEZ, UEQ, UEX, UIUZ, UIUC, UIUQ, UIUX, MZ, MC",
   "16A9E TANGSA LETTER: MQ, MX, KA, KHA, GA, NGA, SA, YA, WA, PA, NYA, PHA, BA, MA, NA, HA, LA",
   "16AAF TANGSA LETTER: HTA, TA, DA, RA, NHA, SHA, CA, TSA, GHA, HTTA, THA, XA, FA, DHA, CHA, ZA",
   "16AC0 TANGSA DIGIT: ZERO, ONE, TWO, THREE, FOUR, FIVE, SIX, SEVEN, EIGHT, NINE",
   "16AD0 BASSA VAH LETTER: ENNI, KA, SE, FA, MBE, YIE, GAH, DHII, KPAH, JO, HWAH, WA, ZO",
   "16ADD BASSA VAH LETTER: GBU, DO, CE, UWU, TO, BA, VU, YEIN, PA, WADDA, A, O, OO, U, EE, E, I",
   "16AF0 BASSA VAH COMBINING: HIGH TONE, LOW TONE, MID TONE, LOW-MID TONE, HIGH-LOW TONE",
   "16AF5 BASSA VAH FULL STOP",
   "16B00 PAHAWH HMONG VOWEL: KEEB, KEEV, KIB, KIV",
   "16B04 PAHAWH HMONG VOWEL: KAUB, KAUV, KUB, KUV, KEB, KEV, KAIB, KAIV, KOOB, KOOV, KAWB, KAWV",
   "16B10 PAHAWH HMONG VOWEL: KUAB, KUAV, KOB, KOV, KIAB, KIAV, KAB, KAV, KWB, KWV, KAAB, KAAV",
   "16B1C PAHAWH HMONG CONSONANT: VAU, NTSAU, LAU, HAU, NLAU, RAU, NKAU, QHAU, YAU",
   "16B25 PAHAWH HMONG CONSONANT: HLAU, MAU, CHAU, NCHAU, HNAU, PLHAU, NTHAU, NAU, AU, XAU, CAU",
   "16B30 PAHAWH HMONG MARK CIM: TUB, SO, KES, KHAV, SUAM, HOM, TAUM",
   "16B37 PAHAWH HMONG SIGN: VOS THOM, VOS TSHAB CEEB, CIM CHEEM, VOS THIAB, VOS FEEM",
   "16B3C PAHAWH HMONG SIGN XYEEM: NTXIV, RHO, TOV, FAIB",
   "16B40 PAHAWH HMONG SIGN: VOS SEEV, MEEJ SUAB, VOS NRUA, IB YAM, XAUS, CIM TSOV ROG",
   "16B50 PAHAWH HMONG DIGIT: ZERO, ONE, TWO, THREE, FOUR, FIVE, SIX, SEVEN, EIGHT, NINE",
   "16B5B PAHAWH HMONG NUMBER: TENS, HUNDREDS",
   "16B5D PAHAWH HMONG NUMBER: TEN THOUSANDS, MILLIONS, HUNDRED MILLIONS, TEN BILLIONS, TRILLIONS",
   "16B63 PAHAWH HMONG SIGN VOS LUB",
   "16B64 PAHAWH HMONG SIGN: XYOO, HLI, THIRD-STAGE HLI, ZWJ THAJ, HNUB, NQIG, XIAB, NTUJ",
   "16B6C PAHAWH HMONG SIGN: AV, TXHEEJ CEEV, MEEJ TSEEB, TAU, LOS, MUS, CIM HAIS LUS NTOG NTOG",
   "16B73 PAHAWH HMONG SIGN CIM: CUAM TSHOOJ, TXWV, TXWV CHWV, PUB DAWB, NRES TOS",
   "16B7D PAHAWH HMONG CLAN SIGN: TSHEEJ, YEEG, LIS, LAUJ, XYOOJ, KOO, HAWJ, MUAS",
   "16B85 PAHAWH HMONG CLAN SIGN: THOJ, TSAB, PHAB, KHAB, HAM, VAJ, FAJ, YAJ, TSWB, KWM, VWJ",
   "16E40 MEDEFAIDRIN CAPITAL LETTER: M, S, V, W, ATIU, Z, KP, P, T, G, F, I, K, A",
   "16E4E MEDEFAIDRIN CAPITAL LETTER: J, E, B, C, U, YU, L, Q, HP, NY, X, D, OE, N, R, O, AI, Y",
   "16E60 MEDEFAIDRIN SMALL LETTER: M, S, V, W, ATIU, Z, KP, P, T, G, F, I, K",
   "16E6D MEDEFAIDRIN SMALL LETTER: A, J, E, B, C, U, YU, L, Q, HP, NY, X, D, OE, N, R, O, AI, Y",
   "16E80 MEDEFAIDRIN DIGIT: ZERO, ONE, TWO, THREE, FOUR, FIVE, SIX, SEVEN, EIGHT, NINE",
   "16E8A MEDEFAIDRIN NUMBER: TEN, ELEVEN, TWELVE",
   "16E8D MEDEFAIDRIN NUMBER: THIRTEEN, FOURTEEN, FIFTEEN, SIXTEEN, SEVENTEEN, EIGHTEEN, NINETEEN",
   "16E94 MEDEFAIDRIN DIGIT: ONE ALTERNATE FORM, TWO ALTERNATE FORM, THREE ALTERNATE FORM",
   "16E97 MEDEFAIDRIN: COMMA, FULL STOP, SYMBOL AIVA, EXCLAMATION OH",
   "16F00 MIAO LETTER: PA, BA, YI PA, PLA, MA, MHA, ARCHAIC MA, FA, VA, VFA",
   "16F0A MIAO LETTER: TA, DA, YI TTA, YI TA, TTA, DDA, NA, NHA, YI NNA, ARCHAIC NA, NNA, NNHA",
   "16F16 MIAO LETTER: LA, LYA, LHA, LHYA, TLHA, DLHA, TLHYA, DLHYA, KA, GA, YI KA, QA, QGA, NGA",
   "16F24 MIAO LETTER: NGHA, ARCHAIC NGA, HA, XA, GHA, GHHA, TSSA, DZZA, NYA, NYHA, TSHA, DZHA",
   "16F30 MIAO LETTER YI: TSHA, DZHA",
   "16F32 MIAO LETTER: REFORMED TSHA, SHA, SSA, ZHA, ZSHA, TSA, DZA, YI TSA, SA, ZA, ZSA, ZZA",
   "16F3E MIAO LETTER: ZZSA, ARCHAIC ZZA, ZZYA, ZZSYA, WA, AH, HHA, BRI, SYI, DZYI, TE, TSE, RTE",
   "16F4F MIAO: SIGN CONSONANT MODIFIER BAR, LETTER NASALIZATION, SIGN ASPIRATION",
   "16F52 MIAO SIGN REFORMED: VOICING, ASPIRATION",
   "16F54 MIAO VOWEL SIGN: A, AA, AHH, AN, ANG, O, OO, WO",
   "16F5C MIAO VOWEL SIGN: W, E, EN, ENG, OEY, I, IA, IAN, IANG, IO, IE, II, IU, ING, U, UA, UAN",
   "16F6D MIAO VOWEL SIGN: UANG, UU, UEI, UNG, Y, YI, AE, AEE, ERR, ROUNDED ERR, ER, ROUNDED ER",
   "16F79 MIAO VOWEL SIGN: AI, EI, AU, OU, N, NG, UOG, YUI, OG, OER, VW, IG, EA, IONG, UI",
   "16F8F MIAO TONE: RIGHT, TOP RIGHT, ABOVE, BELOW",
   "16F93 MIAO LETTER: TONE-2, TONE-3, TONE-4, TONE-5, TONE-6, TONE-7, TONE-8",
   "16F9A MIAO LETTER REFORMED: TONE-1, TONE-2, TONE-4, TONE-5, TONE-6, TONE-8",
   "16FE0 TANGUT ITERATION MARK, NUSHU ITERATION MARK",
   "16FE2 OLD CHINESE HOOK MARK, OLD CHINESE ITERATION MARK, KHITAN SMALL SCRIPT FILLER",
   "16FF0 VIETNAMESE ALTERNATE READING MARK: CA, NHAY",
   "18800 TANGUT: COMPONENT-001, COMPONENT-002, COMPONENT-003",
   "18803 TANGUT: COMPONENT-004, COMPONENT-005, COMPONENT-006, COMPONENT-007, COMPONENT-008",
   "18808 TANGUT: COMPONENT-009, COMPONENT-010, COMPONENT-011, COMPONENT-012, COMPONENT-013",
   "1880D TANGUT: COMPONENT-014, COMPONENT-015, COMPONENT-016, COMPONENT-017, COMPONENT-018",
   "18812 TANGUT: COMPONENT-019, COMPONENT-020, COMPONENT-021, COMPONENT-022, COMPONENT-023",
   "18817 TANGUT: COMPONENT-024, COMPONENT-025, COMPONENT-026, COMPONENT-027, COMPONENT-028",
   "1881C TANGUT: COMPONENT-029, COMPONENT-030, COMPONENT-031, COMPONENT-032, COMPONENT-033",
   "18821 TANGUT: COMPONENT-034, COMPONENT-035, COMPONENT-036, COMPONENT-037, COMPONENT-038",
   "18826 TANGUT: COMPONENT-039, COMPONENT-040, COMPONENT-041, COMPONENT-042, COMPONENT-043",
   "1882B TANGUT: COMPONENT-044, COMPONENT-045, COMPONENT-046, COMPONENT-047, COMPONENT-048",
   "18830 TANGUT: COMPONENT-049, COMPONENT-050, COMPONENT-051, COMPONENT-052, COMPONENT-053",
   "18835 TANGUT: COMPONENT-054, COMPONENT-055, COMPONENT-056, COMPONENT-057, COMPONENT-058",
   "1883A TANGUT: COMPONENT-059, COMPONENT-060, COMPONENT-061, COMPONENT-062, COMPONENT-063",
   "1883F TANGUT: COMPONENT-064, COMPONENT-065, COMPONENT-066, COMPONENT-067, COMPONENT-068",
   "18844 TANGUT: COMPONENT-069, COMPONENT-070, COMPONENT-071, COMPONENT-072, COMPONENT-073",
   "18849 TANGUT: COMPONENT-074, COMPONENT-075, COMPONENT-076, COMPONENT-077, COMPONENT-078",
   "1884E TANGUT: COMPONENT-079, COMPONENT-080, COMPONENT-081, COMPONENT-082, COMPONENT-083",
   "18853 TANGUT: COMPONENT-084, COMPONENT-085, COMPONENT-086, COMPONENT-087, COMPONENT-088",
   "18858 TANGUT: COMPONENT-089, COMPONENT-090, COMPONENT-091, COMPONENT-092, COMPONENT-093",
   "1885D TANGUT: COMPONENT-094, COMPONENT-095, COMPONENT-096, COMPONENT-097, COMPONENT-098",
   "18862 TANGUT: COMPONENT-099, COMPONENT-100, COMPONENT-101, COMPONENT-102, COMPONENT-103",
   "18867 TANGUT: COMPONENT-104, COMPONENT-105, COMPONENT-106, COMPONENT-107, COMPONENT-108",
   "1886C TANGUT: COMPONENT-109, COMPONENT-110, COMPONENT-111, COMPONENT-112, COMPONENT-113",
   "18871 TANGUT: COMPONENT-114, COMPONENT-115, COMPONENT-116, COMPONENT-117, COMPONENT-118",
   "18876 TANGUT: COMPONENT-119, COMPONENT-120, COMPONENT-121, COMPONENT-122, COMPONENT-123",
   "1887B TANGUT: COMPONENT-124, COMPONENT-125, COMPONENT-126, COMPONENT-127, COMPONENT-128",
   "18880 TANGUT: COMPONENT-129, COMPONENT-130, COMPONENT-131, COMPONENT-132, COMPONENT-133",
   "18885 TANGUT: COMPONENT-134, COMPONENT-135, COMPONENT-136, COMPONENT-137, COMPONENT-138",
   "1888A TANGUT: COMPONENT-139, COMPONENT-140, COMPONENT-141, COMPONENT-142, COMPONENT-143",
   "1888F TANGUT: COMPONENT-144, COMPONENT-145, COMPONENT-146, COMPONENT-147, COMPONENT-148",
   "18894 TANGUT: COMPONENT-149, COMPONENT-150, COMPONENT-151, COMPONENT-152, COMPONENT-153",
   "18899 TANGUT: COMPONENT-154, COMPONENT-155, COMPONENT-156, COMPONENT-157, COMPONENT-158",
   "1889E TANGUT: COMPONENT-159, COMPONENT-160, COMPONENT-161, COMPONENT-162, COMPONENT-163",
   "188A3 TANGUT: COMPONENT-164, COMPONENT-165, COMPONENT-166, COMPONENT-167, COMPONENT-168",
   "188A8 TANGUT: COMPONENT-169, COMPONENT-170, COMPONENT-171, COMPONENT-172, COMPONENT-173",
   "188AD TANGUT: COMPONENT-174, COMPONENT-175, COMPONENT-176, COMPONENT-177, COMPONENT-178",
   "188B2 TANGUT: COMPONENT-179, COMPONENT-180, COMPONENT-181, COMPONENT-182, COMPONENT-183",
   "188B7 TANGUT: COMPONENT-184, COMPONENT-185, COMPONENT-186, COMPONENT-187, COMPONENT-188",
   "188BC TANGUT: COMPONENT-189, COMPONENT-190, COMPONENT-191, COMPONENT-192, COMPONENT-193",
   "188C1 TANGUT: COMPONENT-194, COMPONENT-195, COMPONENT-196, COMPONENT-197, COMPONENT-198",
   "188C6 TANGUT: COMPONENT-199, COMPONENT-200, COMPONENT-201, COMPONENT-202, COMPONENT-203",
   "188CB TANGUT: COMPONENT-204, COMPONENT-205, COMPONENT-206, COMPONENT-207, COMPONENT-208",
   "188D0 TANGUT: COMPONENT-209, COMPONENT-210, COMPONENT-211, COMPONENT-212, COMPONENT-213",
   "188D5 TANGUT: COMPONENT-214, COMPONENT-215, COMPONENT-216, COMPONENT-217, COMPONENT-218",
   "188DA TANGUT: COMPONENT-219, COMPONENT-220, COMPONENT-221, COMPONENT-222, COMPONENT-223",
   "188DF TANGUT: COMPONENT-224, COMPONENT-225, COMPONENT-226, COMPONENT-227, COMPONENT-228",
   "188E4 TANGUT: COMPONENT-229, COMPONENT-230, COMPONENT-231, COMPONENT-232, COMPONENT-233",
   "188E9 TANGUT: COMPONENT-234, COMPONENT-235, COMPONENT-236, COMPONENT-237, COMPONENT-238",
   "188EE TANGUT: COMPONENT-239, COMPONENT-240, COMPONENT-241, COMPONENT-242, COMPONENT-243",
   "188F3 TANGUT: COMPONENT-244, COMPONENT-245, COMPONENT-246, COMPONENT-247, COMPONENT-248",
   "188F8 TANGUT: COMPONENT-249, COMPONENT-250, COMPONENT-251, COMPONENT-252, COMPONENT-253",
   "188FD TANGUT: COMPONENT-254, COMPONENT-255, COMPONENT-256, COMPONENT-257, COMPONENT-258",
   "18902 TANGUT: COMPONENT-259, COMPONENT-260, COMPONENT-261, COMPONENT-262, COMPONENT-263",
   "18907 TANGUT: COMPONENT-264, COMPONENT-265, COMPONENT-266, COMPONENT-267, COMPONENT-268",
   "1890C TANGUT: COMPONENT-269, COMPONENT-270, COMPONENT-271, COMPONENT-272, COMPONENT-273",
   "18911 TANGUT: COMPONENT-274, COMPONENT-275, COMPONENT-276, COMPONENT-277, COMPONENT-278",
   "18916 TANGUT: COMPONENT-279, COMPONENT-280, COMPONENT-281, COMPONENT-282, COMPONENT-283",
   "1891B TANGUT: COMPONENT-284, COMPONENT-285, COMPONENT-286, COMPONENT-287, COMPONENT-288",
   "18920 TANGUT: COMPONENT-289, COMPONENT-290, COMPONENT-291, COMPONENT-292, COMPONENT-293",
   "18925 TANGUT: COMPONENT-294, COMPONENT-295, COMPONENT-296, COMPONENT-297, COMPONENT-298",
   "1892A TANGUT: COMPONENT-299, COMPONENT-300, COMPONENT-301, COMPONENT-302, COMPONENT-303",
   "1892F TANGUT: COMPONENT-304, COMPONENT-305, COMPONENT-306, COMPONENT-307, COMPONENT-308",
   "18934 TANGUT: COMPONENT-309, COMPONENT-310, COMPONENT-311, COMPONENT-312, COMPONENT-313",
   "18939 TANGUT: COMPONENT-314, COMPONENT-315, COMPONENT-316, COMPONENT-317, COMPONENT-318",
   "1893E TANGUT: COMPONENT-319, COMPONENT-320, COMPONENT-321, COMPONENT-322, COMPONENT-323",
   "18943 TANGUT: COMPONENT-324, COMPONENT-325, COMPONENT-326, COMPONENT-327, COMPONENT-328",
   "18948 TANGUT: COMPONENT-329, COMPONENT-330, COMPONENT-331, COMPONENT-332, COMPONENT-333",
   "1894D TANGUT: COMPONENT-334, COMPONENT-335, COMPONENT-336, COMPONENT-337, COMPONENT-338",
   "18952 TANGUT: COMPONENT-339, COMPONENT-340, COMPONENT-341, COMPONENT-342, COMPONENT-343",
   "18957 TANGUT: COMPONENT-344, COMPONENT-345, COMPONENT-346, COMPONENT-347, COMPONENT-348",
   "1895C TANGUT: COMPONENT-349, COMPONENT-350, COMPONENT-351, COMPONENT-352, COMPONENT-353",
   "18961 TANGUT: COMPONENT-354, COMPONENT-355, COMPONENT-356, COMPONENT-357, COMPONENT-358",
   "18966 TANGUT: COMPONENT-359, COMPONENT-360, COMPONENT-361, COMPONENT-362, COMPONENT-363",
   "1896B TANGUT: COMPONENT-364, COMPONENT-365, COMPONENT-366, COMPONENT-367, COMPONENT-368",
   "18970 TANGUT: COMPONENT-369, COMPONENT-370, COMPONENT-371, COMPONENT-372, COMPONENT-373",
   "18975 TANGUT: COMPONENT-374, COMPONENT-375, COMPONENT-376, COMPONENT-377, COMPONENT-378",
   "1897A TANGUT: COMPONENT-379, COMPONENT-380, COMPONENT-381, COMPONENT-382, COMPONENT-383",
   "1897F TANGUT: COMPONENT-384, COMPONENT-385, COMPONENT-386, COMPONENT-387, COMPONENT-388",
   "18984 TANGUT: COMPONENT-389, COMPONENT-390, COMPONENT-391, COMPONENT-392, COMPONENT-393",
   "18989 TANGUT: COMPONENT-394, COMPONENT-395, COMPONENT-396, COMPONENT-397, COMPONENT-398",
   "1898E TANGUT: COMPONENT-399, COMPONENT-400, COMPONENT-401, COMPONENT-402, COMPONENT-403",
   "18993 TANGUT: COMPONENT-404, COMPONENT-405, COMPONENT-406, COMPONENT-407, COMPONENT-408",
   "18998 TANGUT: COMPONENT-409, COMPONENT-410, COMPONENT-411, COMPONENT-412, COMPONENT-413",
   "1899D TANGUT: COMPONENT-414, COMPONENT-415, COMPONENT-416, COMPONENT-417, COMPONENT-418",
   "189A2 TANGUT: COMPONENT-419, COMPONENT-420, COMPONENT-421, COMPONENT-422, COMPONENT-423",
   "189A7 TANGUT: COMPONENT-424, COMPONENT-425, COMPONENT-426, COMPONENT-427, COMPONENT-428",
   "189AC TANGUT: COMPONENT-429, COMPONENT-430, COMPONENT-431, COMPONENT-432, COMPONENT-433",
   "189B1 TANGUT: COMPONENT-434, COMPONENT-435, COMPONENT-436, COMPONENT-437, COMPONENT-438",
   "189B6 TANGUT: COMPONENT-439, COMPONENT-440, COMPONENT-441, COMPONENT-442, COMPONENT-443",
   "189BB TANGUT: COMPONENT-444, COMPONENT-445, COMPONENT-446, COMPONENT-447, COMPONENT-448",
   "189C0 TANGUT: COMPONENT-449, COMPONENT-450, COMPONENT-451, COMPONENT-452, COMPONENT-453",
   "189C5 TANGUT: COMPONENT-454, COMPONENT-455, COMPONENT-456, COMPONENT-457, COMPONENT-458",
   "189CA TANGUT: COMPONENT-459, COMPONENT-460, COMPONENT-461, COMPONENT-462, COMPONENT-463",
   "189CF TANGUT: COMPONENT-464, COMPONENT-465, COMPONENT-466, COMPONENT-467, COMPONENT-468",
   "189D4 TANGUT: COMPONENT-469, COMPONENT-470, COMPONENT-471, COMPONENT-472, COMPONENT-473",
   "189D9 TANGUT: COMPONENT-474, COMPONENT-475, COMPONENT-476, COMPONENT-477, COMPONENT-478",
   "189DE TANGUT: COMPONENT-479, COMPONENT-480, COMPONENT-481, COMPONENT-482, COMPONENT-483",
   "189E3 TANGUT: COMPONENT-484, COMPONENT-485, COMPONENT-486, COMPONENT-487, COMPONENT-488",
   "189E8 TANGUT: COMPONENT-489, COMPONENT-490, COMPONENT-491, COMPONENT-492, COMPONENT-493",
   "189ED TANGUT: COMPONENT-494, COMPONENT-495, COMPONENT-496, COMPONENT-497, COMPONENT-498",
   "189F2 TANGUT: COMPONENT-499, COMPONENT-500, COMPONENT-501, COMPONENT-502, COMPONENT-503",
   "189F7 TANGUT: COMPONENT-504, COMPONENT-505, COMPONENT-506, COMPONENT-507, COMPONENT-508",
   "189FC TANGUT: COMPONENT-509, COMPONENT-510, COMPONENT-511, COMPONENT-512, COMPONENT-513",
   "18A01 TANGUT: COMPONENT-514, COMPONENT-515, COMPONENT-516, COMPONENT-517, COMPONENT-518",
   "18A06 TANGUT: COMPONENT-519, COMPONENT-520, COMPONENT-521, COMPONENT-522, COMPONENT-523",
   "18A0B TANGUT: COMPONENT-524, COMPONENT-525, COMPONENT-526, COMPONENT-527, COMPONENT-528",
   "18A10 TANGUT: COMPONENT-529, COMPONENT-530, COMPONENT-531, COMPONENT-532, COMPONENT-533",
   "18A15 TANGUT: COMPONENT-534, COMPONENT-535, COMPONENT-536, COMPONENT-537, COMPONENT-538",
   "18A1A TANGUT: COMPONENT-539, COMPONENT-540, COMPONENT-541, COMPONENT-542, COMPONENT-543",
   "18A1F TANGUT: COMPONENT-544, COMPONENT-545, COMPONENT-546, COMPONENT-547, COMPONENT-548",
   "18A24 TANGUT: COMPONENT-549, COMPONENT-550, COMPONENT-551, COMPONENT-552, COMPONENT-553",
   "18A29 TANGUT: COMPONENT-554, COMPONENT-555, COMPONENT-556, COMPONENT-557, COMPONENT-558",
   "18A2E TANGUT: COMPONENT-559, COMPONENT-560, COMPONENT-561, COMPONENT-562, COMPONENT-563",
   "18A33 TANGUT: COMPONENT-564, COMPONENT-565, COMPONENT-566, COMPONENT-567, COMPONENT-568",
   "18A38 TANGUT: COMPONENT-569, COMPONENT-570, COMPONENT-571, COMPONENT-572, COMPONENT-573",
   "18A3D TANGUT: COMPONENT-574, COMPONENT-575, COMPONENT-576, COMPONENT-577, COMPONENT-578",
   "18A42 TANGUT: COMPONENT-579, COMPONENT-580, COMPONENT-581, COMPONENT-582, COMPONENT-583",
   "18A47 TANGUT: COMPONENT-584, COMPONENT-585, COMPONENT-586, COMPONENT-587, COMPONENT-588",
   "18A4C TANGUT: COMPONENT-589, COMPONENT-590, COMPONENT-591, COMPONENT-592, COMPONENT-593",
   "18A51 TANGUT: COMPONENT-594, COMPONENT-595, COMPONENT-596, COMPONENT-597, COMPONENT-598",
   "18A56 TANGUT: COMPONENT-599, COMPONENT-600, COMPONENT-601, COMPONENT-602, COMPONENT-603",
   "18A5B TANGUT: COMPONENT-604, COMPONENT-605, COMPONENT-606, COMPONENT-607, COMPONENT-608",
   "18A60 TANGUT: COMPONENT-609, COMPONENT-610, COMPONENT-611, COMPONENT-612, COMPONENT-613",
   "18A65 TANGUT: COMPONENT-614, COMPONENT-615, COMPONENT-616, COMPONENT-617, COMPONENT-618",
   "18A6A TANGUT: COMPONENT-619, COMPONENT-620, COMPONENT-621, COMPONENT-622, COMPONENT-623",
   "18A6F TANGUT: COMPONENT-624, COMPONENT-625, COMPONENT-626, COMPONENT-627, COMPONENT-628",
   "18A74 TANGUT: COMPONENT-629, COMPONENT-630, COMPONENT-631, COMPONENT-632, COMPONENT-633",
   "18A79 TANGUT: COMPONENT-634, COMPONENT-635, COMPONENT-636, COMPONENT-637, COMPONENT-638",
   "18A7E TANGUT: COMPONENT-639, COMPONENT-640, COMPONENT-641, COMPONENT-642, COMPONENT-643",
   "18A83 TANGUT: COMPONENT-644, COMPONENT-645, COMPONENT-646, COMPONENT-647, COMPONENT-648",
   "18A88 TANGUT: COMPONENT-649, COMPONENT-650, COMPONENT-651, COMPONENT-652, COMPONENT-653",
   "18A8D TANGUT: COMPONENT-654, COMPONENT-655, COMPONENT-656, COMPONENT-657, COMPONENT-658",
   "18A92 TANGUT: COMPONENT-659, COMPONENT-660, COMPONENT-661, COMPONENT-662, COMPONENT-663",
   "18A97 TANGUT: COMPONENT-664, COMPONENT-665, COMPONENT-666, COMPONENT-667, COMPONENT-668",
   "18A9C TANGUT: COMPONENT-669, COMPONENT-670, COMPONENT-671, COMPONENT-672, COMPONENT-673",
   "18AA1 TANGUT: COMPONENT-674, COMPONENT-675, COMPONENT-676, COMPONENT-677, COMPONENT-678",
   "18AA6 TANGUT: COMPONENT-679, COMPONENT-680, COMPONENT-681, COMPONENT-682, COMPONENT-683",
   "18AAB TANGUT: COMPONENT-684, COMPONENT-685, COMPONENT-686, COMPONENT-687, COMPONENT-688",
   "18AB0 TANGUT: COMPONENT-689, COMPONENT-690, COMPONENT-691, COMPONENT-692, COMPONENT-693",
   "18AB5 TANGUT: COMPONENT-694, COMPONENT-695, COMPONENT-696, COMPONENT-697, COMPONENT-698",
   "18ABA TANGUT: COMPONENT-699, COMPONENT-700, COMPONENT-701, COMPONENT-702, COMPONENT-703",
   "18ABF TANGUT: COMPONENT-704, COMPONENT-705, COMPONENT-706, COMPONENT-707, COMPONENT-708",
   "18AC4 TANGUT: COMPONENT-709, COMPONENT-710, COMPONENT-711, COMPONENT-712, COMPONENT-713",
   "18AC9 TANGUT: COMPONENT-714, COMPONENT-715, COMPONENT-716, COMPONENT-717, COMPONENT-718",
   "18ACE TANGUT: COMPONENT-719, COMPONENT-720, COMPONENT-721, COMPONENT-722, COMPONENT-723",
   "18AD3 TANGUT: COMPONENT-724, COMPONENT-725, COMPONENT-726, COMPONENT-727, COMPONENT-728",
   "18AD8 TANGUT: COMPONENT-729, COMPONENT-730, COMPONENT-731, COMPONENT-732, COMPONENT-733",
   "18ADD TANGUT: COMPONENT-734, COMPONENT-735, COMPONENT-736, COMPONENT-737, COMPONENT-738",
   "18AE2 TANGUT: COMPONENT-739, COMPONENT-740, COMPONENT-741, COMPONENT-742, COMPONENT-743",
   "18AE7 TANGUT: COMPONENT-744, COMPONENT-745, COMPONENT-746, COMPONENT-747, COMPONENT-748",
   "18AEC TANGUT: COMPONENT-749, COMPONENT-750, COMPONENT-751, COMPONENT-752, COMPONENT-753",
   "18AF1 TANGUT: COMPONENT-754, COMPONENT-755, COMPONENT-756, COMPONENT-757, COMPONENT-758",
   "18AF6 TANGUT: COMPONENT-759, COMPONENT-760, COMPONENT-761, COMPONENT-762, COMPONENT-763",
   "18AFB TANGUT: COMPONENT-764, COMPONENT-765, COMPONENT-766, COMPONENT-767, COMPONENT-768",
   "1AFF0 KATAKANA LETTER MINNAN: TONE-2, TONE-3, TONE-4, TONE-5",
   "1AFF5 KATAKANA LETTER MINNAN: TONE-7, TONE-8",
   "1AFF7 KATAKANA LETTER MINNAN NASALIZED: TONE-1, TONE-2, TONE-3, TONE-4, TONE-5",
   "1AFFD KATAKANA LETTER MINNAN NASALIZED: TONE-7, TONE-8",
   "1B000 KATAKANA LETTER ARCHAIC E, HIRAGANA LETTER ARCHAIC YE",
   "1B002 HENTAIGANA LETTER: A-1, A-2, A-3, A-WO, I-1, I-2, I-3, I-4, U-1",
   "1B00B HENTAIGANA LETTER: U-2, U-3, U-4, U-5, E-2, E-3, E-4, E-5, E-6, O-1, O-2, O-3, KA-1",
   "1B018 HENTAIGANA LETTER: KA-2, KA-3, KA-4, KA-5, KA-6, KA-7, KA-8, KA-9, KA-10, KA-11, KA-KE",
   "1B023 HENTAIGANA LETTER: KI-1, KI-2, KI-3, KI-4, KI-5, KI-6, KI-7, KI-8, KU-1, KU-2, KU-3",
   "1B02E HENTAIGANA LETTER: KU-4, KU-5, KU-6, KU-7, KE-1, KE-2, KE-3, KE-4, KE-5, KE-6, KO-1",
   "1B039 HENTAIGANA LETTER: KO-2, KO-3, KO-KI, SA-1, SA-2, SA-3, SA-4, SA-5, SA-6, SA-7, SA-8",
   "1B044 HENTAIGANA LETTER: SI-1, SI-2, SI-3, SI-4, SI-5, SI-6, SU-1, SU-2, SU-3, SU-4, SU-5",
   "1B04F HENTAIGANA LETTER: SU-6, SU-7, SU-8, SE-1, SE-2, SE-3, SE-4, SE-5, SO-1, SO-2, SO-3",
   "1B05A HENTAIGANA LETTER: SO-4, SO-5, SO-6, SO-7, TA-1, TA-2, TA-3, TA-4, TI-1, TI-2, TI-3",
   "1B065 HENTAIGANA LETTER: TI-4, TI-5, TI-6, TI-7, TU-1, TU-2, TU-3, TU-4, TU-TO, TE-1, TE-2",
   "1B070 HENTAIGANA LETTER: TE-3, TE-4, TE-5, TE-6, TE-7, TE-8, TE-9, TO-1, TO-2, TO-3, TO-4",
   "1B07B HENTAIGANA LETTER: TO-5, TO-6, TO-RA, NA-1, NA-2, NA-3, NA-4, NA-5, NA-6, NA-7, NA-8",
   "1B086 HENTAIGANA LETTER: NA-9, NI-1, NI-2, NI-3, NI-4, NI-5, NI-6, NI-7, NI-TE, NU-1, NU-2",
   "1B091 HENTAIGANA LETTER: NU-3, NE-1, NE-2, NE-3, NE-4, NE-5, NE-6, NE-KO, NO-1, NO-2, NO-3",
   "1B09C HENTAIGANA LETTER: NO-4, NO-5, HA-1, HA-2, HA-3, HA-4, HA-5, HA-6, HA-7, HA-8, HA-9",
   "1B0A7 HENTAIGANA LETTER: HA-10, HA-11, HI-1, HI-2, HI-3, HI-4, HI-5, HI-6, HI-7, HU-1, HU-2",
   "1B0B2 HENTAIGANA LETTER: HU-3, HE-1, HE-2, HE-3, HE-4, HE-5, HE-6, HE-7, HO-1, HO-2, HO-3",
   "1B0BD HENTAIGANA LETTER: HO-4, HO-5, HO-6, HO-7, HO-8, MA-1, MA-2, MA-3, MA-4, MA-5, MA-6",
   "1B0C8 HENTAIGANA LETTER: MA-7, MI-1, MI-2, MI-3, MI-4, MI-5, MI-6, MI-7, MU-1, MU-2, MU-3",
   "1B0D3 HENTAIGANA LETTER: MU-4, ME-1, ME-2, ME-MA, MO-1, MO-2, MO-3, MO-4, MO-5, MO-6, YA-1",
   "1B0DE HENTAIGANA LETTER: YA-2, YA-3, YA-4, YA-5, YA-YO, YU-1, YU-2, YU-3, YU-4, YO-1, YO-2",
   "1B0E9 HENTAIGANA LETTER: YO-3, YO-4, YO-5, YO-6, RA-1, RA-2, RA-3, RA-4, RI-1, RI-2, RI-3",
   "1B0F4 HENTAIGANA LETTER: RI-4, RI-5, RI-6, RI-7, RU-1, RU-2, RU-3, RU-4, RU-5, RU-6, RE-1",
   "1B0FF HENTAIGANA LETTER: RE-2, RE-3, RE-4, RO-1, RO-2, RO-3, RO-4, RO-5, RO-6, WA-1, WA-2",
   "1B10A HENTAIGANA LETTER: WA-3, WA-4, WA-5, WI-1, WI-2, WI-3, WI-4, WI-5, WE-1, WE-2, WE-3",
   "1B115 HENTAIGANA LETTER: WE-4, WO-1, WO-2, WO-3, WO-4, WO-5, WO-6, WO-7, N-MU-MO-1, N-MU-MO-2",
   "1B11F HIRAGANA LETTER ARCHAIC WU",
   "1B120 KATAKANA LETTER ARCHAIC: YI, YE, WU",
   "1B150 HIRAGANA LETTER SMALL: WI, WE, WO",
   "1B164 KATAKANA LETTER SMALL: WI, WE, WO, N",
   "1BC00 DUPLOYAN LETTER: H, X, P, T, F, K, L, B, D, V, G, R, P N, D S, F N, K M, R S",
   "1BC11 DUPLOYAN LETTER: TH, SLOAN DH, DH, KK, SLOAN J, HL, LH, RH, M, N, J, S, M N, N M, J M",
   "1BC20 DUPLOYAN LETTER: S J, M WITH DOT, N WITH DOT, J WITH DOT, J WITH DOTS INSIDE AND ABOVE",
   "1BC25 DUPLOYAN LETTER: S WITH DOT, S WITH DOT BELOW, M S, N S, J S, S S",
   "1BC2B DUPLOYAN LETTER: M N S, N M S, J M S, S J S, J S WITH DOT, J N, J N S, S T, S T R, S P",
   "1BC35 DUPLOYAN LETTER: S P R, T S, T R S, W, WH, W R, S N, S M, K R S, G R S, S K, S K R, A",
   "1BC42 DUPLOYAN LETTER: SLOAN OW, OA, O, AOU, I, E, IE, SHORT I, UI, EE, SLOAN EH, ROMANIAN I",
   "1BC4E DUPLOYAN LETTER: SLOAN EE, LONG I, YE, U, EU, XW, U N, LONG U, ROMANIAN U, UH",
   "1BC58 DUPLOYAN LETTER: SLOAN U, OOH, OW, OU, WA, WO, WI, WEI, WOW, NASAL U, NASAL O, NASAL I",
   "1BC64 DUPLOYAN LETTER: NASAL A, PERNIN AN, PERNIN AM, SLOAN EN, SLOAN AN, SLOAN ON, VOCALIC M",
   "1BC70 DUPLOYAN AFFIX: LEFT HORIZONTAL SECANT, MID HORIZONTAL SECANT, RIGHT HORIZONTAL SECANT",
   "1BC73 DUPLOYAN AFFIX: LOW VERTICAL SECANT, MID VERTICAL SECANT, HIGH VERTICAL SECANT",
   "1BC76 DUPLOYAN AFFIX ATTACHED: SECANT, LEFT-TO-RIGHT SECANT, TANGENT, TAIL, E HOOK, I HOOK",
   "1BC7C DUPLOYAN AFFIX ATTACHED TANGENT HOOK",
   "1BC80 DUPLOYAN AFFIX HIGH ACUTE",
   "1BC81 DUPLOYAN AFFIX HIGH: TIGHT ACUTE, GRAVE, LONG GRAVE, DOT, CIRCLE, LINE, WAVE, VERTICAL",
   "1BC90 DUPLOYAN AFFIX LOW: ACUTE, TIGHT ACUTE",
   "1BC92 DUPLOYAN AFFIX LOW: GRAVE, LONG GRAVE, DOT, CIRCLE, LINE, WAVE, VERTICAL, ARROW",
   "1BC9C DUPLOYAN SIGN O WITH CROSS",
   "1BC9D DUPLOYAN: THICK LETTER SELECTOR, DOUBLE MARK, PUNCTUATION CHINOOK FULL STOP",
   "1BCA0 SHORTHAND FORMAT: LETTER OVERLAP, CONTINUING OVERLAP, DOWN STEP, UP STEP",
   "1CF00 ZNAMENNY COMBINING MARK: GORAZDO NIZKO S KRYZHEM ON LEFT, NIZKO S KRYZHEM ON LEFT",
   "1CF02 ZNAMENNY COMBINING MARK: TSATA ON LEFT, GORAZDO NIZKO ON LEFT, NIZKO ON LEFT",
   "1CF05 ZNAMENNY COMBINING MARK: SREDNE ON LEFT, MALO POVYSHE ON LEFT, POVYSHE ON LEFT",
   "1CF08 ZNAMENNY COMBINING MARK: VYSOKO ON LEFT, MALO POVYSHE S KHOKHLOM ON LEFT",
   "1CF0A ZNAMENNY COMBINING MARK: POVYSHE S KHOKHLOM ON LEFT, VYSOKO S KHOKHLOM ON LEFT",
   "1CF0C ZNAMENNY COMBINING MARK: GORAZDO NIZKO S KRYZHEM ON RIGHT, NIZKO S KRYZHEM ON RIGHT",
   "1CF0E ZNAMENNY COMBINING MARK: TSATA ON RIGHT, GORAZDO NIZKO ON RIGHT, NIZKO ON RIGHT",
   "1CF11 ZNAMENNY COMBINING MARK: SREDNE ON RIGHT, MALO POVYSHE ON RIGHT, POVYSHE ON RIGHT",
   "1CF14 ZNAMENNY COMBINING MARK: VYSOKO ON RIGHT, MALO POVYSHE S KHOKHLOM ON RIGHT",
   "1CF16 ZNAMENNY COMBINING MARK: POVYSHE S KHOKHLOM ON RIGHT, VYSOKO S KHOKHLOM ON RIGHT",
   "1CF18 ZNAMENNY COMBINING MARK: TSATA S KRYZHEM, MALO POVYSHE S KRYZHEM, STRANNO MALO POVYSHE",
   "1CF1B ZNAMENNY COMBINING MARK POVYSHE: S KRYZHEM, STRANNO",
   "1CF1D ZNAMENNY COMBINING MARK: VYSOKO S KRYZHEM, MALO POVYSHE STRANNO, GORAZDO VYSOKO",
   "1CF20 ZNAMENNY COMBINING MARK: ZELO, ON, RAVNO, TIKHAYA, BORZAYA, UDARKA, PODVERTKA",
   "1CF27 ZNAMENNY COMBINING MARK: LOMKA, KUPNAYA, KACHKA, ZEVOK, SKOBA, RAZSEKA, KRYZH ON LEFT",
   "1CF30 ZNAMENNY COMBINING TONAL RANGE MARK: MRACHNO, SVETLO, TRESVETLO",
   "1CF33 ZNAMENNY COMBINING MARK: ZADERZHKA, DEMESTVENNY ZADERZHKA",
   "1CF35 ZNAMENNY COMBINING MARK: OTSECHKA, PODCHASHIE, PODCHASHIE WITH VERTICAL STROKE, CHASHKA",
   "1CF39 ZNAMENNY COMBINING MARK: CHASHKA POLNAYA, OBLACHKO, SOROCHYA NOZHKA, TOCHKA, DVOETOCHIE",
   "1CF3E ZNAMENNY COMBINING ATTACHING VERTICAL OMET",
   "1CF3F ZNAMENNY COMBINING: MARK CURVED OMET, MARK KRYZH, LOWER TONAL RANGE INDICATOR",
   "1CF42 ZNAMENNY PRIZNAK MODIFIER: LEVEL-2, LEVEL-3, DIRECTION FLIP, KRYZH, ROG",
   "1CF50 ZNAMENNY NEUME: KRYUK, KRYUK TIKHY, PARAKLIT, DVA V CHELNU, KLYUCH, ZANOZHEK",
   "1CF56 ZNAMENNY NEUME: STOPITSA, STOPITSA S OCHKOM, PEREVODKA, PEREVODKA NEPOSTOYANNAYA",
   "1CF5A ZNAMENNY NEUME: STOPITSA WITH SOROCHYA NOZHKA, CHELYUSTKA, PALKA, ZAPYATAYA",
   "1CF5E ZNAMENNY NEUME GOLUBCHIK: BORZY, TIKHY, MRACHNY, SVETLY, TRESVETLY",
   "1CF63 ZNAMENNY NEUME VRAKHIYA: PROSTAYA, MRACHNAYA, SVETLAYA, TRESVETLAYA",
   "1CF67 ZNAMENNY NEUME VRAKHIYA KLYUCHEVAYA: PROSTAYA, MRACHNAYA, SVETLAYA, TRESVETLAYA",
   "1CF6B ZNAMENNY NEUME DOUBLE ZAPYATAYA",
   "1CF6C ZNAMENNY NEUME: REVERSED CHELYUSTKA, DERBITSA, KHAMILO, CHASHKA, PODCHASHIE",
   "1CF71 ZNAMENNY NEUME SKAMEYTSA: MRACHNAYA, SVETLAYA, TRESVETLAYA, TIKHAYA",
   "1CF75 ZNAMENNY NEUME: DEMESTVENNY KLYUCH, SKAMEYTSA KLYUCHEVAYA SVETLAYA",
   "1CF77 ZNAMENNY NEUME SKAMEYTSA: KLYUCHENEPOSTOYANNAYA, KLYUCHEVAYA TIKHAYA",
   "1CF79 ZNAMENNY NEUME SKAMEYTSA DVOECHELNAYA: PROSTAYA, SVETLAYA, NEPOSTOYANNAYA, KLYUCHEVAYA",
   "1CF7D ZNAMENNY NEUME: SLOZHITIE, SLOZHITIE S ZAPYATOY, SLOZHITIE ZAKRYTOE",
   "1CF80 ZNAMENNY NEUME: SLOZHITIE S KRYZHEM, KRYZH, ROG, FITA, KOBYLA, ZMEYTSA, STATYA",
   "1CF87 ZNAMENNY NEUME STATYA S: ZAPYATOY, KRYZHEM, ZAPYATOY I KRYZHEM, KRYZHEM I ZAPYATOY",
   "1CF8B ZNAMENNY NEUME STATYA: ZAKRYTAYA, ZAKRYTAYA S ZAPYATOY, S ROGOM, S DVUMYA ZAPYATYMI",
   "1CF8F ZNAMENNY NEUME: STATYA S ZAPYATOY I PODCHASHIEM, POLKULIZMY, STATYA NEPOSTOYANNAYA",
   "1CF92 ZNAMENNY NEUME STRELA: PROSTAYA, MRACHNOTIKHAYA, KRYZHEVAYA, POLUPOVODNAYA, POVODNAYA",
   "1CF97 ZNAMENNY NEUME STRELA: NEPOSTOYANNAYA, KLYUCHEPOVODNAYA, KLYUCHENEPOSTOYANNAYA",
   "1CF9A ZNAMENNY NEUME STRELA: TIKHAYA PUTNAYA, DVOECHELNAYA, DVOECHELNOKRYZHEVAYA",
   "1CF9D ZNAMENNY NEUME STRELA: DVOECHELNOPOVODNAYA, DVOECHELNAYA KLYUCHEVAYA",
   "1CF9F ZNAMENNY NEUME STRELA: DVOECHELNOPOVODNAYA KLYUCHEVAYA, GROMNAYA WITH SINGLE ZAPYATAYA",
   "1CFA1 ZNAMENNY NEUME STRELA: GROMOPOVODNAYA WITH SINGLE ZAPYATAYA, GROMNAYA, GROMOPOVODNAYA",
   "1CFA4 ZNAMENNY NEUME STRELA: GROMOPOVODNAYA WITH DOUBLE ZAPYATAYA, GROMOKRYZHEVAYA",
   "1CFA6 ZNAMENNY NEUME: STRELA GROMOKRYZHEVAYA POVODNAYA, MECHIK",
   "1CFA8 ZNAMENNY NEUME MECHIK: POVODNY, KLYUCHEVOY, KLYUCHEPOVODNY, KLYUCHENEPOSTOYANNY",
   "1CFAC ZNAMENNY NEUME STRELA: TRYASOGLASNAYA, TRYASOPOVODNAYA, TRYASOSTRELNAYA",
   "1CFAF ZNAMENNY NEUME OSOKA",
   "1CFB0 ZNAMENNY NEUME OSOKA: SVETLAYA, TRESVETLAYA, KRYUKOVAYA SVETLAYA, KLYUCHEVAYA SVETLAYA",
   "1CFB4 ZNAMENNY NEUME: OSOKA KLYUCHEVAYA NEPOSTOYANNAYA, STRELA KRYUKOVAYA",
   "1CFB6 ZNAMENNY NEUME STRELA KRYUKOVAYA: POVODNAYA, GROMNAYA WITH SINGLE ZAPYATAYA",
   "1CFB8 ZNAMENNY NEUME STRELA KRYUKOVAYA: GROMOPOVODNAYA WITH SINGLE ZAPYATAYA, GROMNAYA",
   "1CFBA ZNAMENNY NEUME STRELA KRYUKOVAYA: GROMOPOVODNAYA, GROMOPOVODNAYA WITH DOUBLE ZAPYATAYA",
   "1CFBC ZNAMENNY NEUME STRELA KRYUKOVAYA: GROMOKRYZHEVAYA, GROMOKRYZHEVAYA POVODNAYA, TRYASKA",
   "1CFBF ZNAMENNY NEUME: KUFISMA, OBLAKO, DUDA, NEMKA, PAUK"]

end Codegen.Text.CharName
