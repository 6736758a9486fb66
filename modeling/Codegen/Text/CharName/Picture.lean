/-!
Names of characters, from version 14 of the Unicode Character Database: pictures, tags and variation
selectors, U+1F000 and up.
-/

namespace Codegen.Text.CharName

def pictureRows : List String :=
  ["1F000 MAHJONG TILE: EAST WIND, SOUTH WIND, WEST WIND, NORTH WIND, RED DRAGON",
   "1F005 MAHJONG TILE: GREEN DRAGON, WHITE DRAGON, ONE OF CHARACTERS, TWO OF CHARACTERS",
   "1F009 MAHJONG TILE: THREE OF CHARACTERS, FOUR OF CHARACTERS, FIVE OF CHARACTERS",
   "1F00C MAHJONG TILE: SIX OF CHARACTERS, SEVEN OF CHARACTERS, EIGHT OF CHARACTERS",
   "1F00F MAHJONG TILE: NINE OF CHARACTERS, ONE OF BAMBOOS, TWO OF BAMBOOS, THREE OF BAMBOOS",
   "1F013 MAHJONG TILE: FOUR OF BAMBOOS, FIVE OF BAMBOOS, SIX OF BAMBOOS, SEVEN OF BAMBOOS",
   "1F017 MAHJONG TILE: EIGHT OF BAMBOOS, NINE OF BAMBOOS, ONE OF CIRCLES, TWO OF CIRCLES",
   "1F01B MAHJONG TILE: THREE OF CIRCLES, FOUR OF CIRCLES, FIVE OF CIRCLES, SIX OF CIRCLES",
   "1F01F MAHJONG TILE: SEVEN OF CIRCLES, EIGHT OF CIRCLES, NINE OF CIRCLES, PLUM, ORCHID",
   "1F024 MAHJONG TILE: BAMBOO, CHRYSANTHEMUM, SPRING, SUMMER, AUTUMN, WINTER, JOKER, BACK",
   "1F030 DOMINO TILE: HORIZONTAL BACK, HORIZONTAL-00-00, HORIZONTAL-00-01, HORIZONTAL-00-02",
   "1F034 DOMINO TILE: HORIZONTAL-00-03, HORIZONTAL-00-04, HORIZONTAL-00-05, HORIZONTAL-00-06",
   "1F038 DOMINO TILE: HORIZONTAL-01-00, HORIZONTAL-01-01, HORIZONTAL-01-02, HORIZONTAL-01-03",
   "1F03C DOMINO TILE: HORIZONTAL-01-04, HORIZONTAL-01-05, HORIZONTAL-01-06, HORIZONTAL-02-00",
   "1F040 DOMINO TILE: HORIZONTAL-02-01, HORIZONTAL-02-02, HORIZONTAL-02-03, HORIZONTAL-02-04",
   "1F044 DOMINO TILE: HORIZONTAL-02-05, HORIZONTAL-02-06, HORIZONTAL-03-00, HORIZONTAL-03-01",
   "1F048 DOMINO TILE: HORIZONTAL-03-02, HORIZONTAL-03-03, HORIZONTAL-03-04, HORIZONTAL-03-05",
   "1F04C DOMINO TILE: HORIZONTAL-03-06, HORIZONTAL-04-00, HORIZONTAL-04-01, HORIZONTAL-04-02",
   "1F050 DOMINO TILE: HORIZONTAL-04-03, HORIZONTAL-04-04, HORIZONTAL-04-05, HORIZONTAL-04-06",
   "1F054 DOMINO TILE: HORIZONTAL-05-00, HORIZONTAL-05-01, HORIZONTAL-05-02, HORIZONTAL-05-03",
   "1F058 DOMINO TILE: HORIZONTAL-05-04, HORIZONTAL-05-05, HORIZONTAL-05-06, HORIZONTAL-06-00",
   "1F05C DOMINO TILE: HORIZONTAL-06-01, HORIZONTAL-06-02, HORIZONTAL-06-03, HORIZONTAL-06-04",
   "1F060 DOMINO TILE: HORIZONTAL-06-05, HORIZONTAL-06-06, VERTICAL BACK, VERTICAL-00-00",
   "1F064 DOMINO TILE: VERTICAL-00-01, VERTICAL-00-02, VERTICAL-00-03, VERTICAL-00-04",
   "1F068 DOMINO TILE: VERTICAL-00-05, VERTICAL-00-06, VERTICAL-01-00, VERTICAL-01-01",
   "1F06C DOMINO TILE: VERTICAL-01-02, VERTICAL-01-03, VERTICAL-01-04, VERTICAL-01-05",
   "1F070 DOMINO TILE: VERTICAL-01-06, VERTICAL-02-00, VERTICAL-02-01, VERTICAL-02-02",
   "1F074 DOMINO TILE: VERTICAL-02-03, VERTICAL-02-04, VERTICAL-02-05, VERTICAL-02-06",
   "1F078 DOMINO TILE: VERTICAL-03-00, VERTICAL-03-01, VERTICAL-03-02, VERTICAL-03-03",
   "1F07C DOMINO TILE: VERTICAL-03-04, VERTICAL-03-05, VERTICAL-03-06, VERTICAL-04-00",
   "1F080 DOMINO TILE: VERTICAL-04-01, VERTICAL-04-02, VERTICAL-04-03, VERTICAL-04-04",
   "1F084 DOMINO TILE: VERTICAL-04-05, VERTICAL-04-06, VERTICAL-05-00, VERTICAL-05-01",
   "1F088 DOMINO TILE: VERTICAL-05-02, VERTICAL-05-03, VERTICAL-05-04, VERTICAL-05-05",
   "1F08C DOMINO TILE: VERTICAL-05-06, VERTICAL-06-00, VERTICAL-06-01, VERTICAL-06-02",
   "1F090 DOMINO TILE: VERTICAL-06-03, VERTICAL-06-04, VERTICAL-06-05, VERTICAL-06-06",
   "1F0A0 PLAYING CARD: BACK, ACE OF SPADES, TWO OF SPADES",
   "1F0A3 PLAYING CARD: THREE OF SPADES, FOUR OF SPADES, FIVE OF SPADES, SIX OF SPADES",
   "1F0A7 PLAYING CARD: SEVEN OF SPADES, EIGHT OF SPADES, NINE OF SPADES, TEN OF SPADES",
   "1F0AB PLAYING CARD: JACK OF SPADES, KNIGHT OF SPADES, QUEEN OF SPADES, KING OF SPADES",
   "1F0B1 PLAYING CARD: ACE OF HEARTS, TWO OF HEARTS, THREE OF HEARTS",
   "1F0B4 PLAYING CARD: FOUR OF HEARTS, FIVE OF HEARTS, SIX OF HEARTS, SEVEN OF HEARTS",
   "1F0B8 PLAYING CARD: EIGHT OF HEARTS, NINE OF HEARTS, TEN OF HEARTS, JACK OF HEARTS",
   "1F0BC PLAYING CARD: KNIGHT OF HEARTS, QUEEN OF HEARTS, KING OF HEARTS, RED JOKER",
   "1F0C1 PLAYING CARD: ACE OF DIAMONDS, TWO OF DIAMONDS, THREE OF DIAMONDS",
   "1F0C4 PLAYING CARD: FOUR OF DIAMONDS, FIVE OF DIAMONDS, SIX OF DIAMONDS, SEVEN OF DIAMONDS",
   "1F0C8 PLAYING CARD: EIGHT OF DIAMONDS, NINE OF DIAMONDS, TEN OF DIAMONDS, JACK OF DIAMONDS",
   "1F0CC PLAYING CARD: KNIGHT OF DIAMONDS, QUEEN OF DIAMONDS, KING OF DIAMONDS, BLACK JOKER",
   "1F0D1 PLAYING CARD: ACE OF CLUBS, TWO OF CLUBS, THREE OF CLUBS, FOUR OF CLUBS, FIVE OF CLUBS",
   "1F0D6 PLAYING CARD: SIX OF CLUBS, SEVEN OF CLUBS, EIGHT OF CLUBS, NINE OF CLUBS, TEN OF CLUBS",
   "1F0DB PLAYING CARD JACK OF CLUBS",
   "1F0DC PLAYING CARD: KNIGHT OF CLUBS, QUEEN OF CLUBS, KING OF CLUBS, WHITE JOKER",
   "1F0E0 PLAYING CARD: FOOL, TRUMP-1, TRUMP-2, TRUMP-3, TRUMP-4, TRUMP-5, TRUMP-6, TRUMP-7",
   "1F0E8 PLAYING CARD: TRUMP-8, TRUMP-9, TRUMP-10, TRUMP-11, TRUMP-12, TRUMP-13, TRUMP-14",
   "1F0EF PLAYING CARD: TRUMP-15, TRUMP-16, TRUMP-17, TRUMP-18, TRUMP-19, TRUMP-20, TRUMP-21",
   "1F100 DIGIT: ZERO FULL STOP, ZERO COMMA, ONE COMMA, TWO COMMA, THREE COMMA",
   "1F105 DIGIT: FOUR COMMA, FIVE COMMA, SIX COMMA, SEVEN COMMA, EIGHT COMMA, NINE COMMA",
   "1F10B DINGBAT: CIRCLED SANS-SERIF DIGIT ZERO, NEGATIVE CIRCLED SANS-SERIF DIGIT ZERO",
   "1F10D CIRCLED: ZERO WITH SLASH, ANTICLOCKWISE ARROW, DOLLAR SIGN WITH OVERLAID BACKSLASH",
   "1F110 PARENTHESIZED LATIN CAPITAL LETTER: A, B, C, D, E, F, G, H, I",
   "1F119 PARENTHESIZED LATIN CAPITAL LETTER: J, K, L, M, N, O, P, Q, R, S, T, U, V, W, X, Y, Z",
   "1F12A TORTOISE SHELL BRACKETED LATIN CAPITAL LETTER S",
   "1F12B CIRCLED ITALIC LATIN CAPITAL LETTER: C, R",
   "1F12D CIRCLED CD, CIRCLED WZ, COPYLEFT SYMBOL",
   "1F130 SQUARED LATIN CAPITAL LETTER: A, B, C, D, E, F, G",
   "1F137 SQUARED LATIN CAPITAL LETTER: H, I, J, K, L, M, N, O, P, Q, R, S, T, U, V, W, X, Y, Z",
   "1F14A SQUARED: HV, MV, SD, SS, PPV, WC",
   "1F150 NEGATIVE CIRCLED LATIN CAPITAL LETTER: A, B, C, D, E, F, G, H, I, J",
   "1F15A NEGATIVE CIRCLED LATIN CAPITAL LETTER: K, L, M, N, O, P, Q, R, S, T, U, V, W, X, Y, Z",
   "1F16A RAISED: MC SIGN, MD SIGN, MR SIGN",
   "1F16D CIRCLED: CC, C WITH OVERLAID BACKSLASH, HUMAN FIGURE",
   "1F170 NEGATIVE SQUARED LATIN CAPITAL LETTER: A, B, C, D, E, F, G, H, I, J",
   "1F17A NEGATIVE SQUARED LATIN CAPITAL LETTER: K, L, M, N, O, P, Q, R, S, T, U, V, W, X, Y, Z",
   "1F18A CROSSED NEGATIVE SQUARED LATIN CAPITAL LETTER P",
   "1F18B NEGATIVE SQUARED: IC, PA, SA, AB, WC",
   "1F190 SQUARE DJ",
   "1F191 SQUARED: CL, COOL, FREE, ID, NEW, NG, OK, SOS, UP WITH EXCLAMATION MARK",
   "1F19A SQUARED: VS, THREE D, SECOND SCREEN, TWO K, FOUR K, EIGHT K, FIVE POINT ONE",
   "1F1A1 SQUARED: SEVEN POINT ONE, TWENTY-TWO POINT TWO, SIXTY P, ONE HUNDRED TWENTY P",
   "1F1A5 SQUARED: LATIN SMALL LETTER D, HC, HDR, HI-RES, LOSSLESS, SHV, UHD, VOD",
   "1F1AD MASK WORK SYMBOL",
   "1F1E6 REGIONAL INDICATOR SYMBOL LETTER: A, B, C, D, E, F, G, H",
   "1F1EE REGIONAL INDICATOR SYMBOL LETTER: I, J, K, L, M, N, O, P, Q, R, S, T, U, V, W, X, Y, Z",
   "1F200 SQUARE HIRAGANA HOKA",
   "1F201 SQUARED KATAKANA: KOKO, SA",
   "1F210 SQUARED CJK UNIFIED: IDEOGRAPH-624B, IDEOGRAPH-5B57, IDEOGRAPH-53CC",
   "1F213 SQUARED KATAKANA DE",
   "1F214 SQUARED CJK UNIFIED: IDEOGRAPH-4E8C, IDEOGRAPH-591A, IDEOGRAPH-89E3, IDEOGRAPH-5929",
   "1F218 SQUARED CJK UNIFIED: IDEOGRAPH-4EA4, IDEOGRAPH-6620, IDEOGRAPH-7121, IDEOGRAPH-6599",
   "1F21C SQUARED CJK UNIFIED: IDEOGRAPH-524D, IDEOGRAPH-5F8C, IDEOGRAPH-518D, IDEOGRAPH-65B0",
   "1F220 SQUARED CJK UNIFIED: IDEOGRAPH-521D, IDEOGRAPH-7D42, IDEOGRAPH-751F, IDEOGRAPH-8CA9",
   "1F224 SQUARED CJK UNIFIED: IDEOGRAPH-58F0, IDEOGRAPH-5439, IDEOGRAPH-6F14, IDEOGRAPH-6295",
   "1F228 SQUARED CJK UNIFIED: IDEOGRAPH-6355, IDEOGRAPH-4E00, IDEOGRAPH-4E09, IDEOGRAPH-904A",
   "1F22C SQUARED CJK UNIFIED: IDEOGRAPH-5DE6, IDEOGRAPH-4E2D, IDEOGRAPH-53F3, IDEOGRAPH-6307",
   "1F230 SQUARED CJK UNIFIED: IDEOGRAPH-8D70, IDEOGRAPH-6253, IDEOGRAPH-7981, IDEOGRAPH-7A7A",
   "1F234 SQUARED CJK UNIFIED: IDEOGRAPH-5408, IDEOGRAPH-6E80, IDEOGRAPH-6709, IDEOGRAPH-6708",
   "1F238 SQUARED CJK UNIFIED: IDEOGRAPH-7533, IDEOGRAPH-5272, IDEOGRAPH-55B6, IDEOGRAPH-914D",
   "1F240 TORTOISE SHELL BRACKETED CJK UNIFIED: IDEOGRAPH-672C, IDEOGRAPH-4E09, IDEOGRAPH-4E8C",
   "1F243 TORTOISE SHELL BRACKETED CJK UNIFIED: IDEOGRAPH-5B89, IDEOGRAPH-70B9, IDEOGRAPH-6253",
   "1F246 TORTOISE SHELL BRACKETED CJK UNIFIED: IDEOGRAPH-76D7, IDEOGRAPH-52DD, IDEOGRAPH-6557",
   "1F250 CIRCLED IDEOGRAPH: ADVANTAGE, ACCEPT",
   "1F260 ROUNDED SYMBOL FOR: FU, LU, SHOU, XI, SHUANGXI, CAI",
   "1F300 CYCLONE, FOGGY",
   "1F302 CLOSED UMBRELLA, NIGHT WITH STARS, SUNRISE OVER MOUNTAINS, SUNRISE, CITYSCAPE AT DUSK",
   "1F307 SUNSET OVER BUILDINGS, RAINBOW, BRIDGE AT NIGHT, WATER WAVE, VOLCANO, MILKY WAY",
   "1F30D EARTH GLOBE: EUROPE-AFRICA, AMERICAS, ASIA-AUSTRALIA",
   "1F310 GLOBE WITH MERIDIANS, NEW MOON SYMBOL",
   "1F312 WAXING CRESCENT MOON SYMBOL, FIRST QUARTER MOON SYMBOL, WAXING GIBBOUS MOON SYMBOL",
   "1F315 FULL MOON SYMBOL, WANING GIBBOUS MOON SYMBOL, LAST QUARTER MOON SYMBOL",
   "1F318 WANING CRESCENT MOON SYMBOL, CRESCENT MOON, NEW MOON WITH FACE",
   "1F31B FIRST QUARTER MOON WITH FACE, LAST QUARTER MOON WITH FACE, FULL MOON WITH FACE",
   "1F31E SUN WITH FACE, GLOWING STAR, SHOOTING STAR, THERMOMETER, BLACK DROPLET, WHITE SUN",
   "1F324 WHITE SUN: WITH SMALL CLOUD, BEHIND CLOUD, BEHIND CLOUD WITH RAIN",
   "1F327 CLOUD WITH: RAIN, SNOW, LIGHTNING, TORNADO",
   "1F32B FOG, WIND BLOWING FACE, HOT DOG, TACO, BURRITO",
   "1F330 CHESTNUT, SEEDLING, EVERGREEN TREE, DECIDUOUS TREE, PALM TREE, CACTUS, HOT PEPPER",
   "1F337 TULIP, CHERRY BLOSSOM, ROSE, HIBISCUS, SUNFLOWER, BLOSSOM, EAR OF MAIZE, EAR OF RICE",
   "1F33F HERB, FOUR LEAF CLOVER, MAPLE LEAF, FALLEN LEAF, LEAF FLUTTERING IN WIND, MUSHROOM",
   "1F345 TOMATO, AUBERGINE, GRAPES, MELON, WATERMELON, TANGERINE, LEMON, BANANA, PINEAPPLE",
   "1F34E RED APPLE, GREEN APPLE, PEAR, PEACH, CHERRIES, STRAWBERRY, HAMBURGER, SLICE OF PIZZA",
   "1F356 MEAT ON BONE, POULTRY LEG, RICE CRACKER, RICE BALL, COOKED RICE, CURRY AND RICE",
   "1F35C STEAMING BOWL, SPAGHETTI, BREAD, FRENCH FRIES, ROASTED SWEET POTATO, DANGO",
   "1F362 ODEN, SUSHI, FRIED SHRIMP, FISH CAKE WITH SWIRL DESIGN, SOFT ICE CREAM, SHAVED ICE",
   "1F368 ICE CREAM, DOUGHNUT, COOKIE, CHOCOLATE BAR, CANDY, LOLLIPOP, CUSTARD, HONEY POT",
   "1F370 SHORTCAKE, BENTO BOX, POT OF FOOD, COOKING, FORK AND KNIFE, TEACUP WITHOUT HANDLE",
   "1F376 SAKE BOTTLE AND CUP, WINE GLASS, COCKTAIL GLASS, TROPICAL DRINK, BEER MUG",
   "1F37B CLINKING BEER MUGS, BABY BOTTLE, FORK AND KNIFE WITH PLATE, BOTTLE WITH POPPING CORK",
   "1F37F POPCORN, RIBBON, WRAPPED PRESENT, BIRTHDAY CAKE, JACK-O-LANTERN",
   "1F384 CHRISTMAS TREE, FATHER CHRISTMAS, FIREWORKS, FIREWORK SPARKLER, BALLOON, PARTY POPPER",
   "1F38A CONFETTI BALL, TANABATA TREE, CROSSED FLAGS, PINE DECORATION, JAPANESE DOLLS",
   "1F38F CARP STREAMER, WIND CHIME, MOON VIEWING CEREMONY, SCHOOL SATCHEL, GRADUATION CAP",
   "1F394 HEART WITH TIP ON THE LEFT, BOUQUET OF FLOWERS, MILITARY MEDAL, REMINDER RIBBON",
   "1F398 MUSICAL KEYBOARD WITH JACKS, STUDIO MICROPHONE, LEVEL SLIDER, CONTROL KNOBS",
   "1F39C BEAMED: ASCENDING MUSICAL NOTES, DESCENDING MUSICAL NOTES",
   "1F39E FILM FRAMES, ADMISSION TICKETS, CAROUSEL HORSE, FERRIS WHEEL, ROLLER COASTER",
   "1F3A3 FISHING POLE AND FISH, MICROPHONE, MOVIE CAMERA, CINEMA, HEADPHONE, ARTIST PALETTE",
   "1F3A9 TOP HAT, CIRCUS TENT, TICKET, CLAPPER BOARD, PERFORMING ARTS, VIDEO GAME",
   "1F3AF DIRECT HIT, SLOT MACHINE, BILLIARDS, GAME DIE, BOWLING, FLOWER PLAYING CARDS",
   "1F3B5 MUSICAL NOTE, MULTIPLE MUSICAL NOTES, SAXOPHONE, GUITAR, MUSICAL KEYBOARD",
   "1F3BA TRUMPET, VIOLIN, MUSICAL SCORE, RUNNING SHIRT WITH SASH, TENNIS RACQUET AND BALL",
   "1F3BF SKI AND SKI BOOT, BASKETBALL AND HOOP, CHEQUERED FLAG, SNOWBOARDER",
   "1F3C3 RUNNER, SURFER, SPORTS MEDAL, TROPHY, HORSE RACING, AMERICAN FOOTBALL, RUGBY FOOTBALL",
   "1F3CA SWIMMER, WEIGHT LIFTER, GOLFER, RACING MOTORCYCLE, RACING CAR, CRICKET BAT AND BALL",
   "1F3D0 VOLLEYBALL, FIELD HOCKEY STICK AND BALL, ICE HOCKEY STICK AND PUCK",
   "1F3D3 TABLE TENNIS PADDLE AND BALL, SNOW CAPPED MOUNTAIN, CAMPING, BEACH WITH UMBRELLA",
   "1F3D7 BUILDING CONSTRUCTION, HOUSE BUILDINGS, CITYSCAPE, DERELICT HOUSE BUILDING",
   "1F3DB CLASSICAL BUILDING, DESERT, DESERT ISLAND, NATIONAL PARK, STADIUM, HOUSE BUILDING",
   "1F3E1 HOUSE WITH GARDEN, OFFICE BUILDING, JAPANESE POST OFFICE, EUROPEAN POST OFFICE",
   "1F3E5 HOSPITAL, BANK, AUTOMATED TELLER MACHINE, HOTEL, LOVE HOTEL, CONVENIENCE STORE",
   "1F3EB SCHOOL, DEPARTMENT STORE, FACTORY, IZAKAYA LANTERN, JAPANESE CASTLE, EUROPEAN CASTLE",
   "1F3F1 WHITE PENNANT, BLACK PENNANT, WAVING WHITE FLAG, WAVING BLACK FLAG, ROSETTE",
   "1F3F6 BLACK ROSETTE, LABEL, BADMINTON RACQUET AND SHUTTLECOCK, BOW AND ARROW, AMPHORA",
   "1F3FB EMOJI MODIFIER FITZPATRICK: TYPE-1-2, TYPE-3, TYPE-4, TYPE-5, TYPE-6",
   "1F400 RAT, MOUSE, OX, WATER BUFFALO, COW, TIGER, LEOPARD, RABBIT, CAT, DRAGON",
   "1F40A CROCODILE, WHALE, SNAIL, SNAKE, HORSE, RAM, GOAT, SHEEP, MONKEY, ROOSTER, CHICKEN",
   "1F415 DOG, PIG, BOAR, ELEPHANT, OCTOPUS, SPIRAL SHELL, BUG, ANT, HONEYBEE, LADY BEETLE, FISH",
   "1F420 TROPICAL FISH, BLOWFISH, TURTLE, HATCHING CHICK, BABY CHICK, FRONT-FACING BABY CHICK",
   "1F426 BIRD, PENGUIN, KOALA, POODLE, DROMEDARY CAMEL, BACTRIAN CAMEL, DOLPHIN, MOUSE FACE",
   "1F42E COW FACE, TIGER FACE, RABBIT FACE, CAT FACE, DRAGON FACE, SPOUTING WHALE, HORSE FACE",
   "1F435 MONKEY FACE, DOG FACE, PIG FACE, FROG FACE, HAMSTER FACE, WOLF FACE, BEAR FACE",
   "1F43C PANDA FACE, PIG NOSE, PAW PRINTS, CHIPMUNK, EYES, EYE, EAR, NOSE, MOUTH, TONGUE",
   "1F446 WHITE: UP POINTING BACKHAND INDEX, DOWN POINTING BACKHAND INDEX",
   "1F448 WHITE: LEFT POINTING BACKHAND INDEX, RIGHT POINTING BACKHAND INDEX",
   "1F44A FISTED HAND SIGN, WAVING HAND SIGN, OK HAND SIGN, THUMBS UP SIGN",
   "1F44E THUMBS DOWN SIGN, CLAPPING HANDS SIGN, OPEN HANDS SIGN, CROWN, WOMANS HAT",
   "1F453 EYEGLASSES, NECKTIE, T-SHIRT, JEANS, DRESS, KIMONO, BIKINI, WOMANS CLOTHES, PURSE",
   "1F45C HANDBAG, POUCH, MANS SHOE, ATHLETIC SHOE, HIGH-HEELED SHOE, WOMANS SANDAL, WOMANS BOOTS",
   "1F463 FOOTPRINTS, BUST IN SILHOUETTE, BUSTS IN SILHOUETTE, BOY, GIRL, MAN, WOMAN",
   "1F46A FAMILY, MAN AND WOMAN HOLDING HANDS, TWO MEN HOLDING HANDS, TWO WOMEN HOLDING HANDS",
   "1F46E POLICE OFFICER, WOMAN WITH BUNNY EARS, BRIDE WITH VEIL, PERSON WITH BLOND HAIR",
   "1F472 MAN WITH GUA PI MAO, MAN WITH TURBAN, OLDER MAN, OLDER WOMAN, BABY, CONSTRUCTION WORKER",
   "1F478 PRINCESS, JAPANESE OGRE, JAPANESE GOBLIN, GHOST, BABY ANGEL, EXTRATERRESTRIAL ALIEN",
   "1F47E ALIEN MONSTER, IMP, SKULL, INFORMATION DESK PERSON, GUARDSMAN, DANCER",
   "1F484 LIPSTICK, NAIL POLISH, FACE MASSAGE, HAIRCUT, BARBER POLE, SYRINGE, PILL, KISS MARK",
   "1F48C LOVE LETTER, RING, GEM STONE, KISS, BOUQUET, COUPLE WITH HEART, WEDDING, BEATING HEART",
   "1F494 BROKEN HEART, TWO HEARTS, SPARKLING HEART, GROWING HEART, HEART WITH ARROW, BLUE HEART",
   "1F49A GREEN HEART, YELLOW HEART, PURPLE HEART, HEART WITH RIBBON, REVOLVING HEARTS",
   "1F49F HEART DECORATION, DIAMOND SHAPE WITH A DOT INSIDE, ELECTRIC LIGHT BULB, ANGER SYMBOL",
   "1F4A3 BOMB, SLEEPING SYMBOL, COLLISION SYMBOL, SPLASHING SWEAT SYMBOL, DROPLET, DASH SYMBOL",
   "1F4A9 PILE OF POO, FLEXED BICEPS, DIZZY SYMBOL, SPEECH BALLOON, THOUGHT BALLOON, WHITE FLOWER",
   "1F4AF HUNDRED POINTS SYMBOL, MONEY BAG, CURRENCY EXCHANGE, HEAVY DOLLAR SIGN, CREDIT CARD",
   "1F4B4 BANKNOTE WITH: YEN SIGN, DOLLAR SIGN, EURO SIGN, POUND SIGN",
   "1F4B8 MONEY WITH WINGS, CHART WITH UPWARDS TREND AND YEN SIGN, SEAT, PERSONAL COMPUTER",
   "1F4BC BRIEFCASE, MINIDISC, FLOPPY DISK, OPTICAL DISC, DVD, FILE FOLDER, OPEN FILE FOLDER",
   "1F4C3 PAGE WITH CURL, PAGE FACING UP, CALENDAR, TEAR-OFF CALENDAR, CARD INDEX",
   "1F4C8 CHART WITH: UPWARDS TREND, DOWNWARDS TREND",
   "1F4CA BAR CHART, CLIPBOARD, PUSHPIN, ROUND PUSHPIN, PAPERCLIP, STRAIGHT RULER",
   "1F4D0 TRIANGULAR RULER, BOOKMARK TABS, LEDGER, NOTEBOOK, NOTEBOOK WITH DECORATIVE COVER",
   "1F4D5 CLOSED BOOK, OPEN BOOK, GREEN BOOK, BLUE BOOK, ORANGE BOOK, BOOKS",
   "1F4DB NAME BADGE, SCROLL, MEMO, TELEPHONE RECEIVER, PAGER, FAX MACHINE, SATELLITE ANTENNA",
   "1F4E2 PUBLIC ADDRESS LOUDSPEAKER, CHEERING MEGAPHONE, OUTBOX TRAY, INBOX TRAY",
   "1F4E6 PACKAGE, E-MAIL SYMBOL, INCOMING ENVELOPE, ENVELOPE WITH DOWNWARDS ARROW ABOVE",
   "1F4EA CLOSED MAILBOX WITH: LOWERED FLAG, RAISED FLAG",
   "1F4EC OPEN MAILBOX WITH: RAISED FLAG, LOWERED FLAG",
   "1F4EE POSTBOX, POSTAL HORN, NEWSPAPER",
   "1F4F1 MOBILE: PHONE, PHONE WITH RIGHTWARDS ARROW AT LEFT",
   "1F4F3 VIBRATION MODE, MOBILE PHONE OFF, NO MOBILE PHONES",
   "1F4F6 ANTENNA WITH BARS, CAMERA, CAMERA WITH FLASH, VIDEO CAMERA, TELEVISION, RADIO",
   "1F4FC VIDEOCASSETTE, FILM PROJECTOR, PORTABLE STEREO, PRAYER BEADS, TWISTED RIGHTWARDS ARROWS",
   "1F501 CLOCKWISE RIGHTWARDS AND LEFTWARDS OPEN CIRCLE: ARROWS, ARROWS WITH CIRCLED ONE OVERLAY",
   "1F503 CLOCKWISE DOWNWARDS AND UPWARDS OPEN CIRCLE ARROWS",
   "1F504 ANTICLOCKWISE DOWNWARDS AND UPWARDS OPEN CIRCLE ARROWS, LOW BRIGHTNESS SYMBOL",
   "1F506 HIGH BRIGHTNESS SYMBOL, SPEAKER WITH CANCELLATION STROKE, SPEAKER",
   "1F509 SPEAKER WITH: ONE SOUND WAVE, THREE SOUND WAVES",
   "1F50B BATTERY, ELECTRIC PLUG, LEFT-POINTING MAGNIFYING GLASS",
   "1F50E RIGHT-POINTING MAGNIFYING GLASS, LOCK WITH INK PEN, CLOSED LOCK WITH KEY",
   "1F511 KEY, LOCK, OPEN LOCK, BELL, BELL WITH CANCELLATION STROKE, BOOKMARK, LINK SYMBOL",
   "1F518 RADIO BUTTON, BACK WITH LEFTWARDS ARROW ABOVE, END WITH LEFTWARDS ARROW ABOVE",
   "1F51B ON WITH EXCLAMATION MARK WITH LEFT RIGHT ARROW ABOVE, SOON WITH RIGHTWARDS ARROW ABOVE",
   "1F51D TOP WITH UPWARDS ARROW ABOVE, NO ONE UNDER EIGHTEEN SYMBOL, KEYCAP TEN",
   "1F520 INPUT SYMBOL FOR: LATIN CAPITAL LETTERS, LATIN SMALL LETTERS, NUMBERS, SYMBOLS",
   "1F524 INPUT SYMBOL FOR LATIN LETTERS, FIRE, ELECTRIC TORCH, WRENCH, HAMMER, NUT AND BOLT",
   "1F52A HOCHO, PISTOL, MICROSCOPE, TELESCOPE, CRYSTAL BALL, SIX POINTED STAR WITH MIDDLE DOT",
   "1F530 JAPANESE SYMBOL FOR BEGINNER, TRIDENT EMBLEM, BLACK SQUARE BUTTON, WHITE SQUARE BUTTON",
   "1F534 LARGE: RED CIRCLE, BLUE CIRCLE, ORANGE DIAMOND, BLUE DIAMOND",
   "1F538 SMALL: ORANGE DIAMOND, BLUE DIAMOND",
   "1F53A UP-POINTING RED TRIANGLE, DOWN-POINTING RED TRIANGLE, UP-POINTING SMALL RED TRIANGLE",
   "1F53D DOWN-POINTING SMALL RED TRIANGLE, LOWER RIGHT SHADOWED WHITE CIRCLE",
   "1F53F UPPER RIGHT SHADOWED WHITE CIRCLE, CIRCLED CROSS POMMEE",
   "1F541 CROSS: POMMEE WITH HALF-CIRCLE BELOW, POMMEE",
   "1F543 NOTCHED: LEFT SEMICIRCLE WITH THREE DOTS, RIGHT SEMICIRCLE WITH THREE DOTS",
   "1F545 SYMBOL FOR MARKS CHAPTER, WHITE LATIN CROSS, HEAVY LATIN CROSS, CELTIC CROSS, OM SYMBOL",
   "1F54A DOVE OF PEACE, KAABA, MOSQUE, SYNAGOGUE, MENORAH WITH NINE BRANCHES, BOWL OF HYGIEIA",
   "1F550 CLOCK FACE: ONE OCLOCK, TWO OCLOCK, THREE OCLOCK, FOUR OCLOCK",
   "1F554 CLOCK FACE: FIVE OCLOCK, SIX OCLOCK, SEVEN OCLOCK, EIGHT OCLOCK, NINE OCLOCK",
   "1F559 CLOCK FACE: TEN OCLOCK, ELEVEN OCLOCK, TWELVE OCLOCK, ONE-THIRTY, TWO-THIRTY",
   "1F55E CLOCK FACE: THREE-THIRTY, FOUR-THIRTY, FIVE-THIRTY, SIX-THIRTY, SEVEN-THIRTY",
   "1F563 CLOCK FACE: EIGHT-THIRTY, NINE-THIRTY, TEN-THIRTY, ELEVEN-THIRTY, TWELVE-THIRTY",
   "1F568 RIGHT: SPEAKER, SPEAKER WITH ONE SOUND WAVE, SPEAKER WITH THREE SOUND WAVES",
   "1F56B BULLHORN, BULLHORN WITH SOUND WAVES",
   "1F56D RINGING BELL, BOOK, CANDLE, MANTELPIECE CLOCK, BLACK SKULL AND CROSSBONES",
   "1F572 NO PIRACY, HOLE, MAN IN BUSINESS SUIT LEVITATING, SLEUTH OR SPY, DARK SUNGLASSES",
   "1F577 SPIDER, SPIDER WEB, JOYSTICK, MAN DANCING, LEFT HAND TELEPHONE RECEIVER",
   "1F57C TELEPHONE RECEIVER WITH PAGE, RIGHT HAND TELEPHONE RECEIVER",
   "1F57E WHITE TOUCHTONE TELEPHONE, BLACK TOUCHTONE TELEPHONE, TELEPHONE ON TOP OF MODEM",
   "1F581 CLAMSHELL MOBILE PHONE, BACK OF ENVELOPE, STAMPED ENVELOPE, ENVELOPE WITH LIGHTNING",
   "1F585 FLYING ENVELOPE, PEN OVER STAMPED ENVELOPE, LINKED PAPERCLIPS, BLACK PUSHPIN",
   "1F589 LOWER LEFT: PENCIL, BALLPOINT PEN, FOUNTAIN PEN, PAINTBRUSH, CRAYON",
   "1F58E LEFT WRITING HAND, TURNED OK HAND SIGN, RAISED HAND WITH FINGERS SPLAYED",
   "1F591 REVERSED: RAISED HAND WITH FINGERS SPLAYED, THUMBS UP SIGN",
   "1F593 REVERSED: THUMBS DOWN SIGN, VICTORY HAND, HAND WITH MIDDLE FINGER EXTENDED",
   "1F596 RAISED HAND WITH PART BETWEEN MIDDLE AND RING FINGERS",
   "1F597 WHITE DOWN POINTING LEFT HAND INDEX",
   "1F598 SIDEWAYS WHITE: LEFT POINTING INDEX, RIGHT POINTING INDEX",
   "1F59A SIDEWAYS BLACK: LEFT POINTING INDEX, RIGHT POINTING INDEX",
   "1F59C BLACK: LEFT POINTING BACKHAND INDEX, RIGHT POINTING BACKHAND INDEX",
   "1F59E SIDEWAYS WHITE: UP POINTING INDEX, DOWN POINTING INDEX",
   "1F5A0 SIDEWAYS BLACK: UP POINTING INDEX, DOWN POINTING INDEX",
   "1F5A2 BLACK: UP POINTING BACKHAND INDEX, DOWN POINTING BACKHAND INDEX, HEART",
   "1F5A5 DESKTOP COMPUTER, KEYBOARD AND MOUSE",
   "1F5A7 THREE NETWORKED COMPUTERS, PRINTER, POCKET CALCULATOR, BLACK HARD SHELL FLOPPY DISK",
   "1F5AB WHITE HARD SHELL FLOPPY DISK, SOFT SHELL FLOPPY DISK, TAPE CARTRIDGE",
   "1F5AE WIRED KEYBOARD, ONE BUTTON MOUSE, TWO BUTTON MOUSE, THREE BUTTON MOUSE, TRACKBALL",
   "1F5B3 OLD PERSONAL COMPUTER, HARD DISK, SCREEN, PRINTER ICON, FAX ICON, OPTICAL DISC ICON",
   "1F5B9 DOCUMENT WITH: TEXT, TEXT AND PICTURE, PICTURE",
   "1F5BC FRAME WITH: PICTURE, TILES, AN X",
   "1F5BF BLACK FOLDER, FOLDER, OPEN FOLDER, CARD INDEX DIVIDERS, CARD FILE BOX",
   "1F5C4 FILE CABINET, EMPTY NOTE, EMPTY NOTE PAGE, EMPTY NOTE PAD, NOTE, NOTE PAGE",
   "1F5CA NOTE PAD, EMPTY DOCUMENT, EMPTY PAGE, EMPTY PAGES, DOCUMENT, PAGE, PAGES, WASTEBASKET",
   "1F5D2 SPIRAL NOTE PAD, SPIRAL CALENDAR PAD, DESKTOP WINDOW, MINIMIZE, MAXIMIZE, OVERLAP",
   "1F5D8 CLOCKWISE RIGHT AND LEFT SEMICIRCLE ARROWS, CANCELLATION X, INCREASE FONT SIZE SYMBOL",
   "1F5DB DECREASE FONT SIZE SYMBOL, COMPRESSION, OLD KEY, ROLLED-UP NEWSPAPER",
   "1F5DF PAGE WITH CIRCLED TEXT, STOCK CHART, DAGGER KNIFE, LIPS, SPEAKING HEAD IN SILHOUETTE",
   "1F5E4 THREE RAYS: ABOVE, BELOW, LEFT, RIGHT",
   "1F5E8 LEFT SPEECH BUBBLE, RIGHT SPEECH BUBBLE, TWO SPEECH BUBBLES",
   "1F5EB THREE SPEECH BUBBLES, LEFT THOUGHT BUBBLE, RIGHT THOUGHT BUBBLE, LEFT ANGER BUBBLE",
   "1F5EF RIGHT ANGER BUBBLE, MOOD BUBBLE, LIGHTNING MOOD BUBBLE, LIGHTNING MOOD",
   "1F5F3 BALLOT: BOX WITH BALLOT, SCRIPT X, BOX WITH SCRIPT X, BOLD SCRIPT X",
   "1F5F7 BALLOT BOX WITH BOLD SCRIPT X, LIGHT CHECK MARK, BALLOT BOX WITH BOLD CHECK, WORLD MAP",
   "1F5FB MOUNT FUJI, TOKYO TOWER, STATUE OF LIBERTY, SILHOUETTE OF JAPAN, MOYAI, GRINNING FACE",
   "1F601 GRINNING FACE WITH SMILING EYES, FACE WITH TEARS OF JOY, SMILING FACE WITH OPEN MOUTH",
   "1F604 SMILING FACE WITH OPEN MOUTH AND: SMILING EYES, COLD SWEAT, TIGHTLY-CLOSED EYES",
   "1F607 SMILING FACE WITH: HALO, HORNS",
   "1F609 WINKING FACE",
   "1F60A SMILING FACE WITH SMILING EYES, FACE SAVOURING DELICIOUS FOOD, RELIEVED FACE",
   "1F60D SMILING FACE WITH: HEART-SHAPED EYES, SUNGLASSES",
   "1F60F SMIRKING FACE, NEUTRAL FACE, EXPRESSIONLESS FACE, UNAMUSED FACE, FACE WITH COLD SWEAT",
   "1F614 PENSIVE FACE, CONFUSED FACE, CONFOUNDED FACE, KISSING FACE, FACE THROWING A KISS",
   "1F619 KISSING FACE WITH: SMILING EYES, CLOSED EYES",
   "1F61B FACE WITH STUCK-OUT: TONGUE, TONGUE AND WINKING EYE, TONGUE AND TIGHTLY-CLOSED EYES",
   "1F61E DISAPPOINTED FACE, WORRIED FACE, ANGRY FACE, POUTING FACE, CRYING FACE",
   "1F623 PERSEVERING FACE, FACE WITH LOOK OF TRIUMPH, DISAPPOINTED BUT RELIEVED FACE",
   "1F626 FROWNING FACE WITH OPEN MOUTH, ANGUISHED FACE, FEARFUL FACE, WEARY FACE, SLEEPY FACE",
   "1F62B TIRED FACE, GRIMACING FACE, LOUDLY CRYING FACE, FACE WITH OPEN MOUTH, HUSHED FACE",
   "1F630 FACE: WITH OPEN MOUTH AND COLD SWEAT, SCREAMING IN FEAR",
   "1F632 ASTONISHED FACE, FLUSHED FACE, SLEEPING FACE, DIZZY FACE, FACE WITHOUT MOUTH",
   "1F637 FACE WITH MEDICAL MASK, GRINNING CAT FACE WITH SMILING EYES, CAT FACE WITH TEARS OF JOY",
   "1F63A SMILING CAT FACE WITH: OPEN MOUTH, HEART-SHAPED EYES",
   "1F63C CAT FACE WITH WRY SMILE",
   "1F63D KISSING CAT FACE WITH CLOSED EYES, POUTING CAT FACE, CRYING CAT FACE",
   "1F640 WEARY CAT FACE, SLIGHTLY FROWNING FACE, SLIGHTLY SMILING FACE, UPSIDE-DOWN FACE",
   "1F644 FACE WITH: ROLLING EYES, NO GOOD GESTURE, OK GESTURE",
   "1F647 PERSON BOWING DEEPLY, SEE-NO-EVIL MONKEY",
   "1F649 HEAR-NO-EVIL MONKEY, SPEAK-NO-EVIL MONKEY, HAPPY PERSON RAISING ONE HAND",
   "1F64C PERSON: RAISING BOTH HANDS IN CELEBRATION, FROWNING, WITH POUTING FACE",
   "1F64F PERSON WITH FOLDED HANDS, NORTH WEST POINTING LEAF, SOUTH WEST POINTING LEAF",
   "1F652 NORTH EAST POINTING LEAF, SOUTH EAST POINTING LEAF, TURNED NORTH WEST POINTING LEAF",
   "1F655 TURNED: SOUTH WEST POINTING LEAF, NORTH EAST POINTING LEAF, SOUTH EAST POINTING LEAF",
   "1F658 NORTH WEST POINTING VINE LEAF, SOUTH WEST POINTING VINE LEAF",
   "1F65A NORTH EAST POINTING VINE LEAF, SOUTH EAST POINTING VINE LEAF",
   "1F65C HEAVY: NORTH WEST POINTING VINE LEAF, SOUTH WEST POINTING VINE LEAF",
   "1F65E HEAVY: NORTH EAST POINTING VINE LEAF, SOUTH EAST POINTING VINE LEAF",
   "1F660 NORTH WEST POINTING BUD, SOUTH WEST POINTING BUD",
   "1F662 NORTH EAST POINTING BUD, SOUTH EAST POINTING BUD, HEAVY NORTH WEST POINTING BUD",
   "1F665 HEAVY: SOUTH WEST POINTING BUD, NORTH EAST POINTING BUD, SOUTH EAST POINTING BUD",
   "1F668 HOLLOW QUILT SQUARE: ORNAMENT, ORNAMENT IN BLACK SQUARE",
   "1F66A SOLID QUILT SQUARE: ORNAMENT, ORNAMENT IN BLACK SQUARE",
   "1F66C LEFTWARDS ROCKET, UPWARDS ROCKET, RIGHTWARDS ROCKET",
   "1F66F DOWNWARDS ROCKET, SCRIPT LIGATURE ET ORNAMENT, HEAVY SCRIPT LIGATURE ET ORNAMENT",
   "1F672 LIGATURE OPEN ET ORNAMENT, HEAVY LIGATURE OPEN ET ORNAMENT, HEAVY AMPERSAND ORNAMENT",
   "1F675 SWASH AMPERSAND ORNAMENT, SANS-SERIF HEAVY DOUBLE TURNED COMMA QUOTATION MARK ORNAMENT",
   "1F677 SANS-SERIF HEAVY DOUBLE COMMA QUOTATION MARK ORNAMENT",
   "1F678 SANS-SERIF HEAVY LOW DOUBLE COMMA QUOTATION MARK ORNAMENT, HEAVY INTERROBANG ORNAMENT",
   "1F67A SANS-SERIF INTERROBANG ORNAMENT, HEAVY SANS-SERIF INTERROBANG ORNAMENT",
   "1F67C VERY HEAVY: SOLIDUS, REVERSE SOLIDUS",
   "1F67E CHECKER BOARD, REVERSE CHECKER BOARD, ROCKET, HELICOPTER, STEAM LOCOMOTIVE, RAILWAY CAR",
   "1F684 HIGH-SPEED TRAIN, HIGH-SPEED TRAIN WITH BULLET NOSE, TRAIN, METRO, LIGHT RAIL",
   "1F689 STATION, TRAM, TRAM CAR, BUS, ONCOMING BUS, TROLLEYBUS, BUS STOP, MINIBUS, AMBULANCE",
   "1F692 FIRE ENGINE, POLICE CAR, ONCOMING POLICE CAR, TAXI, ONCOMING TAXI, AUTOMOBILE",
   "1F698 ONCOMING AUTOMOBILE, RECREATIONAL VEHICLE, DELIVERY TRUCK, ARTICULATED LORRY, TRACTOR",
   "1F69D MONORAIL, MOUNTAIN RAILWAY, SUSPENSION RAILWAY, MOUNTAIN CABLEWAY, AERIAL TRAMWAY, SHIP",
   "1F6A3 ROWBOAT, SPEEDBOAT, HORIZONTAL TRAFFIC LIGHT, VERTICAL TRAFFIC LIGHT, CONSTRUCTION SIGN",
   "1F6A8 POLICE CARS REVOLVING LIGHT, TRIANGULAR FLAG ON POST, DOOR, NO ENTRY SIGN",
   "1F6AC SMOKING SYMBOL, NO SMOKING SYMBOL, PUT LITTER IN ITS PLACE SYMBOL, DO NOT LITTER SYMBOL",
   "1F6B0 POTABLE WATER SYMBOL, NON-POTABLE WATER SYMBOL, BICYCLE, NO BICYCLES, BICYCLIST",
   "1F6B5 MOUNTAIN BICYCLIST, PEDESTRIAN, NO PEDESTRIANS, CHILDREN CROSSING, MENS SYMBOL",
   "1F6BA WOMENS SYMBOL, RESTROOM, BABY SYMBOL, TOILET, WATER CLOSET, SHOWER, BATH, BATHTUB",
   "1F6C2 PASSPORT CONTROL, CUSTOMS, BAGGAGE CLAIM, LEFT LUGGAGE, TRIANGLE WITH ROUNDED CORNERS",
   "1F6C7 PROHIBITED SIGN, CIRCLED INFORMATION SOURCE, BOYS SYMBOL, GIRLS SYMBOL, COUCH AND LAMP",
   "1F6CC SLEEPING ACCOMMODATION, SHOPPING BAGS, BELLHOP BELL, BED, PLACE OF WORSHIP",
   "1F6D1 OCTAGONAL SIGN, SHOPPING TROLLEY, STUPA, PAGODA, HINDU TEMPLE, HUT, ELEVATOR",
   "1F6DD PLAYGROUND SLIDE, WHEEL",
   "1F6DF RING BUOY, HAMMER AND WRENCH, SHIELD, OIL DRUM, MOTORWAY, RAILWAY TRACK, MOTOR BOAT",
   "1F6E6 UP-POINTING: MILITARY AIRPLANE, AIRPLANE, SMALL AIRPLANE",
   "1F6E9 SMALL AIRPLANE, NORTHEAST-POINTING AIRPLANE, AIRPLANE DEPARTURE, AIRPLANE ARRIVING",
   "1F6F0 SATELLITE",
   "1F6F1 ONCOMING FIRE ENGINE, DIESEL LOCOMOTIVE, PASSENGER SHIP, SCOOTER, MOTOR SCOOTER",
   "1F6F6 CANOE, SLED, FLYING SAUCER, SKATEBOARD, AUTO RICKSHAW, PICKUP TRUCK, ROLLER SKATE",
   "1F700 ALCHEMICAL SYMBOL FOR: QUINTESSENCE, AIR, FIRE, EARTH, WATER, AQUAFORTIS",
   "1F706 ALCHEMICAL SYMBOL FOR: AQUA REGIA, AQUA REGIA-2, AQUA VITAE, AQUA VITAE-2, VINEGAR",
   "1F70B ALCHEMICAL SYMBOL FOR: VINEGAR-2, VINEGAR-3, SULFUR, PHILOSOPHERS SULFUR, BLACK SULFUR",
   "1F710 ALCHEMICAL SYMBOL FOR MERCURY: SUBLIMATE, SUBLIMATE-2, SUBLIMATE-3",
   "1F713 ALCHEMICAL SYMBOL FOR: CINNABAR, SALT, NITRE, VITRIOL, VITRIOL-2",
   "1F718 ALCHEMICAL SYMBOL FOR: ROCK SALT, ROCK SALT-2, GOLD, SILVER, IRON ORE, IRON ORE-2",
   "1F71E ALCHEMICAL SYMBOL FOR: CROCUS OF IRON, REGULUS OF IRON, COPPER ORE, IRON-COPPER ORE",
   "1F722 ALCHEMICAL SYMBOL FOR: SUBLIMATE OF COPPER, CROCUS OF COPPER, CROCUS OF COPPER-2",
   "1F725 ALCHEMICAL SYMBOL FOR: COPPER ANTIMONIATE, SALT OF COPPER ANTIMONIATE",
   "1F727 ALCHEMICAL SYMBOL FOR: SUBLIMATE OF SALT OF COPPER, VERDIGRIS, TIN ORE",
   "1F72A ALCHEMICAL SYMBOL FOR: LEAD ORE, ANTIMONY ORE, SUBLIMATE OF ANTIMONY, SALT OF ANTIMONY",
   "1F72E ALCHEMICAL SYMBOL FOR: SUBLIMATE OF SALT OF ANTIMONY, VINEGAR OF ANTIMONY",
   "1F730 ALCHEMICAL SYMBOL FOR: REGULUS OF ANTIMONY, REGULUS OF ANTIMONY-2, REGULUS, REGULUS-2",
   "1F734 ALCHEMICAL SYMBOL FOR: REGULUS-3, REGULUS-4, ALKALI, ALKALI-2, MARCASITE, SAL-AMMONIAC",
   "1F73A ALCHEMICAL SYMBOL FOR: ARSENIC, REALGAR, REALGAR-2, AURIPIGMENT, BISMUTH ORE",
   "1F73F ALCHEMICAL SYMBOL FOR: TARTAR, TARTAR-2, QUICK LIME, BORAX, BORAX-2, BORAX-3, ALUM, OIL",
   "1F747 ALCHEMICAL SYMBOL FOR: SPIRIT, TINCTURE, GUM, WAX, POWDER, CALX, TUTTY, CAPUT MORTUUM",
   "1F74F ALCHEMICAL SYMBOL FOR: SCEPTER OF JOVE, CADUCEUS, TRIDENT, STARRED TRIDENT, LODESTONE",
   "1F754 ALCHEMICAL SYMBOL FOR: SOAP, URINE, HORSE DUNG, ASHES, POT ASHES, BRICK, POWDERED BRICK",
   "1F75B ALCHEMICAL SYMBOL FOR: AMALGAM, STRATUM SUPER STRATUM, STRATUM SUPER STRATUM-2",
   "1F75E ALCHEMICAL SYMBOL FOR: SUBLIMATION, PRECIPITATE, DISTILL, DISSOLVE, DISSOLVE-2",
   "1F763 ALCHEMICAL SYMBOL FOR: PURIFY, PUTREFACTION, CRUCIBLE, CRUCIBLE-2, CRUCIBLE-3",
   "1F768 ALCHEMICAL SYMBOL FOR: CRUCIBLE-4, CRUCIBLE-5, ALEMBIC, BATH OF MARY, BATH OF VAPOURS",
   "1F76D ALCHEMICAL SYMBOL FOR: RETORT, HOUR, NIGHT, DAY-NIGHT, MONTH, HALF DRAM, HALF OUNCE",
   "1F780 BLACK: LEFT-POINTING ISOSCELES RIGHT TRIANGLE, UP-POINTING ISOSCELES RIGHT TRIANGLE",
   "1F782 BLACK: RIGHT-POINTING ISOSCELES RIGHT TRIANGLE, DOWN-POINTING ISOSCELES RIGHT TRIANGLE",
   "1F784 BLACK SLIGHTLY SMALL CIRCLE, MEDIUM BOLD WHITE CIRCLE, BOLD WHITE CIRCLE",
   "1F787 HEAVY WHITE CIRCLE, VERY HEAVY WHITE CIRCLE, EXTREMELY HEAVY WHITE CIRCLE",
   "1F78A WHITE CIRCLE CONTAINING BLACK SMALL CIRCLE, ROUND TARGET, BLACK TINY SQUARE",
   "1F78D BLACK SLIGHTLY SMALL SQUARE, LIGHT WHITE SQUARE, MEDIUM WHITE SQUARE, BOLD WHITE SQUARE",
   "1F791 HEAVY WHITE SQUARE, VERY HEAVY WHITE SQUARE, EXTREMELY HEAVY WHITE SQUARE",
   "1F794 WHITE SQUARE CONTAINING BLACK: VERY SMALL SQUARE, MEDIUM SQUARE",
   "1F796 SQUARE TARGET, BLACK TINY DIAMOND, BLACK VERY SMALL DIAMOND, BLACK MEDIUM SMALL DIAMOND",
   "1F79A WHITE DIAMOND CONTAINING BLACK: VERY SMALL DIAMOND, MEDIUM DIAMOND",
   "1F79C DIAMOND TARGET",
   "1F79D BLACK: TINY LOZENGE, VERY SMALL LOZENGE, MEDIUM SMALL LOZENGE",
   "1F7A0 WHITE LOZENGE CONTAINING BLACK SMALL LOZENGE, THIN GREEK CROSS",
   "1F7A2 LIGHT GREEK CROSS, MEDIUM GREEK CROSS, BOLD GREEK CROSS, VERY BOLD GREEK CROSS",
   "1F7A6 VERY HEAVY GREEK CROSS, EXTREMELY HEAVY GREEK CROSS, THIN SALTIRE",
   "1F7A9 LIGHT SALTIRE, MEDIUM SALTIRE, BOLD SALTIRE, HEAVY SALTIRE, VERY HEAVY SALTIRE",
   "1F7AE EXTREMELY HEAVY SALTIRE, LIGHT FIVE SPOKED ASTERISK, MEDIUM FIVE SPOKED ASTERISK",
   "1F7B1 BOLD FIVE SPOKED ASTERISK, HEAVY FIVE SPOKED ASTERISK, VERY HEAVY FIVE SPOKED ASTERISK",
   "1F7B4 EXTREMELY HEAVY FIVE SPOKED ASTERISK, LIGHT SIX SPOKED ASTERISK",
   "1F7B6 MEDIUM SIX SPOKED ASTERISK, BOLD SIX SPOKED ASTERISK, HEAVY SIX SPOKED ASTERISK",
   "1F7B9 VERY HEAVY SIX SPOKED ASTERISK, EXTREMELY HEAVY SIX SPOKED ASTERISK",
   "1F7BB LIGHT EIGHT SPOKED ASTERISK, MEDIUM EIGHT SPOKED ASTERISK, BOLD EIGHT SPOKED ASTERISK",
   "1F7BE HEAVY EIGHT SPOKED ASTERISK, VERY HEAVY EIGHT SPOKED ASTERISK",
   "1F7C0 LIGHT THREE POINTED BLACK STAR, MEDIUM THREE POINTED BLACK STAR",
   "1F7C2 THREE POINTED BLACK STAR, MEDIUM THREE POINTED PINWHEEL STAR",
   "1F7C4 LIGHT FOUR POINTED BLACK STAR, MEDIUM FOUR POINTED BLACK STAR, FOUR POINTED BLACK STAR",
   "1F7C7 MEDIUM FOUR POINTED PINWHEEL STAR, REVERSE LIGHT FOUR POINTED PINWHEEL STAR",
   "1F7C9 LIGHT FIVE POINTED BLACK STAR, HEAVY FIVE POINTED BLACK STAR",
   "1F7CB MEDIUM SIX POINTED BLACK STAR, HEAVY SIX POINTED BLACK STAR",
   "1F7CD SIX POINTED PINWHEEL STAR, MEDIUM EIGHT POINTED BLACK STAR",
   "1F7CF HEAVY EIGHT POINTED BLACK STAR, VERY HEAVY EIGHT POINTED BLACK STAR",
   "1F7D1 HEAVY EIGHT POINTED PINWHEEL STAR, LIGHT TWELVE POINTED BLACK STAR",
   "1F7D3 HEAVY TWELVE POINTED: BLACK STAR, PINWHEEL STAR",
   "1F7D5 CIRCLED TRIANGLE, NEGATIVE CIRCLED TRIANGLE, CIRCLED SQUARE, NEGATIVE CIRCLED SQUARE",
   "1F7E0 LARGE: ORANGE CIRCLE, YELLOW CIRCLE",
   "1F7E2 LARGE: GREEN CIRCLE, PURPLE CIRCLE, BROWN CIRCLE, RED SQUARE, BLUE SQUARE",
   "1F7E7 LARGE: ORANGE SQUARE, YELLOW SQUARE, GREEN SQUARE, PURPLE SQUARE, BROWN SQUARE",
   "1F7F0 HEAVY EQUALS SIGN",
   "1F800 LEFTWARDS ARROW WITH SMALL TRIANGLE ARROWHEAD",
   "1F801 UPWARDS ARROW WITH SMALL TRIANGLE ARROWHEAD",
   "1F802 RIGHTWARDS ARROW WITH SMALL TRIANGLE ARROWHEAD",
   "1F803 DOWNWARDS ARROW WITH SMALL TRIANGLE ARROWHEAD",
   "1F804 LEFTWARDS ARROW WITH MEDIUM TRIANGLE ARROWHEAD",
   "1F805 UPWARDS ARROW WITH MEDIUM TRIANGLE ARROWHEAD",
   "1F806 RIGHTWARDS ARROW WITH MEDIUM TRIANGLE ARROWHEAD",
   "1F807 DOWNWARDS ARROW WITH MEDIUM TRIANGLE ARROWHEAD",
   "1F808 LEFTWARDS ARROW WITH LARGE TRIANGLE ARROWHEAD",
   "1F809 UPWARDS ARROW WITH LARGE TRIANGLE ARROWHEAD",
   "1F80A RIGHTWARDS ARROW WITH LARGE TRIANGLE ARROWHEAD",
   "1F80B DOWNWARDS ARROW WITH LARGE TRIANGLE ARROWHEAD",
   "1F810 LEFTWARDS ARROW WITH SMALL EQUILATERAL ARROWHEAD",
   "1F811 UPWARDS ARROW WITH SMALL EQUILATERAL ARROWHEAD",
   "1F812 RIGHTWARDS ARROW WITH SMALL EQUILATERAL ARROWHEAD",
   "1F813 DOWNWARDS ARROW WITH SMALL EQUILATERAL ARROWHEAD",
   "1F814 LEFTWARDS ARROW WITH EQUILATERAL ARROWHEAD, UPWARDS ARROW WITH EQUILATERAL ARROWHEAD",
   "1F816 RIGHTWARDS ARROW WITH EQUILATERAL ARROWHEAD, DOWNWARDS ARROW WITH EQUILATERAL ARROWHEAD",
   "1F818 HEAVY LEFTWARDS ARROW WITH EQUILATERAL ARROWHEAD",
   "1F819 HEAVY UPWARDS ARROW WITH EQUILATERAL ARROWHEAD",
   "1F81A HEAVY RIGHTWARDS ARROW WITH EQUILATERAL ARROWHEAD",
   "1F81B HEAVY DOWNWARDS ARROW WITH EQUILATERAL ARROWHEAD",
   "1F81C HEAVY LEFTWARDS ARROW WITH LARGE EQUILATERAL ARROWHEAD",
   "1F81D HEAVY UPWARDS ARROW WITH LARGE EQUILATERAL ARROWHEAD",
   "1F81E HEAVY RIGHTWARDS ARROW WITH LARGE EQUILATERAL ARROWHEAD",
   "1F81F HEAVY DOWNWARDS ARROW WITH LARGE EQUILATERAL ARROWHEAD",
   "1F820 LEFTWARDS TRIANGLE-HEADED ARROW WITH NARROW SHAFT",
   "1F821 UPWARDS TRIANGLE-HEADED ARROW WITH NARROW SHAFT",
   "1F822 RIGHTWARDS TRIANGLE-HEADED ARROW WITH NARROW SHAFT",
   "1F823 DOWNWARDS TRIANGLE-HEADED ARROW WITH NARROW SHAFT",
   "1F824 LEFTWARDS TRIANGLE-HEADED ARROW WITH MEDIUM SHAFT",
   "1F825 UPWARDS TRIANGLE-HEADED ARROW WITH MEDIUM SHAFT",
   "1F826 RIGHTWARDS TRIANGLE-HEADED ARROW WITH MEDIUM SHAFT",
   "1F827 DOWNWARDS TRIANGLE-HEADED ARROW WITH MEDIUM SHAFT",
   "1F828 LEFTWARDS TRIANGLE-HEADED ARROW WITH BOLD SHAFT",
   "1F829 UPWARDS TRIANGLE-HEADED ARROW WITH BOLD SHAFT",
   "1F82A RIGHTWARDS TRIANGLE-HEADED ARROW WITH BOLD SHAFT",
   "1F82B DOWNWARDS TRIANGLE-HEADED ARROW WITH BOLD SHAFT",
   "1F82C LEFTWARDS TRIANGLE-HEADED ARROW WITH HEAVY SHAFT",
   "1F82D UPWARDS TRIANGLE-HEADED ARROW WITH HEAVY SHAFT",
   "1F82E RIGHTWARDS TRIANGLE-HEADED ARROW WITH HEAVY SHAFT",
   "1F82F DOWNWARDS TRIANGLE-HEADED ARROW WITH HEAVY SHAFT",
   "1F830 LEFTWARDS TRIANGLE-HEADED ARROW WITH VERY HEAVY SHAFT",
   "1F831 UPWARDS TRIANGLE-HEADED ARROW WITH VERY HEAVY SHAFT",
   "1F832 RIGHTWARDS TRIANGLE-HEADED ARROW WITH VERY HEAVY SHAFT",
   "1F833 DOWNWARDS TRIANGLE-HEADED ARROW WITH VERY HEAVY SHAFT",
   "1F834 LEFTWARDS FINGER-POST ARROW, UPWARDS FINGER-POST ARROW",
   "1F836 RIGHTWARDS FINGER-POST ARROW, DOWNWARDS FINGER-POST ARROW, LEFTWARDS SQUARED ARROW",
   "1F839 UPWARDS SQUARED ARROW, RIGHTWARDS SQUARED ARROW, DOWNWARDS SQUARED ARROW",
   "1F83C LEFTWARDS COMPRESSED ARROW, UPWARDS COMPRESSED ARROW, RIGHTWARDS COMPRESSED ARROW",
   "1F83F DOWNWARDS COMPRESSED ARROW, LEFTWARDS HEAVY COMPRESSED ARROW",
   "1F841 UPWARDS HEAVY COMPRESSED ARROW, RIGHTWARDS HEAVY COMPRESSED ARROW",
   "1F843 DOWNWARDS HEAVY COMPRESSED ARROW, LEFTWARDS HEAVY ARROW",
   "1F845 UPWARDS HEAVY ARROW, RIGHTWARDS HEAVY ARROW, DOWNWARDS HEAVY ARROW",
   "1F850 LEFTWARDS SANS-SERIF ARROW, UPWARDS SANS-SERIF ARROW, RIGHTWARDS SANS-SERIF ARROW",
   "1F853 DOWNWARDS SANS-SERIF ARROW, NORTH WEST SANS-SERIF ARROW, NORTH EAST SANS-SERIF ARROW",
   "1F856 SOUTH: EAST SANS-SERIF ARROW, WEST SANS-SERIF ARROW",
   "1F858 LEFT RIGHT SANS-SERIF ARROW, UP DOWN SANS-SERIF ARROW",
   "1F860 WIDE-HEADED: LEFTWARDS LIGHT BARB ARROW, UPWARDS LIGHT BARB ARROW",
   "1F862 WIDE-HEADED: RIGHTWARDS LIGHT BARB ARROW, DOWNWARDS LIGHT BARB ARROW",
   "1F864 WIDE-HEADED NORTH: WEST LIGHT BARB ARROW, EAST LIGHT BARB ARROW",
   "1F866 WIDE-HEADED SOUTH: EAST LIGHT BARB ARROW, WEST LIGHT BARB ARROW",
   "1F868 WIDE-HEADED: LEFTWARDS BARB ARROW, UPWARDS BARB ARROW, RIGHTWARDS BARB ARROW",
   "1F86B WIDE-HEADED: DOWNWARDS BARB ARROW, NORTH WEST BARB ARROW, NORTH EAST BARB ARROW",
   "1F86E WIDE-HEADED SOUTH: EAST BARB ARROW, WEST BARB ARROW",
   "1F870 WIDE-HEADED: LEFTWARDS MEDIUM BARB ARROW, UPWARDS MEDIUM BARB ARROW",
   "1F872 WIDE-HEADED: RIGHTWARDS MEDIUM BARB ARROW, DOWNWARDS MEDIUM BARB ARROW",
   "1F874 WIDE-HEADED NORTH: WEST MEDIUM BARB ARROW, EAST MEDIUM BARB ARROW",
   "1F876 WIDE-HEADED SOUTH: EAST MEDIUM BARB ARROW, WEST MEDIUM BARB ARROW",
   "1F878 WIDE-HEADED: LEFTWARDS HEAVY BARB ARROW, UPWARDS HEAVY BARB ARROW",
   "1F87A WIDE-HEADED: RIGHTWARDS HEAVY BARB ARROW, DOWNWARDS HEAVY BARB ARROW",
   "1F87C WIDE-HEADED NORTH: WEST HEAVY BARB ARROW, EAST HEAVY BARB ARROW",
   "1F87E WIDE-HEADED SOUTH: EAST HEAVY BARB ARROW, WEST HEAVY BARB ARROW",
   "1F880 WIDE-HEADED: LEFTWARDS VERY HEAVY BARB ARROW, UPWARDS VERY HEAVY BARB ARROW",
   "1F882 WIDE-HEADED: RIGHTWARDS VERY HEAVY BARB ARROW, DOWNWARDS VERY HEAVY BARB ARROW",
   "1F884 WIDE-HEADED NORTH: WEST VERY HEAVY BARB ARROW, EAST VERY HEAVY BARB ARROW",
   "1F886 WIDE-HEADED SOUTH: EAST VERY HEAVY BARB ARROW, WEST VERY HEAVY BARB ARROW",
   "1F890 LEFTWARDS TRIANGLE ARROWHEAD, UPWARDS TRIANGLE ARROWHEAD, RIGHTWARDS TRIANGLE ARROWHEAD",
   "1F893 DOWNWARDS TRIANGLE ARROWHEAD, LEFTWARDS WHITE ARROW WITHIN TRIANGLE ARROWHEAD",
   "1F895 UPWARDS WHITE ARROW WITHIN TRIANGLE ARROWHEAD",
   "1F896 RIGHTWARDS WHITE ARROW WITHIN TRIANGLE ARROWHEAD",
   "1F897 DOWNWARDS WHITE ARROW WITHIN TRIANGLE ARROWHEAD",
   "1F898 LEFTWARDS ARROW WITH NOTCHED TAIL, UPWARDS ARROW WITH NOTCHED TAIL",
   "1F89A RIGHTWARDS ARROW WITH NOTCHED TAIL, DOWNWARDS ARROW WITH NOTCHED TAIL",
   "1F89C HEAVY ARROW SHAFT WIDTH: ONE, TWO THIRDS, ONE HALF, ONE THIRD",
   "1F8A0 LEFTWARDS BOTTOM-SHADED WHITE ARROW, RIGHTWARDS BOTTOM SHADED WHITE ARROW",
   "1F8A2 LEFTWARDS TOP SHADED WHITE ARROW, RIGHTWARDS TOP SHADED WHITE ARROW",
   "1F8A4 LEFTWARDS LEFT-SHADED WHITE ARROW, RIGHTWARDS RIGHT-SHADED WHITE ARROW",
   "1F8A6 LEFTWARDS RIGHT-SHADED WHITE ARROW, RIGHTWARDS LEFT-SHADED WHITE ARROW",
   "1F8A8 LEFTWARDS BACK-TILTED SHADOWED WHITE ARROW, RIGHTWARDS BACK-TILTED SHADOWED WHITE ARROW",
   "1F8AA LEFTWARDS FRONT-TILTED SHADOWED WHITE ARROW",
   "1F8AB RIGHTWARDS FRONT-TILTED SHADOWED WHITE ARROW",
   "1F8AC WHITE ARROW SHAFT WIDTH: ONE, TWO THIRDS",
   "1F8B0 ARROW POINTING: UPWARDS THEN NORTH WEST, RIGHTWARDS THEN CURVING SOUTH WEST",
   "1F900 CIRCLED CROSS: FORMEE WITH FOUR DOTS, FORMEE WITH TWO DOTS, FORMEE",
   "1F903 LEFT HALF CIRCLE WITH: FOUR DOTS, THREE DOTS, TWO DOTS, DOT",
   "1F907 LEFT HALF CIRCLE",
   "1F908 DOWNWARD FACING: HOOK, NOTCHED HOOK, HOOK WITH DOT, NOTCHED HOOK WITH DOT",
   "1F90C PINCHED FINGERS, WHITE HEART, BROWN HEART",
   "1F90F PINCHING HAND, ZIPPER-MOUTH FACE, MONEY-MOUTH FACE, FACE WITH THERMOMETER, NERD FACE",
   "1F914 THINKING FACE, FACE WITH HEAD-BANDAGE, ROBOT FACE, HUGGING FACE, SIGN OF THE HORNS",
   "1F919 CALL ME HAND, RAISED BACK OF HAND, LEFT-FACING FIST, RIGHT-FACING FIST",
   "1F91D HANDSHAKE, HAND WITH INDEX AND MIDDLE FINGERS CROSSED, I LOVE YOU HAND SIGN",
   "1F920 FACE WITH COWBOY HAT, CLOWN FACE, NAUSEATED FACE, ROLLING ON THE FLOOR LAUGHING",
   "1F924 DROOLING FACE, LYING FACE, FACE PALM, SNEEZING FACE, FACE WITH ONE EYEBROW RAISED",
   "1F929 GRINNING FACE WITH: STAR EYES, ONE LARGE AND ONE SMALL EYE",
   "1F92B FACE WITH FINGER COVERING CLOSED LIPS, SERIOUS FACE WITH SYMBOLS COVERING MOUTH",
   "1F92D SMILING FACE WITH SMILING EYES AND HAND COVERING MOUTH, FACE WITH OPEN MOUTH VOMITING",
   "1F92F SHOCKED FACE WITH EXPLODING HEAD, PREGNANT WOMAN, BREAST-FEEDING",
   "1F932 PALMS UP TOGETHER, SELFIE, PRINCE, MAN IN TUXEDO, MOTHER CHRISTMAS, SHRUG",
   "1F938 PERSON DOING CARTWHEEL, JUGGLING, FENCER, MODERN PENTATHLON, WRESTLERS, WATER POLO",
   "1F93E HANDBALL, DIVING MASK, WILTED FLOWER, DRUM WITH DRUMSTICKS, CLINKING GLASSES",
   "1F943 TUMBLER GLASS, SPOON, GOAL NET, RIFLE, FIRST PLACE MEDAL, SECOND PLACE MEDAL",
   "1F949 THIRD PLACE MEDAL, BOXING GLOVE, MARTIAL ARTS UNIFORM, CURLING STONE",
   "1F94D LACROSSE STICK AND BALL, SOFTBALL, FLYING DISC, CROISSANT, AVOCADO, CUCUMBER, BACON",
   "1F954 POTATO, CARROT, BAGUETTE BREAD, GREEN SALAD, SHALLOW PAN OF FOOD, STUFFED FLATBREAD",
   "1F95A EGG, GLASS OF MILK, PEANUTS, KIWIFRUIT, PANCAKES, DUMPLING, FORTUNE COOKIE",
   "1F961 TAKEOUT BOX, CHOPSTICKS, BOWL WITH SPOON, CUP WITH STRAW, COCONUT, BROCCOLI",
   "1F967 PIE, PRETZEL, CUT OF MEAT, SANDWICH, CANNED FOOD, LEAFY GREEN, MANGO, MOON CAKE, BAGEL",
   "1F970 SMILING FACE WITH SMILING EYES AND THREE HEARTS, YAWNING FACE, SMILING FACE WITH TEAR",
   "1F973 FACE WITH: PARTY HORN AND PARTY HAT, UNEVEN EYES AND WAVY MOUTH",
   "1F975 OVERHEATED FACE, FREEZING FACE, NINJA, DISGUISED FACE, FACE HOLDING BACK TEARS",
   "1F97A FACE WITH PLEADING EYES, SARI, LAB COAT, GOGGLES, HIKING BOOT, FLAT SHOE",
   "1F980 CRAB, LION FACE, SCORPION, TURKEY, UNICORN FACE, EAGLE, DUCK, BAT, SHARK, OWL",
   "1F98A FOX FACE, BUTTERFLY, DEER, GORILLA, LIZARD, RHINOCEROS, SHRIMP, SQUID, GIRAFFE FACE",
   "1F993 ZEBRA FACE, HEDGEHOG, SAUROPOD, T-REX, CRICKET, KANGAROO, LLAMA, PEACOCK, HIPPOPOTAMUS",
   "1F99C PARROT, RACCOON, LOBSTER, MOSQUITO, MICROBE, BADGER, SWAN, MAMMOTH, DODO, SLOTH",
   "1F9A6 OTTER, ORANGUTAN, SKUNK, FLAMINGO, OYSTER, BEAVER, BISON, SEAL, GUIDE DOG, PROBING CANE",
   "1F9B0 EMOJI COMPONENT: RED HAIR, CURLY HAIR, BALD, WHITE HAIR",
   "1F9B4 BONE, LEG, FOOT, TOOTH, SUPERHERO, SUPERVILLAIN, SAFETY VEST, EAR WITH HEARING AID",
   "1F9BC MOTORIZED WHEELCHAIR, MANUAL WHEELCHAIR, MECHANICAL ARM, MECHANICAL LEG",
   "1F9C0 CHEESE WEDGE, CUPCAKE, SALT SHAKER, BEVERAGE BOX, GARLIC, ONION, FALAFEL, WAFFLE",
   "1F9C8 BUTTER, MATE DRINK, ICE CUBE, BUBBLE TEA, TROLL, STANDING PERSON, KNEELING PERSON",
   "1F9CF DEAF PERSON, FACE WITH MONOCLE, ADULT, CHILD, OLDER ADULT, BEARDED PERSON",
   "1F9D5 PERSON: WITH HEADSCARF, IN STEAMY ROOM, CLIMBING, IN LOTUS POSITION",
   "1F9D9 MAGE, FAIRY, VAMPIRE, MERPERSON, ELF, GENIE, ZOMBIE, BRAIN, ORANGE HEART, BILLED CAP",
   "1F9E3 SCARF, GLOVES, COAT, SOCKS, RED GIFT ENVELOPE, FIRECRACKER, JIGSAW PUZZLE PIECE",
   "1F9EA TEST TUBE, PETRI DISH, DNA DOUBLE HELIX, COMPASS, ABACUS, FIRE EXTINGUISHER, TOOLBOX",
   "1F9F1 BRICK, MAGNET, LUGGAGE, LOTION BOTTLE, SPOOL OF THREAD, BALL OF YARN, SAFETY PIN",
   "1F9F8 TEDDY BEAR, BROOM, BASKET, ROLL OF PAPER, BAR OF SOAP, SPONGE, RECEIPT, NAZAR AMULET",
   "1FA00 NEUTRAL CHESS: KING, QUEEN, ROOK, BISHOP, KNIGHT, PAWN",
   "1FA06 WHITE CHESS KNIGHT ROTATED FORTY-FIVE DEGREES",
   "1FA07 BLACK CHESS KNIGHT ROTATED FORTY-FIVE DEGREES",
   "1FA08 NEUTRAL CHESS KNIGHT ROTATED FORTY-FIVE DEGREES",
   "1FA09 WHITE CHESS: KING ROTATED NINETY DEGREES, QUEEN ROTATED NINETY DEGREES",
   "1FA0B WHITE CHESS: ROOK ROTATED NINETY DEGREES, BISHOP ROTATED NINETY DEGREES",
   "1FA0D WHITE CHESS: KNIGHT ROTATED NINETY DEGREES, PAWN ROTATED NINETY DEGREES",
   "1FA0F BLACK CHESS: KING ROTATED NINETY DEGREES, QUEEN ROTATED NINETY DEGREES",
   "1FA11 BLACK CHESS: ROOK ROTATED NINETY DEGREES, BISHOP ROTATED NINETY DEGREES",
   "1FA13 BLACK CHESS: KNIGHT ROTATED NINETY DEGREES, PAWN ROTATED NINETY DEGREES",
   "1FA15 NEUTRAL CHESS: KING ROTATED NINETY DEGREES, QUEEN ROTATED NINETY DEGREES",
   "1FA17 NEUTRAL CHESS: ROOK ROTATED NINETY DEGREES, BISHOP ROTATED NINETY DEGREES",
   "1FA19 NEUTRAL CHESS: KNIGHT ROTATED NINETY DEGREES, PAWN ROTATED NINETY DEGREES",
   "1FA1B WHITE CHESS KNIGHT ROTATED ONE HUNDRED THIRTY-FIVE DEGREES",
   "1FA1C BLACK CHESS KNIGHT ROTATED ONE HUNDRED THIRTY-FIVE DEGREES",
   "1FA1D NEUTRAL CHESS KNIGHT ROTATED ONE HUNDRED THIRTY-FIVE DEGREES",
   "1FA1E WHITE CHESS TURNED: KING, QUEEN, ROOK, BISHOP, KNIGHT, PAWN",
   "1FA24 BLACK CHESS TURNED: KING, QUEEN, ROOK, BISHOP, KNIGHT, PAWN",
   "1FA2A NEUTRAL CHESS TURNED: KING, QUEEN, ROOK, BISHOP, KNIGHT, PAWN",
   "1FA30 WHITE CHESS KNIGHT ROTATED TWO HUNDRED TWENTY-FIVE DEGREES",
   "1FA31 BLACK CHESS KNIGHT ROTATED TWO HUNDRED TWENTY-FIVE DEGREES",
   "1FA32 NEUTRAL CHESS KNIGHT ROTATED TWO HUNDRED TWENTY-FIVE DEGREES",
   "1FA33 WHITE CHESS KING ROTATED TWO HUNDRED SEVENTY DEGREES",
   "1FA34 WHITE CHESS QUEEN ROTATED TWO HUNDRED SEVENTY DEGREES",
   "1FA35 WHITE CHESS ROOK ROTATED TWO HUNDRED SEVENTY DEGREES",
   "1FA36 WHITE CHESS BISHOP ROTATED TWO HUNDRED SEVENTY DEGREES",
   "1FA37 WHITE CHESS KNIGHT ROTATED TWO HUNDRED SEVENTY DEGREES",
   "1FA38 WHITE CHESS PAWN ROTATED TWO HUNDRED SEVENTY DEGREES",
   "1FA39 BLACK CHESS KING ROTATED TWO HUNDRED SEVENTY DEGREES",
   "1FA3A BLACK CHESS QUEEN ROTATED TWO HUNDRED SEVENTY DEGREES",
   "1FA3B BLACK CHESS ROOK ROTATED TWO HUNDRED SEVENTY DEGREES",
   "1FA3C BLACK CHESS BISHOP ROTATED TWO HUNDRED SEVENTY DEGREES",
   "1FA3D BLACK CHESS KNIGHT ROTATED TWO HUNDRED SEVENTY DEGREES",
   "1FA3E BLACK CHESS PAWN ROTATED TWO HUNDRED SEVENTY DEGREES",
   "1FA3F NEUTRAL CHESS KING ROTATED TWO HUNDRED SEVENTY DEGREES",
   "1FA40 NEUTRAL CHESS QUEEN ROTATED TWO HUNDRED SEVENTY DEGREES",
   "1FA41 NEUTRAL CHESS ROOK ROTATED TWO HUNDRED SEVENTY DEGREES",
   "1FA42 NEUTRAL CHESS BISHOP ROTATED TWO HUNDRED SEVENTY DEGREES",
   "1FA43 NEUTRAL CHESS KNIGHT ROTATED TWO HUNDRED SEVENTY DEGREES",
   "1FA44 NEUTRAL CHESS PAWN ROTATED TWO HUNDRED SEVENTY DEGREES",
   "1FA45 WHITE CHESS KNIGHT ROTATED THREE HUNDRED FIFTEEN DEGREES",
   "1FA46 BLACK CHESS KNIGHT ROTATED THREE HUNDRED FIFTEEN DEGREES",
   "1FA47 NEUTRAL CHESS KNIGHT ROTATED THREE HUNDRED FIFTEEN DEGREES",
   "1FA48 WHITE CHESS EQUIHOPPER, BLACK CHESS EQUIHOPPER",
   "1FA4A NEUTRAL CHESS EQUIHOPPER, WHITE CHESS EQUIHOPPER ROTATED NINETY DEGREES",
   "1FA4C BLACK CHESS EQUIHOPPER ROTATED NINETY DEGREES",
   "1FA4D NEUTRAL CHESS EQUIHOPPER ROTATED NINETY DEGREES",
   "1FA4E WHITE CHESS: KNIGHT-QUEEN, KNIGHT-ROOK, KNIGHT-BISHOP",
   "1FA51 BLACK CHESS: KNIGHT-QUEEN, KNIGHT-ROOK, KNIGHT-BISHOP",
   "1FA60 XIANGQI RED: GENERAL, MANDARIN, ELEPHANT, HORSE, CHARIOT, CANNON, SOLDIER",
   "1FA67 XIANGQI BLACK: GENERAL, MANDARIN, ELEPHANT, HORSE, CHARIOT, CANNON, SOLDIER",
   "1FA70 BALLET SHOES, ONE-PIECE SWIMSUIT, BRIEFS, SHORTS, THONG SANDAL",
   "1FA78 DROP OF BLOOD, ADHESIVE BANDAGE, STETHOSCOPE, X-RAY, CRUTCH",
   "1FA80 YO-YO, KITE, PARACHUTE, BOOMERANG, MAGIC WAND, PINATA, NESTING DOLLS",
   "1FA90 RINGED PLANET, CHAIR, RAZOR, AXE, DIYA LAMP",
   "1FA95 BANJO, MILITARY HELMET, ACCORDION, LONG DRUM, COIN, CARPENTRY SAW, SCREWDRIVER, LADDER",
   "1FA9D HOOK, MIRROR, WINDOW, PLUNGER, SEWING NEEDLE, KNOT, BUCKET, MOUSE TRAP, TOOTHBRUSH",
   "1FAA6 HEADSTONE, PLACARD, ROCK, MIRROR BALL, IDENTIFICATION CARD, LOW BATTERY, HAMSA",
   "1FAB0 FLY, WORM, BEETLE",
   "1FAB3 COCKROACH, POTTED PLANT, WOOD, FEATHER, LOTUS, CORAL, EMPTY NEST, NEST WITH EGGS",
   "1FAC0 ANATOMICAL HEART",
   "1FAC1 LUNGS, PEOPLE HUGGING, PREGNANT MAN, PREGNANT PERSON, PERSON WITH CROWN",
   "1FAD0 BLUEBERRIES",
   "1FAD1 BELL PEPPER, OLIVE, FLATBREAD, TAMALE, FONDUE, TEAPOT, POURING LIQUID, BEANS, JAR",
   "1FAE0 MELTING FACE, SALUTING FACE",
   "1FAE2 FACE WITH: OPEN EYES AND HAND OVER MOUTH, PEEKING EYE, DIAGONAL MOUTH",
   "1FAE5 DOTTED LINE FACE, BITING LIP, BUBBLES",
   "1FAF0 HAND WITH INDEX FINGER AND THUMB CROSSED, RIGHTWARDS HAND",
   "1FAF2 LEFTWARDS HAND, PALM DOWN HAND, PALM UP HAND, INDEX POINTING AT THE VIEWER, HEART HANDS",
   "1FB00 BLOCK SEXTANT-1",
   "1FB01 BLOCK: SEXTANT-2, SEXTANT-12, SEXTANT-3, SEXTANT-13, SEXTANT-23, SEXTANT-123, SEXTANT-4",
   "1FB08 BLOCK: SEXTANT-14, SEXTANT-24, SEXTANT-124, SEXTANT-34, SEXTANT-134, SEXTANT-234",
   "1FB0E BLOCK: SEXTANT-1234, SEXTANT-5, SEXTANT-15, SEXTANT-25, SEXTANT-125, SEXTANT-35",
   "1FB14 BLOCK: SEXTANT-235, SEXTANT-1235, SEXTANT-45, SEXTANT-145, SEXTANT-245, SEXTANT-1245",
   "1FB1A BLOCK: SEXTANT-345, SEXTANT-1345, SEXTANT-2345, SEXTANT-12345, SEXTANT-6, SEXTANT-16",
   "1FB20 BLOCK: SEXTANT-26, SEXTANT-126, SEXTANT-36, SEXTANT-136, SEXTANT-236, SEXTANT-1236",
   "1FB26 BLOCK: SEXTANT-46, SEXTANT-146, SEXTANT-1246, SEXTANT-346, SEXTANT-1346, SEXTANT-2346",
   "1FB2C BLOCK: SEXTANT-12346, SEXTANT-56, SEXTANT-156, SEXTANT-256, SEXTANT-1256, SEXTANT-356",
   "1FB32 BLOCK: SEXTANT-1356, SEXTANT-2356, SEXTANT-12356, SEXTANT-456, SEXTANT-1456",
   "1FB37 BLOCK: SEXTANT-2456, SEXTANT-12456, SEXTANT-3456, SEXTANT-13456, SEXTANT-23456",
   "1FB3C LOWER LEFT BLOCK DIAGONAL LOWER MIDDLE LEFT TO LOWER: CENTRE, RIGHT",
   "1FB3E LOWER LEFT BLOCK DIAGONAL UPPER MIDDLE LEFT TO LOWER: CENTRE, RIGHT",
   "1FB40 LOWER LEFT BLOCK DIAGONAL UPPER LEFT TO LOWER CENTRE",
   "1FB41 LOWER RIGHT BLOCK DIAGONAL UPPER MIDDLE LEFT TO UPPER: CENTRE, RIGHT",
   "1FB43 LOWER RIGHT BLOCK DIAGONAL LOWER MIDDLE LEFT TO UPPER: CENTRE, RIGHT",
   "1FB45 LOWER RIGHT BLOCK DIAGONAL LOWER LEFT TO UPPER CENTRE",
   "1FB46 LOWER RIGHT BLOCK DIAGONAL LOWER MIDDLE LEFT TO UPPER MIDDLE RIGHT",
   "1FB47 LOWER RIGHT BLOCK DIAGONAL LOWER CENTRE TO LOWER MIDDLE RIGHT",
   "1FB48 LOWER RIGHT BLOCK DIAGONAL LOWER LEFT TO LOWER MIDDLE RIGHT",
   "1FB49 LOWER RIGHT BLOCK DIAGONAL LOWER CENTRE TO UPPER MIDDLE RIGHT",
   "1FB4A LOWER RIGHT BLOCK DIAGONAL LOWER: LEFT TO UPPER MIDDLE RIGHT, CENTRE TO UPPER RIGHT",
   "1FB4C LOWER LEFT BLOCK DIAGONAL UPPER CENTRE TO UPPER MIDDLE RIGHT",
   "1FB4D LOWER LEFT BLOCK DIAGONAL UPPER LEFT TO UPPER MIDDLE RIGHT",
   "1FB4E LOWER LEFT BLOCK DIAGONAL UPPER CENTRE TO LOWER MIDDLE RIGHT",
   "1FB4F LOWER LEFT BLOCK DIAGONAL UPPER: LEFT TO LOWER MIDDLE RIGHT, CENTRE TO LOWER RIGHT",
   "1FB51 LOWER LEFT BLOCK DIAGONAL UPPER MIDDLE LEFT TO LOWER MIDDLE RIGHT",
   "1FB52 UPPER RIGHT BLOCK DIAGONAL LOWER MIDDLE LEFT TO LOWER: CENTRE, RIGHT",
   "1FB54 UPPER RIGHT BLOCK DIAGONAL UPPER MIDDLE LEFT TO LOWER: CENTRE, RIGHT",
   "1FB56 UPPER RIGHT BLOCK DIAGONAL UPPER LEFT TO LOWER CENTRE",
   "1FB57 UPPER LEFT BLOCK DIAGONAL UPPER MIDDLE LEFT TO UPPER: CENTRE, RIGHT",
   "1FB59 UPPER LEFT BLOCK DIAGONAL LOWER MIDDLE LEFT TO UPPER: CENTRE, RIGHT",
   "1FB5B UPPER LEFT BLOCK DIAGONAL LOWER LEFT TO UPPER CENTRE",
   "1FB5C UPPER LEFT BLOCK DIAGONAL LOWER MIDDLE LEFT TO UPPER MIDDLE RIGHT",
   "1FB5D UPPER LEFT BLOCK DIAGONAL LOWER CENTRE TO LOWER MIDDLE RIGHT",
   "1FB5E UPPER LEFT BLOCK DIAGONAL LOWER LEFT TO LOWER MIDDLE RIGHT",
   "1FB5F UPPER LEFT BLOCK DIAGONAL LOWER CENTRE TO UPPER MIDDLE RIGHT",
   "1FB60 UPPER LEFT BLOCK DIAGONAL LOWER: LEFT TO UPPER MIDDLE RIGHT, CENTRE TO UPPER RIGHT",
   "1FB62 UPPER RIGHT BLOCK DIAGONAL UPPER CENTRE TO UPPER MIDDLE RIGHT",
   "1FB63 UPPER RIGHT BLOCK DIAGONAL UPPER LEFT TO UPPER MIDDLE RIGHT",
   "1FB64 UPPER RIGHT BLOCK DIAGONAL UPPER CENTRE TO LOWER MIDDLE RIGHT",
   "1FB65 UPPER RIGHT BLOCK DIAGONAL UPPER: LEFT TO LOWER MIDDLE RIGHT, CENTRE TO LOWER RIGHT",
   "1FB67 UPPER RIGHT BLOCK DIAGONAL UPPER MIDDLE LEFT TO LOWER MIDDLE RIGHT",
   "1FB68 UPPER AND RIGHT AND LOWER TRIANGULAR THREE QUARTERS BLOCK",
   "1FB69 LEFT AND LOWER AND RIGHT TRIANGULAR THREE QUARTERS BLOCK",
   "1FB6A UPPER AND LEFT AND LOWER TRIANGULAR THREE QUARTERS BLOCK",
   "1FB6B LEFT: AND UPPER AND RIGHT TRIANGULAR THREE QUARTERS BLOCK, TRIANGULAR ONE QUARTER BLOCK",
   "1FB6D UPPER TRIANGULAR ONE QUARTER BLOCK",
   "1FB6E RIGHT TRIANGULAR ONE QUARTER BLOCK, LOWER TRIANGULAR ONE QUARTER BLOCK",
   "1FB70 VERTICAL ONE EIGHTH: BLOCK-2, BLOCK-3, BLOCK-4, BLOCK-5, BLOCK-6, BLOCK-7",
   "1FB76 HORIZONTAL ONE EIGHTH: BLOCK-2, BLOCK-3, BLOCK-4, BLOCK-5, BLOCK-6, BLOCK-7",
   "1FB7C LEFT AND: LOWER ONE EIGHTH BLOCK, UPPER ONE EIGHTH BLOCK",
   "1FB7E RIGHT AND: UPPER ONE EIGHTH BLOCK, LOWER ONE EIGHTH BLOCK",
   "1FB80 UPPER AND LOWER ONE EIGHTH BLOCK, HORIZONTAL ONE EIGHTH BLOCK-1358",
   "1FB82 UPPER: ONE QUARTER BLOCK, THREE EIGHTHS BLOCK, FIVE EIGHTHS BLOCK, THREE QUARTERS BLOCK",
   "1FB86 UPPER SEVEN EIGHTHS BLOCK",
   "1FB87 RIGHT: ONE QUARTER BLOCK, THREE EIGHTHS BLOCK, FIVE EIGHTHS BLOCK, THREE QUARTERS BLOCK",
   "1FB8B RIGHT SEVEN EIGHTHS BLOCK, LEFT HALF MEDIUM SHADE",
   "1FB8D RIGHT HALF MEDIUM SHADE, UPPER HALF MEDIUM SHADE, LOWER HALF MEDIUM SHADE",
   "1FB90 INVERSE MEDIUM SHADE, UPPER HALF BLOCK AND LOWER HALF INVERSE MEDIUM SHADE",
   "1FB92 UPPER HALF INVERSE MEDIUM SHADE AND LOWER HALF BLOCK",
   "1FB94 LEFT HALF INVERSE MEDIUM SHADE AND RIGHT HALF BLOCK",
   "1FB95 CHECKER BOARD FILL, INVERSE CHECKER BOARD FILL, HEAVY HORIZONTAL FILL",
   "1FB98 UPPER: LEFT TO LOWER RIGHT FILL, RIGHT TO LOWER LEFT FILL",
   "1FB9A UPPER AND LOWER TRIANGULAR HALF BLOCK, LEFT AND RIGHT TRIANGULAR HALF BLOCK",
   "1FB9C UPPER: LEFT TRIANGULAR MEDIUM SHADE, RIGHT TRIANGULAR MEDIUM SHADE",
   "1FB9E LOWER: RIGHT TRIANGULAR MEDIUM SHADE, LEFT TRIANGULAR MEDIUM SHADE",
   "1FBA0 BOX DRAWINGS LIGHT DIAGONAL UPPER CENTRE TO MIDDLE: LEFT, RIGHT",
   "1FBA2 BOX DRAWINGS LIGHT DIAGONAL MIDDLE: LEFT TO LOWER CENTRE, RIGHT TO LOWER CENTRE",
   "1FBA4 BOX DRAWINGS LIGHT DIAGONAL UPPER CENTRE TO MIDDLE LEFT TO LOWER CENTRE",
   "1FBA5 BOX DRAWINGS LIGHT DIAGONAL UPPER CENTRE TO MIDDLE RIGHT TO LOWER CENTRE",
   "1FBA6 BOX DRAWINGS LIGHT DIAGONAL MIDDLE LEFT TO LOWER CENTRE TO MIDDLE RIGHT",
   "1FBA7 BOX DRAWINGS LIGHT DIAGONAL MIDDLE LEFT TO UPPER CENTRE TO MIDDLE RIGHT",
   "1FBA8 BOX DRAWINGS LIGHT DIAGONAL UPPER CENTRE TO MIDDLE LEFT AND MIDDLE RIGHT TO LOWER CENTRE",
   "1FBA9 BOX DRAWINGS LIGHT DIAGONAL UPPER CENTRE TO MIDDLE RIGHT AND MIDDLE LEFT TO LOWER CENTRE",
   "1FBAA BOX DRAWINGS LIGHT DIAGONAL UPPER CENTRE TO MIDDLE RIGHT TO LOWER CENTRE TO MIDDLE LEFT",
   "1FBAB BOX DRAWINGS LIGHT DIAGONAL UPPER CENTRE TO MIDDLE LEFT TO LOWER CENTRE TO MIDDLE RIGHT",
   "1FBAC BOX DRAWINGS LIGHT DIAGONAL MIDDLE LEFT TO UPPER CENTRE TO MIDDLE RIGHT TO LOWER CENTRE",
   "1FBAD BOX DRAWINGS LIGHT DIAGONAL MIDDLE RIGHT TO UPPER CENTRE TO MIDDLE LEFT TO LOWER CENTRE",
   "1FBAE BOX DRAWINGS LIGHT: DIAGONAL DIAMOND, HORIZONTAL WITH VERTICAL STROKE",
   "1FBB0 ARROWHEAD-SHAPED POINTER, INVERSE CHECK MARK, LEFT HALF RUNNING MAN",
   "1FBB3 RIGHT HALF RUNNING MAN, INVERSE DOWNWARDS ARROW WITH TIP LEFTWARDS",
   "1FBB5 LEFTWARDS ARROW AND UPPER AND LOWER ONE EIGHTH BLOCK",
   "1FBB6 RIGHTWARDS ARROW AND UPPER AND LOWER ONE EIGHTH BLOCK",
   "1FBB7 DOWNWARDS ARROW AND RIGHT ONE EIGHTH BLOCK, UPWARDS ARROW AND RIGHT ONE EIGHTH BLOCK",
   "1FBB9 LEFT HALF FOLDER, RIGHT HALF FOLDER, VOIDED GREEK CROSS, RIGHT OPEN SQUARED DOT",
   "1FBBD NEGATIVE DIAGONAL: CROSS, MIDDLE RIGHT TO LOWER CENTRE, DIAMOND",
   "1FBC0 WHITE HEAVY SALTIRE WITH ROUNDED CORNERS",
   "1FBC1 LEFT THIRD WHITE RIGHT POINTING INDEX, MIDDLE THIRD WHITE RIGHT POINTING INDEX",
   "1FBC3 RIGHT THIRD WHITE RIGHT POINTING INDEX, NEGATIVE SQUARED QUESTION MARK, STICK FIGURE",
   "1FBC6 STICK FIGURE: WITH ARMS RAISED, LEANING LEFT, LEANING RIGHT, WITH DRESS",
   "1FBCA WHITE UP-POINTING CHEVRON",
   "1FBF0 SEGMENTED DIGIT: ZERO, ONE, TWO, THREE, FOUR, FIVE, SIX, SEVEN, EIGHT, NINE",
   "E0001 LANGUAGE TAG",
   "E0020 TAG: SPACE, EXCLAMATION MARK, QUOTATION MARK",
   "E0023 TAG: NUMBER SIGN, DOLLAR SIGN, PERCENT SIGN, AMPERSAND, APOSTROPHE, LEFT PARENTHESIS",
   "E0029 TAG: RIGHT PARENTHESIS, ASTERISK, PLUS SIGN, COMMA, HYPHEN-MINUS, FULL STOP, SOLIDUS",
   "E0030 TAG DIGIT: ZERO, ONE, TWO, THREE, FOUR, FIVE, SIX, SEVEN, EIGHT, NINE",
   "E003A TAG: COLON, SEMICOLON, LESS-THAN SIGN, EQUALS SIGN, GREATER-THAN SIGN, QUESTION MARK",
   "E0040 TAG COMMERCIAL AT",
   "E0041 TAG LATIN CAPITAL LETTER: A, B, C, D, E",
   "E0046 TAG LATIN CAPITAL LETTER: F, G, H, I, J, K, L, M, N, O, P, Q, R, S, T, U, V, W, X, Y, Z",
   "E005B TAG LEFT SQUARE BRACKET",
   "E005C TAG: REVERSE SOLIDUS, RIGHT SQUARE BRACKET, CIRCUMFLEX ACCENT, LOW LINE, GRAVE ACCENT",
   "E0061 TAG LATIN SMALL LETTER: A, B, C, D, E",
   "E0066 TAG LATIN SMALL LETTER: F, G, H, I, J, K, L, M, N, O, P, Q, R, S, T, U, V, W, X, Y, Z",
   "E007B TAG: LEFT CURLY BRACKET, VERTICAL LINE, RIGHT CURLY BRACKET, TILDE",
   "E007F CANCEL TAG",
   "E0100 VARIATION: SELECTOR-17, SELECTOR-18",
   "E0102 VARIATION: SELECTOR-19, SELECTOR-20, SELECTOR-21, SELECTOR-22, SELECTOR-23, SELECTOR-24",
   "E0108 VARIATION: SELECTOR-25, SELECTOR-26, SELECTOR-27, SELECTOR-28, SELECTOR-29, SELECTOR-30",
   "E010E VARIATION: SELECTOR-31, SELECTOR-32, SELECTOR-33, SELECTOR-34, SELECTOR-35, SELECTOR-36",
   "E0114 VARIATION: SELECTOR-37, SELECTOR-38, SELECTOR-39, SELECTOR-40, SELECTOR-41, SELECTOR-42",
   "E011A VARIATION: SELECTOR-43, SELECTOR-44, SELECTOR-45, SELECTOR-46, SELECTOR-47, SELECTOR-48",
   "E0120 VARIATION: SELECTOR-49, SELECTOR-50, SELECTOR-51, SELECTOR-52, SELECTOR-53, SELECTOR-54",
   "E0126 VARIATION: SELECTOR-55, SELECTOR-56, SELECTOR-57, SELECTOR-58, SELECTOR-59, SELECTOR-60",
   "E012C VARIATION: SELECTOR-61, SELECTOR-62, SELECTOR-63, SELECTOR-64, SELECTOR-65, SELECTOR-66",
   "E0132 VARIATION: SELECTOR-67, SELECTOR-68, SELECTOR-69, SELECTOR-70, SELECTOR-71, SELECTOR-72",
   "E0138 VARIATION: SELECTOR-73, SELECTOR-74, SELECTOR-75, SELECTOR-76, SELECTOR-77, SELECTOR-78",
   "E013E VARIATION: SELECTOR-79, SELECTOR-80, SELECTOR-81, SELECTOR-82, SELECTOR-83, SELECTOR-84",
   "E0144 VARIATION: SELECTOR-85, SELECTOR-86, SELECTOR-87, SELECTOR-88, SELECTOR-89, SELECTOR-90",
   "E014A VARIATION: SELECTOR-91, SELECTOR-92, SELECTOR-93, SELECTOR-94, SELECTOR-95, SELECTOR-96",
   "E0150 VARIATION: SELECTOR-97, SELECTOR-98, SELECTOR-99, SELECTOR-100, SELECTOR-101",
   "E0155 VARIATION: SELECTOR-102, SELECTOR-103, SELECTOR-104, SELECTOR-105, SELECTOR-106",
   "E015A VARIATION: SELECTOR-107, SELECTOR-108, SELECTOR-109, SELECTOR-110, SELECTOR-111",
   "E015F VARIATION: SELECTOR-112, SELECTOR-113, SELECTOR-114, SELECTOR-115, SELECTOR-116",
   "E0164 VARIATION: SELECTOR-117, SELECTOR-118, SELECTOR-119, SELECTOR-120, SELECTOR-121",
   "E0169 VARIATION: SELECTOR-122, SELECTOR-123, SELECTOR-124, SELECTOR-125, SELECTOR-126",
   "E016E VARIATION: SELECTOR-127, SELECTOR-128, SELECTOR-129, SELECTOR-130, SELECTOR-131",
   "E0173 VARIATION: SELECTOR-132, SELECTOR-133, SELECTOR-134, SELECTOR-135, SELECTOR-136",
   "E0178 VARIATION: SELECTOR-137, SELECTOR-138, SELECTOR-139, SELECTOR-140, SELECTOR-141",
   "E017D VARIATION: SELECTOR-142, SELECTOR-143, SELECTOR-144, SELECTOR-145, SELECTOR-146",
   "E0182 VARIATION: SELECTOR-147, SELECTOR-148, SELECTOR-149, SELECTOR-150, SELECTOR-151",
   "E0187 VARIATION: SELECTOR-152, SELECTOR-153, SELECTOR-154, SELECTOR-155, SELECTOR-156",
   "E018C VARIATION: SELECTOR-157, SELECTOR-158, SELECTOR-159, SELECTOR-160, SELECTOR-161",
   "E0191 VARIATION: SELECTOR-162, SELECTOR-163, SELECTOR-164, SELECTOR-165, SELECTOR-166",
   "E0196 VARIATION: SELECTOR-167, SELECTOR-168, SELECTOR-169, SELECTOR-170, SELECTOR-171",
   "E019B VARIATION: SELECTOR-172, SELECTOR-173, SELECTOR-174, SELECTOR-175, SELECTOR-176",
   "E01A0 VARIATION: SELECTOR-177, SELECTOR-178, SELECTOR-179, SELECTOR-180, SELECTOR-181",
   "E01A5 VARIATION: SELECTOR-182, SELECTOR-183, SELECTOR-184, SELECTOR-185, SELECTOR-186",
   "E01AA VARIATION: SELECTOR-187, SELECTOR-188, SELECTOR-189, SELECTOR-190, SELECTOR-191",
   "E01AF VARIATION: SELECTOR-192, SELECTOR-193, SELECTOR-194, SELECTOR-195, SELECTOR-196",
   "E01B4 VARIATION: SELECTOR-197, SELECTOR-198, SELECTOR-199, SELECTOR-200, SELECTOR-201",
   "E01B9 VARIATION: SELECTOR-202, SELECTOR-203, SELECTOR-204, SELECTOR-205, SELECTOR-206",
   "E01BE VARIATION: SELECTOR-207, SELECTOR-208, SELECTOR-209, SELECTOR-210, SELECTOR-211",
   "E01C3 VARIATION: SELECTOR-212, SELECTOR-213, SELECTOR-214, SELECTOR-215, SELECTOR-216",
   "E01C8 VARIATION: SELECTOR-217, SELECTOR-218, SELECTOR-219, SELECTOR-220, SELECTOR-221",
   "E01CD VARIATION: SELECTOR-222, SELECTOR-223, SELECTOR-224, SELECTOR-225, SELECTOR-226",
   "E01D2 VARIATION: SELECTOR-227, SELECTOR-228, SELECTOR-229, SELECTOR-230, SELECTOR-231",
   "E01D7 VARIATION: SELECTOR-232, SELECTOR-233, SELECTOR-234, SELECTOR-235, SELECTOR-236",
   "E01DC VARIATION: SELECTOR-237, SELECTOR-238, SELECTOR-239, SELECTOR-240, SELECTOR-241",
   "E01E1 VARIATION: SELECTOR-242, SELECTOR-243, SELECTOR-244, SELECTOR-245, SELECTOR-246",
   "E01E6 VARIATION: SELECTOR-247, SELECTOR-248, SELECTOR-249, SELECTOR-250, SELECTOR-251",
   "E01EB VARIATION: SELECTOR-252, SELECTOR-253, SELECTOR-254, SELECTOR-255, SELECTOR-256"]

end Codegen.Text.CharName
