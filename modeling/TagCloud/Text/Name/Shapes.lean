import TagCloud.Text.Name.Run

/-!
# Shapes

The names of boxes, dots, ornaments and further arrows and operators, with the scripts that stand
between them.
-/

namespace TagCloud.Text

/-- The names of the characters from U+2500 to U+2E7F. -/
def shapeNames : List NameRun :=
  [ ⟨0x2500, "BOX DRAWINGS ", ["LIGHT HORIZONTAL;HEAVY HORIZONTAL;LIGHT VERTICAL;HEAVY VERTICAL",
      "LIGHT TRIPLE DASH HORIZONTAL;HEAVY TRIPLE DASH HORIZONTAL;LIGHT TRIPLE DASH VERTICAL",
      "HEAVY TRIPLE DASH VERTICAL;LIGHT QUADRUPLE DASH HORIZONTAL;HEAVY QUADRUPLE DASH HORIZONTAL",
      "LIGHT QUADRUPLE DASH VERTICAL;HEAVY QUADRUPLE DASH VERTICAL;LIGHT DOWN AND RIGHT",
      "DOWN LIGHT AND RIGHT HEAVY;DOWN HEAVY AND RIGHT LIGHT;HEAVY DOWN AND RIGHT",
      "LIGHT DOWN AND LEFT;DOWN LIGHT AND LEFT HEAVY;DOWN HEAVY AND LEFT LIGHT",
      "HEAVY DOWN AND LEFT;LIGHT UP AND RIGHT;UP LIGHT AND RIGHT HEAVY;UP HEAVY AND RIGHT LIGHT",
      "HEAVY UP AND RIGHT;LIGHT UP AND LEFT;UP LIGHT AND LEFT HEAVY;UP HEAVY AND LEFT LIGHT",
      "HEAVY UP AND LEFT;LIGHT VERTICAL AND RIGHT;VERTICAL LIGHT AND RIGHT HEAVY",
      "UP HEAVY AND RIGHT DOWN LIGHT;DOWN HEAVY AND RIGHT UP LIGHT;VERTICAL HEAVY AND RIGHT LIGHT",
      "DOWN LIGHT AND RIGHT UP HEAVY;UP LIGHT AND RIGHT DOWN HEAVY;HEAVY VERTICAL AND RIGHT",
      "LIGHT VERTICAL AND LEFT;VERTICAL LIGHT AND LEFT HEAVY;UP HEAVY AND LEFT DOWN LIGHT",
      "DOWN HEAVY AND LEFT UP LIGHT;VERTICAL HEAVY AND LEFT LIGHT;DOWN LIGHT AND LEFT UP HEAVY",
      "UP LIGHT AND LEFT DOWN HEAVY;HEAVY VERTICAL AND LEFT;LIGHT DOWN AND HORIZONTAL",
      "LEFT HEAVY AND RIGHT DOWN LIGHT;RIGHT HEAVY AND LEFT DOWN LIGHT",
      "DOWN LIGHT AND HORIZONTAL HEAVY;DOWN HEAVY AND HORIZONTAL LIGHT",
      "RIGHT LIGHT AND LEFT DOWN HEAVY;LEFT LIGHT AND RIGHT DOWN HEAVY;HEAVY DOWN AND HORIZONTAL",
      "LIGHT UP AND HORIZONTAL;LEFT HEAVY AND RIGHT UP LIGHT;RIGHT HEAVY AND LEFT UP LIGHT",
      "UP LIGHT AND HORIZONTAL HEAVY;UP HEAVY AND HORIZONTAL LIGHT;RIGHT LIGHT AND LEFT UP HEAVY",
      "LEFT LIGHT AND RIGHT UP HEAVY;HEAVY UP AND HORIZONTAL;LIGHT VERTICAL AND HORIZONTAL",
      "LEFT HEAVY AND RIGHT VERTICAL LIGHT;RIGHT HEAVY AND LEFT VERTICAL LIGHT",
      "VERTICAL LIGHT AND HORIZONTAL HEAVY;UP HEAVY AND DOWN HORIZONTAL LIGHT",
      "DOWN HEAVY AND UP HORIZONTAL LIGHT;VERTICAL HEAVY AND HORIZONTAL LIGHT",
      "LEFT UP HEAVY AND RIGHT DOWN LIGHT;RIGHT UP HEAVY AND LEFT DOWN LIGHT",
      "LEFT DOWN HEAVY AND RIGHT UP LIGHT;RIGHT DOWN HEAVY AND LEFT UP LIGHT",
      "DOWN LIGHT AND UP HORIZONTAL HEAVY;UP LIGHT AND DOWN HORIZONTAL HEAVY",
      "RIGHT LIGHT AND LEFT VERTICAL HEAVY;LEFT LIGHT AND RIGHT VERTICAL HEAVY",
      "HEAVY VERTICAL AND HORIZONTAL;LIGHT DOUBLE DASH HORIZONTAL;HEAVY DOUBLE DASH HORIZONTAL",
      "LIGHT DOUBLE DASH VERTICAL;HEAVY DOUBLE DASH VERTICAL;DOUBLE HORIZONTAL;DOUBLE VERTICAL",
      "DOWN SINGLE AND RIGHT DOUBLE;DOWN DOUBLE AND RIGHT SINGLE;DOUBLE DOWN AND RIGHT",
      "DOWN SINGLE AND LEFT DOUBLE;DOWN DOUBLE AND LEFT SINGLE;DOUBLE DOWN AND LEFT",
      "UP SINGLE AND RIGHT DOUBLE;UP DOUBLE AND RIGHT SINGLE;DOUBLE UP AND RIGHT",
      "UP SINGLE AND LEFT DOUBLE;UP DOUBLE AND LEFT SINGLE;DOUBLE UP AND LEFT",
      "VERTICAL SINGLE AND RIGHT DOUBLE;VERTICAL DOUBLE AND RIGHT SINGLE",
      "DOUBLE VERTICAL AND RIGHT;VERTICAL SINGLE AND LEFT DOUBLE;VERTICAL DOUBLE AND LEFT SINGLE",
      "DOUBLE VERTICAL AND LEFT;DOWN SINGLE AND HORIZONTAL DOUBLE",
      "DOWN DOUBLE AND HORIZONTAL SINGLE;DOUBLE DOWN AND HORIZONTAL",
      "UP SINGLE AND HORIZONTAL DOUBLE;UP DOUBLE AND HORIZONTAL SINGLE;DOUBLE UP AND HORIZONTAL",
      "VERTICAL SINGLE AND HORIZONTAL DOUBLE;VERTICAL DOUBLE AND HORIZONTAL SINGLE",
      "DOUBLE VERTICAL AND HORIZONTAL"]⟩,
    ⟨0x256D, "BOX DRAWINGS LIGHT ", ["ARC DOWN AND RIGHT;ARC DOWN AND LEFT;ARC UP AND LEFT",
      "ARC UP AND RIGHT;DIAGONAL UPPER RIGHT TO LOWER LEFT;DIAGONAL UPPER LEFT TO LOWER RIGHT",
      "DIAGONAL CROSS;LEFT;UP;RIGHT;DOWN"]⟩,
    ⟨0x2578, "BOX DRAWINGS ", ["HEAVY LEFT;HEAVY UP;HEAVY RIGHT;HEAVY DOWN",
      "LIGHT LEFT AND HEAVY RIGHT;LIGHT UP AND HEAVY DOWN;HEAVY LEFT AND LIGHT RIGHT",
      "HEAVY UP AND LIGHT DOWN"]⟩, ⟨0x2580, "UPPER HALF ", ["BLOCK"]⟩,
    ⟨0x2581, "LOWER ", ["ONE EIGHTH BLOCK;ONE QUARTER BLOCK;THREE EIGHTHS BLOCK;HALF BLOCK",
      "FIVE EIGHTHS BLOCK;THREE QUARTERS BLOCK;SEVEN EIGHTHS BLOCK"]⟩,
    ⟨0x2588, "FULL ", ["BLOCK"]⟩,
    ⟨0x2589, "LEFT ", ["SEVEN EIGHTHS BLOCK;THREE QUARTERS BLOCK;FIVE EIGHTHS BLOCK;HALF BLOCK",
      "THREE EIGHTHS BLOCK;ONE QUARTER BLOCK;ONE EIGHTH BLOCK"]⟩,
    ⟨0x2590, "", ["RIGHT HALF BLOCK;LIGHT SHADE"]⟩, ⟨0x2592, "", ["MEDIUM SHADE;DARK SHADE"]⟩,
    ⟨0x2594, "", ["UPPER ONE EIGHTH BLOCK;RIGHT ONE EIGHTH BLOCK"]⟩,
    ⟨0x2596, "QUADRANT LOWER ", ["LEFT;RIGHT"]⟩,
    ⟨0x2598, "QUADRANT UPPER ", ["LEFT;LEFT AND LOWER LEFT AND LOWER RIGHT;LEFT AND LOWER RIGHT",
      "LEFT AND UPPER RIGHT AND LOWER LEFT;LEFT AND UPPER RIGHT AND LOWER RIGHT;RIGHT",
      "RIGHT AND LOWER LEFT;RIGHT AND LOWER LEFT AND LOWER RIGHT"]⟩,
    ⟨0x25A0, "", ["BLACK SQUARE;WHITE SQUARE"]⟩,
    ⟨0x25A2, "WHITE SQUARE ", ["WITH ROUNDED CORNERS;CONTAINING BLACK SMALL SQUARE"]⟩,
    ⟨0x25A4, "SQUARE WITH ", ["HORIZONTAL FILL;VERTICAL FILL;ORTHOGONAL CROSSHATCH FILL",
      "UPPER LEFT TO LOWER RIGHT FILL;UPPER RIGHT TO LOWER LEFT FILL;DIAGONAL CROSSHATCH FILL"]⟩,
    ⟨0x25AA, "BLACK SMALL ", ["SQUARE"]⟩, ⟨0x25AB, "", ["WHITE SMALL SQUARE;BLACK RECTANGLE"]⟩,
    ⟨0x25AD, "", ["WHITE RECTANGLE;BLACK VERTICAL RECTANGLE"]⟩,
    ⟨0x25AF, "", ["WHITE VERTICAL RECTANGLE;BLACK PARALLELOGRAM"]⟩,
    ⟨0x25B1, "", ["WHITE PARALLELOGRAM;BLACK UP-POINTING TRIANGLE"]⟩,
    ⟨0x25B3, "", ["WHITE UP-POINTING TRIANGLE;BLACK UP-POINTING SMALL TRIANGLE"]⟩,
    ⟨0x25B5, "", ["WHITE UP-POINTING SMALL TRIANGLE;BLACK RIGHT-POINTING TRIANGLE"]⟩,
    ⟨0x25B7, "", ["WHITE RIGHT-POINTING TRIANGLE;BLACK RIGHT-POINTING SMALL TRIANGLE"]⟩,
    ⟨0x25B9, "", ["WHITE RIGHT-POINTING SMALL TRIANGLE;BLACK RIGHT-POINTING POINTER"]⟩,
    ⟨0x25BB, "", ["WHITE RIGHT-POINTING POINTER;BLACK DOWN-POINTING TRIANGLE"]⟩,
    ⟨0x25BD, "", ["WHITE DOWN-POINTING TRIANGLE;BLACK DOWN-POINTING SMALL TRIANGLE"]⟩,
    ⟨0x25BF, "", ["WHITE DOWN-POINTING SMALL TRIANGLE;BLACK LEFT-POINTING TRIANGLE"]⟩,
    ⟨0x25C1, "", ["WHITE LEFT-POINTING TRIANGLE;BLACK LEFT-POINTING SMALL TRIANGLE"]⟩,
    ⟨0x25C3, "", ["WHITE LEFT-POINTING SMALL TRIANGLE;BLACK LEFT-POINTING POINTER"]⟩,
    ⟨0x25C5, "", ["WHITE LEFT-POINTING POINTER;BLACK DIAMOND"]⟩,
    ⟨0x25C7, "", ["WHITE DIAMOND;WHITE DIAMOND CONTAINING BLACK SMALL DIAMOND;FISHEYE"]⟩,
    ⟨0x25CA, "", ["LOZENGE;WHITE CIRCLE"]⟩,
    ⟨0x25CC, "", ["DOTTED CIRCLE;CIRCLE WITH VERTICAL FILL"]⟩,
    ⟨0x25CE, "", ["BULLSEYE;BLACK CIRCLE"]⟩,
    ⟨0x25D0, "CIRCLE WITH ", ["LEFT HALF BLACK;RIGHT HALF BLACK;LOWER HALF BLACK;UPPER HALF BLACK",
      "UPPER RIGHT QUADRANT BLACK;ALL BUT UPPER LEFT QUADRANT BLACK"]⟩,
    ⟨0x25D6, "", ["LEFT HALF BLACK CIRCLE;RIGHT HALF BLACK CIRCLE"]⟩,
    ⟨0x25D8, "INVERSE ", ["BULLET;WHITE CIRCLE"]⟩,
    ⟨0x25DA, "", ["UPPER HALF INVERSE WHITE CIRCLE;LOWER HALF INVERSE WHITE CIRCLE"]⟩,
    ⟨0x25DC, "UPPER ", ["LEFT QUADRANT CIRCULAR ARC;RIGHT QUADRANT CIRCULAR ARC"]⟩,
    ⟨0x25DE, "LOWER ", ["RIGHT QUADRANT CIRCULAR ARC;LEFT QUADRANT CIRCULAR ARC"]⟩,
    ⟨0x25E0, "", ["UPPER HALF CIRCLE;LOWER HALF CIRCLE"]⟩,
    ⟨0x25E2, "BLACK ", ["LOWER RIGHT TRIANGLE;LOWER LEFT TRIANGLE;UPPER LEFT TRIANGLE",
      "UPPER RIGHT TRIANGLE"]⟩, ⟨0x25E6, "WHITE ", ["BULLET"]⟩,
    ⟨0x25E7, "SQUARE WITH ", ["LEFT HALF BLACK;RIGHT HALF BLACK;UPPER LEFT DIAGONAL HALF BLACK",
      "LOWER RIGHT DIAGONAL HALF BLACK"]⟩,
    ⟨0x25EB, "WHITE ", ["SQUARE WITH VERTICAL BISECTING LINE;UP-POINTING TRIANGLE WITH DOT"]⟩,
    ⟨0x25ED, "UP-POINTING TRIANGLE WITH ", ["LEFT HALF BLACK;RIGHT HALF BLACK"]⟩,
    ⟨0x25EF, "LARGE ", ["CIRCLE"]⟩,
    ⟨0x25F0, "WHITE SQUARE WITH ", ["UPPER LEFT QUADRANT;LOWER LEFT QUADRANT;LOWER RIGHT QUADRANT",
      "UPPER RIGHT QUADRANT"]⟩,
    ⟨0x25F4, "WHITE CIRCLE WITH ", ["UPPER LEFT QUADRANT;LOWER LEFT QUADRANT;LOWER RIGHT QUADRANT",
      "UPPER RIGHT QUADRANT"]⟩, ⟨0x25F8, "UPPER ", ["LEFT TRIANGLE;RIGHT TRIANGLE"]⟩,
    ⟨0x25FA, "", ["LOWER LEFT TRIANGLE;WHITE MEDIUM SQUARE"]⟩,
    ⟨0x25FC, "", ["BLACK MEDIUM SQUARE;WHITE MEDIUM SMALL SQUARE"]⟩,
    ⟨0x25FE, "", ["BLACK MEDIUM SMALL SQUARE;LOWER RIGHT TRIANGLE"]⟩,
    ⟨0x2600, "", ["BLACK SUN WITH RAYS;CLOUD"]⟩, ⟨0x2602, "", ["UMBRELLA;SNOWMAN"]⟩,
    ⟨0x2604, "", ["COMET;BLACK STAR"]⟩, ⟨0x2606, "", ["WHITE STAR;LIGHTNING"]⟩,
    ⟨0x2608, "", ["THUNDERSTORM;SUN"]⟩, ⟨0x260A, "", ["ASCENDING NODE;DESCENDING NODE"]⟩,
    ⟨0x260C, "", ["CONJUNCTION;OPPOSITION"]⟩, ⟨0x260E, "", ["BLACK TELEPHONE;WHITE TELEPHONE"]⟩,
    ⟨0x2610, "", ["BALLOT BOX;BALLOT BOX WITH CHECK;BALLOT BOX WITH X;SALTIRE"]⟩,
    ⟨0x2614, "", ["UMBRELLA WITH RAIN DROPS;HOT BEVERAGE"]⟩,
    ⟨0x2616, "", ["WHITE SHOGI PIECE;BLACK SHOGI PIECE"]⟩,
    ⟨0x2618, "", ["SHAMROCK;REVERSED ROTATED FLORAL HEART BULLET"]⟩,
    ⟨0x261A, "BLACK ", ["LEFT POINTING INDEX;RIGHT POINTING INDEX"]⟩,
    ⟨0x261C, "WHITE ", ["LEFT POINTING INDEX;UP POINTING INDEX;RIGHT POINTING INDEX",
      "DOWN POINTING INDEX"]⟩, ⟨0x2620, "", ["SKULL AND CROSSBONES;CAUTION SIGN"]⟩,
    ⟨0x2622, "", ["RADIOACTIVE SIGN;BIOHAZARD SIGN"]⟩, ⟨0x2624, "", ["CADUCEUS;ANKH"]⟩,
    ⟨0x2626, "", ["ORTHODOX CROSS;CHI RHO"]⟩, ⟨0x2628, "CROSS OF ", ["LORRAINE;JERUSALEM"]⟩,
    ⟨0x262A, "", ["STAR AND CRESCENT;FARSI SYMBOL"]⟩,
    ⟨0x262C, "", ["ADI SHAKTI;HAMMER AND SICKLE"]⟩, ⟨0x262E, "", ["PEACE SYMBOL;YIN YANG"]⟩,
    ⟨0x2630, "TRIGRAM FOR ", ["HEAVEN;LAKE;FIRE;THUNDER;WIND;WATER;MOUNTAIN;EARTH"]⟩,
    ⟨0x2638, "", ["WHEEL OF DHARMA;WHITE FROWNING FACE;WHITE SMILING FACE"]⟩,
    ⟨0x263B, "", ["BLACK SMILING FACE;WHITE SUN WITH RAYS"]⟩,
    ⟨0x263D, "", ["FIRST QUARTER MOON;LAST QUARTER MOON"]⟩, ⟨0x263F, "", ["MERCURY;FEMALE SIGN"]⟩,
    ⟨0x2641, "", ["EARTH;MALE SIGN"]⟩, ⟨0x2643, "", ["JUPITER;SATURN"]⟩,
    ⟨0x2645, "", ["URANUS;NEPTUNE"]⟩, ⟨0x2647, "", ["PLUTO;ARIES"]⟩,
    ⟨0x2649, "", ["TAURUS;GEMINI"]⟩, ⟨0x264B, "", ["CANCER;LEO"]⟩, ⟨0x264D, "", ["VIRGO;LIBRA"]⟩,
    ⟨0x264F, "", ["SCORPIUS;SAGITTARIUS;CAPRICORN"]⟩, ⟨0x2652, "", ["AQUARIUS;PISCES"]⟩,
    ⟨0x2654, "WHITE CHESS ", ["KING;QUEEN;ROOK;BISHOP;KNIGHT;PAWN"]⟩,
    ⟨0x265A, "BLACK CHESS ", ["KING;QUEEN;ROOK;BISHOP;KNIGHT;PAWN"]⟩,
    ⟨0x2660, "BLACK SPADE ", ["SUIT"]⟩, ⟨0x2661, "WHITE ", ["HEART SUIT;DIAMOND SUIT"]⟩,
    ⟨0x2663, "", ["BLACK CLUB SUIT;WHITE SPADE SUIT"]⟩,
    ⟨0x2665, "BLACK ", ["HEART SUIT;DIAMOND SUIT"]⟩, ⟨0x2667, "", ["WHITE CLUB SUIT;HOT SPRINGS"]⟩,
    ⟨0x2669, "", ["QUARTER NOTE;EIGHTH NOTE"]⟩,
    ⟨0x266B, "BEAMED ", ["EIGHTH NOTES;SIXTEENTH NOTES"]⟩,
    ⟨0x266D, "", ["MUSIC FLAT SIGN;MUSIC NATURAL SIGN;MUSIC SHARP SIGN;WEST SYRIAC CROSS"]⟩,
    ⟨0x2671, "", ["EAST SYRIAC CROSS;UNIVERSAL RECYCLING SYMBOL"]⟩,
    ⟨0x2673, "RECYCLING SYMBOL FOR ", ["TYPE-1 PLASTICS;TYPE-2 PLASTICS;TYPE-3 PLASTICS",
      "TYPE-4 PLASTICS;TYPE-5 PLASTICS;TYPE-6 PLASTICS;TYPE-7 PLASTICS;GENERIC MATERIALS"]⟩,
    ⟨0x267B, "", ["BLACK UNIVERSAL RECYCLING SYMBOL;RECYCLED PAPER SYMBOL"]⟩,
    ⟨0x267D, "", ["PARTIALLY-RECYCLED PAPER SYMBOL;PERMANENT PAPER SIGN;WHEELCHAIR SYMBOL"]⟩,
    ⟨0x2680, "DIE FACE-", ["1;2;3;4;5;6"]⟩, ⟨0x2686, "WHITE CIRCLE WITH ", ["DOT RIGHT;TWO DOTS"]⟩,
    ⟨0x2688, "BLACK CIRCLE WITH ", ["WHITE DOT RIGHT;TWO WHITE DOTS"]⟩,
    ⟨0x268A, "MONOGRAM FOR ", ["YANG;YIN"]⟩,
    ⟨0x268C, "DIGRAM FOR ", ["GREATER YANG;LESSER YIN;LESSER YANG;GREATER YIN"]⟩,
    ⟨0x2690, "WHITE ", ["FLAG"]⟩, ⟨0x2691, "", ["BLACK FLAG;HAMMER AND PICK"]⟩,
    ⟨0x2693, "", ["ANCHOR;CROSSED SWORDS"]⟩, ⟨0x2695, "", ["STAFF OF AESCULAPIUS;SCALES;ALEMBIC"]⟩,
    ⟨0x2698, "", ["FLOWER;GEAR"]⟩, ⟨0x269A, "", ["STAFF OF HERMES;ATOM SYMBOL"]⟩,
    ⟨0x269C, "", ["FLEUR-DE-LIS;OUTLINED WHITE STAR"]⟩,
    ⟨0x269E, "THREE LINES CONVERGING ", ["RIGHT;LEFT"]⟩,
    ⟨0x26A0, "", ["WARNING SIGN;HIGH VOLTAGE SIGN"]⟩,
    ⟨0x26A2, "", ["DOUBLED FEMALE SIGN;DOUBLED MALE SIGN;INTERLOCKED FEMALE AND MALE SIGN"]⟩,
    ⟨0x26A5, "MALE ", ["AND FEMALE SIGN;WITH STROKE SIGN;WITH STROKE AND MALE AND FEMALE SIGN"]⟩,
    ⟨0x26A8, "", ["VERTICAL MALE WITH STROKE SIGN;HORIZONTAL MALE WITH STROKE SIGN"]⟩,
    ⟨0x26AA, "", ["MEDIUM WHITE CIRCLE;MEDIUM BLACK CIRCLE;MEDIUM SMALL WHITE CIRCLE",
      "MARRIAGE SYMBOL;DIVORCE SYMBOL"]⟩, ⟨0x26AF, "", ["UNMARRIED PARTNERSHIP SYMBOL;COFFIN"]⟩,
    ⟨0x26B1, "", ["FUNERAL URN;NEUTER"]⟩, ⟨0x26B3, "", ["CERES;PALLAS"]⟩,
    ⟨0x26B5, "", ["JUNO;VESTA"]⟩, ⟨0x26B7, "", ["CHIRON;BLACK MOON LILITH"]⟩,
    ⟨0x26B9, "", ["SEXTILE;SEMISEXTILE;QUINCUNX"]⟩, ⟨0x26BC, "", ["SESQUIQUADRATE;SOCCER BALL"]⟩,
    ⟨0x26BE, "", ["BASEBALL;SQUARED KEY"]⟩, ⟨0x26C0, "WHITE DRAUGHTS ", ["MAN;KING"]⟩,
    ⟨0x26C2, "BLACK DRAUGHTS ", ["MAN;KING"]⟩,
    ⟨0x26C4, "", ["SNOWMAN WITHOUT SNOW;SUN BEHIND CLOUD"]⟩, ⟨0x26C6, "", ["RAIN;BLACK SNOWMAN"]⟩,
    ⟨0x26C8, "", ["THUNDER CLOUD AND RAIN;TURNED WHITE SHOGI PIECE;TURNED BLACK SHOGI PIECE",
      "WHITE DIAMOND IN SQUARE"]⟩, ⟨0x26CC, "", ["CROSSING LANES;DISABLED CAR"]⟩,
    ⟨0x26CE, "", ["OPHIUCHUS;PICK"]⟩, ⟨0x26D0, "", ["CAR SLIDING;HELMET WITH WHITE CROSS"]⟩,
    ⟨0x26D2, "", ["CIRCLED CROSSING LANES;CHAINS"]⟩,
    ⟨0x26D4, "", ["NO ENTRY;ALTERNATE ONE-WAY LEFT WAY TRAFFIC"]⟩,
    ⟨0x26D6, "", ["BLACK TWO-WAY LEFT WAY TRAFFIC;WHITE TWO-WAY LEFT WAY TRAFFIC"]⟩,
    ⟨0x26D8, "", ["BLACK LEFT LANE MERGE;WHITE LEFT LANE MERGE"]⟩,
    ⟨0x26DA, "", ["DRIVE SLOW SIGN;HEAVY WHITE DOWN-POINTING TRIANGLE"]⟩,
    ⟨0x26DC, "", ["LEFT CLOSED ENTRY;SQUARED SALTIRE"]⟩,
    ⟨0x26DE, "", ["FALLING DIAGONAL IN WHITE CIRCLE IN BLACK SQUARE;BLACK TRUCK"]⟩,
    ⟨0x26E0, "RESTRICTED LEFT ENTRY-", ["1;2"]⟩,
    ⟨0x26E2, "", ["ASTRONOMICAL SYMBOL FOR URANUS;HEAVY CIRCLE WITH STROKE AND TWO DOTS ABOVE"]⟩,
    ⟨0x26E4, "", ["PENTAGRAM;RIGHT-HANDED INTERLACED PENTAGRAM"]⟩,
    ⟨0x26E6, "", ["LEFT-HANDED INTERLACED PENTAGRAM;INVERTED PENTAGRAM"]⟩,
    ⟨0x26E8, "", ["BLACK CROSS ON SHIELD;SHINTO SHRINE"]⟩,
    ⟨0x26EA, "", ["CHURCH;CASTLE;HISTORIC SITE"]⟩, ⟨0x26ED, "GEAR ", ["WITHOUT HUB;WITH HANDLES"]⟩,
    ⟨0x26EF, "", ["MAP SYMBOL FOR LIGHTHOUSE;MOUNTAIN;UMBRELLA ON GROUND"]⟩,
    ⟨0x26F2, "", ["FOUNTAIN;FLAG IN HOLE;FERRY"]⟩,
    ⟨0x26F5, "", ["SAILBOAT;SQUARE FOUR CORNERS;SKIER"]⟩,
    ⟨0x26F8, "", ["ICE SKATE;PERSON WITH BALL"]⟩, ⟨0x26FA, "", ["TENT;JAPANESE BANK SYMBOL"]⟩,
    ⟨0x26FC, "", ["HEADSTONE GRAVEYARD SYMBOL;FUEL PUMP"]⟩,
    ⟨0x26FE, "", ["CUP ON BLACK SQUARE;WHITE FLAG WITH HORIZONTAL MIDDLE BLACK STRIPE"]⟩,
    ⟨0x2700, "", ["BLACK SAFETY SCISSORS;UPPER BLADE SCISSORS"]⟩,
    ⟨0x2702, "", ["BLACK SCISSORS;LOWER BLADE SCISSORS"]⟩,
    ⟨0x2704, "WHITE ", ["SCISSORS;HEAVY CHECK MARK"]⟩,
    ⟨0x2706, "", ["TELEPHONE LOCATION SIGN;TAPE DRIVE"]⟩, ⟨0x2708, "", ["AIRPLANE;ENVELOPE"]⟩,
    ⟨0x270A, "RAISED ", ["FIST;HAND"]⟩, ⟨0x270C, "", ["VICTORY HAND;WRITING HAND"]⟩,
    ⟨0x270E, "", ["LOWER RIGHT PENCIL;PENCIL"]⟩, ⟨0x2710, "", ["UPPER RIGHT PENCIL;WHITE NIB"]⟩,
    ⟨0x2712, "", ["BLACK NIB;CHECK MARK"]⟩, ⟨0x2714, "", ["HEAVY CHECK MARK;MULTIPLICATION X"]⟩,
    ⟨0x2716, "", ["HEAVY MULTIPLICATION X;BALLOT X"]⟩,
    ⟨0x2718, "", ["HEAVY BALLOT X;OUTLINED GREEK CROSS"]⟩,
    ⟨0x271A, "", ["HEAVY GREEK CROSS;OPEN CENTRE CROSS"]⟩,
    ⟨0x271C, "", ["HEAVY OPEN CENTRE CROSS;LATIN CROSS"]⟩,
    ⟨0x271E, "", ["SHADOWED WHITE LATIN CROSS;OUTLINED LATIN CROSS"]⟩,
    ⟨0x2720, "", ["MALTESE CROSS;STAR OF DAVID"]⟩,
    ⟨0x2722, "FOUR ", ["TEARDROP-SPOKED ASTERISK;BALLOON-SPOKED ASTERISK"]⟩,
    ⟨0x2724, "", ["HEAVY FOUR BALLOON-SPOKED ASTERISK;FOUR CLUB-SPOKED ASTERISK"]⟩,
    ⟨0x2726, "", ["BLACK FOUR POINTED STAR;WHITE FOUR POINTED STAR"]⟩,
    ⟨0x2728, "", ["SPARKLES;STRESS OUTLINED WHITE STAR;CIRCLED WHITE STAR"]⟩,
    ⟨0x272B, "", ["OPEN CENTRE BLACK STAR;BLACK CENTRE WHITE STAR"]⟩,
    ⟨0x272D, "", ["OUTLINED BLACK STAR;HEAVY OUTLINED BLACK STAR"]⟩,
    ⟨0x272F, "", ["PINWHEEL STAR;SHADOWED WHITE STAR"]⟩,
    ⟨0x2731, "", ["HEAVY ASTERISK;OPEN CENTRE ASTERISK"]⟩,
    ⟨0x2733, "EIGHT ", ["SPOKED ASTERISK;POINTED BLACK STAR;POINTED PINWHEEL STAR"]⟩,
    ⟨0x2736, "", ["SIX POINTED BLACK STAR;EIGHT POINTED RECTILINEAR BLACK STAR"]⟩,
    ⟨0x2738, "", ["HEAVY EIGHT POINTED RECTILINEAR BLACK STAR;TWELVE POINTED BLACK STAR"]⟩,
    ⟨0x273A, "", ["SIXTEEN POINTED ASTERISK;TEARDROP-SPOKED ASTERISK"]⟩,
    ⟨0x273C, "", ["OPEN CENTRE TEARDROP-SPOKED ASTERISK;HEAVY TEARDROP-SPOKED ASTERISK"]⟩,
    ⟨0x273E, "", ["SIX PETALLED BLACK AND WHITE FLORETTE;BLACK FLORETTE"]⟩,
    ⟨0x2740, "", ["WHITE FLORETTE;EIGHT PETALLED OUTLINED BLACK FLORETTE"]⟩,
    ⟨0x2742, "", ["CIRCLED OPEN CENTRE EIGHT POINTED STAR",
      "HEAVY TEARDROP-SPOKED PINWHEEL ASTERISK"]⟩,
    ⟨0x2744, "", ["SNOWFLAKE;TIGHT TRIFOLIATE SNOWFLAKE"]⟩,
    ⟨0x2746, "", ["HEAVY CHEVRON SNOWFLAKE;SPARKLE"]⟩,
    ⟨0x2748, "", ["HEAVY SPARKLE;BALLOON-SPOKED ASTERISK"]⟩,
    ⟨0x274A, "", ["EIGHT TEARDROP-SPOKED PROPELLER ASTERISK",
      "HEAVY EIGHT TEARDROP-SPOKED PROPELLER ASTERISK"]⟩,
    ⟨0x274C, "", ["CROSS MARK;SHADOWED WHITE CIRCLE"]⟩,
    ⟨0x274E, "", ["NEGATIVE SQUARED CROSS MARK;LOWER RIGHT DROP-SHADOWED WHITE SQUARE"]⟩,
    ⟨0x2750, "", ["UPPER RIGHT DROP-SHADOWED WHITE SQUARE;LOWER RIGHT SHADOWED WHITE SQUARE"]⟩,
    ⟨0x2752, "", ["UPPER RIGHT SHADOWED WHITE SQUARE;BLACK QUESTION MARK ORNAMENT"]⟩,
    ⟨0x2754, "WHITE ", ["QUESTION MARK ORNAMENT;EXCLAMATION MARK ORNAMENT"]⟩,
    ⟨0x2756, "", ["BLACK DIAMOND MINUS WHITE X;HEAVY EXCLAMATION MARK SYMBOL"]⟩,
    ⟨0x2758, "", ["LIGHT VERTICAL BAR;MEDIUM VERTICAL BAR"]⟩,
    ⟨0x275A, "HEAVY ", ["VERTICAL BAR;SINGLE TURNED COMMA QUOTATION MARK ORNAMENT",
      "SINGLE COMMA QUOTATION MARK ORNAMENT;DOUBLE TURNED COMMA QUOTATION MARK ORNAMENT",
      "DOUBLE COMMA QUOTATION MARK ORNAMENT;LOW SINGLE COMMA QUOTATION MARK ORNAMENT",
      "LOW DOUBLE COMMA QUOTATION MARK ORNAMENT"]⟩,
    ⟨0x2761, "CURVED STEM PARAGRAPH SIGN ", ["ORNAMENT"]⟩,
    ⟨0x2762, "", ["HEAVY EXCLAMATION MARK ORNAMENT;HEAVY HEART EXCLAMATION MARK ORNAMENT",
      "HEAVY BLACK HEART;ROTATED HEAVY BLACK HEART BULLET"]⟩,
    ⟨0x2766, "", ["FLORAL HEART;ROTATED FLORAL HEART BULLET"]⟩,
    ⟨0x2768, "MEDIUM ", ["LEFT PARENTHESIS ORNAMENT;RIGHT PARENTHESIS ORNAMENT",
      "FLATTENED LEFT PARENTHESIS ORNAMENT;FLATTENED RIGHT PARENTHESIS ORNAMENT",
      "LEFT-POINTING ANGLE BRACKET ORNAMENT;RIGHT-POINTING ANGLE BRACKET ORNAMENT"]⟩,
    ⟨0x276E, "HEAVY ", ["LEFT-POINTING ANGLE QUOTATION MARK ORNAMENT",
      "RIGHT-POINTING ANGLE QUOTATION MARK ORNAMENT;LEFT-POINTING ANGLE BRACKET ORNAMENT",
      "RIGHT-POINTING ANGLE BRACKET ORNAMENT"]⟩,
    ⟨0x2772, "LIGHT ", ["LEFT TORTOISE SHELL BRACKET ORNAMENT",
      "RIGHT TORTOISE SHELL BRACKET ORNAMENT"]⟩,
    ⟨0x2774, "MEDIUM ", ["LEFT CURLY BRACKET ORNAMENT;RIGHT CURLY BRACKET ORNAMENT"]⟩,
    ⟨0x2776, "DINGBAT NEGATIVE CIRCLED DIGIT ", ["ONE;TWO;THREE;FOUR;FIVE;SIX;SEVEN;EIGHT;NINE"]⟩,
    ⟨0x277F, "DINGBAT NEGATIVE CIRCLED NUMBER ", ["TEN"]⟩,
    ⟨0x2780, "DINGBAT CIRCLED SANS-SERIF DIGIT ", ["ONE;TWO;THREE;FOUR;FIVE;SIX;SEVEN;EIGHT",
      "NINE"]⟩, ⟨0x2789, "DINGBAT CIRCLED SANS-SERIF NUMBER ", ["TEN"]⟩,
    ⟨0x278A, "DINGBAT NEGATIVE CIRCLED SANS-SERIF ", ["DIGIT ONE;DIGIT TWO;DIGIT THREE;DIGIT FOUR",
      "DIGIT FIVE;DIGIT SIX;DIGIT SEVEN;DIGIT EIGHT;DIGIT NINE;NUMBER TEN"]⟩,
    ⟨0x2794, "HEAVY ", ["WIDE-HEADED RIGHTWARDS ARROW;PLUS SIGN;MINUS SIGN;DIVISION SIGN",
      "SOUTH EAST ARROW;RIGHTWARDS ARROW;NORTH EAST ARROW"]⟩,
    ⟨0x279B, "DRAFTING POINT RIGHTWARDS ", ["ARROW"]⟩,
    ⟨0x279C, "", ["HEAVY ROUND-TIPPED RIGHTWARDS ARROW;TRIANGLE-HEADED RIGHTWARDS ARROW"]⟩,
    ⟨0x279E, "", ["HEAVY TRIANGLE-HEADED RIGHTWARDS ARROW",
      "DASHED TRIANGLE-HEADED RIGHTWARDS ARROW"]⟩,
    ⟨0x27A0, "", ["HEAVY DASHED TRIANGLE-HEADED RIGHTWARDS ARROW;BLACK RIGHTWARDS ARROW"]⟩,
    ⟨0x27A2, "", ["THREE-D TOP-LIGHTED RIGHTWARDS ARROWHEAD",
      "THREE-D BOTTOM-LIGHTED RIGHTWARDS ARROWHEAD;BLACK RIGHTWARDS ARROWHEAD"]⟩,
    ⟨0x27A5, "HEAVY BLACK CURVED ", ["DOWNWARDS AND RIGHTWARDS ARROW",
      "UPWARDS AND RIGHTWARDS ARROW"]⟩,
    ⟨0x27A7, "", ["SQUAT BLACK RIGHTWARDS ARROW;HEAVY CONCAVE-POINTED BLACK RIGHTWARDS ARROW"]⟩,
    ⟨0x27A9, "", ["RIGHT-SHADED WHITE RIGHTWARDS ARROW;LEFT-SHADED WHITE RIGHTWARDS ARROW"]⟩,
    ⟨0x27AB, "", ["BACK-TILTED SHADOWED WHITE RIGHTWARDS ARROW",
      "FRONT-TILTED SHADOWED WHITE RIGHTWARDS ARROW"]⟩,
    ⟨0x27AD, "", ["HEAVY LOWER RIGHT-SHADOWED WHITE RIGHTWARDS ARROW",
      "HEAVY UPPER RIGHT-SHADOWED WHITE RIGHTWARDS ARROW",
      "NOTCHED LOWER RIGHT-SHADOWED WHITE RIGHTWARDS ARROW"]⟩,
    ⟨0x27B0, "", ["CURLY LOOP;NOTCHED UPPER RIGHT-SHADOWED WHITE RIGHTWARDS ARROW"]⟩,
    ⟨0x27B2, "", ["CIRCLED HEAVY WHITE RIGHTWARDS ARROW;WHITE-FEATHERED RIGHTWARDS ARROW"]⟩,
    ⟨0x27B4, "BLACK-FEATHERED ", ["SOUTH EAST ARROW;RIGHTWARDS ARROW;NORTH EAST ARROW"]⟩,
    ⟨0x27B7, "HEAVY BLACK-FEATHERED ", ["SOUTH EAST ARROW;RIGHTWARDS ARROW;NORTH EAST ARROW"]⟩,
    ⟨0x27BA, "TEARDROP-BARBED RIGHTWARDS ", ["ARROW"]⟩,
    ⟨0x27BB, "", ["HEAVY TEARDROP-SHANKED RIGHTWARDS ARROW;WEDGE-TAILED RIGHTWARDS ARROW"]⟩,
    ⟨0x27BD, "", ["HEAVY WEDGE-TAILED RIGHTWARDS ARROW;OPEN-OUTLINED RIGHTWARDS ARROW"]⟩,
    ⟨0x27BF, "", ["DOUBLE CURLY LOOP;THREE DIMENSIONAL ANGLE"]⟩,
    ⟨0x27C1, "", ["WHITE TRIANGLE CONTAINING SMALL WHITE TRIANGLE;PERPENDICULAR"]⟩,
    ⟨0x27C3, "", ["OPEN SUBSET;OPEN SUPERSET;LEFT S-SHAPED BAG DELIMITER"]⟩,
    ⟨0x27C6, "", ["RIGHT S-SHAPED BAG DELIMITER;OR WITH DOT INSIDE"]⟩,
    ⟨0x27C8, "", ["REVERSE SOLIDUS PRECEDING SUBSET;SUPERSET PRECEDING SOLIDUS"]⟩,
    ⟨0x27CA, "", ["VERTICAL BAR WITH HORIZONTAL STROKE;MATHEMATICAL RISING DIAGONAL"]⟩,
    ⟨0x27CC, "", ["LONG DIVISION;MATHEMATICAL FALLING DIAGONAL"]⟩,
    ⟨0x27CE, "SQUARED LOGICAL ", ["AND;OR"]⟩,
    ⟨0x27D0, "", ["WHITE DIAMOND WITH CENTRED DOT;AND WITH DOT"]⟩,
    ⟨0x27D2, "", ["ELEMENT OF OPENING UPWARDS;LOWER RIGHT CORNER WITH DOT"]⟩,
    ⟨0x27D4, "", ["UPPER LEFT CORNER WITH DOT;LEFT OUTER JOIN"]⟩,
    ⟨0x27D6, "", ["RIGHT OUTER JOIN;FULL OUTER JOIN"]⟩,
    ⟨0x27D8, "", ["LARGE UP TACK;LARGE DOWN TACK;LEFT AND RIGHT DOUBLE TURNSTILE",
      "LEFT AND RIGHT TACK;LEFT MULTIMAP;LONG RIGHT TACK;LONG LEFT TACK"]⟩,
    ⟨0x27DF, "", ["UP TACK WITH CIRCLE ABOVE;LOZENGE DIVIDED BY HORIZONTAL RULE"]⟩,
    ⟨0x27E1, "WHITE CONCAVE-SIDED ", ["DIAMOND;DIAMOND WITH LEFTWARDS TICK",
      "DIAMOND WITH RIGHTWARDS TICK"]⟩,
    ⟨0x27E4, "WHITE SQUARE WITH ", ["LEFTWARDS TICK;RIGHTWARDS TICK"]⟩,
    ⟨0x27E6, "MATHEMATICAL ", ["LEFT WHITE SQUARE BRACKET;RIGHT WHITE SQUARE BRACKET",
      "LEFT ANGLE BRACKET;RIGHT ANGLE BRACKET;LEFT DOUBLE ANGLE BRACKET",
      "RIGHT DOUBLE ANGLE BRACKET;LEFT WHITE TORTOISE SHELL BRACKET",
      "RIGHT WHITE TORTOISE SHELL BRACKET;LEFT FLATTENED PARENTHESIS",
      "RIGHT FLATTENED PARENTHESIS"]⟩, ⟨0x27F0, "UPWARDS QUADRUPLE ", ["ARROW"]⟩,
    ⟨0x27F1, "", ["DOWNWARDS QUADRUPLE ARROW;ANTICLOCKWISE GAPPED CIRCLE ARROW"]⟩,
    ⟨0x27F3, "", ["CLOCKWISE GAPPED CIRCLE ARROW;RIGHT ARROW WITH CIRCLED PLUS"]⟩,
    ⟨0x27F5, "LONG ", ["LEFTWARDS ARROW;RIGHTWARDS ARROW;LEFT RIGHT ARROW;LEFTWARDS DOUBLE ARROW",
      "RIGHTWARDS DOUBLE ARROW;LEFT RIGHT DOUBLE ARROW;LEFTWARDS ARROW FROM BAR",
      "RIGHTWARDS ARROW FROM BAR;LEFTWARDS DOUBLE ARROW FROM BAR;RIGHTWARDS DOUBLE ARROW FROM BAR",
      "RIGHTWARDS SQUIGGLE ARROW"]⟩, ⟨0x2800, "BRAILLE PATTERN ", ["BLANK"]⟩,
    ⟨0x2801, "BRAILLE PATTERN DOTS-", ["1;2;12;3;13;23;123;4;14;24;124;34;134;234;1234;5;15;25",
      "125;35;135;235;1235;45;145;245;1245;345;1345;2345;12345;6;16;26;126;36;136;236;1236;46;146",
      "246;1246;346;1346;2346;12346;56;156;256;1256;356;1356;2356;12356;456;1456;2456;12456;3456",
      "13456;23456;123456;7;17;27;127;37;137;237;1237;47;147;247;1247;347;1347;2347;12347;57;157",
      "257;1257;357;1357;2357;12357;457;1457;2457;12457;3457;13457;23457;123457;67;167;267;1267",
      "367;1367;2367;12367;467;1467;2467;12467;3467;13467;23467;123467;567;1567;2567;12567;3567",
      "13567;23567;123567;4567;14567;24567;124567;34567;134567;234567;1234567;8;18;28;128;38;138",
      "238;1238;48;148;248;1248;348;1348;2348;12348;58;158;258;1258;358;1358;2358;12358;458;1458",
      "2458;12458;3458;13458;23458;123458;68;168;268;1268;368;1368;2368;12368;468;1468;2468;12468",
      "3468;13468;23468;123468;568;1568;2568;12568;3568;13568;23568;123568;4568;14568;24568",
      "124568;34568;134568;234568;1234568;78;178;278;1278;378;1378;2378;12378;478;1478;2478;12478",
      "3478;13478;23478;123478;578;1578;2578;12578;3578;13578;23578;123578;4578;14578;24578",
      "124578;34578;134578;234578;1234578;678;1678;2678;12678;3678;13678;23678;123678;4678;14678",
      "24678;124678;34678;134678;234678;1234678;5678;15678;25678;125678;35678;135678;235678",
      "1235678;45678;145678;245678;1245678;345678;1345678;2345678;12345678"]⟩,
    ⟨0x2900, "RIGHTWARDS TWO-HEADED ARROW WITH ", ["VERTICAL STROKE;DOUBLE VERTICAL STROKE"]⟩,
    ⟨0x2902, "LEFTWARDS DOUBLE ARROW WITH VERTICAL ", ["STROKE"]⟩,
    ⟨0x2903, "", ["RIGHTWARDS DOUBLE ARROW WITH VERTICAL STROKE",
      "LEFT RIGHT DOUBLE ARROW WITH VERTICAL STROKE"]⟩,
    ⟨0x2905, "", ["RIGHTWARDS TWO-HEADED ARROW FROM BAR;LEFTWARDS DOUBLE ARROW FROM BAR"]⟩,
    ⟨0x2907, "", ["RIGHTWARDS DOUBLE ARROW FROM BAR;DOWNWARDS ARROW WITH HORIZONTAL STROKE"]⟩,
    ⟨0x2909, "UPWARDS ", ["ARROW WITH HORIZONTAL STROKE;TRIPLE ARROW"]⟩,
    ⟨0x290B, "", ["DOWNWARDS TRIPLE ARROW;LEFTWARDS DOUBLE DASH ARROW"]⟩,
    ⟨0x290D, "", ["RIGHTWARDS DOUBLE DASH ARROW;LEFTWARDS TRIPLE DASH ARROW"]⟩,
    ⟨0x290F, "RIGHTWARDS ", ["TRIPLE DASH ARROW;TWO-HEADED TRIPLE DASH ARROW",
      "ARROW WITH DOTTED STEM"]⟩, ⟨0x2912, "", ["UPWARDS ARROW TO BAR;DOWNWARDS ARROW TO BAR"]⟩,
    ⟨0x2914, "RIGHTWARDS ARROW WITH TAIL WITH ", ["VERTICAL STROKE;DOUBLE VERTICAL STROKE"]⟩,
    ⟨0x2916, "RIGHTWARDS TWO-HEADED ARROW WITH ", ["TAIL;TAIL WITH VERTICAL STROKE",
      "TAIL WITH DOUBLE VERTICAL STROKE"]⟩,
    ⟨0x2919, "", ["LEFTWARDS ARROW-TAIL;RIGHTWARDS ARROW-TAIL"]⟩,
    ⟨0x291B, "", ["LEFTWARDS DOUBLE ARROW-TAIL;RIGHTWARDS DOUBLE ARROW-TAIL"]⟩,
    ⟨0x291D, "", ["LEFTWARDS ARROW TO BLACK DIAMOND;RIGHTWARDS ARROW TO BLACK DIAMOND"]⟩,
    ⟨0x291F, "", ["LEFTWARDS ARROW FROM BAR TO BLACK DIAMOND",
      "RIGHTWARDS ARROW FROM BAR TO BLACK DIAMOND"]⟩,
    ⟨0x2921, "NORTH ", ["WEST AND SOUTH EAST ARROW;EAST AND SOUTH WEST ARROW;WEST ARROW WITH HOOK",
      "EAST ARROW WITH HOOK"]⟩, ⟨0x2925, "SOUTH ", ["EAST ARROW WITH HOOK;WEST ARROW WITH HOOK"]⟩,
    ⟨0x2927, "NORTH ", ["WEST ARROW AND NORTH EAST ARROW;EAST ARROW AND SOUTH EAST ARROW"]⟩,
    ⟨0x2929, "SOUTH ", ["EAST ARROW AND SOUTH WEST ARROW;WEST ARROW AND NORTH WEST ARROW"]⟩,
    ⟨0x292B, "", ["RISING DIAGONAL CROSSING FALLING DIAGONAL",
      "FALLING DIAGONAL CROSSING RISING DIAGONAL"]⟩,
    ⟨0x292D, "", ["SOUTH EAST ARROW CROSSING NORTH EAST ARROW",
      "NORTH EAST ARROW CROSSING SOUTH EAST ARROW"]⟩,
    ⟨0x292F, "", ["FALLING DIAGONAL CROSSING NORTH EAST ARROW",
      "RISING DIAGONAL CROSSING SOUTH EAST ARROW"]⟩,
    ⟨0x2931, "", ["NORTH EAST ARROW CROSSING NORTH WEST ARROW",
      "NORTH WEST ARROW CROSSING NORTH EAST ARROW;WAVE ARROW POINTING DIRECTLY RIGHT"]⟩,
    ⟨0x2934, "ARROW POINTING RIGHTWARDS THEN CURVING ", ["UPWARDS;DOWNWARDS"]⟩,
    ⟨0x2936, "ARROW POINTING DOWNWARDS THEN CURVING ", ["LEFTWARDS;RIGHTWARDS"]⟩,
    ⟨0x2938, "", ["RIGHT-SIDE ARC CLOCKWISE ARROW;LEFT-SIDE ARC ANTICLOCKWISE ARROW"]⟩,
    ⟨0x293A, "", ["TOP ARC ANTICLOCKWISE ARROW;BOTTOM ARC ANTICLOCKWISE ARROW"]⟩,
    ⟨0x293C, "TOP ARC ", ["CLOCKWISE ARROW WITH MINUS;ANTICLOCKWISE ARROW WITH PLUS"]⟩,
    ⟨0x293E, "LOWER ", ["RIGHT SEMICIRCULAR CLOCKWISE ARROW",
      "LEFT SEMICIRCULAR ANTICLOCKWISE ARROW"]⟩,
    ⟨0x2940, "", ["ANTICLOCKWISE CLOSED CIRCLE ARROW;CLOCKWISE CLOSED CIRCLE ARROW"]⟩,
    ⟨0x2942, "", ["RIGHTWARDS ARROW ABOVE SHORT LEFTWARDS ARROW",
      "LEFTWARDS ARROW ABOVE SHORT RIGHTWARDS ARROW"]⟩,
    ⟨0x2944, "", ["SHORT RIGHTWARDS ARROW ABOVE LEFTWARDS ARROW",
      "RIGHTWARDS ARROW WITH PLUS BELOW"]⟩,
    ⟨0x2946, "", ["LEFTWARDS ARROW WITH PLUS BELOW;RIGHTWARDS ARROW THROUGH X"]⟩,
    ⟨0x2948, "", ["LEFT RIGHT ARROW THROUGH SMALL CIRCLE",
      "UPWARDS TWO-HEADED ARROW FROM SMALL CIRCLE"]⟩,
    ⟨0x294A, "LEFT BARB ", ["UP RIGHT BARB DOWN HARPOON;DOWN RIGHT BARB UP HARPOON"]⟩,
    ⟨0x294C, "UP BARB ", ["RIGHT DOWN BARB LEFT HARPOON;LEFT DOWN BARB RIGHT HARPOON"]⟩,
    ⟨0x294E, "", ["LEFT BARB UP RIGHT BARB UP HARPOON;UP BARB RIGHT DOWN BARB RIGHT HARPOON"]⟩,
    ⟨0x2950, "", ["LEFT BARB DOWN RIGHT BARB DOWN HARPOON;UP BARB LEFT DOWN BARB LEFT HARPOON"]⟩,
    ⟨0x2952, "", ["LEFTWARDS HARPOON WITH BARB UP TO BAR;RIGHTWARDS HARPOON WITH BARB UP TO BAR"]⟩,
    ⟨0x2954, "", ["UPWARDS HARPOON WITH BARB RIGHT TO BAR",
      "DOWNWARDS HARPOON WITH BARB RIGHT TO BAR"]⟩,
    ⟨0x2956, "", ["LEFTWARDS HARPOON WITH BARB DOWN TO BAR",
      "RIGHTWARDS HARPOON WITH BARB DOWN TO BAR"]⟩,
    ⟨0x2958, "", ["UPWARDS HARPOON WITH BARB LEFT TO BAR",
      "DOWNWARDS HARPOON WITH BARB LEFT TO BAR"]⟩,
    ⟨0x295A, "", ["LEFTWARDS HARPOON WITH BARB UP FROM BAR",
      "RIGHTWARDS HARPOON WITH BARB UP FROM BAR"]⟩,
    ⟨0x295C, "", ["UPWARDS HARPOON WITH BARB RIGHT FROM BAR",
      "DOWNWARDS HARPOON WITH BARB RIGHT FROM BAR"]⟩,
    ⟨0x295E, "", ["LEFTWARDS HARPOON WITH BARB DOWN FROM BAR",
      "RIGHTWARDS HARPOON WITH BARB DOWN FROM BAR"]⟩,
    ⟨0x2960, "", ["UPWARDS HARPOON WITH BARB LEFT FROM BAR",
      "DOWNWARDS HARPOON WITH BARB LEFT FROM BAR"]⟩,
    ⟨0x2962, "", ["LEFTWARDS HARPOON WITH BARB UP ABOVE LEFTWARDS HARPOON WITH BARB DOWN",
      "UPWARDS HARPOON WITH BARB LEFT BESIDE UPWARDS HARPOON WITH BARB RIGHT"]⟩,
    ⟨0x2964, "", ["RIGHTWARDS HARPOON WITH BARB UP ABOVE RIGHTWARDS HARPOON WITH BARB DOWN",
      "DOWNWARDS HARPOON WITH BARB LEFT BESIDE DOWNWARDS HARPOON WITH BARB RIGHT"]⟩,
    ⟨0x2966, "LEFTWARDS HARPOON WITH BARB ", ["UP ABOVE RIGHTWARDS HARPOON WITH BARB UP",
      "DOWN ABOVE RIGHTWARDS HARPOON WITH BARB DOWN"]⟩,
    ⟨0x2968, "RIGHTWARDS HARPOON WITH BARB ", ["UP ABOVE LEFTWARDS HARPOON WITH BARB UP",
      "DOWN ABOVE LEFTWARDS HARPOON WITH BARB DOWN"]⟩,
    ⟨0x296A, "LEFTWARDS HARPOON WITH BARB ", ["UP ABOVE LONG DASH;DOWN BELOW LONG DASH"]⟩,
    ⟨0x296C, "RIGHTWARDS HARPOON WITH BARB ", ["UP ABOVE LONG DASH;DOWN BELOW LONG DASH"]⟩,
    ⟨0x296E, "", ["UPWARDS HARPOON WITH BARB LEFT BESIDE DOWNWARDS HARPOON WITH BARB RIGHT",
      "DOWNWARDS HARPOON WITH BARB LEFT BESIDE UPWARDS HARPOON WITH BARB RIGHT"]⟩,
    ⟨0x2970, "", ["RIGHT DOUBLE ARROW WITH ROUNDED HEAD;EQUALS SIGN ABOVE RIGHTWARDS ARROW"]⟩,
    ⟨0x2972, "", ["TILDE OPERATOR ABOVE RIGHTWARDS ARROW;LEFTWARDS ARROW ABOVE TILDE OPERATOR"]⟩,
    ⟨0x2974, "RIGHTWARDS ARROW ABOVE ", ["TILDE OPERATOR;ALMOST EQUAL TO"]⟩,
    ⟨0x2976, "", ["LESS-THAN ABOVE LEFTWARDS ARROW;LEFTWARDS ARROW THROUGH LESS-THAN",
      "GREATER-THAN ABOVE RIGHTWARDS ARROW"]⟩,
    ⟨0x2979, "", ["SUBSET ABOVE RIGHTWARDS ARROW;LEFTWARDS ARROW THROUGH SUBSET"]⟩,
    ⟨0x297B, "", ["SUPERSET ABOVE LEFTWARDS ARROW;LEFT FISH TAIL"]⟩,
    ⟨0x297D, "", ["RIGHT FISH TAIL;UP FISH TAIL"]⟩,
    ⟨0x297F, "", ["DOWN FISH TAIL;TRIPLE VERTICAL BAR DELIMITER"]⟩,
    ⟨0x2981, "Z NOTATION ", ["SPOT;TYPE COLON"]⟩,
    ⟨0x2983, "", ["LEFT WHITE CURLY BRACKET;RIGHT WHITE CURLY BRACKET"]⟩,
    ⟨0x2985, "", ["LEFT WHITE PARENTHESIS;RIGHT WHITE PARENTHESIS"]⟩,
    ⟨0x2987, "Z NOTATION ", ["LEFT IMAGE BRACKET;RIGHT IMAGE BRACKET;LEFT BINDING BRACKET",
      "RIGHT BINDING BRACKET"]⟩,
    ⟨0x298B, "", ["LEFT SQUARE BRACKET WITH UNDERBAR;RIGHT SQUARE BRACKET WITH UNDERBAR"]⟩,
    ⟨0x298D, "", ["LEFT SQUARE BRACKET WITH TICK IN TOP CORNER",
      "RIGHT SQUARE BRACKET WITH TICK IN BOTTOM CORNER"]⟩,
    ⟨0x298F, "", ["LEFT SQUARE BRACKET WITH TICK IN BOTTOM CORNER",
      "RIGHT SQUARE BRACKET WITH TICK IN TOP CORNER"]⟩,
    ⟨0x2991, "", ["LEFT ANGLE BRACKET WITH DOT;RIGHT ANGLE BRACKET WITH DOT"]⟩,
    ⟨0x2993, "", ["LEFT ARC LESS-THAN BRACKET;RIGHT ARC GREATER-THAN BRACKET"]⟩,
    ⟨0x2995, "", ["DOUBLE LEFT ARC GREATER-THAN BRACKET;DOUBLE RIGHT ARC LESS-THAN BRACKET",
      "LEFT BLACK TORTOISE SHELL BRACKET"]⟩,
    ⟨0x2998, "", ["RIGHT BLACK TORTOISE SHELL BRACKET;DOTTED FENCE"]⟩,
    ⟨0x299A, "", ["VERTICAL ZIGZAG LINE;MEASURED ANGLE OPENING LEFT"]⟩,
    ⟨0x299C, "", ["RIGHT ANGLE VARIANT WITH SQUARE;MEASURED RIGHT ANGLE WITH DOT"]⟩,
    ⟨0x299E, "", ["ANGLE WITH S INSIDE;ACUTE ANGLE"]⟩,
    ⟨0x29A0, "SPHERICAL ANGLE OPENING ", ["LEFT;UP"]⟩,
    ⟨0x29A2, "", ["TURNED ANGLE;REVERSED ANGLE"]⟩,
    ⟨0x29A4, "", ["ANGLE WITH UNDERBAR;REVERSED ANGLE WITH UNDERBAR"]⟩,
    ⟨0x29A6, "OBLIQUE ANGLE OPENING ", ["UP;DOWN"]⟩,
    ⟨0x29A8, "MEASURED ANGLE WITH OPEN ARM ENDING IN ARROW POINTING ", ["UP AND RIGHT;UP AND LEFT",
      "DOWN AND RIGHT;DOWN AND LEFT;RIGHT AND UP;LEFT AND UP;RIGHT AND DOWN;LEFT AND DOWN"]⟩,
    ⟨0x29B0, "REVERSED EMPTY ", ["SET"]⟩,
    ⟨0x29B1, "EMPTY SET WITH ", ["OVERBAR;SMALL CIRCLE ABOVE;RIGHT ARROW ABOVE;LEFT ARROW ABOVE"]⟩,
    ⟨0x29B5, "", ["CIRCLE WITH HORIZONTAL BAR;CIRCLED VERTICAL BAR;CIRCLED PARALLEL",
      "CIRCLED REVERSE SOLIDUS;CIRCLED PERPENDICULAR",
      "CIRCLE DIVIDED BY HORIZONTAL BAR AND TOP HALF DIVIDED BY VERTICAL BAR",
      "CIRCLE WITH SUPERIMPOSED X;CIRCLED ANTICLOCKWISE-ROTATED DIVISION SIGN",
      "UP ARROW THROUGH CIRCLE"]⟩,
    ⟨0x29BE, "CIRCLED ", ["WHITE BULLET;BULLET;LESS-THAN;GREATER-THAN"]⟩,
    ⟨0x29C2, "CIRCLE WITH ", ["SMALL CIRCLE TO THE RIGHT;TWO HORIZONTAL STROKES TO THE RIGHT"]⟩,
    ⟨0x29C4, "SQUARED ", ["RISING DIAGONAL SLASH;FALLING DIAGONAL SLASH;ASTERISK;SMALL CIRCLE",
      "SQUARE"]⟩,
    ⟨0x29C9, "", ["TWO JOINED SQUARES;TRIANGLE WITH DOT ABOVE;TRIANGLE WITH UNDERBAR",
      "S IN TRIANGLE"]⟩,
    ⟨0x29CD, "", ["TRIANGLE WITH SERIFS AT BOTTOM;RIGHT TRIANGLE ABOVE LEFT TRIANGLE"]⟩,
    ⟨0x29CF, "", ["LEFT TRIANGLE BESIDE VERTICAL BAR;VERTICAL BAR BESIDE RIGHT TRIANGLE"]⟩,
    ⟨0x29D1, "", ["BOWTIE WITH LEFT HALF BLACK;BOWTIE WITH RIGHT HALF BLACK;BLACK BOWTIE"]⟩,
    ⟨0x29D4, "", ["TIMES WITH LEFT HALF BLACK;TIMES WITH RIGHT HALF BLACK;WHITE HOURGLASS"]⟩,
    ⟨0x29D7, "", ["BLACK HOURGLASS;LEFT WIGGLY FENCE"]⟩,
    ⟨0x29D9, "", ["RIGHT WIGGLY FENCE;LEFT DOUBLE WIGGLY FENCE"]⟩,
    ⟨0x29DB, "", ["RIGHT DOUBLE WIGGLY FENCE;INCOMPLETE INFINITY"]⟩,
    ⟨0x29DD, "", ["TIE OVER INFINITY;INFINITY NEGATED WITH VERTICAL BAR"]⟩,
    ⟨0x29DF, "", ["DOUBLE-ENDED MULTIMAP;SQUARE WITH CONTOURED OUTLINE"]⟩,
    ⟨0x29E1, "", ["INCREASES AS;SHUFFLE PRODUCT"]⟩,
    ⟨0x29E3, "EQUALS SIGN AND SLANTED ", ["PARALLEL;PARALLEL WITH TILDE ABOVE"]⟩,
    ⟨0x29E5, "IDENTICAL TO AND SLANTED ", ["PARALLEL"]⟩,
    ⟨0x29E6, "", ["GLEICH STARK;THERMODYNAMIC"]⟩,
    ⟨0x29E8, "DOWN-POINTING TRIANGLE WITH ", ["LEFT HALF BLACK;RIGHT HALF BLACK"]⟩,
    ⟨0x29EA, "BLACK ", ["DIAMOND WITH DOWN ARROW;LOZENGE"]⟩,
    ⟨0x29EC, "", ["WHITE CIRCLE WITH DOWN ARROW;BLACK CIRCLE WITH DOWN ARROW"]⟩,
    ⟨0x29EE, "ERROR-BARRED ", ["WHITE SQUARE;BLACK SQUARE;WHITE DIAMOND;BLACK DIAMOND",
      "WHITE CIRCLE;BLACK CIRCLE"]⟩, ⟨0x29F4, "", ["RULE-DELAYED;REVERSE SOLIDUS OPERATOR"]⟩,
    ⟨0x29F6, "", ["SOLIDUS WITH OVERBAR;REVERSE SOLIDUS WITH HORIZONTAL STROKE"]⟩,
    ⟨0x29F8, "BIG ", ["SOLIDUS;REVERSE SOLIDUS"]⟩, ⟨0x29FA, "", ["DOUBLE PLUS;TRIPLE PLUS"]⟩,
    ⟨0x29FC, "", ["LEFT-POINTING CURVED ANGLE BRACKET;RIGHT-POINTING CURVED ANGLE BRACKET"]⟩,
    ⟨0x29FE, "", ["TINY;MINY"]⟩,
    ⟨0x2A00, "N-ARY ", ["CIRCLED DOT OPERATOR;CIRCLED PLUS OPERATOR;CIRCLED TIMES OPERATOR",
      "UNION OPERATOR WITH DOT;UNION OPERATOR WITH PLUS;SQUARE INTERSECTION OPERATOR",
      "SQUARE UNION OPERATOR"]⟩,
    ⟨0x2A07, "", ["TWO LOGICAL AND OPERATOR;TWO LOGICAL OR OPERATOR;N-ARY TIMES OPERATOR"]⟩,
    ⟨0x2A0A, "", ["MODULO TWO SUM;SUMMATION WITH INTEGRAL"]⟩,
    ⟨0x2A0C, "", ["QUADRUPLE INTEGRAL OPERATOR;FINITE PART INTEGRAL"]⟩,
    ⟨0x2A0E, "INTEGRAL ", ["WITH DOUBLE STROKE;AVERAGE WITH SLASH"]⟩,
    ⟨0x2A10, "", ["CIRCULATION FUNCTION;ANTICLOCKWISE INTEGRATION"]⟩,
    ⟨0x2A12, "LINE INTEGRATION ", ["WITH RECTANGULAR PATH AROUND POLE",
      "WITH SEMICIRCULAR PATH AROUND POLE;NOT INCLUDING THE POLE"]⟩,
    ⟨0x2A15, "", ["INTEGRAL AROUND A POINT OPERATOR;QUATERNION INTEGRAL OPERATOR"]⟩,
    ⟨0x2A17, "INTEGRAL WITH ", ["LEFTWARDS ARROW WITH HOOK;TIMES SIGN;INTERSECTION;UNION;OVERBAR",
      "UNDERBAR"]⟩, ⟨0x2A1D, "", ["JOIN;LARGE LEFT TRIANGLE OPERATOR"]⟩,
    ⟨0x2A1F, "Z NOTATION SCHEMA ", ["COMPOSITION;PIPING;PROJECTION"]⟩,
    ⟨0x2A22, "PLUS SIGN WITH ", ["SMALL CIRCLE ABOVE;CIRCUMFLEX ACCENT ABOVE;TILDE ABOVE",
      "DOT BELOW;TILDE BELOW;SUBSCRIPT TWO;BLACK TRIANGLE"]⟩,
    ⟨0x2A29, "MINUS SIGN WITH ", ["COMMA ABOVE;DOT BELOW;FALLING DOTS;RISING DOTS"]⟩,
    ⟨0x2A2D, "", ["PLUS SIGN IN LEFT HALF CIRCLE;PLUS SIGN IN RIGHT HALF CIRCLE",
      "VECTOR OR CROSS PRODUCT"]⟩, ⟨0x2A30, "MULTIPLICATION SIGN WITH ", ["DOT ABOVE;UNDERBAR"]⟩,
    ⟨0x2A32, "", ["SEMIDIRECT PRODUCT WITH BOTTOM CLOSED;SMASH PRODUCT"]⟩,
    ⟨0x2A34, "MULTIPLICATION SIGN IN ", ["LEFT HALF CIRCLE;RIGHT HALF CIRCLE"]⟩,
    ⟨0x2A36, "", ["CIRCLED MULTIPLICATION SIGN WITH CIRCUMFLEX ACCENT",
      "MULTIPLICATION SIGN IN DOUBLE CIRCLE"]⟩,
    ⟨0x2A38, "", ["CIRCLED DIVISION SIGN;PLUS SIGN IN TRIANGLE"]⟩,
    ⟨0x2A3A, "", ["MINUS SIGN IN TRIANGLE;MULTIPLICATION SIGN IN TRIANGLE;INTERIOR PRODUCT"]⟩,
    ⟨0x2A3D, "", ["RIGHTHAND INTERIOR PRODUCT;Z NOTATION RELATIONAL COMPOSITION"]⟩,
    ⟨0x2A3F, "", ["AMALGAMATION OR COPRODUCT;INTERSECTION WITH DOT"]⟩,
    ⟨0x2A41, "UNION WITH ", ["MINUS SIGN;OVERBAR"]⟩,
    ⟨0x2A43, "INTERSECTION WITH ", ["OVERBAR;LOGICAL AND"]⟩,
    ⟨0x2A45, "", ["UNION WITH LOGICAL OR;UNION ABOVE INTERSECTION;INTERSECTION ABOVE UNION"]⟩,
    ⟨0x2A48, "", ["UNION ABOVE BAR ABOVE INTERSECTION;INTERSECTION ABOVE BAR ABOVE UNION"]⟩,
    ⟨0x2A4A, "", ["UNION BESIDE AND JOINED WITH UNION",
      "INTERSECTION BESIDE AND JOINED WITH INTERSECTION"]⟩,
    ⟨0x2A4C, "CLOSED ", ["UNION WITH SERIFS;INTERSECTION WITH SERIFS"]⟩,
    ⟨0x2A4E, "", ["DOUBLE SQUARE INTERSECTION;DOUBLE SQUARE UNION",
      "CLOSED UNION WITH SERIFS AND SMASH PRODUCT"]⟩,
    ⟨0x2A51, "LOGICAL ", ["AND WITH DOT ABOVE;OR WITH DOT ABOVE"]⟩,
    ⟨0x2A53, "DOUBLE LOGICAL ", ["AND;OR"]⟩, ⟨0x2A55, "TWO INTERSECTING LOGICAL ", ["AND;OR"]⟩,
    ⟨0x2A57, "SLOPING LARGE ", ["OR;AND"]⟩,
    ⟨0x2A59, "LOGICAL ", ["OR OVERLAPPING LOGICAL AND;AND WITH MIDDLE STEM;OR WITH MIDDLE STEM",
      "AND WITH HORIZONTAL DASH;OR WITH HORIZONTAL DASH;AND WITH DOUBLE OVERBAR;AND WITH UNDERBAR",
      "AND WITH DOUBLE UNDERBAR"]⟩, ⟨0x2A61, "SMALL VEE WITH ", ["UNDERBAR"]⟩,
    ⟨0x2A62, "LOGICAL OR WITH DOUBLE ", ["OVERBAR;UNDERBAR"]⟩,
    ⟨0x2A64, "Z NOTATION ", ["DOMAIN ANTIRESTRICTION;RANGE ANTIRESTRICTION"]⟩,
    ⟨0x2A66, "", ["EQUALS SIGN WITH DOT BELOW;IDENTICAL WITH DOT ABOVE"]⟩,
    ⟨0x2A68, "TRIPLE HORIZONTAL BAR WITH ", ["DOUBLE VERTICAL STROKE;TRIPLE VERTICAL STROKE"]⟩,
    ⟨0x2A6A, "TILDE OPERATOR WITH ", ["DOT ABOVE;RISING DOTS"]⟩,
    ⟨0x2A6C, "SIMILAR MINUS ", ["SIMILAR"]⟩,
    ⟨0x2A6D, "", ["CONGRUENT WITH DOT ABOVE;EQUALS WITH ASTERISK"]⟩,
    ⟨0x2A6F, "", ["ALMOST EQUAL TO WITH CIRCUMFLEX ACCENT;APPROXIMATELY EQUAL OR EQUAL TO"]⟩,
    ⟨0x2A71, "", ["EQUALS SIGN ABOVE PLUS SIGN;PLUS SIGN ABOVE EQUALS SIGN"]⟩,
    ⟨0x2A73, "", ["EQUALS SIGN ABOVE TILDE OPERATOR;DOUBLE COLON EQUAL"]⟩,
    ⟨0x2A75, "", ["TWO CONSECUTIVE EQUALS SIGNS;THREE CONSECUTIVE EQUALS SIGNS"]⟩,
    ⟨0x2A77, "", ["EQUALS SIGN WITH TWO DOTS ABOVE AND TWO DOTS BELOW",
      "EQUIVALENT WITH FOUR DOTS ABOVE"]⟩,
    ⟨0x2A79, "", ["LESS-THAN WITH CIRCLE INSIDE;GREATER-THAN WITH CIRCLE INSIDE"]⟩,
    ⟨0x2A7B, "", ["LESS-THAN WITH QUESTION MARK ABOVE;GREATER-THAN WITH QUESTION MARK ABOVE"]⟩,
    ⟨0x2A7D, "", ["LESS-THAN OR SLANTED EQUAL TO;GREATER-THAN OR SLANTED EQUAL TO"]⟩,
    ⟨0x2A7F, "", ["LESS-THAN OR SLANTED EQUAL TO WITH DOT INSIDE",
      "GREATER-THAN OR SLANTED EQUAL TO WITH DOT INSIDE"]⟩,
    ⟨0x2A81, "", ["LESS-THAN OR SLANTED EQUAL TO WITH DOT ABOVE",
      "GREATER-THAN OR SLANTED EQUAL TO WITH DOT ABOVE"]⟩,
    ⟨0x2A83, "", ["LESS-THAN OR SLANTED EQUAL TO WITH DOT ABOVE RIGHT",
      "GREATER-THAN OR SLANTED EQUAL TO WITH DOT ABOVE LEFT"]⟩,
    ⟨0x2A85, "", ["LESS-THAN OR APPROXIMATE;GREATER-THAN OR APPROXIMATE"]⟩,
    ⟨0x2A87, "", ["LESS-THAN AND SINGLE-LINE NOT EQUAL TO",
      "GREATER-THAN AND SINGLE-LINE NOT EQUAL TO"]⟩,
    ⟨0x2A89, "", ["LESS-THAN AND NOT APPROXIMATE;GREATER-THAN AND NOT APPROXIMATE"]⟩,
    ⟨0x2A8B, "", ["LESS-THAN ABOVE DOUBLE-LINE EQUAL ABOVE GREATER-THAN",
      "GREATER-THAN ABOVE DOUBLE-LINE EQUAL ABOVE LESS-THAN"]⟩,
    ⟨0x2A8D, "", ["LESS-THAN ABOVE SIMILAR OR EQUAL;GREATER-THAN ABOVE SIMILAR OR EQUAL"]⟩,
    ⟨0x2A8F, "", ["LESS-THAN ABOVE SIMILAR ABOVE GREATER-THAN",
      "GREATER-THAN ABOVE SIMILAR ABOVE LESS-THAN"]⟩,
    ⟨0x2A91, "", ["LESS-THAN ABOVE GREATER-THAN ABOVE DOUBLE-LINE EQUAL",
      "GREATER-THAN ABOVE LESS-THAN ABOVE DOUBLE-LINE EQUAL"]⟩,
    ⟨0x2A93, "", ["LESS-THAN ABOVE SLANTED EQUAL ABOVE GREATER-THAN ABOVE SLANTED EQUAL",
      "GREATER-THAN ABOVE SLANTED EQUAL ABOVE LESS-THAN ABOVE SLANTED EQUAL"]⟩,
    ⟨0x2A95, "SLANTED EQUAL TO OR ", ["LESS-THAN;GREATER-THAN;LESS-THAN WITH DOT INSIDE",
      "GREATER-THAN WITH DOT INSIDE"]⟩,
    ⟨0x2A99, "DOUBLE-LINE EQUAL TO OR ", ["LESS-THAN;GREATER-THAN"]⟩,
    ⟨0x2A9B, "DOUBLE-LINE SLANTED EQUAL TO OR ", ["LESS-THAN;GREATER-THAN"]⟩,
    ⟨0x2A9D, "SIMILAR ", ["OR LESS-THAN;OR GREATER-THAN;ABOVE LESS-THAN ABOVE EQUALS SIGN",
      "ABOVE GREATER-THAN ABOVE EQUALS SIGN"]⟩,
    ⟨0x2AA1, "DOUBLE NESTED ", ["LESS-THAN;GREATER-THAN;LESS-THAN WITH UNDERBAR"]⟩,
    ⟨0x2AA4, "", ["GREATER-THAN OVERLAPPING LESS-THAN;GREATER-THAN BESIDE LESS-THAN",
      "LESS-THAN CLOSED BY CURVE"]⟩,
    ⟨0x2AA7, "", ["GREATER-THAN CLOSED BY CURVE;LESS-THAN CLOSED BY CURVE ABOVE SLANTED EQUAL"]⟩,
    ⟨0x2AA9, "", ["GREATER-THAN CLOSED BY CURVE ABOVE SLANTED EQUAL;SMALLER THAN"]⟩,
    ⟨0x2AAB, "", ["LARGER THAN;SMALLER THAN OR EQUAL TO"]⟩,
    ⟨0x2AAD, "", ["LARGER THAN OR EQUAL TO;EQUALS SIGN WITH BUMPY ABOVE"]⟩,
    ⟨0x2AAF, "", ["PRECEDES ABOVE SINGLE-LINE EQUALS SIGN",
      "SUCCEEDS ABOVE SINGLE-LINE EQUALS SIGN"]⟩,
    ⟨0x2AB1, "", ["PRECEDES ABOVE SINGLE-LINE NOT EQUAL TO",
      "SUCCEEDS ABOVE SINGLE-LINE NOT EQUAL TO"]⟩,
    ⟨0x2AB3, "", ["PRECEDES ABOVE EQUALS SIGN;SUCCEEDS ABOVE EQUALS SIGN"]⟩,
    ⟨0x2AB5, "", ["PRECEDES ABOVE NOT EQUAL TO;SUCCEEDS ABOVE NOT EQUAL TO"]⟩,
    ⟨0x2AB7, "", ["PRECEDES ABOVE ALMOST EQUAL TO;SUCCEEDS ABOVE ALMOST EQUAL TO"]⟩,
    ⟨0x2AB9, "", ["PRECEDES ABOVE NOT ALMOST EQUAL TO;SUCCEEDS ABOVE NOT ALMOST EQUAL TO"]⟩,
    ⟨0x2ABB, "DOUBLE ", ["PRECEDES;SUCCEEDS"]⟩,
    ⟨0x2ABD, "", ["SUBSET WITH DOT;SUPERSET WITH DOT;SUBSET WITH PLUS SIGN BELOW",
      "SUPERSET WITH PLUS SIGN BELOW;SUBSET WITH MULTIPLICATION SIGN BELOW",
      "SUPERSET WITH MULTIPLICATION SIGN BELOW;SUBSET OF OR EQUAL TO WITH DOT ABOVE",
      "SUPERSET OF OR EQUAL TO WITH DOT ABOVE;SUBSET OF ABOVE EQUALS SIGN",
      "SUPERSET OF ABOVE EQUALS SIGN;SUBSET OF ABOVE TILDE OPERATOR",
      "SUPERSET OF ABOVE TILDE OPERATOR;SUBSET OF ABOVE ALMOST EQUAL TO",
      "SUPERSET OF ABOVE ALMOST EQUAL TO;SUBSET OF ABOVE NOT EQUAL TO",
      "SUPERSET OF ABOVE NOT EQUAL TO;SQUARE LEFT OPEN BOX OPERATOR",
      "SQUARE RIGHT OPEN BOX OPERATOR"]⟩,
    ⟨0x2ACF, "CLOSED ", ["SUBSET;SUPERSET;SUBSET OR EQUAL TO;SUPERSET OR EQUAL TO"]⟩,
    ⟨0x2AD3, "", ["SUBSET ABOVE SUPERSET;SUPERSET ABOVE SUBSET;SUBSET ABOVE SUBSET",
      "SUPERSET ABOVE SUPERSET;SUPERSET BESIDE SUBSET",
      "SUPERSET BESIDE AND JOINED BY DASH WITH SUBSET;ELEMENT OF OPENING DOWNWARDS"]⟩,
    ⟨0x2ADA, "", ["PITCHFORK WITH TEE TOP;TRANSVERSAL INTERSECTION"]⟩,
    ⟨0x2ADC, "", ["FORKING;NONFORKING"]⟩, ⟨0x2ADE, "SHORT ", ["LEFT TACK;DOWN TACK;UP TACK"]⟩,
    ⟨0x2AE1, "", ["PERPENDICULAR WITH S;VERTICAL BAR TRIPLE RIGHT TURNSTILE"]⟩,
    ⟨0x2AE3, "", ["DOUBLE VERTICAL BAR LEFT TURNSTILE;VERTICAL BAR DOUBLE LEFT TURNSTILE"]⟩,
    ⟨0x2AE5, "", ["DOUBLE VERTICAL BAR DOUBLE LEFT TURNSTILE",
      "LONG DASH FROM LEFT MEMBER OF DOUBLE VERTICAL"]⟩,
    ⟨0x2AE7, "SHORT ", ["DOWN TACK WITH OVERBAR;UP TACK WITH UNDERBAR",
      "UP TACK ABOVE SHORT DOWN TACK"]⟩,
    ⟨0x2AEA, "DOUBLE ", ["DOWN TACK;UP TACK;STROKE NOT SIGN"]⟩,
    ⟨0x2AED, "", ["REVERSED DOUBLE STROKE NOT SIGN;DOES NOT DIVIDE WITH REVERSED NEGATION SLASH"]⟩,
    ⟨0x2AEF, "VERTICAL LINE WITH CIRCLE ", ["ABOVE;BELOW"]⟩,
    ⟨0x2AF1, "DOWN TACK WITH CIRCLE ", ["BELOW"]⟩,
    ⟨0x2AF2, "PARALLEL WITH ", ["HORIZONTAL STROKE;TILDE OPERATOR"]⟩,
    ⟨0x2AF4, "TRIPLE ", ["VERTICAL BAR BINARY RELATION;VERTICAL BAR WITH HORIZONTAL STROKE",
      "COLON OPERATOR;NESTED LESS-THAN;NESTED GREATER-THAN"]⟩,
    ⟨0x2AF9, "DOUBLE-LINE SLANTED ", ["LESS-THAN OR EQUAL TO;GREATER-THAN OR EQUAL TO"]⟩,
    ⟨0x2AFB, "", ["TRIPLE SOLIDUS BINARY RELATION;LARGE TRIPLE VERTICAL BAR OPERATOR"]⟩,
    ⟨0x2AFD, "", ["DOUBLE SOLIDUS OPERATOR;WHITE VERTICAL BAR"]⟩,
    ⟨0x2AFF, "", ["N-ARY WHITE VERTICAL BAR;NORTH EAST WHITE ARROW;NORTH WEST WHITE ARROW"]⟩,
    ⟨0x2B02, "SOUTH ", ["EAST WHITE ARROW;WEST WHITE ARROW"]⟩,
    ⟨0x2B04, "", ["LEFT RIGHT WHITE ARROW;LEFTWARDS BLACK ARROW"]⟩,
    ⟨0x2B06, "", ["UPWARDS BLACK ARROW;DOWNWARDS BLACK ARROW"]⟩,
    ⟨0x2B08, "NORTH ", ["EAST BLACK ARROW;WEST BLACK ARROW"]⟩,
    ⟨0x2B0A, "SOUTH ", ["EAST BLACK ARROW;WEST BLACK ARROW"]⟩,
    ⟨0x2B0C, "", ["LEFT RIGHT BLACK ARROW;UP DOWN BLACK ARROW"]⟩,
    ⟨0x2B0E, "RIGHTWARDS ARROW WITH TIP ", ["DOWNWARDS;UPWARDS"]⟩,
    ⟨0x2B10, "LEFTWARDS ARROW WITH TIP ", ["DOWNWARDS;UPWARDS"]⟩,
    ⟨0x2B12, "SQUARE WITH ", ["TOP HALF BLACK;BOTTOM HALF BLACK;UPPER RIGHT DIAGONAL HALF BLACK",
      "LOWER LEFT DIAGONAL HALF BLACK"]⟩,
    ⟨0x2B16, "DIAMOND WITH ", ["LEFT HALF BLACK;RIGHT HALF BLACK;TOP HALF BLACK",
      "BOTTOM HALF BLACK"]⟩, ⟨0x2B1A, "", ["DOTTED SQUARE;BLACK LARGE SQUARE"]⟩,
    ⟨0x2B1C, "", ["WHITE LARGE SQUARE;BLACK VERY SMALL SQUARE"]⟩,
    ⟨0x2B1E, "", ["WHITE VERY SMALL SQUARE;BLACK PENTAGON"]⟩,
    ⟨0x2B20, "WHITE ", ["PENTAGON;HEXAGON"]⟩,
    ⟨0x2B22, "", ["BLACK HEXAGON;HORIZONTAL BLACK HEXAGON"]⟩,
    ⟨0x2B24, "", ["BLACK LARGE CIRCLE;BLACK MEDIUM DIAMOND;WHITE MEDIUM DIAMOND"]⟩,
    ⟨0x2B27, "", ["BLACK MEDIUM LOZENGE;WHITE MEDIUM LOZENGE"]⟩,
    ⟨0x2B29, "", ["BLACK SMALL DIAMOND;BLACK SMALL LOZENGE;WHITE SMALL LOZENGE"]⟩,
    ⟨0x2B2C, "", ["BLACK HORIZONTAL ELLIPSE;WHITE HORIZONTAL ELLIPSE"]⟩,
    ⟨0x2B2E, "", ["BLACK VERTICAL ELLIPSE;WHITE VERTICAL ELLIPSE"]⟩,
    ⟨0x2B30, "", ["LEFT ARROW WITH SMALL CIRCLE;THREE LEFTWARDS ARROWS"]⟩,
    ⟨0x2B32, "", ["LEFT ARROW WITH CIRCLED PLUS;LONG LEFTWARDS SQUIGGLE ARROW"]⟩,
    ⟨0x2B34, "LEFTWARDS TWO-HEADED ", ["ARROW WITH VERTICAL STROKE",
      "ARROW WITH DOUBLE VERTICAL STROKE;ARROW FROM BAR;TRIPLE DASH ARROW"]⟩,
    ⟨0x2B38, "LEFTWARDS ARROW WITH ", ["DOTTED STEM;TAIL WITH VERTICAL STROKE",
      "TAIL WITH DOUBLE VERTICAL STROKE"]⟩,
    ⟨0x2B3B, "LEFTWARDS TWO-HEADED ARROW WITH ", ["TAIL;TAIL WITH VERTICAL STROKE",
      "TAIL WITH DOUBLE VERTICAL STROKE"]⟩, ⟨0x2B3E, "LEFTWARDS ARROW THROUGH ", ["X"]⟩,
    ⟨0x2B3F, "", ["WAVE ARROW POINTING DIRECTLY LEFT;EQUALS SIGN ABOVE LEFTWARDS ARROW"]⟩,
    ⟨0x2B41, "", ["REVERSE TILDE OPERATOR ABOVE LEFTWARDS ARROW",
      "LEFTWARDS ARROW ABOVE REVERSE ALMOST EQUAL TO"]⟩,
    ⟨0x2B43, "RIGHTWARDS ARROW THROUGH ", ["GREATER-THAN;SUPERSET"]⟩,
    ⟨0x2B45, "LEFTWARDS QUADRUPLE ", ["ARROW"]⟩,
    ⟨0x2B46, "", ["RIGHTWARDS QUADRUPLE ARROW;REVERSE TILDE OPERATOR ABOVE RIGHTWARDS ARROW",
      "RIGHTWARDS ARROW ABOVE REVERSE ALMOST EQUAL TO;TILDE OPERATOR ABOVE LEFTWARDS ARROW"]⟩,
    ⟨0x2B4A, "LEFTWARDS ARROW ABOVE ", ["ALMOST EQUAL TO;REVERSE TILDE OPERATOR"]⟩,
    ⟨0x2B4C, "", ["RIGHTWARDS ARROW ABOVE REVERSE TILDE OPERATOR",
      "DOWNWARDS TRIANGLE-HEADED ZIGZAG ARROW"]⟩,
    ⟨0x2B4E, "", ["SHORT SLANTED NORTH ARROW;SHORT BACKSLANTED SOUTH ARROW;WHITE MEDIUM STAR"]⟩,
    ⟨0x2B51, "", ["BLACK SMALL STAR;WHITE SMALL STAR"]⟩,
    ⟨0x2B53, "", ["BLACK RIGHT-POINTING PENTAGON;WHITE RIGHT-POINTING PENTAGON"]⟩,
    ⟨0x2B55, "HEAVY ", ["LARGE CIRCLE;OVAL WITH OVAL INSIDE;CIRCLE WITH CIRCLE INSIDE;CIRCLE",
      "CIRCLED SALTIRE"]⟩, ⟨0x2B5A, "SLANTED NORTH ARROW WITH HOOKED ", ["HEAD"]⟩,
    ⟨0x2B5B, "", ["BACKSLANTED SOUTH ARROW WITH HOOKED TAIL",
      "SLANTED NORTH ARROW WITH HORIZONTAL TAIL"]⟩,
    ⟨0x2B5D, "", ["BACKSLANTED SOUTH ARROW WITH HORIZONTAL TAIL",
      "BENT ARROW POINTING DOWNWARDS THEN NORTH EAST",
      "SHORT BENT ARROW POINTING DOWNWARDS THEN NORTH EAST"]⟩,
    ⟨0x2B60, "", ["LEFTWARDS TRIANGLE-HEADED ARROW;UPWARDS TRIANGLE-HEADED ARROW"]⟩,
    ⟨0x2B62, "", ["RIGHTWARDS TRIANGLE-HEADED ARROW;DOWNWARDS TRIANGLE-HEADED ARROW"]⟩,
    ⟨0x2B64, "", ["LEFT RIGHT TRIANGLE-HEADED ARROW;UP DOWN TRIANGLE-HEADED ARROW"]⟩,
    ⟨0x2B66, "NORTH ", ["WEST TRIANGLE-HEADED ARROW;EAST TRIANGLE-HEADED ARROW"]⟩,
    ⟨0x2B68, "SOUTH ", ["EAST TRIANGLE-HEADED ARROW;WEST TRIANGLE-HEADED ARROW"]⟩,
    ⟨0x2B6A, "", ["LEFTWARDS TRIANGLE-HEADED DASHED ARROW;UPWARDS TRIANGLE-HEADED DASHED ARROW"]⟩,
    ⟨0x2B6C, "", ["RIGHTWARDS TRIANGLE-HEADED DASHED ARROW",
      "DOWNWARDS TRIANGLE-HEADED DASHED ARROW"]⟩,
    ⟨0x2B6E, "", ["CLOCKWISE TRIANGLE-HEADED OPEN CIRCLE ARROW",
      "ANTICLOCKWISE TRIANGLE-HEADED OPEN CIRCLE ARROW"]⟩,
    ⟨0x2B70, "", ["LEFTWARDS TRIANGLE-HEADED ARROW TO BAR;UPWARDS TRIANGLE-HEADED ARROW TO BAR"]⟩,
    ⟨0x2B72, "", ["RIGHTWARDS TRIANGLE-HEADED ARROW TO BAR",
      "DOWNWARDS TRIANGLE-HEADED ARROW TO BAR"]⟩,
    ⟨0x2B76, "NORTH ", ["WEST TRIANGLE-HEADED ARROW TO BAR;EAST TRIANGLE-HEADED ARROW TO BAR"]⟩,
    ⟨0x2B78, "SOUTH ", ["EAST TRIANGLE-HEADED ARROW TO BAR;WEST TRIANGLE-HEADED ARROW TO BAR"]⟩,
    ⟨0x2B7A, "", ["LEFTWARDS TRIANGLE-HEADED ARROW WITH DOUBLE HORIZONTAL STROKE",
      "UPWARDS TRIANGLE-HEADED ARROW WITH DOUBLE HORIZONTAL STROKE"]⟩,
    ⟨0x2B7C, "", ["RIGHTWARDS TRIANGLE-HEADED ARROW WITH DOUBLE HORIZONTAL STROKE",
      "DOWNWARDS TRIANGLE-HEADED ARROW WITH DOUBLE HORIZONTAL STROKE"]⟩,
    ⟨0x2B7E, "", ["HORIZONTAL TAB KEY;VERTICAL TAB KEY"]⟩,
    ⟨0x2B80, "", ["LEFTWARDS TRIANGLE-HEADED ARROW OVER RIGHTWARDS TRIANGLE-HEADED ARROW",
      "UPWARDS TRIANGLE-HEADED ARROW LEFTWARDS OF DOWNWARDS TRIANGLE-HEADED ARROW"]⟩,
    ⟨0x2B82, "", ["RIGHTWARDS TRIANGLE-HEADED ARROW OVER LEFTWARDS TRIANGLE-HEADED ARROW",
      "DOWNWARDS TRIANGLE-HEADED ARROW LEFTWARDS OF UPWARDS TRIANGLE-HEADED ARROW"]⟩,
    ⟨0x2B84, "", ["LEFTWARDS TRIANGLE-HEADED PAIRED ARROWS",
      "UPWARDS TRIANGLE-HEADED PAIRED ARROWS"]⟩,
    ⟨0x2B86, "", ["RIGHTWARDS TRIANGLE-HEADED PAIRED ARROWS",
      "DOWNWARDS TRIANGLE-HEADED PAIRED ARROWS"]⟩,
    ⟨0x2B88, "", ["LEFTWARDS BLACK CIRCLED WHITE ARROW;UPWARDS BLACK CIRCLED WHITE ARROW"]⟩,
    ⟨0x2B8A, "", ["RIGHTWARDS BLACK CIRCLED WHITE ARROW;DOWNWARDS BLACK CIRCLED WHITE ARROW"]⟩,
    ⟨0x2B8C, "ANTICLOCKWISE TRIANGLE-HEADED ", ["RIGHT U-SHAPED ARROW;BOTTOM U-SHAPED ARROW",
      "LEFT U-SHAPED ARROW;TOP U-SHAPED ARROW"]⟩, ⟨0x2B90, "RETURN ", ["LEFT;RIGHT"]⟩,
    ⟨0x2B92, "NEWLINE ", ["LEFT;RIGHT"]⟩,
    ⟨0x2B94, "", ["FOUR CORNER ARROWS CIRCLING ANTICLOCKWISE;RIGHTWARDS BLACK ARROW"]⟩,
    ⟨0x2B97, "SYMBOL FOR TYPE A ", ["ELECTRONICS"]⟩,
    ⟨0x2B98, "THREE-D ", ["TOP-LIGHTED LEFTWARDS EQUILATERAL ARROWHEAD",
      "RIGHT-LIGHTED UPWARDS EQUILATERAL ARROWHEAD;TOP-LIGHTED RIGHTWARDS EQUILATERAL ARROWHEAD",
      "LEFT-LIGHTED DOWNWARDS EQUILATERAL ARROWHEAD"]⟩,
    ⟨0x2B9C, "BLACK ", ["LEFTWARDS EQUILATERAL ARROWHEAD;UPWARDS EQUILATERAL ARROWHEAD",
      "RIGHTWARDS EQUILATERAL ARROWHEAD;DOWNWARDS EQUILATERAL ARROWHEAD"]⟩,
    ⟨0x2BA0, "DOWNWARDS TRIANGLE-HEADED ARROW WITH LONG TIP ", ["LEFTWARDS;RIGHTWARDS"]⟩,
    ⟨0x2BA2, "UPWARDS TRIANGLE-HEADED ARROW WITH LONG TIP ", ["LEFTWARDS;RIGHTWARDS"]⟩,
    ⟨0x2BA4, "", ["LEFTWARDS TRIANGLE-HEADED ARROW WITH LONG TIP UPWARDS",
      "RIGHTWARDS TRIANGLE-HEADED ARROW WITH LONG TIP UPWARDS"]⟩,
    ⟨0x2BA6, "", ["LEFTWARDS TRIANGLE-HEADED ARROW WITH LONG TIP DOWNWARDS",
      "RIGHTWARDS TRIANGLE-HEADED ARROW WITH LONG TIP DOWNWARDS"]⟩,
    ⟨0x2BA8, "BLACK CURVED ", ["DOWNWARDS AND LEFTWARDS ARROW;DOWNWARDS AND RIGHTWARDS ARROW",
      "UPWARDS AND LEFTWARDS ARROW;UPWARDS AND RIGHTWARDS ARROW;LEFTWARDS AND UPWARDS ARROW",
      "RIGHTWARDS AND UPWARDS ARROW;LEFTWARDS AND DOWNWARDS ARROW",
      "RIGHTWARDS AND DOWNWARDS ARROW"]⟩,
    ⟨0x2BB0, "RIBBON ARROW ", ["DOWN LEFT;DOWN RIGHT;UP LEFT;UP RIGHT;LEFT UP;RIGHT UP;LEFT DOWN",
      "RIGHT DOWN"]⟩,
    ⟨0x2BB8, "", ["UPWARDS WHITE ARROW FROM BAR WITH HORIZONTAL BAR",
      "UP ARROWHEAD IN A RECTANGLE BOX"]⟩,
    ⟨0x2BBA, "OVERLAPPING ", ["WHITE SQUARES;WHITE AND BLACK SQUARES;BLACK SQUARES"]⟩,
    ⟨0x2BBD, "BALLOT BOX WITH LIGHT ", ["X"]⟩, ⟨0x2BBE, "CIRCLED ", ["X;BOLD X"]⟩,
    ⟨0x2BC0, "", ["BLACK SQUARE CENTRED;BLACK DIAMOND CENTRED;TURNED BLACK PENTAGON"]⟩,
    ⟨0x2BC3, "", ["HORIZONTAL BLACK OCTAGON;BLACK OCTAGON"]⟩,
    ⟨0x2BC5, "BLACK MEDIUM ", ["UP-POINTING TRIANGLE CENTRED;DOWN-POINTING TRIANGLE CENTRED",
      "LEFT-POINTING TRIANGLE CENTRED;RIGHT-POINTING TRIANGLE CENTRED"]⟩,
    ⟨0x2BC9, "", ["NEPTUNE FORM TWO;TOP HALF BLACK CIRCLE"]⟩,
    ⟨0x2BCB, "", ["BOTTOM HALF BLACK CIRCLE;LIGHT FOUR POINTED BLACK CUSP"]⟩,
    ⟨0x2BCD, "", ["ROTATED LIGHT FOUR POINTED BLACK CUSP;WHITE FOUR POINTED CUSP"]⟩,
    ⟨0x2BCF, "", ["ROTATED WHITE FOUR POINTED CUSP;SQUARE POSITION INDICATOR"]⟩,
    ⟨0x2BD1, "", ["UNCERTAINTY SIGN;GROUP MARK"]⟩,
    ⟨0x2BD3, "PLUTO FORM ", ["TWO;THREE;FOUR;FIVE"]⟩, ⟨0x2BD7, "", ["TRANSPLUTO"]⟩,
    ⟨0x2BD8, "", ["PROSERPINA;ASTRAEA"]⟩, ⟨0x2BDA, "", ["HYGIEA;PHOLUS"]⟩,
    ⟨0x2BDC, "", ["NESSUS;WHITE MOON SELENA"]⟩,
    ⟨0x2BDE, "", ["BLACK DIAMOND ON CROSS;TRUE LIGHT MOON ARTA"]⟩, ⟨0x2BE0, "", ["CUPIDO;HADES"]⟩,
    ⟨0x2BE2, "", ["ZEUS;KRONOS"]⟩, ⟨0x2BE4, "", ["APOLLON;ADMETOS"]⟩,
    ⟨0x2BE6, "", ["VULCANUS;POSEIDON"]⟩,
    ⟨0x2BE8, "", ["LEFT HALF BLACK STAR;RIGHT HALF BLACK STAR"]⟩,
    ⟨0x2BEA, "STAR WITH ", ["LEFT HALF BLACK;RIGHT HALF BLACK"]⟩,
    ⟨0x2BEC, "", ["LEFTWARDS TWO-HEADED ARROW WITH TRIANGLE ARROWHEADS",
      "UPWARDS TWO-HEADED ARROW WITH TRIANGLE ARROWHEADS"]⟩,
    ⟨0x2BEE, "", ["RIGHTWARDS TWO-HEADED ARROW WITH TRIANGLE ARROWHEADS",
      "DOWNWARDS TWO-HEADED ARROW WITH TRIANGLE ARROWHEADS"]⟩,
    ⟨0x2BF0, "", ["ERIS FORM ONE;ERIS FORM TWO;SEDNA"]⟩,
    ⟨0x2BF3, "RUSSIAN ASTROLOGICAL SYMBOL ", ["VIGINTILE;NOVILE;QUINTILE;BINOVILE;SENTAGON",
      "TREDECILE"]⟩, ⟨0x2BF9, "EQUALS SIGN WITH INFINITY ", ["BELOW"]⟩,
    ⟨0x2BFA, "", ["UNITED SYMBOL;SEPARATED SYMBOL"]⟩,
    ⟨0x2BFC, "", ["DOUBLED SYMBOL;PASSED SYMBOL"]⟩,
    ⟨0x2BFE, "", ["REVERSED RIGHT ANGLE;HELLSCHREIBER PAUSE SYMBOL"]⟩,
    ⟨0x2C00, "GLAGOLITIC CAPITAL LETTER ", ["AZU;BUKY;VEDE;GLAGOLI;DOBRO;YESTU;ZHIVETE;DZELO",
      "ZEMLJA;IZHE;INITIAL IZHE;I;DJERVI;KAKO;LJUDIJE;MYSLITE;NASHI;ONU;POKOJI;RITSI;SLOVO;TVRIDO",
      "UKU;FRITU;HERU;OTU;PE;SHTA;TSI;CHRIVI;SHA;YERU;YERI;YATI;SPIDERY HA;YU;SMALL YUS",
      "SMALL YUS WITH TAIL;YO;IOTATED SMALL YUS;BIG YUS;IOTATED BIG YUS;FITA;IZHITSA;SHTAPIC",
      "TROKUTASTI A;LATINATE MYSLITE;CAUDATE CHRIVI"]⟩,
    ⟨0x2C30, "GLAGOLITIC SMALL LETTER ", ["AZU;BUKY;VEDE;GLAGOLI;DOBRO;YESTU;ZHIVETE;DZELO;ZEMLJA",
      "IZHE;INITIAL IZHE;I;DJERVI;KAKO;LJUDIJE;MYSLITE;NASHI;ONU;POKOJI;RITSI;SLOVO;TVRIDO;UKU",
      "FRITU;HERU;OTU;PE;SHTA;TSI;CHRIVI;SHA;YERU;YERI;YATI;SPIDERY HA;YU;SMALL YUS",
      "SMALL YUS WITH TAIL;YO;IOTATED SMALL YUS;BIG YUS;IOTATED BIG YUS;FITA;IZHITSA;SHTAPIC",
      "TROKUTASTI A;LATINATE MYSLITE;CAUDATE CHRIVI"]⟩,
    ⟨0x2C60, "LATIN ", ["CAPITAL LETTER L WITH DOUBLE BAR;SMALL LETTER L WITH DOUBLE BAR",
      "CAPITAL LETTER L WITH MIDDLE TILDE;CAPITAL LETTER P WITH STROKE;CAPITAL LETTER R WITH TAIL",
      "SMALL LETTER A WITH STROKE;SMALL LETTER T WITH DIAGONAL STROKE",
      "CAPITAL LETTER H WITH DESCENDER;SMALL LETTER H WITH DESCENDER",
      "CAPITAL LETTER K WITH DESCENDER;SMALL LETTER K WITH DESCENDER",
      "CAPITAL LETTER Z WITH DESCENDER;SMALL LETTER Z WITH DESCENDER"]⟩,
    ⟨0x2C6D, "LATIN CAPITAL LETTER ", ["ALPHA;M WITH HOOK;TURNED A;TURNED ALPHA"]⟩,
    ⟨0x2C71, "LATIN ", ["SMALL LETTER V WITH RIGHT HOOK;CAPITAL LETTER W WITH HOOK",
      "SMALL LETTER W WITH HOOK;SMALL LETTER V WITH CURL;CAPITAL LETTER HALF H"]⟩,
    ⟨0x2C76, "LATIN SMALL LETTER ", ["HALF H;TAILLESS PHI;E WITH NOTCH;TURNED R WITH TAIL",
      "O WITH LOW RING INSIDE"]⟩,
    ⟨0x2C7B, "", ["LATIN LETTER SMALL CAPITAL TURNED E;LATIN SUBSCRIPT SMALL LETTER J",
      "MODIFIER LETTER CAPITAL V"]⟩,
    ⟨0x2C7E, "LATIN CAPITAL LETTER ", ["S WITH SWASH TAIL;Z WITH SWASH TAIL"]⟩,
    ⟨0x2C80, "COPTIC ", ["CAPITAL LETTER ALFA;SMALL LETTER ALFA;CAPITAL LETTER VIDA",
      "SMALL LETTER VIDA;CAPITAL LETTER GAMMA;SMALL LETTER GAMMA;CAPITAL LETTER DALDA",
      "SMALL LETTER DALDA;CAPITAL LETTER EIE;SMALL LETTER EIE;CAPITAL LETTER SOU;SMALL LETTER SOU",
      "CAPITAL LETTER ZATA;SMALL LETTER ZATA;CAPITAL LETTER HATE;SMALL LETTER HATE",
      "CAPITAL LETTER THETHE;SMALL LETTER THETHE;CAPITAL LETTER IAUDA;SMALL LETTER IAUDA",
      "CAPITAL LETTER KAPA;SMALL LETTER KAPA;CAPITAL LETTER LAULA;SMALL LETTER LAULA",
      "CAPITAL LETTER MI;SMALL LETTER MI;CAPITAL LETTER NI;SMALL LETTER NI;CAPITAL LETTER KSI",
      "SMALL LETTER KSI;CAPITAL LETTER O;SMALL LETTER O;CAPITAL LETTER PI;SMALL LETTER PI",
      "CAPITAL LETTER RO;SMALL LETTER RO;CAPITAL LETTER SIMA;SMALL LETTER SIMA;CAPITAL LETTER TAU",
      "SMALL LETTER TAU;CAPITAL LETTER UA;SMALL LETTER UA;CAPITAL LETTER FI;SMALL LETTER FI",
      "CAPITAL LETTER KHI;SMALL LETTER KHI;CAPITAL LETTER PSI;SMALL LETTER PSI;CAPITAL LETTER OOU",
      "SMALL LETTER OOU;CAPITAL LETTER DIALECT-P ALEF;SMALL LETTER DIALECT-P ALEF",
      "CAPITAL LETTER OLD COPTIC AIN;SMALL LETTER OLD COPTIC AIN;CAPITAL LETTER CRYPTOGRAMMIC EIE",
      "SMALL LETTER CRYPTOGRAMMIC EIE;CAPITAL LETTER DIALECT-P KAPA;SMALL LETTER DIALECT-P KAPA",
      "CAPITAL LETTER DIALECT-P NI;SMALL LETTER DIALECT-P NI;CAPITAL LETTER CRYPTOGRAMMIC NI",
      "SMALL LETTER CRYPTOGRAMMIC NI;CAPITAL LETTER OLD COPTIC OOU;SMALL LETTER OLD COPTIC OOU",
      "CAPITAL LETTER SAMPI;SMALL LETTER SAMPI;CAPITAL LETTER CROSSED SHEI",
      "SMALL LETTER CROSSED SHEI;CAPITAL LETTER OLD COPTIC SHEI;SMALL LETTER OLD COPTIC SHEI",
      "CAPITAL LETTER OLD COPTIC ESH;SMALL LETTER OLD COPTIC ESH;CAPITAL LETTER AKHMIMIC KHEI",
      "SMALL LETTER AKHMIMIC KHEI;CAPITAL LETTER DIALECT-P HORI;SMALL LETTER DIALECT-P HORI",
      "CAPITAL LETTER OLD COPTIC HORI;SMALL LETTER OLD COPTIC HORI;CAPITAL LETTER OLD COPTIC HA",
      "SMALL LETTER OLD COPTIC HA;CAPITAL LETTER L-SHAPED HA;SMALL LETTER L-SHAPED HA",
      "CAPITAL LETTER OLD COPTIC HEI;SMALL LETTER OLD COPTIC HEI;CAPITAL LETTER OLD COPTIC HAT",
      "SMALL LETTER OLD COPTIC HAT;CAPITAL LETTER OLD COPTIC GANGIA",
      "SMALL LETTER OLD COPTIC GANGIA;CAPITAL LETTER OLD COPTIC DJA;SMALL LETTER OLD COPTIC DJA",
      "CAPITAL LETTER OLD COPTIC SHIMA;SMALL LETTER OLD COPTIC SHIMA",
      "CAPITAL LETTER OLD NUBIAN SHIMA;SMALL LETTER OLD NUBIAN SHIMA",
      "CAPITAL LETTER OLD NUBIAN NGI;SMALL LETTER OLD NUBIAN NGI;CAPITAL LETTER OLD NUBIAN NYI",
      "SMALL LETTER OLD NUBIAN NYI;CAPITAL LETTER OLD NUBIAN WAU;SMALL LETTER OLD NUBIAN WAU",
      "SYMBOL KAI;SYMBOL MI RO;SYMBOL PI RO;SYMBOL STAUROS;SYMBOL TAU RO;SYMBOL KHI RO",
      "SYMBOL SHIMA SIMA;CAPITAL LETTER CRYPTOGRAMMIC SHEI;SMALL LETTER CRYPTOGRAMMIC SHEI",
      "CAPITAL LETTER CRYPTOGRAMMIC GANGIA;SMALL LETTER CRYPTOGRAMMIC GANGIA;COMBINING NI ABOVE",
      "COMBINING SPIRITUS ASPER;COMBINING SPIRITUS LENIS;CAPITAL LETTER BOHAIRIC KHEI",
      "SMALL LETTER BOHAIRIC KHEI"]⟩,
    ⟨0x2CF9, "COPTIC OLD NUBIAN ", ["FULL STOP;DIRECT QUESTION MARK;INDIRECT QUESTION MARK",
      "VERSE DIVIDER"]⟩,
    ⟨0x2CFD, "COPTIC ", ["FRACTION ONE HALF;FULL STOP;MORPHOLOGICAL DIVIDER"]⟩,
    ⟨0x2D00, "GEORGIAN SMALL LETTER ", ["AN;BAN;GAN;DON;EN;VIN;ZEN;TAN;IN;KAN;LAS;MAN;NAR;ON;PAR",
      "ZHAR;RAE;SAN;TAR;UN;PHAR;KHAR;GHAN;QAR;SHIN;CHIN;CAN;JIL;CIL;CHAR;XAN;JHAN;HAE;HE;HIE;WE",
      "HAR;HOE"]⟩, ⟨0x2D27, "GEORGIAN SMALL LETTER ", ["YN"]⟩,
    ⟨0x2D2D, "GEORGIAN SMALL LETTER ", ["AEN"]⟩,
    ⟨0x2D30, "TIFINAGH LETTER ", ["YA;YAB;YABH;YAG;YAGHH;BERBER ACADEMY YAJ;YAJ;YAD;YADH;YADD",
      "YADDH;YEY;YAF;YAK;TUAREG YAK;YAKHH;YAH;BERBER ACADEMY YAH;TUAREG YAH;YAHH;YAA;YAKH",
      "TUAREG YAKH;YAQ;TUAREG YAQ;YI;YAZH;AHAGGAR YAZH;TUAREG YAZH;YAL;YAM;YAN;TUAREG YAGN",
      "TUAREG YANG;YAP;YU;YAR;YARR;YAGH;TUAREG YAGH;AYER YAGH;YAS;YASS;YASH;YAT;YATH;YACH;YATT",
      "YAV;YAW;YAY;YAZ;TAWELLEMET YAZ;YAZZ;YE;YO"]⟩,
    ⟨0x2D6F, "TIFINAGH ", ["MODIFIER LETTER LABIALIZATION MARK;SEPARATOR MARK"]⟩,
    ⟨0x2D7F, "TIFINAGH CONSONANT ", ["JOINER"]⟩,
    ⟨0x2D80, "ETHIOPIC SYLLABLE ", ["LOA;MOA;ROA;SOA;SHOA;BOA;TOA;COA;NOA;NYOA;GLOTTAL OA;ZOA;DOA",
      "DDOA;JOA;THOA;CHOA;PHOA;POA;GGWA;GGWI;GGWEE;GGWE"]⟩,
    ⟨0x2DA0, "ETHIOPIC SYLLABLE ", ["SSA;SSU;SSI;SSAA;SSEE;SSE;SSO"]⟩,
    ⟨0x2DA8, "ETHIOPIC SYLLABLE ", ["CCA;CCU;CCI;CCAA;CCEE;CCE;CCO"]⟩,
    ⟨0x2DB0, "ETHIOPIC SYLLABLE ", ["ZZA;ZZU;ZZI;ZZAA;ZZEE;ZZE;ZZO"]⟩,
    ⟨0x2DB8, "ETHIOPIC SYLLABLE ", ["CCHA;CCHU;CCHI;CCHAA;CCHEE;CCHE;CCHO"]⟩,
    ⟨0x2DC0, "ETHIOPIC SYLLABLE ", ["QYA;QYU;QYI;QYAA;QYEE;QYE;QYO"]⟩,
    ⟨0x2DC8, "ETHIOPIC SYLLABLE ", ["KYA;KYU;KYI;KYAA;KYEE;KYE;KYO"]⟩,
    ⟨0x2DD0, "ETHIOPIC SYLLABLE ", ["XYA;XYU;XYI;XYAA;XYEE;XYE;XYO"]⟩,
    ⟨0x2DD8, "ETHIOPIC SYLLABLE ", ["GYA;GYU;GYI;GYAA;GYEE;GYE;GYO"]⟩,
    ⟨0x2DE0, "COMBINING CYRILLIC LETTER ", ["BE;VE;GHE;DE;ZHE;ZE;KA;EL;EM;EN;O;PE;ER;ES;TE;HA;TSE",
      "CHE;SHA;SHCHA;FITA;ES-TE;A;IE;DJERV;MONOGRAPH UK;YAT;YU;IOTIFIED A;LITTLE YUS;BIG YUS",
      "IOTIFIED BIG YUS"]⟩,
    ⟨0x2E00, "RIGHT ANGLE ", ["SUBSTITUTION MARKER;DOTTED SUBSTITUTION MARKER"]⟩,
    ⟨0x2E02, "", ["LEFT SUBSTITUTION BRACKET;RIGHT SUBSTITUTION BRACKET"]⟩,
    ⟨0x2E04, "", ["LEFT DOTTED SUBSTITUTION BRACKET;RIGHT DOTTED SUBSTITUTION BRACKET"]⟩,
    ⟨0x2E06, "RAISED ", ["INTERPOLATION MARKER;DOTTED INTERPOLATION MARKER"]⟩,
    ⟨0x2E08, "", ["DOTTED TRANSPOSITION MARKER;LEFT TRANSPOSITION BRACKET"]⟩,
    ⟨0x2E0A, "", ["RIGHT TRANSPOSITION BRACKET;RAISED SQUARE;LEFT RAISED OMISSION BRACKET"]⟩,
    ⟨0x2E0D, "", ["RIGHT RAISED OMISSION BRACKET;EDITORIAL CORONIS"]⟩,
    ⟨0x2E0F, "", ["PARAGRAPHOS;FORKED PARAGRAPHOS"]⟩,
    ⟨0x2E11, "", ["REVERSED FORKED PARAGRAPHOS;HYPODIASTOLE"]⟩,
    ⟨0x2E13, "", ["DOTTED OBELOS;DOWNWARDS ANCORA;UPWARDS ANCORA"]⟩,
    ⟨0x2E16, "", ["DOTTED RIGHT-POINTING ANGLE;DOUBLE OBLIQUE HYPHEN"]⟩,
    ⟨0x2E18, "", ["INVERTED INTERROBANG;PALM BRANCH"]⟩,
    ⟨0x2E1A, "", ["HYPHEN WITH DIAERESIS;TILDE WITH RING ABOVE"]⟩,
    ⟨0x2E1C, "", ["LEFT LOW PARAPHRASE BRACKET;RIGHT LOW PARAPHRASE BRACKET"]⟩,
    ⟨0x2E1E, "TILDE WITH DOT ", ["ABOVE;BELOW"]⟩,
    ⟨0x2E20, "", ["LEFT VERTICAL BAR WITH QUILL;RIGHT VERTICAL BAR WITH QUILL"]⟩,
    ⟨0x2E22, "TOP ", ["LEFT HALF BRACKET;RIGHT HALF BRACKET"]⟩,
    ⟨0x2E24, "", ["BOTTOM LEFT HALF BRACKET;BOTTOM RIGHT HALF BRACKET;LEFT SIDEWAYS U BRACKET"]⟩,
    ⟨0x2E27, "", ["RIGHT SIDEWAYS U BRACKET;LEFT DOUBLE PARENTHESIS"]⟩,
    ⟨0x2E29, "", ["RIGHT DOUBLE PARENTHESIS;TWO DOTS OVER ONE DOT PUNCTUATION"]⟩,
    ⟨0x2E2B, "", ["ONE DOT OVER TWO DOTS PUNCTUATION;SQUARED FOUR DOT PUNCTUATION"]⟩,
    ⟨0x2E2D, "", ["FIVE DOT MARK;REVERSED QUESTION MARK"]⟩,
    ⟨0x2E2F, "", ["VERTICAL TILDE;RING POINT"]⟩,
    ⟨0x2E31, "", ["WORD SEPARATOR MIDDLE DOT;TURNED COMMA"]⟩,
    ⟨0x2E33, "", ["RAISED DOT;RAISED COMMA;TURNED SEMICOLON"]⟩,
    ⟨0x2E36, "DAGGER WITH ", ["LEFT GUARD;RIGHT GUARD"]⟩,
    ⟨0x2E38, "", ["TURNED DAGGER;TOP HALF SECTION SIGN;TWO-EM DASH;THREE-EM DASH"]⟩,
    ⟨0x2E3C, "", ["STENOGRAPHIC FULL STOP;VERTICAL SIX DOTS"]⟩,
    ⟨0x2E3E, "", ["WIGGLY VERTICAL LINE;CAPITULUM"]⟩,
    ⟨0x2E40, "", ["DOUBLE HYPHEN;REVERSED COMMA"]⟩,
    ⟨0x2E42, "", ["DOUBLE LOW-REVERSED-9 QUOTATION MARK;DASH WITH LEFT UPTURN",
      "DOUBLE SUSPENSION MARK"]⟩, ⟨0x2E45, "INVERTED LOW ", ["KAVYKA;KAVYKA WITH KAVYKA ABOVE"]⟩,
    ⟨0x2E47, "LOW ", ["KAVYKA;KAVYKA WITH DOT"]⟩,
    ⟨0x2E49, "", ["DOUBLE STACKED COMMA;DOTTED SOLIDUS"]⟩,
    ⟨0x2E4B, "", ["TRIPLE DAGGER;MEDIEVAL COMMA"]⟩,
    ⟨0x2E4D, "", ["PARAGRAPHUS MARK;PUNCTUS ELEVATUS MARK;CORNISH VERSE DIVIDER"]⟩,
    ⟨0x2E50, "CROSS PATTY WITH ", ["RIGHT CROSSBAR;LEFT CROSSBAR"]⟩,
    ⟨0x2E52, "TIRONIAN SIGN CAPITAL ", ["ET"]⟩,
    ⟨0x2E53, "MEDIEVAL ", ["EXCLAMATION MARK;QUESTION MARK"]⟩,
    ⟨0x2E55, "", ["LEFT SQUARE BRACKET WITH STROKE;RIGHT SQUARE BRACKET WITH STROKE"]⟩,
    ⟨0x2E57, "", ["LEFT SQUARE BRACKET WITH DOUBLE STROKE",
      "RIGHT SQUARE BRACKET WITH DOUBLE STROKE"]⟩,
    ⟨0x2E59, "TOP HALF ", ["LEFT PARENTHESIS;RIGHT PARENTHESIS"]⟩,
    ⟨0x2E5B, "", ["BOTTOM HALF LEFT PARENTHESIS;BOTTOM HALF RIGHT PARENTHESIS;OBLIQUE HYPHEN"]⟩ ]

end TagCloud.Text
