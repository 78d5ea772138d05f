import TagCloud.Text.Name.Run

/-!
# Signs and symbols

The names of punctuation, currencies, numbers, arrows, operators and technical signs.
-/

namespace TagCloud.Text

/-- The names of the characters from U+2000 to U+24FF. -/
def symbolNames : List NameRun :=
  [ ⟨0x2000, "", ["EN QUAD;EM QUAD;EN SPACE;EM SPACE;THREE-PER-EM SPACE"]⟩,
    ⟨0x2005, "", ["FOUR-PER-EM SPACE;SIX-PER-EM SPACE"]⟩,
    ⟨0x2007, "", ["FIGURE SPACE;PUNCTUATION SPACE"]⟩, ⟨0x2009, "", ["THIN SPACE;HAIR SPACE"]⟩,
    ⟨0x200B, "ZERO WIDTH ", ["SPACE;NON-JOINER;JOINER"]⟩, ⟨0x200E, "LEFT-TO-RIGHT ", ["MARK"]⟩,
    ⟨0x200F, "", ["RIGHT-TO-LEFT MARK;HYPHEN"]⟩, ⟨0x2011, "", ["NON-BREAKING HYPHEN;FIGURE DASH"]⟩,
    ⟨0x2013, "", ["EN DASH;EM DASH;HORIZONTAL BAR"]⟩,
    ⟨0x2016, "DOUBLE ", ["VERTICAL LINE;LOW LINE"]⟩,
    ⟨0x2018, "", ["LEFT SINGLE QUOTATION MARK;RIGHT SINGLE QUOTATION MARK"]⟩,
    ⟨0x201A, "SINGLE ", ["LOW-9 QUOTATION MARK;HIGH-REVERSED-9 QUOTATION MARK"]⟩,
    ⟨0x201C, "", ["LEFT DOUBLE QUOTATION MARK;RIGHT DOUBLE QUOTATION MARK"]⟩,
    ⟨0x201E, "", ["DOUBLE LOW-9 QUOTATION MARK;DOUBLE HIGH-REVERSED-9 QUOTATION MARK;DAGGER",
      "DOUBLE DAGGER"]⟩, ⟨0x2022, "", ["BULLET;TRIANGULAR BULLET"]⟩,
    ⟨0x2024, "", ["ONE DOT LEADER;TWO DOT LEADER"]⟩,
    ⟨0x2026, "", ["HORIZONTAL ELLIPSIS;HYPHENATION POINT"]⟩,
    ⟨0x2028, "", ["LINE SEPARATOR;PARAGRAPH SEPARATOR"]⟩,
    ⟨0x202A, "", ["LEFT-TO-RIGHT EMBEDDING;RIGHT-TO-LEFT EMBEDDING"]⟩,
    ⟨0x202C, "", ["POP DIRECTIONAL FORMATTING;LEFT-TO-RIGHT OVERRIDE"]⟩,
    ⟨0x202E, "", ["RIGHT-TO-LEFT OVERRIDE;NARROW NO-BREAK SPACE"]⟩,
    ⟨0x2030, "", ["PER MILLE SIGN;PER TEN THOUSAND SIGN;PRIME"]⟩,
    ⟨0x2033, "", ["DOUBLE PRIME;TRIPLE PRIME"]⟩,
    ⟨0x2035, "REVERSED ", ["PRIME;DOUBLE PRIME;TRIPLE PRIME"]⟩, ⟨0x2038, "", ["CARET"]⟩,
    ⟨0x2039, "", ["SINGLE LEFT-POINTING ANGLE QUOTATION MARK",
      "SINGLE RIGHT-POINTING ANGLE QUOTATION MARK;REFERENCE MARK"]⟩,
    ⟨0x203C, "", ["DOUBLE EXCLAMATION MARK;INTERROBANG"]⟩, ⟨0x203E, "", ["OVERLINE;UNDERTIE"]⟩,
    ⟨0x2040, "", ["CHARACTER TIE;CARET INSERTION POINT"]⟩,
    ⟨0x2042, "", ["ASTERISM;HYPHEN BULLET"]⟩,
    ⟨0x2044, "", ["FRACTION SLASH;LEFT SQUARE BRACKET WITH QUILL"]⟩,
    ⟨0x2046, "", ["RIGHT SQUARE BRACKET WITH QUILL;DOUBLE QUESTION MARK"]⟩,
    ⟨0x2048, "", ["QUESTION EXCLAMATION MARK;EXCLAMATION QUESTION MARK"]⟩,
    ⟨0x204A, "", ["TIRONIAN SIGN ET;REVERSED PILCROW SIGN"]⟩,
    ⟨0x204C, "BLACK ", ["LEFTWARDS BULLET;RIGHTWARDS BULLET"]⟩,
    ⟨0x204E, "", ["LOW ASTERISK;REVERSED SEMICOLON"]⟩,
    ⟨0x2050, "", ["CLOSE UP;TWO ASTERISKS ALIGNED VERTICALLY"]⟩,
    ⟨0x2052, "", ["COMMERCIAL MINUS SIGN;SWUNG DASH"]⟩,
    ⟨0x2054, "", ["INVERTED UNDERTIE;FLOWER PUNCTUATION MARK"]⟩,
    ⟨0x2056, "", ["THREE DOT PUNCTUATION;QUADRUPLE PRIME"]⟩,
    ⟨0x2058, "", ["FOUR DOT PUNCTUATION;FIVE DOT PUNCTUATION"]⟩,
    ⟨0x205A, "", ["TWO DOT PUNCTUATION;FOUR DOT MARK"]⟩, ⟨0x205C, "", ["DOTTED CROSS;TRICOLON"]⟩,
    ⟨0x205E, "", ["VERTICAL FOUR DOTS;MEDIUM MATHEMATICAL SPACE"]⟩,
    ⟨0x2060, "", ["WORD JOINER;FUNCTION APPLICATION"]⟩,
    ⟨0x2062, "INVISIBLE ", ["TIMES;SEPARATOR;PLUS"]⟩,
    ⟨0x2066, "", ["LEFT-TO-RIGHT ISOLATE;RIGHT-TO-LEFT ISOLATE"]⟩,
    ⟨0x2068, "", ["FIRST STRONG ISOLATE;POP DIRECTIONAL ISOLATE"]⟩,
    ⟨0x206A, "", ["INHIBIT SYMMETRIC SWAPPING;ACTIVATE SYMMETRIC SWAPPING"]⟩,
    ⟨0x206C, "", ["INHIBIT ARABIC FORM SHAPING;ACTIVATE ARABIC FORM SHAPING"]⟩,
    ⟨0x206E, "", ["NATIONAL DIGIT SHAPES;NOMINAL DIGIT SHAPES"]⟩,
    ⟨0x2070, "SUPERSCRIPT ", ["ZERO;LATIN SMALL LETTER I"]⟩,
    ⟨0x2074, "SUPERSCRIPT ", ["FOUR;FIVE;SIX;SEVEN;EIGHT;NINE;PLUS SIGN;MINUS;EQUALS SIGN",
      "LEFT PARENTHESIS;RIGHT PARENTHESIS;LATIN SMALL LETTER N"]⟩,
    ⟨0x2080, "SUBSCRIPT ", ["ZERO;ONE;TWO;THREE;FOUR;FIVE;SIX;SEVEN;EIGHT;NINE;PLUS SIGN;MINUS",
      "EQUALS SIGN;LEFT PARENTHESIS;RIGHT PARENTHESIS"]⟩,
    ⟨0x2090, "LATIN SUBSCRIPT SMALL LETTER ", ["A;E;O;X;SCHWA;H;K;L;M;N;P;S;T"]⟩,
    ⟨0x20A0, "EURO-CURRENCY ", ["SIGN"]⟩, ⟨0x20A1, "", ["COLON SIGN;CRUZEIRO SIGN"]⟩,
    ⟨0x20A3, "", ["FRENCH FRANC SIGN;LIRA SIGN"]⟩, ⟨0x20A5, "", ["MILL SIGN;NAIRA SIGN"]⟩,
    ⟨0x20A7, "", ["PESETA SIGN;RUPEE SIGN"]⟩, ⟨0x20A9, "", ["WON SIGN;NEW SHEQEL SIGN"]⟩,
    ⟨0x20AB, "", ["DONG SIGN;EURO SIGN"]⟩, ⟨0x20AD, "", ["KIP SIGN;TUGRIK SIGN"]⟩,
    ⟨0x20AF, "", ["DRACHMA SIGN;GERMAN PENNY SIGN"]⟩, ⟨0x20B1, "", ["PESO SIGN;GUARANI SIGN"]⟩,
    ⟨0x20B3, "", ["AUSTRAL SIGN;HRYVNIA SIGN"]⟩, ⟨0x20B5, "", ["CEDI SIGN;LIVRE TOURNOIS SIGN"]⟩,
    ⟨0x20B7, "", ["SPESMILO SIGN;TENGE SIGN"]⟩,
    ⟨0x20B9, "", ["INDIAN RUPEE SIGN;TURKISH LIRA SIGN"]⟩,
    ⟨0x20BB, "", ["NORDIC MARK SIGN;MANAT SIGN"]⟩, ⟨0x20BD, "", ["RUBLE SIGN;LARI SIGN"]⟩,
    ⟨0x20BF, "", ["BITCOIN SIGN;SOM SIGN"]⟩,
    ⟨0x20D0, "COMBINING ", ["LEFT HARPOON ABOVE;RIGHT HARPOON ABOVE;LONG VERTICAL LINE OVERLAY",
      "SHORT VERTICAL LINE OVERLAY;ANTICLOCKWISE ARROW ABOVE;CLOCKWISE ARROW ABOVE",
      "LEFT ARROW ABOVE;RIGHT ARROW ABOVE;RING OVERLAY;CLOCKWISE RING OVERLAY",
      "ANTICLOCKWISE RING OVERLAY;THREE DOTS ABOVE;FOUR DOTS ABOVE;ENCLOSING CIRCLE",
      "ENCLOSING SQUARE;ENCLOSING DIAMOND;ENCLOSING CIRCLE BACKSLASH;LEFT RIGHT ARROW ABOVE",
      "ENCLOSING SCREEN;ENCLOSING KEYCAP;ENCLOSING UPWARD POINTING TRIANGLE",
      "REVERSE SOLIDUS OVERLAY;DOUBLE VERTICAL STROKE OVERLAY;ANNUITY SYMBOL;TRIPLE UNDERDOT",
      "WIDE BRIDGE ABOVE;LEFTWARDS ARROW OVERLAY;LONG DOUBLE SOLIDUS OVERLAY",
      "RIGHTWARDS HARPOON WITH BARB DOWNWARDS;LEFTWARDS HARPOON WITH BARB DOWNWARDS",
      "LEFT ARROW BELOW;RIGHT ARROW BELOW;ASTERISK ABOVE"]⟩,
    ⟨0x2100, "", ["ACCOUNT OF;ADDRESSED TO THE SUBJECT"]⟩,
    ⟨0x2102, "", ["DOUBLE-STRUCK CAPITAL C;DEGREE CELSIUS"]⟩,
    ⟨0x2104, "", ["CENTRE LINE SYMBOL;CARE OF;CADA UNA;EULER CONSTANT"]⟩,
    ⟨0x2108, "", ["SCRUPLE;DEGREE FAHRENHEIT"]⟩, ⟨0x210A, "SCRIPT ", ["SMALL G;CAPITAL H"]⟩,
    ⟨0x210C, "", ["BLACK-LETTER CAPITAL H;DOUBLE-STRUCK CAPITAL H"]⟩,
    ⟨0x210E, "PLANCK ", ["CONSTANT;CONSTANT OVER TWO PI"]⟩,
    ⟨0x2110, "", ["SCRIPT CAPITAL I;BLACK-LETTER CAPITAL I"]⟩,
    ⟨0x2112, "", ["SCRIPT CAPITAL L;SCRIPT SMALL L;L B BAR SYMBOL"]⟩,
    ⟨0x2115, "", ["DOUBLE-STRUCK CAPITAL N;NUMERO SIGN"]⟩,
    ⟨0x2117, "", ["SOUND RECORDING COPYRIGHT;SCRIPT CAPITAL P"]⟩,
    ⟨0x2119, "DOUBLE-STRUCK CAPITAL ", ["P;Q"]⟩,
    ⟨0x211B, "", ["SCRIPT CAPITAL R;BLACK-LETTER CAPITAL R"]⟩,
    ⟨0x211D, "", ["DOUBLE-STRUCK CAPITAL R;PRESCRIPTION TAKE"]⟩,
    ⟨0x211F, "", ["RESPONSE;SERVICE MARK"]⟩, ⟨0x2121, "", ["TELEPHONE SIGN;TRADE MARK SIGN"]⟩,
    ⟨0x2123, "", ["VERSICLE;DOUBLE-STRUCK CAPITAL Z"]⟩, ⟨0x2125, "", ["OUNCE SIGN;OHM SIGN"]⟩,
    ⟨0x2127, "", ["INVERTED OHM SIGN;BLACK-LETTER CAPITAL Z"]⟩,
    ⟨0x2129, "", ["TURNED GREEK SMALL LETTER IOTA;KELVIN SIGN"]⟩,
    ⟨0x212B, "", ["ANGSTROM SIGN;SCRIPT CAPITAL B"]⟩,
    ⟨0x212D, "", ["BLACK-LETTER CAPITAL C;ESTIMATED SYMBOL"]⟩,
    ⟨0x212F, "", ["SCRIPT SMALL E;SCRIPT CAPITAL E;SCRIPT CAPITAL F;TURNED CAPITAL F"]⟩,
    ⟨0x2133, "", ["SCRIPT CAPITAL M;SCRIPT SMALL O;ALEF SYMBOL"]⟩,
    ⟨0x2136, "", ["BET SYMBOL;GIMEL SYMBOL"]⟩, ⟨0x2138, "", ["DALET SYMBOL;INFORMATION SOURCE"]⟩,
    ⟨0x213A, "", ["ROTATED CAPITAL Q;FACSIMILE SIGN"]⟩,
    ⟨0x213C, "DOUBLE-STRUCK ", ["SMALL PI;SMALL GAMMA;CAPITAL GAMMA;CAPITAL PI;N-ARY SUMMATION"]⟩,
    ⟨0x2141, "TURNED SANS-SERIF CAPITAL ", ["G;L"]⟩,
    ⟨0x2143, "", ["REVERSED SANS-SERIF CAPITAL L;TURNED SANS-SERIF CAPITAL Y"]⟩,
    ⟨0x2145, "DOUBLE-STRUCK ITALIC ", ["CAPITAL D;SMALL D;SMALL E;SMALL I;SMALL J"]⟩,
    ⟨0x214A, "", ["PROPERTY LINE;TURNED AMPERSAND"]⟩, ⟨0x214C, "", ["PER SIGN;AKTIESELSKAB"]⟩,
    ⟨0x214E, "", ["TURNED SMALL F;SYMBOL FOR SAMARITAN SOURCE"]⟩,
    ⟨0x2150, "VULGAR FRACTION ", ["ONE SEVENTH;ONE NINTH;ONE TENTH;ONE THIRD;TWO THIRDS;ONE FIFTH",
      "TWO FIFTHS;THREE FIFTHS;FOUR FIFTHS;ONE SIXTH;FIVE SIXTHS;ONE EIGHTH;THREE EIGHTHS",
      "FIVE EIGHTHS;SEVEN EIGHTHS"]⟩, ⟨0x215F, "FRACTION NUMERATOR ", ["ONE"]⟩,
    ⟨0x2160, "ROMAN NUMERAL ", ["ONE;TWO;THREE;FOUR;FIVE;SIX;SEVEN;EIGHT;NINE;TEN;ELEVEN;TWELVE",
      "FIFTY;ONE HUNDRED;FIVE HUNDRED;ONE THOUSAND"]⟩,
    ⟨0x2170, "SMALL ROMAN NUMERAL ", ["ONE;TWO;THREE;FOUR;FIVE;SIX;SEVEN;EIGHT;NINE;TEN;ELEVEN",
      "TWELVE;FIFTY;ONE HUNDRED;FIVE HUNDRED;ONE THOUSAND"]⟩,
    ⟨0x2180, "ROMAN NUMERAL ", ["ONE THOUSAND C D;FIVE THOUSAND;TEN THOUSAND",
      "REVERSED ONE HUNDRED"]⟩, ⟨0x2184, "LATIN SMALL LETTER REVERSED ", ["C"]⟩,
    ⟨0x2185, "ROMAN NUMERAL ", ["SIX LATE FORM;FIFTY EARLY FORM;FIFTY THOUSAND",
      "ONE HUNDRED THOUSAND"]⟩, ⟨0x2189, "VULGAR FRACTION ZERO ", ["THIRDS"]⟩,
    ⟨0x218A, "TURNED DIGIT ", ["TWO;THREE"]⟩, ⟨0x2190, "", ["LEFTWARDS ARROW;UPWARDS ARROW"]⟩,
    ⟨0x2192, "", ["RIGHTWARDS ARROW;DOWNWARDS ARROW"]⟩,
    ⟨0x2194, "", ["LEFT RIGHT ARROW;UP DOWN ARROW"]⟩,
    ⟨0x2196, "NORTH ", ["WEST ARROW;EAST ARROW"]⟩,
    ⟨0x2198, "", ["SOUTH EAST ARROW;SOUTH WEST ARROW;LEFTWARDS ARROW WITH STROKE"]⟩,
    ⟨0x219B, "", ["RIGHTWARDS ARROW WITH STROKE;LEFTWARDS WAVE ARROW"]⟩,
    ⟨0x219D, "", ["RIGHTWARDS WAVE ARROW;LEFTWARDS TWO HEADED ARROW"]⟩,
    ⟨0x219F, "", ["UPWARDS TWO HEADED ARROW;RIGHTWARDS TWO HEADED ARROW"]⟩,
    ⟨0x21A1, "", ["DOWNWARDS TWO HEADED ARROW;LEFTWARDS ARROW WITH TAIL"]⟩,
    ⟨0x21A3, "", ["RIGHTWARDS ARROW WITH TAIL;LEFTWARDS ARROW FROM BAR"]⟩,
    ⟨0x21A5, "", ["UPWARDS ARROW FROM BAR;RIGHTWARDS ARROW FROM BAR"]⟩,
    ⟨0x21A7, "", ["DOWNWARDS ARROW FROM BAR;UP DOWN ARROW WITH BASE"]⟩,
    ⟨0x21A9, "", ["LEFTWARDS ARROW WITH HOOK;RIGHTWARDS ARROW WITH HOOK"]⟩,
    ⟨0x21AB, "", ["LEFTWARDS ARROW WITH LOOP;RIGHTWARDS ARROW WITH LOOP"]⟩,
    ⟨0x21AD, "", ["LEFT RIGHT WAVE ARROW;LEFT RIGHT ARROW WITH STROKE;DOWNWARDS ZIGZAG ARROW"]⟩,
    ⟨0x21B0, "UPWARDS ARROW WITH TIP ", ["LEFTWARDS;RIGHTWARDS"]⟩,
    ⟨0x21B2, "DOWNWARDS ARROW WITH TIP ", ["LEFTWARDS;RIGHTWARDS"]⟩,
    ⟨0x21B4, "", ["RIGHTWARDS ARROW WITH CORNER DOWNWARDS;DOWNWARDS ARROW WITH CORNER LEFTWARDS"]⟩,
    ⟨0x21B6, "", ["ANTICLOCKWISE TOP SEMICIRCLE ARROW;CLOCKWISE TOP SEMICIRCLE ARROW"]⟩,
    ⟨0x21B8, "", ["NORTH WEST ARROW TO LONG BAR",
      "LEFTWARDS ARROW TO BAR OVER RIGHTWARDS ARROW TO BAR"]⟩,
    ⟨0x21BA, "", ["ANTICLOCKWISE OPEN CIRCLE ARROW;CLOCKWISE OPEN CIRCLE ARROW"]⟩,
    ⟨0x21BC, "LEFTWARDS HARPOON WITH BARB ", ["UPWARDS;DOWNWARDS"]⟩,
    ⟨0x21BE, "UPWARDS HARPOON WITH BARB ", ["RIGHTWARDS;LEFTWARDS"]⟩,
    ⟨0x21C0, "RIGHTWARDS HARPOON WITH BARB ", ["UPWARDS;DOWNWARDS"]⟩,
    ⟨0x21C2, "DOWNWARDS HARPOON WITH BARB ", ["RIGHTWARDS;LEFTWARDS"]⟩,
    ⟨0x21C4, "", ["RIGHTWARDS ARROW OVER LEFTWARDS ARROW",
      "UPWARDS ARROW LEFTWARDS OF DOWNWARDS ARROW"]⟩,
    ⟨0x21C6, "", ["LEFTWARDS ARROW OVER RIGHTWARDS ARROW;LEFTWARDS PAIRED ARROWS",
      "UPWARDS PAIRED ARROWS"]⟩,
    ⟨0x21C9, "", ["RIGHTWARDS PAIRED ARROWS;DOWNWARDS PAIRED ARROWS"]⟩,
    ⟨0x21CB, "", ["LEFTWARDS HARPOON OVER RIGHTWARDS HARPOON",
      "RIGHTWARDS HARPOON OVER LEFTWARDS HARPOON"]⟩,
    ⟨0x21CD, "", ["LEFTWARDS DOUBLE ARROW WITH STROKE;LEFT RIGHT DOUBLE ARROW WITH STROKE",
      "RIGHTWARDS DOUBLE ARROW WITH STROKE"]⟩,
    ⟨0x21D0, "", ["LEFTWARDS DOUBLE ARROW;UPWARDS DOUBLE ARROW"]⟩,
    ⟨0x21D2, "", ["RIGHTWARDS DOUBLE ARROW;DOWNWARDS DOUBLE ARROW"]⟩,
    ⟨0x21D4, "", ["LEFT RIGHT DOUBLE ARROW;UP DOWN DOUBLE ARROW"]⟩,
    ⟨0x21D6, "NORTH ", ["WEST DOUBLE ARROW;EAST DOUBLE ARROW"]⟩,
    ⟨0x21D8, "SOUTH ", ["EAST DOUBLE ARROW;WEST DOUBLE ARROW"]⟩,
    ⟨0x21DA, "", ["LEFTWARDS TRIPLE ARROW;RIGHTWARDS TRIPLE ARROW"]⟩,
    ⟨0x21DC, "", ["LEFTWARDS SQUIGGLE ARROW;RIGHTWARDS SQUIGGLE ARROW"]⟩,
    ⟨0x21DE, "", ["UPWARDS ARROW WITH DOUBLE STROKE;DOWNWARDS ARROW WITH DOUBLE STROKE"]⟩,
    ⟨0x21E0, "", ["LEFTWARDS DASHED ARROW;UPWARDS DASHED ARROW"]⟩,
    ⟨0x21E2, "", ["RIGHTWARDS DASHED ARROW;DOWNWARDS DASHED ARROW"]⟩,
    ⟨0x21E4, "", ["LEFTWARDS ARROW TO BAR;RIGHTWARDS ARROW TO BAR"]⟩,
    ⟨0x21E6, "", ["LEFTWARDS WHITE ARROW;UPWARDS WHITE ARROW"]⟩,
    ⟨0x21E8, "", ["RIGHTWARDS WHITE ARROW;DOWNWARDS WHITE ARROW"]⟩,
    ⟨0x21EA, "UPWARDS WHITE ", ["ARROW FROM BAR;ARROW ON PEDESTAL",
      "ARROW ON PEDESTAL WITH HORIZONTAL BAR;ARROW ON PEDESTAL WITH VERTICAL BAR;DOUBLE ARROW",
      "DOUBLE ARROW ON PEDESTAL"]⟩, ⟨0x21F0, "RIGHTWARDS WHITE ARROW FROM ", ["WALL"]⟩,
    ⟨0x21F1, "", ["NORTH WEST ARROW TO CORNER;SOUTH EAST ARROW TO CORNER"]⟩,
    ⟨0x21F3, "", ["UP DOWN WHITE ARROW;RIGHT ARROW WITH SMALL CIRCLE"]⟩,
    ⟨0x21F5, "", ["DOWNWARDS ARROW LEFTWARDS OF UPWARDS ARROW;THREE RIGHTWARDS ARROWS"]⟩,
    ⟨0x21F7, "", ["LEFTWARDS ARROW WITH VERTICAL STROKE;RIGHTWARDS ARROW WITH VERTICAL STROKE"]⟩,
    ⟨0x21F9, "", ["LEFT RIGHT ARROW WITH VERTICAL STROKE",
      "LEFTWARDS ARROW WITH DOUBLE VERTICAL STROKE;RIGHTWARDS ARROW WITH DOUBLE VERTICAL STROKE"]⟩,
    ⟨0x21FC, "", ["LEFT RIGHT ARROW WITH DOUBLE VERTICAL STROKE;LEFTWARDS OPEN-HEADED ARROW",
      "RIGHTWARDS OPEN-HEADED ARROW"]⟩, ⟨0x21FF, "", ["LEFT RIGHT OPEN-HEADED ARROW;FOR ALL"]⟩,
    ⟨0x2201, "", ["COMPLEMENT;PARTIAL DIFFERENTIAL"]⟩,
    ⟨0x2203, "THERE ", ["EXISTS;DOES NOT EXIST"]⟩, ⟨0x2205, "", ["EMPTY SET;INCREMENT"]⟩,
    ⟨0x2207, "", ["NABLA;ELEMENT OF"]⟩, ⟨0x2209, "", ["NOT AN ELEMENT OF;SMALL ELEMENT OF"]⟩,
    ⟨0x220B, "", ["CONTAINS AS MEMBER;DOES NOT CONTAIN AS MEMBER"]⟩,
    ⟨0x220D, "", ["SMALL CONTAINS AS MEMBER;END OF PROOF"]⟩,
    ⟨0x220F, "N-ARY ", ["PRODUCT;COPRODUCT;SUMMATION"]⟩,
    ⟨0x2212, "", ["MINUS SIGN;MINUS-OR-PLUS SIGN"]⟩,
    ⟨0x2214, "", ["DOT PLUS;DIVISION SLASH;SET MINUS"]⟩,
    ⟨0x2217, "", ["ASTERISK OPERATOR;RING OPERATOR"]⟩,
    ⟨0x2219, "", ["BULLET OPERATOR;SQUARE ROOT"]⟩, ⟨0x221B, "", ["CUBE ROOT;FOURTH ROOT"]⟩,
    ⟨0x221D, "", ["PROPORTIONAL TO;INFINITY"]⟩, ⟨0x221F, "", ["RIGHT ANGLE;ANGLE"]⟩,
    ⟨0x2221, "", ["MEASURED ANGLE;SPHERICAL ANGLE"]⟩, ⟨0x2223, "", ["DIVIDES;DOES NOT DIVIDE"]⟩,
    ⟨0x2225, "", ["PARALLEL TO;NOT PARALLEL TO"]⟩, ⟨0x2227, "LOGICAL ", ["AND;OR"]⟩,
    ⟨0x2229, "", ["INTERSECTION;UNION"]⟩, ⟨0x222B, "", ["INTEGRAL;DOUBLE INTEGRAL"]⟩,
    ⟨0x222D, "", ["TRIPLE INTEGRAL;CONTOUR INTEGRAL"]⟩,
    ⟨0x222F, "", ["SURFACE INTEGRAL;VOLUME INTEGRAL"]⟩,
    ⟨0x2231, "CLOCKWISE ", ["INTEGRAL;CONTOUR INTEGRAL"]⟩,
    ⟨0x2233, "", ["ANTICLOCKWISE CONTOUR INTEGRAL;THEREFORE"]⟩, ⟨0x2235, "", ["BECAUSE;RATIO"]⟩,
    ⟨0x2237, "", ["PROPORTION;DOT MINUS"]⟩, ⟨0x2239, "", ["EXCESS;GEOMETRIC PROPORTION"]⟩,
    ⟨0x223B, "", ["HOMOTHETIC;TILDE OPERATOR"]⟩, ⟨0x223D, "", ["REVERSED TILDE;INVERTED LAZY S"]⟩,
    ⟨0x223F, "", ["SINE WAVE;WREATH PRODUCT"]⟩, ⟨0x2241, "", ["NOT TILDE;MINUS TILDE"]⟩,
    ⟨0x2243, "", ["ASYMPTOTICALLY EQUAL TO;NOT ASYMPTOTICALLY EQUAL TO"]⟩,
    ⟨0x2245, "", ["APPROXIMATELY EQUAL TO;APPROXIMATELY BUT NOT ACTUALLY EQUAL TO",
      "NEITHER APPROXIMATELY NOR ACTUALLY EQUAL TO"]⟩,
    ⟨0x2248, "", ["ALMOST EQUAL TO;NOT ALMOST EQUAL TO"]⟩,
    ⟨0x224A, "", ["ALMOST EQUAL OR EQUAL TO;TRIPLE TILDE"]⟩,
    ⟨0x224C, "", ["ALL EQUAL TO;EQUIVALENT TO"]⟩,
    ⟨0x224E, "", ["GEOMETRICALLY EQUIVALENT TO;DIFFERENCE BETWEEN"]⟩,
    ⟨0x2250, "", ["APPROACHES THE LIMIT;GEOMETRICALLY EQUAL TO"]⟩,
    ⟨0x2252, "", ["APPROXIMATELY EQUAL TO OR THE IMAGE OF;IMAGE OF OR APPROXIMATELY EQUAL TO"]⟩,
    ⟨0x2254, "", ["COLON EQUALS;EQUALS COLON"]⟩,
    ⟨0x2256, "", ["RING IN EQUAL TO;RING EQUAL TO;CORRESPONDS TO"]⟩,
    ⟨0x2259, "", ["ESTIMATES;EQUIANGULAR TO;STAR EQUALS"]⟩,
    ⟨0x225C, "", ["DELTA EQUAL TO;EQUAL TO BY DEFINITION"]⟩,
    ⟨0x225E, "", ["MEASURED BY;QUESTIONED EQUAL TO"]⟩, ⟨0x2260, "", ["NOT EQUAL TO;IDENTICAL TO"]⟩,
    ⟨0x2262, "", ["NOT IDENTICAL TO;STRICTLY EQUIVALENT TO"]⟩,
    ⟨0x2264, "", ["LESS-THAN OR EQUAL TO;GREATER-THAN OR EQUAL TO"]⟩,
    ⟨0x2266, "", ["LESS-THAN OVER EQUAL TO;GREATER-THAN OVER EQUAL TO"]⟩,
    ⟨0x2268, "", ["LESS-THAN BUT NOT EQUAL TO;GREATER-THAN BUT NOT EQUAL TO"]⟩,
    ⟨0x226A, "", ["MUCH LESS-THAN;MUCH GREATER-THAN;BETWEEN"]⟩,
    ⟨0x226D, "NOT ", ["EQUIVALENT TO;LESS-THAN;GREATER-THAN"]⟩,
    ⟨0x2270, "NEITHER ", ["LESS-THAN NOR EQUAL TO;GREATER-THAN NOR EQUAL TO"]⟩,
    ⟨0x2272, "", ["LESS-THAN OR EQUIVALENT TO;GREATER-THAN OR EQUIVALENT TO"]⟩,
    ⟨0x2274, "NEITHER ", ["LESS-THAN NOR EQUIVALENT TO;GREATER-THAN NOR EQUIVALENT TO"]⟩,
    ⟨0x2276, "", ["LESS-THAN OR GREATER-THAN;GREATER-THAN OR LESS-THAN"]⟩,
    ⟨0x2278, "NEITHER ", ["LESS-THAN NOR GREATER-THAN;GREATER-THAN NOR LESS-THAN"]⟩,
    ⟨0x227A, "", ["PRECEDES;SUCCEEDS"]⟩,
    ⟨0x227C, "", ["PRECEDES OR EQUAL TO;SUCCEEDS OR EQUAL TO"]⟩,
    ⟨0x227E, "", ["PRECEDES OR EQUIVALENT TO;SUCCEEDS OR EQUIVALENT TO"]⟩,
    ⟨0x2280, "DOES NOT ", ["PRECEDE;SUCCEED"]⟩, ⟨0x2282, "", ["SUBSET OF;SUPERSET OF"]⟩,
    ⟨0x2284, "NOT A ", ["SUBSET OF;SUPERSET OF"]⟩,
    ⟨0x2286, "", ["SUBSET OF OR EQUAL TO;SUPERSET OF OR EQUAL TO"]⟩,
    ⟨0x2288, "NEITHER A ", ["SUBSET OF NOR EQUAL TO;SUPERSET OF NOR EQUAL TO"]⟩,
    ⟨0x228A, "", ["SUBSET OF WITH NOT EQUAL TO;SUPERSET OF WITH NOT EQUAL TO;MULTISET"]⟩,
    ⟨0x228D, "MULTISET ", ["MULTIPLICATION;UNION"]⟩,
    ⟨0x228F, "SQUARE ", ["IMAGE OF;ORIGINAL OF;IMAGE OF OR EQUAL TO;ORIGINAL OF OR EQUAL TO;CAP",
      "CUP"]⟩,
    ⟨0x2295, "CIRCLED ", ["PLUS;MINUS;TIMES;DIVISION SLASH;DOT OPERATOR;RING OPERATOR",
      "ASTERISK OPERATOR;EQUALS;DASH"]⟩, ⟨0x229E, "SQUARED ", ["PLUS;MINUS;TIMES;DOT OPERATOR"]⟩,
    ⟨0x22A2, "RIGHT ", ["TACK"]⟩, ⟨0x22A3, "", ["LEFT TACK;DOWN TACK"]⟩,
    ⟨0x22A5, "", ["UP TACK;ASSERTION"]⟩, ⟨0x22A7, "", ["MODELS;TRUE"]⟩,
    ⟨0x22A9, "", ["FORCES;TRIPLE VERTICAL BAR RIGHT TURNSTILE"]⟩,
    ⟨0x22AB, "", ["DOUBLE VERTICAL BAR DOUBLE RIGHT TURNSTILE;DOES NOT PROVE;NOT TRUE"]⟩,
    ⟨0x22AE, "", ["DOES NOT FORCE;NEGATED DOUBLE VERTICAL BAR DOUBLE RIGHT TURNSTILE"]⟩,
    ⟨0x22B0, "", ["PRECEDES UNDER RELATION;SUCCEEDS UNDER RELATION"]⟩,
    ⟨0x22B2, "", ["NORMAL SUBGROUP OF;CONTAINS AS NORMAL SUBGROUP"]⟩,
    ⟨0x22B4, "", ["NORMAL SUBGROUP OF OR EQUAL TO;CONTAINS AS NORMAL SUBGROUP OR EQUAL TO"]⟩,
    ⟨0x22B6, "", ["ORIGINAL OF;IMAGE OF"]⟩, ⟨0x22B8, "", ["MULTIMAP;HERMITIAN CONJUGATE MATRIX"]⟩,
    ⟨0x22BA, "", ["INTERCALATE;XOR"]⟩, ⟨0x22BC, "", ["NAND;NOR"]⟩,
    ⟨0x22BE, "RIGHT ", ["ANGLE WITH ARC;TRIANGLE"]⟩,
    ⟨0x22C0, "N-ARY ", ["LOGICAL AND;LOGICAL OR;INTERSECTION;UNION"]⟩,
    ⟨0x22C4, "", ["DIAMOND OPERATOR;DOT OPERATOR"]⟩,
    ⟨0x22C6, "", ["STAR OPERATOR;DIVISION TIMES"]⟩,
    ⟨0x22C8, "", ["BOWTIE;LEFT NORMAL FACTOR SEMIDIRECT PRODUCT"]⟩,
    ⟨0x22CA, "", ["RIGHT NORMAL FACTOR SEMIDIRECT PRODUCT;LEFT SEMIDIRECT PRODUCT"]⟩,
    ⟨0x22CC, "", ["RIGHT SEMIDIRECT PRODUCT;REVERSED TILDE EQUALS"]⟩,
    ⟨0x22CE, "CURLY LOGICAL ", ["OR;AND"]⟩,
    ⟨0x22D0, "DOUBLE ", ["SUBSET;SUPERSET;INTERSECTION;UNION"]⟩,
    ⟨0x22D4, "", ["PITCHFORK;EQUAL AND PARALLEL TO"]⟩,
    ⟨0x22D6, "", ["LESS-THAN WITH DOT;GREATER-THAN WITH DOT"]⟩,
    ⟨0x22D8, "VERY MUCH ", ["LESS-THAN;GREATER-THAN"]⟩,
    ⟨0x22DA, "", ["LESS-THAN EQUAL TO OR GREATER-THAN;GREATER-THAN EQUAL TO OR LESS-THAN"]⟩,
    ⟨0x22DC, "EQUAL TO OR ", ["LESS-THAN;GREATER-THAN;PRECEDES;SUCCEEDS"]⟩,
    ⟨0x22E0, "DOES NOT ", ["PRECEDE OR EQUAL;SUCCEED OR EQUAL"]⟩,
    ⟨0x22E2, "NOT SQUARE ", ["IMAGE OF OR EQUAL TO;ORIGINAL OF OR EQUAL TO"]⟩,
    ⟨0x22E4, "SQUARE ", ["IMAGE OF OR NOT EQUAL TO;ORIGINAL OF OR NOT EQUAL TO"]⟩,
    ⟨0x22E6, "", ["LESS-THAN BUT NOT EQUIVALENT TO;GREATER-THAN BUT NOT EQUIVALENT TO"]⟩,
    ⟨0x22E8, "", ["PRECEDES BUT NOT EQUIVALENT TO;SUCCEEDS BUT NOT EQUIVALENT TO"]⟩,
    ⟨0x22EA, "", ["NOT NORMAL SUBGROUP OF;DOES NOT CONTAIN AS NORMAL SUBGROUP"]⟩,
    ⟨0x22EC, "", ["NOT NORMAL SUBGROUP OF OR EQUAL TO",
      "DOES NOT CONTAIN AS NORMAL SUBGROUP OR EQUAL"]⟩,
    ⟨0x22EE, "", ["VERTICAL ELLIPSIS;MIDLINE HORIZONTAL ELLIPSIS"]⟩,
    ⟨0x22F0, "", ["UP RIGHT DIAGONAL ELLIPSIS;DOWN RIGHT DIAGONAL ELLIPSIS"]⟩,
    ⟨0x22F2, "ELEMENT OF WITH ", ["LONG HORIZONTAL STROKE",
      "VERTICAL BAR AT END OF HORIZONTAL STROKE"]⟩,
    ⟨0x22F4, "SMALL ELEMENT OF WITH VERTICAL BAR AT END OF HORIZONTAL ", ["STROKE"]⟩,
    ⟨0x22F5, "ELEMENT OF WITH ", ["DOT ABOVE;OVERBAR"]⟩,
    ⟨0x22F7, "SMALL ELEMENT OF WITH ", ["OVERBAR"]⟩,
    ⟨0x22F8, "ELEMENT OF WITH ", ["UNDERBAR;TWO HORIZONTAL STROKES"]⟩,
    ⟨0x22FA, "", ["CONTAINS WITH LONG HORIZONTAL STROKE",
      "CONTAINS WITH VERTICAL BAR AT END OF HORIZONTAL STROKE",
      "SMALL CONTAINS WITH VERTICAL BAR AT END OF HORIZONTAL STROKE"]⟩,
    ⟨0x22FD, "", ["CONTAINS WITH OVERBAR;SMALL CONTAINS WITH OVERBAR"]⟩,
    ⟨0x22FF, "", ["Z NOTATION BAG MEMBERSHIP;DIAMETER SIGN"]⟩,
    ⟨0x2301, "", ["ELECTRIC ARROW;HOUSE"]⟩, ⟨0x2303, "", ["UP ARROWHEAD;DOWN ARROWHEAD"]⟩,
    ⟨0x2305, "", ["PROJECTIVE;PERSPECTIVE;WAVY LINE"]⟩,
    ⟨0x2308, "", ["LEFT CEILING;RIGHT CEILING"]⟩, ⟨0x230A, "", ["LEFT FLOOR;RIGHT FLOOR"]⟩,
    ⟨0x230C, "BOTTOM ", ["RIGHT CROP;LEFT CROP"]⟩,
    ⟨0x230E, "", ["TOP RIGHT CROP;TOP LEFT CROP;REVERSED NOT SIGN"]⟩,
    ⟨0x2311, "", ["SQUARE LOZENGE;ARC"]⟩, ⟨0x2313, "", ["SEGMENT;SECTOR;TELEPHONE RECORDER"]⟩,
    ⟨0x2316, "", ["POSITION INDICATOR;VIEWDATA SQUARE"]⟩,
    ⟨0x2318, "", ["PLACE OF INTEREST SIGN;TURNED NOT SIGN"]⟩, ⟨0x231A, "", ["WATCH;HOURGLASS"]⟩,
    ⟨0x231C, "TOP ", ["LEFT CORNER;RIGHT CORNER"]⟩,
    ⟨0x231E, "BOTTOM ", ["LEFT CORNER;RIGHT CORNER"]⟩,
    ⟨0x2320, "", ["TOP HALF INTEGRAL;BOTTOM HALF INTEGRAL"]⟩, ⟨0x2322, "", ["FROWN;SMILE"]⟩,
    ⟨0x2324, "", ["UP ARROWHEAD BETWEEN TWO HORIZONTAL BARS;OPTION KEY"]⟩,
    ⟨0x2326, "", ["ERASE TO THE RIGHT;X IN A RECTANGLE BOX"]⟩,
    ⟨0x2328, "", ["KEYBOARD;LEFT-POINTING ANGLE BRACKET"]⟩,
    ⟨0x232A, "", ["RIGHT-POINTING ANGLE BRACKET;ERASE TO THE LEFT"]⟩,
    ⟨0x232C, "", ["BENZENE RING;CYLINDRICITY"]⟩, ⟨0x232E, "", ["ALL AROUND-PROFILE;SYMMETRY"]⟩,
    ⟨0x2330, "", ["TOTAL RUNOUT;DIMENSION ORIGIN"]⟩, ⟨0x2332, "", ["CONICAL TAPER;SLOPE"]⟩,
    ⟨0x2334, "", ["COUNTERBORE;COUNTERSINK"]⟩,
    ⟨0x2336, "APL FUNCTIONAL SYMBOL ", ["I-BEAM;SQUISH QUAD;QUAD EQUAL;QUAD DIVIDE;QUAD DIAMOND",
      "QUAD JOT;QUAD CIRCLE;CIRCLE STILE;CIRCLE JOT;SLASH BAR;BACKSLASH BAR;QUAD SLASH",
      "QUAD BACKSLASH;QUAD LESS-THAN;QUAD GREATER-THAN;LEFTWARDS VANE;RIGHTWARDS VANE",
      "QUAD LEFTWARDS ARROW;QUAD RIGHTWARDS ARROW;CIRCLE BACKSLASH;DOWN TACK UNDERBAR;DELTA STILE",
      "QUAD DOWN CARET;QUAD DELTA;DOWN TACK JOT;UPWARDS VANE;QUAD UPWARDS ARROW;UP TACK OVERBAR",
      "DEL STILE;QUAD UP CARET;QUAD DEL;UP TACK JOT;DOWNWARDS VANE;QUAD DOWNWARDS ARROW",
      "QUOTE UNDERBAR;DELTA UNDERBAR;DIAMOND UNDERBAR;JOT UNDERBAR;CIRCLE UNDERBAR;UP SHOE JOT",
      "QUOTE QUAD;CIRCLE STAR;QUAD COLON;UP TACK DIAERESIS;DEL DIAERESIS;STAR DIAERESIS",
      "JOT DIAERESIS;CIRCLE DIAERESIS;DOWN SHOE STILE;LEFT SHOE STILE;TILDE DIAERESIS",
      "GREATER-THAN DIAERESIS;COMMA BAR;DEL TILDE;ZILDE;STILE TILDE;SEMICOLON UNDERBAR",
      "QUAD NOT EQUAL;QUAD QUESTION;DOWN CARET TILDE;UP CARET TILDE;IOTA;RHO;OMEGA;ALPHA UNDERBAR",
      "EPSILON UNDERBAR;IOTA UNDERBAR;OMEGA UNDERBAR;ALPHA"]⟩,
    ⟨0x237B, "", ["NOT CHECK MARK;RIGHT ANGLE WITH DOWNWARDS ZIGZAG ARROW"]⟩,
    ⟨0x237D, "", ["SHOULDERED OPEN BOX;BELL SYMBOL"]⟩,
    ⟨0x237F, "", ["VERTICAL LINE WITH MIDDLE DOT;INSERTION SYMBOL"]⟩,
    ⟨0x2381, "", ["CONTINUOUS UNDERLINE SYMBOL;DISCONTINUOUS UNDERLINE SYMBOL"]⟩,
    ⟨0x2383, "", ["EMPHASIS SYMBOL;COMPOSITION SYMBOL"]⟩,
    ⟨0x2385, "", ["WHITE SQUARE WITH CENTRE VERTICAL LINE;ENTER SYMBOL"]⟩,
    ⟨0x2387, "", ["ALTERNATIVE KEY SYMBOL;HELM SYMBOL"]⟩,
    ⟨0x2389, "CIRCLED ", ["HORIZONTAL BAR WITH NOTCH;TRIANGLE DOWN"]⟩,
    ⟨0x238B, "", ["BROKEN CIRCLE WITH NORTHWEST ARROW;UNDO SYMBOL"]⟩,
    ⟨0x238D, "", ["MONOSTABLE SYMBOL;HYSTERESIS SYMBOL"]⟩,
    ⟨0x238F, "OPEN-CIRCUIT-OUTPUT ", ["H-TYPE SYMBOL;L-TYPE SYMBOL"]⟩,
    ⟨0x2391, "PASSIVE-PULL-", ["DOWN-OUTPUT SYMBOL;UP-OUTPUT SYMBOL"]⟩,
    ⟨0x2393, "", ["DIRECT CURRENT SYMBOL FORM TWO;SOFTWARE-FUNCTION SYMBOL"]⟩,
    ⟨0x2395, "", ["APL FUNCTIONAL SYMBOL QUAD;DECIMAL SEPARATOR KEY SYMBOL"]⟩,
    ⟨0x2397, "", ["PREVIOUS PAGE;NEXT PAGE"]⟩,
    ⟨0x2399, "", ["PRINT SCREEN SYMBOL;CLEAR SCREEN SYMBOL"]⟩,
    ⟨0x239B, "LEFT PARENTHESIS ", ["UPPER HOOK;EXTENSION;LOWER HOOK"]⟩,
    ⟨0x239E, "RIGHT PARENTHESIS ", ["UPPER HOOK;EXTENSION;LOWER HOOK"]⟩,
    ⟨0x23A1, "LEFT SQUARE BRACKET ", ["UPPER CORNER;EXTENSION;LOWER CORNER"]⟩,
    ⟨0x23A4, "RIGHT SQUARE BRACKET ", ["UPPER CORNER;EXTENSION;LOWER CORNER"]⟩,
    ⟨0x23A7, "LEFT CURLY BRACKET ", ["UPPER HOOK;MIDDLE PIECE;LOWER HOOK"]⟩,
    ⟨0x23AA, "CURLY BRACKET ", ["EXTENSION"]⟩,
    ⟨0x23AB, "RIGHT CURLY BRACKET ", ["UPPER HOOK;MIDDLE PIECE;LOWER HOOK"]⟩,
    ⟨0x23AE, "", ["INTEGRAL EXTENSION;HORIZONTAL LINE EXTENSION"]⟩,
    ⟨0x23B0, "UPPER ", ["LEFT OR LOWER RIGHT CURLY BRACKET SECTION",
      "RIGHT OR LOWER LEFT CURLY BRACKET SECTION"]⟩,
    ⟨0x23B2, "", ["SUMMATION TOP;SUMMATION BOTTOM;TOP SQUARE BRACKET"]⟩,
    ⟨0x23B5, "", ["BOTTOM SQUARE BRACKET;BOTTOM SQUARE BRACKET OVER TOP SQUARE BRACKET",
      "RADICAL SYMBOL BOTTOM"]⟩, ⟨0x23B8, "", ["LEFT VERTICAL BOX LINE;RIGHT VERTICAL BOX LINE"]⟩,
    ⟨0x23BA, "HORIZONTAL SCAN LINE-", ["1;3;7;9"]⟩,
    ⟨0x23BE, "DENTISTRY SYMBOL LIGHT ", ["VERTICAL AND TOP RIGHT;VERTICAL AND BOTTOM RIGHT",
      "VERTICAL WITH CIRCLE;DOWN AND HORIZONTAL WITH CIRCLE;UP AND HORIZONTAL WITH CIRCLE",
      "VERTICAL WITH TRIANGLE;DOWN AND HORIZONTAL WITH TRIANGLE;UP AND HORIZONTAL WITH TRIANGLE",
      "VERTICAL AND WAVE;DOWN AND HORIZONTAL WITH WAVE;UP AND HORIZONTAL WITH WAVE",
      "DOWN AND HORIZONTAL;UP AND HORIZONTAL;VERTICAL AND TOP LEFT;VERTICAL AND BOTTOM LEFT"]⟩,
    ⟨0x23CD, "", ["SQUARE FOOT;RETURN SYMBOL"]⟩,
    ⟨0x23CF, "", ["EJECT SYMBOL;VERTICAL LINE EXTENSION"]⟩,
    ⟨0x23D1, "METRICAL ", ["BREVE;LONG OVER SHORT;SHORT OVER LONG;LONG OVER TWO SHORTS",
      "TWO SHORTS OVER LONG;TWO SHORTS JOINED;TRISEME;TETRASEME;PENTASEME"]⟩,
    ⟨0x23DA, "EARTH ", ["GROUND"]⟩, ⟨0x23DB, "", ["FUSE;TOP PARENTHESIS"]⟩,
    ⟨0x23DD, "", ["BOTTOM PARENTHESIS;TOP CURLY BRACKET"]⟩,
    ⟨0x23DF, "", ["BOTTOM CURLY BRACKET;TOP TORTOISE SHELL BRACKET"]⟩,
    ⟨0x23E1, "", ["BOTTOM TORTOISE SHELL BRACKET;WHITE TRAPEZIUM"]⟩,
    ⟨0x23E3, "", ["BENZENE RING WITH CIRCLE;STRAIGHTNESS"]⟩, ⟨0x23E5, "", ["FLATNESS;AC CURRENT"]⟩,
    ⟨0x23E7, "", ["ELECTRICAL INTERSECTION;DECIMAL EXPONENT SYMBOL"]⟩,
    ⟨0x23E9, "BLACK ", ["RIGHT-POINTING DOUBLE TRIANGLE;LEFT-POINTING DOUBLE TRIANGLE",
      "UP-POINTING DOUBLE TRIANGLE;DOWN-POINTING DOUBLE TRIANGLE",
      "RIGHT-POINTING DOUBLE TRIANGLE WITH VERTICAL BAR",
      "LEFT-POINTING DOUBLE TRIANGLE WITH VERTICAL BAR",
      "RIGHT-POINTING TRIANGLE WITH DOUBLE VERTICAL BAR"]⟩,
    ⟨0x23F0, "", ["ALARM CLOCK;STOPWATCH"]⟩,
    ⟨0x23F2, "", ["TIMER CLOCK;HOURGLASS WITH FLOWING SAND"]⟩,
    ⟨0x23F4, "BLACK MEDIUM ", ["LEFT-POINTING TRIANGLE;RIGHT-POINTING TRIANGLE",
      "UP-POINTING TRIANGLE;DOWN-POINTING TRIANGLE"]⟩, ⟨0x23F8, "DOUBLE VERTICAL ", ["BAR"]⟩,
    ⟨0x23F9, "BLACK ", ["SQUARE FOR STOP;CIRCLE FOR RECORD"]⟩,
    ⟨0x23FB, "POWER ", ["SYMBOL;ON-OFF SYMBOL;ON SYMBOL;SLEEP SYMBOL"]⟩,
    ⟨0x23FF, "OBSERVER EYE ", ["SYMBOL"]⟩,
    ⟨0x2400, "SYMBOL FOR ", ["NULL;START OF HEADING;START OF TEXT;END OF TEXT;END OF TRANSMISSION",
      "ENQUIRY;ACKNOWLEDGE;BELL;BACKSPACE;HORIZONTAL TABULATION;LINE FEED;VERTICAL TABULATION",
      "FORM FEED;CARRIAGE RETURN;SHIFT OUT;SHIFT IN;DATA LINK ESCAPE;DEVICE CONTROL ONE",
      "DEVICE CONTROL TWO;DEVICE CONTROL THREE;DEVICE CONTROL FOUR;NEGATIVE ACKNOWLEDGE",
      "SYNCHRONOUS IDLE;END OF TRANSMISSION BLOCK;CANCEL;END OF MEDIUM;SUBSTITUTE;ESCAPE",
      "FILE SEPARATOR;GROUP SEPARATOR;RECORD SEPARATOR;UNIT SEPARATOR;SPACE;DELETE"]⟩,
    ⟨0x2422, "", ["BLANK SYMBOL;OPEN BOX"]⟩,
    ⟨0x2424, "SYMBOL FOR ", ["NEWLINE;DELETE FORM TWO;SUBSTITUTE FORM TWO"]⟩,
    ⟨0x2440, "OCR ", ["HOOK;CHAIR;FORK;INVERTED FORK;BELT BUCKLE;BOW TIE",
      "BRANCH BANK IDENTIFICATION;AMOUNT OF CHECK;DASH;CUSTOMER ACCOUNT NUMBER;DOUBLE BACKSLASH"]⟩,
    ⟨0x2460, "CIRCLED DIGIT ", ["ONE;TWO;THREE;FOUR;FIVE;SIX;SEVEN;EIGHT;NINE"]⟩,
    ⟨0x2469, "CIRCLED NUMBER ", ["TEN;ELEVEN;TWELVE;THIRTEEN;FOURTEEN;FIFTEEN;SIXTEEN;SEVENTEEN",
      "EIGHTEEN;NINETEEN;TWENTY"]⟩,
    ⟨0x2474, "PARENTHESIZED DIGIT ", ["ONE;TWO;THREE;FOUR;FIVE;SIX;SEVEN;EIGHT;NINE"]⟩,
    ⟨0x247D, "PARENTHESIZED NUMBER ", ["TEN;ELEVEN;TWELVE;THIRTEEN;FOURTEEN;FIFTEEN;SIXTEEN",
      "SEVENTEEN;EIGHTEEN;NINETEEN;TWENTY"]⟩,
    ⟨0x2488, "DIGIT ", ["ONE FULL STOP;TWO FULL STOP;THREE FULL STOP;FOUR FULL STOP",
      "FIVE FULL STOP;SIX FULL STOP;SEVEN FULL STOP;EIGHT FULL STOP;NINE FULL STOP"]⟩,
    ⟨0x2491, "NUMBER ", ["TEN FULL STOP;ELEVEN FULL STOP;TWELVE FULL STOP;THIRTEEN FULL STOP",
      "FOURTEEN FULL STOP;FIFTEEN FULL STOP;SIXTEEN FULL STOP;SEVENTEEN FULL STOP",
      "EIGHTEEN FULL STOP;NINETEEN FULL STOP;TWENTY FULL STOP"]⟩,
    ⟨0x249C, "PARENTHESIZED LATIN SMALL LETTER ", ["A;B;C;D;E;F;G;H;I;J;K;L;M;N;O;P;Q;R;S;T;U;V;W",
      "X;Y;Z"]⟩,
    ⟨0x24B6, "CIRCLED LATIN CAPITAL LETTER ", ["A;B;C;D;E;F;G;H;I;J;K;L;M;N;O;P;Q;R;S;T;U;V;W;X;Y",
      "Z"]⟩,
    ⟨0x24D0, "CIRCLED LATIN SMALL LETTER ", ["A;B;C;D;E;F;G;H;I;J;K;L;M;N;O;P;Q;R;S;T;U;V;W;X;Y",
      "Z"]⟩, ⟨0x24EA, "CIRCLED DIGIT ", ["ZERO"]⟩,
    ⟨0x24EB, "NEGATIVE CIRCLED NUMBER ", ["ELEVEN;TWELVE;THIRTEEN;FOURTEEN;FIFTEEN;SIXTEEN",
      "SEVENTEEN;EIGHTEEN;NINETEEN;TWENTY"]⟩,
    ⟨0x24F5, "DOUBLE CIRCLED DIGIT ", ["ONE;TWO;THREE;FOUR;FIVE;SIX;SEVEN;EIGHT;NINE"]⟩,
    ⟨0x24FE, "", ["DOUBLE CIRCLED NUMBER TEN;NEGATIVE CIRCLED DIGIT ZERO"]⟩ ]

end TagCloud.Text
