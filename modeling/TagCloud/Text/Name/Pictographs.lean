import TagCloud.Text.Name.Run

/-!
# Pictographs

The names of pieces of games, of pictographs, and of the tags and selectors at the end of the code
space.
-/

namespace TagCloud.Text

/-- The names of the characters from U+1F000 onwards. -/
def pictographNames : List NameRun :=
  [ ⟨0x1F000, "MAHJONG TILE ", ["EAST WIND;SOUTH WIND;WEST WIND;NORTH WIND;RED DRAGON",
      "GREEN DRAGON;WHITE DRAGON;ONE OF CHARACTERS;TWO OF CHARACTERS;THREE OF CHARACTERS",
      "FOUR OF CHARACTERS;FIVE OF CHARACTERS;SIX OF CHARACTERS;SEVEN OF CHARACTERS",
      "EIGHT OF CHARACTERS;NINE OF CHARACTERS;ONE OF BAMBOOS;TWO OF BAMBOOS;THREE OF BAMBOOS",
      "FOUR OF BAMBOOS;FIVE OF BAMBOOS;SIX OF BAMBOOS;SEVEN OF BAMBOOS;EIGHT OF BAMBOOS",
      "NINE OF BAMBOOS;ONE OF CIRCLES;TWO OF CIRCLES;THREE OF CIRCLES;FOUR OF CIRCLES",
      "FIVE OF CIRCLES;SIX OF CIRCLES;SEVEN OF CIRCLES;EIGHT OF CIRCLES;NINE OF CIRCLES;PLUM",
      "ORCHID;BAMBOO;CHRYSANTHEMUM;SPRING;SUMMER;AUTUMN;WINTER;JOKER;BACK"]⟩,
    ⟨0x1F030, "DOMINO TILE HORIZONTAL ", ["BACK"]⟩,
    ⟨0x1F031, "DOMINO TILE HORIZONTAL-", ["00-00;00-01;00-02;00-03;00-04;00-05;00-06;01-00;01-01",
      "01-02;01-03;01-04;01-05;01-06;02-00;02-01;02-02;02-03;02-04;02-05;02-06;03-00;03-01;03-02",
      "03-03;03-04;03-05;03-06;04-00;04-01;04-02;04-03;04-04;04-05;04-06;05-00;05-01;05-02;05-03",
      "05-04;05-05;05-06;06-00;06-01;06-02;06-03;06-04;06-05;06-06"]⟩,
    ⟨0x1F062, "DOMINO TILE VERTICAL ", ["BACK"]⟩,
    ⟨0x1F063, "DOMINO TILE VERTICAL-", ["00-00;00-01;00-02;00-03;00-04;00-05;00-06;01-00;01-01",
      "01-02;01-03;01-04;01-05;01-06;02-00;02-01;02-02;02-03;02-04;02-05;02-06;03-00;03-01;03-02",
      "03-03;03-04;03-05;03-06;04-00;04-01;04-02;04-03;04-04;04-05;04-06;05-00;05-01;05-02;05-03",
      "05-04;05-05;05-06;06-00;06-01;06-02;06-03;06-04;06-05;06-06"]⟩,
    ⟨0x1F0A0, "PLAYING CARD ", ["BACK;ACE OF SPADES;TWO OF SPADES;THREE OF SPADES;FOUR OF SPADES",
      "FIVE OF SPADES;SIX OF SPADES;SEVEN OF SPADES;EIGHT OF SPADES;NINE OF SPADES;TEN OF SPADES",
      "JACK OF SPADES;KNIGHT OF SPADES;QUEEN OF SPADES;KING OF SPADES"]⟩,
    ⟨0x1F0B1, "PLAYING CARD ", ["ACE OF HEARTS;TWO OF HEARTS;THREE OF HEARTS;FOUR OF HEARTS",
      "FIVE OF HEARTS;SIX OF HEARTS;SEVEN OF HEARTS;EIGHT OF HEARTS;NINE OF HEARTS;TEN OF HEARTS",
      "JACK OF HEARTS;KNIGHT OF HEARTS;QUEEN OF HEARTS;KING OF HEARTS;RED JOKER"]⟩,
    ⟨0x1F0C1, "PLAYING CARD ", ["ACE OF DIAMONDS;TWO OF DIAMONDS;THREE OF DIAMONDS",
      "FOUR OF DIAMONDS;FIVE OF DIAMONDS;SIX OF DIAMONDS;SEVEN OF DIAMONDS;EIGHT OF DIAMONDS",
      "NINE OF DIAMONDS;TEN OF DIAMONDS;JACK OF DIAMONDS;KNIGHT OF DIAMONDS;QUEEN OF DIAMONDS",
      "KING OF DIAMONDS;BLACK JOKER"]⟩,
    ⟨0x1F0D1, "PLAYING CARD ", ["ACE OF CLUBS;TWO OF CLUBS;THREE OF CLUBS;FOUR OF CLUBS",
      "FIVE OF CLUBS;SIX OF CLUBS;SEVEN OF CLUBS;EIGHT OF CLUBS;NINE OF CLUBS;TEN OF CLUBS",
      "JACK OF CLUBS;KNIGHT OF CLUBS;QUEEN OF CLUBS;KING OF CLUBS;WHITE JOKER;FOOL"]⟩,
    ⟨0x1F0E1, "PLAYING CARD TRUMP-", ["1;2;3;4;5;6;7;8;9;10;11;12;13;14;15;16;17;18;19;20;21"]⟩,
    ⟨0x1F100, "DIGIT ", ["ZERO FULL STOP;ZERO COMMA;ONE COMMA;TWO COMMA;THREE COMMA;FOUR COMMA",
      "FIVE COMMA;SIX COMMA;SEVEN COMMA;EIGHT COMMA;NINE COMMA"]⟩,
    ⟨0x1F10B, "DINGBAT ", ["CIRCLED SANS-SERIF DIGIT ZERO",
      "NEGATIVE CIRCLED SANS-SERIF DIGIT ZERO"]⟩,
    ⟨0x1F10D, "CIRCLED ", ["ZERO WITH SLASH;ANTICLOCKWISE ARROW",
      "DOLLAR SIGN WITH OVERLAID BACKSLASH"]⟩,
    ⟨0x1F110, "PARENTHESIZED LATIN CAPITAL LETTER ", ["A;B;C;D;E;F;G;H;I;J;K;L;M;N;O;P;Q;R;S;T;U",
      "V;W;X;Y;Z"]⟩, ⟨0x1F12A, "TORTOISE SHELL BRACKETED LATIN CAPITAL LETTER ", ["S"]⟩,
    ⟨0x1F12B, "CIRCLED ITALIC LATIN CAPITAL LETTER ", ["C;R"]⟩,
    ⟨0x1F12D, "", ["CIRCLED CD;CIRCLED WZ;COPYLEFT SYMBOL"]⟩,
    ⟨0x1F130, "SQUARED LATIN CAPITAL LETTER ", ["A;B;C;D;E;F;G;H;I;J;K;L;M;N;O;P;Q;R;S;T;U;V;W;X",
      "Y;Z"]⟩, ⟨0x1F14A, "SQUARED ", ["HV;MV;SD;SS;PPV;WC"]⟩,
    ⟨0x1F150, "NEGATIVE CIRCLED LATIN CAPITAL LETTER ", ["A;B;C;D;E;F;G;H;I;J;K;L;M;N;O;P;Q;R;S;T",
      "U;V;W;X;Y;Z"]⟩, ⟨0x1F16A, "RAISED ", ["MC SIGN;MD SIGN;MR SIGN"]⟩,
    ⟨0x1F16D, "CIRCLED ", ["CC;C WITH OVERLAID BACKSLASH;HUMAN FIGURE"]⟩,
    ⟨0x1F170, "NEGATIVE SQUARED LATIN CAPITAL LETTER ", ["A;B;C;D;E;F;G;H;I;J;K;L;M;N;O;P;Q;R;S;T",
      "U;V;W;X;Y;Z"]⟩, ⟨0x1F18A, "CROSSED NEGATIVE SQUARED LATIN CAPITAL LETTER ", ["P"]⟩,
    ⟨0x1F18B, "NEGATIVE SQUARED ", ["IC;PA;SA;AB;WC"]⟩, ⟨0x1F190, "SQUARE ", ["DJ"]⟩,
    ⟨0x1F191, "SQUARED ", ["CL;COOL;FREE;ID;NEW;NG;OK;SOS;UP WITH EXCLAMATION MARK;VS;THREE D",
      "SECOND SCREEN;TWO K;FOUR K;EIGHT K;FIVE POINT ONE;SEVEN POINT ONE;TWENTY-TWO POINT TWO",
      "SIXTY P;ONE HUNDRED TWENTY P;LATIN SMALL LETTER D;HC;HDR;HI-RES;LOSSLESS;SHV;UHD;VOD"]⟩,
    ⟨0x1F1AD, "MASK WORK ", ["SYMBOL"]⟩,
    ⟨0x1F1E6, "REGIONAL INDICATOR SYMBOL LETTER ", ["A;B;C;D;E;F;G;H;I;J;K;L;M;N;O;P;Q;R;S;T;U;V",
      "W;X;Y;Z"]⟩, ⟨0x1F200, "SQUARE HIRAGANA ", ["HOKA"]⟩,
    ⟨0x1F201, "SQUARED KATAKANA ", ["KOKO;SA"]⟩,
    ⟨0x1F210, "SQUARED CJK UNIFIED IDEOGRAPH-", ["624B;5B57;53CC"]⟩,
    ⟨0x1F213, "SQUARED KATAKANA ", ["DE"]⟩,
    ⟨0x1F214, "SQUARED CJK UNIFIED IDEOGRAPH-", ["4E8C;591A;89E3;5929;4EA4;6620;7121;6599;524D",
      "5F8C;518D;65B0;521D;7D42;751F;8CA9;58F0;5439;6F14;6295;6355;4E00;4E09;904A;5DE6;4E2D;53F3",
      "6307;8D70;6253;7981;7A7A;5408;6E80;6709;6708;7533;5272;55B6;914D"]⟩,
    ⟨0x1F240, "TORTOISE SHELL BRACKETED CJK UNIFIED IDEOGRAPH-", ["672C;4E09;4E8C;5B89;70B9;6253",
      "76D7;52DD;6557"]⟩, ⟨0x1F250, "CIRCLED IDEOGRAPH ", ["ADVANTAGE;ACCEPT"]⟩,
    ⟨0x1F260, "ROUNDED SYMBOL FOR ", ["FU;LU;SHOU;XI;SHUANGXI;CAI"]⟩,
    ⟨0x1F300, "", ["CYCLONE;FOGGY"]⟩, ⟨0x1F302, "", ["CLOSED UMBRELLA;NIGHT WITH STARS"]⟩,
    ⟨0x1F304, "", ["SUNRISE OVER MOUNTAINS;SUNRISE;CITYSCAPE AT DUSK"]⟩,
    ⟨0x1F307, "", ["SUNSET OVER BUILDINGS;RAINBOW"]⟩,
    ⟨0x1F309, "", ["BRIDGE AT NIGHT;WATER WAVE"]⟩, ⟨0x1F30B, "", ["VOLCANO;MILKY WAY"]⟩,
    ⟨0x1F30D, "EARTH GLOBE ", ["EUROPE-AFRICA;AMERICAS;ASIA-AUSTRALIA"]⟩,
    ⟨0x1F310, "", ["GLOBE WITH MERIDIANS;NEW MOON SYMBOL"]⟩,
    ⟨0x1F312, "", ["WAXING CRESCENT MOON SYMBOL;FIRST QUARTER MOON SYMBOL"]⟩,
    ⟨0x1F314, "", ["WAXING GIBBOUS MOON SYMBOL;FULL MOON SYMBOL"]⟩,
    ⟨0x1F316, "", ["WANING GIBBOUS MOON SYMBOL;LAST QUARTER MOON SYMBOL"]⟩,
    ⟨0x1F318, "", ["WANING CRESCENT MOON SYMBOL;CRESCENT MOON"]⟩,
    ⟨0x1F31A, "", ["NEW MOON WITH FACE;FIRST QUARTER MOON WITH FACE"]⟩,
    ⟨0x1F31C, "", ["LAST QUARTER MOON WITH FACE;FULL MOON WITH FACE"]⟩,
    ⟨0x1F31E, "", ["SUN WITH FACE;GLOWING STAR"]⟩, ⟨0x1F320, "", ["SHOOTING STAR;THERMOMETER"]⟩,
    ⟨0x1F322, "", ["BLACK DROPLET;WHITE SUN"]⟩,
    ⟨0x1F324, "WHITE SUN ", ["WITH SMALL CLOUD;BEHIND CLOUD;BEHIND CLOUD WITH RAIN"]⟩,
    ⟨0x1F327, "CLOUD WITH ", ["RAIN;SNOW;LIGHTNING;TORNADO"]⟩,
    ⟨0x1F32B, "", ["FOG;WIND BLOWING FACE"]⟩, ⟨0x1F32D, "", ["HOT DOG;TACO"]⟩,
    ⟨0x1F32F, "", ["BURRITO;CHESTNUT"]⟩, ⟨0x1F331, "", ["SEEDLING;EVERGREEN TREE"]⟩,
    ⟨0x1F333, "", ["DECIDUOUS TREE;PALM TREE"]⟩, ⟨0x1F335, "", ["CACTUS;HOT PEPPER"]⟩,
    ⟨0x1F337, "", ["TULIP;CHERRY BLOSSOM"]⟩, ⟨0x1F339, "", ["ROSE;HIBISCUS"]⟩,
    ⟨0x1F33B, "", ["SUNFLOWER;BLOSSOM"]⟩, ⟨0x1F33D, "", ["EAR OF MAIZE;EAR OF RICE;HERB"]⟩,
    ⟨0x1F340, "", ["FOUR LEAF CLOVER;MAPLE LEAF"]⟩,
    ⟨0x1F342, "", ["FALLEN LEAF;LEAF FLUTTERING IN WIND"]⟩, ⟨0x1F344, "", ["MUSHROOM;TOMATO"]⟩,
    ⟨0x1F346, "", ["AUBERGINE;GRAPES"]⟩, ⟨0x1F348, "", ["MELON;WATERMELON"]⟩,
    ⟨0x1F34A, "", ["TANGERINE;LEMON"]⟩, ⟨0x1F34C, "", ["BANANA;PINEAPPLE"]⟩,
    ⟨0x1F34E, "", ["RED APPLE;GREEN APPLE"]⟩, ⟨0x1F350, "", ["PEAR;PEACH"]⟩,
    ⟨0x1F352, "", ["CHERRIES;STRAWBERRY"]⟩, ⟨0x1F354, "", ["HAMBURGER;SLICE OF PIZZA"]⟩,
    ⟨0x1F356, "", ["MEAT ON BONE;POULTRY LEG"]⟩, ⟨0x1F358, "RICE ", ["CRACKER;BALL"]⟩,
    ⟨0x1F35A, "", ["COOKED RICE;CURRY AND RICE"]⟩, ⟨0x1F35C, "", ["STEAMING BOWL;SPAGHETTI"]⟩,
    ⟨0x1F35E, "", ["BREAD;FRENCH FRIES"]⟩, ⟨0x1F360, "", ["ROASTED SWEET POTATO;DANGO"]⟩,
    ⟨0x1F362, "", ["ODEN;SUSHI"]⟩, ⟨0x1F364, "", ["FRIED SHRIMP;FISH CAKE WITH SWIRL DESIGN"]⟩,
    ⟨0x1F366, "", ["SOFT ICE CREAM;SHAVED ICE"]⟩, ⟨0x1F368, "", ["ICE CREAM;DOUGHNUT"]⟩,
    ⟨0x1F36A, "", ["COOKIE;CHOCOLATE BAR;CANDY"]⟩, ⟨0x1F36D, "", ["LOLLIPOP;CUSTARD"]⟩,
    ⟨0x1F36F, "", ["HONEY POT;SHORTCAKE"]⟩, ⟨0x1F371, "", ["BENTO BOX;POT OF FOOD"]⟩,
    ⟨0x1F373, "", ["COOKING;FORK AND KNIFE"]⟩,
    ⟨0x1F375, "", ["TEACUP WITHOUT HANDLE;SAKE BOTTLE AND CUP"]⟩,
    ⟨0x1F377, "", ["WINE GLASS;COCKTAIL GLASS"]⟩, ⟨0x1F379, "", ["TROPICAL DRINK;BEER MUG"]⟩,
    ⟨0x1F37B, "", ["CLINKING BEER MUGS;BABY BOTTLE"]⟩,
    ⟨0x1F37D, "", ["FORK AND KNIFE WITH PLATE;BOTTLE WITH POPPING CORK"]⟩,
    ⟨0x1F37F, "", ["POPCORN;RIBBON"]⟩, ⟨0x1F381, "", ["WRAPPED PRESENT;BIRTHDAY CAKE"]⟩,
    ⟨0x1F383, "", ["JACK-O-LANTERN;CHRISTMAS TREE"]⟩,
    ⟨0x1F385, "", ["FATHER CHRISTMAS;FIREWORKS;FIREWORK SPARKLER"]⟩,
    ⟨0x1F388, "", ["BALLOON;PARTY POPPER"]⟩, ⟨0x1F38A, "", ["CONFETTI BALL;TANABATA TREE"]⟩,
    ⟨0x1F38C, "", ["CROSSED FLAGS;PINE DECORATION"]⟩,
    ⟨0x1F38E, "", ["JAPANESE DOLLS;CARP STREAMER"]⟩,
    ⟨0x1F390, "", ["WIND CHIME;MOON VIEWING CEREMONY"]⟩,
    ⟨0x1F392, "", ["SCHOOL SATCHEL;GRADUATION CAP"]⟩,
    ⟨0x1F394, "", ["HEART WITH TIP ON THE LEFT;BOUQUET OF FLOWERS"]⟩,
    ⟨0x1F396, "", ["MILITARY MEDAL;REMINDER RIBBON"]⟩,
    ⟨0x1F398, "", ["MUSICAL KEYBOARD WITH JACKS;STUDIO MICROPHONE"]⟩,
    ⟨0x1F39A, "", ["LEVEL SLIDER;CONTROL KNOBS"]⟩,
    ⟨0x1F39C, "BEAMED ", ["ASCENDING MUSICAL NOTES;DESCENDING MUSICAL NOTES"]⟩,
    ⟨0x1F39E, "", ["FILM FRAMES;ADMISSION TICKETS"]⟩,
    ⟨0x1F3A0, "", ["CAROUSEL HORSE;FERRIS WHEEL"]⟩,
    ⟨0x1F3A2, "", ["ROLLER COASTER;FISHING POLE AND FISH"]⟩,
    ⟨0x1F3A4, "", ["MICROPHONE;MOVIE CAMERA;CINEMA"]⟩, ⟨0x1F3A7, "", ["HEADPHONE;ARTIST PALETTE"]⟩,
    ⟨0x1F3A9, "", ["TOP HAT;CIRCUS TENT"]⟩, ⟨0x1F3AB, "", ["TICKET;CLAPPER BOARD"]⟩,
    ⟨0x1F3AD, "", ["PERFORMING ARTS;VIDEO GAME"]⟩, ⟨0x1F3AF, "", ["DIRECT HIT;SLOT MACHINE"]⟩,
    ⟨0x1F3B1, "", ["BILLIARDS;GAME DIE"]⟩, ⟨0x1F3B3, "", ["BOWLING;FLOWER PLAYING CARDS"]⟩,
    ⟨0x1F3B5, "", ["MUSICAL NOTE;MULTIPLE MUSICAL NOTES;SAXOPHONE"]⟩,
    ⟨0x1F3B8, "", ["GUITAR;MUSICAL KEYBOARD"]⟩, ⟨0x1F3BA, "", ["TRUMPET;VIOLIN"]⟩,
    ⟨0x1F3BC, "", ["MUSICAL SCORE;RUNNING SHIRT WITH SASH"]⟩,
    ⟨0x1F3BE, "", ["TENNIS RACQUET AND BALL;SKI AND SKI BOOT"]⟩,
    ⟨0x1F3C0, "", ["BASKETBALL AND HOOP;CHEQUERED FLAG"]⟩, ⟨0x1F3C2, "", ["SNOWBOARDER;RUNNER"]⟩,
    ⟨0x1F3C4, "", ["SURFER;SPORTS MEDAL;TROPHY"]⟩,
    ⟨0x1F3C7, "", ["HORSE RACING;AMERICAN FOOTBALL"]⟩, ⟨0x1F3C9, "", ["RUGBY FOOTBALL;SWIMMER"]⟩,
    ⟨0x1F3CB, "", ["WEIGHT LIFTER;GOLFER"]⟩,
    ⟨0x1F3CD, "", ["RACING MOTORCYCLE;RACING CAR;CRICKET BAT AND BALL"]⟩,
    ⟨0x1F3D0, "", ["VOLLEYBALL;FIELD HOCKEY STICK AND BALL"]⟩,
    ⟨0x1F3D2, "", ["ICE HOCKEY STICK AND PUCK;TABLE TENNIS PADDLE AND BALL"]⟩,
    ⟨0x1F3D4, "", ["SNOW CAPPED MOUNTAIN;CAMPING"]⟩,
    ⟨0x1F3D6, "", ["BEACH WITH UMBRELLA;BUILDING CONSTRUCTION"]⟩,
    ⟨0x1F3D8, "", ["HOUSE BUILDINGS;CITYSCAPE"]⟩,
    ⟨0x1F3DA, "", ["DERELICT HOUSE BUILDING;CLASSICAL BUILDING"]⟩,
    ⟨0x1F3DC, "", ["DESERT;DESERT ISLAND"]⟩, ⟨0x1F3DE, "", ["NATIONAL PARK;STADIUM"]⟩,
    ⟨0x1F3E0, "", ["HOUSE BUILDING;HOUSE WITH GARDEN;OFFICE BUILDING"]⟩,
    ⟨0x1F3E3, "", ["JAPANESE POST OFFICE;EUROPEAN POST OFFICE"]⟩, ⟨0x1F3E5, "", ["HOSPITAL;BANK"]⟩,
    ⟨0x1F3E7, "", ["AUTOMATED TELLER MACHINE;HOTEL"]⟩,
    ⟨0x1F3E9, "", ["LOVE HOTEL;CONVENIENCE STORE"]⟩, ⟨0x1F3EB, "", ["SCHOOL;DEPARTMENT STORE"]⟩,
    ⟨0x1F3ED, "", ["FACTORY;IZAKAYA LANTERN"]⟩, ⟨0x1F3EF, "", ["JAPANESE CASTLE;EUROPEAN CASTLE"]⟩,
    ⟨0x1F3F1, "", ["WHITE PENNANT;BLACK PENNANT"]⟩,
    ⟨0x1F3F3, "", ["WAVING WHITE FLAG;WAVING BLACK FLAG;ROSETTE"]⟩,
    ⟨0x1F3F6, "", ["BLACK ROSETTE;LABEL"]⟩,
    ⟨0x1F3F8, "", ["BADMINTON RACQUET AND SHUTTLECOCK;BOW AND ARROW;AMPHORA"]⟩,
    ⟨0x1F3FB, "EMOJI MODIFIER FITZPATRICK TYPE-", ["1-2;3;4;5;6"]⟩, ⟨0x1F400, "", ["RAT;MOUSE"]⟩,
    ⟨0x1F402, "", ["OX;WATER BUFFALO"]⟩, ⟨0x1F404, "", ["COW;TIGER"]⟩,
    ⟨0x1F406, "", ["LEOPARD;RABBIT"]⟩, ⟨0x1F408, "", ["CAT;DRAGON"]⟩,
    ⟨0x1F40A, "", ["CROCODILE;WHALE"]⟩, ⟨0x1F40C, "", ["SNAIL;SNAKE"]⟩,
    ⟨0x1F40E, "", ["HORSE;RAM"]⟩, ⟨0x1F410, "", ["GOAT;SHEEP"]⟩, ⟨0x1F412, "", ["MONKEY;ROOSTER"]⟩,
    ⟨0x1F414, "", ["CHICKEN;DOG"]⟩, ⟨0x1F416, "", ["PIG;BOAR"]⟩,
    ⟨0x1F418, "", ["ELEPHANT;OCTOPUS"]⟩, ⟨0x1F41A, "", ["SPIRAL SHELL;BUG"]⟩,
    ⟨0x1F41C, "", ["ANT;HONEYBEE"]⟩, ⟨0x1F41E, "", ["LADY BEETLE;FISH"]⟩,
    ⟨0x1F420, "", ["TROPICAL FISH;BLOWFISH"]⟩, ⟨0x1F422, "", ["TURTLE;HATCHING CHICK"]⟩,
    ⟨0x1F424, "", ["BABY CHICK;FRONT-FACING BABY CHICK"]⟩, ⟨0x1F426, "", ["BIRD;PENGUIN"]⟩,
    ⟨0x1F428, "", ["KOALA;POODLE"]⟩, ⟨0x1F42A, "", ["DROMEDARY CAMEL;BACTRIAN CAMEL"]⟩,
    ⟨0x1F42C, "", ["DOLPHIN;MOUSE FACE"]⟩, ⟨0x1F42E, "", ["COW FACE;TIGER FACE"]⟩,
    ⟨0x1F430, "", ["RABBIT FACE;CAT FACE"]⟩, ⟨0x1F432, "", ["DRAGON FACE;SPOUTING WHALE"]⟩,
    ⟨0x1F434, "", ["HORSE FACE;MONKEY FACE"]⟩, ⟨0x1F436, "", ["DOG FACE;PIG FACE"]⟩,
    ⟨0x1F438, "", ["FROG FACE;HAMSTER FACE"]⟩, ⟨0x1F43A, "", ["WOLF FACE;BEAR FACE"]⟩,
    ⟨0x1F43C, "", ["PANDA FACE;PIG NOSE;PAW PRINTS;CHIPMUNK"]⟩,
    ⟨0x1F440, "", ["EYES;EYE;EAR;NOSE"]⟩, ⟨0x1F444, "", ["MOUTH;TONGUE"]⟩,
    ⟨0x1F446, "WHITE ", ["UP POINTING BACKHAND INDEX;DOWN POINTING BACKHAND INDEX",
      "LEFT POINTING BACKHAND INDEX;RIGHT POINTING BACKHAND INDEX"]⟩,
    ⟨0x1F44A, "FISTED HAND ", ["SIGN"]⟩, ⟨0x1F44B, "", ["WAVING HAND SIGN;OK HAND SIGN"]⟩,
    ⟨0x1F44D, "THUMBS ", ["UP SIGN;DOWN SIGN"]⟩,
    ⟨0x1F44F, "", ["CLAPPING HANDS SIGN;OPEN HANDS SIGN"]⟩, ⟨0x1F451, "", ["CROWN;WOMANS HAT"]⟩,
    ⟨0x1F453, "", ["EYEGLASSES;NECKTIE"]⟩, ⟨0x1F455, "", ["T-SHIRT;JEANS"]⟩,
    ⟨0x1F457, "", ["DRESS;KIMONO"]⟩, ⟨0x1F459, "", ["BIKINI;WOMANS CLOTHES"]⟩,
    ⟨0x1F45B, "", ["PURSE;HANDBAG"]⟩, ⟨0x1F45D, "", ["POUCH;MANS SHOE"]⟩,
    ⟨0x1F45F, "", ["ATHLETIC SHOE;HIGH-HEELED SHOE"]⟩,
    ⟨0x1F461, "", ["WOMANS SANDAL;WOMANS BOOTS;FOOTPRINTS"]⟩,
    ⟨0x1F464, "", ["BUST IN SILHOUETTE;BUSTS IN SILHOUETTE;BOY;GIRL"]⟩,
    ⟨0x1F468, "", ["MAN;WOMAN"]⟩, ⟨0x1F46A, "", ["FAMILY;MAN AND WOMAN HOLDING HANDS"]⟩,
    ⟨0x1F46C, "TWO ", ["MEN HOLDING HANDS;WOMEN HOLDING HANDS"]⟩,
    ⟨0x1F46E, "", ["POLICE OFFICER;WOMAN WITH BUNNY EARS"]⟩,
    ⟨0x1F470, "", ["BRIDE WITH VEIL;PERSON WITH BLOND HAIR"]⟩,
    ⟨0x1F472, "MAN WITH ", ["GUA PI MAO;TURBAN"]⟩, ⟨0x1F474, "", ["OLDER MAN;OLDER WOMAN;BABY"]⟩,
    ⟨0x1F477, "", ["CONSTRUCTION WORKER;PRINCESS"]⟩, ⟨0x1F479, "JAPANESE ", ["OGRE;GOBLIN"]⟩,
    ⟨0x1F47B, "", ["GHOST;BABY ANGEL"]⟩, ⟨0x1F47D, "", ["EXTRATERRESTRIAL ALIEN;ALIEN MONSTER"]⟩,
    ⟨0x1F47F, "", ["IMP;SKULL"]⟩, ⟨0x1F481, "", ["INFORMATION DESK PERSON;GUARDSMAN"]⟩,
    ⟨0x1F483, "", ["DANCER;LIPSTICK"]⟩, ⟨0x1F485, "", ["NAIL POLISH;FACE MASSAGE"]⟩,
    ⟨0x1F487, "", ["HAIRCUT;BARBER POLE"]⟩, ⟨0x1F489, "", ["SYRINGE;PILL"]⟩,
    ⟨0x1F48B, "", ["KISS MARK;LOVE LETTER"]⟩, ⟨0x1F48D, "", ["RING;GEM STONE"]⟩,
    ⟨0x1F48F, "", ["KISS;BOUQUET"]⟩, ⟨0x1F491, "", ["COUPLE WITH HEART;WEDDING"]⟩,
    ⟨0x1F493, "", ["BEATING HEART;BROKEN HEART"]⟩, ⟨0x1F495, "", ["TWO HEARTS;SPARKLING HEART"]⟩,
    ⟨0x1F497, "", ["GROWING HEART;HEART WITH ARROW"]⟩, ⟨0x1F499, "", ["BLUE HEART;GREEN HEART"]⟩,
    ⟨0x1F49B, "", ["YELLOW HEART;PURPLE HEART"]⟩,
    ⟨0x1F49D, "", ["HEART WITH RIBBON;REVOLVING HEARTS"]⟩,
    ⟨0x1F49F, "", ["HEART DECORATION;DIAMOND SHAPE WITH A DOT INSIDE"]⟩,
    ⟨0x1F4A1, "", ["ELECTRIC LIGHT BULB;ANGER SYMBOL"]⟩, ⟨0x1F4A3, "", ["BOMB;SLEEPING SYMBOL"]⟩,
    ⟨0x1F4A5, "", ["COLLISION SYMBOL;SPLASHING SWEAT SYMBOL"]⟩,
    ⟨0x1F4A7, "", ["DROPLET;DASH SYMBOL;PILE OF POO"]⟩,
    ⟨0x1F4AA, "", ["FLEXED BICEPS;DIZZY SYMBOL"]⟩,
    ⟨0x1F4AC, "", ["SPEECH BALLOON;THOUGHT BALLOON"]⟩,
    ⟨0x1F4AE, "", ["WHITE FLOWER;HUNDRED POINTS SYMBOL"]⟩,
    ⟨0x1F4B0, "", ["MONEY BAG;CURRENCY EXCHANGE"]⟩,
    ⟨0x1F4B2, "", ["HEAVY DOLLAR SIGN;CREDIT CARD"]⟩,
    ⟨0x1F4B4, "BANKNOTE WITH ", ["YEN SIGN;DOLLAR SIGN;EURO SIGN;POUND SIGN"]⟩,
    ⟨0x1F4B8, "MONEY WITH ", ["WINGS"]⟩,
    ⟨0x1F4B9, "", ["CHART WITH UPWARDS TREND AND YEN SIGN;SEAT"]⟩,
    ⟨0x1F4BB, "", ["PERSONAL COMPUTER;BRIEFCASE"]⟩, ⟨0x1F4BD, "", ["MINIDISC;FLOPPY DISK"]⟩,
    ⟨0x1F4BF, "", ["OPTICAL DISC;DVD"]⟩, ⟨0x1F4C1, "", ["FILE FOLDER;OPEN FILE FOLDER"]⟩,
    ⟨0x1F4C3, "PAGE ", ["WITH CURL;FACING UP"]⟩, ⟨0x1F4C5, "", ["CALENDAR;TEAR-OFF CALENDAR"]⟩,
    ⟨0x1F4C7, "", ["CARD INDEX;CHART WITH UPWARDS TREND;CHART WITH DOWNWARDS TREND;BAR CHART"]⟩,
    ⟨0x1F4CB, "", ["CLIPBOARD;PUSHPIN"]⟩, ⟨0x1F4CD, "", ["ROUND PUSHPIN;PAPERCLIP"]⟩,
    ⟨0x1F4CF, "", ["STRAIGHT RULER;TRIANGULAR RULER"]⟩, ⟨0x1F4D1, "", ["BOOKMARK TABS;LEDGER"]⟩,
    ⟨0x1F4D3, "", ["NOTEBOOK;NOTEBOOK WITH DECORATIVE COVER;CLOSED BOOK"]⟩,
    ⟨0x1F4D6, "", ["OPEN BOOK;GREEN BOOK"]⟩, ⟨0x1F4D8, "", ["BLUE BOOK;ORANGE BOOK"]⟩,
    ⟨0x1F4DA, "", ["BOOKS;NAME BADGE"]⟩, ⟨0x1F4DC, "", ["SCROLL;MEMO"]⟩,
    ⟨0x1F4DE, "", ["TELEPHONE RECEIVER;PAGER"]⟩, ⟨0x1F4E0, "", ["FAX MACHINE;SATELLITE ANTENNA"]⟩,
    ⟨0x1F4E2, "", ["PUBLIC ADDRESS LOUDSPEAKER;CHEERING MEGAPHONE"]⟩,
    ⟨0x1F4E4, "", ["OUTBOX TRAY;INBOX TRAY"]⟩, ⟨0x1F4E6, "", ["PACKAGE;E-MAIL SYMBOL"]⟩,
    ⟨0x1F4E8, "", ["INCOMING ENVELOPE;ENVELOPE WITH DOWNWARDS ARROW ABOVE"]⟩,
    ⟨0x1F4EA, "CLOSED MAILBOX WITH ", ["LOWERED FLAG;RAISED FLAG"]⟩,
    ⟨0x1F4EC, "OPEN MAILBOX WITH ", ["RAISED FLAG;LOWERED FLAG"]⟩,
    ⟨0x1F4EE, "", ["POSTBOX;POSTAL HORN;NEWSPAPER"]⟩,
    ⟨0x1F4F1, "MOBILE ", ["PHONE;PHONE WITH RIGHTWARDS ARROW AT LEFT"]⟩,
    ⟨0x1F4F3, "", ["VIBRATION MODE;MOBILE PHONE OFF"]⟩,
    ⟨0x1F4F5, "", ["NO MOBILE PHONES;ANTENNA WITH BARS"]⟩,
    ⟨0x1F4F7, "", ["CAMERA;CAMERA WITH FLASH;VIDEO CAMERA"]⟩, ⟨0x1F4FA, "", ["TELEVISION;RADIO"]⟩,
    ⟨0x1F4FC, "", ["VIDEOCASSETTE;FILM PROJECTOR"]⟩,
    ⟨0x1F4FE, "", ["PORTABLE STEREO;PRAYER BEADS;TWISTED RIGHTWARDS ARROWS"]⟩,
    ⟨0x1F501, "CLOCKWISE RIGHTWARDS AND LEFTWARDS OPEN CIRCLE ", ["ARROWS",
      "ARROWS WITH CIRCLED ONE OVERLAY"]⟩,
    ⟨0x1F503, "", ["CLOCKWISE DOWNWARDS AND UPWARDS OPEN CIRCLE ARROWS",
      "ANTICLOCKWISE DOWNWARDS AND UPWARDS OPEN CIRCLE ARROWS"]⟩,
    ⟨0x1F505, "", ["LOW BRIGHTNESS SYMBOL;HIGH BRIGHTNESS SYMBOL"]⟩,
    ⟨0x1F507, "", ["SPEAKER WITH CANCELLATION STROKE;SPEAKER;SPEAKER WITH ONE SOUND WAVE",
      "SPEAKER WITH THREE SOUND WAVES;BATTERY"]⟩,
    ⟨0x1F50C, "", ["ELECTRIC PLUG;LEFT-POINTING MAGNIFYING GLASS"]⟩,
    ⟨0x1F50E, "", ["RIGHT-POINTING MAGNIFYING GLASS;LOCK WITH INK PEN"]⟩,
    ⟨0x1F510, "", ["CLOSED LOCK WITH KEY;KEY"]⟩, ⟨0x1F512, "", ["LOCK;OPEN LOCK"]⟩,
    ⟨0x1F514, "", ["BELL;BELL WITH CANCELLATION STROKE;BOOKMARK;LINK SYMBOL"]⟩,
    ⟨0x1F518, "", ["RADIO BUTTON;BACK WITH LEFTWARDS ARROW ABOVE"]⟩,
    ⟨0x1F51A, "", ["END WITH LEFTWARDS ARROW ABOVE",
      "ON WITH EXCLAMATION MARK WITH LEFT RIGHT ARROW ABOVE"]⟩,
    ⟨0x1F51C, "", ["SOON WITH RIGHTWARDS ARROW ABOVE;TOP WITH UPWARDS ARROW ABOVE"]⟩,
    ⟨0x1F51E, "", ["NO ONE UNDER EIGHTEEN SYMBOL;KEYCAP TEN"]⟩,
    ⟨0x1F520, "INPUT SYMBOL FOR ", ["LATIN CAPITAL LETTERS;LATIN SMALL LETTERS;NUMBERS;SYMBOLS",
      "LATIN LETTERS"]⟩, ⟨0x1F525, "", ["FIRE"]⟩, ⟨0x1F526, "", ["ELECTRIC TORCH;WRENCH"]⟩,
    ⟨0x1F528, "", ["HAMMER;NUT AND BOLT"]⟩, ⟨0x1F52A, "", ["HOCHO;PISTOL"]⟩,
    ⟨0x1F52C, "", ["MICROSCOPE;TELESCOPE"]⟩,
    ⟨0x1F52E, "", ["CRYSTAL BALL;SIX POINTED STAR WITH MIDDLE DOT"]⟩,
    ⟨0x1F530, "", ["JAPANESE SYMBOL FOR BEGINNER;TRIDENT EMBLEM"]⟩,
    ⟨0x1F532, "", ["BLACK SQUARE BUTTON;WHITE SQUARE BUTTON"]⟩,
    ⟨0x1F534, "LARGE ", ["RED CIRCLE;BLUE CIRCLE;ORANGE DIAMOND;BLUE DIAMOND"]⟩,
    ⟨0x1F538, "SMALL ", ["ORANGE DIAMOND;BLUE DIAMOND"]⟩,
    ⟨0x1F53A, "", ["UP-POINTING RED TRIANGLE;DOWN-POINTING RED TRIANGLE"]⟩,
    ⟨0x1F53C, "", ["UP-POINTING SMALL RED TRIANGLE;DOWN-POINTING SMALL RED TRIANGLE"]⟩,
    ⟨0x1F53E, "", ["LOWER RIGHT SHADOWED WHITE CIRCLE;UPPER RIGHT SHADOWED WHITE CIRCLE"]⟩,
    ⟨0x1F540, "", ["CIRCLED CROSS POMMEE;CROSS POMMEE WITH HALF-CIRCLE BELOW;CROSS POMMEE"]⟩,
    ⟨0x1F543, "", ["NOTCHED LEFT SEMICIRCLE WITH THREE DOTS",
      "NOTCHED RIGHT SEMICIRCLE WITH THREE DOTS;SYMBOL FOR MARKS CHAPTER"]⟩,
    ⟨0x1F546, "", ["WHITE LATIN CROSS;HEAVY LATIN CROSS"]⟩,
    ⟨0x1F548, "", ["CELTIC CROSS;OM SYMBOL"]⟩, ⟨0x1F54A, "", ["DOVE OF PEACE;KAABA"]⟩,
    ⟨0x1F54C, "", ["MOSQUE;SYNAGOGUE"]⟩,
    ⟨0x1F54E, "", ["MENORAH WITH NINE BRANCHES;BOWL OF HYGIEIA"]⟩,
    ⟨0x1F550, "CLOCK FACE ", ["ONE OCLOCK;TWO OCLOCK;THREE OCLOCK;FOUR OCLOCK;FIVE OCLOCK",
      "SIX OCLOCK;SEVEN OCLOCK;EIGHT OCLOCK;NINE OCLOCK;TEN OCLOCK;ELEVEN OCLOCK;TWELVE OCLOCK",
      "ONE-THIRTY;TWO-THIRTY;THREE-THIRTY;FOUR-THIRTY;FIVE-THIRTY;SIX-THIRTY;SEVEN-THIRTY",
      "EIGHT-THIRTY;NINE-THIRTY;TEN-THIRTY;ELEVEN-THIRTY;TWELVE-THIRTY"]⟩,
    ⟨0x1F568, "RIGHT ", ["SPEAKER;SPEAKER WITH ONE SOUND WAVE;SPEAKER WITH THREE SOUND WAVES"]⟩,
    ⟨0x1F56B, "", ["BULLHORN;BULLHORN WITH SOUND WAVES"]⟩, ⟨0x1F56D, "", ["RINGING BELL;BOOK"]⟩,
    ⟨0x1F56F, "", ["CANDLE;MANTELPIECE CLOCK"]⟩,
    ⟨0x1F571, "", ["BLACK SKULL AND CROSSBONES;NO PIRACY"]⟩,
    ⟨0x1F573, "", ["HOLE;MAN IN BUSINESS SUIT LEVITATING"]⟩,
    ⟨0x1F575, "", ["SLEUTH OR SPY;DARK SUNGLASSES"]⟩, ⟨0x1F577, "", ["SPIDER;SPIDER WEB"]⟩,
    ⟨0x1F579, "", ["JOYSTICK;MAN DANCING"]⟩,
    ⟨0x1F57B, "", ["LEFT HAND TELEPHONE RECEIVER;TELEPHONE RECEIVER WITH PAGE"]⟩,
    ⟨0x1F57D, "", ["RIGHT HAND TELEPHONE RECEIVER;WHITE TOUCHTONE TELEPHONE"]⟩,
    ⟨0x1F57F, "", ["BLACK TOUCHTONE TELEPHONE;TELEPHONE ON TOP OF MODEM"]⟩,
    ⟨0x1F581, "", ["CLAMSHELL MOBILE PHONE;BACK OF ENVELOPE"]⟩,
    ⟨0x1F583, "", ["STAMPED ENVELOPE;ENVELOPE WITH LIGHTNING"]⟩,
    ⟨0x1F585, "", ["FLYING ENVELOPE;PEN OVER STAMPED ENVELOPE"]⟩,
    ⟨0x1F587, "", ["LINKED PAPERCLIPS;BLACK PUSHPIN"]⟩,
    ⟨0x1F589, "LOWER LEFT ", ["PENCIL;BALLPOINT PEN;FOUNTAIN PEN;PAINTBRUSH;CRAYON"]⟩,
    ⟨0x1F58E, "LEFT WRITING ", ["HAND"]⟩,
    ⟨0x1F58F, "", ["TURNED OK HAND SIGN;RAISED HAND WITH FINGERS SPLAYED"]⟩,
    ⟨0x1F591, "REVERSED ", ["RAISED HAND WITH FINGERS SPLAYED;THUMBS UP SIGN;THUMBS DOWN SIGN",
      "VICTORY HAND;HAND WITH MIDDLE FINGER EXTENDED"]⟩,
    ⟨0x1F596, "", ["RAISED HAND WITH PART BETWEEN MIDDLE AND RING FINGERS",
      "WHITE DOWN POINTING LEFT HAND INDEX"]⟩,
    ⟨0x1F598, "SIDEWAYS ", ["WHITE LEFT POINTING INDEX;WHITE RIGHT POINTING INDEX",
      "BLACK LEFT POINTING INDEX;BLACK RIGHT POINTING INDEX"]⟩,
    ⟨0x1F59C, "BLACK ", ["LEFT POINTING BACKHAND INDEX;RIGHT POINTING BACKHAND INDEX"]⟩,
    ⟨0x1F59E, "SIDEWAYS ", ["WHITE UP POINTING INDEX;WHITE DOWN POINTING INDEX",
      "BLACK UP POINTING INDEX;BLACK DOWN POINTING INDEX"]⟩,
    ⟨0x1F5A2, "", ["BLACK UP POINTING BACKHAND INDEX;BLACK DOWN POINTING BACKHAND INDEX",
      "BLACK HEART;DESKTOP COMPUTER"]⟩,
    ⟨0x1F5A6, "", ["KEYBOARD AND MOUSE;THREE NETWORKED COMPUTERS"]⟩,
    ⟨0x1F5A8, "", ["PRINTER;POCKET CALCULATOR"]⟩,
    ⟨0x1F5AA, "", ["BLACK HARD SHELL FLOPPY DISK;WHITE HARD SHELL FLOPPY DISK"]⟩,
    ⟨0x1F5AC, "", ["SOFT SHELL FLOPPY DISK;TAPE CARTRIDGE"]⟩,
    ⟨0x1F5AE, "", ["WIRED KEYBOARD;ONE BUTTON MOUSE"]⟩,
    ⟨0x1F5B0, "", ["TWO BUTTON MOUSE;THREE BUTTON MOUSE;TRACKBALL"]⟩,
    ⟨0x1F5B3, "", ["OLD PERSONAL COMPUTER;HARD DISK"]⟩, ⟨0x1F5B5, "", ["SCREEN;PRINTER ICON"]⟩,
    ⟨0x1F5B7, "", ["FAX ICON;OPTICAL DISC ICON"]⟩,
    ⟨0x1F5B9, "DOCUMENT WITH ", ["TEXT;TEXT AND PICTURE;PICTURE"]⟩,
    ⟨0x1F5BC, "FRAME WITH ", ["PICTURE;TILES;AN X"]⟩, ⟨0x1F5BF, "BLACK ", ["FOLDER"]⟩,
    ⟨0x1F5C0, "", ["FOLDER;OPEN FOLDER"]⟩,
    ⟨0x1F5C2, "", ["CARD INDEX DIVIDERS;CARD FILE BOX;FILE CABINET"]⟩,
    ⟨0x1F5C5, "EMPTY ", ["NOTE;NOTE PAGE;NOTE PAD"]⟩, ⟨0x1F5C8, "", ["NOTE;NOTE PAGE;NOTE PAD"]⟩,
    ⟨0x1F5CB, "", ["EMPTY DOCUMENT;EMPTY PAGE;EMPTY PAGES;DOCUMENT"]⟩,
    ⟨0x1F5CF, "", ["PAGE;PAGES;WASTEBASKET"]⟩,
    ⟨0x1F5D2, "", ["SPIRAL NOTE PAD;SPIRAL CALENDAR PAD;DESKTOP WINDOW"]⟩,
    ⟨0x1F5D5, "", ["MINIMIZE;MAXIMIZE;OVERLAP"]⟩,
    ⟨0x1F5D8, "", ["CLOCKWISE RIGHT AND LEFT SEMICIRCLE ARROWS;CANCELLATION X"]⟩,
    ⟨0x1F5DA, "", ["INCREASE FONT SIZE SYMBOL;DECREASE FONT SIZE SYMBOL"]⟩,
    ⟨0x1F5DC, "", ["COMPRESSION;OLD KEY"]⟩,
    ⟨0x1F5DE, "", ["ROLLED-UP NEWSPAPER;PAGE WITH CIRCLED TEXT"]⟩,
    ⟨0x1F5E0, "", ["STOCK CHART;DAGGER KNIFE"]⟩,
    ⟨0x1F5E2, "", ["LIPS;SPEAKING HEAD IN SILHOUETTE"]⟩,
    ⟨0x1F5E4, "THREE RAYS ", ["ABOVE;BELOW;LEFT;RIGHT"]⟩,
    ⟨0x1F5E8, "", ["LEFT SPEECH BUBBLE;RIGHT SPEECH BUBBLE"]⟩,
    ⟨0x1F5EA, "", ["TWO SPEECH BUBBLES;THREE SPEECH BUBBLES;LEFT THOUGHT BUBBLE"]⟩,
    ⟨0x1F5ED, "", ["RIGHT THOUGHT BUBBLE;LEFT ANGER BUBBLE"]⟩,
    ⟨0x1F5EF, "", ["RIGHT ANGER BUBBLE;MOOD BUBBLE"]⟩,
    ⟨0x1F5F1, "LIGHTNING ", ["MOOD BUBBLE;MOOD"]⟩,
    ⟨0x1F5F3, "BALLOT ", ["BOX WITH BALLOT;SCRIPT X;BOX WITH SCRIPT X;BOLD SCRIPT X",
      "BOX WITH BOLD SCRIPT X"]⟩, ⟨0x1F5F8, "LIGHT CHECK ", ["MARK"]⟩,
    ⟨0x1F5F9, "", ["BALLOT BOX WITH BOLD CHECK;WORLD MAP"]⟩,
    ⟨0x1F5FB, "", ["MOUNT FUJI;TOKYO TOWER"]⟩,
    ⟨0x1F5FD, "", ["STATUE OF LIBERTY;SILHOUETTE OF JAPAN;MOYAI"]⟩,
    ⟨0x1F600, "", ["GRINNING FACE;GRINNING FACE WITH SMILING EYES;FACE WITH TEARS OF JOY"]⟩,
    ⟨0x1F603, "SMILING FACE WITH ", ["OPEN MOUTH;OPEN MOUTH AND SMILING EYES",
      "OPEN MOUTH AND COLD SWEAT;OPEN MOUTH AND TIGHTLY-CLOSED EYES;HALO;HORNS"]⟩,
    ⟨0x1F609, "", ["WINKING FACE;SMILING FACE WITH SMILING EYES"]⟩,
    ⟨0x1F60B, "", ["FACE SAVOURING DELICIOUS FOOD;RELIEVED FACE"]⟩,
    ⟨0x1F60D, "SMILING FACE WITH ", ["HEART-SHAPED EYES;SUNGLASSES"]⟩,
    ⟨0x1F60F, "", ["SMIRKING FACE;NEUTRAL FACE"]⟩,
    ⟨0x1F611, "", ["EXPRESSIONLESS FACE;UNAMUSED FACE"]⟩,
    ⟨0x1F613, "", ["FACE WITH COLD SWEAT;PENSIVE FACE"]⟩,
    ⟨0x1F615, "", ["CONFUSED FACE;CONFOUNDED FACE"]⟩,
    ⟨0x1F617, "", ["KISSING FACE;FACE THROWING A KISS"]⟩,
    ⟨0x1F619, "KISSING FACE WITH ", ["SMILING EYES;CLOSED EYES"]⟩,
    ⟨0x1F61B, "FACE WITH STUCK-OUT ", ["TONGUE;TONGUE AND WINKING EYE",
      "TONGUE AND TIGHTLY-CLOSED EYES"]⟩, ⟨0x1F61E, "", ["DISAPPOINTED FACE;WORRIED FACE"]⟩,
    ⟨0x1F620, "", ["ANGRY FACE;POUTING FACE"]⟩, ⟨0x1F622, "", ["CRYING FACE;PERSEVERING FACE"]⟩,
    ⟨0x1F624, "", ["FACE WITH LOOK OF TRIUMPH;DISAPPOINTED BUT RELIEVED FACE"]⟩,
    ⟨0x1F626, "", ["FROWNING FACE WITH OPEN MOUTH;ANGUISHED FACE"]⟩,
    ⟨0x1F628, "", ["FEARFUL FACE;WEARY FACE"]⟩, ⟨0x1F62A, "", ["SLEEPY FACE;TIRED FACE"]⟩,
    ⟨0x1F62C, "", ["GRIMACING FACE;LOUDLY CRYING FACE"]⟩,
    ⟨0x1F62E, "", ["FACE WITH OPEN MOUTH;HUSHED FACE"]⟩,
    ⟨0x1F630, "FACE ", ["WITH OPEN MOUTH AND COLD SWEAT;SCREAMING IN FEAR"]⟩,
    ⟨0x1F632, "", ["ASTONISHED FACE;FLUSHED FACE"]⟩, ⟨0x1F634, "", ["SLEEPING FACE;DIZZY FACE"]⟩,
    ⟨0x1F636, "FACE ", ["WITHOUT MOUTH;WITH MEDICAL MASK"]⟩,
    ⟨0x1F638, "", ["GRINNING CAT FACE WITH SMILING EYES;CAT FACE WITH TEARS OF JOY"]⟩,
    ⟨0x1F63A, "SMILING CAT FACE WITH ", ["OPEN MOUTH;HEART-SHAPED EYES"]⟩,
    ⟨0x1F63C, "CAT FACE WITH WRY ", ["SMILE"]⟩,
    ⟨0x1F63D, "", ["KISSING CAT FACE WITH CLOSED EYES;POUTING CAT FACE"]⟩,
    ⟨0x1F63F, "", ["CRYING CAT FACE;WEARY CAT FACE"]⟩,
    ⟨0x1F641, "", ["SLIGHTLY FROWNING FACE;SLIGHTLY SMILING FACE;UPSIDE-DOWN FACE"]⟩,
    ⟨0x1F644, "FACE WITH ", ["ROLLING EYES;NO GOOD GESTURE;OK GESTURE"]⟩,
    ⟨0x1F647, "PERSON BOWING ", ["DEEPLY"]⟩,
    ⟨0x1F648, "", ["SEE-NO-EVIL MONKEY;HEAR-NO-EVIL MONKEY"]⟩,
    ⟨0x1F64A, "", ["SPEAK-NO-EVIL MONKEY;HAPPY PERSON RAISING ONE HAND"]⟩,
    ⟨0x1F64C, "PERSON ", ["RAISING BOTH HANDS IN CELEBRATION;FROWNING;WITH POUTING FACE",
      "WITH FOLDED HANDS"]⟩, ⟨0x1F650, "", ["NORTH WEST POINTING LEAF;SOUTH WEST POINTING LEAF"]⟩,
    ⟨0x1F652, "", ["NORTH EAST POINTING LEAF;SOUTH EAST POINTING LEAF"]⟩,
    ⟨0x1F654, "TURNED ", ["NORTH WEST POINTING LEAF;SOUTH WEST POINTING LEAF",
      "NORTH EAST POINTING LEAF;SOUTH EAST POINTING LEAF"]⟩,
    ⟨0x1F658, "", ["NORTH WEST POINTING VINE LEAF;SOUTH WEST POINTING VINE LEAF"]⟩,
    ⟨0x1F65A, "", ["NORTH EAST POINTING VINE LEAF;SOUTH EAST POINTING VINE LEAF"]⟩,
    ⟨0x1F65C, "HEAVY ", ["NORTH WEST POINTING VINE LEAF;SOUTH WEST POINTING VINE LEAF",
      "NORTH EAST POINTING VINE LEAF;SOUTH EAST POINTING VINE LEAF"]⟩,
    ⟨0x1F660, "", ["NORTH WEST POINTING BUD;SOUTH WEST POINTING BUD"]⟩,
    ⟨0x1F662, "", ["NORTH EAST POINTING BUD;SOUTH EAST POINTING BUD"]⟩,
    ⟨0x1F664, "HEAVY ", ["NORTH WEST POINTING BUD;SOUTH WEST POINTING BUD;NORTH EAST POINTING BUD",
      "SOUTH EAST POINTING BUD"]⟩,
    ⟨0x1F668, "HOLLOW QUILT SQUARE ", ["ORNAMENT;ORNAMENT IN BLACK SQUARE"]⟩,
    ⟨0x1F66A, "SOLID QUILT SQUARE ", ["ORNAMENT;ORNAMENT IN BLACK SQUARE"]⟩,
    ⟨0x1F66C, "LEFTWARDS ", ["ROCKET"]⟩, ⟨0x1F66D, "", ["UPWARDS ROCKET;RIGHTWARDS ROCKET"]⟩,
    ⟨0x1F66F, "", ["DOWNWARDS ROCKET;SCRIPT LIGATURE ET ORNAMENT"]⟩,
    ⟨0x1F671, "", ["HEAVY SCRIPT LIGATURE ET ORNAMENT;LIGATURE OPEN ET ORNAMENT"]⟩,
    ⟨0x1F673, "", ["HEAVY LIGATURE OPEN ET ORNAMENT;HEAVY AMPERSAND ORNAMENT",
      "SWASH AMPERSAND ORNAMENT"]⟩,
    ⟨0x1F676, "SANS-SERIF HEAVY ", ["DOUBLE TURNED COMMA QUOTATION MARK ORNAMENT",
      "DOUBLE COMMA QUOTATION MARK ORNAMENT;LOW DOUBLE COMMA QUOTATION MARK ORNAMENT"]⟩,
    ⟨0x1F679, "HEAVY INTERROBANG ", ["ORNAMENT"]⟩,
    ⟨0x1F67A, "", ["SANS-SERIF INTERROBANG ORNAMENT;HEAVY SANS-SERIF INTERROBANG ORNAMENT"]⟩,
    ⟨0x1F67C, "", ["VERY HEAVY SOLIDUS;VERY HEAVY REVERSE SOLIDUS;CHECKER BOARD"]⟩,
    ⟨0x1F67F, "", ["REVERSE CHECKER BOARD;ROCKET;HELICOPTER"]⟩,
    ⟨0x1F682, "", ["STEAM LOCOMOTIVE;RAILWAY CAR"]⟩,
    ⟨0x1F684, "HIGH-SPEED ", ["TRAIN;TRAIN WITH BULLET NOSE"]⟩, ⟨0x1F686, "", ["TRAIN;METRO"]⟩,
    ⟨0x1F688, "", ["LIGHT RAIL;STATION"]⟩, ⟨0x1F68A, "", ["TRAM;TRAM CAR;BUS"]⟩,
    ⟨0x1F68D, "", ["ONCOMING BUS;TROLLEYBUS"]⟩, ⟨0x1F68F, "", ["BUS STOP;MINIBUS"]⟩,
    ⟨0x1F691, "", ["AMBULANCE;FIRE ENGINE"]⟩, ⟨0x1F693, "", ["POLICE CAR;ONCOMING POLICE CAR"]⟩,
    ⟨0x1F695, "", ["TAXI;ONCOMING TAXI"]⟩, ⟨0x1F697, "", ["AUTOMOBILE;ONCOMING AUTOMOBILE"]⟩,
    ⟨0x1F699, "", ["RECREATIONAL VEHICLE;DELIVERY TRUCK"]⟩,
    ⟨0x1F69B, "", ["ARTICULATED LORRY;TRACTOR"]⟩,
    ⟨0x1F69D, "", ["MONORAIL;MOUNTAIN RAILWAY;SUSPENSION RAILWAY"]⟩,
    ⟨0x1F6A0, "", ["MOUNTAIN CABLEWAY;AERIAL TRAMWAY"]⟩, ⟨0x1F6A2, "", ["SHIP;ROWBOAT"]⟩,
    ⟨0x1F6A4, "", ["SPEEDBOAT;HORIZONTAL TRAFFIC LIGHT"]⟩,
    ⟨0x1F6A6, "", ["VERTICAL TRAFFIC LIGHT;CONSTRUCTION SIGN"]⟩,
    ⟨0x1F6A8, "", ["POLICE CARS REVOLVING LIGHT;TRIANGULAR FLAG ON POST"]⟩,
    ⟨0x1F6AA, "", ["DOOR;NO ENTRY SIGN"]⟩, ⟨0x1F6AC, "", ["SMOKING SYMBOL;NO SMOKING SYMBOL"]⟩,
    ⟨0x1F6AE, "", ["PUT LITTER IN ITS PLACE SYMBOL;DO NOT LITTER SYMBOL"]⟩,
    ⟨0x1F6B0, "", ["POTABLE WATER SYMBOL;NON-POTABLE WATER SYMBOL"]⟩,
    ⟨0x1F6B2, "", ["BICYCLE;NO BICYCLES"]⟩, ⟨0x1F6B4, "", ["BICYCLIST;MOUNTAIN BICYCLIST"]⟩,
    ⟨0x1F6B6, "", ["PEDESTRIAN;NO PEDESTRIANS"]⟩, ⟨0x1F6B8, "", ["CHILDREN CROSSING;MENS SYMBOL"]⟩,
    ⟨0x1F6BA, "", ["WOMENS SYMBOL;RESTROOM"]⟩, ⟨0x1F6BC, "", ["BABY SYMBOL;TOILET"]⟩,
    ⟨0x1F6BE, "", ["WATER CLOSET;SHOWER"]⟩, ⟨0x1F6C0, "", ["BATH;BATHTUB"]⟩,
    ⟨0x1F6C2, "", ["PASSPORT CONTROL;CUSTOMS"]⟩, ⟨0x1F6C4, "", ["BAGGAGE CLAIM;LEFT LUGGAGE"]⟩,
    ⟨0x1F6C6, "", ["TRIANGLE WITH ROUNDED CORNERS;PROHIBITED SIGN"]⟩,
    ⟨0x1F6C8, "", ["CIRCLED INFORMATION SOURCE;BOYS SYMBOL"]⟩,
    ⟨0x1F6CA, "", ["GIRLS SYMBOL;COUCH AND LAMP"]⟩,
    ⟨0x1F6CC, "", ["SLEEPING ACCOMMODATION;SHOPPING BAGS"]⟩, ⟨0x1F6CE, "", ["BELLHOP BELL;BED"]⟩,
    ⟨0x1F6D0, "", ["PLACE OF WORSHIP;OCTAGONAL SIGN"]⟩,
    ⟨0x1F6D2, "", ["SHOPPING TROLLEY;STUPA;PAGODA"]⟩, ⟨0x1F6D5, "", ["HINDU TEMPLE;HUT;ELEVATOR"]⟩,
    ⟨0x1F6DD, "PLAYGROUND ", ["SLIDE"]⟩, ⟨0x1F6DE, "", ["WHEEL;RING BUOY"]⟩,
    ⟨0x1F6E0, "", ["HAMMER AND WRENCH;SHIELD"]⟩, ⟨0x1F6E2, "", ["OIL DRUM;MOTORWAY"]⟩,
    ⟨0x1F6E4, "", ["RAILWAY TRACK;MOTOR BOAT"]⟩,
    ⟨0x1F6E6, "UP-POINTING ", ["MILITARY AIRPLANE;AIRPLANE;SMALL AIRPLANE"]⟩,
    ⟨0x1F6E9, "", ["SMALL AIRPLANE;NORTHEAST-POINTING AIRPLANE"]⟩,
    ⟨0x1F6EB, "AIRPLANE ", ["DEPARTURE;ARRIVING"]⟩, ⟨0x1F6F0, "", ["SATELLITE"]⟩,
    ⟨0x1F6F1, "", ["ONCOMING FIRE ENGINE;DIESEL LOCOMOTIVE"]⟩,
    ⟨0x1F6F3, "", ["PASSENGER SHIP;SCOOTER"]⟩, ⟨0x1F6F5, "", ["MOTOR SCOOTER;CANOE"]⟩,
    ⟨0x1F6F7, "", ["SLED;FLYING SAUCER"]⟩, ⟨0x1F6F9, "", ["SKATEBOARD;AUTO RICKSHAW"]⟩,
    ⟨0x1F6FB, "", ["PICKUP TRUCK;ROLLER SKATE"]⟩,
    ⟨0x1F700, "ALCHEMICAL SYMBOL FOR ", ["QUINTESSENCE;AIR;FIRE;EARTH;WATER;AQUAFORTIS;AQUA REGIA",
      "AQUA REGIA-2;AQUA VITAE;AQUA VITAE-2;VINEGAR;VINEGAR-2;VINEGAR-3;SULFUR",
      "PHILOSOPHERS SULFUR;BLACK SULFUR;MERCURY SUBLIMATE;MERCURY SUBLIMATE-2;MERCURY SUBLIMATE-3",
      "CINNABAR;SALT;NITRE;VITRIOL;VITRIOL-2;ROCK SALT;ROCK SALT-2;GOLD;SILVER;IRON ORE",
      "IRON ORE-2;CROCUS OF IRON;REGULUS OF IRON;COPPER ORE;IRON-COPPER ORE;SUBLIMATE OF COPPER",
      "CROCUS OF COPPER;CROCUS OF COPPER-2;COPPER ANTIMONIATE;SALT OF COPPER ANTIMONIATE",
      "SUBLIMATE OF SALT OF COPPER;VERDIGRIS;TIN ORE;LEAD ORE;ANTIMONY ORE;SUBLIMATE OF ANTIMONY",
      "SALT OF ANTIMONY;SUBLIMATE OF SALT OF ANTIMONY;VINEGAR OF ANTIMONY;REGULUS OF ANTIMONY",
      "REGULUS OF ANTIMONY-2;REGULUS;REGULUS-2;REGULUS-3;REGULUS-4;ALKALI;ALKALI-2;MARCASITE",
      "SAL-AMMONIAC;ARSENIC;REALGAR;REALGAR-2;AURIPIGMENT;BISMUTH ORE;TARTAR;TARTAR-2;QUICK LIME",
      "BORAX;BORAX-2;BORAX-3;ALUM;OIL;SPIRIT;TINCTURE;GUM;WAX;POWDER;CALX;TUTTY;CAPUT MORTUUM",
      "SCEPTER OF JOVE;CADUCEUS;TRIDENT;STARRED TRIDENT;LODESTONE;SOAP;URINE;HORSE DUNG;ASHES",
      "POT ASHES;BRICK;POWDERED BRICK;AMALGAM;STRATUM SUPER STRATUM;STRATUM SUPER STRATUM-2",
      "SUBLIMATION;PRECIPITATE;DISTILL;DISSOLVE;DISSOLVE-2;PURIFY;PUTREFACTION;CRUCIBLE",
      "CRUCIBLE-2;CRUCIBLE-3;CRUCIBLE-4;CRUCIBLE-5;ALEMBIC;BATH OF MARY;BATH OF VAPOURS;RETORT",
      "HOUR;NIGHT;DAY-NIGHT;MONTH;HALF DRAM;HALF OUNCE"]⟩,
    ⟨0x1F780, "BLACK ", ["LEFT-POINTING ISOSCELES RIGHT TRIANGLE",
      "UP-POINTING ISOSCELES RIGHT TRIANGLE;RIGHT-POINTING ISOSCELES RIGHT TRIANGLE",
      "DOWN-POINTING ISOSCELES RIGHT TRIANGLE;SLIGHTLY SMALL CIRCLE"]⟩,
    ⟨0x1F785, "MEDIUM BOLD WHITE ", ["CIRCLE"]⟩,
    ⟨0x1F786, "", ["BOLD WHITE CIRCLE;HEAVY WHITE CIRCLE"]⟩,
    ⟨0x1F788, "", ["VERY HEAVY WHITE CIRCLE;EXTREMELY HEAVY WHITE CIRCLE"]⟩,
    ⟨0x1F78A, "", ["WHITE CIRCLE CONTAINING BLACK SMALL CIRCLE;ROUND TARGET"]⟩,
    ⟨0x1F78C, "BLACK ", ["TINY SQUARE;SLIGHTLY SMALL SQUARE"]⟩,
    ⟨0x1F78E, "", ["LIGHT WHITE SQUARE;MEDIUM WHITE SQUARE"]⟩,
    ⟨0x1F790, "", ["BOLD WHITE SQUARE;HEAVY WHITE SQUARE"]⟩,
    ⟨0x1F792, "", ["VERY HEAVY WHITE SQUARE;EXTREMELY HEAVY WHITE SQUARE"]⟩,
    ⟨0x1F794, "WHITE SQUARE CONTAINING BLACK ", ["VERY SMALL SQUARE;MEDIUM SQUARE"]⟩,
    ⟨0x1F796, "SQUARE ", ["TARGET"]⟩,
    ⟨0x1F797, "BLACK ", ["TINY DIAMOND;VERY SMALL DIAMOND;MEDIUM SMALL DIAMOND"]⟩,
    ⟨0x1F79A, "WHITE DIAMOND CONTAINING BLACK ", ["VERY SMALL DIAMOND;MEDIUM DIAMOND"]⟩,
    ⟨0x1F79C, "DIAMOND ", ["TARGET"]⟩,
    ⟨0x1F79D, "", ["BLACK TINY LOZENGE;BLACK VERY SMALL LOZENGE;BLACK MEDIUM SMALL LOZENGE",
      "WHITE LOZENGE CONTAINING BLACK SMALL LOZENGE"]⟩,
    ⟨0x1F7A1, "", ["THIN GREEK CROSS;LIGHT GREEK CROSS"]⟩,
    ⟨0x1F7A3, "", ["MEDIUM GREEK CROSS;BOLD GREEK CROSS"]⟩,
    ⟨0x1F7A5, "VERY ", ["BOLD GREEK CROSS;HEAVY GREEK CROSS"]⟩,
    ⟨0x1F7A7, "", ["EXTREMELY HEAVY GREEK CROSS;THIN SALTIRE"]⟩,
    ⟨0x1F7A9, "", ["LIGHT SALTIRE;MEDIUM SALTIRE"]⟩, ⟨0x1F7AB, "", ["BOLD SALTIRE;HEAVY SALTIRE"]⟩,
    ⟨0x1F7AD, "", ["VERY HEAVY SALTIRE;EXTREMELY HEAVY SALTIRE"]⟩,
    ⟨0x1F7AF, "", ["LIGHT FIVE SPOKED ASTERISK;MEDIUM FIVE SPOKED ASTERISK"]⟩,
    ⟨0x1F7B1, "", ["BOLD FIVE SPOKED ASTERISK;HEAVY FIVE SPOKED ASTERISK"]⟩,
    ⟨0x1F7B3, "", ["VERY HEAVY FIVE SPOKED ASTERISK;EXTREMELY HEAVY FIVE SPOKED ASTERISK"]⟩,
    ⟨0x1F7B5, "", ["LIGHT SIX SPOKED ASTERISK;MEDIUM SIX SPOKED ASTERISK"]⟩,
    ⟨0x1F7B7, "", ["BOLD SIX SPOKED ASTERISK;HEAVY SIX SPOKED ASTERISK"]⟩,
    ⟨0x1F7B9, "", ["VERY HEAVY SIX SPOKED ASTERISK;EXTREMELY HEAVY SIX SPOKED ASTERISK"]⟩,
    ⟨0x1F7BB, "", ["LIGHT EIGHT SPOKED ASTERISK;MEDIUM EIGHT SPOKED ASTERISK"]⟩,
    ⟨0x1F7BD, "", ["BOLD EIGHT SPOKED ASTERISK;HEAVY EIGHT SPOKED ASTERISK"]⟩,
    ⟨0x1F7BF, "", ["VERY HEAVY EIGHT SPOKED ASTERISK;LIGHT THREE POINTED BLACK STAR"]⟩,
    ⟨0x1F7C1, "", ["MEDIUM THREE POINTED BLACK STAR;THREE POINTED BLACK STAR"]⟩,
    ⟨0x1F7C3, "", ["MEDIUM THREE POINTED PINWHEEL STAR;LIGHT FOUR POINTED BLACK STAR"]⟩,
    ⟨0x1F7C5, "", ["MEDIUM FOUR POINTED BLACK STAR;FOUR POINTED BLACK STAR"]⟩,
    ⟨0x1F7C7, "", ["MEDIUM FOUR POINTED PINWHEEL STAR;REVERSE LIGHT FOUR POINTED PINWHEEL STAR"]⟩,
    ⟨0x1F7C9, "", ["LIGHT FIVE POINTED BLACK STAR;HEAVY FIVE POINTED BLACK STAR"]⟩,
    ⟨0x1F7CB, "", ["MEDIUM SIX POINTED BLACK STAR;HEAVY SIX POINTED BLACK STAR"]⟩,
    ⟨0x1F7CD, "", ["SIX POINTED PINWHEEL STAR;MEDIUM EIGHT POINTED BLACK STAR"]⟩,
    ⟨0x1F7CF, "", ["HEAVY EIGHT POINTED BLACK STAR;VERY HEAVY EIGHT POINTED BLACK STAR"]⟩,
    ⟨0x1F7D1, "", ["HEAVY EIGHT POINTED PINWHEEL STAR;LIGHT TWELVE POINTED BLACK STAR"]⟩,
    ⟨0x1F7D3, "HEAVY TWELVE POINTED ", ["BLACK STAR;PINWHEEL STAR"]⟩,
    ⟨0x1F7D5, "", ["CIRCLED TRIANGLE;NEGATIVE CIRCLED TRIANGLE"]⟩,
    ⟨0x1F7D7, "", ["CIRCLED SQUARE;NEGATIVE CIRCLED SQUARE"]⟩,
    ⟨0x1F7E0, "LARGE ", ["ORANGE CIRCLE;YELLOW CIRCLE;GREEN CIRCLE;PURPLE CIRCLE;BROWN CIRCLE",
      "RED SQUARE;BLUE SQUARE;ORANGE SQUARE;YELLOW SQUARE;GREEN SQUARE;PURPLE SQUARE",
      "BROWN SQUARE"]⟩, ⟨0x1F7F0, "HEAVY EQUALS ", ["SIGN"]⟩,
    ⟨0x1F800, "", ["LEFTWARDS ARROW WITH SMALL TRIANGLE ARROWHEAD",
      "UPWARDS ARROW WITH SMALL TRIANGLE ARROWHEAD"]⟩,
    ⟨0x1F802, "", ["RIGHTWARDS ARROW WITH SMALL TRIANGLE ARROWHEAD",
      "DOWNWARDS ARROW WITH SMALL TRIANGLE ARROWHEAD"]⟩,
    ⟨0x1F804, "", ["LEFTWARDS ARROW WITH MEDIUM TRIANGLE ARROWHEAD",
      "UPWARDS ARROW WITH MEDIUM TRIANGLE ARROWHEAD"]⟩,
    ⟨0x1F806, "", ["RIGHTWARDS ARROW WITH MEDIUM TRIANGLE ARROWHEAD",
      "DOWNWARDS ARROW WITH MEDIUM TRIANGLE ARROWHEAD"]⟩,
    ⟨0x1F808, "", ["LEFTWARDS ARROW WITH LARGE TRIANGLE ARROWHEAD",
      "UPWARDS ARROW WITH LARGE TRIANGLE ARROWHEAD"]⟩,
    ⟨0x1F80A, "", ["RIGHTWARDS ARROW WITH LARGE TRIANGLE ARROWHEAD",
      "DOWNWARDS ARROW WITH LARGE TRIANGLE ARROWHEAD"]⟩,
    ⟨0x1F810, "", ["LEFTWARDS ARROW WITH SMALL EQUILATERAL ARROWHEAD",
      "UPWARDS ARROW WITH SMALL EQUILATERAL ARROWHEAD"]⟩,
    ⟨0x1F812, "", ["RIGHTWARDS ARROW WITH SMALL EQUILATERAL ARROWHEAD",
      "DOWNWARDS ARROW WITH SMALL EQUILATERAL ARROWHEAD"]⟩,
    ⟨0x1F814, "", ["LEFTWARDS ARROW WITH EQUILATERAL ARROWHEAD",
      "UPWARDS ARROW WITH EQUILATERAL ARROWHEAD"]⟩,
    ⟨0x1F816, "", ["RIGHTWARDS ARROW WITH EQUILATERAL ARROWHEAD",
      "DOWNWARDS ARROW WITH EQUILATERAL ARROWHEAD"]⟩,
    ⟨0x1F818, "HEAVY ", ["LEFTWARDS ARROW WITH EQUILATERAL ARROWHEAD",
      "UPWARDS ARROW WITH EQUILATERAL ARROWHEAD;RIGHTWARDS ARROW WITH EQUILATERAL ARROWHEAD",
      "DOWNWARDS ARROW WITH EQUILATERAL ARROWHEAD",
      "LEFTWARDS ARROW WITH LARGE EQUILATERAL ARROWHEAD",
      "UPWARDS ARROW WITH LARGE EQUILATERAL ARROWHEAD",
      "RIGHTWARDS ARROW WITH LARGE EQUILATERAL ARROWHEAD",
      "DOWNWARDS ARROW WITH LARGE EQUILATERAL ARROWHEAD"]⟩,
    ⟨0x1F820, "", ["LEFTWARDS TRIANGLE-HEADED ARROW WITH NARROW SHAFT",
      "UPWARDS TRIANGLE-HEADED ARROW WITH NARROW SHAFT"]⟩,
    ⟨0x1F822, "", ["RIGHTWARDS TRIANGLE-HEADED ARROW WITH NARROW SHAFT",
      "DOWNWARDS TRIANGLE-HEADED ARROW WITH NARROW SHAFT"]⟩,
    ⟨0x1F824, "", ["LEFTWARDS TRIANGLE-HEADED ARROW WITH MEDIUM SHAFT",
      "UPWARDS TRIANGLE-HEADED ARROW WITH MEDIUM SHAFT"]⟩,
    ⟨0x1F826, "", ["RIGHTWARDS TRIANGLE-HEADED ARROW WITH MEDIUM SHAFT",
      "DOWNWARDS TRIANGLE-HEADED ARROW WITH MEDIUM SHAFT"]⟩,
    ⟨0x1F828, "", ["LEFTWARDS TRIANGLE-HEADED ARROW WITH BOLD SHAFT",
      "UPWARDS TRIANGLE-HEADED ARROW WITH BOLD SHAFT"]⟩,
    ⟨0x1F82A, "", ["RIGHTWARDS TRIANGLE-HEADED ARROW WITH BOLD SHAFT",
      "DOWNWARDS TRIANGLE-HEADED ARROW WITH BOLD SHAFT"]⟩,
    ⟨0x1F82C, "", ["LEFTWARDS TRIANGLE-HEADED ARROW WITH HEAVY SHAFT",
      "UPWARDS TRIANGLE-HEADED ARROW WITH HEAVY SHAFT"]⟩,
    ⟨0x1F82E, "", ["RIGHTWARDS TRIANGLE-HEADED ARROW WITH HEAVY SHAFT",
      "DOWNWARDS TRIANGLE-HEADED ARROW WITH HEAVY SHAFT"]⟩,
    ⟨0x1F830, "", ["LEFTWARDS TRIANGLE-HEADED ARROW WITH VERY HEAVY SHAFT",
      "UPWARDS TRIANGLE-HEADED ARROW WITH VERY HEAVY SHAFT"]⟩,
    ⟨0x1F832, "", ["RIGHTWARDS TRIANGLE-HEADED ARROW WITH VERY HEAVY SHAFT",
      "DOWNWARDS TRIANGLE-HEADED ARROW WITH VERY HEAVY SHAFT"]⟩,
    ⟨0x1F834, "", ["LEFTWARDS FINGER-POST ARROW;UPWARDS FINGER-POST ARROW"]⟩,
    ⟨0x1F836, "", ["RIGHTWARDS FINGER-POST ARROW;DOWNWARDS FINGER-POST ARROW"]⟩,
    ⟨0x1F838, "", ["LEFTWARDS SQUARED ARROW;UPWARDS SQUARED ARROW"]⟩,
    ⟨0x1F83A, "", ["RIGHTWARDS SQUARED ARROW;DOWNWARDS SQUARED ARROW"]⟩,
    ⟨0x1F83C, "", ["LEFTWARDS COMPRESSED ARROW;UPWARDS COMPRESSED ARROW"]⟩,
    ⟨0x1F83E, "", ["RIGHTWARDS COMPRESSED ARROW;DOWNWARDS COMPRESSED ARROW"]⟩,
    ⟨0x1F840, "", ["LEFTWARDS HEAVY COMPRESSED ARROW;UPWARDS HEAVY COMPRESSED ARROW"]⟩,
    ⟨0x1F842, "", ["RIGHTWARDS HEAVY COMPRESSED ARROW;DOWNWARDS HEAVY COMPRESSED ARROW"]⟩,
    ⟨0x1F844, "", ["LEFTWARDS HEAVY ARROW;UPWARDS HEAVY ARROW"]⟩,
    ⟨0x1F846, "", ["RIGHTWARDS HEAVY ARROW;DOWNWARDS HEAVY ARROW"]⟩,
    ⟨0x1F850, "", ["LEFTWARDS SANS-SERIF ARROW;UPWARDS SANS-SERIF ARROW"]⟩,
    ⟨0x1F852, "", ["RIGHTWARDS SANS-SERIF ARROW;DOWNWARDS SANS-SERIF ARROW"]⟩,
    ⟨0x1F854, "NORTH ", ["WEST SANS-SERIF ARROW;EAST SANS-SERIF ARROW"]⟩,
    ⟨0x1F856, "SOUTH ", ["EAST SANS-SERIF ARROW;WEST SANS-SERIF ARROW"]⟩,
    ⟨0x1F858, "", ["LEFT RIGHT SANS-SERIF ARROW;UP DOWN SANS-SERIF ARROW"]⟩,
    ⟨0x1F860, "WIDE-HEADED ", ["LEFTWARDS LIGHT BARB ARROW;UPWARDS LIGHT BARB ARROW",
      "RIGHTWARDS LIGHT BARB ARROW;DOWNWARDS LIGHT BARB ARROW;NORTH WEST LIGHT BARB ARROW",
      "NORTH EAST LIGHT BARB ARROW;SOUTH EAST LIGHT BARB ARROW;SOUTH WEST LIGHT BARB ARROW",
      "LEFTWARDS BARB ARROW;UPWARDS BARB ARROW;RIGHTWARDS BARB ARROW;DOWNWARDS BARB ARROW",
      "NORTH WEST BARB ARROW;NORTH EAST BARB ARROW;SOUTH EAST BARB ARROW;SOUTH WEST BARB ARROW",
      "LEFTWARDS MEDIUM BARB ARROW;UPWARDS MEDIUM BARB ARROW;RIGHTWARDS MEDIUM BARB ARROW",
      "DOWNWARDS MEDIUM BARB ARROW;NORTH WEST MEDIUM BARB ARROW;NORTH EAST MEDIUM BARB ARROW",
      "SOUTH EAST MEDIUM BARB ARROW;SOUTH WEST MEDIUM BARB ARROW;LEFTWARDS HEAVY BARB ARROW",
      "UPWARDS HEAVY BARB ARROW;RIGHTWARDS HEAVY BARB ARROW;DOWNWARDS HEAVY BARB ARROW",
      "NORTH WEST HEAVY BARB ARROW;NORTH EAST HEAVY BARB ARROW;SOUTH EAST HEAVY BARB ARROW",
      "SOUTH WEST HEAVY BARB ARROW;LEFTWARDS VERY HEAVY BARB ARROW;UPWARDS VERY HEAVY BARB ARROW",
      "RIGHTWARDS VERY HEAVY BARB ARROW;DOWNWARDS VERY HEAVY BARB ARROW",
      "NORTH WEST VERY HEAVY BARB ARROW;NORTH EAST VERY HEAVY BARB ARROW",
      "SOUTH EAST VERY HEAVY BARB ARROW;SOUTH WEST VERY HEAVY BARB ARROW"]⟩,
    ⟨0x1F890, "", ["LEFTWARDS TRIANGLE ARROWHEAD;UPWARDS TRIANGLE ARROWHEAD"]⟩,
    ⟨0x1F892, "", ["RIGHTWARDS TRIANGLE ARROWHEAD;DOWNWARDS TRIANGLE ARROWHEAD"]⟩,
    ⟨0x1F894, "", ["LEFTWARDS WHITE ARROW WITHIN TRIANGLE ARROWHEAD",
      "UPWARDS WHITE ARROW WITHIN TRIANGLE ARROWHEAD"]⟩,
    ⟨0x1F896, "", ["RIGHTWARDS WHITE ARROW WITHIN TRIANGLE ARROWHEAD",
      "DOWNWARDS WHITE ARROW WITHIN TRIANGLE ARROWHEAD"]⟩,
    ⟨0x1F898, "", ["LEFTWARDS ARROW WITH NOTCHED TAIL;UPWARDS ARROW WITH NOTCHED TAIL"]⟩,
    ⟨0x1F89A, "", ["RIGHTWARDS ARROW WITH NOTCHED TAIL;DOWNWARDS ARROW WITH NOTCHED TAIL"]⟩,
    ⟨0x1F89C, "HEAVY ARROW SHAFT WIDTH ", ["ONE;TWO THIRDS;ONE HALF;ONE THIRD"]⟩,
    ⟨0x1F8A0, "", ["LEFTWARDS BOTTOM-SHADED WHITE ARROW;RIGHTWARDS BOTTOM SHADED WHITE ARROW"]⟩,
    ⟨0x1F8A2, "", ["LEFTWARDS TOP SHADED WHITE ARROW;RIGHTWARDS TOP SHADED WHITE ARROW"]⟩,
    ⟨0x1F8A4, "", ["LEFTWARDS LEFT-SHADED WHITE ARROW;RIGHTWARDS RIGHT-SHADED WHITE ARROW"]⟩,
    ⟨0x1F8A6, "", ["LEFTWARDS RIGHT-SHADED WHITE ARROW;RIGHTWARDS LEFT-SHADED WHITE ARROW"]⟩,
    ⟨0x1F8A8, "", ["LEFTWARDS BACK-TILTED SHADOWED WHITE ARROW",
      "RIGHTWARDS BACK-TILTED SHADOWED WHITE ARROW"]⟩,
    ⟨0x1F8AA, "", ["LEFTWARDS FRONT-TILTED SHADOWED WHITE ARROW",
      "RIGHTWARDS FRONT-TILTED SHADOWED WHITE ARROW"]⟩,
    ⟨0x1F8AC, "WHITE ARROW SHAFT WIDTH ", ["ONE;TWO THIRDS"]⟩,
    ⟨0x1F8B0, "ARROW POINTING ", ["UPWARDS THEN NORTH WEST;RIGHTWARDS THEN CURVING SOUTH WEST"]⟩,
    ⟨0x1F900, "CIRCLED CROSS ", ["FORMEE WITH FOUR DOTS;FORMEE WITH TWO DOTS;FORMEE"]⟩,
    ⟨0x1F903, "LEFT HALF CIRCLE WITH ", ["FOUR DOTS;THREE DOTS;TWO DOTS;DOT"]⟩,
    ⟨0x1F907, "LEFT HALF ", ["CIRCLE"]⟩,
    ⟨0x1F908, "DOWNWARD FACING ", ["HOOK;NOTCHED HOOK;HOOK WITH DOT;NOTCHED HOOK WITH DOT"]⟩,
    ⟨0x1F90C, "PINCHED ", ["FINGERS"]⟩, ⟨0x1F90D, "", ["WHITE HEART;BROWN HEART"]⟩,
    ⟨0x1F90F, "", ["PINCHING HAND;ZIPPER-MOUTH FACE"]⟩,
    ⟨0x1F911, "", ["MONEY-MOUTH FACE;FACE WITH THERMOMETER"]⟩,
    ⟨0x1F913, "", ["NERD FACE;THINKING FACE"]⟩,
    ⟨0x1F915, "", ["FACE WITH HEAD-BANDAGE;ROBOT FACE"]⟩,
    ⟨0x1F917, "", ["HUGGING FACE;SIGN OF THE HORNS"]⟩,
    ⟨0x1F919, "", ["CALL ME HAND;RAISED BACK OF HAND"]⟩,
    ⟨0x1F91B, "", ["LEFT-FACING FIST;RIGHT-FACING FIST"]⟩,
    ⟨0x1F91D, "", ["HANDSHAKE;HAND WITH INDEX AND MIDDLE FINGERS CROSSED"]⟩,
    ⟨0x1F91F, "", ["I LOVE YOU HAND SIGN;FACE WITH COWBOY HAT"]⟩,
    ⟨0x1F921, "", ["CLOWN FACE;NAUSEATED FACE"]⟩,
    ⟨0x1F923, "", ["ROLLING ON THE FLOOR LAUGHING;DROOLING FACE"]⟩,
    ⟨0x1F925, "", ["LYING FACE;FACE PALM"]⟩,
    ⟨0x1F927, "", ["SNEEZING FACE;FACE WITH ONE EYEBROW RAISED"]⟩,
    ⟨0x1F929, "GRINNING FACE WITH ", ["STAR EYES;ONE LARGE AND ONE SMALL EYE"]⟩,
    ⟨0x1F92B, "FACE WITH FINGER COVERING CLOSED ", ["LIPS"]⟩,
    ⟨0x1F92C, "", ["SERIOUS FACE WITH SYMBOLS COVERING MOUTH",
      "SMILING FACE WITH SMILING EYES AND HAND COVERING MOUTH;FACE WITH OPEN MOUTH VOMITING"]⟩,
    ⟨0x1F92F, "", ["SHOCKED FACE WITH EXPLODING HEAD;PREGNANT WOMAN"]⟩,
    ⟨0x1F931, "", ["BREAST-FEEDING;PALMS UP TOGETHER"]⟩, ⟨0x1F933, "", ["SELFIE;PRINCE"]⟩,
    ⟨0x1F935, "", ["MAN IN TUXEDO;MOTHER CHRISTMAS;SHRUG"]⟩,
    ⟨0x1F938, "", ["PERSON DOING CARTWHEEL;JUGGLING"]⟩,
    ⟨0x1F93A, "", ["FENCER;MODERN PENTATHLON"]⟩, ⟨0x1F93C, "", ["WRESTLERS;WATER POLO"]⟩,
    ⟨0x1F93E, "", ["HANDBALL;DIVING MASK"]⟩, ⟨0x1F940, "", ["WILTED FLOWER;DRUM WITH DRUMSTICKS"]⟩,
    ⟨0x1F942, "", ["CLINKING GLASSES;TUMBLER GLASS"]⟩, ⟨0x1F944, "", ["SPOON;GOAL NET"]⟩,
    ⟨0x1F946, "", ["RIFLE;FIRST PLACE MEDAL"]⟩,
    ⟨0x1F948, "", ["SECOND PLACE MEDAL;THIRD PLACE MEDAL"]⟩,
    ⟨0x1F94A, "", ["BOXING GLOVE;MARTIAL ARTS UNIFORM"]⟩,
    ⟨0x1F94C, "", ["CURLING STONE;LACROSSE STICK AND BALL"]⟩,
    ⟨0x1F94E, "", ["SOFTBALL;FLYING DISC"]⟩, ⟨0x1F950, "", ["CROISSANT;AVOCADO"]⟩,
    ⟨0x1F952, "", ["CUCUMBER;BACON"]⟩, ⟨0x1F954, "", ["POTATO;CARROT"]⟩,
    ⟨0x1F956, "", ["BAGUETTE BREAD;GREEN SALAD"]⟩,
    ⟨0x1F958, "", ["SHALLOW PAN OF FOOD;STUFFED FLATBREAD"]⟩, ⟨0x1F95A, "", ["EGG;GLASS OF MILK"]⟩,
    ⟨0x1F95C, "", ["PEANUTS;KIWIFRUIT"]⟩, ⟨0x1F95E, "", ["PANCAKES;DUMPLING"]⟩,
    ⟨0x1F960, "", ["FORTUNE COOKIE;TAKEOUT BOX"]⟩, ⟨0x1F962, "", ["CHOPSTICKS;BOWL WITH SPOON"]⟩,
    ⟨0x1F964, "", ["CUP WITH STRAW;COCONUT;BROCCOLI"]⟩, ⟨0x1F967, "", ["PIE;PRETZEL"]⟩,
    ⟨0x1F969, "", ["CUT OF MEAT;SANDWICH"]⟩, ⟨0x1F96B, "", ["CANNED FOOD;LEAFY GREEN"]⟩,
    ⟨0x1F96D, "", ["MANGO;MOON CAKE"]⟩,
    ⟨0x1F96F, "", ["BAGEL;SMILING FACE WITH SMILING EYES AND THREE HEARTS"]⟩,
    ⟨0x1F971, "", ["YAWNING FACE;SMILING FACE WITH TEAR"]⟩,
    ⟨0x1F973, "FACE WITH ", ["PARTY HORN AND PARTY HAT;UNEVEN EYES AND WAVY MOUTH"]⟩,
    ⟨0x1F975, "", ["OVERHEATED FACE;FREEZING FACE"]⟩, ⟨0x1F977, "", ["NINJA;DISGUISED FACE"]⟩,
    ⟨0x1F979, "", ["FACE HOLDING BACK TEARS;FACE WITH PLEADING EYES;SARI"]⟩,
    ⟨0x1F97C, "", ["LAB COAT;GOGGLES"]⟩, ⟨0x1F97E, "", ["HIKING BOOT;FLAT SHOE"]⟩,
    ⟨0x1F980, "", ["CRAB;LION FACE"]⟩, ⟨0x1F982, "", ["SCORPION;TURKEY"]⟩,
    ⟨0x1F984, "", ["UNICORN FACE;EAGLE"]⟩, ⟨0x1F986, "", ["DUCK;BAT"]⟩,
    ⟨0x1F988, "", ["SHARK;OWL"]⟩, ⟨0x1F98A, "", ["FOX FACE;BUTTERFLY"]⟩,
    ⟨0x1F98C, "", ["DEER;GORILLA"]⟩, ⟨0x1F98E, "", ["LIZARD;RHINOCEROS"]⟩,
    ⟨0x1F990, "", ["SHRIMP;SQUID;GIRAFFE FACE"]⟩, ⟨0x1F993, "", ["ZEBRA FACE;HEDGEHOG"]⟩,
    ⟨0x1F995, "", ["SAUROPOD;T-REX"]⟩, ⟨0x1F997, "", ["CRICKET;KANGAROO"]⟩,
    ⟨0x1F999, "", ["LLAMA;PEACOCK"]⟩, ⟨0x1F99B, "", ["HIPPOPOTAMUS;PARROT"]⟩,
    ⟨0x1F99D, "", ["RACCOON;LOBSTER"]⟩, ⟨0x1F99F, "", ["MOSQUITO;MICROBE;BADGER"]⟩,
    ⟨0x1F9A2, "", ["SWAN;MAMMOTH"]⟩, ⟨0x1F9A4, "", ["DODO;SLOTH"]⟩,
    ⟨0x1F9A6, "", ["OTTER;ORANGUTAN;SKUNK"]⟩, ⟨0x1F9A9, "", ["FLAMINGO;OYSTER"]⟩,
    ⟨0x1F9AB, "", ["BEAVER;BISON;SEAL"]⟩, ⟨0x1F9AE, "", ["GUIDE DOG;PROBING CANE"]⟩,
    ⟨0x1F9B0, "EMOJI COMPONENT ", ["RED HAIR;CURLY HAIR;BALD;WHITE HAIR"]⟩,
    ⟨0x1F9B4, "", ["BONE;LEG"]⟩, ⟨0x1F9B6, "", ["FOOT;TOOTH"]⟩,
    ⟨0x1F9B8, "", ["SUPERHERO;SUPERVILLAIN;SAFETY VEST;EAR WITH HEARING AID"]⟩,
    ⟨0x1F9BC, "", ["MOTORIZED WHEELCHAIR;MANUAL WHEELCHAIR;MECHANICAL ARM;MECHANICAL LEG"]⟩,
    ⟨0x1F9C0, "", ["CHEESE WEDGE;CUPCAKE;SALT SHAKER"]⟩, ⟨0x1F9C3, "", ["BEVERAGE BOX;GARLIC"]⟩,
    ⟨0x1F9C5, "", ["ONION;FALAFEL"]⟩, ⟨0x1F9C7, "", ["WAFFLE;BUTTER"]⟩,
    ⟨0x1F9C9, "", ["MATE DRINK;ICE CUBE"]⟩, ⟨0x1F9CB, "", ["BUBBLE TEA;TROLL"]⟩,
    ⟨0x1F9CD, "", ["STANDING PERSON;KNEELING PERSON"]⟩,
    ⟨0x1F9CF, "", ["DEAF PERSON;FACE WITH MONOCLE"]⟩, ⟨0x1F9D1, "", ["ADULT;CHILD"]⟩,
    ⟨0x1F9D3, "", ["OLDER ADULT;BEARDED PERSON"]⟩,
    ⟨0x1F9D5, "PERSON ", ["WITH HEADSCARF;IN STEAMY ROOM;CLIMBING;IN LOTUS POSITION"]⟩,
    ⟨0x1F9D9, "", ["MAGE;FAIRY"]⟩, ⟨0x1F9DB, "", ["VAMPIRE;MERPERSON"]⟩,
    ⟨0x1F9DD, "", ["ELF;GENIE"]⟩, ⟨0x1F9DF, "", ["ZOMBIE;BRAIN"]⟩,
    ⟨0x1F9E1, "", ["ORANGE HEART;BILLED CAP"]⟩, ⟨0x1F9E3, "", ["SCARF;GLOVES"]⟩,
    ⟨0x1F9E5, "", ["COAT;SOCKS"]⟩, ⟨0x1F9E7, "", ["RED GIFT ENVELOPE;FIRECRACKER"]⟩,
    ⟨0x1F9E9, "", ["JIGSAW PUZZLE PIECE;TEST TUBE"]⟩,
    ⟨0x1F9EB, "", ["PETRI DISH;DNA DOUBLE HELIX"]⟩, ⟨0x1F9ED, "", ["COMPASS;ABACUS"]⟩,
    ⟨0x1F9EF, "", ["FIRE EXTINGUISHER;TOOLBOX"]⟩, ⟨0x1F9F1, "", ["BRICK;MAGNET"]⟩,
    ⟨0x1F9F3, "", ["LUGGAGE;LOTION BOTTLE"]⟩, ⟨0x1F9F5, "", ["SPOOL OF THREAD;BALL OF YARN"]⟩,
    ⟨0x1F9F7, "", ["SAFETY PIN;TEDDY BEAR"]⟩, ⟨0x1F9F9, "", ["BROOM;BASKET;ROLL OF PAPER"]⟩,
    ⟨0x1F9FC, "", ["BAR OF SOAP;SPONGE"]⟩, ⟨0x1F9FE, "", ["RECEIPT;NAZAR AMULET"]⟩,
    ⟨0x1FA00, "NEUTRAL CHESS ", ["KING;QUEEN;ROOK;BISHOP;KNIGHT;PAWN"]⟩,
    ⟨0x1FA06, "WHITE CHESS KNIGHT ROTATED FORTY-FIVE ", ["DEGREES"]⟩,
    ⟨0x1FA07, "", ["BLACK CHESS KNIGHT ROTATED FORTY-FIVE DEGREES",
      "NEUTRAL CHESS KNIGHT ROTATED FORTY-FIVE DEGREES"]⟩,
    ⟨0x1FA09, "WHITE CHESS ", ["KING ROTATED NINETY DEGREES;QUEEN ROTATED NINETY DEGREES",
      "ROOK ROTATED NINETY DEGREES;BISHOP ROTATED NINETY DEGREES;KNIGHT ROTATED NINETY DEGREES",
      "PAWN ROTATED NINETY DEGREES"]⟩,
    ⟨0x1FA0F, "BLACK CHESS ", ["KING ROTATED NINETY DEGREES;QUEEN ROTATED NINETY DEGREES",
      "ROOK ROTATED NINETY DEGREES;BISHOP ROTATED NINETY DEGREES;KNIGHT ROTATED NINETY DEGREES",
      "PAWN ROTATED NINETY DEGREES"]⟩,
    ⟨0x1FA15, "NEUTRAL CHESS ", ["KING ROTATED NINETY DEGREES;QUEEN ROTATED NINETY DEGREES",
      "ROOK ROTATED NINETY DEGREES;BISHOP ROTATED NINETY DEGREES;KNIGHT ROTATED NINETY DEGREES",
      "PAWN ROTATED NINETY DEGREES"]⟩,
    ⟨0x1FA1B, "WHITE CHESS KNIGHT ROTATED ONE HUNDRED THIRTY-FIVE ", ["DEGREES"]⟩,
    ⟨0x1FA1C, "", ["BLACK CHESS KNIGHT ROTATED ONE HUNDRED THIRTY-FIVE DEGREES",
      "NEUTRAL CHESS KNIGHT ROTATED ONE HUNDRED THIRTY-FIVE DEGREES"]⟩,
    ⟨0x1FA1E, "WHITE CHESS TURNED ", ["KING;QUEEN;ROOK;BISHOP;KNIGHT;PAWN"]⟩,
    ⟨0x1FA24, "BLACK CHESS TURNED ", ["KING;QUEEN;ROOK;BISHOP;KNIGHT;PAWN"]⟩,
    ⟨0x1FA2A, "NEUTRAL CHESS TURNED ", ["KING;QUEEN;ROOK;BISHOP;KNIGHT;PAWN"]⟩,
    ⟨0x1FA30, "WHITE CHESS KNIGHT ROTATED TWO HUNDRED TWENTY-FIVE ", ["DEGREES"]⟩,
    ⟨0x1FA31, "", ["BLACK CHESS KNIGHT ROTATED TWO HUNDRED TWENTY-FIVE DEGREES",
      "NEUTRAL CHESS KNIGHT ROTATED TWO HUNDRED TWENTY-FIVE DEGREES"]⟩,
    ⟨0x1FA33, "WHITE CHESS ", ["KING ROTATED TWO HUNDRED SEVENTY DEGREES",
      "QUEEN ROTATED TWO HUNDRED SEVENTY DEGREES;ROOK ROTATED TWO HUNDRED SEVENTY DEGREES",
      "BISHOP ROTATED TWO HUNDRED SEVENTY DEGREES;KNIGHT ROTATED TWO HUNDRED SEVENTY DEGREES",
      "PAWN ROTATED TWO HUNDRED SEVENTY DEGREES"]⟩,
    ⟨0x1FA39, "BLACK CHESS ", ["KING ROTATED TWO HUNDRED SEVENTY DEGREES",
      "QUEEN ROTATED TWO HUNDRED SEVENTY DEGREES;ROOK ROTATED TWO HUNDRED SEVENTY DEGREES",
      "BISHOP ROTATED TWO HUNDRED SEVENTY DEGREES;KNIGHT ROTATED TWO HUNDRED SEVENTY DEGREES",
      "PAWN ROTATED TWO HUNDRED SEVENTY DEGREES"]⟩,
    ⟨0x1FA3F, "NEUTRAL CHESS ", ["KING ROTATED TWO HUNDRED SEVENTY DEGREES",
      "QUEEN ROTATED TWO HUNDRED SEVENTY DEGREES;ROOK ROTATED TWO HUNDRED SEVENTY DEGREES",
      "BISHOP ROTATED TWO HUNDRED SEVENTY DEGREES;KNIGHT ROTATED TWO HUNDRED SEVENTY DEGREES",
      "PAWN ROTATED TWO HUNDRED SEVENTY DEGREES"]⟩,
    ⟨0x1FA45, "WHITE CHESS KNIGHT ROTATED THREE HUNDRED FIFTEEN ", ["DEGREES"]⟩,
    ⟨0x1FA46, "", ["BLACK CHESS KNIGHT ROTATED THREE HUNDRED FIFTEEN DEGREES",
      "NEUTRAL CHESS KNIGHT ROTATED THREE HUNDRED FIFTEEN DEGREES"]⟩,
    ⟨0x1FA48, "", ["WHITE CHESS EQUIHOPPER;BLACK CHESS EQUIHOPPER"]⟩,
    ⟨0x1FA4A, "", ["NEUTRAL CHESS EQUIHOPPER;WHITE CHESS EQUIHOPPER ROTATED NINETY DEGREES"]⟩,
    ⟨0x1FA4C, "", ["BLACK CHESS EQUIHOPPER ROTATED NINETY DEGREES",
      "NEUTRAL CHESS EQUIHOPPER ROTATED NINETY DEGREES"]⟩,
    ⟨0x1FA4E, "WHITE CHESS KNIGHT-", ["QUEEN;ROOK;BISHOP"]⟩,
    ⟨0x1FA51, "BLACK CHESS KNIGHT-", ["QUEEN;ROOK;BISHOP"]⟩,
    ⟨0x1FA60, "XIANGQI RED ", ["GENERAL;MANDARIN;ELEPHANT;HORSE;CHARIOT;CANNON;SOLDIER"]⟩,
    ⟨0x1FA67, "XIANGQI BLACK ", ["GENERAL;MANDARIN;ELEPHANT;HORSE;CHARIOT;CANNON;SOLDIER"]⟩,
    ⟨0x1FA70, "BALLET ", ["SHOES"]⟩, ⟨0x1FA71, "", ["ONE-PIECE SWIMSUIT;BRIEFS"]⟩,
    ⟨0x1FA73, "", ["SHORTS;THONG SANDAL"]⟩, ⟨0x1FA78, "DROP OF ", ["BLOOD"]⟩,
    ⟨0x1FA79, "", ["ADHESIVE BANDAGE;STETHOSCOPE"]⟩, ⟨0x1FA7B, "", ["X-RAY;CRUTCH"]⟩,
    ⟨0x1FA80, "YO-", ["YO"]⟩, ⟨0x1FA81, "", ["KITE;PARACHUTE"]⟩,
    ⟨0x1FA83, "", ["BOOMERANG;MAGIC WAND"]⟩, ⟨0x1FA85, "", ["PINATA;NESTING DOLLS"]⟩,
    ⟨0x1FA90, "RINGED ", ["PLANET"]⟩, ⟨0x1FA91, "", ["CHAIR;RAZOR"]⟩,
    ⟨0x1FA93, "", ["AXE;DIYA LAMP"]⟩, ⟨0x1FA95, "", ["BANJO;MILITARY HELMET"]⟩,
    ⟨0x1FA97, "", ["ACCORDION;LONG DRUM"]⟩, ⟨0x1FA99, "", ["COIN;CARPENTRY SAW"]⟩,
    ⟨0x1FA9B, "", ["SCREWDRIVER;LADDER"]⟩, ⟨0x1FA9D, "", ["HOOK;MIRROR"]⟩,
    ⟨0x1FA9F, "", ["WINDOW;PLUNGER"]⟩, ⟨0x1FAA1, "", ["SEWING NEEDLE;KNOT"]⟩,
    ⟨0x1FAA3, "", ["BUCKET;MOUSE TRAP"]⟩, ⟨0x1FAA5, "", ["TOOTHBRUSH;HEADSTONE"]⟩,
    ⟨0x1FAA7, "", ["PLACARD;ROCK"]⟩, ⟨0x1FAA9, "", ["MIRROR BALL;IDENTIFICATION CARD"]⟩,
    ⟨0x1FAAB, "", ["LOW BATTERY;HAMSA"]⟩, ⟨0x1FAB0, "", ["FLY"]⟩, ⟨0x1FAB1, "", ["WORM;BEETLE"]⟩,
    ⟨0x1FAB3, "", ["COCKROACH;POTTED PLANT"]⟩, ⟨0x1FAB5, "", ["WOOD;FEATHER"]⟩,
    ⟨0x1FAB7, "", ["LOTUS;CORAL"]⟩, ⟨0x1FAB9, "", ["EMPTY NEST;NEST WITH EGGS"]⟩,
    ⟨0x1FAC0, "", ["ANATOMICAL HEART;LUNGS"]⟩,
    ⟨0x1FAC2, "", ["PEOPLE HUGGING;PREGNANT MAN;PREGNANT PERSON;PERSON WITH CROWN"]⟩,
    ⟨0x1FAD0, "", ["BLUEBERRIES;BELL PEPPER"]⟩, ⟨0x1FAD2, "", ["OLIVE;FLATBREAD"]⟩,
    ⟨0x1FAD4, "", ["TAMALE;FONDUE"]⟩, ⟨0x1FAD6, "", ["TEAPOT;POURING LIQUID"]⟩,
    ⟨0x1FAD8, "", ["BEANS;JAR"]⟩, ⟨0x1FAE0, "", ["MELTING FACE;SALUTING FACE"]⟩,
    ⟨0x1FAE2, "FACE WITH ", ["OPEN EYES AND HAND OVER MOUTH;PEEKING EYE;DIAGONAL MOUTH"]⟩,
    ⟨0x1FAE5, "DOTTED LINE ", ["FACE"]⟩, ⟨0x1FAE6, "", ["BITING LIP;BUBBLES"]⟩,
    ⟨0x1FAF0, "HAND WITH INDEX FINGER AND THUMB ", ["CROSSED"]⟩,
    ⟨0x1FAF1, "", ["RIGHTWARDS HAND;LEFTWARDS HAND"]⟩, ⟨0x1FAF3, "PALM ", ["DOWN HAND;UP HAND"]⟩,
    ⟨0x1FAF5, "", ["INDEX POINTING AT THE VIEWER;HEART HANDS"]⟩,
    ⟨0x1FB00, "BLOCK SEXTANT-", ["1;2;12;3;13;23;123;4;14;24;124;34;134;234;1234;5;15;25;125;35",
      "235;1235;45;145;245;1245;345;1345;2345;12345;6;16;26;126;36;136;236;1236;46;146;1246;346",
      "1346;2346;12346;56;156;256;1256;356;1356;2356;12356;456;1456;2456;12456;3456;13456;23456"]⟩,
    ⟨0x1FB3C, "LOWER LEFT BLOCK DIAGONAL ", ["LOWER MIDDLE LEFT TO LOWER CENTRE",
      "LOWER MIDDLE LEFT TO LOWER RIGHT;UPPER MIDDLE LEFT TO LOWER CENTRE",
      "UPPER MIDDLE LEFT TO LOWER RIGHT;UPPER LEFT TO LOWER CENTRE"]⟩,
    ⟨0x1FB41, "LOWER RIGHT BLOCK DIAGONAL UPPER MIDDLE LEFT TO UPPER ", ["CENTRE;RIGHT"]⟩,
    ⟨0x1FB43, "LOWER RIGHT BLOCK DIAGONAL LOWER ", ["MIDDLE LEFT TO UPPER CENTRE",
      "MIDDLE LEFT TO UPPER RIGHT;LEFT TO UPPER CENTRE;MIDDLE LEFT TO UPPER MIDDLE RIGHT",
      "CENTRE TO LOWER MIDDLE RIGHT;LEFT TO LOWER MIDDLE RIGHT;CENTRE TO UPPER MIDDLE RIGHT",
      "LEFT TO UPPER MIDDLE RIGHT;CENTRE TO UPPER RIGHT"]⟩,
    ⟨0x1FB4C, "LOWER LEFT BLOCK DIAGONAL UPPER ", ["CENTRE TO UPPER MIDDLE RIGHT",
      "LEFT TO UPPER MIDDLE RIGHT;CENTRE TO LOWER MIDDLE RIGHT;LEFT TO LOWER MIDDLE RIGHT",
      "CENTRE TO LOWER RIGHT;MIDDLE LEFT TO LOWER MIDDLE RIGHT"]⟩,
    ⟨0x1FB52, "UPPER RIGHT BLOCK DIAGONAL ", ["LOWER MIDDLE LEFT TO LOWER CENTRE",
      "LOWER MIDDLE LEFT TO LOWER RIGHT;UPPER MIDDLE LEFT TO LOWER CENTRE",
      "UPPER MIDDLE LEFT TO LOWER RIGHT;UPPER LEFT TO LOWER CENTRE"]⟩,
    ⟨0x1FB57, "UPPER LEFT BLOCK DIAGONAL UPPER MIDDLE LEFT TO UPPER ", ["CENTRE;RIGHT"]⟩,
    ⟨0x1FB59, "UPPER LEFT BLOCK DIAGONAL LOWER ", ["MIDDLE LEFT TO UPPER CENTRE",
      "MIDDLE LEFT TO UPPER RIGHT;LEFT TO UPPER CENTRE;MIDDLE LEFT TO UPPER MIDDLE RIGHT",
      "CENTRE TO LOWER MIDDLE RIGHT;LEFT TO LOWER MIDDLE RIGHT;CENTRE TO UPPER MIDDLE RIGHT",
      "LEFT TO UPPER MIDDLE RIGHT;CENTRE TO UPPER RIGHT"]⟩,
    ⟨0x1FB62, "UPPER RIGHT BLOCK DIAGONAL UPPER ", ["CENTRE TO UPPER MIDDLE RIGHT",
      "LEFT TO UPPER MIDDLE RIGHT;CENTRE TO LOWER MIDDLE RIGHT;LEFT TO LOWER MIDDLE RIGHT",
      "CENTRE TO LOWER RIGHT;MIDDLE LEFT TO LOWER MIDDLE RIGHT"]⟩,
    ⟨0x1FB68, "UPPER AND RIGHT AND LOWER TRIANGULAR THREE QUARTERS ", ["BLOCK"]⟩,
    ⟨0x1FB69, "", ["LEFT AND LOWER AND RIGHT TRIANGULAR THREE QUARTERS BLOCK",
      "UPPER AND LEFT AND LOWER TRIANGULAR THREE QUARTERS BLOCK"]⟩,
    ⟨0x1FB6B, "", ["LEFT AND UPPER AND RIGHT TRIANGULAR THREE QUARTERS BLOCK",
      "LEFT TRIANGULAR ONE QUARTER BLOCK;UPPER TRIANGULAR ONE QUARTER BLOCK"]⟩,
    ⟨0x1FB6E, "", ["RIGHT TRIANGULAR ONE QUARTER BLOCK;LOWER TRIANGULAR ONE QUARTER BLOCK"]⟩,
    ⟨0x1FB70, "VERTICAL ONE EIGHTH BLOCK-", ["2;3;4;5;6;7"]⟩,
    ⟨0x1FB76, "HORIZONTAL ONE EIGHTH BLOCK-", ["2;3;4;5;6;7"]⟩,
    ⟨0x1FB7C, "LEFT AND ", ["LOWER ONE EIGHTH BLOCK;UPPER ONE EIGHTH BLOCK"]⟩,
    ⟨0x1FB7E, "RIGHT AND ", ["UPPER ONE EIGHTH BLOCK;LOWER ONE EIGHTH BLOCK"]⟩,
    ⟨0x1FB80, "", ["UPPER AND LOWER ONE EIGHTH BLOCK;HORIZONTAL ONE EIGHTH BLOCK-1358"]⟩,
    ⟨0x1FB82, "UPPER ", ["ONE QUARTER BLOCK;THREE EIGHTHS BLOCK;FIVE EIGHTHS BLOCK",
      "THREE QUARTERS BLOCK;SEVEN EIGHTHS BLOCK"]⟩,
    ⟨0x1FB87, "RIGHT ", ["ONE QUARTER BLOCK;THREE EIGHTHS BLOCK;FIVE EIGHTHS BLOCK",
      "THREE QUARTERS BLOCK;SEVEN EIGHTHS BLOCK"]⟩, ⟨0x1FB8C, "LEFT HALF MEDIUM ", ["SHADE"]⟩,
    ⟨0x1FB8D, "", ["RIGHT HALF MEDIUM SHADE;UPPER HALF MEDIUM SHADE"]⟩,
    ⟨0x1FB8F, "", ["LOWER HALF MEDIUM SHADE;INVERSE MEDIUM SHADE"]⟩,
    ⟨0x1FB91, "UPPER HALF ", ["BLOCK AND LOWER HALF INVERSE MEDIUM SHADE",
      "INVERSE MEDIUM SHADE AND LOWER HALF BLOCK"]⟩,
    ⟨0x1FB94, "", ["LEFT HALF INVERSE MEDIUM SHADE AND RIGHT HALF BLOCK;CHECKER BOARD FILL"]⟩,
    ⟨0x1FB96, "", ["INVERSE CHECKER BOARD FILL;HEAVY HORIZONTAL FILL"]⟩,
    ⟨0x1FB98, "", ["UPPER LEFT TO LOWER RIGHT FILL;UPPER RIGHT TO LOWER LEFT FILL",
      "UPPER AND LOWER TRIANGULAR HALF BLOCK;LEFT AND RIGHT TRIANGULAR HALF BLOCK"]⟩,
    ⟨0x1FB9C, "UPPER ", ["LEFT TRIANGULAR MEDIUM SHADE;RIGHT TRIANGULAR MEDIUM SHADE"]⟩,
    ⟨0x1FB9E, "LOWER ", ["RIGHT TRIANGULAR MEDIUM SHADE;LEFT TRIANGULAR MEDIUM SHADE"]⟩,
    ⟨0x1FBA0, "BOX DRAWINGS LIGHT DIAGONAL ", ["UPPER CENTRE TO MIDDLE LEFT",
      "UPPER CENTRE TO MIDDLE RIGHT;MIDDLE LEFT TO LOWER CENTRE;MIDDLE RIGHT TO LOWER CENTRE",
      "UPPER CENTRE TO MIDDLE LEFT TO LOWER CENTRE;UPPER CENTRE TO MIDDLE RIGHT TO LOWER CENTRE",
      "MIDDLE LEFT TO LOWER CENTRE TO MIDDLE RIGHT;MIDDLE LEFT TO UPPER CENTRE TO MIDDLE RIGHT",
      "UPPER CENTRE TO MIDDLE LEFT AND MIDDLE RIGHT TO LOWER CENTRE",
      "UPPER CENTRE TO MIDDLE RIGHT AND MIDDLE LEFT TO LOWER CENTRE",
      "UPPER CENTRE TO MIDDLE RIGHT TO LOWER CENTRE TO MIDDLE LEFT",
      "UPPER CENTRE TO MIDDLE LEFT TO LOWER CENTRE TO MIDDLE RIGHT",
      "MIDDLE LEFT TO UPPER CENTRE TO MIDDLE RIGHT TO LOWER CENTRE",
      "MIDDLE RIGHT TO UPPER CENTRE TO MIDDLE LEFT TO LOWER CENTRE;DIAMOND"]⟩,
    ⟨0x1FBAF, "", ["BOX DRAWINGS LIGHT HORIZONTAL WITH VERTICAL STROKE;ARROWHEAD-SHAPED POINTER"]⟩,
    ⟨0x1FBB1, "", ["INVERSE CHECK MARK;LEFT HALF RUNNING MAN"]⟩,
    ⟨0x1FBB3, "", ["RIGHT HALF RUNNING MAN;INVERSE DOWNWARDS ARROW WITH TIP LEFTWARDS"]⟩,
    ⟨0x1FBB5, "", ["LEFTWARDS ARROW AND UPPER AND LOWER ONE EIGHTH BLOCK",
      "RIGHTWARDS ARROW AND UPPER AND LOWER ONE EIGHTH BLOCK"]⟩,
    ⟨0x1FBB7, "", ["DOWNWARDS ARROW AND RIGHT ONE EIGHTH BLOCK",
      "UPWARDS ARROW AND RIGHT ONE EIGHTH BLOCK"]⟩,
    ⟨0x1FBB9, "", ["LEFT HALF FOLDER;RIGHT HALF FOLDER"]⟩,
    ⟨0x1FBBB, "", ["VOIDED GREEK CROSS;RIGHT OPEN SQUARED DOT"]⟩,
    ⟨0x1FBBD, "NEGATIVE DIAGONAL ", ["CROSS;MIDDLE RIGHT TO LOWER CENTRE;DIAMOND"]⟩,
    ⟨0x1FBC0, "", ["WHITE HEAVY SALTIRE WITH ROUNDED CORNERS",
      "LEFT THIRD WHITE RIGHT POINTING INDEX"]⟩,
    ⟨0x1FBC2, "", ["MIDDLE THIRD WHITE RIGHT POINTING INDEX",
      "RIGHT THIRD WHITE RIGHT POINTING INDEX"]⟩,
    ⟨0x1FBC4, "", ["NEGATIVE SQUARED QUESTION MARK;STICK FIGURE"]⟩,
    ⟨0x1FBC6, "STICK FIGURE ", ["WITH ARMS RAISED;LEANING LEFT;LEANING RIGHT;WITH DRESS"]⟩,
    ⟨0x1FBCA, "WHITE UP-POINTING ", ["CHEVRON"]⟩,
    ⟨0x1FBF0, "SEGMENTED DIGIT ", ["ZERO;ONE;TWO;THREE;FOUR;FIVE;SIX;SEVEN;EIGHT;NINE"]⟩,
    ⟨0xE0001, "LANGUAGE ", ["TAG"]⟩,
    ⟨0xE0020, "TAG ", ["SPACE;EXCLAMATION MARK;QUOTATION MARK;NUMBER SIGN;DOLLAR SIGN",
      "PERCENT SIGN;AMPERSAND;APOSTROPHE;LEFT PARENTHESIS;RIGHT PARENTHESIS;ASTERISK;PLUS SIGN",
      "COMMA;HYPHEN-MINUS;FULL STOP;SOLIDUS"]⟩,
    ⟨0xE0030, "TAG DIGIT ", ["ZERO;ONE;TWO;THREE;FOUR;FIVE;SIX;SEVEN;EIGHT;NINE"]⟩,
    ⟨0xE003A, "TAG ", ["COLON;SEMICOLON;LESS-THAN SIGN;EQUALS SIGN;GREATER-THAN SIGN",
      "QUESTION MARK;COMMERCIAL AT"]⟩,
    ⟨0xE0041, "TAG LATIN CAPITAL LETTER ", ["A;B;C;D;E;F;G;H;I;J;K;L;M;N;O;P;Q;R;S;T;U;V;W;X;Y",
      "Z"]⟩,
    ⟨0xE005B, "TAG ", ["LEFT SQUARE BRACKET;REVERSE SOLIDUS;RIGHT SQUARE BRACKET",
      "CIRCUMFLEX ACCENT;LOW LINE;GRAVE ACCENT"]⟩,
    ⟨0xE0061, "TAG LATIN SMALL LETTER ", ["A;B;C;D;E;F;G;H;I;J;K;L;M;N;O;P;Q;R;S;T;U;V;W;X;Y;Z"]⟩,
    ⟨0xE007B, "", ["TAG LEFT CURLY BRACKET;TAG VERTICAL LINE;TAG RIGHT CURLY BRACKET;TAG TILDE",
      "CANCEL TAG"]⟩,
    ⟨0xE0100, "VARIATION SELECTOR-", ["17;18;19;20;21;22;23;24;25;26;27;28;29;30;31;32;33;34;35",
      "36;37;38;39;40;41;42;43;44;45;46;47;48;49;50;51;52;53;54;55;56;57;58;59;60;61;62;63;64;65",
      "66;67;68;69;70;71;72;73;74;75;76;77;78;79;80;81;82;83;84;85;86;87;88;89;90;91;92;93;94;95",
      "96;97;98;99;100;101;102;103;104;105;106;107;108;109;110;111;112;113;114;115;116;117;118",
      "119;120;121;122;123;124;125;126;127;128;129;130;131;132;133;134;135;136;137;138;139;140",
      "141;142;143;144;145;146;147;148;149;150;151;152;153;154;155;156;157;158;159;160;161;162",
      "163;164;165;166;167;168;169;170;171;172;173;174;175;176;177;178;179;180;181;182;183;184",
      "185;186;187;188;189;190;191;192;193;194;195;196;197;198;199;200;201;202;203;204;205;206",
      "207;208;209;210;211;212;213;214;215;216;217;218;219;220;221;222;223;224;225;226;227;228",
      "229;230;231;232;233;234;235;236;237;238;239;240;241;242;243;244;245;246;247;248;249;250",
      "251;252;253;254;255;256"]⟩ ]

end TagCloud.Text
