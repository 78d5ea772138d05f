import TagCloud.Text.Blank
import TagCloud.Text.Lower

/-!
# Letters in upper and in lower case

A letter is in upper case, in lower case, or in the form that the first letter of a word has where
two letters are written as one character. The classes are wider than the case maps: a letter of a
mathematical alphabet is in upper case although no lower-case letter belongs to it. The tables hold
them in runs of which each step is one or two.
-/

namespace TagCloud.Text

/-!
## Upper case

The map is the full one: some letters and all ligatures become several characters. All other letters
map one to one, and the table holds them in runs that share a step and a distance.

The first letter of a word has a form of its own where two letters are written as one character:
only the first of the two is in upper case there. For most letters that form is the upper-case one.
-/

/-- The small letters beyond the ASCII ones whose upper-case form is one character. -/
def upperRuns : List CaseRun :=
  [ ⟨181, 181, 1, 743⟩, ⟨224, 246, 1, -32⟩, ⟨248, 254, 1, -32⟩, ⟨255, 255, 1, 121⟩,
    ⟨257, 303, 2, -1⟩, ⟨305, 305, 1, -232⟩, ⟨307, 311, 2, -1⟩, ⟨314, 328, 2, -1⟩, ⟨331, 375, 2, -1⟩,
    ⟨378, 382, 2, -1⟩, ⟨383, 383, 1, -300⟩, ⟨384, 384, 1, 195⟩, ⟨387, 389, 2, -1⟩,
    ⟨392, 392, 1, -1⟩, ⟨396, 396, 1, -1⟩, ⟨402, 402, 1, -1⟩, ⟨405, 405, 1, 97⟩, ⟨409, 409, 1, -1⟩,
    ⟨410, 410, 1, 163⟩, ⟨414, 414, 1, 130⟩, ⟨417, 421, 2, -1⟩, ⟨424, 424, 1, -1⟩, ⟨429, 429, 1, -1⟩,
    ⟨432, 432, 1, -1⟩, ⟨436, 438, 2, -1⟩, ⟨441, 441, 1, -1⟩, ⟨445, 445, 1, -1⟩, ⟨447, 447, 1, 56⟩,
    ⟨453, 453, 1, -1⟩, ⟨454, 454, 1, -2⟩, ⟨456, 456, 1, -1⟩, ⟨457, 457, 1, -2⟩, ⟨459, 459, 1, -1⟩,
    ⟨460, 460, 1, -2⟩, ⟨462, 476, 2, -1⟩, ⟨477, 477, 1, -79⟩, ⟨479, 495, 2, -1⟩, ⟨498, 498, 1, -1⟩,
    ⟨499, 499, 1, -2⟩, ⟨501, 501, 1, -1⟩, ⟨505, 543, 2, -1⟩, ⟨547, 563, 2, -1⟩, ⟨572, 572, 1, -1⟩,
    ⟨575, 576, 1, 10815⟩, ⟨578, 578, 1, -1⟩, ⟨583, 591, 2, -1⟩, ⟨592, 592, 1, 10783⟩,
    ⟨593, 593, 1, 10780⟩, ⟨594, 594, 1, 10782⟩, ⟨595, 595, 1, -210⟩, ⟨596, 596, 1, -206⟩,
    ⟨598, 599, 1, -205⟩, ⟨601, 601, 1, -202⟩, ⟨603, 603, 1, -203⟩, ⟨604, 604, 1, 42319⟩,
    ⟨608, 608, 1, -205⟩, ⟨609, 609, 1, 42315⟩, ⟨611, 611, 1, -207⟩, ⟨613, 613, 1, 42280⟩,
    ⟨614, 614, 1, 42308⟩, ⟨616, 616, 1, -209⟩, ⟨617, 617, 1, -211⟩, ⟨618, 618, 1, 42308⟩,
    ⟨619, 619, 1, 10743⟩, ⟨620, 620, 1, 42305⟩, ⟨623, 623, 1, -211⟩, ⟨625, 625, 1, 10749⟩,
    ⟨626, 626, 1, -213⟩, ⟨629, 629, 1, -214⟩, ⟨637, 637, 1, 10727⟩, ⟨640, 640, 1, -218⟩,
    ⟨642, 642, 1, 42307⟩, ⟨643, 643, 1, -218⟩, ⟨647, 647, 1, 42282⟩, ⟨648, 648, 1, -218⟩,
    ⟨649, 649, 1, -69⟩, ⟨650, 651, 1, -217⟩, ⟨652, 652, 1, -71⟩, ⟨658, 658, 1, -219⟩,
    ⟨669, 669, 1, 42261⟩, ⟨670, 670, 1, 42258⟩, ⟨837, 837, 1, 84⟩, ⟨881, 883, 2, -1⟩,
    ⟨887, 887, 1, -1⟩, ⟨891, 893, 1, 130⟩, ⟨940, 940, 1, -38⟩, ⟨941, 943, 1, -37⟩,
    ⟨945, 961, 1, -32⟩, ⟨962, 962, 1, -31⟩, ⟨963, 971, 1, -32⟩, ⟨972, 972, 1, -64⟩,
    ⟨973, 974, 1, -63⟩, ⟨976, 976, 1, -62⟩, ⟨977, 977, 1, -57⟩, ⟨981, 981, 1, -47⟩,
    ⟨982, 982, 1, -54⟩, ⟨983, 983, 1, -8⟩, ⟨985, 1007, 2, -1⟩, ⟨1008, 1008, 1, -86⟩,
    ⟨1009, 1009, 1, -80⟩, ⟨1010, 1010, 1, 7⟩, ⟨1011, 1011, 1, -116⟩, ⟨1013, 1013, 1, -96⟩,
    ⟨1016, 1016, 1, -1⟩, ⟨1019, 1019, 1, -1⟩, ⟨1072, 1103, 1, -32⟩, ⟨1104, 1119, 1, -80⟩,
    ⟨1121, 1153, 2, -1⟩, ⟨1163, 1215, 2, -1⟩, ⟨1218, 1230, 2, -1⟩, ⟨1231, 1231, 1, -15⟩,
    ⟨1233, 1327, 2, -1⟩, ⟨1377, 1414, 1, -48⟩, ⟨4304, 4346, 1, 3008⟩, ⟨4349, 4351, 1, 3008⟩,
    ⟨5112, 5117, 1, -8⟩, ⟨7296, 7296, 1, -6254⟩, ⟨7297, 7297, 1, -6253⟩, ⟨7298, 7298, 1, -6244⟩,
    ⟨7299, 7300, 1, -6242⟩, ⟨7301, 7301, 1, -6243⟩, ⟨7302, 7302, 1, -6236⟩, ⟨7303, 7303, 1, -6181⟩,
    ⟨7304, 7304, 1, 35266⟩, ⟨7545, 7545, 1, 35332⟩, ⟨7549, 7549, 1, 3814⟩, ⟨7566, 7566, 1, 35384⟩,
    ⟨7681, 7829, 2, -1⟩, ⟨7835, 7835, 1, -59⟩, ⟨7841, 7935, 2, -1⟩, ⟨7936, 7943, 1, 8⟩,
    ⟨7952, 7957, 1, 8⟩, ⟨7968, 7975, 1, 8⟩, ⟨7984, 7991, 1, 8⟩, ⟨8000, 8005, 1, 8⟩,
    ⟨8017, 8023, 2, 8⟩, ⟨8032, 8039, 1, 8⟩, ⟨8048, 8049, 1, 74⟩, ⟨8050, 8053, 1, 86⟩,
    ⟨8054, 8055, 1, 100⟩, ⟨8056, 8057, 1, 128⟩, ⟨8058, 8059, 1, 112⟩, ⟨8060, 8061, 1, 126⟩,
    ⟨8112, 8113, 1, 8⟩, ⟨8126, 8126, 1, -7205⟩, ⟨8144, 8145, 1, 8⟩, ⟨8160, 8161, 1, 8⟩,
    ⟨8165, 8165, 1, 7⟩, ⟨8526, 8526, 1, -28⟩, ⟨8560, 8575, 1, -16⟩, ⟨8580, 8580, 1, -1⟩,
    ⟨9424, 9449, 1, -26⟩, ⟨11312, 11359, 1, -48⟩, ⟨11361, 11361, 1, -1⟩, ⟨11365, 11365, 1, -10795⟩,
    ⟨11366, 11366, 1, -10792⟩, ⟨11368, 11372, 2, -1⟩, ⟨11379, 11379, 1, -1⟩, ⟨11382, 11382, 1, -1⟩,
    ⟨11393, 11491, 2, -1⟩, ⟨11500, 11502, 2, -1⟩, ⟨11507, 11507, 1, -1⟩, ⟨11520, 11557, 1, -7264⟩,
    ⟨11559, 11559, 1, -7264⟩, ⟨11565, 11565, 1, -7264⟩, ⟨42561, 42605, 2, -1⟩,
    ⟨42625, 42651, 2, -1⟩, ⟨42787, 42799, 2, -1⟩, ⟨42803, 42863, 2, -1⟩, ⟨42874, 42876, 2, -1⟩,
    ⟨42879, 42887, 2, -1⟩, ⟨42892, 42892, 1, -1⟩, ⟨42897, 42899, 2, -1⟩, ⟨42900, 42900, 1, 48⟩,
    ⟨42903, 42921, 2, -1⟩, ⟨42933, 42947, 2, -1⟩, ⟨42952, 42954, 2, -1⟩, ⟨42961, 42961, 1, -1⟩,
    ⟨42967, 42969, 2, -1⟩, ⟨42998, 42998, 1, -1⟩, ⟨43859, 43859, 1, -928⟩,
    ⟨43888, 43967, 1, -38864⟩, ⟨65345, 65370, 1, -32⟩, ⟨66600, 66639, 1, -40⟩,
    ⟨66776, 66811, 1, -40⟩, ⟨66967, 66977, 1, -39⟩, ⟨66979, 66993, 1, -39⟩, ⟨66995, 67001, 1, -39⟩,
    ⟨67003, 67004, 1, -39⟩, ⟨68800, 68850, 1, -64⟩, ⟨71872, 71903, 1, -32⟩, ⟨93792, 93823, 1, -32⟩,
    ⟨125218, 125251, 1, -34⟩ ]

/-- The characters whose upper-case form is several characters. -/
def upperWords : List (Nat × List Nat) :=
  [ (223, [83, 83]), (329, [700, 78]), (496, [74, 780]), (912, [921, 776, 769]),
    (944, [933, 776, 769]), (1415, [1333, 1362]), (7830, [72, 817]), (7831, [84, 776]),
    (7832, [87, 778]), (7833, [89, 778]), (7834, [65, 702]), (8016, [933, 787]),
    (8018, [933, 787, 768]), (8020, [933, 787, 769]), (8022, [933, 787, 834]), (8064, [7944, 921]),
    (8065, [7945, 921]), (8066, [7946, 921]), (8067, [7947, 921]), (8068, [7948, 921]),
    (8069, [7949, 921]), (8070, [7950, 921]), (8071, [7951, 921]), (8072, [7944, 921]),
    (8073, [7945, 921]), (8074, [7946, 921]), (8075, [7947, 921]), (8076, [7948, 921]),
    (8077, [7949, 921]), (8078, [7950, 921]), (8079, [7951, 921]), (8080, [7976, 921]),
    (8081, [7977, 921]), (8082, [7978, 921]), (8083, [7979, 921]), (8084, [7980, 921]),
    (8085, [7981, 921]), (8086, [7982, 921]), (8087, [7983, 921]), (8088, [7976, 921]),
    (8089, [7977, 921]), (8090, [7978, 921]), (8091, [7979, 921]), (8092, [7980, 921]),
    (8093, [7981, 921]), (8094, [7982, 921]), (8095, [7983, 921]), (8096, [8040, 921]),
    (8097, [8041, 921]), (8098, [8042, 921]), (8099, [8043, 921]), (8100, [8044, 921]),
    (8101, [8045, 921]), (8102, [8046, 921]), (8103, [8047, 921]), (8104, [8040, 921]),
    (8105, [8041, 921]), (8106, [8042, 921]), (8107, [8043, 921]), (8108, [8044, 921]),
    (8109, [8045, 921]), (8110, [8046, 921]), (8111, [8047, 921]), (8114, [8122, 921]),
    (8115, [913, 921]), (8116, [902, 921]), (8118, [913, 834]), (8119, [913, 834, 921]),
    (8124, [913, 921]), (8130, [8138, 921]), (8131, [919, 921]), (8132, [905, 921]),
    (8134, [919, 834]), (8135, [919, 834, 921]), (8140, [919, 921]), (8146, [921, 776, 768]),
    (8147, [921, 776, 769]), (8150, [921, 834]), (8151, [921, 776, 834]), (8162, [933, 776, 768]),
    (8163, [933, 776, 769]), (8164, [929, 787]), (8166, [933, 834]), (8167, [933, 776, 834]),
    (8178, [8186, 921]), (8179, [937, 921]), (8180, [911, 921]), (8182, [937, 834]),
    (8183, [937, 834, 921]), (8188, [937, 921]), (64256, [70, 70]), (64257, [70, 73]),
    (64258, [70, 76]), (64259, [70, 70, 73]), (64260, [70, 70, 76]), (64261, [83, 84]),
    (64262, [83, 84]), (64275, [1348, 1350]), (64276, [1348, 1333]), (64277, [1348, 1339]),
    (64278, [1358, 1350]), (64279, [1348, 1341]) ]

/-- A character in upper case. -/
def upperChar (c : Char) : List Char :=
  if c.toNat < 128 then [c.toUpper]
  else
    match upperWords.lookup c.toNat with
    | some word => word.map Char.ofNat
    | none => [shifted upperRuns c]

/-- The letters whose form at the beginning of a word is one character, but not the upper-case
form. -/
def titleRuns : List CaseRun :=
  [ ⟨452, 458, 3, 1⟩, ⟨453, 459, 3, 0⟩, ⟨454, 460, 3, -1⟩, ⟨497, 497, 1, 1⟩, ⟨498, 498, 1, 0⟩,
    ⟨499, 499, 1, -1⟩, ⟨4304, 4346, 1, 0⟩, ⟨4349, 4351, 1, 0⟩, ⟨8064, 8071, 1, 8⟩,
    ⟨8072, 8079, 1, 0⟩, ⟨8080, 8087, 1, 8⟩, ⟨8088, 8095, 1, 0⟩, ⟨8096, 8103, 1, 8⟩,
    ⟨8104, 8111, 1, 0⟩, ⟨8115, 8131, 16, 9⟩, ⟨8124, 8140, 16, 0⟩, ⟨8179, 8179, 1, 9⟩,
    ⟨8188, 8188, 1, 0⟩ ]

/-- The letters whose form at the beginning of a word is several characters, but not the upper-case
form. -/
def titleWords : List (Nat × List Nat) :=
  [ (223, [83, 115]), (1415, [1333, 1410]), (8114, [8122, 837]), (8116, [902, 837]),
    (8119, [913, 834, 837]), (8130, [8138, 837]), (8132, [905, 837]), (8135, [919, 834, 837]),
    (8178, [8186, 837]), (8180, [911, 837]), (8183, [937, 834, 837]), (64256, [70, 102]),
    (64257, [70, 105]), (64258, [70, 108]), (64259, [70, 102, 105]), (64260, [70, 102, 108]),
    (64261, [83, 116]), (64262, [83, 116]), (64275, [1348, 1398]), (64276, [1348, 1381]),
    (64277, [1348, 1387]), (64278, [1358, 1398]), (64279, [1348, 1389]) ]

/-- A character at the beginning of a word. -/
def titleChar (c : Char) : List Char :=
  match titleWords.lookup c.toNat with
  | some word => word.map Char.ofNat
  | none => if titleRuns.any (·.has c.toNat) then [shifted titleRuns c] else upperChar c

/-- A text with its first character as at the beginning of a word and the others in lower case. -/
def capitalized (s : String) : String :=
  match s.toList with
  | [] => ""
  | c :: cs => String.ofList (titleChar c ++ lowerAfter [c] cs)

/-- A character that a new word may follow: a blank, a hyphen or an opening bracket. -/
def opensWord (c : Char) : Bool :=
  isBlank c || "-(\x7b[<".toList.contains c

/-- A text with the first letter of each word in upper case and the others in lower case. -/
def titled (s : String) : String :=
  let words := s.toList.splitBy fun a b => opensWord a == opensWord b
  String.join (words.map fun
    | [] => ""
    | c :: cs => String.ofList (upperChar c) ++ lower (String.ofList cs))

/-!
## Case folding

Two texts that differ in case alone become the same text when they are folded. Folding is lower case
for most letters; it takes the special letters apart that stand for several, and it gives all forms
of a letter the same one, whatever stands around it.
-/

/-- The letters that fold into one that is not their lower-case form. -/
def foldedRuns : List CaseRun :=
  [ ⟨181, 181, 1, 775⟩, ⟨383, 383, 1, -268⟩, ⟨837, 837, 1, 116⟩, ⟨962, 962, 1, 1⟩,
    ⟨976, 976, 1, -30⟩, ⟨977, 977, 1, -25⟩, ⟨981, 981, 1, -15⟩, ⟨982, 982, 1, -22⟩,
    ⟨1008, 1008, 1, -54⟩, ⟨1009, 1009, 1, -48⟩, ⟨1013, 1013, 1, -64⟩, ⟨5024, 5109, 1, 0⟩,
    ⟨5112, 5117, 1, -8⟩, ⟨7296, 7296, 1, -6222⟩, ⟨7297, 7297, 1, -6221⟩, ⟨7298, 7298, 1, -6212⟩,
    ⟨7299, 7300, 1, -6210⟩, ⟨7301, 7301, 1, -6211⟩, ⟨7302, 7302, 1, -6204⟩,
    ⟨7303, 7303, 1, -6180⟩, ⟨7304, 7304, 1, 35267⟩, ⟨7835, 7835, 1, -58⟩, ⟨8126, 8126, 1, -7173⟩,
    ⟨43888, 43967, 1, -38864⟩ ]

/-- The letters that fold into several. -/
def foldedWords : List (Nat × List Nat) :=
  [ (223, [115, 115]), (329, [700, 110]), (496, [106, 780]), (912, [953, 776, 769]),
    (944, [965, 776, 769]), (1415, [1381, 1410]), (7830, [104, 817]), (7831, [116, 776]),
    (7832, [119, 778]), (7833, [121, 778]), (7834, [97, 702]), (7838, [115, 115]),
    (8016, [965, 787]), (8018, [965, 787, 768]), (8020, [965, 787, 769]), (8022, [965, 787, 834]),
    (8064, [7936, 953]), (8065, [7937, 953]), (8066, [7938, 953]), (8067, [7939, 953]),
    (8068, [7940, 953]), (8069, [7941, 953]), (8070, [7942, 953]), (8071, [7943, 953]),
    (8072, [7936, 953]), (8073, [7937, 953]), (8074, [7938, 953]), (8075, [7939, 953]),
    (8076, [7940, 953]), (8077, [7941, 953]), (8078, [7942, 953]), (8079, [7943, 953]),
    (8080, [7968, 953]), (8081, [7969, 953]), (8082, [7970, 953]), (8083, [7971, 953]),
    (8084, [7972, 953]), (8085, [7973, 953]), (8086, [7974, 953]), (8087, [7975, 953]),
    (8088, [7968, 953]), (8089, [7969, 953]), (8090, [7970, 953]), (8091, [7971, 953]),
    (8092, [7972, 953]), (8093, [7973, 953]), (8094, [7974, 953]), (8095, [7975, 953]),
    (8096, [8032, 953]), (8097, [8033, 953]), (8098, [8034, 953]), (8099, [8035, 953]),
    (8100, [8036, 953]), (8101, [8037, 953]), (8102, [8038, 953]), (8103, [8039, 953]),
    (8104, [8032, 953]), (8105, [8033, 953]), (8106, [8034, 953]), (8107, [8035, 953]),
    (8108, [8036, 953]), (8109, [8037, 953]), (8110, [8038, 953]), (8111, [8039, 953]),
    (8114, [8048, 953]), (8115, [945, 953]), (8116, [940, 953]), (8118, [945, 834]),
    (8119, [945, 834, 953]), (8124, [945, 953]), (8130, [8052, 953]), (8131, [951, 953]),
    (8132, [942, 953]), (8134, [951, 834]), (8135, [951, 834, 953]), (8140, [951, 953]),
    (8146, [953, 776, 768]), (8147, [953, 776, 769]), (8150, [953, 834]), (8151, [953, 776, 834]),
    (8162, [965, 776, 768]), (8163, [965, 776, 769]), (8164, [961, 787]), (8166, [965, 834]),
    (8167, [965, 776, 834]), (8178, [8060, 953]), (8179, [969, 953]), (8180, [974, 953]),
    (8182, [969, 834]), (8183, [969, 834, 953]), (8188, [969, 953]), (64256, [102, 102]),
    (64257, [102, 105]), (64258, [102, 108]), (64259, [102, 102, 105]), (64260, [102, 102, 108]),
    (64261, [115, 116]), (64262, [115, 116]), (64275, [1396, 1398]), (64276, [1396, 1381]),
    (64277, [1396, 1387]), (64278, [1406, 1398]), (64279, [1396, 1389]) ]

/-- A character without its case. -/
def folded (c : Char) : List Char :=
  if c.toNat < 128 then [c.toLower]
  else
    match foldedWords.lookup c.toNat with
    | some word => word.map Char.ofNat
    | none => if foldedRuns.any (·.has c.toNat) then [shifted foldedRuns c] else lowerChar c

/-! ## Classes of letters -/

/-- The letters in upper case beyond the ASCII ones. -/
def upperCase : List CaseRun :=
  [ ⟨192, 214, 1, 0⟩, ⟨216, 222, 1, 0⟩, ⟨256, 310, 2, 0⟩, ⟨313, 327, 2, 0⟩, ⟨330, 376, 2, 0⟩,
    ⟨377, 381, 2, 0⟩, ⟨385, 386, 1, 0⟩, ⟨388, 390, 2, 0⟩, ⟨391, 393, 2, 0⟩, ⟨394, 395, 1, 0⟩,
    ⟨398, 401, 1, 0⟩, ⟨403, 404, 1, 0⟩, ⟨406, 408, 1, 0⟩, ⟨412, 413, 1, 0⟩, ⟨415, 416, 1, 0⟩,
    ⟨418, 422, 2, 0⟩, ⟨423, 425, 2, 0⟩, ⟨428, 430, 2, 0⟩, ⟨431, 433, 2, 0⟩, ⟨434, 435, 1, 0⟩,
    ⟨437, 439, 2, 0⟩, ⟨440, 440, 1, 0⟩, ⟨444, 444, 1, 0⟩, ⟨452, 452, 1, 0⟩, ⟨455, 455, 1, 0⟩,
    ⟨458, 458, 1, 0⟩, ⟨461, 475, 2, 0⟩, ⟨478, 494, 2, 0⟩, ⟨497, 497, 1, 0⟩, ⟨500, 502, 2, 0⟩,
    ⟨503, 504, 1, 0⟩, ⟨506, 562, 2, 0⟩, ⟨570, 571, 1, 0⟩, ⟨573, 574, 1, 0⟩, ⟨577, 579, 2, 0⟩,
    ⟨580, 582, 1, 0⟩, ⟨584, 590, 2, 0⟩, ⟨880, 882, 2, 0⟩, ⟨886, 886, 1, 0⟩, ⟨895, 895, 1, 0⟩,
    ⟨902, 904, 2, 0⟩, ⟨905, 906, 1, 0⟩, ⟨908, 910, 2, 0⟩, ⟨911, 913, 2, 0⟩, ⟨914, 929, 1, 0⟩,
    ⟨931, 939, 1, 0⟩, ⟨975, 975, 1, 0⟩, ⟨978, 980, 1, 0⟩, ⟨984, 1006, 2, 0⟩, ⟨1012, 1012, 1, 0⟩,
    ⟨1015, 1017, 2, 0⟩, ⟨1018, 1018, 1, 0⟩, ⟨1021, 1071, 1, 0⟩, ⟨1120, 1152, 2, 0⟩,
    ⟨1162, 1216, 2, 0⟩, ⟨1217, 1229, 2, 0⟩, ⟨1232, 1326, 2, 0⟩, ⟨1329, 1366, 1, 0⟩,
    ⟨4256, 4293, 1, 0⟩, ⟨4295, 4295, 1, 0⟩, ⟨4301, 4301, 1, 0⟩, ⟨5024, 5109, 1, 0⟩,
    ⟨7312, 7354, 1, 0⟩, ⟨7357, 7359, 1, 0⟩, ⟨7680, 7828, 2, 0⟩, ⟨7838, 7934, 2, 0⟩,
    ⟨7944, 7951, 1, 0⟩, ⟨7960, 7965, 1, 0⟩, ⟨7976, 7983, 1, 0⟩, ⟨7992, 7999, 1, 0⟩,
    ⟨8008, 8013, 1, 0⟩, ⟨8025, 8031, 2, 0⟩, ⟨8040, 8047, 1, 0⟩, ⟨8120, 8123, 1, 0⟩,
    ⟨8136, 8139, 1, 0⟩, ⟨8152, 8155, 1, 0⟩, ⟨8168, 8172, 1, 0⟩, ⟨8184, 8187, 1, 0⟩,
    ⟨8450, 8450, 1, 0⟩, ⟨8455, 8455, 1, 0⟩, ⟨8459, 8461, 1, 0⟩, ⟨8464, 8466, 1, 0⟩,
    ⟨8469, 8469, 1, 0⟩, ⟨8473, 8477, 1, 0⟩, ⟨8484, 8490, 2, 0⟩, ⟨8491, 8493, 1, 0⟩,
    ⟨8496, 8499, 1, 0⟩, ⟨8510, 8511, 1, 0⟩, ⟨8517, 8517, 1, 0⟩, ⟨8544, 8559, 1, 0⟩,
    ⟨8579, 8579, 1, 0⟩, ⟨9398, 9423, 1, 0⟩, ⟨11264, 11311, 1, 0⟩, ⟨11360, 11362, 2, 0⟩,
    ⟨11363, 11364, 1, 0⟩, ⟨11367, 11373, 2, 0⟩, ⟨11374, 11376, 1, 0⟩, ⟨11378, 11378, 1, 0⟩,
    ⟨11381, 11381, 1, 0⟩, ⟨11390, 11392, 1, 0⟩, ⟨11394, 11490, 2, 0⟩, ⟨11499, 11501, 2, 0⟩,
    ⟨11506, 11506, 1, 0⟩, ⟨42560, 42604, 2, 0⟩, ⟨42624, 42650, 2, 0⟩, ⟨42786, 42798, 2, 0⟩,
    ⟨42802, 42862, 2, 0⟩, ⟨42873, 42877, 2, 0⟩, ⟨42878, 42886, 2, 0⟩, ⟨42891, 42893, 2, 0⟩,
    ⟨42896, 42898, 2, 0⟩, ⟨42902, 42922, 2, 0⟩, ⟨42923, 42926, 1, 0⟩, ⟨42928, 42932, 1, 0⟩,
    ⟨42934, 42948, 2, 0⟩, ⟨42949, 42951, 1, 0⟩, ⟨42953, 42953, 1, 0⟩, ⟨42960, 42960, 1, 0⟩,
    ⟨42966, 42968, 2, 0⟩, ⟨42997, 42997, 1, 0⟩, ⟨65313, 65338, 1, 0⟩, ⟨66560, 66599, 1, 0⟩,
    ⟨66736, 66771, 1, 0⟩, ⟨66928, 66938, 1, 0⟩, ⟨66940, 66954, 1, 0⟩, ⟨66956, 66962, 1, 0⟩,
    ⟨66964, 66965, 1, 0⟩, ⟨68736, 68786, 1, 0⟩, ⟨71840, 71871, 1, 0⟩, ⟨93760, 93791, 1, 0⟩,
    ⟨119808, 119833, 1, 0⟩, ⟨119860, 119885, 1, 0⟩, ⟨119912, 119937, 1, 0⟩,
    ⟨119964, 119966, 2, 0⟩, ⟨119967, 119967, 1, 0⟩, ⟨119970, 119970, 1, 0⟩,
    ⟨119973, 119974, 1, 0⟩, ⟨119977, 119980, 1, 0⟩, ⟨119982, 119989, 1, 0⟩,
    ⟨120016, 120041, 1, 0⟩, ⟨120068, 120069, 1, 0⟩, ⟨120071, 120074, 1, 0⟩,
    ⟨120077, 120084, 1, 0⟩, ⟨120086, 120092, 1, 0⟩, ⟨120120, 120121, 1, 0⟩,
    ⟨120123, 120126, 1, 0⟩, ⟨120128, 120132, 1, 0⟩, ⟨120134, 120134, 1, 0⟩,
    ⟨120138, 120144, 1, 0⟩, ⟨120172, 120197, 1, 0⟩, ⟨120224, 120249, 1, 0⟩,
    ⟨120276, 120301, 1, 0⟩, ⟨120328, 120353, 1, 0⟩, ⟨120380, 120405, 1, 0⟩,
    ⟨120432, 120457, 1, 0⟩, ⟨120488, 120512, 1, 0⟩, ⟨120546, 120570, 1, 0⟩,
    ⟨120604, 120628, 1, 0⟩, ⟨120662, 120686, 1, 0⟩, ⟨120720, 120744, 1, 0⟩,
    ⟨120778, 120778, 1, 0⟩, ⟨125184, 125217, 1, 0⟩, ⟨127280, 127305, 1, 0⟩,
    ⟨127312, 127337, 1, 0⟩, ⟨127344, 127369, 1, 0⟩ ]

/-- The letters in lower case beyond the ASCII ones. -/
def lowerCase : List CaseRun :=
  [ ⟨170, 170, 1, 0⟩, ⟨181, 181, 1, 0⟩, ⟨186, 186, 1, 0⟩, ⟨223, 246, 1, 0⟩, ⟨248, 255, 1, 0⟩,
    ⟨257, 311, 2, 0⟩, ⟨312, 328, 2, 0⟩, ⟨329, 375, 2, 0⟩, ⟨378, 382, 2, 0⟩, ⟨383, 384, 1, 0⟩,
    ⟨387, 389, 2, 0⟩, ⟨392, 392, 1, 0⟩, ⟨396, 397, 1, 0⟩, ⟨402, 402, 1, 0⟩, ⟨405, 405, 1, 0⟩,
    ⟨409, 411, 1, 0⟩, ⟨414, 414, 1, 0⟩, ⟨417, 421, 2, 0⟩, ⟨424, 426, 2, 0⟩, ⟨427, 429, 2, 0⟩,
    ⟨432, 432, 1, 0⟩, ⟨436, 438, 2, 0⟩, ⟨441, 442, 1, 0⟩, ⟨445, 447, 1, 0⟩, ⟨454, 454, 1, 0⟩,
    ⟨457, 457, 1, 0⟩, ⟨460, 476, 2, 0⟩, ⟨477, 495, 2, 0⟩, ⟨496, 496, 1, 0⟩, ⟨499, 501, 2, 0⟩,
    ⟨505, 563, 2, 0⟩, ⟨564, 569, 1, 0⟩, ⟨572, 572, 1, 0⟩, ⟨575, 576, 1, 0⟩, ⟨578, 578, 1, 0⟩,
    ⟨583, 591, 2, 0⟩, ⟨592, 659, 1, 0⟩, ⟨661, 696, 1, 0⟩, ⟨704, 705, 1, 0⟩, ⟨736, 740, 1, 0⟩,
    ⟨837, 837, 1, 0⟩, ⟨881, 883, 2, 0⟩, ⟨887, 887, 1, 0⟩, ⟨890, 893, 1, 0⟩, ⟨912, 912, 1, 0⟩,
    ⟨940, 974, 1, 0⟩, ⟨976, 977, 1, 0⟩, ⟨981, 983, 1, 0⟩, ⟨985, 1007, 2, 0⟩, ⟨1008, 1011, 1, 0⟩,
    ⟨1013, 1013, 1, 0⟩, ⟨1016, 1016, 1, 0⟩, ⟨1019, 1020, 1, 0⟩, ⟨1072, 1119, 1, 0⟩,
    ⟨1121, 1153, 2, 0⟩, ⟨1163, 1215, 2, 0⟩, ⟨1218, 1230, 2, 0⟩, ⟨1231, 1327, 2, 0⟩,
    ⟨1376, 1416, 1, 0⟩, ⟨4304, 4346, 1, 0⟩, ⟨4349, 4351, 1, 0⟩, ⟨5112, 5117, 1, 0⟩,
    ⟨7296, 7304, 1, 0⟩, ⟨7424, 7615, 1, 0⟩, ⟨7681, 7829, 2, 0⟩, ⟨7830, 7837, 1, 0⟩,
    ⟨7839, 7935, 2, 0⟩, ⟨7936, 7943, 1, 0⟩, ⟨7952, 7957, 1, 0⟩, ⟨7968, 7975, 1, 0⟩,
    ⟨7984, 7991, 1, 0⟩, ⟨8000, 8005, 1, 0⟩, ⟨8016, 8023, 1, 0⟩, ⟨8032, 8039, 1, 0⟩,
    ⟨8048, 8061, 1, 0⟩, ⟨8064, 8071, 1, 0⟩, ⟨8080, 8087, 1, 0⟩, ⟨8096, 8103, 1, 0⟩,
    ⟨8112, 8116, 1, 0⟩, ⟨8118, 8119, 1, 0⟩, ⟨8126, 8126, 1, 0⟩, ⟨8130, 8132, 1, 0⟩,
    ⟨8134, 8135, 1, 0⟩, ⟨8144, 8147, 1, 0⟩, ⟨8150, 8151, 1, 0⟩, ⟨8160, 8167, 1, 0⟩,
    ⟨8178, 8180, 1, 0⟩, ⟨8182, 8183, 1, 0⟩, ⟨8305, 8305, 1, 0⟩, ⟨8319, 8319, 1, 0⟩,
    ⟨8336, 8348, 1, 0⟩, ⟨8458, 8458, 1, 0⟩, ⟨8462, 8463, 1, 0⟩, ⟨8467, 8467, 1, 0⟩,
    ⟨8495, 8495, 1, 0⟩, ⟨8500, 8500, 1, 0⟩, ⟨8505, 8505, 1, 0⟩, ⟨8508, 8509, 1, 0⟩,
    ⟨8518, 8521, 1, 0⟩, ⟨8526, 8526, 1, 0⟩, ⟨8560, 8575, 1, 0⟩, ⟨8580, 8580, 1, 0⟩,
    ⟨9424, 9449, 1, 0⟩, ⟨11312, 11359, 1, 0⟩, ⟨11361, 11361, 1, 0⟩, ⟨11365, 11366, 1, 0⟩,
    ⟨11368, 11372, 2, 0⟩, ⟨11377, 11379, 2, 0⟩, ⟨11380, 11382, 2, 0⟩, ⟨11383, 11389, 1, 0⟩,
    ⟨11393, 11491, 2, 0⟩, ⟨11492, 11492, 1, 0⟩, ⟨11500, 11502, 2, 0⟩, ⟨11507, 11507, 1, 0⟩,
    ⟨11520, 11557, 1, 0⟩, ⟨11559, 11559, 1, 0⟩, ⟨11565, 11565, 1, 0⟩, ⟨42561, 42605, 2, 0⟩,
    ⟨42625, 42651, 2, 0⟩, ⟨42652, 42653, 1, 0⟩, ⟨42787, 42799, 2, 0⟩, ⟨42800, 42801, 1, 0⟩,
    ⟨42803, 42863, 2, 0⟩, ⟨42864, 42872, 1, 0⟩, ⟨42874, 42876, 2, 0⟩, ⟨42879, 42887, 2, 0⟩,
    ⟨42892, 42894, 2, 0⟩, ⟨42897, 42899, 2, 0⟩, ⟨42900, 42901, 1, 0⟩, ⟨42903, 42921, 2, 0⟩,
    ⟨42927, 42927, 1, 0⟩, ⟨42933, 42947, 2, 0⟩, ⟨42952, 42954, 2, 0⟩, ⟨42961, 42969, 2, 0⟩,
    ⟨42998, 43000, 2, 0⟩, ⟨43001, 43002, 1, 0⟩, ⟨43824, 43866, 1, 0⟩, ⟨43868, 43880, 1, 0⟩,
    ⟨43888, 43967, 1, 0⟩, ⟨64256, 64262, 1, 0⟩, ⟨64275, 64279, 1, 0⟩, ⟨65345, 65370, 1, 0⟩,
    ⟨66600, 66639, 1, 0⟩, ⟨66776, 66811, 1, 0⟩, ⟨66967, 66977, 1, 0⟩, ⟨66979, 66993, 1, 0⟩,
    ⟨66995, 67001, 1, 0⟩, ⟨67003, 67004, 1, 0⟩, ⟨67456, 67456, 1, 0⟩, ⟨67459, 67461, 1, 0⟩,
    ⟨67463, 67504, 1, 0⟩, ⟨67506, 67514, 1, 0⟩, ⟨68800, 68850, 1, 0⟩, ⟨71872, 71903, 1, 0⟩,
    ⟨93792, 93823, 1, 0⟩, ⟨119834, 119859, 1, 0⟩, ⟨119886, 119892, 1, 0⟩, ⟨119894, 119911, 1, 0⟩,
    ⟨119938, 119963, 1, 0⟩, ⟨119990, 119993, 1, 0⟩, ⟨119995, 119997, 2, 0⟩,
    ⟨119998, 120003, 1, 0⟩, ⟨120005, 120015, 1, 0⟩, ⟨120042, 120067, 1, 0⟩,
    ⟨120094, 120119, 1, 0⟩, ⟨120146, 120171, 1, 0⟩, ⟨120198, 120223, 1, 0⟩,
    ⟨120250, 120275, 1, 0⟩, ⟨120302, 120327, 1, 0⟩, ⟨120354, 120379, 1, 0⟩,
    ⟨120406, 120431, 1, 0⟩, ⟨120458, 120485, 1, 0⟩, ⟨120514, 120538, 1, 0⟩,
    ⟨120540, 120545, 1, 0⟩, ⟨120572, 120596, 1, 0⟩, ⟨120598, 120603, 1, 0⟩,
    ⟨120630, 120654, 1, 0⟩, ⟨120656, 120661, 1, 0⟩, ⟨120688, 120712, 1, 0⟩,
    ⟨120714, 120719, 1, 0⟩, ⟨120746, 120770, 1, 0⟩, ⟨120772, 120777, 1, 0⟩,
    ⟨120779, 120779, 1, 0⟩, ⟨122624, 122633, 1, 0⟩, ⟨122635, 122654, 1, 0⟩,
    ⟨125218, 125251, 1, 0⟩ ]

/-- The letters of which only the first of the two they join is in upper case. -/
def titleCase : Ranges :=
  [ (453, 453), (456, 456), (459, 459), (498, 498), (8072, 8079), (8088, 8095), (8104, 8111),
    (8124, 8124), (8140, 8140), (8188, 8188) ]

/-- A letter in upper case. -/
def isUpper (c : Char) : Bool :=
  if c.toNat < 128 then c.isUpper else upperCase.any (·.has c.toNat)

/-- A letter in lower case. -/
def isLower (c : Char) : Bool :=
  if c.toNat < 128 then c.isLower else lowerCase.any (·.has c.toNat)

/-- A letter in the form that begins a word and is no other one. -/
def isTitle (c : Char) : Bool :=
  128 ≤ c.toNat && titleCase.has c.toNat

/-- A text that has letters with case, all of them in upper case. -/
def isUpperText (cs : List Char) : Bool :=
  cs.any isUpper && !cs.any fun c => isLower c || isTitle c

/-- A text that has letters with case, all of them in lower case. -/
def isLowerText (cs : List Char) : Bool :=
  cs.any isLower && !cs.any fun c => isUpper c || isTitle c

/-- In a text, letters in upper case follow only characters without case and letters in lower case
only characters with case. `inside` tells that a letter with case came right before it. -/
def isTitledAfter : (inside : Bool) → List Char → Bool
  | _, [] => true
  | inside, c :: cs =>
    if isUpper c || isTitle c then !inside && isTitledAfter true cs
    else if isLower c then inside && isTitledAfter true cs
    else isTitledAfter false cs

/-- A text of words, each of which begins with a letter in upper case and goes on in lower case. -/
def isTitledText (cs : List Char) : Bool :=
  (cs.any fun c => isUpper c || isTitle c) && isTitledAfter false cs

/-- Turns upper case into lower case and lower case into upper case in `rest`, with what stands
before it given from right to left. -/
def swappedAfter (before : List Char) (rest : List Char) : List Char :=
  match rest with
  | [] => []
  | c :: cs =>
    let here :=
      if isUpper c then loweredAt before c cs else if isLower c then upperChar c else [c]
    here ++ swappedAfter (c :: before) cs

/-- A text with upper case turned into lower case and lower case into upper case. -/
def swapped (cs : List Char) : List Char :=
  swappedAfter [] cs

/-- Begins each row of letters with case in `rest` as a word begins and lower-cases what follows,
with what stands before it given from right to left. -/
def wordsTitledAfter (before : List Char) (rest : List Char) : List Char :=
  match rest with
  | [] => []
  | c :: cs =>
    let here := if before.head?.any isCased then loweredAt before c cs else titleChar c
    here ++ wordsTitledAfter (c :: before) cs

/-- A text in which each row of letters with case begins as a word begins. -/
def wordsTitled (cs : List Char) : List Char :=
  wordsTitledAfter [] cs

end TagCloud.Text
