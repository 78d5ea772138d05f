/-!
# Reduction to plain letters

The name of a stored file keeps only letters, digits, dots, hyphens and low lines of ASCII. A letter
with an accent is kept as its plain letter, a ligature as the letters it joins, a full-width or
styled letter as the ordinary one; this is what remains of compatibility decomposition when all
that is not ASCII is left out. The table holds what matters to a file name: letters, digits, the
three marks, the slash and the space.
-/

namespace TagCloud.Text

/-- Characters `first` to `last` that reduce to one ASCII character each, the first of them to
`plain` and each later one to the next. -/
structure FoldRun where
  first : Nat
  last : Nat
  plain : Char

/-- The characters that reduce to one ASCII character. -/
def foldRuns : List FoldRun :=
  [ ⟨160, 160, ' '⟩, ⟨168, 168, ' '⟩, ⟨170, 170, 'a'⟩, ⟨175, 175, ' '⟩, ⟨178, 179, '2'⟩,
    ⟨180, 180, ' '⟩, ⟨184, 184, ' '⟩, ⟨185, 185, '1'⟩, ⟨186, 186, 'o'⟩, ⟨192, 192, 'A'⟩,
    ⟨193, 193, 'A'⟩, ⟨194, 194, 'A'⟩, ⟨195, 195, 'A'⟩, ⟨196, 196, 'A'⟩, ⟨197, 197, 'A'⟩,
    ⟨199, 199, 'C'⟩, ⟨200, 200, 'E'⟩, ⟨201, 201, 'E'⟩, ⟨202, 202, 'E'⟩, ⟨203, 203, 'E'⟩,
    ⟨204, 204, 'I'⟩, ⟨205, 205, 'I'⟩, ⟨206, 206, 'I'⟩, ⟨207, 207, 'I'⟩, ⟨209, 210, 'N'⟩,
    ⟨211, 211, 'O'⟩, ⟨212, 212, 'O'⟩, ⟨213, 213, 'O'⟩, ⟨214, 214, 'O'⟩, ⟨217, 217, 'U'⟩,
    ⟨218, 218, 'U'⟩, ⟨219, 219, 'U'⟩, ⟨220, 220, 'U'⟩, ⟨221, 221, 'Y'⟩, ⟨224, 224, 'a'⟩,
    ⟨225, 225, 'a'⟩, ⟨226, 226, 'a'⟩, ⟨227, 227, 'a'⟩, ⟨228, 228, 'a'⟩, ⟨229, 229, 'a'⟩,
    ⟨231, 231, 'c'⟩, ⟨232, 232, 'e'⟩, ⟨233, 233, 'e'⟩, ⟨234, 234, 'e'⟩, ⟨235, 235, 'e'⟩,
    ⟨236, 236, 'i'⟩, ⟨237, 237, 'i'⟩, ⟨238, 238, 'i'⟩, ⟨239, 239, 'i'⟩, ⟨241, 242, 'n'⟩,
    ⟨243, 243, 'o'⟩, ⟨244, 244, 'o'⟩, ⟨245, 245, 'o'⟩, ⟨246, 246, 'o'⟩, ⟨249, 249, 'u'⟩,
    ⟨250, 250, 'u'⟩, ⟨251, 251, 'u'⟩, ⟨252, 252, 'u'⟩, ⟨253, 253, 'y'⟩, ⟨255, 255, 'y'⟩,
    ⟨256, 256, 'A'⟩, ⟨257, 257, 'a'⟩, ⟨258, 258, 'A'⟩, ⟨259, 259, 'a'⟩, ⟨260, 260, 'A'⟩,
    ⟨261, 261, 'a'⟩, ⟨262, 262, 'C'⟩, ⟨263, 263, 'c'⟩, ⟨264, 264, 'C'⟩, ⟨265, 265, 'c'⟩,
    ⟨266, 266, 'C'⟩, ⟨267, 267, 'c'⟩, ⟨268, 268, 'C'⟩, ⟨269, 269, 'c'⟩, ⟨270, 270, 'D'⟩,
    ⟨271, 271, 'd'⟩, ⟨274, 274, 'E'⟩, ⟨275, 275, 'e'⟩, ⟨276, 276, 'E'⟩, ⟨277, 277, 'e'⟩,
    ⟨278, 278, 'E'⟩, ⟨279, 279, 'e'⟩, ⟨280, 280, 'E'⟩, ⟨281, 281, 'e'⟩, ⟨282, 282, 'E'⟩,
    ⟨283, 283, 'e'⟩, ⟨284, 284, 'G'⟩, ⟨285, 285, 'g'⟩, ⟨286, 286, 'G'⟩, ⟨287, 287, 'g'⟩,
    ⟨288, 288, 'G'⟩, ⟨289, 289, 'g'⟩, ⟨290, 290, 'G'⟩, ⟨291, 291, 'g'⟩, ⟨292, 292, 'H'⟩,
    ⟨293, 293, 'h'⟩, ⟨296, 296, 'I'⟩, ⟨297, 297, 'i'⟩, ⟨298, 298, 'I'⟩, ⟨299, 299, 'i'⟩,
    ⟨300, 300, 'I'⟩, ⟨301, 301, 'i'⟩, ⟨302, 302, 'I'⟩, ⟨303, 303, 'i'⟩, ⟨304, 304, 'I'⟩,
    ⟨308, 308, 'J'⟩, ⟨309, 309, 'j'⟩, ⟨310, 310, 'K'⟩, ⟨311, 311, 'k'⟩, ⟨313, 313, 'L'⟩,
    ⟨314, 314, 'l'⟩, ⟨315, 315, 'L'⟩, ⟨316, 316, 'l'⟩, ⟨317, 317, 'L'⟩, ⟨318, 318, 'l'⟩,
    ⟨319, 319, 'L'⟩, ⟨320, 320, 'l'⟩, ⟨323, 323, 'N'⟩, ⟨324, 324, 'n'⟩, ⟨325, 325, 'N'⟩,
    ⟨326, 326, 'n'⟩, ⟨327, 327, 'N'⟩, ⟨328, 328, 'n'⟩, ⟨329, 329, 'n'⟩, ⟨332, 332, 'O'⟩,
    ⟨333, 333, 'o'⟩, ⟨334, 334, 'O'⟩, ⟨335, 335, 'o'⟩, ⟨336, 336, 'O'⟩, ⟨337, 337, 'o'⟩,
    ⟨340, 340, 'R'⟩, ⟨341, 341, 'r'⟩, ⟨342, 342, 'R'⟩, ⟨343, 343, 'r'⟩, ⟨344, 344, 'R'⟩,
    ⟨345, 345, 'r'⟩, ⟨346, 346, 'S'⟩, ⟨347, 347, 's'⟩, ⟨348, 348, 'S'⟩, ⟨349, 349, 's'⟩,
    ⟨350, 350, 'S'⟩, ⟨351, 351, 's'⟩, ⟨352, 352, 'S'⟩, ⟨353, 353, 's'⟩, ⟨354, 354, 'T'⟩,
    ⟨355, 355, 't'⟩, ⟨356, 356, 'T'⟩, ⟨357, 357, 't'⟩, ⟨360, 360, 'U'⟩, ⟨361, 361, 'u'⟩,
    ⟨362, 362, 'U'⟩, ⟨363, 363, 'u'⟩, ⟨364, 364, 'U'⟩, ⟨365, 365, 'u'⟩, ⟨366, 366, 'U'⟩,
    ⟨367, 367, 'u'⟩, ⟨368, 368, 'U'⟩, ⟨369, 369, 'u'⟩, ⟨370, 370, 'U'⟩, ⟨371, 371, 'u'⟩,
    ⟨372, 372, 'W'⟩, ⟨373, 373, 'w'⟩, ⟨374, 374, 'Y'⟩, ⟨375, 375, 'y'⟩, ⟨376, 377, 'Y'⟩,
    ⟨378, 378, 'z'⟩, ⟨379, 379, 'Z'⟩, ⟨380, 380, 'z'⟩, ⟨381, 381, 'Z'⟩, ⟨382, 382, 'z'⟩,
    ⟨383, 383, 's'⟩, ⟨416, 416, 'O'⟩, ⟨417, 417, 'o'⟩, ⟨431, 431, 'U'⟩, ⟨432, 432, 'u'⟩,
    ⟨461, 461, 'A'⟩, ⟨462, 462, 'a'⟩, ⟨463, 463, 'I'⟩, ⟨464, 464, 'i'⟩, ⟨465, 465, 'O'⟩,
    ⟨466, 466, 'o'⟩, ⟨467, 467, 'U'⟩, ⟨468, 468, 'u'⟩, ⟨469, 469, 'U'⟩, ⟨470, 470, 'u'⟩,
    ⟨471, 471, 'U'⟩, ⟨472, 472, 'u'⟩, ⟨473, 473, 'U'⟩, ⟨474, 474, 'u'⟩, ⟨475, 475, 'U'⟩,
    ⟨476, 476, 'u'⟩, ⟨478, 478, 'A'⟩, ⟨479, 479, 'a'⟩, ⟨480, 480, 'A'⟩, ⟨481, 481, 'a'⟩,
    ⟨486, 486, 'G'⟩, ⟨487, 487, 'g'⟩, ⟨488, 488, 'K'⟩, ⟨489, 489, 'k'⟩, ⟨490, 490, 'O'⟩,
    ⟨491, 491, 'o'⟩, ⟨492, 492, 'O'⟩, ⟨493, 493, 'o'⟩, ⟨496, 496, 'j'⟩, ⟨500, 500, 'G'⟩,
    ⟨501, 501, 'g'⟩, ⟨504, 504, 'N'⟩, ⟨505, 505, 'n'⟩, ⟨506, 506, 'A'⟩, ⟨507, 507, 'a'⟩,
    ⟨512, 512, 'A'⟩, ⟨513, 513, 'a'⟩, ⟨514, 514, 'A'⟩, ⟨515, 515, 'a'⟩, ⟨516, 516, 'E'⟩,
    ⟨517, 517, 'e'⟩, ⟨518, 518, 'E'⟩, ⟨519, 519, 'e'⟩, ⟨520, 520, 'I'⟩, ⟨521, 521, 'i'⟩,
    ⟨522, 522, 'I'⟩, ⟨523, 523, 'i'⟩, ⟨524, 524, 'O'⟩, ⟨525, 525, 'o'⟩, ⟨526, 526, 'O'⟩,
    ⟨527, 527, 'o'⟩, ⟨528, 528, 'R'⟩, ⟨529, 529, 'r'⟩, ⟨530, 530, 'R'⟩, ⟨531, 531, 'r'⟩,
    ⟨532, 532, 'U'⟩, ⟨533, 533, 'u'⟩, ⟨534, 534, 'U'⟩, ⟨535, 535, 'u'⟩, ⟨536, 536, 'S'⟩,
    ⟨537, 537, 's'⟩, ⟨538, 538, 'T'⟩, ⟨539, 539, 't'⟩, ⟨542, 542, 'H'⟩, ⟨543, 543, 'h'⟩,
    ⟨550, 550, 'A'⟩, ⟨551, 551, 'a'⟩, ⟨552, 552, 'E'⟩, ⟨553, 553, 'e'⟩, ⟨554, 554, 'O'⟩,
    ⟨555, 555, 'o'⟩, ⟨556, 556, 'O'⟩, ⟨557, 557, 'o'⟩, ⟨558, 558, 'O'⟩, ⟨559, 559, 'o'⟩,
    ⟨560, 560, 'O'⟩, ⟨561, 561, 'o'⟩, ⟨562, 562, 'Y'⟩, ⟨563, 563, 'y'⟩, ⟨688, 688, 'h'⟩,
    ⟨690, 690, 'j'⟩, ⟨691, 691, 'r'⟩, ⟨695, 695, 'w'⟩, ⟨696, 696, 'y'⟩, ⟨728, 728, ' '⟩,
    ⟨729, 729, ' '⟩, ⟨730, 730, ' '⟩, ⟨731, 731, ' '⟩, ⟨732, 732, ' '⟩, ⟨733, 733, ' '⟩,
    ⟨737, 737, 'l'⟩, ⟨738, 738, 's'⟩, ⟨739, 739, 'x'⟩, ⟨890, 890, ' '⟩, ⟨900, 900, ' '⟩,
    ⟨901, 901, ' '⟩, ⟨7468, 7468, 'A'⟩, ⟨7470, 7470, 'B'⟩, ⟨7472, 7473, 'D'⟩, ⟨7475, 7482, 'G'⟩,
    ⟨7484, 7484, 'O'⟩, ⟨7486, 7486, 'P'⟩, ⟨7487, 7487, 'R'⟩, ⟨7488, 7489, 'T'⟩, ⟨7490, 7490, 'W'⟩,
    ⟨7491, 7491, 'a'⟩, ⟨7495, 7495, 'b'⟩, ⟨7496, 7497, 'd'⟩, ⟨7501, 7501, 'g'⟩, ⟨7503, 7503, 'k'⟩,
    ⟨7504, 7504, 'm'⟩, ⟨7506, 7506, 'o'⟩, ⟨7510, 7510, 'p'⟩, ⟨7511, 7512, 't'⟩, ⟨7515, 7515, 'v'⟩,
    ⟨7522, 7522, 'i'⟩, ⟨7523, 7523, 'r'⟩, ⟨7524, 7525, 'u'⟩, ⟨7580, 7580, 'c'⟩, ⟨7584, 7584, 'f'⟩,
    ⟨7611, 7611, 'z'⟩, ⟨7680, 7680, 'A'⟩, ⟨7681, 7681, 'a'⟩, ⟨7682, 7682, 'B'⟩, ⟨7683, 7683, 'b'⟩,
    ⟨7684, 7684, 'B'⟩, ⟨7685, 7685, 'b'⟩, ⟨7686, 7686, 'B'⟩, ⟨7687, 7687, 'b'⟩, ⟨7688, 7688, 'C'⟩,
    ⟨7689, 7689, 'c'⟩, ⟨7690, 7690, 'D'⟩, ⟨7691, 7691, 'd'⟩, ⟨7692, 7692, 'D'⟩, ⟨7693, 7693, 'd'⟩,
    ⟨7694, 7694, 'D'⟩, ⟨7695, 7695, 'd'⟩, ⟨7696, 7696, 'D'⟩, ⟨7697, 7697, 'd'⟩, ⟨7698, 7698, 'D'⟩,
    ⟨7699, 7699, 'd'⟩, ⟨7700, 7700, 'E'⟩, ⟨7701, 7701, 'e'⟩, ⟨7702, 7702, 'E'⟩, ⟨7703, 7703, 'e'⟩,
    ⟨7704, 7704, 'E'⟩, ⟨7705, 7705, 'e'⟩, ⟨7706, 7706, 'E'⟩, ⟨7707, 7707, 'e'⟩, ⟨7708, 7708, 'E'⟩,
    ⟨7709, 7709, 'e'⟩, ⟨7710, 7710, 'F'⟩, ⟨7711, 7711, 'f'⟩, ⟨7712, 7712, 'G'⟩, ⟨7713, 7713, 'g'⟩,
    ⟨7714, 7714, 'H'⟩, ⟨7715, 7715, 'h'⟩, ⟨7716, 7716, 'H'⟩, ⟨7717, 7717, 'h'⟩, ⟨7718, 7718, 'H'⟩,
    ⟨7719, 7719, 'h'⟩, ⟨7720, 7720, 'H'⟩, ⟨7721, 7721, 'h'⟩, ⟨7722, 7722, 'H'⟩, ⟨7723, 7723, 'h'⟩,
    ⟨7724, 7724, 'I'⟩, ⟨7725, 7725, 'i'⟩, ⟨7726, 7726, 'I'⟩, ⟨7727, 7727, 'i'⟩, ⟨7728, 7728, 'K'⟩,
    ⟨7729, 7729, 'k'⟩, ⟨7730, 7730, 'K'⟩, ⟨7731, 7731, 'k'⟩, ⟨7732, 7732, 'K'⟩, ⟨7733, 7733, 'k'⟩,
    ⟨7734, 7734, 'L'⟩, ⟨7735, 7735, 'l'⟩, ⟨7736, 7736, 'L'⟩, ⟨7737, 7737, 'l'⟩, ⟨7738, 7738, 'L'⟩,
    ⟨7739, 7739, 'l'⟩, ⟨7740, 7740, 'L'⟩, ⟨7741, 7741, 'l'⟩, ⟨7742, 7742, 'M'⟩, ⟨7743, 7743, 'm'⟩,
    ⟨7744, 7744, 'M'⟩, ⟨7745, 7745, 'm'⟩, ⟨7746, 7746, 'M'⟩, ⟨7747, 7747, 'm'⟩, ⟨7748, 7748, 'N'⟩,
    ⟨7749, 7749, 'n'⟩, ⟨7750, 7750, 'N'⟩, ⟨7751, 7751, 'n'⟩, ⟨7752, 7752, 'N'⟩, ⟨7753, 7753, 'n'⟩,
    ⟨7754, 7754, 'N'⟩, ⟨7755, 7755, 'n'⟩, ⟨7756, 7756, 'O'⟩, ⟨7757, 7757, 'o'⟩, ⟨7758, 7758, 'O'⟩,
    ⟨7759, 7759, 'o'⟩, ⟨7760, 7760, 'O'⟩, ⟨7761, 7761, 'o'⟩, ⟨7762, 7762, 'O'⟩, ⟨7763, 7763, 'o'⟩,
    ⟨7764, 7764, 'P'⟩, ⟨7765, 7765, 'p'⟩, ⟨7766, 7766, 'P'⟩, ⟨7767, 7767, 'p'⟩, ⟨7768, 7768, 'R'⟩,
    ⟨7769, 7769, 'r'⟩, ⟨7770, 7770, 'R'⟩, ⟨7771, 7771, 'r'⟩, ⟨7772, 7772, 'R'⟩, ⟨7773, 7773, 'r'⟩,
    ⟨7774, 7774, 'R'⟩, ⟨7775, 7775, 'r'⟩, ⟨7776, 7776, 'S'⟩, ⟨7777, 7777, 's'⟩, ⟨7778, 7778, 'S'⟩,
    ⟨7779, 7779, 's'⟩, ⟨7780, 7780, 'S'⟩, ⟨7781, 7781, 's'⟩, ⟨7782, 7782, 'S'⟩, ⟨7783, 7783, 's'⟩,
    ⟨7784, 7784, 'S'⟩, ⟨7785, 7785, 's'⟩, ⟨7786, 7786, 'T'⟩, ⟨7787, 7787, 't'⟩, ⟨7788, 7788, 'T'⟩,
    ⟨7789, 7789, 't'⟩, ⟨7790, 7790, 'T'⟩, ⟨7791, 7791, 't'⟩, ⟨7792, 7792, 'T'⟩, ⟨7793, 7793, 't'⟩,
    ⟨7794, 7794, 'U'⟩, ⟨7795, 7795, 'u'⟩, ⟨7796, 7796, 'U'⟩, ⟨7797, 7797, 'u'⟩, ⟨7798, 7798, 'U'⟩,
    ⟨7799, 7799, 'u'⟩, ⟨7800, 7800, 'U'⟩, ⟨7801, 7801, 'u'⟩, ⟨7802, 7802, 'U'⟩, ⟨7803, 7803, 'u'⟩,
    ⟨7804, 7804, 'V'⟩, ⟨7805, 7805, 'v'⟩, ⟨7806, 7806, 'V'⟩, ⟨7807, 7807, 'v'⟩, ⟨7808, 7808, 'W'⟩,
    ⟨7809, 7809, 'w'⟩, ⟨7810, 7810, 'W'⟩, ⟨7811, 7811, 'w'⟩, ⟨7812, 7812, 'W'⟩, ⟨7813, 7813, 'w'⟩,
    ⟨7814, 7814, 'W'⟩, ⟨7815, 7815, 'w'⟩, ⟨7816, 7816, 'W'⟩, ⟨7817, 7817, 'w'⟩, ⟨7818, 7818, 'X'⟩,
    ⟨7819, 7819, 'x'⟩, ⟨7820, 7820, 'X'⟩, ⟨7821, 7821, 'x'⟩, ⟨7822, 7822, 'Y'⟩, ⟨7823, 7823, 'y'⟩,
    ⟨7824, 7824, 'Z'⟩, ⟨7825, 7825, 'z'⟩, ⟨7826, 7826, 'Z'⟩, ⟨7827, 7827, 'z'⟩, ⟨7828, 7828, 'Z'⟩,
    ⟨7829, 7829, 'z'⟩, ⟨7830, 7830, 'h'⟩, ⟨7831, 7831, 't'⟩, ⟨7832, 7832, 'w'⟩, ⟨7833, 7833, 'y'⟩,
    ⟨7834, 7834, 'a'⟩, ⟨7835, 7835, 's'⟩, ⟨7840, 7840, 'A'⟩, ⟨7841, 7841, 'a'⟩, ⟨7842, 7842, 'A'⟩,
    ⟨7843, 7843, 'a'⟩, ⟨7844, 7844, 'A'⟩, ⟨7845, 7845, 'a'⟩, ⟨7846, 7846, 'A'⟩, ⟨7847, 7847, 'a'⟩,
    ⟨7848, 7848, 'A'⟩, ⟨7849, 7849, 'a'⟩, ⟨7850, 7850, 'A'⟩, ⟨7851, 7851, 'a'⟩, ⟨7852, 7852, 'A'⟩,
    ⟨7853, 7853, 'a'⟩, ⟨7854, 7854, 'A'⟩, ⟨7855, 7855, 'a'⟩, ⟨7856, 7856, 'A'⟩, ⟨7857, 7857, 'a'⟩,
    ⟨7858, 7858, 'A'⟩, ⟨7859, 7859, 'a'⟩, ⟨7860, 7860, 'A'⟩, ⟨7861, 7861, 'a'⟩, ⟨7862, 7862, 'A'⟩,
    ⟨7863, 7863, 'a'⟩, ⟨7864, 7864, 'E'⟩, ⟨7865, 7865, 'e'⟩, ⟨7866, 7866, 'E'⟩, ⟨7867, 7867, 'e'⟩,
    ⟨7868, 7868, 'E'⟩, ⟨7869, 7869, 'e'⟩, ⟨7870, 7870, 'E'⟩, ⟨7871, 7871, 'e'⟩, ⟨7872, 7872, 'E'⟩,
    ⟨7873, 7873, 'e'⟩, ⟨7874, 7874, 'E'⟩, ⟨7875, 7875, 'e'⟩, ⟨7876, 7876, 'E'⟩, ⟨7877, 7877, 'e'⟩,
    ⟨7878, 7878, 'E'⟩, ⟨7879, 7879, 'e'⟩, ⟨7880, 7880, 'I'⟩, ⟨7881, 7881, 'i'⟩, ⟨7882, 7882, 'I'⟩,
    ⟨7883, 7883, 'i'⟩, ⟨7884, 7884, 'O'⟩, ⟨7885, 7885, 'o'⟩, ⟨7886, 7886, 'O'⟩, ⟨7887, 7887, 'o'⟩,
    ⟨7888, 7888, 'O'⟩, ⟨7889, 7889, 'o'⟩, ⟨7890, 7890, 'O'⟩, ⟨7891, 7891, 'o'⟩, ⟨7892, 7892, 'O'⟩,
    ⟨7893, 7893, 'o'⟩, ⟨7894, 7894, 'O'⟩, ⟨7895, 7895, 'o'⟩, ⟨7896, 7896, 'O'⟩, ⟨7897, 7897, 'o'⟩,
    ⟨7898, 7898, 'O'⟩, ⟨7899, 7899, 'o'⟩, ⟨7900, 7900, 'O'⟩, ⟨7901, 7901, 'o'⟩, ⟨7902, 7902, 'O'⟩,
    ⟨7903, 7903, 'o'⟩, ⟨7904, 7904, 'O'⟩, ⟨7905, 7905, 'o'⟩, ⟨7906, 7906, 'O'⟩, ⟨7907, 7907, 'o'⟩,
    ⟨7908, 7908, 'U'⟩, ⟨7909, 7909, 'u'⟩, ⟨7910, 7910, 'U'⟩, ⟨7911, 7911, 'u'⟩, ⟨7912, 7912, 'U'⟩,
    ⟨7913, 7913, 'u'⟩, ⟨7914, 7914, 'U'⟩, ⟨7915, 7915, 'u'⟩, ⟨7916, 7916, 'U'⟩, ⟨7917, 7917, 'u'⟩,
    ⟨7918, 7918, 'U'⟩, ⟨7919, 7919, 'u'⟩, ⟨7920, 7920, 'U'⟩, ⟨7921, 7921, 'u'⟩, ⟨7922, 7922, 'Y'⟩,
    ⟨7923, 7923, 'y'⟩, ⟨7924, 7924, 'Y'⟩, ⟨7925, 7925, 'y'⟩, ⟨7926, 7926, 'Y'⟩, ⟨7927, 7927, 'y'⟩,
    ⟨7928, 7928, 'Y'⟩, ⟨7929, 7929, 'y'⟩, ⟨8125, 8125, ' '⟩, ⟨8127, 8127, ' '⟩, ⟨8128, 8128, ' '⟩,
    ⟨8129, 8129, ' '⟩, ⟨8141, 8141, ' '⟩, ⟨8142, 8142, ' '⟩, ⟨8143, 8143, ' '⟩, ⟨8157, 8157, ' '⟩,
    ⟨8158, 8158, ' '⟩, ⟨8159, 8159, ' '⟩, ⟨8173, 8173, ' '⟩, ⟨8174, 8174, ' '⟩, ⟨8189, 8189, ' '⟩,
    ⟨8190, 8190, ' '⟩, ⟨8192, 8192, ' '⟩, ⟨8193, 8193, ' '⟩, ⟨8194, 8194, ' '⟩, ⟨8195, 8195, ' '⟩,
    ⟨8196, 8196, ' '⟩, ⟨8197, 8197, ' '⟩, ⟨8198, 8198, ' '⟩, ⟨8199, 8199, ' '⟩, ⟨8200, 8200, ' '⟩,
    ⟨8201, 8201, ' '⟩, ⟨8202, 8202, ' '⟩, ⟨8215, 8215, ' '⟩, ⟨8228, 8228, '.'⟩, ⟨8239, 8239, ' '⟩,
    ⟨8254, 8254, ' '⟩, ⟨8287, 8287, ' '⟩, ⟨8304, 8304, '0'⟩, ⟨8305, 8305, 'i'⟩, ⟨8308, 8313, '4'⟩,
    ⟨8319, 8319, 'n'⟩, ⟨8320, 8329, '0'⟩, ⟨8336, 8336, 'a'⟩, ⟨8337, 8337, 'e'⟩, ⟨8338, 8338, 'o'⟩,
    ⟨8339, 8339, 'x'⟩, ⟨8341, 8341, 'h'⟩, ⟨8342, 8345, 'k'⟩, ⟨8346, 8346, 'p'⟩, ⟨8347, 8348, 's'⟩,
    ⟨8450, 8450, 'C'⟩, ⟨8451, 8451, 'C'⟩, ⟨8457, 8457, 'F'⟩, ⟨8458, 8458, 'g'⟩, ⟨8459, 8459, 'H'⟩,
    ⟨8460, 8460, 'H'⟩, ⟨8461, 8461, 'H'⟩, ⟨8462, 8462, 'h'⟩, ⟨8464, 8464, 'I'⟩, ⟨8465, 8465, 'I'⟩,
    ⟨8466, 8466, 'L'⟩, ⟨8467, 8467, 'l'⟩, ⟨8469, 8469, 'N'⟩, ⟨8473, 8475, 'P'⟩, ⟨8476, 8476, 'R'⟩,
    ⟨8477, 8477, 'R'⟩, ⟨8484, 8484, 'Z'⟩, ⟨8488, 8488, 'Z'⟩, ⟨8490, 8490, 'K'⟩, ⟨8491, 8493, 'A'⟩,
    ⟨8495, 8495, 'e'⟩, ⟨8496, 8497, 'E'⟩, ⟨8499, 8499, 'M'⟩, ⟨8500, 8500, 'o'⟩, ⟨8505, 8505, 'i'⟩,
    ⟨8517, 8517, 'D'⟩, ⟨8518, 8519, 'd'⟩, ⟨8520, 8521, 'i'⟩, ⟨8543, 8543, '1'⟩, ⟨8544, 8544, 'I'⟩,
    ⟨8548, 8548, 'V'⟩, ⟨8553, 8553, 'X'⟩, ⟨8556, 8556, 'L'⟩, ⟨8557, 8558, 'C'⟩, ⟨8559, 8559, 'M'⟩,
    ⟨8560, 8560, 'i'⟩, ⟨8564, 8564, 'v'⟩, ⟨8569, 8569, 'x'⟩, ⟨8572, 8572, 'l'⟩, ⟨8573, 8574, 'c'⟩,
    ⟨8575, 8575, 'm'⟩, ⟨9312, 9320, '1'⟩, ⟨9332, 9340, '1'⟩, ⟨9372, 9397, 'a'⟩, ⟨9398, 9423, 'A'⟩,
    ⟨9424, 9449, 'a'⟩, ⟨9450, 9450, '0'⟩, ⟨11388, 11388, 'j'⟩, ⟨11389, 11389, 'V'⟩,
    ⟨12288, 12288, ' '⟩, ⟨12443, 12443, ' '⟩, ⟨12444, 12444, ' '⟩, ⟨12992, 13000, '1'⟩,
    ⟨13144, 13153, '0'⟩, ⟨13186, 13186, 'A'⟩, ⟨13196, 13196, 'F'⟩, ⟨13197, 13197, 'g'⟩,
    ⟨13205, 13205, 'l'⟩, ⟨13211, 13211, 'm'⟩, ⟨13234, 13234, 's'⟩, ⟨13238, 13238, 'V'⟩,
    ⟨13244, 13244, 'W'⟩, ⟨13248, 13248, 'k'⟩, ⟨13249, 13249, 'M'⟩, ⟨13280, 13288, '1'⟩,
    ⟨42994, 42994, 'C'⟩, ⟨42995, 42995, 'F'⟩, ⟨42996, 42996, 'Q'⟩, ⟨64606, 64606, ' '⟩,
    ⟨64607, 64607, ' '⟩, ⟨64608, 64608, ' '⟩, ⟨64609, 64609, ' '⟩, ⟨64610, 64610, ' '⟩,
    ⟨64611, 64611, ' '⟩, ⟨65019, 65019, ' '⟩, ⟨65075, 65075, '_'⟩, ⟨65076, 65076, '_'⟩,
    ⟨65097, 65097, ' '⟩, ⟨65098, 65098, ' '⟩, ⟨65099, 65099, ' '⟩, ⟨65100, 65100, ' '⟩,
    ⟨65101, 65101, '_'⟩, ⟨65102, 65102, '_'⟩, ⟨65103, 65103, '_'⟩, ⟨65106, 65106, '.'⟩,
    ⟨65123, 65123, '-'⟩, ⟨65136, 65136, ' '⟩, ⟨65138, 65138, ' '⟩, ⟨65140, 65140, ' '⟩,
    ⟨65142, 65142, ' '⟩, ⟨65144, 65144, ' '⟩, ⟨65146, 65146, ' '⟩, ⟨65148, 65148, ' '⟩,
    ⟨65150, 65150, ' '⟩, ⟨65293, 65305, '-'⟩, ⟨65313, 65338, 'A'⟩, ⟨65343, 65343, '_'⟩,
    ⟨65345, 65370, 'a'⟩, ⟨65507, 65507, ' '⟩, ⟨67493, 67493, 'q'⟩, ⟨119808, 119833, 'A'⟩,
    ⟨119834, 119859, 'a'⟩, ⟨119860, 119885, 'A'⟩, ⟨119886, 119892, 'a'⟩, ⟨119894, 119911, 'i'⟩,
    ⟨119912, 119937, 'A'⟩, ⟨119938, 119963, 'a'⟩, ⟨119964, 119964, 'A'⟩, ⟨119966, 119967, 'C'⟩,
    ⟨119970, 119970, 'G'⟩, ⟨119973, 119974, 'J'⟩, ⟨119977, 119980, 'N'⟩, ⟨119982, 119989, 'S'⟩,
    ⟨119990, 119993, 'a'⟩, ⟨119995, 119995, 'f'⟩, ⟨119997, 120003, 'h'⟩, ⟨120005, 120015, 'p'⟩,
    ⟨120016, 120041, 'A'⟩, ⟨120042, 120067, 'a'⟩, ⟨120068, 120069, 'A'⟩, ⟨120071, 120074, 'D'⟩,
    ⟨120077, 120084, 'J'⟩, ⟨120086, 120092, 'S'⟩, ⟨120094, 120119, 'a'⟩, ⟨120120, 120121, 'A'⟩,
    ⟨120123, 120126, 'D'⟩, ⟨120128, 120132, 'I'⟩, ⟨120134, 120134, 'O'⟩, ⟨120138, 120144, 'S'⟩,
    ⟨120146, 120171, 'a'⟩, ⟨120172, 120197, 'A'⟩, ⟨120198, 120223, 'a'⟩, ⟨120224, 120249, 'A'⟩,
    ⟨120250, 120275, 'a'⟩, ⟨120276, 120301, 'A'⟩, ⟨120302, 120327, 'a'⟩, ⟨120328, 120353, 'A'⟩,
    ⟨120354, 120379, 'a'⟩, ⟨120380, 120405, 'A'⟩, ⟨120406, 120431, 'a'⟩, ⟨120432, 120457, 'A'⟩,
    ⟨120458, 120483, 'a'⟩, ⟨120782, 120791, '0'⟩, ⟨120792, 120801, '0'⟩, ⟨120802, 120811, '0'⟩,
    ⟨120812, 120821, '0'⟩, ⟨120822, 120831, '0'⟩, ⟨127233, 127242, '0'⟩, ⟨127248, 127273, 'A'⟩,
    ⟨127274, 127274, 'S'⟩, ⟨127275, 127275, 'C'⟩, ⟨127276, 127276, 'R'⟩, ⟨127280, 127305, 'A'⟩,
    ⟨130032, 130041, '0'⟩ ]

/-- The characters that reduce to several ASCII characters. -/
def foldWords : List (Nat × String) :=
  [ (188, "14"), (189, "12"), (190, "34"), (306, "IJ"), (307, "ij"), (452, "DZ"), (453, "Dz"),
    (454, "dz"), (455, "LJ"), (456, "Lj"), (457, "lj"), (458, "NJ"), (459, "Nj"), (460, "nj"),
    (497, "DZ"), (498, "Dz"), (499, "dz"), (8229, ".."), (8230, "..."), (8360, "Rs"), (8448, "a/c"),
    (8449, "a/s"), (8453, "c/o"), (8454, "c/u"), (8470, "No"), (8480, "SM"), (8481, "TEL"),
    (8482, "TM"), (8507, "FAX"), (8528, "17"), (8529, "19"), (8530, "110"), (8531, "13"),
    (8532, "23"), (8533, "15"), (8534, "25"), (8535, "35"), (8536, "45"), (8537, "16"),
    (8538, "56"), (8539, "18"), (8540, "38"), (8541, "58"), (8542, "78"), (8545, "II"),
    (8546, "III"), (8547, "IV"), (8549, "VI"), (8550, "VII"), (8551, "VIII"), (8552, "IX"),
    (8554, "XI"), (8555, "XII"), (8561, "ii"), (8562, "iii"), (8563, "iv"), (8565, "vi"),
    (8566, "vii"), (8567, "viii"), (8568, "ix"), (8570, "xi"), (8571, "xii"), (8585, "03"),
    (9321, "10"), (9322, "11"), (9323, "12"), (9324, "13"), (9325, "14"), (9326, "15"),
    (9327, "16"), (9328, "17"), (9329, "18"), (9330, "19"), (9331, "20"), (9341, "10"),
    (9342, "11"), (9343, "12"), (9344, "13"), (9345, "14"), (9346, "15"), (9347, "16"),
    (9348, "17"), (9349, "18"), (9350, "19"), (9351, "20"), (9352, "1."), (9353, "2."),
    (9354, "3."), (9355, "4."), (9356, "5."), (9357, "6."), (9358, "7."), (9359, "8."),
    (9360, "9."), (9361, "10."), (9362, "11."), (9363, "12."), (9364, "13."), (9365, "14."),
    (9366, "15."), (9367, "16."), (9368, "17."), (9369, "18."), (9370, "19."), (9371, "20."),
    (12880, "PTE"), (12881, "21"), (12882, "22"), (12883, "23"), (12884, "24"), (12885, "25"),
    (12886, "26"), (12887, "27"), (12888, "28"), (12889, "29"), (12890, "30"), (12891, "31"),
    (12892, "32"), (12893, "33"), (12894, "34"), (12895, "35"), (12977, "36"), (12978, "37"),
    (12979, "38"), (12980, "39"), (12981, "40"), (12982, "41"), (12983, "42"), (12984, "43"),
    (12985, "44"), (12986, "45"), (12987, "46"), (12988, "47"), (12989, "48"), (12990, "49"),
    (12991, "50"), (13001, "10"), (13002, "11"), (13003, "12"), (13004, "Hg"), (13005, "erg"),
    (13006, "eV"), (13007, "LTD"), (13154, "10"), (13155, "11"), (13156, "12"), (13157, "13"),
    (13158, "14"), (13159, "15"), (13160, "16"), (13161, "17"), (13162, "18"), (13163, "19"),
    (13164, "20"), (13165, "21"), (13166, "22"), (13167, "23"), (13168, "24"), (13169, "hPa"),
    (13170, "da"), (13171, "AU"), (13172, "bar"), (13173, "oV"), (13174, "pc"), (13175, "dm"),
    (13176, "dm2"), (13177, "dm3"), (13178, "IU"), (13184, "pA"), (13185, "nA"), (13187, "mA"),
    (13188, "kA"), (13189, "KB"), (13190, "MB"), (13191, "GB"), (13192, "cal"), (13193, "kcal"),
    (13194, "pF"), (13195, "nF"), (13198, "mg"), (13199, "kg"), (13200, "Hz"), (13201, "kHz"),
    (13202, "MHz"), (13203, "GHz"), (13204, "THz"), (13206, "ml"), (13207, "dl"), (13208, "kl"),
    (13209, "fm"), (13210, "nm"), (13212, "mm"), (13213, "cm"), (13214, "km"), (13215, "mm2"),
    (13216, "cm2"), (13217, "m2"), (13218, "km2"), (13219, "mm3"), (13220, "cm3"), (13221, "m3"),
    (13222, "km3"), (13223, "ms"), (13224, "ms2"), (13225, "Pa"), (13226, "kPa"), (13227, "MPa"),
    (13228, "GPa"), (13229, "rad"), (13230, "rads"), (13231, "rads2"), (13232, "ps"), (13233, "ns"),
    (13235, "ms"), (13236, "pV"), (13237, "nV"), (13239, "mV"), (13240, "kV"), (13241, "MV"),
    (13242, "pW"), (13243, "nW"), (13245, "mW"), (13246, "kW"), (13247, "MW"), (13250, "a.m."),
    (13251, "Bq"), (13252, "cc"), (13253, "cd"), (13254, "Ckg"), (13255, "Co."), (13256, "dB"),
    (13257, "Gy"), (13258, "ha"), (13259, "HP"), (13260, "in"), (13261, "KK"), (13262, "KM"),
    (13263, "kt"), (13264, "lm"), (13265, "ln"), (13266, "log"), (13267, "lx"), (13268, "mb"),
    (13269, "mil"), (13270, "mol"), (13271, "PH"), (13272, "p.m."), (13273, "PPM"), (13274, "PR"),
    (13275, "sr"), (13276, "Sv"), (13277, "Wb"), (13278, "Vm"), (13279, "Am"), (13289, "10"),
    (13290, "11"), (13291, "12"), (13292, "13"), (13293, "14"), (13294, "15"), (13295, "16"),
    (13296, "17"), (13297, "18"), (13298, "19"), (13299, "20"), (13300, "21"), (13301, "22"),
    (13302, "23"), (13303, "24"), (13304, "25"), (13305, "26"), (13306, "27"), (13307, "28"),
    (13308, "29"), (13309, "30"), (13310, "31"), (13311, "gal"), (64256, "ff"), (64257, "fi"),
    (64258, "fl"), (64259, "ffi"), (64260, "ffl"), (64261, "st"), (64262, "st"), (65018, "   "),
    (65049, "..."), (65072, ".."), (127232, "0."), (127277, "CD"), (127278, "WZ"), (127306, "HV"),
    (127307, "MV"), (127308, "SD"), (127309, "SS"), (127310, "PPV"), (127311, "WC"), (127338, "MC"),
    (127339, "MD"), (127340, "MR"), (127376, "DJ") ]

/-- What remains of a character in plain letters. -/
def foldChar (c : Char) : List Char :=
  if c.toNat < 128 then [c]
  else
    match foldRuns.find? fun run => run.first ≤ c.toNat && c.toNat ≤ run.last with
    | some run => [Char.ofNat (run.plain.toNat + (c.toNat - run.first))]
    | none =>
      match foldWords.find? fun word => word.1 == c.toNat with
      | some word => word.2.toList
      | none => []

/-- What remains of a text in plain letters. -/
def fold (cs : List Char) : List Char :=
  cs.flatMap foldChar

end TagCloud.Text
