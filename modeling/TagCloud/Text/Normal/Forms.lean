import TagCloud.Text.Lower

/-!
# Forms of single characters

Many characters are forms of another one: letters of another width or style, ideographs that are
kept apart for older encodings, letters as they stand at the beginning or at the end of a word. The
tables tell how far away the character is that each of them is a form of.
-/

namespace TagCloud.Text

/-- The forms of single characters up to U+F8FF. -/
def earlyForms : List CaseRun :=
  [ ⟨170, 170, 1, -73⟩, ⟨181, 181, 1, 775⟩, ⟨186, 186, 1, -75⟩, ⟨383, 383, 1, -268⟩,
    ⟨688, 688, 1, -584⟩, ⟨689, 689, 1, -75⟩, ⟨690, 690, 1, -584⟩, ⟨691, 691, 1, -577⟩,
    ⟨692, 692, 1, -59⟩, ⟨693, 693, 1, -58⟩, ⟨694, 694, 1, -53⟩, ⟨695, 695, 1, -576⟩,
    ⟨696, 696, 1, -575⟩, ⟨736, 736, 1, -125⟩, ⟨737, 737, 1, -629⟩, ⟨738, 738, 1, -623⟩,
    ⟨739, 739, 1, -619⟩, ⟨740, 740, 1, -79⟩, ⟨832, 833, 1, -64⟩, ⟨835, 835, 1, -48⟩,
    ⟨884, 884, 1, -187⟩, ⟨903, 903, 1, -720⟩, ⟨976, 976, 1, -30⟩, ⟨977, 977, 1, -25⟩,
    ⟨978, 978, 1, -45⟩, ⟨981, 981, 1, -15⟩, ⟨982, 982, 1, -22⟩, ⟨1008, 1008, 1, -54⟩,
    ⟨1009, 1010, 1, -48⟩, ⟨1012, 1012, 1, -92⟩, ⟨1013, 1013, 1, -64⟩, ⟨1017, 1017, 1, -86⟩,
    ⟨4348, 4348, 1, -32⟩, ⟨7468, 7468, 1, -7403⟩, ⟨7469, 7469, 1, -7271⟩, ⟨7470, 7470, 1, -7404⟩,
    ⟨7472, 7473, 1, -7404⟩, ⟨7474, 7474, 1, -7076⟩, ⟨7475, 7482, 1, -7404⟩, ⟨7484, 7484, 1, -7405⟩,
    ⟨7485, 7485, 1, -6939⟩, ⟨7486, 7486, 1, -7406⟩, ⟨7487, 7487, 1, -7405⟩, ⟨7488, 7489, 1, -7404⟩,
    ⟨7490, 7490, 1, -7403⟩, ⟨7491, 7491, 1, -7394⟩, ⟨7492, 7493, 1, -6900⟩, ⟨7494, 7494, 1, -68⟩,
    ⟨7495, 7495, 1, -7397⟩, ⟨7496, 7497, 1, -7396⟩, ⟨7498, 7498, 1, -6897⟩, ⟨7499, 7500, 1, -6896⟩,
    ⟨7501, 7501, 1, -7398⟩, ⟨7503, 7503, 1, -7396⟩, ⟨7504, 7504, 1, -7395⟩, ⟨7505, 7505, 1, -7174⟩,
    ⟨7506, 7506, 1, -7395⟩, ⟨7507, 7507, 1, -6911⟩, ⟨7508, 7509, 1, -62⟩, ⟨7510, 7510, 1, -7398⟩,
    ⟨7511, 7512, 1, -7395⟩, ⟨7513, 7513, 1, -60⟩, ⟨7514, 7514, 1, -6891⟩, ⟨7515, 7515, 1, -7397⟩,
    ⟨7516, 7516, 1, -55⟩, ⟨7517, 7519, 1, -6571⟩, ⟨7520, 7521, 1, -6554⟩, ⟨7522, 7522, 1, -7417⟩,
    ⟨7523, 7523, 1, -7409⟩, ⟨7524, 7525, 1, -7407⟩, ⟨7526, 7527, 1, -6580⟩, ⟨7528, 7528, 1, -6567⟩,
    ⟨7529, 7530, 1, -6563⟩, ⟨7544, 7544, 1, -6459⟩, ⟨7579, 7579, 1, -6985⟩, ⟨7580, 7580, 1, -7481⟩,
    ⟨7581, 7581, 1, -6984⟩, ⟨7582, 7582, 1, -7342⟩, ⟨7583, 7583, 1, -6979⟩, ⟨7584, 7584, 1, -7482⟩,
    ⟨7585, 7585, 1, -6978⟩, ⟨7586, 7586, 1, -6977⟩, ⟨7587, 7587, 1, -6974⟩, ⟨7588, 7590, 1, -6972⟩,
    ⟨7591, 7591, 1, -44⟩, ⟨7592, 7592, 1, -6923⟩, ⟨7593, 7593, 1, -6972⟩, ⟨7594, 7594, 1, -37⟩,
    ⟨7595, 7595, 1, -6924⟩, ⟨7596, 7596, 1, -6971⟩, ⟨7597, 7597, 1, -6973⟩, ⟨7598, 7601, 1, -6972⟩,
    ⟨7602, 7602, 1, -6970⟩, ⟨7603, 7604, 1, -6961⟩, ⟨7605, 7605, 1, -7178⟩, ⟨7606, 7607, 1, -6957⟩,
    ⟨7608, 7608, 1, -156⟩, ⟨7609, 7610, 1, -6958⟩, ⟨7611, 7611, 1, -7489⟩, ⟨7612, 7614, 1, -6956⟩,
    ⟨7615, 7615, 1, -6663⟩, ⟨8126, 8126, 1, -7173⟩, ⟨8305, 8305, 1, -8200⟩, ⟨8319, 8319, 1, -8209⟩,
    ⟨8336, 8336, 1, -8239⟩, ⟨8337, 8337, 1, -8236⟩, ⟨8338, 8338, 1, -8227⟩, ⟨8339, 8339, 1, -8219⟩,
    ⟨8340, 8340, 1, -7739⟩, ⟨8341, 8341, 1, -8237⟩, ⟨8342, 8345, 1, -8235⟩, ⟨8346, 8346, 1, -8234⟩,
    ⟨8347, 8348, 1, -8232⟩, ⟨8450, 8450, 1, -8383⟩, ⟨8455, 8455, 1, -8055⟩, ⟨8458, 8458, 1, -8355⟩,
    ⟨8459, 8459, 1, -8387⟩, ⟨8460, 8460, 1, -8388⟩, ⟨8461, 8461, 1, -8389⟩, ⟨8462, 8462, 1, -8358⟩,
    ⟨8463, 8463, 1, -8168⟩, ⟨8464, 8464, 1, -8391⟩, ⟨8465, 8465, 1, -8392⟩, ⟨8466, 8466, 1, -8390⟩,
    ⟨8467, 8467, 1, -8359⟩, ⟨8469, 8469, 1, -8391⟩, ⟨8473, 8475, 1, -8393⟩, ⟨8476, 8476, 1, -8394⟩,
    ⟨8477, 8477, 1, -8395⟩, ⟨8484, 8484, 1, -8394⟩, ⟨8486, 8486, 1, -7549⟩, ⟨8488, 8488, 1, -8398⟩,
    ⟨8490, 8490, 1, -8415⟩, ⟨8492, 8493, 1, -8426⟩, ⟨8495, 8495, 1, -8394⟩, ⟨8496, 8497, 1, -8427⟩,
    ⟨8499, 8499, 1, -8422⟩, ⟨8500, 8500, 1, -8389⟩, ⟨8501, 8504, 1, -7013⟩, ⟨8505, 8505, 1, -8400⟩,
    ⟨8508, 8508, 1, -7548⟩, ⟨8509, 8509, 1, -7562⟩, ⟨8510, 8510, 1, -7595⟩, ⟨8511, 8511, 1, -7583⟩,
    ⟨8517, 8517, 1, -8449⟩, ⟨8518, 8519, 1, -8418⟩, ⟨8520, 8521, 1, -8415⟩, ⟨8544, 8544, 1, -8471⟩,
    ⟨8548, 8548, 1, -8462⟩, ⟨8553, 8553, 1, -8465⟩, ⟨8556, 8556, 1, -8480⟩, ⟨8557, 8558, 1, -8490⟩,
    ⟨8559, 8559, 1, -8482⟩, ⟨8560, 8560, 1, -8455⟩, ⟨8564, 8564, 1, -8446⟩, ⟨8569, 8569, 1, -8449⟩,
    ⟨8572, 8572, 1, -8464⟩, ⟨8573, 8574, 1, -8474⟩, ⟨8575, 8575, 1, -8466⟩,
    ⟨11388, 11388, 1, -11282⟩, ⟨11389, 11389, 1, -11303⟩, ⟨11631, 11631, 1, -14⟩,
    ⟨12344, 12344, 1, 8969⟩, ⟨12345, 12346, 1, 8971⟩, ⟨12593, 12594, 1, -8241⟩,
    ⟨12595, 12595, 1, -8073⟩, ⟨12596, 12596, 1, -8242⟩, ⟨12597, 12598, 1, -8073⟩,
    ⟨12599, 12601, 1, -8244⟩, ⟨12602, 12607, 1, -8074⟩, ⟨12608, 12608, 1, -8230⟩,
    ⟨12609, 12611, 1, -8251⟩, ⟨12612, 12612, 1, -8227⟩, ⟨12613, 12622, 1, -8252⟩,
    ⟨12623, 12643, 1, -8174⟩, ⟨12644, 12644, 1, -8196⟩, ⟨12645, 12646, 1, -8273⟩,
    ⟨12647, 12648, 1, -8096⟩, ⟨12649, 12649, 1, -8093⟩, ⟨12650, 12650, 1, -8092⟩,
    ⟨12651, 12651, 1, -8088⟩, ⟨12652, 12652, 1, -8085⟩, ⟨12653, 12653, 1, -8084⟩,
    ⟨12654, 12654, 1, -8274⟩, ⟨12655, 12655, 1, -8082⟩, ⟨12656, 12656, 1, -8081⟩,
    ⟨12657, 12658, 1, -8276⟩, ⟨12659, 12659, 1, -8275⟩, ⟨12660, 12661, 1, -8274⟩,
    ⟨12662, 12662, 1, -8271⟩, ⟨12663, 12663, 1, -8270⟩, ⟨12664, 12668, 1, -8269⟩,
    ⟨12669, 12669, 1, -8267⟩, ⟨12670, 12670, 1, -8264⟩, ⟨12671, 12671, 1, -8255⟩,
    ⟨12672, 12672, 1, -8249⟩, ⟨12673, 12673, 1, -8245⟩, ⟨12674, 12675, 1, -8081⟩,
    ⟨12676, 12678, 1, -8237⟩, ⟨12679, 12680, 1, -8195⟩, ⟨12681, 12681, 1, -8193⟩,
    ⟨12682, 12683, 1, -8185⟩, ⟨12684, 12684, 1, -8184⟩, ⟨12685, 12685, 1, -8175⟩,
    ⟨12686, 12686, 1, -8173⟩, ⟨42652, 42652, 1, -41554⟩, ⟨42653, 42653, 1, -41553⟩,
    ⟨42864, 42864, 1, -1⟩, ⟨42994, 42994, 1, -42927⟩, ⟨42995, 42995, 1, -42925⟩,
    ⟨42996, 42996, 1, -42915⟩, ⟨43000, 43000, 1, -42706⟩, ⟨43001, 43001, 1, -42662⟩,
    ⟨43868, 43868, 1, -1077⟩, ⟨43869, 43869, 1, -38⟩, ⟨43870, 43870, 1, -43251⟩,
    ⟨43871, 43871, 1, -13⟩, ⟨43881, 43881, 1, -43228⟩ ]

/-- The forms of single characters from U+F900 to U+1D3FF. -/
def middleForms : List CaseRun :=
  [ ⟨63744, 63744, 1, -27832⟩, ⟨63745, 63745, 1, -37389⟩, ⟨63746, 63746, 1, -27192⟩,
    ⟨63747, 63747, 1, -27707⟩, ⟨63748, 63748, 1, -35379⟩, ⟨63749, 63749, 1, -43731⟩,
    ⟨63750, 63750, 1, -42273⟩, ⟨63751, 63751, 1, -22891⟩, ⟨63752, 63752, 1, -22892⟩,
    ⟨63753, 63753, 1, -40888⟩, ⟨63754, 63754, 1, -26425⟩, ⟨63755, 63755, 1, -41860⟩,
    ⟨63756, 63756, 1, -40900⟩, ⟨63757, 63757, 1, -38679⟩, ⟨63758, 63758, 1, -33445⟩,
    ⟨63759, 63759, 1, -31114⟩, ⟨63760, 63760, 1, -29393⟩, ⟨63761, 63761, 1, -29015⟩,
    ⟨63762, 63762, 1, -28698⟩, ⟨63763, 63763, 1, -26756⟩, ⟨63764, 63764, 1, -36626⟩,
    ⟨63765, 63765, 1, -35834⟩, ⟨63766, 63766, 1, -34877⟩, ⟨63767, 63767, 1, -34105⟩,
    ⟨63768, 63768, 1, -29915⟩, ⟨63769, 63769, 1, -26543⟩, ⟨63770, 63770, 1, -24361⟩,
    ⟨63771, 63771, 1, -43673⟩, ⟨63772, 63772, 1, -42407⟩, ⟨63773, 63773, 1, -36377⟩,
    ⟨63774, 63774, 1, -34563⟩, ⟨63775, 63775, 1, -29426⟩, ⟨63776, 63776, 1, -23298⟩,
    ⟨63777, 63777, 1, -39889⟩, ⟨63778, 63778, 1, -35127⟩, ⟨63779, 63779, 1, -29526⟩,
    ⟨63780, 63780, 1, -28608⟩, ⟨63781, 63781, 1, -38492⟩, ⟨63782, 63782, 1, -30542⟩,
    ⟨63783, 63783, 1, -28936⟩, ⟨63784, 63784, 1, -39518⟩, ⟨63785, 63785, 1, -37394⟩,
    ⟨63786, 63786, 1, -35776⟩, ⟨63787, 63787, 1, -34351⟩, ⟨63788, 63788, 1, -26718⟩,
    ⟨63789, 63789, 1, -43431⟩, ⟨63790, 63790, 1, -42871⟩, ⟨63791, 63791, 1, -42577⟩,
    ⟨63792, 63792, 1, -37996⟩, ⟨63793, 63793, 1, -36446⟩, ⟨63794, 63794, 1, -34594⟩,
    ⟨63795, 63795, 1, -33356⟩, ⟨63796, 63796, 1, -31027⟩, ⟨63797, 63797, 1, -29487⟩,
    ⟨63798, 63798, 1, -29402⟩, ⟨63799, 63799, 1, -27464⟩, ⟨63800, 63800, 1, -25094⟩,
    ⟨63801, 63801, 1, -24010⟩, ⟨63802, 63802, 1, -23360⟩, ⟨63803, 63803, 1, -32943⟩,
    ⟨63804, 63804, 1, -32701⟩, ⟨63805, 63805, 1, -31645⟩, ⟨63806, 63806, 1, -30069⟩,
    ⟨63807, 63807, 1, -26171⟩, ⟨63808, 63808, 1, -23233⟩, ⟨63809, 63809, 1, -28267⟩,
    ⟨63810, 63810, 1, -41059⟩, ⟨63811, 63811, 1, -39487⟩, ⟨63812, 63812, 1, -31972⟩,
    ⟨63813, 63813, 1, -30919⟩, ⟨63814, 63814, 1, -34532⟩, ⟨63815, 63815, 1, -32893⟩,
    ⟨63816, 63816, 1, -27782⟩, ⟨63817, 63817, 1, -25170⟩, ⟨63818, 63818, 1, -41074⟩,
    ⟨63819, 63819, 1, -40169⟩, ⟨63820, 63820, 1, -36665⟩, ⟨63821, 63821, 1, -35699⟩,
    ⟨63822, 63822, 1, -35391⟩, ⟨63823, 63823, 1, -31776⟩, ⟨63824, 63824, 1, -31513⟩,
    ⟨63825, 63825, 1, -25350⟩, ⟨63826, 63826, 1, -42624⟩, ⟨63827, 63827, 1, -30920⟩,
    ⟨63828, 63828, 1, -42872⟩, ⟨63829, 63829, 1, -42889⟩, ⟨63830, 63830, 1, -32570⟩,
    ⟨63831, 63831, 1, -31641⟩, ⟨63832, 63832, 1, -30055⟩, ⟨63833, 63833, 1, -25316⟩,
    ⟨63834, 63834, 1, -28122⟩, ⟨63835, 63835, 1, -38540⟩, ⟨63836, 63836, 1, -36698⟩,
    ⟨63837, 63837, 1, -28255⟩, ⟨63838, 63838, 1, -43813⟩, ⟨63839, 63839, 1, -40312⟩,
    ⟨63840, 63840, 1, -39246⟩, ⟨63841, 63841, 1, -34266⟩, ⟨63842, 63842, 1, -33778⟩,
    ⟨63843, 63843, 1, -42572⟩, ⟨63844, 63844, 1, -32873⟩, ⟨63845, 63845, 1, -43430⟩,
    ⟨63846, 63846, 1, -39357⟩, ⟨63847, 63847, 1, -43866⟩, ⟨63848, 63848, 1, -35996⟩,
    ⟨63849, 63849, 1, -37873⟩, ⟨63850, 63850, 1, -31816⟩, ⟨63851, 63851, 1, -42408⟩,
    ⟨63852, 63852, 1, -41230⟩, ⟨63853, 63853, 1, -33388⟩, ⟨63854, 63854, 1, -29989⟩,
    ⟨63855, 63855, 1, -28357⟩, ⟨63856, 63856, 1, -36278⟩, ⟨63857, 63857, 1, -27073⟩,
    ⟨63858, 63858, 1, -36074⟩, ⟨63859, 63859, 1, -38517⟩, ⟨63860, 63860, 1, -30351⟩,
    ⟨63861, 63861, 1, -38357⟩, ⟨63862, 63862, 1, -33809⟩, ⟨63863, 63863, 1, -43721⟩,
    ⟨63864, 63864, 1, -43023⟩, ⟨63865, 63865, 1, -42928⟩, ⟨63866, 63866, 1, -37113⟩,
    ⟨63867, 63867, 1, -31892⟩, ⟨63868, 63868, 1, -30477⟩, ⟨63869, 63869, 1, -28331⟩,
    ⟨63870, 63870, 1, -26543⟩, ⟨63871, 63871, 1, -42634⟩, ⟨63872, 63872, 1, -42302⟩,
    ⟨63873, 63873, 1, -40974⟩, ⟨63874, 63874, 1, -39574⟩, ⟨63875, 63875, 1, -37822⟩,
    ⟨63876, 63876, 1, -35206⟩, ⟨63877, 63877, 1, -32859⟩, ⟨63878, 63878, 1, -25561⟩,
    ⟨63879, 63879, 1, -24349⟩, ⟨63880, 63880, 1, -23281⟩, ⟨63881, 63881, 1, -23227⟩,
    ⟨63882, 63882, 1, -42735⟩, ⟨63883, 63883, 1, -37573⟩, ⟨63884, 63884, 1, -36373⟩,
    ⟨63885, 63885, 1, -27179⟩, ⟨63886, 63886, 1, -39706⟩, ⟨63887, 63887, 1, -38911⟩,
    ⟨63888, 63888, 1, -38800⟩, ⟨63889, 63889, 1, -38135⟩, ⟨63890, 63890, 1, -35439⟩,
    ⟨63891, 63891, 1, -34890⟩, ⟨63892, 63892, 1, -34059⟩, ⟨63893, 63893, 1, -32715⟩,
    ⟨63894, 63894, 1, -31650⟩, ⟨63895, 63895, 1, -31016⟩, ⟨63896, 63896, 1, -27250⟩,
    ⟨63897, 63897, 1, -29867⟩, ⟨63898, 63898, 1, -26999⟩, ⟨63899, 63899, 1, -26193⟩,
    ⟨63900, 63900, 1, -42885⟩, ⟨63901, 63901, 1, -42746⟩, ⟨63902, 63902, 1, -42209⟩,
    ⟨63903, 63903, 1, -35031⟩, ⟨63904, 63904, 1, -28894⟩, ⟨63905, 63905, 1, -28407⟩,
    ⟨63906, 63906, 1, -39641⟩, ⟨63907, 63907, 1, -39342⟩, ⟨63908, 63908, 1, -38441⟩,
    ⟨63909, 63909, 1, -36343⟩, ⟨63910, 63910, 1, -32104⟩, ⟨63911, 63911, 1, -34354⟩,
    ⟨63912, 63912, 1, -43716⟩, ⟨63913, 63913, 1, -41648⟩, ⟨63914, 63914, 1, -40387⟩,
    ⟨63915, 63915, 1, -39921⟩, ⟨63916, 63916, 1, -39312⟩, ⟨63917, 63917, 1, -34299⟩,
    ⟨63918, 63918, 1, -34117⟩, ⟨63919, 63919, 1, -31253⟩, ⟨63920, 63920, 1, -31082⟩,
    ⟨63921, 63921, 1, -26493⟩, ⟨63922, 63922, 1, -25276⟩, ⟨63923, 63923, 1, -25195⟩,
    ⟨63924, 63924, 1, -24988⟩, ⟨63925, 63925, 1, -43562⟩, ⟨63926, 63926, 1, -32776⟩,
    ⟨63927, 63927, 1, -26627⟩, ⟨63928, 63928, 1, -25344⟩, ⟨63929, 63929, 1, -39128⟩,
    ⟨63930, 63930, 1, -43828⟩, ⟨63931, 63931, 1, -43233⟩, ⟨63932, 63932, 1, -40398⟩,
    ⟨63933, 63933, 1, -40318⟩, ⟨63934, 63934, 1, -37925⟩, ⟨63935, 63935, 1, -36797⟩,
    ⟨63936, 63936, 1, -34802⟩, ⟨63937, 63937, 1, -33663⟩, ⟨63938, 63938, 1, -29894⟩,
    ⟨63939, 63939, 1, -26951⟩, ⟨63940, 63940, 1, -23095⟩, ⟨63941, 63941, 1, -37693⟩,
    ⟨63942, 63942, 1, -25496⟩, ⟨63943, 63943, 1, -42814⟩, ⟨63944, 63944, 1, -37453⟩,
    ⟨63945, 63945, 1, -37334⟩, ⟨63946, 63946, 1, -35977⟩, ⟨63947, 63947, 1, -35631⟩,
    ⟨63948, 63948, 1, -34243⟩, ⟨63949, 63949, 1, -33908⟩, ⟨63950, 63950, 1, -33123⟩,
    ⟨63951, 63951, 1, -31935⟩, ⟨63952, 63952, 1, -24946⟩, ⟨63953, 63953, 1, -43108⟩,
    ⟨63954, 63954, 1, -38820⟩, ⟨63955, 63955, 1, -25435⟩, ⟨63956, 63956, 1, -43433⟩,
    ⟨63957, 63957, 1, -40124⟩, ⟨63958, 63958, 1, -35820⟩, ⟨63959, 63959, 1, -27309⟩,
    ⟨63960, 63960, 1, -39501⟩, ⟨63961, 63961, 1, -39061⟩, ⟨63962, 63962, 1, -37315⟩,
    ⟨63963, 63963, 1, -34388⟩, ⟨63964, 63964, 1, -25430⟩, ⟨63965, 63965, 1, -42932⟩,
    ⟨63966, 63966, 1, -42447⟩, ⟨63967, 63967, 1, -40314⟩, ⟨63968, 63968, 1, -37837⟩,
    ⟨63969, 63969, 1, -37523⟩, ⟨63970, 63970, 1, -37178⟩, ⟨63971, 63971, 1, -36094⟩,
    ⟨63972, 63972, 1, -34270⟩, ⟨63973, 63973, 1, -33795⟩, ⟨63974, 63974, 1, -31341⟩,
    ⟨63975, 63975, 1, -28952⟩, ⟨63976, 63976, 1, -28935⟩, ⟨63977, 63977, 1, -26653⟩,
    ⟨63978, 63978, 1, -25352⟩, ⟨63979, 63979, 1, -42668⟩, ⟨63980, 63980, 1, -35634⟩,
    ⟨63981, 63981, 1, -42448⟩, ⟨63982, 63982, 1, -34846⟩, ⟨63983, 63983, 1, -34135⟩,
    ⟨63984, 63984, 1, -29686⟩, ⟨63985, 63985, 1, -25422⟩, ⟨63986, 63986, 1, -23963⟩,
    ⟨63987, 63987, 1, -23380⟩, ⟨63988, 63988, 1, -37469⟩, ⟨63989, 63989, 1, -35882⟩,
    ⟨63990, 63990, 1, -30734⟩, ⟨63991, 63991, 1, -32556⟩, ⟨63992, 63992, 1, -32472⟩,
    ⟨63993, 63993, 1, -32103⟩, ⟨63994, 63994, 1, -34618⟩, ⟨63995, 63995, 1, -35170⟩,
    ⟨63996, 63996, 1, -28324⟩, ⟨63997, 63997, 1, -43837⟩, ⟨63998, 63998, 1, -30408⟩,
    ⟨63999, 63999, 1, -42949⟩, ⟨64000, 64000, 1, -43001⟩, ⟨64001, 64001, 1, -39771⟩,
    ⟨64002, 64002, 1, -38703⟩, ⟨64003, 64003, 1, -32045⟩, ⟨64004, 64004, 1, -40575⟩,
    ⟨64005, 64005, 1, -36071⟩, ⟨64006, 64006, 1, -37714⟩, ⟨64007, 64007, 1, -27340⟩,
    ⟨64008, 64008, 1, -29116⟩, ⟨64009, 64009, 1, -25532⟩, ⟨64010, 64010, 1, -28799⟩,
    ⟨64011, 64011, 1, -39736⟩, ⟨64012, 64012, 1, -43212⟩, ⟨64013, 64013, 1, -42061⟩,
    ⟨64016, 64016, 1, -41398⟩, ⟨64018, 64018, 1, -37790⟩, ⟨64021, 64021, 1, -43063⟩,
    ⟨64022, 64022, 1, -34540⟩, ⟨64023, 64023, 1, -33613⟩, ⟨64024, 64024, 1, -32988⟩,
    ⟨64025, 64025, 1, -32955⟩, ⟨64026, 64026, 1, -32949⟩, ⟨64027, 64027, 1, -32908⟩,
    ⟨64028, 64028, 1, -25286⟩, ⟨64029, 64029, 1, -32095⟩, ⟨64030, 64030, 1, -31329⟩,
    ⟨64032, 64032, 1, -29710⟩, ⟨64034, 64034, 1, -28458⟩, ⟨64037, 64037, 1, -27117⟩,
    ⟨64038, 64038, 1, -26921⟩, ⟨64042, 64042, 1, -24891⟩, ⟨64043, 64043, 1, -24879⟩,
    ⟨64044, 64044, 1, -24836⟩, ⟨64045, 64045, 1, -23673⟩, ⟨64046, 64046, 1, -26960⟩,
    ⟨64047, 64047, 1, -25464⟩, ⟨64048, 64048, 1, -43650⟩, ⟨64049, 64049, 1, -43338⟩,
    ⟨64050, 64050, 1, -43237⟩, ⟨64051, 64051, 1, -42858⟩, ⟨64052, 64052, 1, -42832⟩,
    ⟨64053, 64053, 1, -42724⟩, ⟨64054, 64054, 1, -42137⟩, ⟨64055, 64055, 1, -42033⟩,
    ⟨64056, 64056, 1, -41936⟩, ⟨64057, 64057, 1, -41465⟩, ⟨64058, 64058, 1, -41362⟩,
    ⟨64059, 64059, 1, -40407⟩, ⟨64060, 64060, 1, -40398⟩, ⟨64061, 64061, 1, -39337⟩,
    ⟨64062, 64062, 1, -39126⟩, ⟨64063, 64063, 1, -39089⟩, ⟨64064, 64064, 1, -38990⟩,
    ⟨64065, 64065, 1, -38130⟩, ⟨64066, 64066, 1, -37984⟩, ⟨64067, 64067, 1, -37810⟩,
    ⟨64068, 64068, 1, -37311⟩, ⟨64069, 64069, 1, -36046⟩, ⟨64070, 64070, 1, -35884⟩,
    ⟨64071, 64071, 1, -35621⟩, ⟨64072, 64072, 1, -35034⟩, ⟨64073, 64073, 1, -34846⟩,
    ⟨64074, 64074, 1, -34344⟩, ⟨64075, 64075, 1, -33210⟩, ⟨64076, 64076, 1, -33038⟩,
    ⟨64077, 64077, 1, -33028⟩, ⟨64078, 64078, 1, -33030⟩, ⟨64079, 64079, 1, -33023⟩,
    ⟨64080, 64080, 1, -33018⟩, ⟨64081, 64081, 1, -33012⟩, ⟨64082, 64083, 1, -32965⟩,
    ⟨64084, 64084, 1, -32788⟩, ⟨64085, 64085, 1, -32724⟩, ⟨64086, 64086, 1, -32406⟩,
    ⟨64087, 64087, 1, -31843⟩, ⟨64088, 64088, 1, -31823⟩, ⟨64089, 64089, 1, -31768⟩,
    ⟨64090, 64090, 1, -31464⟩, ⟨64091, 64091, 1, -31318⟩, ⟨64092, 64092, 1, -30831⟩,
    ⟨64093, 64093, 1, -30692⟩, ⟨64094, 64094, 1, -30693⟩, ⟨64095, 64095, 1, -30216⟩,
    ⟨64096, 64096, 1, -29008⟩, ⟨64097, 64097, 1, -28875⟩, ⟨64098, 64098, 1, -28513⟩,
    ⟨64099, 64099, 1, -28458⟩, ⟨64100, 64100, 1, -28049⟩, ⟨64101, 64101, 1, -27997⟩,
    ⟨64102, 64102, 1, -27312⟩, ⟨64103, 64103, 1, -27183⟩, ⟨64104, 64104, 1, -25477⟩,
    ⟨64105, 64105, 1, -25194⟩, ⟨64106, 64106, 1, -25135⟩, ⟨64107, 64107, 1, -39414⟩,
    ⟨64108, 64108, 1, 84098⟩, ⟨64109, 64109, 1, -30805⟩, ⟨64112, 64112, 1, -44106⟩,
    ⟨64113, 64113, 1, -43196⟩, ⟨64114, 64114, 1, -43274⟩, ⟨64115, 64115, 1, -43763⟩,
    ⟨64116, 64116, 1, -43311⟩, ⟨64117, 64117, 1, -43253⟩, ⟨64118, 64118, 1, -42927⟩,
    ⟨64119, 64119, 1, -42877⟩, ⟨64120, 64120, 1, -42203⟩, ⟨64121, 64121, 1, -42276⟩,
    ⟨64122, 64122, 1, -42209⟩, ⟨64123, 64123, 1, -42137⟩, ⟨64124, 64124, 1, -41506⟩,
    ⟨64125, 64125, 1, -41418⟩, ⟨64126, 64126, 1, -41274⟩, ⟨64127, 64127, 1, -41259⟩,
    ⟨64128, 64128, 1, -40990⟩, ⟨64129, 64129, 1, -40793⟩, ⟨64130, 64130, 1, -39856⟩,
    ⟨64131, 64131, 1, -39850⟩, ⟨64132, 64132, 1, -39707⟩, ⟨64133, 64133, 1, -39640⟩,
    ⟨64134, 64134, 1, -39342⟩, ⟨64135, 64135, 1, -39225⟩, ⟨64136, 64136, 1, -39296⟩,
    ⟨64137, 64137, 1, -39163⟩, ⟨64138, 64138, 1, -39210⟩, ⟨64139, 64139, 1, -39065⟩,
    ⟨64140, 64140, 1, -39000⟩, ⟨64141, 64141, 1, -38601⟩, ⟨64142, 64142, 1, -38514⟩,
    ⟨64143, 64143, 1, -38461⟩, ⟨64144, 64144, 1, -38202⟩, ⟨64145, 64145, 1, -37917⟩,
    ⟨64146, 64146, 1, -37755⟩, ⟨64147, 64147, 1, -37752⟩, ⟨64148, 64148, 1, -37694⟩,
    ⟨64149, 64149, 1, -36636⟩, ⟨64150, 64150, 1, -36572⟩, ⟨64151, 64151, 1, -36182⟩,
    ⟨64152, 64152, 1, -35773⟩, ⟨64153, 64153, 1, -35790⟩, ⟨64154, 64154, 1, -35704⟩,
    ⟨64155, 64155, 1, -35453⟩, ⟨64156, 64156, 1, -35118⟩, ⟨64157, 64157, 1, -33526⟩,
    ⟨64158, 64158, 1, -34921⟩, ⟨64159, 64159, 1, -34800⟩, ⟨64160, 64160, 1, -34678⟩,
    ⟨64161, 64161, 1, -34352⟩, ⟨64162, 64162, 1, -34204⟩, ⟨64163, 64163, 1, -34152⟩,
    ⟨64164, 64164, 1, -33927⟩, ⟨64165, 64165, 1, -33926⟩, ⟨64166, 64166, 1, -33756⟩,
    ⟨64167, 64167, 1, -33740⟩, ⟨64168, 64168, 1, -33716⟩, ⟨64169, 64169, 1, -33631⟩,
    ⟨64170, 64170, 1, -33642⟩, ⟨64171, 64171, 1, -33247⟩, ⟨64172, 64172, 1, -32763⟩,
    ⟨64173, 64173, 1, -32493⟩, ⟨64174, 64174, 1, -32307⟩, ⟨64175, 64175, 1, -32084⟩,
    ⟨64176, 64176, 1, -31932⟩, ⟨64177, 64177, 1, -31603⟩, ⟨64178, 64178, 1, -31405⟩,
    ⟨64179, 64179, 1, -30561⟩, ⟨64180, 64180, 1, -30405⟩, ⟨64181, 64181, 1, -29500⟩,
    ⟨64182, 64182, 1, -29045⟩, ⟨64183, 64183, 1, -28977⟩, ⟨64184, 64184, 1, -28962⟩,
    ⟨64185, 64185, 1, -28666⟩, ⟨64186, 64186, 1, -28610⟩, ⟨64187, 64187, 1, -28656⟩,
    ⟨64188, 64188, 1, -28603⟩, ⟨64189, 64189, 1, -28607⟩, ⟨64190, 64190, 1, -28625⟩,
    ⟨64191, 64191, 1, -28550⟩, ⟨64192, 64192, 1, -28470⟩, ⟨64193, 64193, 1, -28089⟩,
    ⟨64194, 64194, 1, -27530⟩, ⟨64195, 64195, 1, -27217⟩, ⟨64196, 64196, 1, -26923⟩,
    ⟨64197, 64197, 1, -26703⟩, ⟨64198, 64198, 1, -25674⟩, ⟨64199, 64199, 1, -25572⟩,
    ⟨64200, 64200, 1, -25458⟩, ⟨64201, 64201, 1, -25326⟩, ⟨64202, 64202, 1, -25291⟩,
    ⟨64203, 64203, 1, -25280⟩, ⟨64204, 64204, 1, -25233⟩, ⟨64205, 64205, 1, -24507⟩,
    ⟨64206, 64206, 1, -23346⟩, ⟨64207, 64207, 1, 77179⟩, ⟨64208, 64208, 1, 77172⟩,
    ⟨64209, 64209, 1, 80132⟩, ⟨64210, 64210, 1, -48949⟩, ⟨64211, 64211, 1, -47803⟩,
    ⟨64212, 64212, 1, -47771⟩, ⟨64213, 64213, 1, 87924⟩, ⟨64214, 64214, 1, 90618⟩,
    ⟨64215, 64215, 1, 99324⟩, ⟨64216, 64216, 1, -23445⟩, ⟨64217, 64217, 1, -23371⟩,
    ⟨64288, 64288, 1, -62782⟩, ⟨64289, 64289, 1, -62801⟩, ⟨64290, 64291, 1, -62799⟩,
    ⟨64292, 64294, 1, -62793⟩, ⟨64295, 64295, 1, -62783⟩, ⟨64296, 64296, 1, -62782⟩,
    ⟨64336, 64336, 1, -62687⟩, ⟨64337, 64337, 1, -62688⟩, ⟨64338, 64338, 1, -62679⟩,
    ⟨64339, 64339, 1, -62680⟩, ⟨64340, 64340, 1, -62681⟩, ⟨64341, 64341, 1, -62682⟩,
    ⟨64342, 64342, 1, -62680⟩, ⟨64343, 64343, 1, -62681⟩, ⟨64344, 64344, 1, -62682⟩,
    ⟨64345, 64345, 1, -62683⟩, ⟨64346, 64346, 1, -62682⟩, ⟨64347, 64347, 1, -62683⟩,
    ⟨64348, 64348, 1, -62684⟩, ⟨64349, 64349, 1, -62685⟩, ⟨64350, 64350, 1, -62692⟩,
    ⟨64351, 64351, 1, -62693⟩, ⟨64352, 64352, 1, -62694⟩, ⟨64353, 64353, 1, -62695⟩,
    ⟨64354, 64354, 1, -62691⟩, ⟨64355, 64355, 1, -62692⟩, ⟨64356, 64356, 1, -62693⟩,
    ⟨64357, 64357, 1, -62694⟩, ⟨64358, 64358, 1, -62701⟩, ⟨64359, 64359, 1, -62702⟩,
    ⟨64360, 64360, 1, -62703⟩, ⟨64361, 64361, 1, -62704⟩, ⟨64362, 64362, 1, -62662⟩,
    ⟨64363, 64363, 1, -62663⟩, ⟨64364, 64364, 1, -62664⟩, ⟨64365, 64365, 1, -62665⟩,
    ⟨64366, 64366, 1, -62664⟩, ⟨64367, 64367, 1, -62665⟩, ⟨64368, 64368, 1, -62666⟩,
    ⟨64369, 64369, 1, -62667⟩, ⟨64370, 64370, 1, -62702⟩, ⟨64371, 64371, 1, -62703⟩,
    ⟨64372, 64372, 1, -62704⟩, ⟨64373, 64373, 1, -62705⟩, ⟨64374, 64374, 1, -62707⟩,
    ⟨64375, 64375, 1, -62708⟩, ⟨64376, 64376, 1, -62709⟩, ⟨64377, 64377, 1, -62710⟩,
    ⟨64378, 64378, 1, -62708⟩, ⟨64379, 64379, 1, -62709⟩, ⟨64380, 64380, 1, -62710⟩,
    ⟨64381, 64382, 1, -62711⟩, ⟨64383, 64383, 1, -62712⟩, ⟨64384, 64384, 1, -62713⟩,
    ⟨64385, 64385, 1, -62714⟩, ⟨64386, 64386, 1, -62709⟩, ⟨64387, 64387, 1, -62710⟩,
    ⟨64388, 64388, 1, -62712⟩, ⟨64389, 64389, 1, -62713⟩, ⟨64390, 64390, 1, -62712⟩,
    ⟨64391, 64391, 1, -62713⟩, ⟨64392, 64392, 1, -62720⟩, ⟨64393, 64393, 1, -62721⟩,
    ⟨64394, 64394, 1, -62706⟩, ⟨64395, 64395, 1, -62707⟩, ⟨64396, 64396, 1, -62715⟩,
    ⟨64397, 64397, 1, -62716⟩, ⟨64398, 64398, 1, -62693⟩, ⟨64399, 64399, 1, -62694⟩,
    ⟨64400, 64400, 1, -62695⟩, ⟨64401, 64401, 1, -62696⟩, ⟨64402, 64402, 1, -62691⟩,
    ⟨64403, 64403, 1, -62692⟩, ⟨64404, 64404, 1, -62693⟩, ⟨64405, 64405, 1, -62694⟩,
    ⟨64406, 64406, 1, -62691⟩, ⟨64407, 64407, 1, -62692⟩, ⟨64408, 64408, 1, -62693⟩,
    ⟨64409, 64409, 1, -62694⟩, ⟨64410, 64410, 1, -62697⟩, ⟨64411, 64411, 1, -62698⟩,
    ⟨64412, 64412, 1, -62699⟩, ⟨64413, 64413, 1, -62700⟩, ⟨64414, 64414, 1, -62692⟩,
    ⟨64415, 64416, 1, -62693⟩, ⟨64417, 64417, 1, -62694⟩, ⟨64418, 64418, 1, -62695⟩,
    ⟨64419, 64419, 1, -62696⟩, ⟨64422, 64422, 1, -62693⟩, ⟨64423, 64423, 1, -62694⟩,
    ⟨64424, 64424, 1, -62695⟩, ⟨64425, 64425, 1, -62696⟩, ⟨64426, 64426, 1, -62700⟩,
    ⟨64427, 64427, 1, -62701⟩, ⟨64428, 64428, 1, -62702⟩, ⟨64429, 64429, 1, -62703⟩,
    ⟨64430, 64430, 1, -62684⟩, ⟨64431, 64431, 1, -62685⟩, ⟨64467, 64467, 1, -62758⟩,
    ⟨64468, 64468, 1, -62759⟩, ⟨64469, 64469, 1, -62760⟩, ⟨64470, 64470, 1, -62761⟩,
    ⟨64471, 64471, 1, -62736⟩, ⟨64472, 64472, 1, -62737⟩, ⟨64473, 64473, 1, -62739⟩,
    ⟨64474, 64474, 1, -62740⟩, ⟨64475, 64475, 1, -62739⟩, ⟨64476, 64476, 1, -62740⟩,
    ⟨64478, 64478, 1, -62739⟩, ⟨64479, 64479, 1, -62740⟩, ⟨64480, 64480, 1, -62747⟩,
    ⟨64481, 64481, 1, -62748⟩, ⟨64482, 64482, 1, -62745⟩, ⟨64483, 64483, 1, -62746⟩,
    ⟨64484, 64484, 1, -62740⟩, ⟨64485, 64485, 1, -62741⟩, ⟨64486, 64486, 1, -62742⟩,
    ⟨64487, 64487, 1, -62743⟩, ⟨64488, 64488, 1, -62879⟩, ⟨64489, 64489, 1, -62880⟩,
    ⟨64508, 64508, 1, -62768⟩, ⟨64509, 64509, 1, -62769⟩, ⟨64510, 64510, 1, -62770⟩,
    ⟨64511, 64511, 1, -62771⟩, ⟨65075, 65075, 1, -64980⟩, ⟨65076, 65076, 1, -64981⟩,
    ⟨65101, 65101, 1, -65006⟩, ⟨65102, 65102, 1, -65007⟩, ⟨65103, 65103, 1, -65008⟩,
    ⟨65152, 65152, 1, -63583⟩, ⟨65165, 65165, 1, -63590⟩, ⟨65166, 65167, 1, -63591⟩,
    ⟨65168, 65168, 1, -63592⟩, ⟨65169, 65169, 1, -63593⟩, ⟨65170, 65171, 1, -63594⟩,
    ⟨65172, 65173, 1, -63595⟩, ⟨65174, 65174, 1, -63596⟩, ⟨65175, 65175, 1, -63597⟩,
    ⟨65176, 65177, 1, -63598⟩, ⟨65178, 65178, 1, -63599⟩, ⟨65179, 65179, 1, -63600⟩,
    ⟨65180, 65181, 1, -63601⟩, ⟨65182, 65182, 1, -63602⟩, ⟨65183, 65183, 1, -63603⟩,
    ⟨65184, 65185, 1, -63604⟩, ⟨65186, 65186, 1, -63605⟩, ⟨65187, 65187, 1, -63606⟩,
    ⟨65188, 65189, 1, -63607⟩, ⟨65190, 65190, 1, -63608⟩, ⟨65191, 65191, 1, -63609⟩,
    ⟨65192, 65193, 1, -63610⟩, ⟨65194, 65195, 1, -63611⟩, ⟨65196, 65197, 1, -63612⟩,
    ⟨65198, 65199, 1, -63613⟩, ⟨65200, 65201, 1, -63614⟩, ⟨65202, 65202, 1, -63615⟩,
    ⟨65203, 65203, 1, -63616⟩, ⟨65204, 65205, 1, -63617⟩, ⟨65206, 65206, 1, -63618⟩,
    ⟨65207, 65207, 1, -63619⟩, ⟨65208, 65209, 1, -63620⟩, ⟨65210, 65210, 1, -63621⟩,
    ⟨65211, 65211, 1, -63622⟩, ⟨65212, 65213, 1, -63623⟩, ⟨65214, 65214, 1, -63624⟩,
    ⟨65215, 65215, 1, -63625⟩, ⟨65216, 65217, 1, -63626⟩, ⟨65218, 65218, 1, -63627⟩,
    ⟨65219, 65219, 1, -63628⟩, ⟨65220, 65221, 1, -63629⟩, ⟨65222, 65222, 1, -63630⟩,
    ⟨65223, 65223, 1, -63631⟩, ⟨65224, 65225, 1, -63632⟩, ⟨65226, 65226, 1, -63633⟩,
    ⟨65227, 65227, 1, -63634⟩, ⟨65228, 65229, 1, -63635⟩, ⟨65230, 65230, 1, -63636⟩,
    ⟨65231, 65231, 1, -63637⟩, ⟨65232, 65232, 1, -63638⟩, ⟨65233, 65233, 1, -63632⟩,
    ⟨65234, 65234, 1, -63633⟩, ⟨65235, 65235, 1, -63634⟩, ⟨65236, 65237, 1, -63635⟩,
    ⟨65238, 65238, 1, -63636⟩, ⟨65239, 65239, 1, -63637⟩, ⟨65240, 65241, 1, -63638⟩,
    ⟨65242, 65242, 1, -63639⟩, ⟨65243, 65243, 1, -63640⟩, ⟨65244, 65245, 1, -63641⟩,
    ⟨65246, 65246, 1, -63642⟩, ⟨65247, 65247, 1, -63643⟩, ⟨65248, 65249, 1, -63644⟩,
    ⟨65250, 65250, 1, -63645⟩, ⟨65251, 65251, 1, -63646⟩, ⟨65252, 65253, 1, -63647⟩,
    ⟨65254, 65254, 1, -63648⟩, ⟨65255, 65255, 1, -63649⟩, ⟨65256, 65257, 1, -63650⟩,
    ⟨65258, 65258, 1, -63651⟩, ⟨65259, 65259, 1, -63652⟩, ⟨65260, 65261, 1, -63653⟩,
    ⟨65262, 65263, 1, -63654⟩, ⟨65264, 65265, 1, -63655⟩, ⟨65266, 65266, 1, -63656⟩,
    ⟨65267, 65267, 1, -63657⟩, ⟨65268, 65268, 1, -63658⟩, ⟨65296, 65305, 1, -65248⟩,
    ⟨65313, 65338, 1, -65248⟩, ⟨65343, 65343, 1, -65248⟩, ⟨65345, 65370, 1, -65248⟩,
    ⟨65382, 65382, 1, -52852⟩, ⟨65383, 65383, 1, -52934⟩, ⟨65384, 65384, 1, -52933⟩,
    ⟨65385, 65385, 1, -52932⟩, ⟨65386, 65386, 1, -52931⟩, ⟨65387, 65387, 1, -52930⟩,
    ⟨65388, 65388, 1, -52873⟩, ⟨65389, 65389, 1, -52872⟩, ⟨65390, 65390, 1, -52871⟩,
    ⟨65391, 65391, 1, -52908⟩, ⟨65392, 65392, 1, -52852⟩, ⟨65393, 65393, 1, -52943⟩,
    ⟨65394, 65394, 1, -52942⟩, ⟨65395, 65395, 1, -52941⟩, ⟨65396, 65396, 1, -52940⟩,
    ⟨65397, 65398, 1, -52939⟩, ⟨65399, 65399, 1, -52938⟩, ⟨65400, 65400, 1, -52937⟩,
    ⟨65401, 65401, 1, -52936⟩, ⟨65402, 65402, 1, -52935⟩, ⟨65403, 65403, 1, -52934⟩,
    ⟨65404, 65404, 1, -52933⟩, ⟨65405, 65405, 1, -52932⟩, ⟨65406, 65406, 1, -52931⟩,
    ⟨65407, 65407, 1, -52930⟩, ⟨65408, 65408, 1, -52929⟩, ⟨65409, 65409, 1, -52928⟩,
    ⟨65410, 65410, 1, -52926⟩, ⟨65411, 65411, 1, -52925⟩, ⟨65412, 65412, 1, -52924⟩,
    ⟨65413, 65418, 1, -52923⟩, ⟨65419, 65419, 1, -52921⟩, ⟨65420, 65420, 1, -52919⟩,
    ⟨65421, 65421, 1, -52917⟩, ⟨65422, 65422, 1, -52915⟩, ⟨65423, 65427, 1, -52913⟩,
    ⟨65428, 65428, 1, -52912⟩, ⟨65429, 65429, 1, -52911⟩, ⟨65430, 65435, 1, -52910⟩,
    ⟨65436, 65436, 1, -52909⟩, ⟨65437, 65437, 1, -52906⟩, ⟨65438, 65439, 1, -52997⟩,
    ⟨65440, 65440, 1, -60992⟩, ⟨65441, 65442, 1, -61089⟩, ⟨65443, 65443, 1, -60921⟩,
    ⟨65444, 65444, 1, -61090⟩, ⟨65445, 65446, 1, -60921⟩, ⟨65447, 65449, 1, -61092⟩,
    ⟨65450, 65455, 1, -60922⟩, ⟨65456, 65456, 1, -61078⟩, ⟨65457, 65459, 1, -61099⟩,
    ⟨65460, 65460, 1, -61075⟩, ⟨65461, 65470, 1, -61100⟩, ⟨65474, 65479, 1, -61025⟩,
    ⟨65482, 65487, 1, -61027⟩, ⟨65490, 65495, 1, -61029⟩, ⟨65498, 65500, 1, -61031⟩,
    ⟨67457, 67458, 1, -66737⟩, ⟨67459, 67459, 1, -67229⟩, ⟨67460, 67460, 1, -66795⟩,
    ⟨67461, 67461, 1, -66866⟩, ⟨67463, 67463, 1, -66788⟩, ⟨67464, 67464, 1, -23586⟩,
    ⟨67465, 67465, 1, -66788⟩, ⟨67466, 67466, 1, -66790⟩, ⟨67467, 67468, 1, -66869⟩,
    ⟨67469, 67469, 1, -59900⟩, ⟨67470, 67470, 1, -66870⟩, ⟨67471, 67471, 1, -66865⟩,
    ⟨67472, 67472, 1, -66791⟩, ⟨67473, 67473, 1, -66861⟩, ⟨67474, 67474, 1, -66864⟩,
    ⟨67475, 67475, 1, -66867⟩, ⟨67476, 67476, 1, -66809⟩, ⟨67477, 67477, 1, -67182⟩,
    ⟨67478, 67478, 1, -66810⟩, ⟨67479, 67479, 1, -66864⟩, ⟨67480, 67480, 1, -66836⟩,
    ⟨67481, 67482, 1, -66799⟩, ⟨67483, 67483, 1, -66863⟩, ⟨67484, 67484, 1, 55144⟩,
    ⟨67485, 67485, 1, -24591⟩, ⟨67486, 67486, 1, -66864⟩, ⟨67487, 67487, 1, 55142⟩,
    ⟨67488, 67488, 1, -66834⟩, ⟨67489, 67489, 1, 55141⟩, ⟨67490, 67490, 1, -67242⟩,
    ⟨67491, 67492, 1, -66861⟩, ⟨67493, 67493, 1, -67380⟩, ⟨67494, 67494, 1, -66860⟩,
    ⟨67495, 67495, 1, 55137⟩, ⟨67496, 67497, 1, -66859⟩, ⟨67498, 67498, 1, -66858⟩,
    ⟨67499, 67499, 1, -66819⟩, ⟨67500, 67500, 1, -66822⟩, ⟨67501, 67501, 1, -23622⟩,
    ⟨67502, 67502, 1, -66823⟩, ⟨67503, 67503, 1, -66855⟩, ⟨67504, 67504, 1, -56127⟩,
    ⟨67506, 67506, 1, -66851⟩, ⟨67507, 67508, 1, -66834⟩, ⟨67509, 67509, 1, -66845⟩,
    ⟨67510, 67512, 1, -67062⟩, ⟨67513, 67513, 1, 55121⟩, ⟨67514, 67514, 1, 55140⟩ ]

/-- The forms of single characters from U+1D400 to U+2F7FF. -/
def styledForms : List CaseRun :=
  [ ⟨119808, 119833, 1, -119743⟩, ⟨119834, 119859, 1, -119737⟩, ⟨119860, 119885, 1, -119795⟩,
    ⟨119886, 119892, 1, -119789⟩, ⟨119894, 119911, 1, -119789⟩, ⟨119912, 119937, 1, -119847⟩,
    ⟨119938, 119963, 1, -119841⟩, ⟨119964, 119964, 1, -119899⟩, ⟨119966, 119967, 1, -119899⟩,
    ⟨119970, 119970, 1, -119899⟩, ⟨119973, 119974, 1, -119899⟩, ⟨119977, 119980, 1, -119899⟩,
    ⟨119982, 119989, 1, -119899⟩, ⟨119990, 119993, 1, -119893⟩, ⟨119995, 119995, 1, -119893⟩,
    ⟨119997, 120003, 1, -119893⟩, ⟨120005, 120015, 1, -119893⟩, ⟨120016, 120041, 1, -119951⟩,
    ⟨120042, 120067, 1, -119945⟩, ⟨120068, 120069, 1, -120003⟩, ⟨120071, 120074, 1, -120003⟩,
    ⟨120077, 120084, 1, -120003⟩, ⟨120086, 120092, 1, -120003⟩, ⟨120094, 120119, 1, -119997⟩,
    ⟨120120, 120121, 1, -120055⟩, ⟨120123, 120126, 1, -120055⟩, ⟨120128, 120132, 1, -120055⟩,
    ⟨120134, 120134, 1, -120055⟩, ⟨120138, 120144, 1, -120055⟩, ⟨120146, 120171, 1, -120049⟩,
    ⟨120172, 120197, 1, -120107⟩, ⟨120198, 120223, 1, -120101⟩, ⟨120224, 120249, 1, -120159⟩,
    ⟨120250, 120275, 1, -120153⟩, ⟨120276, 120301, 1, -120211⟩, ⟨120302, 120327, 1, -120205⟩,
    ⟨120328, 120353, 1, -120263⟩, ⟨120354, 120379, 1, -120257⟩, ⟨120380, 120405, 1, -120315⟩,
    ⟨120406, 120431, 1, -120309⟩, ⟨120432, 120457, 1, -120367⟩, ⟨120458, 120483, 1, -120361⟩,
    ⟨120484, 120484, 1, -120179⟩, ⟨120485, 120485, 1, -119918⟩, ⟨120488, 120504, 1, -119575⟩,
    ⟨120505, 120505, 1, -119585⟩, ⟨120506, 120512, 1, -119575⟩, ⟨120514, 120538, 1, -119569⟩,
    ⟨120540, 120540, 1, -119591⟩, ⟨120541, 120541, 1, -119589⟩, ⟨120542, 120542, 1, -119588⟩,
    ⟨120543, 120543, 1, -119577⟩, ⟨120544, 120544, 1, -119583⟩, ⟨120545, 120545, 1, -119585⟩,
    ⟨120546, 120562, 1, -119633⟩, ⟨120563, 120563, 1, -119643⟩, ⟨120564, 120570, 1, -119633⟩,
    ⟨120572, 120596, 1, -119627⟩, ⟨120598, 120598, 1, -119649⟩, ⟨120599, 120599, 1, -119647⟩,
    ⟨120600, 120600, 1, -119646⟩, ⟨120601, 120601, 1, -119635⟩, ⟨120602, 120602, 1, -119641⟩,
    ⟨120603, 120603, 1, -119643⟩, ⟨120604, 120620, 1, -119691⟩, ⟨120621, 120621, 1, -119701⟩,
    ⟨120622, 120628, 1, -119691⟩, ⟨120630, 120654, 1, -119685⟩, ⟨120656, 120656, 1, -119707⟩,
    ⟨120657, 120657, 1, -119705⟩, ⟨120658, 120658, 1, -119704⟩, ⟨120659, 120659, 1, -119693⟩,
    ⟨120660, 120660, 1, -119699⟩, ⟨120661, 120661, 1, -119701⟩, ⟨120662, 120678, 1, -119749⟩,
    ⟨120679, 120679, 1, -119759⟩, ⟨120680, 120686, 1, -119749⟩, ⟨120688, 120712, 1, -119743⟩,
    ⟨120714, 120714, 1, -119765⟩, ⟨120715, 120715, 1, -119763⟩, ⟨120716, 120716, 1, -119762⟩,
    ⟨120717, 120717, 1, -119751⟩, ⟨120718, 120718, 1, -119757⟩, ⟨120719, 120719, 1, -119759⟩,
    ⟨120720, 120736, 1, -119807⟩, ⟨120737, 120737, 1, -119817⟩, ⟨120738, 120744, 1, -119807⟩,
    ⟨120746, 120770, 1, -119801⟩, ⟨120772, 120772, 1, -119823⟩, ⟨120773, 120773, 1, -119821⟩,
    ⟨120774, 120774, 1, -119820⟩, ⟨120775, 120775, 1, -119809⟩, ⟨120776, 120776, 1, -119815⟩,
    ⟨120777, 120777, 1, -119817⟩, ⟨120778, 120779, 1, -119790⟩, ⟨120782, 120791, 1, -120734⟩,
    ⟨120792, 120801, 1, -120744⟩, ⟨120802, 120811, 1, -120754⟩, ⟨120812, 120821, 1, -120764⟩,
    ⟨120822, 120831, 1, -120774⟩, ⟨126464, 126465, 1, -124889⟩, ⟨126466, 126466, 1, -124886⟩,
    ⟨126467, 126467, 1, -124884⟩, ⟨126469, 126469, 1, -124861⟩, ⟨126470, 126470, 1, -124884⟩,
    ⟨126471, 126471, 1, -124890⟩, ⟨126472, 126472, 1, -124881⟩, ⟨126473, 126473, 1, -124863⟩,
    ⟨126474, 126477, 1, -124871⟩, ⟨126478, 126478, 1, -124891⟩, ⟨126479, 126479, 1, -124886⟩,
    ⟨126480, 126480, 1, -124879⟩, ⟨126481, 126481, 1, -124892⟩, ⟨126482, 126482, 1, -124880⟩,
    ⟨126483, 126483, 1, -124898⟩, ⟨126484, 126484, 1, -124896⟩, ⟨126485, 126486, 1, -124907⟩,
    ⟨126487, 126487, 1, -124905⟩, ⟨126488, 126488, 1, -124904⟩, ⟨126489, 126489, 1, -124899⟩,
    ⟨126490, 126490, 1, -124898⟩, ⟨126491, 126491, 1, -124897⟩, ⟨126492, 126492, 1, -124846⟩,
    ⟨126493, 126493, 1, -124771⟩, ⟨126494, 126494, 1, -124797⟩, ⟨126495, 126495, 1, -124848⟩,
    ⟨126497, 126497, 1, -124921⟩, ⟨126498, 126498, 1, -124918⟩, ⟨126500, 126500, 1, -124893⟩,
    ⟨126503, 126503, 1, -124922⟩, ⟨126505, 126505, 1, -124895⟩, ⟨126506, 126509, 1, -124903⟩,
    ⟨126510, 126510, 1, -124923⟩, ⟨126511, 126511, 1, -124918⟩, ⟨126512, 126512, 1, -124911⟩,
    ⟨126513, 126513, 1, -124924⟩, ⟨126514, 126514, 1, -124912⟩, ⟨126516, 126516, 1, -124928⟩,
    ⟨126517, 126518, 1, -124939⟩, ⟨126519, 126519, 1, -124937⟩, ⟨126521, 126521, 1, -124931⟩,
    ⟨126523, 126523, 1, -124929⟩, ⟨126530, 126530, 1, -124950⟩, ⟨126535, 126535, 1, -124954⟩,
    ⟨126537, 126537, 1, -124927⟩, ⟨126539, 126539, 1, -124935⟩, ⟨126541, 126541, 1, -124935⟩,
    ⟨126542, 126542, 1, -124955⟩, ⟨126543, 126543, 1, -124950⟩, ⟨126545, 126545, 1, -124956⟩,
    ⟨126546, 126546, 1, -124944⟩, ⟨126548, 126548, 1, -124960⟩, ⟨126551, 126551, 1, -124969⟩,
    ⟨126553, 126553, 1, -124963⟩, ⟨126555, 126555, 1, -124961⟩, ⟨126557, 126557, 1, -124835⟩,
    ⟨126559, 126559, 1, -124912⟩, ⟨126561, 126561, 1, -124985⟩, ⟨126562, 126562, 1, -124982⟩,
    ⟨126564, 126564, 1, -124957⟩, ⟨126567, 126567, 1, -124986⟩, ⟨126568, 126568, 1, -124977⟩,
    ⟨126569, 126569, 1, -124959⟩, ⟨126570, 126570, 1, -124967⟩, ⟨126572, 126573, 1, -124967⟩,
    ⟨126574, 126574, 1, -124987⟩, ⟨126575, 126575, 1, -124982⟩, ⟨126576, 126576, 1, -124975⟩,
    ⟨126577, 126577, 1, -124988⟩, ⟨126578, 126578, 1, -124976⟩, ⟨126580, 126580, 1, -124992⟩,
    ⟨126581, 126582, 1, -125003⟩, ⟨126583, 126583, 1, -125001⟩, ⟨126585, 126585, 1, -124995⟩,
    ⟨126586, 126586, 1, -124994⟩, ⟨126587, 126587, 1, -124993⟩, ⟨126588, 126588, 1, -124942⟩,
    ⟨126590, 126590, 1, -124893⟩, ⟨126592, 126593, 1, -125017⟩, ⟨126594, 126594, 1, -125014⟩,
    ⟨126595, 126595, 1, -125012⟩, ⟨126596, 126597, 1, -124989⟩, ⟨126598, 126598, 1, -125012⟩,
    ⟨126599, 126599, 1, -125018⟩, ⟨126600, 126600, 1, -125009⟩, ⟨126601, 126601, 1, -124991⟩,
    ⟨126603, 126605, 1, -124999⟩, ⟨126606, 126606, 1, -125019⟩, ⟨126607, 126607, 1, -125014⟩,
    ⟨126608, 126608, 1, -125007⟩, ⟨126609, 126609, 1, -125020⟩, ⟨126610, 126610, 1, -125008⟩,
    ⟨126611, 126611, 1, -125026⟩, ⟨126612, 126612, 1, -125024⟩, ⟨126613, 126614, 1, -125035⟩,
    ⟨126615, 126615, 1, -125033⟩, ⟨126616, 126616, 1, -125032⟩, ⟨126617, 126617, 1, -125027⟩,
    ⟨126618, 126618, 1, -125026⟩, ⟨126619, 126619, 1, -125025⟩, ⟨126625, 126625, 1, -125049⟩,
    ⟨126626, 126626, 1, -125046⟩, ⟨126627, 126627, 1, -125044⟩, ⟨126629, 126629, 1, -125021⟩,
    ⟨126630, 126630, 1, -125044⟩, ⟨126631, 126631, 1, -125050⟩, ⟨126632, 126632, 1, -125041⟩,
    ⟨126633, 126633, 1, -125023⟩, ⟨126635, 126637, 1, -125031⟩, ⟨126638, 126638, 1, -125051⟩,
    ⟨126639, 126639, 1, -125046⟩, ⟨126640, 126640, 1, -125039⟩, ⟨126641, 126641, 1, -125052⟩,
    ⟨126642, 126642, 1, -125040⟩, ⟨126643, 126643, 1, -125058⟩, ⟨126644, 126644, 1, -125056⟩,
    ⟨126645, 126646, 1, -125067⟩, ⟨126647, 126647, 1, -125065⟩, ⟨126648, 126648, 1, -125064⟩,
    ⟨126649, 126649, 1, -125059⟩, ⟨126650, 126650, 1, -125058⟩, ⟨126651, 126651, 1, -125057⟩,
    ⟨130032, 130041, 1, -129984⟩ ]

/-- The forms of single characters from U+2F800 on. -/
def lateForms : List CaseRun :=
  [ ⟨194560, 194560, 1, -174531⟩, ⟨194561, 194561, 1, -174537⟩, ⟨194562, 194562, 1, -174529⟩,
    ⟨194563, 194563, 1, -63201⟩, ⟨194564, 194564, 1, -174244⟩, ⟨194565, 194565, 1, -174167⟩,
    ⟨194566, 194566, 1, -174155⟩, ⟨194567, 194567, 1, -174085⟩, ⟨194568, 194568, 1, -173966⟩,
    ⟨194569, 194569, 1, -173936⟩, ⟨194570, 194570, 1, -173859⟩, ⟨194571, 194571, 1, -173884⟩,
    ⟨194572, 194572, 1, -181102⟩, ⟨194573, 194573, 1, -61907⟩, ⟨194574, 194574, 1, -173761⟩,
    ⟨194575, 194575, 1, -173755⟩, ⟨194576, 194576, 1, -173740⟩, ⟨194577, 194577, 1, -173722⟩,
    ⟨194578, 194578, 1, -62198⟩, ⟨194579, 194579, 1, -181082⟩, ⟨194580, 194580, 1, -173741⟩,
    ⟨194581, 194581, 1, -173704⟩, ⟨194582, 194582, 1, -62155⟩, ⟨194583, 194583, 1, -173696⟩,
    ⟨194584, 194584, 1, -173684⟩, ⟨194585, 194585, 1, -174413⟩, ⟨194586, 194586, 1, -173678⟩,
    ⟨194587, 194587, 1, -173670⟩, ⟨194588, 194588, 1, -26173⟩, ⟨194589, 194589, 1, -173608⟩,
    ⟨194590, 194590, 1, -173595⟩, ⟨194591, 194591, 1, -181056⟩, ⟨194592, 194592, 1, -173541⟩,
    ⟨194593, 194593, 1, -173531⟩, ⟨194594, 194594, 1, -173488⟩, ⟨194595, 194595, 1, -173484⟩,
    ⟨194596, 194596, 1, -181007⟩, ⟨194597, 194597, 1, -173406⟩, ⟨194598, 194598, 1, -173405⟩,
    ⟨194599, 194599, 1, -173379⟩, ⟨194600, 194600, 1, -173358⟩, ⟨194601, 194602, 1, -173348⟩,
    ⟨194603, 194603, 1, -173332⟩, ⟨194604, 194604, 1, -173283⟩, ⟨194605, 194605, 1, -173276⟩,
    ⟨194606, 194606, 1, -173268⟩, ⟨194607, 194607, 1, -173244⟩, ⟨194608, 194608, 1, -173235⟩,
    ⟨194609, 194609, 1, -173234⟩, ⟨194610, 194610, 1, -173235⟩, ⟨194611, 194611, 1, -173236⟩,
    ⟨194612, 194612, 1, -60936⟩, ⟨194613, 194613, 1, -165829⟩, ⟨194614, 194614, 1, -173164⟩,
    ⟨194615, 194615, 1, -173144⟩, ⟨194616, 194616, 1, -60629⟩, ⟨194617, 194617, 1, -173134⟩,
    ⟨194618, 194618, 1, -173129⟩, ⟨194619, 194619, 1, -173109⟩, ⟨194620, 194620, 1, -172958⟩,
    ⟨194621, 194621, 1, -173061⟩, ⟨194622, 194622, 1, -173046⟩, ⟨194623, 194623, 1, -173015⟩,
    ⟨194624, 194624, 1, -172958⟩, ⟨194625, 194625, 1, -172875⟩, ⟨194626, 194626, 1, -172850⟩,
    ⟨194627, 194627, 1, -172784⟩, ⟨194628, 194628, 1, -172769⟩, ⟨194629, 194629, 1, -172737⟩,
    ⟨194630, 194630, 1, -172738⟩, ⟨194631, 194631, 1, -172718⟩, ⟨194632, 194632, 1, -172701⟩,
    ⟨194633, 194633, 1, -172694⟩, ⟨194634, 194634, 1, -172680⟩, ⟨194635, 194635, 1, -172341⟩,
    ⟨194636, 194636, 1, -172614⟩, ⟨194637, 194637, 1, -172342⟩, ⟨194638, 194638, 1, -172541⟩,
    ⟨194639, 194639, 1, -172507⟩, ⟨194640, 194640, 1, -173641⟩, ⟨194641, 194641, 1, -171875⟩,
    ⟨194642, 194642, 1, -172164⟩, ⟨194643, 194643, 1, -172127⟩, ⟨194644, 194644, 1, -172103⟩,
    ⟨194645, 194645, 1, -172234⟩, ⟨194646, 194646, 1, -172068⟩, ⟨194647, 194647, 1, -172070⟩,
    ⟨194648, 194648, 1, -171948⟩, ⟨194649, 194649, 1, -58229⟩, ⟨194650, 194650, 1, -171880⟩,
    ⟨194651, 194651, 1, -171876⟩, ⟨194652, 194652, 1, -171862⟩, ⟨194653, 194653, 1, -171843⟩,
    ⟨194654, 194654, 1, -171836⟩, ⟨194655, 194655, 1, -171773⟩, ⟨194656, 194656, 1, -57784⟩,
    ⟨194657, 194657, 1, -57719⟩, ⟨194658, 194658, 1, -171638⟩, ⟨194659, 194659, 1, -171592⟩,
    ⟨194660, 194660, 1, -171581⟩, ⟨194661, 194661, 1, -171661⟩, ⟨194662, 194662, 1, -171520⟩,
    ⟨194663, 194663, 1, -180601⟩, ⟨194664, 194664, 1, -180588⟩, ⟨194665, 194665, 1, -171361⟩,
    ⟨194666, 194666, 1, -171308⟩, ⟨194667, 194667, 1, -171309⟩, ⟨194668, 194668, 1, -56996⟩,
    ⟨194669, 194669, 1, -171178⟩, ⟨194670, 194670, 1, -171158⟩, ⟨194671, 194671, 1, -171144⟩,
    ⟨194672, 194672, 1, -171133⟩, ⟨194673, 194673, 1, -56665⟩, ⟨194674, 194674, 1, -171123⟩,
    ⟨194675, 194675, 1, -171117⟩, ⟨194676, 194676, 1, -170273⟩, ⟨194677, 194677, 1, -171091⟩,
    ⟨194678, 194678, 1, -180469⟩, ⟨194679, 194679, 1, -171031⟩, ⟨194680, 194680, 1, -171018⟩,
    ⟨194681, 194681, 1, -170937⟩, ⟨194682, 194682, 1, -170989⟩, ⟨194683, 194683, 1, -55959⟩,
    ⟨194684, 194684, 1, -170809⟩, ⟨194685, 194685, 1, -55959⟩, ⟨194686, 194686, 1, -170768⟩,
    ⟨194687, 194687, 1, -170772⟩, ⟨194688, 194688, 1, -170756⟩, ⟨194689, 194690, 1, -170656⟩,
    ⟨194691, 194691, 1, -180308⟩, ⟨194692, 194692, 1, -170631⟩, ⟨194693, 194693, 1, -170589⟩,
    ⟨194694, 194694, 1, -170569⟩, ⟨194695, 194695, 1, -170526⟩, ⟨194696, 194696, 1, -180262⟩,
    ⟨194697, 194697, 1, -55046⟩, ⟨194698, 194698, 1, -180238⟩, ⟨194699, 194699, 1, -170459⟩,
    ⟨194700, 194700, 1, -170457⟩, ⟨194701, 194701, 1, -170455⟩, ⟨194702, 194702, 1, -170436⟩,
    ⟨194703, 194703, 1, -21757⟩, ⟨194704, 194704, 1, -170386⟩, ⟨194705, 194705, 1, -54624⟩,
    ⟨194706, 194706, 1, -54625⟩, ⟨194707, 194707, 1, -161426⟩, ⟨194708, 194708, 1, -170354⟩,
    ⟨194709, 194709, 1, -170355⟩, ⟨194710, 194710, 1, -180175⟩, ⟨194711, 194711, 1, -50655⟩,
    ⟨194712, 194712, 1, -38590⟩, ⟨194713, 194713, 1, -170295⟩, ⟨194714, 194714, 1, -170287⟩,
    ⟨194715, 194715, 1, -180152⟩, ⟨194716, 194716, 1, -170242⟩, ⟨194717, 194717, 1, -170192⟩,
    ⟨194718, 194718, 1, -170183⟩, ⟨194719, 194719, 1, -170150⟩, ⟨194720, 194720, 1, -170015⟩,
    ⟨194721, 194721, 1, -180071⟩, ⟨194722, 194722, 1, -180102⟩, ⟨194723, 194723, 1, -169999⟩,
    ⟨194724, 194724, 1, -53712⟩, ⟨194725, 194725, 1, -169950⟩, ⟨194726, 194726, 1, -169822⟩,
    ⟨194727, 194727, 1, -169819⟩, ⟨194728, 194728, 1, -169818⟩, ⟨194729, 194729, 1, -169821⟩,
    ⟨194730, 194730, 1, -169776⟩, ⟨194731, 194731, 1, -169757⟩, ⟨194732, 194732, 1, -169722⟩,
    ⟨194733, 194733, 1, -169737⟩, ⟨194734, 194734, 1, -169727⟩, ⟨194735, 194735, 1, -169681⟩,
    ⟨194736, 194736, 1, -169662⟩, ⟨194737, 194737, 1, -169659⟩, ⟨194738, 194738, 1, -169634⟩,
    ⟨194739, 194739, 1, -169624⟩, ⟨194740, 194740, 1, -169559⟩, ⟨194741, 194741, 1, -169476⟩,
    ⟨194742, 194742, 1, -169442⟩, ⟨194743, 194743, 1, -169319⟩, ⟨194744, 194744, 1, -52652⟩,
    ⟨194745, 194745, 1, -169340⟩, ⟨194746, 194746, 1, -169406⟩, ⟨194747, 194747, 1, -169299⟩,
    ⟨194748, 194748, 1, -169273⟩, ⟨194749, 194749, 1, -169177⟩, ⟨194750, 194750, 1, -52429⟩,
    ⟨194751, 194751, 1, -169117⟩, ⟨194752, 194752, 1, -169211⟩, ⟨194753, 194753, 1, -169240⟩,
    ⟨194754, 194754, 1, -179860⟩, ⟨194755, 194755, 1, -169050⟩, ⟨194756, 194756, 1, -169030⟩,
    ⟨194757, 194757, 1, -169000⟩, ⟨194758, 194758, 1, -169039⟩, ⟨194759, 194759, 1, -179803⟩,
    ⟨194760, 194760, 1, -168825⟩, ⟨194761, 194761, 1, -168797⟩, ⟨194762, 194762, 1, -51392⟩,
    ⟨194763, 194763, 1, -168680⟩, ⟨194764, 194764, 1, -168404⟩, ⟨194765, 194765, 1, -168580⟩,
    ⟨194766, 194766, 1, -179637⟩, ⟨194767, 194767, 1, -168510⟩, ⟨194768, 194768, 1, -179656⟩,
    ⟨194769, 194769, 1, -179693⟩, ⟨194770, 194770, 1, -173888⟩, ⟨194771, 194771, 1, -173886⟩,
    ⟨194772, 194772, 1, -168404⟩, ⟨194773, 194773, 1, -168505⟩, ⟨194774, 194774, 1, -161833⟩,
    ⟨194775, 194775, 1, -177406⟩, ⟨194776, 194776, 1, -168385⟩, ⟨194777, 194777, 1, -168382⟩,
    ⟨194778, 194778, 1, -168377⟩, ⟨194779, 194779, 1, -168317⟩, ⟨194780, 194780, 1, -168329⟩,
    ⟨194781, 194781, 1, -50458⟩, ⟨194782, 194782, 1, -179605⟩, ⟨194783, 194783, 1, -168165⟩,
    ⟨194784, 194784, 1, -168283⟩, ⟨194785, 194785, 1, -168079⟩, ⟨194786, 194786, 1, -168029⟩,
    ⟨194787, 194787, 1, -50294⟩, ⟨194788, 194788, 1, -168022⟩, ⟨194789, 194789, 1, -168134⟩,
    ⟨194790, 194790, 1, -167890⟩, ⟨194791, 194791, 1, -179530⟩, ⟨194792, 194792, 1, -167846⟩,
    ⟨194793, 194793, 1, -167750⟩, ⟨194794, 194794, 1, -167680⟩, ⟨194795, 194795, 1, -167491⟩,
    ⟨194796, 194796, 1, -49737⟩, ⟨194797, 194797, 1, -167442⟩, ⟨194798, 194798, 1, -179414⟩,
    ⟨194799, 194799, 1, -167374⟩, ⟨194800, 194800, 1, -49225⟩, ⟨194801, 194801, 1, -167325⟩,
    ⟨194802, 194802, 1, -179364⟩, ⟨194803, 194803, 1, -167297⟩, ⟨194804, 194804, 1, -167253⟩,
    ⟨194805, 194806, 1, -167227⟩, ⟨194807, 194807, 1, -48746⟩, ⟨194808, 194808, 1, -56301⟩,
    ⟨194809, 194809, 1, -48639⟩, ⟨194810, 194810, 1, -167084⟩, ⟨194811, 194811, 1, -48191⟩,
    ⟨194812, 194812, 1, -166973⟩, ⟨194813, 194813, 1, -166960⟩, ⟨194814, 194814, 1, -167063⟩,
    ⟨194815, 194815, 1, -166889⟩, ⟨194816, 194816, 1, -166850⟩, ⟨194817, 194817, 1, -166794⟩,
    ⟨194818, 194818, 1, -166849⟩, ⟨194819, 194819, 1, -166810⟩, ⟨194820, 194820, 1, -166796⟩,
    ⟨194821, 194821, 1, -166784⟩, ⟨194822, 194822, 1, -48104⟩, ⟨194823, 194823, 1, -166867⟩,
    ⟨194824, 194824, 1, -166617⟩, ⟨194825, 194825, 1, -166555⟩, ⟨194826, 194826, 1, -179159⟩,
    ⟨194827, 194827, 1, -166464⟩, ⟨194828, 194828, 1, -166469⟩, ⟨194829, 194829, 1, -47676⟩,
    ⟨194830, 194830, 1, -166677⟩, ⟨194831, 194831, 1, -166305⟩, ⟨194832, 194832, 1, -47538⟩,
    ⟨194833, 194833, 1, -47491⟩, ⟨194834, 194834, 1, -166220⟩, ⟨194835, 194835, 1, -166106⟩,
    ⟨194836, 194836, 1, -166134⟩, ⟨194837, 194837, 1, -166138⟩, ⟨194838, 194838, 1, -179072⟩,
    ⟨194839, 194839, 1, -166093⟩, ⟨194840, 194840, 1, -166043⟩, ⟨194841, 194841, 1, -166050⟩,
    ⟨194842, 194842, 1, -165997⟩, ⟨194843, 194843, 1, -62454⟩, ⟨194844, 194844, 1, -165847⟩,
    ⟨194845, 194845, 1, -46778⟩, ⟨194846, 194846, 1, -165762⟩, ⟨194847, 194847, 1, -46452⟩,
    ⟨194848, 194848, 1, -165624⟩, ⟨194849, 194849, 1, -165612⟩, ⟨194850, 194850, 1, -165586⟩,
    ⟨194851, 194851, 1, -45851⟩, ⟨194852, 194852, 1, -165540⟩, ⟨194853, 194853, 1, -165520⟩,
    ⟨194854, 194854, 1, -45553⟩, ⟨194855, 194855, 1, -45331⟩, ⟨194856, 194856, 1, -165294⟩,
    ⟨194857, 194857, 1, -165278⟩, ⟨194858, 194858, 1, -178814⟩, ⟨194859, 194859, 1, -165254⟩,
    ⟨194860, 194860, 1, -178804⟩, ⟨194861, 194861, 1, -178805⟩, ⟨194862, 194862, 1, -165095⟩,
    ⟨194863, 194863, 1, -165075⟩, ⟨194864, 194864, 1, -165055⟩, ⟨194865, 194865, 1, -165036⟩,
    ⟨194866, 194866, 1, -164968⟩, ⟨194867, 194867, 1, -178712⟩, ⟨194868, 194868, 1, -164880⟩,
    ⟨194869, 194869, 1, -44287⟩, ⟨194870, 194870, 1, -164856⟩, ⟨194871, 194871, 1, -44197⟩,
    ⟨194872, 194872, 1, -164808⟩, ⟨194873, 194873, 1, -55194⟩, ⟨194874, 194874, 1, -164650⟩,
    ⟨194875, 194875, 1, -43418⟩, ⟨194876, 194876, 1, -43396⟩, ⟨194877, 194877, 1, -43257⟩,
    ⟨194878, 194878, 1, -178498⟩, ⟨194879, 194879, 1, -178487⟩, ⟨194880, 194880, 1, -164428⟩,
    ⟨194881, 194881, 1, -43086⟩, ⟨194882, 194882, 1, -43088⟩, ⟨194883, 194883, 1, -43050⟩,
    ⟨194884, 194884, 1, -43025⟩, ⟨194885, 194886, 1, -164391⟩, ⟨194887, 194887, 1, -164392⟩,
    ⟨194888, 194888, 1, -164350⟩, ⟨194889, 194889, 1, -178448⟩, ⟨194890, 194890, 1, -164287⟩,
    ⟨194891, 194891, 1, -178437⟩, ⟨194892, 194892, 1, -178358⟩, ⟨194893, 194893, 1, -42288⟩,
    ⟨194894, 194894, 1, -164096⟩, ⟨194895, 194895, 1, -164035⟩, ⟨194896, 194896, 1, -163972⟩,
    ⟨194897, 194897, 1, -178286⟩, ⟨194898, 194898, 1, -41772⟩, ⟨194899, 194899, 1, -163837⟩,
    ⟨194900, 194900, 1, -41658⟩, ⟨194901, 194901, 1, -41616⟩, ⟨194902, 194902, 1, -163783⟩,
    ⟨194903, 194903, 1, -163692⟩, ⟨194904, 194904, 1, -178217⟩, ⟨194905, 194905, 1, -163609⟩,
    ⟨194906, 194906, 1, -163600⟩, ⟨194907, 194907, 1, -163596⟩, ⟨194908, 194908, 1, -40928⟩,
    ⟨194909, 194909, 1, -40630⟩, ⟨194910, 194910, 1, -40631⟩, ⟨194911, 194911, 1, -163441⟩,
    ⟨194912, 194912, 1, -178014⟩, ⟨194913, 194913, 1, -40374⟩, ⟨194914, 194914, 1, -163228⟩,
    ⟨194915, 194915, 1, -163226⟩, ⟨194916, 194916, 1, -177981⟩, ⟨194917, 194917, 1, -40165⟩,
    ⟨194918, 194918, 1, -162964⟩, ⟨194919, 194919, 1, -177863⟩, ⟨194920, 194920, 1, -162944⟩,
    ⟨194921, 194921, 1, -162950⟩, ⟨194922, 194922, 1, -162922⟩, ⟨194923, 194923, 1, -39397⟩,
    ⟨194924, 194924, 1, -162825⟩, ⟨194925, 194925, 1, -177772⟩, ⟨194926, 194926, 1, -162727⟩,
    ⟨194927, 194927, 1, -162669⟩, ⟨194928, 194928, 1, -162603⟩, ⟨194929, 194929, 1, -177725⟩,
    ⟨194930, 194930, 1, -38730⟩, ⟨194931, 194931, 1, -38700⟩, ⟨194932, 194932, 1, -177691⟩,
    ⟨194933, 194933, 1, -38556⟩, ⟨194934, 194934, 1, -162300⟩, ⟨194935, 194935, 1, -38457⟩,
    ⟨194936, 194936, 1, -162275⟩, ⟨194937, 194937, 1, -162175⟩, ⟨194938, 194938, 1, -162165⟩,
    ⟨194939, 194939, 1, -38049⟩, ⟨194940, 194940, 1, -37977⟩, ⟨194941, 194941, 1, -162077⟩,
    ⟨194942, 194942, 1, -37846⟩, ⟨194943, 194943, 1, -162063⟩, ⟨194944, 194944, 1, -50721⟩,
    ⟨194945, 194945, 1, -177580⟩, ⟨194946, 194946, 1, -162000⟩, ⟨194947, 194947, 1, -161920⟩,
    ⟨194948, 194948, 1, -177529⟩, ⟨194949, 194949, 1, -161863⟩, ⟨194950, 194950, 1, -171729⟩,
    ⟨194951, 194951, 1, -37344⟩, ⟨194952, 194952, 1, -37331⟩, ⟨194953, 194953, 1, -50678⟩,
    ⟨194954, 194954, 1, -50670⟩, ⟨194955, 194955, 1, -161674⟩, ⟨194956, 194956, 1, -161672⟩,
    ⟨194957, 194957, 1, -158191⟩, ⟨194958, 194958, 1, -177443⟩, ⟨194959, 194959, 1, -161534⟩,
    ⟨194960, 194960, 1, -161541⟩, ⟨194961, 194961, 1, -161524⟩, ⟨194962, 194962, 1, -173791⟩,
    ⟨194963, 194963, 1, -161506⟩, ⟨194964, 194964, 1, -161505⟩, ⟨194965, 194965, 1, -161496⟩,
    ⟨194966, 194966, 1, -161456⟩, ⟨194967, 194967, 1, -36443⟩, ⟨194968, 194968, 1, -161459⟩,
    ⟨194969, 194969, 1, -161404⟩, ⟨194970, 194970, 1, -161335⟩, ⟨194971, 194971, 1, -161262⟩,
    ⟨194972, 194972, 1, -161401⟩, ⟨194973, 194973, 1, -161248⟩, ⟨194974, 194974, 1, -161207⟩,
    ⟨194975, 194975, 1, -161096⟩, ⟨194976, 194976, 1, -161357⟩, ⟨194977, 194977, 1, -161239⟩,
    ⟨194978, 194978, 1, -161238⟩, ⟨194979, 194979, 1, -161223⟩, ⟨194980, 194980, 1, -36206⟩,
    ⟨194981, 194981, 1, -35898⟩, ⟨194982, 194982, 1, -36049⟩, ⟨194983, 194983, 1, -177276⟩,
    ⟨194984, 194984, 1, -160951⟩, ⟨194985, 194985, 1, -160950⟩, ⟨194986, 194986, 1, -160916⟩,
    ⟨194987, 194987, 1, -34273⟩, ⟨194988, 194988, 1, -160840⟩, ⟨194989, 194989, 1, -35457⟩,
    ⟨194990, 194990, 1, -177233⟩, ⟨194991, 194991, 1, -177230⟩, ⟨194992, 194992, 1, -35327⟩,
    ⟨194993, 194993, 1, -35039⟩, ⟨194994, 194994, 1, -177223⟩, ⟨194995, 194995, 1, -160611⟩,
    ⟨194996, 194996, 1, -160600⟩, ⟨194997, 194997, 1, -160590⟩, ⟨194998, 194998, 1, -160589⟩,
    ⟨194999, 194999, 1, -160526⟩, ⟨195000, 195000, 1, -160560⟩, ⟨195001, 195001, 1, -160427⟩,
    ⟨195002, 195002, 1, -160472⟩, ⟨195003, 195003, 1, -160322⟩, ⟨195004, 195004, 1, -160404⟩,
    ⟨195005, 195005, 1, -160338⟩, ⟨195006, 195006, 1, -160312⟩, ⟨195007, 195007, 1, -177128⟩,
    ⟨195008, 195008, 1, -160223⟩, ⟨195009, 195009, 1, -160192⟩, ⟨195010, 195010, 1, -177097⟩,
    ⟨195011, 195011, 1, -160099⟩, ⟨195012, 195012, 1, -160097⟩, ⟨195013, 195013, 1, -33630⟩,
    ⟨195014, 195014, 1, -159983⟩, ⟨195015, 195015, 1, -159977⟩, ⟨195016, 195016, 1, -177043⟩,
    ⟨195017, 195017, 1, -159951⟩, ⟨195018, 195018, 1, -181519⟩, ⟨195019, 195019, 1, -33053⟩,
    ⟨195020, 195020, 1, -32870⟩, ⟨195021, 195021, 1, -176911⟩, ⟨195022, 195022, 1, -176903⟩,
    ⟨195023, 195023, 1, -159535⟩, ⟨195024, 195024, 1, -159459⟩, ⟨195025, 195025, 1, -159303⟩,
    ⟨195026, 195026, 1, -159101⟩, ⟨195027, 195027, 1, -32043⟩, ⟨195028, 195028, 1, -159017⟩,
    ⟨195029, 195029, 1, -158996⟩, ⟨195030, 195030, 1, -158907⟩, ⟨195031, 195031, 1, -158816⟩,
    ⟨195032, 195032, 1, -31401⟩, ⟨195033, 195033, 1, -61909⟩, ⟨195034, 195034, 1, -158735⟩,
    ⟨195035, 195035, 1, -158751⟩, ⟨195036, 195036, 1, -158700⟩, ⟨195037, 195037, 1, -61695⟩,
    ⟨195038, 195038, 1, -158474⟩, ⟨195039, 195039, 1, -158375⟩, ⟨195040, 195040, 1, -29710⟩,
    ⟨195041, 195041, 1, -29684⟩, ⟨195042, 195042, 1, -158030⟩, ⟨195043, 195043, 1, -157938⟩,
    ⟨195044, 195044, 1, -157907⟩, ⟨195045, 195045, 1, -29367⟩, ⟨195046, 195046, 1, -157899⟩,
    ⟨195047, 195047, 1, -157615⟩, ⟨195048, 195049, 1, -157457⟩, ⟨195050, 195050, 1, -157550⟩,
    ⟨195051, 195051, 1, -157170⟩, ⟨195052, 195052, 1, -157143⟩, ⟨195053, 195053, 1, -28147⟩,
    ⟨195054, 195054, 1, -156771⟩, ⟨195055, 195055, 1, -176218⟩, ⟨195056, 195056, 1, -156729⟩,
    ⟨195057, 195057, 1, -27770⟩, ⟨195058, 195058, 1, -176140⟩, ⟨195059, 195059, 1, -156464⟩,
    ⟨195060, 195060, 1, -171074⟩, ⟨195061, 195061, 1, -156370⟩, ⟨195062, 195062, 1, -26801⟩,
    ⟨195063, 195063, 1, -26589⟩, ⟨195064, 195064, 1, -176010⟩, ⟨195065, 195065, 1, -176003⟩,
    ⟨195066, 195066, 1, -156186⟩, ⟨195067, 195067, 1, -26097⟩, ⟨195068, 195068, 1, -175946⟩,
    ⟨195069, 195069, 1, -25959⟩, ⟨195070, 195070, 1, -156147⟩, ⟨195071, 195071, 1, -156148⟩,
    ⟨195072, 195072, 1, -156119⟩, ⟨195073, 195073, 1, -25675⟩, ⟨195074, 195074, 1, -155936⟩,
    ⟨195075, 195075, 1, -175824⟩, ⟨195076, 195076, 1, -155867⟩, ⟨195077, 195077, 1, -155742⟩,
    ⟨195078, 195078, 1, -155716⟩, ⟨195079, 195079, 1, -155657⟩, ⟨195080, 195080, 1, -175674⟩,
    ⟨195081, 195081, 1, -24281⟩, ⟨195082, 195082, 1, -155384⟩, ⟨195083, 195083, 1, -155083⟩,
    ⟨195084, 195084, 1, -154895⟩, ⟨195085, 195085, 1, -175423⟩, ⟨195086, 195086, 1, -175393⟩,
    ⟨195087, 195087, 1, -154792⟩, ⟨195088, 195088, 1, -22850⟩, ⟨195089, 195089, 1, -175385⟩,
    ⟨195090, 195090, 1, -22797⟩, ⟨195091, 195091, 1, -22533⟩, ⟨195092, 195092, 1, -22403⟩,
    ⟨195093, 195093, 1, -154458⟩, ⟨195094, 195094, 1, -175296⟩, ⟨195095, 195095, 1, -154398⟩,
    ⟨195096, 195096, 1, -154394⟩, ⟨195097, 195097, 1, -154388⟩, ⟨195098, 195098, 1, -154379⟩,
    ⟨195099, 195099, 1, -154373⟩, ⟨195100, 195100, 1, -154337⟩, ⟨195101, 195101, 1, -21533⟩ ]

end TagCloud.Text
