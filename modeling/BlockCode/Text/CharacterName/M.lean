namespace BlockCode.Text.CharacterName

def mNames : List String :=
  ["MACRON MAGE MAGIC(WAND) MAGNET MAHAJANI(ABBREVIATION(SIGN) LETTER(A BA BHA CA CHA DA DDA",
    "DDHA DHA E GA GHA HA I JA JHA KA KHA LA MA NA NNA NYA O PA PHA RA RRA SA TA THA TTA TTHA U",
    "VA) LIGATURE(SHRI) SECTION(MARK) SIGN(NUKTA)) MAHJONG(TILE(AUTUMN BACK BAMBOO CHRYSANTHEMUM",
    "EAST(WIND) EIGHT(OF(BAMBOOS CHARACTERS CIRCLES)) FIVE(OF(BAMBOOS CHARACTERS CIRCLES))",
    "FOUR(OF(BAMBOOS CHARACTERS CIRCLES)) GREEN(DRAGON) JOKER NINE(OF(BAMBOOS CHARACTERS",
    "CIRCLES)) NORTH(WIND) ONE(OF(BAMBOOS CHARACTERS CIRCLES)) ORCHID PLUM RED(DRAGON)",
    "SEVEN(OF(BAMBOOS CHARACTERS CIRCLES)) SIX(OF(BAMBOOS CHARACTERS CIRCLES)) SOUTH(WIND) SPRING",
    "SUMMER THREE(OF(BAMBOOS CHARACTERS CIRCLES)) TWO(OF(BAMBOOS CHARACTERS CIRCLES)) WEST(WIND)",
    "WHITE(DRAGON) WINTER)) MAKASAR(ANGKA END(OF(SECTION)) LETTER(A BA CA DA GA JA KA LA MA NA",
    "NGA NYA PA RA SA TA VA YA) PASSIMBANG VOWEL(SIGN(E I O U))) MALAYALAM(AU(LENGTH(MARK))",
    "DATE(MARK) DIGIT(EIGHT FIVE FOUR NINE ONE SEVEN SIX THREE TWO ZERO) FRACTION(ONE(EIGHTH",
    "FIFTH FORTIETH HALF ONE-HUNDRED-AND-SIXTIETH QUARTER SIXTEENTH TENTH TWENTIETH)",
    "THREE(EIGHTIETHS QUARTERS SIXTEENTHS TWENTIETHS)) LETTER(A AA AI ARCHAIC(II) AU BA BHA CA",
    "CHA CHILLU(K L LL LLL M N NN RR Y) DA DDA DDHA DHA DOT(REPH) E EE GA GHA HA I II JA JHA KA",
    "KHA LA LLA LLLA MA NA NGA NNA NNNA NYA O OO PA PHA RA RRA SA SHA SSA TA THA TTA TTHA TTTA U",
    "UU VA VEDIC(ANUSVARA) VOCALIC(L LL R RR) YA) NUMBER(ONE(HUNDRED THOUSAND) TEN) SIGN(ANUSVARA",
    "AVAGRAHA CANDRABINDU CIRCULAR(VIRAMA) COMBINING(ANUSVARA(ABOVE)) PARA VERTICAL(BAR(VIRAMA))",
    "VIRAMA VISARGA) VOWEL(SIGN(AA AI AU E EE I II O OO U UU VOCALIC(L LL R RR))))",
    "MALE(AND(FEMALE(SIGN)) SIGN WITH(STROKE(AND(MALE(AND(FEMALE(SIGN)))) SIGN))) MALTESE(CROSS)",
    "MAMMOTH MAN.(AND(WOMAN(HOLDING(HANDS))) DANCING IN(BUSINESS(SUIT(LEVITATING)) TUXEDO)",
    "WITH(GUA(PI(MAO)) TURBAN)) MANAT(SIGN) MANDAIC(AFFRICATION(MARK) GEMINATION(MARK) LETTER(AB",
    "AD AG AH AIN AK AKSA AL AM AN AP AQ AR AS ASH ASZ AT ATT AZ DUSHENNA HALQA IN IT KAD",
    "USHENNA) PUNCTUATION VOCALIZATION(MARK)) MANGO MANICHAEAN(ABBREVIATION(MARK(ABOVE BELOW))",
    "LETTER(AAYIN ALEPH AYIN BETH BHETH DALETH DHAMEDH FE GHIMEL GIMEL HE HETH JAYIN JHAYIN KAPH",
    "KHAPH LAMEDH MEM NUN PE QHOPH QOPH RESH SADHE SAMEKH SHIN SSHIN TAW TETH THAMEDH WAW XAPH",
    "XOPH YODH ZAYIN ZHAYIN) NUMBER(FIVE ONE.(HUNDRED) TEN TWENTY) PUNCTUATION(DOT.(WITHIN(DOT))",
    "DOUBLE(DOT(WITHIN(DOT))) FLEURON LINE(FILLER) STAR TWO(DOTS)) SIGN(UD)) MANS(SHOE)",
    "MANTELPIECE(CLOCK) MANUAL(WHEELCHAIR) MAP(SYMBOL(FOR(LIGHTHOUSE))) MAPLE(LEAF)",
    "MARCHEN(HEAD(MARK) LETTER(-A A BA CA CHA DA DZA GA HA JA KA KHA LA MA NA NGA NYA PA PHA RA",
    "SA SHA TA THA TSA TSHA WA YA ZA ZHA) MARK(SHAD) SIGN(ANUSVARA CANDRABINDU)",
    "SUBJOINED(LETTER(A BA CA CHA DA DZA GA HA JA KA KHA LA MA NA NGA NYA PA PHA RA SA SHA TA THA",
    "TSA TSHA WA YA ZA ZHA)) VOWEL(SIGN(AA E I O U))) MARRIAGE(SYMBOL) MARTIAL(ARTS(UNIFORM))",
    "MASARAM(GONDI(DIGIT(EIGHT FIVE FOUR NINE ONE SEVEN SIX THREE TWO ZERO) LETTER(A AA AI AU BA",
    "BHA CA CHA DA DDA DDHA DHA E GA GHA HA I II JA JHA JNYA KA KHA KSSA LA LLA MA NA NGA NNA NYA",
    "O PA PHA RA SA SHA SSA TA THA TRA TTA TTHA U UU VA YA) RA-KARA REPHA SIGN(ANUSVARA CANDRA",
    "HALANTA NUKTA VISARGA) VIRAMA VOWEL(SIGN(AA AI AU E I II O U UU VOCALIC(R)))))",
    "MASCULINE(ORDINAL(INDICATOR)) MASK(WORK(SYMBOL)) MASU(MARK) MATE(DRINK)",
    "MATHEMATICAL(BOLD(CAPITAL(A ALPHA B BETA C CHI D DELTA DIGAMMA E EPSILON ETA F G GAMMA H I",
    "IOTA J K KAPPA L LAMDA M MU N NU O OMEGA OMICRON P PHI PI PSI Q R RHO S SIGMA T TAU",
    "THETA.(SYMBOL) U UPSILON V W X XI Y Z ZETA) DIGIT(EIGHT FIVE FOUR NINE ONE SEVEN SIX THREE",
    "TWO ZERO) EPSILON(SYMBOL) FRAKTUR(CAPITAL(A B C D E F G H I J K L M N O P Q R S T U V W X Y",
    "Z) SMALL(A B C D E F G H I J K L M N O P Q R S T U V W X Y Z)) ITALIC(CAPITAL(A ALPHA B BETA",
    "C CHI D DELTA E EPSILON ETA F G GAMMA H I IOTA J K KAPPA L LAMDA M MU N NU O OMEGA OMICRON P",
    "PHI PI PSI Q R RHO S SIGMA T TAU THETA.(SYMBOL) U UPSILON V W X XI Y Z ZETA) EPSILON(SYMBOL)",
    "KAPPA(SYMBOL) NABLA PARTIAL(DIFFERENTIAL) PHI(SYMBOL) PI(SYMBOL) RHO(SYMBOL) SMALL(A ALPHA B",
    "BETA C CHI D DELTA E EPSILON ETA F FINAL(SIGMA) G GAMMA H I IOTA J K KAPPA L LAMDA M MU N NU",
    "O OMEGA OMICRON P PHI PI PSI Q R RHO S SIGMA T TAU THETA U UPSILON V W X XI Y Z ZETA)",
    "THETA(SYMBOL)) KAPPA(SYMBOL) NABLA PARTIAL(DIFFERENTIAL) PHI(SYMBOL) PI(SYMBOL) RHO(SYMBOL)",
    "SCRIPT(CAPITAL(A B C D E F G H I J K L M N O P Q R S T U V W X Y Z) SMALL(A B C D E F G H I",
    "J K L M N O P Q R S T U V W X Y Z)) SMALL(A ALPHA B BETA C CHI D DELTA DIGAMMA E EPSILON ETA",
    "F FINAL(SIGMA) G GAMMA H I IOTA J K KAPPA L LAMDA M MU N NU O OMEGA OMICRON P PHI PI PSI Q R",
    "RHO S SIGMA T TAU THETA U UPSILON V W X XI Y Z ZETA) THETA(SYMBOL)) DOUBLE-STRUCK(CAPITAL(A",
    "B D E F G I J K L M O S T U V W X Y) DIGIT(EIGHT FIVE FOUR NINE ONE SEVEN SIX THREE TWO",
    "ZERO) SMALL(A B C D E F G H I J K L M N O P Q R S T U V W X Y Z)) FALLING(DIAGONAL)",
    "FRAKTUR(CAPITAL(A B D E F G J K L M N O P Q S T U V W X Y) SMALL(A B C D E F G H I J K L M N",
    "O P Q R S T U V W X Y Z)) ITALIC(CAPITAL(A ALPHA B BETA C CHI D DELTA E EPSILON ETA F G",
    "GAMMA H I IOTA J K KAPPA L LAMDA M MU N NU O OMEGA OMICRON P PHI PI PSI Q R RHO S SIGMA T",
    "TAU THETA.(SYMBOL) U UPSILON V W X XI Y Z ZETA) EPSILON(SYMBOL) KAPPA(SYMBOL) NABLA",
    "PARTIAL(DIFFERENTIAL) PHI(SYMBOL) PI(SYMBOL) RHO(SYMBOL) SMALL(A ALPHA B BETA C CHI D DELTA",
    "DOTLESS(I J) E EPSILON ETA F FINAL(SIGMA) G GAMMA I IOTA J K KAPPA L LAMDA M MU N NU O OMEGA",
    "OMICRON P PHI PI PSI Q R RHO S SIGMA T TAU THETA U UPSILON V W X XI Y Z ZETA) THETA(SYMBOL))",
    "LEFT(ANGLE(BRACKET) DOUBLE(ANGLE(BRACKET)) FLATTENED(PARENTHESIS) WHITE(SQUARE(BRACKET)",
    "TORTOISE(SHELL(BRACKET)))) MONOSPACE(CAPITAL(A B C D E F G H I J K L M N O P Q R S T U V W X",
    "Y Z) DIGIT(EIGHT FIVE FOUR NINE ONE SEVEN SIX THREE TWO ZERO) SMALL(A B C D E F G H I J K L",
    "M N O P Q R S T U V W X Y Z)) RIGHT(ANGLE(BRACKET) DOUBLE(ANGLE(BRACKET))",
    "FLATTENED(PARENTHESIS) WHITE(SQUARE(BRACKET) TORTOISE(SHELL(BRACKET)))) RISING(DIAGONAL)",
    "SANS-SERIF(BOLD(CAPITAL(A ALPHA B BETA C CHI D DELTA E EPSILON ETA F G GAMMA H I IOTA J K",
    "KAPPA L LAMDA M MU N NU O OMEGA OMICRON P PHI PI PSI Q R RHO S SIGMA T TAU THETA.(SYMBOL) U",
    "UPSILON V W X XI Y Z ZETA) DIGIT(EIGHT FIVE FOUR NINE ONE SEVEN SIX THREE TWO ZERO)",
    "EPSILON(SYMBOL) ITALIC(CAPITAL(A ALPHA B BETA C CHI D DELTA E EPSILON ETA F G GAMMA H I IOTA",
    "J K KAPPA L LAMDA M MU N NU O OMEGA OMICRON P PHI PI PSI Q R RHO S SIGMA T TAU",
    "THETA.(SYMBOL) U UPSILON V W X XI Y Z ZETA) EPSILON(SYMBOL) KAPPA(SYMBOL) NABLA",
    "PARTIAL(DIFFERENTIAL) PHI(SYMBOL) PI(SYMBOL) RHO(SYMBOL) SMALL(A ALPHA B BETA C CHI D DELTA",
    "E EPSILON ETA F FINAL(SIGMA) G GAMMA H I IOTA J K KAPPA L LAMDA M MU N NU O OMEGA OMICRON P",
    "PHI PI PSI Q R RHO S SIGMA T TAU THETA U UPSILON V W X XI Y Z ZETA) THETA(SYMBOL))",
    "KAPPA(SYMBOL) NABLA PARTIAL(DIFFERENTIAL) PHI(SYMBOL) PI(SYMBOL) RHO(SYMBOL) SMALL(A ALPHA B",
    "BETA C CHI D DELTA E EPSILON ETA F FINAL(SIGMA) G GAMMA H I IOTA J K KAPPA L LAMDA M MU N NU",
    "O OMEGA OMICRON P PHI PI PSI Q R RHO S SIGMA T TAU THETA U UPSILON V W X XI Y Z ZETA)",
    "THETA(SYMBOL)) CAPITAL(A B C D E F G H I J K L M N O P Q R S T U V W X Y Z) DIGIT(EIGHT FIVE",
    "FOUR NINE ONE SEVEN SIX THREE TWO ZERO) ITALIC(CAPITAL(A B C D E F G H I J K L M N O P Q R S",
    "T U V W X Y Z) SMALL(A B C D E F G H I J K L M N O P Q R S T U V W X Y Z)) SMALL(A B C D E F",
    "G H I J K L M N O P Q R S T U V W X Y Z)) SCRIPT(CAPITAL(A C D G J K N O P Q S T U V W X Y",
    "Z) SMALL(A B C D F H I J K L M N P Q R S T U V W X Y Z))) MAXIMIZE MAYAN(NUMERAL(EIGHT",
    "EIGHTEEN ELEVEN FIFTEEN FIVE FOUR FOURTEEN NINE NINETEEN ONE SEVEN SEVENTEEN SIX SIXTEEN TEN",
    "THIRTEEN THREE TWELVE TWO ZERO)) MEASURED(ANGLE.(OPENING(LEFT)",
    "WITH(OPEN(ARM(ENDING(IN(ARROW(POINTING(DOWN(AND(LEFT RIGHT)) LEFT(AND(DOWN UP))",
    "RIGHT(AND(DOWN UP)) UP(AND(LEFT RIGHT)))))))))) BY RIGHT(ANGLE(WITH(DOT)))) MEAT(ON(BONE))",
    "MECHANICAL(ARM LEG) MEDEFAIDRIN(CAPITAL(LETTER(A AI ATIU B C D E F G H HP I J K KP L M N NG",
    "NY O OE P Q R S T U V W X Y YU Z)) COMMA DIGIT(EIGHT FIVE FOUR NINE ONE.(ALTERNATE(FORM))",
    "SEVEN SIX THREE.(ALTERNATE(FORM)) TWO.(ALTERNATE(FORM)) ZERO) EXCLAMATION(OH) FULL(STOP)",
    "NUMBER(EIGHTEEN ELEVEN FIFTEEN FOURTEEN NINETEEN SEVENTEEN SIXTEEN TEN THIRTEEN TWELVE)",
    "SMALL(LETTER(A AI ATIU B C D E F G H HP I J K KP L M N NG NY O OE P Q R S T U V W X Y YU Z))",
    "SYMBOL(AIVA)) MEDIEVAL(COMMA EXCLAMATION(MARK) QUESTION(MARK)) MEDIUM(BLACK(CIRCLE)",
    "BOLD(WHITE(CIRCLE)) EIGHT(POINTED(BLACK(STAR)) SPOKED(ASTERISK)) FIVE(SPOKED(ASTERISK))",
    "FLATTENED(LEFT(PARENTHESIS(ORNAMENT)) RIGHT(PARENTHESIS(ORNAMENT))) FOUR(POINTED(BLACK(STAR)",
    "PINWHEEL(STAR))) GREEK(CROSS) LEFT(CURLY(BRACKET(ORNAMENT)) PARENTHESIS(ORNAMENT))",
    "LEFT-POINTING(ANGLE(BRACKET(ORNAMENT))) MATHEMATICAL(SPACE) RIGHT(CURLY(BRACKET(ORNAMENT))",
    "PARENTHESIS(ORNAMENT)) RIGHT-POINTING(ANGLE(BRACKET(ORNAMENT))) SALTIRE SHADE",
    "SIX(POINTED(BLACK(STAR)) SPOKED(ASTERISK)) SMALL(WHITE(CIRCLE)) THREE(POINTED(BLACK(STAR)",
    "PINWHEEL(STAR))) VERTICAL(BAR) WHITE(CIRCLE SQUARE)) MEETEI(MAYEK(AHANG(KHUDAM) ANJI",
    "APUN(IYEK) CHEIKHAN CHEIKHEI DIGIT(EIGHT FIVE FOUR NINE ONE SEVEN SIX THREE TWO ZERO)",
    "LETTER(ATIYA BA BHAM CHA CHIL DDA DDHA DHOU DIL E GHOU GOK HUK I.(LONSUM) JHAM JIL KHOU",
    "KOK.(LONSUM) LAI.(LONSUM) MIT.(LONSUM) NA.(LONSUM) NGOU.(LONSUM) NNA NYA O PA.(LONSUM) PHAM",
    "RAI SAM SHA SSA THOU TIL.(LONSUM) TTA TTHA UN WAI YANG) LUM(IYEK) SYLLABLE(REPETITION(MARK))",
    "VIRAMA VOWEL(SIGN(AAI AAU ANAP AU CHEINAP II INAP NUNG ONAP SOUNAP UNAP UU VISARGA YENAP))",
    "WORD(REPETITION(MARK)))) MELON MELTING(FACE) MEMO",
    "MENDE(KIKAKUI(COMBINING(NUMBER(HUNDRED(THOUSANDS) HUNDREDS MILLIONS TEENS TEN(THOUSANDS)",
    "TENS THOUSANDS)) DIGIT(EIGHT FIVE FOUR NINE ONE SEVEN SIX THREE TWO) SYLLABLE(M001(KI)",
    "M002(KA) M003(KU) M004(WI) M005(WA) M006(WU) M007(MIN) M008(MAN) M009(MUN) M010(BI) M011(BA)",
    "M012(BU) M013(I) M014(A) M015(U) M016(DI) M017(DA) M018(DU) M019(SI) M020(SA) M021(SU)",
    "M022(TI) M023(TA) M024(TU) M025(LI) M026(LA) M027(LU) M028(JI) M029(JA) M030(JU) M031(YI)",
    "M032(YA) M033(YU) M034(FI) M035(FA) M036(FU) M037(NIN) M038(NAN) M039(NUN) M040(HEE)",
    "M041(HA) M042(HOO) M043(NGGA) M044(KPEE) M045(WO) M046(HUAN) M047(MBEE) M048(KO) M049(WVA)",
    "M050(PU) M051(PE) M052(HEN) M053(HIN) M054(LOO) M055(TE) M056(GBA) M057(NGON) M058(NYAN)",
    "M059(MEN) M060(NYON) M061(WVI) M062(MBA) M063(JO) M064(NDO) M065(KEE) M066(PO) M067(NDOO)",
    "M068(PI) M069(TO) M070(GBO) M071(GBOO) M072(MBE) M073(LE) M074(KPU) M075(FE) M076(KOO)",
    "M077(VO) M078(FEE) M079(SO) M080(YE) M081(PEE) M082(NGGU) M083(HEEI) M084(LEE) M085(VE)",
    "M086(LONG(NGGE)) M087(HUN) M088(FO) M089(DEE) M090(NGGI) M091(TEE) M092(KPA) M093(GBEE)",
    "M094(MON) M095(KE) M096(HE) M097(BE) M098(NYEN) M099(PA) M100(E) M101(FAN) M102(POO)",
    "M103(BOO) M104(TOO) M105(LONG(MBOO)) M106(LONG(NGGOO)) M107(GBE) M108(KPE) M109(YEE)",
    "M110(LONG(LE)) M111(GA) M112(KPOO) M113(JE) M114(WOO) M115(NGGEE) M116(SE) M117(NEN)",
    "M118(WE) M119(NDE) M120(NGGO) M121(YO) M122(MBU) M123(NDI) M124(GBI) M125(NDU) M126(WEE)",
    "M127(NGGUA) M128(HOOU) M129(NDA) M130(HAN) M131(IN) M132(KPI) M133(FOO) M134(NJOO) M135(IN)",
    "M136(SOO) M137(EI) M138(BO) M139(WVE) M140(HO) M141(YOO) M142(LONG(MBO)) M143(WEI) M144(VOO)",
    "M145(MBI) M146(NGGE) M147(O) M148(GBU) M149(NJEE) M150(BEE) M151(VU) M152(NJA) M153(LO)",
    "M154(MUAN) M155(GI) M156(NGGOO) M157(JEE) M158(KPO) M159(NGGAA) M160(JOO) M161(LONG(MBE))",
    "M162(SEE) M163(EE) M164(NYIN) M165(OO) M166(GUEI) M167(GUAN) M168(GU) M169(NON) M170(NYUN)",
    "M171(RA) M172(MBOO) M173(VEE) M174(MBO) M175(LONG(JO)) M176(HI) M177(NGUAN) M178(EN)",
    "M179(KUA) M180(DOO) M181(DO) M182(VI) M183(LONG(NGGO)) M184(NGEN) M185(VA) M186(HU)",
    "M187(MBUU) M188(MBEE) M189(MUEN) M190(GEE) M191(NDEE) M192(NJU) M193(HON) M194(WUI) M195(AN)",
    "M196(SIA) M197(FUA)))) MENORAH(WITH(NINE(BRANCHES))) MENS(SYMBOL) MERCURY",
    "MEROITIC(CURSIVE(FRACTION(EIGHT(TWELFTHS) ELEVEN(TWELFTHS) FIVE(TWELFTHS) FOUR(TWELFTHS)",
    "NINE(TWELFTHS) ONE(HALF TWELFTH) SEVEN(TWELFTHS) SIX(TWELFTHS) TEN(TWELFTHS) THREE(TWELFTHS)",
    "TWO(TWELFTHS)) LETTER(A ARCHAIC(SA) BA DA E HHA I KA KHA LA MA NA NE O PA QA RA SA SE TA TE",
    "TO WA YA) LOGOGRAM(IMN RMT) NUMBER(EIGHT.(HUNDRED.(THOUSAND) THOUSAND) EIGHTY(THOUSAND)",
    "FIFTY.(THOUSAND) FIVE.(HUNDRED.(THOUSAND) THOUSAND) FORTY.(THOUSAND)",
    "FOUR.(HUNDRED.(THOUSAND) THOUSAND) NINE.(HUNDRED.(THOUSAND) THOUSAND) NINETY(THOUSAND)",
    "ONE.(HUNDRED.(THOUSAND) THOUSAND) SEVEN.(HUNDRED.(THOUSAND) THOUSAND) SEVENTY.(THOUSAND)",
    "SIX.(HUNDRED.(THOUSAND) THOUSAND) SIXTY.(THOUSAND) TEN.(THOUSAND) THIRTY.(THOUSAND)",
    "THREE.(HUNDRED.(THOUSAND) THOUSAND) TWENTY.(THOUSAND) TWO.(HUNDRED.(THOUSAND) THOUSAND)))",
    "HIEROGLYPHIC(LETTER(A BA BA-2 DA E HHA I KA KHA LA MA NA NA-2 NE NE-2 O PA QA RA RA-2 SA",
    "SA-2 SE TA TA-2 TE TE-2 TO WA YA) SYMBOL(VIDJ VIDJ-2))) MERPERSON MESSAGE(WAITING)",
    "METRICAL(BREVE LONG(OVER(SHORT TWO(SHORTS))) PENTASEME SHORT(OVER(LONG)) TETRASEME TRISEME",
    "TWO(SHORTS(JOINED OVER(LONG)))) METRO MIAO(LETTER(AH ARCHAIC(MA NA NGA ZZA) BA BRI DA DDA",
    "DLHA DLHYA DZA DZHA DZYI DZZA FA GA GHA GHHA HA HHA KA LA LHA LHYA LYA MA MHA NA",
    "NASALIZATION NGA NGHA NHA NNA NNHA NYA NYHA PA PLA QA QGA REFORMED(TONE-1 TONE-2 TONE-4",
    "TONE-5 TONE-6 TONE-8 TSHA) RTE SA SHA SSA SYI TA TE TLHA TLHYA TONE-2 TONE-3 TONE-4 TONE-5",
    "TONE-6 TONE-7 TONE-8 TSA TSE TSHA TSSA TTA VA VFA WA XA YI(DZHA KA NNA PA TA TSA TSHA TTA)",
    "ZA ZHA ZSA ZSHA ZZA ZZSA ZZSYA ZZYA) SIGN(ASPIRATION CONSONANT(MODIFIER(BAR))",
    "REFORMED(ASPIRATION VOICING)) TONE(ABOVE BELOW RIGHT TOP(RIGHT)) VOWEL(SIGN(A AA AE AEE AHH",
    "AI AN ANG AU E EA EI EN ENG ER ERR I IA IAN IANG IE IG II ING IO IONG IU N NG O OER OEY OG",
    "OO OU ROUNDED(ER ERR) U UA UAN UANG UEI UI UNG UOG UU VW W WO Y YI YUI))) MICR(DASH(SYMBOL)",
    "ON(US(SYMBOL))) MICRO(SIGN) MICROBE MICROPHONE MICROSCOPE MIDDLE(DOT",
    "THIRD(WHITE(RIGHT(POINTING(INDEX))))) MIDLINE(HORIZONTAL(ELLIPSIS)) MILITARY(HELMET MEDAL)",
    "MILKY(WAY) MILL(SIGN) MINIBUS MINIDISC MINIMIZE MINUS(SIGN.(IN(TRIANGLE) WITH(COMMA(ABOVE)",
    "DOT(BELOW) FALLING(DOTS) RISING(DOTS))) TILDE) MINUS-OR-PLUS(SIGN) MINY MIRROR.(BALL) MMSP",
    "MOBILE(PHONE.(OFF WITH(RIGHTWARDS(ARROW(AT(LEFT)))))) MODELS MODERN(PENTATHLON)",
    "MODI(ABBREVIATION(SIGN) DANDA DIGIT(EIGHT FIVE FOUR NINE ONE SEVEN SIX THREE TWO ZERO)",
    "DOUBLE(DANDA) LETTER(A AA AI AU BA BHA CA CHA DA DDA DDHA DHA E GA GHA HA I II JA JHA KA KHA",
    "LA LLA MA NA NGA NNA NYA O PA PHA RA SA SHA SSA TA THA TTA TTHA U UU VA VOCALIC(L LL R RR)",
    "YA) SIGN(ANUSVARA ARDHACANDRA HUVA VIRAMA VISARGA) VOWEL(SIGN(AA AI AU E I II O U UU",
    "VOCALIC(L LL R RR)))) MODIFIER(BREVE(WITH(INVERTED(BREVE))) LETTER(ACUTE(ACCENT)",
    "ALVEOLAR(CLICK) APOSTROPHE BEGIN(HIGH(TONE) LOW(TONE)) BILABIAL(CLICK) CAPITAL(A AE B",
    "BARRED(B) C D E F G H.(WITH(STROKE)) I J K L M N O OU P Q R REVERSED(E N) T U V W)",
    "CENTRED(LEFT(HALF(RING)) RIGHT(HALF(RING))) CHINESE(TONE(YANG(PING QU RU SHANG) YIN(PING QU",
    "RU SHANG))) CIRCUMFLEX(ACCENT) COLON CROSS(ACCENT) CYRILLIC(EN HARD(SIGN) SOFT(SIGN))",
    "DENTAL(CLICK) DOT(HORIZONTAL(BAR) SLASH VERTICAL(BAR)) DOUBLE(APOSTROPHE PRIME)",
    "DOWN(ARROWHEAD TACK) END(HIGH(TONE) LOW(TONE)) EXTRA-HIGH(DOTTED(LEFT-STEM(TONE(BAR))",
    "TONE(BAR)) LEFT-STEM(TONE(BAR)) TONE(BAR)) EXTRA-LOW(DOTTED(LEFT-STEM(TONE(BAR)) TONE(BAR))",
    "LEFT-STEM(TONE(BAR)) TONE(BAR)) GEORGIAN(NAR) GLOTTAL(STOP.(WITH(STROKE))) GRAVE(ACCENT)",
    "HALF(TRIANGULAR(COLON)) HIGH(DOTTED(LEFT-STEM(TONE(BAR)) TONE(BAR)) LEFT-STEM(TONE(BAR))",
    "TONE(BAR)) LATERAL(CLICK) LEFT(ARROWHEAD HALF(RING) TACK) LOW(ACUTE(ACCENT)",
    "CIRCUMFLEX(ACCENT) DOTTED(LEFT-STEM(TONE(BAR)) TONE(BAR)) DOWN(ARROWHEAD) GRAVE(ACCENT)",
    "INVERTED(EXCLAMATION(MARK)) LEFT(ARROW ARROWHEAD) LEFT-STEM(TONE(BAR)) MACRON",
    "RIGHT(ARROWHEAD) RING TILDE TONE(BAR) UP(ARROWHEAD) VERTICAL(LINE))",
    "LOWER(RIGHT(CORNER(ANGLE))) MACRON MID(DOTTED(LEFT-STEM(TONE(BAR)) TONE(BAR))",
    "LEFT-STEM(TONE(BAR)) TONE(BAR)) MIDDLE(DOUBLE(ACUTE(ACCENT) GRAVE(ACCENT)) GRAVE(ACCENT))",
    "MINUS(SIGN) OPEN(SHELF) PLUS(SIGN) PRIME RAISED(COLON DOWN(ARROW) EXCLAMATION(MARK)",
    "INVERTED(EXCLAMATION(MARK)) UP(ARROW)) RETROFLEX(CLICK(WITH(RETROFLEX(HOOK))))",
    "REVERSED(COMMA GLOTTAL(STOP.(WITH(STROKE)))) RHOTIC(HOOK) RIGHT(ARROWHEAD HALF(RING) TACK)",
    "SHELF SHORT(EQUALS(SIGN)) SMALL(A AE AIN ALPHA B.(WITH(HOOK)) BARRED(O) BETA BOTTOM(HALF(O))",
    "C.(WITH(CURL)) CAPITAL(AA B G.(WITH(HOOK)) H I.(WITH(STROKE)) INVERTED(R) L.(WITH(BELT)) N",
    "OE R U Y) CHI CLOSED(OMEGA REVERSED(OPEN(E))) D.(WITH(HOOK.(AND(TAIL)) TAIL)) DELTA",
    "DEZH(DIGRAPH) DOTLESS(J(WITH(STROKE.(AND(HOOK))))) DZ(DIGRAPH.(WITH(CURL RETROFLEX(HOOK))))",
    "E ENG ESH ETH EZH F FENG(DIGRAPH) G.(WITH(HOOK)) GAMMA GREEK(GAMMA PHI) H.(WITH(HOOK",
    "STROKE)) HENG.(WITH(HOOK)) I(WITH(STROKE)) IOTA J.(WITH(CROSSED-TAIL)) K L.(WITH(BELT",
    "INVERTED(LAZY(S)) MIDDLE(TILDE) PALATAL(HOOK) RETROFLEX(HOOK.(AND(BELT)))))",
    "LEZH.(WITH(RETROFLEX(HOOK))) LIGATURE(OE) LS(DIGRAPH) LZ(DIGRAPH) M.(WITH(HOOK))",
    "N(WITH(LEFT(HOOK) RETROFLEX(HOOK))) O.(WITH(STROKE)) OPEN(E O) P PHI Q R.(WITH(FISHHOOK",
    "TAIL)) RAMS(HORN) REVERSED(E GLOTTAL(STOP) OPEN(E)) S.(WITH(CURL HOOK)) SCHWA SCRIPT(G)",
    "SIDEWAYS(U) T.(WITH(PALATAL(HOOK) RETROFLEX(HOOK))) TC(DIGRAPH(WITH(CURL))) TESH(DIGRAPH)",
    "THETA TOP(HALF(O)) TS(DIGRAPH.(WITH(RETROFLEX(HOOK)))) TURNED(A AE ALPHA H I",
    "M.(WITH(LONG(LEG))) OPEN(E) R.(WITH(HOOK LONG(LEG.(AND(RETROFLEX(HOOK)))))) V W",
    "Y.(WITH(BELT))) U.(BAR WITH(LEFT(HOOK))) UPSILON V.(WITH(HOOK RIGHT(HOOK))) W X Y",
    "Z.(WITH(CURL RETROFLEX(HOOK)))) STRESS(AND(HIGH(TONE) LOW(TONE)))",
    "SUPERSCRIPT(HALF(TRIANGULAR(COLON)) TRIANGULAR(COLON)) TRIANGULAR(COLON) TURNED(COMMA)",
    "UNASPIRATED UP(ARROWHEAD TACK) US VERTICAL(LINE) VOICING YANG(DEPARTING(TONE(MARK)))",
    "YIN(DEPARTING(TONE(MARK))))) MODULO(TWO(SUM)) MONEY(BAG WITH(WINGS)) MONEY-MOUTH(FACE)",
    "MONGOLIAN(BIRGA.(WITH(DOUBLE(ORNAMENT) ORNAMENT)) COLON COMMA DIGIT(EIGHT FIVE FOUR NINE ONE",
    "SEVEN SIX THREE TWO ZERO) DOUBLE(BIRGA(WITH(ORNAMENT))) ELLIPSIS FOUR(DOTS)",
    "FREE(VARIATION(SELECTOR(FOUR ONE THREE TWO))) FULL(STOP)",
    "INVERTED(BIRGA.(WITH(DOUBLE(ORNAMENT)))) LETTER(A ALI(GALI(A AH ANUSVARA(ONE) BALUDA CA DA",
    "DAGALGA DAMARU DDA HALF(U YA) I INVERTED(UBADAMA) KA NGA NNA PA PHA SSA TA THREE(BALUDA) TTA",
    "TTHA UBADAMA VISARGA(ONE) ZA ZHA)) ANG BA CHA.(WITH(TWO(DOTS))) CHI DA E EE FA GA HAA I JA",
    "KA KHA LA LHA MA MANCHU(ALI(GALI(BHA CA CYA DDHA DHA GHA JHA LHA NGA SSA TA TTA ZA ZHA)) FA",
    "I KA RA ZHA) NA O OE PA QA RA SA SHA SIBE(ANG CHA DA E FA GA GAA HA HAA I IY JA KA PA RAA",
    "SHA TA TSA U UE ZA ZHA) TA TODO(ALI(GALI(TA ZHA)) ANG BA CHA DA DZA E GA GAA HAA I JA JIA KA",
    "LONG(VOWEL(SIGN)) MA NIA O OE PA QA TA TSA U UE WA YA) TSA U UE WA YA ZA ZHI ZRA)",
    "MANCHU(COMMA FULL(STOP)) NIRUGU ROTATED(BIRGA.(WITH(DOUBLE(ORNAMENT) ORNAMENT)))",
    "SIBE(SYLLABLE(BOUNDARY(MARKER))) SWIRL(BIRGA.(WITH(DOUBLE(ORNAMENT) ORNAMENT)))",
    "TODO(SOFT(HYPHEN)) TRIPLE(BIRGA(WITH(ORNAMENT)))",
    "TURNED(SWIRL(BIRGA(WITH(DOUBLE(ORNAMENT))))) VOWEL(SEPARATOR)) MONKEY.(FACE)",
    "MONOGRAM(FOR(EARTH YANG YIN)) MONORAIL MONOSTABLE(SYMBOL) MOOD(BUBBLE) MOON(CAKE",
    "VIEWING(CEREMONY)) MOSQUE MOSQUITO MOTHER(CHRISTMAS) MOTOR(BOAT SCOOTER)",
    "MOTORIZED(WHEELCHAIR) MOTORWAY MOUNT(FUJI) MOUNTAIN.(BICYCLIST CABLEWAY RAILWAY) MOUSE.(FACE",
    "TRAP) MOUTH MOVIE(CAMERA) MOYAI MRO(DANDA DIGIT(EIGHT FIVE FOUR NINE ONE SEVEN SIX THREE TWO",
    "ZERO) DOUBLE(DANDA) LETTER(A BA CHU DA DAI E EA HAI HAO KEAAE KHAI KO LA LAN MAEM MIM NGI",
    "NIN O OL OO PA PHI RI RO SHI TA TEK THEA WA YO)) MUCH(GREATER-THAN LESS-THAN)",
    "MULTANI(LETTER(A BA BHA CA CHA DA DDA DDDA DDHA DHA E GA GHA HA I JA JJA KA KHA LA MA NA NNA",
    "NYA PA PHA RA RHA RRA SA TA THA TTA TTHA U VA YA) SECTION(MARK)) MULTIMAP",
    "MULTIPLE(MUSICAL(NOTES)) MULTIPLICATION(SIGN.(IN(DOUBLE(CIRCLE) LEFT(HALF(CIRCLE))",
    "RIGHT(HALF(CIRCLE)) TRIANGLE) WITH(DOT(ABOVE) UNDERBAR)) X) MULTISET.(MULTIPLICATION UNION)",
    "MUSHROOM MUSIC(FLAT(SIGN) NATURAL(SIGN) SHARP(SIGN)) MUSICAL(KEYBOARD.(WITH(JACKS)) NOTE",
    "SCORE SYMBOL(ARPEGGIATO(DOWN UP) BEGIN(BEAM PHRASE SLUR TIE) BRACE BRACKET BREATH(MARK)",
    "BREVE BREVIS.(REST) C(CLEF) CAESURA CIRCLE(X(NOTEHEAD)) CLIMACUS CLIVIS",
    "CLUSTER(NOTEHEAD(BLACK WHITE)) CODA COMBINING(ACCENT ACCENT-STACCATO AUGMENTATION(DOT) BEND",
    "DOIT DOUBLE(TONGUE) DOWN(BOW) FLAG-1 FLAG-2 FLAG-3 FLAG-4 FLAG-5 FLIP HARMONIC LOURE MARCATO",
    "MARCATO-STACCATO RIP SMEAR SNAP(PIZZICATO) SPRECHGESANG(STEM) STACCATISSIMO STACCATO STEM",
    "TENUTO TREMOLO-1 TREMOLO-2 TREMOLO-3 TRIPLE(TONGUE) UP(BOW)) COMMON(TIME) CRESCENDO CROIX",
    "CUT(TIME) DA(CAPO) DAL(SEGNO) DAMP.(ALL) DASHED(BARLINE) DECRESCENDO DEGREE(SLASH)",
    "DOUBLE(BARLINE FLAT SHARP) DRUM(CLEF-1 CLEF-2) EIGHTH(NOTE REST) END(BEAM OF(STIMME) PHRASE",
    "SLUR TIE) F(CLEF.(OTTAVA(ALTA BASSA))) FERMATA.(BELOW) FINAL(BARLINE) FINGERED(TREMOLO-1",
    "TREMOLO-2 TREMOLO-3) FIVE-LINE(STAFF) FLAT(DOWN UP) FORTE FOUR-LINE(STAFF)",
    "FOUR-STRING(FRETBOARD) FUSA(BLACK WHITE) G(CLEF.(OTTAVA(ALTA BASSA))) GLISSANDO(DOWN UP)",
    "GRACE(NOTE(NO(SLASH) SLASH)) GREGORIAN(C(CLEF) F(CLEF)) HALF(NOTE PEDAL(MARK) REST)",
    "HAUPTSTIMME INVERTED(TURN) KIEVAN(C(CLEF) EIGHTH(NOTE(STEM(DOWN UP))) END(OF(PIECE))",
    "FINAL(NOTE) FLAT(SIGN) HALF(NOTE) QUARTER(NOTE(STEM(DOWN UP))) RECITATIVE(MARK) WHOLE(NOTE))",
    "KORON LEFT(REPEAT(SIGN)) LONGA.(IMPERFECTA(REST) PERFECTA(REST)) MAXIMA MEZZO MINIMA.(BLACK",
    "REST) MOON(NOTEHEAD(BLACK WHITE)) MULTI(REST) MULTIPLE(MEASURE(REST)) NATURAL(DOWN UP)",
    "NEBENSTIMME NOTEHEAD(BLACK) NULL(NOTEHEAD) ONE(HUNDRED(TWENTY-EIGHTH(NOTE REST)))",
    "ONE-LINE(STAFF) ORNAMENT(STROKE-1 STROKE-10 STROKE-11 STROKE-2 STROKE-3 STROKE-4 STROKE-5",
    "STROKE-6 STROKE-7 STROKE-8 STROKE-9) OTTAVA(ALTA BASSA) PARENTHESIS(NOTEHEAD) PEDAL(MARK",
    "UP(MARK)) PES(SUBPUNCTIS) PIANO PLUS(NOTEHEAD) PODATUS PORRECTUS.(FLEXUS) QUARTER(NOTE REST",
    "TONE(FLAT SHARP)) QUINDICESIMA(ALTA BASSA) REPEAT(DOTS) REPEATED(FIGURE-1 FIGURE-2 FIGURE-3)",
    "REVERSE(FINAL(BARLINE)) RIGHT(REPEAT(SIGN)) RINFORZANDO SCANDICUS.(FLEXUS) SEGNO",
    "SEMIBREVIS(BLACK REST WHITE) SEMIMINIMA(BLACK REST WHITE) SHARP(DOWN UP) SHORT(BARLINE)",
    "SINGLE(BARLINE) SIX-LINE(STAFF) SIX-STRING(FRETBOARD) SIXTEENTH(NOTE REST) SIXTY-FOURTH(NOTE",
    "REST) SORI SQUARE(B NOTEHEAD(BLACK WHITE)) SUBITO",
    "TEMPUS(IMPERFECTUM(CUM(PROLATIONE(IMPERFECTA.(DIMINUTION-1 DIMINUTION-2 DIMINUTION-3)",
    "PERFECTA))) PERFECTUM(CUM(PROLATIONE(IMPERFECTA PERFECTA.(DIMINUTION-1)))))",
    "THIRTY-SECOND(NOTE REST) THREE-LINE(STAFF) TORCULUS.(RESUPINUS) TR",
    "TRIANGLE(NOTEHEAD(DOWN(BLACK WHITE) LEFT(BLACK WHITE) RIGHT(BLACK WHITE) UP(BLACK",
    "RIGHT(BLACK WHITE) WHITE))) TRIANGLE-ROUND(NOTEHEAD(DOWN(BLACK WHITE))) TURN.(SLASH UP)",
    "TWO-LINE(STAFF) VIRGA VOID(NOTEHEAD) WHOLE(NOTE REST) WITH(FINGERNAILS) X(NOTEHEAD) Z)) MVS",
    "MW MYANMAR(CONSONANT(SIGN(MEDIAL(HA RA WA YA) MON(MEDIAL(LA MA NA)) SHAN(MEDIAL(WA))))",
    "DIGIT(EIGHT FIVE FOUR NINE ONE SEVEN SIX THREE TWO ZERO) LETTER(A AITON(RA) AU BA BHA CA CHA",
    "DA DDA DDHA DHA E EASTERN(PWO(KAREN(GHWA NNA YWA))) GA GHA GREAT(SA) HA I II JA JHA KA KHA",
    "KHAMTI(CA CHA DDA DDHA DHA FA GA HA HHA JA JHA LLA NA NYA RA SA TTA TTHA XA ZA) LA LLA MA",
    "MON(BBA BBE E JHA NGA) NA NGA NNA NNYA NYA O PA PHA RA RUMAI(PALAUNG(FA)) SA",
    "SGAW(KAREN(SHA)) SHA SHAN(A BA BHA CA CHA DA FA GA GHA HA JHA KA KHA NA NNA NYA PHA THA ZA)",
    "SHWE(PALAUNG(CHA SHA)) SSA TA TAI(LAING(BA BHA DA DDA DDHA DHA FA GA GHA JA JHA LLA NNA",
    "NYA)) THA TTA TTHA U UU VOCALIC(L LL R RR) WA WESTERN(PWO(KAREN(PWA THA))) YA)",
    "LOGOGRAM(KHAMTI(HM OAY QN)) MODIFIER(LETTER(KHAMTI(REDUPLICATION) SHAN(REDUPLICATION)))",
    "SHAN(DIGIT(EIGHT FIVE FOUR NINE ONE SEVEN SIX THREE TWO ZERO)) SIGN(ANUSVARA ASAT DOT(BELOW)",
    "KHAMTI(TONE-1 TONE-3) LITTLE(SECTION) PAO(KAREN(TONE)) RUMAI(PALAUNG(TONE-5)) SECTION",
    "SHAN(COUNCIL(EMPHATIC(TONE) TONE-2 TONE-3) SAW TONE-2 TONE-3 TONE-5 TONE-6) TAI(LAING(TONE-2",
    "TONE-5)) VIRAMA VISARGA WESTERN(PWO(KAREN(TONE-1 TONE-2 TONE-3 TONE-4 TONE-5))))",
    "SYMBOL(AFOREMENTIONED AITON(EXCLAMATION ONE TWO) COMPLETED GENITIVE LOCATIVE",
    "SHAN(EXCLAMATION ONE)) TAI(LAING(DIGIT(EIGHT FIVE FOUR NINE ONE SEVEN SIX THREE TWO ZERO)))",
    "TONE(MARK(SGAW(KAREN(HATHI KE(PHO))))) VOWEL(SIGN(AA AI AITON(A AI) E.(ABOVE) GEBA(KAREN(I))",
    "I II KAYAH(EE OE U) MON(II O) SGAW(KAREN(EU)) SHAN(AA E.(ABOVE) FINAL(Y)) TALL(AA) U UU",
    "VOCALIC(L LL R RR) WESTERN(PWO(KAREN(EU UE))))))"]

end BlockCode.Text.CharacterName
