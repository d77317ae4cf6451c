namespace BlockCode.Text.CharacterName

def lNames : List String :=
  ["L(B(BAR(SYMBOL))) LAB(COAT) LABEL LACROSSE(STICK(AND(BALL))) LADDER LADY(BEETLE)",
    "LANGUAGE(TAG) LAO(CANCELLATION(MARK) DIGIT(EIGHT FIVE FOUR NINE ONE SEVEN SIX THREE TWO",
    "ZERO) ELLIPSIS HO(MO NO) KO(LA) LETTER(BO CO DO FO(FAY FON SUNG TAM) HO(SUNG TAM) KHMU(GO",
    "NYO) KHO(SUNG TAM) KO LO.(LING LOOT) MO NGO NO NYO O PALI(BHA CHA DDA DDHA DHA GHA JHA LLA",
    "NNA NYA TTA TTHA) PHO(SUNG TAM) PO RO SANSKRIT(SHA SSA) SO(SUNG TAM) THO(SUNG TAM) TO WO YO)",
    "NIGGAHITA SEMIVOWEL(SIGN(LO NYO)) SIGN(PALI(VIRAMA)) TONE(MAI(CATAWA EK THO TI))",
    "VOWEL(SIGN(A AA AI AM AY E EI I II MAI(KAN KON) O U UU Y YY))) LARGE(BLUE(CIRCLE DIAMOND",
    "SQUARE) BROWN(CIRCLE SQUARE) CIRCLE DOWN(TACK) GREEN(CIRCLE SQUARE) LEFT(TRIANGLE(OPERATOR))",
    "ONE(DOT(OVER(TWO(DOTS(PUNCTUATION)))) RING(OVER(TWO(RINGS(PUNCTUATION))))) ORANGE(CIRCLE",
    "DIAMOND SQUARE) PURPLE(CIRCLE SQUARE) RED(CIRCLE SQUARE) TRIPLE(VERTICAL(BAR(OPERATOR)))",
    "TWO(DOTS(OVER(ONE(DOT(PUNCTUATION)))) RINGS(OVER(ONE(RING(PUNCTUATION))))) UP(TACK)",
    "YELLOW(CIRCLE SQUARE)) LARGER(THAN.(OR(EQUAL(TO)))) LARI(SIGN) LAST(QUARTER(MOON.(SYMBOL",
    "WITH(FACE)))) LATIN(CAPITAL(LETTER(A.(WITH(ACUTE BREVE.(AND(ACUTE DOT(BELOW) GRAVE",
    "HOOK(ABOVE) TILDE)) CARON CIRCUMFLEX.(AND(ACUTE DOT(BELOW) GRAVE HOOK(ABOVE) TILDE))",
    "DIAERESIS.(AND(MACRON)) DOT(ABOVE.(AND(MACRON)) BELOW) DOUBLE(GRAVE) GRAVE HOOK(ABOVE)",
    "INVERTED(BREVE) MACRON OGONEK RING(ABOVE.(AND(ACUTE)) BELOW) STROKE TILDE)) AA",
    "AE.(WITH(ACUTE MACRON)) AFRICAN(D) ALPHA ANGLICANA(W) AO AU AV.(WITH(HORIZONTAL(BAR))) AY",
    "B.(WITH(DOT(ABOVE BELOW) FLOURISH HOOK LINE(BELOW) STROKE TOPBAR)) BETA BROKEN(L)",
    "C.(WITH(ACUTE BAR CARON CEDILLA.(AND(ACUTE)) CIRCUMFLEX DOT(ABOVE) HOOK PALATAL(HOOK)",
    "STROKE)) CHI CLOSED(INSULAR(G)) CON CUATRILLO.(WITH(COMMA)) D.(WITH(CARON CEDILLA",
    "CIRCUMFLEX(BELOW) DOT(ABOVE BELOW) HOOK LINE(BELOW) SHORT(STROKE(OVERLAY))",
    "SMALL(LETTER(Z.(WITH(CARON)))) STROKE TOPBAR)) DZ.(WITH(CARON)) E.(WITH(ACUTE BREVE CARON",
    "CEDILLA.(AND(BREVE)) CIRCUMFLEX.(AND(ACUTE DOT(BELOW) GRAVE HOOK(ABOVE) TILDE) BELOW)",
    "DIAERESIS DOT(ABOVE BELOW) DOUBLE(GRAVE) GRAVE HOOK(ABOVE) INVERTED(BREVE) MACRON.(AND(ACUTE",
    "GRAVE)) OGONEK STROKE TILDE.(BELOW))) EGYPTOLOGICAL(AIN ALEF) ENG ESH ET ETH EZH.(REVERSED",
    "WITH(CARON)) F.(WITH(DOT(ABOVE) HOOK STROKE)) G.(WITH(ACUTE BREVE CARON CEDILLA CIRCUMFLEX",
    "DOT(ABOVE) HOOK MACRON OBLIQUE(STROKE) STROKE)) GAMMA GHA GLOTTAL(A I STOP U)",
    "H.(WITH(BREVE(BELOW) CARON CEDILLA CIRCUMFLEX DESCENDER DIAERESIS DOT(ABOVE BELOW) HOOK",
    "STROKE)) HALF(H) HENG HWAIR I.(WITH(ACUTE BREVE CARON CIRCUMFLEX DIAERESIS.(AND(ACUTE))",
    "DOT(ABOVE BELOW) DOUBLE(GRAVE) GRAVE HOOK(ABOVE) INVERTED(BREVE) MACRON OGONEK STROKE",
    "TILDE.(BELOW))) INSULAR(D F G R S T) IOTA IS J.(WITH(CIRCUMFLEX CROSSED-TAIL STROKE))",
    "K.(WITH(ACUTE CARON CEDILLA DESCENDER DIAGONAL(STROKE) DOT(BELOW) HOOK LINE(BELOW)",
    "OBLIQUE(STROKE) STROKE.(AND(DIAGONAL(STROKE))))) L.(WITH(ACUTE BAR BELT CARON CEDILLA",
    "CIRCUMFLEX(BELOW) DOT(BELOW.(AND(MACRON))) DOUBLE(BAR) HIGH(STROKE) LINE(BELOW) MIDDLE(DOT",
    "TILDE) SMALL(LETTER(J)) STROKE)) LJ M.(WITH(ACUTE DOT(ABOVE BELOW) HOOK)) MIDDLE(SCOTS(S))",
    "MIDDLE-WELSH(LL V) N.(WITH(ACUTE CARON CEDILLA CIRCUMFLEX(BELOW) DESCENDER DOT(ABOVE BELOW)",
    "GRAVE LEFT(HOOK) LINE(BELOW) LONG(RIGHT(LEG)) OBLIQUE(STROKE) SMALL(LETTER(J)) TILDE)) NJ",
    "O.(WITH(ACUTE BREVE CARON CIRCUMFLEX.(AND(ACUTE DOT(BELOW) GRAVE HOOK(ABOVE) TILDE))",
    "DIAERESIS.(AND(MACRON)) DOT(ABOVE.(AND(MACRON)) BELOW) DOUBLE(ACUTE GRAVE) GRAVE HOOK(ABOVE)",
    "HORN.(AND(ACUTE DOT(BELOW) GRAVE HOOK(ABOVE) TILDE)) INVERTED(BREVE) LONG(STROKE(OVERLAY))",
    "LOOP MACRON.(AND(ACUTE GRAVE)) MIDDLE(TILDE) OGONEK.(AND(MACRON)) STROKE.(AND(ACUTE))",
    "TILDE.(AND(ACUTE DIAERESIS MACRON)))) OI OLD(POLISH(O)) OMEGA OO OPEN(E O) OU P.(WITH(ACUTE",
    "DOT(ABOVE) FLOURISH HOOK SQUIRREL(TAIL) STROKE.(THROUGH(DESCENDER))))",
    "Q.(WITH(DIAGONAL(STROKE) STROKE(THROUGH(DESCENDER)))) R.(ROTUNDA WITH(ACUTE CARON CEDILLA",
    "DOT(ABOVE BELOW.(AND(MACRON))) DOUBLE(GRAVE) INVERTED(BREVE) LINE(BELOW) OBLIQUE(STROKE)",
    "STROKE TAIL)) REVERSED(C(WITH(DOT)) E HALF(H) OPEN(E)) RUM(ROTUNDA)",
    "S.(WITH(ACUTE.(AND(DOT(ABOVE))) CARON.(AND(DOT(ABOVE))) CEDILLA CIRCUMFLEX COMMA(BELOW)",
    "DOT(ABOVE BELOW.(AND(DOT(ABOVE)))) HOOK OBLIQUE(STROKE) SHORT(STROKE(OVERLAY)) SWASH(TAIL)))",
    "SALTILLO SCHWA SCRIPT(G) SHARP(S) SIGMOID(S) SMALL(CAPITAL(I) Q(WITH(HOOK(TAIL))))",
    "T.(WITH(CARON CEDILLA CIRCUMFLEX(BELOW) COMMA(BELOW) DIAGONAL(STROKE) DOT(ABOVE BELOW) HOOK",
    "LINE(BELOW) RETROFLEX(HOOK) STROKE)) THORN.(WITH(STROKE.(THROUGH(DESCENDER)))) TONE(FIVE SIX",
    "TWO) TRESILLO TURNED(A ALPHA H INSULAR(G) K L M T V) TZ U.(BAR WITH(ACUTE BREVE CARON",
    "CIRCUMFLEX.(BELOW) DIAERESIS.(AND(ACUTE CARON GRAVE MACRON) BELOW) DOT(BELOW) DOUBLE(ACUTE",
    "GRAVE) GRAVE HOOK(ABOVE) HORN.(AND(ACUTE DOT(BELOW) GRAVE HOOK(ABOVE) TILDE))",
    "INVERTED(BREVE) MACRON.(AND(DIAERESIS)) OGONEK RING(ABOVE) STROKE TILDE.(AND(ACUTE) BELOW)))",
    "UPSILON V.(WITH(DIAGONAL(STROKE) DOT(BELOW) HOOK TILDE)) VEND VISIGOTHIC(Z) VOLAPUK(AE OE",
    "UE) VY W.(WITH(ACUTE CIRCUMFLEX DIAERESIS DOT(ABOVE BELOW) GRAVE HOOK)) WYNN",
    "X.(WITH(DIAERESIS DOT(ABOVE))) Y.(WITH(ACUTE CIRCUMFLEX DIAERESIS DOT(ABOVE BELOW) GRAVE",
    "HOOK.(ABOVE) LOOP MACRON STROKE TILDE)) YOGH Z.(WITH(ACUTE CARON CIRCUMFLEX DESCENDER",
    "DOT(ABOVE BELOW) HOOK LINE(BELOW) PALATAL(HOOK) STROKE SWASH(TAIL)))) LIGATURE(IJ OE)) CROSS",
    "EPIGRAPHIC(LETTER(ARCHAIC(M) I(LONGA) INVERTED(M) REVERSED(F P) SIDEWAYS(I))) LETTER(AIN",
    "ALVEOLAR(CLICK) BIDENTAL(PERCUSSIVE) BILABIAL(CLICK PERCUSSIVE) DENTAL(CLICK)",
    "GLOTTAL(STOP.(WITH(STROKE))) INVERTED(GLOTTAL(STOP.(WITH(CURL STROKE)))) LATERAL(CLICK)",
    "PHARYNGEAL(VOICED(FRICATIVE)) RETROFLEX(CLICK.(WITH(RETROFLEX(HOOK)))) REVERSED(ESH(LOOP)",
    "GLOTTAL(STOP(WITH(STROKE)))) SINOLOGICAL(DOT) SMALL(CAPITAL(A AE B BARRED(B) C D E ETH EZH F",
    "G.(WITH(HOOK)) H I INVERTED(R) J K L.(WITH(BELT STROKE)) M N O OE OPEN(O) OU P Q",
    "R.(WITH(RIGHT(LEG))) REVERSED(N R) RUM S T TURNED(E G K M R) U V W Y Z))",
    "STRETCHED(C.(WITH(CURL))) TWO(WITH(STROKE)) VOICED(LARYNGEAL(SPIRANT)) WYNN YR)",
    "SMALL(CAPITAL(LETTER(I(WITH(STROKE)) U(WITH(STROKE)))) LETTER(A.(REVERSED-SCHWA WITH(ACUTE",
    "BREVE.(AND(ACUTE DOT(BELOW) GRAVE HOOK(ABOVE) TILDE)) CARON CIRCUMFLEX.(AND(ACUTE DOT(BELOW)",
    "GRAVE HOOK(ABOVE) TILDE)) DIAERESIS.(AND(MACRON)) DOT(ABOVE.(AND(MACRON)) BELOW)",
    "DOUBLE(GRAVE) GRAVE HOOK(ABOVE) INVERTED(BREVE) MACRON OGONEK RETROFLEX(HOOK)",
    "RIGHT(HALF(RING)) RING(ABOVE.(AND(ACUTE)) BELOW) STROKE TILDE)) AA AE.(WITH(ACUTE MACRON))",
    "ALPHA.(WITH(RETROFLEX(HOOK))) ANGLICANA(W) AO AU AV.(WITH(HORIZONTAL(BAR))) AY",
    "B.(WITH(DOT(ABOVE BELOW) FLOURISH HOOK LINE(BELOW) MIDDLE(TILDE) PALATAL(HOOK) STROKE",
    "TOPBAR)) BARRED(ALPHA E O) BASELINE(ESH) BETA BLACKLETTER(E O.(WITH(STROKE)))",
    "BOTTOM(HALF(O)) BROKEN(L) C.(WITH(ACUTE BAR CARON CEDILLA.(AND(ACUTE)) CIRCUMFLEX CURL",
    "DOT(ABOVE) HOOK PALATAL(HOOK) RETROFLEX(HOOK) STROKE)) CHI.(WITH(LOW(LEFT(SERIF)",
    "RIGHT(RING)))) CLOSED(INSULAR(G) OMEGA OPEN(E) REVERSED(OPEN(E))) CON",
    "CUATRILLO.(WITH(COMMA)) D.(WITH(CARON CEDILLA CIRCUMFLEX(BELOW) CURL DOT(ABOVE BELOW)",
    "HOOK.(AND(TAIL)) LINE(BELOW) MIDDLE(TILDE) PALATAL(HOOK) SHORT(STROKE(OVERLAY)) STROKE TAIL",
    "TOPBAR)) DB(DIGRAPH) DELTA DEZH(DIGRAPH.(WITH(PALATAL(HOOK) RETROFLEX(HOOK)))) DOTLESS(I",
    "J.(WITH(STROKE.(AND(HOOK))))) DOUBLE(R.(WITH(CROSSED-TAIL)) THORN WYNN) DUM",
    "DZ.(DIGRAPH.(WITH(CURL RETROFLEX(HOOK))) WITH(CARON)) E.(WITH(ACUTE BREVE CARON",
    "CEDILLA.(AND(BREVE)) CIRCUMFLEX.(AND(ACUTE DOT(BELOW) GRAVE HOOK(ABOVE) TILDE) BELOW)",
    "DIAERESIS DOT(ABOVE BELOW) DOUBLE(GRAVE) FLOURISH GRAVE HOOK(ABOVE) INVERTED(BREVE)",
    "MACRON.(AND(ACUTE GRAVE)) NOTCH OGONEK RETROFLEX(HOOK) STROKE TILDE.(BELOW)))",
    "EGYPTOLOGICAL(AIN ALEF) ENG.(WITH(CROSSED-TAIL PALATAL(HOOK))) ESH.(WITH(CURL",
    "DOUBLE(BAR.(AND(CURL))) PALATAL(HOOK) RETROFLEX(HOOK))) ET ETH EZH.(REVERSED WITH(CARON CURL",
    "PALATAL(HOOK) RETROFLEX(HOOK) TAIL)) F.(WITH(DOT(ABOVE) HOOK MIDDLE(TILDE) PALATAL(HOOK)",
    "STROKE)) FENG(DIGRAPH.(WITH(TRILL))) G.(WITH(ACUTE BREVE CARON CEDILLA CIRCUMFLEX DOT(ABOVE)",
    "HOOK MACRON OBLIQUE(STROKE) PALATAL(HOOK) STROKE)) GAMMA GHA GLOTTAL(A I STOP U)",
    "H.(WITH(BREVE(BELOW) CARON CEDILLA CIRCUMFLEX DESCENDER DIAERESIS DOT(ABOVE BELOW) HOOK",
    "LINE(BELOW) PALATAL(HOOK) STROKE)) HALF(H) HENG.(WITH(HOOK)) HV I.(WITH(ACUTE BREVE CARON",
    "CIRCUMFLEX DIAERESIS.(AND(ACUTE)) DOT(BELOW) DOUBLE(GRAVE) GRAVE HOOK(ABOVE) INVERTED(BREVE)",
    "MACRON OGONEK RETROFLEX(HOOK) STROKE.(AND(RETROFLEX(HOOK))) TILDE.(BELOW))) INSULAR(D F G R",
    "S T) INVERTED(ALPHA OE) IOTA.(WITH(STROKE)) IOTIFIED(E) IS J.(WITH(CARON CIRCUMFLEX",
    "CROSSED-TAIL STROKE)) K.(WITH(ACUTE CARON CEDILLA DESCENDER DIAGONAL(STROKE) DOT(BELOW) HOOK",
    "LINE(BELOW) OBLIQUE(STROKE) PALATAL(HOOK) STROKE.(AND(DIAGONAL(STROKE))))) KRA L.(WITH(ACUTE",
    "BAR BELT.(AND(PALATAL(HOOK))) CARON CEDILLA CIRCUMFLEX(BELOW) CURL DOT(BELOW.(AND(MACRON)))",
    "DOUBLE(BAR MIDDLE(TILDE)) FISHHOOK HIGH(STROKE) INVERTED(LAZY(S)) LINE(BELOW) MIDDLE(DOT",
    "RING TILDE) PALATAL(HOOK) RETROFLEX(HOOK.(AND(BELT))) STROKE)) LAMBDA(WITH(STROKE)) LENIS(F)",
    "LEZH.(WITH(RETROFLEX(HOOK))) LJ LONG(S.(WITH(DIAGONAL(STROKE) DOT(ABOVE) HIGH(STROKE))))",
    "LS(DIGRAPH) LUM LZ(DIGRAPH) M.(WITH(ACUTE CROSSED-TAIL DOT(ABOVE BELOW) HOOK MIDDLE(TILDE)",
    "PALATAL(HOOK))) MIDDLE(SCOTS(S)) MIDDLE-WELSH(LL V) MUM N.(PRECEDED(BY(APOSTROPHE))",
    "WITH(ACUTE CARON CEDILLA CIRCUMFLEX(BELOW) CROSSED-TAIL CURL DESCENDER DOT(ABOVE BELOW)",
    "GRAVE LEFT(HOOK) LINE(BELOW) LONG(RIGHT(LEG)) MIDDLE(TILDE) OBLIQUE(STROKE) PALATAL(HOOK)",
    "RETROFLEX(HOOK) TILDE)) NJ NUM O.(WITH(ACUTE BREVE CARON CIRCUMFLEX.(AND(ACUTE DOT(BELOW)",
    "GRAVE HOOK(ABOVE) TILDE)) DIAERESIS.(AND(MACRON)) DOT(ABOVE.(AND(MACRON)) BELOW)",
    "DOUBLE(ACUTE GRAVE) GRAVE HOOK(ABOVE) HORN.(AND(ACUTE DOT(BELOW) GRAVE HOOK(ABOVE) TILDE))",
    "INVERTED(BREVE) LONG(STROKE(OVERLAY)) LOOP LOW(RING(INSIDE)) MACRON.(AND(ACUTE GRAVE))",
    "OGONEK.(AND(MACRON)) RETROFLEX(HOOK) STROKE.(AND(ACUTE)) TILDE.(AND(ACUTE DIAERESIS",
    "MACRON)))) OI OLD(POLISH(O)) OMEGA OO OPEN(E.(WITH(RETROFLEX(HOOK))) O.(WITH(RETROFLEX(HOOK)",
    "STROKE)) OE) OU P.(WITH(ACUTE DOT(ABOVE) FLOURISH HOOK MIDDLE(TILDE) PALATAL(HOOK)",
    "SQUIRREL(TAIL) STROKE.(THROUGH(DESCENDER)))) PHI Q.(WITH(DIAGONAL(STROKE) HOOK.(TAIL)",
    "STROKE(THROUGH(DESCENDER)))) QP(DIGRAPH) R.(ROTUNDA WITH(ACUTE CARON CEDILLA CROSSED-TAIL",
    "DOT(ABOVE BELOW.(AND(MACRON))) DOUBLE(GRAVE) FISHHOOK.(AND(MIDDLE(TILDE) PALATAL(HOOK)))",
    "INVERTED(BREVE) LINE(BELOW) LONG(LEG) MIDDLE(TILDE) OBLIQUE(STROKE) PALATAL(HOOK) STROKE",
    "TAIL) WITHOUT(HANDLE)) RAMS(HORN) REVERSED(C.(WITH(DOT)) E ENG HALF(H) K OPEN(E.(WITH(HOOK",
    "RETROFLEX(HOOK)))) R(WITH(FISHHOOK)) SCRIPT(G)) RUM.(ROTUNDA)",
    "S.(WITH(ACUTE.(AND(DOT(ABOVE))) CARON.(AND(DOT(ABOVE))) CEDILLA CIRCUMFLEX COMMA(BELOW) CURL",
    "DOT(ABOVE BELOW.(AND(DOT(ABOVE)))) HOOK MIDDLE(TILDE) OBLIQUE(STROKE) PALATAL(HOOK)",
    "SHORT(STROKE(OVERLAY)) SWASH(TAIL))) SAKHA(YAT) SALTILLO SCHWA.(WITH(HOOK RETROFLEX(HOOK)))",
    "SCRIPT(G.(WITH(CROSSED-TAIL)) R.(WITH(RING))) SHARP(S) SIDEWAYS(DIAERESIZED(U)",
    "O.(WITH(STROKE)) OPEN(O) TURNED(M) U) SIGMOID(S) SQUAT(REVERSED(ESH)) STIRRUP(R)",
    "T.(WITH(CARON CEDILLA CIRCUMFLEX(BELOW) COMMA(BELOW) CURL DIAERESIS DIAGONAL(STROKE)",
    "DOT(ABOVE BELOW) HOOK.(AND(RETROFLEX(HOOK))) LINE(BELOW) MIDDLE(TILDE) PALATAL(HOOK)",
    "RETROFLEX(HOOK) STROKE)) TAILLESS(PHI) TC(DIGRAPH(WITH(CURL)))",
    "TESH(DIGRAPH.(WITH(PALATAL(HOOK) RETROFLEX(HOOK)))) TH(WITH(STRIKETHROUGH))",
    "THORN.(WITH(STROKE.(THROUGH(DESCENDER)))) TONE(FIVE SIX TWO) TOP(HALF(O)) TRESILLO",
    "TS(DIGRAPH.(WITH(RETROFLEX(HOOK)))) TUM TURNED(A AE ALPHA DELTA E G",
    "H.(WITH(FISHHOOK.(AND(TAIL)))) I INSULAR(G) K L M.(WITH(LONG(LEG))) O(OPEN-O.(WITH(STROKE)))",
    "OE.(WITH(HORIZONTAL(STROKE) STROKE)) OPEN(E) R.(WITH(HOOK LONG(LEG.(AND(RETROFLEX(HOOK))))",
    "MIDDLE(TILDE) PALATAL(HOOK) TAIL)) T.(WITH(CURL)) UI V W Y.(WITH(BELT))) TZ",
    "U.(BAR.(WITH(SHORT(RIGHT(LEG)))) WITH(ACUTE BREVE CARON CIRCUMFLEX.(BELOW)",
    "DIAERESIS.(AND(ACUTE CARON GRAVE MACRON) BELOW) DOT(BELOW) DOUBLE(ACUTE GRAVE) GRAVE",
    "HOOK(ABOVE) HORN.(AND(ACUTE DOT(BELOW) GRAVE HOOK(ABOVE) TILDE)) INVERTED(BREVE) LEFT(HOOK)",
    "MACRON.(AND(DIAERESIS)) OGONEK RETROFLEX(HOOK) RING(ABOVE) SHORT(RIGHT(LEG)) STROKE",
    "TILDE.(AND(ACUTE) BELOW))) UE UI UM UO UPSILON.(WITH(STROKE)) V.(WITH(CURL DIAGONAL(STROKE)",
    "DOT(BELOW) HOOK PALATAL(HOOK) RIGHT(HOOK) TILDE)) VEND VISIGOTHIC(Z) VOLAPUK(AE OE UE) VY",
    "W.(WITH(ACUTE CIRCUMFLEX DIAERESIS DOT(ABOVE BELOW) GRAVE HOOK RING(ABOVE)))",
    "X.(WITH(DIAERESIS DOT(ABOVE) LONG(LEFT(LEG.(AND(LOW(RIGHT(RING))) WITH(SERIF))))",
    "LOW(RIGHT(RING)) PALATAL(HOOK))) Y.(WITH(ACUTE CIRCUMFLEX DIAERESIS DOT(ABOVE BELOW) GRAVE",
    "HOOK.(ABOVE) LOOP MACRON RING(ABOVE) SHORT(RIGHT(LEG)) STROKE TILDE)) YOGH Z.(WITH(ACUTE",
    "CARON CIRCUMFLEX CURL DESCENDER DOT(ABOVE BELOW) HOOK LINE(BELOW) MIDDLE(TILDE)",
    "PALATAL(HOOK) RETROFLEX(HOOK) STROKE SWASH(TAIL)))) LIGATURE(FF FFI FFL FI FL IJ LONG(S(T))",
    "OE ST)) SUBSCRIPT(SMALL(LETTER(A E H I J K L M N O P R S SCHWA T U V X))))",
    "LEAF(FLUTTERING(IN(WIND))) LEAFY(GREEN) LEDGER",
    "LEFT(AND(LOWER(AND(RIGHT(TRIANGULAR(THREE(QUARTERS(BLOCK))))) ONE(EIGHTH(BLOCK)))",
    "RIGHT(DOUBLE(TURNSTILE) TACK TRIANGULAR(HALF(BLOCK)))",
    "UPPER(AND(RIGHT(TRIANGULAR(THREE(QUARTERS(BLOCK))))) ONE(EIGHTH(BLOCK)))) ANGER(BUBBLE)",
    "ANGLE(BRACKET.(WITH(DOT))) ARC(LESS-THAN(BRACKET)) ARROW(WITH(CIRCLED(PLUS) SMALL(CIRCLE)))",
    "BARB(DOWN(RIGHT(BARB(DOWN(HARPOON) UP(HARPOON)))) UP(RIGHT(BARB(DOWN(HARPOON)",
    "UP(HARPOON))))) BLACK(LENTICULAR(BRACKET) TORTOISE(SHELL(BRACKET))) CEILING CLOSED(ENTRY)",
    "CORNER(BRACKET) CURLY(BRACKET.(LOWER(HOOK) MIDDLE(PIECE) UPPER(HOOK)))",
    "DOTTED(SUBSTITUTION(BRACKET)) DOUBLE(ANGLE(BRACKET) PARENTHESIS QUOTATION(MARK)",
    "WIGGLY(FENCE)) FISH(TAIL) FIVE(EIGHTHS(BLOCK)) FLOOR HALF(BLACK(CIRCLE STAR) BLOCK",
    "CIRCLE.(WITH(DOT FOUR(DOTS) THREE(DOTS) TWO(DOTS))) FOLDER",
    "INVERSE(MEDIUM(SHADE(AND(RIGHT(HALF(BLOCK)))))) MEDIUM(SHADE) RUNNING(MAN))",
    "HAND(TELEPHONE(RECEIVER)) LOW(PARAPHRASE(BRACKET)) LUGGAGE MULTIMAP",
    "NORMAL(FACTOR(SEMIDIRECT(PRODUCT))) ONE(EIGHTH(BLOCK) QUARTER(BLOCK)) OUTER(JOIN)",
    "PARENTHESIS.(EXTENSION LOWER(HOOK) UPPER(HOOK)) RAISED(OMISSION(BRACKET))",
    "RIGHT(ARROW.(THROUGH(SMALL(CIRCLE)) WITH(DOUBLE(VERTICAL(STROKE)) STROKE VERTICAL(STROKE)))",
    "BLACK(ARROW) DOUBLE(ARROW.(WITH(STROKE VERTICAL(STROKE)))) OPEN-HEADED(ARROW)",
    "SANS-SERIF(ARROW) TRIANGLE-HEADED(ARROW) WAVE(ARROW) WHITE(ARROW)) S-SHAPED(BAG(DELIMITER))",
    "SEMIDIRECT(PRODUCT) SEVEN(EIGHTHS(BLOCK)) SIDEWAYS(U(BRACKET)) SINGLE(QUOTATION(MARK))",
    "SPEECH(BUBBLE) SQUARE(BRACKET.(EXTENSION LOWER(CORNER) UPPER(CORNER) WITH(DOUBLE(STROKE)",
    "QUILL STROKE TICK(IN(BOTTOM(CORNER) TOP(CORNER))) UNDERBAR))) SUBSTITUTION(BRACKET) TACK",
    "THIRD(WHITE(RIGHT(POINTING(INDEX)))) THOUGHT(BUBBLE) THREE(EIGHTHS(BLOCK) QUARTERS(BLOCK))",
    "TORTOISE(SHELL(BRACKET)) TRANSPOSITION(BRACKET) TRIANGLE(BESIDE(VERTICAL(BAR)))",
    "TRIANGULAR(ONE(QUARTER(BLOCK))) VERTICAL(BAR(WITH(QUILL)) BOX(LINE)) WHITE(CORNER(BRACKET)",
    "CURLY(BRACKET) LENTICULAR(BRACKET) PARENTHESIS SQUARE(BRACKET) TORTOISE(SHELL(BRACKET)))",
    "WIGGLY(FENCE) WRITING(HAND)) LEFT-FACING(ARMENIAN(ETERNITY(SIGN)) FIST",
    "SVASTI(SIGN.(WITH(DOTS)))) LEFT-HANDED(INTERLACED(PENTAGRAM)) LEFT-POINTING(ANGLE(BRACKET)",
    "CURVED(ANGLE(BRACKET)) DOUBLE(ANGLE(QUOTATION(MARK))) MAGNIFYING(GLASS))",
    "LEFT-SHADED(WHITE(RIGHTWARDS(ARROW))) LEFT-SIDE(ARC(ANTICLOCKWISE(ARROW)))",
    "LEFT-TO-RIGHT(EMBEDDING ISOLATE MARK OVERRIDE) LEFTWARDS(ARROW.(ABOVE(ALMOST(EQUAL(TO))",
    "REVERSE(ALMOST(EQUAL(TO)) TILDE(OPERATOR)) SHORT(RIGHTWARDS(ARROW)) TILDE(OPERATOR))",
    "AND(UPPER(AND(LOWER(ONE(EIGHTH(BLOCK)))))) FROM(BAR.(TO(BLACK(DIAMOND))))",
    "OVER(RIGHTWARDS(ARROW)) THROUGH(LESS-THAN SUBSET X)",
    "TO(BAR.(OVER(RIGHTWARDS(ARROW(TO(BAR))))) BLACK(DIAMOND)) WITH(DOTTED(STEM)",
    "DOUBLE(VERTICAL(STROKE)) EQUILATERAL(ARROWHEAD) HOOK LARGE(TRIANGLE(ARROWHEAD)) LOOP",
    "MEDIUM(TRIANGLE(ARROWHEAD)) NOTCHED(TAIL) PLUS(BELOW) SMALL(EQUILATERAL(ARROWHEAD)",
    "TRIANGLE(ARROWHEAD)) STROKE TAIL.(WITH(DOUBLE(VERTICAL(STROKE)) VERTICAL(STROKE)))",
    "TIP(DOWNWARDS UPWARDS) VERTICAL(STROKE))) ARROW-TAIL BACK-TILTED(SHADOWED(WHITE(ARROW)))",
    "BLACK(ARROW CIRCLED(WHITE(ARROW))) BOTTOM-SHADED(WHITE(ARROW)) COMPRESSED(ARROW)",
    "DASHED(ARROW) DOUBLE(ARROW.(FROM(BAR) WITH(STROKE VERTICAL(STROKE))) ARROW-TAIL DASH(ARROW))",
    "FINGER-POST(ARROW) FRONT-TILTED(SHADOWED(WHITE(ARROW))) HAND",
    "HARPOON(OVER(RIGHTWARDS(HARPOON))",
    "WITH(BARB(DOWN(ABOVE(RIGHTWARDS(HARPOON(WITH(BARB(DOWN))))) BELOW(LONG(DASH)) FROM(BAR)",
    "TO(BAR)) DOWNWARDS UP(ABOVE(LEFTWARDS(HARPOON(WITH(BARB(DOWN)))) LONG(DASH)",
    "RIGHTWARDS(HARPOON(WITH(BARB(UP))))) FROM(BAR) TO(BAR)) UPWARDS))) HEAVY(ARROW",
    "COMPRESSED(ARROW)) LEFT-SHADED(WHITE(ARROW)) OPEN-HEADED(ARROW) PAIRED(ARROWS)",
    "QUADRUPLE(ARROW) RIGHT-SHADED(WHITE(ARROW)) ROCKET SANS-SERIF(ARROW) SQUARED(ARROW)",
    "SQUIGGLE(ARROW) TOP(SHADED(WHITE(ARROW))) TRIANGLE(ARROWHEAD)",
    "TRIANGLE-HEADED(ARROW.(OVER(RIGHTWARDS(TRIANGLE-HEADED(ARROW))) TO(BAR) WITH(BOLD(SHAFT)",
    "DOUBLE(HORIZONTAL(STROKE) VERTICAL(STROKE)) HEAVY(SHAFT) LONG(TIP(DOWNWARDS UPWARDS))",
    "MEDIUM(SHAFT) NARROW(SHAFT) VERY(HEAVY(SHAFT)))) DASHED(ARROW) PAIRED(ARROWS)) TRIPLE(ARROW",
    "DASH(ARROW)) TWO(HEADED(ARROW)) TWO-HEADED(ARROW(FROM(BAR) WITH(DOUBLE(VERTICAL(STROKE))",
    "TAIL.(WITH(DOUBLE(VERTICAL(STROKE)) VERTICAL(STROKE))) TRIANGLE(ARROWHEADS)",
    "VERTICAL(STROKE))) TRIPLE(DASH(ARROW))) WAVE(ARROW)",
    "WHITE(ARROW.(WITHIN(TRIANGLE(ARROWHEAD))))) LEG LEMON LEO LEOPARD LEPCHA(CONSONANT(SIGN(K",
    "KANG L M N NYIN-DO P R T)) DIGIT(EIGHT FIVE FOUR NINE ONE SEVEN SIX THREE TWO ZERO) LETTER(A",
    "BA BLA CA CHA DA DDA DZA FA FLA GA GLA HA HLA JA KA KHA KLA LA MA MLA NA NGA NYA PA PHA PLA",
    "RA SA SHA TA THA TSA TSHA TTA TTHA VA WA YA) PUNCTUATION(CER-WA NYET(THYOOM(TA-ROL)) TA-ROL",
    "TSHOOK.(CER-WA)) SIGN(NUKTA RAN) SUBJOINED(LETTER(RA YA)) VOWEL(SIGN(AA E I O OO U UU)))",
    "LESS-THAN(ABOVE(DOUBLE-LINE(EQUAL(ABOVE(GREATER-THAN)))",
    "GREATER-THAN(ABOVE(DOUBLE-LINE(EQUAL))) LEFTWARDS(ARROW) SIMILAR(ABOVE(GREATER-THAN)",
    "OR(EQUAL)) SLANTED(EQUAL(ABOVE(GREATER-THAN(ABOVE(SLANTED(EQUAL))))))) AND(NOT(APPROXIMATE)",
    "SINGLE-LINE(NOT(EQUAL(TO)))) BUT(NOT(EQUAL(TO) EQUIVALENT(TO)))",
    "CLOSED(BY(CURVE.(ABOVE(SLANTED(EQUAL))))) EQUAL(TO(OR(GREATER-THAN))) OR(APPROXIMATE",
    "EQUAL(TO) EQUIVALENT(TO) GREATER-THAN SLANTED(EQUAL(TO.(WITH(DOT(ABOVE.(RIGHT) INSIDE))))))",
    "OVER(EQUAL(TO)) SIGN WITH(CIRCLE(INSIDE) DOT QUESTION(MARK(ABOVE)))) LEVEL(SLIDER) LF LIBRA",
    "LIGATURE(OPEN(ET(ORNAMENT))) LIGHT(CHECK(MARK) EIGHT(SPOKED(ASTERISK))",
    "FIVE(POINTED(BLACK(STAR)) SPOKED(ASTERISK)) FOUR(POINTED(BLACK(CUSP STAR))) GREEK(CROSS)",
    "LEFT(TORTOISE(SHELL(BRACKET(ORNAMENT)))) RAIL RIGHT(TORTOISE(SHELL(BRACKET(ORNAMENT))))",
    "SALTIRE SHADE SIX(SPOKED(ASTERISK)) THREE(POINTED(BLACK(STAR))) TWELVE(POINTED(BLACK(STAR)))",
    "VERTICAL(BAR) WHITE(SQUARE)) LIGHTNING.(MOOD.(BUBBLE)) LIMBU(DIGIT(EIGHT FIVE FOUR NINE ONE",
    "SEVEN SIX THREE TWO ZERO) EXCLAMATION(MARK) LETTER(BA BHA CA CHA DA DHA GA GHA GYAN HA JA",
    "JHA KA KHA LA MA NA NGA PA PHA RA SA SHA SSA TA THA TRA WA YA YAN) QUESTION(MARK)",
    "SIGN(KEMPHRENG LOO MUKPHRENG SA-I) SMALL(LETTER(ANUSVARA KA LA MA NA NGA PA RA TA))",
    "SUBJOINED(LETTER(RA WA YA)) VOWEL(SIGN(A AI AU E EE I O OO U)) VOWEL-CARRIER(LETTER))",
    "LIMITED(LIABILITY(SIGN)) LINE(FEED INTEGRATION(NOT(INCLUDING(THE(POLE)))",
    "WITH(RECTANGULAR(PATH(AROUND(POLE))) SEMICIRCULAR(PATH(AROUND(POLE))))) SEPARATOR",
    "TABULATION.(SET)) LINEAR(A(SIGN(A028B A100-102 A120B A131C A301 A302 A303 A304 A305 A306",
    "A307 A308 A309A A309B A309C A310 A311 A312 A313A A313B A313C A314 A315 A316 A317 A318 A319",
    "A320 A321 A322 A323 A324 A325 A326 A327 A328 A329 A330 A331 A332 A333 A334 A335 A336 A337",
    "A338 A339 A340 A341 A342 A343 A344 A345 A346 A347 A348 A349 A350 A351 A352 A353 A354 A355",
    "A356 A357 A358 A359 A360 A361 A362 A363 A364 A365 A366 A367 A368 A369 A370 A371 A400-VAS",
    "A401-VAS A402-VAS A403-VAS A404-VAS A405-VAS A406-VAS A407-VAS A408-VAS A409-VAS A410-VAS",
    "A411-VAS A412-VAS A413-VAS A414-VAS A415-VAS A416-VAS A417-VAS A418-VAS A501 A502 A503 A504",
    "A505 A506 A508 A509 A510 A511 A512 A513 A515 A516 A520 A521 A523 A524 A525 A526 A527 A528",
    "A529 A530 A531 A532 A534 A535 A536 A537 A538 A539 A540 A541 A542 A545 A547 A548 A549 A550",
    "A551 A552 A553 A554 A555 A556 A557 A559 A563 A564 A565 A566 A568 A569 A570 A571 A572 A573",
    "A574 A575 A576 A577 A578 A579 A580 A581 A582 A583 A584 A585 A586 A587 A588 A589 A591 A592",
    "A594 A595 A596 A598 A600 A601 A602 A603 A604 A606 A608 A609 A610 A611 A612 A613 A614 A615",
    "A616 A617 A618 A619 A620 A621 A622 A623 A624 A626 A627 A628 A629 A634 A637 A638 A640 A642",
    "A643 A644 A645 A646 A648 A649 A651 A652 A653 A654 A655 A656 A657 A658 A659 A660 A661 A662",
    "A663 A664 A701(A) A702(B) A703(D) A704(E) A705(F) A706(H) A707(J) A708(K) A709(L) A709-2(L2)",
    "A709-3(L3) A709-4(L4) A709-6(L6) A710(W) A711(X) A712(Y) A713(OMEGA) A714(ABB) A715(BB)",
    "A717(DD) A726(EYYY) A732(JE) A800 A801 A802 A803 A804 A805 A806 A807 AB001 AB002 AB003 AB004",
    "AB005 AB006 AB007 AB008 AB009 AB010 AB011 AB013 AB016 AB017 AB020 AB021 AB021F AB021M AB022",
    "AB022F AB022M AB023 AB023M AB024 AB026 AB027 AB028 AB029 AB030 AB031 AB034 AB037 AB038 AB039",
    "AB040 AB041 AB044 AB045 AB046 AB047 AB048 AB049 AB050 AB051 AB053 AB054 AB055 AB056 AB057",
    "AB058 AB059 AB060 AB061 AB065 AB066 AB067 AB069 AB070 AB073 AB074 AB076 AB077 AB078 AB079",
    "AB080 AB081 AB082 AB085 AB086 AB087 AB118 AB120 AB122 AB123 AB131A AB131B AB164 AB171 AB180",
    "AB188 AB191)) B(IDEOGRAM(B100(MAN) B102(WOMAN) B104(DEER) B105(EQUID) B105F(MARE)",
    "B105M(STALLION) B106F(EWE) B106M(RAM) B107F(SHE-GOAT) B107M(HE-GOAT) B108F(SOW) B108M(BOAR)",
    "B109F(COW) B109M(BULL) B120(WHEAT) B121(BARLEY) B122(OLIVE) B123(SPICE) B125(CYPERUS)",
    "B130(OIL) B131(WINE) B132 B140(BRONZE) B141(GOLD) B142 B145(WOOL) B146 B150 B151(HORN) B152",
    "B153 B154 B157 B158 B159(CLOTH) B160 B161 B162(GARMENT) B163(ARMOUR) B164 B165 B166 B167",
    "B168 B169 B170 B171 B172 B173(MONTH) B174 B176(TREE) B177 B178 B179 B180 B181 B182 B183 B184",
    "B185 B189 B190 B191(HELMET) B220(FOOTSTOOL) B225(BATHTUB) B230(SPEAR) B231(ARROW) B232",
    "B233(SWORD) B234 B236 B240(WHEELED(CHARIOT)) B241(CHARIOT) B242(CHARIOT(FRAME)) B243(WHEEL)",
    "B245 B246 B248 B249 B251 B252 B253 B254(DART) B255 B256 B257 B258 B259 VESSEL(B155 B200 B201",
    "B202 B203 B204 B205 B206 B207 B208 B209 B210 B211 B212 B213 B214 B215 B216 B217 B218 B219",
    "B221 B222 B226 B227 B228 B229 B250 B305)) MONOGRAM(B127(KAPO) B128(KANAKO) B133(AREPA)",
    "B135(MERI) B156(TURO2) B247(DIPTE)) SYLLABLE(B001(DA) B002(RO) B003(PA) B004(TE) B005(TO)",
    "B006(NA) B007(DI) B008(A) B009(SE) B010(U) B011(PO) B012(SO) B013(ME) B014(DO) B015(MO)",
    "B016(QA) B017(ZA) B020(ZO) B021(QI) B023(MU) B024(NE) B025(A2) B026(RU) B027(RE) B028(I)",
    "B029(PU2) B030(NI) B031(SA) B032(QO) B033(RA3) B036(JO) B037(TI) B038(E) B039(PI) B040(WI)",
    "B041(SI) B042(WO) B043(A3) B044(KE) B045(DE) B046(JE) B048(NWA) B050(PU) B051(DU) B052(NO)",
    "B053(RI) B054(WA) B055(NU) B057(JA) B058(SU) B059(TA) B060(RA) B061(O) B062(PTE) B065(JU)",
    "B066(TA2) B067(KI) B068(RO2) B069(TU) B070(KO) B071(DWE) B072(PE) B073(MI) B074(ZE) B075(WE)",
    "B076(RA2) B077(KA) B078(QE) B080(MA) B081(KU) B085(AU) B087(TWE) B090(DWO) B091(TWO))",
    "SYMBOL(B018 B019 B022 B034 B047 B049 B056 B063 B064 B079 B082 B083 B086 B089))) LINK(SYMBOL)",
    "LINKED(PAPERCLIPS) LION(FACE) LIPS LIPSTICK LIRA(SIGN) LISU(LETTER(A AE BA CA CHA DA DZA E",
    "EU FA GA GHA HA HHA I JA KA KHA LA MA NA NGA O OE PA PHA SA SHA TA THA TONE(MYA(BO CYA JEU",
    "NA TI) NA(PO)) TSA TSHA U UE UH WA XA YA YHA ZA ZHA) PUNCTUATION(COMMA FULL(STOP)))",
    "LIVRE(TOURNOIS(SIGN)) LIZARD LLAMA LOBSTER LOCK.(WITH(INK(PEN))) LOCKING-SHIFT(ONE ZERO)",
    "LOGICAL(AND.(WITH(DOT(ABOVE) DOUBLE(OVERBAR UNDERBAR) HORIZONTAL(DASH) MIDDLE(STEM)",
    "UNDERBAR)) OR.(OVERLAPPING(LOGICAL(AND)) WITH(DOT(ABOVE) DOUBLE(OVERBAR UNDERBAR)",
    "HORIZONTAL(DASH) MIDDLE(STEM)))) LOLLIPOP",
    "LONG(DASH(FROM(LEFT(MEMBER(OF(DOUBLE(VERTICAL)))))) DIVISION DRUM LEFT(RIGHT(ARROW",
    "DOUBLE(ARROW)) TACK) LEFTWARDS(ARROW.(FROM(BAR)) DOUBLE(ARROW.(FROM(BAR))) SQUIGGLE(ARROW))",
    "RIGHT(TACK) RIGHTWARDS(ARROW.(FROM(BAR)) DOUBLE(ARROW.(FROM(BAR))) SQUIGGLE(ARROW)))",
    "LOTION(BOTTLE) LOTUS LOUDLY(CRYING(FACE)) LOVE(HOTEL LETTER) LOW(ASTERISK BATTERY",
    "BRIGHTNESS(SYMBOL) DOUBLE(PRIME(QUOTATION(MARK))) KAVYKA.(WITH(DOT)) LINE)",
    "LOWER(BLADE(SCISSORS) FIVE(EIGHTHS(BLOCK)) HALF(BLOCK CIRCLE INVERSE(WHITE(CIRCLE))",
    "MEDIUM(SHADE)) LEFT(BALLPOINT(PEN) BLOCK(DIAGONAL(LOWER(MIDDLE(LEFT(TO(LOWER(CENTRE",
    "RIGHT))))) UPPER(CENTRE(TO(LOWER(MIDDLE(RIGHT) RIGHT) UPPER(MIDDLE(RIGHT))))",
    "LEFT(TO(LOWER(CENTRE MIDDLE(RIGHT)) UPPER(MIDDLE(RIGHT)))) MIDDLE(LEFT(TO(LOWER(CENTRE",
    "MIDDLE(RIGHT) RIGHT))))))) CRAYON FOUNTAIN(PEN) PAINTBRUSH PENCIL QUADRANT(CIRCULAR(ARC))",
    "SEMICIRCULAR(ANTICLOCKWISE(ARROW)) TRIANGLE TRIANGULAR(MEDIUM(SHADE))) ONE(EIGHTH(BLOCK)",
    "QUARTER(BLOCK)) RIGHT(BLOCK(DIAGONAL(LOWER(CENTRE(TO(LOWER(MIDDLE(RIGHT))",
    "UPPER(MIDDLE(RIGHT) RIGHT))) LEFT(TO(LOWER(MIDDLE(RIGHT)) UPPER(CENTRE MIDDLE(RIGHT))))",
    "MIDDLE(LEFT(TO(UPPER(CENTRE MIDDLE(RIGHT) RIGHT))))) UPPER(MIDDLE(LEFT(TO(UPPER(CENTRE",
    "RIGHT))))))) CORNER(WITH(DOT)) DROP-SHADOWED(WHITE(SQUARE)) PENCIL QUADRANT(CIRCULAR(ARC))",
    "SEMICIRCULAR(CLOCKWISE(ARROW)) SHADOWED(WHITE(CIRCLE SQUARE)) TRIANGLE",
    "TRIANGULAR(MEDIUM(SHADE))) SEVEN(EIGHTHS(BLOCK)) THREE(EIGHTHS(BLOCK) QUARTERS(BLOCK))",
    "TRIANGULAR(ONE(QUARTER(BLOCK)))) LOZENGE.(DIVIDED(BY(HORIZONTAL(RULE)))) LRE LRI LRM LRO",
    "LUGGAGE LUNGS LYCIAN(LETTER(A AN B BH D E EN G H I J K KK L M MM N NN P Q R S T TH TT U W X",
    "Z)) LYDIAN(LETTER(A AN B C D E EN F G I K L LY M N NN O Q R S SS T TT U V Y)",
    "TRIANGULAR(MARK)) LYING(FACE)"]

end BlockCode.Text.CharacterName
