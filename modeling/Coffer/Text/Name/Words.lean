/-!
The words that the names of characters consist of.
-/

namespace Coffer.Text

/-- The words, the most frequent first, with blanks and line ends between them. -/
def nameWords : String :=
"WITH LETTER SMALL FORM CAPITAL SIGN AND ARROW RIGHT ABOVE LEFT U A O TWO ONE BELOW E FINAL DOUBLE
I MARK DOT THREE TO BLACK ISOLATED OF WHITE FOUR HOOK STROKE SYMBOL FIVE INITIAL RIGHTWARDS HEAVY
MIDDLE R VERTICAL S UP SIX EIGHT TIMES L MEEM BAR PLUS LEFTWARDS SEVEN DOWN HALF HUNDRED HA NINE
BRACKET KA FACE SQUARE PA CIRCLE DOTS N RA YEH OVER THOUSAND LA MA NA YA INDEX M ALEF EQUAL
HORIZONTAL LIGHT VOWEL SA TA TILDE DIGIT RING DA DOWNWARDS G LOWER TRIANGLE K T V GA H BARB LOW
ACUTE MEDIUM UPWARDS D HAH Y BA MEDIAL ZERO AA WEST-CREE C UPPER Z OPEN OR P JEEM TURNED LONG TEN
X B CIRCUMFLEX THUMB TONE W AI II DASIA HIGH PSILI REVERSED DIAERESIS J AU LINE NGA SHA SINGLE
STOP TRIANGLE-HEADED UU ARROWHEAD JA WA CA LARGE F GRAVE CHA NYA INVERTED KHA MACRON MAKSURA
POINTING NUMBER ON EAST ROTATED OXIA VARIA COMMA THA BLOCK LESS-THAN NOT Q GREATER-THAN STAR
VOCALIC CENTRE BREVE HARPOON IN LITTLE PHA TAIL CIRCLED KHAH OLD VA WEST ANGLE DEGREES GUNU LATIN
ORNAMENT FULL SHORT ANUSVARA TTA DDA EN GHA DHA NORTH OO ZA NUN PE ASTERISK CROSS TRIPLE ASH
CARON DIAGONAL NNA BHA OPERATOR PERISPOMENI PUNCTUATION SOUTH DASH EE PARENTHESIS PI RETROFLEX
TENU TOP TTHA FA HE NO SSA TWENTY VIRAMA DDHA DESCENDER DIAMOND OE RR ACCENT COMBINING FOR NOON
DOTTED MU NINETY OMEGA THE WAW YPOGEGRAMMENI END LAM YU HAMZA JHA TE VISARGA CLOSED EQUALS LL
POINTED SQUARED HORN SEVENTY SHE TACK AIN ALPHA AN FIFTY LIGATURE NI QUARTER AE BOTTOM CHESS
COLON CORNER NU YO CANDRABINDU CROSSING FROM HAND HITTING IOTA REH SEPARATOR BENT DANDA KAF ME
MODIFIER NE QUOTATION SHIN TSA BOLD CEDILLA HEART HEH MI ORKHON PALATAL QUESTION YI YUS DIGRAPH
GLOTTAL HAND-FIST HI KNIGHT LLA PROSGEGRAMMENI TAH UPSILON VERY YENISEI BOX EIGHTH GAR NEO RHO RO
SEEN CURLY EPSILON EXCLAMATION HO IGI MOON QAF RAISED SIDE SIGMA SUBSET WE COPTIC GREEK KO NUKTA
PHI SO THETA TU UNDERBAR AT CHE CHI EQUILATERAL FINGERS LU RIGHT-POINTING SCRIPT SECTION SHELL
SOLIDUS STRAIGHT SUPERSET WO ALTERNATE CONSONANT DAGESH DISH FEH OVERLAY SAD SANS-SERIF SI UE
CURL DE EL GAMMA GI LEAF MO NEUTRAL REVERSE RU SE SHAFT SLANTED SPACE THIRTY TRIANGULAR VARIANT
WAVE WI ZE ZHA ETA EYES KE KI MAN MOUTH SU BEH DELTA DO KU LEFT-POINTING LO NOTE QA RRA ARABIC
ARCHAIC ARCHAION BAD BETA BU DAD DI FRACTION HEAD INSIDE INTEGRAL MEM NG SHEEN TEH TONOS UD
ABBREVIATION ALTERNATING ANTICLOCKWISE CONJOINED CURVE EM ESH FORTY FORWARD GAN2 GHE HAND-HINGE
INSULAR KAPPA KING LI LOOP MINUS OMICRON PO RE REST SPOKED TAU TI TORTOISE ALEPH BETH BETWEEN
GHAIN HAND-CIRCLE HEARTS IE INTERSECTION KUR LEG PSI RI SIXTY SMILING SOUND SYLLABLE UNION ALMOST
ARC ARROWS AVAGRAHA CHARACTER DU GIMEL GISH GU HINGED IOTIFIED KAPH KOMI NEGATIVE OUT PAP PERSON
QUEEN SAMEKH SHAD SLASH TAK4 TAW THO VE YE ZHE BE BI C-SIMPLIFIED CAN CANDRA EIGHTHS EIGHTY
EQUIVALENT ER HETH IDEOGRAPHIC KOET LAMEDH LE LENGTH OBLIQUE OGONEK QUADRANT QUARTERS ROC SADHE
SHADE TSHA WORD XA XI YODH ZAIN AS BIG BULLET CLUBS CYRILLIC DAL DIALYTIKA DIAMONDS DOTLESS EARTH
FILL HU LAMDA MGO NYI QUAD SHU SOFT SPADES THROUGH TIP TSE TWELVE UP-POINTING ZAYIN CIRCLES
CLOCKWISE CROSSED DASHED DZA ET GO GUD ICHOS KASRA LOGICAL LOZENGE MAI MULTIPLE MUSICAL OM
OVERBAR POINT PRECEDES PRODUCT PU RED RESH RISING SHADOWED SPREAD SUCCEEDS SUPERSCRIPT THIRD U2
WATER ZETA AH ANG AY AYIN BACK BALL BISHOP BO BY CAT CHECK CO DOWN-POINTING ELEVEN ENG FATHA FE
FLAG FO HAND-ANGLE HYPHEN JE KASKAL KRYZHEM LAGAB MOVEMENT-FLOORPLANE MOVEMENT-WALLPLANE NOTEHEAD
OCLOCK PAWN POVYSHE PRIME ROOK ROUND RTAGS SEMICOLON TABULATION TEDUNG TELEPHONE THEH WRIST
Y-CREE YANG ZO ZU BELT CARRIER CLICK CURVED DOUBLE-STRUCK ES FI FIFTEEN FIRE ITALIC JO KATAKANA
MULTIPLICATION MURDA NOR PHO QUADRUPLE SALTIRE SET SHAN SHO SIMALUNGUN SUN TSHEG TWO-HEADED WALL
WIND WU YERU ZAH ALPAPRAANA AM ARABIC-INDIC ASH2 BARRED BESIDE BIRGA BUR BUT CARET DALETH DAMMA
DOES EF EH ELEMENT FISH FLEX FLOOR GE HANGUL HARD INVERSE ITERATION LAL LEFT-STEM LUNATE
MAHAAPRAANA NASKAPI NORMAL NUMERAL ROUNDED SALT SCHWA SHAR2 SIXTEEN SVARITA TETH TEXT TICK TONE-2
TONE-5 TREE TWELFTHS VO VOICED WAVY YIG YOD ZI AB AL APOSTROPHE BAMBOOS BUBBLE CE CEILING
CHARACTERS CHO CIEUC CONTROL CROSSED-TAIL CRYPTOGRAMMIC EI EIGHTEEN ENVELOPE ESH2 EU EYE EZH
FILLER FIRST FU GAD GESH2 HAA HANDS HHA HORSE IEUNG IM IMAGE KAREN KEY LARGEST LENTICULAR LUM
MADDA MEN NOTCHED NUBIAN NYO PAGE PEE PINWHEEL RHA SAYISI SIDEWAYS STEM SUIT TAB TAI THIRDS
TONE-3 UNDER VI VINE YAT YIN ABKHASIAN AMPERSAND ANO BACKHAND BEGIN BLUE BUD CAR CENTRED CHIEUCH
COMPRESSED CONTAINS CRESCENTS DIALECT-P DIVISION DODEKATA DRAGON DZ DZE ELLIPSIS ETH EXTENDED
EXTENSION FINGER FOURTEEN FRONT GREEN HIEUH ICE INDEPENDENT INDICATOR JI JOT KAK KHIEUKH KIYEOK
LHA LONSUM MAHAPRANA MALE MARKER MIEUM MOUNTAIN MOVEMENT MUSH NIEUN NINETEEN NIZKO NJE NOTATION
OPPOSING OU OVERLINE PAIRED PALI PARALLEL PARTIAL PHIEUPH PIECE PIEUP QOPH RIEUL SAL SASAK SECANT
SEVENTEEN SHEI SHESHIG SIOS STAFF START STATERS SUBGROUP SUBUNIT SVETLAYA TH THIEUTH THIRTEEN
THORN THOUSANDS TIKEUT TUG2 TURNSTILE UN USH VEE WOMAN ZAPYATAYA ZIGZAG AIRPLANE ALI BACKSLASH
BALLOT BBA CHEST CONTAINING DIPLI DOLLAR EMPTY FALLING FARSI FEE FISHHOOK FITA FOLDER GAL GALI
GAN HAIR HAT HEEL JAPANESE JOINER JU KATO KET KHO KLYUCHEVAYA LAGAR LIPS LLLA MALO MASH MFON MID
MILLIONS MON MOUSE NGO ODD ORE OUTLINED PLACE PLASTICS POWERS RAIN RECTANGLE RUPEE SECOND SEE SH
SHIMA SHOE SHU2 SIDDHAM SIMILAR SLOAN SPEECH SUBSCRIPT SUKUN TAA TALENTS TAM TAMIL TAR
TEARDROP-SPOKED TET THAL THEN THI TONE-4 TONGUE TSI TUAREG UR VERTICALLY VU WITHIN WRINKLED -A AD
AEN ANTIMONY AREA ATTACHED AV BABY BARLINE BEE BELL BET BOOK BOW BRIDGE BROKEN BUTTON CLEF CLOUD
CONTACT COPPER CORNERS CRESCENT CUPPED DAGGER DEE DEVICE DIFFERENTIAL DIGA DIGAMMA DIVIDER DOG
DOUBLE-LINE DUG EAR ECH EK ENY EQUIHOPPER ERIN2 EVEN EXTREMELY FATHATAN FEED FEMALE FILE FLAT
FTHORA GAF GANGIA GGA GIR2 GLASS GREAT HAND-CUP HAR HIRAGANA HOLDING HOOKED HORI HUMP INFINITY
INFORMATION IOTATED IS IZHE IZHITSA JEE JIHVAMULIYA KAI KAN KAVYKA KEHEH KHAMTI KHEI KHOKHLOM
KOPPA KU3 LOO LU3 MATHEMATICAL MBAA MEASURE MONOGRAM N-ARY NAA NABLA NARROW NDA NEW NHA NOSE
ORANGE PAD PEH PEN PWO RAE RAYS SAG SAMPI SAN SAR SCISSORS SHADDA SHARP SHI SHWE SINGLE-LINE
SIXTEENTH STILE SUBJOINED SUBSTITUTION SUM SUNG SWASH TEE THAN THESPIAN TIE TOO UA UK UPADHMANIYA
US VAV VOLAPUK VRACHY VYSOKO WIGGLY XE YAA YEE YN ZAPYATOY AB2 ALAYHE ALL ANUDATTA APPROXIMATELY
AQ ARM ARMENIAN BAN2 BASSA BBE BLACK-LETTER BOARD BREATHY BUILDING BURU CARD CHARIOT CHRIVI CIM
CIRCULAR CJK CLOSING COMMERCIAL COW CUBED CUP CURRENCY DAMMATAN DEL DHE DIM DISK DRUM DUB DZHA E2
EC EO EZ FENCE FLOURISH FLOWER GAA GAP GEE GEMINATION GEORGIAN GESHU GORAZDO HAL HAND-HOOK
HAND-OVAL HENG HIE HIP HOO HOT HOUSE IDEOGRAM INTERROBANG IU JIL JJA JOINED KASRATAN
KATAKANA-HIRAGANA KEN KENTIMATA KEYBOARD KIRGHIZ KISIM5 KNIFE KOO KPA KSSA KUSHU2 LAA
LEFT-TO-RIGHT LOGOGRAM LU2 MANCHU MAP MARK-1 MARK-2 MBA MEASURED MEDAL MONKEY MV MYSLITE NAME NAR
NEITHER NEPOSTOYANNAYA NGGA NJEE NJI NN NNNA NOTES OA OH OI OJIBWAY ONCOMING OPENING ORIGINAL OW
PALM PARAGRAPH PENTAGON PERCENT PII POINTER POLE POO PWA QAR QI QU RAA REE REPEAT RETURN RICE
ROCKET ROMAN ROOT ROTATION-FLOORPLANE ROTATION-WALLPLANE ROTUNDA SANDHI SCREEN SEMICIRCLE
SEMIDIRECT SHARU SHIFT SII SOO SUBLIMATE SYRIAC TAG TALL THAA THEE TINY TONE-1 TRAFFIC TTE TUR
TURTLE TWE U-SHAPED UM UMBRELLA UNIT URUDA VARIATION VEDIC VOS WAA WAY WIDE WIDTH WITHOUT WOO YAE
YELLOW YEN YER YOT ZEE ZEN AC ACE ACKNOWLEDGE ADEG AG AK ALAYHI ALTA AO APLI APPROXIMATE
ARROW-TAIL ARROWHEADS AS-SALAAM BAA BAG BAL BALAG BAN BARREE BARS BASE BEND BHE BIRD BONE BOTTLE
CANCEL CANCELLATION CAP CENTRALIZATION CHAR CHART CHECKER CHEE CHIN CHROMA CHU CI CIL CLOCK CROP
CUATRILLO CUSP DAG DALET DDDA DEGREE DELIMITER DEZH DISC DJE DLA DON DOUBLED DUN3 DYO DZELO EAT
EGYPTOLOGICAL EIE EKFONITIKON ELECTRIC ELLIPSE ENC ENT EP ERR ESCAPE ETHIOPIC EX EXTRA-HIGH
EXTRA-LOW FAA FEATHER FIGURE FINGER-POST FLATTENED FLOPPY FLORETTE FOOD FOOT FORK FOURTH FROWNING
GA2 GBE GHAN GHUNNA GI4 GOAL GOLD GROMNAYA GROMOPOVODNAYA GUR HAE HAMMER HAND-CLAW HEADED HEAVEN
HEE HELMET HOE HOURGLASS HP HV HYPHEN-MINUS IA IDENTICAL IDEOGRAPH IR ISOLATE ISOSCELES
J-SIMPLIFIED JACK JHAN JOIN JOKER KAA KAD3 KANG KAPA KENTIMA KHAR KHI KISS KK KLASMA KM KNUCKLE
KPO KRYZH KSI KUT KWAA KWE KWI KYEE LAI LAING LAMED LAS LEE LEFT-FACING LENGTHENER LIGHTNING LJE
LOCK LOQ LOTUS LUGAL MBE MBEE MCHU MEAT MEMBER MIDDLE-WELSH MIM MIN MM MOBILE MONOCULAR MWA MWI
MYANMAR NAGA NDAA NDE NDU NGAA NGI NIEUN-CIEUC NIEUN-HIEUH NIGHT NIKOLSBURG NOW NTAP NTEUM NU11
NWA NYAM NYIS OBOLS OHM OIL OK OOU OT OX PAA PAPER PAR PARENTHESIZED PATAH PENCIL PENTAGRAM
PERFECTA PHAR PIEUP-SIOS PIG PLA POLICE POSITION POSTAL POT POUND POVODNAYA PRESENTATION PROSTAYA
PWI QAMATS QE QO QUILL RADICAL RAFE RAILWAY RAM RAT RDEL RECEIVER RELATION REN REPA RIBBON
RIEUL-HIEUH RIEUL-KIYEOK RIEUL-MIEUM RIEUL-PIEUP RIEUL-SIOS RIGHT-FACING RIGHT-SHADOWED
RIGHT-TO-LEFT RII RUDIMENTA RUM SAA SANYAKA SATANGA SEBATBEIT SEQUENTIAL SERIFS SHA3 SHAKING SHEE
SHHA SHID SHII SHIR SHOGI SHOULDER SILHOUETTE SIMPLIFIED SIN SIXTEENTHS SKEWED SKLIRON SNAKE
SPIRAL SQUARES SQUIGGLE SS SSANGCIEUC SSANGKIYEOK SSANGPIEUP SSANGSIOS SSANGTIKEUT ST STICK
SUBLINEAR SUMMATION SUR SUU SVASTI SWEAT TAN TATWEEL TCHEH TELEGRAPH TESH THAM THIN TIGER TIKHAYA
TILTING TITLO TOGETHER TONE-6 TONE-8 TOOTH TOPBAR TRANSMISSION TRESVETLAYA TRIDENT TROMIKON TSO
TSU TTHO TUM TWENTY-FIVE UC UDATTA UI VANE VIN WALK WEE WESTERN WHEEL WINE WYNN XAN YAH YERI
YFESIS YOO YUT YYA ZAL ZATA ZHAR ZHEE ZZA -KHYIL A2 AELA-PILLA AFRICAN AIR AITON ALIF ALLO
ALTERNATIVE AMAR ANGER ANGLED ANJI ANSHE AR AROUND ASHGAB AW AXE AYB AZU BACK-TILTED BACKSLANTED
BAHAR2 BALLOON BALLOON-SPOKED BAMBOO BANK BAT BAYANNA BEI BEN BILABIAL BINDU BLACKFOOT BOLT BOWL
BOWTIE BRANCH BRICK BROWN BRUSH BUBBLES BUKY BULUG BUON BUS BZHI CAA CAKE CALENDAR CALL CAMERA
CANADIAN CASTLE CCHE CHICK CHILD CHRISTMAS CHRONON CLIFF CLOSE CLOTH CLOTHES CLUB CM COLD
COMPLETION COMPOSITION COMPUTER CONSTRUCTION CONTAIN CONTOUR COO COVER COVERING CREDIT CRYING CU
CUBE CURRENT CURVING CUT CWA CWAA CWI DANG DANTAJA DAP DAYANNA DDAYANNA DDO DECIMAL DEER DELETE
DENTAL DEPARTING DESCENDING DEVANAGARI DIATONIKI DIE DIM2 DIN DIRECT DIVIDE DIVIDED DJERV DJERVI
DKAR DOBRO DOCUMENT DRACHMA DRY DUN DVOECHELNAYA DWE EA EB ELEPHANT ENCLOSURE ENN ENTRY
EPIDAUREAN ETERNITY EV EW EXO EYEGAZE-WALLPLANE EZEN FACTOR FAX FENG FIFTH FIFTHS FIST FLEURON
FLORAL FLY FLYING FOM FOO FORTY-FIVE FREE FRITU FROG FRONT-TILTED FUNCTION GABA GATHERING GAYANNA
GAYANUKITTA GBA GBU GGE GHHA GHOST GIM GJE GLAGOLI GORGON GRANTHA GRINNING GROUP GSUM GTER
HALANTA HAND-CURLICUE HAND-FLAT HEADSTROKE HERMIONIAN HERU HEXAGON HLI HNA HON HUB2 HUMAN
HUNDREDS HWE IB IC ICON IH IMIN IMPERFECTA INCREASE ING INI INSERTION INTRODUCER IO IQ IRON ISH
ISON IT IY JAYANNA JEGOGAN JONGSEONG JOY KAKO KAL KAPYEOUNMIEUM KAPYEOUNPHIEUPH KAPYEOUNPIEUP
KARO KATHAKA KAY KEE KEH KETTI KHE KID KIN KISSING KIYEOK-SIOS KKA KNUCKLES KOI KOMBUVA KOREAN
KORONIS KUOP KW KWA KXA KYA LAAM LAKH LAP LAST LAZY LEADER LEATHER LEERAEWA LEFT-SHADED LET
LETTERS LEZH LH LINK LIP LISH LJUDIJE LOCATION LONGA LOVE LUH LUL LWA LY MAA MACHINE MAEM MAEMBA
MANDAILING MAPIQ MARBUTA MASK MB MBI MBIT MBO MBOO MBU MEE MEEEE MEGA MES MEUT MIEUM-PIEUP
MIEUM-SIOS MILITARY MIT MNAS MONOGRAPH MONTH MOO MRACHNAYA MUCH MUG MULTIMAP MUOY MUURDHAJA MW
MWAA MWE MYA N-CREE NAG NAH NASALIZATION NASHI NDAP NDEE NDI NDO NEE NEN NET NGGE NGGEN NGGO
NGGOO NGGU NGOM NIEUN-SIOS NIEUN-TIKEUT NIN NINDA2 NJAEM NJU NO-BREAK NOO NRA NSHA NSHUT NTEE
NULL NUNG NV NWAA NYE NYET NYU NZA OFFICE ONU OP OPEN-HEADED OPPOSITION OQ OTTAVA OUTER OVAL
OVERLAID OVERLAP OVERLAPPING OY PADA PALAUNG PAN PANSIOS PARAGRAPHOS PARAKALESMA PARAKLITIKI
PARENTHESES PART PARTY PATH PEACE PER PERPENDICULAR PEUX PHE PHONE PICTURE PIEUP-CIEUC
PIEUP-SIOS-TIKEUT PIEUP-TIKEUT PING PIWR PLACEHOLDER POKOJI POLISH PON POP POST POUTING POWER
PRAM PRAM-BEI PRAM-BUON PRAM-MUOY PRAM-PII PRISHTHAMATRA PRIVATE PUAE PURPLE PUSHPIN PUT PWAA PWE
QAA QAAF QOF QUO QUU RANGE RAP RATHA RECORD RECYCLING REFORMED REPETITION REUX RGYAN
RIEUL-PHIEUPH RIEUL-THIEUTH RIEUL-TIKEUT RIGHT-SHADED RISH RITSI ROG ROSETTE RUNNING SAFETY SAM
SARA SAT SAW SAYANNA SCHOOL SEAL SEGMENT SEGOL SELECTOR SEMI-VOICED SEMICIRCULAR SEUX SGAW SHADED
SHCHA SHEEP SHESH SHIELD SHIP SHITA SHOG SHOO SHOQ SHORTS SHTA SHWA SHY SIG4 SILK SIMA SIOS-CIEUC
SIOS-KIYEOK SIOS-PIEUP SIOS-TIKEUT SIXTH SIXTY-FOURTH SKULL SLEEPING SLIGHTLY SLOVO SMILE SNOW
SNOWFLAKE SNOWMAN SOGDIAN SOT SOURCE SPACING SPIRIT SPOON SSANGIEUNG SSANGNIEUN SSI SSO SSU STEP
STIGMA STOCK STONE STRANNO STRELA STRESS STRETCHED STRING STROKES SUA SUBSTITUTE SULFUR
SUPRALINEAR SUSPENSION SV SWA SWAA SWIRL SYLLABICS SYMBOLS TABLE TAE TARGET TAV TEARS TENS TENSE
TENT TENTH TESSERA THII THIRTY-FIVE THIRTY-SECOND THOO THOUGHT THREAD THU THUNDER THWA THWAA
TIBETAN TIGHT TIL TILE TIME TIR TLA TLE TLHA TLI TLO TLU TODO TONAL TONE-7 TOP-LIGHTED TRA
TRANSPOSITION TREND TROEZENIAN TRUCK TRUE TS TSADI TSATA TT TTEH TTHAA TTO TURN TVRIDO TWA TWAA
TWENTY-TWO TYPE UH UKRAINIAN UKU UNIFIED UPTURN UR2 USE UUE VEDE VERSE VEW VULGAR VY WAE WAITING
WASLA WAU WAVES WEO WHEAT WHEELCHAIR WHOLE WOMANS WON WOOD WORK WUE XEH XW YAGH YAJ YAJURVEDIC
YAK YATI YAZH YEO YEORINHIEUH YESIEUNG YESTU YIT YIWN YOQ YUQ YWA YWAA YY ZEMLJA ZHI ZHIVETE ZHO
ZHU -DZUD A001 A002 A003 A004 A005 A006 A007 A008 A009 A010 A011 A012 A013 A014 A015 A016 A017
A018 A019 A020 A021 A022 A023 A024 A025 A026 A027 A028 A029 A030 A031 A032 A033 A034 A035 A036
A037 A038 A039 A040 A041 A042 A043 A044 A045 A045A A046 A047 A048 A049 A050 A051 A052 A053 A054
A055 A056 A057 A058 A059 A060 A061 A062 A063 A064 A065 A066 A067 A068 A069 A070 A301 A302 A303
A304 A305 A306 A307 A308 A309A A310 A311 A312 A314 A315 A316 A317 A318 A319 A320 A321 A322 A323
A324 A325 A326 A327 A328 A329 A330 A331 A333 A334 A335 A336 A337 A338 A339 A340 A341 A342 A343
A344 A345 A346 A347 A348 A349 A350 A351 A352 A353 A354 A355 A356 A357 A358 A359 A360 A361 A362
A363 A364 A365 A366 A367 A368 A369 A370 A371 A501 A502 A503 A504 A505 A506 A508 A509 A510 A511
A512 A513 A515 A516 A520 A521 A523 A524 A525 A526 A527 A528 A529 A530 AAI AAN AAY ACADEMY ACCOUNT
ACTIVATE ACTUALLY ADULT AEB AEDA-PILLA AEE AEG AEK AESC AET AEY AKHMIMIC ALAPH ALEMBIC ALEUT ALFA
ALIEN ALLAAH ALLI ALLIANCE ALVEOLAR AMB ANCHOR ANCORA ANGLICANA ANNOTATION ANTARGOMUKHA ANTENNA
ANTIMONIATE ANTIRESTRICTION AP APESO APL APLOUN APODERMA APOSTROFOI APOSTROFOS APPLE APPLICATION
ARABIAN ARAEA ARCH ARDHAVISARGA ARGI ARGOSYNTHETON ARISTERA ARTS ASCENDING ASHES ASPIRATION
ASSYRIAN ASTROLOGICAL ASYMPTOTICALLY ATHAPASCAN ATIU AUE AUTOMOBILE AWAY AWX AX AYAH AYN AZ B001
B002 B003 B004 B005 B006 B007 B008 B009 BACKSPACE BADGER BALUDA BAMUM BASELINE BASHKIR BATH
BATHTUB BATTERY BBI BBO BBU BBUT BCAD BEAM BEAMED BEAR BEAT BEAVER BEEH BEER BEETLE BEHEH BEHIND
BENZENE BERBER BEVERAGE BHETH BHO BICYCLIST BINARY BINDI BINDING BINOCULAR BIT BITING BKA-
BLACK-FEATHERED BLACKLETTER BLADE BLANK BLENDED BLOCK-2 BLOCK-3 BLOCK-4 BLOCK-5 BLOCK-6 BLOCK-7
BLOOD BLOSSOM BLOWING BOAR BOAT BODY BOHAIRIC BOO BOOKMARK BOOMERANG BOOT BOPOMOFO BOTH BOUQUET
BRA BRACKETED BRDA BREAD BREAK BREATH BREVIS BRIGHTNESS BROAD BUILDINGS BWA BWEE BWI
BYELORUSSIAN-UKRAINIAN BYZANTINE BZUNG CADUCEUS CAKRA CAMEL CANNON CARPENTRY CARRIAGE CART
CAUDATE CAULDRON CAYANNA CAYN CC CD CECAK CEE CENT CENTRELINE CER-WA CH CHAA CHAIR CHASHKA CHAT
CHEEKS CHEH CHELYUSTKA CHEROKEE CHEVRON CHILLU CHINESE CHOREVMA CHOSEONG CHRONOU CHURCH CIP
CIRCLING CITY CITYSCAPE CLAN CLINKING CLUSTER-INITIAL COAT COMMAND CON CONGRATULATION CONJOINING
CONSECUTIVE CONSTANT COOKIE COPRODUCT COPYRIGHT CREAM CRICKET CROCUS CROSSBAR CROSSBONES
CROSSHATCH CROWN CULTIVATION CUM CUNEIFORM CUOP CURLICUE CWE CWII CWO CWOO CY CYA CYP CYT DAA
DAALI DAHAL DALATH DALDA DAP-BEI DAP-BUON DAP-MUOY DAP-PII DAP-PRAM DAR DARA3 DARK DARKENING DAT
DATA DATE DAY DB DCHE DDAA DDAHAL DDAL DDDHA DDE DDHAA DDHO DDI DDU DDUR DEATH DECORATION
DECREASE DEI DEMESTVENNY DENE DENOMINATOR DEPARTURE DESKTOP DEXIA DEYTEROS DH DHO DIB DIESIS
DIFONIAS DIGRAM DIGRAMMOS DIMINUTION-1 DINGBAT DIRECTION DIRECTIONAL DIRECTLY DISAPPOINTED
DISIMOU DIVINATION DIZZY DJA DLE DOACHASHMEE DOI DOLLS DONG DOO DOOR DOUBLE-LINED DOVE DRACHMAS
DRAM DRAUGHTS DRAWINGS DRESS DRINK DRIVE DROP-SHADOWED DROPLET DUL DUNG DV DVOECHELNOPOVODNAYA
DYEH DZEE DZHE DZI DZJE DZO DZU DZWE DZZE DZZHE EAGLE EARS EASTERN ECS ED EG EGG EGY EHCHA EHKA
EHPA EHTA EHTSA EIGHTIETHS EIN EJ ELAMITE ELIFI ELY EMBEDDING EMOJI EMP EMPHASIS ENCLOSING
ENCLOSURES ENGINE ENQUIRY ENT-SHAPED ENTER ENTERPRISE EPENTHETIC EPIGRAPHIC ERA ERASE EREN ESHE3
ESZ ETERON ETY EURO EUROPEAN EWE EYEBROWS EYEGAZE-FLOORPLANE EYN EZS FACING FAMILY FAN FATHER FEI
FEMININE FERMATA FF FIELD FILM FINANCIAL FIXED-FORM FLAME FLATBREAD FLEXUS FLICK FLIP FLUTE
FLUTTERING FOLLOWING FON FONT FOOTBALL FOOTNOTE FORKED FORTIETH FOUNTAIN FOX FRAKTUR FRAME FRENCH
FRETBOARD FROWN FUE FULLWIDTH FUNCTIONAL FUR FWA FWAA FWEE FWI GAETTA-PILLA GAH GAME GAPPED
GARSHUNI GATE GAY GBEE GBI GBO GBOO GCIG GEAR GENERAL GEOMETRICALLY GEP GERESH GERSHAYIM GESHTIN
GESTURE GGI GGO GGOP GGU GGUO GHAA GHAD GHEUAE GHO GIBBOUS GLAGOLITIC GLOBE GNYIS GONDI GORGI GOT
GRACE GRAM GRASS GREATER GROMOKRYZHEVAYA GROUND GU2 GUARD GUARDED GUEH GUL GUM GUR7 GURAGE GV GWA
GWE GWEE GWI GYAS GYON HALF-CIRCLE HALFWIDTH HAN HANDLE HANGZHOU HASANTA HATE HAU HAVE HEADING
HEADSTONE HEART-SHAPED HEBREW HEI HEN HENTAIGANA HERE HET HETA HG HHAA HHWA HIEROGLYPH
HIGH-REVERSED-9 HII HIN HINGE HIRIQ HIT HIYO HLA HMO HMONG HOCKEY HOLAM HOLE HOLO HOMOTHETIC HOP
HORNS HORR HOTEL HOUR HTA HUGGING HUN HWAIR HXIT HXOP HXUO HYA HYPHENATION HZ IAN IAUDA ICHIMATOS
IDENTIFICATION IDEOGRAPH-4E09 IDEOGRAPH-4E8C IDEOGRAPH-6253 IDIM IDLE IEUNG-KIYEOK IG IJ IJE
ILIMMU INDIC INHIBIT INNER INTEGRATION INTERIOR INTERLACED INTERPOLATION IS-PILLA ISSHAR IX IYEK
JAA JADE JAR JAW JEH JHEH JIIM JJI JJIE JJO JJU JJUT JJY JNYA JOO JUNGSEONG JUSTIFICATION JWA KA2
KAAF KAB KABA KAD2 KAD5 KAH KANNADA KAP KAPYEOUNRIEUL KAPYEOUNSSANGPIEUP KASHMIRI KAYAH KAYANNA
KEEPING KEMPLI KEMPUL KESH2 KEUM KEUX KEYCAP KG KHAA KHAI KHAKASSIAN KHAPH KHHA KHHO KHMER KINNA
KIP KIT KJE KLYUCH KLYUCHENEPOSTOYANNAYA KNIGHT-BISHOP KNIGHT-QUEEN KNIGHT-ROOK KOK KON KONTEVMA
KORANIC KOTO KP KPE KPEE KPI KPOO KPU KRYUKOVAYA KUL KUN KVA KWEE KWII KWO KWOO L-SHAPED LABIAL
LABOR LAE LAK-050 LAK-079 LAK-081 LAKE LAME LAMP LAN LANE LANES LANTANG LAO LARGER LATERAL
LATINATE LAULA LAW LAYANNA LCE LEEEE LEGETOS LEIMMA LEK LENGA LENIS LESH LEU LEVEL LHAA LHI LHO
LID LIE LIMMU LINEAR LINES LING LIQUID LIRA LISU LITTER LIWN LJ LOCKING-SHIFT LOCOMOTIVE LOM LOOT
LOW-9 LOW-FALLING LOWERED LS LUE LUGGAGE LV LWAA LWE LWI LWII LWO LWOO LYR LZ M001 M002 M003 M004
M005 M006 M007 M008 M009 M010 M011 M012 M013 M014 M015 M016 M017 M018 M019 M020 M021 M022 M023
M024 M025 M026 M027 M028 M029 M030 M031 M032 M033 M034 M035 M036 M037 M038 M039 M040 M041 M042
M043 M044 MADDAH MAE MAESI MAGNIFYING MAH MAILBOX MALAYALAM MANDARIN MAQ MAR MARK-3 MARTYRIA
MASH2 MAY MAYEK MBANYI MBEN MBEUM MC MCHAN MDUN MEDEFAIDRIN MEDIEVAL MEEJ MEET MEETEI MELON
MEM-QOPH MERCURY MERGE MESH MESO MESSAGE METAL MEUN MGBA MHA MICROPHONE MID-LEVEL MIDLINE MIEE
MIEUM-KIYEOK MIEUM-PANSIOS MIG MIIM MILLE MINIMA MIRROR MLA MODIFIER-2 MODIFIER-3 MODIFIER-4
MODIFIER-5 MODIFIER-6 MONEY MONGOLIAN MONOFONIAS MONOGRAMMOS MONOSPACE MOOD MOP MORTAR MOTHER
MOTOR MOUND MOVE MPA MUAE MUAN MUCAAD MUSH3 MUSIC MVOP MWEE MWII MWO MWOO MY NA-2 NA2 NAASIKYAYA
NAE NAKAARA NAM2 NANA NAQ NASAL NATIONAL NATURAL NAYANNA NBIE NDAM NDOLE NDOO NE-2 NECK NEGATED
NEL NENOE NEPTUNE NEQUDAA NEST NESTED NEWLINE NEWSPAPER NEXT NGAS NGE NGEN NGGAAM NGGEE NGGEUAET
NGGI NGHA NGKA NGKUE NGKWAEN NGOEH NGON NGOP NGOU NIB NIEUN-KIYEOK NIEUN-PANSIOS NII NJ NJA
NJAEMLI NJAM NJEUX NJO NJOO NJUAE NJUEQ NKAARAE NODE NORTHERN NOTCH NOZHKA NSHIEE NSIEE NTAA NTOG
NTUU NUAE NUENG NUMERATOR NUMERIC NUNUZ NUT NUTILLU NWE NWI NWII NWO NWOO NY NYAA NYEE NYEH NYHA
NYIP NYIT NYOP NZUP OAY OCTAGON OEE OEK OIN OKTO OL OLDER OLIGON OLIVE OMET OMISSION
ONE-HUNDRED-AND-SIXTIETH ONG ONN OOE OPTICAL ORDINAL OS OTU OUNCE OV OVERLONG OVERRIDE OXEIA
OYRANISMA PAA-PILLA PAAM PAGES PAHLAVI PAKPAK PALOCHKA PAMADA PAMPHYLIAN PAMUDPOD PANGOLAT PANTI
PARA PARALLELOGRAM PARAPHRASE PARESTIGMENON PARTNERSHIP PATTERN PAW PAYANNA PAYEROK PEAKS PEDAL
PEDESTAL PEDESTRIAN PEHEH PELASTON PENNANT PENTASEME PEOPLE PEPET PEPPER PERCUSSIVE PERMIC
PERSIAN PERSONAL PESH2 PESO PETALLED PHAA PHARYNGEAL PHIEUPH-PIEUP PHRASE PHUR PIASMA PICK PIE
PIEUP-CHIEUCH PIEUP-HIEUH PIEUP-KIYEOK PIEUP-PHIEUPH PIEUP-SIOS-KIYEOK PIEUP-THIEUTH PILCROW PIN
PIP PIPAEMBA PIPAEMGBIEE PIRIG PISELEH PIT PITCHFORK PLAGIOS PLANE PLAYING PLOPHU PLUTA PLUTO PM
PNEUMATA PODCHASHIE POLI POLLU POMMEE POSSESSION POTATO PRECEDE PRECEDING PREFIXED PREGNANT
PREPONDERANCE PRINT PRINTER PROLATIONE PROLONGED PROPELLER PROPORTION PROTECTED PROTOS PSIFISTON
PU2 PUE PUP PWEE PWII PWOO PYT QAI QATAN QII QITSA QOO QOT QUA QUE QUI QUILT QUOTE QUV QWE QWEE
QWI R-CREE RA-2 RABBIT RACING RACQUET RAD RADI RADIO RAISING RAMS RANA RAY RDO REACH RECTANGULAR
RECTILINEAR REDUPLICATION REGULUS RELAXED RELIEVED REPLACEMENT RERENGGAN RESOURCE RESPONSE
REVOLVING RGYA RGYINGS RIEE RIEUL-KAPYEOUNPIEUP RIEUL-KHIEUKH RIEUL-KIYEOK-SIOS RIEUL-NIEUN
RIEUL-PANSIOS RIEUL-PIEUP-SIOS RIEUL-SSANGKIYEOK RIEUL-YEORINHIEUH RIKRIK RINGS RJE RNAM RNOON
RNYING ROCK ROHINGYA ROLLER ROLLING ROMANIAN ROO ROTATION ROTATIONS RRE RREH RRO RUB RULER RUMAI
RWA RWAA RY S-SHAPED SA-2 SADE SAFHA SAH SALLA SALLALLAHOU SALTILLO SAMARITAN SAMBA SANDAL SAP
SARI SATELLITE SAY SCANDICUS SCOOTER SCOTS SEGNO SEH SEISMA SELECTED SELF SEMIBREVIS SEMIMINIMA
SEMISOFT SEMKATH SERIF SESAME SEXTULA SGAB SHA6 SHAA SHANG SHAPES SHAPING SHAT SHELF SHET SHEUX
SHIM SHIQ SHOP SHOPPING SHOY SHRI SHRIMP SHTAPIC SHUR SHWAA SHWI SHWII SHWO SHWOO SIBE SIG
SIGMOID SIGNS SIK2 SILA3 SINHALA SINNYIIYHE SIOS-CHIEUCH SIOS-HIEUH SIOS-MIEUM SIOS-NIEUN
SIOS-RIEUL SIOS-THIEUTH SIXTHS SIYAQ SIZE SJE SKAMEYTSA SKATE SKI SLICE SLOW SLUR SMALLER SMASH
SMOKING SNOUT SOAP SOCIETY SOF SOLDIER SOM SOROCHYA SOS SOU SOUTHERN SP SPA SPADE SPARKLE SPEAKER
SPEAR SPECIAL SPHERICAL SPIDERY SPLAYED SPLIT SQUAT SQUEEZE SQUIRREL SREDNE SSANGHIEUH SSANGRIEUL
SSE SSUU STAMPED STANDARD STATYA STAVROS STEAM STICKING STOPITSA STORE STRATUM STRONG STUDY
SUBJOINER SUCCEED SUCKED SUE SUHUR SUKU SUNDANESE SUNGLASSES SUPERVISE SURANG SURFACE SURROUND SW
SWAPPING SWE SWEET SWI SWII SWO SWOO SYMBOL-1 SYMBOL-11 SYMBOL-12 SYMBOL-13 SYMBOL-14 SYMBOL-17
SYMBOL-18 SYMBOL-19 SYMBOL-2 SYMBOL-23 SYMBOL-24 SYMBOL-4 SYMBOL-5 SYMBOL-50 SYMBOL-51 SYMBOL-52
SYMBOL-53 SYMBOL-54 SYMBOL-7 SYMBOL-8 SYMMETRIC SYNAGMA SYNCHRONOUS TA-2 TA-ROL TAALUJA TAILED
TALING TALLY TAMING TANGENT TANGUT TANNED TAPE TAT TAXI TAYANNA TC TCHE TCHEHEH TE-2 TEHEH TELEIA
TELISHA TELOUS TENNIS TERMINATOR TETARTIMORION TETARTOS TETRASEME TETRASIMOU TEUAEN TEUAEQ THEMA
THERMOMETER THESEOS THETHE THONG THREE-D THUMBS TIGHTLY-CLOSED TIKEUT-CIEUC TIKEUT-KIYEOK
TIKEUT-PIEUP TIKEUT-RIEUL TIKEUT-SIOS TIKHY TIRONIAN TIT TITA TIWN TJE TLHE TLHI TLHO TLV TOQ
TORCULUS TOT TOTAL TOUCHING TOUCHTONE TOWARDS TRACK TRAIN TRAY TREMOLO-1 TREMOLO-2 TREMOLO-3
TRESILLO TRICOLON TRIGRAMMOS TRISEME TRISIMOU TRITIMORION TROKUTASTI TROPICAL TRUNK TSEE TSHE
TSHES TSSE TSV TSWE TTAA TTAYANNA TTEHEH TTHE TTHI TTI TTTA TTUDDAAG TUK TUOT TUP TURBAN
TWENTIETH TWENTIETHS TWENTY-EIGHTH TWENTY-FOUR TWENTY-ONE TWENTY-THREE TWI TWII TWO-CIRCLE
TWO-WAY TWOO TYPE-3 TYPE-4 TYPE-5 TYPE-6 TZ UB UBADAMA UEX UEZ UIGHUR ULU UMUM UNDERLINE UNDERTIE
UNIVERSAL UNK UNN UO UPWARD URANUS URU USED UY VAA VAH VAREIA VASIS VEH VEND VEP VICTORY VIDA
VIDEO VIET VINEGAR VISIGOTHIC VIYO VOICING VOO VOU VUR WANING WAP WASALLAM WATCH WAVING
WAW-AYIN-RESH WAX WAXING WC WEARY WEDGE-TAILED WEI WEIGHT WHALE WIDE-HEADED WII WINDOW WINDU
WINKING WOLOSO WOODS-CREE WOOL WRENCH WRINKLES WRITING WUO WV XO XVA XYA XYE YA-YO YAKH YAM YAN
YAP YAQ YAR YAWN YAY YAZ YEAR YESIEUNG-PANSIOS YESIEUNG-SIOS YHE YIDDISH YIE YO-I YO-YA YO-YAE
YOGH YR YU-I YU-YE YU-YEO YUJ YUM YUOP YUWOQ YV YWE YWI YWII YWO YWOO ZA7 ZAA ZADERZHKA ZAYN
ZEMLYA ZHWE ZIDA ZIZ2 ZJE ZLA ZOO ZOT ZU5 ZUP ZUR ZWJ ZY ZZE ZZI ZZIET ZZO ZZU -CHAL -CHAR -KHYUD
-PHRU -UM A-1 A-2 A-3 A-EU A-O A-U A-WO A005A A006A A006B A010A A014A A017A A026A A028B A032A
A039A A040A A041A A042A A043A A046A A046B A066A A066B A066C A071 A072 A073 A074 A075 A076 A077
A078 A079 A080 A081 A082 A083 A084 A085 A086 A087 A088 A089 A090 A091 A092 A093 A094 A095 A096
A097 A097A A098 A098A A099 A100 A100-102 A100A A101 A101A A102 A102A A103 A104 A104A A104B A104C
A105 A105A A105B A106 A107 A107A A107B A107C A108 A109 A110 A110A A110B A111 A112 A113 A114 A115
A115A A116 A117 A118 A119 A120 A120B A121 A122 A123 A124 A125 A125A A126 A127 A128 A129 A130 A131
A131C A132 A133 A134 A135 A135A A136 A137 A138 A139 A140 A141 A142 A143 A144 A145 A146 A147 A148
A149 A150 A151 A152 A153 A154 A155 A156 A157 A158 A159 A160 A161 A162 A163 A164 A165 A166 A167
A168 A169 A170 A171 A172 A173 A174 A175 A176 A177 A178 A179 A180 A181 A182 A183 A184 A185 A186
A187 A188 A189 A190 A191 A192 A193 A194 A195 A196 A197 A198 A199 A200 A201 A202 A202A A202B A203
A204 A205 A206 A207 A207A A208 A209 A209A A210 A211 A212 A213 A214 A215 A215A A216 A216A A217
A218 A219 A220 A221 A222 A223 A224 A225 A226 A227 A227A A228 A229 A230 A231 A232 A233 A234 A235
A236 A237 A238 A239 A240 A241 A242 A243 A244 A245 A246 A247 A248 A249 A250 A251 A252 A253 A254
A255 A256 A257 A258 A259 A260 A261 A262 A263 A264 A265 A266 A267 A267A A268 A269 A270 A271 A272
A273 A274 A275 A276 A277 A278 A279 A280 A281 A282 A283 A284 A285 A286 A287 A288 A289 A289A A290
A291 A292 A293 A294 A294A A295 A296 A297 A298 A299 A299A A3 A300 A309 A309B A309C A313 A313A
A313B A313C A329A A332 A332A A332B A332C A336A A336B A336C A359A A364A A368A A371A A372 A373 A374
A375 A376 A377 A378 A379 A380 A381 A381A A382 A383 A383A A384 A385 A386 A386A A387 A388 A389 A390
A391 A392 A393 A394 A395 A396 A397 A398 A399 A400 A400-VAS A401 A401-VAS A402 A402-VAS A403
A403-VAS A404 A404-VAS A405 A405-VAS A406 A406-VAS A407 A407-VAS A408 A408-VAS A409 A409-VAS A410
A410-VAS A410A A411 A411-VAS A412 A412-VAS A413 A413-VAS A414 A414-VAS A415 A415-VAS A416
A416-VAS A417 A417-VAS A418 A418-VAS A419 A420 A421 A422 A423 A424 A425 A426 A427 A428 A429 A430
A431 A432 A433 A434 A435 A436 A437 A438 A439 A440 A441 A442 A443 A444 A445 A446 A447 A448 A449
A450 A450A A451 A452 A453 A454 A455 A456 A457 A457A A458 A459 A460 A461 A462 A463 A464 A465 A466
A467 A468 A469 A470 A471 A472 A473 A474 A475 A476 A477 A478 A479 A480 A481 A482 A483 A484 A485
A486 A487 A488 A489 A490 A491 A492 A493 A494 A495 A496 A497 A507 A514 A517 A518 A519 A522 A531
A532 A534 A535 A536 A537 A538 A539 A540 A541 A542 A545 A547 A548 A549 A550 A551 A552 A553 A554
A555 A556 A557 A559 A563 A564 A565 A566 A568 A569 A570 A571 A572 A573 A574 A575 A576 A577 A578
A579 A580 A581 A582 A583 A584 A585 A586 A587 A588 A589 A591 A592 A594 A595 A596 A598 A600 A601
A602 A603 A604 A606 A608 A609 A610 A611 A612 A613 A614 A615 A616 A617 A618 A619 A620 A621 A622
A623 A624 A626 A627 A628 A629 A634 A637 A638 A640 A642 A643 A644 A645 A646 A648 A649 A651 A652
A653 A654 A655 A656 A657 A658 A659 A660 A661 A662 A663 A664 A701 A702 A703 A704 A705 A706 A707
A708 A709 A709-2 A709-3 A709-4 A709-6 A710 A711 A712 A713 A714 A715 A717 A726 A732 A800 A801 A802
A803 A804 A805 A806 A807 AA001 AA002 AA003 AA004 AA005 AA006 AA007 AA007A AA007B AA008 AA009
AA010 AA011 AA012 AA013 AA014 AA015 AA016 AA017 AA018 AA019 AA020 AA021 AA022 AA023 AA024 AA025
AA026 AA027 AA028 AA029 AA030 AA031 AA032 AABAAFILI AAJ AAK AAM AANG AAO AARU AAU AAW AAYANNA
AAYIN AAZHAAKKU AB001 AB002 AB003 AB004 AB005 AB006 AB007 AB008 AB009 AB010 AB011 AB013 AB016
AB017 AB020 AB021 AB021F AB021M AB022 AB022F AB022M AB023 AB023M AB024 AB026 AB027 AB028 AB029
AB030 AB031 AB034 AB037 AB038 AB039 AB040 AB041 AB044 AB045 AB046 AB047 AB048 AB049 AB050 AB051
AB053 AB054 AB055 AB056 AB057 AB058 AB059 AB060 AB061 AB065 AB066 AB067 AB069 AB070 AB073 AB074
AB076 AB077 AB078 AB079 AB080 AB081 AB082 AB085 AB086 AB087 AB118 AB120 AB122 AB123 AB131A AB131B
AB164 AB171 AB180 AB188 AB191 ABACUS ABAFILI ABB ABUNDANCE ABYSMAL ACCENT-STACCATO ACCEPT
ACCOMMODATION ACCORDION ACCUMULATION ACK ACROPHONIC ACUTE-GRAVE-ACUTE ACUTE-MACRON ADAK ADDAK
ADDRESS ADDRESSED ADHESIVE ADI ADLAM ADMETOS ADMISSION ADO ADVANCE ADVANTAGE AED AEEYANNA AEGEAN
AEL AENG AER AERIAL AES AESCULAPIUS AEYANNA AFFIX AFFRICATION AFGHANI AFOREMENTIONED AFSAAQ AFTER
AGAIN AGAINST AGE AGGRAVATED AGGRAVATION AGOGI AGUNG AHAD AHAGGAR AHANG AHH AHOM AHSA AHSDA AID
AIHVUS AIKARA AILM AINN AINU AIVA AIVILIK AIYANNA AKARA AKBAR AKSA AKTIESELSKAB AKURU AL-JUZ
AL-LAKUNA ALAF ALAN ALARM ALAYHAA ALAYHIM ALAYHIMAA ALAYNAA ALBANIAN ALCHEMICAL ALERT ALF ALGIZ
ALIFU ALIGNED ALKALI ALKALI-2 ALLAAHU ALLAH ALLAHOU ALM ALPA ALPAPRANA ALT ALTERNATION ALUM
AMALGAM AMALGAMATION AMBA AMBULANCE AMERICAN AMERICAS AMOUNT AMPHORA AMPS AMULET AN-NISF ANAP
ANATOLIAN ANATOMICAL ANATRICHISMA ANDAP ANGED ANGEL ANGKA ANGKHANKHU ANGRY ANGSTROM ANGUISHED
ANGULAR ANH ANHAA ANHU ANHUM ANHUMAA ANHUNNA ANIMAL ANKH ANN ANNAAU ANNUITY ANPEA ANSUZ ANT
ANTICLOCKWISE-ROTATED ANTIFONIA ANTIKENOKYLISMA ANTIKENOMA ANTIMONY-2 ANUSVARAYA AOR AOU APAATO
APART APC APIN APODEXIA APOLLON APOTHEMA APOTHES APPROACH APPROACHES APRIL APUN AQUA AQUAFORTIS
AQUARIUS AR-RAHEEM AR-RAHMAN AR-RUB ARAD ARAEA-A ARAEA-E ARAEA-EO ARAEA-I ARAEA-U ARAEAE ARAMAIC
ARDHACANDRA ARE AREPA ARGON ARGOTERI ARIES ARKAANU ARKAB ARKTIKO ARLAUG ARMOUR ARMS ARMY
AROUND-PROFILE AROURA AROUSING ARPEGGIATO ARRAY ARRIVE ARRIVING ARROWHEAD-SHAPED ARSENIC ARSEOS
ARTA ARTABE ARTICULATED ARTIST ARUHUA AS-SAJDA AS-SALAATU ASAL2 ASAT ASCENT ASCIA ASH3 ASH9
ASIA-AUSTRALIA ASPER ASPIRATED ASSALLAM ASSERTION ASTERISCUS ASTERISKS ASTERISM ASTONISHED
ASTRAEA ASTRONOMICAL ASYURA ASZ ATH-THALATHA ATHARVAVEDIC ATHLETIC ATIKRAMA ATIYA ATMAAU ATNAH
ATOM ATT ATTACHING ATTAK ATTENTION ATTHACAN ATTIC AUBERGINE AUGMENTATION AUGUST AUNN AURAMAZDAA
AURAMAZDAA-2 AURAMAZDAAHA AURIPIGMENT AUSTRAL AUTO AUTOMATED AUTUMN AUYANNA AVAKRAHASANYA AVERAGE
AVESTAN AVOCADO AWC AWE AWQ AWZ AYANNA AYER AYIN-DALETH AZZA B005A B010 B011 B012 B013 B014 B015
B016 B017 B018 B019 B020 B021 B022 B023 B024 B025 B026 B027 B028 B029 B030 B031 B032 B033 B034
B036 B037 B038 B039 B040 B041 B042 B043 B044 B045 B046 B047 B048 B049 B050 B051 B052 B053 B054
B055 B056 B057 B058 B059 B060 B061 B062 B063 B064 B065 B066 B067 B068 B069 B070 B071 B072 B073
B074 B075 B076 B077 B078 B079 B080 B081 B082 B083 B085 B086 B087 B089 B090 B091 B100 B102 B104
B105 B105F B105M B106F B106M B107F B107M B108F B108M B109F B109M B120 B121 B122 B123 B125 B127
B128 B130 B131 B132 B133 B135 B140 B141 B142 B145 B146 B150 B151 B152 B153 B154 B155 B156 B157
B158 B159 B160 B161 B162 B163 B164 B165 B166 B167 B168 B169 B170 B171 B172 B173 B174 B176 B177
B178 B179 B180 B181 B182 B183 B184 B185 B189 B190 B191 B200 B201 B202 B203 B204 B205 B206 B207
B208 B209 B210 B211 B212 B213 B214 B215 B216 B217 B218 B219 B220 B221 B222 B225 B226 B227 B228
B229 B230 B231 B232 B233 B234 B236 B240 B241 B242 B243 B245 B246 B247 B248 B249 B250 B251 B252
B253 B254 B255 B256 B257 B258 B259 B305 BA-2 BAARERU BACKWARD BACON BACTRIAN BADGE BADMINTON BAG3
BAGA BAGEL BAGGAGE BAGS BAGUETTE BAH BAHIRGOMUKHA BAHT BAIMAI BAIRKAN BALD BALINESE BALLET
BALLPOINT BANANA BAND BANDAGE BANG BANJO BANKNOTE BANTOC BAP BARA2 BARBER BARIYOOSAN BARLEY
BARREKH BARRIER BASEBALL BASH BASKET BASKETBALL BATAK BATHAMASAT BAU BAX BB BBAA BBAP BBAT BBAX
BBEE BBEP BBEX BBIE BBIEP BBIET BBIEX BBIP BBIT BBIX BBOP BBOT BBOX BBUO BBUOP BBUOX BBUP BBUR
BBURX BBUX BBY BBYP BBYT BBYX BEACH BEADS BEAN BEANS BEARDED BEATING BECAUSE BED BEEHIVE BEETA
BEFORE BEGINNER BEGINNING BEITH BEL BELGTHOR BELLHOP BENDE BENGALI BENTO BEORC BEP BERKANAN BEX
BEYYAL BH BHAA BHAIKSUKI BHAM BHATTIPROLU BHEE BHI BHOO BHU BIB BIBLE-CREE BICEPS BICYCLE
BICYCLES BIDENTAL BIE BIEP BIET BIEX BIKINI BILLED BILLIARDS BILLIONS BINOVILE BIOHAZARD BIP
BIRTHDAY BIRU BISAH BISECTING BISMILLAH BISMUTH BISON BITCOIN BITE BITTER BIX BJARKAN BLA BLINK
BLOCK-1358 BLOND BLOW BLOWFISH BLUEBERRIES BOA BOM BOMB BOOKS BOOTS BOP BORAX BORAX-2 BORAX-3
BORUTO BORZAYA BORZY BOT BOTTOM-LIGHTED BOTTOM-SHADED BOUNDARY BOWING BOWLING BOXING BOY BOYS BPH
BQ BRACE BRACKETS BRAHMI BRAILLE BRAIN BRAKCET BRANCHES BRANCHING BREAKTHROUGH BREAST-FEEDING
BREVE-MACRON BRI BRIDE BRIEFCASE BRIEFS BRISTLE BROCCOLI BRONZE BROOM BS BSDUS BSKA- BSKUR BSTAR
BUCKET BUCKLE BUFFALO BUG BUGINESE BUHID BULB BULL BULLHORN BULLS BULLSEYE BUMPY BUNG BUNNY BUO
BUOP BUOX BUOY BUP BUR2 BURRITO BURX BUSINESS BUSSYERU BUST BUSTS BUTTER BUTTERFLY BUUMISH BUX
BWE BXG BYP BYR BYRX BYT BYTE BYX C-18 C-39 C001 C002 C002A C002B C002C C003 C004 C005 C006 C007
C008 C009 C010 C010A C011 C012 C013 C014 C015 C016 C017 C018 C019 C020 C021 C022 C023 C024 CAAI
CAANG CABBAGE-TREE CABINET CABLEWAY CACTUS CADA CAESURA CAH CAI CAL CALC CALCULATOR CALX CALYA
CAMNUC CAMPING CANCER CANDLE CANDY CANE CANG CANNED CANOE CANTILLATION CAPITULUM CAPO CAPPED
CAPRICORN CAPTIVE CAPUT CARDS CARE CARIAN CARIK CAROUSEL CARP CARROT CARS CARTRIDGE CARTWHEEL
CARYSTIAN CASKET CATAWA CAU CAUCASIAN CAUDA CAUTION CAVE CAX CCA CCAA CCE CCEE CCH CCHA CCHAA
CCHEE CCHHA CCHHAA CCHHE CCHHEE CCHHI CCHHO CCHHU CCHI CCHO CCHU CCI CCO CCU CEALC CECEK CEDI
CEEB CEEV CEIRT CELEBRATION CELSIUS CELTIC CEN CENTURIAL CEONGCHIEUMCHIEUCH CEONGCHIEUMCIEUC
CEONGCHIEUMSIOS CEONGCHIEUMSSANGCIEUC CEONGCHIEUMSSANGSIOS CEP CEREK CEREMONY CERES CEVITU CEX
CGJ CHAD CHADA CHAINS CHAKMA CHAM CHAMILI CHAMILON CHAMKO CHAN CHANG CHANGE CHAP CHAPTER CHATTAWA
CHAU CHAVIYANI CHAX CHEEK CHEEM CHEERING CHEESE CHEIKHAN CHEIKHEI CHEINAP CHELNU CHEN CHEP
CHEQUERED CHERRIES CHERRY CHERY CHESTNUT CHET CHEX CHHA CHHIM CHICKEN CHIEUCH-HIEUH
CHIEUCH-KHIEUKH CHIKI CHIL CHILDREN CHIM CHIME CHING CHINOOK CHIPMUNK CHIRET CHIRON
CHITUEUMCHIEUCH CHITUEUMCIEUC CHITUEUMSIOS CHITUEUMSSANGCIEUC CHITUEUMSSANGSIOS CHOA CHOCOLATE
CHOE CHOKE CHOP CHOPSTICKS CHORASMIAN CHOT CHOX CHOY CHROA CHRYSANTHEMUM CHULA CHUO CHUOP CHUOT
CHUOX CHUP CHUR CHURX CHUX CHWA CHWV CHY CHYP CHYR CHYRX CHYT CHYX CIE CIEP CIET CIEUC-IEUNG
CIEUC-PIEUP CIEUC-SSANGPIEUP CIEX CII CIN CINEMA CINNABAR CIRCULATION CIRCUS CIT CITATION CITI
CIVILIAN CIX CL CLAIM CLAMSHELL CLAPPER CLAPPING CLASSICAL CLAW CLEAR CLEAVER CLEF-1 CLEF-2
CLIMACUS CLIMBING CLINGING CLIPBOARD CLIVIS CLOSENESS CLOSET CLOSURE CLOVER CLOWN CLUB-SPOKED
CLUSTER CLUSTER-FINAL CM001 CM002 CM004 CM005 CM006 CM007 CM008 CM009 CM010 CM011 CM012 CM012B
CM013 CM015 CM017 CM019 CM021 CM023 CM024 CM025 CM026 CM027 CM028 CM029 CM030 CM033 CM034 CM035
CM036 CM037 CM038 CM039 CM040 CM041 CM044 CM046 CM047 CM049 CM050 CM051 CM052 CM053 CM054 CM055
CM056 CM058 CM059 CM060 CM061 CM062 CM063 CM064 CM066 CM067 CM068 CM069 CM070 CM071 CM072 CM073
CM074 CM075 CM075B CM076 CM078 CM079 CM080 CM081 CM082 CM083 CM084 CM085 CM086 CM087 CM088 CM089
CM090 CM091 CM092 CM094 CM095 CM096 CM097 CM098 CM099 CM100 CM101 CM102 CM103 CM104 CM105 CM107
CM108 CM109 CM110 CM112 CM114 CM301 CM302 COA COASTER COCKROACH COCKTAIL COCONUT CODA COENG
COFFIN COIN COLL COLLISION COLOR COLUMN COMB COMBINATION COMBINED COMET COMING COMMON COMPARE
COMPASS COMPLEMENT COMPLETED COMPLIANCE COMPONENT COMPONENT-001 COMPONENT-002 COMPONENT-003
COMPONENT-004 COMPONENT-005 COMPONENT-006 COMPONENT-007 COMPONENT-008 COMPONENT-009 COMPONENT-010
COMPONENT-011 COMPONENT-012 COMPONENT-013 COMPONENT-014 COMPONENT-015 COMPONENT-016 COMPONENT-017
COMPONENT-018 COMPONENT-019 COMPONENT-020 COMPONENT-021 COMPONENT-022 COMPONENT-023 COMPONENT-024
COMPONENT-025 COMPONENT-026 COMPONENT-027 COMPONENT-028 COMPONENT-029 COMPONENT-030 COMPONENT-031
COMPONENT-032 COMPONENT-033 COMPONENT-034 COMPONENT-035 COMPONENT-036 COMPONENT-037 COMPONENT-038
COMPONENT-039 COMPONENT-040 COMPONENT-041 COMPONENT-042 COMPONENT-043 COMPONENT-044 COMPONENT-045
COMPONENT-046 COMPONENT-047 COMPONENT-048 COMPONENT-049 COMPONENT-050 COMPONENT-051 COMPONENT-052
COMPONENT-053 COMPONENT-054 COMPONENT-055 COMPONENT-056 COMPONENT-057 COMPONENT-058 COMPONENT-059
COMPONENT-060 COMPONENT-061 COMPONENT-062 COMPONENT-063 COMPONENT-064 COMPONENT-065 COMPONENT-066
COMPONENT-067 COMPONENT-068 COMPONENT-069 COMPONENT-070 COMPONENT-071 COMPONENT-072 COMPONENT-073
COMPONENT-074 COMPONENT-075 COMPONENT-076 COMPONENT-077 COMPONENT-078 COMPONENT-079 COMPONENT-080
COMPONENT-081 COMPONENT-082 COMPONENT-083 COMPONENT-084 COMPONENT-085 COMPONENT-086 COMPONENT-087
COMPONENT-088 COMPONENT-089 COMPONENT-090 COMPONENT-091 COMPONENT-092 COMPONENT-093 COMPONENT-094
COMPONENT-095 COMPONENT-096 COMPONENT-097 COMPONENT-098 COMPONENT-099 COMPONENT-100 COMPONENT-101
COMPONENT-102 COMPONENT-103 COMPONENT-104 COMPONENT-105 COMPONENT-106 COMPONENT-107 COMPONENT-108
COMPONENT-109 COMPONENT-110 COMPONENT-111 COMPONENT-112 COMPONENT-113 COMPONENT-114 COMPONENT-115
COMPONENT-116 COMPONENT-117 COMPONENT-118 COMPONENT-119 COMPONENT-120 COMPONENT-121 COMPONENT-122
COMPONENT-123 COMPONENT-124 COMPONENT-125 COMPONENT-126 COMPONENT-127 COMPONENT-128 COMPONENT-129
COMPONENT-130 COMPONENT-131 COMPONENT-132 COMPONENT-133 COMPONENT-134 COMPONENT-135 COMPONENT-136
COMPONENT-137 COMPONENT-138 COMPONENT-139 COMPONENT-140 COMPONENT-141 COMPONENT-142 COMPONENT-143
COMPONENT-144 COMPONENT-145 COMPONENT-146 COMPONENT-147 COMPONENT-148 COMPONENT-149 COMPONENT-150
COMPONENT-151 COMPONENT-152 COMPONENT-153 COMPONENT-154 COMPONENT-155 COMPONENT-156 COMPONENT-157
COMPONENT-158 COMPONENT-159 COMPONENT-160 COMPONENT-161 COMPONENT-162 COMPONENT-163 COMPONENT-164
COMPONENT-165 COMPONENT-166 COMPONENT-167 COMPONENT-168 COMPONENT-169 COMPONENT-170 COMPONENT-171
COMPONENT-172 COMPONENT-173 COMPONENT-174 COMPONENT-175 COMPONENT-176 COMPONENT-177 COMPONENT-178
COMPONENT-179 COMPONENT-180 COMPONENT-181 COMPONENT-182 COMPONENT-183 COMPONENT-184 COMPONENT-185
COMPONENT-186 COMPONENT-187 COMPONENT-188 COMPONENT-189 COMPONENT-190 COMPONENT-191 COMPONENT-192
COMPONENT-193 COMPONENT-194 COMPONENT-195 COMPONENT-196 COMPONENT-197 COMPONENT-198 COMPONENT-199
COMPONENT-200 COMPONENT-201 COMPONENT-202 COMPONENT-203 COMPONENT-204 COMPONENT-205 COMPONENT-206
COMPONENT-207 COMPONENT-208 COMPONENT-209 COMPONENT-210 COMPONENT-211 COMPONENT-212 COMPONENT-213
COMPONENT-214 COMPONENT-215 COMPONENT-216 COMPONENT-217 COMPONENT-218 COMPONENT-219 COMPONENT-220
COMPONENT-221 COMPONENT-222 COMPONENT-223 COMPONENT-224 COMPONENT-225 COMPONENT-226 COMPONENT-227
COMPONENT-228 COMPONENT-229 COMPONENT-230 COMPONENT-231 COMPONENT-232 COMPONENT-233 COMPONENT-234
COMPONENT-235 COMPONENT-236 COMPONENT-237 COMPONENT-238 COMPONENT-239 COMPONENT-240 COMPONENT-241
COMPONENT-242 COMPONENT-243 COMPONENT-244 COMPONENT-245 COMPONENT-246 COMPONENT-247 COMPONENT-248
COMPONENT-249 COMPONENT-250 COMPONENT-251 COMPONENT-252 COMPONENT-253 COMPONENT-254 COMPONENT-255
COMPONENT-256 COMPONENT-257 COMPONENT-258 COMPONENT-259 COMPONENT-260 COMPONENT-261 COMPONENT-262
COMPONENT-263 COMPONENT-264 COMPONENT-265 COMPONENT-266 COMPONENT-267 COMPONENT-268 COMPONENT-269
COMPONENT-270 COMPONENT-271 COMPONENT-272 COMPONENT-273 COMPONENT-274 COMPONENT-275 COMPONENT-276
COMPONENT-277 COMPONENT-278 COMPONENT-279 COMPONENT-280 COMPONENT-281 COMPONENT-282 COMPONENT-283
COMPONENT-284 COMPONENT-285 COMPONENT-286 COMPONENT-287 COMPONENT-288 COMPONENT-289 COMPONENT-290
COMPONENT-291 COMPONENT-292 COMPONENT-293 COMPONENT-294 COMPONENT-295 COMPONENT-296 COMPONENT-297
COMPONENT-298 COMPONENT-299 COMPONENT-300 COMPONENT-301 COMPONENT-302 COMPONENT-303 COMPONENT-304
COMPONENT-305 COMPONENT-306 COMPONENT-307 COMPONENT-308 COMPONENT-309 COMPONENT-310 COMPONENT-311
COMPONENT-312 COMPONENT-313 COMPONENT-314 COMPONENT-315 COMPONENT-316 COMPONENT-317 COMPONENT-318
COMPONENT-319 COMPONENT-320 COMPONENT-321 COMPONENT-322 COMPONENT-323 COMPONENT-324 COMPONENT-325
COMPONENT-326 COMPONENT-327 COMPONENT-328 COMPONENT-329 COMPONENT-330 COMPONENT-331 COMPONENT-332
COMPONENT-333 COMPONENT-334 COMPONENT-335 COMPONENT-336 COMPONENT-337 COMPONENT-338 COMPONENT-339
COMPONENT-340 COMPONENT-341 COMPONENT-342 COMPONENT-343 COMPONENT-344 COMPONENT-345 COMPONENT-346
COMPONENT-347 COMPONENT-348 COMPONENT-349 COMPONENT-350 COMPONENT-351 COMPONENT-352 COMPONENT-353
COMPONENT-354 COMPONENT-355 COMPONENT-356 COMPONENT-357 COMPONENT-358 COMPONENT-359 COMPONENT-360
COMPONENT-361 COMPONENT-362 COMPONENT-363 COMPONENT-364 COMPONENT-365 COMPONENT-366 COMPONENT-367
COMPONENT-368 COMPONENT-369 COMPONENT-370 COMPONENT-371 COMPONENT-372 COMPONENT-373 COMPONENT-374
COMPONENT-375 COMPONENT-376 COMPONENT-377 COMPONENT-378 COMPONENT-379 COMPONENT-380 COMPONENT-381
COMPONENT-382 COMPONENT-383 COMPONENT-384 COMPONENT-385 COMPONENT-386 COMPONENT-387 COMPONENT-388
COMPONENT-389 COMPONENT-390 COMPONENT-391 COMPONENT-392 COMPONENT-393 COMPONENT-394 COMPONENT-395
COMPONENT-396 COMPONENT-397 COMPONENT-398 COMPONENT-399 COMPONENT-400 COMPONENT-401 COMPONENT-402
COMPONENT-403 COMPONENT-404 COMPONENT-405 COMPONENT-406 COMPONENT-407 COMPONENT-408 COMPONENT-409
COMPONENT-410 COMPONENT-411 COMPONENT-412 COMPONENT-413 COMPONENT-414 COMPONENT-415 COMPONENT-416
COMPONENT-417 COMPONENT-418 COMPONENT-419 COMPONENT-420 COMPONENT-421 COMPONENT-422 COMPONENT-423
COMPONENT-424 COMPONENT-425 COMPONENT-426 COMPONENT-427 COMPONENT-428 COMPONENT-429 COMPONENT-430
COMPONENT-431 COMPONENT-432 COMPONENT-433 COMPONENT-434 COMPONENT-435 COMPONENT-436 COMPONENT-437
COMPONENT-438 COMPONENT-439 COMPONENT-440 COMPONENT-441 COMPONENT-442 COMPONENT-443 COMPONENT-444
COMPONENT-445 COMPONENT-446 COMPONENT-447 COMPONENT-448 COMPONENT-449 COMPONENT-450 COMPONENT-451
COMPONENT-452 COMPONENT-453 COMPONENT-454 COMPONENT-455 COMPONENT-456 COMPONENT-457 COMPONENT-458
COMPONENT-459 COMPONENT-460 COMPONENT-461 COMPONENT-462 COMPONENT-463 COMPONENT-464 COMPONENT-465
COMPONENT-466 COMPONENT-467 COMPONENT-468 COMPONENT-469 COMPONENT-470 COMPONENT-471 COMPONENT-472
COMPONENT-473 COMPONENT-474 COMPONENT-475 COMPONENT-476 COMPONENT-477 COMPONENT-478 COMPONENT-479
COMPONENT-480 COMPONENT-481 COMPONENT-482 COMPONENT-483 COMPONENT-484 COMPONENT-485 COMPONENT-486
COMPONENT-487 COMPONENT-488 COMPONENT-489 COMPONENT-490 COMPONENT-491 COMPONENT-492 COMPONENT-493
COMPONENT-494 COMPONENT-495 COMPONENT-496 COMPONENT-497 COMPONENT-498 COMPONENT-499 COMPONENT-500
COMPONENT-501 COMPONENT-502 COMPONENT-503 COMPONENT-504 COMPONENT-505 COMPONENT-506 COMPONENT-507
COMPONENT-508 COMPONENT-509 COMPONENT-510 COMPONENT-511 COMPONENT-512 COMPONENT-513 COMPONENT-514
COMPONENT-515 COMPONENT-516 COMPONENT-517 COMPONENT-518 COMPONENT-519 COMPONENT-520 COMPONENT-521
COMPONENT-522 COMPONENT-523 COMPONENT-524 COMPONENT-525 COMPONENT-526 COMPONENT-527 COMPONENT-528
COMPONENT-529 COMPONENT-530 COMPONENT-531 COMPONENT-532 COMPONENT-533 COMPONENT-534 COMPONENT-535
COMPONENT-536 COMPONENT-537 COMPONENT-538 COMPONENT-539 COMPONENT-540 COMPONENT-541 COMPONENT-542
COMPONENT-543 COMPONENT-544 COMPONENT-545 COMPONENT-546 COMPONENT-547 COMPONENT-548 COMPONENT-549
COMPONENT-550 COMPONENT-551 COMPONENT-552 COMPONENT-553 COMPONENT-554 COMPONENT-555 COMPONENT-556
COMPONENT-557 COMPONENT-558 COMPONENT-559 COMPONENT-560 COMPONENT-561 COMPONENT-562 COMPONENT-563
COMPONENT-564 COMPONENT-565 COMPONENT-566 COMPONENT-567 COMPONENT-568 COMPONENT-569 COMPONENT-570
COMPONENT-571 COMPONENT-572 COMPONENT-573 COMPONENT-574 COMPONENT-575 COMPONENT-576 COMPONENT-577
COMPONENT-578 COMPONENT-579 COMPONENT-580 COMPONENT-581 COMPONENT-582 COMPONENT-583 COMPONENT-584
COMPONENT-585 COMPONENT-586 COMPONENT-587 COMPONENT-588 COMPONENT-589 COMPONENT-590 COMPONENT-591
COMPONENT-592 COMPONENT-593 COMPONENT-594 COMPONENT-595 COMPONENT-596 COMPONENT-597 COMPONENT-598
COMPONENT-599 COMPONENT-600 COMPONENT-601 COMPONENT-602 COMPONENT-603 COMPONENT-604 COMPONENT-605
COMPONENT-606 COMPONENT-607 COMPONENT-608 COMPONENT-609 COMPONENT-610 COMPONENT-611 COMPONENT-612
COMPONENT-613 COMPONENT-614 COMPONENT-615 COMPONENT-616 COMPONENT-617 COMPONENT-618 COMPONENT-619
COMPONENT-620 COMPONENT-621 COMPONENT-622 COMPONENT-623 COMPONENT-624 COMPONENT-625 COMPONENT-626
COMPONENT-627 COMPONENT-628 COMPONENT-629 COMPONENT-630 COMPONENT-631 COMPONENT-632 COMPONENT-633
COMPONENT-634 COMPONENT-635 COMPONENT-636 COMPONENT-637 COMPONENT-638 COMPONENT-639 COMPONENT-640
COMPONENT-641 COMPONENT-642 COMPONENT-643 COMPONENT-644 COMPONENT-645 COMPONENT-646 COMPONENT-647
COMPONENT-648 COMPONENT-649 COMPONENT-650 COMPONENT-651 COMPONENT-652 COMPONENT-653 COMPONENT-654
COMPONENT-655 COMPONENT-656 COMPONENT-657 COMPONENT-658 COMPONENT-659 COMPONENT-660 COMPONENT-661
COMPONENT-662 COMPONENT-663 COMPONENT-664 COMPONENT-665 COMPONENT-666 COMPONENT-667 COMPONENT-668
COMPONENT-669 COMPONENT-670 COMPONENT-671 COMPONENT-672 COMPONENT-673 COMPONENT-674 COMPONENT-675
COMPONENT-676 COMPONENT-677 COMPONENT-678 COMPONENT-679 COMPONENT-680 COMPONENT-681 COMPONENT-682
COMPONENT-683 COMPONENT-684 COMPONENT-685 COMPONENT-686 COMPONENT-687 COMPONENT-688 COMPONENT-689
COMPONENT-690 COMPONENT-691 COMPONENT-692 COMPONENT-693 COMPONENT-694 COMPONENT-695 COMPONENT-696
COMPONENT-697 COMPONENT-698 COMPONENT-699 COMPONENT-700 COMPONENT-701 COMPONENT-702 COMPONENT-703
COMPONENT-704 COMPONENT-705 COMPONENT-706 COMPONENT-707 COMPONENT-708 COMPONENT-709 COMPONENT-710
COMPONENT-711 COMPONENT-712 COMPONENT-713 COMPONENT-714 COMPONENT-715 COMPONENT-716 COMPONENT-717
COMPONENT-718 COMPONENT-719 COMPONENT-720 COMPONENT-721 COMPONENT-722 COMPONENT-723 COMPONENT-724
COMPONENT-725 COMPONENT-726 COMPONENT-727 COMPONENT-728 COMPONENT-729 COMPONENT-730 COMPONENT-731
COMPONENT-732 COMPONENT-733 COMPONENT-734 COMPONENT-735 COMPONENT-736 COMPONENT-737 COMPONENT-738
COMPONENT-739 COMPONENT-740 COMPONENT-741 COMPONENT-742 COMPONENT-743 COMPONENT-744 COMPONENT-745
COMPONENT-746 COMPONENT-747 COMPONENT-748 COMPONENT-749 COMPONENT-750 COMPONENT-751 COMPONENT-752
COMPONENT-753 COMPONENT-754 COMPONENT-755 COMPONENT-756 COMPONENT-757 COMPONENT-758 COMPONENT-759
COMPONENT-760 COMPONENT-761 COMPONENT-762 COMPONENT-763 COMPONENT-764 COMPONENT-765 COMPONENT-766
COMPONENT-767 COMPONENT-768 COMPRESSION COMPUTERS CONCAVE-POINTED CONCAVE-SIDED CONFETTI CONFLICT
CONFOUNDED CONFUSED CONGRUENT CONICAL CONJUGATE CONJUNCTION CONSTANCY CONTEMPLATION CONTENTION
CONTINUATION CONTINUING CONTINUOUS CONTOURED CONTRACTION CONTRARIETY CONVENIENCE CONVERGING
COOKED COOKING COOL COP COPPER-2 COPY COPYLEFT CORAL CORK CORNISH CORONIS CORPORATION CORPSE
CORRECT CORRESPONDS COT COUCH COUNCIL COUNTERBORE COUNTERSINK COUNTING COUPLE COWBOY COX CR CRAB
CRACKER CRAYON CREATIVE CRESCENDO CROCODILE CROISSANT CROIX CRUCIBLE CRUCIBLE-2 CRUCIBLE-3
CRUCIBLE-4 CRUCIBLE-5 CRUCIFORM CRUTCH CRUZEIRO CRYSTAL CSI CUAM CUCUMBER CUO CUOX CUPCAKE CUPIDO
CUR CURLED CURLING CURRY CURSIVE CURX CUSTARD CUSTOMER CUSTOMS CUX CWEORTH CYAW CYAY CYCLONE
CYLINDRICITY CYPERUS CYPRIOT CYPRO-MINOAN CYR CYRENAIC CYRX CYX D001 D002 D003 D004 D005 D006
D007 D008 D008A D009 D010 D011 D012 D013 D014 D015 D016 D017 D018 D019 D020 D021 D022 D023 D024
D025 D026 D027 D027A D028 D029 D030 D031 D031A D032 D033 D034 D034A D035 D036 D037 D038 D039 D040
D041 D042 D043 D044 D045 D046 D046A D047 D048 D048A D049 D050 D050A D050B D050C D050D D050E D050F
D050G D050H D050I D051 D052 D052A D053 D054 D054A D055 D056 D057 D058 D059 D060 D061 D062 D063
D064 D065 D066 D067 D067A D067B D067C D067D D067E D067F D067G D067H D2 DAADHU DAASU DAEG DAENG
DAG3 DAGALGA DAGAZ DAGBASINNA DAGS DAH DAHYAAUSH DAHYAAUSH-2 DAI DAING DAIR DALAT DALETH-RESH DAM
DAMARU DAMP DANCER DANCING DANGO DANTAYALAN DARA4 DARGA DART DASEIA DAVID DAVIYANI DAWB DAX
DAY-NIGHT DC1 DC2 DC3 DC4 DCS DD DDAP DDAT DDAX DDEE DDEP DDEX DDHE DDHEE DDHI DDHU DDIE DDIEP
DDIEX DDIP DDIT DDIX DDOA DDOP DDOT DDOX DDUO DDUOP DDUOX DDUP DDURX DDUT DDUX DDWA DEAD DEAF
DEBIT DECAYED DECEMBER DECIDUOUS DECISIVENESS DECORATIVE DECRESCENDO DEEL DEEPLY DEFECTIVENESS
DEFINITION DEHI DEK DEKA DELETION DELICIOUS DELIVERANCE DELIVERY DELPHIC DELT DENARIUS DENG
DENNEN DENTISTRY DEP DEPARTMENT DEPTH DERBITSA DERELICT DERET DERET-HIDET DESCRIPTION DESERET
DESERT DESI DESIGN DESK DEUNG DEVELOPMENT DEX DEYTEROU DHAA DHAALU DHADHE DHAL DHALATH DHALETH
DHAMEDH DHARMA DHEE DHHA DHHE DHHEE DHHI DHHO DHHOO DHHU DHI DHII DHOO DHOU DHU DIAERESIS-RING
DIAERESIZED DIAMETER DIARGON DIASTOLI DIATONON DIEP DIESEL DIEX DIFAT DIFFERENCE DIFFICULTIES
DIFFICULTY DIFTOGGOS DIGITS DIGORGON DIGRAMMA DIL DIMENSION DIMENSIONAL DIMIDIA DIMINISHMENT
DIMINUTION-2 DIMINUTION-3 DIMMING DING DIP DIPLOUN DIPPER DIPTE DIRGA DISABLED DISCONTINUOUS
DISGUISED DISPERSION DISPUTED DISSOLVE DISSOLVE-2 DISTILL DISTINGUISH DISTORTION DIT DITTO
DIVERGENCE DIVES DIVIDERS DIVIDES DIVING DIVORCE DIX DIYA DJ DL DLEE DLHA DLHYA DLI DLO DLU DM
DNA DO-O DOA DODO DOGRA DOING DOIT DOKMAI DOLIUM DOLPHIN DOMAIN DOMINO DOONG DOP DOROME DORU
DOTS-1 DOTS-12 DOTS-123 DOTS-1234 DOTS-12345 DOTS-123456 DOTS-1234567 DOTS-12345678 DOTS-1234568
DOTS-123457 DOTS-1234578 DOTS-123458 DOTS-12346 DOTS-123467 DOTS-1234678 DOTS-123468 DOTS-12347
DOTS-123478 DOTS-12348 DOTS-1235 DOTS-12356 DOTS-123567 DOTS-1235678 DOTS-123568 DOTS-12357
DOTS-123578 DOTS-12358 DOTS-1236 DOTS-12367 DOTS-123678 DOTS-12368 DOTS-1237 DOTS-12378 DOTS-1238
DOTS-124 DOTS-1245 DOTS-12456 DOTS-124567 DOTS-1245678 DOTS-124568 DOTS-12457 DOTS-124578
DOTS-12458 DOTS-1246 DOTS-12467 DOTS-124678 DOTS-12468 DOTS-1247 DOTS-12478 DOTS-1248 DOTS-125
DOTS-1256 DOTS-12567 DOTS-125678 DOTS-12568 DOTS-1257 DOTS-12578 DOTS-1258 DOTS-126 DOTS-1267
DOTS-12678 DOTS-1268 DOTS-127 DOTS-1278 DOTS-128 DOTS-13 DOTS-134 DOTS-1345 DOTS-13456
DOTS-134567 DOTS-1345678 DOTS-134568 DOTS-13457 DOTS-134578 DOTS-13458 DOTS-1346 DOTS-13467
DOTS-134678 DOTS-13468 DOTS-1347 DOTS-13478 DOTS-1348 DOTS-135 DOTS-1356 DOTS-13567 DOTS-135678
DOTS-13568 DOTS-1357 DOTS-13578 DOTS-1358 DOTS-136 DOTS-1367 DOTS-13678 DOTS-1368 DOTS-137
DOTS-1378 DOTS-138 DOTS-14 DOTS-145 DOTS-1456 DOTS-14567 DOTS-145678 DOTS-14568 DOTS-1457
DOTS-14578 DOTS-1458 DOTS-146 DOTS-1467 DOTS-14678 DOTS-1468 DOTS-147 DOTS-1478 DOTS-148 DOTS-15
DOTS-156 DOTS-1567 DOTS-15678 DOTS-1568 DOTS-157 DOTS-1578 DOTS-158 DOTS-16 DOTS-167 DOTS-1678
DOTS-168 DOTS-17 DOTS-178 DOTS-18 DOTS-2 DOTS-23 DOTS-234 DOTS-2345 DOTS-23456 DOTS-234567
DOTS-2345678 DOTS-234568 DOTS-23457 DOTS-234578 DOTS-23458 DOTS-2346 DOTS-23467 DOTS-234678
DOTS-23468 DOTS-2347 DOTS-23478 DOTS-2348 DOTS-235 DOTS-2356 DOTS-23567 DOTS-235678 DOTS-23568
DOTS-2357 DOTS-23578 DOTS-2358 DOTS-236 DOTS-2367 DOTS-23678 DOTS-2368 DOTS-237 DOTS-2378
DOTS-238 DOTS-24 DOTS-245 DOTS-2456 DOTS-24567 DOTS-245678 DOTS-24568 DOTS-2457 DOTS-24578
DOTS-2458 DOTS-246 DOTS-2467 DOTS-24678 DOTS-2468 DOTS-247 DOTS-2478 DOTS-248 DOTS-25 DOTS-256
DOTS-2567 DOTS-25678 DOTS-2568 DOTS-257 DOTS-2578 DOTS-258 DOTS-26 DOTS-267 DOTS-2678 DOTS-268
DOTS-27 DOTS-278 DOTS-28 DOTS-3 DOTS-34 DOTS-345 DOTS-3456 DOTS-34567 DOTS-345678 DOTS-34568
DOTS-3457 DOTS-34578 DOTS-3458 DOTS-346 DOTS-3467 DOTS-34678 DOTS-3468 DOTS-347 DOTS-3478
DOTS-348 DOTS-35 DOTS-356 DOTS-3567 DOTS-35678 DOTS-3568 DOTS-357 DOTS-3578 DOTS-358 DOTS-36
DOTS-367 DOTS-3678 DOTS-368 DOTS-37 DOTS-378 DOTS-38 DOTS-4 DOTS-45 DOTS-456 DOTS-4567 DOTS-45678
DOTS-4568 DOTS-457 DOTS-4578 DOTS-458 DOTS-46 DOTS-467 DOTS-4678 DOTS-468 DOTS-47 DOTS-478
DOTS-48 DOTS-5 DOTS-56 DOTS-567 DOTS-5678 DOTS-568 DOTS-57 DOTS-578 DOTS-58 DOTS-6 DOTS-67
DOTS-678 DOTS-68 DOTS-7 DOTS-78 DOTS-8 DOTTED-L DOTTED-N DOTTED-P DOUBLE-ENDED DOUBT DOUGHNUT
DOWNSCALING DOWNWARD DOX DRAFTING DREAMY DRIL DROMEDARY DROOLING DROP DROPS DRUMSTICKS DUB2 DUCK
DUDA DUGUD DUH DUM DUMPLING DUN4 DUO DUOX DUP DUPLOYAN DUPONDIUS DUR DUR2 DURATION DURX DUSHENNA
DUSK DUT DUTIES DUX DVA DVD DVISVARA DVOECHELNOKRYZHEVAYA DVOETOCHIE DVUMYA DWA DWO DYAN DYNAMIC
DZAA DZAY DZHOI DZITA DZYAY DZYI DZZA E-1 E-2 E-3 E-4 E-5 E-6 E-MAIL E001 E002 E003 E004 E005
E006 E007 E008 E008A E009 E009A E010 E011 E012 E013 E014 E015 E016 E016A E017 E017A E018 E019
E020 E020A E021 E022 E023 E024 E025 E026 E027 E028 E028A E029 E030 E031 E032 E033 E034 E034A E036
E037 E038 EABHADH EADHADH EAMHANCHOLL EARLY EARTHLY EASE EBEFILI EDD EDIN EDITORIAL EEBEEFILI EEH
EEKAA EEN EEYANNA EGGS EGIR EGYPTIAN EHWAZ EIGHT-THIRTY EIGHTIETH EIS EJECT EKAM EKARA EKS
EKSTREPTON ELAFRON ELBASAN ELECTRICAL ELECTRONICS ELEVATOR ELEVATUS ELEVEN-THIRTY ELF ELIF
ELLIPTIC ELT ELYMAIC EMBELLISHMENT EMBLEM EMBROIDERY EMPHATIC ENARMONIOS ENARXIS ENCOUNTERS
ENDEAVOUR ENDEP ENDING ENDOFONON ENLARGEMENT ENNI ENOS ENQ ENTERING ENTHUSIASM ENTRY-1 ENTRY-2
ENUMERATION EO-EU EO-O EO-U EOH EOL EOLHX EOM EOT EPA EPACT EPEGERMA EPOCH EQ EQUIANGULAR EQUID
ERG ERIS ERROR-BARRED ERS ES-1 ES-2 ES-3 ES-TE ESA ESASA ESC ESH16 ESH21 ESO ESS ESTIMATED
ESTIMATES ESUKUUDO ETB ETHEL ETNAHTA ETX EU-A EU-E EU-EO EU-EU EU-O EU-U EULER EURO-CURRENCY
EUROPE-AFRICA EVENING EVERGREEN EVERY EXCELLENT EXCESS EXCHANGE EXCITEMENT EXHALE EXHAUSTION
EXIST EXISTS EXPLODING EXPONENT EXPRESSIONLESS EXTINGUISHER EXTRA EXTRATERRESTRIAL EYANNA
EYBEYFILI EYEBROW EYEGLASSES EYELASHES EYYY F001 F001A F002 F003 F004 F005 F006 F007 F008 F009
F010 F011 F012 F013 F013A F014 F015 F016 F017 F018 F019 F020 F021 F021A F022 F023 F024 F025 F026
F027 F028 F029 F030 F031 F031A F032 F033 F034 F035 F036 F037 F037A F038 F038A F039 F040 F041 F042
F043 F044 F045 F045A F046 F046A F047 F047A F048 F049 F050 F051 F051A F051B F051C F052 F053 FAAFU
FAAI FAAMAE FACE-1 FACE-2 FACE-3 FACE-4 FACE-5 FACE-6 FACINGS FACSIMILE FACTORY FAHRENHEIT FAIB
FAIHU FAILURE FAIRY FAJ FALAFEL FALLEN FAM FANEROSIS FANG FAP FAQ FAR FAST FAT FATIGUE FAY
FAYANNA FEAR FEARFUL FEARN FEBRUARY FEEM FEENG FEHU FELLOWSHIP FENCER FEOH FERRIS FERRY FESTIVAL
FETH FEUFEUAET FEUX FFI FFL FHTORA FIGHT FIGURE-1 FIGURE-2 FIGURE-3 FII FILLED FILLER-1 FILLER-2
FINGERED FINGERNAILS FINITE FIP FIRECRACKER FIREWORK FIREWORKS FIRI FISHEYE FISHING FISTED FIT
FITZPATRICK FIVE-LINE FIVE-THIRTY FIX FL FLA FLAG-1 FLAG-2 FLAG-3 FLAG-4 FLAG-5 FLAGS FLAMINGO
FLASH FLATNESS FLEUR-DE-LIS FLEXED FLIGHT FLOORPLANE FLOWERS FLOWING FLUSHED FM FOG FOGGY FOLDED
FOLLY FONDUE FONGMAN FOOL FOOTPRINTS FOOTSTOOL FOP FORCE FORCES FOREHEAD FORKING FORMAT
FORMATTING FORMEE FORMS FORTE FORTUNE FOSTERING FOUR-LINE FOUR-PER-EM FOUR-STRING FOUR-THIRTY
FRAGMENT FRAGRANT FRAMES FRANC FRANKS FREEZING FRICATIVE FRIED FRIES FRONT-FACING FS FSI FUA FUEL
FUET FUJI FULLNESS FUNERAL FUP FURX FUSA FUSE FUT FUX FVS1 FVS2 FVS3 FVS4 FWE FY FYA FYP FYT FYX
G001 G002 G003 G004 G005 G006 G006A G007 G007A G007B G008 G009 G010 G011 G011A G012 G013 G014
G015 G016 G017 G018 G019 G020 G020A G021 G022 G023 G024 G025 G026 G026A G027 G028 G029 G030 G031
G032 G033 G034 G035 G036 G036A G037 G037A G038 G039 G040 G041 G042 G043 G043A G044 G045 G045A
G046 G047 G048 G049 G050 G051 G052 G053 G054 G2 GAAFU GAAHLAA GADOL GAG GAI GALAM GAM GAMAL GAMAN
GAML GAMLA GANDA GANMA GAR3 GARDEN GARLIC GARMENT GARON GASHAN GAT GAUNTLET GAX GB GBAKURUNEN
GBAYI GBEN GBET GBEUX GBIEE GBON GCAN GDAN GE22 GEBA GEBO GEDE GEDOLA GEEM GEM GEMINATE GEMINI
GEN GENERIC GENIE GENIKI GENITIVE GENTLE GEOMETRIC GER GERMAN GET GETA GEX GG GGAA GGAP GGAT GGAX
GGEE GGEP GGET GGEX GGIE GGIEP GGIEX GGIT GGIX GGOT GGOX GGUOP GGUOT GGUOX GGUP GGUR GGURX GGUT
GGUX GGWA GGWAA GGWE GGWEE GGWI GH GHAAMAE GHAINU GHAMAL GHAMMA GHAP GHARAE GHAYN GHEE GHET
GHEUAEGHEUAE GHEUAERAE GHEUGHEN GHEUGHEUAEM GHEUN GHEUX GHEYS GHI GHIMEL GHOM GHOU GHU GHWA GHZ
GIBA GIDIM GIE GIEP GIET GIEX GIFT GIG GIGA GIMEL-HETH GINII GIP GIR3 GIRAFFE GIRL GIRLS GIRUDAA
GISAL GIT GIX GLA GLASSES GLEICH GLISSANDO GLOVE GLOVES GLOWING GN GNAVIYANI GOA GOAT GOBLIN
GOGGLES GOING GOK GOLFER GOLUBCHIK GONG GOO GOOD GOP GORA GORGOSYNTHETON GORGOTERI GORILLA GORT
GORTHMIKON GOTHIC GOX GPA GRADUAL GRADUATION GRAF GRAIN GRAMMA GRAPES GRAPHEME GRAPHIC GRASP
GRATER GRAVE-ACUTE-GRAVE GRAVE-MACRON GRAVEYARD GREATNESS GREGORIAN GRIMACING GRONTHISMATA
GROWING GRU GS GUA GUAN GUARANI GUARDEDNESS GUARDSMAN GUEI GUG GUIDE GUITAR GUJARATI GUNJALA GUO
GUOP GUOT GUOX GUP GURAMU GURAMUTON GURMUKHI GURUN GURUSH GURX GUT GUX GVANG GW GWAA GWU GY GYA
GYAA GYAN GYE GYEE GYFU GYI GYO GYU H-TYPE H001 H002 H003 H004 H005 H006 H006A H007 H008 HA-1
HA-10 HA-11 HA-2 HA-3 HA-4 HA-5 HA-6 HA-7 HA-8 HA-9 HA-HA HAAM HAARU HADES HAEGL HAFUKH HAFUKHA
HAGL HAGLAZ HAI HAIRCUT HAIS HAITU HALBERD HALF-1 HALF-2 HALO HALQA HAM HAMBURGER HAMSA HAMSTER
HAN-AKAT HANDBAG HANDBALL HANDLES HANDSHAKE HANG HANIFI HANUNOO HAO HAP HAPPY HARBAHAY HARDNESS
HARKLEAN HARMONIC HASER HATAF HATCHING HATHI HATRAN HAUPTSTIMME HAWJ HAX HAY HAYANNA HBASA
HBASA-ESASA HC HDR HE-1 HE-2 HE-3 HE-4 HE-5 HE-6 HE-7 HE-GOAT HEAD-BANDAGE HEADPHONE HEADSCARF
HEAR-NO-EVIL HEARING HEAVENLY HEDGEHOG HEEI HEIGHT HEISEI HEKUTAARU HELICOPTER HELIX
HELLSCHREIBER HELM HEMP HEP HERAEUM HERB HERMES HERMITIAN HERUTU HEX HEXAGRAM HEXIFORM HEYT HHE
HHEE HHI HHO HHU HHWE HHWEE HHWI HHYA HHYAA HHYE HHYEE HHYI HHYO HHYU HI-1 HI-2 HI-3 HI-4 HI-5
HI-6 HI-7 HI-RES HIBISCUS HIDE HIDET HIDING HIEROGLYPHIC HIEUH-MIEUM HIEUH-NIEUN HIEUH-PIEUP
HIEUH-RIEUL HIEUH-SIOS HIEX HIGH-HEELED HIGH-LOW HIGH-SPEED HIKING HINDU HIPPOPOTAMUS HISTORIC
HIZB HK HL HLAP HLAT HLAU HLAX HLE HLEP HLEX HLIE HLIEP HLIEX HLIP HLIT HLIX HLO HLOP HLOX HLU
HLUO HLUOP HLUOX HLUP HLUR HLURX HLUT HLUX HLY HLYP HLYR HLYRX HLYT HLYX HM HMA HMAP HMAT HMAX
HME HMI HMIE HMIEP HMIEX HMIP HMIT HMIX HMOP HMOT HMOX HMU HMUO HMUOP HMUOX HMUP HMUR HMURX HMUT
HMUX HMY HMYP HMYR HMYRX HMYX HNAP HNAT HNAU HNAX HNE HNEP HNEX HNI HNIE HNIEP HNIET HNIEX HNIP
HNIT HNIX HNOP HNOT HNOX HNUB HNUO HNUOX HNUT HO-1 HO-2 HO-3 HO-4 HO-5 HO-6 HO-7 HO-8 HOA HOCHO
HOI HOKA HOLLOW HOM HONEY HONEYBEE HOON HOOP HOORU HOOU HORA HORIZONTAL-00-00 HORIZONTAL-00-01
HORIZONTAL-00-02 HORIZONTAL-00-03 HORIZONTAL-00-04 HORIZONTAL-00-05 HORIZONTAL-00-06
HORIZONTAL-01-00 HORIZONTAL-01-01 HORIZONTAL-01-02 HORIZONTAL-01-03 HORIZONTAL-01-04
HORIZONTAL-01-05 HORIZONTAL-01-06 HORIZONTAL-02-00 HORIZONTAL-02-01 HORIZONTAL-02-02
HORIZONTAL-02-03 HORIZONTAL-02-04 HORIZONTAL-02-05 HORIZONTAL-02-06 HORIZONTAL-03-00
HORIZONTAL-03-01 HORIZONTAL-03-02 HORIZONTAL-03-03 HORIZONTAL-03-04 HORIZONTAL-03-05
HORIZONTAL-03-06 HORIZONTAL-04-00 HORIZONTAL-04-01 HORIZONTAL-04-02 HORIZONTAL-04-03
HORIZONTAL-04-04 HORIZONTAL-04-05 HORIZONTAL-04-06 HORIZONTAL-05-00 HORIZONTAL-05-01
HORIZONTAL-05-02 HORIZONTAL-05-03 HORIZONTAL-05-04 HORIZONTAL-05-05 HORIZONTAL-05-06
HORIZONTAL-06-00 HORIZONTAL-06-01 HORIZONTAL-06-02 HORIZONTAL-06-03 HORIZONTAL-06-04
HORIZONTAL-06-05 HORIZONTAL-06-06 HORIZONTALLY HOSPITAL HOTA HOX HOY HPA HPWG HRYVNIA HT HTJ HTS
HTTA HU-1 HU-2 HU-3 HUAN HUARADDO HUB HUIITO HUK HUL2 HUNG HUNGARIAN HUO HUOP HUOT HUOX HURAN
HUSH HUSHED HUT HUVA HWA HWAH HWEE HWI HWO HWU HXA HXAP HXAT HXAX HXE HXEP HXEX HXI HXIE HXIEP
HXIET HXIEX HXIP HXIX HXO HXOT HXOX HXUOP HXUOT HXUOX HXWG HYGIEA HYGIEIA HYPODIASTOLE HYSTERESIS
HZG HZT HZW HZWG HZZ HZZP HZZZ HZZZG I-1 I-2 I-3 I-4 I-A I-ARAEA I-BEAM I-EU I-I I-O I-O-I I-U
I-YA I-YA-O I-YAE I-YE I-YEO I-YO I-YU I001 I002 I003 I004 I005 I005A I006 I007 I008 I009 I009A
I010 I010A I011 I011A I012 I013 I014 I015 IANG IBIFILI ICELANDIC-YR ICHADIN ICHOU ID
IDEOGRAPH-4E00 IDEOGRAPH-4E2D IDEOGRAPH-4EA4 IDEOGRAPH-518D IDEOGRAPH-521D IDEOGRAPH-524D
IDEOGRAPH-5272 IDEOGRAPH-52DD IDEOGRAPH-53CC IDEOGRAPH-53F3 IDEOGRAPH-5408 IDEOGRAPH-5439
IDEOGRAPH-55B6 IDEOGRAPH-58F0 IDEOGRAPH-591A IDEOGRAPH-5929 IDEOGRAPH-5B57 IDEOGRAPH-5B89
IDEOGRAPH-5DE6 IDEOGRAPH-5F8C IDEOGRAPH-624B IDEOGRAPH-6295 IDEOGRAPH-6307 IDEOGRAPH-6355
IDEOGRAPH-6557 IDEOGRAPH-6599 IDEOGRAPH-65B0 IDEOGRAPH-6620 IDEOGRAPH-6708 IDEOGRAPH-6709
IDEOGRAPH-672C IDEOGRAPH-6E80 IDEOGRAPH-6F14 IDEOGRAPH-70B9 IDEOGRAPH-7121 IDEOGRAPH-751F
IDEOGRAPH-7533 IDEOGRAPH-76D7 IDEOGRAPH-7981 IDEOGRAPH-7A7A IDEOGRAPH-7D42 IDEOGRAPH-89E3
IDEOGRAPH-8CA9 IDEOGRAPH-8D70 IDEOGRAPH-904A IDEOGRAPH-914D IEP IET IEUNG-CHIEUCH IEUNG-CIEUC
IEUNG-HIEUH IEUNG-KHIEUKH IEUNG-MIEUM IEUNG-PANSIOS IEUNG-PHIEUPH IEUNG-PIEUP IEUNG-RIEUL
IEUNG-SIOS IEUNG-SSANGKIYEOK IEUNG-THIEUTH IEUNG-TIKEUT IEX IF IFIN IGGWS IIYANNA IKARA IL IL2
ILIMMU3 ILIMMU4 ILUT ILUUYANNA ILUY ILUYANNA IMAALA IMIDIARGON IMIFONON IMIFTHORA IMIFTHORON
IMIN3 IMISEOS IMN IMP IMPERFECTUM IMPERIAL IN-ALAF INAP INBOX INCH INCLUDING INCOMING INCOMPLETE
INCREASES INCREMENT IND INDIAN INDICTION INDIRECT INDUSTRIAL INFLUENCE INGWAZ INHALE INHERENT
ININGU INK INN INNN INNOCENCE INPUT INSCRIPTIONAL INSECT INSERT INSTRUMENTAL INTERCALATE INTEREST
INTERLINEAR INTERLOCKED INTERSECTING INTERSYLLABIC INTI INVERTEBRATE INVISIBLE INY INYA IODHADH
IONG IOR IP IRB IRI IRON-COPPER IRUUYANNA IRUYANNA ISAKIA ISAZ ISEN-ISEN ISHMAAM ISLAND ISS ITEM
ITS IUJA IWAZ IWN IYANNA IZ IZAKAYA JACK-O-LANTERN JACKS JAH JAIN JALL JALLAJALALOUHOU JANUARY
JAPAN JAVANESE JAVIYANI JAYIN JAYN JEANS JER JERA JERAN JERUSALEM JEU JHAA JHAM JHAYIN JHO JHOX
JIA JIE JIEP JIET JIEX JIGSAW JIP JIT JIX JJE JJEE JJIEP JJIET JJIEX JJIP JJIT JJIX JJOP JJOT
JJOX JJUO JJUOP JJUOX JJUP JJUR JJURX JJUX JJYP JJYT JJYX JOA JOINTS JONA JONG JOP JOVE JOX
JOYOUS JOYSTICK JUDEO-SPANISH JUDGE JUDUL JUEUI JUGGLING JULY JUNE JUNO JUO JUOP JUOT JUOX JUP
JUPITER JUR JURX JUT JUU JUX JY JYP JYR JYRX JYT JYX K001 K002 K003 K004 K005 K006 K007 K008 K2
KA-1 KA-10 KA-11 KA-2 KA-3 KA-4 KA-5 KA-6 KA-7 KA-8 KA-9 KA-KE KAAB KAABA KAACU KAAFU KAAI KAAN
KAANKUU KAAV KACHKA KAD KAD4 KAFA KAIB KAIRI KAITHI KAIV KAKABAT KAM KAM2 KAM4 KANA KANAKO
KANGAROO KANGXI KANTAJA KAPAL KAPO KAQ KAR KARAN KARATTO KAROR KARORAN KARORII KARSHANA KAT
KATAVA KATAVASMA KATHISTI KAUB KAUN KAUNA KAUV KAV KAWB KAWI KAWV KAX KAZAKH KB KCAL KE-1 KE-2
KE-3 KE-4 KE-5 KE-6 KEAAE KEB KEEB KEENG KEESU KEEV KEFULA KELVIN KEMBANG KEMPHRENG KENAT KEOW
KEP KERET KES KEUAE KEUAEM KEUAERI KEUAETMEUN KEUKAQ KEUKEUTNDA KEUOT KEUP KEUPUQ KEUSEUX
KEUSHEUAEP KEUYEUX KEV KEX KHAB KHAF KHAMILO KHAN KHANDA KHANG KHAROSHTHI KHAV KHEE KHETH KHIT
KHITAN KHMU KHOJKI KHOMUT KHON KHONNA KHOT KHOU KHU KHUAT KHUDAM KHUDAWADI KHUEN KHUEN-LUE KHWAI
KHZ KI-1 KI-2 KI-3 KI-4 KI-5 KI-6 KI-7 KI-8 KIAB KIAV KIB KICK KIE KIEEM KIEP KIEVAN KIEX KIH KII
KIIZH KIKAKUI KILLER KIMONO KINDERGARTEN KINSHIP KIQ KIRO KIROGURAMU KIROMEETORU KIROWATTO KISAL
KISH KITE KIV KIW KIWIFRUIT KIX KIYEOK-CHIEUCH KIYEOK-HIEUH KIYEOK-KHIEUKH KIYEOK-NIEUN
KIYEOK-PIEUP KIYEOK-RIEUL KIYEOK-SIOS-KIYEOK KIYEOK-TIKEUT KKE KKEE KKI KKO KKU KL KLA KLITON
KLYUCHENEPOSTOYANNY KLYUCHEPOVODNAYA KLYUCHEPOVODNY KLYUCHEVOY KNEELING KNOBS KNOT KO-1 KO-2 KO-3
KO-KI KOA KOALA KOB KOBYLA KOGHOM KOH KOINI KOKE KOKO KOMBU KOOB KOOMUUT KOOPO KOOV KOP KOQNDON
KORON KORUNA KOT KOUFISMA KOV KOVUU KOX KPAH KPAN KPARAQ KPEN KPEUX KPOQ KRA KRATIMA KRATIMATA
KRATIMOKOUFISMA KRATIMOYPORROON KREMASTI KRONOS KRYUK KRYZHEVAYA KT KU-1 KU-2 KU-3 KU-4 KU-5 KU-6
KU-7 KU4 KU7 KUA KUAB KUAV KUB KUET KUFISMA KUG KUNDDALIYA KUNG KUO KUOM KUOQ KUOX KUP KUPNAYA
KUQ KUROONE KURT KURUNI KURUZEIRO KURX KUSMA KUUH KUV KUX KUZHI KV KWAET KWAY KWB KWM KWU318 KWV
KXAA KXE KXEE KXI KXO KXU KXWA KXWAA KXWE KXWEE KXWI KYAA KYATHOS KYE KYI KYLISMA KYO KYU KYURII
L-TYPE L001 L002 L002A L003 L004 L005 L006 L006A L007 L008 L2 L3 L4 L6 LAAI LAAMU LAAN LAANAE LAB
LABAT LABEL LABIALIZATION LABOURING LACA LACK LACROSSE LADDER LADY LAEV LAGU LAGUS LAH LAHSHU
LAJANYALAN LAK-003 LAK-020 LAK-021 LAK-025 LAK-030 LAK-051 LAK-062 LAK-080 LAK-092 LAK-130
LAK-142 LAK-210 LAK-219 LAK-220 LAK-225 LAK-228 LAK-238 LAK-265 LAK-266 LAK-343 LAK-347 LAK-348
LAK-383 LAK-384 LAK-390 LAK-441 LAK-449 LAK-450 LAK-457 LAK-470 LAK-483 LAK-490 LAK-492 LAK-493
LAK-495 LAK-550 LAK-608 LAK-617 LAK-636 LAK-648 LAK-668 LAK-724 LAK-749 LAKHAN LAKKHANGYAO LAMADH
LAMBDA LAMD LAND LANGUAGE LANTERN LAPAQ LAQ LARI LARYNGEAL LAT LATE LATIK LAU LAUGHING LAUJ
LAUKAZ LAX LAY LAYAR LCI LD LD2 LDAN LEAD LEADING LEAFY LEANING LEDGER LEEK LEFT-HAND LEFT-HANDED
LEFT-LIGHTED LEFT-SIDE LEGION LEGS LEI LELET LEMOI LEMON LENGTH-1 LENGTH-2 LENGTH-3 LENGTH-4
LENGTH-5 LENGTH-6 LENGTH-7 LEO LEOPARD LEP LEPCHA LESS LESSER LEUAEM LEUAEP LEUM LEVEL-2 LEVEL-3
LEVITATING LEX LF LHAG LHAVIYANI LHE LHEE LHII LHOO LHU LHYA LIABILITY LIBERTY LIBRA LICKING LIEE
LIEP LIET LIEX LIFE LIFTER LIGATING LIGHTHOUSE LII LIL LILITH LILY LIMB LIMBS LIMBU LIME LIMIT
LIMITATION LIMITED LIMMU2 LIMMU4 LINE-1 LINE-3 LINE-7 LINE-9 LINGSA LINKED LINKING LION LIPSTICK
LIQ LIS LIT LITH LITRA LIVRE LIX LIZARD LLAMA LLE LLHA LLL LM LN LOA LOBSTER LOCATION-FLOORPLANE
LOCATION-WALLPLANE LOCATIVE LODESTONE LOG LOGOTYPE LOGR LOLL LOLLIPOP LOMKA LOMMAE LONG-BRANCH-AR
LONG-BRANCH-HAGALL LONG-BRANCH-MADR LONG-BRANCH-OSS LONG-BRANCH-SOL LONG-BRANCH-YR LONG-LEGGED
LOOK LOON LOOPED LOP LORRAINE LORRY LOS LOSSLESS LOT LOTION LOUDLY LOUDSPEAKER LOURE LOW-MID
LOW-REVERSED-9 LOX LRE LRI LRM LRO LUAEP LUB LUHUR LUIS LUNGS LUNGSI LUO LUOP LUOT LUOX LUP LUR
LURX LUS LUT LUX LX LYA LYCIAN LYDIAN LYGISMA LYING LYIT LYP LYRX LYT LYX LYY M001A M001B M003A
M010A M012A M012B M012C M012D M012E M012F M012G M012H M015A M016A M017A M022A M024A M028A M031A
M033A M033B M040A M045 M046 M047 M048 M049 M050 M051 M052 M053 M054 M055 M056 M057 M058 M059 M060
M061 M062 M063 M064 M065 M066 M067 M068 M069 M070 M071 M072 M073 M074 M075 M076 M077 M078 M079
M080 M081 M082 M083 M084 M085 M086 M087 M088 M089 M090 M091 M092 M093 M094 M095 M096 M097 M098
M099 M100 M101 M102 M103 M104 M105 M106 M107 M108 M109 M110 M111 M112 M113 M114 M115 M116 M117
M118 M119 M120 M121 M122 M123 M124 M125 M126 M127 M128 M129 M130 M131 M132 M133 M134 M135 M136
M137 M138 M139 M140 M141 M142 M143 M144 M145 M146 M147 M148 M149 M150 M151 M152 M153 M154 M155
M156 M157 M158 M159 M160 M161 M162 M163 M164 M165 M166 M167 M168 M169 M170 M171 M172 M173 M174
M175 M176 M177 M178 M179 M180 M181 M182 M183 M184 M185 M186 M187 M188 M189 M190 M191 M192 M193
M194 M195 M196 M197 MA-1 MA-2 MA-3 MA-4 MA-5 MA-6 MA-7 MA2 MAAI MAAYYAA MACRON-ACUTE MACRON-BREVE
MACRON-GRAVE MADU MADYA MAEKEUP MAELEE MAEMBGBIEE MAEMGBIEE MAEMKPEN MAEMVEUX MAENJET MAENYI MAGE
MAGIC MAGNET MAHAJANI MAHAPAKH MAHHA MAHJONG MAIDEN MAIKURO MAIMALAI MAIMUAN MAIRU MAITAIKHU
MAIYAMOK MAIZE MAKASAR MALAKON MALEERI MALTESE MAMMOTH MANACLES MANAT MANDAIC MANGALAM MANGO
MANICHAEAN MANNA MANNAZ MANS MANSUAE MANSYON MANTELPIECE MANUAL MAO MAPLE MAQAF MARCASITE MARCATO
MARCATO-STACCATO MARCH MARCHEN MARE MARK-4 MARKS MARRATAN MARRIAGE MARRYING MARTIAL MARUKU
MARWARI MARY MASARAM MASCULINE MASHFAAT MASORA MASSAGE MASSING MASU MAT MATE MATERIALS MATRIX
MATTOCK MAU MAX MAXIMA MAXIMIZE MAYAN MAYANNA MB2 MB3 MB4 MBAAKET MBAARAE MBAQ MBEEKEET MBERAE
MBEURI MBEUX MBIRIEEN MBUAE MBUAEM MBUE MBUO MBUOQ MBUU MD ME-1 ME-2 ME-MA MECHANICAL MECHIK MED
MEDICAL MEDICINE MEEMU MEETORU MEGALI MEGAPHONE MEGATON MEIZI MELIK MELODIC MELTING MEMBERSHIP
MEMO MENDE MENDUT MENOE MENORAH MENS MERI MERIDIANS MERKHA MEROITIC MERPERSON MESI MESSENIAN META
METEG METEK METOBELUS METRETES METRIA METRICAL METRO MEUNJOMNDEUQ MEUQ MEX MEZZO MFAA MFEUAE
MFEUQ MFEUT MFIEE MFIYAQ MFO MG MGA MGAP MGAT MGAX MGBASA MGBASAQ MGBE MGBEE MGBEN MGBEUN MGBI
MGBIEE MGBO MGBOFUM MGBOO MGBU MGE MGEP MGEX MGIE MGIEX MGOP MGOT MGOX MGU MGUO MGUOP MGUOX MGUP
MGUR MGURX MGUT MGUX MH MHZ MI-1 MI-2 MI-3 MI-4 MI-5 MI-6 MI-7 MIAO MICR MICRO MICROBE MICROSCOPE
MIE MIEP MIEUM-CHIEUCH MIEUM-CIEUC MIEUM-HIEUH MIEUM-NIEUN MIEUM-PIEUP-SIOS MIEUM-RIEUL
MIEUM-SSANGNIEUN MIEUM-SSANGSIOS MIEUM-TIKEUT MIEX MII MIIN MIKRI MIKRON MIKURON MIL MILK MILKY
MILL MILLET MIME MINIBUS MINIDISC MINIMIZE MINISTER MINNAN MINUS-OR-PLUS MINY MIP MIRED MIRI
MIRIBAARU MISRA MIX MKPARAQ ML MMSP MNYAM MO-1 MO-2 MO-3 MO-4 MO-5 MO-6 MOA MODE MODEL MODELS
MODEM MODERN MODESTY MODI MODIFIER-10 MODIFIER-11 MODIFIER-12 MODIFIER-13 MODIFIER-14 MODIFIER-15
MODIFIER-16 MODIFIER-7 MODIFIER-8 MODIFIER-9 MODULO MOHAMMAD MOKHASSAS MOL MONEY-MOUTH MONGKEUAEQ
MONI MONOCLE MONORAIL MONOSTABLE MONSTER MONTIEEN MOOMEUT MOOMPUQ MOOSE-CREE MORNING
MORPHOLOGICAL MORTUUM MOSQUE MOSQUITO MOT MOTORCYCLE MOTORIZED MOTORWAY MOUNT MOUNTAINS MOVED
MOVEMENT-DIAGONAL MOVEMENT-HINGE MOVES MOVIE MOX MOYAI MQ MR MRACHNO MRACHNOTIKHAYA MRACHNY MRO
MS MTAVRULI MU-1 MU-2 MU-3 MU-4 MU-GAAHLAA MUAS MUE MUEN MUGS MUIN MUKHA MUKKURUNI MUKPHRENG
MULTANI MULTI MULTIOCULAR MULTISET MUM MUN MUNAH MUNSUB MUO MUOMAE MUOP MUOT MUOX MUP MUQDAM MUR
MURE MURGU2 MURX MUS MUSHROOM MUT MUTHALIYA MUUSIKATOAN MUUVUZHAKKU MUX MVEUAENGAM MVI MVS MX MYP
MYT MYX MZ N-MU-MO-1 N-MU-MO-2 N001 N002 N003 N004 N005 N006 N007 N008 N009 N010 N011 N012 N013
N014 N015 N016 N017 N018 N018A N018B N019 N020 N021 N022 N023 N024 N025 N025A N026 N027 N028 N029
N030 N031 N032 N033 N033A N034 N034A N035 N035A N036 N037 N037A N038 N039 N040 N041 N042 NA-1
NA-3 NA-4 NA-5 NA-6 NA-7 NA-8 NA-9 NA4 NAAI NAAKSIKYAYA NABATAEAN NAGAR NAGRI NAIL NAIRA NAK NAM
NAN NAND NANDINAGARI NANGMONTHO NANO NANSANAQ NAOS NAP NASALIZED NATTILIK NAU NAUD NAUDIZ
NAUSEATED NAUTHS NAX NAXIAN NAY NAZAR NBA NBAP NBAT NBAX NBH NBI NBIEP NBIEX NBIP NBIT NBIX NBO
NBOP NBOT NBOX NBSP NBU NBUP NBUR NBURX NBUT NBUX NBY NBYP NBYR NBYRX NBYT NBYX NCA NCHAU ND
NDAANGGEUAET NDAT NDAX NDEP NDEUAEREE NDEUT NDEUX NDEX NDIAQ NDIDA NDIE NDIEX NDIP NDIQ NDIT NDIX
NDOMBU NDON NDOP NDOT NDOX NDUN NDUP NDUR NDURX NDUT NDUX NE-1 NE-3 NE-4 NE-5 NE-6 NE-KO
NEBENSTIMME NECKTIE NEEDLE NEGATION NEMKA NENANO NEP NERD NESSUS NESTING NETWORKED NEUME NEUTER
NEWA NEX NF NGAAI NGAH NGAI NGAN NGANGU NGAP NGAQ NGAT NGAX NGEADAL NGEP NGEUREUT NGEX NGG NGGAA
NGGAAMAE NGGAP NGGEEEE NGGEET NGGEU NGGEUAE NGGEUX NGGUA NGGUAEN NGGUAESHAE NGGUEET NGGUM NGGUOM
NGGUON NGGUOQ NGGUP NGGURAE NGGWAEN NGIE NGIEP NGIEX NGII NGKAAMI NGKAP NGKAQ NGKEUAEM NGKEUAEQ
NGKEURI NGKEUX NGKIEE NGKINDI NGKUENZEUM NGKUM NGKUN NGKUP NGKYEE NGOO NGOQ NGOT NGOX NGU NGUAE
NGUAET NGUAN NGUE NGUN NGUO NGUOT NGUOX NGVE NGYE NH NHAY NHJA NHUE NI-1 NI-2 NI-3 NI-4 NI-5 NI-6
NI-7 NI-TE NI2 NIA NIE NIEP NIEUN-CHIEUCH NIEUN-PIEUP NIEUN-RIEUL NIEUN-THIEUTH NIEX NIGGAHITA
NIGIDAESH NIGIDAMIN NIHSHVASA NIKA NIKAHIT NIKHAHIT NIM NIN9 NINE-THIRTY NINJA NINTH NION NIP
NIRUGU NISAG NIT NITRE NIX NJAA NJAP NJAQ NJEEEE NJEUAEM NJEUAENA NJEUT NJIE NJIEE NJIEP NJIET
NJIEX NJIP NJIT NJIX NJOP NJOT NJOX NJUO NJUOX NJUP NJUQA NJUR NJURX NJUX NJY NJYP NJYR NJYRX
NJYT NJYX NKA NKAU NKINDI NKO NKOM NL NL001 NL002 NL003 NL004 NL005 NL005A NL006 NL007 NL008
NL009 NL010 NL011 NL012 NL013 NL014 NL015 NL016 NL017 NL017A NL018 NL019 NL020 NLAU NM NNAA NNBSP
NNE NNG NNGA NNGAA NNGI NNGII NNGO NNGOO NNHA NNO NNYA NO-1 NO-2 NO-3 NO-4 NO-5 NOA NOKHUK
NOMINAL NOMISMA NON NON-BREAKING NON-JOINER NON-POTABLE NONFORKING NOONU NOP NORDIC
NORTHEAST-POINTING NORTHWEST NOTEBOOK NOTTO NOVEMBER NOVILE NOWC NOX NOY NPA NPLA NQA NQIG NRAP
NRAT NRAX NRE NREP NRES NRET NREX NRO NROP NROX NRU NRUA NRUP NRUR NRURX NRUT NRUX NRY NRYP NRYR
NRYRX NRYT NRYX NS NSA NSEN NSEUAEN NSHAQ NSHEE NSHUE NSHUET NSHUOP NSIEEP NSIEET NSOM NSUM NSUN
NSUOT NTA NTEN NTEUNGBA NTHAU NTIEE NTOQPEN NTSA NTSAU NTU NTUJ NTUM NTXA NTXIV NU-1 NU-2 NU-3
NU001 NU002 NU003 NU004 NU005 NU006 NU007 NU008 NU009 NU010 NU010A NU011 NU011A NU012 NU013 NU014
NU015 NU016 NU017 NU018 NU018A NU019 NU020 NU021 NU022 NU022A NUE NUL NUM NUMBERS NUMERO NUNAVIK
NUNAVUT NUO NUOP NUOX NUP NUR NURX NUSHU NUUN NUX NW NYAEMAE NYAH NYAJ NYAN NYCA NYD NYEN
NYIAKENG NYIE NYIEP NYIET NYIEX NYIN NYIN-DO NYIR NYIX NYJA NYOA NYON NYOO NYOT NYOX NYUE NYUN
NYUO NYUOP NYUOX NYUP NYUT NYUX NYWA NZAP NZAQ NZAT NZAX NZE NZEUM NZEX NZI NZIE NZIEP NZIEX NZIP
NZIT NZIX NZOP NZOX NZU NZUN NZUO NZUOX NZUQ NZUR NZURX NZUX NZY NZYP NZYR NZYRX NZYT NZYX O-1
O-2 O-3 O-E O-EO O-O O-O-I O-U O-YA O-YAE O-YE O-YEO O001 O001A O002 O003 O004 O005 O005A O006
O006A O006B O006C O006D O006E O006F O007 O008 O009 O010 O010A O010B O010C O011 O012 O013 O014
O015 O016 O017 O018 O019 O019A O020 O020A O021 O022 O023 O024 O024A O025 O025A O026 O027 O028
O029 O029A O030 O030A O031 O032 O033 O033A O034 O035 O036 O036A O036B O036C O036D O037 O038 O039
O040 O041 O042 O043 O044 O045 O046 O047 O048 O049 O050 O050A O050B O051 OABOAFILI OAK OB OBELOS
OBELUS OBJECT OBLACHKO OBLAKO OBOFILI OBOL OBSERVER OBSTRUCTION OC OCCLUSION OCHKOM OCR OCTAGONAL
OCTET OCTOBER OCTOPUS ODEN OER OEY OFF OFFICER OG OGHAM OGRE OJEON OKARA OLE OMALON ON-OFF ONAP
ONE-LINE ONE-PIECE ONE-THIRTY ONE-WAY ONESELF ONION ONKAR ONSU OOBOOFILI OOH OOMU OON OOYANNA
OOZE OPEN-CIRCUIT-OUTPUT OPEN-O OPEN-OUTLINED OPEN-P OPERATING OPHIUCHUS OPPOSE OPPRESSION OPTION
ORANGUTAN ORCHID ORDER ORE-2 ORIGIN ORIYA ORNAMENTS ORNATE ORTHODOX ORTHOGONAL OSAGE OSC OSMANYA
OSOKA OTHAL OTHALAN OTHER OTHERS OTSECHKA OTT OTTER OTTOMAN OUNKIA OUTBOX OUTLINE OVERHEATED
OVERSTRUCK OWL OXEIAI OYANNA OYSTER OZ P001 P001A P002 P003 P003A P004 P005 P006 P007 P008 P009
P010 P011 P2 PAAI PAARAE PAARAM PAASENTO PAATU PACKAGE PACKING PADDING PADDLE PADMA PAGER PAGODA
PAH PAHAWH PAINTBRUSH PAIRTHRA PAIYANNOI PALATALIZATION PALATALIZED PALETTE PALKA PALLAS PALLAWA
PALMS PALMYRENE PALUTA PAMAAEH PAMENENG PAMEPET PAMINGKAL PAMSHAE PAMUNGKAH PANAELAENG PANAM
PANCAKES PANDA PANEULEUNG PANG PANGHULU PANGKAT PANGKON PANGLAYAR PANGLONG PANGRANGKEP PANGWISAD
PANOLONG PANONGONAN PANSIOS-KAPYEOUNPIEUP PANSIOS-PIEUP PANYAKRA PANYANGGA PANYECEK PANYIKU
PANYUKU PAO PAPERCLIP PAPERCLIPS PAPYRUS PARACHUTE PARAGRAPHUS PARAKLIT PAREREN PARICHON PARK
PARROT PARTHIAN PARTIALLY-RECYCLED PARUM PASANGAN PASEQ PASHAE PASHTA PASSED PASSENGER PASSIMBANG
PASSIVE-PULL-DOWN-OUTPUT PASSIVE-PULL-UP-OUTPUT PASSPORT PASUQ PAT PATAK PATHAKKU PATHAMASAT
PATTY PAU PAUK PAUSE PAVIYANI PAX PAY PAZER PC PD PDF PDI PEACH PEACOCK PEANUTS PEAR PEDESTRIANS
PEEI PEEKING PEEM PEEP PEESHI PEEZI PEITH PENETRATION PENGKAL PENGUIN PENIHI PENNY PENSIVE PENSU
PENTATHLON PEORTH PEREVODKA PERFECTUM PERFORMING PERMANENT PERMITTED PERNIN PERSEVERING
PERSPECTIVE PERTHO PES PESETA PET PETASMA PETASTI PETASTOKOUFISMA PETRI PEUT PEUTAE PF PG PH
PHAARKAA PHAB PHAGS-PA PHAISTOS PHAM PHAN PHASE-A PHASE-B PHASE-C PHASE-D PHASE-E PHASE-F PHEE
PHIEUPH-HIEUH PHIEUPH-SIOS PHIEUPH-THIEUTH PHILIPPINE PHILOSOPHERS PHINTHU PHNAEK PHOA PHOENICIAN
PHOLUS PHONES PHU PHUNG PHUTHAO PHWA PIANO PIASTRE PIASUTORU PICKET PICKUP PIEEQ PIEET PIEP PIET
PIEUP-KHIEUKH PIEUP-MIEUM PIEUP-NIEUN PIEUP-RIEUL PIEUP-RIEUL-PHIEUPH PIEUP-SIOS-CIEUC
PIEUP-SIOS-PIEUP PIEUP-SIOS-THIEUTH PIEUP-SSANGSIOS PIEX PIKO PIKURU PILE PILL PINARBORAS PINATA
PINCHED PINCHING PINE PINEAPPLE PIPING PIR2 PIRACY PIRIEEN PISCES PISTOL PIX PIZZA PIZZICATO
PLACARD PLAK PLANCK PLANET PLANT PLATE PLAYGROUND PLD PLEADING PLETHRON PLHAU PLOW PLU PLUG PLUK
PLUM PLUMED PLUNGER PLURAL PLUS-MINUS POA POCKET PODATUS PODCHASHIEM PODVERTKA POETIC POETRY
POINTO POINTS POKRYTIE POLKULIZMY POLNAYA POLO POLUPOVODNAYA PONDO POODLE POON POPCORN POPPER
POPPING PORRECTUS PORTABLE POSEIDON POSITIONS POSTBOX POSTPOSITION POTABLE POTTED POUCH POULTRY
POURING POVODNY POWDER POWDERED POX POY PPA PPM PPV PR PRAYER PRECEDED PRECIPITATE PREFACE
PRENKHA PRESCRIPTION PRESENT PRESET PRESSED PRETZEL PREVIOUS PRINCE PRINCESS PRINTS PRIVACY
PRIZNAK PROBING PROFOUND PROGRAM PROGRESS PROHIBITED PROJECTION PROJECTIVE PROJECTOR PROOF
PROPERTY PROPORTIONAL PROSERPINA PROTOVARYS PROVE PS PSALTER PSIFISTOLYGISMA PSIFISTOPARAKALESMA
PSIFISTOSYNAGMA PSILON PTE PTHAHA PU1 PUACHUE PUAQ PUB PUBLIC PUCK PUFFED PUM PUMP PUNCTUS PUNG
PUNGAAM PUO PUOP PUOX PUQ PUR PURIFY PURITY PURNAMA PURSE PURX PUSHING PUSHPIKA PUTNAYA
PUTREFACTION PUUT PUX PUZZLE PV PW PWOY PY PYP PYR PYRX PYX PZ Q001 Q002 Q003 Q004 Q005 Q006 Q007
QAAFU QAAI QADMA QAIRTHRA QALA QAPH QAQ QARNEY QAU QAY QEE QETANA QGA QHA QHAA QHAU QHE QHEE QHI
QHO QHOPH QHU QHWA QHWAA QHWE QHWEE QHWI QIE QIEP QIET QIEX QIF QIP QIT QIX QN QOA QOP QOPA QOX
QP QUADCOLON QUANTITY QUATERNION QUBUTS QUDDISA QUESTIONED QUF QUICK QUINARIUS QUINCUNX
QUINDICESIMA QUINTESSENCE QUINTILE QUK QUOP QUOT QUOX QUP QUR QURX QUSHSHAYA QUT QUUV QUX QWA
QWAA QY QYA QYAA QYE QYEE QYI QYO QYP QYR QYRX QYT QYU QYX R001 R002 R002A R003 R003A R003B R004
R005 R006 R007 R008 R009 R010 R010A R011 R012 R013 R014 R015 R016 R016A R017 R018 R019 R020 R021
R022 R023 R024 R025 R026 R027 R028 R029 RA-1 RA-3 RA-4 RA-KARA RA2 RA3 RAAI RAB RACCOON
RADIOACTIVE RAEM RAH RAHIMAHU RAHIMAHUM RAHMATULLAH RAI RAIDA RAIDO RAIL RAINBOW RAKHANG RAMBAT
RAN RAPISMA RAQ RASHA RASOUL RASWADI RATA RATIO RAU RAVNO RAX RAYANNA RAZOR RAZSEKA RBASA RE-1
RE-2 RE-3 RE-4 READING REAHMUK REALGAR REALGAR-2 RECEIPT RECEPTIVE RECITATIVE RECORDER RECORDING
RECREATIONAL RECYCLED REFERENCE REGIA REGIA-2 REGIONAL REGISTERED REGULUS-2 REGULUS-3 REGULUS-4
REI REID REIWA REJANG RELAA RELATIONAL RELEASE RELIGION REMEDY REMINDER REMU RENTOGEN REP
REPEATED REPH REPHA REPRESENT REREKAN RESH-AYIN RESH-AYIN-DALETH RESIDENCE RESISTANCE RESOLUTION
RESTRICTED RESTROOM RESUPINUS RETORT RETREAT REU REVERSED-SCHWA REVIA REVMA REVOLUTION REX RH
RHINOCEROS RHOTIC RI-1 RI-2 RI-3 RI-4 RI-5 RI-6 RI-7 RIAL RICEM RICKSHAW RIEL RIEUL-CIEUC
RIEUL-KIYEOK-HIEUH RIEUL-MIEUM-HIEUH RIEUL-MIEUM-KIYEOK RIEUL-MIEUM-SIOS RIEUL-PIEUP-HIEUH
RIEUL-PIEUP-PHIEUPH RIEUL-PIEUP-TIKEUT RIEUL-SSANGPIEUP RIEUL-SSANGSIOS RIEUL-SSANGTIKEUT
RIEUL-TIKEUT-HIEUH RIEUL-YEORINHIEUH-HIEUH RIEUL-YESIEUNG RIFLE RIGHT-HAND RIGHT-HANDED
RIGHT-LIGHTED RIGHT-SIDE RIGHTHAND RIGVEDIC RIM RIMGBA RIN RINFORZANDO RINGED RINGING RIP RIPPLE
RIRA RITTORU RITUAL RIVER RJES RLE RLI RLM RLO RMT RO-1 RO-2 RO-3 RO-4 RO-5 RO-6 RO2 ROA ROAR
ROASTED ROBAT ROBOT ROD ROGOM ROLL ROLLED-UP ROM ROOF ROOM ROOSTER ROP ROSE ROSH ROT ROUND-TIPPED
ROWBOAT ROX RRAX RREP RRET RREX RROP RROT RROX RRRA RRU RRUO RRUOX RRUP RRUR RRURX RRUT RRUX RRY
RRYP RRYR RRYRX RRYT RRYX RS RTE RTHANG RU-1 RU-2 RU-3 RU-4 RU-5 RU-6 RUA RUBLE RUE RUGBY RUIS
RUKKAKHA RULAI RULE RULE-DELAYED RUMI RUN RUNIC RUNNER RUNOUT RUO RUOP RUOX RUP RUPII RUR RURX
RUSI RUSSIAN RUT RUUBURU RUX RWAHA RWE RWEE RWI RWII RWO RWOO RYA RYP RYR RYRX RYT RYX RYY S-W
S001 S002 S002A S003 S004 S005 S006 S006A S007 S008 S009 S010 S011 S012 S013 S014 S014A S014B
S015 S016 S017 S017A S018 S019 S020 S021 S022 S023 S024 S025 S026 S026A S026B S027 S028 S029 S030
S031 S032 S033 S034 S035 S035A S036 S037 S038 S039 S040 S041 S042 S043 S044 S045 S046 SA-1 SA-3
SA-4 SA-5 SA-6 SA-7 SA-8 SA-I SAADHU SAAI SACRIFICIAL SAGA SAGITTARIUS SAIKURU SAIL SAILBOAT
SAJDAH SAKE SAKEUAE SAKHA SAKIN SAKOT SAKTA SAL-AMMONIAC SALA SALAAMUHU SALAD SALAM SALLALLAAHU
SALLALLAHU SALT-2 SALUTING SAMKA SAMPHAO SAMVAT SAMYOK SANAH SAND SANDWICH SANGA2 SANNYA SANSKRIT
SANTIIMU SANYOOGA SAPA SAQ SASH SATCHEL SATKAAN SATKAANKUU SATURN SAUCER SAUIL SAURASHTRA
SAUROPOD SAVOURING SAWAN SAX SAXIMATA SAXOPHONE SBRUL SBUB SCALES SCAN SCARF SCEPTER SCHEMA
SCHOLAR SCHROEDER SCI SCORE SCORPION SCORPIUS SCREAMING SCREWDRIVER SCROLL SCRUPLE SCWA SD SDONG
SE-1 SE-2 SE-3 SE-4 SE-5 SEAGULL SEAT SECRET SECTOR SEDNA SEE-NO-EVIL SEEDLING SEENU SEEV
SEGMENTED SELECTOR-1 SELECTOR-10 SELECTOR-100 SELECTOR-101 SELECTOR-102 SELECTOR-103 SELECTOR-104
SELECTOR-105 SELECTOR-106 SELECTOR-107 SELECTOR-108 SELECTOR-109 SELECTOR-11 SELECTOR-110
SELECTOR-111 SELECTOR-112 SELECTOR-113 SELECTOR-114 SELECTOR-115 SELECTOR-116 SELECTOR-117
SELECTOR-118 SELECTOR-119 SELECTOR-12 SELECTOR-120 SELECTOR-121 SELECTOR-122 SELECTOR-123
SELECTOR-124 SELECTOR-125 SELECTOR-126 SELECTOR-127 SELECTOR-128 SELECTOR-129 SELECTOR-13
SELECTOR-130 SELECTOR-131 SELECTOR-132 SELECTOR-133 SELECTOR-134 SELECTOR-135 SELECTOR-136
SELECTOR-137 SELECTOR-138 SELECTOR-139 SELECTOR-14 SELECTOR-140 SELECTOR-141 SELECTOR-142
SELECTOR-143 SELECTOR-144 SELECTOR-145 SELECTOR-146 SELECTOR-147 SELECTOR-148 SELECTOR-149
SELECTOR-15 SELECTOR-150 SELECTOR-151 SELECTOR-152 SELECTOR-153 SELECTOR-154 SELECTOR-155
SELECTOR-156 SELECTOR-157 SELECTOR-158 SELECTOR-159 SELECTOR-16 SELECTOR-160 SELECTOR-161
SELECTOR-162 SELECTOR-163 SELECTOR-164 SELECTOR-165 SELECTOR-166 SELECTOR-167 SELECTOR-168
SELECTOR-169 SELECTOR-17 SELECTOR-170 SELECTOR-171 SELECTOR-172 SELECTOR-173 SELECTOR-174
SELECTOR-175 SELECTOR-176 SELECTOR-177 SELECTOR-178 SELECTOR-179 SELECTOR-18 SELECTOR-180
SELECTOR-181 SELECTOR-182 SELECTOR-183 SELECTOR-184 SELECTOR-185 SELECTOR-186 SELECTOR-187
SELECTOR-188 SELECTOR-189 SELECTOR-19 SELECTOR-190 SELECTOR-191 SELECTOR-192 SELECTOR-193
SELECTOR-194 SELECTOR-195 SELECTOR-196 SELECTOR-197 SELECTOR-198 SELECTOR-199 SELECTOR-2
SELECTOR-20 SELECTOR-200 SELECTOR-201 SELECTOR-202 SELECTOR-203 SELECTOR-204 SELECTOR-205
SELECTOR-206 SELECTOR-207 SELECTOR-208 SELECTOR-209 SELECTOR-21 SELECTOR-210 SELECTOR-211
SELECTOR-212 SELECTOR-213 SELECTOR-214 SELECTOR-215 SELECTOR-216 SELECTOR-217 SELECTOR-218
SELECTOR-219 SELECTOR-22 SELECTOR-220 SELECTOR-221 SELECTOR-222 SELECTOR-223 SELECTOR-224
SELECTOR-225 SELECTOR-226 SELECTOR-227 SELECTOR-228 SELECTOR-229 SELECTOR-23 SELECTOR-230
SELECTOR-231 SELECTOR-232 SELECTOR-233 SELECTOR-234 SELECTOR-235 SELECTOR-236 SELECTOR-237
SELECTOR-238 SELECTOR-239 SELECTOR-24 SELECTOR-240 SELECTOR-241 SELECTOR-242 SELECTOR-243
SELECTOR-244 SELECTOR-245 SELECTOR-246 SELECTOR-247 SELECTOR-248 SELECTOR-249 SELECTOR-25
SELECTOR-250 SELECTOR-251 SELECTOR-252 SELECTOR-253 SELECTOR-254 SELECTOR-255 SELECTOR-256
SELECTOR-26 SELECTOR-27 SELECTOR-28 SELECTOR-29 SELECTOR-3 SELECTOR-30 SELECTOR-31 SELECTOR-32
SELECTOR-33 SELECTOR-34 SELECTOR-35 SELECTOR-36 SELECTOR-37 SELECTOR-38 SELECTOR-39 SELECTOR-4
SELECTOR-40 SELECTOR-41 SELECTOR-42 SELECTOR-43 SELECTOR-44 SELECTOR-45 SELECTOR-46 SELECTOR-47
SELECTOR-48 SELECTOR-49 SELECTOR-5 SELECTOR-50 SELECTOR-51 SELECTOR-52 SELECTOR-53 SELECTOR-54
SELECTOR-55 SELECTOR-56 SELECTOR-57 SELECTOR-58 SELECTOR-59 SELECTOR-6 SELECTOR-60 SELECTOR-61
SELECTOR-62 SELECTOR-63 SELECTOR-64 SELECTOR-65 SELECTOR-66 SELECTOR-67 SELECTOR-68 SELECTOR-69
SELECTOR-7 SELECTOR-70 SELECTOR-71 SELECTOR-72 SELECTOR-73 SELECTOR-74 SELECTOR-75 SELECTOR-76
SELECTOR-77 SELECTOR-78 SELECTOR-79 SELECTOR-8 SELECTOR-80 SELECTOR-81 SELECTOR-82 SELECTOR-83
SELECTOR-84 SELECTOR-85 SELECTOR-86 SELECTOR-87 SELECTOR-88 SELECTOR-89 SELECTOR-9 SELECTOR-90
SELECTOR-91 SELECTOR-92 SELECTOR-93 SELECTOR-94 SELECTOR-95 SELECTOR-96 SELECTOR-97 SELECTOR-98
SELECTOR-99 SELENA SELFIE SEMISEXTILE SEMIVOWEL SEMK SEMUNCIA SENTAGON SENTI SENTO SEP SEPARATED
SEPTEMBER SEPTUPLE SEQUENCE SERIOUS SERVICE SESQUIQUADRATE SESTERTIUS SETFON SEUAEQ SEUNYAM
SEVEN-THIRTY SEVENTH SEVERANCE SEWING SEX SEXTANS SEXTANT-1 SEXTANT-12 SEXTANT-123 SEXTANT-1234
SEXTANT-12345 SEXTANT-12346 SEXTANT-1235 SEXTANT-12356 SEXTANT-1236 SEXTANT-124 SEXTANT-1245
SEXTANT-12456 SEXTANT-1246 SEXTANT-125 SEXTANT-1256 SEXTANT-126 SEXTANT-13 SEXTANT-134
SEXTANT-1345 SEXTANT-13456 SEXTANT-1346 SEXTANT-1356 SEXTANT-136 SEXTANT-14 SEXTANT-145
SEXTANT-1456 SEXTANT-146 SEXTANT-15 SEXTANT-156 SEXTANT-16 SEXTANT-2 SEXTANT-23 SEXTANT-234
SEXTANT-2345 SEXTANT-23456 SEXTANT-2346 SEXTANT-235 SEXTANT-2356 SEXTANT-236 SEXTANT-24
SEXTANT-245 SEXTANT-2456 SEXTANT-25 SEXTANT-256 SEXTANT-26 SEXTANT-3 SEXTANT-34 SEXTANT-345
SEXTANT-3456 SEXTANT-346 SEXTANT-35 SEXTANT-356 SEXTANT-36 SEXTANT-4 SEXTANT-45 SEXTANT-456
SEXTANT-46 SEXTANT-5 SEXTANT-56 SEXTANT-6 SEXTILE SEYK SG SGC SGOR SGRA SH2 SHAB6 SHAK SHAKER
SHAKTI SHALLOW SHALSHELET SHAMROCK SHAP SHAPE SHARA SHARADA SHARK SHAVED SHAVIAN SHAVIYANI SHAX
SHAY SHCHOOI SHE-GOAT SHEENU SHEG9 SHEN SHEP SHEQEL SHESH2 SHESHLAM SHEUAE SHEUAEQ SHEUAEQTU
SHEUOQ SHEVA SHEX SHIIN SHINDA SHINIG SHINTO SHIRAE SHIRT SHIYYAALAA SHOA SHOCKED SHOES SHOOI
SHOOT SHOOTING SHORT-TWIG-AR SHORT-TWIG-BJARKAN SHORT-TWIG-HAGALL SHORT-TWIG-MADR SHORT-TWIG-NAUD
SHORT-TWIG-OSS SHORT-TWIG-SOL SHORT-TWIG-TYR SHORT-TWIG-YR SHORTCAKE SHORTENER SHORTHAND SHOT
SHOU SHOULDERED SHOWER SHOX SHRA SHRAA SHRII SHRINE SHRO SHROO SHRUG SHUANGXI SHUBUR SHUENSHUET
SHUEQ SHUFFLE SHUL SHUM SHUO SHUOP SHUOX SHUP SHURX SHUT SHUTTLECOCK SHUX SHV SHWOY SHYA SHYE
SHYP SHYR SHYRX SHYT SHYX SI-1 SI-2 SI-3 SI-4 SI-5 SI-6 SIA SICKLE SICKNESS SIDDHI SIE SIEE SIEP
SIEX SIGEL SIGNWRITING SIKI SILIQUA SILVER SIMANSIS SIMULTANEOUS SINDHI SINE SINGAAT
SINGLE-SHIFT-2 SINGLE-SHIFT-3 SINKING SINOLOGICAL SINUSOID SIOS-IEUNG SIOS-KAPYEOUNPIEUP
SIOS-KHIEUKH SIOS-PANSIOS SIOS-PHIEUPH SIOS-PIEUP-KIYEOK SIOS-SSANGSIOS SIP SIRINGU SIRRAH SISA
SIT SITE SIX-LINE SIX-PER-EM SIX-STRING SIX-THIRTY SIXTEENTH-1 SIXTEENTH-2 SIXTY-FOURTHS SK
SKATEBOARD SKIER SKIN SKOBA SKUNK SKW SKWA SLAVE SLAVONIC SLED SLEEP SLEEPY SLEUTH SLIDE SLIDER
SLIDING SLING SLOPE SLOPING SLOT SLOTH SLOWLY SLOZHITIE SMEAR SMIRKING SNA SNAIL SNAP SNEEZING
SNOWBOARDER SO-1 SO-2 SO-3 SO-4 SO-5 SO-6 SO-7 SOA SOCCER SOCKS SOFTBALL SOFTNESS
SOFTWARE-FUNCTION SOH SOLID SOMPENG SON SONG SONJAM SOON SOP SOQ SORA SORI SOUNAP SOUTH-SLAVEY
SOW SOWILO SOX SOY SOYOMBO SPAGHETTI SPARKLER SPARKLES SPARKLING SPATHI SPE SPEAK-NO-EVIL
SPEAKING SPEEDBOAT SPENT SPESMILO SPI SPICE SPIDER SPINE SPIRANT SPIRITUS SPLASHING SPLITTING SPO
SPONGE SPOOL SPORTS SPOT SPOUTING SPRECHGESANG SPRING SPRINGS SPROUT SPUNGS SPWA SPY SQUEEZED
SQUID SQUISH SR SS2 SS3 SSAA SSANGARAEA SSANGCIEUC-HIEUH SSANGMIEUM SSANGRIEUL-KHIEUKH
SSANGSIOS-KIYEOK SSANGSIOS-PIEUP SSANGSIOS-TIKEUT SSANGTHIEUTH SSANGTIKEUT-PIEUP SSANGYEORINHIEUH
SSANGYESIEUNG SSAP SSAT SSAX SSEE SSEP SSEX SSHE SSHIN SSIE SSIEP SSIEX SSIP SSIT SSIX SSOP SSOT
SSOX SSUP SSUT SSUX SSY SSYP SSYR SSYRX SSYT SSYX ST2 STACCATISSIMO STACCATO STACKED STADIUM
STALLION STAN STAND STANDING STANDSTILL STARK STARRED STARS STARTING STATE STATION STATUE STAUROS
STAVROU STEAMING STEAMY STENOGRAPHIC STEREO STETHOSCOPE STILL STIMME STIRRUP STOPPAGE STOPPING
STOPWATCH STOVE STRAGGISMATA STRAIF STRAIGHTNESS STRAINER STRATIAN STRATUM-2 STRAW STRAWBERRY
STREAMER STRENGTH STRETCH STRICTLY STRIDE STRIKE STRIKETHROUGH STRIPE STROKE-1 STROKE-10
STROKE-11 STROKE-2 STROKE-3 STROKE-4 STROKE-5 STROKE-6 STROKE-7 STROKE-8 STROKE-9 STS STUCK-OUT
STUDIO STUFFED STUPA STWA STX SU-1 SU-2 SU-3 SU-4 SU-5 SU-6 SU-7 SU-8 SUAB SUAE SUAEN SUAET SUAM
SUB SUBHAANAHU SUBITO SUBJECT SUBLIMATE-2 SUBLIMATE-3 SUBLIMATION SUBPUNCTIS SUCK SUCKING SUD
SUD2 SUITABLE SUMASH SUMMER SUNFLOWER SUNRISE SUNSET SUO SUOP SUOX SUP SUPER SUPERFIXED SUPERHERO
SUPERIMPOSED SUPERVILLAIN SUR9 SURE SURFER SURX SURYA SUSHI SUT SUTRA SUX SVETLO SVETLY SWAN SWG
SWIMMER SWIMMING SWIMSUIT SWORD SWORDS SWUNG SWZ SY SYA SYI SYLOTI SYMBOL-10 SYMBOL-15 SYMBOL-16
SYMBOL-20 SYMBOL-21 SYMBOL-22 SYMBOL-25 SYMBOL-26 SYMBOL-27 SYMBOL-29 SYMBOL-3 SYMBOL-30
SYMBOL-32 SYMBOL-36 SYMBOL-37 SYMBOL-38 SYMBOL-39 SYMBOL-40 SYMBOL-42 SYMBOL-43 SYMBOL-45
SYMBOL-47 SYMBOL-48 SYMBOL-49 SYMBOL-6 SYMBOL-9 SYMMETRY SYN SYNAFI SYNAGOGUE SYNDESMOS SYNEVMA
SYOUWA SYP SYR SYRINGE SYRMA SYRMATIKI SYRX SYSTEM SYT SYX SZ SZA SZAA SZE SZEE SZI SZO SZU SZWA
SZWG SZZ T-REX T-SHIRT T001 T002 T003 T003A T004 T005 T006 T007 T007A T008 T008A T009 T009A T010
T011 T011A T012 T013 T014 T015 T016 T016A T017 T018 T019 T020 T021 T022 T023 T024 T025 T026 T027
T028 T029 T030 T031 T032 T032A T033 T033A T034 T035 T036 TA-1 TA-3 TA-4 TA2 TAAALAA TAAF TAAI
TAAM TAAQ TAASHAE TABAARAKA TABS TACO TAEN TAGALOG TAGBANWA TAHALA TAILLESS TAISYOU TAK TAKE
TAKEOUT TAKHALLUS TAKRI TALENT TAMALE TAMAN TANA TANABATA TANG TANGERINE TANGSA TAO TAP TAPER TAQ
TARTAR TARTAR-2 TARUNG TAS TASHEEL TASSI TATTOOED TAUM TAURUS TAVIYANI TAWA TAWELLEMET TAX TAY
TE-1 TE-3 TE-4 TE-5 TE-6 TE-7 TE-8 TE-9 TE-U TEA TEACUP TEAPOT TEAR TEAR-OFF TEARDROP-BARBED
TEARDROP-SHANKED TEDDY TEEEE TEENS TEETH TEGEH TEIWS TEK TELESCOPE TELEVISION TELLER TELU TELUGU
TEMPLE TEMPUS TEN-THIRTY TENGE TENUTO TEP TERMINAL TESSARON TEST TETRAFONIAS TETRAGRAM TETRAPLI
TEU TEUN TEUT TEUTEUWEN TEUTEUX TEVIR TEX TH-CREE THAALU THAANA THAHAN THAI THAJ THAMEDH THANNA
THANTHAKHAT THAW THEA THEMATISMOS THERE THEREFORE THERMODYNAMIC THES THETH THEY THIAB THICK THIGH
THING THINKING THIRD-STAGE THIRTY-ONE THITA THIUTH THOA THOJ THOM THOU THREE-CIRCLE THREE-DOT
THREE-EM THREE-HUNDRED-AND-TWENTIETH THREE-LEGGED THREE-LINE THREE-PER-EM THREE-QUARTER
THREE-THIRTY THROWING THUNDERSTORM THUNG THURISAZ THURS THWE THWEE THWI THWII THWO THWOO THYOOM
THZ TI-1 TI-2 TI-3 TI-4 TI-5 TI-6 TI-7 TI2 TIARA TICKET TICKETS TIEP TIEX TIFINAGH TII
TIKEUT-CHIEUCH TIKEUT-MIEUM TIKEUT-SIOS-KIYEOK TIKEUT-THIEUTH TILES TILT TIMER TIN TINAGMA
TINCTURE TING TINNE TIPEHA TIPPI TIRED TIRHUTA TIRTA TIRYAK TITUAEP TIWAZ TIWR TIX TLEE TLHEE
TLHOO TLHU TLHWE TLHYA TN TO-1 TO-2 TO-3 TO-4 TO-5 TO-6 TO-RA TOA TOANDAKHIAT TOCHKA TOILET TOKYO
TOLONG TOMATO TOMPI TON TONE-B TONE-D TONE-G TONE-J TONE-M TONE-S TONE-V TONG TOOLBOX TOON
TOOTHBRUSH TORCH TORNADO TORSO TORSO-FLOORPLANE TORSO-WALLPLANE TOS TOTO TOUCH TOUCHES TOURNOIS
TOV TOWER TOX TR TRACKBALL TRACTOR TRADE TRADITIONAL TRAILING TRAM TRAMWAY TRANSMIT TRANSPLUTO
TRANSVERSAL TRAP TRAPEZIUM TRAVEL-FLOORPLANE TRAVEL-WALLPLANE TREADING TREDECILE TRESVETLO
TRESVETLY TRI TRIA TRIANGLE-ROUND TRIFOLIATE TRIFONIAS TRIGORGON TRIGRAM TRIISAP TRILL TRILLIONS
TRION TRIPLI TRIPOD TRITOS TRIUMPH TROLL TROLLEY TROLLEYBUS TROMIKOLYGISMA TROMIKOPARAKALESMA
TROMIKOPSIFISTON TROMIKOSYNAGMA TROPHY TRUMP-1 TRUMP-10 TRUMP-11 TRUMP-12 TRUMP-13 TRUMP-14
TRUMP-15 TRUMP-16 TRUMP-17 TRUMP-18 TRUMP-19 TRUMP-2 TRUMP-20 TRUMP-21 TRUMP-3 TRUMP-4 TRUMP-5
TRUMP-6 TRUMP-7 TRUMP-8 TRUMP-9 TRUMPET TRUNCATED TRUTH TRYASKA TRYASOGLASNAYA TRYASOPOVODNAYA
TRYASOSTRELNAYA TRYBLION TSAA TSAADIY TSAB TSEEB TSERE TSHAB TSHEEJ TSHOOJ TSHOOK TSHUGS TSIU
TSOV TSSA TSWA TSWB TT2 TTEE TTH TTHEE TTHOO TTHU TTHWE TTSA TTSE TTSEE TTSI TTSO TTSU TTTHA TTU
TTUDDAG TU-1 TU-2 TU-3 TU-4 TU-TO TUAE TUAEP TUB TUBE TUGRIK TUKWENTIS TULIP TUMAE TUMBLER
TUMETES TUNNY TUO TUOP TUOX TUPNI TURKEY TURKIC TURKISH TURO2 TURU TURX TUT TUTEYASAT TUTTY TUUMU
TUX TUXEDO TVIMADUR TWELFTH TWELVE-THIRTY TWENTY-EIGHT TWENTY-NINE TWENTY-SEVEN TWENTY-SIX
TWISTED TWISTING TWO-EM TWO-LINE TWO-THIRTY TXA TXHEEJ TXWV TYA TYAY TYE TYI TYO TYPE-1 TYPE-1-2
TYPE-2 TYPE-7 TYR TZA TZAA TZE TZEE TZI TZIR TZO TZOA TZU U-1 U-2 U-3 U-4 U-5 U-A U-AE U-EO-EU
U-I-I U-U U-YE U-YEO U001 U002 U003 U004 U005 U006 U006A U006B U007 U008 U009 U010 U011 U012 U013
U014 U015 U016 U017 U018 U019 U020 U021 U022 U023 U023A U024 U025 U026 U027 U028 U029 U029A U030
U031 U032 U032A U033 U034 U035 U036 U037 U038 U039 U040 U041 U042 UAN UANG UATH UBHAYATO UBUFILI
UDAAT UDARKA UDUG UEA UEC UEE UEI UEN UEQ UEY UGARITIC UHD UIC UILLEANN UIQ UIUC UIUQ UIUX UIUZ
UIX UIZ UKARA UMBIN UNA UNAMUSED UNAP UNASPIRATED UNBLENDED UNCERTAINTY UNCIA UNDERDOT UNDO
UNEVEN UNG UNICORN UNIFORM UNITED UNITY UNKNOWN UNMARRIED UOG UON UOP UOX UPRIGHT UPSIDE-DOWN UQ
UR4 URA URI URI3 URINE URN URUS URUZ USE-1 USE-2 USH2 USHENNA USHUMX USHX USSU USSU3 UTUKI UUU
UUU2 UUU3 UUUU UUYANNA UWU UX UYANNA UYGHUR UZ UZ3 UZHAKKU UZU V001 V001A V001B V001C V001D V001E
V001F V001G V001H V001I V002 V002A V003 V004 V005 V006 V007 V007A V007B V008 V009 V010 V011 V011A
V011B V011C V012 V012A V012B V013 V014 V015 V016 V017 V018 V019 V020 V020A V020B V020C V020D
V020E V020F V020G V020H V020I V020J V020K V020L V021 V022 V023 V023A V024 V025 V026 V027 V028
V028A V029 V029A V030 V030A V031 V031A V032 V033 V033A V034 V035 V036 V037 V037A V038 V039 V040
V040A VAAVU VAI VAJ VAKAIYARAA VALLEY VAMAGOMUKHA VAMPIRE VAP VAPOURS VARAAKAN VAREIAI VARIKA
VARYS VASTNESS VAT VATHY VAU VAX VAYANNA VC VECTOR VEHICLE VEIL VELI VER VERDIGRIS VERGE VERSICLE
VERTICAL-00-00 VERTICAL-00-01 VERTICAL-00-02 VERTICAL-00-03 VERTICAL-00-04 VERTICAL-00-05
VERTICAL-00-06 VERTICAL-01-00 VERTICAL-01-01 VERTICAL-01-02 VERTICAL-01-03 VERTICAL-01-04
VERTICAL-01-05 VERTICAL-01-06 VERTICAL-02-00 VERTICAL-02-01 VERTICAL-02-02 VERTICAL-02-03
VERTICAL-02-04 VERTICAL-02-05 VERTICAL-02-06 VERTICAL-03-00 VERTICAL-03-01 VERTICAL-03-02
VERTICAL-03-03 VERTICAL-03-04 VERTICAL-03-05 VERTICAL-03-06 VERTICAL-04-00 VERTICAL-04-01
VERTICAL-04-02 VERTICAL-04-03 VERTICAL-04-04 VERTICAL-04-05 VERTICAL-04-06 VERTICAL-05-00
VERTICAL-05-01 VERTICAL-05-02 VERTICAL-05-03 VERTICAL-05-04 VERTICAL-05-05 VERTICAL-05-06
VERTICAL-06-00 VERTICAL-06-01 VERTICAL-06-02 VERTICAL-06-03 VERTICAL-06-04 VERTICAL-06-05
VERTICAL-06-06 VESSEL VEST VESTA VEUAE VEUAEPEN VEUM VEUX VEX VEYZ VFA VHA VIBRATION
VIDEOCASSETTE VIDJ VIDJ-2 VIE VIEP VIETNAMESE VIEWDATA VIEWER VIEWING VIEX VIGINTILE VILLAGE
VINEGAR-2 VINEGAR-3 VIOLIN VIP VIRGA VIRGO VIRIAM VISARGAYA VIT VITAE VITAE-2 VITHKUQI VITRIOL
VITRIOL-2 VIX VOCAL VOCALIZATION VOD VOICELESS VOID VOIDED VOLCANO VOLLEYBALL VOLTAGE VOLUME VOM
VOMITING VOOI VOP VOT VOW VOWEL-CARRIER VOX VQ VRAKHIYA VS VS1 VS10 VS100 VS101 VS102 VS103 VS104
VS105 VS106 VS107 VS108 VS109 VS11 VS110 VS111 VS112 VS113 VS114 VS115 VS116 VS117 VS118 VS119
VS12 VS120 VS121 VS122 VS123 VS124 VS125 VS126 VS127 VS128 VS129 VS13 VS130 VS131 VS132 VS133
VS134 VS135 VS136 VS137 VS138 VS139 VS14 VS140 VS141 VS142 VS143 VS144 VS145 VS146 VS147 VS148
VS149 VS15 VS150 VS151 VS152 VS153 VS154 VS155 VS156 VS157 VS158 VS159 VS16 VS160 VS161 VS162
VS163 VS164 VS165 VS166 VS167 VS168 VS169 VS17 VS170 VS171 VS172 VS173 VS174 VS175 VS176 VS177
VS178 VS179 VS18 VS180 VS181 VS182 VS183 VS184 VS185 VS186 VS187 VS188 VS189 VS19 VS190 VS191
VS192 VS193 VS194 VS195 VS196 VS197 VS198 VS199 VS2 VS20 VS200 VS201 VS202 VS203 VS204 VS205
VS206 VS207 VS208 VS209 VS21 VS210 VS211 VS212 VS213 VS214 VS215 VS216 VS217 VS218 VS219 VS22
VS220 VS221 VS222 VS223 VS224 VS225 VS226 VS227 VS228 VS229 VS23 VS230 VS231 VS232 VS233 VS234
VS235 VS236 VS237 VS238 VS239 VS24 VS240 VS241 VS242 VS243 VS244 VS245 VS246 VS247 VS248 VS249
VS25 VS250 VS251 VS252 VS253 VS254 VS255 VS256 VS26 VS27 VS28 VS29 VS3 VS30 VS31 VS32 VS33 VS34
VS35 VS36 VS37 VS38 VS39 VS4 VS40 VS41 VS42 VS43 VS44 VS45 VS46 VS47 VS48 VS49 VS5 VS50 VS51 VS52
VS53 VS54 VS55 VS56 VS57 VS58 VS59 VS6 VS60 VS61 VS62 VS63 VS64 VS65 VS66 VS67 VS68 VS69 VS7 VS70
VS71 VS72 VS73 VS74 VS75 VS76 VS77 VS78 VS79 VS8 VS80 VS81 VS82 VS83 VS84 VS85 VS86 VS87 VS88
VS89 VS9 VS90 VS91 VS92 VS93 VS94 VS95 VS96 VS97 VS98 VS99 VT VTS VUEQ VULCANUS VUP VURX VUT VUX
VW VWA VWJ VX VYP VYR VYRX VYT VYX VZ VZMET W001 W002 W003 W003A W004 W005 W006 W007 W008 W009
W009A W010 W010A W011 W012 W013 W014 W014A W015 W016 W017 W017A W018 W018A W019 W020 W021 W022
W023 W024 W024A W025 WA-1 WA-2 WA-3 WA-4 WA-5 WA-AALIH WA-SALLAM WA-TAAALAA WAAALIHEE WAAJIB
WAAVU WADDA WAEN WAFFLE WAI WAIST WALLPLANE WAN WANCHO WAND WANDERER WANGKUOQ WAQFA WARANG
WARNING WAS-SALAAM WASSALLAM WASTEBASKET WASTING WAT WATERMELON WATTO WB WE-1 WE-2 WE-3 WE-4
WEAPON WEB WEDDING WEDGE WEEN WEIERSTRASS WELL WEN WEP WET WEUX WEX WG WH WHEELED WHITE-FEATHERED
WI-1 WI-2 WI-3 WI-4 WI-5 WIANG WIANGWAAK WIDENING WIGGLES WIGNYAN WILTED WIN WINGS WINJA WINK
WINTER WIRED WJ WO-1 WO-2 WO-3 WO-4 WO-5 WO-6 WO-7 WOA WOE WOLF WOMEN WOMENS WOON WOP WORDSPACE
WORKER WORLD WORM WORRIED WORSHIP WOW WOX WRAP WRAPPED WREATH WRESTLERS WRONG WRY WUAEN WUAET WUI
WULU WUN WUNJO WUOP WUOX WUP WVA WVE WVI WZ X-RAY X-X X001 X002 X003 X004 X004A X004B X005 X006
X006A X007 X008 X008A XAA XAPH XAU XAUS XEE XESTES XEYN XG XHEYN XIAB XIANGQI XIE XIEP XIET XIEX
XIP XIRON XIT XIX XOA XOP XOPH XOR XOT XOX XSHAAYATHIYA XU XUO XUOX XVE XWA XWAA XWE XWEE XWI XY
XYAA XYEE XYEEM XYI XYO XYOO XYOOJ XYP XYR XYRX XYT XYU XYX Y001 Y001A Y002 Y003 Y004 Y005 Y006
Y007 Y008 YA-1 YA-2 YA-3 YA-4 YA-5 YA-O YA-U YAADO YAAI YAARU YAB YABH YACH YAD YADD YADDH YADH
YAEMMAE YAF YAFU YAG YAGHH YAGN YAHH YAKASH YAKHH YAL YAMAKKAN YAMOK YARN YARR YAS YASH YASS YATH
YATT YAU YAV YAW YAWNING YAYANNA YAYD YAZZ YEA YEEG YEIN YENAP YEO-O YEO-U YEO-YA YERAH
YESIEUNG-HIEUH YESIEUNG-KHIEUKH YESIEUNG-KIYEOK YESIEUNG-MIEUM YESIEUNG-SSANGKIYEOK YETIV YEUAE
YEUAET YEUM YEUQ YEURAE YEUX YEW YEY YEZIDI YFEN YHA YI-U YIEE YIEP YIET YIEX YIH YII YING YIP
YIX YIZET YO-1 YO-2 YO-3 YO-4 YO-5 YO-6 YO-A YO-AE YO-EO YO-O YO-YEO YO-YO YOA YOMO YOP YORI YOU
YOUTHFUL YOUTHFULNESS YOWD YOX YOY YPOKRISIS YPORROI YPSILI YRY YU-1 YU-2 YU-3 YU-4 YU-A YU-AE
YU-E YU-EO YU-O YU-U YUAEN YUAN YUDH YUE YUEQ YUI YUN YUO YUOM YUOT YUOX YUP YUR YURX
YUUKALEAPINTU YUX YYAA YYE YYP YYR YYRX YYT YYX Z001 Z002 Z002A Z002B Z002C Z002D Z003 Z003A
Z003B Z004 Z004A Z005 Z005A Z006 Z007 Z008 Z009 Z010 Z011 Z012 Z013 Z014 Z015 Z015A Z015B Z015C
Z015D Z015E Z015F Z015G Z015H Z015I Z016 Z016A Z016B Z016C Z016D Z016E Z016F Z016G Z016H ZAEF ZAG
ZAI ZAKRYTAYA ZAKRYTOE ZAMX ZANABAZAR ZANOZHEK ZAP ZAPYATYMI ZAQEF ZARL ZARQA ZAT ZAVIYANI ZAX
ZAYIN-YODH ZE2 ZEBRA ZELO ZEP ZEUS ZEVOK ZEX ZH ZHAA ZHAIN ZHAP ZHAT ZHAX ZHAYIN ZHEP ZHET ZHEX
ZHIL ZHOI ZHOO ZHOP ZHOT ZHOX ZHUO ZHUOP ZHUOX ZHUP ZHUR ZHURX ZHUT ZHUX ZHWA ZHY ZHYP ZHYR ZHYRX
ZHYT ZHYX ZI3 ZIB ZIE ZIEP ZIEX ZIG ZILDE ZINOR ZIP ZIPPER-MOUTH ZIQAA ZIT ZIX ZLAMA ZMEYTSA
ZNAMENNY ZOA ZOMBIE ZOP ZOX ZQAPHA ZRA ZSA ZSHA ZUBUR ZUM ZUO ZUOP ZUOX ZURX ZUT ZUX ZWA ZWARAKAY
ZWNBSP ZWNJ ZWSP ZYGOS ZYP ZYR ZYRX ZYT ZYX ZZAA ZZAP ZZAT ZZAX ZZEE ZZEP ZZEX ZZIE ZZIEP ZZIEX
ZZIP ZZIT ZZIX ZZOP ZZOX ZZSA ZZSYA ZZUP ZZUR ZZURX ZZUX ZZY ZZYA ZZYP ZZYR ZZYRX ZZYT ZZYX"

end Coffer.Text
