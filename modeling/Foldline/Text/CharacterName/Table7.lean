/-! # Character names, part 7 of 8

The names from PHAISTOS DISC SIGN WOMAN on,
in the notation of `CharacterName`. -/

namespace Foldline.Text.CharacterName

/-- Rows of names. -/
def rows7 : String := "
PHAISTOS DISC SIGN WOMAN=101D5;02ILIPPINE DOUBLE PUNCTUATION=1736;11SINGLE PUNCTUATION=1735
PHOENICIAN LETTER AIN=1090F;19LF=10900;18BET=10901;18DELT=10903;18GAML=10902;18HE=10904;20T=10907
PHOENICIAN LETTER KAF=1090A;18LAMD=1090B;18MEM=1090C;18NUN=1090D;18PE=10910;18QOF=10912
PHOENICIAN LETTER ROSH=10913;18SADE=10911;19EMK=1090E;19HIN=10914;18TAU=10915;19ET=10908
PHOENICIAN LETTER WAU=10905;18YOD=10909;18ZAI=10906;11NUMBER ONE HUNDRED=10919;21=10916
PHOENICIAN NUMBER TEN=10917;19HREE=1091B;19WENTY=10918;20O=1091A;11WORD SEPARATOR=1091F;03LUS=2BDB
PICK=26CF;04UP TRUCK=1F6FB;02E=1F967;02G FACE=1F437;04NOSE=1F43D;03=1F416;02LCROW SIGN=B6
PILE OF POO=1F4A9;03L=1F48A;02NATA=1FA85;03CHED FINGERS=1F90C;05ING HAND=1F90F
PINE DECORATION=1F38D;04APPLE=1F34D;03WHEEL STAR=272F;02SCES=2653;03TOL=1F52B
PITCHFORK WITH TEE TOP=2ADA;09=22D4;01LACARD=1FAA7;04E OF INTEREST SIGN=2318;09WORSHIP=1F6D0
PLANCK CONSTANT OVER TWO PI=210F;15=210E;03YGROUND SLIDE=1F6DD;04ING CARD ACE OF CLUBS=1F0D1
PLAYING CARD ACE OF DIAMONDS=1F0C1;20HEARTS=1F0B1;20SPADES=1F0A1;13BACK=1F0A0;14LACK JOKER=1F0CF
PLAYING CARD EIGHT OF CLUBS=1F0D8;22DIAMONDS=1F0C8;22HEARTS=1F0B8;22SPADES=1F0A8
PLAYING CARD FIVE OF CLUBS=1F0D5;21DIAMONDS=1F0C5;21HEARTS=1F0B5;21SPADES=1F0A5;14OOL=1F0E0
PLAYING CARD FOUR OF CLUBS=1F0D4;21DIAMONDS=1F0C4;21HEARTS=1F0B4;21SPADES=1F0A4
PLAYING CARD JACK OF CLUBS=1F0DB;21DIAMONDS=1F0CB;21HEARTS=1F0BB;21SPADES=1F0AB
PLAYING CARD KING OF CLUBS=1F0DE;21DIAMONDS=1F0CE;21HEARTS=1F0BE;21SPADES=1F0AE
PLAYING CARD KNIGHT OF CLUBS=1F0DC;23DIAMONDS=1F0CC;23HEARTS=1F0BC;23SPADES=1F0AC
PLAYING CARD NINE OF CLUBS=1F0D9;21DIAMONDS=1F0C9;21HEARTS=1F0B9;21SPADES=1F0A9
PLAYING CARD QUEEN OF CLUBS=1F0DD;22DIAMONDS=1F0CD;22HEARTS=1F0BD;22SPADES=1F0AD;13RED JOKER=1F0BF
PLAYING CARD SEVEN OF CLUBS=1F0D7;22DIAMONDS=1F0C7;22HEARTS=1F0B7;22SPADES=1F0A7
PLAYING CARD SIX OF CLUBS=1F0D6;20DIAMONDS=1F0C6;20HEARTS=1F0B6;20SPADES=1F0A6
PLAYING CARD TEN OF CLUBS=1F0DA;20DIAMONDS=1F0CA;20HEARTS=1F0BA;20SPADES=1F0AA
PLAYING CARD THREE OF CLUBS=1F0D3;22DIAMONDS=1F0C3;22HEARTS=1F0B3;22SPADES=1F0A3;14RUMP-10=1F0EA
PLAYING CARD TRUMP-11=1F0EB;202=1F0EC;203=1F0ED;204=1F0EE;205=1F0EF;206=1F0F0;207=1F0F1;208=1F0F2
PLAYING CARD TRUMP-19=1F0F3;20=1F0E1;1920=1F0F4;201=1F0F5;20=1F0E2;193=1F0E3;194=1F0E4;195=1F0E5
PLAYING CARD TRUMP-6=1F0E6;197=1F0E7;198=1F0E8;199=1F0E9;14WO OF CLUBS=1F0D2;20DIAMONDS=1F0C2
PLAYING CARD TWO OF HEARTS=1F0B2;20SPADES=1F0A2;13WHITE JOKER=1F0DF;02D=8B;02U=8C;03NGER=1FAA0
PLUS SIGN ABOVE EQUALS SIGN=2A72;10IN LEFT HALF CIRCLE=2A2D;13RIGHT HALF CIRCLE=2A2E
PLUS SIGN IN TRIANGLE=2A39;10WITH BLACK TRIANGLE=2A28;15CIRCUMFLEX ACCENT ABOVE=2A23
PLUS SIGN WITH DOT BELOW=2A25;15SMALL CIRCLE ABOVE=2A22;16UBSCRIPT TWO=2A27;15TILDE ABOVE=2A24
PLUS SIGN WITH TILDE BELOW=2A26;09=2B;04-MINUS SIGN=B1;03TO FORM FIVE=2BD6;12OUR=2BD5;11THREE=2BD4
PLUTO FORM TWO=2BD3;05=2647;01M=9E;01OCKET CALCULATOR=1F5A9;02LICE CAR=1F693
POLICE CARS REVOLVING LIGHT=1F6A8;07OFFICER=1F46E;02ODLE=1F429;02P DIRECTIONAL FORMATTING=202C
POP DIRECTIONAL ISOLATE=2069;03CORN=1F37F;02RTABLE STEREO=1F4FE;02SEIDON=2BE7
POSITION INDICATOR=2316;03TAL HORN=1F4EF;07MARK FACE=3020;11=3012;04BOX=1F4EE;02T OF FOOD=1F372
POTABLE WATER SYMBOL=1F6B0;04TO=1F954;03TED PLANT=1FAB4;02UCH=1F45D;03LTRY LEG=1F357;03ND SIGN=A3
POURING LIQUID=1FAD7;03TING CAT FACE=1F63E;08FACE=1F621;02WER ON SYMBOL=23FD;08-OFF SYMBOL=23FC
POWER SLEEP SYMBOL=23FE;07YMBOL=23FB;01RAYER BEADS=1F4FF;02ECEDES ABOVE ALMOST EQUAL TO=2AB7
PRECEDES ABOVE EQUALS SIGN=2AB3;15NOT ALMOST EQUAL TO=2AB9;19EQUAL TO=2AB5
PRECEDES ABOVE SINGLE-LINE EQUALS SIGN=2AAF;27NOT EQUAL TO=2AB1;09BUT NOT EQUIVALENT TO=22E8
PRECEDES OR EQUAL TO=227C;15IVALENT TO=227E;09UNDER RELATION=22B0;08=227A;03GNANT MAN=1FAC3
PREGNANT PERSON=1FAC4;09WOMAN=1F930;03SCRIPTION TAKE=211E;04ENTATION FORM FOR VERTICAL COLON=FE13
PRESENTATION FORM FOR VERTICAL COMMA=FE10;31EM DASH=FE31;32N DASH=FE32;32XCLAMATION MARK=FE15
PRESENTATION FORM FOR VERTICAL HORIZONTAL ELLIPSIS=FE19;31IDEOGRAPHIC COMMA=FE11;43FULL STOP=FE12
PRESENTATION FORM FOR VERTICAL LEFT ANGLE BRACKET=FE3F;36BLACK LENTICULAR BRACKET=FE3B
PRESENTATION FORM FOR VERTICAL LEFT CORNER BRACKET=FE41;37URLY BRACKET=FE37
PRESENTATION FORM FOR VERTICAL LEFT DOUBLE ANGLE BRACKET=FE3D;36PARENTHESIS=FE35
PRESENTATION FORM FOR VERTICAL LEFT SQUARE BRACKET=FE47;36TORTOISE SHELL BRACKET=FE39
PRESENTATION FORM FOR VERTICAL LEFT WHITE CORNER BRACKET=FE43;42LENTICULAR BRACKET=FE17
PRESENTATION FORM FOR VERTICAL LOW LINE=FE33;31QUESTION MARK=FE16;31RIGHT ANGLE BRACKET=FE40
PRESENTATION FORM FOR VERTICAL RIGHT BLACK LENTICULAR BRACKET=FE3C;37CORNER BRACKET=FE42
PRESENTATION FORM FOR VERTICAL RIGHT CURLY BRACKET=FE38;37DOUBLE ANGLE BRACKET=FE3E
PRESENTATION FORM FOR VERTICAL RIGHT PARENTHESIS=FE36;37SQUARE BRACKET=FE48
PRESENTATION FORM FOR VERTICAL RIGHT TORTOISE SHELL BRACKET=FE3A;37WHITE CORNER BRACKET=FE44
PRESENTATION FORM FOR VERTICAL RIGHT WHITE LENTICULAR BRACKET=FE18;57KCET=FE18;31SEMICOLON=FE14
PRESENTATION FORM FOR VERTICAL TWO DOT LEADER=FE30;31WAVY LOW LINE=FE34;03TZEL=1F968
PREVIOUS PAGE=2397;02IME=2032;03NCE=1F934;06SS=1F478;04T SCREEN SYMBOL=2399;05ER ICON=1F5B6
PRINTER=1F5A8;03VACY MESSAGE=9E;05TE USE ONE=91;12TWO=92;11-1=91;122=92;02OBING CANE=1F9AF
PROHIBITED SIGN=1F6C7;03JECTIVE=2305;03PERTY LINE=214A;04ORTION=2237;10AL TO=221D;03SERPINA=2BD8
PSALTER PAHLAVI FOUR DOTS WITH CROSS=10B9B;31DOT=10B9C;16LETTER ALEPH=10B80;23BETH=10B81
PSALTER PAHLAVI LETTER DALETH=10B83;23GIMEL=10B82;23HE=10B84;25TH=10B87;23KAPH=10B89
PSALTER PAHLAVI LETTER LAMEDH=10B8A;23MEM-QOPH=10B8B;23NUN=10B8C;23PE=10B8E;23SADHE=10B8F
PSALTER PAHLAVI LETTER SAMEKH=10B8D;24HIN=10B90;23TAW=10B91;23WAW-AYIN-RESH=10B85;23YODH=10B88
PSALTER PAHLAVI LETTER ZAYIN=10B86;16NUMBER FOUR=10BAC;23ONE HUNDRED=10BAF;26=10BA9;23TEN=10BAD
PSALTER PAHLAVI NUMBER THREE=10BAB;24WENTY=10BAE;25O=10BAA;16SECTION MARK=10B99
PSALTER PAHLAVI TURNED SECTION MARK=10B9A;01U1=91;022=92;02BLIC ADDRESS LOUDSPEAKER=1F4E2
PUNCTUATION SPACE=2008;06S ELEVATUS MARK=2E4E;02RPLE HEART=1F49C;03SE=1F45B;02SHPIN=1F4CC
PUT LITTER IN ITS PLACE SYMBOL=1F6AE;00QUADRANT LOWER LEFT=2596;15RIGHT=2597
QUADRANT UPPER LEFT AND LOWER LEFT AND LOWER RIGHT=2599;30RIGHT=259A
QUADRANT UPPER LEFT AND UPPER RIGHT AND LOWER LEFT=259B;46RIGHT=259C;19=2598
QUADRANT UPPER RIGHT AND LOWER LEFT AND LOWER RIGHT=259F;35=259E;20=259D
QUADRUPLE INTEGRAL OPERATOR=2A0C;10PRIME=2057;03RTER NOTE=2669;03TERNION INTEGRAL OPERATOR=2A16
QUESTION EXCLAMATION MARK=2048;09MARK=3F;08ED EQUAL TO=225F;02INCUNX=26BB;02OTATION MARK=22
RABBIT FACE=1F430;06=1F407;02CCOON=1F99D;03ING CAR=1F3CE;07MOTORCYCLE=1F3CD
RADICAL SYMBOL BOTTOM=23B7;04O BUTTON=1F518;05=1F4FB;05ACTIVE SIGN=2622;02ILWAY CAR=1F683
RAILWAY TRACK=1F6E4;03N=26C6;04BOW=1F308;03SED BACK OF HAND=1F91A;07COMMA=2E34;07DOT=2E33
RAISED DOTTED INTERPOLATION MARKER=2E07;07FIST=270A;07HAND WITH FINGERS SPLAYED=1F590
RAISED HAND WITH PART BETWEEN MIDDLE AND RING FINGERS=1F596;11=270B;07INTERPOLATION MARKER=2E06
RAISED MC SIGN=1F16A;08D SIGN=1F16B;08R SIGN=1F16C;07SQUARE=2E0B;02M=1F40F;02T=1F400;03IO=2236
RAZOR=1FA92;01ECEIPT=1F9FE;03ORD SEPARATOR=1E;03REATIONAL VEHICLE=1F699;03YCLED PAPER SYMBOL=267C
RECYCLING SYMBOL FOR GENERIC MATERIALS=267A;21TYPE-1 PLASTICS=2673;262 PLASTICS=2674
RECYCLING SYMBOL FOR TYPE-3 PLASTICS=2675;264 PLASTICS=2676;265 PLASTICS=2677;266 PLASTICS=2678
RECYCLING SYMBOL FOR TYPE-7 PLASTICS=2679;02D APPLE=1F34E;04GIFT ENVELOPE=1F9E7
REFERENCE MARK=203B;02GIONAL INDICATOR SYMBOL LETTER A=1F1E6;33B=1F1E7;33C=1F1E8;33D=1F1E9
REGIONAL INDICATOR SYMBOL LETTER E=1F1EA;33F=1F1EB;33G=1F1EC;33H=1F1ED;33I=1F1EE;33J=1F1EF
REGIONAL INDICATOR SYMBOL LETTER K=1F1F0;33L=1F1F1;33M=1F1F2;33N=1F1F3;33O=1F1F4;33P=1F1F5
REGIONAL INDICATOR SYMBOL LETTER Q=1F1F6;33R=1F1F7;33S=1F1F8;33T=1F1F9;33U=1F1FA;33V=1F1FB
REGIONAL INDICATOR SYMBOL LETTER W=1F1FC;33X=1F1FD;33Y=1F1FE;33Z=1F1FF;04STERED SIGN=AE
REJANG CONSONANT SIGN H=A952;22N=A950;23G=A94F;22R=A951;07LETTER A=A946;14BA=A937;14CA=A939
REJANG LETTER DA=A934;14GA=A931;14HA=A941;14JA=A93A;14KA=A930;14LA=A93E;14MA=A938;15BA=A942
REJANG LETTER NA=A935;15DA=A944;15GA=A932;16GA=A943;15YA=A93B;16JA=A945;14PA=A936;14RA=A93D
REJANG LETTER SA=A93C;14TA=A933;14WA=A940;14YA=A93F;07SECTION MARK=A95F;07VIRAMA=A953
REJANG VOWEL SIGN AI=A94A;19U=A94C;18E=A949;19A=A94E;19U=A94D;18I=A947;18O=A94B;18U=A948
RELIEVED FACE=1F60C;02MINDER RIBBON=1F397;02PLACEMENT CHARACTER=FFFD;02SPONSE=211F
RESTRICTED LEFT ENTRY-1=26E0;222=26E1;05OOM=1F6BB;02TURN LEFT=2B90;07RIGHT=2B91;07SYMBOL=23CE
REVERSE CHECKER BOARD=1F67F;08INDEX=8D;08LIGHT FOUR POINTED PINWHEEL STAR=1F7C8;10NE FEED=8D
REVERSE SOLIDUS OPERATOR=29F5;16PRECEDING SUBSET=27C8;16WITH HORIZONTAL STROKE=29F7;15=5C
REVERSE TILDE OPERATOR ABOVE LEFTWARDS ARROW=2B41;29RIGHTWARDS ARROW=2B47
REVERSED ANGLE WITH UNDERBAR=29A5;14=29A3;09COMMA=2E41;09DOUBLE PRIME QUOTATION MARK=301D;21=2036
REVERSED DOUBLE STROKE NOT SIGN=2AED;09EMPTY SET=29B0;09FORKED PARAGRAPHOS=2E11
REVERSED HAND WITH MIDDLE FINGER EXTENDED=1F595;09NOT SIGN=2310;09PILCROW SIGN=204B;10RIME=2035
REVERSED QUESTION MARK=2E2E;09RAISED HAND WITH FINGERS SPLAYED=1F591;10IGHT ANGLE=2BFE
REVERSED ROTATED FLORAL HEART BULLET=2619;09SANS-SERIF CAPITAL L=2143;10EMICOLON=204F
REVERSED THUMBS DOWN SIGN=1F593;16UP SIGN=1F592;10ILDE EQUALS=22CD;14=223D;10RIPLE PRIME=2037
REVERSED VICTORY HAND=1F594;03OLVING HEARTS=1F49E;01HINOCEROS=1F98F;01I=8D;02AL SIGN=FDFC
RIBBON ARROW DOWN LEFT=2BB0;18RIGHT=2BB1;13LEFT DOWN=2BB6;18UP=2BB4;13RIGHT DOWN=2BB7;19UP=2BB5
RIBBON ARROW UP LEFT=2BB2;16RIGHT=2BB3;06=1F380;02CE BALL=1F359;05CRACKER=1F358;02FLE=1F946
RIGHT AND LOWER ONE EIGHTH BLOCK=1FB7F;10UPPER ONE EIGHTH BLOCK=1FB7E;08GER BUBBLE=1F5EF
RIGHT ANGLE BRACKET WITH DOT=2992;19=3009;12DOTTED SUBSTITUTION MARKER=2E01
RIGHT ANGLE SUBSTITUTION MARKER=2E00;12VARIANT WITH SQUARE=299C;12WITH ARC=22BE
RIGHT ANGLE WITH DOWNWARDS ZIGZAG ARROW=237C;11=221F;07RC GREATER-THAN BRACKET=2994
RIGHT ARROW WITH CIRCLED PLUS=27F4;17SMALL CIRCLE=21F4;06BLACK LENTICULAR BRACKET=3011
RIGHT BLACK TORTOISE SHELL BRACKET=2998;06CEILING=2309;07ORNER BRACKET=300D
RIGHT CURLY BRACKET LOWER HOOK=23AD;20MIDDLE PIECE=23AC;20UPPER HOOK=23AB;19=7D
RIGHT DOTTED SUBSTITUTION BRACKET=2E05;08UBLE ANGLE BRACKET=300B;14RROW WITH ROUNDED HEAD=2970
RIGHT DOUBLE PARENTHESIS=2E29;13QUOTATION MARK=201D;13WIGGLY FENCE=29DB;06FISH TAIL=297D
RIGHT FIVE EIGHTHS BLOCK=1FB89;07LOOR=230B;06HALF BLACK CIRCLE=25D7;17STAR=2BE9;13OCK=2590
RIGHT HALF FOLDER=1FBBA;11MEDIUM SHADE=1FB8D;11RUNNING MAN=1FBB3;08ND TELEPHONE RECEIVER=1F57D
RIGHT LOW PARAPHRASE BRACKET=2E1D;06NORMAL FACTOR SEMIDIRECT PRODUCT=22CA;06ONE EIGHTH BLOCK=2595
RIGHT ONE QUARTER BLOCK=1FB87;07PEN SQUARED DOT=1FBBC;07UTER JOIN=27D6
RIGHT PARENTHESIS EXTENSION=239F;18LOWER HOOK=23A0;18UPPER HOOK=239E;17=29
RIGHT RAISED OMISSION BRACKET=2E0D;06S-SHAPED BAG DELIMITER=27C6;07EMIDIRECT PRODUCT=22CC
RIGHT SEVEN EIGHTHS BLOCK=1FB8B;07IDEWAYS U BRACKET=2E27;08NGLE QUOTATION MARK=2019
RIGHT SPEAKER WITH ONE SOUND WAVE=1F569;19THREE SOUND WAVES=1F56A;13=1F568;09ECH BUBBLE=1F5E9
RIGHT SQUARE BRACKET EXTENSION=23A5;21LOWER CORNER=23A6;21UPPER CORNER=23A4
RIGHT SQUARE BRACKET WITH DOUBLE STROKE=2E58;26QUILL=2046;26STROKE=2E56
RIGHT SQUARE BRACKET WITH TICK IN BOTTOM CORNER=298E;34TOP CORNER=2990;26UNDERBAR=298C;20=5D
RIGHT SUBSTITUTION BRACKET=2E03;06TACK=22A2;07HIRD WHITE RIGHT POINTING INDEX=1FBC3
RIGHT THOUGHT BUBBLE=1F5ED;08REE EIGHTHS BLOCK=1FB88;12QUARTERS BLOCK=1FB8A
RIGHT TORTOISE SHELL BRACKET=3015;07RANSPOSITION BRACKET=2E0A;08IANGLE ABOVE LEFT TRIANGLE=29CE
RIGHT TRIANGLE=22BF;12ULAR ONE QUARTER BLOCK=1FB6E;06VERTICAL BAR WITH QUILL=2E21;16OX LINE=23B9
RIGHT WHITE CORNER BRACKET=300F;13URLY BRACKET=2984;12LENTICULAR BRACKET=3017;12PARENTHESIS=2986
RIGHT WHITE SQUARE BRACKET=301B;12TORTOISE SHELL BRACKET=3019;07IGGLY FENCE=29D9
RIGHT-FACING ARMENIAN ETERNITY SIGN=58D;13FIST=1F91C;13SVASTI SIGN WITH DOTS=FD7;24=FD5
RIGHT-HANDED INTERLACED PENTAGRAM=26E5;06POINTING ANGLE BRACKET=232A;15CURVED ANGLE BRACKET=29FD
RIGHT-POINTING DOUBLE ANGLE QUOTATION MARK=BB;15MAGNIFYING GLASS=1F50E
RIGHT-SHADED WHITE RIGHTWARDS ARROW=27A9;07IDE ARC CLOCKWISE ARROW=2938;06TO-LEFT EMBEDDING=202B
RIGHT-TO-LEFT ISOLATE=2067;14MARK=200F;14OVERRIDE=202E;05HAND INTERIOR PRODUCT=2A3D
RIGHTWARDS ARROW ABOVE ALMOST EQUAL TO=2975;23REVERSE ALMOST EQUAL TO=2B48;31TILDE OPERATOR=2B4C
RIGHTWARDS ARROW ABOVE SHORT LEFTWARDS ARROW=2942;23TILDE OPERATOR=2974
RIGHTWARDS ARROW AND UPPER AND LOWER ONE EIGHTH BLOCK=1FBB6;17FROM BAR TO BLACK DIAMOND=2920
RIGHTWARDS ARROW FROM BAR=21A6;17OVER LEFTWARDS ARROW=21C4;17THROUGH GREATER-THAN=2B43
RIGHTWARDS ARROW THROUGH SUPERSET=2B44;25X=2947;18O BAR=21E5;21LACK DIAMOND=291E
RIGHTWARDS ARROW WITH CORNER DOWNWARDS=21B4;22DOTTED STEM=2911;24UBLE VERTICAL STROKE=21FB
RIGHTWARDS ARROW WITH EQUILATERAL ARROWHEAD=1F816;22HOOK=21AA;22LARGE TRIANGLE ARROWHEAD=1F80A
RIGHTWARDS ARROW WITH LOOP=21AC;22MEDIUM TRIANGLE ARROWHEAD=1F806;22NOTCHED TAIL=1F89A
RIGHTWARDS ARROW WITH PLUS BELOW=2945;22SMALL EQUILATERAL ARROWHEAD=1F812
RIGHTWARDS ARROW WITH SMALL TRIANGLE ARROWHEAD=1F802;23TROKE=219B
RIGHTWARDS ARROW WITH TAIL WITH DOUBLE VERTICAL STROKE=2915;32VERTICAL STROKE=2914;26=21A3
RIGHTWARDS ARROW WITH TIP DOWNWARDS=2B0E;26UPWARDS=2B0F;22VERTICAL STROKE=21F8;16-TAIL=291A
RIGHTWARDS ARROW=2192;11BACK-TILTED SHADOWED WHITE ARROW=1F8A9;12LACK ARROW=2B95
RIGHTWARDS BLACK CIRCLED WHITE ARROW=2B8A;12OTTOM SHADED WHITE ARROW=1F8A1
RIGHTWARDS COMPRESSED ARROW=1F83E;11DASHED ARROW=21E2;12OUBLE ARROW FROM BAR=2907
RIGHTWARDS DOUBLE ARROW WITH STROKE=21CF;29VERTICAL STROKE=2903;23-TAIL=291C;23=21D2
RIGHTWARDS DOUBLE DASH ARROW=290D;11FINGER-POST ARROW=1F836
RIGHTWARDS FRONT-TILTED SHADOWED WHITE ARROW=1F8AB;11HAND=1FAF1
RIGHTWARDS HARPOON OVER LEFTWARDS HARPOON=21CC
RIGHTWARDS HARPOON WITH BARB DOWN ABOVE LEFTWARDS HARPOON WITH BARB DOWN=2969
RIGHTWARDS HARPOON WITH BARB DOWN BELOW LONG DASH=296D;34FROM BAR=295F;34TO BAR=2957;33WARDS=21C1
RIGHTWARDS HARPOON WITH BARB UP ABOVE LEFTWARDS HARPOON WITH BARB UP=2968;39ONG DASH=296C
RIGHTWARDS HARPOON WITH BARB UP ABOVE RIGHTWARDS HARPOON WITH BARB DOWN=2964;32FROM BAR=295B
RIGHTWARDS HARPOON WITH BARB UP TO BAR=2953;31WARDS=21C0;12EAVY ARROW=1F846
RIGHTWARDS HEAVY COMPRESSED ARROW=1F842;11LEFT-SHADED WHITE ARROW=1F8A7;11OPEN-HEADED ARROW=21FE
RIGHTWARDS PAIRED ARROWS=21C9;11QUADRUPLE ARROW=2B46;11RIGHT-SHADED WHITE ARROW=1F8A5
RIGHTWARDS ROCKET=1F66E;11SANS-SERIF ARROW=1F852;12QUARED ARROW=1F83A;14IGGLE ARROW=21DD
RIGHTWARDS TOP SHADED WHITE ARROW=1F8A3;12RIANGLE ARROWHEAD=1F892
RIGHTWARDS TRIANGLE-HEADED ARROW OVER LEFTWARDS TRIANGLE-HEADED ARROW=2B82;33TO BAR=2B72
RIGHTWARDS TRIANGLE-HEADED ARROW WITH BOLD SHAFT=1F82A;38DOUBLE HORIZONTAL STROKE=2B7C
RIGHTWARDS TRIANGLE-HEADED ARROW WITH DOUBLE VERTICAL STROKE=2B7C;38HEAVY SHAFT=1F82E
RIGHTWARDS TRIANGLE-HEADED ARROW WITH LONG TIP DOWNWARDS=2BA7;47UPWARDS=2BA5;38MEDIUM SHAFT=1F826
RIGHTWARDS TRIANGLE-HEADED ARROW WITH NARROW SHAFT=1F822;38VERY HEAVY SHAFT=1F832;32=2B62
RIGHTWARDS TRIANGLE-HEADED DASHED ARROW=2B6C;27PAIRED ARROWS=2B86;14PLE ARROW=21DB
RIGHTWARDS TRIPLE DASH ARROW=290F;12WO HEADED ARROW=21A0;14-HEADED ARROW FROM BAR=2905
RIGHTWARDS TWO-HEADED ARROW WITH DOUBLE VERTICAL STROKE=2901
RIGHTWARDS TWO-HEADED ARROW WITH TAIL WITH DOUBLE VERTICAL STROKE=2918;43VERTICAL STROKE=2917
RIGHTWARDS TWO-HEADED ARROW WITH TAIL=2916;34RIANGLE ARROWHEADS=2BEE;33VERTICAL STROKE=2900
RIGHTWARDS TWO-HEADED TRIPLE DASH ARROW=2910;11WAVE ARROW=219D;12HITE ARROW FROM WALL=21F0
RIGHTWARDS WHITE ARROW WITHIN TRIANGLE ARROWHEAD=1F896;22=21E8;02NG ABOVE=2DA;05BUOY=1F6DF
RING EQUAL TO=2257;05IN EQUAL TO=2256;05OPERATOR=2218;05POINT=2E30;04=1F48D;04ED PLANET=1FA90
RINGING BELL=1F56D;02SING DIAGONAL CROSSING FALLING DIAGONAL=292B;25SOUTH EAST ARROW=2930
RLE=202B;02I=2067;02M=200F;02O=202E;01OASTED SWEET POTATO=1F360;02BOT FACE=1F916;02CK=1FAA8
ROCKET=1F680;02LL OF PAPER=1F9FB;04ED-UP NEWSPAPER=1F5DE;05R COASTER=1F3A2;07SKATE=1F6FC
ROLLING ON THE FLOOR LAUGHING=1F923;02MAN AS SIGN=1019A;06CENTURIAL SIGN=1019B
ROMAN DENARIUS SIGN=10196;07IMIDIA SEXTULA SIGN=10194;07UPONDIUS SIGN=10199;06NUMERAL EIGHT=2167
ROMAN NUMERAL ELEVEN=216A;14FIFTY EARLY FORM=2186;20THOUSAND=2187;19=216C;16VE HUNDRED=216E
ROMAN NUMERAL FIVE THOUSAND=2181;18=2164;15OUR=2163;14NINE=2168;14ONE HUNDRED THOUSAND=2188
ROMAN NUMERAL ONE HUNDRED=216D;18THOUSAND C D=2180;26=216F;17=2160;14REVERSED ONE HUNDRED=2183
ROMAN NUMERAL SEVEN=2166;15IX LATE FORM=2185;17=2165;14TEN THOUSAND=2182;17=2169;15HREE=2162
ROMAN NUMERAL TWELVE=216B;16O=2161;06QUINARIUS SIGN=10197;06SEMUNCIA SIGN=10192
ROMAN SESTERTIUS SIGN=10198;08XTANS SIGN=10190;10ULA SIGN=10193;07ILIQUA SIGN=10195
ROMAN UNCIA SIGN=10191;02OSTER=1F413;02SE=1F339;04TTE=1F3F5;02TATED CAPITAL Q=213A
ROTATED FLORAL HEART BULLET=2767;08HEAVY BLACK HEART BULLET=2765
ROTATED LIGHT FOUR POINTED BLACK CUSP=2BCD;08WHITE FOUR POINTED CUSP=2BCF;02UND PUSHPIN=1F4CD
ROUND TARGET=1F78B;05ED SYMBOL FOR CAI=1F265;19FU=1F260;19LU=1F261;19SHOU=1F262;21UANGXI=1F264
ROUNDED SYMBOL FOR XI=1F263;02WBOAT=1F6A3;01S=1E;01UBLE SIGN=20BD;02GBY FOOTBALL=1F3C9
RULE-DELAYED=29F4;02MI DIGIT EIGHT=10E67;11FIVE=10E64;12OUR=10E63;11NINE=10E68;11ONE=10E60
RUMI DIGIT SEVEN=10E66;12IX=10E65;11THREE=10E62;12WO=10E61;05FRACTION ONE HALF=10E7B
RUMI FRACTION ONE QUARTER=10E7C;18THIRD=10E7D;14TWO THIRDS=10E7E;05NUMBER EIGHT HUNDRED=10E79
RUMI NUMBER EIGHTY=10E70;12FIFTY=10E6D;14VE HUNDRED=10E76;13ORTY=10E6C;14UR HUNDRED=10E75
RUMI NUMBER NINE HUNDRED=10E7A;16TY=10E71;12ONE HUNDRED=10E72;12SEVEN HUNDRED=10E78;17TY=10E6F
RUMI NUMBER SIX HUNDRED=10E77;15TY=10E6E;12TEN=10E69;13HIRTY=10E6B;14REE HUNDRED=10E74
RUMI NUMBER TWENTY=10E6A;14O HUNDRED=10E73;02NIC ARLAUG SYMBOL=16EE;06BELGTHOR SYMBOL=16F0
RUNIC CROSS PUNCTUATION=16ED;06LETTER AC A=16AA;14ESC=16AB;14LGIZ EOLHX=16C9;14NSUZ A=16A8
RUNIC LETTER BERKANAN BEORC BJARKAN B=16D2;13C=16CD;14ALC=16E3;14EALC=16E4;15N=16B3;14WEORTH=16E2
RUNIC LETTER D=16D1;14AGAZ DAEG D=16DE;14OTTED-L=16DB;20N=16C0;20P=16D4;13E=16C2;14AR=16E0
RUNIC LETTER EHWAZ EH E=16D6;14NG=16B6;14TH=16A7;13FEHU FEOH FE F=16A0;14RANKS CASKET AC=16F7
RUNIC LETTER FRANKS CASKET AESC=16F8;27EH=16F6;27IS=16F5;27OS=16F4;13G=16B5;14AR=16B8
RUNIC LETTER GEBO GYFU G=16B7;15R=16C4;13HAEGL H=16BB;15GLAZ H=16BA;13ICELANDIC-YR=16E8;14NG=16DD
RUNIC LETTER INGWAZ=16DC;14OR=16E1;14SAZ IS ISS I=16C1;14WAZ EOH=16C7;13JERAN J=16C3;13K=16F1
RUNIC LETTER KAUN K=16B4;17A=16B2;13LAUKAZ LAGU LOGR L=16DA;14ONG-BRANCH-AR AE=16C5
RUNIC LETTER LONG-BRANCH-HAGALL H=16BC;25MADR M=16D8;25OSS O=16AC;25YR=16E6;13MANNAZ MAN M=16D7
RUNIC LETTER NAUDIZ NYD NAUD N=16BE;13O=16AE;14E=16AF;14N=16B0;14O=16F3;14PEN-P=16D5;14S O=16A9
RUNIC LETTER OTHALAN ETHEL O=16DF;13PERTHO PEORTH P=16C8;13Q=16E9;13RAIDO RAD REID R=16B1
RUNIC LETTER SH=16F2;15ORT-TWIG-AR A=16C6;24BJARKAN B=16D3;24HAGALL H=16BD;24MADR M=16D9
RUNIC LETTER SHORT-TWIG-NAUD N=16BF;24OSS O=16AD;24SOL S=16CC;24TYR T=16D0;24YR=16E7
RUNIC LETTER SIGEL LONG-BRANCH-SOL S=16CB;14OWILO S=16CA;14TAN=16E5;13THURISAZ THURS THORN=16A6
RUNIC LETTER TIWAZ TIR TYR T=16CF;13URUZ UR U=16A2;13V=16A1;13W=16A5;14UNJO WYNN W=16B9;13X=16EA
RUNIC LETTER Y=16A4;14R=16A3;13Z=16CE;06MULTIPLE PUNCTUATION=16EC;06SINGLE PUNCTUATION=16EB
RUNIC TVIMADUR SYMBOL=16EF;03NER=1F3C3;04ING SHIRT WITH SASH=1F3BD;02PEE SIGN=20A8
RUSSIAN ASTROLOGICAL SYMBOL BINOVILE=2BF6;28NOVILE=2BF4;28QUINTILE=2BF5;28SENTAGON=2BF7
RUSSIAN ASTROLOGICAL SYMBOL TREDECILE=2BF8;28VIGINTILE=2BF3;00S IN TRIANGLE=29CC;01AFETY PIN=1F9F7
SAFETY VEST=1F9BA;02GITTARIUS=2650;02ILBOAT=26F5;02KE BOTTLE AND CUP=1F376;02LT SHAKER=1F9C2
SALTIRE=2613;03UTING FACE=1FAE1;02MARITAN ABBREVIATION MARK=836;10LETTER ALAF=800;17BAA=805
SAMARITAN LETTER BIT=801;17DALAT=803;17FI=810;17GAMAN=802;17IN=80F;18T=807;18Y=804;17KAAF=80A
SAMARITAN LETTER LABAT=80B;17MIM=80C;17NUN=80D;17QUF=812;17RISH=813;17SHAN=814;18INGAAT=80E
SAMARITAN LETTER TAAF=815;18IT=808;18SAADIY=811;17YUT=809;17ZEN=806;10MARK DAGESH=819
SAMARITAN MARK EPENTHETIC YUT=81B;15IN-ALAF=817;17=816;15NEQUDAA=82D;15OCCLUSION=818
SAMARITAN MODIFIER LETTER EPENTHETIC YUT=81A;26I=828;26SHORT A=824;10PUNCTUATION AFSAAQ=831
SAMARITAN PUNCTUATION ANGED=832;24NAAU=83E;23RKAANU=83C;23TMAAU=834;22BAU=833;22MELODIC QITSA=837
SAMARITAN PUNCTUATION NEQUDAA=830;22QITSA=839;22SHIYYAALAA=835;23OF MASHFAAT=83D;22TURU=83B
SAMARITAN PUNCTUATION ZAEF=83A;23IQAA=838;10VOWEL SIGN A=823;22A=820;21E=81D;21I=82A;21LONG A=822
SAMARITAN VOWEL SIGN LONG AA=81F;26E=81C;26I=829;26U=826;21O=82B;22VERLONG A=821;31A=81E
SAMARITAN VOWEL SIGN SHORT A=825;22UKUN=82C;21U=827;02NDWICH=1F96A
SANS-SERIF HEAVY DOUBLE COMMA QUOTATION MARK ORNAMENT=1F677
SANS-SERIF HEAVY DOUBLE TURNED COMMA QUOTATION MARK ORNAMENT=1F676
SANS-SERIF HEAVY LOW DOUBLE COMMA QUOTATION MARK ORNAMENT=1F678;11INTERROBANG ORNAMENT=1F67A
SARI=1F97B;02TELLITE ANTENNA=1F4E1;09=1F6F0;03URN=2644;02URASHTRA CONSONANT SIGN HAARU=A8B4
SAURASHTRA DANDA=A8CE;12IGIT EIGHT=A8D8;17FIVE=A8D5;18OUR=A8D4;17NINE=A8D9;17ONE=A8D1;17SEVEN=A8D7
SAURASHTRA DIGIT SIX=A8D6;17THREE=A8D3;18WO=A8D2;17ZERO=A8D0;12OUBLE DANDA=A8CF;11LETTER A=A882
SAURASHTRA LETTER AA=A883;19I=A88E;19U=A891;18BA=A8A8;19HA=A8A9;18CA=A897;19HA=A898;18DA=A8A3
SAURASHTRA LETTER DDA=A89E;20HA=A89F;19HA=A8A4;18E=A88C;19E=A88D;18GA=A894;19HA=A895;18HA=A8B2
SAURASHTRA LETTER I=A884;19I=A885;18JA=A899;19HA=A89A;18KA=A892;19HA=A893;18LA=A8AD;19LA=A8B3
SAURASHTRA LETTER MA=A8AA;18NA=A8A5;19GA=A896;19NA=A8A0;19YA=A89B;18O=A88F;19O=A890;18PA=A8A6
SAURASHTRA LETTER PHA=A8A7;18RA=A8AC;18SA=A8B1;19HA=A8AF;19SA=A8B0;18TA=A8A1;19HA=A8A2;19TA=A89C
SAURASHTRA LETTER TTHA=A89D;18U=A886;19U=A887;18VA=A8AE;19OCALIC L=A88A;27L=A88B;26R=A888;27R=A889
SAURASHTRA LETTER YA=A8AB;11SIGN ANUSVARA=A880;16CANDRABINDU=A8C5;16VIRAMA=A8C4;18SARGA=A881
SAURASHTRA VOWEL SIGN AA=A8B5;23I=A8C0;23U=A8C3;22E=A8BE;23E=A8BF;22I=A8B6;23I=A8B7;22O=A8C1
SAURASHTRA VOWEL SIGN OO=A8C2;22U=A8B8;23U=A8B9;22VOCALIC L=A8BC;31L=A8BD;30R=A8BA;31R=A8BB
SAUROPOD=1F995;02XOPHONE=1F3B7;01CALES=2696;03RF=1F9E3;02HOOL SATCHEL=1F392;06=1F3EB;02I=9A
SCOOTER=1F6F4;03RPION=1F982;06US=264F;02REEN=1F5B5;04WDRIVER=1FA9B;03IPT CAPITAL B=212C;15E=2130
SCRIPT CAPITAL F=2131;15H=210B;15I=2110;15L=2112;15M=2133;15P=2118;15R=211B
SCRIPT LIGATURE ET ORNAMENT=1F670;07SMALL E=212F;13G=210A;13L=2113;13O=2134;03OLL=1F4DC
SCRUPLE=2108;01EAL=1F9AD;03T=1F4BA;02COND PLACE MEDAL=1F948;03TION SIGN=A7;04OR=2314;02DNA=2BF2
SEE-NO-EVIL MONKEY=1F648;03DLING=1F331;02GMENT=2313;07ED DIGIT EIGHT=1FBF8;16FIVE=1FBF5
SEGMENTED DIGIT FOUR=1FBF4;16NINE=1FBF9;16ONE=1FBF1;16SEVEN=1FBF7;17IX=1FBF6;16THREE=1FBF3
SEGMENTED DIGIT TWO=1FBF2;16ZERO=1FBF0;02LFIE=1F933;02MICOLON=3B
SEMIDIRECT PRODUCT WITH BOTTOM CLOSED=2A32;04SEXTILE=26BA;02PARATED SYMBOL=2BFB
SERIOUS FACE WITH SYMBOLS COVERING MOUTH=1F92C;03VICE MARK=2120;02SAME DOT=FE45;03QUIQUADRATE=26BC
SET MINUS=2216;04TRANSMIT STATE=93;02WING NEEDLE=1FAA1;02XTILE=26B9;01GC=99
SHADOWED WHITE CIRCLE=274D;15LATIN CROSS=271E;15STAR=2730;03LLOW PAN OF FOOD=1F958;03MROCK=2618
SHARADA ABBREVIATION SIGN=111C7;08CONTINUATION SIGN=111DD;08DANDA=111C5;09IGIT EIGHT=111D8
SHARADA DIGIT FIVE=111D5;15OUR=111D4;14NINE=111D9;14ONE=111D1;14SEVEN=111D7;15IX=111D6
SHARADA DIGIT THREE=111D3;15WO=111D2;14ZERO=111D0;09OUBLE DANDA=111C6;08EKAM=111DA
SHARADA EXTRA SHORT VOWEL MARK=111CC;08HEADSTROKE=111DC;08LETTER A=11183;16A=11184;16I=1118E
SHARADA LETTER AU=11190;15BA=111A7;16HA=111A8;15CA=11196;16HA=11197;15DA=111A2;16DA=1119D
SHARADA LETTER DDHA=1119E;16HA=111A3;15E=1118D;15GA=11193;16HA=11194;15HA=111B2;15I=11185
SHARADA LETTER II=11186;15JA=11198;16HA=11199;15KA=11191;16HA=11192;15LA=111AC;16LA=111AD
SHARADA LETTER MA=111A9;15NA=111A4;16GA=11195;16NA=1119F;16YA=1119A;15O=1118F;15PA=111A5
SHARADA LETTER PHA=111A6;15RA=111AB;15SA=111B1;16HA=111AF;16SA=111B0;15TA=111A0;16HA=111A1
SHARADA LETTER TTA=1119B;17HA=1119C;15U=11187;16U=11188;15VA=111AE;16OCALIC L=1118B;24L=1118C
SHARADA LETTER VOCALIC R=11189;24R=1118A;15YA=111AA;08OM=111C4;08SANDHI MARK=111C9
SHARADA SECTION MARK-1=111DE;212=111DF;10PARATOR=111C8;09IGN ANUSVARA=11181;14VAGRAHA=111C1
SHARADA SIGN CANDRABINDU=11180;13INVERTED CANDRABINDU=111CF;13JIHVAMULIYA=111C2;13NUKTA=111CA
SHARADA SIGN SIDDHAM=111DB;13UPADHMANIYA=111C3;13VIRAMA=111C0;15SARGA=11182;09UTRA MARK=111CD
SHARADA VOWEL MODIFIER MARK=111CB;14SIGN AA=111B3;20I=111BD;20U=111BF;19E=111BC;19I=111B4
SHARADA VOWEL SIGN II=111B5;19O=111BE;19PRISHTHAMATRA E=111CE;19U=111B6;20U=111B7
SHARADA VOWEL SIGN VOCALIC L=111BA;28L=111BB;27R=111B8;28R=111B9;04K=1F988;03VED ICE=1F367
SHAVIAN LETTER ADO=10469;16GE=10471;16H=1046D;16IR=1047A;16RE=10478;17RAY=1047C;16SH=10468
SHAVIAN LETTER AWE=10477;15BIB=1045A;15CHURCH=10457;15DEAD=1045B;15EAR=1047D;17T=10470;16GG=10467
SHAVIAN LETTER ERR=1047B;15FEE=10453;15GAG=1045C;15HA-HA=10463;16UNG=10459;15IAN=1047E;16CE=10472
SHAVIAN LETTER IF=10466;15JUDGE=10461;15KICK=10452;15LOLL=10464;15MEASURE=10460;16IME=10465
SHAVIAN LETTER NUN=1046F;15OAK=10474;16IL=10476;16N=1046A;16OZE=10475;16R=10479;16UT=1046C
SHAVIAN LETTER PEEP=10450;15ROAR=1046E;15SO=10455;16URE=10456;15THEY=1045E;17IGH=10454;16OT=10451
SHAVIAN LETTER UP=10473;15VOW=1045D;15WOE=10462;17OL=1046B;15YEA=10458;17W=1047F;15ZOO=1045F
SHEEP=1F411;02IELD=1F6E1;03FT IN=F;06OUT=E;03NTO SHRINE=26E9;03P=1F6A2
SHOCKED FACE WITH EXPLODING HEAD=1F92F;03OTING STAR=1F320;03PPING BAGS=1F6CD;09TROLLEY=1F6D2
SHORT BACKSLANTED SOUTH ARROW=2B4F;07ENT ARROW POINTING DOWNWARDS THEN NORTH EAST=2B5F
SHORT DOWN TACK WITH OVERBAR=2AE7;15=2ADF;06LEFT TACK=2ADE
SHORT RIGHTWARDS ARROW ABOVE LEFTWARDS ARROW=2944;06SLANTED NORTH ARROW=2B4E
SHORT UP TACK ABOVE SHORT DOWN TACK=2AE9;14WITH UNDERBAR=2AE8;13=2AE0;05CAKE=1F370
SHORTHAND FORMAT CONTINUING OVERLAP=1BCA1;17DOWN STEP=1BCA2;17LETTER OVERLAP=1BCA0;17UP STEP=1BCA3
SHORTS=1FA73;03ULDERED OPEN BOX=237D;03WER=1F6BF;02RIMP=1F990;03UG=1F937;02UFFLE PRODUCT=29E2
SHY=AD;01I=F;02DDHAM DANDA=115C2;09OUBLE DANDA=115C3;08END OF TEXT MARK=115C9;08LETTER A=11580
SIDDHAM LETTER AA=11581;16I=1158B;16LTERNATE U=115DB;16U=1158D;15BA=115A4;16HA=115A5;15CA=11593
SIDDHAM LETTER CHA=11594;15DA=1159F;16DA=1159A;17HA=1159B;16HA=115A0;15E=1158A;15GA=11590
SIDDHAM LETTER GHA=11591;15HA=115AE;15I=11582;16I=11583;15JA=11595;16HA=11596;15KA=1158E
SIDDHAM LETTER KHA=1158F;15LA=115A9;15MA=115A6;15NA=115A1;16GA=11592;16NA=1159C;16YA=11597
SIDDHAM LETTER O=1158C;15PA=115A2;16HA=115A3;15RA=115A8;15SA=115AD;16HA=115AB;16SA=115AC
SIDDHAM LETTER TA=1159D;16HA=1159E;17REE-CIRCLE ALTERNATE I=115D8;16TA=11598;17HA=11599
SIDDHAM LETTER TWO-CIRCLE ALTERNATE I=115D9;37I=115DA;15U=11584;16U=11585;15VA=115AA
SIDDHAM LETTER VOCALIC L=11588;24L=11589;23R=11586;24R=11587;15YA=115A7;08REPETITION MARK-1=115C6
SIDDHAM REPETITION MARK-2=115C7;243=115C8;08SECTION MARK DOUBLE RING WITH RAYS=115D0;32=115CF
SIDDHAM SECTION MARK WITH CIRCLES AND FOUR ENCLOSURES=115D7;38RAYS=115D5;38TWO ENCLOSURES=115D6
SIDDHAM SECTION MARK WITH DOUBLE CRESCENTS=115D1;26QUADRUPLE CRESCENTS=115D3
SIDDHAM SECTION MARK WITH RAYS AND DOTTED CRESCENTS=115CC;42DOUBLE CRESCENTS=115CD
SIDDHAM SECTION MARK WITH RAYS AND DOTTED TRIPLE CRESCENTS=115CE;26SEPTUPLE CRESCENTS=115D4
SIDDHAM SECTION MARK WITH TRIDENT AND DOTTED CRESCENTS=115CB;38U-SHAPED ORNAMENTS=115CA
SIDDHAM SECTION MARK WITH TRIPLE CRESCENTS=115D2;10PARATOR BAR=115C5;18DOT=115C4
SIDDHAM SIGN ANUSVARA=115BD;13CANDRABINDU=115BC;13NUKTA=115C0;13SIDDHAM=115C1;13VIRAMA=115BF
SIDDHAM SIGN VISARGA=115BE;08VOWEL SIGN AA=115AF;20I=115B9;20LTERNATE U=115DC;30U=115DD;20U=115BB
SIDDHAM VOWEL SIGN E=115B8;19I=115B0;20I=115B1;19O=115BA;19U=115B2;20U=115B3;19VOCALIC R=115B4
SIDDHAM VOWEL SIGN VOCALIC RR=115B5;03EWAYS BLACK DOWN POINTING INDEX=1F5A1
SIDEWAYS BLACK LEFT POINTING INDEX=1F59A;15RIGHT POINTING INDEX=1F59B;15UP POINTING INDEX=1F5A0
SIDEWAYS WHITE DOWN POINTING INDEX=1F59F;15LEFT POINTING INDEX=1F598;15RIGHT POINTING INDEX=1F599
SIDEWAYS WHITE UP POINTING INDEX=1F59E;02GN OF THE HORNS=1F918
SIGNWRITING AIR BLOW SMALL ROTATIONS=1DA37;20ING OUT=1DA35;16SUCK SMALL ROTATIONS=1DA38
SIGNWRITING AIR SUCKING IN=1DA36;12BREATH EXHALE=1DA3A;19INHALE=1DA39;14USH BETWEEN=1D910
SIGNWRITING BRUSH MULTIPLE=1D90F;18SINGLE=1D90E;12CHEEKS NEUTRAL=1DA2B;19PUFFED=1DA2A
SIGNWRITING CHEEKS SUCKED=1DA2C;13OLON=1DA8A;14MMA=1DA87;12DREAMY EYEBROWS DOWN NEUTRAL=1DA0E
SIGNWRITING DREAMY EYEBROWS NEUTRAL DOWN=1DA0D;36UP=1DA10;28UP NEUTRAL=1DA0F
SIGNWRITING DYNAMIC ARROWHEAD LARGE=1D9F6;30SMALL=1D9F5;20EVERY OTHER TIME=1D9FD;20FAST=1D9F7
SIGNWRITING DYNAMIC GRADUAL=1D9FE;20RELAXED=1D9FA;20SIMULTANEOUS ALTERNATING=1D9FC;32=1D9FB
SIGNWRITING DYNAMIC SLOW=1D9F8;20TENSE=1D9F9;12EARS=1DA30;13XCITEMENT=1DA6C
SIGNWRITING EYE BLINK MULTIPLE=1DA18;22SINGLE=1DA17;16WINK=1DA1D;15BROWS STRAIGHT DOWN=1DA0C
SIGNWRITING EYEBROWS STRAIGHT NEUTRAL=1DA0B;30UP=1DA0A;15GAZE-FLOORPLANE CURVED=1DA28
SIGNWRITING EYEGAZE-FLOORPLANE STRAIGHT ALTERNATING=1DA26;40DOUBLE=1DA25;39=1DA24
SIGNWRITING EYEGAZE-WALLPLANE CIRCLING=1DA29;31URVED=1DA27;30STRAIGHT ALTERNATING=1DA23
SIGNWRITING EYEGAZE-WALLPLANE STRAIGHT DOUBLE=1DA22;38=1DA21;15LASHES DOWN=1DA1F
SIGNWRITING EYELASHES FLUTTERING=1DA20;22UP=1DA1E;15S CLOSED=1DA16;17HALF CLOSED=1DA1B
SIGNWRITING EYES HALF OPEN=1DA19;17OPEN=1DA14;17SQUEEZED=1DA15;17WIDE OPEN=1DA1A
SIGNWRITING EYES WIDENING MOVEMENT=1DA1C;12FACE DIRECTION POSITION NOSE FORWARD TILTING=1DA07
SIGNWRITING FACE DIRECTION POSITION NOSE UP OR DOWN TILTING=1DA09;51=1DA08;13ILL MODIFIER-2=1DA9B
SIGNWRITING FILL MODIFIER-3=1DA9C;264=1DA9D;265=1DA9E;266=1DA9F;14NGER=1DA7E
SIGNWRITING FLICK LARGE MULTIPLE=1D91D;24SINGLE=1D91B;18SEQUENTIAL=1D91F;19MALL MULTIPLE=1D91E
SIGNWRITING FLICK SMALL SINGLE=1D91C;14OORPLANE SHOULDER HIP MOVE=1DA70;13OREHEAD CONTACT=1DA12
SIGNWRITING FOREHEAD NEUTRAL=1DA11;21WRINKLED=1DA13;13ULL STOP=1DA88;12GRASP BETWEEN=1D90A
SIGNWRITING GRASP MULTIPLE=1D909;18SINGLE=1D908;12HAIR=1DA6B;14ND-ANGLE INDEX MIDDLE LITTLE=1D8A8
SIGNWRITING HAND-ANGLE INDEX MIDDLE RING=1D889;29RING LITTLE OUT=1D8C2;40=1D8C3;29THUMB IN=1D8F3
SIGNWRITING HAND-ANGLE INDEX THUMB OUT=1D8F2;34=1D8F4;28=1D805
SIGNWRITING HAND-ANGLE LITTLE INDEX THUMB INDEX THUMB OUT=1D89E;53=1D89F;35=1D8A3;30UP=1D896
SIGNWRITING HAND-ANGLE MIDDLE RING LITTLE IN=1D8D3;42OUT=1D8D2;41=1D8D4
SIGNWRITING HAND-ANGLE RING DOWN MIDDLE THUMB INDEX CROSS=1D8AD;28LITTLE=1D8B3;22=1D885
SIGNWRITING HAND-CIRCLE INDEX BENT=1D807;30HINGE=1D80D;30MIDDLE CROSS LITTLE=1D8AA;42ED=1D81B
SIGNWRITING HAND-CIRCLE INDEX MIDDLE LITTLE=1D8A5;37RING=1D887;37THUMB=1D81F;36=1D80F
SIGNWRITING HAND-CIRCLE INDEX RING LITTLE=1D8BB;29=1D801;24LITTLE INDEX=1D8A1;31UP=1D894
SIGNWRITING HAND-CIRCLE MIDDLE RING LITTLE BENT=1D8D5;42=1D8CE;31UP=1D8C7;24RING LITTLE=1D8B1
SIGNWRITING HAND-CIRCLE=1D876;18LAW FOUR FINGERS CONJOINED=1D849
SIGNWRITING HAND-CLAW INDEX THUMB CURVE THUMB INSIDE=1D8E9
SIGNWRITING HAND-CLAW MIDDLE RING LITTLE CONJOINED SIDE=1D8D7;50=1D8D6;22NO THUMB=1D868
SIGNWRITING HAND-CLAW THUMB FORWARD=1D869;28SIDE=1D867;21=1D866
SIGNWRITING HAND-CUP FIVE FINGERS SPREAD OPEN=1D854;40=1D853;21INDEX RING LITTLE=1D8C0
SIGNWRITING HAND-CUP INDEX THUMB OPEN=1D8ED;32=1D8EC;26=1D802;21MIDDLE RING LITTLE=1D8D0
SIGNWRITING HAND-CUP NO THUMB=1D871;21OPEN NO THUMB=1D870;26THUMB FORWARD=1D872;32SIDE=1D86E
SIGNWRITING HAND-CUP OPEN=1D86C;21THUMB FORWARD=1D873;27SIDE=1D86F;20=1D86D
SIGNWRITING HAND-CURLICUE INDEX RING LITTLE ON=1D8BC;26MIDDLE RING LITTLE ON=1D8CF;26OPEN=1D874
SIGNWRITING HAND-CURLICUE=1D875;17FIST FOUR FINGERS CONJOINED BENT=1D84A;22HEEL=1D904
SIGNWRITING HAND-FIST INDEX BENT OVER MIDDLE=1D81D;32=1D806;28CUPPED=1D80A;28HINGED LOW=1D80C
SIGNWRITING HAND-FIST INDEX HINGED MIDDLE UP THUMB SIDE=1D826;44=1D814;34=1D80B
SIGNWRITING HAND-FIST INDEX MIDDLE BENT THUMB STRAIGHT=1D821;39=1D810
SIGNWRITING HAND-FIST INDEX MIDDLE CONJOINED CUPPED THUMB FORWARD=1D835;51=1D818
SIGNWRITING HAND-FIST INDEX MIDDLE CONJOINED HINGED THUMB SIDE=1D832;51=1D819;45INDEX BENT=1D816
SIGNWRITING HAND-FIST INDEX MIDDLE CONJOINED MIDDLE BENT=1D817;45THUMB FORWARD=1D834
SIGNWRITING HAND-FIST INDEX MIDDLE CONJOINED THUMB SIDE BENT=1D82F;56CONJOINED=1D82E;55=1D82D
SIGNWRITING HAND-FIST INDEX MIDDLE CONJOINED=1D815;36ROSS LITTLE=1D8A9;40ED THUMB SIDE=1D833
SIGNWRITING HAND-FIST INDEX MIDDLE CROSSED=1D81A;35HINGED SPREAD THUMB SIDE=1D823;41=1D812
SIGNWRITING HAND-FIST INDEX MIDDLE LITTLE=1D8A4;35RAISED KNUCKLES=1D811;36ING BENT=1D88B
SIGNWRITING HAND-FIST INDEX MIDDLE RING CONJOINED=1D88C;39=1D886;35STRAIGHT THUMB BENT=1D820
SIGNWRITING HAND-FIST INDEX MIDDLE THUMB ANGLED OUT=1D83E;47=1D83F;41BENT=1D822;41CIRCLED=1D829
SIGNWRITING HAND-FIST INDEX MIDDLE THUMB CONJOINED HINGED=1D83D;42UPPED=1D828;41HINGED=1D82B
SIGNWRITING HAND-FIST INDEX MIDDLE THUMB HOOKED=1D82A;40=1D81E;35UP SPREAD THUMB FORWARD=1D827
SIGNWRITING HAND-FIST INDEX MIDDLE=1D80E;28RAISED KNUCKLE=1D809;29ING LITTLE=1D8BA
SIGNWRITING HAND-FIST INDEX THUMB ANGLED IN MIDDLE UP=1D83B;41OUT MIDDLE UP=1D83A;34CIRCLE=1D8EB
SIGNWRITING HAND-FIST INDEX THUMB CIRCLED MIDDLE UP=1D83C;35UPPED MIDDLE UP=1D837;36RLICUE=1D8E7
SIGNWRITING HAND-FIST INDEX THUMB CURVE THUMB INSIDE=1D8E8;46UNDER=1D8EA
SIGNWRITING HAND-FIST INDEX THUMB FORWARD INDEX BENT=1D8E5;48STRAIGHT=1D8E4;34HOOK=1D8E6
SIGNWRITING HAND-FIST INDEX THUMB HOOKED MIDDLE HINGED=1D843;48UP=1D831;34SIDE BOTH BENT=1D8E2
SIGNWRITING HAND-FIST INDEX THUMB SIDE INDEX BENT=1D8E1;45HINGE=1D8E3;39THUMB BENT=1D8E0
SIGNWRITING HAND-FIST INDEX THUMB SIDE THUMB CONJOINED=1D8DF;45DIAGONAL=1D8DE;38=1D8DC
SIGNWRITING HAND-FIST INDEX UP MIDDLE HINGED THUMB CONJOINED=1D825;51SIDE=1D824;44=1D813;27=1D800
SIGNWRITING HAND-FIST LITTLE BENT=1D898;29DOWN OTHERS CIRCLED=1D891;34RIPPLE CURVED=1D890
SIGNWRITING HAND-FIST LITTLE DOWN RIPPLE STRAIGHT=1D88F;33=1D88E;29INDEX THUMB=1D89C;34=1D8A0
SIGNWRITING HAND-FIST LITTLE RAISED KNUCKLE=1D897;29THUMB=1D89A;30OUCHES THUMB=1D899;29UP=1D892
SIGNWRITING HAND-FIST MIDDLE BENT OVER INDEX=1D81C;29DOWN=1D8C4;29LITTLE=1D8CC
SIGNWRITING HAND-FIST MIDDLE RAISED KNUCKLE=1D8C8;30ING LITTLE=1D8CD;29THUMB ANGLED INDEX UP=1D842
SIGNWRITING HAND-FIST MIDDLE THUMB ANGLED OUT INDEX CROSSED=1D841;52UP=1D840
SIGNWRITING HAND-FIST MIDDLE THUMB CIRCLED INDEX HINGED=1D839;49UP=1D838;36UPPED INDEX UP=1D836
SIGNWRITING HAND-FIST MIDDLE THUMB HOOKED INDEX UP=1D830;35LITTLE=1D8CB;29UP THUMB SIDE=1D8C9
SIGNWRITING HAND-FIST MIDDLE UP=1D8C6;22RING DOWN=1D8AB;27INDEX=1D8B7;27LITTLE=1D8B0
SIGNWRITING HAND-FIST RING MIDDLE CONJOINED=1D8B5;34RAISED KNUCKLES=1D8B6;33=1D8B4
SIGNWRITING HAND-FIST RING RAISED KNUCKLE=1D8AF;27THUMB=1D8B8;27UP=1D8AE
SIGNWRITING HAND-FIST THUMB BETWEEN INDEX MIDDLE STRAIGHT=1D82C;48=1D8FB;36MIDDLE RING=1D8FC
SIGNWRITING HAND-FIST THUMB BETWEEN RING LITTLE=1D8FD;28FORWARD=1D8FA;28HEEL=1D8F6
SIGNWRITING HAND-FIST THUMB OVER FOUR RAISED KNUCKLES=1D902;33TWO FINGERS=1D8FF;28SIDE BENT=1D8F9
SIGNWRITING HAND-FIST THUMB SIDE CONJOINED=1D8F8;33DIAGONAL=1D8F7;28UNDER FOUR FINGERS=1D901
SIGNWRITING HAND-FIST THUMB UNDER INDEX BENT=1D808;34LITTLE UP=1D893;34THREE FINGERS=1D900
SIGNWRITING HAND-FIST THUMB UNDER TWO FINGERS=1D8FE;27=1D8F5;21=1D903
SIGNWRITING HAND-FLAT BETWEEN PALM FACINGS=1D85B;22FIVE FINGERS SPREAD BENT=1D850
SIGNWRITING HAND-FLAT FIVE FINGERS SPREAD FOUR BENT=1D84E;42HINGED NO THUMB=1D859
SIGNWRITING HAND-FLAT FIVE FINGERS SPREAD HINGED THUMB SIDE=1D858;48=1D857;42THUMB FORWARD=1D852
SIGNWRITING HAND-FLAT FIVE FINGERS SPREAD=1D84C;23OUR FINGERS BENT=1D845;35CONJOINED SPLIT=1D848
SIGNWRITING HAND-FLAT FOUR FINGERS CONJOINED=1D847;35HINGED=1D846;34=1D844
SIGNWRITING HAND-FLAT HEEL FIVE FINGERS SPREAD BENT=1D851;47FOUR BENT=1D84F;46=1D84D
SIGNWRITING HAND-FLAT HEEL THUMB SIDE=1D85E;26=1D85C;22SPLIT CENTRE THUMB SIDE BENT=1D864;45=1D863
SIGNWRITING HAND-FLAT SPLIT CENTRE=1D862;28INDEX THUMB SIDE=1D861;28LITTLE=1D865
SIGNWRITING HAND-FLAT THUMB BENT=1D85F;28FORWARD=1D860;28SIDE=1D85D;21=1D85A
SIGNWRITING HAND-HINGE FIVE FINGERS SPREAD OPEN=1D855;24OUR FINGERS CONJOINED=1D84B
SIGNWRITING HAND-HINGE INDEX HINGED=1D8DB;29MIDDLE LITTLE=1D8A6;36RING CONJOINED=1D88D;40=1D888
SIGNWRITING HAND-HINGE INDEX RING LITTLE=1D8C1;29THUMB LARGE=1D8EF;35OPEN=1D8EE;35SIDE=1D8DD
SIGNWRITING HAND-HINGE INDEX THUMB SMALL=1D8F1;34=1D8F0;28=1D804;23LITTLE INDEX THUMB=1D89D
SIGNWRITING HAND-HINGE LITTLE INDEX=1D8A2;30THUMB=1D89B;29=1D88A;23MIDDLE RING LITTLE=1D8D1
SIGNWRITING HAND-HINGE MIDDLE=1D8C5;23NO THUMB=1D882;23OPEN NO THUMB=1D881;28THUMB FORWARD=1D87C
SIGNWRITING HAND-HINGE OPEN THUMB SIDE=1D87F;27=1D87B;23RING DOWN INDEX THUMB HOOK MIDDLE=1D8AC
SIGNWRITING HAND-HINGE RING=1D8A7;23SMALL=1D87E;23THUMB BETWEEN MIDDLE RING=1D884
SIGNWRITING HAND-HINGE THUMB SIDE TOUCHING INDEX=1D883;33=1D880;22=1D87D;18OOK CURLICUE=1D86A
SIGNWRITING HAND-HOOK INDEX RING LITTLE IN=1D8BE;40OUT=1D8BD;40UNDER=1D8BF
SIGNWRITING HAND-HOOK MIDDLE RING LITTLE CONJOINED IN=1D8D9;51OUT=1D8D8;50=1D8DA;29THUMB=1D8CA
SIGNWRITING HAND-HOOK RING THUMB=1D8B9;21=1D86B;17OVAL FIVE FINGERS SPREAD=1D856;22INDEX=1D803
SIGNWRITING HAND-OVAL LITTLE UP=1D895;22NO THUMB=1D879;22RING LITTLE=1D8B2;22THUMB FORWARD=1D87A
SIGNWRITING HAND-OVAL THUMB SIDE=1D878;21=1D877;13EAD MOVEMENT CIRCLE=1DA06
SIGNWRITING HEAD MOVEMENT-FLOORPLANE CURVE=1DA05;37STRAIGHT=1DA03;26WALLPLANE CURVE=1DA04
SIGNWRITING HEAD MOVEMENT-WALLPLANE STRAIGHT=1DA01;36TILT=1DA02;17RIM=1DA00;16=1D9FF
SIGNWRITING LIMB COMBINATION=1DA76;17LENGTH-1=1DA77;242=1DA78;243=1DA79;244=1DA7A;245=1DA7B
SIGNWRITING LIMB LENGTH-6=1DA7C;247=1DA7D;14P LOWER OVER UPPER=1DA54;16UPPER OVER LOWER=1DA55
SIGNWRITING LIPS PRESSED TOGETHER=1DA53;13OCATION DEPTH=1DA83;21HEAD NECK=1DA84;23IGHT=1DA81
SIGNWRITING LOCATION LIMBS DIGITS=1DA86;21TORSO=1DA85;21WIDTH=1DA82;20-FLOORPLANE SPACE=1DA80
SIGNWRITING LOCATION-WALLPLANE SPACE=1DA7F;12MOUTH CLOSED CONTACT=1DA3D;25FORWARD=1DA3C
SIGNWRITING MOUTH CLOSED NEUTRAL=1DA3B;19ORNERS=1DA56;18FROWN OPEN=1DA43;24WRINKLED=1DA42;23=1DA41
SIGNWRITING MOUTH KISS FORWARD=1DA4E;23WRINKLED=1DA4F;22=1DA4D;18OPEN CIRCLE=1DA44;23FORWARD=1DA45
SIGNWRITING MOUTH OPEN OVAL WRINKLED=1DA48;28YAWN=1DA49;27=1DA47;23RECTANGLE WRINKLED=1DA4B
SIGNWRITING MOUTH OPEN RECTANGLE YAWN=1DA4C;32=1DA4A;23WRINKLED=1DA46;18SMILE OPEN=1DA40
SIGNWRITING MOUTH SMILE WRINKLED=1DA3F;23=1DA3E;18TENSE FORWARD=1DA51;24SUCKED=1DA52;23=1DA50
SIGNWRITING MOUTH WRINKLES DOUBLE=1DA58;27SINGLE=1DA57;14VEMENT-DIAGONAL AWAY LARGE=1D957
SIGNWRITING MOVEMENT-DIAGONAL AWAY LARGEST=1D958;35MEDIUM=1D956;35SMALL=1D955
SIGNWRITING MOVEMENT-DIAGONAL BETWEEN AWAY LARGE=1D95F;48ST=1D960;43MEDIUM=1D95E;43SMALL=1D95D
SIGNWRITING MOVEMENT-DIAGONAL BETWEEN TOWARDS LARGE=1D963;51ST=1D964;46MEDIUM=1D962;46SMALL=1D961
SIGNWRITING MOVEMENT-DIAGONAL TOWARDS LARGE=1D95B;43ST=1D95C;38MEDIUM=1D95A;38SMALL=1D959
SIGNWRITING MOVEMENT-FLOORPLANE ARM CIRCLE HITTING WALL LARGE DOUBLE=1D9EC;62SINGLE=1D9E9
SIGNWRITING MOVEMENT-FLOORPLANE ARM CIRCLE HITTING WALL MEDIUM DOUBLE=1D9EB;63SINGLE=1D9E8
SIGNWRITING MOVEMENT-FLOORPLANE ARM CIRCLE HITTING WALL SMALL DOUBLE=1D9EA;62SINGLE=1D9E7
SIGNWRITING MOVEMENT-FLOORPLANE BEND=1D973;33OX LARGE=1D97A;36MEDIUM=1D979;36SMALL=1D978
SIGNWRITING MOVEMENT-FLOORPLANE CHECK=1D977;33ORNER LARGE=1D976;39MEDIUM=1D975;39SMALL=1D974
SIGNWRITING MOVEMENT-FLOORPLANE CROSS=1D96E;33URVE COMBINED=1D9D9;38HITTING CEILING LARGE=1D9B8
SIGNWRITING MOVEMENT-FLOORPLANE CURVE HITTING CEILING SMALL=1D9B7;46FLOOR LARGE=1D9C7
SIGNWRITING MOVEMENT-FLOORPLANE CURVE HITTING FLOOR SMALL=1D9C6;38LARGE=1D9D7;43ST=1D9D8
SIGNWRITING MOVEMENT-FLOORPLANE CURVE MEDIUM=1D9D6;38SMALL=1D9D5
SIGNWRITING MOVEMENT-FLOORPLANE DOUBLE ALTERNATING WRIST FLEX=1D96D;50=1D96C;39STRAIGHT=1D96A
SIGNWRITING MOVEMENT-FLOORPLANE DOUBLE WRIST FLEX=1D96B;32FINGER CIRCLES HITTING WALL DOUBLE=1D9F4
SIGNWRITING MOVEMENT-FLOORPLANE FINGER CIRCLES HITTING WALL SINGLE=1D9F3;40ONTACT=1D929
SIGNWRITING MOVEMENT-FLOORPLANE HUMP HITTING CEILING LARGE DOUBLE=1D9BA;59TRIPLE=1D9BC
SIGNWRITING MOVEMENT-FLOORPLANE HUMP HITTING CEILING SMALL DOUBLE=1D9B9;59TRIPLE=1D9BB
SIGNWRITING MOVEMENT-FLOORPLANE HUMP HITTING FLOOR LARGE DOUBLE=1D9C9;51SMALL DOUBLE=1D9C8
SIGNWRITING MOVEMENT-FLOORPLANE HUMP HITTING FLOOR TRIPLE LARGE TRIPLE=1D9CB;58SMALL TRIPLE=1D9CA
SIGNWRITING MOVEMENT-FLOORPLANE HUMP SMALL=1D9DA;32JAW=1DA69
SIGNWRITING MOVEMENT-FLOORPLANE LOOP HITTING CEILING LARGE DOUBLE=1D9C0;59SINGLE=1D9BE
SIGNWRITING MOVEMENT-FLOORPLANE LOOP HITTING CEILING SMALL DOUBLE=1D9BF;59SINGLE=1D9BD
SIGNWRITING MOVEMENT-FLOORPLANE LOOP HITTING FLOOR LARGE DOUBLE=1D9CF;57SINGLE=1D9CD
SIGNWRITING MOVEMENT-FLOORPLANE LOOP HITTING FLOOR SMALL DOUBLE=1D9CE;57SINGLE=1D9CC;37SMALL=1D9DB
SIGNWRITING MOVEMENT-FLOORPLANE PEAKS LARGE=1D980;38MEDIUM=1D97F;38SMALL=1D97E
SIGNWRITING MOVEMENT-FLOORPLANE SHAKING PARALLEL=1D9E2;33INGLE STRAIGHT LARGE=1D967;53ST=1D968
SIGNWRITING MOVEMENT-FLOORPLANE SINGLE STRAIGHT MEDIUM=1D966;48SMALL=1D965;39WRIST FLEX=1D969
SIGNWRITING MOVEMENT-FLOORPLANE TRIPLE ALTERNATING MOVEMENT=1D971;51WRIST FLEX=1D972
SIGNWRITING MOVEMENT-FLOORPLANE TRIPLE STRAIGHT MOVEMENT=1D96F;39WRIST FLEX=1D970
SIGNWRITING MOVEMENT-FLOORPLANE WAVE HITTING CEILING LARGE=1D9C2;53SMALL=1D9C1;45FLOOR LARGE=1D9D1
SIGNWRITING MOVEMENT-FLOORPLANE WAVE HITTING FLOOR SMALL=1D9D0;37LARGE=1D9DE;37SMALL=1D9DD
SIGNWRITING MOVEMENT-FLOORPLANE WAVE SNAKE=1D9DC;33RIST CIRCLE HITTING WALL DOUBLE=1D9F0
SIGNWRITING MOVEMENT-FLOORPLANE WRIST CIRCLE HITTING WALL SINGLE=1D9EF;32ZIGZAG LARGE=1D97D
SIGNWRITING MOVEMENT-FLOORPLANE ZIGZAG MEDIUM=1D97C;39SMALL=1D97B;21HINGE DOWN SEQUENTIAL=1D924
SIGNWRITING MOVEMENT-HINGE SIDE TO SIDE SCISSORS=1D927;27UP DOWN ALTERNATING LARGE=1D925
SIGNWRITING MOVEMENT-HINGE UP DOWN ALTERNATING SMALL=1D926;35LARGE=1D921;35SMALL=1D922
SIGNWRITING MOVEMENT-HINGE UP SEQUENTIAL=1D923;21WALLPLANE ARM CIRCLE MEDIUM DOUBLE=1D9E6
SIGNWRITING MOVEMENT-WALLPLANE ARM CIRCLE MEDIUM SINGLE=1D9E4;42SMALL DOUBLE=1D9E5;48SINGLE=1D9E3
SIGNWRITING MOVEMENT-WALLPLANE BEND LARGE=1D93A;36MEDIUM=1D939;36SMALL=1D938;32OX LARGE=1D944
SIGNWRITING MOVEMENT-WALLPLANE BOX MEDIUM=1D943;35SMALL=1D942;31CHECK LARGE=1D941;37MEDIUM=1D940
SIGNWRITING MOVEMENT-WALLPLANE CHECK SMALL=1D93F;32ORNER LARGE=1D93D;38MEDIUM=1D93C
SIGNWRITING MOVEMENT-WALLPLANE CORNER ROTATION=1D93E;38SMALL=1D93B;32ROSS=1D933
SIGNWRITING MOVEMENT-WALLPLANE CURVE HALF-CIRCLE LARGE=1D98E;54ST=1D98F;49MEDIUM=1D98D
SIGNWRITING MOVEMENT-WALLPLANE CURVE HALF-CIRCLE SMALL=1D98C;38ITTING CHEST=1D9AD
SIGNWRITING MOVEMENT-WALLPLANE CURVE HITTING FRONT WALL=1D9A6;37QUARTER LARGE=1D98A;50ST=1D98B
SIGNWRITING MOVEMENT-WALLPLANE CURVE QUARTER MEDIUM=1D989;45SMALL=1D988;37THEN STRAIGHT=1D99F
SIGNWRITING MOVEMENT-WALLPLANE CURVE THREE-QUARTER CIRCLE MEDIUM=1D991;58SMALL=1D990
SIGNWRITING MOVEMENT-WALLPLANE CURVED CROSS MEDIUM=1D9A1;44SMALL=1D9A0
SIGNWRITING MOVEMENT-WALLPLANE DOUBLE ALTERNATING WRIST FLEX=1D932;49=1D931;38STRAIGHT=1D92F
SIGNWRITING MOVEMENT-WALLPLANE DOUBLE WRIST FLEX=1D930;31FINGER CIRCLES DOUBLE=1D9F2
SIGNWRITING MOVEMENT-WALLPLANE FINGER CIRCLES SINGLE=1D9F1;39ONTACT=1D928
SIGNWRITING MOVEMENT-WALLPLANE HUMP HITTING CHEST=1D9AE;44FRONT WALL=1D9A7;36LARGE=1D994
SIGNWRITING MOVEMENT-WALLPLANE HUMP MEDIUM=1D993;36SMALL=1D992;31JAW=1DA68
SIGNWRITING MOVEMENT-WALLPLANE LOOP HITTING CHEST=1D9AF;44FRONT WALL=1D9A8;36LARGE=1D997
SIGNWRITING MOVEMENT-WALLPLANE LOOP MEDIUM=1D996;36SMALL DOUBLE=1D998;41=1D995;31PEAKS LARGE=1D94A
SIGNWRITING MOVEMENT-WALLPLANE PEAKS MEDIUM=1D949;37SMALL=1D948;31SHAKING=1D9A5
SIGNWRITING MOVEMENT-WALLPLANE SINGLE STRAIGHT LARGE=1D92C;52ST=1D92D;47MEDIUM=1D92B;47SMALL=1D92A
SIGNWRITING MOVEMENT-WALLPLANE SINGLE WRIST FLEX=1D92E;31TRIPLE ALTERNATING WRIST FLEX=1D937
SIGNWRITING MOVEMENT-WALLPLANE TRIPLE ALTERNATING=1D936;38STRAIGHT MOVEMENT=1D934
SIGNWRITING MOVEMENT-WALLPLANE TRIPLE WRIST FLEX=1D935;31WAVE CURVE DOUBLE LARGE=1D99B
SIGNWRITING MOVEMENT-WALLPLANE WAVE CURVE DOUBLE MEDIUM=1D99A;49SMALL=1D999;42TRIPLE LARGE=1D99E
SIGNWRITING MOVEMENT-WALLPLANE WAVE CURVE TRIPLE MEDIUM=1D99D;49SMALL=1D99C
SIGNWRITING MOVEMENT-WALLPLANE WAVE DIAGONAL PATH LARGE=1D9B6;50MEDIUM=1D9B5;50SMALL=1D9B4
SIGNWRITING MOVEMENT-WALLPLANE WAVE HITTING CHEST=1D9B0;44FRONT WALL=1D9A9
SIGNWRITING MOVEMENT-WALLPLANE WRIST CIRCLE FRONT DOUBLE=1D9EE;50SINGLE=1D9ED;31ZIGZAG LARGE=1D947
SIGNWRITING MOVEMENT-WALLPLANE ZIGZAG MEDIUM=1D946;38SMALL=1D945;12NECK=1DA6A;13OSE CONTACT=1DA32
SIGNWRITING NOSE NEUTRAL=1DA31;17WIGGLES=1DA34;18RINKLES=1DA33;12PARENTHESIS=1DA8B
SIGNWRITING ROTATION MODIFIER-10=1DAA9;311=1DAAA;312=1DAAB;313=1DAAC;314=1DAAD;315=1DAAE;316=1DAAF
SIGNWRITING ROTATION MODIFIER-2=1DAA1;303=1DAA2;304=1DAA3;305=1DAA4;306=1DAA5;307=1DAA6;308=1DAA7
SIGNWRITING ROTATION MODIFIER-9=1DAA8;20-FLOORPLANE ALTERNATING HITTING CEILING=1D9C5
SIGNWRITING ROTATION-FLOORPLANE ALTERNATING HITTING FLOOR=1D9D4;43=1D9E1
SIGNWRITING ROTATION-FLOORPLANE DOUBLE HITTING CEILING=1D9C4;47FLOOR=1D9D3;38=1D9E0
SIGNWRITING ROTATION-FLOORPLANE SINGLE HITTING CEILING=1D9C3;47FLOOR=1D9D2;38=1D9DF
SIGNWRITING ROTATION-WALLPLANE ALTERNATE=1D9A4;39ING HITTING CHEST=1D9B3;51FRONT WALL=1D9AC
SIGNWRITING ROTATION-WALLPLANE DOUBLE HITTING CHEST=1D9B2;46FRONT WALL=1D9AB;37=1D9A3
SIGNWRITING ROTATION-WALLPLANE SINGLE HITTING CHEST=1D9B1;46FRONT WALL=1D9AA;37=1D9A2
SIGNWRITING RUB BETWEEN=1D913;16MULTIPLE=1D912;16SINGLE=1D911;12SEMICOLON=1DA89
SIGNWRITING SHOULDER HIP POSITIONS=1DA6E;25SPINE=1DA6D;21TILTING FROM WAIST=1DA71
SIGNWRITING SQUEEZE FLICK ALTERNATING=1D920;20LARGE MULTIPLE=1D918;26SINGLE=1D916
SIGNWRITING SQUEEZE SEQUENTIAL=1D91A;21MALL MULTIPLE=1D919;26SINGLE=1D917;13TRIKE BETWEEN=1D90D
SIGNWRITING STRIKE MULTIPLE=1D90C;19SINGLE=1D90B;13URFACE BETWEEN=1D915;20SYMBOLS=1D914
SIGNWRITING TEETH BITE LIPS=1DA67;18MOVEMENT=1DA62;18ON LIPS MOVEMENT=1DA66;25=1DA65
SIGNWRITING TEETH ON TONGUE MOVEMENT=1DA64;27=1DA63;17=1DA61;14NSE CHEEKS HIGH=1DA2D;25LOW=1DA2F
SIGNWRITING TENSE CHEEKS MIDDLE=1DA2E;13ONGUE CENTRE INSIDE MOUTH=1DA60;26STICKING OUT=1DA5F
SIGNWRITING TONGUE INSIDE MOUTH RELAXED=1DA5D;19LICKING LIPS=1DA5A;19MOVES AGAINST CHEEK=1DA5E
SIGNWRITING TONGUE STICKING OUT FAR=1DA59;19TIP BETWEEN LIPS=1DA5B;23TOUCHING INSIDE MOUTH=1DA5C
SIGNWRITING TORSO-FLOORPLANE TWISTING=1DA74;18WALLPLANE CURVED BEND=1DA73;28STRAIGHT STRETCH=1DA72
SIGNWRITING TOUCH BETWEEN=1D907;18MULTIPLE=1D906;18SINGLE=1D905
SIGNWRITING TRAVEL-FLOORPLANE ROTATION-FLOORPLANE ALTERNATING=1D983;50DOUBLE=1D982;50SINGLE=1D981
SIGNWRITING TRAVEL-FLOORPLANE ROTATION-WALLPLANE ALTERNATING=1D986;49DOUBLE=1D985;49SINGLE=1D984
SIGNWRITING TRAVEL-FLOORPLANE SHAKING=1D987;19WALLPLANE ARM SPIRAL DOUBLE=1D953;40SINGLE=1D952
SIGNWRITING TRAVEL-WALLPLANE ARM SPIRAL TRIPLE=1D954;29ROTATION-FLOORPLANE ALTERNATING=1D950
SIGNWRITING TRAVEL-WALLPLANE ROTATION-FLOORPLANE DOUBLE=1D94F;49SINGLE=1D94E
SIGNWRITING TRAVEL-WALLPLANE ROTATION-WALLPLANE ALTERNATING=1D94D;48DOUBLE=1D94C;48SINGLE=1D94B
SIGNWRITING TRAVEL-WALLPLANE SHAKING=1D951;12UPPER BODY TILTING FROM HIP JOINTS=1DA75
SIGNWRITING WALLPLANE SHOULDER HIP MOVE=1DA6F;02LHOUETTE OF JAPAN=1F5FE
SIMILAR ABOVE GREATER-THAN ABOVE EQUALS SIGN=2AA0;14LESS-THAN ABOVE EQUALS SIGN=2A9F
SIMILAR MINUS SIMILAR=2A6C;08OR GREATER-THAN=2A9E;11LESS-THAN=2A9D;02NE WAVE=223F
SINGLE CHARACTER INTRODUCER=9A;07GRAPHIC CHARACTER INTRODUCER=99
SINGLE HIGH-REVERSED-9 QUOTATION MARK=201B;07LEFT-POINTING ANGLE QUOTATION MARK=2039
SINGLE LOW-9 QUOTATION MARK=201A;07RIGHT-POINTING ANGLE QUOTATION MARK=203A;07SHIFT THREE=8F
SINGLE SHIFT TWO=8E;06-SHIFT-2=8E;133=8F;03HALA ARCHAIC DIGIT EIGHT=111E8;22FIVE=111E5;23OUR=111E4
SINHALA ARCHAIC DIGIT NINE=111E9;22ONE=111E1;22SEVEN=111E7;23IX=111E6;22THREE=111E3;23WO=111E2
SINHALA ARCHAIC NUMBER EIGHTY=111F1;23FIFTY=111EE;24ORTY=111ED;23NINETY=111F2;23ONE HUNDRED=111F3
SINHALA ARCHAIC NUMBER ONE THOUSAND=111F4;23SEVENTY=111F0;24IXTY=111EF;23TEN=111EA;24HIRTY=111EC
SINHALA ARCHAIC NUMBER TWENTY=111EB;08LETTER AAYANNA=D86;16EEYANNA=D88;17YANNA=D87;16IYANNA=D93
SINHALA LETTER ALPAPRAANA BAYANNA=DB6;26CAYANNA=DA0;26DAYANNA=DAF;27DAYANNA=DA9;26GAYANNA=D9C
SINHALA LETTER ALPAPRAANA JAYANNA=DA2;26KAYANNA=D9A;26PAYANNA=DB4;26TAYANNA=DAD;27TAYANNA=DA7
SINHALA LETTER AMBA BAYANNA=DB9;16UYANNA=D96;16YANNA=D85;15DANTAJA LAYANNA=DBD;23NAYANNA=DB1
SINHALA LETTER DANTAJA SAYANNA=DC3;15EEYANNA=D92;16YANNA=D91;15FAYANNA=DC6;15HAYANNA=DC4
SINHALA LETTER IIYANNA=D8A;16LUUYANNA=D90;18YANNA=D8F;16RUUYANNA=D8E;18YANNA=D8D;16YANNA=D89
SINHALA LETTER KANTAJA NAASIKYAYA=D9E;15MAHAAPRAANA BAYANNA=DB7;27CAYANNA=DA1;27DAYANNA=DB0
SINHALA LETTER MAHAAPRAANA DDAYANNA=DAA;27GAYANNA=D9D;27JAYANNA=DA3;27KAYANNA=D9B;27PAYANNA=DB5
SINHALA LETTER MAHAAPRAANA TAYANNA=DAE;28TAYANNA=DA8;17YANNA=DB8;16UURDHAJA LAYANNA=DC5
SINHALA LETTER MUURDHAJA NAYANNA=DAB;25SAYANNA=DC2;15OOYANNA=D95;16YANNA=D94;15RAYANNA=DBB
SINHALA LETTER SANYAKA DAYANNA=DB3;24DAYANNA=DAC;23GAYANNA=D9F;23JAYANNA=DA6
SINHALA LETTER TAALUJA NAASIKYAYA=DA4;23SANYOOGA NAAKSIKYAYA=DA5;25YANNA=DC1;15UUYANNA=D8C
SINHALA LETTER UYANNA=D8B;15VAYANNA=DC0;15YAYANNA=DBA;09ITH DIGIT EIGHT=DEE;19FIVE=DEB;20OUR=DEA
SINHALA LITH DIGIT NINE=DEF;19ONE=DE7;19SEVEN=DED;20IX=DEC;19THREE=DE9;20WO=DE8;19ZERO=DE6
SINHALA PUNCTUATION KUNDDALIYA=DF4;08SIGN AL-LAKUNA=DCA;14NUSVARAYA=D82;13CANDRABINDU=D81
SINHALA SIGN VISARGAYA=D83;08VOWEL SIGN AELA-PILLA=DCF;19DIGA AEDA-PILLA=DD1;24GAETTA-PILLA=DF2
SINHALA VOWEL SIGN DIGA GAYANUKITTA=DF3;24IS-PILLA=DD3;24KOMBUVA=DDA;24PAA-PILLA=DD6
SINHALA VOWEL SIGN GAETTA-PILLA=DD8;21YANUKITTA=DDF;19KETTI AEDA-PILLA=DD0;25IS-PILLA=DD2
SINHALA VOWEL SIGN KETTI PAA-PILLA=DD4;20OMBU DEKA=DDB;24VA HAA AELA-PILLA=DDC
SINHALA VOWEL SIGN KOMBUVA HAA DIGA AELA-PILLA=DDD;31GAYANUKITTA=DDE;26=DD9
SIX PETALLED BLACK AND WHITE FLORETTE=273E;05OINTED BLACK STAR=2736;12PINWHEEL STAR=1F7CD
SIX POINTED STAR WITH MIDDLE DOT=1F52F;03-PER-EM SPACE=2006;03TEEN POINTED ASTERISK=273A
SKATEBOARD=1F6F9;02I AND SKI BOOT=1F3BF;03ER=26F7;02ULL AND CROSSBONES=2620;05=1F480;03NK=1F9A8
SLANTED EQUAL TO OR GREATER-THAN WITH DOT INSIDE=2A98;32=2A96;20LESS-THAN WITH DOT INSIDE=2A97
SLANTED EQUAL TO OR LESS-THAN=2A95;08NORTH ARROW WITH HOOKED HEAD=2B5A;27RIZONTAL TAIL=2B5C
SLAVONIC ASTERISK=A673;02ED=1F6F7;03EPING ACCOMMODATION=1F6CC;09FACE=1F634;09SYMBOL=1F4A4
SLEEPY FACE=1F62A;03UTH OR SPY=1F575;02ICE OF PIZZA=1F355;03GHTLY FROWNING FACE=1F641
SLIGHTLY SMILING FACE=1F642;02OPE=2333;04ING LARGE AND=2A58;14OR=2A57;03T MACHINE=1F3B0;04H=1F9A5
SMALL AIRPLANE=1F6E9;07MPERSAND=FE60;07STERISK=FE61;06BLUE DIAMOND=1F539;06COLON=FE55;08MMA=FE50
SMALL COMMERCIAL AT=FE6B;08NTAINS AS MEMBER=220D;15WITH OVERBAR=22FE
SMALL CONTAINS WITH VERTICAL BAR AT END OF HORIZONTAL STROKE=22FC;06DOLLAR SIGN=FE69
SMALL ELEMENT OF WITH OVERBAR=22F7;22VERTICAL BAR AT END OF HORIZONTAL STROKE=22F4;16=220A
SMALL EM DASH=FE58;07QUALS SIGN=FE66;07XCLAMATION MARK=FE57;06FULL STOP=FE52
SMALL GREATER-THAN SIGN=FE65;06HYPHEN-MINUS=FE63;06IDEOGRAPHIC COMMA=FE51
SMALL LEFT CURLY BRACKET=FE5B;11PARENTHESIS=FE59;11TORTOISE SHELL BRACKET=FE5D;08SS-THAN SIGN=FE64
SMALL NUMBER SIGN=FE5F;06ORANGE DIAMOND=1F538;06PERCENT SIGN=FE6A;07LUS SIGN=FE62
SMALL QUESTION MARK=FE56;06REVERSE SOLIDUS=FE68;07IGHT CURLY BRACKET=FE5C;12PARENTHESIS=FE5A
SMALL RIGHT TORTOISE SHELL BRACKET=FE5E;07OMAN NUMERAL EIGHT=2177;21LEVEN=217A;20FIFTY=217C
SMALL ROMAN NUMERAL FIVE HUNDRED=217E;24=2174;21OUR=2173;20NINE=2178;20ONE HUNDRED=217D
SMALL ROMAN NUMERAL ONE THOUSAND=217F;23=2170;20SEVEN=2176;21IX=2175;20TEN=2179;21HREE=2172
SMALL ROMAN NUMERAL TWELVE=217B;22O=2171;06SEMICOLON=FE54;06TILDE=2DC
SMALL TWO DOTS OVER ONE DOT PUNCTUATION=10B3B;06VEE WITH UNDERBAR=2A61;05ER THAN OR EQUAL TO=2AAC
SMALLER THAN=2AAA;03SH PRODUCT=2A33;02ILE=2323;04ING CAT FACE WITH HEART-SHAPED EYES=1F63B
SMILING CAT FACE WITH OPEN MOUTH=1F63A;08FACE WITH HALO=1F607;19EART-SHAPED EYES=1F60D
SMILING FACE WITH HORNS=1F608;18OPEN MOUTH AND COLD SWEAT=1F605;33SMILING EYES=1F604
SMILING FACE WITH OPEN MOUTH AND TIGHTLY-CLOSED EYES=1F606;28=1F603
SMILING FACE WITH SMILING EYES AND HAND COVERING MOUTH=1F92D;35THREE HEARTS=1F970;30=1F60A
SMILING FACE WITH SUNGLASSES=1F60E;18TEAR=1F972;03RKING FACE=1F60F;02OKING SYMBOL=1F6AC
SNAIL=1F40C;03KE=1F40D;02EEZING FACE=1F927;02OW CAPPED MOUNTAIN=1F3D4;04BOARDER=1F3C2;04FLAKE=2744
SNOWMAN WITHOUT SNOW=26C4;07=2603;01O=E;02CCER BALL=26BD;03KS=1F9E6;02FT HYPHEN=AD
SOFT ICE CREAM=1F366;05SHELL FLOPPY DISK=1F5AC;04BALL=1F94E;04WARE-FUNCTION SYMBOL=2394
SOGDIAN COMBINING CURVE ABOVE=10F4A;24BELOW=10F4B;18DOT ABOVE=10F48;22BELOW=10F46
SOGDIAN COMBINING HOOK ABOVE=10F4C;23BELOW=10F4D;18LONG HOOK BELOW=10F4E;18RESH BELOW=10F4F
SOGDIAN COMBINING STROKE BELOW=10F50;18TWO DOTS ABOVE=10F49;27BELOW=10F47;08INDEPENDENT SHIN=10F45
SOGDIAN LETTER ALEPH=10F30;16YIN=10F3D;15BETH=10F31;15FETH=10F43;15GIMEL=10F32;15HE=10F33
SOGDIAN LETTER HETH=10F36;15KAPH=10F38;15LAMEDH=10F39;16ESH=10F44;15MEM=10F3A;15NUN=10F3B
SOGDIAN LETTER PE=10F3E;15RESH-AYIN=10F40;15SADHE=10F3F;17MEKH=10F3C;16HIN=10F41;15TAW=10F42
SOGDIAN LETTER WAW=10F34;15YODH=10F37;15ZAYIN=10F35;08NUMBER ONE HUNDRED=10F54;18=10F51
SOGDIAN NUMBER TEN=10F52;16WENTY=10F53;08PUNCTUATION CIRCLE WITH DOT=10F57
SOGDIAN PUNCTUATION HALF CIRCLE WITH DOT=10F59;20TWO CIRCLES WITH DOTS=10F58
SOGDIAN PUNCTUATION TWO VERTICAL BARS WITH DOTS=10F56;37=10F55;02H=1
SOLID QUILT SQUARE ORNAMENT IN BLACK SQUARE=1F66B;27=1F66A;05US WITH OVERBAR=29F6;07=2F
SOM SIGN=20C0;02ON WITH RIGHTWARDS ARROW ABOVE=1F51C;02RA SOMPENG DIGIT EIGHT=110F8;19FIVE=110F5
SORA SOMPENG DIGIT FOUR=110F4;19NINE=110F9;19ONE=110F1;19SEVEN=110F7;20IX=110F6;19THREE=110F3
SORA SOMPENG DIGIT TWO=110F2;19ZERO=110F0;13LETTER AH=110E2;20BAH=110D2;20CAH=110D3;20DAH=110D4
SORA SOMPENG LETTER EEH=110E3;21H=110E7;20GAH=110D5;20HAH=110DE;20IH=110E4;20JAH=110E0;20KAH=110DF
SORA SOMPENG LETTER LAH=110D8;20MAE=110E8;22H=110D6;20NAH=110D9;21GAH=110D7;21YAH=110E1;20OH=110E6
SORA SOMPENG LETTER PAH=110DB;20RAH=110DD;20SAH=110D0;20TAH=110D1;20UH=110E5;20VAH=110DA
SORA SOMPENG LETTER YAH=110DC;02S=98;02UND RECORDING COPYRIGHT=2117
SOUTH EAST ARROW AND SOUTH WEST ARROW=2929;17CROSSING NORTH EAST ARROW=292D;17TO CORNER=21F2
SOUTH EAST ARROW WITH HOOK=2925;16=2198;11BLACK ARROW=2B0A;11DOUBLE ARROW=21D8
SOUTH EAST POINTING BUD=1F663;20LEAF=1F653;20VINE LEAF=1F65B;11SANS-SERIF ARROW=1F856
SOUTH EAST TRIANGLE-HEADED ARROW TO BAR=2B78;32=2B68;11WHITE ARROW=2B02
SOUTH WEST ARROW AND NORTH WEST ARROW=292A;17WITH HOOK=2926;16=2199;11BLACK ARROW=2B0B
SOUTH WEST DOUBLE ARROW=21D9;11POINTING BUD=1F661;20LEAF=1F651;20VINE LEAF=1F659
SOUTH WEST SANS-SERIF ARROW=1F857;11TRIANGLE-HEADED ARROW TO BAR=2B79;32=2B69;11WHITE ARROW=2B03
SOYOMBO CLUSTER-INITIAL LETTER LA=11A87;31RA=11A86;31SA=11A89;32HA=11A88
SOYOMBO FINAL CONSONANT SIGN -A=11A95;29B=11A8F;29D=11A8D;29G=11A8A;29K=11A8B;29L=11A92;29M=11A90
SOYOMBO FINAL CONSONANT SIGN N=11A8E;30G=11A8C;29R=11A91;29S=11A94;30H=11A93
SOYOMBO GEMINATION MARK=11A98;08HEAD MARK WITH MOON AND SUN AND FLAME=11A9F;40TRIPLE FLAME=11A9E
SOYOMBO HEAD MARK WITH MOON AND SUN=11AA0;08LETTER -A=11A7A;15A=11A50;15BA=11A72;16HA=11A73
SOYOMBO LETTER CA=11A61;16HA=11A62;15DA=11A6D;16DA=11A68;17HA=11A69;16HA=11A6E;16ZA=11A77
SOYOMBO LETTER GA=11A5E;16HA=11A5F;15HA=11A82;15JA=11A63;16HA=11A64;15KA=11A5C;16HA=11A5D
SOYOMBO LETTER KSSA=11A83;15LA=11A7D;15MA=11A74;15NA=11A6F;16GA=11A60;16NA=11A6A;16YA=11A65
SOYOMBO LETTER PA=11A70;16HA=11A71;15RA=11A7C;15SA=11A81;16HA=11A7F;16SA=11A80;15TA=11A6B
SOYOMBO LETTER THA=11A6C;16SA=11A75;17HA=11A76;16TA=11A66;17HA=11A67;15VA=11A7E;15YA=11A7B
SOYOMBO LETTER ZA=11A79;16HA=11A78;08MARK DOUBLE SHAD=11A9C;13PLUTA=11A9D;13SHAD=11A9B
SOYOMBO MARK TSHEG=11A9A;08SIGN ANUSVARA=11A96;13JIHVAMULIYA=11A84;13UPADHMANIYA=11A85
SOYOMBO SIGN VISARGA=11A97;09UBJOINER=11A99;08TERMINAL MARK-1=11AA1;222=11AA2
SOYOMBO VOWEL LENGTH MARK=11A5B;14SIGN AI=11A57;20U=11A58;19E=11A54;19I=11A51;19O=11A55;20E=11A56
SOYOMBO VOWEL SIGN U=11A53;20E=11A52;19VOCALIC L=11A5A;27R=11A59;01P=20;02A=96;03CE=20
SPAGHETTI=1F35D;03RKLE=2747;07S=2728;06ING HEART=1F496;02EAK-NO-EVIL MONKEY=1F64A
SPEAKER WITH CANCELLATION STROKE=1F507;13ONE SOUND WAVE=1F509;13THREE SOUND WAVES=1F50A;07=1F508
SPEAKING HEAD IN SILHOUETTE=1F5E3;03ECH BALLOON=1F4AC;04DBOAT=1F6A4;03SMILO SIGN=20B7
SPHERICAL ANGLE OPENING LEFT=29A0;24UP=29A1;15=2222;02IDER WEB=1F578;06=1F577
SPIRAL CALENDAR PAD=1F5D3;07NOTE PAD=1F5D2;07SHELL=1F41A;02LASHING SWEAT SYMBOL=1F4A6;02ONGE=1F9FD
SPOOL OF THREAD=1F9F5;04N=1F944;03RTS MEDAL=1F3C5;03UTING WHALE=1F433;01QUARE A OVER M=33DF
SQUARE AARU=3303;08M=33C2;08NPEA=3302;08PAATO=3300;08RUHUA=3301;08U=3373;07BAARERU=332D;09R=3374
SQUARE BEETA=333C;08IRU=3331;08ORUTO=333E;08Q=33C3;08USSYERU=3334;07C OVER KG=33C6;08AL=3388
SQUARE CAP=2293;08C=33C4;08D=33C5;08M CUBED=33A4;10SQUARED=33A0;09=339D;08O=33C7;09RPORATION=337F
SQUARE CUP=2294;07DA=3372;09ASU=3324;08B=33C8;08ESI=3325;08J=1F190;08L=3397;08M CUBED=3379
SQUARE DM SQUARED=3378;09=3377;08ORU=3326;07EEKAA=3308;08RA NAME HEISEI=337B;16MEIZI=337E
SQUARE ERA NAME REIWA=32FF;16SYOUWA=337C;16TAISYOU=337D;09G=32CD;08SUKUUDO=3307;08V=32CE;07FM=3399
SQUARE FOOT=23CD;09UR CORNERS=26F6;07GAL=33FF;09NMA=330F;09RON=330E;08B=3387;08HZ=3393;08IGA=3310
SQUARE GINII=3311;09RUDAA=3313;08PA=33AC;08URAMU=3318;13TON=3319;08Y=33C9;07HA=33CA;09ITU=332A
SQUARE HEKUTAARU=3336;09RUTU=3339;08G=32CC;08IRAGANA HOKA=1F200;08ON=333F;09ON=3342;10RU=3341
SQUARE HP=33CB;09A=3371;08UARADDO=3332;09IITO=3333;09RAN=3335;08Z=3390;07IMAGE OF OR EQUAL TO=2291
SQUARE IMAGE OF OR NOT EQUAL TO=22E4;15=228F;08N=33CC;09INGU=3304;09TI=3305;08U=337A;07K OHM=33C0
SQUARE KA=3384;09IRI=330B;09RATTO=330C;10ORII=330D;08B=3385;08CAL=3389;08EESU=331C;08G=338F
SQUARE KHZ=3391;08IRO=3314;11GURAMU=3315;11MEETORU=3316;11WATTO=3317;08K=33CD;08L=3398
SQUARE KM CAPITAL=33CE;11UBED=33A6;10SQUARED=33A2;09=339E;08OOPO=331E;09RUNA=331D;08PA=33AA
SQUARE KT=33CF;08UROONE=331B;10UZEIRO=331A;08V=33B8;08W=33BE;08YURII=3312
SQUARE LEFT OPEN BOX OPERATOR=2ACD;08M=33D0;08N=33D1;08OG=33D2;09ZENGE=2311;08X=33D3
SQUARE M CUBED=33A5;09OHM=33C1;10VER S SQUARED=33A8;15=33A7;09SQUARED=33A1;08A=3383;09HHA=3345
SQUARE MAIKURO=3343;10RU=3344;09NSYON=3347;09RUKU=3346;08B SMALL=33D4;09=3386;08EETORU=334D
SQUARE MEGA=334B;11TON=334C;08G=338E;08HZ=3392;08IKURON=3348;09L=33D5;09RI=3349;11BAARU=334A
SQUARE ML=3396;08M CUBED=33A3;10SQUARED=339F;09=339C;08OL=33D6;08PA=33AB;08S=33B3;08U A=3382
SQUARE MU F=338C;10G=338D;10L=3395;10M=339B;10S=33B2;10V=33B6;10W=33BC;08V MEGA=33B9;09=33B7
SQUARE MW MEGA=33BF;09=33BD;07NA=3381;09NO=3328;08F=338B;08M=339A;08OTTO=3329;08S=33B1;08V=33B5
SQUARE NW=33BB;07ONSU=3309;08OMU=330A;08RIGINAL OF OR EQUAL TO=2292;22NOT EQUAL TO=22E5;18=2290
SQUARE OV=3375;07PA AMPS=3380;09=33A9;09ASENTO=332B;10TU=332C;08C=3376;08EEZI=333B;09NIHI=3338
SQUARE PENSU=333A;09SO=3337;08F=338A;08H=33D7;08IASUTORU=332E;09KO=3330;10URU=332F;08M=33D8
SQUARE POINTO=333D;09NDO=3340;09SITION INDICATOR=2BD0;08PM=33D9;08R=33DA;08S=33B0;08V=33B4
SQUARE PW=33BA;07RAD OVER S SQUARED=33AF;17=33AE;10=33AD;08EMU=3355;09NTOGEN=3356
SQUARE RIGHT OPEN BOX OPERATOR=2ACE;09RA=3352;09TTORU=3351;08OOT=221A;08UPII=3353;09UBURU=3354
SQUARE SAIKURU=331F;09NTIIMU=3320;08ENTI=3322;11O=3323;08IRINGU=3321;08R=33DB;08V=33DC
SQUARE TARGET=1F796;08HZ=3394;08ON=3327;07UON=3306;07V OVER M=33DE;07WATTO=3357;08B=33DD
SQUARE WITH BOTTOM HALF BLACK=2B13;12CONTOURED OUTLINE=29E0;12DIAGONAL CROSSHATCH FILL=25A9
SQUARE WITH HORIZONTAL FILL=25A4;12LEFT HALF BLACK=25E7;13OWER LEFT DIAGONAL HALF BLACK=2B15
SQUARE WITH LOWER RIGHT DIAGONAL HALF BLACK=25EA;12ORTHOGONAL CROSSHATCH FILL=25A6
SQUARE WITH RIGHT HALF BLACK=25E8;12TOP HALF BLACK=2B12;12UPPER LEFT DIAGONAL HALF BLACK=25E9
SQUARE WITH UPPER LEFT TO LOWER RIGHT FILL=25A7;18RIGHT DIAGONAL HALF BLACK=2B14
SQUARE WITH UPPER RIGHT TO LOWER LEFT FILL=25A8;12VERTICAL FILL=25A5;07YAADO=334E;10RU=334F
SQUARE YUAN=3350;06D ASTERISK=29C6;08CJK UNIFIED IDEOGRAPH-4E00=1F229;339=1F22A;322D=1F22D
SQUARED CJK UNIFIED IDEOGRAPH-4E8C=1F214;32A4=1F218;30518D=1F21E;3121D=1F220;324D=1F21C;3272=1F239
SQUARED CJK UNIFIED IDEOGRAPH-53CC=1F212;32F3=1F22E;31408=1F234;3239=1F225;315B6=1F23A;318F0=1F224
SQUARED CJK UNIFIED IDEOGRAPH-591A=1F215;3229=1F217;31B57=1F211;31DE6=1F22C;31F8C=1F21D
SQUARED CJK UNIFIED IDEOGRAPH-624B=1F210;3253=1F231;3295=1F227;31307=1F22F;3255=1F228;31599=1F21B
SQUARED CJK UNIFIED IDEOGRAPH-65B0=1F21F;31620=1F219;31708=1F237;339=1F236;31E80=1F235;31F14=1F226
SQUARED CJK UNIFIED IDEOGRAPH-7121=1F21A;3151F=1F222;3233=1F238;31981=1F232;31A7A=1F233
SQUARED CJK UNIFIED IDEOGRAPH-7D42=1F221;3089E3=1F216;31CA9=1F223;31D70=1F230;30904A=1F22B
SQUARED CJK UNIFIED IDEOGRAPH-914D=1F23B;09L=1F191;09OOL=1F192;08DOT OPERATOR=22A1;08EIGHT K=1F19F
SQUARED FALLING DIAGONAL SLASH=29C5;09IVE POINT ONE=1F1A0;09OUR DOT PUNCTUATION=2E2C;13K=1F19E
SQUARED FREE=1F193;08HC=1F1A6;09DR=1F1A7;09I-RES=1F1A8;09V=1F14A;08ID=1F194;08KATAKANA DE=1F213
SQUARED KATAKANA KOKO=1F201;17SA=1F202;09EY=26BF;08LATIN CAPITAL LETTER A=1F130;29B=1F131
SQUARED LATIN CAPITAL LETTER C=1F132;29D=1F133;29E=1F134;29F=1F135;29G=1F136;29H=1F137;29I=1F138
SQUARED LATIN CAPITAL LETTER J=1F139;29K=1F13A;29L=1F13B;29M=1F13C;29N=1F13D;29O=1F13E;29P=1F13F
SQUARED LATIN CAPITAL LETTER Q=1F140;29R=1F141;29S=1F142;29T=1F143;29U=1F144;29V=1F145;29W=1F146
SQUARED LATIN CAPITAL LETTER X=1F147;29Y=1F148;29Z=1F149;14SMALL LETTER D=1F1A5;09OGICAL AND=27CE
SQUARED LOGICAL OR=27CF;10SSLESS=1F1A9;08MINUS=229F;09V=1F14B;08NEW=1F195;09G=1F196;08OK=1F197
SQUARED ONE HUNDRED TWENTY P=1F1A4;08PLUS=229E;09PV=1F14E;08RISING DIAGONAL SLASH=29C4
SQUARED SALTIRE=26DD;09D=1F14C;09ECOND SCREEN=1F19C;10VEN POINT ONE=1F1A1;09HV=1F1AA
SQUARED SIXTY P=1F1A3;09MALL CIRCLE=29C7;09OS=1F198;09QUARE=29C8;09S=1F14D;08THREE D=1F19B
SQUARED TIMES=22A0;09WENTY-TWO POINT TWO=1F1A2;10O K=1F19D;08UHD=1F1AB
SQUARED UP WITH EXCLAMATION MARK=1F199;08VOD=1F1AC;09S=1F19A;08WC=1F14F
SQUAT BLACK RIGHTWARDS ARROW=27A7;03ID=1F991;01S2=8E;023=8F;02A=86;01T=9C;02ADIUM=1F3DF
STAFF OF AESCULAPIUS=2695;09HERMES=269A;03MPED ENVELOPE=1F583;03NDING PERSON=1F9CD
STAR AND CRESCENT=262A;05EQUALS=225B;05OF DAVID=2721;06PERATOR=22C6;05WITH LEFT HALF BLACK=2BEA
STAR WITH RIGHT HALF BLACK=2BEB;04T OF GUARDED AREA=96;09HEADING=1;09PROTECTED AREA=96
START OF SELECTED AREA=86;10TRING=98;09TEXT=2;03TION=1F689;04UE OF LIBERTY=1F5FD
STEAM LOCOMOTIVE=1F682;05ING BOWL=1F35C;03NOGRAPHIC FULL STOP=2E3C;03THOSCOPE=1FA7A
STICK FIGURE LEANING LEFT=1FBC7;21RIGHT=1FBC8;13WITH ARMS RAISED=1FBC6;18DRESS=1FBC9;12=1FBC5
STOCK CHART=1F5E0;03PWATCH=23F1;02RAIGHT RULER=1F4CF;08NESS=23E4;04WBERRY=1F353
STRESS OUTLINED WHITE STAR=2729;03ICTLY EQUIVALENT TO=2263;04NG TERMINATOR=9C;02S=93
STUDIO MICROPHONE=1F399;03FFED FLATBREAD=1F959;03PA=1F6D3;02X=2;01UB=1A;03SCRIPT EIGHT=2088
SUBSCRIPT EQUALS SIGN=208C;10FIVE=2085;11OUR=2084;10LEFT PARENTHESIS=208D;10MINUS=208B;10NINE=2089
SUBSCRIPT ONE=2081;10PLUS SIGN=208A;10RIGHT PARENTHESIS=208E;10SEVEN=2087;11IX=2086;10THREE=2083
SUBSCRIPT TWO=2082;10ZERO=2080;04ET ABOVE RIGHTWARDS ARROW=2979;13SUBSET=2AD5;15PERSET=2AD3
SUBSET OF ABOVE ALMOST EQUAL TO=2AC9;16EQUALS SIGN=2AC5;16NOT EQUAL TO=2ACB;16TILDE OPERATOR=2AC7
SUBSET OF OR EQUAL TO WITH DOT ABOVE=2AC3;21=2286;10WITH NOT EQUAL TO=228A;09=2282;07WITH DOT=2ABD
SUBSET WITH MULTIPLICATION SIGN BELOW=2AC1;12PLUS SIGN BELOW=2ABF;04TITUTE=1A
SUCCEEDS ABOVE ALMOST EQUAL TO=2AB8;15EQUALS SIGN=2AB4;15NOT ALMOST EQUAL TO=2ABA;19EQUAL TO=2AB6
SUCCEEDS ABOVE SINGLE-LINE EQUALS SIGN=2AB0;27NOT EQUAL TO=2AB2;09BUT NOT EQUIVALENT TO=22E9
SUCCEEDS OR EQUAL TO=227D;15IVALENT TO=227F;09UNDER RELATION=22B1;08=227B;02MMATION BOTTOM=23B3
SUMMATION TOP=23B2;10WITH INTEGRAL=2A0B;02N BEHIND CLOUD=26C5;04WITH FACE=1F31E;03=2609
SUNDANESE AVAGRAHA=1BBA;10CONSONANT SIGN PAMINGKAL=1BA1;27NYAKRA=1BA2;29IKU=1BA3;27SANGAN MA=1BAC
SUNDANESE CONSONANT SIGN PASANGAN WA=1BAD;10DIGIT EIGHT=1BB8;16FIVE=1BB5;17OUR=1BB4;16NINE=1BB9
SUNDANESE DIGIT ONE=1BB1;16SEVEN=1BB7;17IX=1BB6;16THREE=1BB3;17WO=1BB2;16ZERO=1BB0;10LETTER A=1B83
SUNDANESE LETTER AE=1B86;17BA=1B98;18HA=1BBD;17CA=1B8E;17DA=1B93;17E=1B88;18U=1B89;17FA=1B96
SUNDANESE LETTER FINAL K=1BBE;23M=1BBF;17GA=1B8C;17HA=1BA0;17I=1B84;17JA=1B8F;17KA=1B8A;18HA=1BAE
SUNDANESE LETTER LA=1B9C;18EU=1BBC;17MA=1B99;17NA=1B94;18GA=1B8D;18YA=1B91;17O=1B87;17PA=1B95
SUNDANESE LETTER QA=1B8B;17RA=1B9B;18EU=1BBB;17SA=1B9E;18YA=1BAF;17TA=1B92;17U=1B85;17VA=1B97
SUNDANESE LETTER WA=1B9D;17XA=1B9F;17YA=1B9A;17ZA=1B90;10PUNCTUATION BINDU BA SATANGA=1CC7
SUNDANESE PUNCTUATION BINDU CAKRA=1CC3;28DA SATANGA=1CC6;28KA SATANGA=1CC5;28LEU SATANGA=1CC4
SUNDANESE PUNCTUATION BINDU PANGLONG=1CC1;29URNAMA=1CC2;28SURYA=1CC0;10SIGN PAMAAEH=1BAA
SUNDANESE SIGN PANGLAYAR=1B81;19WISAD=1B82;18YECEK=1B80;15VIRAMA=1BAB;10VOWEL SIGN PAMEPET=1BA8
SUNDANESE VOWEL SIGN PANAELAENG=1BA6;24EULEUNG=1BA9;24GHULU=1BA4;24OLONG=1BA7;24YUKU=1BA5
SUNFLOWER=1F33B;03RISE OVER MOUNTAINS=1F304;07=1F305;03SET OVER BUILDINGS=1F307;02PERHERO=1F9B8
SUPERSCRIPT EIGHT=2078;13QUALS SIGN=207C;12FIVE=2075;13OUR=2074;12LATIN SMALL LETTER I=2071
SUPERSCRIPT LATIN SMALL LETTER N=207F;13EFT PARENTHESIS=207D;12MINUS=207B;12NINE=2079;12ONE=B9
SUPERSCRIPT PLUS SIGN=207A;12RIGHT PARENTHESIS=207E;12SEVEN=2077;13IX=2076;12THREE=B3;13WO=B2
SUPERSCRIPT ZERO=2070;06ET ABOVE LEFTWARDS ARROW=297B;15SUBSET=2AD4;17PERSET=2AD6
SUPERSET BESIDE AND JOINED BY DASH WITH SUBSET=2AD8;16SUBSET=2AD7;09OF ABOVE ALMOST EQUAL TO=2ACA
SUPERSET OF ABOVE EQUALS SIGN=2AC6;18NOT EQUAL TO=2ACC;18TILDE OPERATOR=2AC8
SUPERSET OF OR EQUAL TO WITH DOT ABOVE=2AC4;23=2287;12WITH NOT EQUAL TO=228B;11=2283
SUPERSET PRECEDING SOLIDUS=27C9;09WITH DOT=2ABE;14MULTIPLICATION SIGN BELOW=2AC2
SUPERSET WITH PLUS SIGN BELOW=2AC0;05VILLAIN=1F9B9;02RFACE INTEGRAL=222F;04ER=1F3C4;02SHI=1F363
SUSPENSION RAILWAY=1F69F;01WAN=1F9A2;03SH AMPERSAND ORNAMENT=1F675;02IMMER=1F3CA;02UNG DASH=2053
SYLOTI NAGRI LETTER A=A800;20BHO=A81C;21O=A81B;20CHO=A80D;21O=A80C;20DDHO=A813;22O=A812;21HO=A817
SYLOTI NAGRI LETTER DO=A816;20E=A804;20GHO=A80A;21O=A809;20HO=A822;20I=A801;20JHO=A80F;21O=A80E
SYLOTI NAGRI LETTER KHO=A808;21O=A807;20LO=A81F;20MO=A81D;20NO=A818;20O=A805;20PHO=A81A;21O=A819
SYLOTI NAGRI LETTER RO=A81E;21RO=A820;20SO=A821;20THO=A815;21O=A814;21THO=A811;22O=A810;20U=A803
SYLOTI NAGRI POETRY MARK-1=A828;252=A829;253=A82A;254=A82B;13SIGN ALTERNATE HASANTA=A82C
SYLOTI NAGRI SIGN ANUSVARA=A80B;18DVISVARA=A802;18HASANTA=A806;13VOWEL SIGN A=A823;24E=A826
SYLOTI NAGRI VOWEL SIGN I=A824;24OO=A827;24U=A825;02MBOL FOR ACKNOWLEDGE=2406;11BACKSPACE=2408
SYMBOL FOR BELL=2407;11CANCEL=2418;13RRIAGE RETURN=240D;11DATA LINK ESCAPE=2410
SYMBOL FOR DELETE FORM TWO=2425;17=2421;13VICE CONTROL FOUR=2414;26ONE=2411;26THREE=2413;27WO=2412
SYMBOL FOR END OF MEDIUM=2419;18TEXT=2403;19RANSMISSION BLOCK=2417;30=2404;13QUIRY=2405
SYMBOL FOR ESCAPE=241B;11FILE SEPARATOR=241C;12ORM FEED=240C;11GROUP SEPARATOR=241D
SYMBOL FOR HORIZONTAL TABULATION=2409;11LINE FEED=240A;11MARKS CHAPTER=1F545
SYMBOL FOR NEGATIVE ACKNOWLEDGE=2415;13WLINE=2424;12ULL=2400;11RECORD SEPARATOR=241E
SYMBOL FOR SAMARITAN SOURCE=214F;12HIFT IN=240F;17OUT=240E;12PACE=2420;12TART OF HEADING=2401
SYMBOL FOR START OF TEXT=2402;12UBSTITUTE FORM TWO=2426;21=241A;12YNCHRONOUS IDLE=2416
SYMBOL FOR TYPE A ELECTRONICS=2B97;11UNIT SEPARATOR=241F;11VERTICAL TABULATION=240B;03METRY=232F
SYN=16;03AGOGUE=1F54D;03CHRONOUS IDLE=16;02RIAC ABBREVIATION MARK=70F;07BARREKH=74A
SYRIAC COLON SKEWED LEFT=706;20RIGHT=707;09NTRACTION=70A;07DOTTED ZLAMA ANGULAR=739
SYRIAC DOTTED ZLAMA HORIZONTAL=738;07END OF PARAGRAPH=700;08SASA ABOVE=73D;13BELOW=73E
SYRIAC FEMININE DOT=740;07HARKLEAN ASTERISCUS=70D;16METOBELUS=70C;16OBELUS=70B;08BASA ABOVE=73A
SYRIAC HBASA BELOW=73B;12-ESASA DOTTED=73C;08ORIZONTAL COLON=705;07LETTER ALAPH=710;14BETH=712
SYRIAC LETTER DALATH=715;15OTLESS DALATH RISH=716;14E=725;14FINAL SEMKATH=724;14GAMAL GARSHUNI=714
SYRIAC LETTER GAMAL=713;14HE=717;16TH=71A;14KAPH=71F;14LAMADH=720;14MALAYALAM BHA=866;24JA=861
SYRIAC LETTER MALAYALAM LLA=868;26LA=869;24NGA=860;25NA=864;26NA=865;25YA=862;24RA=867;24SSA=86A
SYRIAC LETTER MALAYALAM TTA=863;15IM=721;14NUN=722;14PE=726;16RSIAN BHETH=72D;22DHALATH=72F
SYRIAC LETTER PERSIAN GHAMAL=72E;14QAPH=729;14REVERSED PE=727;15ISH=72A;14SADHE=728;15EMKATH=723
SYRIAC LETTER SHIN=72B;15OGDIAN FE=74F;22KHAPH=74E;22ZHAIN=74D;15UPERSCRIPT ALAPH=711;14TAW=72C
SYRIAC LETTER TETH GARSHUNI=71C;18=71B;14WAW=718;14YUDH HE=71E;18=71D;14ZAIN=719;07MUSIC=749
SYRIAC OBLIQUE LINE ABOVE=747;20BELOW=748;07PTHAHA ABOVE=730;14BELOW=731;14DOTTED=732
SYRIAC QUSHSHAYA=741;07RBASA ABOVE=736;13BELOW=737;08UKKAKHA=742;08WAHA=73F
SYRIAC SUBLINEAR COLON SKEWED LEFT=709;30RIGHT=709;22=704;17FULL STOP=702
SYRIAC SUPRALINEAR COLON SKEWED LEFT=708;24=703;19FULL STOP=701;07THREE DOTS ABOVE=745;18BELOW=746
SYRIAC TWO VERTICAL DOTS ABOVE=743;25BELOW=744;07ZQAPHA ABOVE=733;14BELOW=734;14DOTTED=735
SYRINGE=1F489;00T-REX=1F996;02SHIRT=1F455;01AB=9;03LE TENNIS PADDLE AND BALL=1F3D3;02CO=1F32E
TAG AMPERSAND=E0026;05POSTROPHE=E0027;05STERISK=E002A;04CIRCUMFLEX ACCENT=E005E;05OLON=E003A
TAG COMMA=E002C;08ERCIAL AT=E0040;04DIGIT EIGHT=E0038;10FIVE=E0035;11OUR=E0034;10NINE=E0039
TAG DIGIT ONE=E0031;10SEVEN=E0037;11IX=E0036;10THREE=E0033;11WO=E0032;10ZERO=E0030
TAG DOLLAR SIGN=E0024;04EQUALS SIGN=E003D;05XCLAMATION MARK=E0021;04FULL STOP=E002E
TAG GRAVE ACCENT=E0060;06EATER-THAN SIGN=E003E;04HYPHEN-MINUS=E002D;04LATIN CAPITAL LETTER A=E0041
TAG LATIN CAPITAL LETTER B=E0042;25C=E0043;25D=E0044;25E=E0045;25F=E0046;25G=E0047;25H=E0048
TAG LATIN CAPITAL LETTER I=E0049;25J=E004A;25K=E004B;25L=E004C;25M=E004D;25N=E004E;25O=E004F
TAG LATIN CAPITAL LETTER P=E0050;25Q=E0051;25R=E0052;25S=E0053;25T=E0054;25U=E0055;25V=E0056
TAG LATIN CAPITAL LETTER W=E0057;25X=E0058;25Y=E0059;25Z=E005A;10SMALL LETTER A=E0061;23B=E0062
TAG LATIN SMALL LETTER C=E0063;23D=E0064;23E=E0065;23F=E0066;23G=E0067;23H=E0068;23I=E0069
TAG LATIN SMALL LETTER J=E006A;23K=E006B;23L=E006C;23M=E006D;23N=E006E;23O=E006F;23P=E0070
TAG LATIN SMALL LETTER Q=E0071;23R=E0072;23S=E0073;23T=E0074;23U=E0075;23V=E0076;23W=E0077
TAG LATIN SMALL LETTER X=E0078;23Y=E0079;23Z=E007A;05EFT CURLY BRACKET=E007B;09PARENTHESIS=E0028
TAG LEFT SQUARE BRACKET=E005B;06SS-THAN SIGN=E003C;05OW LINE=E005F;04NUMBER SIGN=E0023
TAG PERCENT SIGN=E0025;05LUS SIGN=E002B;04QUESTION MARK=E003F;06OTATION MARK=E0022
TAG REVERSE SOLIDUS=E005C;05IGHT CURLY BRACKET=E007D;10PARENTHESIS=E0029;10SQUARE BRACKET=E005D
TAG SEMICOLON=E003B;05OLIDUS=E002F;05PACE=E0020;04TILDE=E007E;04VERTICAL LINE=E007C
TAGALOG LETTER A=1700;16RCHAIC RA=171F;15BA=170A;15DA=1707;15GA=1704;15HA=1711;15I=1701;15KA=1703
TAGALOG LETTER LA=170E;15MA=170B;15NA=1708;16GA=1705;15PA=1709;15RA=170D;15SA=1710;15TA=1706
TAGALOG LETTER U=1702;15WA=170F;15YA=170C;08SIGN PAMUDPOD=1715;13VIRAMA=1714;08VOWEL SIGN I=1712
TAGALOG VOWEL SIGN U=1713;03BANWA LETTER A=1760;16BA=176A;16DA=1767;16GA=1764;16I=1761;16KA=1763
TAGBANWA LETTER LA=176E;16MA=176B;16NA=1768;17GA=1765;16PA=1769;16SA=1770;16TA=1766;16U=1762
TAGBANWA LETTER WA=176F;16YA=176C;09VOWEL SIGN I=1772;20U=1773;02I LE LETTER A=1963;15I=196D
TAI LE LETTER AUE=196C;14E=196B;15E=1965;15H=1966;14FA=195C;14HA=195E;14I=1964;14KA=1950;15HA=1960
TAI LE LETTER LA=1958;14MA=195B;14NA=1962;15GA=1952;14O=1969;15O=1968;14PA=1959;15HA=195A
TAI LE LETTER QA=195F;14SA=1954;14TA=1956;15HA=1957;15ONE-2=1970;193=1971;194=1972;195=1973
TAI LE LETTER TONE-6=1974;15SA=1953;16HA=1961;14U=1967;15E=196A;14VA=195D;14XA=1951;14YA=1955
TAI THAM COMBINING CRYPTOGRAMMIC DOT=1A7F;11NSONANT SIGN BA=1A5D;24FINAL NGA=1A59
TAI THAM CONSONANT SIGN HIGH RATHA OR LOW PA=1A5B;24LA TANG LAI=1A57;25OW PA=1A5A;24MA=1A5C
TAI THAM CONSONANT SIGN MEDIAL LA=1A56;31RA=1A55;24SA=1A5E;09HORA DIGIT EIGHT=1A88;20FIVE=1A85
TAI THAM HORA DIGIT FOUR=1A84;20NINE=1A89;20ONE=1A81;20SEVEN=1A87;21IX=1A86;20THREE=1A83;21WO=1A82
TAI THAM HORA DIGIT ZERO=1A80;09LETTER A=1A4B;16BA=1A37;16DA=1A2F;16EE=1A51;16GREAT SA=1A54
TAI THAM LETTER HIGH CA=1A27;22HA=1A28;21FA=1A3A;21HA=1A49;21KA=1A20;22HA=1A21;22XA=1A22;21PA=1A38
TAI THAM LETTER HIGH PHA=1A39;21RATHA=1A2E;21SA=1A48;22HA=1A46;22SA=1A47;21TA=1A32;22HA=1A33
TAI THAM LETTER HIGH YA=1A40;16I=1A4D;17I=1A4E;16LA=1A43;18E=1A53;17LA=1A4A;17OW CA=1A29;21HA=1A2B
TAI THAM LETTER LOW FA=1A3C;20HA=1A4C;20KA=1A23;21HA=1A25;21XA=1A24;20PA=1A3B;21HA=1A3D
TAI THAM LETTER LOW RATHA=1A30;20SA=1A2A;20TA=1A34;21HA=1A35;20YA=1A3F;17UE=1A44;16MA=1A3E
TAI THAM LETTER NA=1A36;17GA=1A26;17YA=1A2C;16OO=1A52;16RA=1A41;18NA=1A31;18TA=1A2D;17UE=1A42
TAI THAM LETTER U=1A4F;17U=1A50;16WA=1A45;09SIGN CAANG=1AAD;14DOKMAI=1AA5;14HANG=1AAC;15OY=1AA4
TAI THAM SIGN KAAN=1AA8;18KUU=1AA9;15EOW=1AA3;15HUEN TONE-3=1A77;254=1A78;255=1A79
TAI THAM SIGN KHUEN-LUE KARAN=1A7C;14MAI KANG LAI=1A58;22=1A74;18SAM=1A7B;18YAMOK=1AA7
TAI THAM SIGN RA HAAM=1A7A;15EVERSED ROTATED RANA=1AA6;14SAKOT=1A60;16TKAAN=1AAA;21KUU=1AAB
TAI THAM SIGN SAWAN=1AA2;14TONE-1=1A75;192=1A76;14WIANG=1AA0;19WAAK=1AA1;09THAM DIGIT EIGHT=1A98
TAI THAM THAM DIGIT FIVE=1A95;21OUR=1A94;20NINE=1A99;20ONE=1A91;20SEVEN=1A97;21IX=1A96
TAI THAM THAM DIGIT THREE=1A93;21WO=1A92;20ZERO=1A90;09VOWEL SIGN A=1A61;21A=1A63;21E=1A6F
TAI THAM VOWEL SIGN AI=1A71;20E=1A6E;20I=1A65;21I=1A66;20MAI SAT=1A62;20O=1A6B;21A ABOVE=1A73
TAI THAM VOWEL SIGN OA BELOW=1A6C;21O=1A70;21Y=1A6D;20TALL AA=1A64;21HAM AI=1A72;20U=1A69;21E=1A67
TAI THAM VOWEL SIGN UU=1A6A;22E=1A68;04VIET LETTER HIGH BO=AA9B;21CHO=AA8D;22O=AA8B;21DO=AA93
TAI VIET LETTER HIGH FO=AAA1;21GO=AA87;21HO=AAAD;21KHHO=AA85;23O=AA83;22O=AA81;21LO=AAA9;21MO=AAA3
TAI VIET LETTER HIGH NGO=AA89;22O=AA99;22YO=AA91;21O=AAAF;21PHO=AA9F;22O=AA9D;21RO=AAA7;21SO=AA8F
TAI VIET LETTER HIGH THO=AA97;22O=AA95;21VO=AAAB;21YO=AAA5;16LOW BO=AA9A;20CHO=AA8C;21O=AA8A
TAI VIET LETTER LOW DO=AA92;20FO=AAA0;20GO=AA86;20HO=AAAC;20KHHO=AA84;22O=AA82;21O=AA80;20LO=AAA8
TAI VIET LETTER LOW MO=AAA2;20NGO=AA88;21O=AA98;21YO=AA90;20O=AAAE;20PHO=AA9E;21O=AA9C;20RO=AAA6
TAI VIET LETTER LOW SO=AA8E;20THO=AA96;21O=AA94;20VO=AAAA;20YO=AAA4;09MAI KANG=AAB0;14HIT=AAB7
TAI VIET SYMBOL HO HOI=AADE;16KOI KOI=AADF;18N=AADB;16NUENG=AADC;16SAM=AADD;09TONE MAI EK=AABF
TAI VIET TONE MAI NUENG=AAC0;18SONG=AAC2;18THO=AAC1;09VOWEL AA=AAB1;16M=AABE;16N=AABD;16UE=AABB
TAI VIET VOWEL AY=AABC;15E=AAB5;15I=AAB2;16A=AAB8;15O=AAB6;15U=AAB4;16A=AABA;16E=AAB3;17A=AAB9
TAKEOUT BOX=1F961;03RI ABBREVIATION SIGN=116B9;06DIGIT EIGHT=116C8;12FIVE=116C5;13OUR=116C4
TAKRI DIGIT NINE=116C9;12ONE=116C1;12SEVEN=116C7;13IX=116C6;12THREE=116C3;13WO=116C2;12ZERO=116C0
TAKRI LETTER A=11680;14A=11681;14I=11687;14RCHAIC KHA=116B8;14U=11689;13BA=116A0;14HA=116A1
TAKRI LETTER CA=1168F;14HA=11690;13DA=1169B;14DA=11696;15HA=11697;14HA=1169C;13E=11686;13GA=1168C
TAKRI LETTER GHA=1168D;13HA=116A9;13I=11682;14I=11683;13JA=11691;14HA=11692;13KA=1168A;14HA=1168B
TAKRI LETTER LA=116A5;13MA=116A2;13NA=1169D;14GA=1168E;14NA=11698;14YA=11693;13O=11688;13PA=1169E"

end Foldline.Text.CharacterName
