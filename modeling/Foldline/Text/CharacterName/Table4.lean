/-! # Character names, part 4 of 8

The names from FLATNESS on,
in the notation of `CharacterName`. -/

namespace Foldline.Text.CharacterName

/-- Rows of names. -/
def rows4 : String := "
FLATNESS=23E5;02EUR-DE-LIS=269C;03XED BICEPS=1F4AA;02OPPY DISK=1F4BE;03RAL HEART=2766
FLOWER PLAYING CARDS=1F3B4;08UNCTUATION MARK=2055;06=2698;02USHED FACE=1F633;02Y=1FAB0
FLYING DISC=1F94F;07ENVELOPE=1F585;07SAUCER=1F6F8;01OG=1F32B;03GY=1F301;02LDER=1F5C0;02NDUE=1FAD5
FOOT=1F9B6;04PRINTS=1F463;02R ALL=2200;03CES=22A9;03K AND KNIFE WITH PLATE=1F37D;14=1F374
FORKED PARAGRAPHOS=2E10;04ING=2ADC;03M FEED=C;03TUNE COOKIE=1F960;02UNTAIN=26F2
FOUR BALLOON-SPOKED ASTERISK=2723;05CLUB-SPOKED ASTERISK=2725
FOUR CORNER ARROWS CIRCLING ANTICLOCKWISE=2B94;05DOT MARK=205B;09PUNCTUATION=2058
FOUR LEAF CLOVER=1F340;05POINTED BLACK STAR=1F7C6;05TEARDROP-SPOKED ASTERISK=2722
FOUR-PER-EM SPACE=2005;04TH ROOT=221C;02X FACE=1F98A;01RACTION NUMERATOR ONE=215F;09SLASH=2044
FRAME WITH AN X=1F5BE;11PICTURE=1F5BC;11TILES=1F5BD;02EEZING FACE=1F976;03NCH FRANC SIGN=20A3
FRENCH FRIES=1F35F;02IED SHRIMP=1F364;02OG FACE=1F438;03NT-FACING BABY CHICK=1F425
FRONT-TILTED SHADOWED WHITE RIGHTWARDS ARROW=27AC;03WN=2322;05ING FACE WITH OPEN MOUTH=1F626
FS=1C;02I=2068;01UEL PUMP=26FD;02LL BLOCK=2588;05MOON SYMBOL=1F315;10WITH FACE=1F31D
FULL OUTER JOIN=27D7;05STOP=2E;04WIDTH AMPERSAND=FF06;11POSTROPHE=FF07;11STERISK=FF0A
FULLWIDTH BROKEN BAR=FFE4;10CENT SIGN=FFE0;11IRCUMFLEX ACCENT=FF3E;11OLON=FF1A;12MMA=FF0C
FULLWIDTH COMMERCIAL AT=FF20;10DIGIT EIGHT=FF18;16FIVE=FF15;17OUR=FF14;16NINE=FF19;16ONE=FF11
FULLWIDTH DIGIT SEVEN=FF17;17IX=FF16;16THREE=FF13;17WO=FF12;16ZERO=FF10;11OLLAR SIGN=FF04
FULLWIDTH EQUALS SIGN=FF1D;11XCLAMATION MARK=FF01;10FULL STOP=FF0E;10GRAVE ACCENT=FF40
FULLWIDTH GREATER-THAN SIGN=FF1E;10HYPHEN-MINUS=FF0D;10LATIN CAPITAL LETTER A=FF21;31B=FF22
FULLWIDTH LATIN CAPITAL LETTER C=FF23;31D=FF24;31E=FF25;31F=FF26;31G=FF27;31H=FF28;31I=FF29
FULLWIDTH LATIN CAPITAL LETTER J=FF2A;31K=FF2B;31L=FF2C;31M=FF2D;31N=FF2E;31O=FF2F;31P=FF30
FULLWIDTH LATIN CAPITAL LETTER Q=FF31;31R=FF32;31S=FF33;31T=FF34;31U=FF35;31V=FF36;31W=FF37
FULLWIDTH LATIN CAPITAL LETTER X=FF38;31Y=FF39;31Z=FF3A;16SMALL LETTER A=FF41;29B=FF42;29C=FF43
FULLWIDTH LATIN SMALL LETTER D=FF44;29E=FF45;29F=FF46;29G=FF47;29H=FF48;29I=FF49;29J=FF4A;29K=FF4B
FULLWIDTH LATIN SMALL LETTER L=FF4C;29M=FF4D;29N=FF4E;29O=FF4F;29P=FF50;29Q=FF51;29R=FF52;29S=FF53
FULLWIDTH LATIN SMALL LETTER T=FF54;29U=FF55;29V=FF56;29W=FF57;29X=FF58;29Y=FF59;29Z=FF5A
FULLWIDTH LEFT CURLY BRACKET=FF5B;15PARENTHESIS=FF08;15SQUARE BRACKET=FF3B
FULLWIDTH LEFT WHITE PARENTHESIS=FF5F;12SS-THAN SIGN=FF1C;11OW LINE=FF3F;10MACRON=FFE3
FULLWIDTH NOT SIGN=FFE2;11UMBER SIGN=FF03;10PERCENT SIGN=FF05;11LUS SIGN=FF0B;11OUND SIGN=FFE1
FULLWIDTH QUESTION MARK=FF1F;12OTATION MARK=FF02;10REVERSE SOLIDUS=FF3C;11IGHT CURLY BRACKET=FF5D
FULLWIDTH RIGHT PARENTHESIS=FF09;16SQUARE BRACKET=FF3D;16WHITE PARENTHESIS=FF60;10SEMICOLON=FF1B
FULLWIDTH SOLIDUS=FF0F;10TILDE=FF5E;10VERTICAL LINE=FF5C;10WON SIGN=FFE6;10YEN SIGN=FFE5
FUNCTION APPLICATION=2061;03ERAL URN=26B1;02SE=23DB;01VS1=180B;032=180C;033=180D;034=180F
GAME DIE=1F3B2;02RLIC=1F9C4;01EAR WITH HANDLES=26EE;09OUT HUB=26ED;04=2699;02M STONE=1F48E
GEMINI=264A;02NIE=1F9DE;02OMETRIC PROPORTION=223A;09ALLY EQUAL TO=2251;17IVALENT TO=224E
GEORGIAN CAPITAL LETTER AEN=10CD;25N=10A0;24BAN=10A1;24CAN=10BA;25HAR=10BD;26IN=10B9;25IL=10BC
GEORGIAN CAPITAL LETTER DON=10A3;24EN=10A4;24GAN=10A2;25HAN=10B6;24HAE=10C0;26R=10C4;25E=10C1
GEORGIAN CAPITAL LETTER HIE=10C2;25OE=10C5;24IN=10A8;24JHAN=10BF;25IL=10BB;24KAN=10A9;25HAR=10B5
GEORGIAN CAPITAL LETTER LAS=10AA;24MAN=10AB;24NAR=10AC;24ON=10AD;24PAR=10AE;25HAR=10B4;24QAR=10B7
GEORGIAN CAPITAL LETTER RAE=10B0;24SAN=10B1;25HIN=10B8;24TAN=10A7;26R=10B2;24UN=10B3;24VIN=10A5
GEORGIAN CAPITAL LETTER WE=10C3;24XAN=10BE;24YN=10C7;24ZEN=10A6;25HAR=10AF;09LETTER AEN=10FD
GEORGIAN LETTER AIN=10FA;17N=10D0;16BAN=10D1;16CAN=10EA;17HAR=10ED;18IN=10E9;17IL=10EC;16DON=10D3
GEORGIAN LETTER ELIFI=10F8;17N=10D4;16FI=10F6;16GAN=10D2;17HAN=10E6;16HAE=10F0;18R=10F4
GEORGIAN LETTER HARD SIGN=10FE;17E=10F1;17IE=10F2;17OE=10F5;16IN=10D8;16JHAN=10EF;17IL=10EB
GEORGIAN LETTER KAN=10D9;17HAR=10E5;16LABIAL SIGN=10FF;18S=10DA;16MAN=10DB;16NAR=10DC;16ON=10DD
GEORGIAN LETTER PAR=10DE;17HAR=10E4;16QAR=10E7;16RAE=10E0;16SAN=10E1;17HIN=10E8;16TAN=10D7
GEORGIAN LETTER TAR=10E2;17URNED GAN=10F9;16UN=10E3;16VIN=10D5;16WE=10F3;16XAN=10EE;16YN=10F7
GEORGIAN LETTER ZEN=10D6;17HAR=10DF;09MTAVRULI CAPITAL LETTER AEN=1CBD;34IN=1CBA;34N=1C90
GEORGIAN MTAVRULI CAPITAL LETTER BAN=1C91;33CAN=1CAA;34HAR=1CAD;35IN=1CA9;34IL=1CAC;33DON=1C93
GEORGIAN MTAVRULI CAPITAL LETTER ELIFI=1CB8;34N=1C94;33FI=1CB6;33GAN=1C92;34HAN=1CA6;33HAE=1CB0
GEORGIAN MTAVRULI CAPITAL LETTER HAR=1CB4;36D SIGN=1CBE;34E=1CB1;34IE=1CB2;34OE=1CB5;33IN=1C98
GEORGIAN MTAVRULI CAPITAL LETTER JHAN=1CAF;34IL=1CAB;33KAN=1C99;34HAR=1CA5;33LABIAL SIGN=1CBF
GEORGIAN MTAVRULI CAPITAL LETTER LAS=1C9A;33MAN=1C9B;33NAR=1C9C;33ON=1C9D;33PAR=1C9E;34HAR=1CA4
GEORGIAN MTAVRULI CAPITAL LETTER QAR=1CA7;33RAE=1CA0;33SAN=1CA1;34HIN=1CA8;33TAN=1C97;35R=1CA2
GEORGIAN MTAVRULI CAPITAL LETTER TURNED GAN=1CB9;33UN=1CA3;33VIN=1C95;33WE=1CB3;33XAN=1CAE
GEORGIAN MTAVRULI CAPITAL LETTER YN=1CB7;33ZEN=1C96;34HAR=1C9F;09PARAGRAPH SEPARATOR=10FB
GEORGIAN SMALL LETTER AEN=2D2D;23N=2D00;22BAN=2D01;22CAN=2D1A;23HAR=2D1D;24IN=2D19;23IL=2D1C
GEORGIAN SMALL LETTER DON=2D03;22EN=2D04;22GAN=2D02;23HAN=2D16;22HAE=2D20;24R=2D24;23E=2D21
GEORGIAN SMALL LETTER HIE=2D22;23OE=2D25;22IN=2D08;22JHAN=2D1F;23IL=2D1B;22KAN=2D09;23HAR=2D15
GEORGIAN SMALL LETTER LAS=2D0A;22MAN=2D0B;22NAR=2D0C;22ON=2D0D;22PAR=2D0E;23HAR=2D14;22QAR=2D17
GEORGIAN SMALL LETTER RAE=2D10;22SAN=2D11;23HIN=2D18;22TAN=2D07;24R=2D12;22UN=2D13;22VIN=2D05
GEORGIAN SMALL LETTER WE=2D23;22XAN=2D1E;22YN=2D27;22ZEN=2D06;23HAR=2D0F;02RMAN PENNY SIGN=20B0
GETA MARK=3013;01HOST=1F47B;01IMEL SYMBOL=2137;02RAFFE FACE=1F992;03L=1F467;04S SYMBOL=1F6CA
GLAGOLITIC CAPITAL LETTER AZU=2C00;26BIG YUS=2C28;27UKY=2C01;26CAUDATE CHRIVI=2C2F;27HRIVI=2C1D
GLAGOLITIC CAPITAL LETTER DJERVI=2C0C;27OBRO=2C04;27ZELO=2C07;26FITA=2C2A;27RITU=2C17
GLAGOLITIC CAPITAL LETTER GLAGOLI=2C03;26HERU=2C18;26I=2C0B;27NITIAL IZHE=2C0A
GLAGOLITIC CAPITAL LETTER IOTATED BIG YUS=2C29;34SMALL YUS=2C27;27ZHE=2C09;29ITSA=2C2B;26KAKO=2C0D
GLAGOLITIC CAPITAL LETTER LATINATE MYSLITE=2C2E;27JUDIJE=2C0E;26MYSLITE=2C0F;26NASHI=2C10
GLAGOLITIC CAPITAL LETTER ONU=2C11;27TU=2C19;26PE=2C1A;27OKOJI=2C12;26RITSI=2C13;26SHA=2C1E
GLAGOLITIC CAPITAL LETTER SHTA=2C1B;30PIC=2C2C;27LOVO=2C14;27MALL YUS WITH TAIL=2C25;35=2C24
GLAGOLITIC CAPITAL LETTER SPIDERY HA=2C22;26TROKUTASTI A=2C2D;27SI=2C1C;27VRIDO=2C15;26UKU=2C16
GLAGOLITIC CAPITAL LETTER VEDE=2C02;26YATI=2C21;27ERI=2C20;29U=2C1F;28STU=2C05;27O=2C26;27U=2C23
GLAGOLITIC CAPITAL LETTER ZEMLJA=2C08;27HIVETE=2C06;11SMALL LETTER AZU=2C30;24BIG YUS=2C58
GLAGOLITIC SMALL LETTER BUKY=2C31;24CAUDATE CHRIVI=2C5F;25HRIVI=2C4D;24DJERVI=2C3C;25OBRO=2C34
GLAGOLITIC SMALL LETTER DZELO=2C37;24FITA=2C5A;25RITU=2C47;24GLAGOLI=2C33;24HERU=2C48;24I=2C3B
GLAGOLITIC SMALL LETTER INITIAL IZHE=2C3A;25OTATED BIG YUS=2C59;32SMALL YUS=2C57;25ZHE=2C39
GLAGOLITIC SMALL LETTER IZHITSA=2C5B;24KAKO=2C3D;24LATINATE MYSLITE=2C5E;25JUDIJE=2C3E
GLAGOLITIC SMALL LETTER MYSLITE=2C3F;24NASHI=2C40;24ONU=2C41;25TU=2C49;24PE=2C4A;25OKOJI=2C42
GLAGOLITIC SMALL LETTER RITSI=2C43;24SHA=2C4E;26TA=2C4B;28PIC=2C5C;25LOVO=2C44
GLAGOLITIC SMALL LETTER SMALL YUS WITH TAIL=2C55;33=2C54;25PIDERY HA=2C52;24TROKUTASTI A=2C5D
GLAGOLITIC SMALL LETTER TSI=2C4C;25VRIDO=2C45;24UKU=2C46;24VEDE=2C32;24YATI=2C51;25ERI=2C50
GLAGOLITIC SMALL LETTER YERU=2C4F;26STU=2C35;25O=2C56;25U=2C53;24ZEMLJA=2C38;25HIVETE=2C36
GLASS OF MILK=1F95B;02EICH STARK=29E6;02OBE WITH MERIDIANS=1F310;03VES=1F9E4;03WING STAR=1F31F
GOAL NET=1F945;03T=1F410;02GGLES=1F97D;02LFER=1F3CC;02RILLA=1F98D;02THIC LETTER AHSA=10330
GOTHIC LETTER AIHVUS=10334;14BAIRKAN=10331;14DAGS=10333;14EIS=10339;14FAIHU=10346;14GIBA=10332
GOTHIC LETTER HAGL=10337;15WAIR=10348;14IGGWS=10347;15UJA=10336;14JER=1033E;14KUSMA=1033A
GOTHIC LETTER LAGUS=1033B;14MANNA=1033C;14NAUTHS=1033D;15INE HUNDRED=1034A;18TY=10341
GOTHIC LETTER OTHAL=10349;14PAIRTHRA=10340;14QAIRTHRA=10335;14RAIDA=10342;14SAUIL=10343
GOTHIC LETTER TEIWS=10344;15HIUTH=10338;14URUS=1033F;14WINJA=10345;01RADUATION CAP=1F393
GRANTHA AU LENGTH MARK=11357;08LETTER A=11305;16A=11306;16I=11310;16U=11314;15BA=1132C;16HA=1132D
GRANTHA LETTER CA=1131A;16HA=1131B;15DA=11326;16DA=11321;17HA=11322;16HA=11327;15EE=1130F
GRANTHA LETTER GA=11317;16HA=11318;15HA=11339;15I=11307;16I=11308;15JA=1131C;16HA=1131D;15KA=11315
GRANTHA LETTER KHA=11316;15LA=11332;16LA=11333;15MA=1132E;15NA=11328;16GA=11319;16NA=11323
GRANTHA LETTER NYA=1131E;15OO=11313;15PA=1132A;16HA=1132B;15RA=11330;15SA=11338;16HA=11336
GRANTHA LETTER SSA=11337;15TA=11324;16HA=11325;16TA=1131F;17HA=11320;15U=11309;16U=1130A
GRANTHA LETTER VA=11335;16EDIC ANUSVARA=1135E;21DOUBLE ANUSVARA=1135F;16OCALIC L=1130C;24L=11361
GRANTHA LETTER VOCALIC R=1130B;24R=11360;15YA=1132F;08OM=11350;08SIGN ANUSVARA=11302
GRANTHA SIGN AVAGRAHA=1133D;13CANDRABINDU=11301;14OMBINING ANUSVARA ABOVE=11300;13NUKTA=1133C
GRANTHA SIGN PLUTA=1135D;13VIRAMA=1134D;15SARGA=11303;08VOWEL SIGN AA=1133E;20I=11348;20U=1134C
GRANTHA VOWEL SIGN EE=11347;19I=1133F;20I=11340;19OO=1134B;19U=11341;20U=11342;19VOCALIC L=11362
GRANTHA VOWEL SIGN VOCALIC LL=11363;27R=11343;28R=11344;03PES=1F347;03VE ACCENT=60
GREATER-THAN ABOVE DOUBLE-LINE EQUAL ABOVE LESS-THAN=2A8C;19LESS-THAN ABOVE DOUBLE-LINE EQUAL=2A92
GREATER-THAN ABOVE RIGHTWARDS ARROW=2978;19SIMILAR ABOVE LESS-THAN=2A90;27OR EQUAL=2A8E
GREATER-THAN ABOVE SLANTED EQUAL ABOVE LESS-THAN ABOVE SLANTED EQUAL=2A94
GREATER-THAN AND NOT APPROXIMATE=2A8A;17SINGLE-LINE NOT EQUAL TO=2A88;13BESIDE LESS-THAN=2AA5
GREATER-THAN BUT NOT EQUAL TO=2269;24IVALENT TO=22E7;13CLOSED BY CURVE ABOVE SLANTED EQUAL=2AA9
GREATER-THAN CLOSED BY CURVE=2AA7;13EQUAL TO OR LESS-THAN=22DB;13OR APPROXIMATE=2A86
GREATER-THAN OR EQUAL TO=2265;19IVALENT TO=2273;16LESS-THAN=2277
GREATER-THAN OR SLANTED EQUAL TO WITH DOT ABOVE LEFT=2A84;47=2A82;42INSIDE=2A80;32=2A7E
GREATER-THAN OVER EQUAL TO=2267;17LAPPING LESS-THAN=2AA4;13SIGN=3E;13WITH CIRCLE INSIDE=2A7A
GREATER-THAN WITH DOT=22D7;18QUESTION MARK ABOVE=2A7C;03EK ACROPHONIC ATTIC FIFTY STATERS=10151
GREEK ACROPHONIC ATTIC FIFTY TALENTS=1014A;30HOUSAND STATERS=10156;37=10147;28=10144
GREEK ACROPHONIC ATTIC FIVE HUNDRED STATERS=10153;36TALENTS=1014C;35=10145;28STATERS=1014F
GREEK ACROPHONIC ATTIC FIVE TALENTS=10148;29HOUSAND TALENTS=1014E;36=10146;27=10143
GREEK ACROPHONIC ATTIC ONE DRACHMA=10142;27HALF=10141;28UNDRED STATERS=10152;35TALENTS=1014B
GREEK ACROPHONIC ATTIC ONE QUARTER=10140;27THOUSAND STATERS=10154;36TALENTS=1014D;23TEN MNAS=10157
GREEK ACROPHONIC ATTIC TEN STATERS=10150;27TALENTS=10149;28HOUSAND STATERS=10155
GREEK ACROPHONIC CARYSTIAN FIVE HUNDRED=1016F;18YRENAIC TWO DRACHMAS=1015D
GREEK ACROPHONIC DELPHIC FIVE MNAS=10173;17EPIDAUREAN FIVE HUNDRED=1016C;28TWO DRACHMAS=1015E
GREEK ACROPHONIC EPIDAUREAN TWO=1015B;17HERAEUM ONE PLETHRON=10158;20MIONIAN FIFTY=10168
GREEK ACROPHONIC HERMIONIAN ONE=1015A;28TEN=10162;17MESSENIAN TEN=10163
GREEK ACROPHONIC NAXIAN FIVE HUNDRED=10170;17STRATIAN FIFTY MNAS=10174;17THESPIAN FIFTY=10169
GREEK ACROPHONIC THESPIAN FIVE HUNDRED=1016E;31THOUSAND=10172;26ONE HUNDRED=1016A;30THOUSAND=10171
GREEK ACROPHONIC THESPIAN ONE=10159;26TEN=10164;27HIRTY=10165;28REE HUNDRED=1016B;27WO=1015C
GREEK ACROPHONIC TROEZENIAN FIFTY ALTERNATE FORM=10167;33=10166;30VE HUNDRED=1016D;32=1015F
GREEK ACROPHONIC TROEZENIAN TEN ALTERNATE FORM=10161;31=10160;07NO TELEIA=387;07ROURA SIGN=10187
GREEK ARTABE SIGN=10186;06BETA SYMBOL=3D0;06CAPITAL DOTTED LUNATE SIGMA SYMBOL=3FE
GREEK CAPITAL KAI SYMBOL=3CF;14LETTER ALPHA WITH DASIA AND OXIA AND PROSGEGRAMMENI=1F8D;46=1F0D
GREEK CAPITAL LETTER ALPHA WITH DASIA AND PERISPOMENI AND PROSGEGRAMMENI=1F8F;53=1F0F
GREEK CAPITAL LETTER ALPHA WITH DASIA AND PROSGEGRAMMENI=1F89;42VARIA AND PROSGEGRAMMENI=1F8B
GREEK CAPITAL LETTER ALPHA WITH DASIA AND VARIA=1F0B;37=1F09;32MACRON=1FB9;32OXIA=1FBB
GREEK CAPITAL LETTER ALPHA WITH PROSGEGRAMMENI=1FBC;33SILI AND OXIA AND PROSGEGRAMMENI=1F8C
GREEK CAPITAL LETTER ALPHA WITH PSILI AND OXIA=1F0C;42PERISPOMENI AND PROSGEGRAMMENI=1F8E;53=1F0E
GREEK CAPITAL LETTER ALPHA WITH PSILI AND PROSGEGRAMMENI=1F88;42VARIA AND PROSGEGRAMMENI=1F8A
GREEK CAPITAL LETTER ALPHA WITH PSILI AND VARIA=1F0A;37=1F08;32TONOS=386;32VARIA=1FBA;33RACHY=1FB8
GREEK CAPITAL LETTER ALPHA=391;22RCHAIC SAMPI=372;21BETA=392;21CHI=3A7;21DELTA=394
GREEK CAPITAL LETTER EPSILON WITH DASIA AND OXIA=1F1D;44VARIA=1F1B;39=1F19;34OXIA=1FC9
GREEK CAPITAL LETTER EPSILON WITH PSILI AND OXIA=1F1C;44VARIA=1F1A;39=1F18;34TONOS=388
GREEK CAPITAL LETTER EPSILON WITH VARIA=1FC8;28=395
GREEK CAPITAL LETTER ETA WITH DASIA AND OXIA AND PROSGEGRAMMENI=1F9D;44=1F2D
GREEK CAPITAL LETTER ETA WITH DASIA AND PERISPOMENI AND PROSGEGRAMMENI=1F9F;51=1F2F
GREEK CAPITAL LETTER ETA WITH DASIA AND PROSGEGRAMMENI=1F99;40VARIA AND PROSGEGRAMMENI=1F9B
GREEK CAPITAL LETTER ETA WITH DASIA AND VARIA=1F2B;35=1F29;30OXIA=1FCB;30PROSGEGRAMMENI=1FCC
GREEK CAPITAL LETTER ETA WITH PSILI AND OXIA AND PROSGEGRAMMENI=1F9C;44=1F2C
GREEK CAPITAL LETTER ETA WITH PSILI AND PERISPOMENI AND PROSGEGRAMMENI=1F9E;51=1F2E
GREEK CAPITAL LETTER ETA WITH PSILI AND PROSGEGRAMMENI=1F98;40VARIA AND PROSGEGRAMMENI=1F9A
GREEK CAPITAL LETTER ETA WITH PSILI AND VARIA=1F2A;35=1F28;30TONOS=389;30VARIA=1FCA;24=397
GREEK CAPITAL LETTER GAMMA=393;21HETA=370;21IOTA WITH DASIA AND OXIA=1F3D;41PERISPOMENI=1F3F
GREEK CAPITAL LETTER IOTA WITH DASIA AND VARIA=1F3B;36=1F39;32IALYTIKA=3AA;31MACRON=1FD9
GREEK CAPITAL LETTER IOTA WITH OXIA=1FDB;31PSILI AND OXIA=1F3C;41PERISPOMENI=1F3E;41VARIA=1F3A
GREEK CAPITAL LETTER IOTA WITH PSILI=1F38;31TONOS=38A;31VARIA=1FDA;32RACHY=1FD8;25=399;21KAPPA=39A
GREEK CAPITAL LETTER LAMDA=39B;21MU=39C;21NU=39D
GREEK CAPITAL LETTER OMEGA WITH DASIA AND OXIA AND PROSGEGRAMMENI=1FAD;46=1F6D
GREEK CAPITAL LETTER OMEGA WITH DASIA AND PERISPOMENI AND PROSGEGRAMMENI=1FAF;53=1F6F
GREEK CAPITAL LETTER OMEGA WITH DASIA AND PROSGEGRAMMENI=1FA9;42VARIA AND PROSGEGRAMMENI=1FAB
GREEK CAPITAL LETTER OMEGA WITH DASIA AND VARIA=1F6B;37=1F69;32OXIA=1FFB;32PROSGEGRAMMENI=1FFC
GREEK CAPITAL LETTER OMEGA WITH PSILI AND OXIA AND PROSGEGRAMMENI=1FAC;46=1F6C
GREEK CAPITAL LETTER OMEGA WITH PSILI AND PERISPOMENI AND PROSGEGRAMMENI=1FAE;53=1F6E
GREEK CAPITAL LETTER OMEGA WITH PSILI AND PROSGEGRAMMENI=1FA8;42VARIA AND PROSGEGRAMMENI=1FAA
GREEK CAPITAL LETTER OMEGA WITH PSILI AND VARIA=1F6A;37=1F68;32TONOS=38F;32VARIA=1FFA;26=3A9
GREEK CAPITAL LETTER OMICRON WITH DASIA AND OXIA=1F4D;44VARIA=1F4B;39=1F49;34OXIA=1FF9
GREEK CAPITAL LETTER OMICRON WITH PSILI AND OXIA=1F4C;44VARIA=1F4A;39=1F48;34TONOS=38C
GREEK CAPITAL LETTER OMICRON WITH VARIA=1FF8;28=39F;21PAMPHYLIAN DIGAMMA=376;22HI=3A6;22I=3A0
GREEK CAPITAL LETTER PSI=3A8;21RHO WITH DASIA=1FEC;24=3A1;21SAN=3FA;22HO=3F7;22IGMA=3A3;21TAU=3A4
GREEK CAPITAL LETTER THETA=398;21UPSILON WITH DASIA AND OXIA=1F5D;44PERISPOMENI=1F5F;44VARIA=1F5B
GREEK CAPITAL LETTER UPSILON WITH DASIA=1F59;35IALYTIKA=3AB;34MACRON=1FE9;34OXIA=1FEB;34TONOS=38E
GREEK CAPITAL LETTER UPSILON WITH VARIA=1FEA;35RACHY=1FE8;28=3A5;21XI=39E;21YOT=37F;21ZETA=396
GREEK CAPITAL LUNATE SIGMA SYMBOL=3F9;14REVERSED DOTTED LUNATE SIGMA SYMBOL=3FF
GREEK CAPITAL REVERSED LUNATE SIGMA SYMBOL=3FD;14THETA SYMBOL=3F4;06DASIA AND OXIA=1FDE
GREEK DASIA AND PERISPOMENI=1FDF;16VARIA=1FDD;11=1FFE;07IALYTIKA AND OXIA=1FEE;20PERISPOMENI=1FC1
GREEK DIALYTIKA AND VARIA=1FED;16TONOS=385;07RACHMA SIGN=1017B;06FIVE OBOLS SIGN=10180
GREEK FOUR OBOLS SIGN=1017F;06GRAMMA SIGN=10188;06INDICTION SIGN=1018D
GREEK INSTRUMENTAL NOTATION SYMBOL-11=1D223;362=1D224;363=1D225;364=1D226;367=1D227;368=1D228
GREEK INSTRUMENTAL NOTATION SYMBOL-19=1D229;36=1D21D;3523=1D22A;364=1D22B;365=1D22C;366=1D22D
GREEK INSTRUMENTAL NOTATION SYMBOL-27=1D22E;369=1D22F;36=1D21E;3530=1D230;362=1D231;366=1D232
GREEK INSTRUMENTAL NOTATION SYMBOL-37=1D233;368=1D234;369=1D235;3540=1D236;362=1D237;363=1D238
GREEK INSTRUMENTAL NOTATION SYMBOL-45=1D239;367=1D23A;368=1D23B;369=1D23C;36=1D21F;3550=1D23D
GREEK INSTRUMENTAL NOTATION SYMBOL-51=1D23E;362=1D23F;363=1D240;364=1D241;36=1D220;357=1D221
GREEK INSTRUMENTAL NOTATION SYMBOL-8=1D222;06KAI SYMBOL=3D7;08PPA SYMBOL=3F0;07ORONIS=1FBD
GREEK KYATHOS BASE SIGN=10182;06LETTER ARCHAIC KOPPA=3D8;13DIGAMMA=3DC;13KOPPA=3DE;13SAMPI=3E0
GREEK LETTER SMALL CAPITAL GAMMA=1D26;27LAMDA=1D27;27OMEGA=AB65;27PI=1D28;28SI=1D2A;27RHO=1D29
GREEK LETTER STIGMA=3DA;13YOT=3F3;07ITRA SIGN=10183;07OWER NUMERAL SIGN=375
GREEK LUNATE EPSILON SYMBOL=3F5;13SIGMA SYMBOL=3F2;06METRETES SIGN=10181;07USICAL LEIMMA=1D245
GREEK NUMERAL SIGN=374;06OBOL SIGN=1017C;07NE HALF SIGN ALTERNATE FORM=10176;19=10175
GREEK ONE QUARTER SIGN=1018B;07UNKIA SIGN=10184;07XIA=1FFD;06PERISPOMENI=1FC0;07HI SYMBOL=3D5
GREEK PI SYMBOL=3D6;07ROSGEGRAMMENI=1FBE;07SILI AND OXIA=1FCE;16PERISPOMENI=1FCF;16VARIA=1FCD
GREEK PSILI=1FBF;06QUESTION MARK=37E;06REVERSED LUNATE EPSILON SYMBOL=3F6;07HO SYMBOL=3F1
GREEK RHO WITH STROKE SYMBOL=3FC;06SINUSOID SIGN=1018C;07MALL DOTTED LUNATE SIGMA SYMBOL=37C
GREEK SMALL LETTER ALPHA WITH DASIA AND OXIA AND YPOGEGRAMMENI=1F85;44=1F05
GREEK SMALL LETTER ALPHA WITH DASIA AND PERISPOMENI AND YPOGEGRAMMENI=1F87;51=1F07
GREEK SMALL LETTER ALPHA WITH DASIA AND VARIA AND YPOGEGRAMMENI=1F83;45=1F03;40YPOGEGRAMMENI=1F81
GREEK SMALL LETTER ALPHA WITH DASIA=1F01;30MACRON=1FB1;30OXIA AND YPOGEGRAMMENI=1FB4;34=1F71
GREEK SMALL LETTER ALPHA WITH PERISPOMENI AND YPOGEGRAMMENI=1FB7;41=1FB6
GREEK SMALL LETTER ALPHA WITH PSILI AND OXIA AND YPOGEGRAMMENI=1F84;44=1F04
GREEK SMALL LETTER ALPHA WITH PSILI AND PERISPOMENI AND YPOGEGRAMMENI=1F86;51=1F06
GREEK SMALL LETTER ALPHA WITH PSILI AND VARIA AND YPOGEGRAMMENI=1F82;45=1F02;40YPOGEGRAMMENI=1F80
GREEK SMALL LETTER ALPHA WITH PSILI=1F00;30TONOS=3AC;30VARIA AND YPOGEGRAMMENI=1FB2;35=1F70
GREEK SMALL LETTER ALPHA WITH VRACHY=1FB0;30YPOGEGRAMMENI=1FB3;24=3B1;20RCHAIC KOPPA=3D9
GREEK SMALL LETTER ARCHAIC SAMPI=373;19BETA=3B2;19CHI=3C7;19DELTA=3B4;20IGAMMA=3DD
GREEK SMALL LETTER EPSILON WITH DASIA AND OXIA=1F15;42VARIA=1F13;37=1F11;32OXIA=1F73
GREEK SMALL LETTER EPSILON WITH PSILI AND OXIA=1F14;42VARIA=1F12;37=1F10;32TONOS=3AD;32VARIA=1F72
GREEK SMALL LETTER EPSILON=3B5;20TA WITH DASIA AND OXIA AND YPOGEGRAMMENI=1F95;42=1F25
GREEK SMALL LETTER ETA WITH DASIA AND PERISPOMENI AND YPOGEGRAMMENI=1F97;49=1F27
GREEK SMALL LETTER ETA WITH DASIA AND VARIA AND YPOGEGRAMMENI=1F93;43=1F23;38YPOGEGRAMMENI=1F91
GREEK SMALL LETTER ETA WITH DASIA=1F21;28OXIA AND YPOGEGRAMMENI=1FC4;32=1F75
GREEK SMALL LETTER ETA WITH PERISPOMENI AND YPOGEGRAMMENI=1FC7;39=1FC6
GREEK SMALL LETTER ETA WITH PSILI AND OXIA AND YPOGEGRAMMENI=1F94;42=1F24
GREEK SMALL LETTER ETA WITH PSILI AND PERISPOMENI AND YPOGEGRAMMENI=1F96;49=1F26
GREEK SMALL LETTER ETA WITH PSILI AND VARIA AND YPOGEGRAMMENI=1F92;43=1F22;38YPOGEGRAMMENI=1F90
GREEK SMALL LETTER ETA WITH PSILI=1F20;28TONOS=3AE;28VARIA AND YPOGEGRAMMENI=1FC2;33=1F74
GREEK SMALL LETTER ETA WITH YPOGEGRAMMENI=1FC3;22=3B7;19FINAL SIGMA=3C2;19GAMMA=3B3;19HETA=371
GREEK SMALL LETTER IOTA WITH DASIA AND OXIA=1F35;39PERISPOMENI=1F37;39VARIA=1F33;34=1F31
GREEK SMALL LETTER IOTA WITH DIALYTIKA AND OXIA=1FD3;43PERISPOMENI=1FD7;43TONOS=390;43VARIA=1FD2
GREEK SMALL LETTER IOTA WITH DIALYTIKA=3CA;29MACRON=1FD1;29OXIA=1F77;29PERISPOMENI=1FD6
GREEK SMALL LETTER IOTA WITH PSILI AND OXIA=1F34;39PERISPOMENI=1F36;39VARIA=1F32;34=1F30
GREEK SMALL LETTER IOTA WITH TONOS=3AF;29VARIA=1F76;30RACHY=1FD0;23=3B9;19KAPPA=3BA;20OPPA=3DF
GREEK SMALL LETTER LAMDA=3BB;19MU=3BC;19NU=3BD;19OMEGA WITH DASIA AND OXIA AND YPOGEGRAMMENI=1FA5
GREEK SMALL LETTER OMEGA WITH DASIA AND OXIA=1F65;40PERISPOMENI AND YPOGEGRAMMENI=1FA7;51=1F67
GREEK SMALL LETTER OMEGA WITH DASIA AND VARIA AND YPOGEGRAMMENI=1FA3;45=1F63;40YPOGEGRAMMENI=1FA1
GREEK SMALL LETTER OMEGA WITH DASIA=1F61;30OXIA AND YPOGEGRAMMENI=1FF4;34=1F7D
GREEK SMALL LETTER OMEGA WITH PERISPOMENI AND YPOGEGRAMMENI=1FF7;41=1FF6
GREEK SMALL LETTER OMEGA WITH PSILI AND OXIA AND YPOGEGRAMMENI=1FA4;44=1F64
GREEK SMALL LETTER OMEGA WITH PSILI AND PERISPOMENI AND YPOGEGRAMMENI=1FA6;51=1F66
GREEK SMALL LETTER OMEGA WITH PSILI AND VARIA AND YPOGEGRAMMENI=1FA2;45=1F62;40YPOGEGRAMMENI=1FA0
GREEK SMALL LETTER OMEGA WITH PSILI=1F60;30TONOS=3CE;30VARIA AND YPOGEGRAMMENI=1FF2;35=1F7C
GREEK SMALL LETTER OMEGA WITH YPOGEGRAMMENI=1FF3;24=3C9;21ICRON WITH DASIA AND OXIA=1F45
GREEK SMALL LETTER OMICRON WITH DASIA AND VARIA=1F43;37=1F41;32OXIA=1F79;32PSILI AND OXIA=1F44
GREEK SMALL LETTER OMICRON WITH PSILI AND VARIA=1F42;37=1F40;32TONOS=3CC;32VARIA=1F78;26=3BF
GREEK SMALL LETTER PAMPHYLIAN DIGAMMA=377;20HI=3C6;20I=3C0;20SI=3C8;19RHO WITH DASIA=1FE5
GREEK SMALL LETTER RHO WITH PSILI=1FE4;22=3C1;19SAMPI=3E1;21N=3FB;20HO=3F8;20IGMA=3C3;20TIGMA=3DB
GREEK SMALL LETTER TAU=3C4;20HETA=3B8;19UPSILON WITH DASIA AND OXIA=1F55;42PERISPOMENI=1F57
GREEK SMALL LETTER UPSILON WITH DASIA AND VARIA=1F53;37=1F51;33IALYTIKA AND OXIA=1FE3
GREEK SMALL LETTER UPSILON WITH DIALYTIKA AND PERISPOMENI=1FE7;46TONOS=3B0;46VARIA=1FE2;41=3CB
GREEK SMALL LETTER UPSILON WITH MACRON=1FE1;32OXIA=1F7B;32PERISPOMENI=1FE6;33SILI AND OXIA=1F54
GREEK SMALL LETTER UPSILON WITH PSILI AND PERISPOMENI=1F56;42VARIA=1F52;37=1F50;32TONOS=3CD
GREEK SMALL LETTER UPSILON WITH VARIA=1F7A;33RACHY=1FE0;26=3C5;19XI=3BE;19ZETA=3B6
GREEK SMALL REVERSED DOTTED LUNATE SIGMA SYMBOL=37D;21LUNATE SIGMA SYMBOL=37B
GREEK SUBSCRIPT SMALL LETTER BETA=1D66;29CHI=1D6A;29GAMMA=1D67;29PHI=1D69;29RHO=1D68
GREEK SYMBOL TAU RHO=101A0;06TALENT SIGN=1017A;07HETA SYMBOL=3D1;08REE OBOLS SIGN=1017E
GREEK THREE QUARTERS SIGN=10178;07ONOS=384;07RYBLION BASE SIGN=10189;07WO OBOLS SIGN=1017D
GREEK TWO THIRDS SIGN=10177;06UPSILON WITH ACUTE AND HOOK SYMBOL=3D3
GREEK UPSILON WITH DIAERESIS AND HOOK SYMBOL=3D4;19HOOK SYMBOL=3D2;06VARIA=1FEF
GREEK VOCAL NOTATION SYMBOL-10=1D209;291=1D20A;292=1D20B;293=1D20C;294=1D20D;295=1D20E;296=1D20F
GREEK VOCAL NOTATION SYMBOL-17=1D210;298=1D211;299=1D212;29=1D200;2820=1D213;291=1D214;292=1D215
GREEK VOCAL NOTATION SYMBOL-23=1D216;294=1D217;29=1D201;283=1D202;284=1D203;2850=1D218;291=1D219
GREEK VOCAL NOTATION SYMBOL-52=1D21A;293=1D21B;294=1D21C;29=1D204;286=1D205;287=1D206;288=1D207
GREEK VOCAL NOTATION SYMBOL-9=1D208;06XESTES SIGN=10185;06YEAR SIGN=10179;07POGEGRAMMENI=37A
GREEK ZERO SIGN=1018A;04N APPLE=1F34F;06BOOK=1F4D7;06HEART=1F49A;06SALAD=1F957
GRIMACING FACE=1F62C;03NNING CAT FACE WITH SMILING EYES=1F638
GRINNING FACE WITH ONE LARGE AND ONE SMALL EYE=1F92A;19SMILING EYES=1F601;20TAR EYES=1F929
GRINNING FACE=1F600;02OUP MARK=2BD2;06SEPARATOR=1D;03WING HEART=1F497;01S=1D;01UARANI SIGN=20B2
GUARDSMAN=1F482;02IDE DOG=1F9AE;03TAR=1F3B8;02JARATI ABBREVIATION SIGN=AF0;09DIGIT EIGHT=AEE
GUJARATI DIGIT FIVE=AEB;16OUR=AEA;15NINE=AEF;15ONE=AE7;15SEVEN=AED;16IX=AEC;15THREE=AE9;16WO=AE8
GUJARATI DIGIT ZERO=AE6;09LETTER A=A85;17A=A86;17I=A90;17U=A94;16BA=AAC;17HA=AAD;16CA=A9A;17HA=A9B
GUJARATI LETTER DA=AA6;17DA=AA1;18HA=AA2;17HA=AA7;16E=A8F;16GA=A97;17HA=A98;16HA=AB9;16I=A87
GUJARATI LETTER II=A88;16JA=A9C;17HA=A9D;16KA=A95;17HA=A96;16LA=AB2;17LA=AB3;16MA=AAE;16NA=AA8
GUJARATI LETTER NGA=A99;17NA=AA3;17YA=A9E;16O=A93;16PA=AAA;17HA=AAB;16RA=AB0;16SA=AB8;17HA=AB6
GUJARATI LETTER SSA=AB7;16TA=AA4;17HA=AA5;17TA=A9F;18HA=AA0;16U=A89;17U=A8A;16VA=AB5
GUJARATI LETTER VOCALIC L=A8C;25L=AE1;24R=A8B;25R=AE0;16YA=AAF;16ZHA=AF9;09OM=AD0;09RUPEE SIGN=AF1
GUJARATI SIGN ANUSVARA=A82;15VAGRAHA=ABD;14CANDRABINDU=A81;15IRCLE NUKTA ABOVE=AFE;14MADDAH=AFC
GUJARATI SIGN NUKTA=ABC;14SHADDA=AFB;15UKUN=AFA;14THREE-DOT NUKTA ABOVE=AFD
GUJARATI SIGN TWO-CIRCLE NUKTA ABOVE=AFF;14VIRAMA=ACD;16SARGA=A83;09VOWEL CANDRA E=A8D;22O=A91
GUJARATI VOWEL SIGN AA=ABE;21I=AC8;21U=ACC;20CANDRA E=AC5;27O=AC9;20E=AC7;20I=ABF;21I=AC0;20O=ACB
GUJARATI VOWEL SIGN U=AC1;21U=AC2;20VOCALIC L=AE2;29L=AE3;28R=AC3;29R=AC4
GUNJALA GONDI DIGIT EIGHT=11DA8;20FIVE=11DA5;21OUR=11DA4;20NINE=11DA9;20ONE=11DA1;20SEVEN=11DA7
GUNJALA GONDI DIGIT SIX=11DA6;20THREE=11DA3;21WO=11DA2;20ZERO=11DA0;14LETTER A=11D60;22A=11D61
GUNJALA GONDI LETTER AI=11D68;22U=11D6B;21BA=11D6E;22HA=11D6F;21CA=11D7B;22HA=11D7C;21DA=11D78
GUNJALA GONDI LETTER DDA=11D82;23HA=11D83;22HA=11D79;21EE=11D67;21GA=11D76;22HA=11D77;21HA=11D87
GUNJALA GONDI LETTER I=11D62;22I=11D63;21JA=11D80;22HA=11D81;21KA=11D71;22HA=11D72;21LA=11D75
GUNJALA GONDI LETTER LLA=11D7F;21MA=11D70;21NA=11D7A;22GA=11D84;21OO=11D6A;21PA=11D85;22HA=11D86
GUNJALA GONDI LETTER RA=11D88;21SA=11D89;21TA=11D73;22HA=11D74;22TA=11D7D;23HA=11D7E;21U=11D64
GUNJALA GONDI LETTER UU=11D65;21VA=11D6D;21YA=11D6C;14OM=11D98;14SIGN ANUSVARA=11D95
GUNJALA GONDI SIGN VISARGA=11D96;14VIRAMA=11D97;15OWEL SIGN AA=11D8A;26I=11D91;26U=11D94
GUNJALA GONDI VOWEL SIGN EE=11D90;25I=11D8B;26I=11D8C;25OO=11D93;25U=11D8D;26U=11D8E
GURMUKHI ABBREVIATION SIGN=A76;10DDAK=A71;09DIGIT EIGHT=A6E;15FIVE=A6B;16OUR=A6A;15NINE=A6F
GURMUKHI DIGIT ONE=A67;15SEVEN=A6D;16IX=A6C;15THREE=A69;16WO=A68;15ZERO=A66;09EK ONKAR=A74
GURMUKHI IRI=A72;09LETTER A=A05;17A=A06;17I=A10;17U=A14;16BA=A2C;17HA=A2D;16CA=A1A;17HA=A1B
GURMUKHI LETTER DA=A26;17DA=A21;18HA=A22;17HA=A27;16EE=A0F;16FA=A5E;16GA=A17;17HA=A18;18HA=A5A
GURMUKHI LETTER HA=A39;16I=A07;17I=A08;16JA=A1C;17HA=A1D;16KA=A15;17HA=A16;18HA=A59;16LA=A32
GURMUKHI LETTER LLA=A33;16MA=A2E;16NA=A28;17GA=A19;17NA=A23;17YA=A1E;16OO=A13;16PA=A2A;17HA=A2B
GURMUKHI LETTER RA=A30;17RA=A5C;16SA=A38;17HA=A36;16TA=A24;17HA=A25;17TA=A1F;18HA=A20;16U=A09
GURMUKHI LETTER UU=A0A;16VA=A35;16YA=A2F;16ZA=A5B;09SIGN ADAK BINDI=A01;14BINDI=A02;14NUKTA=A3C
GURMUKHI SIGN UDAAT=A51;14VIRAMA=A4D;16SARGA=A03;14YAKASH=A75;09TIPPI=A70;09URA=A73
GURMUKHI VOWEL SIGN AA=A3E;21I=A48;21U=A4C;20EE=A47;20I=A3F;21I=A40;20OO=A4B;20U=A41;21U=A42
HADES=2BE1;02IR SPACE=200A;04CUT=1F487;02LFWIDTH BLACK SQUARE=FFED;10DOWNWARDS ARROW=FFEC
HALFWIDTH FORMS LIGHT VERTICAL=FFE8;10HANGUL FILLER=FFA0;17LETTER A=FFC2;25E=FFC3;24CHIEUCH=FFBA
HALFWIDTH HANGUL LETTER CIEUC=FFB8;24E=FFC7;25O=FFC6;25U=FFDA;24HIEUH=FFBE;24I=FFDC;25EUNG=FFB7
HALFWIDTH HANGUL LETTER KHIEUKH=FFBB;25IYEOK-SIOS=FFA3;30=FFA1;24MIEUM=FFB1;24NIEUN-CIEUC=FFA5
HALFWIDTH HANGUL LETTER NIEUN-HIEUH=FFA6;29=FFA4;24O=FFCC;25E=FFCF;24PHIEUPH=FFBD;25IEUP-SIOS=FFB4
HALFWIDTH HANGUL LETTER PIEUP=FFB2;24RIEUL-HIEUH=FFB0;30KIYEOK=FFAA;30MIEUM=FFAB;30PHIEUPH=FFAF
HALFWIDTH HANGUL LETTER RIEUL-PIEUP=FFAC;30SIOS=FFAD;30THIEUTH=FFAE;29=FFA9;24SIOS=FFB5
HALFWIDTH HANGUL LETTER SSANGCIEUC=FFB9;29KIYEOK=FFA2;29PIEUP=FFB3;29SIOS=FFB6;29TIKEUT=FFA8
HALFWIDTH HANGUL LETTER THIEUTH=FFBC;25IKEUT=FFA7;24U=FFD3;24WA=FFCD;26E=FFCE;25E=FFD5;26O=FFD4
HALFWIDTH HANGUL LETTER WI=FFD6;24YA=FFC4;26E=FFC5;25E=FFCB;26O=FFCA;25I=FFDB;25O=FFD2;25U=FFD7
HALFWIDTH IDEOGRAPHIC COMMA=FF64;22FULL STOP=FF61;10KATAKANA LETTER A=FF71;26E=FF74;26HA=FF8A
HALFWIDTH KATAKANA LETTER HE=FF8D;27I=FF8B;27O=FF8E;27U=FF8C;26I=FF72;26KA=FF76;27E=FF79;27I=FF77
HALFWIDTH KATAKANA LETTER KO=FF7A;27U=FF78;26MA=FF8F;27E=FF92;27I=FF90;27O=FF93;27U=FF91;26N=FF9D
HALFWIDTH KATAKANA LETTER NA=FF85;27E=FF88;27I=FF86;27O=FF89;27U=FF87;26O=FF75;26RA=FF97;27E=FF9A
HALFWIDTH KATAKANA LETTER RI=FF98;27O=FF9B;27U=FF99;26SA=FF7B;27E=FF7E;27I=FF7C;27MALL A=FF67
HALFWIDTH KATAKANA LETTER SMALL E=FF6A;32I=FF68;32O=FF6B;32TU=FF6F;32U=FF69;32YA=FF6C;33O=FF6E
HALFWIDTH KATAKANA LETTER SMALL YU=FF6D;27O=FF7F;27U=FF7D;26TA=FF80;27E=FF83;27I=FF81;27O=FF84
HALFWIDTH KATAKANA LETTER TU=FF82;26U=FF73;26WA=FF9C;27O=FF66;26YA=FF94;27O=FF96;27U=FF95
HALFWIDTH KATAKANA MIDDLE DOT=FF65;19SEMI-VOICED SOUND MARK=FF9F;19VOICED SOUND MARK=FF9E
HALFWIDTH KATAKANA-HIRAGANA PROLONGED SOUND MARK=FF70;10LEFT CORNER BRACKET=FF62
HALFWIDTH LEFTWARDS ARROW=FFE9;10RIGHT CORNER BRACKET=FF63;15WARDS ARROW=FFEB;10UPWARDS ARROW=FFEA
HALFWIDTH WHITE CIRCLE=FFEE;02MBURGER=1F354;03MER AND PICK=2692;11SICKLE=262D;11WRENCH=1F6E0
HAMMER=1F528;03SA=1FAAC;04TER FACE=1F439;02ND WITH INDEX AND MIDDLE FINGERS CROSSED=1F91E
HAND WITH INDEX FINGER AND THUMB CROSSED=1FAF0;04BAG=1F45C;06LL=1F93E;04SHAKE=1F91D
HANGUL CHOSEONG CEONGCHIEUMCHIEUCH=1155;28IEUC=1150;27SIOS=113E;28SANGCIEUC=1151;32SIOS=113F
HANGUL CHOSEONG CHIEUCH-HIEUH=1153;24KHIEUKH=1152;23=110E;19TUEUMCHIEUCH=1154;25IEUC=114E
HANGUL CHOSEONG CHITUEUMSIOS=113C;25SANGCIEUC=114F;29SIOS=113D;17IEUC-IEUNG=114D;21=110C
HANGUL CHOSEONG FILLER=115F;16HIEUH-SIOS=A97B;21=1112;16IEUNG-CHIEUCH=1149;23IEUC=1148
HANGUL CHOSEONG IEUNG-HIEUH=A977;22KIYEOK=1141;22MIEUM=1143;22PANSIOS=1146;23HIEUPH=114B
HANGUL CHOSEONG IEUNG-PIEUP=1144;22RIEUL=A976;22SIOS=1145;22THIEUTH=114A;23IKEUT=1142;21=110B
HANGUL CHOSEONG KAPYEOUNMIEUM=111D;24PHIEUPH=1157;25IEUP=112B;24RIEUL=111B;24SSANGPIEUP=112C
HANGUL CHOSEONG KHIEUKH=110F;17IYEOK-TIKEUT=115A;22=1100;16MIEUM-KIYEOK=A96F;22PIEUP=111C
HANGUL CHOSEONG MIEUM-SIOS=A971;22TIKEUT=A970;21=1106;16NIEUN-CIEUC=115C;22HIEUH=115D
HANGUL CHOSEONG NIEUN-KIYEOK=1113;22PIEUP=1116;22SIOS=115B;22TIKEUT=1115;21=1102;16PANSIOS=1140
HANGUL CHOSEONG PHIEUPH-HIEUH=A97A;24PIEUP=1156;23=1111;17IEUP-CHIEUCH=1128;23IEUC=1127
HANGUL CHOSEONG PIEUP-HIEUH=A974;22KHIEUKH=A973;23IYEOK=111E;22NIEUN=111F;22PHIEUPH=112A
HANGUL CHOSEONG PIEUP-SIOS-CIEUC=1126;27KIYEOK=1122;27PIEUP=1124;27THIEUTH=A972;28IKEUT=1123
HANGUL CHOSEONG PIEUP-SIOS=1121;23SANGSIOS=1125;22THIEUTH=1129;23IKEUT=1120;21=1107
HANGUL CHOSEONG RIEUL-CIEUC=A96D;22HIEUH=111A;22KAPYEOUNPIEUP=A96B;23HIEUKH=A96E;23IYEOK=A964
HANGUL CHOSEONG RIEUL-MIEUM=A968;22NIEUN=1118;22PIEUP=A969;22SIOS=A96C;23SANGKIYEOK=A965
HANGUL CHOSEONG RIEUL-SSANGPIEUP=A96A;27TIKEUT=A967;22TIKEUT=A966;21=1105;16SIOS-CHIEUCH=1137
HANGUL CHOSEONG SIOS-CIEUC=1136;21HIEUH=113B;21IEUNG=1135;21KHIEUKH=1138;22IYEOK=112D;21MIEUM=1131
HANGUL CHOSEONG SIOS-NIEUN=112E;21PHIEUPH=113A;22IEUP-KIYEOK=1133;26=1132;21RIEUL=1130
HANGUL CHOSEONG SIOS-SSANGSIOS=1134;21THIEUTH=1139;22IKEUT=112F;20=1109;17SANGCIEUC-HIEUH=A978
HANGUL CHOSEONG SSANGCIEUC=110D;21HIEUH=1158;21IEUNG=1147;21KIYEOK=1101;21NIEUN=1114;21PIEUP=1108
HANGUL CHOSEONG SSANGRIEUL=1119;21SIOS-PIEUP=A975;25=110A;21THIEUTH=A979;22IKEUT=1104
HANGUL CHOSEONG SSANGYEORINHIEUH=A97C;16THIEUTH=1110;17IKEUT-CIEUC=A963;23KIYEOK=1117;23MIEUM=A960
HANGUL CHOSEONG TIKEUT-PIEUP=A961;23RIEUL=115E;23SIOS=A962;22=1103;16YEORINHIEUH=1159
HANGUL CHOSEONG YESIEUNG=114C;07DOUBLE DOT TONE MARK=302F;07FILLER=3164;07JONGSEONG CHIEUCH=11BE
HANGUL JONGSEONG CIEUC-PIEUP=D7F7;23SSANGPIEUP=D7F8;22=11BD;17HIEUH-MIEUM=11F7;23NIEUN=11F5
HANGUL JONGSEONG HIEUH-PIEUP=11F8;23RIEUL=11F6;22=11C2;17IEUNG-KHIEUKH=11EF;24IYEOK=11EC
HANGUL JONGSEONG IEUNG-SSANGKIYEOK=11ED;22=11BC;17KAPYEOUNMIEUM=11E2;25PHIEUPH=11F4;26IEUP=11E6
HANGUL JONGSEONG KAPYEOUNRIEUL=D7DD;18HIEUKH=11BF;18IYEOK-CHIEUCH=11FC;24HIEUH=11FE;24KHIEUKH=11FD
HANGUL JONGSEONG KIYEOK-NIEUN=11FA;24PIEUP=11FB;24RIEUL=11C3;24SIOS-KIYEOK=11C4;28=11AA;23=11A8
HANGUL JONGSEONG MIEUM-CHIEUCH=11E0;24IEUC=D7E2;23HIEUH=11E1;23KIYEOK=11DA;23NIEUN=D7DE
HANGUL JONGSEONG MIEUM-PANSIOS=11DF;24IEUP-SIOS=D7E1;28=11DC;23RIEUL=11DB;23SIOS=11DD
HANGUL JONGSEONG MIEUM-SSANGNIEUN=D7DF;28SIOS=11DE;22=11B7;17NIEUN-CHIEUCH=D7CC;24IEUC=11AC
HANGUL JONGSEONG NIEUN-HIEUH=11AD;23KIYEOK=11C5;23PANSIOS=11C8;23RIEUL=D7CB;23SIOS=11C7
HANGUL JONGSEONG NIEUN-THIEUTH=11C9;24IKEUT=11C6;22=11AB;17PANSIOS-KAPYEOUNPIEUP=D7F4;25PIEUP=D7F3
HANGUL JONGSEONG PANSIOS=11EB;18HIEUPH-PIEUP=11F3;25SIOS=D7FA;25THIEUTH=D7FB;24=11C1
HANGUL JONGSEONG PIEUP-CHIEUCH=D7E9;24IEUC=D7E8;23HIEUH=11E5;23MIEUM=D7E5;23PHIEUPH=11E4
HANGUL JONGSEONG PIEUP-RIEUL-PHIEUPH=D7E4;28=11E3;23SIOS-TIKEUT=D7E7;27=11B9;23TIKEUT=D7E3;22=11B8
HANGUL JONGSEONG RIEUL-HIEUH=11B6;23KAPYEOUNPIEUP=11D5;24HIEUKH=11D8;24IYEOK-HIEUH=D7D6
HANGUL JONGSEONG RIEUL-KIYEOK-SIOS=11CC;29=11B0;23MIEUM-HIEUH=D7D8;29KIYEOK=11D1;29SIOS=11D2
HANGUL JONGSEONG RIEUL-MIEUM=11B1;23NIEUN=11CD;23PANSIOS=11D7;24HIEUPH=11B5;24IEUP-HIEUH=11D4
HANGUL JONGSEONG RIEUL-PIEUP-PHIEUPH=D7DA;29SIOS=11D3;29TIKEUT=D7D9;28=11B2;23SIOS=11B3
HANGUL JONGSEONG RIEUL-SSANGKIYEOK=D7D5;28SIOS=11D6;23THIEUTH=11B4;24IKEUT-HIEUH=11CF;29=11CE
HANGUL JONGSEONG RIEUL-YEORINHIEUH-HIEUH=D7DC;34=11D9;25SIEUNG=D7DB;22=11AF;17SIOS-CHIEUCH=D7F0
HANGUL JONGSEONG SIOS-CIEUC=D7EF;22HIEUH=D7F2;22KAPYEOUNPIEUP=D7EB;23IYEOK=11E7;22MIEUM=D7EA
HANGUL JONGSEONG SIOS-PANSIOS=D7EE;23IEUP=11EA;22RIEUL=11E9;22THIEUTH=D7F1;23IKEUT=11E8;21=11BA
HANGUL JONGSEONG SSANGCIEUC=D7F9;22IEUNG=11EE;22KIYEOK=11A9;22MIEUM=D7E0;22NIEUN=11FF;22PIEUP=D7E6
HANGUL JONGSEONG SSANGRIEUL-KHIEUKH=D7D7;27=11D0;22SIOS-KIYEOK=D7EC;27TIKEUT=D7ED;26=11BB
HANGUL JONGSEONG SSANGTIKEUT-PIEUP=D7CE;28=D7CD;22YESIEUNG=11EE;17THIEUTH=11C0
HANGUL JONGSEONG TIKEUT-CHIEUCH=D7D3;25IEUC=D7D2;24KIYEOK=11CA;24PIEUP=D7CF;24RIEUL=11CB
HANGUL JONGSEONG TIKEUT-SIOS-KIYEOK=D7D1;28=D7D0;24THIEUTH=D7D4;23=11AE;17YEORINHIEUH=11F9
HANGUL JONGSEONG YESIEUNG-HIEUH=D7F6;26KHIEUKH=11EF;27IYEOK=11EC;26MIEUM=D7F5;26PANSIOS=11F2
HANGUL JONGSEONG YESIEUNG-SIOS=11F1;27SANGKIYEOK=11ED;25=11F0;08UNGSEONG A-EU=11A3;19O=1176
HANGUL JUNGSEONG A-U=1177;18=1161;18E=1162;18RAEA-A=D7C5;23E=D7C6;24O=119F;23I=11A1;23U=11A0
HANGUL JUNGSEONG ARAEA=119E;17E=1166;18O-EU=117C;20O=117A;20U=117B;19=1165;18U-A=D7B9;20E=D7BB
HANGUL JUNGSEONG EU-EO=D7BA;21U=1196;20O=D7BC;20U=1195;19=1173;17FILLER=1160;17I-A=1198
HANGUL JUNGSEONG I-ARAEA=119D;19EU=119C;19I=D7C4;19O-I=D7C1;20=119A;19U=119B;19YA-O=D7BD;21=1199
HANGUL JUNGSEONG I-YAE=D7BE;20E=D7C0;21O=D7BF;20O=D7C2;20U=D7C3;18=1175;17O-E=1180;20O=117F
HANGUL JUNGSEONG O-O-I=D7B1;20=1182;19U=1183;19YA=11A6;21E=11A7;20E=1181;21O=D7B0;18=1169;18E=116C
HANGUL JUNGSEONG SSANGARAEA=11A2;17U-A=1189;20E=118A;19EO-EU=118B;19I-I=D7B6;19U=118D;19YE=118C
HANGUL JUNGSEONG U-YEO=D7B5;18=116E;17WA=116A;19E=116B;18E=1170;19O=116F;18I=1171;17YA-O=1178
HANGUL JUNGSEONG YA-U=11A4;20YO=1179;19=1163;19E=1164;18E=1168;19O-O=117D;21U=117E;21YA=11A5
HANGUL JUNGSEONG YEO=1167;18I-U=1197;19=1174;18O-A=D7B2;21E=D7B3;20EO=D7B4;20I=1188;20O=1187
HANGUL JUNGSEONG YO-YA=1184;22E=1185;21EO=1186;19=116D;18U-A=118E;21E=D7B7;20E=1190;21O=118F
HANGUL JUNGSEONG YU-I=1194;20O=D7B8;20U=1193;20YE=1192;22O=1191;19=1172;07LETTER A=314F;15E=3150
HANGUL LETTER ARAEA=318D;19E=318E;14CHIEUCH=314A;15IEUC=3148;14E=3154;15O=3153;15U=3161
HANGUL LETTER HIEUH=314E;14I=3163;15EUNG=3147;14KAPYEOUNMIEUM=3171;22PHIEUPH=3184;23IEUP=3178
HANGUL LETTER KAPYEOUNSSANGPIEUP=3179;15HIEUKH=314B;15IYEOK-SIOS=3133;20=3131;14MIEUM-PANSIOS=3170
HANGUL LETTER MIEUM-PIEUP=316E;20SIOS=316F;19=3141;14NIEUN-CIEUC=3135;20HIEUH=3136;20PANSIOS=3168
HANGUL LETTER NIEUN-SIOS=3167;20TIKEUT=3166;19=3134;14O=3157;15E=315A;14PANSIOS=317F;15HIEUPH=314D
HANGUL LETTER PIEUP-CIEUC=3176;20KIYEOK=3172;20SIOS-KIYEOK=3174;25TIKEUT=3175;24=3144
HANGUL LETTER PIEUP-THIEUTH=3177;21IKEUT=3173;19=3142;14RIEUL-HIEUH=3140;20KIYEOK-SIOS=3169
HANGUL LETTER RIEUL-KIYEOK=313A;20MIEUM=313B;20PANSIOS=316C;21HIEUPH=313F;21IEUP-SIOS=316B;25=313C
HANGUL LETTER RIEUL-SIOS=313D;20THIEUTH=313E;21IKEUT=316A;20YEORINHIEUH=316D;19=3139
HANGUL LETTER SIOS-CIEUC=317E;19KIYEOK=317A;19NIEUN=317B;19PIEUP=317D;19TIKEUT=317C;18=3145
HANGUL LETTER SSANGCIEUC=3149;19HIEUH=3185;19IEUNG=3180;19KIYEOK=3132;19NIEUN=3165;19PIEUP=3143
HANGUL LETTER SSANGSIOS=3146;19TIKEUT=3138;14THIEUTH=314C;15IKEUT=3137;14U=315C;14WA=3158;16E=3159
HANGUL LETTER WE=315E;16O=315D;15I=315F;14YA=3151;16E=3152;15E=3156;16O=3155;17RINHIEUH=3186
HANGUL LETTER YESIEUNG-PANSIOS=3183;23SIOS=3182;22=3181;15I=3162;15O-I=3189;17YA=3187;19E=3188
HANGUL LETTER YO=315B;15U-I=318C;17YE=318B;19O=318A;16=3160;07SINGLE DOT TONE MARK=302E
HANGZHOU NUMERAL EIGHT=3028;17FIVE=3025;18OUR=3024;17NINE=3029;17ONE=3021;17SEVEN=3027;18IX=3026
HANGZHOU NUMERAL TEN=3038;18HIRTY=303A;19REE=3023;18WENTY=3039;19O=3022
HANIFI ROHINGYA DIGIT EIGHT=10D38;22FIVE=10D35;23OUR=10D34;22NINE=10D39;22ONE=10D31;22SEVEN=10D37
HANIFI ROHINGYA DIGIT SIX=10D36;22THREE=10D33;23WO=10D32;22ZERO=10D30;16LETTER A=10D00;23BA=10D01
HANIFI ROHINGYA LETTER CA=10D06;23DA=10D0A;24DA=10D0B;23FA=10D09;23GA=10D12;23HA=10D07;23JA=10D05
HANIFI ROHINGYA LETTER KA=10D11;24HA=10D08;24INNA WA=10D17;29YA=10D19;23LA=10D13;23MA=10D14
HANIFI ROHINGYA LETTER NA=10D15;24GA=10D1A;24YA=10D1B;23PA=10D02;23RA=10D0C;24RA=10D0D;23SA=10D0F
HANIFI ROHINGYA LETTER SHA=10D10;23TA=10D03;24TA=10D04;23VA=10D1C;23WA=10D16;23YA=10D18;23ZA=10D0E
HANIFI ROHINGYA MARK NA KHONNA=10D23;21SAKIN=10D22;16SIGN HARBAHAY=10D24;21TAHALA=10D25;23NA=10D26
HANIFI ROHINGYA SIGN TASSI=10D27;16VOWEL A=10D1D;22E=10D20;22I=10D1E;22O=10D21;22U=10D1F
HANUNOO LETTER A=1720;15BA=172A;15DA=1727;15GA=1724;15HA=1731;15I=1721;15KA=1723;15LA=172E
HANUNOO LETTER MA=172B;15NA=1728;16GA=1725;15PA=1729;15RA=172D;15SA=1730;15TA=1726;15U=1722
HANUNOO LETTER WA=172F;15YA=172C;08SIGN PAMUDPOD=1734;08VOWEL SIGN I=1732;19U=1733
HAPPY PERSON RAISING ONE HAND=1F64B;02RD DISK=1F5B4;02TCHING CHICK=1F423;03RAN LETTER ALEPH=108E0
HATRAN LETTER AYN=108EF;14BETH=108E1;14DALETH-RESH=108E3;14GIMEL=108E2;14HE=108E4;16TH=108E7
HATRAN LETTER KAPH=108EA;14LAMEDH=108EB;14MEM=108EC;14NUN=108ED;14PE=108F0;14QOPH=108F2
HATRAN LETTER SADHE=108F1;16MEKH=108EE;15HIN=108F4;14TAW=108F5;15ETH=108E8;14WAW=108E5
HATRAN LETTER YODH=108E9;14ZAYN=108E6;07NUMBER FIVE=108FC;14ONE HUNDRED=108FF;17=108FB;14TEN=108FD
HATRAN NUMBER TWENTY=108FE;01EADPHONE=1F3A7;04STONE GRAVEYARD SYMBOL=26FC;09=1FAA6
HEAR-NO-EVIL MONKEY=1F649;04T DECORATION=1F49F;06HANDS=1FAF6;06WITH ARROW=1F498;11RIBBON=1F49D
HEART WITH TIP ON THE LEFT=1F394;03VY AMPERSAND ORNAMENT=1F674;07RROW SHAFT WIDTH ONE HALF=1F89E
HEAVY ARROW SHAFT WIDTH ONE THIRD=1F89F;27=1F89C;24TWO THIRDS=1F89D;07STERISK=2731;06BALLOT X=2718
HEAVY BLACK CURVED DOWNWARDS AND RIGHTWARDS ARROW=27A5;19UPWARDS AND RIGHTWARDS ARROW=27A6
HEAVY BLACK HEART=2764;11-FEATHERED NORTH EAST ARROW=27B9;22RIGHTWARDS ARROW=27B8
HEAVY BLACK-FEATHERED SOUTH EAST ARROW=27B7;06CHECK MARK=2714;09VRON SNOWFLAKE=2746
HEAVY CIRCLE WITH CIRCLE INSIDE=2B57;18STROKE AND TWO DOTS ABOVE=26E3;12=2B58;12D SALTIRE=2B59
HEAVY CONCAVE-POINTED BLACK RIGHTWARDS ARROW=27A8;06DASHED TRIANGLE-HEADED RIGHTWARDS ARROW=27A0
HEAVY DIVISION SIGN=2797;07OLLAR SIGN=1F4B2;08UBLE COMMA QUOTATION MARK ORNAMENT=275E
HEAVY DOUBLE TURNED COMMA QUOTATION MARK ORNAMENT=275D
HEAVY DOWNWARDS ARROW WITH EQUILATERAL ARROWHEAD=1F81B;27LARGE EQUILATERAL ARROWHEAD=1F81F
HEAVY EIGHT POINTED BLACK STAR=1F7CF;20PINWHEEL STAR=1F7D1;20RECTILINEAR BLACK STAR=2738
HEAVY EIGHT SPOKED ASTERISK=1F7BE;12TEARDROP-SPOKED PROPELLER ASTERISK=274B;07QUALS SIGN=1F7F0
HEAVY EXCLAMATION MARK ORNAMENT=2762;23SYMBOL=2757;06FIVE POINTED BLACK STAR=1F7CA
HEAVY FIVE SPOKED ASTERISK=1F7B2;07OUR BALLOON-SPOKED ASTERISK=2724;06GREEK CROSS=271A
HEAVY HEART EXCLAMATION MARK ORNAMENT=2763;07ORIZONTAL FILL=1FB97;06INTERROBANG ORNAMENT=1F679
HEAVY LARGE CIRCLE=2B55;08TIN CROSS=1F547;07EFT-POINTING ANGLE BRACKET ORNAMENT=2770
HEAVY LEFT-POINTING ANGLE QUOTATION MARK ORNAMENT=276E
HEAVY LEFTWARDS ARROW WITH EQUILATERAL ARROWHEAD=1F818;27LARGE EQUILATERAL ARROWHEAD=1F81C
HEAVY LIGATURE OPEN ET ORNAMENT=1F673;07OW DOUBLE COMMA QUOTATION MARK ORNAMENT=2760
HEAVY LOW SINGLE COMMA QUOTATION MARK ORNAMENT=275F
HEAVY LOWER RIGHT-SHADOWED WHITE RIGHTWARDS ARROW=27AD;06MINUS SIGN=2796;07ULTIPLICATION X=2716
HEAVY NORTH EAST ARROW=279A;17POINTING BUD=1F666;26VINE LEAF=1F65E;12WEST POINTING BUD=1F664
HEAVY NORTH WEST POINTING VINE LEAF=1F65C;06OPEN CENTRE CROSS=271C;07UTLINED BLACK STAR=272E
HEAVY OVAL WITH OVAL INSIDE=2B56;06PLUS SIGN=2795;06RIGHT-POINTING ANGLE BRACKET ORNAMENT=2771
HEAVY RIGHT-POINTING ANGLE QUOTATION MARK ORNAMENT=276F
HEAVY RIGHTWARDS ARROW WITH EQUILATERAL ARROWHEAD=1F81A;28LARGE EQUILATERAL ARROWHEAD=1F81E
HEAVY RIGHTWARDS ARROW=2799;07OUND-TIPPED RIGHTWARDS ARROW=279C;06SALTIRE=1F7AC
HEAVY SANS-SERIF INTERROBANG ORNAMENT=1F67B;07CRIPT LIGATURE ET ORNAMENT=1F671
HEAVY SINGLE COMMA QUOTATION MARK ORNAMENT=275C;13TURNED COMMA QUOTATION MARK ORNAMENT=275B
HEAVY SIX POINTED BLACK STAR=1F7CC;10SPOKED ASTERISK=1F7B8;07OUTH EAST ARROW=2798
HEAVY SOUTH EAST POINTING BUD=1F667;26VINE LEAF=1F65F;12WEST POINTING BUD=1F665;26VINE LEAF=1F65D
HEAVY SPARKLE=2748;06TEARDROP-SHANKED RIGHTWARDS ARROW=27BB;16POKED ASTERISK=273D
HEAVY TEARDROP-SPOKED PINWHEEL ASTERISK=2743;07RIANGLE-HEADED RIGHTWARDS ARROW=279E
HEAVY TWELVE POINTED BLACK STAR=1F7D3;21PINWHEEL STAR=1F7D4
HEAVY UPPER RIGHT-SHADOWED WHITE RIGHTWARDS ARROW=27AE
HEAVY UPWARDS ARROW WITH EQUILATERAL ARROWHEAD=1F819;25LARGE EQUILATERAL ARROWHEAD=1F81D
HEAVY VERTICAL BAR=275A;06WEDGE-TAILED RIGHTWARDS ARROW=27BD;07HITE CIRCLE=1F787
HEAVY WHITE DOWN-POINTING TRIANGLE=26DB;12SQUARE=1F791;07IDE-HEADED RIGHTWARDS ARROW=2794
HEBREW ACCENT ATNAH HAFUKH=5A2;14DARGA=5A7;15EHI=5AD;14ETNAHTA=591;14GERESH MUQDAM=59D;20=59C
HEBREW ACCENT GERSHAYIM=59E;14ILUY=5AC;14MAHAPAKH=5A4;15ERKHA KEFULA=5A6;20=5A5;15UNAH=5A3
HEBREW ACCENT OLE=5AB;14PASHTA=599;16ZER=5A1;14QADMA=5A8;16RNEY PARA=59F;14REVIA=597;14SEGOL=592
HEBREW ACCENT SHALSHELET=593;14TELISHA GEDOLA=5A0;22QETANA=5A9;16VIR=59B;15IPEHA=596
HEBREW ACCENT YERAH BEN YOMO=5AA;16TIV=59A;14ZAQEF GADOL=595;20QATAN=594;16RQA=598;15INOR=5AE
HEBREW LETTER ALEF WITH MAPIQ=FB30;24PATAH=FB2E;24QAMATS=FB2F;18=5D0;16TERNATIVE AYIN=FB20
HEBREW LETTER ALTERNATIVE PLUS SIGN=FB29;15YIN=5E2;14BET WITH DAGESH=FB31;23RAFE=FB4C;17=5D1
HEBREW LETTER DALET WITH DAGESH=FB33;19=5D3;14FINAL KAF WITH DAGESH=FB3A;23=5DA;20MEM=5DD
HEBREW LETTER FINAL NUN=5DF;20PE WITH DAGESH=FB43;22=5E3;20TSADI=5E5;14GIMEL WITH DAGESH=FB32
HEBREW LETTER GIMEL=5D2;14HE WITH MAPIQ=FB34;16=5D4;16T=5D7;14KAF WITH DAGESH=FB3B;23RAFE=FB4D
HEBREW LETTER KAF=5DB;14LAMED WITH DAGESH=FB3C;19=5DC;14MEM WITH DAGESH=FB3E;17=5DE
HEBREW LETTER NUN WITH DAGESH=FB40;17=5E0;14PE WITH DAGESH=FB44;22RAFE=FB4E;16=5E4
HEBREW LETTER QOF WITH DAGESH=FB47;17=5E7;14RESH WITH DAGESH=FB48;18=5E8;14SAMEKH WITH DAGESH=FB41
HEBREW LETTER SAMEKH=5E1;15HIN WITH DAGESH AND SHIN DOT=FB2C;36IN DOT=FB2D;30=FB49;24SHIN DOT=FB2A
HEBREW LETTER SHIN WITH SIN DOT=FB2B;18=5E9;14TAV WITH DAGESH=FB4A;17=5EA;15ET WITH DAGESH=FB38
HEBREW LETTER TET=5D8;15SADI WITH DAGESH=FB46;19=5E6;14VAV WITH DAGESH=FB35;23HOLAM=FB4B;17=5D5
HEBREW LETTER WIDE ALEF=FB21;19DALET=FB22;19FINAL MEM=FB26;19HE=FB23;19KAF=FB24;19LAMED=FB25
HEBREW LETTER WIDE RESH=FB27;19TAV=FB28;14YOD WITH DAGESH=FB39;23HIRIQ=FB1D;17=5D9
HEBREW LETTER ZAYIN WITH DAGESH=FB36;19=5D6;08IGATURE ALEF LAMED=FB4F;16YIDDISH DOUBLE VAV=5F0
HEBREW LIGATURE YIDDISH DOUBLE YOD=5F2;24VAV YOD=5F1;24YOD YOD PATAH=FB1F;07MARK LOWER DOT=5C5
HEBREW MARK MASORA CIRCLE=5AF;12UPPER DOT=5C4;07POINT DAGESH OR MAPIQ=5BC;13HATAF PATAH=5B2
HEBREW POINT HATAF QAMATS=5B3;19SEGOL=5B1;14IRIQ=5B4;14OLAM HASER FOR VAV=5BA;18=5B9
HEBREW POINT JUDEO-SPANISH VARIKA=FB1E;13METEG=5BD;13PATAH=5B7;13QAMATS QATAN=5C7;19=5B8
HEBREW POINT QUBUTS=5BB;13RAFE=5BF;13SEGOL=5B6;14HEVA=5B0;15IN DOT=5C1;14IN DOT=5C2;13TSERE=5B5
HEBREW PUNCTUATION GERESH=5F3;22SHAYIM=5F4;19MAQAF=5BE;19NUN HAFUKHA=5C6;19PASEQ=5C0
HEBREW PUNCTUATION SOF PASUQ=5C3;07YOD TRIANGLE=5EF;02DGEHOG=1F994;02LICOPTER=1F681
HELLSCHREIBER PAUSE SYMBOL=2BFF;03M SYMBOL=2388;04ET WITH WHITE CROSS=26D1
HENTAIGANA LETTER A-1=1B002;202=1B003;203=1B004;20WO=1B005;18E-1=1B001;202=1B00F;203=1B010
HENTAIGANA LETTER E-4=1B011;205=1B012;206=1B013;18HA-10=1B0A7;221=1B0A8;22=1B09E;212=1B09F
HENTAIGANA LETTER HA-3=1B0A0;214=1B0A1;215=1B0A2;216=1B0A3;217=1B0A4;218=1B0A5;219=1B0A6
HENTAIGANA LETTER HE-1=1B0B3;212=1B0B4;213=1B0B5;214=1B0B6;215=1B0B7;216=1B0B8;217=1B0B9
HENTAIGANA LETTER HI-1=1B0A9;212=1B0AA;213=1B0AB;214=1B0AC;215=1B0AD;216=1B0AE;217=1B0AF
HENTAIGANA LETTER HO-1=1B0BA;212=1B0BB;213=1B0BC;214=1B0BD;215=1B0BE;216=1B0BF;217=1B0C0;218=1B0C1
HENTAIGANA LETTER HU-1=1B0B0;212=1B0B1;213=1B0B2;18I-1=1B006;202=1B007;203=1B008;204=1B009
HENTAIGANA LETTER KA-10=1B020;221=1B021;22=1B017;212=1B018;213=1B019;214=1B01A;215=1B01B;216=1B01C
HENTAIGANA LETTER KA-7=1B01D;218=1B01E;219=1B01F;21KE=1B022;19E-1=1B032;212=1B033;213=1B034
HENTAIGANA LETTER KE-4=1B035;215=1B036;216=1B037;19I-1=1B023;212=1B024;213=1B025;214=1B026
HENTAIGANA LETTER KI-5=1B027;216=1B028;217=1B029;218=1B02A;19O-1=1B038;212=1B039;213=1B03A
HENTAIGANA LETTER KO-KI=1B03B;19U-1=1B02B;212=1B02C;213=1B02D;214=1B02E;215=1B02F;216=1B030
HENTAIGANA LETTER KU-7=1B031;18MA-1=1B0C2;212=1B0C3;213=1B0C4;214=1B0C5;215=1B0C6;216=1B0C7
HENTAIGANA LETTER MA-7=1B0C8;19E-1=1B0D4;212=1B0D5;21MA=1B0D6;19I-1=1B0C9;212=1B0CA;213=1B0CB
HENTAIGANA LETTER MI-4=1B0CC;215=1B0CD;216=1B0CE;217=1B0CF;19O-1=1B0D7;212=1B0D8;213=1B0D9
HENTAIGANA LETTER MO-4=1B0DA;215=1B0DB;216=1B0DC;19U-1=1B0D0;212=1B0D1;213=1B0D2;214=1B0D3
HENTAIGANA LETTER N-MU-MO-1=1B11D;262=1B11E;19A-1=1B07E;212=1B07F;213=1B080;214=1B081;215=1B082
HENTAIGANA LETTER NA-6=1B083;217=1B084;218=1B085;219=1B086;19E-1=1B092;212=1B093;213=1B094
HENTAIGANA LETTER NE-4=1B095;215=1B096;216=1B097;21KO=1B098;19I-1=1B087;212=1B088;213=1B089
HENTAIGANA LETTER NI-4=1B08A;215=1B08B;216=1B08C;217=1B08D;21TE=1B08E;19O-1=1B099;212=1B09A
HENTAIGANA LETTER NO-3=1B09B;214=1B09C;215=1B09D;19U-1=1B08F;212=1B090;213=1B091;18O-1=1B014
HENTAIGANA LETTER O-2=1B015;203=1B016;18RA-1=1B0ED;212=1B0EE;213=1B0EF;214=1B0F0;19E-1=1B0FE
HENTAIGANA LETTER RE-2=1B0FF;213=1B100;214=1B101;19I-1=1B0F1;212=1B0F2;213=1B0F3;214=1B0F4
HENTAIGANA LETTER RI-5=1B0F5;216=1B0F6;217=1B0F7;19O-1=1B102;212=1B103;213=1B104;214=1B105
HENTAIGANA LETTER RO-5=1B106;216=1B107;19U-1=1B0F8;212=1B0F9;213=1B0FA;214=1B0FB;215=1B0FC
HENTAIGANA LETTER RU-6=1B0FD;18SA-1=1B03C;212=1B03D;213=1B03E;214=1B03F;215=1B040;216=1B041
HENTAIGANA LETTER SA-7=1B042;218=1B043;19E-1=1B052;212=1B053;213=1B054;214=1B055;215=1B056
HENTAIGANA LETTER SI-1=1B044;212=1B045;213=1B046;214=1B047;215=1B048;216=1B049;19O-1=1B057
HENTAIGANA LETTER SO-2=1B058;213=1B059;214=1B05A;215=1B05B;216=1B05C;217=1B05D;19U-1=1B04A
HENTAIGANA LETTER SU-2=1B04B;213=1B04C;214=1B04D;215=1B04E;216=1B04F;217=1B050;218=1B051
HENTAIGANA LETTER TA-1=1B05E;212=1B05F;213=1B060;214=1B061;19E-1=1B06E;212=1B06F;213=1B070
HENTAIGANA LETTER TE-4=1B071;215=1B072;216=1B073;217=1B074;218=1B075;219=1B076;19I-1=1B062
HENTAIGANA LETTER TI-2=1B063;213=1B064;214=1B065;215=1B066;216=1B067;217=1B068;19O-1=1B077
HENTAIGANA LETTER TO-2=1B078;213=1B079;214=1B07A;215=1B07B;216=1B07C;21RA=1B07D;19U-1=1B069
HENTAIGANA LETTER TU-2=1B06A;213=1B06B;214=1B06C;21TO=1B06D;18U-1=1B00A;202=1B00B;203=1B00C
HENTAIGANA LETTER U-4=1B00D;205=1B00E;18WA-1=1B108;212=1B109;213=1B10A;214=1B10B;215=1B10C
HENTAIGANA LETTER WE-1=1B112;212=1B113;213=1B114;214=1B115;19I-1=1B10D;212=1B10E;213=1B10F
HENTAIGANA LETTER WI-4=1B110;215=1B111;19O-1=1B116;212=1B117;213=1B118;214=1B119;215=1B11A
HENTAIGANA LETTER WO-6=1B11B;217=1B11C;18YA-1=1B0DD;212=1B0DE;213=1B0DF;214=1B0E0;215=1B0E1
HENTAIGANA LETTER YA-YO=1B0E2;19O-1=1B0E7;212=1B0E8;213=1B0E9;214=1B0EA;215=1B0EB;216=1B0EC
HENTAIGANA LETTER YU-1=1B0E3;212=1B0E4;213=1B0E5;214=1B0E6;02RB=1F33F
HERMITIAN CONJUGATE MATRIX=22B9;02XAGRAM FOR ABUNDANCE=4DF6;14FTER COMPLETION=4DFE;14PPROACH=4DD2
HEXAGRAM FOR BEFORE COMPLETION=4DFF;14ITING THROUGH=4DD4;14REAKTHROUGH=4DEA;13COMING TO MEET=4DEB
HEXAGRAM FOR CONFLICT=4DC5;16TEMPLATION=4DD3;13DARKENING OF THE LIGHT=4DE3;14ECREASE=4DE8
HEXAGRAM FOR DELIVERANCE=4DE7;15VELOPMENT=4DF4;14IFFICULTY AT THE BEGINNING=4DC2;15SPERSION=4DFA
HEXAGRAM FOR DURATION=4DDF;13ENTHUSIASM=4DCF;13FELLOWSHIP=4DCC;14OLLOWING=4DD0
HEXAGRAM FOR GATHERING TOGETHER=4DEC;14RACE=4DD5;15EAT POSSESSION=4DCD;21WER=4DE1
HEXAGRAM FOR GREAT PREPONDERANCE=4DDB;19TAMING=4DD9;13HOLDING TOGETHER=4DC7;13INCREASE=4DE9
HEXAGRAM FOR INFLUENCE=4DDE;15NER TRUTH=4DFC;16OCENCE=4DD8;13LIMITATION=4DFB;13MODESTY=4DCE
HEXAGRAM FOR MOUTH CORNERS=4DDA;13OBSTRUCTION=4DE6;14PPOSITION=4DE5;16RESSION=4DEE;13PEACE=4DCA
HEXAGRAM FOR PROGRESS=4DE2;14USHING UPWARD=4DED;13RETREAT=4DE0;16URN=4DD7;15VOLUTION=4DF0
HEXAGRAM FOR SMALL PREPONDERANCE=4DFD;19TAMING=4DC8;14PLITTING APART=4DD6;14TANDSTILL=4DCB
HEXAGRAM FOR THE ABYSMAL WATER=4DDC;18RMY=4DC6;19OUSING THUNDER=4DF2;17CAULDRON=4DF1
HEXAGRAM FOR THE CLINGING FIRE=4DDD;18REATIVE HEAVEN=4DC0;17FAMILY=4DE4;17GENTLE WIND=4DF8
HEXAGRAM FOR THE JOYOUS LAKE=4DF9;17KEEPING STILL MOUNTAIN=4DF3;17MARRYING MAIDEN=4DF5
HEXAGRAM FOR THE RECEPTIVE EARTH=4DC1;17WANDERER=4DF7;18ELL=4DEF;14READING=4DC9;13WAITING=4DC4
HEXAGRAM FOR WORK ON THE DECAYED=4DD1;13YOUTHFUL FOLLY=4DC3;01IBISCUS=1F33A
HIGH BRIGHTNESS SYMBOL=1F506;05OCTET PRESET=81;05VOLTAGE SIGN=26A1;04-HEELED SHOE=1F460
HIGH-SPEED TRAIN WITH BULLET NOSE=1F685;16=1F684;02KING BOOT=1F97E;02NDU TEMPLE=1F6D5
HIPPOPOTAMUS=1F99B;02RAGANA DIGRAPH YORI=309F;09ITERATION MARK=309D;09LETTER A=3042
HIRAGANA LETTER ARCHAIC WU=1B11F;24YE=1B001;16BA=3070;17E=3079;17I=3073;17O=307C;17U=3076
HIRAGANA LETTER DA=3060;17E=3067;17I=3062;17O=3069;17U=3065;16E=3048;16GA=304C;17E=3052;17I=304E
HIRAGANA LETTER GO=3054;17U=3050;16HA=306F;17E=3078;17I=3072;17O=307B;17U=3075;16I=3044;16KA=304B
HIRAGANA LETTER KE=3051;17I=304D;17O=3053;17U=304F;16MA=307E;17E=3081;17I=307F;17O=3082;17U=3080
HIRAGANA LETTER N=3093;17A=306A;17E=306D;17I=306B;17O=306E;17U=306C;16O=304A;16PA=3071;17E=307A
HIRAGANA LETTER PI=3074;17O=307D;17U=3077;16RA=3089;17E=308C;17I=308A;17O=308D;17U=308B;16SA=3055
HIRAGANA LETTER SE=305B;17I=3057;17MALL A=3041;22E=3047;22I=3043;22KA=3095;23E=3096;22O=3049
HIRAGANA LETTER SMALL TU=3063;22U=3045;22WA=308E;23E=1B151;23I=1B150;23O=1B152;22YA=3083;23O=3087
HIRAGANA LETTER SMALL YU=3085;17O=305D;17U=3059;16TA=305F;17E=3066;17I=3061;17O=3068;17U=3064
HIRAGANA LETTER U=3046;16VU=3094;16WA=308F;17E=3091;17I=3090;17O=3092;16YA=3084;17O=3088;17U=3086
HIRAGANA LETTER ZA=3056;17E=305C;17I=3058;17O=305E;17U=305A;09VOICED ITERATION MARK=309E
HISTORIC SITE=26EC;01OCHO=1F52A;02LE=1F573;03LOW QUILT SQUARE ORNAMENT IN BLACK SQUARE=1F669
HOLLOW QUILT SQUARE ORNAMENT=1F668;02MOTHETIC=223B;02NEY POT=1F36F;05BEE=1F41D;02OK=1FA9D;02P=81
HORIZONTAL BAR=2015;12LACK HEXAGON=2B23;17OCTAGON=2BC3;11ELLIPSIS=2026;11LINE EXTENSION=23AF
HORIZONTAL MALE WITH STROKE SIGN=26A9;11ONE EIGHTH BLOCK-1358=1FB81;282=1FB76;283=1FB77;284=1FB78
HORIZONTAL ONE EIGHTH BLOCK-5=1FB79;286=1FB7A;287=1FB7B;11SCAN LINE-1=23BA;213=23BB;217=23BC
HORIZONTAL SCAN LINE-9=23BD;11TAB KEY=2B7E;14ULATION SET=88;22WITH JUSTIFICATION=89;21=9
HORIZONTAL TRAFFIC LIGHT=1F6A5;03SE FACE=1F434;06RACING=1F3C7;05=1F40E;02SPITAL=1F3E5
HOT BEVERAGE=2615;04DOG=1F32D;04PEPPER=1F336;04SPRINGS=2668;03EL=1F3E8
HOURGLASS WITH FLOWING SAND=23F3;09=231B;03SE BUILDING=1F3E0;14S=1F3D8;06WITH GARDEN=1F3E1;05=2302
HRYVNIA SIGN=20B4;01T=9;02J=89;02S=88;01UGGING FACE=1F917;02NDRED POINTS SYMBOL=1F4AF
HUSHED FACE=1F62F;02T=1F6D6;01YGIEA=2BDA;02PHEN BULLET=2043;07WITH DIAERESIS=2E1A;06-MINUS=2D
HYPHEN=2010;06ATION POINT=2027;03ODIASTOLE=2E12;02STERESIS SYMBOL=238E
I LOVE YOU HAND SIGN=1F91F;01CE CREAM=1F368;05UBE=1F9CA;04HOCKEY STICK AND PUCK=1F3D2;04SKATE=26F8
IDENTICAL TO AND SLANTED PARALLEL=29E5;12=2261;10WITH DOT ABOVE=2A67;06FICATION CARD=1FAAA
IDEOGRAPHIC ANNOTATION BOTTOM MARK=3198;23EARTH MARK=319E;23FIRST MARK=3199;24OUR MARK=3195
IDEOGRAPHIC ANNOTATION FOURTH MARK=319C;23HEAVEN MARK=319D;23LINKING MARK=3190;23MAN MARK=319F
IDEOGRAPHIC ANNOTATION MIDDLE MARK=3197;23ONE MARK=3192;23REVERSE MARK=3191;23SECOND MARK=319A
IDEOGRAPHIC ANNOTATION THIRD MARK=319B;25REE MARK=3194;24OP MARK=3196;24WO MARK=3193
IDEOGRAPHIC CLOSING MARK=3006;13OMMA=3001;12DEPARTING TONE MARK=302C
IDEOGRAPHIC DESCRIPTION CHARACTER ABOVE TO BELOW=2FF1;43MIDDLE AND BELOW=2FF3;34FULL SURROUND=2FF4
IDEOGRAPHIC DESCRIPTION CHARACTER LEFT TO MIDDLE AND RIGHT=2FF2;42RIGHT=2FF0;34OVERLAID=2FFB
IDEOGRAPHIC DESCRIPTION CHARACTER SURROUND FROM ABOVE=2FF5;48BELOW=2FF6;48LEFT=2FF7
IDEOGRAPHIC DESCRIPTION CHARACTER SURROUND FROM LOWER LEFT=2FFA;48UPPER LEFT=2FF8;54RIGHT=2FF9
IDEOGRAPHIC ENTERING TONE MARK=302D;12FULL STOP=3002;12HALF FILL SPACE=303F;12ITERATION MARK=3005
IDEOGRAPHIC LEVEL TONE MARK=302A;12NUMBER ZERO=3007;12RISING TONE MARK=302B;12SPACE=3000
IDEOGRAPHIC TALLY MARK FIVE=1D376;24OUR=1D375;23ONE=1D372;23THREE=1D374;24WO=1D373
IDEOGRAPHIC TELEGRAPH LINE FEED SEPARATOR SYMBOL=3037;22SYMBOL FOR APRIL=32C3;34UGUST=32C7
IDEOGRAPHIC TELEGRAPH SYMBOL FOR DAY EIGHT=33E7;42EEN=33F1;38LEVEN=33EA;37FIFTEEN=33EE;39VE=33E4
IDEOGRAPHIC TELEGRAPH SYMBOL FOR DAY FOUR=33E3;41TEEN=33ED;37NINE=33E8;41TEEN=33F2;37ONE=33E0
IDEOGRAPHIC TELEGRAPH SYMBOL FOR DAY SEVEN=33E6;42TEEN=33F0;38IX=33E5;40TEEN=33EF;37TEN=33E9
IDEOGRAPHIC TELEGRAPH SYMBOL FOR DAY THIRTEEN=33EC;42Y-ONE=33FE;43=33FD;39REE=33E2;38WELVE=33EB
IDEOGRAPHIC TELEGRAPH SYMBOL FOR DAY TWENTY-EIGHT=33FB;44FIVE=33F8;45OUR=33F7;44NINE=33FC
IDEOGRAPHIC TELEGRAPH SYMBOL FOR DAY TWENTY-ONE=33F4;44SEVEN=33FA;45IX=33F9;44THREE=33F6;45WO=33F5
IDEOGRAPHIC TELEGRAPH SYMBOL FOR DAY TWENTY=33F3;39O=33E1;34ECEMBER=32CB;33FEBRUARY=32C1
IDEOGRAPHIC TELEGRAPH SYMBOL FOR HOUR EIGHT=3360;43EEN=336A;39LEVEN=3363;38FIFTEEN=3367;40VE=335D
IDEOGRAPHIC TELEGRAPH SYMBOL FOR HOUR FOUR=335C;42TEEN=3366;38NINE=3361;42TEEN=336B;38ONE=3359
IDEOGRAPHIC TELEGRAPH SYMBOL FOR HOUR SEVEN=335F;43TEEN=3369;39IX=335E;41TEEN=3368;38TEN=3362
IDEOGRAPHIC TELEGRAPH SYMBOL FOR HOUR THIRTEEN=3365;40REE=335B;39WELVE=3364;41NTY-FOUR=3370
IDEOGRAPHIC TELEGRAPH SYMBOL FOR HOUR TWENTY-ONE=336D;45THREE=336F;46WO=336E;44=336C;40O=335A
IDEOGRAPHIC TELEGRAPH SYMBOL FOR HOUR ZERO=3358;33JANUARY=32C0;34ULY=32C6;35NE=32C5;33MARCH=32C2
IDEOGRAPHIC TELEGRAPH SYMBOL FOR MAY=32C4;33NOVEMBER=32CA;33OCTOBER=32C9;33SEPTEMBER=32C8
IDEOGRAPHIC VARIATION INDICATOR=303E;01MAGE OF OR APPROXIMATELY EQUAL TO=2253;08=22B7;02P=1F47F
IMPERIAL ARAMAIC LETTER ALEPH=10840;25YIN=1084F;24BETH=10841;24DALETH=10843;24GIMEL=10842
IMPERIAL ARAMAIC LETTER HE=10844;26TH=10847;24KAPH=1084A;24LAMEDH=1084B;24MEM=1084C;24NUN=1084D
IMPERIAL ARAMAIC LETTER PE=10850;24QOPH=10852;24RESH=10853;24SADHE=10851;26MEKH=1084E;25HIN=10854
IMPERIAL ARAMAIC LETTER TAW=10855;25ETH=10848;24WAW=10845;24YODH=10849;24ZAYIN=10846
IMPERIAL ARAMAIC NUMBER ONE HUNDRED=1085D;28THOUSAND=1085E;27=10858;24TEN THOUSAND=1085F;27=1085B
IMPERIAL ARAMAIC NUMBER THREE=1085A;25WENTY=1085C;26O=10859;17SECTION SIGN=10857;01NBOX TRAY=1F4E5
INCOMING ENVELOPE=1F4E8;05PLETE INFINITY=29DC;03REASE FONT SIZE SYMBOL=1F5DA;08S AS=29E1
INCREMENT=2206;02D=84;03EX POINTING AT THE VIEWER=1FAF5;05=84;03IAN RUPEE SIGN=20B9
INDIC SIYAQ ALTERNATE LAKH MARK=1ECB4;12FRACTION ONE HALF=1ECAE;25QUARTER=1ECAD
INDIC SIYAQ FRACTION THREE QUARTERS=1ECAF;12LAKH MARK=1ECA0;12NUMBER ALTERNATE ONE=1ECB1
INDIC SIYAQ NUMBER ALTERNATE TEN THOUSAND=1ECB3;30WO=1ECB2;19EIGHT HUNDRED=1EC8A;25THOUSAND=1EC93
INDIC SIYAQ NUMBER EIGHT=1EC78;24Y THOUSAND=1EC9C;25=1EC81;19FIFTY THOUSAND=1EC99;24=1EC7E
INDIC SIYAQ NUMBER FIVE HUNDRED=1EC87;24THOUSAND=1EC90;23=1EC75;20ORTY THOUSAND=1EC98;24=1EC7D
INDIC SIYAQ NUMBER FOUR HUNDRED=1EC86;24THOUSAND=1EC8F;23=1EC74;19KAROR=1ECA1;24AN=1ECA2
INDIC SIYAQ NUMBER LAKH=1EC9E;23AN=1EC9F;19NINE HUNDRED=1EC8B;24THOUSAND=1EC94;23=1EC79
INDIC SIYAQ NUMBER NINETY THOUSAND=1EC9D;25=1EC82;19ONE HUNDRED=1EC83;23THOUSAND=1EC8C;22=1EC71
INDIC SIYAQ NUMBER PREFIXED EIGHT=1ECAA;28FIVE=1ECA7;29OUR=1ECA6;28NINE=1ECAB;28ONE=1ECA3
INDIC SIYAQ NUMBER PREFIXED SEVEN=1ECA9;29IX=1ECA8;28THREE=1ECA5;29WO=1ECA4;19SEVEN HUNDRED=1EC89
INDIC SIYAQ NUMBER SEVEN THOUSAND=1EC92;24=1EC77;24TY THOUSAND=1EC9B;26=1EC80;20IX HUNDRED=1EC88
INDIC SIYAQ NUMBER SIX THOUSAND=1EC91;22=1EC76;22TY THOUSAND=1EC9A;24=1EC7F;19TEN THOUSAND=1EC95
INDIC SIYAQ NUMBER TEN=1EC7A;20HIRTY THOUSAND=1EC97;25=1EC7C;21REE HUNDRED=1EC85;25THOUSAND=1EC8E
INDIC SIYAQ NUMBER THREE=1EC73;20WENTY THOUSAND=1EC96;25=1EC7B;21O HUNDRED=1EC84;23THOUSAND=1EC8D
INDIC SIYAQ NUMBER TWO=1EC72;12PLACEHOLDER=1ECAC;12RUPEE MARK=1ECB0
INFINITY NEGATED WITH VERTICAL BAR=29DE;08=221E;03ORMATION DESK PERSON=1F481;12SEPARATOR FOUR=1C
INFORMATION SEPARATOR ONE=1F;22THREE=1D;23WO=1E;13OURCE=2139;02HIBIT ARABIC FORM SHAPING=206C
INHIBIT SYMMETRIC SWAPPING=206A;02PUT SYMBOL FOR LATIN CAPITAL LETTERS=1F520;23LETTERS=1F524
INPUT SYMBOL FOR LATIN SMALL LETTERS=1F521;17NUMBERS=1F522;17SYMBOLS=1F523
INSCRIPTIONAL PAHLAVI LETTER ALEPH=10B60;29BETH=10B61;29DALETH=10B63;29GIMEL=10B62;29HE=10B64
INSCRIPTIONAL PAHLAVI LETTER HETH=10B67;29KAPH=10B6A;29LAMEDH=10B6B;29MEM-QOPH=10B6C;29NUN=10B6D
INSCRIPTIONAL PAHLAVI LETTER PE=10B6F;29SADHE=10B70;31MEKH=10B6E;30HIN=10B71;29TAW=10B72
INSCRIPTIONAL PAHLAVI LETTER TETH=10B68;29WAW-AYIN-RESH=10B65;29YODH=10B69;29ZAYIN=10B66
INSCRIPTIONAL PAHLAVI NUMBER FOUR=10B7B;29ONE HUNDRED=10B7E;33THOUSAND=10B7F;32=10B78;29TEN=10B7C
INSCRIPTIONAL PAHLAVI NUMBER THREE=10B7A;30WENTY=10B7D;31O=10B79;16RTHIAN LETTER ALEPH=10B40
INSCRIPTIONAL PARTHIAN LETTER AYIN=10B4F;30BETH=10B41;30DALETH=10B43;30GIMEL=10B42;30HE=10B44
INSCRIPTIONAL PARTHIAN LETTER HETH=10B47;30KAPH=10B4A;30LAMEDH=10B4B;30MEM=10B4C;30NUN=10B4D
INSCRIPTIONAL PARTHIAN LETTER PE=10B50;30QOPH=10B52;30RESH=10B53;30SADHE=10B51;32MEKH=10B4E
INSCRIPTIONAL PARTHIAN LETTER SHIN=10B54;30TAW=10B55;31ETH=10B48;30WAW=10B45;30YODH=10B49
INSCRIPTIONAL PARTHIAN LETTER ZAYIN=10B46;23NUMBER FOUR=10B5B;30ONE HUNDRED=10B5E;34THOUSAND=10B5F
INSCRIPTIONAL PARTHIAN NUMBER ONE=10B58;30TEN=10B5C;31HREE=10B5A;31WENTY=10B5D;32O=10B59
INSERTION SYMBOL=2380;02TEGRAL AROUND A POINT OPERATOR=2A15;10VERAGE WITH SLASH=2A0F
INTEGRAL EXTENSION=23AE;09WITH DOUBLE STROKE=2A0E;14INTERSECTION=2A19
INTEGRAL WITH LEFTWARDS ARROW WITH HOOK=2A17;14OVERBAR=2A1B;14TIMES SIGN=2A18;14UNDERBAR=2A1C
INTEGRAL WITH UNION=2A1A;08=222B;04RCALATE=22BA;05IOR PRODUCT=2A3C;05LINEAR ANNOTATION ANCHOR=FFF9
INTERLINEAR ANNOTATION SEPARATOR=FFFA;23TERMINATOR=FFFB;06OCKED FEMALE AND MALE SIGN=26A4
INTERROBANG=203D;05SECTION ABOVE BAR ABOVE UNION=2A49;19UNION=2A47
INTERSECTION BESIDE AND JOINED WITH INTERSECTION=2A4B;13WITH DOT=2A40;18LOGICAL AND=2A44
INTERSECTION WITH OVERBAR=2A43;12=2229;02VERSE BULLET=25D8;08CHECK MARK=1FBB1
INVERSE CHECKER BOARD FILL=1FB96;08DOWNWARDS ARROW WITH TIP LEFTWARDS=1FBB4;08MEDIUM SHADE=1FB90
INVERSE WHITE CIRCLE=25D9;05TED EXCLAMATION MARK=A1;09INTERROBANG=2E18;09LAZY S=223E
INVERTED LOW KAVYKA WITH KAVYKA ABOVE=2E46;19=2E45;09OHM SIGN=2127;09PENTAGRAM=26E7
INVERTED QUESTION MARK=BF;09UNDERTIE=2054;03ISIBLE PLUS=2064;10SEPARATOR=2063;10TIMES=2062
IZAKAYA LANTERN=1F3EE;00JACK-O-LANTERN=1F383;02PANESE BANK SYMBOL=26FB;09CASTLE=1F3EF
JAPANESE DOLLS=1F38E;09GOBLIN=1F47A;09INDUSTRIAL STANDARD SYMBOL=3004;09OGRE=1F479
JAPANESE POST OFFICE=1F3E3;09SYMBOL FOR BEGINNER=1F530;02R=1FAD9
JAVANESE CONSONANT SIGN CAKRA=A9BF;24KERET=A9BD;24PENGKAL=A9BE;09DIGIT EIGHT=A9D8;15FIVE=A9D5
JAVANESE DIGIT FOUR=A9D4;15NINE=A9D9;15ONE=A9D1;15SEVEN=A9D7;16IX=A9D6;15THREE=A9D3;16WO=A9D2
JAVANESE DIGIT ZERO=A9D0;09LEFT RERENGGAN=A9C1;11TTER A=A984;17I=A98D;16BA MURDA=A9A8;18=A9A7
JAVANESE LETTER CA MURDA=A996;18=A995;16DA MAHAPRANA=A9A3;18=A9A2;17DA MAHAPRANA=A99E;19=A99D
JAVANESE LETTER E=A98C;16GA MURDA=A993;18=A992;16HA=A9B2;16I KAWI=A985;17=A986;17I=A987
JAVANESE LETTER JA MAHAPRANA=A999;18=A997;16KA MURDA=A991;19SASAK=A990;18=A98F;16LA=A9AD;16MA=A9A9
JAVANESE LETTER NA MURDA=A99F;18=A9A4;17GA LELET RASWADI=A98B;25=A98A;19=A994;17YA MURDA=A998
JAVANESE LETTER NYA=A99A;16O=A98E;16PA CEREK=A989;19MURDA=A9A6;18=A9A5;16RA AGUNG=A9AC;18=A9AB
JAVANESE LETTER SA MAHAPRANA=A9B0;20URDA=A9AF;18=A9B1;16TA MURDA=A9A1;18=A9A0;17TA MAHAPRANA=A99C
JAVANESE LETTER TTA=A99B;16U=A988;16WA=A9AE;16YA=A9AA;09PADA ADEG ADEG=A9CB;18=A9CA;15NDAP=A9C3
JAVANESE PADA ISEN-ISEN=A9DF;14LINGSA=A9C8;15UHUR=A9C5;16NGSI=A9C9;14MADYA=A9C4;14PANGKAT=A9C7
JAVANESE PADA PISELEH=A9CC;14TIRTA TUMETES=A9DE;14WINDU=A9C6;11NGKON=A9C0;13RANGKEP=A9CF
JAVANESE RIGHT RERENGGAN=A9C2;09SIGN CECAK TELU=A9B3;19=A981;14LAYAR=A982;14PANYANGGA=A980
JAVANESE SIGN WIGNYAN=A983;09TURNED PADA PISELEH=A9CD;09VOWEL SIGN DIRGA MURE=A9BB;20PEPET=A9BC
JAVANESE VOWEL SIGN SUKU MENDUT=A9B9;24=A9B8;20TALING=A9BA;22RUNG=A9B4;21OLONG=A9B5
JAVANESE VOWEL SIGN WULU MELIK=A9B7;24=A9B6;01EANS=1F456;01IGSAW PUZZLE PIECE=1F9E9;01OIN=2A1D
JOYSTICK=1F579;01UGGLING=1F939;02NO=26B5;02PITER=2643;00KAABA=1F54B;02ITHI ABBREVIATION SIGN=110BB
KAITHI DANDA=110C0;08OUBLE DANDA=110C1;14SECTION MARK=110BF;07ENUMERATION SIGN=110BC
KAITHI LETTER A=11083;15A=11084;15I=1108A;15U=1108C;14BA=110A5;15HA=110A6;14CA=11092;15HA=11093
KAITHI LETTER DA=110A0;15DA=11099;16DHA=1109A;16HA=1109B;15HA=110A1;14E=11089;14GA=1108F
KAITHI LETTER GHA=11090;14HA=110AF;14I=11085;15I=11086;14JA=11094;15HA=11095;14KA=1108D;15HA=1108E
KAITHI LETTER LA=110AA;14MA=110A7;14NA=110A2;15GA=11091;15NA=1109D;15YA=11096;14O=1108B;14PA=110A3
KAITHI LETTER PHA=110A4;14RA=110A9;15HA=1109C;14SA=110AE;15HA=110AC;15SA=110AD;14TA=1109E
KAITHI LETTER THA=1109F;15TA=11097;16HA=11098;14U=11087;15U=11088;14VA=110AB;14YA=110A8
KAITHI NUMBER SIGN ABOVE=110CD;18=110BD;07SECTION MARK=110BE;08IGN ANUSVARA=11081
KAITHI SIGN CANDRABINDU=11080;12NUKTA=110BA;12VIRAMA=110B9;14SARGA=11082;07VOWEL SIGN AA=110B0
KAITHI VOWEL SIGN AI=110B6;19U=110B8;18E=110B5;18I=110B1;19I=110B2;18O=110B7;18U=110B3;19U=110B4
KAITHI VOWEL SIGN VOCALIC R=110C2;02NGAROO=1F998;04XI RADICAL AGAIN=2F1C;16ND=2F7D;16RRIVE=2F84
KANGXI RADICAL ARROW=2F6E;16XE=2F44;15BADGER=2F98;17MBOO=2F75;16EAN=2F96;16IG=2F24;17RD=2FC3
KANGXI RADICAL BITTER=2F9F;16LACK=2FCA;17OOD=2F8E;17UE=2FAD;16OAT=2F88;17DY=2F9D
KANGXI RADICAL BOLT OF CLOTH=2F66;17NE=2FBB;17W=2F38;16RANCH=2F40;17ISTLE=2F3A;17USH=2F80
KANGXI RADICAL CART=2F9E;17ULDRON=2FC0;17VE=2F73;16HILD=2F26;16ITY=2FA2;16LAN=2F52;18W=2F56
KANGXI RADICAL CLIFF=2F1A;17OTHES=2F90;16OLOR=2F8A;17MPARE=2F50;17RPSE=2F2B;17VER=2F0D;17W=2F5C
KANGXI RADICAL DEATH=2F4D;17ER=2FC5;16IPPER=2F43;17SH=2F6B;18TINGUISH=2FA4;17VINATION=2F18
KANGXI RADICAL DO NOT=2F4F;17G=2F5D;17OR=2F3E;17T=2F02;18TED CLIFF=2F34;22TENT=2F68;17UBLE X=2F58
KANGXI RADICAL DOWN BOX=2F0C;16RAGON=2FD3;17UM=2FCE;17Y=2F32;15EAR=2F7F;18TH=2F1F;17T=2FB7
KANGXI RADICAL EIGHT=2F0B;16MBROIDERY=2FCB;16NCLOSURE=2F1E;17TER=2F0A;16VEN=2FD1;19ING=2F23
KANGXI RADICAL EYE=2F6C;15FACE=2FAF;17NG=2F5B;17THER=2F57;16EATHER=2F7B;16IELD=2F65;17GHT=2FBE
KANGXI RADICAL FIRE=2F55;17SH=2FC2;16LUTE=2FD5;17Y=2FB6;16OOT=2F9C;16RAGRANT=2FB9;17OG=2FCC
KANGXI RADICAL FUR=2F51;15GATE=2FA8;16HOST=2FC1;16O SLOWLY=2F22;17=2F21;17LD=2FA6;16RAIN=2F72
KANGXI RADICAL GRASS=2F8B;15HAIR=2FBD;17LBERD=2F3D;18F TREE TRUNK=2F59;17ND=2F3F;16EAD=2FB8
KANGXI RADICAL HEART=2F3C;17MP=2FC7;16IDING ENCLOSURE=2F16;16OOK=2F05;17RN=2F93;18SE=2FBA
KANGXI RADICAL ICE=2F0E;16NCH=2F28;17SECT=2F8D;15JADE=2F5F;17R=2F78;15KNIFE=2F11;15LACK=2F4B
KANGXI RADICAL LAME=2F2A;16EAF=2FB4;18THER=2FB0;17EK=2FB2;17GS=2F09;16ID=2F07;17FE=2F63;17NE=2F01
KANGXI RADICAL LONG STRIDE=2F35;19=2FA7;15MAN=2F08;16EAT=2F81;17LON=2F60;16ILLET=2FC9
KANGXI RADICAL MINISTER=2F82;16OON=2F49;17RNING=2FA0;18TAR=2F85;17UND=2FA9;19TAIN=2F2D;18TH=2F1D
KANGXI RADICAL NET=2F79;16OSE=2FD0;17T=2F46;15OLD=2F7C;16NE=2F00;18SELF=2F30;16PEN BOX=2F10
KANGXI RADICAL OPPOSE=2F87;15PIG=2F97;16LOW=2F7E;16OWER=2F12;16RIVATE=2F1B;17OFOUND=2F5E
KANGXI RADICAL RAIN=2FAC;17P=2F41;17T=2FCF;16ED=2F9A;16ICE=2F76;17GHT OPEN BOX=2F15;17VER=2F2E
KANGXI RADICAL ROOF=2F27;16UN=2F9B;15SACRIFICIAL WINE=2FBF;17LT=2FC4;17Y=2F48;16CHOLAR=2F20
KANGXI RADICAL SCRIPT=2F42;16EAL=2F19;17COND=2F04;17E=2F92;17LF=2F83;16HEEP=2F7A;18LL=2F99
KANGXI RADICAL SHOOT=2F37;18RT TAILED BIRD=2FAB;22HREAD=2F33;16ICKNESS=2F67;17LK=2F77;16KIN=2F6A
KANGXI RADICAL SLASH=2F03;18VE=2FAA;17ICE=2F5A;16MALL=2F29;16NOUT=2F39;16OUND=2FB3;16PEAR=2F6D
KANGXI RADICAL SPEECH=2F94;17IRIT=2F70;17OON=2F14;17ROUT=2F2C;16QUARE=2F45;16TAND=2F74;17EAM=2F53
KANGXI RADICAL STEP=2F3B;17ONE=2F6F;18P=2F4C;19PING=2F89;16UN=2F47;16WEET=2F62;15TABLE=2F0F
KANGXI RADICAL TALL=2FBC;17NNED LEATHER=2FB1;16EN=2F17;16IGER=2F8C;17LE=2F61;16ONGUE=2F86
KANGXI RADICAL TOOTH=2FD2;16RACK=2F71;17EE=2F4A;17IPOD=2FCD;16URBAN=2F31;18TLE=2FD4
KANGXI RADICAL TWO HANDS=2F36;18=2F06;15USE=2F64;15VALLEY=2F95;16ILLAGE=2FA5;15WALK ENCLOSURE=2F8F
KANGXI RADICAL WALK=2FA1;17TER=2F54;16EAPON=2F4E;17ST=2F91;16HEAT=2FC6;17ITE=2F69;16IND=2FB5
KANGXI RADICAL WINE=2FA3;16OMAN=2F25;17RK=2F2F;16RAP=2F13;17ONG=2FAE;15YELLOW=2FC8
KANNADA AI LENGTH MARK=CD6;08DIGIT EIGHT=CEE;14FIVE=CEB;15OUR=CEA;14NINE=CEF;14ONE=CE7;14SEVEN=CED
KANNADA DIGIT SIX=CEC;14THREE=CE9;15WO=CE8;14ZERO=CE6;08LENGTH MARK=CD5;10TTER A=C85;16A=C86
KANNADA LETTER AI=C90;16U=C94;15BA=CAC;16HA=CAD;15CA=C9A;16HA=C9B;15DA=CA6;16DA=CA1;17HA=CA2
KANNADA LETTER DHA=CA7;15E=C8E;16E=C8F;15FA=CDE;15GA=C97;16HA=C98;15HA=CB9;15I=C87;16I=C88
KANNADA LETTER JA=C9C;16HA=C9D;15KA=C95;16HA=C96;15LA=CB2;16LA=CB3;17LA=CDE;15MA=CAE;15NA=CA8
KANNADA LETTER NAKAARA POLLU=CDD;16GA=C99;16NA=CA3;16YA=C9E;15O=C92;16O=C93;15PA=CAA;16HA=CAB
KANNADA LETTER RA=CB0;16RA=CB1;15SA=CB8;16HA=CB6;16SA=CB7;15TA=CA4;16HA=CA5;16TA=C9F;17HA=CA0
KANNADA LETTER U=C89;16U=C8A;15VA=CB5;16OCALIC L=C8C;24L=CE1;23R=C8B;24R=CE0;15YA=CAF
KANNADA SIGN ANUSVARA=C82;14VAGRAHA=CBD;13CANDRABINDU=C81;13JIHVAMULIYA=CF1;13NUKTA=CBC
KANNADA SIGN SIDDHAM=C84;14PACING CANDRABINDU=C80;13UPADHMANIYA=CF2;13VIRAMA=CCD;15SARGA=C83
KANNADA VOWEL SIGN AA=CBE;20I=CC8;20U=CCC;19E=CC6;20E=CC7;19I=CBF;20I=CC0;19O=CCA;20O=CCB;19U=CC1
KANNADA VOWEL SIGN UU=CC2;19VOCALIC L=CE2;28L=CE3;27R=CC3;28R=CC4;02TAKANA DIGRAPH KOTO=30FF
KATAKANA ITERATION MARK=30FD;09LETTER A=30A2;17RCHAIC E=1B000;24WU=1B122;24YE=1B121;25I=1B120
KATAKANA LETTER BA=30D0;17E=30D9;17I=30D3;17O=30DC;17U=30D6;16DA=30C0;17E=30C7;17I=30C2;17O=30C9
KATAKANA LETTER DU=30C5;16E=30A8;16GA=30AC;17E=30B2;17I=30AE;17O=30B4;17U=30B0;16HA=30CF;17E=30D8
KATAKANA LETTER HI=30D2;17O=30DB;17U=30D5;16I=30A4;16KA=30AB;17E=30B1;17I=30AD;17O=30B3;17U=30AF
KATAKANA LETTER MA=30DE;17E=30E1;17I=30DF;18NNAN NASALIZED TONE-1=1AFF7;382=1AFF8;383=1AFF9
KATAKANA LETTER MINNAN NASALIZED TONE-4=1AFFA;385=1AFFB;387=1AFFD;388=1AFFE;23TONE-2=1AFF0
KATAKANA LETTER MINNAN TONE-3=1AFF1;284=1AFF2;285=1AFF3;287=1AFF5;288=1AFF6;17O=30E2;17U=30E0
KATAKANA LETTER N=30F3;17A=30CA;17E=30CD;17I=30CB;17O=30CE;17U=30CC;16O=30AA;16PA=30D1;17E=30DA
KATAKANA LETTER PI=30D4;17O=30DD;17U=30D7;16RA=30E9;17E=30EC;17I=30EA;17O=30ED;17U=30EB;16SA=30B5
KATAKANA LETTER SE=30BB;17I=30B7;17MALL A=30A1;22E=30A7;22HA=31F5;23E=31F8;23I=31F6;23O=31F9
KATAKANA LETTER SMALL HU=31F7;22I=30A3;22KA=30F5;23E=30F6;23U=31F0;22MU=31FA;22N=1B167;23U=31F4
KATAKANA LETTER SMALL O=30A9;22RA=31FB;23E=31FE;23I=31FC;23O=31FF;23U=31FD;22SI=31F1;23U=31F2
KATAKANA LETTER SMALL TO=31F3;23U=30C3;22U=30A5;22WA=30EE;23E=1B165;23I=1B164;23O=1B166;22YA=30E3
KATAKANA LETTER SMALL YO=30E7;23U=30E5;17O=30BD;17U=30B9;16TA=30BF;17E=30C6;17I=30C1;17O=30C8
KATAKANA LETTER TU=30C4;16U=30A6;16VA=30F7;17E=30F9;17I=30F8;17O=30FA;17U=30F4;16WA=30EF;17E=30F1
KATAKANA LETTER WI=30F0;17O=30F2;16YA=30E4;17O=30E8;17U=30E6;16ZA=30B6;17E=30BC;17I=30B8;17O=30BE
KATAKANA LETTER ZU=30BA;09MIDDLE DOT=30FB;09VOICED ITERATION MARK=30FE
KATAKANA-HIRAGANA DOUBLE HYPHEN=30A0;18PROLONGED SOUND MARK=30FC;18SEMI-VOICED SOUND MARK=309C
KATAKANA-HIRAGANA VOICED SOUND MARK=309B;02YAH LI DIGIT EIGHT=A908;15FIVE=A905;16OUR=A904
KAYAH LI DIGIT NINE=A909;15ONE=A901;15SEVEN=A907;16IX=A906;15THREE=A903;16WO=A902;15ZERO=A900
KAYAH LI LETTER A=A922;16BA=A919;16CA=A921;16DA=A918;16GA=A90C;16HA=A91F;17TA=A913;16I=A924
KAYAH LI LETTER KA=A90A;17HA=A90B;16LA=A91C;16MA=A917;16NA=A914;17GA=A90D;17YA=A911;16OE=A923
KAYAH LI LETTER OO=A925;16PA=A915;17HA=A916;16RA=A91A;16SA=A90E;17HA=A90F;16TA=A912;17HA=A91E
KAYAH LI LETTER VA=A920;16WA=A91D;16YA=A91B;16ZA=A910;09SIGN CWI=A92E;14SHYA=A92F
KAYAH LI TONE CALYA PLOPHU=A92D;19=A92C;14PLOPHU=A92B;09VOWEL E=A927;16E=A929;15O=A92A;15U=A928
KAYAH LI VOWEL UE=A926;01ELVIN SIGN=212A;02Y=1F511;03BOARD AND MOUSE=1F5A6;08=2328;03CAP TEN=1F51F
KHAROSHTHI DIGIT FOUR=10A43;17ONE=10A40;17THREE=10A42;18WO=10A41;11FRACTION ONE HALF=10A48
KHAROSHTHI LETTER A=10A00;18BA=10A26;19HA=10A27;18CA=10A15;19HA=10A16;18DA=10A21;19DA=10A1C
KHAROSHTHI LETTER DDHA=10A1D;19HA=10A22;18GA=10A12;19HA=10A13;18HA=10A31;18JA=10A17;18KA=10A10
KHAROSHTHI LETTER KHA=10A11;19KA=10A32;18LA=10A2B;18MA=10A28;18NA=10A23;19NA=10A1E;19YA=10A19
KHAROSHTHI LETTER PA=10A24;19HA=10A25;18RA=10A2A;18SA=10A2F;19HA=10A2D;19SA=10A2E;18TA=10A1F
KHAROSHTHI LETTER THA=10A20;19TA=10A1A;20HA=10A1B;20TA=10A34;21HA=10A33;18VA=10A2C;19HA=10A35
KHAROSHTHI LETTER YA=10A29;18ZA=10A30;11NUMBER ONE HUNDRED=10A46;22THOUSAND=10A47;18TEN=10A44
KHAROSHTHI NUMBER TWENTY=10A45;11PUNCTUATION CIRCLE=10A52;24RESCENT BAR=10A53;23DANDA=10A56
KHAROSHTHI PUNCTUATION DOT=10A50;25UBLE DANDA=10A57;23LINES=10A58;24OTUS=10A55;23MANGALAM=10A54
KHAROSHTHI PUNCTUATION SMALL CIRCLE=10A51;11SIGN ANUSVARA=10A0E;16BAR ABOVE=10A38;16CAUDA=10A39
KHAROSHTHI SIGN DOT BELOW=10A3A;18UBLE RING BELOW=10A0D;16VISARGA=10A0F;11VIRAMA=10A3F
KHAROSHTHI VOWEL LENGTH MARK=10A0C;17SIGN E=10A05;22I=10A01;22O=10A06;22U=10A02;22VOCALIC R=10A03
KHITAN SMALL SCRIPT CHARACTER-18B00=18B00;341=18B01;342=18B02;343=18B03;344=18B04;345=18B05
KHITAN SMALL SCRIPT CHARACTER-18B06=18B06;347=18B07;348=18B08;349=18B09;34A=18B0A;34B=18B0B
KHITAN SMALL SCRIPT CHARACTER-18B0C=18B0C;34D=18B0D;34E=18B0E;34F=18B0F;3310=18B10;341=18B11
KHITAN SMALL SCRIPT CHARACTER-18B12=18B12;343=18B13;344=18B14;345=18B15;346=18B16;347=18B17
KHITAN SMALL SCRIPT CHARACTER-18B18=18B18;349=18B19;34A=18B1A;34B=18B1B;34C=18B1C;34D=18B1D
KHITAN SMALL SCRIPT CHARACTER-18B1E=18B1E;34F=18B1F;3320=18B20;341=18B21;342=18B22;343=18B23
KHITAN SMALL SCRIPT CHARACTER-18B24=18B24;345=18B25;346=18B26;347=18B27;348=18B28;349=18B29
KHITAN SMALL SCRIPT CHARACTER-18B2A=18B2A;34B=18B2B;34C=18B2C;34D=18B2D;34E=18B2E;34F=18B2F
KHITAN SMALL SCRIPT CHARACTER-18B30=18B30;341=18B31;342=18B32;343=18B33;344=18B34;345=18B35
KHITAN SMALL SCRIPT CHARACTER-18B36=18B36;347=18B37;348=18B38;349=18B39;34A=18B3A;34B=18B3B
KHITAN SMALL SCRIPT CHARACTER-18B3C=18B3C;34D=18B3D;34E=18B3E;34F=18B3F;3340=18B40;341=18B41
KHITAN SMALL SCRIPT CHARACTER-18B42=18B42;343=18B43;344=18B44;345=18B45;346=18B46;347=18B47
KHITAN SMALL SCRIPT CHARACTER-18B48=18B48;349=18B49;34A=18B4A;34B=18B4B;34C=18B4C;34D=18B4D
KHITAN SMALL SCRIPT CHARACTER-18B4E=18B4E;34F=18B4F;3350=18B50;341=18B51;342=18B52;343=18B53
KHITAN SMALL SCRIPT CHARACTER-18B54=18B54;345=18B55;346=18B56;347=18B57;348=18B58;349=18B59
KHITAN SMALL SCRIPT CHARACTER-18B5A=18B5A;34B=18B5B;34C=18B5C;34D=18B5D;34E=18B5E;34F=18B5F
KHITAN SMALL SCRIPT CHARACTER-18B60=18B60;341=18B61;342=18B62;343=18B63;344=18B64;345=18B65
KHITAN SMALL SCRIPT CHARACTER-18B66=18B66;347=18B67;348=18B68;349=18B69;34A=18B6A;34B=18B6B
KHITAN SMALL SCRIPT CHARACTER-18B6C=18B6C;34D=18B6D;34E=18B6E;34F=18B6F;3370=18B70;341=18B71
KHITAN SMALL SCRIPT CHARACTER-18B72=18B72;343=18B73;344=18B74;345=18B75;346=18B76;347=18B77
KHITAN SMALL SCRIPT CHARACTER-18B78=18B78;349=18B79;34A=18B7A;34B=18B7B;34C=18B7C;34D=18B7D
KHITAN SMALL SCRIPT CHARACTER-18B7E=18B7E;34F=18B7F;3380=18B80;341=18B81;342=18B82;343=18B83
KHITAN SMALL SCRIPT CHARACTER-18B84=18B84;345=18B85;346=18B86;347=18B87;348=18B88;349=18B89
KHITAN SMALL SCRIPT CHARACTER-18B8A=18B8A;34B=18B8B;34C=18B8C;34D=18B8D;34E=18B8E;34F=18B8F
KHITAN SMALL SCRIPT CHARACTER-18B90=18B90;341=18B91;342=18B92;343=18B93;344=18B94;345=18B95
KHITAN SMALL SCRIPT CHARACTER-18B96=18B96;347=18B97;348=18B98;349=18B99;34A=18B9A;34B=18B9B
KHITAN SMALL SCRIPT CHARACTER-18B9C=18B9C;34D=18B9D;34E=18B9E;34F=18B9F;33A0=18BA0;341=18BA1
KHITAN SMALL SCRIPT CHARACTER-18BA2=18BA2;343=18BA3;344=18BA4;345=18BA5;346=18BA6;347=18BA7
KHITAN SMALL SCRIPT CHARACTER-18BA8=18BA8;349=18BA9;34A=18BAA;34B=18BAB;34C=18BAC;34D=18BAD
KHITAN SMALL SCRIPT CHARACTER-18BAE=18BAE;34F=18BAF;33B0=18BB0;341=18BB1;342=18BB2;343=18BB3
KHITAN SMALL SCRIPT CHARACTER-18BB4=18BB4;345=18BB5;346=18BB6;347=18BB7;348=18BB8;349=18BB9
KHITAN SMALL SCRIPT CHARACTER-18BBA=18BBA;34B=18BBB;34C=18BBC;34D=18BBD;34E=18BBE;34F=18BBF
KHITAN SMALL SCRIPT CHARACTER-18BC0=18BC0;341=18BC1;342=18BC2;343=18BC3;344=18BC4;345=18BC5
KHITAN SMALL SCRIPT CHARACTER-18BC6=18BC6;347=18BC7;348=18BC8;349=18BC9;34A=18BCA;34B=18BCB
KHITAN SMALL SCRIPT CHARACTER-18BCC=18BCC;34D=18BCD;34E=18BCE;34F=18BCF;33D0=18BD0;341=18BD1
KHITAN SMALL SCRIPT CHARACTER-18BD2=18BD2;343=18BD3;344=18BD4;345=18BD5;346=18BD6;347=18BD7
KHITAN SMALL SCRIPT CHARACTER-18BD8=18BD8;349=18BD9;34A=18BDA;34B=18BDB;34C=18BDC;34D=18BDD
KHITAN SMALL SCRIPT CHARACTER-18BDE=18BDE;34F=18BDF;33E0=18BE0;341=18BE1;342=18BE2;343=18BE3
KHITAN SMALL SCRIPT CHARACTER-18BE4=18BE4;345=18BE5;346=18BE6;347=18BE7;348=18BE8;349=18BE9
KHITAN SMALL SCRIPT CHARACTER-18BEA=18BEA;34B=18BEB;34C=18BEC;34D=18BED;34E=18BEE;34F=18BEF
KHITAN SMALL SCRIPT CHARACTER-18BF0=18BF0;341=18BF1;342=18BF2;343=18BF3;344=18BF4;345=18BF5
KHITAN SMALL SCRIPT CHARACTER-18BF6=18BF6;347=18BF7;348=18BF8;349=18BF9;34A=18BFA;34B=18BFB
KHITAN SMALL SCRIPT CHARACTER-18BFC=18BFC;34D=18BFD;34E=18BFE;34F=18BFF;32C00=18C00;341=18C01
KHITAN SMALL SCRIPT CHARACTER-18C02=18C02;343=18C03;344=18C04;345=18C05;346=18C06;347=18C07
KHITAN SMALL SCRIPT CHARACTER-18C08=18C08;349=18C09;34A=18C0A;34B=18C0B;34C=18C0C;34D=18C0D
KHITAN SMALL SCRIPT CHARACTER-18C0E=18C0E;34F=18C0F;3310=18C10;341=18C11;342=18C12;343=18C13
KHITAN SMALL SCRIPT CHARACTER-18C14=18C14;345=18C15;346=18C16;347=18C17;348=18C18;349=18C19
KHITAN SMALL SCRIPT CHARACTER-18C1A=18C1A;34B=18C1B;34C=18C1C;34D=18C1D;34E=18C1E;34F=18C1F
KHITAN SMALL SCRIPT CHARACTER-18C20=18C20;341=18C21;342=18C22;343=18C23;344=18C24;345=18C25
KHITAN SMALL SCRIPT CHARACTER-18C26=18C26;347=18C27;348=18C28;349=18C29;34A=18C2A;34B=18C2B
KHITAN SMALL SCRIPT CHARACTER-18C2C=18C2C;34D=18C2D;34E=18C2E;34F=18C2F;3330=18C30;341=18C31
KHITAN SMALL SCRIPT CHARACTER-18C32=18C32;343=18C33;344=18C34;345=18C35;346=18C36;347=18C37
KHITAN SMALL SCRIPT CHARACTER-18C38=18C38;349=18C39;34A=18C3A;34B=18C3B;34C=18C3C;34D=18C3D
KHITAN SMALL SCRIPT CHARACTER-18C3E=18C3E;34F=18C3F;3340=18C40;341=18C41;342=18C42;343=18C43
KHITAN SMALL SCRIPT CHARACTER-18C44=18C44;345=18C45;346=18C46;347=18C47;348=18C48;349=18C49
KHITAN SMALL SCRIPT CHARACTER-18C4A=18C4A;34B=18C4B;34C=18C4C;34D=18C4D;34E=18C4E;34F=18C4F
KHITAN SMALL SCRIPT CHARACTER-18C50=18C50;341=18C51;342=18C52;343=18C53;344=18C54;345=18C55
KHITAN SMALL SCRIPT CHARACTER-18C56=18C56;347=18C57;348=18C58;349=18C59;34A=18C5A;34B=18C5B
KHITAN SMALL SCRIPT CHARACTER-18C5C=18C5C;34D=18C5D;34E=18C5E;34F=18C5F;3360=18C60;341=18C61
KHITAN SMALL SCRIPT CHARACTER-18C62=18C62;343=18C63;344=18C64;345=18C65;346=18C66;347=18C67
KHITAN SMALL SCRIPT CHARACTER-18C68=18C68;349=18C69;34A=18C6A;34B=18C6B;34C=18C6C;34D=18C6D
KHITAN SMALL SCRIPT CHARACTER-18C6E=18C6E;34F=18C6F;3370=18C70;341=18C71;342=18C72;343=18C73
KHITAN SMALL SCRIPT CHARACTER-18C74=18C74;345=18C75;346=18C76;347=18C77;348=18C78;349=18C79
KHITAN SMALL SCRIPT CHARACTER-18C7A=18C7A;34B=18C7B;34C=18C7C;34D=18C7D;34E=18C7E;34F=18C7F
KHITAN SMALL SCRIPT CHARACTER-18C80=18C80;341=18C81;342=18C82;343=18C83;344=18C84;345=18C85
KHITAN SMALL SCRIPT CHARACTER-18C86=18C86;347=18C87;348=18C88;349=18C89;34A=18C8A;34B=18C8B
KHITAN SMALL SCRIPT CHARACTER-18C8C=18C8C;34D=18C8D;34E=18C8E;34F=18C8F;3390=18C90;341=18C91
KHITAN SMALL SCRIPT CHARACTER-18C92=18C92;343=18C93;344=18C94;345=18C95;346=18C96;347=18C97
KHITAN SMALL SCRIPT CHARACTER-18C98=18C98;349=18C99;34A=18C9A;34B=18C9B;34C=18C9C;34D=18C9D
KHITAN SMALL SCRIPT CHARACTER-18C9E=18C9E;34F=18C9F;33A0=18CA0;341=18CA1;342=18CA2;343=18CA3
KHITAN SMALL SCRIPT CHARACTER-18CA4=18CA4;345=18CA5;346=18CA6;347=18CA7;348=18CA8;349=18CA9
KHITAN SMALL SCRIPT CHARACTER-18CAA=18CAA;34B=18CAB;34C=18CAC;34D=18CAD;34E=18CAE;34F=18CAF
KHITAN SMALL SCRIPT CHARACTER-18CB0=18CB0;341=18CB1;342=18CB2;343=18CB3;344=18CB4;345=18CB5
KHITAN SMALL SCRIPT CHARACTER-18CB6=18CB6;347=18CB7;348=18CB8;349=18CB9;34A=18CBA;34B=18CBB
KHITAN SMALL SCRIPT CHARACTER-18CBC=18CBC;34D=18CBD;34E=18CBE;34F=18CBF;33C0=18CC0;341=18CC1
KHITAN SMALL SCRIPT CHARACTER-18CC2=18CC2;343=18CC3;344=18CC4;345=18CC5;346=18CC6;347=18CC7
KHITAN SMALL SCRIPT CHARACTER-18CC8=18CC8;349=18CC9;34A=18CCA;34B=18CCB;34C=18CCC;34D=18CCD
KHITAN SMALL SCRIPT CHARACTER-18CCE=18CCE;34F=18CCF;33D0=18CD0;341=18CD1;342=18CD2;343=18CD3
KHITAN SMALL SCRIPT CHARACTER-18CD4=18CD4;345=18CD5;20FILLER=16FE4;02MER CURRENCY SYMBOL RIEL=17DB
KHMER DIGIT EIGHT=17E8;12FIVE=17E5;13OUR=17E4;12NINE=17E9;12ONE=17E1;12SEVEN=17E7;13IX=17E6
KHMER DIGIT THREE=17E3;13WO=17E2;12ZERO=17E0;06INDEPENDENT VOWEL LY=17AD;26Y=17AE;24QAA=17A4
KHMER INDEPENDENT VOWEL QAI=17B0;26Q=17A3;26U=17B3;25E=17AF;25I=17A5;26I=17A6;25OO TYPE ONE=17B1
KHMER INDEPENDENT VOWEL QOO TYPE TWO=17B2;25U=17A7;26K=17A8;26U=17A9;27V=17AA;24RY=17AB;26Y=17AC
KHMER LETTER BA=1794;13CA=1785;14HA=1786;15O=1788;14O=1787;13DA=178A;14O=178C;13HA=17A0;13KA=1780"

end Foldline.Text.CharacterName
