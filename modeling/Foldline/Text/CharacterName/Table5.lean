/-! # Character names, part 5 of 8

The names from KHMER LETTER KHA on,
in the notation of `CharacterName`. -/

namespace Foldline.Text.CharacterName

/-- Rows of names. -/
def rows5 : String := "
KHMER LETTER KHA=1781;15O=1783;14O=1782;13LA=17A1;14O=179B;13MO=1798;13NGO=1784;14NO=178E;14O=1793
KHMER LETTER NYO=1789;13PHA=1795;15O=1797;14O=1796;13QA=17A2;13RO=179A;13SA=179F;14HA=179D
KHMER LETTER SSO=179E;13TA=178F;14HA=1790;15O=1792;14O=1791;14THA=178B;16O=178D;13VO=179C
KHMER LETTER YO=1799;06SIGN AHSDA=17CF;12TTHACAN=17DD;12VAKRAHASANYA=17DC;11BANTOC=17CB
KHMER SIGN BARIYOOSAN=17D5;13THAMASAT=17D3;12EYYAL=17D8;11CAMNUC PII KUUH=17D6;12OENG=17D2
KHMER SIGN KAKABAT=17CE;12HAN=17D4;12OOMUUT=17DA;11LEK TOO=17D7;11MUUSIKATOAN=17C9;11NIKAHIT=17C6
KHMER SIGN PHNAEK MUAN=17D9;11REAHMUK=17C7;12OBAT=17CC;11SAMYOK SANNYA=17D0;11TOANDAKHIAT=17CD
KHMER SIGN TRIISAP=17CA;11VIRIAM=17D1;11YUUKALEAPINTU=17C8;07YMBOL BEI KOET=19E3;17ROC=19F3
KHMER SYMBOL BUON KOET=19E4;18ROC=19F4;13DAP KOET=19EA;17ROC=19FA;16-BEI KOET=19ED;21ROC=19FD
KHMER SYMBOL DAP-BUON KOET=19EE;22ROC=19FE;17MUOY KOET=19EB;22ROC=19FB;17PII KOET=19EC;21ROC=19FC
KHMER SYMBOL DAP-PRAM KOET=19EF;22ROC=19FF;13LEK ATTAK BEI=17F3;24UON=17F4;23MUOY=17F1;23PII=17F2
KHMER SYMBOL LEK ATTAK PRAM-BEI=17F8;29UON=17F9;28MUOY=17F6;28PII=17F7;27=17F5;23SON=17F0
KHMER SYMBOL MUOY KOET=19E1;18ROC=19F1;13PATHAMASAT=19E0;14II KOET=19E2;17ROC=19F2;14RAM KOET=19E5
KHMER SYMBOL PRAM ROC=19F5;17-BEI KOET=19E8;22ROC=19F8;19UON KOET=19E9;23ROC=19F9;18MUOY KOET=19E6
KHMER SYMBOL PRAM-MUOY ROC=19F6;18PII KOET=19E7;22ROC=19F7;13TUTEYASAT=19F0
KHMER VOWEL INHERENT AA=17B5;22Q=17B4;12SIGN AA=17B6;18E=17C2;18I=17C3;18U=17C5;17E=17C1;17I=17B7
KHMER VOWEL SIGN IE=17C0;18I=17B8;17OE=17BE;18O=17C4;17U=17BB;18A=17BD;18U=17BC;17Y=17B9;18A=17BF
KHMER VOWEL SIGN YY=17BA;02OJKI ABBREVIATION SIGN=1123D;07DANDA=11238;08OUBLE DANDA=11239
KHOJKI DOUBLE SECTION MARK=1123C;07LETTER A=11200;15A=11201;15I=11205;15U=11207;14BA=11221
KHOJKI LETTER BBA=11222;15HA=11223;14CA=1120E;15HA=1120F;14DA=1121B;15DA=11216;16DA=1121C
KHOJKI LETTER DDHA=11217;15HA=1121D;14E=11204;14GA=1120A;15GA=1120B;15HA=1120C;14HA=1122A
KHOJKI LETTER I=11202;14JA=11210;15JA=11211;14KA=11208;15HA=11209;14LA=11227;15LA=1122B;14MA=11224
KHOJKI LETTER NA=1121E;15GA=1120D;15NA=11218;15YA=11213;14O=11206;14PA=1121F;15HA=11220;14RA=11226
KHOJKI LETTER SA=11229;14TA=11219;15HA=1121A;15TA=11214;16HA=11215;14U=11203;14VA=11228;14YA=11225
KHOJKI SECTION MARK=1123B;08IGN ANUSVARA=11234;12NUKTA=11236;12SHADDA=11237;13UKUN=1123E
KHOJKI SIGN VIRAMA=11235;07VOWEL SIGN AA=1122C;19I=11231;19U=11233;18E=11230;18I=1122D;19I=1122E
KHOJKI VOWEL SIGN O=11232;18U=1122F;07WORD SEPARATOR=1123A;02UDAWADI DIGIT EIGHT=112F8
KHUDAWADI DIGIT FIVE=112F5;17OUR=112F4;16NINE=112F9;16ONE=112F1;16SEVEN=112F7;17IX=112F6
KHUDAWADI DIGIT THREE=112F3;17WO=112F2;16ZERO=112F0;10LETTER A=112B0;18A=112B1;18I=112B7;18U=112B9
KHUDAWADI LETTER BA=112D4;18BA=112D5;18HA=112D6;17CA=112C0;18HA=112C1;17DA=112CF;18DA=112C8
KHUDAWADI LETTER DDDA=112C9;19HA=112CB;18HA=112D0;17E=112B6;17GA=112BC;18GA=112BD;18HA=112BE
KHUDAWADI LETTER HA=112DE;17I=112B2;18I=112B3;17JA=112C2;18HA=112C4;18JA=112C3;17KA=112BA
KHUDAWADI LETTER KHA=112BB;17LA=112DA;17MA=112D7;17NA=112D1;18GA=112BF;18NA=112CC;18YA=112C5
KHUDAWADI LETTER O=112B8;17PA=112D2;18HA=112D3;17RA=112D9;18RA=112CA;17SA=112DD;18HA=112DC
KHUDAWADI LETTER TA=112CD;18HA=112CE;18TA=112C6;19HA=112C7;17U=112B4;18U=112B5;17VA=112DB
KHUDAWADI LETTER YA=112D8;10SIGN ANUSVARA=112DF;15NUKTA=112E9;15VIRAMA=112EA;10VOWEL SIGN AA=112E0
KHUDAWADI VOWEL SIGN AI=112E6;22U=112E8;21E=112E5;21I=112E1;22I=112E2;21O=112E7;21U=112E3
KHUDAWADI VOWEL SIGN UU=112E4;01IMONO=1F458;02P SIGN=20AD;02SS MARK=1F48B;04=1F48F
KISSING CAT FACE WITH CLOSED EYES=1F63D;08FACE WITH CLOSED EYES=1F61A;18SMILING EYES=1F619
KISSING FACE=1F617;02TE=1FA81;02WIFRUIT=1F95D;01NEELING PERSON=1F9CE;02OT=1FAA2;01OALA=1F428
KOREAN STANDARD SYMBOL=327F;01RONOS=2BE3;00L B BAR SYMBOL=2114;01AB COAT=1F97C;03EL=1F3F7
LACROSSE STICK AND BALL=1F94D;02DDER=1FA9C;03Y BEETLE=1F41E;02NGUAGE TAG=E0001
LAO CANCELLATION MARK=ECC;04DIGIT EIGHT=ED8;10FIVE=ED5;11OUR=ED4;10NINE=ED9;10ONE=ED1;10SEVEN=ED7
LAO DIGIT SIX=ED6;10THREE=ED3;11WO=ED2;10ZERO=ED0;04ELLIPSIS=EAF;04HO MO=EDD;07NO=EDC;04KO LA=EC6
LAO LETTER BO=E9A;11CO=E88;11DO=E94;11FO FAY=E9F;15ON=E9D;14SUNG=E9F;14TAM=E9D;11HO SUNG=EAB
LAO LETTER HO TAM=EAE;11KHMU GO=EDE;16NYO=EDF;13O SUNG=E82;15TAM=E84;12O=E81;11LO LING=EA3
LAO LETTER LO LOOT=EA5;13=EA5;11MO=EA1;11NGO=E87;12O=E99;12YO=E8D;11O=EAD;11PALI BHA=EA0;16CHA=E89
LAO LETTER PALI DDA=E91;18HA=E92;17HA=E98;16GHA=E86;16JHA=E8C;16LLA=EAC;16NNA=E93;17YA=E8E
LAO LETTER PALI TTA=E8F;18HA=E90;12HO SUNG=E9C;15TAM=E9E;12O=E9B;11RO=EA3;11SANSKRIT SHA=EA8
LAO LETTER SANSKRIT SSA=EA9;12O SUNG=EAA;14TAM=E8A;11THO SUNG=E96;15TAM=E97;12O=E95;11WO=EA7
LAO LETTER YO=EA2;04NIGGAHITA=ECD;04SEMIVOWEL SIGN LO=EBC;19NYO=EBD;05IGN PALI VIRAMA=EBA
LAO TONE MAI CATAWA=ECB;13EK=EC8;13THO=EC9;14I=ECA;04VOWEL SIGN A=EB0;16A=EB2;16I=EC4;16M=EB3
LAO VOWEL SIGN AY=EC3;15E=EC0;16I=EC1;15I=EB4;16I=EB5;15MAI KAN=EB1;20ON=EBB;15O=EC2;15U=EB8
LAO VOWEL SIGN UU=EB9;15Y=EB6;16Y=EB7;02RGE BLUE CIRCLE=1F535;11DIAMOND=1F537;11SQUARE=1F7E6
LARGE BROWN CIRCLE=1F7E4;12SQUARE=1F7EB;06CIRCLE=25EF;06DOWN TACK=27D9;06GREEN CIRCLE=1F7E2
LARGE GREEN SQUARE=1F7E9;06LEFT TRIANGLE OPERATOR=2A1E;06ONE DOT OVER TWO DOTS PUNCTUATION=10B3D
LARGE ONE RING OVER TWO RINGS PUNCTUATION=10B3F;07RANGE CIRCLE=1F7E0;13DIAMOND=1F536
LARGE ORANGE SQUARE=1F7E7;06PURPLE CIRCLE=1F7E3;13SQUARE=1F7EA;06RED CIRCLE=1F534;10SQUARE=1F7E5
LARGE TRIPLE VERTICAL BAR OPERATOR=2AFC;07WO DOTS OVER ONE DOT PUNCTUATION=10B3C
LARGE TWO RINGS OVER ONE RING PUNCTUATION=10B3E;06UP TACK=27D8;06YELLOW CIRCLE=1F7E1
LARGE YELLOW SQUARE=1F7E8;05R THAN OR EQUAL TO=2AAD;11=2AAB;03I SIGN=20BE
LAST QUARTER MOON SYMBOL=1F317;18WITH FACE=1F31C;17=263E;02TIN CAPITAL LETTER A WITH ACUTE=C1
LATIN CAPITAL LETTER A WITH BREVE AND ACUTE=1EAE;38DOT BELOW=1EB6;38GRAVE=1EB0;38HOOK ABOVE=1EB2
LATIN CAPITAL LETTER A WITH BREVE AND TILDE=1EB4;33=102;28CARON=1CD;29IRCUMFLEX AND ACUTE=1EA4
LATIN CAPITAL LETTER A WITH CIRCUMFLEX AND DOT BELOW=1EAC;43GRAVE=1EA6;43HOOK ABOVE=1EA8
LATIN CAPITAL LETTER A WITH CIRCUMFLEX AND TILDE=1EAA;38=C2;28DIAERESIS AND MACRON=1DE;37=C4
LATIN CAPITAL LETTER A WITH DOT ABOVE AND MACRON=1E0;37=226;32BELOW=1EA0;30UBLE GRAVE=200
LATIN CAPITAL LETTER A WITH GRAVE=C0;28HOOK ABOVE=1EA2;28INVERTED BREVE=202;28MACRON=100
LATIN CAPITAL LETTER A WITH OGONEK=104;28RING ABOVE AND ACUTE=1FA;38=C5;33BELOW=1E00;28STROKE=23A
LATIN CAPITAL LETTER A WITH TILDE=C3;22=41;22A=A732;22E WITH ACUTE=1FC;29MACRON=1E2;23=C6
LATIN CAPITAL LETTER AFRICAN D=189;22LPHA=2C6D;22NGLICANA W=A7C2;22O=A734;22U=A736
LATIN CAPITAL LETTER AV WITH HORIZONTAL BAR=A73A;23=A738;22Y=A73C;21B WITH DOT ABOVE=1E02
LATIN CAPITAL LETTER B WITH DOT BELOW=1E04;28FLOURISH=A796;28HOOK=181;28LINE BELOW=1E06
LATIN CAPITAL LETTER B WITH STROKE=243;28TOPBAR=182;22=42;22ETA=A7B4;22ROKEN L=A746
LATIN CAPITAL LETTER C WITH ACUTE=106;28BAR=A792;28CARON=10C;29EDILLA AND ACUTE=1E08;35=C7
LATIN CAPITAL LETTER C WITH CIRCUMFLEX=108;28DOT ABOVE=10A;28HOOK=187;28PALATAL HOOK=A7C4
LATIN CAPITAL LETTER C WITH STROKE=23B;22=43;22HI=A7B3;22LOSED INSULAR G=A7D0;22ON=A76E
LATIN CAPITAL LETTER CUATRILLO WITH COMMA=A72E;30=A72C;21D WITH CARON=10E;29EDILLA=1E10
LATIN CAPITAL LETTER D WITH CIRCUMFLEX BELOW=1E12;28DOT ABOVE=1E0A;32BELOW=1E0C;28HOOK=18A
LATIN CAPITAL LETTER D WITH LINE BELOW=1E0E;28SHORT STROKE OVERLAY=A7C7
LATIN CAPITAL LETTER D WITH SMALL LETTER Z WITH CARON=1C5;42=1F2;29TROKE=110;28TOPBAR=18B;22=44
LATIN CAPITAL LETTER DZ WITH CARON=1C4;23=1F1;21E WITH ACUTE=C9;28BREVE=114;28CARON=11A
LATIN CAPITAL LETTER E WITH CEDILLA AND BREVE=1E1C;35=228;29IRCUMFLEX AND ACUTE=1EBE
LATIN CAPITAL LETTER E WITH CIRCUMFLEX AND DOT BELOW=1EC6;43GRAVE=1EC0;43HOOK ABOVE=1EC2
LATIN CAPITAL LETTER E WITH CIRCUMFLEX AND TILDE=1EC4;39BELOW=1E18;38=CA;28DIAERESIS=CB
LATIN CAPITAL LETTER E WITH DOT ABOVE=116;32BELOW=1EB8;30UBLE GRAVE=204;28GRAVE=C8
LATIN CAPITAL LETTER E WITH HOOK ABOVE=1EBA;28INVERTED BREVE=206;28MACRON AND ACUTE=1E16
LATIN CAPITAL LETTER E WITH MACRON AND GRAVE=1E14;34=112;28OGONEK=118;28STROKE=246
LATIN CAPITAL LETTER E WITH TILDE BELOW=1E1A;33=1EBC;22=45;22GYPTOLOGICAL AIN=A724;36LEF=A722
LATIN CAPITAL LETTER ENG=14A;22SH=1A9;22T=A76A;23H=D0;22ZH REVERSED=1B8;25WITH CARON=1EE;24=1B7
LATIN CAPITAL LETTER F WITH DOT ABOVE=1E1E;28HOOK=191;28STROKE=A798;22=46;21G WITH ACUTE=1F4
LATIN CAPITAL LETTER G WITH BREVE=11E;28CARON=1E6;29EDILLA=122;29IRCUMFLEX=11C;28DOT ABOVE=120
LATIN CAPITAL LETTER G WITH HOOK=193;28MACRON=1E20;28OBLIQUE STROKE=A7A0;28STROKE=1E4;22=47
LATIN CAPITAL LETTER GAMMA=194;22HA=1A2;22LOTTAL A=A7BA;29I=A7BC;29STOP=241;29U=A7BE
LATIN CAPITAL LETTER H WITH BREVE BELOW=1E2A;28CARON=21E;29EDILLA=1E28;29IRCUMFLEX=124
LATIN CAPITAL LETTER H WITH DESCENDER=2C67;29IAERESIS=1E26;29OT ABOVE=1E22;32BELOW=1E24
LATIN CAPITAL LETTER H WITH HOOK=A7AA;28STROKE=126;22=48;22ALF H=2C75;22ENG=A726;22WAIR=1F6
LATIN CAPITAL LETTER I WITH ACUTE=CD;28BREVE=12C;28CARON=1CF;29IRCUMFLEX=CE
LATIN CAPITAL LETTER I WITH DIAERESIS AND ACUTE=1E2E;37=CF;29OT ABOVE=130;32BELOW=1ECA
LATIN CAPITAL LETTER I WITH DOUBLE GRAVE=208;28GRAVE=CC;28HOOK ABOVE=1EC8;28INVERTED BREVE=20A
LATIN CAPITAL LETTER I WITH MACRON=12A;28OGONEK=12E;28STROKE=197;28TILDE BELOW=1E2C;33=128;22=49
LATIN CAPITAL LETTER INSULAR D=A779;29F=A77B;29G=A77D;29R=A782;29S=A784;29T=A786;22OTA=196
LATIN CAPITAL LETTER IS=A76C;21J WITH CIRCUMFLEX=134;29ROSSED-TAIL=A7B2;28STROKE=248;22=4A
LATIN CAPITAL LETTER K WITH ACUTE=1E30;28CARON=1E8;29EDILLA=136;28DESCENDER=2C69
LATIN CAPITAL LETTER K WITH DIAGONAL STROKE=A742;29OT BELOW=1E32;28HOOK=198;28LINE BELOW=1E34
LATIN CAPITAL LETTER K WITH OBLIQUE STROKE=A7A2;28STROKE AND DIAGONAL STROKE=A744;34=A740;22=4B
LATIN CAPITAL LETTER L WITH ACUTE=139;28BAR=23D;29ELT=A7AD;28CARON=13D;29EDILLA=13B
LATIN CAPITAL LETTER L WITH CIRCUMFLEX BELOW=1E3C;28DOT BELOW AND MACRON=1E38;37=1E36
LATIN CAPITAL LETTER L WITH DOUBLE BAR=2C60;28HIGH STROKE=A748;28LINE BELOW=1E3A;28MIDDLE DOT=13F
LATIN CAPITAL LETTER L WITH MIDDLE TILDE=2C62;28SMALL LETTER J=1C8;29TROKE=141;22=4C;22J=1C7
LATIN CAPITAL LETTER M WITH ACUTE=1E3E;28DOT ABOVE=1E40;32BELOW=1E42;28HOOK=2C6E;22=4D
LATIN CAPITAL LETTER MIDDLE SCOTS S=A7D6;27-WELSH LL=1EFA;34V=1EFC;21N WITH ACUTE=143;28CARON=147
LATIN CAPITAL LETTER N WITH CEDILLA=145;29IRCUMFLEX BELOW=1E4A;28DESCENDER=A790;29OT ABOVE=1E44
LATIN CAPITAL LETTER N WITH DOT BELOW=1E46;28GRAVE=1F8;28LEFT HOOK=19D;29INE BELOW=1E48
LATIN CAPITAL LETTER N WITH LONG RIGHT LEG=220;28OBLIQUE STROKE=A7A4;28SMALL LETTER J=1CB
LATIN CAPITAL LETTER N WITH TILDE=D1;22=4E;22J=1CA;21O WITH ACUTE=D3;28BREVE=14E;28CARON=1D1
LATIN CAPITAL LETTER O WITH CIRCUMFLEX AND ACUTE=1ED0;43DOT BELOW=1ED8;43GRAVE=1ED2
LATIN CAPITAL LETTER O WITH CIRCUMFLEX AND HOOK ABOVE=1ED4;43TILDE=1ED6;38=D4
LATIN CAPITAL LETTER O WITH DIAERESIS AND MACRON=22A;37=D6;29OT ABOVE AND MACRON=230;37=22E
LATIN CAPITAL LETTER O WITH DOT BELOW=1ECC;30UBLE ACUTE=150;35GRAVE=20C;28GRAVE=D2
LATIN CAPITAL LETTER O WITH HOOK ABOVE=1ECE;30RN AND ACUTE=1EDA;37DOT BELOW=1EE2;37GRAVE=1EDC
LATIN CAPITAL LETTER O WITH HORN AND HOOK ABOVE=1EDE;37TILDE=1EE0;32=1A0;28INVERTED BREVE=20E
LATIN CAPITAL LETTER O WITH LONG STROKE OVERLAY=A74A;30OP=A74C;28MACRON AND ACUTE=1E52
LATIN CAPITAL LETTER O WITH MACRON AND GRAVE=1E50;34=14C;29IDDLE TILDE=19F;28OGONEK AND MACRON=1EC
LATIN CAPITAL LETTER O WITH OGONEK=1EA;28STROKE AND ACUTE=1FE;34=D8;28TILDE AND ACUTE=1E4C
LATIN CAPITAL LETTER O WITH TILDE AND DIAERESIS=1E4E;38MACRON=22C;33=D5;22=4F;22I=1A2
LATIN CAPITAL LETTER OLD POLISH O=A7C0;22MEGA=A7B6;22O=A74E;22PEN E=190;26O=186;22U=222
LATIN CAPITAL LETTER P WITH ACUTE=1E54;28DOT ABOVE=1E56;28FLOURISH=A752;28HOOK=1A4
LATIN CAPITAL LETTER P WITH SQUIRREL TAIL=A754;29TROKE THROUGH DESCENDER=A750;34=2C63;22=50
LATIN CAPITAL LETTER Q WITH DIAGONAL STROKE=A758;28STROKE THROUGH DESCENDER=A756;22=51
LATIN CAPITAL LETTER R ROTUNDA=A75A;23WITH ACUTE=154;28CARON=158;29EDILLA=156;28DOT ABOVE=1E58
LATIN CAPITAL LETTER R WITH DOT BELOW AND MACRON=1E5C;37=1E5A;30UBLE GRAVE=210
LATIN CAPITAL LETTER R WITH INVERTED BREVE=212;28LINE BELOW=1E5E;28OBLIQUE STROKE=A7A6
LATIN CAPITAL LETTER R WITH STROKE=24C;28TAIL=2C64;22=52;22EVERSED C WITH DOT=A73E;30E=18E
LATIN CAPITAL LETTER REVERSED HALF H=A7F5;30OPEN E=A7AB;22UM ROTUNDA=A75C
LATIN CAPITAL LETTER S WITH ACUTE AND DOT ABOVE=1E64;33=15A;28CARON AND DOT ABOVE=1E66;33=160
LATIN CAPITAL LETTER S WITH CEDILLA=15E;29IRCUMFLEX=15C;29OMMA BELOW=218;28DOT ABOVE=1E60
LATIN CAPITAL LETTER S WITH DOT BELOW AND DOT ABOVE=1E68;37=1E62;28HOOK=A7C5;28OBLIQUE STROKE=A7A8
LATIN CAPITAL LETTER S WITH SHORT STROKE OVERLAY=A7C9;29WASH TAIL=2C7E;22=53;22ALTILLO=A78B
LATIN CAPITAL LETTER SCHWA=18F;23RIPT G=A7AC;22HARP S=1E9E;22IGMOID S=A7D8;22MALL CAPITAL I=A7AE
LATIN CAPITAL LETTER SMALL Q WITH HOOK TAIL=24A;21T WITH CARON=164;29EDILLA=162
LATIN CAPITAL LETTER T WITH CIRCUMFLEX BELOW=1E70;29OMMA BELOW=21A;28DIAGONAL STROKE=23E
LATIN CAPITAL LETTER T WITH DOT ABOVE=1E6A;32BELOW=1E6C;28HOOK=1AC;28LINE BELOW=1E6E
LATIN CAPITAL LETTER T WITH RETROFLEX HOOK=1AE;28STROKE=166;22=54
LATIN CAPITAL LETTER THORN WITH STROKE THROUGH DESCENDER=A766;38=A764;26=DE;22ONE FIVE=1BC
LATIN CAPITAL LETTER TONE SIX=184;26TWO=1A7;22RESILLO=A72A;22URNED A=2C6F;29LPHA=2C70;28H=A78D
LATIN CAPITAL LETTER TURNED INSULAR G=A77E;28K=A7B0;28L=A780;28M=19C;28T=A7B1;28V=245;22Z=A728
LATIN CAPITAL LETTER U BAR=244;23WITH ACUTE=DA;28BREVE=16C;28CARON=1D3;29IRCUMFLEX BELOW=1E76
LATIN CAPITAL LETTER U WITH CIRCUMFLEX=DB;28DIAERESIS AND ACUTE=1D7;42CARON=1D9;42GRAVE=1DB
LATIN CAPITAL LETTER U WITH DIAERESIS AND MACRON=1D5;38BELOW=1E72;37=DC;29OT BELOW=1EE4
LATIN CAPITAL LETTER U WITH DOUBLE ACUTE=170;35GRAVE=214;28GRAVE=D9;28HOOK ABOVE=1EE6
LATIN CAPITAL LETTER U WITH HORN AND ACUTE=1EE8;37DOT BELOW=1EF0;37GRAVE=1EEA;37HOOK ABOVE=1EEC
LATIN CAPITAL LETTER U WITH HORN AND TILDE=1EEE;32=1AF;28INVERTED BREVE=216
LATIN CAPITAL LETTER U WITH MACRON AND DIAERESIS=1E7A;34=16A;28OGONEK=172;28RING ABOVE=16E
LATIN CAPITAL LETTER U WITH STROKE=A7B8;28TILDE AND ACUTE=1E78;34BELOW=1E74;33=168;22=55
LATIN CAPITAL LETTER UPSILON=1B1;21V WITH DIAGONAL STROKE=A75E;29OT BELOW=1E7E;28HOOK=1B2
LATIN CAPITAL LETTER V WITH TILDE=1E7C;22=56;22END=A768;22ISIGOTHIC Z=A762;22OLAPUK AE=A79A
LATIN CAPITAL LETTER VOLAPUK OE=A79C;29UE=A79E;22Y=A760;21W WITH ACUTE=1E82;28CIRCUMFLEX=174
LATIN CAPITAL LETTER W WITH DIAERESIS=1E84;29OT ABOVE=1E86;32BELOW=1E88;28GRAVE=1E80;28HOOK=2C72
LATIN CAPITAL LETTER W=57;22YNN=1F7;21X WITH DIAERESIS=1E8C;29OT ABOVE=1E8A;22=58
LATIN CAPITAL LETTER Y WITH ACUTE=DD;28CIRCUMFLEX=176;28DIAERESIS=178;29OT ABOVE=1E8E;32BELOW=1EF4
LATIN CAPITAL LETTER Y WITH GRAVE=1EF2;28HOOK ABOVE=1EF6;32=1B3;28LOOP=1EFE;28MACRON=232
LATIN CAPITAL LETTER Y WITH STROKE=24E;28TILDE=1EF8;22=59;22OGH=21C;21Z WITH ACUTE=179;28CARON=17D
LATIN CAPITAL LETTER Z WITH CIRCUMFLEX=1E90;28DESCENDER=2C6B;29OT ABOVE=17B;32BELOW=1E92
LATIN CAPITAL LETTER Z WITH HOOK=224;28LINE BELOW=1E94;28PALATAL HOOK=A7C6;28STROKE=1B5
LATIN CAPITAL LETTER Z WITH SWASH TAIL=2C7F;22=5A;15IGATURE IJ=132;23OE=152;07ROSS=271D
LATIN EPIGRAPHIC LETTER ARCHAIC M=A7FF;24I LONGA=A7FE;25NVERTED M=A7FD;24REVERSED F=A7FB;33P=A7FC
LATIN EPIGRAPHIC LETTER SIDEWAYS I=A7F7;06LETTER AIN=1D25;14LVEOLAR CLICK=1C2
LATIN LETTER BIDENTAL PERCUSSIVE=2AD;15LABIAL CLICK=298;22PERCUSSIVE=2AC;13DENTAL CLICK=1C0
LATIN LETTER GLOTTAL STOP WITH STROKE=2A1;25=294;13INVERTED GLOTTAL STOP WITH CURL=1DF0E
LATIN LETTER INVERTED GLOTTAL STOP WITH STROKE=1BE;34=296;13LATERAL CLICK=1C1
LATIN LETTER PHARYNGEAL VOICED FRICATIVE=295;13RETROFLEX CLICK WITH RETROFLEX HOOK=1DF0A;28=1C3
LATIN LETTER REVERSED ESH LOOP=1AA;22GLOTTAL STOP WITH STROKE=2A2;13SINOLOGICAL DOT=A78F
LATIN LETTER SMALL CAPITAL A=1D00;28E=1D01;27B=299;28ARRED B=1D03;27C=1D04;27D=1D05;27E=1D07
LATIN LETTER SMALL CAPITAL ETH=1D06;28ZH=1D23;27F=A730;27G WITH HOOK=29B;28=262;27H=29C;27I=26A
LATIN LETTER SMALL CAPITAL INVERTED R=281;27J=1D0A;27K=1D0B;27L WITH BELT=1DF04;34STROKE=1D0C
LATIN LETTER SMALL CAPITAL L=29F;27M=1D0D;27N=274;27O=1D0F;28E=276;28PEN O=1D10;28U=1D15;27P=1D18
LATIN LETTER SMALL CAPITAL Q=A7AF;27R WITH RIGHT LEG=AB46;28=280;28EVERSED N=1D0E;36R=1D19
LATIN LETTER SMALL CAPITAL RUM=A776;27S=A731;27T=1D1B;28URNED E=2C7B;34G=1DF02;34K=1DF10;34M=A7FA
LATIN LETTER SMALL CAPITAL TURNED R=1D1A;27U=1D1C;27V=1D20;27W=1D21;27Y=28F;27Z=1D22
LATIN LETTER STRETCHED C WITH CURL=1DF0F;24=297;13TWO WITH STROKE=1BB
LATIN LETTER VOICED LARYNGEAL SPIRANT=1D24;13WYNN=1BF;13YR=1A6
LATIN SMALL CAPITAL LETTER I WITH STROKE=1D7B;27U WITH STROKE=1D7E;12LETTER A REVERSED-SCHWA=AB31
LATIN SMALL LETTER A WITH ACUTE=E1;26BREVE AND ACUTE=1EAF;36DOT BELOW=1EB7;36GRAVE=1EB1
LATIN SMALL LETTER A WITH BREVE AND HOOK ABOVE=1EB3;36TILDE=1EB5;31=103;26CARON=1CE
LATIN SMALL LETTER A WITH CIRCUMFLEX AND ACUTE=1EA5;41DOT BELOW=1EAD;41GRAVE=1EA7
LATIN SMALL LETTER A WITH CIRCUMFLEX AND HOOK ABOVE=1EA9;41TILDE=1EAB;36=E2
LATIN SMALL LETTER A WITH DIAERESIS AND MACRON=1DF;35=E4;27OT ABOVE AND MACRON=1E1;35=227
LATIN SMALL LETTER A WITH DOT BELOW=1EA1;28UBLE GRAVE=201;26GRAVE=E0;26HOOK ABOVE=1EA3
LATIN SMALL LETTER A WITH INVERTED BREVE=203;26MACRON=101;26OGONEK=105;26RETROFLEX HOOK=1D8F
LATIN SMALL LETTER A WITH RIGHT HALF RING=1E9A;28NG ABOVE AND ACUTE=1FB;36=E5;31BELOW=1E01
LATIN SMALL LETTER A WITH STROKE=2C65;26TILDE=E3;20=61;20A=A733;20E WITH ACUTE=1FD;27MACRON=1E3
LATIN SMALL LETTER AE=E6;20LPHA WITH RETROFLEX HOOK=1D90;24=251;20NGLICANA W=A7C3;20O=A735
LATIN SMALL LETTER AU=A737;20V WITH HORIZONTAL BAR=A73B;21=A739;20Y=A73D;19B WITH DOT ABOVE=1E03
LATIN SMALL LETTER B WITH DOT BELOW=1E05;26FLOURISH=A797;26HOOK=253;26LINE BELOW=1E07
LATIN SMALL LETTER B WITH MIDDLE TILDE=1D6C;26PALATAL HOOK=1D80;26STROKE=180;26TOPBAR=183;20=62
LATIN SMALL LETTER BARRED ALPHA=AB30;26E=AB33;26O=275;21SELINE ESH=AB4D;20ETA=A7B5
LATIN SMALL LETTER BLACKLETTER E=AB32;31O WITH STROKE=AB3E;32=AB3D;20OTTOM HALF O=1D17
LATIN SMALL LETTER BROKEN L=A747;19C WITH ACUTE=107;26BAR=A793;26CARON=10D;27EDILLA AND ACUTE=1E09
LATIN SMALL LETTER C WITH CEDILLA=E7;27IRCUMFLEX=109;27URL=255;26DOT ABOVE=10B;26HOOK=188
LATIN SMALL LETTER C WITH PALATAL HOOK=A794;26RETROFLEX HOOK=1DF1D;26STROKE=23C;20=63
LATIN SMALL LETTER CHI WITH LOW LEFT SERIF=AB55;32RIGHT RING=AB54;22=AB53;20LOSED INSULAR G=A7D1
LATIN SMALL LETTER CLOSED OMEGA=277;27PEN E=29A;26REVERSED OPEN E=25E;20ON=A76F
LATIN SMALL LETTER CUATRILLO WITH COMMA=A72F;28=A72D;19D WITH CARON=10F;27EDILLA=1E11
LATIN SMALL LETTER D WITH CIRCUMFLEX BELOW=1E13;27URL=221;26DOT ABOVE=1E0B;30BELOW=1E0D
LATIN SMALL LETTER D WITH HOOK AND TAIL=1D91;30=257;26LINE BELOW=1E0F;26MIDDLE TILDE=1D6D
LATIN SMALL LETTER D WITH PALATAL HOOK=1D81;26SHORT STROKE OVERLAY=A7C8;27TROKE=111;26TAIL=256
LATIN SMALL LETTER D WITH TOPBAR=18C;20=64;20B DIGRAPH=238;20ELTA=1E9F
LATIN SMALL LETTER DEZH DIGRAPH WITH PALATAL HOOK=1DF12;37RETROFLEX HOOK=1DF19;31=2A4
LATIN SMALL LETTER DOTLESS I=131;27J WITH STROKE AND HOOK=284;40=25F;28=237
LATIN SMALL LETTER DOUBLE R WITH CROSSED-TAIL=AB4A;27=AB48;26THORN=A7D3;26WYNN=A7D5;20UM=A771
LATIN SMALL LETTER DZ DIGRAPH WITH CURL=2A5;35RETROFLEX HOOK=AB66;29=2A3;22WITH CARON=1C6;21=1F3
LATIN SMALL LETTER E WITH ACUTE=E9;26BREVE=115;26CARON=11B;27EDILLA AND BREVE=1E1D;33=229
LATIN SMALL LETTER E WITH CIRCUMFLEX AND ACUTE=1EBF;41DOT BELOW=1EC7;41GRAVE=1EC1
LATIN SMALL LETTER E WITH CIRCUMFLEX AND HOOK ABOVE=1EC3;41TILDE=1EC5;37BELOW=1E19;36=EA
LATIN SMALL LETTER E WITH DIAERESIS=EB;27OT ABOVE=117;30BELOW=1EB9;28UBLE GRAVE=205
LATIN SMALL LETTER E WITH FLOURISH=AB34;26GRAVE=E8;26HOOK ABOVE=1EBB;26INVERTED BREVE=207
LATIN SMALL LETTER E WITH MACRON AND ACUTE=1E17;37GRAVE=1E15;32=113;26NOTCH=2C78;26OGONEK=119
LATIN SMALL LETTER E WITH RETROFLEX HOOK=1D92;26STROKE=247;26TILDE BELOW=1E1B;31=1EBD;20=65
LATIN SMALL LETTER EGYPTOLOGICAL AIN=A725;34LEF=A723;20NG WITH CROSSED-TAIL=AB3C
LATIN SMALL LETTER ENG WITH PALATAL HOOK=1DF14;22=14B;20SH WITH CURL=286
LATIN SMALL LETTER ESH WITH DOUBLE BAR AND CURL=1DF0C;38=1DF0B;28PALATAL HOOK=1D8B
LATIN SMALL LETTER ESH WITH RETROFLEX HOOK=1D98;22=283;20T=A76B;21H=F0;20ZH REVERSED=1B9
LATIN SMALL LETTER EZH WITH CARON=1EF;29URL=293;28PALATAL HOOK=1DF18;28RETROFLEX HOOK=1D9A
LATIN SMALL LETTER EZH WITH TAIL=1BA;22=292;19F WITH DOT ABOVE=1E1F;26HOOK=192;26MIDDLE TILDE=1D6E
LATIN SMALL LETTER F WITH PALATAL HOOK=1D82;26STROKE=A799;20=66;20ENG DIGRAPH WITH TRILL=1DF00
LATIN SMALL LETTER FENG DIGRAPH=2A9;19G WITH ACUTE=1F5;26BREVE=11F;26CARON=1E7;27EDILLA=123
LATIN SMALL LETTER G WITH CIRCUMFLEX=11D;26DOT ABOVE=121;26HOOK=260;26MACRON=1E21
LATIN SMALL LETTER G WITH OBLIQUE STROKE=A7A1;26PALATAL HOOK=1D83;26STROKE=1E5;20=67;20AMMA=263
LATIN SMALL LETTER GHA=1A3;20LOTTAL A=A7BB;27I=A7BD;27STOP=242;27U=A7BF;19H WITH BREVE BELOW=1E2B
LATIN SMALL LETTER H WITH CARON=21F;27EDILLA=1E29;27IRCUMFLEX=125;26DESCENDER=2C68;27IAERESIS=1E27
LATIN SMALL LETTER H WITH DOT ABOVE=1E23;30BELOW=1E25;26HOOK=266;26LINE BELOW=1E96
LATIN SMALL LETTER H WITH PALATAL HOOK=A795;26STROKE=127;20=68;20ALF H=2C76;20ENG WITH HOOK=267
LATIN SMALL LETTER HENG=A727;20V=195;19I WITH ACUTE=ED;26BREVE=12D;26CARON=1D0;27IRCUMFLEX=EE
LATIN SMALL LETTER I WITH DIAERESIS AND ACUTE=1E2F;35=EF;27OT BELOW=1ECB;28UBLE GRAVE=209
LATIN SMALL LETTER I WITH GRAVE=EC;26HOOK ABOVE=1EC9;26INVERTED BREVE=20B;26MACRON=12B
LATIN SMALL LETTER I WITH OGONEK=12F;26RETROFLEX HOOK=1D96;26STROKE AND RETROFLEX HOOK=1DF1A
LATIN SMALL LETTER I WITH STROKE=268;26TILDE BELOW=1E2D;31=129;20=69;20NSULAR D=A77A;27F=A77C
LATIN SMALL LETTER INSULAR G=1D79;27R=A783;27S=A785;27T=A787;21VERTED ALPHA=AB64;28OE=AB40
LATIN SMALL LETTER IOTA WITH STROKE=1D7C;23=269;22IFIED E=AB61;20S=A76D;19J WITH CARON=1F0
LATIN SMALL LETTER J WITH CIRCUMFLEX=135;27ROSSED-TAIL=29D;26STROKE=249;20=6A;19K WITH ACUTE=1E31
LATIN SMALL LETTER K WITH CARON=1E9;27EDILLA=137;26DESCENDER=2C6A;27IAGONAL STROKE=A743
LATIN SMALL LETTER K WITH DOT BELOW=1E33;26HOOK=199;26LINE BELOW=1E35;26OBLIQUE STROKE=A7A3
LATIN SMALL LETTER K WITH PALATAL HOOK=1D84;26STROKE AND DIAGONAL STROKE=A745;32=A741;20=6B
LATIN SMALL LETTER KRA=138;19L WITH ACUTE=13A;26BAR=19A;27ELT AND PALATAL HOOK=1DF13;30=26C
LATIN SMALL LETTER L WITH CARON=13E;27EDILLA=13C;27IRCUMFLEX BELOW=1E3D;27URL=234
LATIN SMALL LETTER L WITH DOT BELOW AND MACRON=1E39;35=1E37;28UBLE BAR=2C61;33MIDDLE TILDE=AB38
LATIN SMALL LETTER L WITH FISHHOOK=1DF11;26HIGH STROKE=A749;26INVERTED LAZY S=AB37
LATIN SMALL LETTER L WITH LINE BELOW=1E3B;26MIDDLE DOT=140;33RING=AB39;33TILDE=26B
LATIN SMALL LETTER L WITH PALATAL HOOK=1D85;26RETROFLEX HOOK AND BELT=A78E;40=26D;26STROKE=142
LATIN SMALL LETTER L=6C;20AMBDA WITH STROKE=19B;20ENIS F=AB35;21ZH WITH RETROFLEX HOOK=1DF05
LATIN SMALL LETTER LEZH=26E;20J=1C9;20ONG S WITH DIAGONAL STROKE=1E9C;32OT ABOVE=1E9B
LATIN SMALL LETTER LONG S WITH HIGH STROKE=1E9D;25=17F;20S DIGRAPH=2AA;20UM=A772;20Z DIGRAPH=2AB
LATIN SMALL LETTER M WITH ACUTE=1E3F;26CROSSED-TAIL=AB3A;26DOT ABOVE=1E41;30BELOW=1E43;26HOOK=271
LATIN SMALL LETTER M WITH MIDDLE TILDE=1D6F;26PALATAL HOOK=1D86;20=6D;20IDDLE SCOTS S=A7D7
LATIN SMALL LETTER MIDDLE-WELSH LL=1EFB;32V=1EFD;20UM=A773;19N PRECEDED BY APOSTROPHE=149
LATIN SMALL LETTER N WITH ACUTE=144;26CARON=148;27EDILLA=146;27IRCUMFLEX BELOW=1E4B
LATIN SMALL LETTER N WITH CROSSED-TAIL=AB3B;27URL=235;26DESCENDER=A791;27OT ABOVE=1E45
LATIN SMALL LETTER N WITH DOT BELOW=1E47;26GRAVE=1F9;26LEFT HOOK=272;27INE BELOW=1E49
LATIN SMALL LETTER N WITH LONG RIGHT LEG=19E;26MIDDLE TILDE=1D70;26OBLIQUE STROKE=A7A5
LATIN SMALL LETTER N WITH PALATAL HOOK=1D87;26RETROFLEX HOOK=273;26TILDE=F1;20=6E;20J=1CC
LATIN SMALL LETTER NUM=A774;19O WITH ACUTE=F3;26BREVE=14F;26CARON=1D2;27IRCUMFLEX AND ACUTE=1ED1
LATIN SMALL LETTER O WITH CIRCUMFLEX AND DOT BELOW=1ED9;41GRAVE=1ED3;41HOOK ABOVE=1ED5
LATIN SMALL LETTER O WITH CIRCUMFLEX AND TILDE=1ED7;36=F4;26DIAERESIS AND MACRON=22B;35=F6
LATIN SMALL LETTER O WITH DOT ABOVE AND MACRON=231;35=22F;30BELOW=1ECD;28UBLE ACUTE=151
LATIN SMALL LETTER O WITH DOUBLE GRAVE=20D;26GRAVE=F2;26HOOK ABOVE=1ECF;28RN AND ACUTE=1EDB
LATIN SMALL LETTER O WITH HORN AND DOT BELOW=1EE3;35GRAVE=1EDD;35HOOK ABOVE=1EDF;35TILDE=1EE1
LATIN SMALL LETTER O WITH HORN=1A1;26INVERTED BREVE=20F;26LONG STROKE OVERLAY=A74B;28OP=A74D
LATIN SMALL LETTER O WITH LOW RING INSIDE=2C7A;26MACRON AND ACUTE=1E53;37GRAVE=1E51;32=14D
LATIN SMALL LETTER O WITH OGONEK AND MACRON=1ED;32=1EB;26RETROFLEX HOOK=1DF1B
LATIN SMALL LETTER O WITH STROKE AND ACUTE=1FF;32=F8;26TILDE AND ACUTE=1E4D;36DIAERESIS=1E4F
LATIN SMALL LETTER O WITH TILDE AND MACRON=22D;31=F5;20=6F;20I=1A3;20LD POLISH O=A7C1;20MEGA=A7B7
LATIN SMALL LETTER OO=A74F;20PEN E WITH RETROFLEX HOOK=1D93;25=25B;24O WITH RETROFLEX HOOK=1D97
LATIN SMALL LETTER OPEN O WITH STROKE=AB3F;25=254;25E=AB62;20U=223;19P WITH ACUTE=1E55
LATIN SMALL LETTER P WITH DOT ABOVE=1E57;26FLOURISH=A753;26HOOK=1A5;26MIDDLE TILDE=1D71
LATIN SMALL LETTER P WITH PALATAL HOOK=1D88;26SQUIRREL TAIL=A755;27TROKE THROUGH DESCENDER=A751
LATIN SMALL LETTER P WITH STROKE=1D7D;20=70;20HI=278;19Q WITH DIAGONAL STROKE=A759;26HOOK TAIL=24B
LATIN SMALL LETTER Q WITH HOOK=2A0;26STROKE THROUGH DESCENDER=A757;20=71;20P DIGRAPH=239
LATIN SMALL LETTER R ROTUNDA=A75B;21WITH ACUTE=155;26CARON=159;27EDILLA=157;27ROSSED-TAIL=AB49
LATIN SMALL LETTER R WITH DOT ABOVE=1E59;30BELOW AND MACRON=1E5D;35=1E5B;28UBLE GRAVE=211
LATIN SMALL LETTER R WITH FISHHOOK AND MIDDLE TILDE=1D73;39PALATAL HOOK=1DF16;34=27E
LATIN SMALL LETTER R WITH INVERTED BREVE=213;26LINE BELOW=1E5F;27ONG LEG=27C;26MIDDLE TILDE=1D72
LATIN SMALL LETTER R WITH OBLIQUE STROKE=A7A7;26PALATAL HOOK=1D89;26STROKE=24D;26TAIL=27D
LATIN SMALL LETTER R WITHOUT HANDLE=AB47;20=72;20AMS HORN=264;20EVERSED C WITH DOT=A73F;29=2184
LATIN SMALL LETTER REVERSED E=258;29NG=1DF07;28HALF H=A7F6;28K=1DF03;28OPEN E WITH HOOK=25D
LATIN SMALL LETTER REVERSED OPEN E WITH RETROFLEX HOOK=1D94;34=25C;28R WITH FISHHOOK=27F
LATIN SMALL LETTER REVERSED SCRIPT G=1DF01;20UM ROTUNDA=A75D;22=A775
LATIN SMALL LETTER S WITH ACUTE AND DOT ABOVE=1E65;31=15B;26CARON AND DOT ABOVE=1E67;31=161
LATIN SMALL LETTER S WITH CEDILLA=15F;27IRCUMFLEX=15D;27OMMA BELOW=219;27URL=1DF1E
LATIN SMALL LETTER S WITH DOT ABOVE=1E61;30BELOW AND DOT ABOVE=1E69;35=1E63;26HOOK=282
LATIN SMALL LETTER S WITH MIDDLE TILDE=1D74;26OBLIQUE STROKE=A7A9;26PALATAL HOOK=1D8A
LATIN SMALL LETTER S WITH SHORT STROKE OVERLAY=A7CA;27WASH TAIL=23F;20=73;20AKHA YAT=AB60
LATIN SMALL LETTER SALTILLO=A78C;20CHWA WITH HOOK=25A;30RETROFLEX HOOK=1D95;24=259
LATIN SMALL LETTER SCRIPT G WITH CROSSED-TAIL=AB36;27=261;26R WITH RING=AB4C;27=AB4B;20HARP S=DF
LATIN SMALL LETTER SIDEWAYS DIAERESIZED U=1D1E;28O WITH STROKE=1D13;29=1D11;29PEN O=1D12
LATIN SMALL LETTER SIDEWAYS TURNED M=1D1F;28U=1D1D;21GMOID S=A7D9;20QUAT REVERSED ESH=285
LATIN SMALL LETTER STIRRUP R=AB45;19T WITH CARON=165;27EDILLA=163;27IRCUMFLEX BELOW=1E71
LATIN SMALL LETTER T WITH COMMA BELOW=21B;27URL=236;26DIAERESIS=1E97;29GONAL STROKE=2C66
LATIN SMALL LETTER T WITH DOT ABOVE=1E6B;30BELOW=1E6D;26HOOK AND RETROFLEX HOOK=1DF09;30=1AD
LATIN SMALL LETTER T WITH LINE BELOW=1E6F;26MIDDLE TILDE=1D75;26PALATAL HOOK=1AB
LATIN SMALL LETTER T WITH RETROFLEX HOOK=288;26STROKE=167;20=74;20AILLESS PHI=2C77
LATIN SMALL LETTER TC DIGRAPH WITH CURL=2A8;20ESH DIGRAPH WITH PALATAL HOOK=1DF17
LATIN SMALL LETTER TESH DIGRAPH WITH RETROFLEX HOOK=1DF1C;31=2A7;20H WITH STRIKETHROUGH=1D7A
LATIN SMALL LETTER THORN WITH STROKE THROUGH DESCENDER=A767;36=A765;24=FE;20ONE FIVE=1BD;24SIX=185
LATIN SMALL LETTER TONE TWO=1A8;21P HALF O=1D16;20RESILLO=A72B
LATIN SMALL LETTER TS DIGRAPH WITH RETROFLEX HOOK=AB67;29=2A6;20UM=A777;21RNED A=250;27E=1D02
LATIN SMALL LETTER TURNED ALPHA=252;26DELTA=18D;26E=1DD;26G=1D77;26H WITH FISHHOOK AND TAIL=2AF
LATIN SMALL LETTER TURNED H WITH FISHHOOK=2AE;27=265;26I=1D09;27NSULAR G=A77F;26K=29E;26L=A781
LATIN SMALL LETTER TURNED M WITH LONG LEG=270;27=26F;26O OPEN-O WITH STROKE=AB44;34=AB43
LATIN SMALL LETTER TURNED OE WITH HORIZONTAL STROKE=AB42;34STROKE=AB41;28=1D14;27PEN E=1D08
LATIN SMALL LETTER TURNED R WITH HOOK=27B;33LONG LEG AND RETROFLEX HOOK=1DF08;41=27A
LATIN SMALL LETTER TURNED R WITH MIDDLE TILDE=AB68;33PALATAL HOOK=1DF15;33TAIL=2C79;27=279
LATIN SMALL LETTER TURNED T WITH CURL=1DF0D;27=287;26UI=AB51;26V=28C;26W=28D;26Y WITH BELT=1DF06
LATIN SMALL LETTER TURNED Y=28E;20Z=A729;19U BAR WITH SHORT RIGHT LEG=AB4F;24=289;21WITH ACUTE=FA
LATIN SMALL LETTER U WITH BREVE=16D;26CARON=1D4;27IRCUMFLEX BELOW=1E77;36=FB
LATIN SMALL LETTER U WITH DIAERESIS AND ACUTE=1D8;40CARON=1DA;40GRAVE=1DC;40MACRON=1D6
LATIN SMALL LETTER U WITH DIAERESIS BELOW=1E73;35=FC;27OT BELOW=1EE5;28UBLE ACUTE=171;33GRAVE=215
LATIN SMALL LETTER U WITH GRAVE=F9;26HOOK ABOVE=1EE7;28RN AND ACUTE=1EE9;35DOT BELOW=1EF1
LATIN SMALL LETTER U WITH HORN AND GRAVE=1EEB;35HOOK ABOVE=1EED;35TILDE=1EEF;30=1B0
LATIN SMALL LETTER U WITH INVERTED BREVE=217;26LEFT HOOK=AB52;26MACRON AND DIAERESIS=1E7B;32=16B
LATIN SMALL LETTER U WITH OGONEK=173;26RETROFLEX HOOK=1D99;27ING ABOVE=16F;26SHORT RIGHT LEG=AB4E
LATIN SMALL LETTER U WITH STROKE=A7B9;26TILDE AND ACUTE=1E79;32BELOW=1E75;31=169;20=75;20E=1D6B
LATIN SMALL LETTER UI=AB50;20M=A778;20O=AB63;20PSILON WITH STROKE=1D7F;26=28A;19V WITH CURL=2C74
LATIN SMALL LETTER V WITH DIAGONAL STROKE=A75F;27OT BELOW=1E7F;26HOOK=28B;26PALATAL HOOK=1D8C
LATIN SMALL LETTER V WITH RIGHT HOOK=2C71;26TILDE=1E7D;20=76;20END=A769;20ISIGOTHIC Z=A763
LATIN SMALL LETTER VOLAPUK AE=A79B;27OE=A79D;27UE=A79F;20Y=A761;19W WITH ACUTE=1E83
LATIN SMALL LETTER W WITH CIRCUMFLEX=175;26DIAERESIS=1E85;27OT ABOVE=1E87;30BELOW=1E89
LATIN SMALL LETTER W WITH GRAVE=1E81;26HOOK=2C73;26RING ABOVE=1E98;20=77;19X WITH DIAERESIS=1E8D
LATIN SMALL LETTER X WITH DOT ABOVE=1E8B;26LONG LEFT LEG AND LOW RIGHT RING=AB58;40WITH SERIF=AB59
LATIN SMALL LETTER X WITH LONG LEFT LEG=AB57;28W RIGHT RING=AB56;26PALATAL HOOK=1D8D;20=78
LATIN SMALL LETTER Y WITH ACUTE=FD;26CIRCUMFLEX=177;26DIAERESIS=FF;27OT ABOVE=1E8F;30BELOW=1EF5
LATIN SMALL LETTER Y WITH GRAVE=1EF3;26HOOK ABOVE=1EF7;30=1B4;26LOOP=1EFF;26MACRON=233
LATIN SMALL LETTER Y WITH RING ABOVE=1E99;26SHORT RIGHT LEG=AB5A;27TROKE=24F;26TILDE=1EF9;20=79
LATIN SMALL LETTER YOGH=21D;19Z WITH ACUTE=17A;26CARON=17E;27IRCUMFLEX=1E91;27URL=291
LATIN SMALL LETTER Z WITH DESCENDER=2C6C;27OT ABOVE=17C;30BELOW=1E93;26HOOK=225;26LINE BELOW=1E95
LATIN SMALL LETTER Z WITH MIDDLE TILDE=1D76;26PALATAL HOOK=1D8E;26RETROFLEX HOOK=290;26STROKE=1B6
LATIN SMALL LETTER Z WITH SWASH TAIL=240;20=7A;13IGATURE FF=FB00;23I=FB03;23L=FB04;22I=FB01
LATIN SMALL LIGATURE FL=FB02;21IJ=133;21LONG S T=FB05;21OE=153;21ST=FB06
LATIN SUBSCRIPT SMALL LETTER A=2090;29E=2091;29H=2095;29I=1D62;29J=2C7C;29K=2096;29L=2097;29M=2098
LATIN SUBSCRIPT SMALL LETTER N=2099;29O=2092;29P=209A;29R=1D63;29S=209B;30CHWA=2094;29T=209C
LATIN SUBSCRIPT SMALL LETTER U=1D64;29V=1D65;29X=2093;01EAF FLUTTERING IN WIND=1F343
LEAFY GREEN=1F96C;02DGER=1F4D2;02FT AND LOWER AND RIGHT TRIANGULAR THREE QUARTERS BLOCK=1FB69
LEFT AND LOWER ONE EIGHTH BLOCK=1FB7C;09RIGHT DOUBLE TURNSTILE=27DA;15TACK=27DB
LEFT AND RIGHT TRIANGULAR HALF BLOCK=1FB9B;09UPPER AND RIGHT TRIANGULAR THREE QUARTERS BLOCK=1FB6B
LEFT AND UPPER ONE EIGHTH BLOCK=1FB7D;07GER BUBBLE=1F5EE;08LE BRACKET WITH DOT=2991;18=3008
LEFT ARC LESS-THAN BRACKET=2993;07ROW WITH CIRCLED PLUS=2B32;16SMALL CIRCLE=2B30
LEFT BARB DOWN RIGHT BARB DOWN HARPOON=2950;26UP HARPOON=294B;10UP RIGHT BARB DOWN HARPOON=294A
LEFT BARB UP RIGHT BARB UP HARPOON=294E;06LACK LENTICULAR BRACKET=3010
LEFT BLACK TORTOISE SHELL BRACKET=2997;05CEILING=2308;06LOSED ENTRY=26DC;06ORNER BRACKET=300C
LEFT CURLY BRACKET LOWER HOOK=23A9;19MIDDLE PIECE=23A8;19UPPER HOOK=23A7;18=7B
LEFT DOTTED SUBSTITUTION BRACKET=2E04;07UBLE ANGLE BRACKET=300A;12PARENTHESIS=2E28
LEFT DOUBLE QUOTATION MARK=201C;12WIGGLY FENCE=29DA;05FISH TAIL=297C;07VE EIGHTHS BLOCK=258B
LEFT FLOOR=230A;05HALF BLACK CIRCLE=25D6;16STAR=2BE8;12OCK=258C;10CIRCLE WITH DOT=1F906
LEFT HALF CIRCLE WITH FOUR DOTS=1F903;22THREE DOTS=1F904;23WO DOTS=1F905;16=1F907;10FOLDER=1FBB9
LEFT HALF INVERSE MEDIUM SHADE AND RIGHT HALF BLOCK=1FB94;10MEDIUM SHADE=1FB8C;10RUNNING MAN=1FBB2
LEFT HAND TELEPHONE RECEIVER=1F57B;05LOW PARAPHRASE BRACKET=2E1C;06UGGAGE=1F6C5;05MULTIMAP=27DC
LEFT NORMAL FACTOR SEMIDIRECT PRODUCT=22C9;05ONE EIGHTH BLOCK=258F;09QUARTER BLOCK=258E
LEFT OUTER JOIN=27D5;05PARENTHESIS EXTENSION=239C;17LOWER HOOK=239D;17UPPER HOOK=239B;16=28
LEFT RAISED OMISSION BRACKET=2E0C;06IGHT ARROW THROUGH SMALL CIRCLE=2948
LEFT RIGHT ARROW WITH DOUBLE VERTICAL STROKE=21FC;22STROKE=21AE;22VERTICAL STROKE=21F9;16=2194
LEFT RIGHT BLACK ARROW=2B0C;11DOUBLE ARROW WITH STROKE=21CE;29VERTICAL STROKE=2904;23=21D4
LEFT RIGHT OPEN-HEADED ARROW=21FF;11SANS-SERIF ARROW=1F858;11TRIANGLE-HEADED ARROW=2B64
LEFT RIGHT WAVE ARROW=21AD;12HITE ARROW=2B04;05S-SHAPED BAG DELIMITER=27C5
LEFT SEMIDIRECT PRODUCT=22CB;07VEN EIGHTHS BLOCK=2589;06IDEWAYS U BRACKET=2E26
LEFT SINGLE QUOTATION MARK=2018;06PEECH BUBBLE=1F5E8;06QUARE BRACKET EXTENSION=23A2
LEFT SQUARE BRACKET LOWER CORNER=23A3;20UPPER CORNER=23A1;20WITH DOUBLE STROKE=2E57;25QUILL=2045
LEFT SQUARE BRACKET WITH STROKE=2E55;25TICK IN BOTTOM CORNER=298F;33TOP CORNER=298D
LEFT SQUARE BRACKET WITH UNDERBAR=298B;19=5B;06UBSTITUTION BRACKET=2E02;05TACK=22A3
LEFT THIRD WHITE RIGHT POINTING INDEX=1FBC1;07OUGHT BUBBLE=1F5EC;07REE EIGHTHS BLOCK=258D
LEFT THREE QUARTERS BLOCK=258A;06ORTOISE SHELL BRACKET=3014;06RANSPOSITION BRACKET=2E09
LEFT TRIANGLE BESIDE VERTICAL BAR=29CF;11ULAR ONE QUARTER BLOCK=1FB6C
LEFT VERTICAL BAR WITH QUILL=2E20;15OX LINE=23B8;05WHITE CORNER BRACKET=300E;12URLY BRACKET=2983
LEFT WHITE LENTICULAR BRACKET=3016;11PARENTHESIS=2985;11SQUARE BRACKET=301A
LEFT WHITE TORTOISE SHELL BRACKET=3018;06IGGLY FENCE=29D8;06RITING HAND=1F58E
LEFT-FACING ARMENIAN ETERNITY SIGN=58E;12FIST=1F91B;12SVASTI SIGN WITH DOTS=FD8;23=FD6
LEFT-HANDED INTERLACED PENTAGRAM=26E6;05POINTING ANGLE BRACKET=2329;14CURVED ANGLE BRACKET=29FC
LEFT-POINTING DOUBLE ANGLE QUOTATION MARK=AB;14MAGNIFYING GLASS=1F50D
LEFT-SHADED WHITE RIGHTWARDS ARROW=27AA;06IDE ARC ANTICLOCKWISE ARROW=2939
LEFT-TO-RIGHT EMBEDDING=202A;14ISOLATE=2066;14MARK=200E;14OVERRIDE=202D
LEFTWARDS ARROW ABOVE ALMOST EQUAL TO=2B4A;22REVERSE ALMOST EQUAL TO=2B42;30TILDE OPERATOR=2B4B
LEFTWARDS ARROW ABOVE SHORT RIGHTWARDS ARROW=2943;22TILDE OPERATOR=2973
LEFTWARDS ARROW AND UPPER AND LOWER ONE EIGHTH BLOCK=1FBB5;16FROM BAR TO BLACK DIAMOND=291F
LEFTWARDS ARROW FROM BAR=21A4;16OVER RIGHTWARDS ARROW=21C6;16THROUGH LESS-THAN=2977;24SUBSET=297A
LEFTWARDS ARROW THROUGH X=2B3E;17O BAR OVER RIGHTWARDS ARROW TO BAR=21B9;22=21E4
LEFTWARDS ARROW TO BLACK DIAMOND=291D;16WITH DOTTED STEM=2B38;23UBLE VERTICAL STROKE=21FA
LEFTWARDS ARROW WITH EQUILATERAL ARROWHEAD=1F814;21HOOK=21A9;21LARGE TRIANGLE ARROWHEAD=1F808
LEFTWARDS ARROW WITH LOOP=21AB;21MEDIUM TRIANGLE ARROWHEAD=1F804;21NOTCHED TAIL=1F898
LEFTWARDS ARROW WITH PLUS BELOW=2946;21SMALL EQUILATERAL ARROWHEAD=1F810
LEFTWARDS ARROW WITH SMALL TRIANGLE ARROWHEAD=1F800;22TROKE=219A
LEFTWARDS ARROW WITH TAIL WITH DOUBLE VERTICAL STROKE=2B3A;31VERTICAL STROKE=2B39;25=21A2
LEFTWARDS ARROW WITH TIP DOWNWARDS=2B10;25UPWARDS=2B11;21VERTICAL STROKE=21F7;15-TAIL=2919;15=2190
LEFTWARDS BACK-TILTED SHADOWED WHITE ARROW=1F8A8;11LACK ARROW=2B05;16CIRCLED WHITE ARROW=2B88
LEFTWARDS BOTTOM-SHADED WHITE ARROW=1F8A0;10COMPRESSED ARROW=1F83C;10DASHED ARROW=21E0
LEFTWARDS DOUBLE ARROW FROM BAR=2906;23WITH STROKE=21CD;28VERTICAL STROKE=2902;22-TAIL=291B
LEFTWARDS DOUBLE ARROW=21D0;17DASH ARROW=290C;10FINGER-POST ARROW=1F834
LEFTWARDS FRONT-TILTED SHADOWED WHITE ARROW=1F8AA;10HAND=1FAF2
LEFTWARDS HARPOON OVER RIGHTWARDS HARPOON=21CB
LEFTWARDS HARPOON WITH BARB DOWN ABOVE RIGHTWARDS HARPOON WITH BARB DOWN=2967
LEFTWARDS HARPOON WITH BARB DOWN BELOW LONG DASH=296B;33FROM BAR=295E;33TO BAR=2956;32WARDS=21BD
LEFTWARDS HARPOON WITH BARB UP ABOVE LEFTWARDS HARPOON WITH BARB DOWN=2962;38ONG DASH=296A
LEFTWARDS HARPOON WITH BARB UP ABOVE RIGHTWARDS HARPOON WITH BARB UP=2966;31FROM BAR=295A
LEFTWARDS HARPOON WITH BARB UP TO BAR=2952;30WARDS=21BC;11EAVY ARROW=1F844
LEFTWARDS HEAVY COMPRESSED ARROW=1F840;10LEFT-SHADED WHITE ARROW=1F8A4;10OPEN-HEADED ARROW=21FD
LEFTWARDS PAIRED ARROWS=21C7;10QUADRUPLE ARROW=2B45;10RIGHT-SHADED WHITE ARROW=1F8A6;11OCKET=1F66C
LEFTWARDS SANS-SERIF ARROW=1F850;11QUARED ARROW=1F838;13IGGLE ARROW=21DC
LEFTWARDS TOP SHADED WHITE ARROW=1F8A2;11RIANGLE ARROWHEAD=1F890
LEFTWARDS TRIANGLE-HEADED ARROW OVER RIGHTWARDS TRIANGLE-HEADED ARROW=2B80;32TO BAR=2B70
LEFTWARDS TRIANGLE-HEADED ARROW WITH BOLD SHAFT=1F828;37DOUBLE HORIZONTAL STROKE=2B7A
LEFTWARDS TRIANGLE-HEADED ARROW WITH DOUBLE VERTICAL STROKE=2B7A;37HEAVY SHAFT=1F82C
LEFTWARDS TRIANGLE-HEADED ARROW WITH LONG TIP DOWNWARDS=2BA6;46UPWARDS=2BA4;37MEDIUM SHAFT=1F824
LEFTWARDS TRIANGLE-HEADED ARROW WITH NARROW SHAFT=1F820;37VERY HEAVY SHAFT=1F830;31=2B60
LEFTWARDS TRIANGLE-HEADED DASHED ARROW=2B6A;26PAIRED ARROWS=2B84;13PLE ARROW=21DA
LEFTWARDS TRIPLE DASH ARROW=290E;11WO HEADED ARROW=219E;13-HEADED ARROW FROM BAR=2B36
LEFTWARDS TWO-HEADED ARROW WITH DOUBLE VERTICAL STROKE=2B35
LEFTWARDS TWO-HEADED ARROW WITH TAIL WITH DOUBLE VERTICAL STROKE=2B3D;42VERTICAL STROKE=2B3C
LEFTWARDS TWO-HEADED ARROW WITH TAIL=2B3B;33RIANGLE ARROWHEADS=2BEC;32VERTICAL STROKE=2B34
LEFTWARDS TWO-HEADED TRIPLE DASH ARROW=2B37;10WAVE ARROW=219C
LEFTWARDS WHITE ARROW WITHIN TRIANGLE ARROWHEAD=1F894;21=21E6;02G=1F9B5;02MON=1F34B;02O=264C
LEOPARD=1F406;02PCHA CONSONANT SIGN K=1C2D;23ANG=1C35;22L=1C2F;22M=1C2E;22N=1C30;23YIN-DO=1C34
LEPCHA CONSONANT SIGN P=1C31;22R=1C32;22T=1C33;07DIGIT EIGHT=1C48;13FIVE=1C45;14OUR=1C44
LEPCHA DIGIT NINE=1C49;13ONE=1C41;13SEVEN=1C47;14IX=1C46;13THREE=1C43;14WO=1C42;13ZERO=1C40
LEPCHA LETTER A=1C23;14BA=1C13;15LA=1C14;14CA=1C06;15HA=1C07;14DA=1C0C;15DA=1C4F;15ZA=1C19
LEPCHA LETTER FA=1C11;15LA=1C12;14GA=1C03;15LA=1C04;14HA=1C1D;15LA=1C1E;14JA=1C08;14KA=1C00
LEPCHA LETTER KHA=1C02;15LA=1C01;14LA=1C1C;14MA=1C15;15LA=1C16;14NA=1C0D;15GA=1C05;15YA=1C09
LEPCHA LETTER PA=1C0E;15HA=1C10;15LA=1C0F;14RA=1C1B;14SA=1C20;15HA=1C21;14TA=1C0A;15HA=1C0B
LEPCHA LETTER TSA=1C17;16HA=1C18;15TA=1C4D;16HA=1C4E;14VA=1C1F;14WA=1C22;14YA=1C1A
LEPCHA PUNCTUATION CER-WA=1C3D;19NYET THYOOM TA-ROL=1C3C;19TA-ROL=1C3B;20SHOOK CER-WA=1C3E;25=1C3F
LEPCHA SIGN NUKTA=1C37;12RAN=1C36;08UBJOINED LETTER RA=1C25;24YA=1C24;07VOWEL SIGN AA=1C26
LEPCHA VOWEL SIGN E=1C2C;18I=1C27;18O=1C28;19O=1C29;18U=1C2A;19U=1C2B
LESS-THAN ABOVE DOUBLE-LINE EQUAL ABOVE GREATER-THAN=2A8B
LESS-THAN ABOVE GREATER-THAN ABOVE DOUBLE-LINE EQUAL=2A91;16LEFTWARDS ARROW=2976
LESS-THAN ABOVE SIMILAR ABOVE GREATER-THAN=2A8F;24OR EQUAL=2A8D
LESS-THAN ABOVE SLANTED EQUAL ABOVE GREATER-THAN ABOVE SLANTED EQUAL=2A93
LESS-THAN AND NOT APPROXIMATE=2A89;14SINGLE-LINE NOT EQUAL TO=2A87;10BUT NOT EQUAL TO=2268
LESS-THAN BUT NOT EQUIVALENT TO=22E6;10CLOSED BY CURVE ABOVE SLANTED EQUAL=2AA8;25=2AA6
LESS-THAN EQUAL TO OR GREATER-THAN=22DA;10OR APPROXIMATE=2A85;13EQUAL TO=2264;16IVALENT TO=2272
LESS-THAN OR GREATER-THAN=2276;13SLANTED EQUAL TO WITH DOT ABOVE RIGHT=2A83;44=2A81;39INSIDE=2A7F
LESS-THAN OR SLANTED EQUAL TO=2A7D;11VER EQUAL TO=2266;10SIGN=3C;10WITH CIRCLE INSIDE=2A79
LESS-THAN WITH DOT=22D6;15QUESTION MARK ABOVE=2A7B;02VEL SLIDER=1F39A;01F=A;01IBRA=264E
LIGATURE OPEN ET ORNAMENT=1F672;03HT CHECK MARK=1F5F8;06EIGHT SPOKED ASTERISK=1F7BB
LIGHT FIVE POINTED BLACK STAR=1F7C9;11SPOKED ASTERISK=1F7AF;07OUR POINTED BLACK CUSP=2BCC
LIGHT FOUR POINTED BLACK STAR=1F7C4;06GREEK CROSS=1F7A2
LIGHT LEFT TORTOISE SHELL BRACKET ORNAMENT=2772;06RAIL=1F688
LIGHT RIGHT TORTOISE SHELL BRACKET ORNAMENT=2773;06SALTIRE=1F7A9;07HADE=2591
LIGHT SIX SPOKED ASTERISK=1F7B5;06THREE POINTED BLACK STAR=1F7C0;07WELVE POINTED BLACK STAR=1F7D2
LIGHT VERTICAL BAR=2758;06WHITE SQUARE=1F78E;05NING MOOD BUBBLE=1F5F1;14=1F5F2;09=2607
LIMBU DIGIT EIGHT=194E;12FIVE=194B;13OUR=194A;12NINE=194F;12ONE=1947;12SEVEN=194D;13IX=194C
LIMBU DIGIT THREE=1949;13WO=1948;12ZERO=1946;06EXCLAMATION MARK=1944;06LETTER BA=1912;14HA=1913
LIMBU LETTER CA=1906;14HA=1907;13DA=190D;14HA=190E;13GA=1903;14HA=1904;14YAN=191D;13HA=191C
LIMBU LETTER JA=1908;14HA=1909;13KA=1901;14HA=1902;13LA=1917;13MA=1914;13NA=190F;14GA=1905
LIMBU LETTER PA=1910;14HA=1911;13RA=1916;13SA=191B;14HA=1919;14SA=191A;13TA=190B;14HA=190C
LIMBU LETTER TRA=191E;13WA=1918;13YA=1915;15N=190A;06QUESTION MARK=1945;06SIGN KEMPHRENG=193A
LIMBU SIGN LOO=1940;11MUKPHRENG=1939;11SA-I=193B;07MALL LETTER ANUSVARA=1932;19KA=1930;19LA=1938
LIMBU SMALL LETTER MA=1936;19NA=1934;20GA=1931;19PA=1935;19RA=1937;19TA=1933
LIMBU SUBJOINED LETTER RA=192A;23WA=192B;23YA=1929;06VOWEL SIGN A=1920;18I=1924;18U=1926;17E=1927
LIMBU VOWEL SIGN EE=1923;17I=1921;17O=1928;18O=1925;17U=1922;11-CARRIER LETTER=1900
LIMITED LIABILITY SIGN=32CF;02NE FEED=A;05INTEGRATION NOT INCLUDING THE POLE=2A14
LINE INTEGRATION WITH RECTANGULAR PATH AROUND POLE=2A12;22SEMICIRCULAR PATH AROUND POLE=2A13
LINE SEPARATOR=2028;05TABULATION SET=8A;15=B;04AR A SIGN A028B=1061B;15100-102=10647;1620B=1064A
LINEAR A SIGN A131C=1064F;15301=10655;172=10656;173=10657;174=10658;175=10659;176=1065A;177=1065B
LINEAR A SIGN A308=1065C;179A=1065D;18B=1065E;18C=1065F;1610=10660;171=10661;172=10662;173A=10663
LINEAR A SIGN A313B=10664;18C=10665;174=10666;175=10667;176=10668;177=10669;178=1066A;179=1066B
LINEAR A SIGN A320=1066C;171=1066D;172=1066E;173=1066F;174=10670;175=10671;176=10672;177=10673
LINEAR A SIGN A328=10674;179=10675;1630=10676;171=10677;172=10678;173=10679;174=1067A;175=1067B
LINEAR A SIGN A336=1067C;177=1067D;178=1067E;179=1067F;1640=10680;171=10681;172=10682;173=10683
LINEAR A SIGN A344=10684;175=10685;176=10686;177=10687;178=10688;179=10689;1650=1068A;171=1068B
LINEAR A SIGN A352=1068C;173=1068D;174=1068E;175=1068F;176=10690;177=10691;178=10692;179=10693
LINEAR A SIGN A360=10694;171=10695;172=10696;173=10697;174=10698;175=10699;176=1069A;177=1069B
LINEAR A SIGN A368=1069C;179=1069D;1670=1069E;171=1069F;15400-VAS=106A0;171-VAS=106A1
LINEAR A SIGN A402-VAS=106A2;173-VAS=106A3;174-VAS=106A4;175-VAS=106A5;176-VAS=106A6;177-VAS=106A7
LINEAR A SIGN A408-VAS=106A8;179-VAS=106A9;1610-VAS=106AA;171-VAS=106AB;172-VAS=106AC
LINEAR A SIGN A413-VAS=106AD;174-VAS=106AE;175-VAS=106AF;176-VAS=106B0;177-VAS=106B1;178-VAS=106B2
LINEAR A SIGN A501=106B3;172=106B4;173=106B5;174=106B6;175=106B7;176=106B8;178=106B9;179=106BA
LINEAR A SIGN A510=106BB;171=106BC;172=106BD;173=106BE;175=106BF;176=106C0;1620=106C1;171=106C2
LINEAR A SIGN A523=106C3;174=106C4;175=106C5;176=106C6;177=106C7;178=106C8;179=106C9;1630=106CA
LINEAR A SIGN A531=106CB;172=106CC;174=106CD;175=106CE;176=106CF;177=106D0;178=106D1;179=106D2
LINEAR A SIGN A540=106D3;171=106D4;172=106D5;175=106D6;177=106D7;178=106D8;179=106D9;1650=106DA
LINEAR A SIGN A551=106DB;172=106DC;173=106DD;174=106DE;175=106DF;176=106E0;177=106E1;179=106E2
LINEAR A SIGN A563=106E3;174=106E4;175=106E5;176=106E6;178=106E7;179=106E8;1670=106E9;171=106EA
LINEAR A SIGN A572=106EB;173=106EC;174=106ED;175=106EE;176=106EF;177=106F0;178=106F1;179=106F2
LINEAR A SIGN A580=106F3;171=106F4;172=106F5;173=106F6;174=106F7;175=106F8;176=106F9;177=106FA
LINEAR A SIGN A588=106FB;179=106FC;1691=106FD;172=106FE;174=106FF;175=10700;176=10701;178=10702
LINEAR A SIGN A600=10703;171=10704;172=10705;173=10706;174=10707;176=10708;178=10709;179=1070A
LINEAR A SIGN A610=1070B;171=1070C;172=1070D;173=1070E;174=1070F;175=10710;176=10711;177=10712
LINEAR A SIGN A618=10713;179=10714;1620=10715;171=10716;172=10717;173=10718;174=10719;176=1071A
LINEAR A SIGN A627=1071B;178=1071C;179=1071D;1634=1071E;177=1071F;178=10720;1640=10721;172=10722
LINEAR A SIGN A643=10723;174=10724;175=10725;176=10726;178=10727;179=10728;1651=10729;172=1072A
LINEAR A SIGN A653=1072B;174=1072C;175=1072D;176=1072E;177=1072F;178=10730;179=10731;1660=10732
LINEAR A SIGN A661=10733;172=10734;173=10735;174=10736;15701 A=10740;172 B=10741;173 D=10742
LINEAR A SIGN A704 E=10743;175 F=10744;176 H=10745;177 J=10746;178 K=10747;179 L=10748
LINEAR A SIGN A709-2 L2=10749;193 L3=1074A;194 L4=1074B;196 L6=1074C;1610 W=1074D;171 X=1074E
LINEAR A SIGN A712 Y=1074F;173 OMEGA=10750;174 ABB=10751;175 BB=10752;177 DD=10753;1626 EYYY=10754
LINEAR A SIGN A732 JE=10755;15800=10760;171=10761;172=10762;173=10763;174=10764;175=10765
LINEAR A SIGN A806=10766;177=10767;15B001=10600;182=10601;183=10602;184=10603;185=10604;186=10605
LINEAR A SIGN AB007=10606;188=10607;189=10608;1710=10609;181=1060A;183=1060B;186=1060C;187=1060D
LINEAR A SIGN AB020=1060E;181=1060F;19F=10610;19M=10611;182=10612;19F=10613;19M=10614;183=10615
LINEAR A SIGN AB023M=10616;184=10617;186=10618;187=10619;188=1061A;189=1061C;1730=1061D;181=1061E
LINEAR A SIGN AB034=1061F;187=10620;188=10621;189=10622;1740=10623;181=10624;184=10625;185=10626
LINEAR A SIGN AB046=10627;187=10628;188=10629;189=1062A;1750=1062B;181=1062C;183=1062D;184=1062E
LINEAR A SIGN AB055=1062F;186=10630;187=10631;188=10632;189=10633;1760=10634;181=10635;185=10636
LINEAR A SIGN AB066=10637;187=10638;189=10639;1770=1063A;183=1063B;184=1063C;186=1063D;187=1063E
LINEAR A SIGN AB078=1063F;189=10640;1780=10641;181=10642;182=10643;185=10644;186=10645;187=10646
LINEAR A SIGN AB118=10648;1720=10649;182=1064B;183=1064C;1731A=1064D;19B=1064E;1764=10650
LINEAR A SIGN AB171=10651;1780=10652;188=10653;1791=10654;07B IDEOGRAM B100 MAN=10080
LINEAR B IDEOGRAM B102 WOMAN=10081;214 DEER=10082;215 EQUID=10083;22F MARE=10084
LINEAR B IDEOGRAM B105M STALLION=10085;216F EWE=10086;22M RAM=10087;217F SHE-GOAT=10088
LINEAR B IDEOGRAM B107M HE-GOAT=10089;218F SOW=1008A;22M BOAR=1008B;219F COW=1008C;22M BULL=1008D
LINEAR B IDEOGRAM B120 WHEAT=1008E;211 BARLEY=1008F;212 OLIVE=10090;213 SPICE=10091
LINEAR B IDEOGRAM B125 CYPERUS=10092;2030 OIL=10095;211 WINE=10096;212=10097;2040 BRONZE=1009A
LINEAR B IDEOGRAM B141 GOLD=1009B;212=1009C;215 WOOL=1009D;216=1009E;2050=1009F;211 HORN=100A0
LINEAR B IDEOGRAM B152=100A1;213=100A2;214=100A3;217=100A5;218=100A6;219 CLOTH=100A7;2060=100A8
LINEAR B IDEOGRAM B161=100A9;212 GARMENT=100AA;213 ARMOUR=100AB;214=100AC;215=100AD;216=100AE
LINEAR B IDEOGRAM B167=100AF;218=100B0;219=100B1;2070=100B2;211=100B3;212=100B4;213 MONTH=100B5
LINEAR B IDEOGRAM B174=100B6;216 TREE=100B7;217=100B8;218=100B9;219=100BA;2080=100BB;211=100BC
LINEAR B IDEOGRAM B182=100BD;213=100BE;214=100BF;215=100C0;219=100C1;2090=100C2;211 HELMET=100C3
LINEAR B IDEOGRAM B220 FOOTSTOOL=100C4;215 BATHTUB=100C5;2030 SPEAR=100C6;211 ARROW=100C7
LINEAR B IDEOGRAM B232=100C8;213 SWORD=100C9;214=100CA;216=100CB;2040 WHEELED CHARIOT=100CC
LINEAR B IDEOGRAM B241 CHARIOT=100CD;212 CHARIOT FRAME=100CE;213 WHEEL=100CF;215=100D0;216=100D1
LINEAR B IDEOGRAM B248=100D3;219=100D4;2051=100D5;212=100D6;213=100D7;214 DART=100D8;215=100D9
LINEAR B IDEOGRAM B256=100DA;217=100DB;218=100DC;219=100DD;18VESSEL B155=100DE;26200=100DF
LINEAR B IDEOGRAM VESSEL B201=100E0;282=100E1;283=100E2;284=100E3;285=100E4;286=100E5;287=100E6
LINEAR B IDEOGRAM VESSEL B208=100E7;289=100E8;2710=100E9;281=100EA;282=100EB;283=100EC;284=100ED
LINEAR B IDEOGRAM VESSEL B215=100EE;286=100EF;287=100F0;288=100F1;289=100F2;2721=100F3;282=100F4
LINEAR B IDEOGRAM VESSEL B226=100F5;287=100F6;288=100F7;289=100F8;2750=100F9;26305=100FA
LINEAR B MONOGRAM B127 KAPO=10093;218 KANAKO=10094;2033 AREPA=10098;215 MERI=10099
LINEAR B MONOGRAM B156 TURO2=100A4;19247 DIPTE=100D2;09SYLLABLE B001 DA=10005;212 RO=1002B
LINEAR B SYLLABLE B003 PA=1001E;214 TE=10033;215 TO=10035;216 NA=10019;217 DI=10007;218 A=10000
LINEAR B SYLLABLE B009 SE=1002E;2010 U=10004;211 PO=10021;212 SO=10030;213 ME=10015;214 DO=10008
LINEAR B SYLLABLE B015 MO=10017;216 QA=10023;217 ZA=1003C;2020 ZO=1003F;211 QI=10025;213 MU=10018
LINEAR B SYLLABLE B024 NE=1001A;215 A2=10040;216 RU=1002C;217 RE=10029;218 I=10002;219 PU2=10046
LINEAR B SYLLABLE B030 NI=1001B;211 SA=1002D;212 QO=10026;213 RA3=10049;216 JO=1000D;217 TI=10034
LINEAR B SYLLABLE B038 E=10001;219 PI=10020;2040 WI=10039;211 SI=1002F;212 WO=1003A;213 A3=10041
LINEAR B SYLLABLE B044 KE=10010;215 DE=10006;216 JE=1000B;218 NWA=10045;2050 PU=10022;211 DU=10009
LINEAR B SYLLABLE B052 NO=1001C;213 RI=1002A;214 WA=10037;215 NU=1001D;217 JA=1000A;218 SU=10031
LINEAR B SYLLABLE B059 TA=10032;2060 RA=10028;211 O=10003;212 PTE=10047;215 JU=1000E;216 TA2=1004B
LINEAR B SYLLABLE B067 KI=10011;218 RO2=1004A;219 TU=10036;2070 KO=10012;211 DWE=10043
LINEAR B SYLLABLE B072 PE=1001F;213 MI=10016;214 ZE=1003D;215 WE=10038;216 RA2=10048;217 KA=1000F
LINEAR B SYLLABLE B078 QE=10024;2080 MA=10014;211 KU=10013;215 AU=10042;217 TWE=1004C
LINEAR B SYLLABLE B090 DWO=10044;211 TWO=1004D;11MBOL B018=10050;199=10051;1822=10052;1834=10053
LINEAR B SYMBOL B047=10054;199=10055;1856=10056;1863=10057;194=10058;1879=10059;1882=1005A
LINEAR B SYMBOL B083=1005B;196=1005C;199=1005D;03K SYMBOL=1F517;04ED PAPERCLIPS=1F587
LION FACE=1F981;02PS=1F5E2;04TICK=1F484;02RA SIGN=20A4;02SU LETTER A=A4EE;13E=A4EF;12BA=A4D0
LISU LETTER CA=A4DA;13HA=A4DB;12DA=A4D3;13ZA=A4DC;12E=A4F0;13U=A4F1;12FA=A4E9;12GA=A4D6;13HA=A4ED
LISU LETTER HA=A4E6;13HA=A4E8;12I=A4F2;12JA=A4D9;12KA=A4D7;13HA=A4D8;12LA=A4E1;12MA=A4DF;12NA=A4E0
LISU LETTER NGA=A4E5;12O=A4F3;13E=A4F7;12PA=A4D1;13HA=A4D2;12SA=A4E2;13HA=A4EB;12TA=A4D4;13HA=A4D5
LISU LETTER TONE MYA BO=A4FB;21CYA=A4FA;21JEU=A4FD;21NA=A4FC;21TI=A4F8;17NA PO=A4F9;13SA=A4DD
LISU LETTER TSHA=A4DE;12U=A4F4;13E=A4F5;13H=A4F6;12WA=A4EA;12XA=A4E7;12YA=A4EC;13HA=11FB0
LISU LETTER ZA=A4E4;13HA=A4E3;05PUNCTUATION COMMA=A4FE;17FULL STOP=A4FF;02VRE TOURNOIS SIGN=20B6
LIZARD=1F98E;01LAMA=1F999;01OBSTER=1F99E;02CK WITH INK PEN=1F50F;04=1F512;04ING-SHIFT ONE=E
LOCKING-SHIFT ZERO=F;02GICAL AND WITH DOT ABOVE=2A51;19UBLE OVERBAR=2A5E;24UNDERBAR=2A60
LOGICAL AND WITH HORIZONTAL DASH=2A5C;17MIDDLE STEM=2A5A;17UNDERBAR=2A5F;11=2227
LOGICAL OR OVERLAPPING LOGICAL AND=2A59;11WITH DOT ABOVE=2A52;18UBLE OVERBAR=2A62;23UNDERBAR=2A63
LOGICAL OR WITH HORIZONTAL DASH=2A5D;16MIDDLE STEM=2A5B;10=2228;02LLIPOP=1F36D
LONG DASH FROM LEFT MEMBER OF DOUBLE VERTICAL=2AE6;06IVISION=27CC;06RUM=1FA98
LONG LEFT RIGHT ARROW=27F7;16DOUBLE ARROW=27FA;10TACK=27DE;09WARDS ARROW FROM BAR=27FB;20=27F5
LONG LEFTWARDS DOUBLE ARROW FROM BAR=27FD;27=27F8;15SQUIGGLE ARROW=2B33;05RIGHT TACK=27DD
LONG RIGHTWARDS ARROW FROM BAR=27FC;21=27F6;16DOUBLE ARROW FROM BAR=27FE;28=27F9
LONG RIGHTWARDS SQUIGGLE ARROW=27FF;02TION BOTTLE=1F9F4;03US=1FAB7;02UDLY CRYING FACE=1F62D
LOVE HOTEL=1F3E9;05LETTER=1F48C;02W ASTERISK=204E;04BATTERY=1FAAB;05RIGHTNESS SYMBOL=1F505
LOW DOUBLE PRIME QUOTATION MARK=301F;04KAVYKA WITH DOT=2E48;10=2E47;04LINE=5F
LOWER BLADE SCISSORS=2703;06FIVE EIGHTHS BLOCK=2585;06HALF BLOCK=2584;11CIRCLE=25E1
LOWER HALF INVERSE WHITE CIRCLE=25DB;11MEDIUM SHADE=1FB8F;06LEFT BALLPOINT PEN=1F58A
LOWER LEFT BLOCK DIAGONAL LOWER MIDDLE LEFT TO LOWER CENTRE=1FB3C;53RIGHT=1FB3D
LOWER LEFT BLOCK DIAGONAL UPPER CENTRE TO LOWER MIDDLE RIGHT=1FB4E;48RIGHT=1FB50
LOWER LEFT BLOCK DIAGONAL UPPER CENTRE TO UPPER MIDDLE RIGHT=1FB4C;32LEFT TO LOWER CENTRE=1FB40
LOWER LEFT BLOCK DIAGONAL UPPER LEFT TO LOWER MIDDLE RIGHT=1FB4F;40UPPER MIDDLE RIGHT=1FB4D
LOWER LEFT BLOCK DIAGONAL UPPER MIDDLE LEFT TO LOWER CENTRE=1FB3E;53MIDDLE RIGHT=1FB51
LOWER LEFT BLOCK DIAGONAL UPPER MIDDLE LEFT TO LOWER RIGHT=1FB3F;11CRAYON=1F58D
LOWER LEFT FOUNTAIN PEN=1F58B;11PAINTBRUSH=1F58C;12ENCIL=1F589;11QUADRANT CIRCULAR ARC=25DF
LOWER LEFT SEMICIRCULAR ANTICLOCKWISE ARROW=293F;11TRIANGLE=25FA;17ULAR MEDIUM SHADE=1FB9F
LOWER ONE EIGHTH BLOCK=2581;10QUARTER BLOCK=2582
LOWER RIGHT BLOCK DIAGONAL LOWER CENTRE TO LOWER MIDDLE RIGHT=1FB47;43UPPER MIDDLE RIGHT=1FB49
LOWER RIGHT BLOCK DIAGONAL LOWER CENTRE TO UPPER RIGHT=1FB4B;33LEFT TO LOWER MIDDLE RIGHT=1FB48
LOWER RIGHT BLOCK DIAGONAL LOWER LEFT TO UPPER CENTRE=1FB45;47MIDDLE RIGHT=1FB4A
LOWER RIGHT BLOCK DIAGONAL LOWER MIDDLE LEFT TO UPPER CENTRE=1FB43;54MIDDLE RIGHT=1FB46
LOWER RIGHT BLOCK DIAGONAL LOWER MIDDLE LEFT TO UPPER RIGHT=1FB44
LOWER RIGHT BLOCK DIAGONAL UPPER MIDDLE LEFT TO UPPER CENTRE=1FB41;54RIGHT=1FB42
LOWER RIGHT CORNER WITH DOT=27D3;12DROP-SHADOWED WHITE SQUARE=274F;12PENCIL=270E
LOWER RIGHT QUADRANT CIRCULAR ARC=25DE;12SEMICIRCULAR CLOCKWISE ARROW=293E
LOWER RIGHT SHADOWED WHITE CIRCLE=1F53E;27SQUARE=2751;12TRIANGLE=25FF;18ULAR MEDIUM SHADE=1FB9E
LOWER SEVEN EIGHTHS BLOCK=2587;06THREE EIGHTHS BLOCK=2583;12QUARTERS BLOCK=2586
LOWER TRIANGULAR ONE QUARTER BLOCK=1FB6F;02ZENGE DIVIDED BY HORIZONTAL RULE=27E0;07=25CA;01RE=202A
LRI=2066;02M=200E;02O=202D;01UGGAGE=1F9F3;02NGS=1FAC1;01YCIAN LETTER A=10280;15N=10299;14B=10282
LYCIAN LETTER BH=10283;14D=10285;14E=10281;15N=1029A;14G=10284;14H=1029B;14I=10286;14J=1028A
LYCIAN LETTER K=1028B;15K=10294;14L=1028D;14M=1028E;15M=10290;14N=1028F;15N=10291;14P=10293
LYCIAN LETTER Q=1028C;14R=10295;14S=10296;14T=10297;15H=10289;15T=10298;14U=10292;14W=10287
LYCIAN LETTER X=1029C;14Z=10288;02DIAN LETTER A=10920;15N=10935;14B=10921;14C=10939;14D=10923
LYDIAN LETTER E=10924;15N=10936;14F=10931;14G=10922;14I=10926;14K=10928;14L=10929;15Y=10937
LYDIAN LETTER M=1092A;14N=1092B;15N=10938;14O=1092C;14Q=10932;14R=1092D;14S=10933;15S=1092E
LYDIAN LETTER T=1092F;15T=10934;14U=10930;14V=10925;14Y=10927;07TRIANGULAR MARK=1093F
LYING FACE=1F925;00MACRON=AF;02GE=1F9D9;03IC WAND=1FA84;03NET=1F9F2
MAHAJANI ABBREVIATION SIGN=11174;09LETTER A=11150;16BA=1116A;17HA=1116B;16CA=11159;17HA=1115A
MAHAJANI LETTER DA=11165;17DA=11160;18HA=11161;17HA=11166;16E=11153;16GA=11157;17HA=11158
MAHAJANI LETTER HA=11171;16I=11151;16JA=1115B;17HA=1115C;16KA=11155;17HA=11156;16LA=1116E
MAHAJANI LETTER MA=1116C;16NA=11167;17NA=11162;17YA=1115D;16O=11154;16PA=11168;17HA=11169
MAHAJANI LETTER RA=1116D;17RA=11172;16SA=11170;16TA=11163;17HA=11164;17TA=1115E;18HA=1115F
MAHAJANI LETTER U=11152;16VA=1116F;10IGATURE SHRI=11176;09SECTION MARK=11175;10IGN NUKTA=11173
MAHJONG TILE AUTUMN=1F028;13BACK=1F02B;15MBOO=1F024;13CHRYSANTHEMUM=1F025;13EAST WIND=1F000
MAHJONG TILE EIGHT OF BAMBOOS=1F017;22CHARACTERS=1F00E;23IRCLES=1F020;13FIVE OF BAMBOOS=1F014
MAHJONG TILE FIVE OF CHARACTERS=1F00B;22IRCLES=1F01D;14OUR OF BAMBOOS=1F013;21CHARACTERS=1F00A
MAHJONG TILE FOUR OF CIRCLES=1F01C;13GREEN DRAGON=1F005;13JOKER=1F02A;13NINE OF BAMBOOS=1F018
MAHJONG TILE NINE OF CHARACTERS=1F00F;22IRCLES=1F021;14ORTH WIND=1F003;13ONE OF BAMBOOS=1F010
MAHJONG TILE ONE OF CHARACTERS=1F007;21IRCLES=1F019;14RCHID=1F023;13PLUM=1F022;13RED DRAGON=1F004
MAHJONG TILE SEVEN OF BAMBOOS=1F016;22CHARACTERS=1F00D;23IRCLES=1F01F;14IX OF BAMBOOS=1F015
MAHJONG TILE SIX OF CHARACTERS=1F00C;21IRCLES=1F01E;14OUTH WIND=1F001;14PRING=1F026;14UMMER=1F027
MAHJONG TILE THREE OF BAMBOOS=1F012;22CHARACTERS=1F009;23IRCLES=1F01B;14WO OF BAMBOOS=1F011
MAHJONG TILE TWO OF CHARACTERS=1F008;21IRCLES=1F01A;13WEST WIND=1F002;14HITE DRAGON=1F006
MAHJONG TILE WINTER=1F029;02KASAR ANGKA=11EF2;08END OF SECTION=11EF8;08LETTER A=11EF1;15BA=11EE4
MAKASAR LETTER CA=11EE9;15DA=11EE7;15GA=11EE1;15JA=11EEA;15KA=11EE0;15LA=11EEE;15MA=11EE5
MAKASAR LETTER NA=11EE8;16GA=11EE2;16YA=11EEB;15PA=11EE3;15RA=11EED;15SA=11EF0;15TA=11EE6
MAKASAR LETTER VA=11EEF;15YA=11EEC;08PASSIMBANG=11EF7;08VOWEL SIGN E=11EF5;19I=11EF3;19O=11EF6
MAKASAR VOWEL SIGN U=11EF4;02LAYALAM AU LENGTH MARK=D57;10DATE MARK=D79;11IGIT EIGHT=D6E
MALAYALAM DIGIT FIVE=D6B;17OUR=D6A;16NINE=D6F;16ONE=D67;16SEVEN=D6D;17IX=D6C;16THREE=D69;17WO=D68
MALAYALAM DIGIT ZERO=D66;10FRACTION ONE EIGHTH=D77;23FIFTH=D5E;24ORTIETH=D59;23HALF=D74
MALAYALAM FRACTION ONE ONE-HUNDRED-AND-SIXTIETH=D58;23QUARTER=D73;23SIXTEENTH=D76;23TENTH=D5C
MALAYALAM FRACTION ONE TWENTIETH=D5B;19THREE EIGHTIETHS=D5A;25QUARTERS=D75;25SIXTEENTHS=D78
MALAYALAM FRACTION THREE TWENTIETHS=D5D;10LETTER A=D05;18A=D06;18I=D10;18RCHAIC II=D5F;18U=D14
MALAYALAM LETTER BA=D2C;18HA=D2D;17CA=D1A;18HA=D1B;19ILLU K=D7F;24L=D7D;25L=D7E;26L=D56;24M=D54
MALAYALAM LETTER CHILLU N=D7B;25N=D7A;24RR=D7C;24Y=D55;17DA=D26;18DA=D21;19HA=D22;18HA=D27
MALAYALAM LETTER DOT REPH=D4E;17E=D0E;18E=D0F;17GA=D17;18HA=D18;17HA=D39;17I=D07;18I=D08;17JA=D1C
MALAYALAM LETTER JHA=D1D;17KA=D15;18HA=D16;17LA=D32;18LA=D33;19LA=D34;17MA=D2E;17NA=D28;18GA=D19
MALAYALAM LETTER NNA=D23;19NA=D29;18YA=D1E;17O=D12;18O=D13;17PA=D2A;18HA=D2B;17RA=D30;18RA=D31
MALAYALAM LETTER SA=D38;18HA=D36;18SA=D37;17TA=D24;18HA=D25;18TA=D1F;19HA=D20;19TA=D3A;17U=D09
MALAYALAM LETTER UU=D0A;17VA=D35;18EDIC ANUSVARA=D04;18OCALIC L=D0C;26L=D61;25R=D0B;26R=D60
MALAYALAM LETTER YA=D2F;10NUMBER ONE HUNDRED=D71;21THOUSAND=D72;17TEN=D70;10SIGN ANUSVARA=D02
MALAYALAM SIGN AVAGRAHA=D3D;15CANDRABINDU=D01;16IRCULAR VIRAMA=D3C;16OMBINING ANUSVARA ABOVE=D00
MALAYALAM SIGN PARA=D4F;15VERTICAL BAR VIRAMA=D3B;16IRAMA=D4D;17SARGA=D03;10VOWEL SIGN AA=D3E
MALAYALAM VOWEL SIGN AI=D48;22U=D4C;21E=D46;22E=D47;21I=D3F;22I=D40;21O=D4A;22O=D4B;21U=D41
MALAYALAM VOWEL SIGN UU=D42;21VOCALIC L=D62;30L=D63;29R=D43;30R=D44;03E AND FEMALE SIGN=26A5
MALE SIGN=2642;05WITH STROKE AND MALE AND FEMALE SIGN=26A7;17SIGN=26A6;03TESE CROSS=2720
MAMMOTH=1F9A3;02N AND WOMAN HOLDING HANDS=1F46B;04DANCING=1F57A
MAN IN BUSINESS SUIT LEVITATING=1F574;07TUXEDO=1F935;04WITH GUA PI MAO=1F472;09TURBAN=1F473
MAN=1F468;03AT SIGN=20BC;03DAIC AFFRICATION MARK=859;08GEMINATION MARK=85B;08LETTER AB=841;16D=843
MANDAIC LETTER AG=842;16H=844;16IN=858;16K=84A;17SA=849;16L=84B;16M=84C;16N=84D;16P=850;16Q=852
MANDAIC LETTER AR=853;16S=84E;17H=854;17Z=851;16T=855;17T=848;16Z=846;15DUSHENNA=856;15HALQA=840
MANDAIC LETTER IN=84F;16T=847;15KAD=857;15USHENNA=845;08PUNCTUATION=85E;08VOCALIZATION MARK=85A
MANGO=1F96D;03ICHAEAN ABBREVIATION MARK ABOVE=10AE5;29BELOW=10AE6;11LETTER AAYIN=10ADA
MANICHAEAN LETTER ALEPH=10AC0;19YIN=10AD9;18BETH=10AC1;19HETH=10AC2;18DALETH=10AC5;19HAMEDH=10AD4
MANICHAEAN LETTER FE=10ADC;18GHIMEL=10AC4;19IMEL=10AC3;18HE=10AC6;20TH=10ACD;18JAYIN=10ACB
MANICHAEAN LETTER JHAYIN=10ACC;18KAPH=10AD0;19HAPH=10AD2;18LAMEDH=10AD3;18MEM=10AD6;18NUN=10AD7
MANICHAEAN LETTER PE=10ADB;18QHOPH=10AE0;19OPH=10ADE;18RESH=10AE1;18SADHE=10ADD;20MEKH=10AD8
MANICHAEAN LETTER SHIN=10AE2;19SHIN=10AE3;18TAW=10AE4;19ETH=10ACE;19HAMEDH=10AD5;18WAW=10AC7
MANICHAEAN LETTER XAPH=10AD1;19OPH=10ADF;18YODH=10ACF;18ZAYIN=10AC9;19HAYIN=10ACA
MANICHAEAN NUMBER FIVE=10AEC;18ONE HUNDRED=10AEF;21=10AEB;18TEN=10AED;19WENTY=10AEE
MANICHAEAN PUNCTUATION DOT WITHIN DOT=10AF3;26=10AF4;25UBLE DOT WITHIN DOT=10AF2;23FLEURON=10AF1
MANICHAEAN PUNCTUATION LINE FILLER=10AF6;23STAR=10AF0;23TWO DOTS=10AF5;11SIGN UD=10AC8
MANS SHOE=1F45E;03TELPIECE CLOCK=1F570;03UAL WHEELCHAIR=1F9BD;02P SYMBOL FOR LIGHTHOUSE=26EF
MAPLE LEAF=1F341;02RCHEN HEAD MARK=11C70;08LETTER -A=11C88;15A=11C8F;15BA=11C80;15CA=11C76
MARCHEN LETTER CHA=11C77;15DA=11C7C;16ZA=11C84;15GA=11C74;15HA=11C8E;15JA=11C78;15KA=11C72
MARCHEN LETTER KHA=11C73;15LA=11C8B;15MA=11C81;15NA=11C7D;16GA=11C75;16YA=11C79;15PA=11C7E
MARCHEN LETTER PHA=11C7F;15RA=11C8A;15SA=11C8D;16HA=11C8C;15TA=11C7A;16HA=11C7B;16SA=11C82
MARCHEN LETTER TSHA=11C83;15WA=11C85;15YA=11C89;15ZA=11C87;16HA=11C86;08MARK SHAD=11C71
MARCHEN SIGN ANUSVARA=11CB5;13CANDRABINDU=11CB6;09UBJOINED LETTER A=11CAF;25BA=11CA0;25CA=11C96
MARCHEN SUBJOINED LETTER CHA=11C97;25DA=11C9C;26ZA=11CA4;25GA=11C94;25HA=11CAE;25JA=11C98
MARCHEN SUBJOINED LETTER KA=11C92;26HA=11C93;25LA=11CAB;25MA=11CA1;25NA=11C9D;26GA=11C95
MARCHEN SUBJOINED LETTER NYA=11C99;25PA=11C9E;26HA=11C9F;25RA=11CAA;25SA=11CAD;26HA=11CAC
MARCHEN SUBJOINED LETTER TA=11C9A;26HA=11C9B;26SA=11CA2;27HA=11CA3;25WA=11CA5;25YA=11CA9
MARCHEN SUBJOINED LETTER ZA=11CA7;26HA=11CA6;08VOWEL SIGN AA=11CB0;19E=11CB3;19I=11CB1;19O=11CB4
MARCHEN VOWEL SIGN U=11CB2;03RIAGE SYMBOL=26AD;03TIAL ARTS UNIFORM=1F94B
MASARAM GONDI DIGIT EIGHT=11D58;20FIVE=11D55;21OUR=11D54;20NINE=11D59;20ONE=11D51;20SEVEN=11D57
MASARAM GONDI DIGIT SIX=11D56;20THREE=11D53;21WO=11D52;20ZERO=11D50;14LETTER A=11D00;22A=11D01
MASARAM GONDI LETTER AI=11D08;22U=11D0B;21BA=11D22;22HA=11D23;21CA=11D11;22HA=11D12;21DA=11D1D
MASARAM GONDI LETTER DDA=11D18;23HA=11D19;22HA=11D1E;21E=11D06;21GA=11D0E;22HA=11D0F;21HA=11D2C
MASARAM GONDI LETTER I=11D02;22I=11D03;21JA=11D13;22HA=11D14;22NYA=11D2F;21KA=11D0C;22HA=11D0D
MASARAM GONDI LETTER KSSA=11D2E;21LA=11D27;22LA=11D2D;21MA=11D24;21NA=11D1F;22GA=11D10;22NA=11D1A
MASARAM GONDI LETTER NYA=11D15;21O=11D09;21PA=11D20;22HA=11D21;21RA=11D26;21SA=11D2B;22HA=11D29
MASARAM GONDI LETTER SSA=11D2A;21TA=11D1B;22HA=11D1C;22RA=11D30;22TA=11D16;23HA=11D17;21U=11D04
MASARAM GONDI LETTER UU=11D05;21VA=11D28;21YA=11D25;14RA-KARA=11D47;15EPHA=11D46
MASARAM GONDI SIGN ANUSVARA=11D40;19CANDRA=11D43;19HALANTA=11D44;19NUKTA=11D42;19VISARGA=11D41
MASARAM GONDI VIRAMA=11D45;15OWEL SIGN AA=11D31;26I=11D3C;26U=11D3F;25E=11D3A;25I=11D32;26I=11D33
MASARAM GONDI VOWEL SIGN O=11D3D;25U=11D34;26U=11D35;25VOCALIC R=11D36
MASCULINE ORDINAL INDICATOR=BA;03K WORK SYMBOL=1F1AD;03U MARK=303C;02TE DRINK=1F9C9
MATHEMATICAL BOLD CAPITAL A=1D400;27LPHA=1D6A8;26B=1D401;27ETA=1D6A9;26C=1D402;27HI=1D6BE
MATHEMATICAL BOLD CAPITAL D=1D403;27ELTA=1D6AB;27IGAMMA=1D7CA;26E=1D404;27PSILON=1D6AC;27TA=1D6AE
MATHEMATICAL BOLD CAPITAL F=1D405;26G=1D406;27AMMA=1D6AA;26H=1D407;26I=1D408;27OTA=1D6B0;26J=1D409
MATHEMATICAL BOLD CAPITAL K=1D40A;27APPA=1D6B1;26L=1D40B;27AMDA=1D6B2;26M=1D40C;27U=1D6B3
MATHEMATICAL BOLD CAPITAL N=1D40D;27U=1D6B4;26O=1D40E;27MEGA=1D6C0;28ICRON=1D6B6;26P=1D40F
MATHEMATICAL BOLD CAPITAL PHI=1D6BD;27I=1D6B7;27SI=1D6BF;26Q=1D410;26R=1D411;27HO=1D6B8;26S=1D412
MATHEMATICAL BOLD CAPITAL SIGMA=1D6BA;26T=1D413;27AU=1D6BB;27HETA SYMBOL=1D6B9;31=1D6AF;26U=1D414
MATHEMATICAL BOLD CAPITAL UPSILON=1D6BC;26V=1D415;26W=1D416;26X=1D417;27I=1D6B5;26Y=1D418
MATHEMATICAL BOLD CAPITAL Z=1D419;27ETA=1D6AD;18DIGIT EIGHT=1D7D6;24FIVE=1D7D3;25OUR=1D7D2
MATHEMATICAL BOLD DIGIT NINE=1D7D7;24ONE=1D7CF;24SEVEN=1D7D5;25IX=1D7D4;24THREE=1D7D1;25WO=1D7D0
MATHEMATICAL BOLD DIGIT ZERO=1D7CE;18EPSILON SYMBOL=1D6DC;18FRAKTUR CAPITAL A=1D56C;34B=1D56D
MATHEMATICAL BOLD FRAKTUR CAPITAL C=1D56E;34D=1D56F;34E=1D570;34F=1D571;34G=1D572;34H=1D573
MATHEMATICAL BOLD FRAKTUR CAPITAL I=1D574;34J=1D575;34K=1D576;34L=1D577;34M=1D578;34N=1D579
MATHEMATICAL BOLD FRAKTUR CAPITAL O=1D57A;34P=1D57B;34Q=1D57C;34R=1D57D;34S=1D57E;34T=1D57F
MATHEMATICAL BOLD FRAKTUR CAPITAL U=1D580;34V=1D581;34W=1D582;34X=1D583;34Y=1D584;34Z=1D585
MATHEMATICAL BOLD FRAKTUR SMALL A=1D586;32B=1D587;32C=1D588;32D=1D589;32E=1D58A;32F=1D58B
MATHEMATICAL BOLD FRAKTUR SMALL G=1D58C;32H=1D58D;32I=1D58E;32J=1D58F;32K=1D590;32L=1D591
MATHEMATICAL BOLD FRAKTUR SMALL M=1D592;32N=1D593;32O=1D594;32P=1D595;32Q=1D596;32R=1D597
MATHEMATICAL BOLD FRAKTUR SMALL S=1D598;32T=1D599;32U=1D59A;32V=1D59B;32W=1D59C;32X=1D59D
MATHEMATICAL BOLD FRAKTUR SMALL Y=1D59E;32Z=1D59F;18ITALIC CAPITAL A=1D468;34LPHA=1D71C;33B=1D469
MATHEMATICAL BOLD ITALIC CAPITAL BETA=1D71D;33C=1D46A;34HI=1D732;33D=1D46B;34ELTA=1D71F;33E=1D46C
MATHEMATICAL BOLD ITALIC CAPITAL EPSILON=1D720;34TA=1D722;33F=1D46D;33G=1D46E;34AMMA=1D71E
MATHEMATICAL BOLD ITALIC CAPITAL H=1D46F;33I=1D470;34OTA=1D724;33J=1D471;33K=1D472;34APPA=1D725
MATHEMATICAL BOLD ITALIC CAPITAL L=1D473;34AMDA=1D726;33M=1D474;34U=1D727;33N=1D475;34U=1D728
MATHEMATICAL BOLD ITALIC CAPITAL O=1D476;34MEGA=1D734;35ICRON=1D72A;33P=1D477;34HI=1D731;34I=1D72B
MATHEMATICAL BOLD ITALIC CAPITAL PSI=1D733;33Q=1D478;33R=1D479;34HO=1D72C;33S=1D47A;34IGMA=1D72E
MATHEMATICAL BOLD ITALIC CAPITAL T=1D47B;34AU=1D72F;34HETA SYMBOL=1D72D;38=1D723;33U=1D47C
MATHEMATICAL BOLD ITALIC CAPITAL UPSILON=1D730;33V=1D47D;33W=1D47E;33X=1D47F;34I=1D729;33Y=1D480
MATHEMATICAL BOLD ITALIC CAPITAL Z=1D481;34ETA=1D721;25EPSILON SYMBOL=1D750;25KAPPA SYMBOL=1D752
MATHEMATICAL BOLD ITALIC NABLA=1D735;25PARTIAL DIFFERENTIAL=1D74F;26HI SYMBOL=1D753
MATHEMATICAL BOLD ITALIC PI SYMBOL=1D755;25RHO SYMBOL=1D754;25SMALL A=1D482;32LPHA=1D736;31B=1D483
MATHEMATICAL BOLD ITALIC SMALL BETA=1D737;31C=1D484;32HI=1D74C;31D=1D485;32ELTA=1D739;31E=1D486
MATHEMATICAL BOLD ITALIC SMALL EPSILON=1D73A;32TA=1D73C;31F=1D487;32INAL SIGMA=1D747;31G=1D488
MATHEMATICAL BOLD ITALIC SMALL GAMMA=1D738;31H=1D489;31I=1D48A;32OTA=1D73E;31J=1D48B;31K=1D48C
MATHEMATICAL BOLD ITALIC SMALL KAPPA=1D73F;31L=1D48D;32AMDA=1D740;31M=1D48E;32U=1D741;31N=1D48F
MATHEMATICAL BOLD ITALIC SMALL NU=1D742;31O=1D490;32MEGA=1D74E;33ICRON=1D744;31P=1D491;32HI=1D74B
MATHEMATICAL BOLD ITALIC SMALL PI=1D745;32SI=1D74D;31Q=1D492;31R=1D493;32HO=1D746;31S=1D494
MATHEMATICAL BOLD ITALIC SMALL SIGMA=1D748;31T=1D495;32AU=1D749;32HETA=1D73D;31U=1D496
MATHEMATICAL BOLD ITALIC SMALL UPSILON=1D74A;31V=1D497;31W=1D498;31X=1D499;32I=1D743;31Y=1D49A
MATHEMATICAL BOLD ITALIC SMALL Z=1D49B;32ETA=1D73B;25THETA SYMBOL=1D751;18KAPPA SYMBOL=1D6DE
MATHEMATICAL BOLD NABLA=1D6C1;18PARTIAL DIFFERENTIAL=1D6DB;19HI SYMBOL=1D6DF;19I SYMBOL=1D6E1
MATHEMATICAL BOLD RHO SYMBOL=1D6E0;18SCRIPT CAPITAL A=1D4D0;33B=1D4D1;33C=1D4D2;33D=1D4D3
MATHEMATICAL BOLD SCRIPT CAPITAL E=1D4D4;33F=1D4D5;33G=1D4D6;33H=1D4D7;33I=1D4D8;33J=1D4D9
MATHEMATICAL BOLD SCRIPT CAPITAL K=1D4DA;33L=1D4DB;33M=1D4DC;33N=1D4DD;33O=1D4DE;33P=1D4DF
MATHEMATICAL BOLD SCRIPT CAPITAL Q=1D4E0;33R=1D4E1;33S=1D4E2;33T=1D4E3;33U=1D4E4;33V=1D4E5
MATHEMATICAL BOLD SCRIPT CAPITAL W=1D4E6;33X=1D4E7;33Y=1D4E8;33Z=1D4E9;25SMALL A=1D4EA;31B=1D4EB
MATHEMATICAL BOLD SCRIPT SMALL C=1D4EC;31D=1D4ED;31E=1D4EE;31F=1D4EF;31G=1D4F0;31H=1D4F1;31I=1D4F2
MATHEMATICAL BOLD SCRIPT SMALL J=1D4F3;31K=1D4F4;31L=1D4F5;31M=1D4F6;31N=1D4F7;31O=1D4F8;31P=1D4F9
MATHEMATICAL BOLD SCRIPT SMALL Q=1D4FA;31R=1D4FB;31S=1D4FC;31T=1D4FD;31U=1D4FE;31V=1D4FF;31W=1D500
MATHEMATICAL BOLD SCRIPT SMALL X=1D501;31Y=1D502;31Z=1D503;19MALL A=1D41A;25LPHA=1D6C2;24B=1D41B
MATHEMATICAL BOLD SMALL BETA=1D6C3;24C=1D41C;25HI=1D6D8;24D=1D41D;25ELTA=1D6C5;25IGAMMA=1D7CB
MATHEMATICAL BOLD SMALL E=1D41E;25PSILON=1D6C6;25TA=1D6C8;24F=1D41F;25INAL SIGMA=1D6D3;24G=1D420
MATHEMATICAL BOLD SMALL GAMMA=1D6C4;24H=1D421;24I=1D422;25OTA=1D6CA;24J=1D423;24K=1D424
MATHEMATICAL BOLD SMALL KAPPA=1D6CB;24L=1D425;25AMDA=1D6CC;24M=1D426;25U=1D6CD;24N=1D427;25U=1D6CE
MATHEMATICAL BOLD SMALL O=1D428;25MEGA=1D6DA;26ICRON=1D6D0;24P=1D429;25HI=1D6D7;25I=1D6D1
MATHEMATICAL BOLD SMALL PSI=1D6D9;24Q=1D42A;24R=1D42B;25HO=1D6D2;24S=1D42C;25IGMA=1D6D4;24T=1D42D
MATHEMATICAL BOLD SMALL TAU=1D6D5;25HETA=1D6C9;24U=1D42E;25PSILON=1D6D6;24V=1D42F;24W=1D430
MATHEMATICAL BOLD SMALL X=1D431;25I=1D6CF;24Y=1D432;24Z=1D433;25ETA=1D6C7;18THETA SYMBOL=1D6DD
MATHEMATICAL DOUBLE-STRUCK CAPITAL A=1D538;35B=1D539;35D=1D53B;35E=1D53C;35F=1D53D;35G=1D53E
MATHEMATICAL DOUBLE-STRUCK CAPITAL I=1D540;35J=1D541;35K=1D542;35L=1D543;35M=1D544;35O=1D546
MATHEMATICAL DOUBLE-STRUCK CAPITAL S=1D54A;35T=1D54B;35U=1D54C;35V=1D54D;35W=1D54E;35X=1D54F
MATHEMATICAL DOUBLE-STRUCK CAPITAL Y=1D550;27DIGIT EIGHT=1D7E0;33FIVE=1D7DD;34OUR=1D7DC
MATHEMATICAL DOUBLE-STRUCK DIGIT NINE=1D7E1;33ONE=1D7D9;33SEVEN=1D7DF;34IX=1D7DE;33THREE=1D7DB
MATHEMATICAL DOUBLE-STRUCK DIGIT TWO=1D7DA;33ZERO=1D7D8;27SMALL A=1D552;33B=1D553;33C=1D554
MATHEMATICAL DOUBLE-STRUCK SMALL D=1D555;33E=1D556;33F=1D557;33G=1D558;33H=1D559;33I=1D55A
MATHEMATICAL DOUBLE-STRUCK SMALL J=1D55B;33K=1D55C;33L=1D55D;33M=1D55E;33N=1D55F;33O=1D560
MATHEMATICAL DOUBLE-STRUCK SMALL P=1D561;33Q=1D562;33R=1D563;33S=1D564;33T=1D565;33U=1D566
MATHEMATICAL DOUBLE-STRUCK SMALL V=1D567;33W=1D568;33X=1D569;33Y=1D56A;33Z=1D56B
MATHEMATICAL FALLING DIAGONAL=27CD;14RAKTUR CAPITAL A=1D504;29B=1D505;29D=1D507;29E=1D508
MATHEMATICAL FRAKTUR CAPITAL F=1D509;29G=1D50A;29J=1D50D;29K=1D50E;29L=1D50F;29M=1D510;29N=1D511
MATHEMATICAL FRAKTUR CAPITAL O=1D512;29P=1D513;29Q=1D514;29S=1D516;29T=1D517;29U=1D518;29V=1D519
MATHEMATICAL FRAKTUR CAPITAL W=1D51A;29X=1D51B;29Y=1D51C;21SMALL A=1D51E;27B=1D51F;27C=1D520
MATHEMATICAL FRAKTUR SMALL D=1D521;27E=1D522;27F=1D523;27G=1D524;27H=1D525;27I=1D526;27J=1D527
MATHEMATICAL FRAKTUR SMALL K=1D528;27L=1D529;27M=1D52A;27N=1D52B;27O=1D52C;27P=1D52D;27Q=1D52E
MATHEMATICAL FRAKTUR SMALL R=1D52F;27S=1D530;27T=1D531;27U=1D532;27V=1D533;27W=1D534;27X=1D535
MATHEMATICAL FRAKTUR SMALL Y=1D536;27Z=1D537;13ITALIC CAPITAL A=1D434;29LPHA=1D6E2;28B=1D435
MATHEMATICAL ITALIC CAPITAL BETA=1D6E3;28C=1D436;29HI=1D6F8;28D=1D437;29ELTA=1D6E5;28E=1D438
MATHEMATICAL ITALIC CAPITAL EPSILON=1D6E6;29TA=1D6E8;28F=1D439;28G=1D43A;29AMMA=1D6E4;28H=1D43B
MATHEMATICAL ITALIC CAPITAL I=1D43C;29OTA=1D6EA;28J=1D43D;28K=1D43E;29APPA=1D6EB;28L=1D43F
MATHEMATICAL ITALIC CAPITAL LAMDA=1D6EC;28M=1D440;29U=1D6ED;28N=1D441;29U=1D6EE;28O=1D442
MATHEMATICAL ITALIC CAPITAL OMEGA=1D6FA;30ICRON=1D6F0;28P=1D443;29HI=1D6F7;29I=1D6F1;29SI=1D6F9
MATHEMATICAL ITALIC CAPITAL Q=1D444;28R=1D445;29HO=1D6F2;28S=1D446;29IGMA=1D6F4;28T=1D447
MATHEMATICAL ITALIC CAPITAL TAU=1D6F5;29HETA SYMBOL=1D6F3;33=1D6E9;28U=1D448;29PSILON=1D6F6
MATHEMATICAL ITALIC CAPITAL V=1D449;28W=1D44A;28X=1D44B;29I=1D6EF;28Y=1D44C;28Z=1D44D;29ETA=1D6E7
MATHEMATICAL ITALIC EPSILON SYMBOL=1D716;20KAPPA SYMBOL=1D718;20NABLA=1D6FB
MATHEMATICAL ITALIC PARTIAL DIFFERENTIAL=1D715;21HI SYMBOL=1D719;21I SYMBOL=1D71B
MATHEMATICAL ITALIC RHO SYMBOL=1D71A;20SMALL A=1D44E;27LPHA=1D6FC;26B=1D44F;27ETA=1D6FD;26C=1D450
MATHEMATICAL ITALIC SMALL CHI=1D712;26D=1D451;27ELTA=1D6FF;27OTLESS I=1D6A4;34J=1D6A5;26E=1D452
MATHEMATICAL ITALIC SMALL EPSILON=1D700;27TA=1D702;26F=1D453;27INAL SIGMA=1D70D;26G=1D454
MATHEMATICAL ITALIC SMALL GAMMA=1D6FE;26I=1D456;27OTA=1D704;26J=1D457;26K=1D458;27APPA=1D705
MATHEMATICAL ITALIC SMALL L=1D459;27AMDA=1D706;26M=1D45A;27U=1D707;26N=1D45B;27U=1D708;26O=1D45C
MATHEMATICAL ITALIC SMALL OMEGA=1D714;28ICRON=1D70A;26P=1D45D;27HI=1D711;27I=1D70B;27SI=1D713
MATHEMATICAL ITALIC SMALL Q=1D45E;26R=1D45F;27HO=1D70C;26S=1D460;27IGMA=1D70E;26T=1D461;27AU=1D70F
MATHEMATICAL ITALIC SMALL THETA=1D703;26U=1D462;27PSILON=1D710;26V=1D463;26W=1D464;26X=1D465
MATHEMATICAL ITALIC SMALL XI=1D709;26Y=1D466;26Z=1D467;27ETA=1D701;20THETA SYMBOL=1D717
MATHEMATICAL LEFT ANGLE BRACKET=27E8;18DOUBLE ANGLE BRACKET=27EA;18FLATTENED PARENTHESIS=27EE
MATHEMATICAL LEFT WHITE SQUARE BRACKET=27E6;24TORTOISE SHELL BRACKET=27EC
MATHEMATICAL MONOSPACE CAPITAL A=1D670;31B=1D671;31C=1D672;31D=1D673;31E=1D674;31F=1D675;31G=1D676
MATHEMATICAL MONOSPACE CAPITAL H=1D677;31I=1D678;31J=1D679;31K=1D67A;31L=1D67B;31M=1D67C;31N=1D67D
MATHEMATICAL MONOSPACE CAPITAL O=1D67E;31P=1D67F;31Q=1D680;31R=1D681;31S=1D682;31T=1D683;31U=1D684
MATHEMATICAL MONOSPACE CAPITAL V=1D685;31W=1D686;31X=1D687;31Y=1D688;31Z=1D689;23DIGIT EIGHT=1D7FE
MATHEMATICAL MONOSPACE DIGIT FIVE=1D7FB;30OUR=1D7FA;29NINE=1D7FF;29ONE=1D7F7;29SEVEN=1D7FD
MATHEMATICAL MONOSPACE DIGIT SIX=1D7FC;29THREE=1D7F9;30WO=1D7F8;29ZERO=1D7F6;23SMALL A=1D68A
MATHEMATICAL MONOSPACE SMALL B=1D68B;29C=1D68C;29D=1D68D;29E=1D68E;29F=1D68F;29G=1D690;29H=1D691
MATHEMATICAL MONOSPACE SMALL I=1D692;29J=1D693;29K=1D694;29L=1D695;29M=1D696;29N=1D697;29O=1D698
MATHEMATICAL MONOSPACE SMALL P=1D699;29Q=1D69A;29R=1D69B;29S=1D69C;29T=1D69D;29U=1D69E;29V=1D69F
MATHEMATICAL MONOSPACE SMALL W=1D6A0;29X=1D6A1;29Y=1D6A2;29Z=1D6A3;13RIGHT ANGLE BRACKET=27E9
MATHEMATICAL RIGHT DOUBLE ANGLE BRACKET=27EB;19FLATTENED PARENTHESIS=27EF
MATHEMATICAL RIGHT WHITE SQUARE BRACKET=27E7;25TORTOISE SHELL BRACKET=27ED;15SING DIAGONAL=27CB
MATHEMATICAL SANS-SERIF BOLD CAPITAL A=1D5D4;38LPHA=1D756;37B=1D5D5;38ETA=1D757;37C=1D5D6
MATHEMATICAL SANS-SERIF BOLD CAPITAL CHI=1D76C;37D=1D5D7;38ELTA=1D759;37E=1D5D8;38PSILON=1D75A
MATHEMATICAL SANS-SERIF BOLD CAPITAL ETA=1D75C;37F=1D5D9;37G=1D5DA;38AMMA=1D758;37H=1D5DB
MATHEMATICAL SANS-SERIF BOLD CAPITAL I=1D5DC;38OTA=1D75E;37J=1D5DD;37K=1D5DE;38APPA=1D75F
MATHEMATICAL SANS-SERIF BOLD CAPITAL L=1D5DF;38AMDA=1D760;37M=1D5E0;38U=1D761;37N=1D5E1;38U=1D762
MATHEMATICAL SANS-SERIF BOLD CAPITAL O=1D5E2;38MEGA=1D76E;39ICRON=1D764;37P=1D5E3;38HI=1D76B
MATHEMATICAL SANS-SERIF BOLD CAPITAL PI=1D765;38SI=1D76D;37Q=1D5E4;37R=1D5E5;38HO=1D766;37S=1D5E6
MATHEMATICAL SANS-SERIF BOLD CAPITAL SIGMA=1D768;37T=1D5E7;38AU=1D769;38HETA SYMBOL=1D767;42=1D75D
MATHEMATICAL SANS-SERIF BOLD CAPITAL U=1D5E8;38PSILON=1D76A;37V=1D5E9;37W=1D5EA;37X=1D5EB
MATHEMATICAL SANS-SERIF BOLD CAPITAL XI=1D763;37Y=1D5EC;37Z=1D5ED;38ETA=1D75B;29DIGIT EIGHT=1D7F4
MATHEMATICAL SANS-SERIF BOLD DIGIT FIVE=1D7F1;36OUR=1D7F0;35NINE=1D7F5;35ONE=1D7ED;35SEVEN=1D7F3
MATHEMATICAL SANS-SERIF BOLD DIGIT SIX=1D7F2;35THREE=1D7EF;36WO=1D7EE;35ZERO=1D7EC
MATHEMATICAL SANS-SERIF BOLD EPSILON SYMBOL=1D78A;29ITALIC CAPITAL A=1D63C;45LPHA=1D790;44B=1D63D
MATHEMATICAL SANS-SERIF BOLD ITALIC CAPITAL BETA=1D791;44C=1D63E;45HI=1D7A6;44D=1D63F;45ELTA=1D793
MATHEMATICAL SANS-SERIF BOLD ITALIC CAPITAL E=1D640;45PSILON=1D794;45TA=1D796;44F=1D641;44G=1D642
MATHEMATICAL SANS-SERIF BOLD ITALIC CAPITAL GAMMA=1D792;44H=1D643;44I=1D644;45OTA=1D798;44J=1D645
MATHEMATICAL SANS-SERIF BOLD ITALIC CAPITAL K=1D646;45APPA=1D799;44L=1D647;45AMDA=1D79A;44M=1D648
MATHEMATICAL SANS-SERIF BOLD ITALIC CAPITAL MU=1D79B;44N=1D649;45U=1D79C;44O=1D64A;45MEGA=1D7A8
MATHEMATICAL SANS-SERIF BOLD ITALIC CAPITAL OMICRON=1D79E;44P=1D64B;45HI=1D7A5;45I=1D79F
MATHEMATICAL SANS-SERIF BOLD ITALIC CAPITAL PSI=1D7A7;44Q=1D64C;44R=1D64D;45HO=1D7A0;44S=1D64E
MATHEMATICAL SANS-SERIF BOLD ITALIC CAPITAL SIGMA=1D7A2;44T=1D64F;45AU=1D7A3;45HETA SYMBOL=1D7A1
MATHEMATICAL SANS-SERIF BOLD ITALIC CAPITAL THETA=1D797;44U=1D650;45PSILON=1D7A4;44V=1D651
MATHEMATICAL SANS-SERIF BOLD ITALIC CAPITAL W=1D652;44X=1D653;45I=1D79D;44Y=1D654;44Z=1D655
MATHEMATICAL SANS-SERIF BOLD ITALIC CAPITAL ZETA=1D795;36EPSILON SYMBOL=1D7C4;36KAPPA SYMBOL=1D7C6
MATHEMATICAL SANS-SERIF BOLD ITALIC NABLA=1D7A9;36PARTIAL DIFFERENTIAL=1D7C3;37HI SYMBOL=1D7C7
MATHEMATICAL SANS-SERIF BOLD ITALIC PI SYMBOL=1D7C9;36RHO SYMBOL=1D7C8;36SMALL A=1D656
MATHEMATICAL SANS-SERIF BOLD ITALIC SMALL ALPHA=1D7AA;42B=1D657;43ETA=1D7AB;42C=1D658;43HI=1D7C0
MATHEMATICAL SANS-SERIF BOLD ITALIC SMALL D=1D659;43ELTA=1D7AD;42E=1D65A;43PSILON=1D7AE;43TA=1D7B0
MATHEMATICAL SANS-SERIF BOLD ITALIC SMALL F=1D65B;43INAL SIGMA=1D7BB;42G=1D65C;43AMMA=1D7AC
MATHEMATICAL SANS-SERIF BOLD ITALIC SMALL H=1D65D;42I=1D65E;43OTA=1D7B2;42J=1D65F;42K=1D660
MATHEMATICAL SANS-SERIF BOLD ITALIC SMALL KAPPA=1D7B3;42L=1D661;43AMDA=1D7B4;42M=1D662;43U=1D7B5
MATHEMATICAL SANS-SERIF BOLD ITALIC SMALL N=1D663;43U=1D7B6;42O=1D664;43MEGA=1D7C2;44ICRON=1D7B8
MATHEMATICAL SANS-SERIF BOLD ITALIC SMALL P=1D665;43HI=1D7BF;43I=1D7B9;43SI=1D7C1;42Q=1D666
MATHEMATICAL SANS-SERIF BOLD ITALIC SMALL R=1D667;43HO=1D7BA;42S=1D668;43IGMA=1D7BC;42T=1D669
MATHEMATICAL SANS-SERIF BOLD ITALIC SMALL TAU=1D7BD;43HETA=1D7B1;42U=1D66A;43PSILON=1D7BE
MATHEMATICAL SANS-SERIF BOLD ITALIC SMALL V=1D66B;42W=1D66C;42X=1D66D;43I=1D7B7;42Y=1D66E
MATHEMATICAL SANS-SERIF BOLD ITALIC SMALL Z=1D66F;43ETA=1D7AF;36THETA SYMBOL=1D7C5
MATHEMATICAL SANS-SERIF BOLD KAPPA SYMBOL=1D78C;29NABLA=1D76F;29PARTIAL DIFFERENTIAL=1D789
MATHEMATICAL SANS-SERIF BOLD PHI SYMBOL=1D78D;30I SYMBOL=1D78F;29RHO SYMBOL=1D78E;29SMALL A=1D5EE
MATHEMATICAL SANS-SERIF BOLD SMALL ALPHA=1D770;35B=1D5EF;36ETA=1D771;35C=1D5F0;36HI=1D786
MATHEMATICAL SANS-SERIF BOLD SMALL D=1D5F1;36ELTA=1D773;35E=1D5F2;36PSILON=1D774;36TA=1D776
MATHEMATICAL SANS-SERIF BOLD SMALL F=1D5F3;36INAL SIGMA=1D781;35G=1D5F4;36AMMA=1D772;35H=1D5F5
MATHEMATICAL SANS-SERIF BOLD SMALL I=1D5F6;36OTA=1D778;35J=1D5F7;35K=1D5F8;36APPA=1D779;35L=1D5F9
MATHEMATICAL SANS-SERIF BOLD SMALL LAMDA=1D77A;35M=1D5FA;36U=1D77B;35N=1D5FB;36U=1D77C;35O=1D5FC
MATHEMATICAL SANS-SERIF BOLD SMALL OMEGA=1D788;37ICRON=1D77E;35P=1D5FD;36HI=1D785;36I=1D77F
MATHEMATICAL SANS-SERIF BOLD SMALL PSI=1D787;35Q=1D5FE;35R=1D5FF;36HO=1D780;35S=1D600;36IGMA=1D782
MATHEMATICAL SANS-SERIF BOLD SMALL T=1D601;36AU=1D783;36HETA=1D777;35U=1D602;36PSILON=1D784
MATHEMATICAL SANS-SERIF BOLD SMALL V=1D603;35W=1D604;35X=1D605;36I=1D77D;35Y=1D606;35Z=1D607
MATHEMATICAL SANS-SERIF BOLD SMALL ZETA=1D775;29THETA SYMBOL=1D78B;24CAPITAL A=1D5A0;32B=1D5A1
MATHEMATICAL SANS-SERIF CAPITAL C=1D5A2;32D=1D5A3;32E=1D5A4;32F=1D5A5;32G=1D5A6;32H=1D5A7
MATHEMATICAL SANS-SERIF CAPITAL I=1D5A8;32J=1D5A9;32K=1D5AA;32L=1D5AB;32M=1D5AC;32N=1D5AD
MATHEMATICAL SANS-SERIF CAPITAL O=1D5AE;32P=1D5AF;32Q=1D5B0;32R=1D5B1;32S=1D5B2;32T=1D5B3
MATHEMATICAL SANS-SERIF CAPITAL U=1D5B4;32V=1D5B5;32W=1D5B6;32X=1D5B7;32Y=1D5B8;32Z=1D5B9"

end Foldline.Text.CharacterName
