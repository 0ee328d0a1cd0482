/-! # Character names, part 2 of 8

The names from BLACK CHESS KNIGHT ROTATED FORTY-FIVE DEGREES on,
in the notation of `CharacterName`. -/

namespace Foldline.Text.CharacterName

/-- Rows of names. -/
def rows2 : String := "
BLACK CHESS KNIGHT ROTATED FORTY-FIVE DEGREES=1FA07;27NINETY DEGREES=1FA13
BLACK CHESS KNIGHT ROTATED ONE HUNDRED THIRTY-FIVE DEGREES=1FA1C
BLACK CHESS KNIGHT ROTATED THREE HUNDRED FIFTEEN DEGREES=1FA46;28WO HUNDRED SEVENTY DEGREES=1FA3D
BLACK CHESS KNIGHT ROTATED TWO HUNDRED TWENTY-FIVE DEGREES=1FA31;18-BISHOP=1FA53;19QUEEN=1FA51
BLACK CHESS KNIGHT-ROOK=1FA52;18=265E;12PAWN ROTATED NINETY DEGREES=1FA14
BLACK CHESS PAWN ROTATED TWO HUNDRED SEVENTY DEGREES=1FA3E;16=265F
BLACK CHESS QUEEN ROTATED NINETY DEGREES=1FA10;26TWO HUNDRED SEVENTY DEGREES=1FA3A;17=265B
BLACK CHESS ROOK ROTATED NINETY DEGREES=1FA11;25TWO HUNDRED SEVENTY DEGREES=1FA3B;16=265C
BLACK CHESS TURNED BISHOP=1FA27;19KING=1FA24;20NIGHT=1FA28;19PAWN=1FA29;19QUEEN=1FA25;19ROOK=1FA26
BLACK CIRCLE FOR RECORD=23FA;13WITH DOWN ARROW=29ED;18TWO WHITE DOTS=2689;18WHITE DOT RIGHT=2688
BLACK CIRCLE=25CF;07LUB SUIT=2663;07ROSS ON SHIELD=26E8;07URVED DOWNWARDS AND LEFTWARDS ARROW=2BA8
BLACK CURVED DOWNWARDS AND RIGHTWARDS ARROW=2BA9;13LEFTWARDS AND DOWNWARDS ARROW=2BAE
BLACK CURVED LEFTWARDS AND UPWARDS ARROW=2BAC;13RIGHTWARDS AND DOWNWARDS ARROW=2BAF
BLACK CURVED RIGHTWARDS AND UPWARDS ARROW=2BAD;13UPWARDS AND LEFTWARDS ARROW=2BAA
BLACK CURVED UPWARDS AND RIGHTWARDS ARROW=2BAB;06DIAMOND CENTRED=2BC1;14MINUS WHITE X=2756
BLACK DIAMOND ON CROSS=2BDE;14SUIT=2666;14WITH DOWN ARROW=29EA;13=25C6
BLACK DOWN POINTING BACKHAND INDEX=1F5A3;10-POINTING DOUBLE TRIANGLE=23EC
BLACK DOWN-POINTING ISOSCELES RIGHT TRIANGLE=1F783;20SMALL TRIANGLE=25BE;20TRIANGLE=25BC
BLACK DOWNWARDS EQUILATERAL ARROWHEAD=2B9F;07RAUGHTS KING=26C3;15MAN=26C2;08OPLET=1F322
BLACK FLAG=2691;08ORETTE=273F;07OLDER=1F5BF;08UR POINTED STAR=2726;06HARD SHELL FLOPPY DISK=1F5AA
BLACK HEART SUIT=2665;11=1F5A4;08XAGON=2B22;07ORIZONTAL ELLIPSE=2B2C;08URGLASS=29D7
BLACK LARGE CIRCLE=2B24;12SQUARE=2B1B;07EFT LANE MERGE=26D8;11POINTING BACKHAND INDEX=1F59C
BLACK LEFT POINTING INDEX=261A;10-POINTING DOUBLE TRIANGLE WITH VERTICAL BAR=23EE;35=23EA
BLACK LEFT-POINTING ISOSCELES RIGHT TRIANGLE=1F780;20POINTER=25C4;20SMALL TRIANGLE=25C2
BLACK LEFT-POINTING TRIANGLE=25C0;10WARDS BULLET=204C;16EQUILATERAL ARROWHEAD=2B9C
BLACK LOWER LEFT TRIANGLE=25E3;12RIGHT TRIANGLE=25E2;08ZENGE=29EB;06MEDIUM DIAMOND=2B25
BLACK MEDIUM DOWN-POINTING TRIANGLE CENTRED=2BC6;35=23F7;13LEFT-POINTING TRIANGLE CENTRED=2BC7
BLACK MEDIUM LEFT-POINTING TRIANGLE=23F4;14OZENGE=2B27;13RIGHT-POINTING TRIANGLE CENTRED=2BC8
BLACK MEDIUM RIGHT-POINTING TRIANGLE=23F5;13SMALL DIAMOND=1F799;19LOZENGE=1F79F;19SQUARE=25FE
BLACK MEDIUM SQUARE=25FC;13UP-POINTING TRIANGLE CENTRED=2BC5;33=23F6;07OON LILITH=26B8;06NIB=2712
BLACK OCTAGON=2BC4;06PARALLELOGRAM=25B0;07ENNANT=1F3F2;09TAGON=2B1F;07USHPIN=1F588
BLACK QUESTION MARK ORNAMENT=2753;06RECTANGLE=25AC;07IGHT POINTING BACKHAND INDEX=1F59D
BLACK RIGHT POINTING INDEX=261B;11-POINTING DOUBLE TRIANGLE WITH VERTICAL BAR=23ED;36=23E9
BLACK RIGHT-POINTING ISOSCELES RIGHT TRIANGLE=1F782;21PENTAGON=2B53;22OINTER=25BA
BLACK RIGHT-POINTING SMALL TRIANGLE=25B8;21TRIANGLE WITH DOUBLE VERTICAL BAR=23EF;29=25B6
BLACK RIGHTWARDS ARROW=27A1;22HEAD=27A4;17BULLET=204D;17EQUILATERAL ARROWHEAD=2B9E;07OSETTE=1F3F6
BLACK SAFETY SCISSORS=2700;07CISSORS=2702;07HOGI PIECE=2617;07KULL AND CROSSBONES=1F571
BLACK SLIGHTLY SMALL CIRCLE=1F784;21SQUARE=1F78D;07MALL DIAMOND=2B29;12LOZENGE=2B2A;12SQUARE=25AA
BLACK SMALL STAR=2B51;08ILING FACE=263B;07NOWMAN=26C7;07PADE SUIT=2660;07QUARE BUTTON=1F532
BLACK SQUARE CENTRED=2BC0;13FOR STOP=23F9;12=25A0;07TAR=2605;07UN WITH RAYS=2600;06TELEPHONE=260E
BLACK TINY DIAMOND=1F797;11LOZENGE=1F79D;11SQUARE=1F78C;07OUCHTONE TELEPHONE=1F57F;07RUCK=26DF
BLACK TWO-WAY LEFT WAY TRAFFIC=26D6;06UNIVERSAL RECYCLING SYMBOL=267B
BLACK UP POINTING BACKHAND INDEX=1F5A2;08-POINTING DOUBLE TRIANGLE=23EB
BLACK UP-POINTING ISOSCELES RIGHT TRIANGLE=1F781;18SMALL TRIANGLE=25B4;18TRIANGLE=25B2
BLACK UPPER LEFT TRIANGLE=25E4;12RIGHT TRIANGLE=25E5;08WARDS EQUILATERAL ARROWHEAD=2B9D
BLACK VERTICAL ELLIPSE=2B2E;15RECTANGLE=25AE;09Y SMALL DIAMOND=1F798;17LOZENGE=1F79E;17SQUARE=2B1D
BLACK-FEATHERED NORTH EAST ARROW=27B6;16RIGHTWARDS ARROW=27B5;16SOUTH EAST ARROW=27B4
BLACK-LETTER CAPITAL C=212D;21H=210C;21I=2111;21R=211C;21Z=2128;03NK SYMBOL=2422
BLOCK SEXTANT-12345=1FB1D;186=1FB2C;18=1FB0E;1756=1FB34;18=1FB15;176=1FB25;17=1FB06;16456=1FB38
BLOCK SEXTANT-1245=1FB19;176=1FB28;17=1FB0A;1656=1FB30;17=1FB12;166=1FB21;16=1FB02;153456=1FB3A
BLOCK SEXTANT-1345=1FB1B;176=1FB2A;17=1FB0C;1656=1FB32;166=1FB23;16=1FB04;15456=1FB36;17=1FB17
BLOCK SEXTANT-146=1FB27;16=1FB08;1556=1FB2E;16=1FB10;156=1FB1F;15=1FB00;1423456=1FB3B;18=1FB1C
BLOCK SEXTANT-2346=1FB2B;17=1FB0D;1656=1FB33;17=1FB14;166=1FB24;16=1FB05;15456=1FB37;17=1FB18
BLOCK SEXTANT-24=1FB09;1556=1FB2F;16=1FB11;156=1FB20;15=1FB01;143456=1FB39;17=1FB1A;166=1FB29
BLOCK SEXTANT-34=1FB0B;1556=1FB31;16=1FB13;156=1FB22;15=1FB03;14456=1FB35;16=1FB16;156=1FB26
BLOCK SEXTANT-4=1FB07;1456=1FB2D;15=1FB0F;146=1FB1E;03SSOM=1F33C;03WFISH=1F421;02UE BOOK=1F4D8
BLUE HEART=1F499;04BERRIES=1FAD0;01OAR=1F417;02LD EIGHT SPOKED ASTERISK=1F7BD
BOLD FIVE SPOKED ASTERISK=1F7B1;05GREEK CROSS=1F7A4;05SALTIRE=1F7AB;06IX SPOKED ASTERISK=1F7B7
BOLD WHITE CIRCLE=1F786;11SQUARE=1F790;02M=FEFF;03B=1F4A3;02NE=1F9B4;02OK=1F56E;04MARK TABS=1F4D1
BOOKMARK=1F516;04S=1F4DA;03MERANG=1FA83;02POMOFO FINAL LETTER G=31BB;22H=31B7;22K=31B6;22P=31B4
BOPOMOFO FINAL LETTER T=31B5;09LETTER A=311A;17H=31BF;17I=311E;18NN=31AE;17M=31B0;17N=3122
BOPOMOFO LETTER ANG=3124;18N=31A9;17U=3120;18NN=31AF;16B=3105;17U=31A0;16C=3118;17H=3114;16D=3109
BOPOMOFO LETTER E=311C;17E=31A4;17H=311D;17I=311F;17N=3123;18G=3125;18N=31A5;17R=3126;16F=3108
BOPOMOFO LETTER G=310D;17H=31B8;17N=312C;17U=31A3;17W=31BC;16H=310F;16I=3127;17H=312D;17M=31AC
BOPOMOFO LETTER INN=31AA;19N=31B3;17R=31A8;17U=3129;16J=3110;17I=31A2;16K=310E;17W=31BD;16L=310C
BOPOMOFO LETTER LH=31B9;16M=3107;16N=310B;17G=312B;18G=31AD;17N=312F;16O WITH DOT ABOVE=312E
BOPOMOFO LETTER O=311B;17E=31BE;17M=31B1;17NG=31B2;18N=31A7;17O=31A6;17U=3121;16P=3106;16Q=3111
BOPOMOFO LETTER R=3116;16S=3119;17H=3115;16T=310A;16U=3128;17NN=31AB;16V=312A;16X=3112;16Z=3117
BOPOMOFO LETTER ZH=3113;17I=31A1;17Y=31BA;02TTLE WITH POPPING CORK=1F37E
BOTTOM ARC ANTICLOCKWISE ARROW=293B;07CURLY BRACKET=23DF;07HALF BLACK CIRCLE=2BCB;12INTEGRAL=2321
BOTTOM HALF LEFT PARENTHESIS=2E5B;12RIGHT PARENTHESIS=2E5C;07LEFT CORNER=231E;13ROP=230D
BOTTOM LEFT HALF BRACKET=2E24;07PARENTHESIS=23DD;07RIGHT CORNER=231F;14ROP=230C
BOTTOM RIGHT HALF BRACKET=2E25;07SQUARE BRACKET OVER TOP SQUARE BRACKET=23B6;21=23B5
BOTTOM TORTOISE SHELL BRACKET=23E1;02UQUET OF FLOWERS=1F395;07=1F490;02W AND ARROW=1F3F9
BOWL OF HYGIEIA=1F54F;05WITH SPOON=1F963;04ING=1F3B3;03TIE WITH LEFT HALF BLACK=29D1
BOWTIE WITH RIGHT HALF BLACK=29D2;06=22C8;02X DRAWINGS DOUBLE DOWN AND HORIZONTAL=2566;29LEFT=2557
BOX DRAWINGS DOUBLE DOWN AND RIGHT=2554;20HORIZONTAL=2550;20UP AND HORIZONTAL=2569;27LEFT=255D
BOX DRAWINGS DOUBLE UP AND RIGHT=255A;20VERTICAL AND HORIZONTAL=256C;33LEFT=2563;33RIGHT=2560
BOX DRAWINGS DOUBLE VERTICAL=2551;15WN DOUBLE AND HORIZONTAL SINGLE=2565;29LEFT SINGLE=2556
BOX DRAWINGS DOWN DOUBLE AND RIGHT SINGLE=2553;18HEAVY AND HORIZONTAL LIGHT=2530;28LEFT LIGHT=2512
BOX DRAWINGS DOWN HEAVY AND LEFT UP LIGHT=2527;28RIGHT LIGHT=250E;34UP LIGHT=251F
BOX DRAWINGS DOWN HEAVY AND UP HORIZONTAL LIGHT=2541;18LIGHT AND HORIZONTAL HEAVY=252F
BOX DRAWINGS DOWN LIGHT AND LEFT HEAVY=2511;33UP HEAVY=2529;28RIGHT HEAVY=250D;34UP HEAVY=2521
BOX DRAWINGS DOWN LIGHT AND UP HORIZONTAL HEAVY=2547;18SINGLE AND HORIZONTAL DOUBLE=2564
BOX DRAWINGS DOWN SINGLE AND LEFT DOUBLE=2555;29RIGHT DOUBLE=2552
BOX DRAWINGS HEAVY DOUBLE DASH HORIZONTAL=254D;31VERTICAL=254F;21WN AND HORIZONTAL=2533
BOX DRAWINGS HEAVY DOWN AND LEFT=2513;28RIGHT=250F;23=257B;19HORIZONTAL=2501
BOX DRAWINGS HEAVY LEFT AND LIGHT RIGHT=257E;23=2578;19QUADRUPLE DASH HORIZONTAL=2509
BOX DRAWINGS HEAVY QUADRUPLE DASH VERTICAL=250B;19RIGHT=257A;19TRIPLE DASH HORIZONTAL=2505
BOX DRAWINGS HEAVY TRIPLE DASH VERTICAL=2507;19UP AND HORIZONTAL=253B;26LEFT=251B;27IGHT DOWN=257F
BOX DRAWINGS HEAVY UP AND RIGHT=2517;21=2579;19VERTICAL AND HORIZONTAL=254B;32LEFT=252B
BOX DRAWINGS HEAVY VERTICAL AND RIGHT=2523;27=2503;13LEFT DOWN HEAVY AND RIGHT UP LIGHT=2545
BOX DRAWINGS LEFT HEAVY AND RIGHT DOWN LIGHT=252D;34UP LIGHT=2535;34VERTICAL LIGHT=253D
BOX DRAWINGS LEFT LIGHT AND RIGHT DOWN HEAVY=2532;34UP HEAVY=253A;34VERTICAL HEAVY=254A
BOX DRAWINGS LEFT UP HEAVY AND RIGHT DOWN LIGHT=2543;14IGHT ARC DOWN AND LEFT=256E;32RIGHT=256D
BOX DRAWINGS LIGHT ARC UP AND LEFT=256F;30RIGHT=2570;19DIAGONAL CROSS=2573;28DIAMOND=1FBAE
BOX DRAWINGS LIGHT DIAGONAL MIDDLE LEFT TO LOWER CENTRE TO MIDDLE RIGHT=1FBA6;55=1FBA2
BOX DRAWINGS LIGHT DIAGONAL MIDDLE LEFT TO UPPER CENTRE TO MIDDLE RIGHT TO LOWER CENTRE=1FBAC
BOX DRAWINGS LIGHT DIAGONAL MIDDLE LEFT TO UPPER CENTRE TO MIDDLE RIGHT=1FBA7
BOX DRAWINGS LIGHT DIAGONAL MIDDLE RIGHT TO LOWER CENTRE=1FBA3
BOX DRAWINGS LIGHT DIAGONAL MIDDLE RIGHT TO UPPER CENTRE TO MIDDLE LEFT TO LOWER CENTRE=1FBAD
BOX DRAWINGS LIGHT DIAGONAL UPPER CENTRE TO MIDDLE LEFT AND MIDDLE RIGHT TO LOWER CENTRE=1FBA8
BOX DRAWINGS LIGHT DIAGONAL UPPER CENTRE TO MIDDLE LEFT TO LOWER CENTRE TO MIDDLE RIGHT=1FBAB
BOX DRAWINGS LIGHT DIAGONAL UPPER CENTRE TO MIDDLE LEFT TO LOWER CENTRE=1FBA4;55=1FBA0
BOX DRAWINGS LIGHT DIAGONAL UPPER CENTRE TO MIDDLE RIGHT AND MIDDLE LEFT TO LOWER CENTRE=1FBA9
BOX DRAWINGS LIGHT DIAGONAL UPPER CENTRE TO MIDDLE RIGHT TO LOWER CENTRE TO MIDDLE LEFT=1FBAA
BOX DRAWINGS LIGHT DIAGONAL UPPER CENTRE TO MIDDLE RIGHT TO LOWER CENTRE=1FBA5;56=1FBA1
BOX DRAWINGS LIGHT DIAGONAL UPPER LEFT TO LOWER RIGHT=2572;34RIGHT TO LOWER LEFT=2571
BOX DRAWINGS LIGHT DOUBLE DASH HORIZONTAL=254C;31VERTICAL=254E;21WN AND HORIZONTAL=252C
BOX DRAWINGS LIGHT DOWN AND LEFT=2510;28RIGHT=250C;23=2577;19HORIZONTAL WITH VERTICAL STROKE=1FBAF
BOX DRAWINGS LIGHT HORIZONTAL=2500;19LEFT AND HEAVY RIGHT=257C;23=2574
BOX DRAWINGS LIGHT QUADRUPLE DASH HORIZONTAL=2508;34VERTICAL=250A;19RIGHT=2576
BOX DRAWINGS LIGHT TRIPLE DASH HORIZONTAL=2504;31VERTICAL=2506;19UP AND HEAVY DOWN=257D
BOX DRAWINGS LIGHT UP AND HORIZONTAL=2534;26LEFT=2518;26RIGHT=2514;21=2575
BOX DRAWINGS LIGHT VERTICAL AND HORIZONTAL=253C;32LEFT=2524;32RIGHT=251C;27=2502
BOX DRAWINGS RIGHT DOWN HEAVY AND LEFT UP LIGHT=2546;19HEAVY AND LEFT DOWN LIGHT=252E
BOX DRAWINGS RIGHT HEAVY AND LEFT UP LIGHT=2536;34VERTICAL LIGHT=253E
BOX DRAWINGS RIGHT LIGHT AND LEFT DOWN HEAVY=2531;34UP HEAVY=2539;34VERTICAL HEAVY=2549
BOX DRAWINGS RIGHT UP HEAVY AND LEFT DOWN LIGHT=2544;13UP DOUBLE AND HORIZONTAL SINGLE=2568
BOX DRAWINGS UP DOUBLE AND LEFT SINGLE=255C;27RIGHT SINGLE=2559
BOX DRAWINGS UP HEAVY AND DOWN HORIZONTAL LIGHT=2540;26HORIZONTAL LIGHT=2538
BOX DRAWINGS UP HEAVY AND LEFT DOWN LIGHT=2526;31LIGHT=251A;26RIGHT DOWN LIGHT=251E;32LIGHT=2516
BOX DRAWINGS UP LIGHT AND DOWN HORIZONTAL HEAVY=2548;26HORIZONTAL HEAVY=2537
BOX DRAWINGS UP LIGHT AND LEFT DOWN HEAVY=252A;31HEAVY=2519;26RIGHT DOWN HEAVY=2522;32HEAVY=2515
BOX DRAWINGS UP SINGLE AND HORIZONTAL DOUBLE=2567;27LEFT DOUBLE=255B;27RIGHT DOUBLE=2558
BOX DRAWINGS VERTICAL DOUBLE AND HORIZONTAL SINGLE=256B;33LEFT SINGLE=2562;33RIGHT SINGLE=255F
BOX DRAWINGS VERTICAL HEAVY AND HORIZONTAL LIGHT=2542;32LEFT LIGHT=2528;32RIGHT LIGHT=2520
BOX DRAWINGS VERTICAL LIGHT AND HORIZONTAL HEAVY=253F;32LEFT HEAVY=2525;32RIGHT HEAVY=251D
BOX DRAWINGS VERTICAL SINGLE AND HORIZONTAL DOUBLE=256A;33LEFT DOUBLE=2561;33RIGHT DOUBLE=255E
BOXING GLOVE=1F94A;02Y=1F466;03S SYMBOL=1F6C9;01PH=82;01RAHMI DANDA=11047;08IGIT EIGHT=1106E
BRAHMI DIGIT FIVE=1106B;14OUR=1106A;13NINE=1106F;13ONE=11067;13SEVEN=1106D;14IX=1106C
BRAHMI DIGIT THREE=11069;14WO=11068;13ZERO=11066;08OUBLE DANDA=11048;07LETTER A=11005;15A=11006
BRAHMI LETTER AI=11010;15U=11012;14BA=11029;15HA=1102A;14CA=11018;15HA=11019;14DA=11024;15DA=1101F
BRAHMI LETTER DDHA=11020;15HA=11025;14E=1100F;14GA=11015;15HA=11016;14HA=11033;14I=11007;15I=11008
BRAHMI LETTER JA=1101A;15HA=1101B;14KA=11013;15HA=11014;14LA=1102E;15LA=11034;14MA=1102B
BRAHMI LETTER NA=11026;15GA=11017;15NA=11021;15YA=1101C;14O=11011;15LD TAMIL LLA=11075;26LA=11035
BRAHMI LETTER OLD TAMIL NNNA=11037;24RRA=11036;24SHORT E=11071;30O=11072;14PA=11027;15HA=11028
BRAHMI LETTER RA=1102D;14SA=11032;15HA=11030;15SA=11031;14TA=11022;15HA=11023;15TA=1101D
BRAHMI LETTER TTHA=1101E;14U=11009;15U=1100A;14VA=1102F;15OCALIC L=1100D;23L=1100E;22R=1100B
BRAHMI LETTER VOCALIC RR=1100C;14YA=1102C;07NUMBER EIGHT=11059;19Y=11062;14FIFTY=1105F;16VE=11056
BRAHMI NUMBER FORTY=1105E;16UR=11055;14JOINER=1107F;14NINE=1105A;18TY=11063;14ONE HUNDRED=11064
BRAHMI NUMBER ONE THOUSAND=11065;17=11052;14SEVEN=11058;19TY=11061;15IX=11057;17TY=11060
BRAHMI NUMBER TEN=1105B;15HIRTY=1105D;16REE=11054;15WENTY=1105C;16O=11053
BRAHMI PUNCTUATION CRESCENT BAR=1104C;19DOT=11049;21UBLE DOT=1104A;19LINE=1104B;20OTUS=1104D
BRAHMI SIGN ANUSVARA=11001;12CANDRABINDU=11000;12JIHVAMULIYA=11003;12OLD TAMIL VIRAMA=11070
BRAHMI SIGN UPADHMANIYA=11004;12VISARGA=11002;07VIRAMA=11046;08OWEL SIGN AA=11038;19I=11043
BRAHMI VOWEL SIGN AU=11045;18BHATTIPROLU AA=11039;18E=11042;18I=1103A;19I=1103B;18O=11044
BRAHMI VOWEL SIGN OLD TAMIL SHORT E=11073;34O=11074;18U=1103C;19U=1103D;18VOCALIC L=11040
BRAHMI VOWEL SIGN VOCALIC LL=11041;26R=1103E;27R=1103F;03ILLE PATTERN BLANK=2800
BRAILLE PATTERN DOTS-12345678=28FF;28=287F;278=28BF;27=283F;2678=28DF;27=285F;268=289F;26=281F
BRAILLE PATTERN DOTS-1234678=28EF;27=286F;268=28AF;26=282F;2578=28CF;26=284F;258=288F;25=280F
BRAILLE PATTERN DOTS-1235678=28F7;27=2877;268=28B7;26=2837;2578=28D7;26=2857;258=2897;25=2817
BRAILLE PATTERN DOTS-123678=28E7;26=2867;258=28A7;25=2827;2478=28C7;25=2847;248=2887;24=2807
BRAILLE PATTERN DOTS-1245678=28FB;27=287B;268=28BB;26=283B;2578=28DB;26=285B;258=289B;25=281B
BRAILLE PATTERN DOTS-124678=28EB;26=286B;258=28AB;25=282B;2478=28CB;25=284B;248=288B;24=280B
BRAILLE PATTERN DOTS-125678=28F3;26=2873;258=28B3;25=2833;2478=28D3;25=2853;248=2893;24=2813
BRAILLE PATTERN DOTS-12678=28E3;25=2863;248=28A3;24=2823;2378=28C3;24=2843;238=2883;23=2803
BRAILLE PATTERN DOTS-1345678=28FD;27=287D;268=28BD;26=283D;2578=28DD;26=285D;258=289D;25=281D
BRAILLE PATTERN DOTS-134678=28ED;26=286D;258=28AD;25=282D;2478=28CD;25=284D;248=288D;24=280D
BRAILLE PATTERN DOTS-135678=28F5;26=2875;258=28B5;25=2835;2478=28D5;25=2855;248=2895;24=2815
BRAILLE PATTERN DOTS-13678=28E5;25=2865;248=28A5;24=2825;2378=28C5;24=2845;238=2885;23=2805
BRAILLE PATTERN DOTS-145678=28F9;26=2879;258=28B9;25=2839;2478=28D9;25=2859;248=2899;24=2819
BRAILLE PATTERN DOTS-14678=28E9;25=2869;248=28A9;24=2829;2378=28C9;24=2849;238=2889;23=2809
BRAILLE PATTERN DOTS-15678=28F1;25=2871;248=28B1;24=2831;2378=28D1;24=2851;238=2891;23=2811
BRAILLE PATTERN DOTS-1678=28E1;24=2861;238=28A1;23=2821;2278=28C1;23=2841;228=2881;22=2801
BRAILLE PATTERN DOTS-2345678=28FE;27=287E;268=28BE;26=283E;2578=28DE;26=285E;258=289E;25=281E
BRAILLE PATTERN DOTS-234678=28EE;26=286E;258=28AE;25=282E;2478=28CE;25=284E;248=288E;24=280E
BRAILLE PATTERN DOTS-235678=28F6;26=2876;258=28B6;25=2836;2478=28D6;25=2856;248=2896;24=2816
BRAILLE PATTERN DOTS-23678=28E6;25=2866;248=28A6;24=2826;2378=28C6;24=2846;238=2886;23=2806
BRAILLE PATTERN DOTS-245678=28FA;26=287A;258=28BA;25=283A;2478=28DA;25=285A;248=289A;24=281A
BRAILLE PATTERN DOTS-24678=28EA;25=286A;248=28AA;24=282A;2378=28CA;24=284A;238=288A;23=280A
BRAILLE PATTERN DOTS-25678=28F2;25=2872;248=28B2;24=2832;2378=28D2;24=2852;238=2892;23=2812
BRAILLE PATTERN DOTS-2678=28E2;24=2862;238=28A2;23=2822;2278=28C2;23=2842;228=2882;22=2802
BRAILLE PATTERN DOTS-345678=28FC;26=287C;258=28BC;25=283C;2478=28DC;25=285C;248=289C;24=281C
BRAILLE PATTERN DOTS-34678=28EC;25=286C;248=28AC;24=282C;2378=28CC;24=284C;238=288C;23=280C
BRAILLE PATTERN DOTS-35678=28F4;25=2874;248=28B4;24=2834;2378=28D4;24=2854;238=2894;23=2814
BRAILLE PATTERN DOTS-3678=28E4;24=2864;238=28A4;23=2824;2278=28C4;23=2844;228=2884;22=2804
BRAILLE PATTERN DOTS-45678=28F8;25=2878;248=28B8;24=2838;2378=28D8;24=2858;238=2898;23=2818
BRAILLE PATTERN DOTS-4678=28E8;24=2868;238=28A8;23=2828;2278=28C8;23=2848;228=2888;22=2808
BRAILLE PATTERN DOTS-5678=28F0;24=2870;238=28B0;23=2830;2278=28D0;23=2850;228=2890;22=2810
BRAILLE PATTERN DOTS-678=28E0;23=2860;228=28A0;22=2820;2178=28C0;22=2840;218=2880;04N=1F9E0
BREAD=1F35E;04K PERMITTED HERE=82;04ST-FEEDING=1F931;03VE=2D8;02ICK=1F9F1;03DE WITH VEIL=1F470
BRIDGE AT NIGHT=1F309;03EFCASE=1F4BC;05S=1FA72;02OCCOLI=1F966;03KEN BAR=A6
BROKEN CIRCLE WITH NORTHWEST ARROW=238B;07HEART=1F494;03OM=1F9F9;03WN HEART=1F90E;01S=8
BUBBLE TEA=1F9CB;06S=1FAE7;02CKET=1FAA3;02G=1F41B;03INESE END OF SECTION=1A1F;09LETTER A=1A15
BUGINESE LETTER BA=1A05;16CA=1A0C;16DA=1A09;16GA=1A01;16HA=1A16;16JA=1A0D;16KA=1A00;16LA=1A12
BUGINESE LETTER MA=1A06;17PA=1A07;16NA=1A0A;17GA=1A02;18KA=1A03;17RA=1A0B;17YA=1A0E;18CA=1A0F
BUGINESE LETTER PA=1A04;16RA=1A11;16SA=1A14;16TA=1A08;16VA=1A13;16YA=1A10;09PALLAWA=1A1E
BUGINESE VOWEL SIGN AE=1A1B;20E=1A19;20I=1A17;20O=1A1A;20U=1A18;02HID LETTER A=1740;13BA=174A
BUHID LETTER DA=1747;13GA=1744;13HA=1751;13I=1741;13KA=1743;13LA=174E;13MA=174B;13NA=1748
BUHID LETTER NGA=1745;13PA=1749;13RA=174D;13SA=1750;13TA=1746;13U=1742;13WA=174F;13YA=174C
BUHID VOWEL SIGN I=1752;17U=1753;02ILDING CONSTRUCTION=1F3D7;02LLET OPERATOR=2219;06=2022
BULLHORN WITH SOUND WAVES=1F56C;08=1F56B;04SEYE=25CE;02RRITO=1F32F;02S STOP=1F68F;03=1F68C
BUST IN SILHOUETTE=1F464;04S IN SILHOUETTE=1F465;02TTER=1F9C8;06FLY=1F98B;01YTE ORDER MARK=FEFF
BYZANTINE MUSICAL SYMBOL AGOGI ARGI=1D09C;34OTERI=1D09B;31GORGI=1D09F;35OTERI=1D0A0;31MESI=1D09E
BYZANTINE MUSICAL SYMBOL AGOGI METRIA=1D09D;31POLI ARGI=1D09A;36GORGI=1D0A1;26NATRICHISMA=1D028
BYZANTINE MUSICAL SYMBOL ANTIKENOKYLISMA=1D062;33MA=1D05C;26PESO EKFONITIKON=1D00D;32XO NEO=1D033
BYZANTINE MUSICAL SYMBOL APLI=1D085;27ODERMA ARCHAION=1D022;34NEO=1D084
BYZANTINE MUSICAL SYMBOL APOSTROFOI SYNDESMOS NEO=1D052;36TELOUS ICHIMATOS=1D0AD;34S DIPLI=1D012
BYZANTINE MUSICAL SYMBOL APOSTROFOS NEO=1D051;35=1D011;28THEMA=1D023;26RGON=1D097
BYZANTINE MUSICAL SYMBOL ARGOSYNTHETON=1D073;27KTIKO DI=1D0EC;33GA=1D0EB;33KE=1D0ED;33NI=1D0EF
BYZANTINE MUSICAL SYMBOL ARKTIKO PA=1D0E9;33VOU=1D0EA;33ZO=1D0EE;25CHAMILI=1D056;31ON=1D018
BYZANTINE MUSICAL SYMBOL CHOREVMA ARCHAION=1D03B;34NEO=1D067;27ROA KLITON=1D0C9;31SPATHI=1D0CA
BYZANTINE MUSICAL SYMBOL CHROA ZYGOS=1D0C8;25DASEIA=1D001;26IARGON=1D099;28STOLI APLI MEGALI=1D0DB
BYZANTINE MUSICAL SYMBOL DIASTOLI APLI MIKRI=1D0DA;34DIPLI=1D0DC;34THESEOS=1D0DD
BYZANTINE MUSICAL SYMBOL DIESIS APLI DYO DODEKATA=1D0D0;32DIGRAMMOS EX DODEKATA=1D0D2
BYZANTINE MUSICAL SYMBOL DIESIS MONOGRAMMOS TESSERA DODEKATA=1D0D1;32TETARTIMORION=1D0CF
BYZANTINE MUSICAL SYMBOL DIESIS TRIGRAMMOS OKTO DODEKATA=1D0D3;35TIMORION=1D0CE;27FTOGGOS OU=1D0E7
BYZANTINE MUSICAL SYMBOL DIGORGON PARESTIGMENON ARISTERA ANO=1D094;57KATO=1D093;48DEXIA=1D095
BYZANTINE MUSICAL SYMBOL DIGORGON=1D092;28RAMMA GG=1D0E6;27PLI ARCHAION=1D080;30=1D086;26YO=1D02F
BYZANTINE MUSICAL SYMBOL EKSTREPTON=1D064;26LAFRON=1D055;26NARXIS KAI FTHORA VOU=1D0B6
BYZANTINE MUSICAL SYMBOL ENDOFONON=1D07B;26PEGERMA=1D068;26TERON ARGOSYNTHETON=1D074
BYZANTINE MUSICAL SYMBOL ETERON PARAKALESMA=1D060;26XO EKFONITIKON=1D00E
BYZANTINE MUSICAL SYMBOL FANEROSIS DIFONIAS=1D0B0;35MONOFONIAS=1D0AF;35TETRAFONIAS=1D0AE
BYZANTINE MUSICAL SYMBOL FHTORA SKLIRON CHROMA VASIS=1D0C5;26THORA ARCHAION DEYTEROU ICHOU=1D0B9
BYZANTINE MUSICAL SYMBOL FTHORA ARCHAION=1D034;32DIATONIKI DI=1D0BD;42KE=1D0BF;42NANA=1D0BB
BYZANTINE MUSICAL SYMBOL FTHORA DIATONIKI NI ANO=1D0C2;45KATO=1D0C1;42PA=1D0BA;42ZO=1D0C0
BYZANTINE MUSICAL SYMBOL FTHORA ENARMONIOS ANTIFONIA=1D0CC;32I YFESIS TETARTIMORION=1D0CB
BYZANTINE MUSICAL SYMBOL FTHORA MALAKON CHROMA DIFONIAS=1D0C3;47MONOFONIAS=1D0C4
BYZANTINE MUSICAL SYMBOL FTHORA NAOS ICHOS=1D0BC;33ENANO=1D0C7;32SKLIRON CHROMA SYNAFI=1D0C6
BYZANTINE MUSICAL SYMBOL FTHORA SKLIRON CHROMA VASIS=1D0C5;40DIATONON DI=1D0BE
BYZANTINE MUSICAL SYMBOL GENIKI DIESIS=1D0D8;32YFESIS=1D0D9;26ORGON ARCHAION=1D016;32NEO ANO=1D08F
BYZANTINE MUSICAL SYMBOL GORGON NEO KATO=1D0F5;32PARESTIGMENON ARISTERA=1D090;46DEXIA=1D091
BYZANTINE MUSICAL SYMBOL GORGOSYNTHETON=1D072;28THMIKON N APLOUN=1D0B4;38DIPLOUN=1D0B5
BYZANTINE MUSICAL SYMBOL GRONTHISMATA=1D045;25ICHADIN=1D03F;26MIDIARGON=1D098;28FONON=1D0B7
BYZANTINE MUSICAL SYMBOL IMIFTHORA=1D035;33ON=1D0B8;26SAKIA TELOUS ICHIMATOS=1D0AC
BYZANTINE MUSICAL SYMBOL ISON ARCHAION=1D01A;30NEO=1D046;25KATAVA TROMIKON=1D037;31SMA=1D07A
BYZANTINE MUSICAL SYMBOL KATHISTI=1D007;26ENTIMA ARCHAION=1D01B;33NEO ANO=1D04F;37KATO=1D0F3
BYZANTINE MUSICAL SYMBOL KENTIMA NEO MESO=1D0F1;32TA ARCHAION=1D01C;35NEO ANO=1D04E;39KATO=1D0F2
BYZANTINE MUSICAL SYMBOL KENTIMATA NEO MESO=1D0F0;34=1D010;26LASMA ANO=1D07F;32KATO=1D0F4;31=1D024
BYZANTINE MUSICAL SYMBOL KONTEVMA ALLO=1D042;33=1D03A;27RONIS=1D089;27UFISMA=1D04A
BYZANTINE MUSICAL SYMBOL KRATIMA ALLO=1D082;34RCHAION=1D081;33NEO=1D083;32TA=1D032
BYZANTINE MUSICAL SYMBOL KRATIMOKOUFISMA=1D04C;32YPORROON=1D054;27EMASTI=1D00C;26YLISMA=1D061
BYZANTINE MUSICAL SYMBOL LEIMMA DYO CHRONON=1D08B;32ENOS CHRONOU=1D08A;32IMISEOS CHRONOU=1D08E
BYZANTINE MUSICAL SYMBOL LEIMMA TESSARON CHRONON=1D08D;33RION CHRONON=1D08C;27MOI=1D02E
BYZANTINE MUSICAL SYMBOL LYGISMA=1D05D;25MARTYRIA ALLI DEYTEROS ICHOS=1D0A5;39PROTOS ICHOS=1D0A3
BYZANTINE MUSICAL SYMBOL MARTYRIA DEYTEROS ICHOS=1D0A4;34LEGETOS ICHOS=1D0AA;34PLAGIOS ICHOS=1D0AB
BYZANTINE MUSICAL SYMBOL MARTYRIA PLAGIOS TETARTOS ICHOS=1D0B3;35ROTOS ICHOS=1D0A2
BYZANTINE MUSICAL SYMBOL MARTYRIA PROTOVARYS ICHOS=1D0B2;34TETARTOS ICHOS=1D0A8
BYZANTINE MUSICAL SYMBOL MARTYRIA TETARTOS LEGETOS ICHOS=1D0A9;35RIFONIAS=1D0A7;37TOS ICHOS=1D0A6
BYZANTINE MUSICAL SYMBOL MARTYRIA VARYS ICHOS=1D0B1;26IKRON ISON=1D057;25NANA=1D040
BYZANTINE MUSICAL SYMBOL OLIGON ARCHAION=1D015;32NEO=1D047;26MALON=1D05B;26XEIA DIPLI=1D004
BYZANTINE MUSICAL SYMBOL OXEIA EKFONITIKON=1D003;31NEO=1D048;30I ARCHAION=1D020
BYZANTINE MUSICAL SYMBOL OYRANISMA ARCHAION=1D02C;35NEO=1D075;25PARAKALESMA ARCHAION=1D03D
BYZANTINE MUSICAL SYMBOL PARAKALESMA NEO=1D05F;30LITIKI ARCHAION=1D03E;37NEO=1D05E;36=1D009
BYZANTINE MUSICAL SYMBOL PARICHON=1D01E;26ELASTON NEO=1D04D;33=1D038;27RISPOMENI=1D002
BYZANTINE MUSICAL SYMBOL PETASMA=1D041;30TI=1D049;31OKOUFISMA=1D04B;26IASMA ARCHAION=1D026
BYZANTINE MUSICAL SYMBOL PIASMA NEO=1D059;26SIFISTOLYGISMA=1D06C;33N NEO=1D05A;34=1D039
BYZANTINE MUSICAL SYMBOL PSIFISTOPARAKALESMA=1D06F;33SYNAGMA=1D071;28LI=1D000;29ON=1D017
BYZANTINE MUSICAL SYMBOL RAPISMA=1D03C;26EVMA=1D025;25SAXIMATA=1D01D;26EISMA NEO=1D069;31=1D029
BYZANTINE MUSICAL SYMBOL SIMANSIS ARSEOS DISIMOU=1D0E3;41TETRASIMOU=1D0E5;42RISIMOU=1D0E4;40=1D0E2
BYZANTINE MUSICAL SYMBOL SIMANSIS THESEOS DISIMOU=1D0DF;42TETRASIMOU=1D0E1;43RISIMOU=1D0E0
BYZANTINE MUSICAL SYMBOL SIMANSIS THESEOS=1D0DE;26TAVROS APODEXIA=1D01F;32=1D07E;27IGMA=1D0E8
BYZANTINE MUSICAL SYMBOL STRAGGISMATA=1D044;26YNAGMA ARCHAION=1D02A;33META STAVROU=1D02B
BYZANTINE MUSICAL SYMBOL SYNAGMA NEO=1D065;28EVMA=1D013;27RMA=1D066;30TIKI=1D008;25TELEIA=1D00F
BYZANTINE MUSICAL SYMBOL TESSERA=1D031;27TRAPLI=1D088;26HEMA APLOUN=1D078;30=1D02D
BYZANTINE MUSICAL SYMBOL THEMATISMOS ESO=1D076;38XO=1D077;28S KAI APOTHES=1D079;27ITA=1D014
BYZANTINE MUSICAL SYMBOL TINAGMA=1D027;26RIA=1D030;28GORGON=1D096;28PLI=1D087;27OMIKOLYGISMA=1D06D
BYZANTINE MUSICAL SYMBOL TROMIKON ALLO=1D043;35RCHAION=1D036;34NEO=1D063;32PARAKALESMA=1D06E
BYZANTINE MUSICAL SYMBOL TROMIKOPSIFISTON=1D06B;32SYNAGMA=1D070;25VAREIA DIPLI=1D006
BYZANTINE MUSICAL SYMBOL VAREIA EKFONITIKON=1D005;32NEO=1D058;31I ARCHAION=1D021;27THY=1D019
BYZANTINE MUSICAL SYMBOL XIRON KLASMA=1D06A;25YFEN ANO=1D07D;30KATO=1D07C
BYZANTINE MUSICAL SYMBOL YFESIS APLI DYO DODEKATA=1D0D4;32DIGRAMMOS EX DODEKATA=1D0D6
BYZANTINE MUSICAL SYMBOL YFESIS MONOGRAMMOS TESSERA DODEKATA=1D0D5
BYZANTINE MUSICAL SYMBOL YFESIS TRIGRAMMOS OKTO DODEKATA=1D0D7;35TIMORION=1D0CD
BYZANTINE MUSICAL SYMBOL YPOKRISIS DIPLI=1D00B;34=1D00A;28RROI=1D053;27SILI=1D050;00CACTUS=1F335
CADA UNA=2106;03UCEUS=2624;02LENDAR=1F4C5;03L ME HAND=1F919;02MERA WITH FLASH=1F4F8;06=1F4F7
CAMPING=1F3D5;02N=18;03ADIAN SYLLABICS A=140A;20A=140B;21I=1402;21Y=18B2;20I=141C;21VILIK B=15AF
CANADIAN SYLLABICS AN=142E;20THAPASCAN M=14BE;30S=1506;20Y=18B1;19BEAVER DENE L=18F3;31R=18F4
CANADIAN SYLLABICS BIBLE-CREE Y=153F;20LACKFOOT A=15B3;29E=15B0;29I=15B1;29KA=15BF;30E=15BC
CANADIAN SYLLABICS BLACKFOOT KI=15BD;30O=15BE;29NA=15BB;30E=15B8;30I=15B9;30O=15BA;29O=15B2
CANADIAN SYLLABICS BLACKFOOT S=1508;29W=167F;30A=15B7;30E=15B4;30I=15B5;30O=15B6;19C=14A1;20A=1490
CANADIAN SYLLABICS CAA=1491;22I=148A;21RRIER CHA=1666;29E=1663;30E=1664;29I=1665;29O=1662;29U=1661
CANADIAN SYLLABICS CARRIER DEE=1453;29NE GEE=18EE;30TAL S=18F5;28I=1454;28LA=162D;29E=162A
CANADIAN SYLLABICS CARRIER DLEE=162B;29I=162C;29O=1629;29U=1628;28ZA=164D;29E=164A;30E=164B
CANADIAN SYLLABICS CARRIER DZI=164C;29O=1649;29U=1648;27EE=1408;27GA=15F4;29A=18EF;28E=15F1
CANADIAN SYLLABICS CARRIER GEE=15F2;28HA=15C9;29E=15C6;30E=15C7;29I=15C8;29O=15C5;29U=15C4
CANADIAN SYLLABICS CARRIER GI=15F3;28O=15F0;28U=15EF;28WA=18F0;29U=18ED;27H=144B;28EE=1436
CANADIAN SYLLABICS CARRIER HI=1437;28WA=15DB;29E=15D8;30E=15D9;29I=15DA;29O=15D7;29U=15D6;27I=1409
CANADIAN SYLLABICS CARRIER INITIAL Z=1647;27JA=161B;28E=1617;29E=1618;28I=1619;28JA=1621;29E=161E
CANADIAN SYLLABICS CARRIER JJEE=161F;29I=1620;29O=161D;29U=161C;28O=1616;28U=1614;28WA=18F2
CANADIAN SYLLABICS CARRIER KHA=15FA;29E=15F7;30E=15F8;29I=15F9;29O=15F6;29U=15F5;28K=1601;29A=1600
CANADIAN SYLLABICS CARRIER KKE=15FD;30E=15FE;29I=15FF;29O=15FC;29U=15FB;27LA=1627;28E=1624
CANADIAN SYLLABICS CARRIER LEE=1625;28HA=1633;29E=1630;30E=1631;29I=1632;29O=162F;29U=162E
CANADIAN SYLLABICS CARRIER LI=1626;28O=1623;28U=1622;27MA=160D;28E=160A;29E=160B;28I=160C;28O=1609
CANADIAN SYLLABICS CARRIER MU=1608;27NA=1607;28E=1604;29E=1605;28G=14D1;28I=1606;28O=1603;28U=1602
CANADIAN SYLLABICS CARRIER P=15EE;28A=15ED;28E=15EA;29E=15EB;28I=15EC;28O=15E9;28U=15E8;27RA=15CF
CANADIAN SYLLABICS CARRIER RE=15CC;29E=15CD;28I=15CE;28O=15CB;28U=15CA;27SA=1653;28E=1650;29E=1651
CANADIAN SYLLABICS CARRIER SH=165A;29A=1659;29E=1656;30E=1657;29I=1658;29O=1655;29U=1654;28I=1652
CANADIAN SYLLABICS CARRIER SO=164F;28U=164E;27THA=15E1;29E=15DE;30E=15DF;29I=15E0;29O=15DD
CANADIAN SYLLABICS CARRIER THU=15DC;28LA=163F;29E=163C;30E=163D;29HA=1639;30E=1636;31E=1637
CANADIAN SYLLABICS CARRIER TLHI=1638;30O=1635;30U=1634;29I=163E;29O=163B;29U=163A;28SA=1660
CANADIAN SYLLABICS CARRIER TSE=165D;30E=165E;29I=165F;29O=165C;29U=165B;28TA=15E7;29E=15E4
CANADIAN SYLLABICS CARRIER TTEE=15E5;29I=15E6;29O=15E3;29SA=166C;30E=1669;31E=166A;30I=166B
CANADIAN SYLLABICS CARRIER TTSO=1668;30U=1667;29U=15E2;27WA=15D5;28E=15D2;29E=15D3;28I=15D4
CANADIAN SYLLABICS CARRIER WO=15D1;28U=15D0;27YA=1613;28E=1610;29E=1611;28I=1612;28O=160F;28U=160E
CANADIAN SYLLABICS CARRIER Z=1646;28A=1645;28E=1642;29E=1643;28I=1644;28O=1641;28U=1640;20E=1489
CANADIAN SYLLABICS CHI SIGN=166D;20I=148B;21I=148C;20O=148D;21O=148E;20WA=149C;22A=149E;21E=1492
CANADIAN SYLLABICS CWI=1494;22I=1496;21O=1498;22O=149A;19E=1401;20ASTERN W=18DC;20N=142B;19F=155D
CANADIAN SYLLABICS FA=1559;21A=155A;22I=1554;20E=1553;20I=1555;21I=1556;21NAL ACUTE=141F
CANADIAN SYLLABICS FINAL BOTTOM HALF RING=1421;25DOUBLE ACUTE=1425;32SHORT VERTICAL STROKES=1426
CANADIAN SYLLABICS FINAL DOWN TACK=142A;25GRAVE=1420;25MIDDLE DOT=1427;25PLUS=1429
CANADIAN SYLLABICS FINAL RAISED DOT=18DF;26IGHT HALF RING=1423;27NG=1424
CANADIAN SYLLABICS FINAL SHORT HORIZONTAL STROKE=1428;26MALL RING=18DE;25TOP HALF RING=1422
CANADIAN SYLLABICS FO=1557;21O=1558;20ULL STOP=166E;20WAA=155B;19GLOTTAL STOP=141E;19HK=157D
CANADIAN SYLLABICS HYPHEN=1400;19I=1403;20I=1404;20N=142C;19K=1483;20A=1472;21A=1473;22I=146C
CANADIAN SYLLABICS KAY=18B8;20E=146B;20I=146D;21I=146E;20O=146F;21O=1470;20W=1484;21A=147E
CANADIAN SYLLABICS KWAA=1480;22Y=18B9;21E=1474;21I=1476;22I=1478;21O=147A;22O=147C;19L=14EA
CANADIAN SYLLABICS LA=14DA;21A=14DB;22I=14D4;21Y=18BD;20E=14D3;20H=15A6;21A=15A4;22A=15A5;21I=15A0
CANADIAN SYLLABICS LHII=15A1;21O=15A2;22O=15A3;20I=14D5;21I=14D6;20O=14D7;21O=14D8;20WA=14E6
CANADIAN SYLLABICS LWAA=14E8;21E=14DC;21I=14DE;22I=14E0;21O=14E2;22O=14E4;19M=14BB;20A=14AA
CANADIAN SYLLABICS MAA=14AB;22I=14A4;21Y=18BA;20E=14A3;21DIAL L=14EC;26R=1552;20H=14BD;20I=14A5
CANADIAN SYLLABICS MII=14A6;20O=14A7;21O=14A8;22SE-CREE SK=1509;20WA=14B6;22A=14B8;21E=14AC
CANADIAN SYLLABICS MWI=14AE;22I=14B0;21O=14B2;22O=14B4;19N-CREE THE=155F;28I=1561;29I=1563;20=14D0
CANADIAN SYLLABICS NA=14C7;21A=14C8;22I=14C1;21SKAPI CWAA=14A0;27KWAA=1482;27MWAA=14BA;27NWAA=14CF
CANADIAN SYLLABICS NASKAPI S-W=150B;28CWA=150F;28KW=150A;30A=150E;28PWA=150C;28TWA=150D;28WAA=1504
CANADIAN SYLLABICS NASKAPI TWAA=1465;27WAA=141B;28OO=1416;27YWAA=153D;21TTILIK HA=11AB4;30A=11AB5
CANADIAN SYLLABICS NATTILIK HI=11AB0;30I=11AB1;29O=11AB2;30O=11AB3;28SHRA=11ABA;32A=11ABB
CANADIAN SYLLABICS NATTILIK SHRI=11AB6;32I=11AB7;31O=11AB8;32O=11AB9;21Y=18BC;20E=14C0;20G=1595
CANADIAN SYLLABICS NGA=1593;22A=1594;23I=158E;22I=1670;21I=158F;22I=1590;21O=1591;22O=1592
CANADIAN SYLLABICS NH=14D2;20I=14C2;21I=14C3;20NG=1596;22A=1675;23A=1676;22I=1671;23I=1672
CANADIAN SYLLABICS NNGO=1673;23O=1674;20O=14C4;21O=14C5;21Y=18BB;20UNAVIK H=157B;28A=1579;29A=157A
CANADIAN SYLLABICS NUNAVIK HE=1574;28I=1575;29I=1576;28O=1577;29O=1578;24UT H=157C;20WA=14CB
CANADIAN SYLLABICS NWAA=14CD;21E=14C9;21I=18C6;22I=18C8;21O=18CA;22O=18CC;19O=1405;20JIBWAY C=18D7
CANADIAN SYLLABICS OJIBWAY K=18D6;27M=18D8;27N=18D9;28WI=18C7;30I=18C9;29O=18CB;30O=18CD;27P=18D4
CANADIAN SYLLABICS OJIBWAY S=18DA;28H=18DB;27T=18D5;20N=142D;20O=1406;20Y=18B0;19P=1449;20A=1438
CANADIAN SYLLABICS PAA=1439;22I=1430;21Y=18B5;20E=142F;20I=1431;21I=1432;20O=1433;21O=1434
CANADIAN SYLLABICS POY=18B4;20WA=1444;22A=1446;21E=143A;21I=143C;22I=143E;21O=1440;22O=1442
CANADIAN SYLLABICS PWOY=18B6;19Q=1585;20A=1583;21A=1584;22I=157E;21I=166F;20I=157F;21I=1580
CANADIAN SYLLABICS QO=1581;21O=1582;19R-CREE RE=1543;27WE=18E0;20=1550;20A=154B;21A=154C;22I=1545
CANADIAN SYLLABICS RAY=18C5;20E=1542;20I=1546;21I=1547;20O=1548;21O=1549;20WA=18D3;22A=154E
CANADIAN SYLLABICS RWEE=18CE;21I=18CF;22I=18D0;21O=18D1;22O=18D2;19S=1505;20A=14F4;21A=14F5
CANADIAN SYLLABICS SAAI=14EE;21Y=18BF;22ISI HA=15C3;27E=15C0;27I=15C1;27O=15C2;28O=18EC;26JI=161A
CANADIAN SYLLABICS SAYISI JU=1615;28U=18F1;26M=14BF;26SHA=159A;28E=1597;28I=1598;28O=1599;29O=18EB
CANADIAN SYLLABICS SAYISI SHWE=18EA;26TH=14A2;26YI=1541;20E=14ED;20H=1525;21A=1515;22A=1516
CANADIAN SYLLABICS SHAY=18C1;21E=1510;21I=1511;22I=1512;21O=1513;22O=1514;22Y=18C0;21WA=1521
CANADIAN SYLLABICS SHWAA=1523;22E=1517;22I=1519;23I=151B;22O=151D;23O=151F;23Y=18C2;20I=14EF
CANADIAN SYLLABICS SII=14F0;20O=14F1;21O=14F2;21UTH-SLAVEY KAH=1488;33EH=1485;33IH=1486;33OH=1487
CANADIAN SYLLABICS SOY=18BE;20PA=11ABF;21E=11ABC;21I=11ABD;21O=11ABE;20W=1507;21A=1500;22A=1502
CANADIAN SYLLABICS SWE=14F6;21I=14F8;22I=14FA;21O=14FC;22O=14FE;19T=1466;20A=1455;21A=1456
CANADIAN SYLLABICS TAAI=144D;21Y=18B7;20E=144C;20H-CREE TH=15AE;29A=15AC;30A=15AD;29E=15A7
CANADIAN SYLLABICS TH-CREE THI=15A8;30I=15A9;29O=15AA;30O=15AB;21=156A;21A=1566;22A=1567;21E=155E
CANADIAN SYLLABICS THI=1560;22I=1562;21O=1564;22O=1565;21WA=18E4;23A=1568;22E=18E3;20I=144E
CANADIAN SYLLABICS TII=144F;20LHA=1589;22E=1586;22I=1587;22O=1588;23O=18E9;22WE=18E8;20O=1450
CANADIAN SYLLABICS TOO=1451;20TA=146A;21E=1467;21H=156F;22A=156E;23A=18E7;22E=156B;22I=156C
CANADIAN SYLLABICS TTHO=156D;23O=18E6;22WE=18E5;21I=1468;21O=1469;20WA=1461;22A=1463;21E=1457
CANADIAN SYLLABICS TWI=1459;22I=145B;21O=145D;22O=145F;20YA=1573;21E=1570;21I=1571;21O=1572
CANADIAN SYLLABICS WA=1417;21A=1419;21Y=18B3;20E=140C;21ST-CREE CWA=149D;32A=149F;31E=1493
CANADIAN SYLLABICS WEST-CREE CWI=1495;32I=1497;31O=1499;32O=149B;29FWAA=155C;29KWA=147F;32A=1481
CANADIAN SYLLABICS WEST-CREE KWE=1475;31I=1477;32I=1479;31O=147B;32O=147D;29L=14EB;30A=154D
CANADIAN SYLLABICS WEST-CREE LAA=18E2;30E=1544;30O=154A;31O=18E1;30WA=14E7;32A=14E9;31E=14DD
CANADIAN SYLLABICS WEST-CREE LWI=14DF;32I=14E1;31O=14E3;32O=14E5;29M=14BC;30WA=14B7;32A=14B9
CANADIAN SYLLABICS WEST-CREE MWE=14AD;31I=14AF;32I=14B1;31O=14B3;32O=14B5;29NWA=14CC;32A=14CE
CANADIAN SYLLABICS WEST-CREE NWE=14CA;29P=144A;30WA=1445;32A=1447;31E=143B;31I=143D;32I=143F
CANADIAN SYLLABICS WEST-CREE PWO=1441;32O=1443;29R=1551;30A=158D;30E=158A;30I=158B;30O=158C
CANADIAN SYLLABICS WEST-CREE RWAA=154F;29SHWA=1522;33A=1524;32E=1518;32I=151A;33I=151C;32O=151E
CANADIAN SYLLABICS WEST-CREE SHWOO=1520;30WA=1501;32A=1503;31E=14F7;31I=14F9;32I=14FB;31O=14FD
CANADIAN SYLLABICS WEST-CREE SWOO=14FF;29THWAA=1569;30WA=1462;32A=1464;31E=1458;31I=145A;32I=145C
CANADIAN SYLLABICS WEST-CREE TWO=145E;32O=1460;29WA=1418;31A=141A;30E=140D;30I=140F;31I=1411
CANADIAN SYLLABICS WEST-CREE WO=1413;31O=1415;29Y=1540;30WA=153A;32A=153C;31E=1530;31I=1532
CANADIAN SYLLABICS WEST-CREE YWII=1534;31O=1536;32O=1538;23ERN W=18DD;20I=140E;21I=1410;20O=1412
CANADIAN SYLLABICS WOO=1414;22DS-CREE FINAL TH=167E;30TH=159F;32A=159E;32E=159B;32I=159C;32O=159D
CANADIAN SYLLABICS WOODS-CREE THWA=167C;34A=167D;33EE=1677;33I=1678;34I=1679;33O=167A;34O=167B
CANADIAN SYLLABICS Y-CREE COO=148F;26KOO=1471;26LOO=14D9;26MOO=14A9;26NOO=14C6;26OO=1407
CANADIAN SYLLABICS Y-CREE POO=1435;27WAA=1448;26SOO=14F3;26TOO=1452;26W=141D;26YOO=152C;20=153E
CANADIAN SYLLABICS YA=152D;21A=152E;22I=1527;21Y=18C4;20E=1526;20I=1528;21I=1529;20O=152A;21O=152B
CANADIAN SYLLABICS YOY=18C3;20WA=1539;22A=153B;21E=152F;21I=1531;22I=1533;21O=1535;22O=1537
CANCEL CHARACTER=94;07TAG=E007F;06=18;06LATION X=1F5D9;05R=264B;03DLE=1F56F;04Y=1F36C
CANNED FOOD=1F96B;03OE=1F6F6;02PITULUM=2E3F;03RICORN=2651;02R SLIDING=26D0;03D FILE BOX=1F5C3
CARD INDEX DIVIDERS=1F5C2;10=1F4C7;03E OF=2105;04T INSERTION POINT=2041;05=2038
CARIAN LETTER A2=102A7;15=102A0;14B=102A9;14C-18=102B1;1639=102C6;14D2=102AC;15=102A2;14E2=102CF
CARIAN LETTER E=102BA;14G2=102C1;15=102C0;14I=102B9;15I=102C5;14K2=102BD;15=102BC;14L=102A3
CARIAN LETTER LD2=102CE;16=102A6;14M=102AA;15B2=102CB;163=102CC;164=102CD;16=102CA;14N=102B5
CARIAN LETTER ND=102BE;15G=102C4;15N=102B3;14O=102AB;14P2=102A1;15=102B7;14Q=102A8;14R=102A5
CARIAN LETTER RR=102C9;14S=102B0;15H2=102AF;16=102AE;15S=102B8;15T2=102C3;16=102C2;14T=102AD
CARIAN LETTER TT2=102B6;16=102C7;14U=102B2;15U=102BF;16U2=102C8;173=102D0;17=102A4;17U=102BB
CARIAN LETTER X=102B4;03ON=2C7;04USEL HORSE=1F3A0;03P STREAMER=1F38F;04ENTRY SAW=1FA9A
CARRIAGE RETURN=D;04OT=1F955;02STLE=26EB;02T FACE WITH TEARS OF JOY=1F639;14WRY SMILE=1F63C
CAT FACE=1F431;03=1F408;02UCASIAN ALBANIAN CITATION MARK=1056F;19LETTER ALT=10530;27OR=10548
CAUCASIAN ALBANIAN LETTER BET=10531;26CAR=10542;28YN=10560;27HA=10539;29T=10556;28I=1054A
CAUCASIAN ALBANIAN LETTER CHOY=10549;27YAW=1055F;29Y=1054B;26DAT=10533;27YAN=10541;27ZAY=10555
CAUCASIAN ALBANIAN LETTER DZYAY=1054F;26EB=10534;27YN=10536;26FAM=10554;26GHEYS=10558;27IM=10532
CAUCASIAN ALBANIAN LETTER HEYT=10546;26INYA=1053F;27RB=1053C;27WN=1055E;26JAYN=10551;27HOX=10543
CAUCASIAN ALBANIAN LETTER KAR=10544;27IW=10563;26LAN=1053E;27YIT=10545;26MAQ=1054C;26NOWC=1054E
CAUCASIAN ALBANIAN LETTER ON=10552;26PEN=10557;27IWR=10562;26QAR=1054D;28Y=10547;26RAT=10559
CAUCASIAN ALBANIAN LETTER SEYK=1055A;27HA=1053D;29K=10550;28OY=1055D;26TAS=10538;27IWR=1055C
CAUCASIAN ALBANIAN LETTER TYAY=10553;26VEYZ=1055B;26XEYN=10540;26YAYD=10561;27OWD=1053A
CAUCASIAN ALBANIAN LETTER ZARL=10535;27HA=1053B;28IL=10537;03TION SIGN=2621;01CH=94
CEDI SIGN=20B5;04LLA=B8;02LTIC CROSS=1F548;02NT SIGN=A2;04RE LINE SYMBOL=2104;06LINE LOW LINE=FE4E
CENTRELINE OVERLINE=FE4A;02RES=26B3;01GJ=34F;01HAINS=26D3;04R=1FA91;03KMA AU MARK=11132
CHAKMA DANDA=11141;08IGIT EIGHT=1113E;13FIVE=1113B;14OUR=1113A;13NINE=1113F;13ONE=11137
CHAKMA DIGIT SEVEN=1113D;14IX=1113C;13THREE=11139;14WO=11138;13ZERO=11136;08OUBLE DANDA=11142
CHAKMA LETTER AA=11103;14BAA=1111D;15HAA=1111E;14CAA=1110C;15HAA=1110D;14DAA=11118;15DAA=11113
CHAKMA LETTER DDHAA=11114;15HAA=11119;14E=11106;14GAA=11109;15HAA=1110A;14HAA=11126;14I=11104
CHAKMA LETTER JAA=1110E;15HAA=1110F;14KAA=11107;15HAA=11108;14LAA=11123;15HAA=11144;14MAA=1111F
CHAKMA LETTER NAA=1111A;15GAA=1110B;15NAA=11115;15YAA=11110;14PAA=1111B;15HAA=1111C;14RAA=11122
CHAKMA LETTER SAA=11125;14TAA=11116;15HAA=11117;15TAA=11111;16HAA=11112;14U=11105;14VAA=11147
CHAKMA LETTER WAA=11124;14YAA=11121;15YAA=11120;07MAAYYAA=11134;07O MARK=11131
CHAKMA QUESTION MARK=11143;07SECTION MARK=11140;08IGN ANUSVARA=11101;12CANDRABINDU=11100
CHAKMA SIGN VISARGA=11102;07VIRAMA=11133;08OWEL SIGN A=11127;19A=11145;19I=1112D;19U=1112F
CHAKMA VOWEL SIGN E=1112C;19I=11146;18I=11128;19I=11129;18O=1112E;19I=11130;18U=1112A;19U=1112B
CHAM CONSONANT SIGN FINAL H=AA4D;26M=AA4C;26NG=AA43;20LA=AA35;20RA=AA34;20WA=AA36;20YA=AA33
CHAM DIGIT EIGHT=AA58;11FIVE=AA55;12OUR=AA54;11NINE=AA59;11ONE=AA51;11SEVEN=AA57;12IX=AA56
CHAM DIGIT THREE=AA53;12WO=AA52;11ZERO=AA50;05LETTER A=AA00;13I=AA04;12BA=AA1D;13BA=AA21;13HA=AA1E
CHAM LETTER CHA=AA0C;14HA=AA0D;12DA=AA15;13DA=AA19;13HA=AA16;12E=AA03;12FINAL CH=AA44;18G=AA41
CHAM LETTER FINAL K=AA40;18L=AA4A;18N=AA46;19G=AA42;18P=AA47;18R=AA49;18SS=AA4B;18T=AA45;18Y=AA48
CHAM LETTER GA=AA08;13HA=AA09;12HA=AA28;12I=AA01;12JA=AA0E;13HA=AA0F;12KA=AA06;13HA=AA07;12LA=AA24
CHAM LETTER MA=AA20;13UE=AA1F;12NA=AA18;13GA=AA0B;14UE=AA0A;13HA=AA11;14JA=AA12;14UE=AA10
CHAM LETTER NUE=AA17;12O=AA05;12PA=AA1A;13HA=AA1C;13PA=AA1B;12RA=AA23;12SA=AA27;13SA=AA26
CHAM LETTER TA=AA13;13HA=AA14;12U=AA02;12VA=AA25;12YA=AA22;05PUNCTUATION DANDA=AA5D
CHAM PUNCTUATION DOUBLE DANDA=AA5E;17SPIRAL=AA5C;17TRIPLE DANDA=AA5F;05VOWEL SIGN AA=AA29;17I=AA30
CHAM VOWEL SIGN AU=AA31;16EI=AA2C;16I=AA2A;17I=AA2B;16O=AA2F;17E=AA2E;16U=AA2D;17E=AA32
CHARACTER TABULATION SET=88;21WITH JUSTIFICATION=89;20=9;11IE=2040;04T WITH DOWNWARDS TREND=1F4C9
CHART WITH UPWARDS TREND AND YEN SIGN=1F4B9;24=1F4C8;02ECK MARK=2713;05ER BOARD FILL=1FB95
CHECKER BOARD=1F67E;03ERING MEGAPHONE=1F4E3;04SE WEDGE=1F9C0;03QUERED FLAG=1F3C1
CHEROKEE LETTER A=13A0;16DA=13D3;17E=13D5;17I=13D7;17LA=13DC;17O=13D9;17U=13DA;17V=13DB;16E=13A1
CHEROKEE LETTER GA=13A6;17E=13A8;17I=13A9;17O=13AA;17U=13AB;17V=13AC;16HA=13AD;17E=13AE;17I=13AF
CHEROKEE LETTER HNA=13BF;17O=13B0;17U=13B1;17V=13B2;16I=13A2;16KA=13A7;16LA=13B3;17E=13B4;17I=13B5
CHEROKEE LETTER LO=13B6;17U=13B7;17V=13B8;16MA=13B9;17E=13BA;17I=13BB;17O=13BC;17U=13BD;17V=13F5
CHEROKEE LETTER NA=13BE;18H=13C0;17E=13C1;17I=13C2;17O=13C3;17U=13C4;17V=13C5;16O=13A3;16QUA=13C6
CHEROKEE LETTER QUE=13C7;18I=13C8;18O=13C9;18U=13CA;18V=13CB;16S=13CD;17A=13CC;17E=13CE;17I=13CF
CHEROKEE LETTER SO=13D0;17U=13D1;17V=13D2;16TA=13D4;17E=13D6;17I=13D8;17LA=13DD;18E=13DE;18I=13DF
CHEROKEE LETTER TLO=13E0;18U=13E1;18V=13E2;17SA=13E3;18E=13E4;18I=13E5;18O=13E6;18U=13E7;18V=13E8
CHEROKEE LETTER U=13A4;16V=13A5;16WA=13E9;17E=13EA;17I=13EB;17O=13EC;17U=13ED;17V=13EE;16YA=13EF
CHEROKEE LETTER YE=13F0;17I=13F1;17O=13F2;17U=13F3;17V=13F4;09SMALL LETTER A=AB70;22DA=ABA3
CHEROKEE SMALL LETTER DE=ABA5;23I=ABA7;23LA=ABAC;23O=ABA9;23U=ABAA;23V=ABAB;22E=AB71;22GA=AB76
CHEROKEE SMALL LETTER GE=AB78;23I=AB79;23O=AB7A;23U=AB7B;23V=AB7C;22HA=AB7D;23E=AB7E;23I=AB7F
CHEROKEE SMALL LETTER HNA=AB8F;23O=AB80;23U=AB81;23V=AB82;22I=AB72;22KA=AB77;22LA=AB83;23E=AB84
CHEROKEE SMALL LETTER LI=AB85;23O=AB86;23U=AB87;23V=AB88;22MA=AB89;23E=AB8A;23I=AB8B;23O=AB8C
CHEROKEE SMALL LETTER MU=AB8D;23V=13FD;22NA=AB8E;24H=AB90;23E=AB91;23I=AB92;23O=AB93;23U=AB94
CHEROKEE SMALL LETTER NV=AB95;22O=AB73;22QUA=AB96;24E=AB97;24I=AB98;24O=AB99;24U=AB9A;24V=AB9B
CHEROKEE SMALL LETTER S=AB9D;23A=AB9C;23E=AB9E;23I=AB9F;23O=ABA0;23U=ABA1;23V=ABA2;22TA=ABA4
CHEROKEE SMALL LETTER TE=ABA6;23I=ABA8;23LA=ABAD;24E=ABAE;24I=ABAF;24O=ABB0;24U=ABB1;24V=ABB2
CHEROKEE SMALL LETTER TSA=ABB3;24E=ABB4;24I=ABB5;24O=ABB6;24U=ABB7;24V=ABB8;22U=AB74;22V=AB75
CHEROKEE SMALL LETTER WA=ABB9;23E=ABBA;23I=ABBB;23O=ABBC;23U=ABBD;23V=ABBE;22YA=ABBF;23E=13F8
CHEROKEE SMALL LETTER YI=13F9;23O=13FA;23U=13FB;23V=13FC;04RIES=1F352;05Y BLOSSOM=1F338
CHESTNUT=1F330;02I RHO=2627;03CKEN=1F414;03LD=1F9D2;05REN CROSSING=1F6B8;03PMUNK=1F43F;03RON=26B7
CHOCOLATE BAR=1F36B;03PSTICKS=1F962;03RASMIAN LETTER ALEPH=10FB0;19YIN=10FC0;18BETH=10FB2
CHORASMIAN LETTER CURLED WAW=10FB7;18DALETH=10FB4;18GIMEL=10FB3;18HE=10FB5;20TH=10FB9;18KAPH=10FBB
CHORASMIAN LETTER LAMEDH=10FBC;18MEM=10FBD;18NUN=10FBE;18PE=10FC1;18RESH=10FC2;18SAMEKH=10FBF
CHORASMIAN LETTER SHIN=10FC3;19MALL ALEPH=10FB1;18TAW=10FC4;18WAW=10FB6;18YODH=10FBA;18ZAYIN=10FB8
CHORASMIAN NUMBER FOUR=10FC8;18ONE HUNDRED=10FCB;21=10FC5;18TEN=10FC9;19HREE=10FC7;19WENTY=10FCA
CHORASMIAN NUMBER TWO=10FC6;02RISTMAS TREE=1F384;02URCH=26EA;01INEMA=1F3A6
CIRCLE DIVIDED BY HORIZONTAL BAR AND TOP HALF DIVIDED BY VERTICAL BAR=29BA
CIRCLE WITH ALL BUT UPPER LEFT QUADRANT BLACK=25D5;12HORIZONTAL BAR=29B5;12LEFT HALF BLACK=25D0
CIRCLE WITH LOWER HALF BLACK=25D2;12RIGHT HALF BLACK=25D1;12SMALL CIRCLE TO THE RIGHT=29C2
CIRCLE WITH SUPERIMPOSED X=29BB;12TWO HORIZONTAL STROKES TO THE RIGHT=29C3;12UPPER HALF BLACK=25D3
CIRCLE WITH UPPER RIGHT QUADRANT BLACK=25D4;12VERTICAL FILL=25CD;06D ANTICLOCKWISE ARROW=1F10E
CIRCLED ANTICLOCKWISE-ROTATED DIVISION SIGN=29BC;09STERISK OPERATOR=229B;08BOLD X=2BBF
CIRCLED BULLET=29BF;08C WITH OVERLAID BACKSLASH=1F16E;09C=1F16D;09D=1F12D
CIRCLED CROSS FORMEE WITH FOUR DOTS=1F900;26TWO DOTS=1F901;20=1F902;14POMMEE=1F540
CIRCLED CROSSING LANES=26D2;08DASH=229D;09IGIT EIGHT=2467;14FIVE=2464;15OUR=2463;14NINE=2468
CIRCLED DIGIT ONE=2460;14SEVEN=2466;15IX=2465;14THREE=2462;15WO=2461;14ZERO=24EA
CIRCLED DIVISION SIGN=2A38;18LASH=2298;09OLLAR SIGN WITH OVERLAID BACKSLASH=1F10F
CIRCLED DOT OPERATOR=2299;08EQUALS=229C;08GREATER-THAN=29C1;08HANGUL CHIEUCH A=3277;22=3269
CIRCLED HANGUL CIEUC A=3276;20=3268;15HIEUH A=327B;20=326D;15IEUNG A=3275;21U=327E;20=3267
CIRCLED HANGUL KHIEUKH A=3278;22=326A;16IYEOK A=326E;21=3260;15MIEUM A=3272;20=3264;15NIEUN A=326F
CIRCLED HANGUL NIEUN=3261;15PHIEUPH A=327A;22=326C;16IEUP A=3273;20=3265;15RIEUL A=3271;20=3263
CIRCLED HANGUL SIOS A=3274;19=3266;15THIEUTH A=3279;22=326B;16IKEUT A=3270;21=3262
CIRCLED HEAVY WHITE RIGHTWARDS ARROW=27B2;09ORIZONTAL BAR WITH NOTCH=2389;09UMAN FIGURE=1F16F
CIRCLED IDEOGRAPH ACCEPT=1F251;19DVANTAGE=1F250;19LLIANCE=32AF;19TTENTION=329F;18CENTRE=32A5
CIRCLED IDEOGRAPH CONGRATULATION=3297;20PY=32A2;20RRECT=32A3;18EARTH=328F;19IGHT=3287
CIRCLED IDEOGRAPH ENTERPRISE=32AD;19XCELLENT=329D;18FEMALE=329B;19INANCIAL=3296;20RE=328B
CIRCLED IDEOGRAPH FIVE=3284;19OUR=3283;18HAVE=3292;19IGH=32A4;18ITEM=32A0;18KINDERGARTEN=3245
CIRCLED IDEOGRAPH KOTO=3247;18LABOR=3298;19EFT=32A7;19OW=32A6;18MALE=329A;19EDICINE=32A9
CIRCLED IDEOGRAPH METAL=328E;19OON=328A;18NAME=3294;19IGHT=32B0;20NE=3288;18ONE=3280;18PRINT=329E
CIRCLED IDEOGRAPH QUESTION=3244;18RELIGION=32AA;20SOURCE=32AE;21T=32A1;19IGHT=32A8;18SCHOOL=3246
CIRCLED IDEOGRAPH SECRET=3299;20VEN=3286;19IX=3285;19OCIETY=3293;19PECIAL=3295;19TOCK=3291
CIRCLED IDEOGRAPH STUDY=32AB;19UITABLE=329C;20N=3290;20PERVISE=32AC;18TEN=3289;19HREE=3282
CIRCLED IDEOGRAPH TWO=3281;18WATER=328C;19OOD=328D;09NFORMATION SOURCE=1F6C8
CIRCLED ITALIC LATIN CAPITAL LETTER C=1F12B;36R=1F12C;08KATAKANA A=32D0;17E=32D3;17HA=32E9
CIRCLED KATAKANA HE=32EC;18I=32EA;18O=32ED;18U=32EB;17I=32D1;17KA=32D5;18E=32D8;18I=32D6;18O=32D9
CIRCLED KATAKANA KU=32D7;17MA=32EE;18E=32F1;18I=32EF;18O=32F2;18U=32F0;17NA=32E4;18E=32E7;18I=32E5
CIRCLED KATAKANA NO=32E8;18U=32E6;17O=32D4;17RA=32F6;18E=32F9;18I=32F7;18O=32FA;18U=32F8;17SA=32DA
CIRCLED KATAKANA SE=32DD;18I=32DB;18O=32DE;18U=32DC;17TA=32DF;18E=32E2;18I=32E0;18O=32E3;18U=32E1
CIRCLED KATAKANA U=32D2;17WA=32FB;18E=32FD;18I=32FC;18O=32FE;17YA=32F3;18O=32F5;18U=32F4
CIRCLED KOREAN CHARACTER CHAMKO=327C;25JUEUI=327D;08LATIN CAPITAL LETTER A=24B6;29B=24B7;29C=24B8
CIRCLED LATIN CAPITAL LETTER D=24B9;29E=24BA;29F=24BB;29G=24BC;29H=24BD;29I=24BE;29J=24BF;29K=24C0
CIRCLED LATIN CAPITAL LETTER L=24C1;29M=24C2;29N=24C3;29O=24C4;29P=24C5;29Q=24C6;29R=24C7;29S=24C8
CIRCLED LATIN CAPITAL LETTER T=24C9;29U=24CA;29V=24CB;29W=24CC;29X=24CD;29Y=24CE;29Z=24CF
CIRCLED LATIN SMALL LETTER A=24D0;27B=24D1;27C=24D2;27D=24D3;27E=24D4;27F=24D5;27G=24D6;27H=24D7
CIRCLED LATIN SMALL LETTER I=24D8;27J=24D9;27K=24DA;27L=24DB;27M=24DC;27N=24DD;27O=24DE;27P=24DF
CIRCLED LATIN SMALL LETTER Q=24E0;27R=24E1;27S=24E2;27T=24E3;27U=24E4;27V=24E5;27W=24E6;27X=24E7
CIRCLED LATIN SMALL LETTER Y=24E8;27Z=24E9;09ESS-THAN=29C0;08MINUS=2296
CIRCLED MULTIPLICATION SIGN WITH CIRCUMFLEX ACCENT=2A36;08NUMBER EIGHTEEN=2471
CIRCLED NUMBER EIGHTY ON BLACK SQUARE=324F;16LEVEN=246A;15FIFTEEN=246E;19Y ON BLACK SQUARE=324C
CIRCLED NUMBER FIFTY=32BF;16ORTY EIGHT=32BD;21FIVE=32BA;22OUR=32B9;21NINE=32BE
CIRCLED NUMBER FORTY ON BLACK SQUARE=324B;23E=32B6;21SEVEN=32BC;22IX=32BB;21THREE=32B8;22WO=32B7
CIRCLED NUMBER FORTY=32B5;17URTEEN=246D;15NINETEEN=2472;15SEVENTEEN=2470;21Y ON BLACK SQUARE=324E
CIRCLED NUMBER SIXTEEN=246F;19Y ON BLACK SQUARE=324D;15TEN ON BLACK SQUARE=3248;18=2469
CIRCLED NUMBER THIRTEEN=246C;20Y EIGHT=32B3;22FIVE=325F;23OUR=325E;22NINE=32B4
CIRCLED NUMBER THIRTY ON BLACK SQUARE=324A;24E=325B;22SEVEN=32B2;23IX=32B1;22THREE=325D;23WO=325C
CIRCLED NUMBER THIRTY=325A;16WELVE=246B;18NTY EIGHT=3258;22FIVE=3255;23OUR=3254;22NINE=3259
CIRCLED NUMBER TWENTY ON BLACK SQUARE=3249;24E=3251;22SEVEN=3257;23IX=3256;22THREE=3253;23WO=3252
CIRCLED NUMBER TWENTY=2473;08OPEN CENTRE EIGHT POINTED STAR=2742;08PARALLEL=29B7
CIRCLED PERPENDICULAR=29B9;09LUS=2295;09OSTAL MARK=3036;08REVERSE SOLIDUS=29B8;09ING OPERATOR=229A
CIRCLED SQUARE=1F7D7;08TIMES=2297;09RIANGLE DOWN=238A;16=1F7D5;08VERTICAL BAR=29B6
CIRCLED WHITE BULLET=29BE;14STAR=272A;09Z=1F12E;08X=2BBE;08ZERO WITH SLASH=1F10D
CIRCULATION FUNCTION=2A10;05MFLEX ACCENT=5E;05S TENT=1F3AA;02TYSCAPE AT DUSK=1F306;09=1F3D9
CJK COMPATIBILITY IDEOGRAPH-2F800=2F800;321=2F801;322=2F802;323=2F803;324=2F804;325=2F805
CJK COMPATIBILITY IDEOGRAPH-2F806=2F806;327=2F807;328=2F808;329=2F809;32A=2F80A;32B=2F80B
CJK COMPATIBILITY IDEOGRAPH-2F80C=2F80C;32D=2F80D;32E=2F80E;32F=2F80F;3110=2F810;321=2F811
CJK COMPATIBILITY IDEOGRAPH-2F812=2F812;323=2F813;324=2F814;325=2F815;326=2F816;327=2F817
CJK COMPATIBILITY IDEOGRAPH-2F818=2F818;329=2F819;32A=2F81A;32B=2F81B;32C=2F81C;32D=2F81D
CJK COMPATIBILITY IDEOGRAPH-2F81E=2F81E;32F=2F81F;3120=2F820;321=2F821;322=2F822;323=2F823
CJK COMPATIBILITY IDEOGRAPH-2F824=2F824;325=2F825;326=2F826;327=2F827;328=2F828;329=2F829
CJK COMPATIBILITY IDEOGRAPH-2F82A=2F82A;32B=2F82B;32C=2F82C;32D=2F82D;32E=2F82E;32F=2F82F
CJK COMPATIBILITY IDEOGRAPH-2F830=2F830;321=2F831;322=2F832;323=2F833;324=2F834;325=2F835
CJK COMPATIBILITY IDEOGRAPH-2F836=2F836;327=2F837;328=2F838;329=2F839;32A=2F83A;32B=2F83B
CJK COMPATIBILITY IDEOGRAPH-2F83C=2F83C;32D=2F83D;32E=2F83E;32F=2F83F;3140=2F840;321=2F841
CJK COMPATIBILITY IDEOGRAPH-2F842=2F842;323=2F843;324=2F844;325=2F845;326=2F846;327=2F847
CJK COMPATIBILITY IDEOGRAPH-2F848=2F848;329=2F849;32A=2F84A;32B=2F84B;32C=2F84C;32D=2F84D
CJK COMPATIBILITY IDEOGRAPH-2F84E=2F84E;32F=2F84F;3150=2F850;321=2F851;322=2F852;323=2F853
CJK COMPATIBILITY IDEOGRAPH-2F854=2F854;325=2F855;326=2F856;327=2F857;328=2F858;329=2F859
CJK COMPATIBILITY IDEOGRAPH-2F85A=2F85A;32B=2F85B;32C=2F85C;32D=2F85D;32E=2F85E;32F=2F85F
CJK COMPATIBILITY IDEOGRAPH-2F860=2F860;321=2F861;322=2F862;323=2F863;324=2F864;325=2F865
CJK COMPATIBILITY IDEOGRAPH-2F866=2F866;327=2F867;328=2F868;329=2F869;32A=2F86A;32B=2F86B
CJK COMPATIBILITY IDEOGRAPH-2F86C=2F86C;32D=2F86D;32E=2F86E;32F=2F86F;3170=2F870;321=2F871
CJK COMPATIBILITY IDEOGRAPH-2F872=2F872;323=2F873;324=2F874;325=2F875;326=2F876;327=2F877
CJK COMPATIBILITY IDEOGRAPH-2F878=2F878;329=2F879;32A=2F87A;32B=2F87B;32C=2F87C;32D=2F87D
CJK COMPATIBILITY IDEOGRAPH-2F87E=2F87E;32F=2F87F;3180=2F880;321=2F881;322=2F882;323=2F883
CJK COMPATIBILITY IDEOGRAPH-2F884=2F884;325=2F885;326=2F886;327=2F887;328=2F888;329=2F889
CJK COMPATIBILITY IDEOGRAPH-2F88A=2F88A;32B=2F88B;32C=2F88C;32D=2F88D;32E=2F88E;32F=2F88F
CJK COMPATIBILITY IDEOGRAPH-2F890=2F890;321=2F891;322=2F892;323=2F893;324=2F894;325=2F895
CJK COMPATIBILITY IDEOGRAPH-2F896=2F896;327=2F897;328=2F898;329=2F899;32A=2F89A;32B=2F89B
CJK COMPATIBILITY IDEOGRAPH-2F89C=2F89C;32D=2F89D;32E=2F89E;32F=2F89F;31A0=2F8A0;321=2F8A1
CJK COMPATIBILITY IDEOGRAPH-2F8A2=2F8A2;323=2F8A3;324=2F8A4;325=2F8A5;326=2F8A6;327=2F8A7
CJK COMPATIBILITY IDEOGRAPH-2F8A8=2F8A8;329=2F8A9;32A=2F8AA;32B=2F8AB;32C=2F8AC;32D=2F8AD
CJK COMPATIBILITY IDEOGRAPH-2F8AE=2F8AE;32F=2F8AF;31B0=2F8B0;321=2F8B1;322=2F8B2;323=2F8B3
CJK COMPATIBILITY IDEOGRAPH-2F8B4=2F8B4;325=2F8B5;326=2F8B6;327=2F8B7;328=2F8B8;329=2F8B9
CJK COMPATIBILITY IDEOGRAPH-2F8BA=2F8BA;32B=2F8BB;32C=2F8BC;32D=2F8BD;32E=2F8BE;32F=2F8BF
CJK COMPATIBILITY IDEOGRAPH-2F8C0=2F8C0;321=2F8C1;322=2F8C2;323=2F8C3;324=2F8C4;325=2F8C5
CJK COMPATIBILITY IDEOGRAPH-2F8C6=2F8C6;327=2F8C7;328=2F8C8;329=2F8C9;32A=2F8CA;32B=2F8CB
CJK COMPATIBILITY IDEOGRAPH-2F8CC=2F8CC;32D=2F8CD;32E=2F8CE;32F=2F8CF;31D0=2F8D0;321=2F8D1
CJK COMPATIBILITY IDEOGRAPH-2F8D2=2F8D2;323=2F8D3;324=2F8D4;325=2F8D5;326=2F8D6;327=2F8D7
CJK COMPATIBILITY IDEOGRAPH-2F8D8=2F8D8;329=2F8D9;32A=2F8DA;32B=2F8DB;32C=2F8DC;32D=2F8DD
CJK COMPATIBILITY IDEOGRAPH-2F8DE=2F8DE;32F=2F8DF;31E0=2F8E0;321=2F8E1;322=2F8E2;323=2F8E3
CJK COMPATIBILITY IDEOGRAPH-2F8E4=2F8E4;325=2F8E5;326=2F8E6;327=2F8E7;328=2F8E8;329=2F8E9
CJK COMPATIBILITY IDEOGRAPH-2F8EA=2F8EA;32B=2F8EB;32C=2F8EC;32D=2F8ED;32E=2F8EE;32F=2F8EF
CJK COMPATIBILITY IDEOGRAPH-2F8F0=2F8F0;321=2F8F1;322=2F8F2;323=2F8F3;324=2F8F4;325=2F8F5
CJK COMPATIBILITY IDEOGRAPH-2F8F6=2F8F6;327=2F8F7;328=2F8F8;329=2F8F9;32A=2F8FA;32B=2F8FB
CJK COMPATIBILITY IDEOGRAPH-2F8FC=2F8FC;32D=2F8FD;32E=2F8FE;32F=2F8FF;30900=2F900;321=2F901
CJK COMPATIBILITY IDEOGRAPH-2F902=2F902;323=2F903;324=2F904;325=2F905;326=2F906;327=2F907
CJK COMPATIBILITY IDEOGRAPH-2F908=2F908;329=2F909;32A=2F90A;32B=2F90B;32C=2F90C;32D=2F90D
CJK COMPATIBILITY IDEOGRAPH-2F90E=2F90E;32F=2F90F;3110=2F910;321=2F911;322=2F912;323=2F913
CJK COMPATIBILITY IDEOGRAPH-2F914=2F914;325=2F915;326=2F916;327=2F917;328=2F918;329=2F919
CJK COMPATIBILITY IDEOGRAPH-2F91A=2F91A;32B=2F91B;32C=2F91C;32D=2F91D;32E=2F91E;32F=2F91F
CJK COMPATIBILITY IDEOGRAPH-2F920=2F920;321=2F921;322=2F922;323=2F923;324=2F924;325=2F925
CJK COMPATIBILITY IDEOGRAPH-2F926=2F926;327=2F927;328=2F928;329=2F929;32A=2F92A;32B=2F92B
CJK COMPATIBILITY IDEOGRAPH-2F92C=2F92C;32D=2F92D;32E=2F92E;32F=2F92F;3130=2F930;321=2F931
CJK COMPATIBILITY IDEOGRAPH-2F932=2F932;323=2F933;324=2F934;325=2F935;326=2F936;327=2F937
CJK COMPATIBILITY IDEOGRAPH-2F938=2F938;329=2F939;32A=2F93A;32B=2F93B;32C=2F93C;32D=2F93D
CJK COMPATIBILITY IDEOGRAPH-2F93E=2F93E;32F=2F93F;3140=2F940;321=2F941;322=2F942;323=2F943
CJK COMPATIBILITY IDEOGRAPH-2F944=2F944;325=2F945;326=2F946;327=2F947;328=2F948;329=2F949
CJK COMPATIBILITY IDEOGRAPH-2F94A=2F94A;32B=2F94B;32C=2F94C;32D=2F94D;32E=2F94E;32F=2F94F
CJK COMPATIBILITY IDEOGRAPH-2F950=2F950;321=2F951;322=2F952;323=2F953;324=2F954;325=2F955
CJK COMPATIBILITY IDEOGRAPH-2F956=2F956;327=2F957;328=2F958;329=2F959;32A=2F95A;32B=2F95B
CJK COMPATIBILITY IDEOGRAPH-2F95C=2F95C;32D=2F95D;32E=2F95E;32F=2F95F;3160=2F960;321=2F961
CJK COMPATIBILITY IDEOGRAPH-2F962=2F962;323=2F963;324=2F964;325=2F965;326=2F966;327=2F967
CJK COMPATIBILITY IDEOGRAPH-2F968=2F968;329=2F969;32A=2F96A;32B=2F96B;32C=2F96C;32D=2F96D
CJK COMPATIBILITY IDEOGRAPH-2F96E=2F96E;32F=2F96F;3170=2F970;321=2F971;322=2F972;323=2F973
CJK COMPATIBILITY IDEOGRAPH-2F974=2F974;325=2F975;326=2F976;327=2F977;328=2F978;329=2F979
CJK COMPATIBILITY IDEOGRAPH-2F97A=2F97A;32B=2F97B;32C=2F97C;32D=2F97D;32E=2F97E;32F=2F97F
CJK COMPATIBILITY IDEOGRAPH-2F980=2F980;321=2F981;322=2F982;323=2F983;324=2F984;325=2F985
CJK COMPATIBILITY IDEOGRAPH-2F986=2F986;327=2F987;328=2F988;329=2F989;32A=2F98A;32B=2F98B
CJK COMPATIBILITY IDEOGRAPH-2F98C=2F98C;32D=2F98D;32E=2F98E;32F=2F98F;3190=2F990;321=2F991
CJK COMPATIBILITY IDEOGRAPH-2F992=2F992;323=2F993;324=2F994;325=2F995;326=2F996;327=2F997
CJK COMPATIBILITY IDEOGRAPH-2F998=2F998;329=2F999;32A=2F99A;32B=2F99B;32C=2F99C;32D=2F99D
CJK COMPATIBILITY IDEOGRAPH-2F99E=2F99E;32F=2F99F;31A0=2F9A0;321=2F9A1;322=2F9A2;323=2F9A3
CJK COMPATIBILITY IDEOGRAPH-2F9A4=2F9A4;325=2F9A5;326=2F9A6;327=2F9A7;328=2F9A8;329=2F9A9
CJK COMPATIBILITY IDEOGRAPH-2F9AA=2F9AA;32B=2F9AB;32C=2F9AC;32D=2F9AD;32E=2F9AE;32F=2F9AF
CJK COMPATIBILITY IDEOGRAPH-2F9B0=2F9B0;321=2F9B1;322=2F9B2;323=2F9B3;324=2F9B4;325=2F9B5
CJK COMPATIBILITY IDEOGRAPH-2F9B6=2F9B6;327=2F9B7;328=2F9B8;329=2F9B9;32A=2F9BA;32B=2F9BB
CJK COMPATIBILITY IDEOGRAPH-2F9BC=2F9BC;32D=2F9BD;32E=2F9BE;32F=2F9BF;31C0=2F9C0;321=2F9C1
CJK COMPATIBILITY IDEOGRAPH-2F9C2=2F9C2;323=2F9C3;324=2F9C4;325=2F9C5;326=2F9C6;327=2F9C7
CJK COMPATIBILITY IDEOGRAPH-2F9C8=2F9C8;329=2F9C9;32A=2F9CA;32B=2F9CB;32C=2F9CC;32D=2F9CD
CJK COMPATIBILITY IDEOGRAPH-2F9CE=2F9CE;32F=2F9CF;31D0=2F9D0;321=2F9D1;322=2F9D2;323=2F9D3
CJK COMPATIBILITY IDEOGRAPH-2F9D4=2F9D4;325=2F9D5;326=2F9D6;327=2F9D7;328=2F9D8;329=2F9D9
CJK COMPATIBILITY IDEOGRAPH-2F9DA=2F9DA;32B=2F9DB;32C=2F9DC;32D=2F9DD;32E=2F9DE;32F=2F9DF
CJK COMPATIBILITY IDEOGRAPH-2F9E0=2F9E0;321=2F9E1;322=2F9E2;323=2F9E3;324=2F9E4;325=2F9E5
CJK COMPATIBILITY IDEOGRAPH-2F9E6=2F9E6;327=2F9E7;328=2F9E8;329=2F9E9;32A=2F9EA;32B=2F9EB
CJK COMPATIBILITY IDEOGRAPH-2F9EC=2F9EC;32D=2F9ED;32E=2F9EE;32F=2F9EF;31F0=2F9F0;321=2F9F1
CJK COMPATIBILITY IDEOGRAPH-2F9F2=2F9F2;323=2F9F3;324=2F9F4;325=2F9F5;326=2F9F6;327=2F9F7
CJK COMPATIBILITY IDEOGRAPH-2F9F8=2F9F8;329=2F9F9;32A=2F9FA;32B=2F9FB;32C=2F9FC;32D=2F9FD
CJK COMPATIBILITY IDEOGRAPH-2F9FE=2F9FE;32F=2F9FF;30A00=2FA00;321=2FA01;322=2FA02;323=2FA03
CJK COMPATIBILITY IDEOGRAPH-2FA04=2FA04;325=2FA05;326=2FA06;327=2FA07;328=2FA08;329=2FA09
CJK COMPATIBILITY IDEOGRAPH-2FA0A=2FA0A;32B=2FA0B;32C=2FA0C;32D=2FA0D;32E=2FA0E;32F=2FA0F
CJK COMPATIBILITY IDEOGRAPH-2FA10=2FA10;321=2FA11;322=2FA12;323=2FA13;324=2FA14;325=2FA15
CJK COMPATIBILITY IDEOGRAPH-2FA16=2FA16;327=2FA17;328=2FA18;329=2FA19;32A=2FA1A;32B=2FA1B
CJK COMPATIBILITY IDEOGRAPH-2FA1C=2FA1C;32D=2FA1D;28F900=F900;311=F901;312=F902;313=F903;314=F904
CJK COMPATIBILITY IDEOGRAPH-F905=F905;316=F906;317=F907;318=F908;319=F909;31A=F90A;31B=F90B
CJK COMPATIBILITY IDEOGRAPH-F90C=F90C;31D=F90D;31E=F90E;31F=F90F;3010=F910;311=F911;312=F912
CJK COMPATIBILITY IDEOGRAPH-F913=F913;314=F914;315=F915;316=F916;317=F917;318=F918;319=F919
CJK COMPATIBILITY IDEOGRAPH-F91A=F91A;31B=F91B;31C=F91C;31D=F91D;31E=F91E;31F=F91F;3020=F920
CJK COMPATIBILITY IDEOGRAPH-F921=F921;312=F922;313=F923;314=F924;315=F925;316=F926;317=F927
CJK COMPATIBILITY IDEOGRAPH-F928=F928;319=F929;31A=F92A;31B=F92B;31C=F92C;31D=F92D;31E=F92E
CJK COMPATIBILITY IDEOGRAPH-F92F=F92F;3030=F930;311=F931;312=F932;313=F933;314=F934;315=F935
CJK COMPATIBILITY IDEOGRAPH-F936=F936;317=F937;318=F938;319=F939;31A=F93A;31B=F93B;31C=F93C
CJK COMPATIBILITY IDEOGRAPH-F93D=F93D;31E=F93E;31F=F93F;3040=F940;311=F941;312=F942;313=F943
CJK COMPATIBILITY IDEOGRAPH-F944=F944;315=F945;316=F946;317=F947;318=F948;319=F949;31A=F94A
CJK COMPATIBILITY IDEOGRAPH-F94B=F94B;31C=F94C;31D=F94D;31E=F94E;31F=F94F;3050=F950;311=F951
CJK COMPATIBILITY IDEOGRAPH-F952=F952;313=F953;314=F954;315=F955;316=F956;317=F957;318=F958
CJK COMPATIBILITY IDEOGRAPH-F959=F959;31A=F95A;31B=F95B;31C=F95C;31D=F95D;31E=F95E;31F=F95F
CJK COMPATIBILITY IDEOGRAPH-F960=F960;311=F961;312=F962;313=F963;314=F964;315=F965;316=F966
CJK COMPATIBILITY IDEOGRAPH-F967=F967;318=F968;319=F969;31A=F96A;31B=F96B;31C=F96C;31D=F96D
CJK COMPATIBILITY IDEOGRAPH-F96E=F96E;31F=F96F;3070=F970;311=F971;312=F972;313=F973;314=F974
CJK COMPATIBILITY IDEOGRAPH-F975=F975;316=F976;317=F977;318=F978;319=F979;31A=F97A;31B=F97B
CJK COMPATIBILITY IDEOGRAPH-F97C=F97C;31D=F97D;31E=F97E;31F=F97F;3080=F980;311=F981;312=F982
CJK COMPATIBILITY IDEOGRAPH-F983=F983;314=F984;315=F985;316=F986;317=F987;318=F988;319=F989
CJK COMPATIBILITY IDEOGRAPH-F98A=F98A;31B=F98B;31C=F98C;31D=F98D;31E=F98E;31F=F98F;3090=F990
CJK COMPATIBILITY IDEOGRAPH-F991=F991;312=F992;313=F993;314=F994;315=F995;316=F996;317=F997
CJK COMPATIBILITY IDEOGRAPH-F998=F998;319=F999;31A=F99A;31B=F99B;31C=F99C;31D=F99D;31E=F99E
CJK COMPATIBILITY IDEOGRAPH-F99F=F99F;30A0=F9A0;311=F9A1;312=F9A2;313=F9A3;314=F9A4;315=F9A5
CJK COMPATIBILITY IDEOGRAPH-F9A6=F9A6;317=F9A7;318=F9A8;319=F9A9;31A=F9AA;31B=F9AB;31C=F9AC
CJK COMPATIBILITY IDEOGRAPH-F9AD=F9AD;31E=F9AE;31F=F9AF;30B0=F9B0;311=F9B1;312=F9B2;313=F9B3
CJK COMPATIBILITY IDEOGRAPH-F9B4=F9B4;315=F9B5;316=F9B6;317=F9B7;318=F9B8;319=F9B9;31A=F9BA
CJK COMPATIBILITY IDEOGRAPH-F9BB=F9BB;31C=F9BC;31D=F9BD;31E=F9BE;31F=F9BF;30C0=F9C0;311=F9C1
CJK COMPATIBILITY IDEOGRAPH-F9C2=F9C2;313=F9C3;314=F9C4;315=F9C5;316=F9C6;317=F9C7;318=F9C8
CJK COMPATIBILITY IDEOGRAPH-F9C9=F9C9;31A=F9CA;31B=F9CB;31C=F9CC;31D=F9CD;31E=F9CE;31F=F9CF
CJK COMPATIBILITY IDEOGRAPH-F9D0=F9D0;311=F9D1;312=F9D2;313=F9D3;314=F9D4;315=F9D5;316=F9D6
CJK COMPATIBILITY IDEOGRAPH-F9D7=F9D7;318=F9D8;319=F9D9;31A=F9DA;31B=F9DB;31C=F9DC;31D=F9DD
CJK COMPATIBILITY IDEOGRAPH-F9DE=F9DE;31F=F9DF;30E0=F9E0;311=F9E1;312=F9E2;313=F9E3;314=F9E4
CJK COMPATIBILITY IDEOGRAPH-F9E5=F9E5;316=F9E6;317=F9E7;318=F9E8;319=F9E9;31A=F9EA;31B=F9EB
CJK COMPATIBILITY IDEOGRAPH-F9EC=F9EC;31D=F9ED;31E=F9EE;31F=F9EF;30F0=F9F0;311=F9F1;312=F9F2
CJK COMPATIBILITY IDEOGRAPH-F9F3=F9F3;314=F9F4;315=F9F5;316=F9F6;317=F9F7;318=F9F8;319=F9F9
CJK COMPATIBILITY IDEOGRAPH-F9FA=F9FA;31B=F9FB;31C=F9FC;31D=F9FD;31E=F9FE;31F=F9FF;29A00=FA00
CJK COMPATIBILITY IDEOGRAPH-FA01=FA01;312=FA02;313=FA03;314=FA04;315=FA05;316=FA06;317=FA07
CJK COMPATIBILITY IDEOGRAPH-FA08=FA08;319=FA09;31A=FA0A;31B=FA0B;31C=FA0C;31D=FA0D;31E=FA0E
CJK COMPATIBILITY IDEOGRAPH-FA0F=FA0F;3010=FA10;311=FA11;312=FA12;313=FA13;314=FA14;315=FA15
CJK COMPATIBILITY IDEOGRAPH-FA16=FA16;317=FA17;318=FA18;319=FA19;31A=FA1A;31B=FA1B;31C=FA1C
CJK COMPATIBILITY IDEOGRAPH-FA1D=FA1D;31E=FA1E;31F=FA1F;3020=FA20;311=FA21;312=FA22;313=FA23
CJK COMPATIBILITY IDEOGRAPH-FA24=FA24;315=FA25;316=FA26;317=FA27;318=FA28;319=FA29;31A=FA2A
CJK COMPATIBILITY IDEOGRAPH-FA2B=FA2B;31C=FA2C;31D=FA2D;31E=FA2E;31F=FA2F;3030=FA30;311=FA31
CJK COMPATIBILITY IDEOGRAPH-FA32=FA32;313=FA33;314=FA34;315=FA35;316=FA36;317=FA37;318=FA38
CJK COMPATIBILITY IDEOGRAPH-FA39=FA39;31A=FA3A;31B=FA3B;31C=FA3C;31D=FA3D;31E=FA3E;31F=FA3F
CJK COMPATIBILITY IDEOGRAPH-FA40=FA40;311=FA41;312=FA42;313=FA43;314=FA44;315=FA45;316=FA46
CJK COMPATIBILITY IDEOGRAPH-FA47=FA47;318=FA48;319=FA49;31A=FA4A;31B=FA4B;31C=FA4C;31D=FA4D
CJK COMPATIBILITY IDEOGRAPH-FA4E=FA4E;31F=FA4F;3050=FA50;311=FA51;312=FA52;313=FA53;314=FA54
CJK COMPATIBILITY IDEOGRAPH-FA55=FA55;316=FA56;317=FA57;318=FA58;319=FA59;31A=FA5A;31B=FA5B
CJK COMPATIBILITY IDEOGRAPH-FA5C=FA5C;31D=FA5D;31E=FA5E;31F=FA5F;3060=FA60;311=FA61;312=FA62
CJK COMPATIBILITY IDEOGRAPH-FA63=FA63;314=FA64;315=FA65;316=FA66;317=FA67;318=FA68;319=FA69
CJK COMPATIBILITY IDEOGRAPH-FA6A=FA6A;31B=FA6B;31C=FA6C;31D=FA6D;3070=FA70;311=FA71;312=FA72
CJK COMPATIBILITY IDEOGRAPH-FA73=FA73;314=FA74;315=FA75;316=FA76;317=FA77;318=FA78;319=FA79
CJK COMPATIBILITY IDEOGRAPH-FA7A=FA7A;31B=FA7B;31C=FA7C;31D=FA7D;31E=FA7E;31F=FA7F;3080=FA80
CJK COMPATIBILITY IDEOGRAPH-FA81=FA81;312=FA82;313=FA83;314=FA84;315=FA85;316=FA86;317=FA87
CJK COMPATIBILITY IDEOGRAPH-FA88=FA88;319=FA89;31A=FA8A;31B=FA8B;31C=FA8C;31D=FA8D;31E=FA8E
CJK COMPATIBILITY IDEOGRAPH-FA8F=FA8F;3090=FA90;311=FA91;312=FA92;313=FA93;314=FA94;315=FA95
CJK COMPATIBILITY IDEOGRAPH-FA96=FA96;317=FA97;318=FA98;319=FA99;31A=FA9A;31B=FA9B;31C=FA9C
CJK COMPATIBILITY IDEOGRAPH-FA9D=FA9D;31E=FA9E;31F=FA9F;30A0=FAA0;311=FAA1;312=FAA2;313=FAA3
CJK COMPATIBILITY IDEOGRAPH-FAA4=FAA4;315=FAA5;316=FAA6;317=FAA7;318=FAA8;319=FAA9;31A=FAAA
CJK COMPATIBILITY IDEOGRAPH-FAAB=FAAB;31C=FAAC;31D=FAAD;31E=FAAE;31F=FAAF;30B0=FAB0;311=FAB1
CJK COMPATIBILITY IDEOGRAPH-FAB2=FAB2;313=FAB3;314=FAB4;315=FAB5;316=FAB6;317=FAB7;318=FAB8
CJK COMPATIBILITY IDEOGRAPH-FAB9=FAB9;31A=FABA;31B=FABB;31C=FABC;31D=FABD;31E=FABE;31F=FABF
CJK COMPATIBILITY IDEOGRAPH-FAC0=FAC0;311=FAC1;312=FAC2;313=FAC3;314=FAC4;315=FAC5;316=FAC6
CJK COMPATIBILITY IDEOGRAPH-FAC7=FAC7;318=FAC8;319=FAC9;31A=FACA;31B=FACB;31C=FACC;31D=FACD
CJK COMPATIBILITY IDEOGRAPH-FACE=FACE;31F=FACF;30D0=FAD0;311=FAD1;312=FAD2;313=FAD3;314=FAD4
CJK COMPATIBILITY IDEOGRAPH-FAD5=FAD5;316=FAD6;317=FAD7;318=FAD8;319=FAD9;04RADICAL BAMBOO=2EAE
CJK RADICAL BLUE=2ED8;13OLT OF CLOTH=2EAA;14NE=2EE3;14X=2E86;13RUSH ONE=2EBA;18TWO=2EBB
CJK RADICAL C-SIMPLIFIED BIRD=2EE6;25CART=2ECB;25DRAGON=2EF0;25EAT=2EE0;26VEN=2EEC;25FISH=2EE5
CJK RADICAL C-SIMPLIFIED FLY=2EDC;26ROG=2EEA;25GATE=2ED4;26OLD=2ED0;25HORSE=2EE2;25LEAF=2EDA
CJK RADICAL C-SIMPLIFIED LONG=2ED3;25SALT=2EE7;26EE=2EC5;26HELL=2EC9;26ILK=2EB0;26PEECH=2EC8
CJK RADICAL C-SIMPLIFIED TANNED LEATHER=2ED9;26OOTH=2EEE;26URTLE=2EF3;25WIND=2EDB;13HOKE=2E9B
CJK RADICAL CITY=2ECF;14VILIAN=2EA0;13LIFF=2E81;14OTHES=2EC2;13OW=2EA7;12DEATH=2E9E
CJK RADICAL DIVINATION=2E8A;13OG=2EA8;12EAT ONE=2EDD;16THREE=2EDF;17WO=2EDE;13WE=2EB8;13YE=2EAB
CJK RADICAL FIRE=2EA3;13OOT=2ECA;12GHOST=2EE4;13RASS ONE=2EBE;18THREE=2EC0;19WO=2EBF;12HAND=2E98
CJK RADICAL HEAD=2EE1;15RT ONE=2E96;18TWO=2E97;13ORN=2EC7;12J-SIMPLIFIED DRAGON=2EEF;25EVEN=2EEB
CJK RADICAL J-SIMPLIFIED TOOTH=2EED;26URTLE=2EF2;13ADE=2EA9;12KNIFE ONE=2E88;18TWO=2E89
CJK RADICAL LAME FOUR=2E91;17ONE=2E8E;17THREE=2E90;18WO=2E8F;13ONG ONE=2ED1;17TWO=2ED2;12MEAT=2EBC
CJK RADICAL MESH=2EB5;13OON=2E9D;14RTAR=2EBD;14THER=2E9F;14UND ONE=2ED5;18TWO=2ED6;12NET FOUR=2EB4
CJK RADICAL NET ONE=2EB1;16THREE=2EB3;17WO=2EB2;12OLD=2EB9;12PAW ONE=2EA4;16TWO=2EA5;13ERSON=2E85
CJK RADICAL RAIN=2ED7;14M=2EB7;14P=2E99;13EPEAT=2E80;12SEAL=2E8B;14COND ONE=2E82;19THREE=2E84
CJK RADICAL SECOND TWO=2E83;13HEEP=2EB6;13ILK=2EAF;14MPLIFIED HALF TREE TRUNK=2EA6;24ORN=2EC6
CJK RADICAL SIMPLIFIED WALK=2ECC;24HEAT=2EE8;23YELLOW=2EE9;13MALL ONE=2E8C;18TWO=2E8D;13NAKE=2E92
CJK RADICAL SNOUT ONE=2E94;18TWO=2E95;13PIRIT ONE=2EAC;19TWO=2EAD;13UN=2E9C;12TABLE=2E87
CJK RADICAL THREAD=2E93;13IGER=2EC1;13URTLE=2EF1;12WALK ONE=2ECD;17TWO=2ECE;14TER ONE=2EA1
CJK RADICAL WATER TWO=2EA2;13EST ONE=2EC3;17TWO=2EC4;04STROKE BXG=31C3;11D=31D4;11H=31D0;12G=31D6
CJK STROKE HP=31C7;13WG=31CC;12XWG=31E0;12Z=31D5;13G=31C6;13T=31CA;13W=31CD;14G=31C8;13Z=31C5
CJK STROKE HZZP=31CB;14Z=31CE;15G=31E1;11N=31CF;11P=31D2;12D=31DB;12G=31E2;12Z=31DC;11Q=31E3
CJK STROKE S=31D1;12G=31DA;12P=31D3;12T=31D9;12W=31C4;13G=31DF;13Z=31D8;12Z=31D7;13WG=31C9
CJK STROKE SZZ=31DE;11T=31C0;12N=31DD;11WG=31C1;11XG=31C2;01LAMSHELL MOBILE PHONE=1F581
CLAPPER BOARD=1F3AC;05ING HANDS SIGN=1F44F;03SSICAL BUILDING=1F3DB;02EAR SCREEN SYMBOL=239A
CLINKING BEER MUGS=1F37B;09GLASSES=1F942;03PBOARD=1F4CB;02OCK FACE EIGHT OCLOCK=1F557
CLOCK FACE EIGHT-THIRTY=1F563;12LEVEN OCLOCK=1F55A;17-THIRTY=1F566;11FIVE OCLOCK=1F554
CLOCK FACE FIVE-THIRTY=1F560;12OUR OCLOCK=1F553;15-THIRTY=1F55F;11NINE OCLOCK=1F558
CLOCK FACE NINE-THIRTY=1F564;11ONE OCLOCK=1F550;14-THIRTY=1F55C;11SEVEN OCLOCK=1F556
CLOCK FACE SEVEN-THIRTY=1F562;12IX OCLOCK=1F555;14-THIRTY=1F561;11TEN OCLOCK=1F559;14-THIRTY=1F565
CLOCK FACE THREE OCLOCK=1F552;16-THIRTY=1F55E;12WELVE OCLOCK=1F55B;17-THIRTY=1F567
CLOCK FACE TWO OCLOCK=1F551;14-THIRTY=1F55D;05WISE CLOSED CIRCLE ARROW=2941;11ONTOUR INTEGRAL=2232
CLOCKWISE DOWNWARDS AND UPWARDS OPEN CIRCLE ARROWS=1F503;10GAPPED CIRCLE ARROW=27F3
CLOCKWISE INTEGRAL=2231;10OPEN CIRCLE ARROW=21BB;10RIGHT AND LEFT SEMICIRCLE ARROWS=1F5D8
CLOCKWISE RIGHTWARDS AND LEFTWARDS OPEN CIRCLE ARROWS WITH CIRCLED ONE OVERLAY=1F502;53=1F501
CLOCKWISE TOP SEMICIRCLE ARROW=21B7;11RIANGLE-HEADED OPEN CIRCLE ARROW=2B6E;03SE UP=2050
CLOSED BOOK=1F4D5;07INTERSECTION WITH SERIFS=2A4D;07LOCK WITH KEY=1F510
CLOSED MAILBOX WITH LOWERED FLAG=1F4EA;20RAISED FLAG=1F4EB;07SUBSET OR EQUAL TO=2AD1;13=2ACF
CLOSED SUPERSET OR EQUAL TO=2AD2;15=2AD0;07UMBRELLA=1F302
CLOSED UNION WITH SERIFS AND SMASH PRODUCT=2A50;24=2A4C;03UD WITH LIGHTNING=1F329;11RAIN=1F327
CLOUD WITH SNOW=1F328;11TORNADO=1F32A;05=2601;03WN FACE=1F921;01OAT=1F9E5;02CKROACH=1FAB3
COCKTAIL GLASS=1F378;03ONUT=1F965;02FFIN=26B0;02IN=1FA99;02LLISION SYMBOL=1F4A5;03ON EQUALS=2254
COLON SIGN=20A1;05=3A;02MBINING ACUTE ACCENT BELOW=317;22=301;16TONE MARK=341;15-GRAVE-ACUTE=1DC9
COMBINING ACUTE-MACRON=1DC7;11LMOST EQUAL TO ABOVE=34C;26BELOW=1DFD;11NNUITY SYMBOL=20E7
COMBINING ANTICLOCKWISE ARROW ABOVE=20D4;24RING OVERLAY=20DA;11STERISK ABOVE=20F0;19BELOW=359
COMBINING BINDU BELOW=1133B;11REVE BELOW=32E;15-MACRON=1DCB;15=306;12IDGE ABOVE=346;17BELOW=32A
COMBINING CANDRABINDU=310;12RON BELOW=32C;15=30C;11EDILLA=327;11IRCUMFLEX ACCENT BELOW=32D;27=302
COMBINING CLOCKWISE ARROW ABOVE=20D5;20RING OVERLAY=20D9;11OMMA ABOVE RIGHT=315;21=313;16BELOW=326
COMBINING CONJOINING MACRON BELOW=FE2D;27=FE26;11YRILLIC DASIA PNEUMATA=485
COMBINING CYRILLIC HUNDRED MILLIONS SIGN=A671;27THOUSANDS SIGN=488;19KAVYKA=A67C;19LETTER A=2DF6
COMBINING CYRILLIC LETTER BE=2DE0;27IG YUS=2DFE;26CHE=2DF1;26DE=2DE3;27JERV=2DF8;26EF=A69E
COMBINING CYRILLIC LETTER EL=2DE7;27M=2DE8;27N=2DE9;27R=2DEC;27S-TE=2DF5;28=2DED;26FITA=2DF4
COMBINING CYRILLIC LETTER GHE=2DE2;26HA=2DEF;28RD SIGN=A678;26I=A675;27E=2DF7;27OTIFIED A=2DFC
COMBINING CYRILLIC LETTER IOTIFIED BIG YUS=2DFF;35E=A69F;26KA=2DE6;26LITTLE YUS=2DFD
COMBINING CYRILLIC LETTER MONOGRAPH UK=2DF9;26O=2DEA;27MEGA=A67B;26PE=2DEB;26SHA=2DF2;28CHA=2DF3
COMBINING CYRILLIC LETTER SOFT SIGN=A67A;26TE=2DEE;27SE=2DF0;26U=A677;27KRAINIAN IE=A674;26VE=2DE1
COMBINING CYRILLIC LETTER YAT=2DFA;27ERU=A679;27I=A676;27U=2DFB;26ZE=2DE5;27HE=2DE4
COMBINING CYRILLIC MILLIONS SIGN=489;19PALATALIZATION=484;21YEROK=A67D;20OKRYTIE=487
COMBINING CYRILLIC PSILI PNEUMATA=486;19TEN MILLIONS SIGN=A670;20HOUSAND MILLIONS SIGN=A672
COMBINING CYRILLIC TITLO LEFT HALF=FE2E;25RIGHT HALF=FE2F;24=483;19VZMET=A66F;10DELETION MARK=1DFB
COMBINING DEVANAGARI DIGIT EIGHT=A8E8;27FIVE=A8E5;28OUR=A8E4;27NINE=A8E9;27ONE=A8E1;27SEVEN=A8E7
COMBINING DEVANAGARI DIGIT SIX=A8E6;27THREE=A8E3;28WO=A8E2;27ZERO=A8E0;21LETTER A=A8EA;28KA=A8EC
COMBINING DEVANAGARI LETTER NA=A8ED;28PA=A8EE;28RA=A8EF;28U=A8EB;28VI=A8F0;21SIGN AVAGRAHA=A8F1
COMBINING DIAERESIS BELOW=324;19-RING=1AB1;19=308;11OT ABOVE LEFT=1DF8;20RIGHT=358;19=307
COMBINING DOT BELOW LEFT=1DFA;19=323;13TED ACUTE ACCENT=1DC1;17GRAVE ACCENT=1DC0
COMBINING DOUBLE ACUTE ACCENT=30B;17BREVE BELOW=35C;22=35D;17CIRCUMFLEX ABOVE=1DCD
COMBINING DOUBLE GRAVE ACCENT=30F;17INVERTED BREVE BELOW=1DFC;31=361;17LOW LINE=333
COMBINING DOUBLE MACRON BELOW=35F;23=35E;17OPEN MARK BELOW=1AB8;18VERLINE=33F
COMBINING DOUBLE PARENTHESES ABOVE=1ABC;18LUS SIGN ABOVE=1AC9;27BELOW=1ACA
COMBINING DOUBLE RIGHTWARDS ARROW BELOW=362;19NG BELOW=35A;17TILDE LEFT HALF=FE22
COMBINING DOUBLE TILDE RIGHT HALF=FE23;22=360;17VERTICAL LINE ABOVE=30E;31BELOW=348
COMBINING DOUBLE VERTICAL STROKE OVERLAY=20E6;16D CIRCUMFLEX ACCENT=1AB0;12WN TACK BELOW=31E
COMBINING DOWNWARDS ARROW=1AB3;10ENCLOSING CIRCLE BACKSLASH=20E0;26=20DD;20DIAMOND=20DF
COMBINING ENCLOSING KEYCAP=20E3;20SCREEN=20E2;21QUARE=20DE;20UPWARD POINTING TRIANGLE=20E4
COMBINING EQUALS SIGN BELOW=347;10FERMATA=352;11OUR DOTS ABOVE=20DC;10GLAGOLITIC LETTER AZU=1E000
COMBINING GLAGOLITIC LETTER BIG YUS=1E028;29UKY=1E001;28CHRIVI=1E01D;28DJERVI=1E00C;29OBRO=1E004
COMBINING GLAGOLITIC LETTER FITA=1E02A;29RITU=1E017;28GLAGOLI=1E003;28HERU=1E018;28I=1E00B
COMBINING GLAGOLITIC LETTER INITIAL IZHE=1E00A;29OTATED BIG YUS=1E029;36SMALL YUS=1E027
COMBINING GLAGOLITIC LETTER IZHE=1E009;28KAKO=1E00D;28LJUDIJE=1E00E;28MYSLITE=1E00F;28NASHI=1E010
COMBINING GLAGOLITIC LETTER ONU=1E011;28POKOJI=1E012;28RITSI=1E013;28SHA=1E01E;30TA=1E01B
COMBINING GLAGOLITIC LETTER SLOVO=1E014;29MALL YUS=1E024;28TSI=1E01C;29VRIDO=1E015;28UKU=1E016
COMBINING GLAGOLITIC LETTER VEDE=1E002;28YATI=1E021;29ERI=1E020;31U=1E01F;30STU=1E005;29O=1E026
COMBINING GLAGOLITIC LETTER YU=1E023;28ZEMLJA=1E008;29HIVETE=1E006;11RANTHA DIGIT FIVE=1136B
COMBINING GRANTHA DIGIT FOUR=1136A;24ONE=11367;24SIX=1136C;24THREE=11369;25WO=11368;24ZERO=11366
COMBINING GRANTHA LETTER A=11370;25KA=11371;25NA=11372;25PA=11374;25VI=11373;13PHEME JOINER=34F
COMBINING GRAVE ACCENT BELOW=316;22=300;16TONE MARK=340;15-ACUTE-GRAVE=1DC8;16MACRON=1DC5
COMBINING GREEK DIALYTIKA TONOS=344;16KORONIS=343;16MUSICAL PENTASEME=1D244;24TETRASEME=1D243
COMBINING GREEK MUSICAL TRISEME=1D242;16PERISPOMENI=342;16YPOGEGRAMMENI=345;10HOMOTHETIC ABOVE=34B
COMBINING HOOK ABOVE=309;12RN=31B;10INFINITY=1AB2;12VERTED BREVE BELOW=32F;24=311;21IDGE BELOW=33A
COMBINING INVERTED DOUBLE ARCH ABOVE=1AC7;31BELOW=32B;11S BELOW=1DD0
COMBINING KATAKANA-HIRAGANA SEMI-VOICED SOUND MARK=309A;28VOICED SOUND MARK=3099
COMBINING KAVYKA ABOVE LEFT=1DF7;23RIGHT=1DF6;10LATIN LETTER SMALL CAPITAL G=1DDB;37L=1DDE
COMBINING LATIN LETTER SMALL CAPITAL M=1DDF;37N=1DE1;37R=1DE2;16SMALL LETTER A WITH DIAERESIS=1DF2
COMBINING LATIN SMALL LETTER A=363;30E=1DD4;30LPHA=1DE7;30O=1DD5;30V=1DD6;29B=1DE8;30ETA=1DE9
COMBINING LATIN SMALL LETTER C CEDILLA=1DD7;30=368;29D=369;29E=364;30SH=1DEF;30TH=1DD9;29F=1DEB
COMBINING LATIN SMALL LETTER FLATTENED OPEN A ABOVE=1DD3;29G=1DDA;29H=36A;29I=365;30NSULAR D=1DD8
COMBINING LATIN SMALL LETTER INSULAR G=1ACC;37R=1ACD;37T=1ACE;29K=1DDC
COMBINING LATIN SMALL LETTER L WITH DOUBLE MIDDLE TILDE=1DEC;30=1DDD;30ONG S=1DE5;29M=36B;29N=1DE0
COMBINING LATIN SMALL LETTER O WITH DIAERESIS=1DF3;36LIGHT CENTRALIZATION STROKE=1DED;30=366
COMBINING LATIN SMALL LETTER P=1DEE;29R BELOW=1DCA;31ROTUNDA=1DE3;30=36C;29S=1DE4;30CHWA=1DEA
COMBINING LATIN SMALL LETTER T=36D;30URNED W BELOW=1AC0;29U WITH DIAERESIS=1DF4
COMBINING LATIN SMALL LETTER U WITH LIGHT CENTRALIZATION STROKE=1DF0;30=367;29V=36E;29W BELOW=1ABF
COMBINING LATIN SMALL LETTER W=1DF1;29X=36F;29Z=1DE6;11EFT ANGLE ABOVE=31A;21BELOW=349
COMBINING LEFT ARROW ABOVE=20D6;21BELOW=20EE;20HEAD ABOVE=1DFE;25BELOW=354;15HALF RING ABOVE=351
COMBINING LEFT HALF RING BELOW=31C;17RPOON ABOVE=20D0;15PARENTHESIS ABOVE LEFT=1AC1
COMBINING LEFT PARENTHESIS BELOW LEFT=1AC3;15RIGHT ARROW ABOVE=20E1;27BELOW=34D;15TACK BELOW=318
COMBINING LEFTWARDS ARROW OVERLAY=20EA;20HARPOON WITH BARB DOWNWARDS=20ED
COMBINING LIGATURE LEFT HALF BELOW=FE27;28=FE20;19RIGHT HALF BELOW=FE28;29=FE21
COMBINING LIGHT CENTRALIZATION STROKE BELOW=1AB9;11ONG DOUBLE SOLIDUS OVERLAY=20EB
COMBINING LONG SOLIDUS OVERLAY=338;16TROKE OVERLAY=336;15VERTICAL LINE OVERLAY=20D2;12W LINE=332
COMBINING MACRON BELOW=331;17LEFT HALF BELOW=FE2B;26=FE24;17RIGHT HALF BELOW=FE2C;27=FE25
COMBINING MACRON-ACUTE=1DC4;17BREVE=1DCC;17GRAVE=1DC6;16=304;11INUS SIGN BELOW=320
COMBINING NOT TILDE ABOVE=34A;11UMBER SIGN ABOVE=1AC6;10OGONEK ABOVE=1DCE;16=328
COMBINING OLD PERMIC LETTER AN=10376;28DOI=10377;28NENOE=10379;28SII=1037A;28ZATA=10378
COMBINING OPEN MARK BELOW=1AB7;11VERLINE=305;10PALATALIZED HOOK BELOW=321;12RENTHESES ABOVE=1ABB
COMBINING PARENTHESES BELOW=1ABD;22OVERLAY=1ABE;11LUS SIGN ABOVE=1AC8;20BELOW=31F
COMBINING RETROFLEX HOOK BELOW=322;12VERSE SOLIDUS OVERLAY=20E5;17D COMMA ABOVE=314
COMBINING RIGHT ARROW ABOVE=20D7;22BELOW=20EF;21HEAD ABOVE=350;27ND DOWN ARROWHEAD BELOW=1DFF
COMBINING RIGHT ARROWHEAD AND UP ARROWHEAD BELOW=356;26BELOW=355;16HALF RING ABOVE=357;26BELOW=339
COMBINING RIGHT HARPOON ABOVE=20D1;16PARENTHESIS ABOVE RIGHT=1AC2;28BELOW RIGHT=1AC4
COMBINING RIGHT TACK BELOW=319;15WARDS HARPOON WITH BARB DOWNWARDS=20EC;12NG ABOVE=30A;15BELOW=325
COMBINING RING OVERLAY=20D8;10SEAGULL BELOW=33C;11HORT SOLIDUS OVERLAY=337;17TROKE OVERLAY=335
COMBINING SHORT VERTICAL LINE OVERLAY=20D3;11NAKE BELOW=1DC2;11QUARE BELOW=33B
COMBINING SQUARE BRACKETS ABOVE=1AC5;11TRONG CENTRALIZATION STROKE BELOW=1ABA
COMBINING SUSPENSION MARK=1DC3;10THREE DOTS ABOVE=20DB;11ILDE BELOW=330;16LEFT HALF BELOW=FE29
COMBINING TILDE OVERLAY=334;16RIGHT HALF BELOW=FE2A;15=303;11RIPLE ACUTE ACCENT=1ACB;17DOT=1AB4
COMBINING TRIPLE UNDERDOT=20E8;11URNED COMMA ABOVE=312;10UP TACK ABOVE=1DF5;18BELOW=31D
COMBINING UPWARDS ARROW BELOW=34E;11R ABOVE=1DD1;11S ABOVE=1DD2;10VERTICAL LINE ABOVE=30D
COMBINING VERTICAL LINE BELOW=329;19TILDE=33E;10WIDE BRIDGE ABOVE=20E9
COMBINING WIDE INVERTED BRIDGE BELOW=1DF9;12GGLY LINE BELOW=1AB6;10X ABOVE=33D;12BELOW=353
COMBINING X-X BELOW=1AB5;10ZIGZAG ABOVE=35B;17BELOW=1DCF;03ET=2604;03MA=2C;04ERCIAL AT=40
COMMERCIAL MINUS SIGN=2052;03PASS=1F9ED;04LEMENT=2201;04OSITION SYMBOL=2384;04RESSION=1F5DC
CONFETTI BALL=1F38A;04OUNDED FACE=1F616;04USED FACE=1F615;03GRUENT WITH DOT ABOVE=2A6D
CONICAL TAPER=2332;03JUNCTION=260C;03STRUCTION SIGN=1F6A7;13WORKER=1F477;03TAINS AS MEMBER=220B
CONTAINS AS NORMAL SUBGROUP OR EQUAL TO=22B5;27=22B3;09WITH LONG HORIZONTAL STROKE=22FA
CONTAINS WITH OVERBAR=22FD;14VERTICAL BAR AT END OF HORIZONTAL STROKE=22FB
CONTINUOUS UNDERLINE SYMBOL=2381;04OUR INTEGRAL=222E;04ROL KNOBS=1F39B;08SEQUENCE INTRODUCER=9B
CONVENIENCE STORE=1F3EA;02OKED RICE=1F35A;04IE=1F36A;05NG=1F373
COPTIC CAPITAL LETTER AKHMIMIC KHEI=2CC8;23LFA=2C80;22BOHAIRIC KHEI=2CF2;22CROSSED SHEI=2CC2
COPTIC CAPITAL LETTER CRYPTOGRAMMIC EIE=2CB6;36GANGIA=2CED;36NI=2CBC;36SHEI=2CEB;22DALDA=2C86
COPTIC CAPITAL LETTER DEI=3EE;23IALECT-P ALEF=2CB2;32HORI=2CCA;32KAPA=2CB8;32NI=2CBA;22EIE=2C88
COPTIC CAPITAL LETTER FEI=3E4;23I=2CAA;22GAMMA=2C84;24NGIA=3EA;22HATE=2C8E;23ORI=3E8;22IAUDA=2C92
COPTIC CAPITAL LETTER KAPA=2C94;23HEI=3E6;24I=2CAC;23SI=2C9C;22L-SHAPED HA=2CD0;23AULA=2C96
COPTIC CAPITAL LETTER MI=2C98;22NI=2C9A;22O=2C9E;23LD COPTIC AIN=2CB4;33DJA=2CD8;33ESH=2CC6
COPTIC CAPITAL LETTER OLD COPTIC GANGIA=2CD6;33HA=2CCE;35T=2CD4;34EI=2CD2;34ORI=2CCC;33OOU=2CBE
COPTIC CAPITAL LETTER OLD COPTIC SHEI=2CC4;35IMA=2CDA;26NUBIAN NGI=2CDE;34YI=2CE0;33SHIMA=2CDC
COPTIC CAPITAL LETTER OLD NUBIAN WAU=2CE2;23OU=2CB0;22PI=2CA0;23SI=2CAE;22RO=2CA2;22SAMPI=2CC0
COPTIC CAPITAL LETTER SHEI=3E2;24IMA=3EC;23IMA=2CA4;23OU=2C8A;22TAU=2CA6;23HETHE=2C90;22UA=2CA8
COPTIC CAPITAL LETTER VIDA=2C82;22ZATA=2C8C;08OMBINING NI ABOVE=2CEF;17SPIRITUS ASPER=2CF0
COPTIC COMBINING SPIRITUS LENIS=2CF1;07EPACT DIGIT EIGHT=102E8;19FIVE=102E5;20OUR=102E4
COPTIC EPACT DIGIT NINE=102E9;19ONE=102E1;19SEVEN=102E7;20IX=102E6;19THREE=102E3;20WO=102E2
COPTIC EPACT NUMBER EIGHT HUNDRED=102FA;25Y=102F1;20FIFTY=102EE;22VE HUNDRED=102F7;21ORTY=102ED
COPTIC EPACT NUMBER FOUR HUNDRED=102F6;20NINE HUNDRED=102FB;24TY=102F2;20ONE HUNDRED=102F3
COPTIC EPACT NUMBER SEVEN HUNDRED=102F9;25TY=102F0;21IX HUNDRED=102F8;23TY=102EF;20TEN=102EA
COPTIC EPACT NUMBER THIRTY=102EC;22REE HUNDRED=102F5;21WENTY=102EB;22O HUNDRED=102F4
COPTIC EPACT THOUSANDS MARK=102E0;07FRACTION ONE HALF=2CFD;08ULL STOP=2CFE
COPTIC MORPHOLOGICAL DIVIDER=2CFF;07OLD NUBIAN DIRECT QUESTION MARK=2CFA;18FULL STOP=2CF9
COPTIC OLD NUBIAN INDIRECT QUESTION MARK=2CFB;18VERSE DIVIDER=2CFC
COPTIC SMALL LETTER AKHMIMIC KHEI=2CC9;21LFA=2C81;20BOHAIRIC KHEI=2CF3;20CROSSED SHEI=2CC3
COPTIC SMALL LETTER CRYPTOGRAMMIC EIE=2CB7;34GANGIA=2CEE;34NI=2CBD;34SHEI=2CEC;20DALDA=2C87
COPTIC SMALL LETTER DEI=3EF;21IALECT-P ALEF=2CB3;30HORI=2CCB;30KAPA=2CB9;30NI=2CBB;20EIE=2C89
COPTIC SMALL LETTER FEI=3E5;21I=2CAB;20GAMMA=2C85;22NGIA=3EB;20HATE=2C8F;21ORI=3E9;20IAUDA=2C93
COPTIC SMALL LETTER KAPA=2C95;21HEI=3E7;22I=2CAD;21SI=2C9D;20L-SHAPED HA=2CD1;21AULA=2C97
COPTIC SMALL LETTER MI=2C99;20NI=2C9B;20O=2C9F;21LD COPTIC AIN=2CB5;31DJA=2CD9;31ESH=2CC7
COPTIC SMALL LETTER OLD COPTIC GANGIA=2CD7;31HA=2CCF;33T=2CD5;32EI=2CD3;32ORI=2CCD;31OOU=2CBF
COPTIC SMALL LETTER OLD COPTIC SHEI=2CC5;33IMA=2CDB;24NUBIAN NGI=2CDF;32YI=2CE1;31SHIMA=2CDD
COPTIC SMALL LETTER OLD NUBIAN WAU=2CE3;21OU=2CB1;20PI=2CA1;21SI=2CAF;20RO=2CA3;20SAMPI=2CC1
COPTIC SMALL LETTER SHEI=3E3;22IMA=3ED;21IMA=2CA5;21OU=2C8B;20TAU=2CA7;21HETHE=2C91;20UA=2CA9
COPTIC SMALL LETTER VIDA=2C83;20ZATA=2C8D;08YMBOL KAI=2CE4;15HI RO=2CE9;14MI RO=2CE5;14PI RO=2CE6
COPTIC SYMBOL SHIMA SIMA=2CEA;15TAUROS=2CE7;14TAU RO=2CE8;03YLEFT SYMBOL=1F12F;04RIGHT SIGN=A9
CORAL=1FAB8;03NISH VERSE DIVIDER=2E4F;03RESPONDS TO=2258;02UCH AND LAMP=1F6CB;03NTERBORE=2334
COUNTERSINK=2335;05ING ROD TENS DIGIT EIGHT=1D370;24FIVE=1D36D;25OUR=1D36C;24NINE=1D371
COUNTING ROD TENS DIGIT ONE=1D369;24SEVEN=1D36F;25IX=1D36E;24THREE=1D36B;25WO=1D36A
COUNTING ROD UNIT DIGIT EIGHT=1D367;24FIVE=1D364;25OUR=1D363;24NINE=1D368;24ONE=1D360
COUNTING ROD UNIT DIGIT SEVEN=1D366;25IX=1D365;24THREE=1D362;25WO=1D361;03PLE WITH HEART=1F491
COW FACE=1F42E;03=1F404;01R=D;02AB=1F980;02EDIT CARD=1F4B3;03SCENT MOON=1F319
CRICKET BAT AND BALL=1F3CF;07=1F997;02OCODILE=1F40A;03ISSANT=1F950;03SS MARK=274C
CROSS OF JERUSALEM=2629;09LORRAINE=2628;06PATTY WITH LEFT CROSSBAR=2E51;17RIGHT CROSSBAR=2E50"

end Foldline.Text.CharacterName
