/-! # Character names, part 3 of 8

The names from CROSS POMMEE WITH HALF-CIRCLE BELOW on,
in the notation of `CharacterName`. -/

namespace Foldline.Text.CharacterName

/-- Rows of names. -/
def rows3 : String := "
CROSS POMMEE WITH HALF-CIRCLE BELOW=1F541;12=1F542;05ED FLAGS=1F38C
CROSSED NEGATIVE SQUARED LATIN CAPITAL LETTER P=1F18A;08SWORDS=2694;05ING LANES=26CC;03WN=1F451
CRUTCH=1FA7C;03ZEIRO SIGN=20A2;02YING CAT FACE=1F63F;07FACE=1F622;03STAL BALL=1F52E;01SI=9B
CUBE ROOT=221B;02CUMBER=1F952;02NEIFORM NUMERIC SIGN EIGHT ASH=12406;29DISH=1240D;29GESH2=1241C
CUNEIFORM NUMERIC SIGN EIGHT SHAR2=1242A;29U VARIANT FORM=1246D;30=12413
CUNEIFORM NUMERIC SIGN EIGHT VARIANT FORM USSU3=12445;46=12444;24LAMITE FIFTY=12468;32ORTY=12467
CUNEIFORM NUMERIC SIGN ELAMITE ONE THIRD=12465;31TWO THIRDS=12466;23FIVE ASH TENU=1244D;31=12403
CUNEIFORM NUMERIC SIGN FIVE BAN2 VARIANT FORM=12455;32=12454;29URU=12439;28DISH=1240A
CUNEIFORM NUMERIC SIGN FIVE GESH2=12419;32U=12422;28SHAR2=12427;32U=12431;29IXTHS DISH=1245C
CUNEIFORM NUMERIC SIGN FIVE U VARIANT FORM=1246A;29=12410;24OUR ASH TENU=1244C;31=12402
CUNEIFORM NUMERIC SIGN FOUR BAN2 VARIANT FORM=12453;32=12452;29URU=12438;28DISH=12409
CUNEIFORM NUMERIC SIGN FOUR GESH2=12418;32U=12421;28SHAR2=12426;32U=12430;28U VARIANT FORM=12469
CUNEIFORM NUMERIC SIGN FOUR U=1240F;28VARIANT FORM LIMMU A=1243E;47B=1243F;464=1243D;46=1243C
CUNEIFORM NUMERIC SIGN NIGIDAESH=12457;29MIN=12456;25NE ASH=12407;28DISH=1240E;28GESH2=1241D
CUNEIFORM NUMERIC SIGN NINE SHAR2=1242B;28U VARIANT FORM=1246E;29=12414
CUNEIFORM NUMERIC SIGN NINE VARIANT FORM ILIMMU A=12449;473=12447;474=12448;47=12446
CUNEIFORM NUMERIC SIGN OLD ASSYRIAN ONE QUARTER=12462;40SIXTH=12461;24NE BAN2=1244F;28URU=12434
CUNEIFORM NUMERIC SIGN ONE EIGHTH ASH=1245F;28SHE3=12458;27GESH2=12415;31U=1241E;27HALF GUR=12464
CUNEIFORM NUMERIC SIGN ONE QUARTER ASH=12460;35GUR=12463;27SHARU=1242C;27THIRD DISH=1245A
CUNEIFORM NUMERIC SIGN ONE THIRD VARIANT FORM A=1245D;23SEVEN ASH=12405;29DISH=1240C;29GESH2=1241B
CUNEIFORM NUMERIC SIGN SEVEN SHAR2=12429;29U VARIANT FORM=1246C;30=12412
CUNEIFORM NUMERIC SIGN SEVEN VARIANT FORM IMIN A=12442;47B=12443;463=12441
CUNEIFORM NUMERIC SIGN SHAR2 TIMES GAL PLUS DISH=12432;44MIN=12433;24IX ASH TENU=1244E;30=12404
CUNEIFORM NUMERIC SIGN SIX DISH=1240B;27GESH2=1241A;27SHAR2=12428;27U VARIANT FORM=1246B;28=12411
CUNEIFORM NUMERIC SIGN SIX VARIANT FORM ASH9=12440;23THREE ASH TENU=1244B;32=12401;29BAN2=12451
CUNEIFORM NUMERIC SIGN THREE BURU VARIANT FORM=12437;33=12436;29DISH=12408;29GESH2=12417;33U=12420
CUNEIFORM NUMERIC SIGN THREE SHAR2 VARIANT FORM=12425;34=12424;33U VARIANT FORM=1242F;34=1242E
CUNEIFORM NUMERIC SIGN THREE VARIANT FORM ESH16=1243A;4521=1243B;24WO ASH TENU=1244A;30=12400
CUNEIFORM NUMERIC SIGN TWO BAN2=12450;28URU=12435;27ESHE3=12459;27GESH2=12416;31U=1241F
CUNEIFORM NUMERIC SIGN TWO SHAR2=12423;31U=1242D;27THIRDS DISH=1245B;34VARIANT FORM A=1245E
CUNEIFORM PUNCTUATION SIGN DIAGONAL COLON=12472;36QUADCOLON=12474;36TRICOLON=12473
CUNEIFORM PUNCTUATION SIGN OLD ASSYRIAN WORD DIVIDER=12470;27VERTICAL COLON=12471
CUNEIFORM SIGN A TIMES A=12001;23BAD=12002;23GAN2 TENU=12003;23HA=12004;23IGI=12005
CUNEIFORM SIGN A TIMES LAGAR GUNU=12006;23MUSH=12007;23SAG=12008;162=12009;16=12000;16B GUNU=12015
CUNEIFORM SIGN AB TIMES ASH2=1200B;24DUN3 GUNU=1200C;24GAL=1200D;26N2 TENU=1200E;24HA=1200F
CUNEIFORM SIGN AB TIMES IGI GUNU=12010;25MIN=12011;24LAGAB=12012;24NUN TENU=12480;27=12370
CUNEIFORM SIGN AB TIMES SHESH=12013;26U2=12481;24U PLUS U PLUS U=12014;172 TIMES A=12371
CUNEIFORM SIGN AB2 TIMES BALAG=12017;25GAN2 TENU=12018;25ME PLUS EN=12019;25SHA3=1201A
CUNEIFORM SIGN AB2 TIMES TAK4=1201B;18=12016;17=1200A;16D TIMES ESH2=12482;17=1201C
CUNEIFORM SIGN AK TIMES ERIN2=1201E;24SHITA PLUS GISH=1201F;17=1201D;16L TIMES AL=12021
CUNEIFORM SIGN AL TIMES DIM2=12022;24GISH=12023;24HA=12024;24KAD3=12025;25I=12026;24SHE=12027
CUNEIFORM SIGN AL TIMES USH=12028;17=12020;17AN=12029;17EPH=1202A;16MAR TIMES KUG=12372
CUNEIFORM SIGN AMAR TIMES SHE=1202C;19=1202B;16N OVER AN=1202E
CUNEIFORM SIGN AN PLUS NAGA OPPOSING AN PLUS NAGA=12030;28SQUARED=12031;18THREE TIMES=1202F
CUNEIFORM SIGN AN=1202D;17SHE=12032;16PIN=12033;16RAD TIMES KUR=12035;19=12034;17KAB=12036
CUNEIFORM SIGN ASAL2=12037;17H KABA TENU=1203A
CUNEIFORM SIGN ASH OVER ASH OVER ASH CROSSING ASH OVER ASH OVER ASH=1203D;36=1203C
CUNEIFORM SIGN ASH OVER ASH TUG2 OVER TUG2 TUG2 OVER TUG2 PAP=1203B;19ZIDA TENU=12039;182=1203E
CUNEIFORM SIGN ASH=12038;18GAB=1203F;15BA=12040;17D TIMES DISH TENU=12483;18=12041;17G3=12042
CUNEIFORM SIGN BAHAR2 TIMES AB2=12484;28NI=12485;28ZA=12486;21=12043;17L OVER BAL=12045;18=12044
CUNEIFORM SIGN BALAG=12046;17R=12047;18A2=12048;16I TIMES A=1204A;24GAR=1204B;24IGI GUNU=1204C
CUNEIFORM SIGN BI=12049;16U CROSSING BU=12050;18OVER BU AB=1204E;26TIMES NA2=12487;26UN=1204F
CUNEIFORM SIGN BU=1204D;17LUG OVER BULUG=12052;20=12051;17R2=12054;18=12053;15DA TIMES TAK4=12488
CUNEIFORM SIGN DA=12055;17G KISIM5 TIMES A PLUS MASH=12057;33MAR=12058;32BALAG=12059;33I=1205A
CUNEIFORM SIGN DAG KISIM5 TIMES GA PLUS MASH=1205C;34=1205B;33I=1205D;34R2=1205E;33UD=1205F
CUNEIFORM SIGN DAG KISIM5 TIMES HA=12060;32IR PLUS LU=12062;34=12061;32KAK=12063;32LA=12064
CUNEIFORM SIGN DAG KISIM5 TIMES LU PLUS MASH2=12066;34=12065;34M=12067;32NE=12068
CUNEIFORM SIGN DAG KISIM5 TIMES PAP PLUS PAP=12069;32SI=1206A;32TAK4=1206B;32U2 PLUS GIR2=1206C
CUNEIFORM SIGN DAG KISIM5 TIMES U2 PLUS MASH=12373;33SH=1206D;19TIMES KUR=12489;183=12374;18=12056
CUNEIFORM SIGN DAM=1206E;17R=1206F;18A3=12070;194=12071;16I=12072;17B=12073;17M TIMES IGI=1248A
CUNEIFORM SIGN DIM TIMES SHE=12075;25U U U=1248B;182 TIMES UD=1248C;19=12076;18=12074
CUNEIFORM SIGN DIN KASKAL U GUNU DISH=12078;18=12077;17SH PLUS SHU=12375;19=12079;16U GUNU=1207C
CUNEIFORM SIGN DU OVER DU=1207B;18SHESHIG=1207D;17=1207A;17B TIMES ESH2=1207F;25SHE=12376
CUNEIFORM SIGN DUB2=12080;18=1207E;17G TIMES ANSHE=1248D;26SH AT LEFT=1248F;28=1248E;25DIN=12490
CUNEIFORM SIGN DUG TIMES DUN=12491;25ERIN2=12492;25GA=12493;26I=12494;27R2 GUNU=12495;27SH=12496
CUNEIFORM SIGN DUG TIMES HA=12497;26I=12498;25IGI GUNU=12499;25KASKAL=1249A;26UR=1249B
CUNEIFORM SIGN DUG TIMES KUSHU2 PLUS KASKAL=1249D;31=1249C;25LAK-020=1249E;27M TIMES KUR=124A0
CUNEIFORM SIGN DUG TIMES LAM=1249F;26UH PLUS GISH=124A1;25MASH=124A2;26ES=124A3;26I=124A4
CUNEIFORM SIGN DUG TIMES NI=124A5;25PI=124A6;25SHE=124A7;26I GUNU=124A8;18=12081;18UD=12082
CUNEIFORM SIGN DUH=12083;17N3 GUNU GUNU=12087;24=12086;19=12085;184=12088;18=12084;17R2=12089
CUNEIFORM SIGN E OVER E NUN OVER NUN=1208C;17TIMES PAP=1208B;162 TIMES A PLUS HA PLUS DA=1208E
CUNEIFORM SIGN E2 TIMES GAR=1208F;24KUR=124A9;24MI=12090;24PAP=124AA;24SAL=12091;25HE=12092
CUNEIFORM SIGN E2 TIMES U=12093;17=1208D;16=1208A;16DIN=12094;16GIR=12095;16L=12096
CUNEIFORM SIGN EN CROSSING EN=1209B;18OPPOSING EN=1209C;18SQUARED=1209D;18TIMES GAN2 TENU=12099
CUNEIFORM SIGN EN TIMES GAN2=12098;24ME=1209A;17=12097;16REN=1209E;17IN2 X=124AB;20=1209F
CUNEIFORM SIGN ESH2 CROSSING ESH2=124AC;19=120A0;16ZEN SHESHIG TIMES ASH=124AD;34HI=124AE
CUNEIFORM SIGN EZEN SHESHIG TIMES IGI GUNU=124AF;34LA=124B0;36L=124B1;34ME=124B2;36S=124B3
CUNEIFORM SIGN EZEN SHESHIG TIMES SU=124B4;20TIMES A PLUS LAL TIMES LAL=120A4;36=120A3;27=120A2
CUNEIFORM SIGN EZEN TIMES AN=120A5;26BAD=120A6;26DUN3 GUNU GUNU=120A8;35=120A7;26GUD=12377
CUNEIFORM SIGN EZEN TIMES HA GUNU=120AA;28=120A9;26IGI GUNU=120AB;26KASKAL SQUARED=120AD;32=120AC
CUNEIFORM SIGN EZEN TIMES KU3=120AE;26LA=120AF;28L TIMES LAL=120B0;27I=120B1;27U=120B2;26SHE=12378
CUNEIFORM SIGN EZEN TIMES SU=124B5;26U2=120B3;27D=120B4;19=120A1;15GA GUNU=120B6
CUNEIFORM SIGN GA2 OVER GA2=120ED;19TIMES A PLUS DA PLUS HA=120B8;32HA=120B9;32IGI=120BA
CUNEIFORM SIGN GA2 TIMES AB2 TENU PLUS TAB=120BB;26N PLUS KAK PLUS A=12379;27=120BC
CUNEIFORM SIGN GA2 TIMES ASH2 PLUS GAL=120BE;29=1237A;28=120BD;25BAD=120BF;27HAR2=124B6
CUNEIFORM SIGN GA2 TIMES BAR PLUS RA=120C0;26UR PLUS RA=120C2;28=120C1;25DA=120C3;26I=120C4
CUNEIFORM SIGN GA2 TIMES DIM GUNU=124B7;29TIMES SHE=120C5;26UB=120C6;27G TIMES IGI GUNU=124B8
CUNEIFORM SIGN GA2 TIMES DUG TIMES KASKAL=124B9;25EL PLUS LA=120C8;27=120C7
CUNEIFORM SIGN GA2 TIMES EN TIMES GAN2 TENU=120CA;27=120C9;26REN=124BA;25GA=124BB;27N2 TENU=120CB
CUNEIFORM SIGN GA2 TIMES GAR PLUS DI=124BC;34NE=124BD;28=120CC;26I4 PLUS A=120CF;28=120CE;27=120CD
CUNEIFORM SIGN GA2 TIMES GIR2 PLUS SU=120D0;25HA PLUS A=124BE;33LU PLUS ESH2=120D1
CUNEIFORM SIGN GA2 TIMES HAL PLUS LA=120D3;28=120D2;26I PLUS LI=120D4;26UB2=120D5;25IGI GUNU=120D6
CUNEIFORM SIGN GA2 TIMES ISH PLUS HU PLUS ASH=120D7;25KAK=120D8;27SKAL=120D9;26ID PLUS LAL=120DB
CUNEIFORM SIGN GA2 TIMES KID=120DA;26U3 PLUS AN=120DC;27SHU2 PLUS KASKAL=124BF;25LA=120DD
CUNEIFORM SIGN GA2 TIMES LAM TIMES KUR=124C1;28=124C0;26UH=124C2;25ME PLUS EN=120DE;26I=120DF
CUNEIFORM SIGN GA2 TIMES MUSH=124C3;25NE PLUS E2=124C5;33GI=124C6;27=124C4;26UN OVER NUN=120E1
CUNEIFORM SIGN GA2 TIMES NUN=120E0;25PA=120E2;25SAL=120E3;27R=120E4;26HE PLUS TUR=120E6;28=120E5
CUNEIFORM SIGN GA2 TIMES SHID=120E7;28M=124C7;26UM=120E8;25TAK4=120E9;25U=120EA;26D PLUS DU=120EC
CUNEIFORM SIGN GA2 TIMES UD=120EB;25ZIZ2=124C8;18=120B7;17=120B5;17BA CROSSING GABA=120EF
CUNEIFORM SIGN GABA ROTATED NINETY DEGREES=124C9;19=120EE;17D OVER GAD GAR OVER GAR=120F1;18=120F0
CUNEIFORM SIGN GAL GAD OVER GAD GAR OVER GAR=120F3;18=120F2;18AM=120F4;17M=120F5
CUNEIFORM SIGN GAN2 CROSSING GAN2=120FA;20OVER GAN2=120F9;20TENU=120F8;19=120F7;18=120F6
CUNEIFORM SIGN GAR3=120FC;18=120FB;17SHAN=120FD;16E22=1237B;17SHTIN TIMES KUR=120FF;29U=124CA
CUNEIFORM SIGN GESHTIN=120FE;16I CROSSING GI=12103;18TIMES E=12101;24U=12102
CUNEIFORM SIGN GI4 CROSSING GI4=12106;19OVER GI4=12105;18=12104;17=12100;17DIM=12107;17G=1237C
CUNEIFORM SIGN GIR2 GUNU=12109;19=12108;183 TIMES A PLUS IGI=1210B;26GAN2 TENU=1210C;26IGI=1210D
CUNEIFORM SIGN GIR3 TIMES LU PLUS IGI=1210E;26PA=1210F;19=1210A;17SAL=12110
CUNEIFORM SIGN GISH CROSSING GISH=12112;20TENU=12115;21IMES BAD=12113;26GISH CROSSING GISH=124CB
CUNEIFORM SIGN GISH TIMES TAK4=12114;19=12111;16U CROSSING GU=12117;172 GUNU=1211D
CUNEIFORM SIGN GU2 TIMES IGI GUNU=124CC;25KAK TIMES IGI GUNU=1211A;28=12119;25NUN=1211B
CUNEIFORM SIGN GU2 TIMES SAL PLUS TUG2=1211C;18=12118;17=12116;17D OVER GUD LUGAL=12121
CUNEIFORM SIGN GUD PLUS GISH TIMES TAK4=124CD;19TIMES A PLUS KUR=1211F;25KUR=12120;18=1211E
CUNEIFORM SIGN GUL=12122;17M TIMES SHE=12124;18=12123;17R7=12126;18=12125;18UN=12127;19SH=12128
CUNEIFORM SIGN HA GUNU=1212B;18TENU GUNU=124CE;22=1212A;17=12129;17L=1212C
CUNEIFORM SIGN HI TIMES ASH OVER HI TIMES ASH=124CF;272=1212F;27=1212E;24BAD=12130;24DISH=12131
CUNEIFORM SIGN HI TIMES GAD=12132;24KIN=12133;24NUN=12134;24SHE=12135;24U=12136;17=1212D;16U=12137
CUNEIFORM SIGN HUB2 TIMES AN=12139;26HAL=1213A;26KASKAL=1213B;26LISH=1213C;26UD=1213D;19=12138
CUNEIFORM SIGN HUL2=1213E;17SH=1237D;15I A=12140;16=1213F;16B=12141;16DIM OVER IDIM BUR=12143
CUNEIFORM SIGN IDIM OVER IDIM SQUARED=12144;19=12142;16G=12145;17I DIB=12147;19GUNU=1214A
CUNEIFORM SIGN IGI OVER IGI SHIR OVER SHIR UD OVER UD=12149;19RI=12148;18=12146
CUNEIFORM SIGN IL TIMES GAN2 TENU=1214C;172=1214D;17=1214B;16M CROSSING IM=12150
CUNEIFORM SIGN IM OPPOSING IM=12151;18SQUARED=12152;18TIMES TAK4=1214F;17=1214E;17IN=12153
CUNEIFORM SIGN IN=12154;16R=12155;16SH=12156;15KA TIMES A=12158;25D PLUS KU3=1215A;26=12159
CUNEIFORM SIGN KA TIMES ANSHE=1237E;25SH2=1215B;273=1237F;24BAD=1215C;26LAG=1215D;26R=1215E
CUNEIFORM SIGN KA TIMES BI=1215F;25U=124D0;24ERIN2=12160;25SH2=12161;24GA=12162;26L=12163
CUNEIFORM SIGN KA TIMES GAN2 TENU=12164;26R PLUS SHA3 PLUS A=12166;27=12165;25I=12167;26R2=12168
CUNEIFORM SIGN KA TIMES GISH CROSSING GISH=1216A;29PLUS SAR=12169;28=12380;25U=1216B;26D=12381
CUNEIFORM SIGN KA TIMES GUR7=1216C;24HI TIMES ASH2=12382;24IGI=1216D;25M=1216E;24KA=124D1
CUNEIFORM SIGN KA TIMES KAK=1216F;25I=12170;26D=12171;24LI=12172;25U=12173;26M=12383
CUNEIFORM SIGN KA TIMES ME PLUS DU=12175;32GI=12176;32TE=12177;26=12174;25I PLUS NUNUZ=12179
CUNEIFORM SIGN KA TIMES MI=12178;24NE=1217A;25UN=1217B;24PA=12384;25I=1217C;24RU=1217D;24SA=1217E
CUNEIFORM SIGN KA TIMES SAR=1217F;25HA=12180;26E=12181;26ID=12182;26U=12183;27L=12385;25IG=12184
CUNEIFORM SIGN KA TIMES SUHUR=12185;24TAR=12186;25U=12386;24U U U=124D2;252=12188;25=12187
CUNEIFORM SIGN KA TIMES UD=12189;25MUM TIMES PA=1218A;25R2=12387;26=124D3;25SH=1218B;24ZI=1218C
CUNEIFORM SIGN KA2 CROSSING KA2=1218E;18=1218D;17=12157;17B=1218F;17D2=12190;183=12191;184=12192
CUNEIFORM SIGN KAD5 OVER KAD5=12194;19=12193;17K TIMES IGI GUNU=12196;18=12195
CUNEIFORM SIGN KAL CROSSING KAL=12199;19TIMES BAD=12198;18=12197;17M2=1219A;184=1219B
CUNEIFORM SIGN KAP ELAMITE=1236F;17SKAL LAGAB TIMES U OVER LAGAB TIMES U=1219D
CUNEIFORM SIGN KASKAL OVER KASKAL LAGAB TIMES U OVER LAGAB TIMES U=1219E;21=1219C;16ESH2=1219F
CUNEIFORM SIGN KI TIMES BAD=121A1;24U=121A2;25D=121A3;17=121A0;17D=121A4;17N=121A5;17SAL=121A6
CUNEIFORM SIGN KISH=121A7;18IM5 OVER KISIM5=121A9;21=121A8
CUNEIFORM SIGN KU OVER HI TIMES ASH2 KU OVER HI TIMES ASH2=121AB;173=121AC;174 VARIANT FORM=121AE
CUNEIFORM SIGN KU4=121AD;177=121AF;17=121AA;17L GUNU=121B1;18=121B0;17N=121B2
CUNEIFORM SIGN KUR OPPOSING KUR=121B4;18=121B3;17SHU2=121B5;16WU318=121B6;15LA=121B7
CUNEIFORM SIGN LAGAB SQUARED=121EB;21TIMES A PLUS DA PLUS HA=121BA;34GAR=121BB;34LAL=121BC
CUNEIFORM SIGN LAGAB TIMES A=121B9;28L=121BD;28N=121BE;28SH ZIDA TENU=121BF;27BAD=121C0;28I=121C1
CUNEIFORM SIGN LAGAB TIMES DAR=121C2;27EN=121C3;27GA=121C4;29R=121C5;28I=12388;28UD PLUS GUD=121C7
CUNEIFORM SIGN LAGAB TIMES GUD=121C6;27HA=121C8;29L=121C9;28I TIMES NUN=121CA;27IGI GUNU=121CB
CUNEIFORM SIGN LAGAB TIMES IM PLUS HA=121CD;35LU=121CE;29=121CC;27KI=121CF;29N=121D0;28U3=121D1
CUNEIFORM SIGN LAGAB TIMES KUL PLUS HI PLUS A=121D3;30=121D2;27LAGAB=121D4;28ISH=121D5;28U=121D6
CUNEIFORM SIGN LAGAB TIMES LUL=121D7;27ME PLUS EN=121D9;29=121D8;28USH=121DA;27NE=121DB
CUNEIFORM SIGN LAGAB TIMES SHE PLUS SUM=121DC;29ITA PLUS GISH PLUS ERIN2=121DD;43TENU=121DE
CUNEIFORM SIGN LAGAB TIMES SHU2 PLUS SHU2=121E0;31=121DF;28UM=121E1;27TAG=121E2;29K4=121E3
CUNEIFORM SIGN LAGAB TIMES TE PLUS A PLUS SU PLUS NA=121E4;27U PLUS A=121E6;34U PLUS U=121E7
CUNEIFORM SIGN LAGAB TIMES U2 PLUS ASH=121E8;28=121E5;28D=121E9;28SH=121EA;27ZU OVER ZU=124D4
CUNEIFORM SIGN LAGAB=121B8;19R GUNU OVER LAGAR GUNU SHE=121F0;25=121EF;21TIMES SHE PLUS SUM=121EE
CUNEIFORM SIGN LAGAR TIMES SHE=121ED;20=121EC;17HSHU=121F1;17K-003=124D5;2021=124D6;215=124D7
CUNEIFORM SIGN LAK-030=124D8;2050=124D9;211=124DA;2062=124DB;2079 OVER LAK-079 GUNU=124DC
CUNEIFORM SIGN LAK-080=124DD;211 OVER LAK-081=124DE;2092=124DF;19130=124E0;2042=124E1;19210=124E2
CUNEIFORM SIGN LAK-219=124E3;2020=124E4;215=124E5;218=124E6;2038=124E7;2065=124E8;216=124E9
CUNEIFORM SIGN LAK-343=124EA;217=124EB;218=124EC;2083=124ED;214=124EE;2090=124EF;19441=124F0
CUNEIFORM SIGN LAK-449 TIMES GU=124F2;29IGI=124F3;29PAP PLUS LU3=124F4;38PAP PLUS LU3=124F5
CUNEIFORM SIGN LAK-449 TIMES U2 PLUS BA=124F6;22=124F1;2050=124F7;217=124F8;2070=124F9;2083=124FA
CUNEIFORM SIGN LAK-490=124FB;212=124FC;213=124FD;215=124FE;19550=124FF;19608=12500
CUNEIFORM SIGN LAK-617 TIMES ASH=12502;29BAD=12503;29DUN3 GUNU GUNU=12504;29KU3=12505;29LA=12506
CUNEIFORM SIGN LAK-617 TIMES TAR=12507;30E=12508;29U2=12509;30D=1250A;30RUDA=1250B;22=12501
CUNEIFORM SIGN LAK-636=1250C;2048 TIMES DUB=1250E;29GA=1250F;29IGI GUNU=12511;32=12510;29NI=12512
CUNEIFORM SIGN LAK-648 TIMES PAP PLUS PAP PLUS LU3=12513;29SHESH PLUS KI=12514;29UD=12515
CUNEIFORM SIGN LAK-648 TIMES URUDA=12516;22=1250D;19724=12517;2049=12518;17L TIMES LAL=121F3
CUNEIFORM SIGN LAL=121F2;17M TIMES KUR PLUS RU=121F6;28=121F5;18=121F4;16I=121F7;17L=121F8
CUNEIFORM SIGN LIMMU2=121F9;17SH=121FA;16U TIMES BAD=121FC;172 CROSSING LU2=12212
CUNEIFORM SIGN LU2 GUNU TIMES ASH=12519;19OPPOSING LU2=12213;19SHESHIG TIMES BAD=12389;26=12215
CUNEIFORM SIGN LU2 SQUARED=12214;19TENU=12211;20IMES AL=121FE;25BAD=121FF;25DISH=1251A
CUNEIFORM SIGN LU2 TIMES ESH2 PLUS LAL=1238A;30TENU=12201;29=12200;25GAN2 TENU=12202;25HAL=1251B
CUNEIFORM SIGN LU2 TIMES HI TIMES BAD=12203;25IM=12204;25KAD2=12205;283 PLUS ASH=12207;29=12206
CUNEIFORM SIGN LU2 TIMES KI=12208;25LA PLUS ASH=12209;27GAB=1220A;25ME PLUS EN=1220B;25NE=1220C
CUNEIFORM SIGN LU2 TIMES NU=1220D;25PAP PLUS PAP PLUS LU3=1251D;28=1251C;25SHU=1238B
CUNEIFORM SIGN LU2 TIMES SI PLUS ASH=1220E;27K2 PLUS BU=1220F;25TAK4=1251E;26UG2=12210;18=121FD
CUNEIFORM SIGN LU3=12216;17=121FB;17GAL OPPOSING LUGAL=12219;22VER LUGAL=12218;21SHESHIG=1221A
CUNEIFORM SIGN LUGAL=12217;17H=1221B;17L=1221C;17M OVER LUM GAR OVER GAR=1221F;27=1221E;18=1221D
CUNEIFORM SIGN MA GUNU=12222;18TIMES TAK4=12221;172=12223;17=12220;17H=12224;17R=12225;17SH2=12227
CUNEIFORM SIGN MASH=12226;16E=12228;17S=12229;18H=1238C;16I PLUS ZA7=1251F;17=1222A;17N=1222B
CUNEIFORM SIGN MU OVER MU=1222D;17=1222C;17G GUNU=1222F;18=1222E;17NSUB=12230;17RGU2=12231
CUNEIFORM SIGN MUSH CROSSING MUSH=12238;20OVER MUSH TIMES A PLUS NA=12237;36GA=12520;36KAK=12521
CUNEIFORM SIGN MUSH OVER MUSH=12236;20TIMES A=12233;26KUR=12234;26ZA=12235;193 GUNU=1223D
CUNEIFORM SIGN MUSH3 TIMES A PLUS DI=1223B;28=1223A;27DI=1223C;27ZA=1238D;20=12239;19=12232
CUNEIFORM SIGN NA2=1223F;174=1238E;17=1223E;17GA INVERTED=12241;20OPPOSING NAGA=12243
CUNEIFORM SIGN NAGA TIMES SHU TENU=12242;19=12240;19R=12244;17M NUTILLU=12245;182=12247;18=12246
CUNEIFORM SIGN NE SHESHIG=1224B;18TIMES A=12249;24UD=1224A;17=12248;16I TIMES E=1224D;172=1224E
CUNEIFORM SIGN NI=1224C;17M TIMES GAN2 TENU=12250;27R PLUS GAN2 TENU=12251;18=1224F;17N9=12390
CUNEIFORM SIGN NIN=1238F;18DA2 TIMES AN=12253;29SH PLUS ASH=12255;31=12254;28BAL=12391
CUNEIFORM SIGN NINDA2 TIMES DIM GUNU=12522;28GI=12392;30SH=12523;29UD=12256;30L=12524;28HI=12525
CUNEIFORM SIGN NINDA2 TIMES KESH2=12526;28LAK-050=12527;28MASH=12528;29E PLUS GAN2 TENU=12257
CUNEIFORM SIGN NINDA2 TIMES NE=12258;29UN=12259;28PAP PLUS PAP=12529;28SHE PLUS A AN=1225B
CUNEIFORM SIGN NINDA2 TIMES SHE PLUS ASH PLUS ASH=1225D;40=1225C;31=1225A;28U PLUS U=1252B
CUNEIFORM SIGN NINDA2 TIMES U2 PLUS ASH=1225E;29=1252A;29RUDA=1252C;29SH=1225F;21=12252
CUNEIFORM SIGN NISAG=12260;16U11 OVER NU11 BUR OVER BUR=122D5;20ROTATED NINETY DEGREES=12393
CUNEIFORM SIGN NU11 TENU=122D4;19=12262;17=12261;17N CROSSING NUN LAGAR OVER LAGAR=1226C;31=1226B
CUNEIFORM SIGN NUN LAGAR TIMES GAR=12264;31MASH=12265;31SAL OVER NUN LAGAR TIMES SAL=12267
CUNEIFORM SIGN NUN LAGAR TIMES SAL=12266;31USH=12268;19OVER NUN=1226A;19TENU=12269;18=12263
CUNEIFORM SIGN NUNUZ AB2 TIMES ASHGAB=1226E;31BI=1226F;31DUG=12270;31GUD=12271;31IGI GUNU=12272
CUNEIFORM SIGN NUNUZ AB2 TIMES KAD3=12273;31LA=12274;31NE=12275;31SILA3=12276;31U2=12277
CUNEIFORM SIGN NUNUZ KISIM5 TIMES BI U=12279;36=12278;20=1226D;15PA=1227A;17D=1227B;17N=1227C
CUNEIFORM SIGN PAP=1227D;16ESH2 ASTERISK=12394;20=1227E;16I CROSSING PI=12289;18TIMES A=12280
CUNEIFORM SIGN PI TIMES AB=12281;24BI=12282;25U=12283;24E=12284;24I=12285;25B=12286;24U2=12288
CUNEIFORM SIGN PI TIMES U=12287;17=1227F;17R2=12395;18IG OPPOSING PIRIG=1228E;21TIMES KAL=1228B
CUNEIFORM SIGN PIRIG TIMES UD=1228C;27ZA=1228D;20=1228A;15RA=1228F;17B=12290;16I=12291;16U=12292
CUNEIFORM SIGN SA=12293;17G GUNU TIMES HA=1252D;23=122A8;19NUTILLU=12294;19OVER SAG=122A7
CUNEIFORM SIGN SAG TIMES A=12296;25DU=12297;27B=12298;25EN=1252E;25HA=12299;25IGI GUNU=12396
CUNEIFORM SIGN SAG TIMES KAK=1229A;26UR=1229B;25LUM=1229C;25MI=1229D;25NUN=1229E;25SAL=1229F
CUNEIFORM SIGN SAG TIMES SHE AT LEFT=1252F;27ID=122A0;25TAB=122A1;27K4=12530;25U2=122A2;26B=122A3
CUNEIFORM SIGN SAG TIMES UM=122A4;26R=122A5;26SH=122A6;18=12295;17L LAGAB TIMES ASH2=122AA
CUNEIFORM SIGN SAL=122A9;17NGA2=122AB;17R=122AC;16HA3 TIMES A=122AF;26BAD=122B0;26GISH=122B1
CUNEIFORM SIGN SHA3 TIMES NE=122B2;26SHU2=122B3;26TUR=122B4;26U PLUS A=122B6;27=122B5;19=122AE
CUNEIFORM SIGN SHA6 TENU=12531;19=122B7;18=122AD;18B6=122B8;18R2=122B9;17E HU=122BB
CUNEIFORM SIGN SHE OVER SHE GAD OVER GAD GAR OVER GAR=122BC;28TAB OVER TAB GAR OVER GAR=122BD
CUNEIFORM SIGN SHE OVER SHE=12532;19PLUS HUB2=12533;24NAM2=12534;24SAR=12535;18=122BA;18G9=122BE
CUNEIFORM SIGN SHEN=122BF;18SH2=122C1;20=122C0;20LAM=122C2;17ID TIMES A=122C4;26IM=122C5;19=122C3
CUNEIFORM SIGN SHIM TIMES A=122C7;26BAL=122C8;27ULUG=122C9;26DIN=122CA;26GAR=122CB
CUNEIFORM SIGN SHIM TIMES IGI GUNU=122CD;29=122CC;26KUSHU2=122CE;26LUL=122CF;26MUG=122D0
CUNEIFORM SIGN SHIM TIMES SAL=122D1;19=122C6;18NIG=122D2;18R OVER SHIR BUR OVER BUR=122D5
CUNEIFORM SIGN SHIR TENU=122D4;19=122D3;18TA=122D6;17U OVER INVERTED SHU=122D8
CUNEIFORM SIGN SHU2 PLUS DUG TIMES NI=12536;25E2 TIMES AN=12537;19=122D9;18=122D7;18BUR=122DA
CUNEIFORM SIGN SI GUNU=122DC;18TIMES TAK4=12538;17=122DB;17G4 OVER SIG4 SHU2=122DF;19=122DE
CUNEIFORM SIGN SIG=122DD;17K2=122E0;17LA3=122E1;16U OVER SU=122E3;17=122E2;17D2=122E5;18=122E4
CUNEIFORM SIGN SUHUR=122E6;17M=122E7;18ASH=122E8;17R9=122EA;18=122E9;15TA ASTERISK=122EC
CUNEIFORM SIGN TA GUNU=122EF;18TIMES HI=122ED;24MI=122EE;17=122EB
CUNEIFORM SIGN TAB OVER TAB NI OVER NI DISH OVER DISH=122F1;19SQUARED=122F2;18=122F0
CUNEIFORM SIGN TAG TIMES BI=122F4;25GUD=122F5;25SHE=122F6;27U=122F7;25TUG2=122F8;25UD=122F9
CUNEIFORM SIGN TAG=122F3;17K4 PLUS SAG=12539;19=122FA;17R=122FB;16E GUNU=122FD;17=122FC
CUNEIFORM SIGN TI TENU=122FF;172=12397;17=122FE;17L=12300
CUNEIFORM SIGN TIR OVER TIR GAD OVER GAD GAR OVER GAR=12304;27=12303;19TIMES TAK4=12302;18=12301
CUNEIFORM SIGN TU=12305;17G2=12306;17K=12307;17M TIMES GAN2 TENU=1253A;25THREE DISH=1253B;18=12308
CUNEIFORM SIGN TUR OVER TUR ZA OVER ZA=1230A;18=12309;15U GUD=1230C
CUNEIFORM SIGN U OVER U PA OVER PA GAR OVER GAR=1230E;24SUR OVER SUR=1230F
CUNEIFORM SIGN U OVER U U REVERSED OVER U REVERSED=12310;17U U=1230D;18=12399;162=12311;16=1230B
CUNEIFORM SIGN UB=12312;16D GUNU=12319;18KUSHU2=12314;18SHESHIG TIMES BAD=1231B;25=1231A
CUNEIFORM SIGN UD TIMES BAD=12315;24MI=12316;24U PLUS U PLUS U GUNU=12318;39=12317;17=12313
CUNEIFORM SIGN UDUG=1231C;16M TIMES LAGAB=1231E;24ME PLUS DA=1231F;26=12398;24SHA3=12320;24U=12321
CUNEIFORM SIGN UM=1231D;17BIN=12322;17UM TIMES KASKAL=12324;26PA=12325;19=12323;16N GUNU=12327
CUNEIFORM SIGN UN=12326;16R CROSSING UR=12329;18SHESHIG=1232A;172 INVERTED=1253C
CUNEIFORM SIGN UR2 TIMES A PLUS HA=1232C;32NA=1232D;26L=1232E;25HA=1232F;25NUN=12330
CUNEIFORM SIGN UR2 TIMES U2 PLUS ASH=12332;33BI=12333;27=12331;26D=1253D;18=1232B;174=12334
CUNEIFORM SIGN UR=12328;17I3=12336;18=12335;17U TIMES A=12338;26SHGAB=12339;25BAR=1233A
CUNEIFORM SIGN URU TIMES DARA3=1253E;26UN=1233B;25GA=1233C;27L=1233D;27N2 TENU=1233E;27R=1233F
CUNEIFORM SIGN URU TIMES GU=12340;25HA=12341;25IGI=12342;26M=12343;26SH=12344;25KI=12345
CUNEIFORM SIGN URU TIMES LAK-668=1253F;26U3=12540;27M=12346;25MIN=12347;25PA=12348;25SHE=12349
CUNEIFORM SIGN URU TIMES SIG4=1234A;25TU=1234B;25U PLUS GUD=1234C;26D=1234D;26RUDA=1234E;18=12337
CUNEIFORM SIGN URUDA TIMES U=12350;20=1234F;16SH TIMES A=12352;25KU=12353;27R=12354;25TAK4=12355
CUNEIFORM SIGN USH2=12357;18=12351;18UMX=12358;18X=12356;16TUKI=12359;16Z3 TIMES KASKAL=1235B
CUNEIFORM SIGN UZ3=1235A;17U=1235C;15ZA SQUARED TIMES KUR=1235F;18TENU=1235E;177=12541;17=1235D
CUNEIFORM SIGN ZAG=12360;17MX=12361;16E2=12362;16I OVER ZI=12364;173=12365;17=12363
CUNEIFORM SIGN ZIB KABA TENU=12367;18=12366;17G=12368;17Z2=12369;16U OVER ZU PLUS SAR=12542
CUNEIFORM SIGN ZU5 TIMES A=1236C;25THREE DISH TENU=12543;18=1236B;17=1236A;17BUR=1236D;17M=1236E
CUP ON BLACK SQUARE=26FE;04WITH STRAW=1F964;03CAKE=1F9C1;03IDO=2BE0;02RLING STONE=1F94C
CURLY BRACKET EXTENSION=23AA;06LOGICAL AND=22CF;14OR=22CE;08OP=27B0;03RENCY EXCHANGE=1F4B1
CURRENCY SIGN=A4;04Y AND RICE=1F35B;03VED STEM PARAGRAPH SIGN ORNAMENT=2761;02STARD=1F36E
CUSTOMS=1F6C3;02T OF MEAT=1F969;01YCLONE=1F300;02LINDRICITY=232D;02PRIOT SYLLABLE A=10800
CYPRIOT SYLLABLE E=10801;17I=10802;17JA=10805;18O=10808;17KA=1080A;18E=1080B;18I=1080C;18O=1080D
CYPRIOT SYLLABLE KU=1080E;17LA=1080F;18E=10810;18I=10811;18O=10812;18U=10813;17MA=10814;18E=10815
CYPRIOT SYLLABLE MI=10816;18O=10817;18U=10818;17NA=10819;18E=1081A;18I=1081B;18O=1081C;18U=1081D
CYPRIOT SYLLABLE O=10803;17PA=1081E;18E=1081F;18I=10820;18O=10821;18U=10822;17RA=10823;18E=10824
CYPRIOT SYLLABLE RI=10825;18O=10826;18U=10827;17SA=10828;18E=10829;18I=1082A;18O=1082B;18U=1082C
CYPRIOT SYLLABLE TA=1082D;18E=1082E;18I=1082F;18O=10830;18U=10831;17U=10804;17WA=10832;18E=10833
CYPRIOT SYLLABLE WI=10834;18O=10835;17XA=10837;18E=10838;17ZA=1083C;18O=1083F
CYPRO-MINOAN SIGN CM001=12F90;222=12F91;224=12F92;225=12F93;226=12F94;227=12F95;228=12F96
CYPRO-MINOAN SIGN CM009=12F97;2110=12F98;221=12F99;222=12F9A;23B=12F9B;223=12F9C;225=12F9D
CYPRO-MINOAN SIGN CM017=12F9E;229=12F9F;2121=12FA0;223=12FA1;224=12FA2;225=12FA3;226=12FA4
CYPRO-MINOAN SIGN CM027=12FA5;228=12FA6;229=12FA7;2130=12FA8;223=12FA9;224=12FAA;225=12FAB
CYPRO-MINOAN SIGN CM036=12FAC;227=12FAD;228=12FAE;229=12FAF;2140=12FB0;221=12FB1;224=12FB2
CYPRO-MINOAN SIGN CM046=12FB3;227=12FB4;229=12FB5;2150=12FB6;221=12FB7;222=12FB8;223=12FB9
CYPRO-MINOAN SIGN CM054=12FBA;225=12FBB;226=12FBC;228=12FBD;229=12FBE;2160=12FBF;221=12FC0
CYPRO-MINOAN SIGN CM062=12FC1;223=12FC2;224=12FC3;226=12FC4;227=12FC5;228=12FC6;229=12FC7
CYPRO-MINOAN SIGN CM070=12FC8;221=12FC9;222=12FCA;223=12FCB;224=12FCC;225=12FCD;23B=12FCE
CYPRO-MINOAN SIGN CM076=12FCF;228=12FD0;229=12FD1;2180=12FD2;221=12FD3;222=12FD4;223=12FD5
CYPRO-MINOAN SIGN CM084=12FD6;225=12FD7;226=12FD8;227=12FD9;228=12FDA;229=12FDB;2190=12FDC
CYPRO-MINOAN SIGN CM091=12FDD;222=12FDE;224=12FDF;225=12FE0;226=12FE1;227=12FE2;228=12FE3
CYPRO-MINOAN SIGN CM099=12FE4;20100=12FE5;221=12FE6;222=12FE7;223=12FE8;224=12FE9;225=12FEA
CYPRO-MINOAN SIGN CM107=12FEB;228=12FEC;229=12FED;2110=12FEE;222=12FEF;224=12FF0;20301=12FF1
CYPRO-MINOAN SIGN CM302=12FF2;02RILLIC CAPITAL LETTER A WITH BREVE=4D0;31DIAERESIS=4D2;25=410
CYRILLIC CAPITAL LETTER ABKHASIAN CHE WITH DESCENDER=4BE;37=4BC;34DZE=4E0;34HA=4A8;25LEUT KA=51E
CYRILLIC CAPITAL LETTER BARRED O WITH DIAERESIS=4EA;32=4E8;26SHKIR KA=4A0;25E=411;25IG YUS=46A
CYRILLIC CAPITAL LETTER BINOCULAR O=A66A;25LENDED YUS=A65A;25ROAD OMEGA=A64C
CYRILLIC CAPITAL LETTER BYELORUSSIAN-UKRAINIAN I=406;24CCHE=A686;25HE WITH DESCENDER=4B6
CYRILLIC CAPITAL LETTER CHE WITH DIAERESIS=4F4;33VERTICAL STROKE=4B8;27=427
CYRILLIC CAPITAL LETTER CLOSED LITTLE YUS=A658;25ROSSED O=A69A;24DCHE=52C;25E=414;25JE=402
CYRILLIC CAPITAL LETTER DJERV=A648;25OUBLE MONOCULAR O=A66C;31O=A698;25WE=A680;25ZE=405;27LO=A642
CYRILLIC CAPITAL LETTER DZHE=40F;26WE=A682;26ZE=A688;27HE=52A;24E WITH DIAERESIS=4EC;25=42D
CYRILLIC CAPITAL LETTER EF=424;25L WITH DESCENDER=52E;32HOOK=512;32MIDDLE HOOK=520;32TAIL=4C5
CYRILLIC CAPITAL LETTER EL=41B;25M WITH TAIL=4CD;26=41C;25N WITH DESCENDER=4A2;32HOOK=4C7
CYRILLIC CAPITAL LETTER EN WITH LEFT HOOK=528;32MIDDLE HOOK=522;32TAIL=4C9;26=41D
CYRILLIC CAPITAL LETTER ER WITH TICK=48E;26=420;25S WITH DESCENDER=4AA;26=421;24FITA=472
CYRILLIC CAPITAL LETTER GHE WITH DESCENDER=4F6;33MIDDLE HOOK=494;33STROKE AND HOOK=4FA;39=492
CYRILLIC CAPITAL LETTER GHE WITH UPTURN=490;27=413;25JE=403;24HA WITH DESCENDER=4B2;32HOOK=4FC
CYRILLIC CAPITAL LETTER HA WITH STROKE=4FE;26=425;26RD SIGN=42A;25WE=A694;24I WITH DIAERESIS=4E4
CYRILLIC CAPITAL LETTER I WITH GRAVE=40D;31MACRON=4E2;25=418;25E WITH BREVE=4D6;32GRAVE=400;26=415
CYRILLIC CAPITAL LETTER IO=401;26TA=A646;27IFIED A=A656;33BIG YUS=46C;33CLOSED LITTLE YUS=A65C
CYRILLIC CAPITAL LETTER IOTIFIED E=464;33LITTLE YUS=468;33YAT=A652
CYRILLIC CAPITAL LETTER IZHITSA WITH DOUBLE GRAVE ACCENT=476;31=474;24JE=408
CYRILLIC CAPITAL LETTER KA WITH DESCENDER=49A;32HOOK=4C3;32STROKE=49E;32VERTICAL STROKE=49C;26=41A
CYRILLIC CAPITAL LETTER KHAKASSIAN CHE=4CB;25JE=40C;25OMI DE=500;30JE=502;30ZJE=506;29LJE=508
CYRILLIC CAPITAL LETTER KOMI NJE=50A;29SJE=50C;29TJE=50E;29ZJE=504;26PPA=480;25SI=46E;24LHA=514
CYRILLIC CAPITAL LETTER LITTLE YUS=466;25JE=409;24MONOCULAR O=A668;28GRAPH UK=A64A
CYRILLIC CAPITAL LETTER NEUTRAL YER=A64E;25JE=40A;24O WITH DIAERESIS=4E6;25=41E
CYRILLIC CAPITAL LETTER OMEGA WITH TITLO=47C;29=460;25T=47E;24PE WITH DESCENDER=524
CYRILLIC CAPITAL LETTER PE WITH MIDDLE HOOK=4A6;26=41F;25SI=470;24QA=51A;24REVERSED DZE=A644
CYRILLIC CAPITAL LETTER REVERSED TSE=A660;33YU=A654;33ZE=510;25HA=516;25OUND OMEGA=47A
CYRILLIC CAPITAL LETTER SCHWA WITH DIAERESIS=4DA;29=4D8;25EMISOFT SIGN=48C;25HA=428;26CHA=429
CYRILLIC CAPITAL LETTER SHHA WITH DESCENDER=526;28=4BA;26ORT I WITH TAIL=48A;31=419;30U=40E
CYRILLIC CAPITAL LETTER SHWE=A696;25OFT DE=A662;29EL=A664;30M=A666;29SIGN=42C
CYRILLIC CAPITAL LETTER STRAIGHT U WITH STROKE=4B0;34=4AE;24TCHE=A692;25E WITH DESCENDER=4AC
CYRILLIC CAPITAL LETTER TE WITH MIDDLE HOOK=A68A;26=422;25SE=426;26HE=40B;26SE=A690;26WE=A68E
CYRILLIC CAPITAL LETTER TWE=A68C;24U WITH DIAERESIS=4F0;32OUBLE ACUTE=4F2;31MACRON=4EE;25=423
CYRILLIC CAPITAL LETTER UK=478;26RAINIAN IE=404;24VE=412;24WE=51C;24YA=42F;26E=518;26T=462
CYRILLIC CAPITAL LETTER YERU WITH BACK YER=A650;34DIAERESIS=4F8;28=42B;25I=407;25N=A65E;25U=42E
CYRILLIC CAPITAL LETTER ZE WITH DESCENDER=498;33IAERESIS=4DE;26=417;26MLYA=A640
CYRILLIC CAPITAL LETTER ZHE WITH BREVE=4C1;33DESCENDER=496;34IAERESIS=4DC;27=416;26WE=A684
CYRILLIC CAPITAL LIGATURE A IE=4D4;26EN GHE=4A4;26TE TSE=4B4;09KAVYKA=A67E
CYRILLIC LETTER MULTIOCULAR O=A66E;16PALOCHKA=4C0;16SMALL CAPITAL EL=1D2B;09PAYEROK=A67F
CYRILLIC SMALL LETTER A WITH BREVE=4D1;29DIAERESIS=4D3;23=430;23BKHASIAN CHE WITH DESCENDER=4BF
CYRILLIC SMALL LETTER ABKHASIAN CHE=4BD;32DZE=4E1;32HA=4A9;23LEUT KA=51F
CYRILLIC SMALL LETTER BARRED O WITH DIAERESIS=4EB;30=4E9;24SHKIR KA=4A1;23E=431;23IG YUS=46B
CYRILLIC SMALL LETTER BINOCULAR O=A66B;23LENDED YUS=A65B;23ROAD OMEGA=A64D
CYRILLIC SMALL LETTER BYELORUSSIAN-UKRAINIAN I=456;22CCHE=A687;23HE WITH DESCENDER=4B7
CYRILLIC SMALL LETTER CHE WITH DIAERESIS=4F5;31VERTICAL STROKE=4B9;25=447;23LOSED LITTLE YUS=A659
CYRILLIC SMALL LETTER CROSSED O=A69B;22DCHE=52D;23E=434;23JE=452;25RV=A649
CYRILLIC SMALL LETTER DOUBLE MONOCULAR O=A66D;29O=A699;23WE=A681;23ZE=455;25LO=A643;24HE=45F
CYRILLIC SMALL LETTER DZWE=A683;24ZE=A689;25HE=52B;22E WITH DIAERESIS=4ED;23=44D;23F=444
CYRILLIC SMALL LETTER EL WITH DESCENDER=52F;30HOOK=513;30MIDDLE HOOK=521;30TAIL=4C6;24=43B
CYRILLIC SMALL LETTER EM WITH TAIL=4CE;24=43C;23N WITH DESCENDER=4A3;30HOOK=4C8;30LEFT HOOK=529
CYRILLIC SMALL LETTER EN WITH MIDDLE HOOK=523;30TAIL=4CA;24=43D;23R WITH TICK=48F;24=440
CYRILLIC SMALL LETTER ES WITH DESCENDER=4AB;24=441;22FITA=473;22GHE WITH DESCENDER=4F7
CYRILLIC SMALL LETTER GHE WITH MIDDLE HOOK=495;31STROKE AND HOOK=4FB;37=493;31UPTURN=491;25=433
CYRILLIC SMALL LETTER GJE=453;22HA WITH DESCENDER=4B3;30HOOK=4FD;30STROKE=4FF;24=445;24RD SIGN=44A
CYRILLIC SMALL LETTER HWE=A695;22I WITH DIAERESIS=4E5;29GRAVE=45D;29MACRON=4E3;23=438
CYRILLIC SMALL LETTER IE WITH BREVE=4D7;30GRAVE=450;24=435;23O=451;24TA=A647;25IFIED A=A657
CYRILLIC SMALL LETTER IOTIFIED BIG YUS=46D;31CLOSED LITTLE YUS=A65D;31E=465;31LITTLE YUS=469
CYRILLIC SMALL LETTER IOTIFIED YAT=A653;23ZHITSA WITH DOUBLE GRAVE ACCENT=477;29=475;22JE=458
CYRILLIC SMALL LETTER KA WITH DESCENDER=49B;30HOOK=4C4;30STROKE=49F;30VERTICAL STROKE=49D;24=43A
CYRILLIC SMALL LETTER KHAKASSIAN CHE=4CC;23JE=45C;23OMI DE=501;28JE=503;28ZJE=507;27LJE=509
CYRILLIC SMALL LETTER KOMI NJE=50B;27SJE=50D;27TJE=50F;27ZJE=505;24PPA=481;23SI=46F;22LHA=515
CYRILLIC SMALL LETTER LITTLE YUS=467;23JE=459;23ONG-LEGGED DE=1C81;22MONOCULAR O=A669
CYRILLIC SMALL LETTER MONOGRAPH UK=A64B;22NARROW O=1C82;23EUTRAL YER=A64F;23JE=45A
CYRILLIC SMALL LETTER O WITH DIAERESIS=4E7;23=43E;23MEGA WITH TITLO=47D;27=461;23T=47F
CYRILLIC SMALL LETTER PALOCHKA=4CF;23E WITH DESCENDER=525;30MIDDLE HOOK=4A7;24=43F;23SI=471
CYRILLIC SMALL LETTER QA=51B;22REVERSED DZE=A645;31TSE=A661;31YU=A655;31ZE=511;23HA=517
CYRILLIC SMALL LETTER ROUND OMEGA=47B;27ED VE=1C80;22SCHWA WITH DIAERESIS=4DB;27=4D9
CYRILLIC SMALL LETTER SEMISOFT SIGN=48D;23HA=448;24CHA=449;24HA WITH DESCENDER=527;26=4BB
CYRILLIC SMALL LETTER SHORT I WITH TAIL=48B;29=439;28U=45E;24WE=A697;23OFT DE=A663;27EL=A665
CYRILLIC SMALL LETTER SOFT EM=A667;27SIGN=44C;23TRAIGHT U WITH STROKE=4B1;32=4AF
CYRILLIC SMALL LETTER TALL HARD SIGN=1C86;27TE=1C84;27YAT=1C87;23CHE=A693;23E WITH DESCENDER=4AD
CYRILLIC SMALL LETTER TE WITH MIDDLE HOOK=A68B;24=442;23HREE-LEGGED TE=1C85;23SE=446;24HE=45B
CYRILLIC SMALL LETTER TSSE=A691;24WE=A68F;23WE=A68D;22U WITH DIAERESIS=4F1;30OUBLE ACUTE=4F3
CYRILLIC SMALL LETTER U WITH MACRON=4EF;23=443;23K=479;24RAINIAN IE=454;23NBLENDED UK=1C88
CYRILLIC SMALL LETTER VE=432;22WE=51D;23IDE ES=1C83;22YA=44F;24E=519;24T=463
CYRILLIC SMALL LETTER YERU WITH BACK YER=A651;32DIAERESIS=4F9;26=44B;23I=457;23N=A65F;23U=44E
CYRILLIC SMALL LETTER ZE WITH DESCENDER=499;31IAERESIS=4DF;24=437;24MLYA=A641;23HE WITH BREVE=4C2
CYRILLIC SMALL LETTER ZHE WITH DESCENDER=497;32IAERESIS=4DD;25=436;24WE=A685;16IGATURE A IE=4D5
CYRILLIC SMALL LIGATURE EN GHE=4A5;24TE TSE=4B5;09THOUSANDS SIGN=482;00DAGGER KNIFE=1F5E1
DAGGER WITH LEFT GUARD=2E36;12RIGHT GUARD=2E37;06=2020;02LET SYMBOL=2138;02NCER=1F483;03GO=1F361
DARK SHADE=2593;06UNGLASSES=1F576;02SH SYMBOL=1F4A8;05WITH LEFT UPTURN=2E43;04ED LOW LINE=FE4D
DASHED OVERLINE=FE49;07TRIANGLE-HEADED RIGHTWARDS ARROW=279F;02TA LINK ESCAPE=10;01C1=11;022=12
DC3=13;024=14;02S=90;01EAF PERSON=1F9CF;02CIDUOUS TREE=1F333;04MAL EXPONENT SYMBOL=23E8
DECIMAL SEPARATOR KEY SYMBOL=2396;03REASE FONT SIZE SYMBOL=1F5DB;02ER=1F98C;02GREE CELSIUS=2103
DEGREE FAHRENHEIT=2109;07SIGN=B0;02L=7F;03ETE=7F;03IVERY TRUCK=1F69A;03TA EQUAL TO=225C
DENTISTRY SYMBOL LIGHT DOWN AND HORIZONTAL WITH CIRCLE=23C1;48TRIANGLE=23C4;48WAVE=23C7;42=23C9
DENTISTRY SYMBOL LIGHT UP AND HORIZONTAL WITH CIRCLE=23C2;46TRIANGLE=23C5;46WAVE=23C8;40=23CA
DENTISTRY SYMBOL LIGHT VERTICAL AND BOTTOM LEFT=23CC;43RIGHT=23BF;36TOP LEFT=23CB;40RIGHT=23BE
DENTISTRY SYMBOL LIGHT VERTICAL AND WAVE=23C6;32WITH CIRCLE=23C0;37TRIANGLE=23C3
DEPARTMENT STORE=1F3EC;02RELICT HOUSE BUILDING=1F3DA;02SCENDING NODE=260B
DESERET CAPITAL LETTER AY=1040C;23BEE=10412;23CHEE=10415;23DEE=10414;23EF=10419;24L=10422
DESERET CAPITAL LETTER EM=10423;24N=10424;25G=10425;24R=10421;24S=1041D;25H=1041F;24TH=1041B
DESERET CAPITAL LETTER EW=10427;23GAY=10418;23H=10410;23JEE=10416;23KAY=10417;23LONG A=10402
DESERET CAPITAL LETTER LONG AH=10403;28E=10401;28I=10400;28O=10404;29O=10405;23OI=10426;24W=1040D
DESERET CAPITAL LETTER PEE=10411;23SHORT A=10408;30H=10409;29E=10407;29I=10406;29O=1040A;30O=1040B
DESERET CAPITAL LETTER TEE=10413;24HEE=1041C;23VEE=1041A;23WU=1040E;23YEE=1040F;23ZEE=1041E
DESERET CAPITAL LETTER ZHEE=10420;08SMALL LETTER AY=10434;21BEE=1043A;21CHEE=1043D;21DEE=1043C
DESERET SMALL LETTER EF=10441;22L=1044A;22M=1044B;22N=1044C;23G=1044D;22R=10449;22S=10445
DESERET SMALL LETTER ESH=10447;22TH=10443;22W=1044F;21GAY=10440;21H=10438;21JEE=1043E;21KAY=1043F
DESERET SMALL LETTER LONG A=1042A;27H=1042B;26E=10429;26I=10428;26O=1042C;27O=1042D;21OI=1044E
DESERET SMALL LETTER OW=10435;21PEE=10439;21SHORT A=10430;28H=10431;27E=1042F;27I=1042E;27O=10432
DESERET SMALL LETTER SHORT OO=10433;21TEE=1043B;22HEE=10444;21VEE=10442;21WU=10436;21YEE=10437
DESERET SMALL LETTER ZEE=10446;22HEE=10448;05T ISLAND=1F3DD;06=1F3DC;03KTOP COMPUTER=1F5A5
DESKTOP WINDOW=1F5D4;02VANAGARI ABBREVIATION SIGN=970;12CUTE ACCENT=954;11CARET=A8FA;11DANDA=964
DEVANAGARI DIGIT EIGHT=96E;17FIVE=96B;18OUR=96A;17NINE=96F;17ONE=967;17SEVEN=96D;18IX=96C
DEVANAGARI DIGIT THREE=969;18WO=968;17ZERO=966;12OUBLE DANDA=965;11GAP FILLER=A8F9
DEVANAGARI GRAVE ACCENT=953;11HEADSTROKE=A8FB;11JAIN OM=A8FD;11LETTER A=905;19A=906;19I=910
DEVANAGARI LETTER AU=914;19W=975;19Y=A8FE;18BA=92C;19BA=97F;19HA=92D;18CA=91A;20NDRA A=972;25E=90D
DEVANAGARI LETTER CANDRA O=911;19HA=91B;18DA=926;19DA=921;20DA=97E;21HA=95C;20HA=922;19HA=927
DEVANAGARI LETTER E=90F;18FA=95E;18GA=917;19GA=97B;19HA=918;20HA=95A;19LOTTAL STOP=97D;18HA=939
DEVANAGARI LETTER HEAVY YA=97A;18I=907;19I=908;18JA=91C;19HA=91D;19JA=97C;18KA=915;19HA=916
DEVANAGARI LETTER KHHA=959;18LA=932;19LA=933;20LA=934;18MA=92E;20RWARI DDA=978;18NA=928;19GA=919
DEVANAGARI LETTER NNA=923;20NA=929;19YA=91E;18O=913;19E=973;19OE=974;18PA=92A;19HA=92B;18QA=958
DEVANAGARI LETTER RA=930;19HA=95D;19RA=931;18SA=938;19HA=936;20ORT A=904;24E=90E;24O=912;19SA=937
DEVANAGARI LETTER TA=924;19HA=925;19TA=91F;20HA=920;18U=909;19E=976;19U=90A;20E=977;18VA=935
DEVANAGARI LETTER VOCALIC L=90C;27L=961;26R=90B;27R=960;18YA=92F;19YA=95F;18ZA=95B;19HA=979
DEVANAGARI OM=950;11SIGN ANUSVARA=902;17VAGRAHA=93D;16CANDRABINDU AVAGRAHA=A8F7;28THREE=A8F6
DEVANAGARI SIGN CANDRABINDU TWO=A8F5;28VIRAMA=A8F3;27=901;16DOUBLE CANDRABINDU VIRAMA=A8F4
DEVANAGARI SIGN HIGH SPACING DOT=971;16INVERTED CANDRABINDU=900;16NUKTA=93C;16PUSHPIKA=A8F8
DEVANAGARI SIGN SIDDHAM=A8FC;17PACING CANDRABINDU=A8F2;16VIRAMA=94D;18SARGA=903
DEVANAGARI STRESS SIGN ANUDATTA=952;23UDATTA=951;11VOWEL SIGN AA=93E;23I=948;23U=94C;23W=94F
DEVANAGARI VOWEL SIGN AY=A8FF;22CANDRA E=945;29LONG E=955;29O=949;22E=947;22I=93F;23I=940;22O=94B
DEVANAGARI VOWEL SIGN OE=93A;23OE=93B;22PRISHTHAMATRA E=94E;22SHORT E=946;28O=94A;22U=941;23E=956
DEVANAGARI VOWEL SIGN UU=942;24E=957;22VOCALIC L=962;31L=963;30R=943;31R=944;03ICE CONTROL FOUR=14
DEVICE CONTROL ONE=11;15STRING=90;15THREE=13;16WO=12;01IAERESIS=A8;03METER SIGN=2300
DIAMOND OPERATOR=22C4;08SHAPE WITH A DOT INSIDE=1F4A0;08TARGET=1F79C;08WITH BOTTOM HALF BLACK=2B19
DIAMOND WITH LEFT HALF BLACK=2B16;13RIGHT HALF BLACK=2B17;13TOP HALF BLACK=2B18;02E FACE-1=2680
DIE FACE-2=2681;093=2682;094=2683;095=2684;096=2685;03SEL LOCOMOTIVE=1F6F2;02FFERENCE BETWEEN=224F
DIGIT EIGHT COMMA=1F109;12FULL STOP=248F;11=38;06FIVE COMMA=1F106;11FULL STOP=248C;10=35
DIGIT FOUR COMMA=1F105;11FULL STOP=248B;10=34;06NINE COMMA=1F10A;11FULL STOP=2490;10=39
DIGIT ONE COMMA=1F102;10FULL STOP=2488;09=31;06SEVEN COMMA=1F108;12FULL STOP=248E;11=37
DIGIT SIX COMMA=1F107;10FULL STOP=248D;09=36;06THREE COMMA=1F104;12FULL STOP=248A;11=33
DIGIT TWO COMMA=1F103;10FULL STOP=2489;09=32;06ZERO COMMA=1F101;11FULL STOP=1F100;10=30
DIGRAM FOR EARTH=1D305;16LY HEAVEN=1D303;20UMAN=1D304;11GREATER YANG=268C;20IN=268F
DIGRAM FOR HEAVENLY EARTH=1D301;12UMAN EARTH=1D302;11LESSER YANG=268E;19IN=268D
DIMENSION ORIGIN=2331;02NGBAT CIRCLED SANS-SERIF DIGIT EIGHT=2787;33FIVE=2784;34OUR=2783
DINGBAT CIRCLED SANS-SERIF DIGIT NINE=2788;33ONE=2780;33SEVEN=2786;34IX=2785;33THREE=2782
DINGBAT CIRCLED SANS-SERIF DIGIT TWO=2781;33ZERO=1F10B;27NUMBER TEN=2789
DINGBAT NEGATIVE CIRCLED DIGIT EIGHT=277D;31FIVE=277A;32OUR=2779;31NINE=277E;31ONE=2776
DINGBAT NEGATIVE CIRCLED DIGIT SEVEN=277C;32IX=277B;31THREE=2778;32WO=2777;25NUMBER TEN=277F
DINGBAT NEGATIVE CIRCLED SANS-SERIF DIGIT EIGHT=2791;42FIVE=278E;43OUR=278D;42NINE=2792;42ONE=278A
DINGBAT NEGATIVE CIRCLED SANS-SERIF DIGIT SEVEN=2790;43IX=278F;42THREE=278C;43WO=278B;42ZERO=1F10C
DINGBAT NEGATIVE CIRCLED SANS-SERIF NUMBER TEN=2793;02RECT CURRENT SYMBOL FORM TWO=2393
DIRECT HIT=1F3AF;02SABLED CAR=26CD;04PPOINTED BUT RELIEVED FACE=1F625;13FACE=1F61E
DISCONTINUOUS UNDERLINE SYMBOL=2382;03GUISED FACE=1F978;02TTO MARK=3003
DIVES AKURU DIGIT EIGHT=11958;18FIVE=11955;19OUR=11954;18NINE=11959;18ONE=11951;18SEVEN=11957
DIVES AKURU DIGIT SIX=11956;18THREE=11953;19WO=11952;18ZERO=11950;13OUBLE DANDA=11944
DIVES AKURU END OF TEXT MARK=11946;12GAP FILLER=11945;12INITIAL RA=11941;12LETTER A=11900
DIVES AKURU LETTER AA=11901;19BA=11922;20HA=11923;19CA=11911;20HA=11912;19DA=1191D;20DA=11918
DIVES AKURU LETTER DDHA=11919;20HA=1191E;19E=11906;19GA=1190E;20HA=1190F;19HA=1192D;19I=11902
DIVES AKURU LETTER II=11903;19JA=11913;19KA=1190C;20HA=1190D;19LA=11928;20LA=1192E;19MA=11924
DIVES AKURU LETTER NA=1191F;20GA=11910;20NA=1191A;20YA=11915;19O=11909;19PA=11920;20HA=11921
DIVES AKURU LETTER RA=11927;19SA=1192C;20HA=1192A;20SA=1192B;19TA=1191B;20HA=1191C;20TA=11916
DIVES AKURU LETTER U=11904;20U=11905;19VA=11929;19YA=11925;20YA=11926;19ZA=1192F;12MEDIAL RA=11942
DIVES AKURU MEDIAL YA=11940;12PREFIXED NASAL SIGN=1193F;12SIGN ANUSVARA=1193B;17CANDRABINDU=1193C
DIVES AKURU SIGN HALANTA=1193D;17NUKTA=11943;12VIRAMA=1193E;13OWEL SIGN AA=11930;24I=11937
DIVES AKURU VOWEL SIGN E=11935;23I=11931;24I=11932;23O=11938;23U=11933;24U=11934;03IDES=2223
DIVING MASK=1F93F;04SION SIGN=F7;10LASH=2215;09TIMES=22C7;03ORCE SYMBOL=26AE;02YA LAMP=1FA94
DIZZY FACE=1F635;06SYMBOL=1F4AB;01LE=10;01NA DOUBLE HELIX=1F9EC;01O NOT LITTER SYMBOL=1F6AF
DOCUMENT WITH PICTURE=1F5BB;14TEXT AND PICTURE=1F5BA;18=1F5B9;08=1F5CE;02DO=1F9A4
DOES NOT CONTAIN AS MEMBER=220C;20NORMAL SUBGROUP OR EQUAL=22ED;35=22EB
DOES NOT DIVIDE WITH REVERSED NEGATION SLASH=2AEE;15=2224;09FORCE=22AE;09PRECEDE OR EQUAL=22E0
DOES NOT PRECEDE=2280;11OVE=22AC;09SUCCEED OR EQUAL=22E1;16=2281;02G FACE=1F436;03=1F415
DOGRA ABBREVIATION SIGN=1183B;06LETTER A=11800;14A=11801;14I=11807;14U=11809;13BA=11820;14HA=11821
DOGRA LETTER CA=1180F;14HA=11810;13DA=1181B;14DA=11816;15HA=11817;14HA=1181C;13E=11806;13GA=1180C
DOGRA LETTER GHA=1180D;13HA=1182A;13I=11802;14I=11803;13JA=11811;14HA=11812;13KA=1180A;14HA=1180B
DOGRA LETTER LA=11825;13MA=11822;13NA=1181D;14GA=1180E;14NA=11818;14YA=11813;13O=11808;13PA=1181E
DOGRA LETTER PHA=1181F;13RA=11824;14RA=1182B;13SA=11829;14HA=11827;14SA=11828;13TA=11819
DOGRA LETTER THA=1181A;14TA=11814;15HA=11815;13U=11804;14U=11805;13VA=11826;13YA=11823
DOGRA SIGN ANUSVARA=11837;11NUKTA=1183A;11VIRAMA=11839;13SARGA=11838;06VOWEL SIGN AA=1182C
DOGRA VOWEL SIGN AI=11834;18U=11836;17E=11833;17I=1182D;18I=1182E;17O=11835;17U=1182F;18U=11830
DOGRA VOWEL SIGN VOCALIC R=11831;26R=11832;02LLAR SIGN=24;03PHIN=1F42C
DOMINO TILE HORIZONTAL BACK=1F030;22-00-00=1F031;271=1F032;272=1F033;273=1F034;274=1F035;275=1F036
DOMINO TILE HORIZONTAL-00-06=1F037;241-00=1F038;271=1F039;272=1F03A;273=1F03B;274=1F03C;275=1F03D
DOMINO TILE HORIZONTAL-01-06=1F03E;242-00=1F03F;271=1F040;272=1F041;273=1F042;274=1F043;275=1F044
DOMINO TILE HORIZONTAL-02-06=1F045;243-00=1F046;271=1F047;272=1F048;273=1F049;274=1F04A;275=1F04B
DOMINO TILE HORIZONTAL-03-06=1F04C;244-00=1F04D;271=1F04E;272=1F04F;273=1F050;274=1F051;275=1F052
DOMINO TILE HORIZONTAL-04-06=1F053;245-00=1F054;271=1F055;272=1F056;273=1F057;274=1F058;275=1F059
DOMINO TILE HORIZONTAL-05-06=1F05A;246-00=1F05B;271=1F05C;272=1F05D;273=1F05E;274=1F05F;275=1F060
DOMINO TILE HORIZONTAL-06-06=1F061;12VERTICAL BACK=1F062;20-00-00=1F063;251=1F064;252=1F065
DOMINO TILE VERTICAL-00-03=1F066;254=1F067;255=1F068;256=1F069;221-00=1F06A;251=1F06B;252=1F06C
DOMINO TILE VERTICAL-01-03=1F06D;254=1F06E;255=1F06F;256=1F070;222-00=1F071;251=1F072;252=1F073
DOMINO TILE VERTICAL-02-03=1F074;254=1F075;255=1F076;256=1F077;223-00=1F078;251=1F079;252=1F07A
DOMINO TILE VERTICAL-03-03=1F07B;254=1F07C;255=1F07D;256=1F07E;224-00=1F07F;251=1F080;252=1F081
DOMINO TILE VERTICAL-04-03=1F082;254=1F083;255=1F084;256=1F085;225-00=1F086;251=1F087;252=1F088
DOMINO TILE VERTICAL-05-03=1F089;254=1F08A;255=1F08B;256=1F08C;226-00=1F08D;251=1F08E;252=1F08F
DOMINO TILE VERTICAL-06-03=1F090;254=1F091;255=1F092;256=1F093;02NG SIGN=20AB;02OR=1F6AA
DOT ABOVE=2D9;04MINUS=2238;04OPERATOR=22C5;04PLUS=2214;03TED CIRCLE=25CC;08ROSS=205C;07FENCE=2999
DOTTED LINE FACE=1FAE5;07OBELOS=2E13;07RIGHT-POINTING ANGLE=2E16;07SOLIDUS=2E4A;08QUARE=2B1A
DOTTED TRANSPOSITION MARKER=2E08;02UBLE ACUTE ACCENT=2DD;07CIRCLED DIGIT EIGHT=24FC;21FIVE=24F9
DOUBLE CIRCLED DIGIT FOUR=24F8;21NINE=24FD;21ONE=24F5;21SEVEN=24FB;22IX=24FA;21THREE=24F7
DOUBLE CIRCLED DIGIT TWO=24F6;15NUMBER TEN=24FE;08OLON EQUAL=2A74;08URLY LOOP=27BF;07DAGGER=2021
DOUBLE DOWN TACK=2AEA;07EXCLAMATION MARK=203C;07HIGH-REVERSED-9 QUOTATION MARK=201F;08YPHEN=2E40
DOUBLE INTEGRAL=222C;11RSECTION=22D2;07LEFT ARC GREATER-THAN BRACKET=2995;08OGICAL AND=2A53
DOUBLE LOGICAL OR=2A54;09W LINE=2017;10-9 QUOTATION MARK=201E;11REVERSED-9 QUOTATION MARK=2E42
DOUBLE NESTED GREATER-THAN=2AA2;14LESS-THAN WITH UNDERBAR=2AA3;23=2AA1;07OBLIQUE HYPHEN=2E17
DOUBLE PLUS=29FA;08RECEDES=2ABB;09IME QUOTATION MARK=301E;12=2033;07QUESTION MARK=2047
DOUBLE RIGHT ARC LESS-THAN BRACKET=2996;07SOLIDUS OPERATOR=2AFD;08QUARE INTERSECTION=2A4E
DOUBLE SQUARE UNION=2A4F;08TACKED COMMA=2E49;09ROKE NOT SIGN=2AEC;08UBSET=22D0;09CCEEDS=2ABC
DOUBLE SUPERSET=22D1;09SPENSION MARK=2E44;07UNION=22D3;08P TACK=2AEB
DOUBLE VERTICAL BAR DOUBLE LEFT TURNSTILE=2AE5;27RIGHT TURNSTILE=22AB;20LEFT TURNSTILE=2AE3
DOUBLE VERTICAL BAR=23F8;16LINE=2016;07WAVY OVERLINE=FE4C;06-ENDED MULTIMAP=29DF
DOUBLE-LINE EQUAL TO OR GREATER-THAN=2A9A;24LESS-THAN=2A99;12SLANTED EQUAL TO OR GREATER-THAN=2A9C
DOUBLE-LINE SLANTED EQUAL TO OR LESS-THAN=2A9B;20GREATER-THAN OR EQUAL TO=2AFA
DOUBLE-LINE SLANTED LESS-THAN OR EQUAL TO=2AF9;07STRUCK CAPITAL C=2102;22GAMMA=213E;22H=210D
DOUBLE-STRUCK CAPITAL N=2115;22P=2119;23I=213F;22Q=211A;22R=211D;22Z=2124;14ITALIC CAPITAL D=2145
DOUBLE-STRUCK ITALIC SMALL D=2146;27E=2147;27I=2148;27J=2149;14N-ARY SUMMATION=2140
DOUBLE-STRUCK SMALL GAMMA=213D;20PI=213C;06D FEMALE SIGN=26A2;08MALE SIGN=26A3;08SYMBOL=2BFC
DOUGHNUT=1F369;02VE OF PEACE=1F54A;02WN ARROWHEAD=2304;05FISH TAIL=297F
DOWN RIGHT DIAGONAL ELLIPSIS=22F1;05TACK WITH CIRCLE BELOW=2AF1;09=22A4
DOWN-POINTING RED TRIANGLE=1F53B;14SMALL RED TRIANGLE=1F53D;14TRIANGLE WITH LEFT HALF BLACK=29E8
DOWN-POINTING TRIANGLE WITH RIGHT HALF BLACK=29E9;04WARD FACING HOOK WITH DOT=1F90A;20=1F908
DOWNWARD FACING NOTCHED HOOK WITH DOT=1F90B;28=1F909;08S ANCORA=2E14
DOWNWARDS ARROW AND RIGHT ONE EIGHTH BLOCK=1FBB7;16FROM BAR=21A7;16LEFTWARDS OF UPWARDS ARROW=21F5
DOWNWARDS ARROW TO BAR=2913;16WITH CORNER LEFTWARDS=21B5;21DOUBLE STROKE=21DF
DOWNWARDS ARROW WITH EQUILATERAL ARROWHEAD=1F817;21HORIZONTAL STROKE=2908
DOWNWARDS ARROW WITH LARGE TRIANGLE ARROWHEAD=1F80B;21MEDIUM TRIANGLE ARROWHEAD=1F807
DOWNWARDS ARROW WITH NOTCHED TAIL=1F89B;21SMALL EQUILATERAL ARROWHEAD=1F813
DOWNWARDS ARROW WITH SMALL TRIANGLE ARROWHEAD=1F803;21TIP LEFTWARDS=21B2;25RIGHTWARDS=21B3;15=2193
DOWNWARDS BLACK ARROW=2B07;16CIRCLED WHITE ARROW=2B8B;10COMPRESSED ARROW=1F83F;10DASHED ARROW=21E3
DOWNWARDS DOUBLE ARROW=21D3;10FINGER-POST ARROW=1F837
DOWNWARDS HARPOON WITH BARB LEFT BESIDE DOWNWARDS HARPOON WITH BARB RIGHT=2965
DOWNWARDS HARPOON WITH BARB LEFT BESIDE UPWARDS HARPOON WITH BARB RIGHT=296F;33FROM BAR=2961
DOWNWARDS HARPOON WITH BARB LEFT TO BAR=2959;32WARDS=21C3;28RIGHT FROM BAR=295D;34TO BAR=2955
DOWNWARDS HARPOON WITH BARB RIGHTWARDS=21C2;11EAVY ARROW=1F847;16COMPRESSED ARROW=1F843
DOWNWARDS PAIRED ARROWS=21CA;10QUADRUPLE ARROW=27F1;10ROCKET=1F66F;10SANS-SERIF ARROW=1F853
DOWNWARDS SQUARED ARROW=1F83B;10TRIANGLE ARROWHEAD=1F893
DOWNWARDS TRIANGLE-HEADED ARROW LEFTWARDS OF UPWARDS TRIANGLE-HEADED ARROW=2B83;32TO BAR=2B73
DOWNWARDS TRIANGLE-HEADED ARROW WITH BOLD SHAFT=1F82B;37DOUBLE HORIZONTAL STROKE=2B7D
DOWNWARDS TRIANGLE-HEADED ARROW WITH HEAVY SHAFT=1F82F;37LONG TIP LEFTWARDS=2BA0;46RIGHTWARDS=2BA1
DOWNWARDS TRIANGLE-HEADED ARROW WITH MEDIUM SHAFT=1F827;37NARROW SHAFT=1F823
DOWNWARDS TRIANGLE-HEADED ARROW WITH VERY HEAVY SHAFT=1F833;31=2B63;26DASHED ARROW=2B6D
DOWNWARDS TRIANGLE-HEADED PAIRED ARROWS=2B87;26ZIGZAG ARROW=2B4D;13PLE ARROW=290B
DOWNWARDS TWO HEADED ARROW=21A1;13-HEADED ARROW WITH TRIANGLE ARROWHEADS=2BEF
DOWNWARDS WHITE ARROW WITHIN TRIANGLE ARROWHEAD=1F897;21=21E9;10ZIGZAG ARROW=21AF
DRACHMA SIGN=20AF;03FTING POINT RIGHTWARDS ARROW=279B;03GON FACE=1F432;06=1F409;02ESS=1F457
DRIVE SLOW SIGN=26DA;02OMEDARY CAMEL=1F42A;03OLING FACE=1F924;03P OF BLOOD=1FA78;04LET=1F4A7
DRUM WITH DRUMSTICKS=1F941;01UCK=1F986;02MPLING=1F95F;02PLOYAN AFFIX ATTACHED E HOOK=1BC7A
DUPLOYAN AFFIX ATTACHED I HOOK=1BC7B;24LEFT-TO-RIGHT SECANT=1BC77;24SECANT=1BC76;24TAIL=1BC79
DUPLOYAN AFFIX ATTACHED TANGENT HOOK=1BC7C;31=1BC78;15HIGH ACUTE=1BC80;20CIRCLE=1BC85;20DOT=1BC84
DUPLOYAN AFFIX HIGH GRAVE=1BC82;20LINE=1BC86;21ONG GRAVE=1BC83;20TIGHT ACUTE=1BC81
DUPLOYAN AFFIX HIGH VERTICAL SECANT=1BC75;28=1BC88;20WAVE=1BC87;15LEFT HORIZONTAL SECANT=1BC70
DUPLOYAN AFFIX LOW ACUTE=1BC90;20RROW=1BC99;19CIRCLE=1BC95;19DOT=1BC94;19GRAVE=1BC92;19LINE=1BC96
DUPLOYAN AFFIX LOW LONG GRAVE=1BC93;19TIGHT ACUTE=1BC91;19VERTICAL SECANT=1BC73;27=1BC98
DUPLOYAN AFFIX LOW WAVE=1BC97;15MID HORIZONTAL SECANT=1BC71;19VERTICAL SECANT=1BC74
DUPLOYAN AFFIX RIGHT HORIZONTAL SECANT=1BC72;09DOUBLE MARK=1BC9E;09LETTER A=1BC41;17OU=1BC45
DUPLOYAN LETTER B=1BC07;16D S=1BC0D;17=1BC08;17H=1BC13;16E=1BC47;17E=1BC4B;17U=1BC52;16F N=1BC0E
DUPLOYAN LETTER F=1BC04;16G R S=1BC3E;17=1BC0A;16H=1BC00;17L=1BC16;16I=1BC46;17E=1BC48
DUPLOYAN LETTER J M S=1BC2D;19=1BC1F;18N S=1BC31;19=1BC30;18S WITH DOT=1BC2F;19=1BC29
DUPLOYAN LETTER J WITH DOT=1BC23;26S INSIDE AND ABOVE=1BC24;17=1BC1B;16K M=1BC0F;18R S=1BC3D
DUPLOYAN LETTER K=1BC05;17K=1BC14;16L=1BC06;17H=1BC17;17ONG I=1BC4F;21U=1BC55;16M N S=1BC2B
DUPLOYAN LETTER M N=1BC1D;18S=1BC27;18WITH DOT=1BC21;17=1BC19;16N M S=1BC2C;19=1BC1E;18S=1BC28
DUPLOYAN LETTER N WITH DOT=1BC22;17=1BC1A;17ASAL A=1BC64;22I=1BC63;22O=1BC62;22U=1BC61;16O=1BC44
DUPLOYAN LETTER OA=1BC43;17OH=1BC59;17U=1BC5B;17W=1BC5A;16P N=1BC0C;17=1BC02;17ERNIN AM=1BC66
DUPLOYAN LETTER PERNIN AN=1BC65;16R S=1BC10;17=1BC0B;17H=1BC18;17OMANIAN I=1BC4D;25U=1BC56
DUPLOYAN LETTER S J S=1BC2E;19=1BC20;18K R=1BC40;19=1BC3F;18M=1BC3C;18N=1BC3B;18P R=1BC35;19=1BC34
DUPLOYAN LETTER S S=1BC2A;18T R=1BC33;19=1BC32;18WITH DOT BELOW=1BC26;26=1BC25;17=1BC1C
DUPLOYAN LETTER SHORT I=1BC49;17LOAN AN=1BC68;22DH=1BC12;22EE=1BC4E;23H=1BC4C;23N=1BC67;22J=1BC15
DUPLOYAN LETTER SLOAN ON=1BC69;23W=1BC42;22U=1BC58;16T R S=1BC37;18S=1BC36;17=1BC03;17H=1BC11
DUPLOYAN LETTER U N=1BC54;17=1BC51;17H=1BC57;17I=1BC4A;16V=1BC09;17OCALIC M=1BC6A;16W R=1BC3A
DUPLOYAN LETTER W=1BC38;17A=1BC5C;17EI=1BC5F;17H=1BC39;17I=1BC5E;17O=1BC5D;18W=1BC60;16X=1BC01
DUPLOYAN LETTER XW=1BC53;16YE=1BC50;09PUNCTUATION CHINOOK FULL STOP=1BC9F
DUPLOYAN SIGN O WITH CROSS=1BC9C;09THICK LETTER SELECTOR=1BC9D;01VD=1F4C0;00E-MAIL SYMBOL=1F4E7
EAGLE=1F985;02R OF MAIZE=1F33D;07RICE=1F33E;04WITH HEARING AID=1F9BB;03=1F442
EARTH GLOBE AMERICAS=1F30E;13SIA-AUSTRALIA=1F30F;12EUROPE-AFRICA=1F30D;07ROUND=23DA;05=2641
EAST SYRIAC CROSS=2671;01DITORIAL CORONIS=2E0E;01GG=1F95A;02YPTIAN HIEROGLYPH A001=13000;232=13001
EGYPTIAN HIEROGLYPH A003=13002;234=13003;235=13004;24A=13005;236=13006;24A=13007;24B=13008
EGYPTIAN HIEROGLYPH A007=13009;238=1300A;239=1300B;2210=1300C;231=1300D;232=1300E;233=1300F
EGYPTIAN HIEROGLYPH A014=13010;24A=13011;235=13012;236=13013;237=13014;24A=13015;238=13016
EGYPTIAN HIEROGLYPH A019=13017;2220=13018;231=13019;232=1301A;233=1301B;234=1301C;235=1301D
EGYPTIAN HIEROGLYPH A026=1301E;237=1301F;238=13020;239=13021;2230=13022;231=13023;232=13024
EGYPTIAN HIEROGLYPH A032A=13025;233=13026;234=13027;235=13028;236=13029;237=1302A;238=1302B
EGYPTIAN HIEROGLYPH A039=1302C;2240=1302D;24A=1302E;231=1302F;232=13030;24A=13031;233=13032
EGYPTIAN HIEROGLYPH A043A=13033;234=13034;235=13035;24A=13036;236=13037;237=13038;238=13039
EGYPTIAN HIEROGLYPH A049=1303A;2250=1303B;231=1303C;232=1303D;233=1303E;234=1303F;235=13040
EGYPTIAN HIEROGLYPH A056=13041;237=13042;238=13043;239=13044;2260=13045;231=13046;232=13047
EGYPTIAN HIEROGLYPH A063=13048;234=13049;235=1304A;236=1304B;237=1304C;238=1304D;239=1304E
EGYPTIAN HIEROGLYPH A070=1304F;21A001=1340D;242=1340E;243=1340F;244=13410;245=13411;246=13412
EGYPTIAN HIEROGLYPH AA007=13413;25A=13414;25B=13415;248=13416;249=13417;2310=13418;241=13419
EGYPTIAN HIEROGLYPH AA012=1341A;243=1341B;244=1341C;245=1341D;246=1341E;247=1341F;248=13420
EGYPTIAN HIEROGLYPH AA019=13421;2320=13422;241=13423;242=13424;243=13425;244=13426;245=13427
EGYPTIAN HIEROGLYPH AA026=13428;247=13429;248=1342A;249=1342B;2330=1342C;241=1342D;242=1342E
EGYPTIAN HIEROGLYPH B001=13050;232=13051;233=13052;234=13053;235=13054;24A=13055;236=13056
EGYPTIAN HIEROGLYPH B007=13057;238=13058;239=13059;21EGIN SEGMENT=13437;20C001=1305A;232=1305B
EGYPTIAN HIEROGLYPH C002A=1305C;24B=1305D;24C=1305E;233=1305F;234=13060;235=13061;236=13062
EGYPTIAN HIEROGLYPH C007=13063;238=13064;239=13065;2210=13066;24A=13067;231=13068;232=13069
EGYPTIAN HIEROGLYPH C013=1306A;234=1306B;235=1306C;236=1306D;237=1306E;238=1306F;239=13070
EGYPTIAN HIEROGLYPH C020=13071;231=13072;232=13073;233=13074;234=13075;20D001=13076;232=13077
EGYPTIAN HIEROGLYPH D003=13078;234=13079;235=1307A;236=1307B;237=1307C;238=1307D;24A=1307E
EGYPTIAN HIEROGLYPH D009=1307F;2210=13080;231=13081;232=13082;233=13083;234=13084;235=13085
EGYPTIAN HIEROGLYPH D016=13086;237=13087;238=13088;239=13089;2220=1308A;231=1308B;232=1308C
EGYPTIAN HIEROGLYPH D023=1308D;234=1308E;235=1308F;236=13090;237=13091;24A=13092;238=13093
EGYPTIAN HIEROGLYPH D029=13094;2230=13095;231=13096;24A=13097;232=13098;233=13099;234=1309A
EGYPTIAN HIEROGLYPH D034A=1309B;235=1309C;236=1309D;237=1309E;238=1309F;239=130A0;2240=130A1
EGYPTIAN HIEROGLYPH D041=130A2;232=130A3;233=130A4;234=130A5;235=130A6;236=130A7;24A=130A8
EGYPTIAN HIEROGLYPH D047=130A9;238=130AA;24A=130AB;239=130AC;2250=130AD;24A=130AE;24B=130AF
EGYPTIAN HIEROGLYPH D050C=130B0;24D=130B1;24E=130B2;24F=130B3;24G=130B4;24H=130B5;24I=130B6
EGYPTIAN HIEROGLYPH D051=130B7;232=130B8;24A=130B9;233=130BA;234=130BB;24A=130BC;235=130BD
EGYPTIAN HIEROGLYPH D056=130BE;237=130BF;238=130C0;239=130C1;2260=130C2;231=130C3;232=130C4
EGYPTIAN HIEROGLYPH D063=130C5;234=130C6;235=130C7;236=130C8;237=130C9;24A=130CA;24B=130CB
EGYPTIAN HIEROGLYPH D067C=130CC;24D=130CD;24E=130CE;24F=130CF;24G=130D0;24H=130D1;20E001=130D2
EGYPTIAN HIEROGLYPH E002=130D3;233=130D4;234=130D5;235=130D6;236=130D7;237=130D8;238=130D9
EGYPTIAN HIEROGLYPH E008A=130DA;239=130DB;24A=130DC;2210=130DD;231=130DE;232=130DF;233=130E0
EGYPTIAN HIEROGLYPH E014=130E1;235=130E2;236=130E3;24A=130E4;237=130E5;24A=130E6;238=130E7
EGYPTIAN HIEROGLYPH E019=130E8;2220=130E9;24A=130EA;231=130EB;232=130EC;233=130ED;234=130EE
EGYPTIAN HIEROGLYPH E025=130EF;236=130F0;237=130F1;238=130F2;24A=130F3;239=130F4;2230=130F5
EGYPTIAN HIEROGLYPH E031=130F6;232=130F7;233=130F8;234=130F9;24A=130FA;236=130FB;237=130FC
EGYPTIAN HIEROGLYPH E038=130FD;21ND SEGMENT=13438;20F001=130FE;24A=130FF;232=13100;233=13101
EGYPTIAN HIEROGLYPH F004=13102;235=13103;236=13104;237=13105;238=13106;239=13107;2210=13108
EGYPTIAN HIEROGLYPH F011=13109;232=1310A;233=1310B;24A=1310C;234=1310D;235=1310E;236=1310F
EGYPTIAN HIEROGLYPH F017=13110;238=13111;239=13112;2220=13113;231=13114;24A=13115;232=13116
EGYPTIAN HIEROGLYPH F023=13117;234=13118;235=13119;236=1311A;237=1311B;238=1311C;239=1311D
EGYPTIAN HIEROGLYPH F030=1311E;231=1311F;24A=13120;232=13121;233=13122;234=13123;235=13124
EGYPTIAN HIEROGLYPH F036=13125;237=13126;24A=13127;238=13128;24A=13129;239=1312A;2240=1312B
EGYPTIAN HIEROGLYPH F041=1312C;232=1312D;233=1312E;234=1312F;235=13130;24A=13131;236=13132
EGYPTIAN HIEROGLYPH F046A=13133;237=13134;24A=13135;238=13136;239=13137;2250=13138;231=13139
EGYPTIAN HIEROGLYPH F051A=1313A;24B=1313B;24C=1313C;232=1313D;233=1313E;20G001=1313F;232=13140
EGYPTIAN HIEROGLYPH G003=13141;234=13142;235=13143;236=13144;24A=13145;237=13146;24A=13147
EGYPTIAN HIEROGLYPH G007B=13148;238=13149;239=1314A;2210=1314B;231=1314C;24A=1314D;232=1314E
EGYPTIAN HIEROGLYPH G013=1314F;234=13150;235=13151;236=13152;237=13153;238=13154;239=13155
EGYPTIAN HIEROGLYPH G020=13156;24A=13157;231=13158;232=13159;233=1315A;234=1315B;235=1315C
EGYPTIAN HIEROGLYPH G026=1315D;24A=1315E;237=1315F;238=13160;239=13161;2230=13162;231=13163
EGYPTIAN HIEROGLYPH G032=13164;233=13165;234=13166;235=13167;236=13168;24A=13169;237=1316A
EGYPTIAN HIEROGLYPH G037A=1316B;238=1316C;239=1316D;2240=1316E;231=1316F;232=13170;233=13171
EGYPTIAN HIEROGLYPH G043A=13172;234=13173;235=13174;24A=13175;236=13176;237=13177;238=13178
EGYPTIAN HIEROGLYPH G049=13179;2250=1317A;231=1317B;232=1317C;233=1317D;234=1317E;20H001=1317F
EGYPTIAN HIEROGLYPH H002=13180;233=13181;234=13182;235=13183;236=13184;24A=13185;237=13186
EGYPTIAN HIEROGLYPH H008=13187;21ORIZONTAL JOINER=13431;20I001=13188;232=13189;233=1318A;234=1318B
EGYPTIAN HIEROGLYPH I005=1318C;24A=1318D;236=1318E;237=1318F;238=13190;239=13191;24A=13192
EGYPTIAN HIEROGLYPH I010=13193;24A=13194;231=13195;24A=13196;232=13197;233=13198;234=13199
EGYPTIAN HIEROGLYPH I015=1319A;21NSERT AT BOTTOM END=13435;37START=13433;30TOP END=13434
EGYPTIAN HIEROGLYPH INSERT AT TOP START=13432;20K001=1319B;232=1319C;233=1319D;234=1319E;235=1319F
EGYPTIAN HIEROGLYPH K006=131A0;237=131A1;238=131A2;20L001=131A3;232=131A4;24A=131A5;233=131A6
EGYPTIAN HIEROGLYPH L004=131A7;235=131A8;236=131A9;24A=131AA;237=131AB;238=131AC;20M001=131AD
EGYPTIAN HIEROGLYPH M001A=131AE;24B=131AF;232=131B0;233=131B1;24A=131B2;234=131B3;235=131B4
EGYPTIAN HIEROGLYPH M006=131B5;237=131B6;238=131B7;239=131B8;2210=131B9;24A=131BA;231=131BB
EGYPTIAN HIEROGLYPH M012=131BC;24A=131BD;24B=131BE;24C=131BF;24D=131C0;24E=131C1;24F=131C2
EGYPTIAN HIEROGLYPH M012G=131C3;24H=131C4;233=131C5;234=131C6;235=131C7;24A=131C8;236=131C9
EGYPTIAN HIEROGLYPH M016A=131CA;237=131CB;24A=131CC;238=131CD;239=131CE;2220=131CF;231=131D0
EGYPTIAN HIEROGLYPH M022=131D1;24A=131D2;233=131D3;234=131D4;24A=131D5;235=131D6;236=131D7
EGYPTIAN HIEROGLYPH M027=131D8;238=131D9;24A=131DA;239=131DB;2230=131DC;231=131DD;24A=131DE
EGYPTIAN HIEROGLYPH M032=131DF;233=131E0;24A=131E1;24B=131E2;234=131E3;235=131E4;236=131E5
EGYPTIAN HIEROGLYPH M037=131E6;238=131E7;239=131E8;2240=131E9;24A=131EA;231=131EB;232=131EC
EGYPTIAN HIEROGLYPH M043=131ED;234=131EE;20N001=131EF;232=131F0;233=131F1;234=131F2;235=131F3
EGYPTIAN HIEROGLYPH N006=131F4;237=131F5;238=131F6;239=131F7;2210=131F8;231=131F9;232=131FA
EGYPTIAN HIEROGLYPH N013=131FB;234=131FC;235=131FD;236=131FE;237=131FF;238=13200;24A=13201
EGYPTIAN HIEROGLYPH N018B=13202;239=13203;2220=13204;231=13205;232=13206;233=13207;234=13208
EGYPTIAN HIEROGLYPH N025=13209;24A=1320A;236=1320B;237=1320C;238=1320D;239=1320E;2230=1320F
EGYPTIAN HIEROGLYPH N031=13210;232=13211;233=13212;24A=13213;234=13214;24A=13215;235=13216
EGYPTIAN HIEROGLYPH N035A=13217;236=13218;237=13219;24A=1321A;238=1321B;239=1321C;2240=1321D
EGYPTIAN HIEROGLYPH N041=1321E;232=1321F;21L001=13220;242=13221;243=13222;244=13223;245=13224
EGYPTIAN HIEROGLYPH NL005A=13225;246=13226;247=13227;248=13228;249=13229;2310=1322A;241=1322B
EGYPTIAN HIEROGLYPH NL012=1322C;243=1322D;244=1322E;245=1322F;246=13230;247=13231;25A=13232
EGYPTIAN HIEROGLYPH NL018=13233;249=13234;2320=13235;21U001=13236;242=13237;243=13238;244=13239
EGYPTIAN HIEROGLYPH NU005=1323A;246=1323B;247=1323C;248=1323D;249=1323E;2310=1323F;25A=13240
EGYPTIAN HIEROGLYPH NU011=13241;25A=13242;242=13243;243=13244;244=13245;245=13246;246=13247
EGYPTIAN HIEROGLYPH NU017=13248;248=13249;25A=1324A;249=1324B;2320=1324C;241=1324D;242=1324E
EGYPTIAN HIEROGLYPH NU022A=1324F;20O001=13250;24A=13251;232=13252;233=13253;234=13254;235=13255
EGYPTIAN HIEROGLYPH O005A=13256;236=13257;24A=13258;24B=13259;24C=1325A;24D=1325B;24E=1325C
EGYPTIAN HIEROGLYPH O006F=1325D;237=1325E;238=1325F;239=13260;2210=13261;24A=13262;24B=13263
EGYPTIAN HIEROGLYPH O010C=13264;231=13265;232=13266;233=13267;234=13268;235=13269;236=1326A
EGYPTIAN HIEROGLYPH O017=1326B;238=1326C;239=1326D;24A=1326E;2220=1326F;24A=13270;231=13271
EGYPTIAN HIEROGLYPH O022=13272;233=13273;234=13274;24A=13275;235=13276;24A=13277;236=13278
EGYPTIAN HIEROGLYPH O027=13279;238=1327A;239=1327B;24A=1327C;2230=1327D;24A=1327E;231=1327F
EGYPTIAN HIEROGLYPH O032=13280;233=13281;24A=13282;234=13283;235=13284;236=13285;24A=13286
EGYPTIAN HIEROGLYPH O036B=13287;24C=13288;24D=13289;237=1328A;238=1328B;239=1328C;2240=1328D
EGYPTIAN HIEROGLYPH O041=1328E;232=1328F;233=13290;234=13291;235=13292;236=13293;237=13294
EGYPTIAN HIEROGLYPH O048=13295;239=13296;2250=13297;24A=13298;24B=13299;231=1329A
EGYPTIAN HIEROGLYPH OVERLAY MIDDLE=13436;20P001=1329B;24A=1329C;232=1329D;233=1329E;24A=1329F
EGYPTIAN HIEROGLYPH P004=132A0;235=132A1;236=132A2;237=132A3;238=132A4;239=132A5;2210=132A6
EGYPTIAN HIEROGLYPH P011=132A7;20Q001=132A8;232=132A9;233=132AA;234=132AB;235=132AC;236=132AD
EGYPTIAN HIEROGLYPH Q007=132AE;20R001=132AF;232=132B0;24A=132B1;233=132B2;24A=132B3;24B=132B4
EGYPTIAN HIEROGLYPH R004=132B5;235=132B6;236=132B7;237=132B8;238=132B9;239=132BA;2210=132BB
EGYPTIAN HIEROGLYPH R010A=132BC;231=132BD;232=132BE;233=132BF;234=132C0;235=132C1;236=132C2
EGYPTIAN HIEROGLYPH R016A=132C3;237=132C4;238=132C5;239=132C6;2220=132C7;231=132C8;232=132C9
EGYPTIAN HIEROGLYPH R023=132CA;234=132CB;235=132CC;236=132CD;237=132CE;238=132CF;239=132D0
EGYPTIAN HIEROGLYPH S001=132D1;232=132D2;24A=132D3;233=132D4;234=132D5;235=132D6;236=132D7
EGYPTIAN HIEROGLYPH S006A=132D8;237=132D9;238=132DA;239=132DB;2210=132DC;231=132DD;232=132DE
EGYPTIAN HIEROGLYPH S013=132DF;234=132E0;24A=132E1;24B=132E2;235=132E3;236=132E4;237=132E5
EGYPTIAN HIEROGLYPH S017A=132E6;238=132E7;239=132E8;2220=132E9;231=132EA;232=132EB;233=132EC
EGYPTIAN HIEROGLYPH S024=132ED;235=132EE;236=132EF;24A=132F0;24B=132F1;237=132F2;238=132F3
EGYPTIAN HIEROGLYPH S029=132F4;2230=132F5;231=132F6;232=132F7;233=132F8;234=132F9;235=132FA
EGYPTIAN HIEROGLYPH S035A=132FB;236=132FC;237=132FD;238=132FE;239=132FF;2240=13300;231=13301
EGYPTIAN HIEROGLYPH S042=13302;233=13303;234=13304;235=13305;236=13306;20T001=13307;232=13308
EGYPTIAN HIEROGLYPH T003=13309;24A=1330A;234=1330B;235=1330C;236=1330D;237=1330E;24A=1330F
EGYPTIAN HIEROGLYPH T008=13310;24A=13311;239=13312;24A=13313;2210=13314;231=13315;24A=13316
EGYPTIAN HIEROGLYPH T012=13317;233=13318;234=13319;235=1331A;236=1331B;24A=1331C;237=1331D
EGYPTIAN HIEROGLYPH T018=1331E;239=1331F;2220=13320;231=13321;232=13322;233=13323;234=13324
EGYPTIAN HIEROGLYPH T025=13325;236=13326;237=13327;238=13328;239=13329;2230=1332A;231=1332B
EGYPTIAN HIEROGLYPH T032=1332C;24A=1332D;233=1332E;24A=1332F;234=13330;235=13331;236=13332
EGYPTIAN HIEROGLYPH U001=13333;232=13334;233=13335;234=13336;235=13337;236=13338;24A=13339
EGYPTIAN HIEROGLYPH U006B=1333A;237=1333B;238=1333C;239=1333D;2210=1333E;231=1333F;232=13340
EGYPTIAN HIEROGLYPH U013=13341;234=13342;235=13343;236=13344;237=13345;238=13346;239=13347
EGYPTIAN HIEROGLYPH U020=13348;231=13349;232=1334A;233=1334B;24A=1334C;234=1334D;235=1334E
EGYPTIAN HIEROGLYPH U026=1334F;237=13350;238=13351;239=13352;24A=13353;2230=13354;231=13355
EGYPTIAN HIEROGLYPH U032=13356;24A=13357;233=13358;234=13359;235=1335A;236=1335B;237=1335C
EGYPTIAN HIEROGLYPH U038=1335D;239=1335E;2240=1335F;231=13360;232=13361;20V001=13362;24A=13363
EGYPTIAN HIEROGLYPH V001B=13364;24C=13365;24D=13366;24E=13367;24F=13368;24G=13369;24H=1336A
EGYPTIAN HIEROGLYPH V001I=1336B;232=1336C;24A=1336D;233=1336E;234=1336F;235=13370;236=13371
EGYPTIAN HIEROGLYPH V007=13372;24A=13373;24B=13374;238=13375;239=13376;2210=13377;231=13378
EGYPTIAN HIEROGLYPH V011A=13379;24B=1337A;24C=1337B;232=1337C;24A=1337D;24B=1337E;233=1337F
EGYPTIAN HIEROGLYPH V014=13380;235=13381;236=13382;237=13383;238=13384;239=13385;2220=13386
EGYPTIAN HIEROGLYPH V020A=13387;24B=13388;24C=13389;24D=1338A;24E=1338B;24F=1338C;24G=1338D
EGYPTIAN HIEROGLYPH V020H=1338E;24I=1338F;24J=13390;24K=13391;24L=13392;231=13393;232=13394
EGYPTIAN HIEROGLYPH V023=13395;24A=13396;234=13397;235=13398;236=13399;237=1339A;238=1339B
EGYPTIAN HIEROGLYPH V028A=1339C;239=1339D;24A=1339E;2230=1339F;24A=133A0;231=133A1;24A=133A2
EGYPTIAN HIEROGLYPH V032=133A3;233=133A4;24A=133A5;234=133A6;235=133A7;236=133A8;237=133A9
EGYPTIAN HIEROGLYPH V037A=133AA;238=133AB;239=133AC;2240=133AD;24A=133AE;21ERTICAL JOINER=13430
EGYPTIAN HIEROGLYPH W001=133AF;232=133B0;233=133B1;24A=133B2;234=133B3;235=133B4;236=133B5
EGYPTIAN HIEROGLYPH W007=133B6;238=133B7;239=133B8;24A=133B9;2210=133BA;24A=133BB;231=133BC
EGYPTIAN HIEROGLYPH W012=133BD;233=133BE;234=133BF;24A=133C0;235=133C1;236=133C2;237=133C3
EGYPTIAN HIEROGLYPH W017A=133C4;238=133C5;24A=133C6;239=133C7;2220=133C8;231=133C9;232=133CA
EGYPTIAN HIEROGLYPH W023=133CB;234=133CC;24A=133CD;235=133CE;20X001=133CF;232=133D0;233=133D1
EGYPTIAN HIEROGLYPH X004=133D2;24A=133D3;24B=133D4;235=133D5;236=133D6;24A=133D7;237=133D8
EGYPTIAN HIEROGLYPH X008=133D9;24A=133DA;20Y001=133DB;24A=133DC;232=133DD;233=133DE;234=133DF
EGYPTIAN HIEROGLYPH Y005=133E0;236=133E1;237=133E2;238=133E3;20Z001=133E4;232=133E5;24A=133E6
EGYPTIAN HIEROGLYPH Z002B=133E7;24C=133E8;24D=133E9;233=133EA;24A=133EB;24B=133EC;234=133ED
EGYPTIAN HIEROGLYPH Z004A=133EE;235=133EF;24A=133F0;236=133F1;237=133F2;238=133F3;239=133F4
EGYPTIAN HIEROGLYPH Z010=133F5;231=133F6;232=133F7;233=133F8;234=133F9;235=133FA;24A=133FB
EGYPTIAN HIEROGLYPH Z015B=133FC;24C=133FD;24D=133FE;24E=133FF;24F=13400;24G=13401;24H=13402
EGYPTIAN HIEROGLYPH Z015I=13403;236=13404;24A=13405;24B=13406;24C=13407;24D=13408;24E=13409
EGYPTIAN HIEROGLYPH Z016F=1340A;24G=1340B;24H=1340C;01IGHT PETALLED OUTLINED BLACK FLORETTE=2741
EIGHT POINTED BLACK STAR=2734;14PINWHEEL STAR=2735;14RECTILINEAR BLACK STAR=2737
EIGHT SPOKED ASTERISK=2733;06TEARDROP-SPOKED PROPELLER ASTERISK=274A;05H NOTE=266A
EJECT SYMBOL=23CF;01LBASAN LETTER A=10500;15BE=10501;15CE=10502;16HE=10503;15DE=10504;16HE=10506
ELBASAN LETTER E=10508;16I=10507;15FE=10509;15GE=1050A;16HAMMA=10526;17E=10525;16JE=1050B
ELBASAN LETTER HE=1050C;15I=1050D;15JE=1050E;15KE=1050F;16HE=10527;15LE=10510;16LE=10511
ELBASAN LETTER ME=10512;15NA=10514;16DE=10505;16E=10513;16JE=10515;15O=10516;15PE=10517;15QE=10518
ELBASAN LETTER RE=10519;16RE=1051A;15SE=1051B;16HE=1051C;15TE=1051D;16HE=1051E;15U=1051F
ELBASAN LETTER VE=10520;15XE=10521;15Y=10522;15ZE=10523;16HE=10524;02ECTRIC ARROW=2301
ELECTRIC LIGHT BULB=1F4A1;09PLUG=1F50C;09TORCH=1F526;08AL INTERSECTION=23E7
ELEMENT OF OPENING DOWNWARDS=2AD9;19UPWARDS=27D2;11WITH DOT ABOVE=22F5
ELEMENT OF WITH LONG HORIZONTAL STROKE=22F2;16OVERBAR=22F6;16TWO HORIZONTAL STROKES=22F9
ELEMENT OF WITH UNDERBAR=22F8;16VERTICAL BAR AT END OF HORIZONTAL STROKE=22F3;10=2208
ELEPHANT=1F418;03VATOR=1F6D7;02F=1F9DD;02YMAIC LETTER ALEPH=10FE0;16YIN=10FEF;15BETH=10FE1
ELYMAIC LETTER DALETH=10FE3;15GIMEL=10FE2;15HE=10FE4;17TH=10FE7;15KAPH=10FEA;15LAMEDH=10FEB
ELYMAIC LETTER MEM=10FEC;15NUN=10FED;15PE=10FF0;15QOPH=10FF2;15RESH=10FF3;15SADHE=10FF1
ELYMAIC LETTER SAMEKH=10FEE;16HIN=10FF4;15TAW=10FF5;16ETH=10FE8;15WAW=10FE5;15YODH=10FE9
ELYMAIC LETTER ZAYIN=10FE6;09IGATURE ZAYIN-YODH=10FF6;01M DASH=2014;03QUAD=2001;03SPACE=2003
EMOJI COMPONENT BALD=1F9B2;16CURLY HAIR=1F9B1;16RED HAIR=1F9B0;16WHITE HAIR=1F9B3
EMOJI MODIFIER FITZPATRICK TYPE-1-2=1F3FB;323=1F3FC;324=1F3FD;325=1F3FE;326=1F3FF
EMPHASIS SYMBOL=2383;03TY DOCUMENT=1F5CB;06NEST=1FAB9;07OTE PAD=1F5C7;13GE=1F5C6;10=1F5C5
EMPTY PAGE=1F5CC;10S=1F5CD;06SET WITH LEFT ARROW ABOVE=29B4;15OVERBAR=29B1
EMPTY SET WITH RIGHT ARROW ABOVE=29B3;15SMALL CIRCLE ABOVE=29B2;09=2205;01N DASH=2013;03QUAD=2000
EN SPACE=2002;02D OF GUARDED AREA=97;07LINE=A;07MEDIUM=19;07PROOF=220E;10TECTED AREA=97
END OF SELECTED AREA=87;07TEXT=3;08RANSMISSION BLOCK=17;19=4;04WITH LEFTWARDS ARROW ABOVE=1F51A
ENQ=5;03UIRY=5;02TER SYMBOL=2386;02VELOPE WITH DOWNWARDS ARROW ABOVE=1F4E9;14LIGHTNING=1F584
ENVELOPE=2709;01OL=A;02M=19;02T=4;01PA=97;01QUAL AND PARALLEL TO=22D5;06TO BY DEFINITION=225D
EQUAL TO OR GREATER-THAN=22DD;12LESS-THAN=22DC;12PRECEDES=22DE;12SUCCEEDS=22DF;05S COLON=2255
EQUALS SIGN ABOVE LEFTWARDS ARROW=2B40;18PLUS SIGN=2A71;18RIGHTWARDS ARROW=2971
EQUALS SIGN ABOVE TILDE OPERATOR=2A73;13ND SLANTED PARALLEL WITH TILDE ABOVE=29E4;32=29E3
EQUALS SIGN WITH BUMPY ABOVE=2AAE;17DOT BELOW=2A66;17INFINITY BELOW=2BF9
EQUALS SIGN WITH TWO DOTS ABOVE AND TWO DOTS BELOW=2A77;11=3D;07WITH ASTERISK=2A6E
EQUIANGULAR TO=225A;04VALENT TO=224D;11WITH FOUR DOTS ABOVE=2A78;01RASE TO THE LEFT=232B
ERASE TO THE RIGHT=2326;02IS FORM ONE=2BF0;10TWO=2BF1;02ROR-BARRED BLACK CIRCLE=29F3
ERROR-BARRED BLACK DIAMOND=29F1;19SQUARE=29EF;13WHITE CIRCLE=29F2;19DIAMOND=29F0;19SQUARE=29EE
ESA=87;02C=1B;03APE=1B;02TIMATED SYMBOL=212E;08S=2259;01TB=17;02HIOPIC COLON=1365
ETHIOPIC COMBINING GEMINATION AND VOWEL LENGTH MARK=135D;30MARK=135F;19VOWEL LENGTH MARK=135E
ETHIOPIC COMMA=1363;09DIGIT EIGHT=1370;15FIVE=136D;16OUR=136C;15NINE=1371;15ONE=1369;15SEVEN=136F
ETHIOPIC DIGIT SIX=136E;15THREE=136B;16WO=136A;09FULL STOP=1362;09NUMBER EIGHTY=1379;16FIFTY=1376
ETHIOPIC NUMBER FORTY=1375;16HUNDRED=137B;16NINETY=137A;16SEVENTY=1378;17IXTY=1377
ETHIOPIC NUMBER TEN THOUSAND=137C;19=1372;17HIRTY=1374;17WENTY=1373;09PARAGRAPH SEPARATOR=1368
ETHIOPIC PREFACE COLON=1366;09QUESTION MARK=1367;09SECTION MARK=1360;11MICOLON=1364
ETHIOPIC SYLLABLE BA=1260;20A=1263;19BA=AB28;21A=AB2B;20E=AB2D;21E=AB2C;20I=AB2A;20O=AB2E;20U=AB29
ETHIOPIC SYLLABLE BE=1265;20E=1264;19I=1262;19O=1266;20A=2D85;19U=1261;19WA=1267;20E=1387;21E=1386
ETHIOPIC SYLLABLE BWI=1385;18CA=1278;20A=127B;19CA=2DA8;21A=2DAB;20E=2DAD;21E=2DAC;20HA=2DB8
ETHIOPIC SYLLABLE CCHAA=2DBB;21E=2DBD;22E=2DBC;21HA=AB20;23A=AB23;22E=AB25;23E=AB24;22I=AB22
ETHIOPIC SYLLABLE CCHHO=AB26;22U=AB21;21I=2DBA;21O=2DBE;21U=2DB9;20I=2DAA;20O=2DAE;20U=2DA9
ETHIOPIC SYLLABLE CE=127D;20E=127C;19HA=1328;21A=132B;20E=132D;21E=132C;20I=132A;20O=132E;21A=2D90
ETHIOPIC SYLLABLE CHU=1329;20WA=132F;19I=127A;19O=127E;20A=2D87;19U=1279;19WA=127F;18DA=12F0
ETHIOPIC SYLLABLE DAA=12F3;19DA=12F8;21A=12FB;20E=12FD;21E=12FC;20HAA=AB0B;21E=AB0D;22E=AB0C
ETHIOPIC SYLLABLE DDHI=AB0A;21O=AB0E;21U=AB09;20I=12FA;20O=12FE;21A=2D8D;20U=12F9;20WA=12FF
ETHIOPIC SYLLABLE DE=12F5;20E=12F4;19I=12F2;19O=12F6;20A=2D8C;19U=12F1;19WA=12F7;19ZAA=AB13
ETHIOPIC SYLLABLE DZE=AB15;21E=AB14;20I=AB12;20O=AB16;20U=AB11;18FA=1348;20A=134B;19E=134D
ETHIOPIC SYLLABLE FEE=134C;19I=134A;19O=134E;19U=1349;19WA=134F;20E=138B;21E=138A;20I=1389
ETHIOPIC SYLLABLE FYA=135A;18GA=1308;20A=130B;19E=130D;20E=130C;19GA=1318;21A=131B;20E=131D
ETHIOPIC SYLLABLE GGEE=131C;20I=131A;20O=131E;20U=1319;20WA=2D93;22A=131F;21E=2D96;22E=2D95
ETHIOPIC SYLLABLE GGWI=2D94;19I=130A;19LOTTAL A=12A0;27A=12A3;26E=12A5;27E=12A4;26I=12A2;26O=12A6
ETHIOPIC SYLLABLE GLOTTAL OA=2D8A;26U=12A1;26WA=12A7;19O=130E;20A=130F;19U=1309;20RAGE BWEE=1E7F4
ETHIOPIC SYLLABLE GURAGE BWI=1E7F3;25FWEE=1E7FC;27I=1E7FB;25GWE=1E7FA;28E=1E7F9;27I=1E7F8
ETHIOPIC SYLLABLE GURAGE HHWA=1E7E8;25KWE=1E7F7;28E=1E7F6;27I=1E7F5;25MWEE=1E7EE;27I=1E7ED
ETHIOPIC SYLLABLE GURAGE PWEE=1E7FE;27I=1E7FD;25QWE=1E7F2;28E=1E7F1;27I=1E7F0;19WA=1310;21A=1313
ETHIOPIC SYLLABLE GWE=1315;21E=1314;20I=1312;19YA=2DD8;21A=2DDB;20E=2DDD;21E=2DDC;20I=2DDA
ETHIOPIC SYLLABLE GYO=2DDE;20U=2DD9;18HA=1200;20A=1203;19E=1205;20E=1204;19HA=1210;21A=1213
ETHIOPIC SYLLABLE HHE=1215;21E=1214;20I=1212;20O=1216;20U=1211;20WA=1217;21E=1E7EB;22E=1E7EA
ETHIOPIC SYLLABLE HHWI=1E7E9;20YA=1E7E0;22A=1E7E3;21E=1E7E5;22E=1E7E4;21I=1E7E2;21O=1E7E6
ETHIOPIC SYLLABLE HHYU=1E7E1;19I=1202;19O=1206;20A=1207;19U=1201;18JA=1300;20A=1303;19E=1305
ETHIOPIC SYLLABLE JEE=1304;19I=1302;19O=1306;20A=2D8E;19U=1301;19WA=1307;18KA=12A8;20A=12AB
ETHIOPIC SYLLABLE KE=12AD;20E=12AC;19I=12AA;19O=12AE;20A=12AF;19U=12A9;19WA=12B0;21A=12B3;20E=12B5
ETHIOPIC SYLLABLE KWEE=12B4;20I=12B2;19XA=12B8;21A=12BB;20E=12BD;21E=12BC;20I=12BA;20O=12BE
ETHIOPIC SYLLABLE KXU=12B9;20WA=12C0;22A=12C3;21E=12C5;22E=12C4;21I=12C2;19YA=2DC8;21A=2DCB
ETHIOPIC SYLLABLE KYE=2DCD;21E=2DCC;20I=2DCA;20O=2DCE;20U=2DC9;18LA=1208;20A=120B;19E=120D
ETHIOPIC SYLLABLE LEE=120C;19I=120A;19O=120E;20A=2D80;19U=1209;19WA=120F;18MA=1218;20A=121B
ETHIOPIC SYLLABLE ME=121D;20E=121C;19I=121A;19O=121E;20A=2D81;19U=1219;19WA=121F;20E=1383;21E=1382
ETHIOPIC SYLLABLE MWI=1381;19YA=1359;18NA=1290;20A=1293;19E=1295;20E=1294;19I=1292;19O=1296
ETHIOPIC SYLLABLE NOA=2D88;19U=1291;19WA=1297;19YA=1298;21A=129B;20E=129D;21E=129C;20I=129A
ETHIOPIC SYLLABLE NYO=129E;21A=2D89;20U=1299;20WA=129F;18PA=1350;20A=1353;19E=1355;20E=1354
ETHIOPIC SYLLABLE PHA=1330;21A=1333;21RYNGEAL A=12D0;30A=12D3;29E=12D5;30E=12D4;29I=12D2;29O=12D6
ETHIOPIC SYLLABLE PHARYNGEAL U=12D1;20E=1335;21E=1334;20I=1332;20O=1336;21A=2D91;20U=1331
ETHIOPIC SYLLABLE PHWA=1337;19I=1352;19O=1356;20A=2D92;19U=1351;19WA=1357;20E=138F;21E=138E
ETHIOPIC SYLLABLE PWI=138D;18QA=1240;20A=1243;19E=1245;20E=1244;19HA=1250;21A=1253;20E=1255
ETHIOPIC SYLLABLE QHEE=1254;20I=1252;20O=1256;20U=1251;20WA=1258;22A=125B;21E=125D;22E=125C
ETHIOPIC SYLLABLE QHWI=125A;19I=1242;19O=1246;20A=1247;19U=1241;19WA=1248;21A=124B;20E=124D
ETHIOPIC SYLLABLE QWEE=124C;20I=124A;19YA=2DC0;21A=2DC3;20E=2DC5;21E=2DC4;20I=2DC2;20O=2DC6
ETHIOPIC SYLLABLE QYU=2DC1;18RA=1228;20A=122B;19E=122D;20E=122C;19I=122A;19O=122E;20A=2D82
ETHIOPIC SYLLABLE RU=1229;19WA=122F;19YA=1358;18SA=1230;20A=1233;19E=1235;20BATBEIT BWA=1384
ETHIOPIC SYLLABLE SEBATBEIT FWA=1388;28MWA=1380;28PWA=138C;20E=1234;19HA=1238;21A=123B;20E=123D
ETHIOPIC SYLLABLE SHEE=123C;20I=123A;20O=123E;21A=2D84;20U=1239;20WA=123F;19I=1232;19O=1236
ETHIOPIC SYLLABLE SOA=2D83;19SA=2DA0;21A=2DA3;20E=2DA5;21E=2DA4;20I=2DA2;20O=2DA6;20U=2DA1
ETHIOPIC SYLLABLE SU=1231;19WA=1237;19ZA=1220;21A=1223;20E=1225;21E=1224;20I=1222;20O=1226
ETHIOPIC SYLLABLE SZU=1221;20WA=1227;18TA=1270;20A=1273;19E=1275;20E=1274;19HA=1320;21A=1323
ETHIOPIC SYLLABLE THE=1325;21E=1324;20I=1322;20O=1326;21A=2D8F;20U=1321;20WA=1327;19I=1272
ETHIOPIC SYLLABLE TO=1276;20A=2D86;19SA=1338;21A=133B;20E=133D;21E=133C;20I=133A;20O=133E;20U=1339
ETHIOPIC SYLLABLE TSWA=133F;19THAA=AB03;21E=AB05;22E=AB04;21I=AB02;21O=AB06;21U=AB01;19U=1271
ETHIOPIC SYLLABLE TWA=1277;19ZA=1340;21A=1343;20E=1345;21E=1344;20I=1342;20O=1346;21A=1347
ETHIOPIC SYLLABLE TZU=1341;18VA=1268;20A=126B;19E=126D;20E=126C;19I=126A;19O=126E;19U=1269
ETHIOPIC SYLLABLE VWA=126F;18WA=12C8;20A=12CB;19E=12CD;20E=12CC;19I=12CA;19O=12CE;20A=12CF
ETHIOPIC SYLLABLE WU=12C9;18XA=1280;20A=1283;19E=1285;20E=1284;19I=1282;19O=1286;20A=1287;19U=1281
ETHIOPIC SYLLABLE XWA=1288;21A=128B;20E=128D;21E=128C;20I=128A;19YA=2DD0;21A=2DD3;20E=2DD5
ETHIOPIC SYLLABLE XYEE=2DD4;20I=2DD2;20O=2DD6;20U=2DD1;18YA=12E8;20A=12EB;19E=12ED;20E=12EC
ETHIOPIC SYLLABLE YI=12EA;19O=12EE;20A=12EF;19U=12E9;18ZA=12D8;20A=12DB;19E=12DD;20E=12DC
ETHIOPIC SYLLABLE ZHA=12E0;21A=12E3;20E=12E5;21E=12E4;20I=12E2;20O=12E6;20U=12E1;20WA=12E7
ETHIOPIC SYLLABLE ZI=12DA;19O=12DE;20A=2D8B;19U=12D9;19WA=12DF;19ZA=2DB0;21A=2DB3;20E=2DB5
ETHIOPIC SYLLABLE ZZEE=2DB4;20I=2DB2;20O=2DB6;20U=2DB1;09TONAL MARK CHIRET=1396;20DERET-HIDET=1398
ETHIOPIC TONAL MARK DERET=1391;21IFAT=1394;20HIDET=1397;20KENAT=1395;21URT=1399;20RIKRIK=1392
ETHIOPIC TONAL MARK SHORT RIKRIK=1393;20YIZET=1390;09WORDSPACE=1361;02X=3;01ULER CONSTANT=2107
EURO SIGN=20AC;04-CURRENCY SIGN=20A0;04PEAN CASTLE=1F3F0;09POST OFFICE=1F3E4;01VERGREEN TREE=1F332
EXCESS=2239;03LAMATION MARK=21;12QUESTION MARK=2049;02PRESSIONLESS FACE=1F611
EXTENDED ARABIC-INDIC DIGIT EIGHT=6F8;28FIVE=6F5;29OUR=6F4;28NINE=6F9;28ONE=6F1;28SEVEN=6F7
EXTENDED ARABIC-INDIC DIGIT SIX=6F6;28THREE=6F3;29WO=6F2;28ZERO=6F0;03RATERRESTRIAL ALIEN=1F47D
EXTREMELY HEAVY FIVE SPOKED ASTERISK=1F7B4;16GREEK CROSS=1F7A7;16SALTIRE=1F7AE
EXTREMELY HEAVY SIX SPOKED ASTERISK=1F7BA;16WHITE CIRCLE=1F789;22SQUARE=1F793;01YE=1F441
EYEGLASSES=1F453;03S=1F440;00FACE HOLDING BACK TEARS=1F979;05MASSAGE=1F486;05PALM=1F926
FACE SAVOURING DELICIOUS FOOD=1F60B;06CREAMING IN FEAR=1F631;05THROWING A KISS=1F618
FACE WITH COLD SWEAT=1F613;12WBOY HAT=1F920;10DIAGONAL MOUTH=1FAE4
FACE WITH FINGER COVERING CLOSED LIPS=1F92B;10HEAD-BANDAGE=1F915;10LOOK OF TRIUMPH=1F624
FACE WITH MEDICAL MASK=1F637;11ONOCLE=1F9D0;10NO GOOD GESTURE=1F645;10OK GESTURE=1F646
FACE WITH ONE EYEBROW RAISED=1F928;11PEN EYES AND HAND OVER MOUTH=1FAE2
FACE WITH OPEN MOUTH AND COLD SWEAT=1F630;21VOMITING=1F92E;20=1F62E
FACE WITH PARTY HORN AND PARTY HAT=1F973;11EEKING EYE=1FAE3;11LEADING EYES=1F97A
FACE WITH ROLLING EYES=1F644;10STUCK-OUT TONGUE AND TIGHTLY-CLOSED EYES=1F61D;31WINKING EYE=1F61C
FACE WITH STUCK-OUT TONGUE=1F61B;10TEARS OF JOY=1F602;11HERMOMETER=1F912
FACE WITH UNEVEN EYES AND WAVY MOUTH=1F974;09OUT MOUTH=1F636;03SIMILE SIGN=213B;03TORY=1F3ED
FAIRY=1F9DA;02LAFEL=1F9C6;03LEN LEAF=1F342;04ING DIAGONAL CROSSING NORTH EAST ARROW=292F
FALLING DIAGONAL CROSSING RISING DIAGONAL=292C;17IN WHITE CIRCLE IN BLACK SQUARE=26DE;02MILY=1F46A
FARSI SYMBOL=262B;02THER CHRISTMAS=1F385;02X ICON=1F5B7;04MACHINE=1F4E0;01EARFUL FACE=1F628
FEATHER=1FAB6;02MALE SIGN=2640;03ININE ORDINAL INDICATOR=AA;02NCER=1F93A;02RRIS WHEEL=1F3A1
FERRY=26F4;01F=C;01IELD HOCKEY STICK AND BALL=1F3D1;02GURE DASH=2012;07SPACE=2007
FILE CABINET=1F5C4;05FOLDER=1F4C1;05SEPARATOR=1C;03M FRAMES=1F39E;05PROJECTOR=1F4FD
FINITE PART INTEGRAL=2A0D;02RE ENGINE=1F692;06XTINGUISHER=1F9EF;04=1F525;04CRACKER=1F9E8
FIREWORK SPARKLER=1F387;08S=1F386;03ST PLACE MEDAL=1F947;06QUARTER MOON SYMBOL=1F313
FIRST QUARTER MOON WITH FACE=1F31B;18=263D;06STRONG ISOLATE=2068;02SH CAKE WITH SWIRL DESIGN=1F365
FISH=1F41F;04EYE=25C9;04ING POLE AND FISH=1F3A3;03TED HAND SIGN=1F44A;02VE DOT MARK=2E2D
FIVE DOT PUNCTUATION=2059;01LAG IN HOLE=26F3;03MINGO=1F9A9;03T SHOE=1F97F;04BREAD=1FAD3"

end Foldline.Text.CharacterName
