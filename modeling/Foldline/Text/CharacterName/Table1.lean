/-! # Character names, part 1 of 8

The names from ABACUS on,
in the notation of `CharacterName`. -/

namespace Foldline.Text.CharacterName

/-- Rows of names. -/
def rows1 : String := "
ABACUS=1F9EE;01C CURRENT=23E6;02CORDION=1FA97;04UNT OF=2100;02K=6;03NOWLEDGE=6
ACTIVATE ARABIC FORM SHAPING=206D;09SYMMETRIC SWAPPING=206B;02UTE ACCENT=B4;07NGLE=299F
ADDRESSED TO THE SUBJECT=2101;02HESIVE BANDAGE=1FA79;02I SHAKTI=262C;02LAM ALIF LENGTHENER=1E944
ADLAM CAPITAL LETTER ALIF=1E900;21BA=1E904;22HE=1E907;21CHI=1E915;21DAALI=1E901;22HA=1E90D
ADLAM CAPITAL LETTER E=1E909;21FA=1E90A;21GA=1E918;22BE=1E91E;21HA=1E916;21I=1E90B;21JIIM=1E914
ADLAM CAPITAL LETTER KAF=1E911;22HA=1E91D;22PO=1E920;21LAAM=1E902;21MIIM=1E903;21NHA=1E91B
ADLAM CAPITAL LETTER NUN=1E910;22YA=1E919;21O=1E90C;21PE=1E906;21QAAF=1E917;21RA=1E908;21SHA=1E921
ADLAM CAPITAL LETTER SINNYIIYHE=1E905;21TU=1E91A;21U=1E913;21VA=1E91C;21WAW=1E90F;21YA=1E912
ADLAM CAPITAL LETTER YHE=1E90E;21ZAL=1E91F;07ONSONANT MODIFIER=1E948;06DIGIT EIGHT=1E958
ADLAM DIGIT FIVE=1E955;13OUR=1E954;12NINE=1E959;12ONE=1E951;12SEVEN=1E957;13IX=1E956;12THREE=1E953
ADLAM DIGIT TWO=1E952;12ZERO=1E950;06GEMINATE CONSONANT MODIFIER=1E949;13ION MARK=1E946
ADLAM HAMZA=1E947;06INITIAL EXCLAMATION MARK=1E95E;14QUESTION MARK=1E95F;06NASALIZATION MARK=1E94B
ADLAM NUKTA=1E94A;06SMALL LETTER ALIF=1E922;19BA=1E926;20HE=1E929;19CHI=1E937;19DAALI=1E923
ADLAM SMALL LETTER DHA=1E92F;19E=1E92B;19FA=1E92C;19GA=1E93A;20BE=1E940;19HA=1E938;19I=1E92D
ADLAM SMALL LETTER JIIM=1E936;19KAF=1E933;20HA=1E93F;20PO=1E942;19LAAM=1E924;19MIIM=1E925
ADLAM SMALL LETTER NHA=1E93D;20UN=1E932;20YA=1E93B;19O=1E92E;19PE=1E928;19QAAF=1E939;19RA=1E92A
ADLAM SMALL LETTER SHA=1E943;20INNYIIYHE=1E927;19TU=1E93C;19U=1E935;19VA=1E93E;19WAW=1E931
ADLAM SMALL LETTER YA=1E934;20HE=1E930;19ZAL=1E941;06VOWEL LENGTHENER=1E945;02METOS=2BE5
ADMISSION TICKETS=1F39F;02ULT=1F9D1;01EGEAN CHECK MARK=10102;07DRY MEASURE FIRST SUBUNIT=1013C
AEGEAN LIQUID MEASURE FIRST SUBUNIT=1013D;07MEASURE SECOND SUBUNIT=1013E;15THIRD SUBUNIT=1013F
AEGEAN NUMBER EIGHT HUNDRED=10120;20THOUSAND=10129;19=1010E;19Y THOUSAND=10132;20=10117
AEGEAN NUMBER FIFTY THOUSAND=1012F;19=10114;16VE HUNDRED=1011D;19THOUSAND=10126;18=1010B
AEGEAN NUMBER FORTY THOUSAND=1012E;19=10113;16UR HUNDRED=1011C;19THOUSAND=10125;18=1010A
AEGEAN NUMBER NINE HUNDRED=10121;19THOUSAND=1012A;18=1010F;18TY THOUSAND=10133;20=10118
AEGEAN NUMBER ONE HUNDRED=10119;18THOUSAND=10122;17=10107;14SEVEN HUNDRED=1011F;20THOUSAND=10128
AEGEAN NUMBER SEVEN=1010D;19TY THOUSAND=10131;21=10116;15IX HUNDRED=1011E;18THOUSAND=10127
AEGEAN NUMBER SIX=1010C;17TY THOUSAND=10130;19=10115;14TEN THOUSAND=1012B;17=10110
AEGEAN NUMBER THIRTY THOUSAND=1012D;20=10112;16REE HUNDRED=1011B;20THOUSAND=10124;19=10109
AEGEAN NUMBER TWENTY THOUSAND=1012C;20=10111;16O HUNDRED=1011A;18THOUSAND=10123;17=10108
AEGEAN WEIGHT BASE UNIT=10137;14FIRST SUBUNIT=10138;15OURTH SUBUNIT=1013B;14SECOND SUBUNIT=10139
AEGEAN WEIGHT THIRD SUBUNIT=1013A;08ORD SEPARATOR DOT=10101;22LINE=10100;02RIAL TRAMWAY=1F6A1
AFGHANI SIGN=60B;01HOM CONSONANT SIGN MEDIAL LA=1171D;28IGATING RA=1171F;27RA=1171E
AHOM DIGIT EIGHT=11738;11FIVE=11735;12OUR=11734;11NINE=11739;11ONE=11731;11SEVEN=11737;12IX=11736
AHOM DIGIT THREE=11733;12WO=11732;11ZERO=11730;05LETTER A=11712;13LTERNATE BA=1171A;22GA=11716
AHOM LETTER ALTERNATE TA=11705;12BA=11708;13HA=11718;12CA=11740;13HA=1170B;12DA=11713;13DA=11743
AHOM LETTER DDHA=11744;13HA=11714;12GA=11715;13HA=11717;12HA=11711;12JA=1170A;13HA=11719
AHOM LETTER KA=11700;13HA=11701;12LA=1170E;13LA=11746;12MA=11709;12NA=11703;13GA=11702;13NA=11745
AHOM LETTER NYA=11710;12PA=11706;13HA=11707;12RA=1170D;12SA=1170F;12TA=11704;13HA=1170C;13TA=11741
AHOM LETTER TTHA=11742;05NUMBER TEN=1173A;13WENTY=1173B;05SIGN KILLER=1172B;10RULAI=1173E
AHOM SIGN SECTION=1173D;11MALL SECTION=1173C;06YMBOL VI=1173F;05VOWEL SIGN A=11720;17A=11721
AHOM VOWEL SIGN AI=11729;17M=1172A;17W=11727;16E=11726;16I=11722;17I=11723;16O=11728;16U=11724
AHOM VOWEL SIGN UU=11725;01IRPLANE ARRIVING=1F6EC;09DEPARTURE=1F6EB;08=2708;01KTIESELSKAB=214D
ALARM CLOCK=23F0;02CHEMICAL SYMBOL FOR AIR=1F701;23LEMBIC=1F76A;24KALI-2=1F737;28=1F736;24UM=1F745
ALCHEMICAL SYMBOL FOR AMALGAM=1F75B;23NTIMONY ORE=1F72B;23QUA REGIA-2=1F707;32=1F706
ALCHEMICAL SYMBOL FOR AQUA VITAE-2=1F709;32=1F708;26FORTIS=1F705;23RSENIC=1F73A;23SHES=1F757
ALCHEMICAL SYMBOL FOR AURIPIGMENT=1F73D;22BATH OF MARY=1F76B;30VAPOURS=1F76C;23ISMUTH ORE=1F73E
ALCHEMICAL SYMBOL FOR BLACK SULFUR=1F70F;23ORAX-2=1F743;283=1F744;27=1F742;23RICK=1F759
ALCHEMICAL SYMBOL FOR CADUCEUS=1F750;24LX=1F74C;24PUT MORTUUM=1F74E;23INNABAR=1F713
ALCHEMICAL SYMBOL FOR COPPER ANTIMONIATE=1F725;29ORE=1F720;23ROCUS OF COPPER-2=1F724;38=1F723
ALCHEMICAL SYMBOL FOR CROCUS OF IRON=1F71E;24UCIBLE-2=1F766;313=1F767;314=1F768;315=1F769;30=1F765
ALCHEMICAL SYMBOL FOR DAY-NIGHT=1F770;23ISSOLVE-2=1F762;30=1F761;25TILL=1F760;22EARTH=1F703
ALCHEMICAL SYMBOL FOR FIRE=1F702;22GOLD=1F71A;23UM=1F749;22HALF DRAM=1F772;27OUNCE=1F773
ALCHEMICAL SYMBOL FOR HORSE DUNG=1F756;24UR=1F76E;22IRON ORE-2=1F71D;30=1F71C;26-COPPER ORE=1F721
ALCHEMICAL SYMBOL FOR LEAD ORE=1F72A;23ODESTONE=1F753;22MARCASITE=1F738;23ERCURY SUBLIMATE-2=1F711
ALCHEMICAL SYMBOL FOR MERCURY SUBLIMATE-3=1F712;39=1F710;23ONTH=1F771;22NIGHT=1F76F;24TRE=1F715
ALCHEMICAL SYMBOL FOR OIL=1F746;22PHILOSOPHERS SULFUR=1F70E;23OT ASHES=1F758;24WDER=1F74B
ALCHEMICAL SYMBOL FOR POWDERED BRICK=1F75A;23RECIPITATE=1F75F;23URIFY=1F763;24TREFACTION=1F764
ALCHEMICAL SYMBOL FOR QUICK LIME=1F741;25NTESSENCE=1F700;22REALGAR-2=1F73C;29=1F73B
ALCHEMICAL SYMBOL FOR REGULUS OF ANTIMONY-2=1F731;41=1F730;33IRON=1F71F;29-2=1F733;303=1F734
ALCHEMICAL SYMBOL FOR REGULUS-4=1F735;29=1F732;24TORT=1F76D;23OCK SALT-2=1F719;31=1F718
ALCHEMICAL SYMBOL FOR SAL-AMMONIAC=1F739;25T OF ANTIMONY=1F72D;30COPPER ANTIMONIATE=1F726;26=1F714
ALCHEMICAL SYMBOL FOR SCEPTER OF JOVE=1F74F;23ILVER=1F71B;23OAP=1F754;23PIRIT=1F747
ALCHEMICAL SYMBOL FOR STARRED TRIDENT=1F752;24RATUM SUPER STRATUM-2=1F75D;43=1F75C
ALCHEMICAL SYMBOL FOR SUBLIMATE OF ANTIMONY=1F72C;35COPPER=1F722;35SALT OF ANTIMONY=1F72E
ALCHEMICAL SYMBOL FOR SUBLIMATE OF SALT OF COPPER=1F727;30ION=1F75E;24LFUR=1F70D;22TARTAR-2=1F740
ALCHEMICAL SYMBOL FOR TARTAR=1F73F;23IN ORE=1F729;25CTURE=1F748;23RIDENT=1F751;23UTTY=1F74D
ALCHEMICAL SYMBOL FOR URINE=1F755;22VERDIGRIS=1F728;23INEGAR OF ANTIMONY=1F72F;29-2=1F70B
ALCHEMICAL SYMBOL FOR VINEGAR-3=1F70C;29=1F70A;24TRIOL-2=1F717;29=1F716;22WATER=1F704;24X=1F74A
ALEF SYMBOL=2135;03MBIC=2697;03RT=7;02IEN MONSTER=1F47E;02L AROUND-PROFILE=232E;04EQUAL TO=224C
ALM=61C;03OST EQUAL OR EQUAL TO=224A;13TO WITH CIRCUMFLEX ACCENT=2A6F;15=2248
ALTERNATE ONE-WAY LEFT WAY TRAFFIC=26D5;08IVE KEY SYMBOL=2387;01MALGAMATION OR COPRODUCT=2A3F
AMBULANCE=1F691;02ERICAN FOOTBALL=1F3C8;02PERSAND=26;03HORA=1F3FA;01NATOLIAN HIEROGLYPH A001=14400
ANATOLIAN HIEROGLYPH A002=14401;243=14402;244=14403;245=14404;246=14405;247=14406;248=14407
ANATOLIAN HIEROGLYPH A009=14408;2310=14409;25A=1440A;241=1440B;242=1440C;243=1440D;244=1440E
ANATOLIAN HIEROGLYPH A015=1440F;246=14410;247=14411;248=14412;249=14413;2320=14414;241=14415
ANATOLIAN HIEROGLYPH A022=14416;243=14417;244=14418;245=14419;246=1441A;25A=1441B;247=1441C
ANATOLIAN HIEROGLYPH A028=1441D;249=1441E;2330=1441F;241=14420;242=14421;243=14422;244=14423
ANATOLIAN HIEROGLYPH A035=14424;246=14425;247=14426;248=14427;249=14428;25A=14429;2340=1442A
ANATOLIAN HIEROGLYPH A041=1442B;25A=1442C;242=1442D;243=1442E;244=1442F;245=14430;25A=14431
ANATOLIAN HIEROGLYPH A046=14432;25A=14433;25B=14434;247=14435;248=14436;249=14437;2350=14438
ANATOLIAN HIEROGLYPH A051=14439;242=1443A;243=1443B;244=1443C;245=1443D;246=1443E;247=1443F
ANATOLIAN HIEROGLYPH A058=14440;249=14441;2360=14442;241=14443;242=14444;243=14445;244=14446
ANATOLIAN HIEROGLYPH A065=14447;246=14448;25A=14449;25B=1444A;25C=1444B;247=1444C;248=1444D
ANATOLIAN HIEROGLYPH A069=1444E;2370=1444F;241=14450;242=14451;243=14452;244=14453;245=14454
ANATOLIAN HIEROGLYPH A076=14455;247=14456;248=14457;249=14458;2380=14459;241=1445A;242=1445B
ANATOLIAN HIEROGLYPH A083=1445C;244=1445D;245=1445E;246=1445F;247=14460;248=14461;249=14462
ANATOLIAN HIEROGLYPH A090=14463;241=14464;242=14465;243=14466;244=14467;245=14468;246=14469
ANATOLIAN HIEROGLYPH A097=1446A;25A=1446B;248=1446C;25A=1446D;249=1446E;22100=1446F;25A=14470
ANATOLIAN HIEROGLYPH A101=14471;25A=14472;242=14473;25A=14474;243=14475;244=14476;25A=14477
ANATOLIAN HIEROGLYPH A104B=14478;25C=14479;245=1447A;25A=1447B;25B=1447C;246=1447D;247=1447E
ANATOLIAN HIEROGLYPH A107A=1447F;25B=14480;25C=14481;248=14482;249=14483;2310=14484;25A=14485
ANATOLIAN HIEROGLYPH A110B=14486;241=14487;242=14488;243=14489;244=1448A;245=1448B;25A=1448C
ANATOLIAN HIEROGLYPH A116=1448D;247=1448E;248=1448F;249=14490;2320=14491;241=14492;242=14493
ANATOLIAN HIEROGLYPH A123=14494;244=14495;245=14496;25A=14497;246=14498;247=14499;248=1449A
ANATOLIAN HIEROGLYPH A129=1449B;2330=1449C;241=1449D;242=1449E;243=1449F;244=144A0;245=144A1
ANATOLIAN HIEROGLYPH A135A=144A2;246=144A3;247=144A4;248=144A5;249=144A6;2340=144A7;241=144A8
ANATOLIAN HIEROGLYPH A142=144A9;243=144AA;244=144AB;245=144AC;246=144AD;247=144AE;248=144AF
ANATOLIAN HIEROGLYPH A149=144B0;2350=144B1;241=144B2;242=144B3;243=144B4;244=144B5;245=144B6
ANATOLIAN HIEROGLYPH A156=144B7;247=144B8;248=144B9;249=144BA;2360=144BB;241=144BC;242=144BD
ANATOLIAN HIEROGLYPH A163=144BE;244=144BF;245=144C0;246=144C1;247=144C2;248=144C3;249=144C4
ANATOLIAN HIEROGLYPH A170=144C5;241=144C6;242=144C7;243=144C8;244=144C9;245=144CA;246=144CB
ANATOLIAN HIEROGLYPH A177=144CC;248=144CD;249=144CE;2380=144CF;241=144D0;242=144D1;243=144D2
ANATOLIAN HIEROGLYPH A184=144D3;245=144D4;246=144D5;247=144D6;248=144D7;249=144D8;2390=144D9
ANATOLIAN HIEROGLYPH A191=144DA;242=144DB;243=144DC;244=144DD;245=144DE;246=144DF;247=144E0
ANATOLIAN HIEROGLYPH A198=144E1;249=144E2;22200=144E3;241=144E4;242=144E5;25A=144E6;25B=144E7
ANATOLIAN HIEROGLYPH A203=144E8;244=144E9;245=144EA;246=144EB;247=144EC;25A=144ED;248=144EE
ANATOLIAN HIEROGLYPH A209=144EF;25A=144F0;2310=144F1;241=144F2;242=144F3;243=144F4;244=144F5
ANATOLIAN HIEROGLYPH A215=144F6;25A=144F7;246=144F8;25A=144F9;247=144FA;248=144FB;249=144FC
ANATOLIAN HIEROGLYPH A220=144FD;241=144FE;242=144FF;243=14500;244=14501;245=14502;246=14503
ANATOLIAN HIEROGLYPH A227=14504;25A=14505;248=14506;249=14507;2330=14508;241=14509;242=1450A
ANATOLIAN HIEROGLYPH A233=1450B;244=1450C;245=1450D;246=1450E;247=1450F;248=14510;249=14511
ANATOLIAN HIEROGLYPH A240=14512;241=14513;242=14514;243=14515;244=14516;245=14517;246=14518
ANATOLIAN HIEROGLYPH A247=14519;248=1451A;249=1451B;2350=1451C;241=1451D;242=1451E;243=1451F
ANATOLIAN HIEROGLYPH A254=14520;245=14521;246=14522;247=14523;248=14524;249=14525;2360=14526
ANATOLIAN HIEROGLYPH A261=14527;242=14528;243=14529;244=1452A;245=1452B;246=1452C;247=1452D
ANATOLIAN HIEROGLYPH A267A=1452E;248=1452F;249=14530;2370=14531;241=14532;242=14533;243=14534
ANATOLIAN HIEROGLYPH A274=14535;245=14536;246=14537;247=14538;248=14539;249=1453A;2380=1453B
ANATOLIAN HIEROGLYPH A281=1453C;242=1453D;243=1453E;244=1453F;245=14540;246=14541;247=14542
ANATOLIAN HIEROGLYPH A288=14543;249=14544;25A=14545;2390=14546;241=14547;242=14548;243=14549
ANATOLIAN HIEROGLYPH A294=1454A;25A=1454B;245=1454C;246=1454D;247=1454E;248=1454F;249=14550
ANATOLIAN HIEROGLYPH A299A=14551;22300=14552;241=14553;242=14554;243=14555;244=14556;245=14557
ANATOLIAN HIEROGLYPH A306=14558;247=14559;248=1455A;249=1455B;25A=1455C;2310=1455D;241=1455E
ANATOLIAN HIEROGLYPH A312=1455F;243=14560;244=14561;245=14562;246=14563;247=14564;248=14565
ANATOLIAN HIEROGLYPH A319=14566;2320=14567;241=14568;242=14569;243=1456A;244=1456B;245=1456C
ANATOLIAN HIEROGLYPH A326=1456D;247=1456E;248=1456F;249=14570;25A=14571;2330=14572;241=14573
ANATOLIAN HIEROGLYPH A332A=14574;25B=14575;25C=14576;243=14577;244=14578;245=14579;246=1457A
ANATOLIAN HIEROGLYPH A336A=1457B;25B=1457C;25C=1457D;247=1457E;248=1457F;249=14580;2340=14581
ANATOLIAN HIEROGLYPH A341=14582;242=14583;243=14584;244=14585;245=14586;246=14587;247=14588
ANATOLIAN HIEROGLYPH A348=14589;249=1458A;2350=1458B;241=1458C;242=1458D;243=1458E;244=1458F
ANATOLIAN HIEROGLYPH A355=14590;246=14591;247=14592;248=14593;249=14594;25A=14595;2360=14596
ANATOLIAN HIEROGLYPH A361=14597;242=14598;243=14599;244=1459A;25A=1459B;245=1459C;246=1459D
ANATOLIAN HIEROGLYPH A367=1459E;248=1459F;25A=145A0;249=145A1;2370=145A2;241=145A3;25A=145A4
ANATOLIAN HIEROGLYPH A372=145A5;243=145A6;244=145A7;245=145A8;246=145A9;247=145AA;248=145AB
ANATOLIAN HIEROGLYPH A379=145AC;2380=145AD;241=145AE;25A=145AF;242=145B0;243 RA OR RI=145B1
ANATOLIAN HIEROGLYPH A383A=145B2;244=145B3;245=145B4;246=145B5;25A=145B6;247=145B7;248=145B8
ANATOLIAN HIEROGLYPH A389=145B9;2390=145BA;241=145BB;242=145BC;243 EIGHT=145BD;244=145BE;245=145BF
ANATOLIAN HIEROGLYPH A396=145C0;247=145C1;248=145C2;249=145C3;22400=145C4;241=145C5;242=145C6
ANATOLIAN HIEROGLYPH A403=145C7;244=145C8;245=145C9;246=145CA;247=145CB;248=145CC;249=145CD
ANATOLIAN HIEROGLYPH A410 BEGIN LOGOGRAM MARK=145CE;25A END LOGOGRAM MARK=145CF;241=145D0
ANATOLIAN HIEROGLYPH A412=145D1;243=145D2;244=145D3;245=145D4;246=145D5;247=145D6;248=145D7
ANATOLIAN HIEROGLYPH A419=145D8;2320=145D9;241=145DA;242=145DB;243=145DC;244=145DD;245=145DE
ANATOLIAN HIEROGLYPH A426=145DF;247=145E0;248=145E1;249=145E2;2330=145E3;241=145E4;242=145E5
ANATOLIAN HIEROGLYPH A433=145E6;244=145E7;245=145E8;246=145E9;247=145EA;248=145EB;249=145EC
ANATOLIAN HIEROGLYPH A440=145ED;241=145EE;242=145EF;243=145F0;244=145F1;245=145F2;246=145F3
ANATOLIAN HIEROGLYPH A447=145F4;248=145F5;249=145F6;2350=145F7;25A=145F8;241=145F9;242=145FA
ANATOLIAN HIEROGLYPH A453=145FB;244=145FC;245=145FD;246=145FE;247=145FF;25A=14600;248=14601
ANATOLIAN HIEROGLYPH A459=14602;2360=14603;241=14604;242=14605;243=14606;244=14607;245=14608
ANATOLIAN HIEROGLYPH A466=14609;247=1460A;248=1460B;249=1460C;2370=1460D;241=1460E;242=1460F
ANATOLIAN HIEROGLYPH A473=14610;244=14611;245=14612;246=14613;247=14614;248=14615;249=14616
ANATOLIAN HIEROGLYPH A480=14617;241=14618;242=14619;243=1461A;244=1461B;245=1461C;246=1461D
ANATOLIAN HIEROGLYPH A487=1461E;248=1461F;249=14620;2390=14621;241=14622;242=14623;243=14624
ANATOLIAN HIEROGLYPH A494=14625;245=14626;246=14627;247=14628;22501=14629;242=1462A;243=1462B
ANATOLIAN HIEROGLYPH A504=1462C;245=1462D;246=1462E;247=1462F;248=14630;249=14631;2310=14632
ANATOLIAN HIEROGLYPH A511=14633;242=14634;243=14635;244=14636;245=14637;246=14638;247=14639
ANATOLIAN HIEROGLYPH A518=1463A;249=1463B;2320=1463C;241=1463D;242=1463E;243=1463F;244=14640
ANATOLIAN HIEROGLYPH A525=14641;246=14642;247=14643;248=14644;249=14645;2330=14646
ANATOMICAL HEART=1FAC0;02CHOR=2693;02D WITH DOT=27D1;02GER SYMBOL=1F4A2;03LE WITH S INSIDE=299E
ANGLE WITH UNDERBAR=29A4;05=2220;03RY FACE=1F620;03STROM SIGN=212B;03UISHED FACE=1F627;02KH=2625
ANT=1F41C;03ENNA WITH BARS=1F4F6;03ICLOCKWISE CLOSED CIRCLE ARROW=2940;15ONTOUR INTEGRAL=2233
ANTICLOCKWISE DOWNWARDS AND UPWARDS OPEN CIRCLE ARROWS=1F504;14GAPPED CIRCLE ARROW=27F2
ANTICLOCKWISE INTEGRATION=2A11;14OPEN CIRCLE ARROW=21BA;14TOP SEMICIRCLE ARROW=21B6
ANTICLOCKWISE TRIANGLE-HEADED BOTTOM U-SHAPED ARROW=2B8D;30LEFT U-SHAPED ARROW=2B8E
ANTICLOCKWISE TRIANGLE-HEADED OPEN CIRCLE ARROW=2B6F;30RIGHT U-SHAPED ARROW=2B8C
ANTICLOCKWISE TRIANGLE-HEADED TOP U-SHAPED ARROW=2B8F;01PC=9F
APL FUNCTIONAL SYMBOL ALPHA UNDERBAR=2376;27=237A;22BACKSLASH BAR=2340;22CIRCLE BACKSLASH=2349
APL FUNCTIONAL SYMBOL CIRCLE DIAERESIS=2365;29JOT=233E;29STAR=235F;31ILE=233D;29UNDERBAR=235C
APL FUNCTIONAL SYMBOL COMMA BAR=236A;22DEL DIAERESIS=2362;26STILE=2352;26TILDE=236B
APL FUNCTIONAL SYMBOL DELTA STILE=234B;28UNDERBAR=2359;23IAMOND UNDERBAR=235A
APL FUNCTIONAL SYMBOL DOWN CARET TILDE=2371;27SHOE STILE=2366;27TACK JOT=234E;32UNDERBAR=234A
APL FUNCTIONAL SYMBOL DOWNWARDS VANE=2356;22EPSILON UNDERBAR=2377;22GREATER-THAN DIAERESIS=2369
APL FUNCTIONAL SYMBOL I-BEAM=2336;23OTA UNDERBAR=2378;26=2373;22JOT DIAERESIS=2364;26UNDERBAR=235B
APL FUNCTIONAL SYMBOL LEFT SHOE STILE=2367;26WARDS VANE=2345;22OMEGA UNDERBAR=2379;27=2375
APL FUNCTIONAL SYMBOL QUAD BACKSLASH=2342;27CIRCLE=233C;28OLON=2360;27DEL=2354;30TA=234D
APL FUNCTIONAL SYMBOL QUAD DIAMOND=233A;29VIDE=2339;28OWN CARET=234C;31WARDS ARROW=2357
APL FUNCTIONAL SYMBOL QUAD EQUAL=2338;27GREATER-THAN=2344;27JOT=233B;27LEFTWARDS ARROW=2347
APL FUNCTIONAL SYMBOL QUAD LESS-THAN=2343;27NOT EQUAL=236F;27QUESTION=2370;27RIGHTWARDS ARROW=2348
APL FUNCTIONAL SYMBOL QUAD SLASH=2341;27UP CARET=2353;29WARDS ARROW=2350;26=2395;24OTE QUAD=235E
APL FUNCTIONAL SYMBOL QUOTE UNDERBAR=2358;22RHO=2374;23IGHTWARDS VANE=2346
APL FUNCTIONAL SYMBOL SEMICOLON UNDERBAR=236E;23LASH BAR=233F;23QUISH QUAD=2337
APL FUNCTIONAL SYMBOL STAR DIAERESIS=2363;24ILE TILDE=236D;22TILDE DIAERESIS=2368
APL FUNCTIONAL SYMBOL UP CARET TILDE=2372;25SHOE JOT=235D;25TACK DIAERESIS=2361;30JOT=2355
APL FUNCTIONAL SYMBOL UP TACK OVERBAR=2351;24WARDS VANE=234F;22ZILDE=236C;02OLLON=2BE4
APOSTROPHE=27;02PLICATION PROGRAM COMMAND=9F;03ROACHES THE LIMIT=2250
APPROXIMATELY BUT NOT ACTUALLY EQUAL TO=2246;14EQUAL OR EQUAL TO=2A70;20TO OR THE IMAGE OF=2252
APPROXIMATELY EQUAL TO=2245;01QUARIUS=2652;01RABIC BASELINE ROUND DOT=887;07COMMA=60C
ARABIC CURLY DAMMA=8E5;18TAN=8E8;13FATHA=8E4;18TAN=8E7;13KASRA=8E6;18TAN=8E9
ARABIC DAMMA ISOLATED FORM=FE78;13MEDIAL FORM=FE79;13WITH DOT=8FE;12=64F;12TAN ISOLATED FORM=FE72
ARABIC DAMMATAN=64C;09TE SEPARATOR=60D;08ECIMAL SEPARATOR=66B;08ISPUTED END OF AYAH=8E2
ARABIC DOUBLE RIGHT ARROWHEAD ABOVE WITH DOT=8FC;35=8FB;13D MADDA=89E;07EMPTY CENTRE HIGH STOP=6EB
ARABIC EMPTY CENTRE LOW STOP=6EA;08ND OF AYAH=6DD;14TEXT MARK=61D;07FATHA ISOLATED FORM=FE76
ARABIC FATHA MEDIAL FORM=FE77;13WITH DOT ABOVE=8F5;18RING=8F4;18TWO DOTS=65E;12=64E
ARABIC FATHATAN ISOLATED FORM=FE70;15=64B;08IVE POINTED STAR=66D;08OOTNOTE MARKER=602
ARABIC FULL STOP=6D4;07HALF MADDA OVER MADDA=89F;09MZA ABOVE=654;13BELOW=655;07INVERTED DAMMA=657
ARABIC KASRA ISOLATED FORM=FE7A;13MEDIAL FORM=FE7B;13WITH DOT BELOW=8F6;12=650
ARABIC KASRATAN ISOLATED FORM=FE74;15=64D;07LARGE CIRCLE BELOW=8D1;13ROUND DOT ABOVE=8CE
ARABIC LARGE ROUND DOT BELOW=8CF;23INSIDE CIRCLE BELOW=8D2;08EFT ARROWHEAD ABOVE=8F7;22BELOW=8F9
ARABIC LETTER AE=6D5;15FRICAN FEH=8BB;22NOON=8BD;22QAF WITH THREE DOTS ABOVE=8C4;25=8BC
ARABIC LETTER AIN FINAL FORM=FECA;18INITIAL FORM=FECB;19SOLATED FORM=FEC9;18MEDIAL FORM=FECC
ARABIC LETTER AIN WITH THREE DOTS ABOVE=6A0;34BELOW=8B3;34POINTING DOWNWARDS ABOVE=75E
ARABIC LETTER AIN WITH TWO DOTS ABOVE=75D;32VERTICALLY ABOVE=75F;17=639;15LEF FINAL FORM=FE8E
ARABIC LETTER ALEF ISOLATED FORM=FE8D;19MAKSURA FINAL FORM=FEF0;27ISOLATED FORM=FEEF;26=649
ARABIC LETTER ALEF WASLA FINAL FORM=FB51;25ISOLATED FORM=FB50;24=671
ARABIC LETTER ALEF WITH ATTACHED BOTTOM RIGHT KASRA AND DOT ABOVE=87D;56LEFT RING=880;51=875
ARABIC LETTER ALEF WITH ATTACHED FATHA=870;33KASRA=874;33LEFT HAMZA=882;38ROUND DOT=878
ARABIC LETTER ALEF WITH ATTACHED RIGHT HAMZA=881;39ROUND DOT=877;34OUND DOT ABOVE=876;43BELOW=879
ARABIC LETTER ALEF WITH ATTACHED TOP RIGHT FATHA AND DOT ABOVE=87B;53LEFT RING=87E;48=871
ARABIC LETTER ALEF WITH DOT ABOVE=87A;24EXTENDED ARABIC-INDIC DIGIT THREE ABOVE=774;53WO ABOVE=773
ARABIC LETTER ALEF WITH HAMZA ABOVE FINAL FORM=FE84;36ISOLATED FORM=FE83;35=623
ARABIC LETTER ALEF WITH HAMZA BELOW FINAL FORM=FE88;36ISOLATED FORM=FE87;35=625
ARABIC LETTER ALEF WITH LEFT MIDDLE STROKE=873;24MADDA ABOVE FINAL FORM=FE82;36ISOLATED FORM=FE81
ARABIC LETTER ALEF WITH MADDA ABOVE=622;24RIGHT MIDDLE STROKE AND DOT ABOVE=87C;48LEFT RING=87F
ARABIC LETTER ALEF WITH RIGHT MIDDLE STROKE=872;24WAVY HAMZA ABOVE=672;35BELOW=673;18=627
ARABIC LETTER BEEH FINAL FORM=FB53;19INITIAL FORM=FB54;20SOLATED FORM=FB52;19MEDIAL FORM=FB55
ARABIC LETTER BEEH=67B;16H FINAL FORM=FE90;18INITIAL FORM=FE91;19SOLATED FORM=FE8F
ARABIC LETTER BEH MEDIAL FORM=FE92;18WITH DOT BELOW AND THREE DOTS ABOVE=751;23HAMZA ABOVE=8A1
ARABIC LETTER BEH WITH INVERTED SMALL V BELOW=755;23SMALL MEEM ABOVE=8B6;29V BELOW=8A0;30=756
ARABIC LETTER BEH WITH THREE DOTS HORIZONTALLY BELOW=750
ARABIC LETTER BEH WITH THREE DOTS POINTING UPWARDS BELOW AND TWO DOTS ABOVE=753;56=752
ARABIC LETTER BEH WITH TWO DOTS BELOW AND DOT ABOVE=754;17=628;17EH FINAL FORM=FB5B
ARABIC LETTER BEHEH INITIAL FORM=FB5C;21SOLATED FORM=FB5A;20MEDIAL FORM=FB5D;19=680
ARABIC LETTER DAD FINAL FORM=FEBE;18INITIAL FORM=FEBF;19SOLATED FORM=FEBD;18MEDIAL FORM=FEC0
ARABIC LETTER DAD WITH DOT BELOW=6FB;17=636;16HAL FINAL FORM=FB85;20ISOLATED FORM=FB84;19=68C
ARABIC LETTER DAL FINAL FORM=FEAA;18ISOLATED FORM=FEA9;18WITH DOT BELOW AND SMALL TAH=68B;32=68A
ARABIC LETTER DAL WITH FOUR DOTS ABOVE=690;23INVERTED SMALL V BELOW=75A;32V=6EE;23RING=689
ARABIC LETTER DAL WITH THREE DOTS ABOVE DOWNWARDS=68F;34BELOW=8AE
ARABIC LETTER DAL WITH TWO DOTS VERTICALLY BELOW AND SMALL TAH=759;17=62F;15DAHAL FINAL FORM=FB83
ARABIC LETTER DDAHAL ISOLATED FORM=FB82;20=68D;17L FINAL FORM=FB89;19ISOLATED FORM=FB88;18=688
ARABIC LETTER DOTLESS BEH=66E;22FEH=6A1;22QAF=66F;15UL FINAL FORM=FB87;18ISOLATED FORM=FB86;17=68E
ARABIC LETTER DYEH FINAL FORM=FB73;19INITIAL FORM=FB74;20SOLATED FORM=FB72;19MEDIAL FORM=FB75
ARABIC LETTER DYEH=684;14E FINAL FORM=FBE5;16INITIAL FORM=FBE6;17SOLATED FORM=FBE4
ARABIC LETTER E MEDIAL FORM=FBE7;15=6D0;14FARSI YEH FINAL FORM=FBFD;24INITIAL FORM=FBFE
ARABIC LETTER FARSI YEH ISOLATED FORM=FBFC;24MEDIAL FORM=FBFF
ARABIC LETTER FARSI YEH WITH EXTENDED ARABIC-INDIC DIGIT FOUR BELOW=777;57THREE ABOVE=776
ARABIC LETTER FARSI YEH WITH EXTENDED ARABIC-INDIC DIGIT TWO ABOVE=775;29INVERTED V=63D
ARABIC LETTER FARSI YEH WITH THREE DOTS ABOVE=63F;30WO DOTS ABOVE=63E;23=6CC;15EH FINAL FORM=FED2
ARABIC LETTER FEH INITIAL FORM=FED3;19SOLATED FORM=FED1;18MEDIAL FORM=FED4
ARABIC LETTER FEH WITH DOT BELOW AND THREE DOTS ABOVE=8A4;32=6A3;27MOVED BELOW=6A2
ARABIC LETTER FEH WITH THREE DOTS BELOW=6A5;34POINTING UPWARDS BELOW=761;24WO DOTS BELOW=760
ARABIC LETTER FEH=641;14GAF FINAL FORM=FB93;18INITIAL FORM=FB94;19SOLATED FORM=FB92
ARABIC LETTER GAF MEDIAL FORM=FB95;18WITH INVERTED STROKE=8B0;23RING=6B0;23THREE DOTS ABOVE=6B4
ARABIC LETTER GAF WITH TWO DOTS BELOW=6B2;17=6AF;15HAIN FINAL FORM=FECE;20INITIAL FORM=FECF
ARABIC LETTER GHAIN ISOLATED FORM=FECD;20MEDIAL FORM=FED0;20WITH DOT BELOW=6FC
ARABIC LETTER GHAIN WITH THREE DOTS ABOVE=8C3;19=63A;15RAF=8C8;15UEH FINAL FORM=FB97
ARABIC LETTER GUEH INITIAL FORM=FB98;20SOLATED FORM=FB96;19MEDIAL FORM=FB99;18=6B3
ARABIC LETTER HAH FINAL FORM=FEA2;18INITIAL FORM=FEA3;19SOLATED FORM=FEA1;18MEDIAL FORM=FEA4
ARABIC LETTER HAH WITH EXTENDED ARABIC-INDIC DIGIT FOUR BELOW=77C;23HAMZA ABOVE=681
ARABIC LETTER HAH WITH INVERTED SMALL V BELOW=88A;23SMALL ARABIC LETTER TAH ABOVE=772
ARABIC LETTER HAH WITH SMALL ARABIC LETTER TAH AND TWO DOTS=76F;47BELOW=76E;23THREE DOTS ABOVE=685
ARABIC LETTER HAH WITH THREE DOTS POINTING UPWARDS BELOW=758;24WO DOTS ABOVE=757
ARABIC LETTER HAH WITH TWO DOTS VERTICAL ABOVE=682;17=62D;16MZA ISOLATED FORM=FE80;19=621
ARABIC LETTER HEH DOACHASHMEE FINAL FORM=FBAB;30INITIAL FORM=FBAC;31SOLATED FORM=FBAA
ARABIC LETTER HEH DOACHASHMEE MEDIAL FORM=FBAD;29=6BE;18FINAL FORM=FEEA;18GOAL FINAL FORM=FBA7
ARABIC LETTER HEH GOAL INITIAL FORM=FBA8;24SOLATED FORM=FBA6;23MEDIAL FORM=FBA9
ARABIC LETTER HEH GOAL WITH HAMZA ABOVE=6C2;22=6C1;18INITIAL FORM=FEEB;19SOLATED FORM=FEE9
ARABIC LETTER HEH MEDIAL FORM=FEEC;18WITH INVERTED V=6FF;23YEH ABOVE FINAL FORM=FBA5
ARABIC LETTER HEH WITH YEH ABOVE ISOLATED FORM=FBA4;32=6C0;17=647;15IGH HAMZA ALEF=675;25WAW=676
ARABIC LETTER HIGH HAMZA YEH=678;24=674;14JEEM FINAL FORM=FE9E;19INITIAL FORM=FE9F
ARABIC LETTER JEEM ISOLATED FORM=FE9D;19MEDIAL FORM=FEA0;19WITH THREE DOTS ABOVE=8C5;35BELOW=8C6
ARABIC LETTER JEEM WITH TWO DOTS ABOVE=8A2;18=62C;16H FINAL FORM=FB8B;18ISOLATED FORM=FB8A;17=698
ARABIC LETTER KAF FINAL FORM=FEDA;18INITIAL FORM=FEDB;19SOLATED FORM=FED9;18MEDIAL FORM=FEDC
ARABIC LETTER KAF WITH DOT ABOVE=6AC;27BELOW=8B4;23RING=6AB;23THREE DOTS BELOW=6AE
ARABIC LETTER KAF WITH TWO DOTS ABOVE=77F;17=643;16SHMIRI YEH=620;15EHEH FINAL FORM=FB8F
ARABIC LETTER KEHEH INITIAL FORM=FB90;21SOLATED FORM=FB8E;20MEDIAL FORM=FB91;20WITH DOT ABOVE=762
ARABIC LETTER KEHEH WITH SMALL V=8C2;25THREE DOTS ABOVE=763;36BELOW=63C
ARABIC LETTER KEHEH WITH THREE DOTS POINTING UPWARDS BELOW=764;26WO DOTS ABOVE=63B
ARABIC LETTER KEHEH WITH TWO DOTS VERTICALLY BELOW=88D;19=6A9;15HAH FINAL FORM=FEA6
ARABIC LETTER KHAH INITIAL FORM=FEA7;20SOLATED FORM=FEA5;19MEDIAL FORM=FEA8;18=62E
ARABIC LETTER KIRGHIZ OE FINAL FORM=FBE1;25ISOLATED FORM=FBE0;24=6C5;22YU FINAL FORM=FBE3
ARABIC LETTER KIRGHIZ YU ISOLATED FORM=FBE2;24=6C9;14LAM FINAL FORM=FEDE;18INITIAL FORM=FEDF
ARABIC LETTER LAM ISOLATED FORM=FEDD;18MEDIAL FORM=FEE0;18WITH BAR=76A;23DOT ABOVE=6B6
ARABIC LETTER LAM WITH DOUBLE BAR=8A6;23SMALL ARABIC LETTER TAH ABOVE=8C7;29V=6B5
ARABIC LETTER LAM WITH THREE DOTS ABOVE=6B7;34BELOW=6B8;17=644;15OW ALEF=8AD;14MARK=61C
ARABIC LETTER MEEM FINAL FORM=FEE2;19INITIAL FORM=FEE3;20SOLATED FORM=FEE1;19MEDIAL FORM=FEE4
ARABIC LETTER MEEM WITH DOT ABOVE=765;28BELOW=766;24THREE DOTS ABOVE=8A7;18=645
ARABIC LETTER NG FINAL FORM=FBD4;17INITIAL FORM=FBD5;18SOLATED FORM=FBD3;17MEDIAL FORM=FBD6;16=6AD
ARABIC LETTER NGOEH FINAL FORM=FB9B;20INITIAL FORM=FB9C;21SOLATED FORM=FB9A;20MEDIAL FORM=FB9D
ARABIC LETTER NGOEH=6B1;15OON FINAL FORM=FEE6;19GHUNNA FINAL FORM=FB9F;26ISOLATED FORM=FB9E;25=6BA
ARABIC LETTER NOON INITIAL FORM=FEE7;20SOLATED FORM=FEE5;19MEDIAL FORM=FEE8;19WITH DOT BELOW=6B9
ARABIC LETTER NOON WITH INVERTED SMALL V=889;24RING=6BC;24SMALL TAH=768;30V=769
ARABIC LETTER NOON WITH THREE DOTS ABOVE=6BD;25WO DOTS BELOW=767;18=646;15YEH FINAL FORM=FB77
ARABIC LETTER NYEH INITIAL FORM=FB78;20SOLATED FORM=FB76;19MEDIAL FORM=FB79;18=683
ARABIC LETTER OE FINAL FORM=FBDA;17ISOLATED FORM=FBD9;16=6C6;14PEH FINAL FORM=FB57
ARABIC LETTER PEH INITIAL FORM=FB58;19SOLATED FORM=FB56;18MEDIAL FORM=FB59
ARABIC LETTER PEH WITH SMALL MEEM ABOVE=8B7;29V=8BE;17=67E;17EH FINAL FORM=FB6F
ARABIC LETTER PEHEH INITIAL FORM=FB70;21SOLATED FORM=FB6E;20MEDIAL FORM=FB71;19=6A6
ARABIC LETTER QAF FINAL FORM=FED6;18INITIAL FORM=FED7;19SOLATED FORM=FED5;18MEDIAL FORM=FED8
ARABIC LETTER QAF WITH DOT ABOVE=6A7;27BELOW AND NO DOTS ABOVE=8B5;32=8A5;23THREE DOTS ABOVE=6A8
ARABIC LETTER QAF=642;14REH FINAL FORM=FEAE;18ISOLATED FORM=FEAD
ARABIC LETTER REH WITH DOT BELOW AND DOT ABOVE=696;32=694;23FOUR DOTS ABOVE=699;23HAMZA ABOVE=76C
ARABIC LETTER REH WITH INVERTED V=6EF;23LOOP=8AA;23RING=693
ARABIC LETTER REH WITH SMALL ARABIC LETTER TAH AND TWO DOTS=771;29NOON ABOVE=8B9;29V BELOW=695
ARABIC LETTER REH WITH SMALL V=692;24TROKE=75B;23TWO DOTS ABOVE=697;32VERTICALLY ABOVE=76B;17=631
ARABIC LETTER RNOON FINAL FORM=FBA1;20INITIAL FORM=FBA2;21SOLATED FORM=FBA0;20MEDIAL FORM=FBA3
ARABIC LETTER RNOON=6BB;15OHINGYA YEH=8AC;15REH FINAL FORM=FB8D;19ISOLATED FORM=FB8C;18=691
ARABIC LETTER SAD FINAL FORM=FEBA;18INITIAL FORM=FEBB;19SOLATED FORM=FEB9;18MEDIAL FORM=FEBC
ARABIC LETTER SAD WITH THREE DOTS ABOVE=69E;34BELOW=8AF;24WO DOTS BELOW=69D;17=635
ARABIC LETTER SEEN FINAL FORM=FEB2;19INITIAL FORM=FEB3;20SOLATED FORM=FEB1;19MEDIAL FORM=FEB4
ARABIC LETTER SEEN WITH DOT BELOW AND DOT ABOVE=69A;24EXTENDED ARABIC-INDIC DIGIT FOUR ABOVE=77D
ARABIC LETTER SEEN WITH FOUR DOTS ABOVE=75C;24INVERTED V=77E
ARABIC LETTER SEEN WITH SMALL ARABIC LETTER TAH AND TWO DOTS=770
ARABIC LETTER SEEN WITH THREE DOTS BELOW AND THREE DOTS ABOVE=69C;40=69B
ARABIC LETTER SEEN WITH TWO DOTS VERTICALLY ABOVE=76D;18=633;15HEEN FINAL FORM=FEB6
ARABIC LETTER SHEEN INITIAL FORM=FEB7;21SOLATED FORM=FEB5;20MEDIAL FORM=FEB8;20WITH DOT BELOW=6FA
ARABIC LETTER SHEEN=634;15TRAIGHT WAW=8B1;15UPERSCRIPT ALEF=670;15WASH KAF=6AA
ARABIC LETTER TAH FINAL FORM=FEC2;18INITIAL FORM=FEC3;19SOLATED FORM=FEC1;18MEDIAL FORM=FEC4
ARABIC LETTER TAH WITH DOT BELOW=88B;23THREE DOTS ABOVE=69F;34BELOW=88C;24WO DOTS ABOVE=8A3;17=637
ARABIC LETTER TCHEH FINAL FORM=FB7B;20INITIAL FORM=FB7C;21SOLATED FORM=FB7A;20MEDIAL FORM=FB7D
ARABIC LETTER TCHEH WITH DOT ABOVE=6BF;25SMALL V=8C1;19=686;19EH FINAL FORM=FB7F
ARABIC LETTER TCHEHEH INITIAL FORM=FB80;23SOLATED FORM=FB7E;22MEDIAL FORM=FB81;21=687
ARABIC LETTER TEH FINAL FORM=FE96;18INITIAL FORM=FE97;19SOLATED FORM=FE95
ARABIC LETTER TEH MARBUTA FINAL FORM=FE94;26GOAL=6C3;26ISOLATED FORM=FE93;25=629;19EDIAL FORM=FE98
ARABIC LETTER TEH WITH RING=67C;23SMALL TEH ABOVE=8B8;29V=8BF;23THREE DOTS ABOVE DOWNWARDS=67D
ARABIC LETTER TEH=62A;17EH FINAL FORM=FB63;20INITIAL FORM=FB64;21SOLATED FORM=FB62
ARABIC LETTER TEHEH MEDIAL FORM=FB65;19=67F;15HAL FINAL FORM=FEAC;19ISOLATED FORM=FEAB;18=630
ARABIC LETTER THEH FINAL FORM=FE9A;19INITIAL FORM=FE9B;20SOLATED FORM=FE99;19MEDIAL FORM=FE9C
ARABIC LETTER THEH=62B;16IN YEH=886;15TEH FINAL FORM=FB67;19INITIAL FORM=FB68;20SOLATED FORM=FB66
ARABIC LETTER TTEH MEDIAL FORM=FB69;19WITH SMALL V=8C0;18=679;18EH FINAL FORM=FB5F
ARABIC LETTER TTEHEH INITIAL FORM=FB60;22SOLATED FORM=FB5E;21MEDIAL FORM=FB61;20=67A
ARABIC LETTER U FINAL FORM=FBD8;16ISOLATED FORM=FBD7;16WITH HAMZA ABOVE ISOLATED FORM=FBDD;32=677
ARABIC LETTER U=6C7;15IGHUR KAZAKH KIRGHIZ ALEF MAKSURA INITIAL FORM=FBE8;49MEDIAL FORM=FBE9
ARABIC LETTER VE FINAL FORM=FBDF;17ISOLATED FORM=FBDE;16=6CB;16H FINAL FORM=FB6B
ARABIC LETTER VEH INITIAL FORM=FB6C;19SOLATED FORM=FB6A;18MEDIAL FORM=FB6D;17=6A4
ARABIC LETTER WAW FINAL FORM=FEEE;18ISOLATED FORM=FEED;18WITH DOT ABOVE=6CF;27WITHIN=8AB
ARABIC LETTER WAW WITH EXTENDED ARABIC-INDIC DIGIT THREE ABOVE=779;52WO ABOVE=778
ARABIC LETTER WAW WITH HAMZA ABOVE FINAL FORM=FE86;35ISOLATED FORM=FE85;34=624;23RING=6C4
ARABIC LETTER WAW WITH TWO DOTS ABOVE=6CA;17=648;14YEH BARREE FINAL FORM=FBAF;25ISOLATED FORM=FBAE
ARABIC LETTER YEH BARREE WITH EXTENDED ARABIC-INDIC DIGIT THREE ABOVE=77B;59WO ABOVE=77A
ARABIC LETTER YEH BARREE WITH HAMZA ABOVE FINAL FORM=FBB1;42ISOLATED FORM=FBB0;41=6D3;24=6D2
ARABIC LETTER YEH FINAL FORM=FEF2;18INITIAL FORM=FEF3;19SOLATED FORM=FEF1;18MEDIAL FORM=FEF4
ARABIC LETTER YEH WITH HAMZA ABOVE FINAL FORM=FE8A;35INITIAL FORM=FE8B;36SOLATED FORM=FE89
ARABIC LETTER YEH WITH HAMZA ABOVE MEDIAL FORM=FE8C;34=626;23SMALL V=6CE;23TAIL=6CD
ARABIC LETTER YEH WITH THREE DOTS BELOW=6D1;24WO DOTS BELOW AND DOT ABOVE=8A9;42HAMZA ABOVE=8A8
ARABIC LETTER YEH WITH TWO DOTS BELOW AND SMALL NOON ABOVE=8BA;17=64A;15U FINAL FORM=FBDC
ARABIC LETTER YU ISOLATED FORM=FBDB;16=6C8;14ZAH FINAL FORM=FEC6;18INITIAL FORM=FEC7
ARABIC LETTER ZAH ISOLATED FORM=FEC5;18MEDIAL FORM=FEC8;17=638;16IN FINAL FORM=FEB0
ARABIC LETTER ZAIN ISOLATED FORM=FEAF;19WITH INVERTED V ABOVE=8B2;18=632
ARABIC LIGATURE AIN WITH ALEF MAKSURA FINAL FORM=FD13;38ISOLATED FORM=FCF7
ARABIC LIGATURE AIN WITH JEEM INITIAL FORM=FCBA;31SOLATED FORM=FC29;30WITH MEEM FINAL FORM=FD75
ARABIC LIGATURE AIN WITH JEEM WITH MEEM INITIAL FORM=FDC4;25MEEM INITIAL FORM=FCBB
ARABIC LIGATURE AIN WITH MEEM ISOLATED FORM=FC2A;30WITH ALEF MAKSURA FINAL FORM=FD78
ARABIC LIGATURE AIN WITH MEEM WITH MEEM FINAL FORM=FD76;40INITIAL FORM=FD77;35YEH FINAL FORM=FDB6
ARABIC LIGATURE AIN WITH YEH FINAL FORM=FD14;29ISOLATED FORM=FCF8;17KBAR ISOLATED FORM=FDF3
ARABIC LIGATURE ALAYHAA AS-SALAAM=FD4D;21E ISOLATED FORM=FDF7;21I AS-SALAAM=FD47
ARABIC LIGATURE ALAYHI AS-SALAATU WAS-SALAAM=FD4A;22M AS-SALAAM=FD48;23AA AS-SALAAM=FD49
ARABIC LIGATURE ALEF MAKSURA WITH SUPERSCRIPT ALEF FINAL FORM=FC90;51ISOLATED FORM=FC5D
ARABIC LIGATURE ALEF WITH FATHATAN FINAL FORM=FD3C;35ISOLATED FORM=FD3D;18LAH ISOLATED FORM=FDF2
ARABIC LIGATURE AZZA WA JALL=FDFF;16BEH WITH ALEF MAKSURA FINAL FORM=FC6E;38ISOLATED FORM=FC09
ARABIC LIGATURE BEH WITH HAH INITIAL FORM=FC9D;30SOLATED FORM=FC06;29WITH YEH FINAL FORM=FDC2
ARABIC LIGATURE BEH WITH HEH INITIAL FORM=FCA0;29MEDIAL FORM=FCE2;25JEEM INITIAL FORM=FC9C
ARABIC LIGATURE BEH WITH JEEM ISOLATED FORM=FC05;25KHAH INITIAL FORM=FC9E;31SOLATED FORM=FC07
ARABIC LIGATURE BEH WITH KHAH WITH YEH FINAL FORM=FD9E;25MEEM FINAL FORM=FC6C;30INITIAL FORM=FC9F
ARABIC LIGATURE BEH WITH MEEM ISOLATED FORM=FC08;30MEDIAL FORM=FCE1;25NOON FINAL FORM=FC6D
ARABIC LIGATURE BEH WITH REH FINAL FORM=FC6A;25YEH FINAL FORM=FC6F;29ISOLATED FORM=FC0A
ARABIC LIGATURE BEH WITH ZAIN FINAL FORM=FC6B;17ISMILLAH AR-RAHMAN AR-RAHEEM=FDFD
ARABIC LIGATURE DAD WITH ALEF MAKSURA FINAL FORM=FD23;38ISOLATED FORM=FD07;25HAH INITIAL FORM=FCB5
ARABIC LIGATURE DAD WITH HAH ISOLATED FORM=FC23;29WITH ALEF MAKSURA FINAL FORM=FD6E
ARABIC LIGATURE DAD WITH HAH WITH YEH FINAL FORM=FDAB;25JEEM INITIAL FORM=FCB4;31SOLATED FORM=FC22
ARABIC LIGATURE DAD WITH KHAH INITIAL FORM=FCB6;31SOLATED FORM=FC24;30WITH MEEM FINAL FORM=FD6F
ARABIC LIGATURE DAD WITH KHAH WITH MEEM INITIAL FORM=FD70;25MEEM INITIAL FORM=FCB7
ARABIC LIGATURE DAD WITH MEEM ISOLATED FORM=FC25;25REH FINAL FORM=FD2C;29ISOLATED FORM=FD10
ARABIC LIGATURE DAD WITH YEH FINAL FORM=FD24;29ISOLATED FORM=FD08
ARABIC LIGATURE FEH WITH ALEF MAKSURA FINAL FORM=FC7C;38ISOLATED FORM=FC31;25HAH INITIAL FORM=FCBF
ARABIC LIGATURE FEH WITH HAH ISOLATED FORM=FC2E;25JEEM INITIAL FORM=FCBE;31SOLATED FORM=FC2D
ARABIC LIGATURE FEH WITH KHAH INITIAL FORM=FCC0;31SOLATED FORM=FC2F;30WITH MEEM FINAL FORM=FD7C
ARABIC LIGATURE FEH WITH KHAH WITH MEEM INITIAL FORM=FD7D;25MEEM INITIAL FORM=FCC1
ARABIC LIGATURE FEH WITH MEEM ISOLATED FORM=FC30;30WITH YEH FINAL FORM=FDC1;25YEH FINAL FORM=FC7D
ARABIC LIGATURE FEH WITH YEH ISOLATED FORM=FC32;16GHAIN WITH ALEF MAKSURA FINAL FORM=FD15
ARABIC LIGATURE GHAIN WITH ALEF MAKSURA ISOLATED FORM=FCF9;27JEEM INITIAL FORM=FCBC
ARABIC LIGATURE GHAIN WITH JEEM ISOLATED FORM=FC2B;27MEEM INITIAL FORM=FCBD;33SOLATED FORM=FC2C
ARABIC LIGATURE GHAIN WITH MEEM WITH ALEF MAKSURA FINAL FORM=FD7B;37MEEM FINAL FORM=FD79
ARABIC LIGATURE GHAIN WITH MEEM WITH YEH FINAL FORM=FD7A;27YEH FINAL FORM=FD16
ARABIC LIGATURE GHAIN WITH YEH ISOLATED FORM=FCFA;16HAH WITH ALEF MAKSURA FINAL FORM=FD1B
ARABIC LIGATURE HAH WITH ALEF MAKSURA ISOLATED FORM=FCFF;25JEEM INITIAL FORM=FCA9
ARABIC LIGATURE HAH WITH JEEM ISOLATED FORM=FC17;30WITH YEH FINAL FORM=FDBF
ARABIC LIGATURE HAH WITH MEEM INITIAL FORM=FCAA;31SOLATED FORM=FC18
ARABIC LIGATURE HAH WITH MEEM WITH ALEF MAKSURA FINAL FORM=FD5B;35YEH FINAL FORM=FD5A
ARABIC LIGATURE HAH WITH YEH FINAL FORM=FD1C;29ISOLATED FORM=FD00
ARABIC LIGATURE HEH WITH ALEF MAKSURA ISOLATED FORM=FC53;25JEEM INITIAL FORM=FCD7
ARABIC LIGATURE HEH WITH JEEM ISOLATED FORM=FC51;25MEEM INITIAL FORM=FCD8;31SOLATED FORM=FC52
ARABIC LIGATURE HEH WITH MEEM WITH JEEM INITIAL FORM=FD93;35MEEM INITIAL FORM=FD94
ARABIC LIGATURE HEH WITH SUPERSCRIPT ALEF INITIAL FORM=FCD9;25YEH ISOLATED FORM=FC54
ARABIC LIGATURE JALLAJALALOUHOU=FDFB;17EEM WITH ALEF MAKSURA FINAL FORM=FD1D;39ISOLATED FORM=FD01
ARABIC LIGATURE JEEM WITH HAH INITIAL FORM=FCA7;31SOLATED FORM=FC15
ARABIC LIGATURE JEEM WITH HAH WITH ALEF MAKSURA FINAL FORM=FDA6;35YEH FINAL FORM=FDBE
ARABIC LIGATURE JEEM WITH MEEM INITIAL FORM=FCA8;32SOLATED FORM=FC16
ARABIC LIGATURE JEEM WITH MEEM WITH ALEF MAKSURA FINAL FORM=FDA7;36HAH FINAL FORM=FD58
ARABIC LIGATURE JEEM WITH MEEM WITH HAH INITIAL FORM=FD59;36YEH FINAL FORM=FDA5
ARABIC LIGATURE JEEM WITH YEH FINAL FORM=FD1E;30ISOLATED FORM=FD02;16KAF WITH ALEF FINAL FORM=FC80
ARABIC LIGATURE KAF WITH ALEF ISOLATED FORM=FC37;30MAKSURA FINAL FORM=FC83;38ISOLATED FORM=FC3D
ARABIC LIGATURE KAF WITH HAH INITIAL FORM=FCC5;30SOLATED FORM=FC39;25JEEM INITIAL FORM=FCC4
ARABIC LIGATURE KAF WITH JEEM ISOLATED FORM=FC38;25KHAH INITIAL FORM=FCC6;31SOLATED FORM=FC3A
ARABIC LIGATURE KAF WITH LAM FINAL FORM=FC81;29INITIAL FORM=FCC7;30SOLATED FORM=FC3B
ARABIC LIGATURE KAF WITH LAM MEDIAL FORM=FCEB;25MEEM FINAL FORM=FC82;30INITIAL FORM=FCC8
ARABIC LIGATURE KAF WITH MEEM ISOLATED FORM=FC3C;30MEDIAL FORM=FCEC;30WITH MEEM FINAL FORM=FDBB
ARABIC LIGATURE KAF WITH MEEM WITH MEEM INITIAL FORM=FDC3;35YEH FINAL FORM=FDB7
ARABIC LIGATURE KAF WITH YEH FINAL FORM=FC84;29ISOLATED FORM=FC3E
ARABIC LIGATURE KHAH WITH ALEF MAKSURA FINAL FORM=FD1F;39ISOLATED FORM=FD03
ARABIC LIGATURE KHAH WITH HAH ISOLATED FORM=FC1A;26JEEM INITIAL FORM=FCAB;32SOLATED FORM=FC19
ARABIC LIGATURE KHAH WITH MEEM INITIAL FORM=FCAC;32SOLATED FORM=FC1B;26YEH FINAL FORM=FD20
ARABIC LIGATURE KHAH WITH YEH ISOLATED FORM=FD04;16LAM WITH ALEF FINAL FORM=FEFC
ARABIC LIGATURE LAM WITH ALEF ISOLATED FORM=FEFB;30MAKSURA FINAL FORM=FC86;38ISOLATED FORM=FC43
ARABIC LIGATURE LAM WITH ALEF WITH HAMZA ABOVE FINAL FORM=FEF8;47ISOLATED FORM=FEF7
ARABIC LIGATURE LAM WITH ALEF WITH HAMZA BELOW FINAL FORM=FEFA;47ISOLATED FORM=FEF9
ARABIC LIGATURE LAM WITH ALEF WITH MADDA ABOVE FINAL FORM=FEF6;47ISOLATED FORM=FEF5
ARABIC LIGATURE LAM WITH HAH INITIAL FORM=FCCA;30SOLATED FORM=FC40
ARABIC LIGATURE LAM WITH HAH WITH ALEF MAKSURA FINAL FORM=FD82;34MEEM FINAL FORM=FD80
ARABIC LIGATURE LAM WITH HAH WITH MEEM INITIAL FORM=FDB5;34YEH FINAL FORM=FD81
ARABIC LIGATURE LAM WITH HEH INITIAL FORM=FCCD;25JEEM INITIAL FORM=FCC9;31SOLATED FORM=FC3F
ARABIC LIGATURE LAM WITH JEEM WITH JEEM FINAL FORM=FD84;40INITIAL FORM=FD83;35MEEM FINAL FORM=FDBC
ARABIC LIGATURE LAM WITH JEEM WITH MEEM INITIAL FORM=FDBA;35YEH FINAL FORM=FDAC
ARABIC LIGATURE LAM WITH KHAH INITIAL FORM=FCCB;31SOLATED FORM=FC41;30WITH MEEM FINAL FORM=FD85
ARABIC LIGATURE LAM WITH KHAH WITH MEEM INITIAL FORM=FD86;25MEEM FINAL FORM=FC85
ARABIC LIGATURE LAM WITH MEEM INITIAL FORM=FCCC;31SOLATED FORM=FC42;30MEDIAL FORM=FCED
ARABIC LIGATURE LAM WITH MEEM WITH HAH FINAL FORM=FD87;39INITIAL FORM=FD88;35YEH FINAL FORM=FDAD
ARABIC LIGATURE LAM WITH YEH FINAL FORM=FC87;29ISOLATED FORM=FC44;16MEEM WITH ALEF FINAL FORM=FC88
ARABIC LIGATURE MEEM WITH ALEF MAKSURA ISOLATED FORM=FC49;26HAH INITIAL FORM=FCCF
ARABIC LIGATURE MEEM WITH HAH ISOLATED FORM=FC46;30WITH JEEM INITIAL FORM=FD89
ARABIC LIGATURE MEEM WITH HAH WITH MEEM INITIAL FORM=FD8A;35YEH FINAL FORM=FD8B
ARABIC LIGATURE MEEM WITH JEEM INITIAL FORM=FCCE;32SOLATED FORM=FC45;31WITH HAH INITIAL FORM=FD8C
ARABIC LIGATURE MEEM WITH JEEM WITH KHAH INITIAL FORM=FD92;36MEEM INITIAL FORM=FD8D
ARABIC LIGATURE MEEM WITH JEEM WITH YEH FINAL FORM=FDC0;26KHAH INITIAL FORM=FCD0
ARABIC LIGATURE MEEM WITH KHAH ISOLATED FORM=FC47;31WITH JEEM INITIAL FORM=FD8E
ARABIC LIGATURE MEEM WITH KHAH WITH MEEM INITIAL FORM=FD8F;36YEH FINAL FORM=FDB9
ARABIC LIGATURE MEEM WITH MEEM FINAL FORM=FC89;31INITIAL FORM=FCD1;32SOLATED FORM=FC48
ARABIC LIGATURE MEEM WITH MEEM WITH YEH FINAL FORM=FDB1;26YEH ISOLATED FORM=FC4A
ARABIC LIGATURE MOHAMMAD ISOLATED FORM=FDF4;16NOON WITH ALEF MAKSURA FINAL FORM=FC8E
ARABIC LIGATURE NOON WITH ALEF MAKSURA ISOLATED FORM=FC4F;26HAH INITIAL FORM=FCD3
ARABIC LIGATURE NOON WITH HAH ISOLATED FORM=FC4C;30WITH ALEF MAKSURA FINAL FORM=FD96
ARABIC LIGATURE NOON WITH HAH WITH MEEM INITIAL FORM=FD95;35YEH FINAL FORM=FDB3
ARABIC LIGATURE NOON WITH HEH INITIAL FORM=FCD6;30MEDIAL FORM=FCEF;26JEEM INITIAL FORM=FCD2
ARABIC LIGATURE NOON WITH JEEM ISOLATED FORM=FC4B;31WITH ALEF MAKSURA FINAL FORM=FD99
ARABIC LIGATURE NOON WITH JEEM WITH HAH FINAL FORM=FDBD;40INITIAL FORM=FDB8;36MEEM FINAL FORM=FD97
ARABIC LIGATURE NOON WITH JEEM WITH MEEM INITIAL FORM=FD98;36YEH FINAL FORM=FDC7
ARABIC LIGATURE NOON WITH KHAH INITIAL FORM=FCD4;32SOLATED FORM=FC4D;26MEEM FINAL FORM=FC8C
ARABIC LIGATURE NOON WITH MEEM INITIAL FORM=FCD5;32SOLATED FORM=FC4E;31MEDIAL FORM=FCEE
ARABIC LIGATURE NOON WITH MEEM WITH ALEF MAKSURA FINAL FORM=FD9B;36YEH FINAL FORM=FD9A
ARABIC LIGATURE NOON WITH NOON FINAL FORM=FC8D;26REH FINAL FORM=FC8A;26YEH FINAL FORM=FC8F
ARABIC LIGATURE NOON WITH YEH ISOLATED FORM=FC50;26ZAIN FINAL FORM=FC8B
ARABIC LIGATURE QAF WITH ALEF MAKSURA FINAL FORM=FC7E;38ISOLATED FORM=FC35;25HAH INITIAL FORM=FCC2
ARABIC LIGATURE QAF WITH HAH ISOLATED FORM=FC33;25MEEM INITIAL FORM=FCC3;31SOLATED FORM=FC34
ARABIC LIGATURE QAF WITH MEEM WITH HAH FINAL FORM=FD7E;39INITIAL FORM=FDB4;35MEEM FINAL FORM=FD7F
ARABIC LIGATURE QAF WITH MEEM WITH YEH FINAL FORM=FDB2;25YEH FINAL FORM=FC7F;29ISOLATED FORM=FC36
ARABIC LIGATURE QALA USED AS KORANIC STOP SIGN ISOLATED FORM=FDF1;17UDDISA SIRRAH=FD4B
ARABIC LIGATURE RADI ALLAAHU ANH=FD41;32AA=FD42;32UM=FD43;34AA=FD44;33NNA=FD45
ARABIC LIGATURE RAHIMAHU ALLAAH=FD40;24M ALLAAH=FD4F;18SOUL ISOLATED FORM=FDF6
ARABIC LIGATURE REH WITH SUPERSCRIPT ALEF ISOLATED FORM=FC5C
ARABIC LIGATURE SAD WITH ALEF MAKSURA FINAL FORM=FD21;38ISOLATED FORM=FD05;25HAH INITIAL FORM=FCB1
ARABIC LIGATURE SAD WITH HAH ISOLATED FORM=FC20;29WITH HAH FINAL FORM=FD64;38INITIAL FORM=FD65
ARABIC LIGATURE SAD WITH HAH WITH YEH FINAL FORM=FDA9;25KHAH INITIAL FORM=FCB2
ARABIC LIGATURE SAD WITH MEEM INITIAL FORM=FCB3;31SOLATED FORM=FC21;30WITH MEEM FINAL FORM=FD66
ARABIC LIGATURE SAD WITH MEEM WITH MEEM INITIAL FORM=FDC5;25REH FINAL FORM=FD2B
ARABIC LIGATURE SAD WITH REH ISOLATED FORM=FD0F;25YEH FINAL FORM=FD22;29ISOLATED FORM=FD06
ARABIC LIGATURE SALAAMUHU ALAYNAA=FDCF;20M ISOLATED FORM=FDF5;19LA ISOLATED FORM=FDF9
ARABIC LIGATURE SALLA USED AS KORANIC STOP SIGN ISOLATED FORM=FDF0;21LLAAHU ALAYHI WA-AALIH=FD46
ARABIC LIGATURE SALLALLAHOU ALAYHE WASALLAM=FDFA;25U ALAYHI WAAALIHEE WA-SALLAM=FD4C
ARABIC LIGATURE SEEN WITH ALEF MAKSURA FINAL FORM=FD17;39ISOLATED FORM=FCFB
ARABIC LIGATURE SEEN WITH HAH INITIAL FORM=FCAE;31SOLATED FORM=FC1D;30MEDIAL FORM=FD35
ARABIC LIGATURE SEEN WITH HAH WITH JEEM INITIAL FORM=FD5C;27EH INITIAL FORM=FD31
ARABIC LIGATURE SEEN WITH HEH MEDIAL FORM=FCE8;26JEEM INITIAL FORM=FCAD;32SOLATED FORM=FC1C
ARABIC LIGATURE SEEN WITH JEEM MEDIAL FORM=FD34;31WITH ALEF MAKSURA FINAL FORM=FD5E
ARABIC LIGATURE SEEN WITH JEEM WITH HAH INITIAL FORM=FD5D;26KHAH INITIAL FORM=FCAF
ARABIC LIGATURE SEEN WITH KHAH ISOLATED FORM=FC1E;31MEDIAL FORM=FD36
ARABIC LIGATURE SEEN WITH KHAH WITH ALEF MAKSURA FINAL FORM=FDA8;36YEH FINAL FORM=FDC6
ARABIC LIGATURE SEEN WITH MEEM INITIAL FORM=FCB0;32SOLATED FORM=FC1F;31MEDIAL FORM=FCE7
ARABIC LIGATURE SEEN WITH MEEM WITH HAH FINAL FORM=FD5F;40INITIAL FORM=FD60
ARABIC LIGATURE SEEN WITH MEEM WITH JEEM INITIAL FORM=FD61;36MEEM FINAL FORM=FD62
ARABIC LIGATURE SEEN WITH MEEM WITH MEEM INITIAL FORM=FD63;26REH FINAL FORM=FD2A
ARABIC LIGATURE SEEN WITH REH ISOLATED FORM=FD0E;26YEH FINAL FORM=FD18;30ISOLATED FORM=FCFC
ARABIC LIGATURE SHADDA WITH DAMMA ISOLATED FORM=FC61;34MEDIAL FORM=FCF3;33TAN ISOLATED FORM=FC5E
ARABIC LIGATURE SHADDA WITH FATHA ISOLATED FORM=FC60;34MEDIAL FORM=FCF2;28KASRA ISOLATED FORM=FC62
ARABIC LIGATURE SHADDA WITH KASRA MEDIAL FORM=FCF4;33TAN ISOLATED FORM=FC5F
ARABIC LIGATURE SHADDA WITH SUPERSCRIPT ALEF ISOLATED FORM=FC63
ARABIC LIGATURE SHEEN WITH ALEF MAKSURA FINAL FORM=FD19;40ISOLATED FORM=FCFD;27HAH FINAL FORM=FD26
ARABIC LIGATURE SHEEN WITH HAH INITIAL FORM=FD2E;32SOLATED FORM=FD0A;31MEDIAL FORM=FD38
ARABIC LIGATURE SHEEN WITH HAH WITH MEEM FINAL FORM=FD67;41INITIAL FORM=FD68;36YEH FINAL FORM=FDAA
ARABIC LIGATURE SHEEN WITH HEH INITIAL FORM=FD32;31MEDIAL FORM=FCEA;27JEEM FINAL FORM=FD25
ARABIC LIGATURE SHEEN WITH JEEM INITIAL FORM=FD2D;33SOLATED FORM=FD09;32MEDIAL FORM=FD37
ARABIC LIGATURE SHEEN WITH JEEM WITH YEH FINAL FORM=FD69;27KHAH FINAL FORM=FD27
ARABIC LIGATURE SHEEN WITH KHAH INITIAL FORM=FD2F;33SOLATED FORM=FD0B;32MEDIAL FORM=FD39
ARABIC LIGATURE SHEEN WITH MEEM FINAL FORM=FD28;32INITIAL FORM=FD30;33SOLATED FORM=FD0C
ARABIC LIGATURE SHEEN WITH MEEM MEDIAL FORM=FCE9;32WITH KHAH FINAL FORM=FD6A;42INITIAL FORM=FD6B
ARABIC LIGATURE SHEEN WITH MEEM WITH MEEM FINAL FORM=FD6C;42INITIAL FORM=FD6D
ARABIC LIGATURE SHEEN WITH REH FINAL FORM=FD29;31ISOLATED FORM=FD0D;27YEH FINAL FORM=FD1A
ARABIC LIGATURE SHEEN WITH YEH ISOLATED FORM=FCFE;17UBHAANAHU WA TAAALAA=FDFE
ARABIC LIGATURE TABAARAKA WA-TAAALAA=FD4E;18H WITH ALEF MAKSURA FINAL FORM=FD11
ARABIC LIGATURE TAH WITH ALEF MAKSURA ISOLATED FORM=FCF5;25HAH INITIAL FORM=FCB8
ARABIC LIGATURE TAH WITH HAH ISOLATED FORM=FC26;25MEEM INITIAL FORM=FD33;31SOLATED FORM=FC27
ARABIC LIGATURE TAH WITH MEEM MEDIAL FORM=FD3A;30WITH HAH FINAL FORM=FD71;39INITIAL FORM=FD72
ARABIC LIGATURE TAH WITH MEEM WITH MEEM INITIAL FORM=FD73;35YEH FINAL FORM=FD74
ARABIC LIGATURE TAH WITH YEH FINAL FORM=FD12;29ISOLATED FORM=FCF6
ARABIC LIGATURE TEH WITH ALEF MAKSURA FINAL FORM=FC74;38ISOLATED FORM=FC0F;25HAH INITIAL FORM=FCA2
ARABIC LIGATURE TEH WITH HAH ISOLATED FORM=FC0C;29WITH JEEM FINAL FORM=FD51;39INITIAL FORM=FD52
ARABIC LIGATURE TEH WITH HAH WITH MEEM INITIAL FORM=FD53;26EH INITIAL FORM=FCA5;29MEDIAL FORM=FCE4
ARABIC LIGATURE TEH WITH JEEM INITIAL FORM=FCA1;31SOLATED FORM=FC0B
ARABIC LIGATURE TEH WITH JEEM WITH ALEF MAKSURA FINAL FORM=FDA0;35MEEM INITIAL FORM=FD50
ARABIC LIGATURE TEH WITH JEEM WITH YEH FINAL FORM=FD9F;25KHAH INITIAL FORM=FCA3
ARABIC LIGATURE TEH WITH KHAH ISOLATED FORM=FC0D;30WITH ALEF MAKSURA FINAL FORM=FDA2
ARABIC LIGATURE TEH WITH KHAH WITH MEEM INITIAL FORM=FD54;35YEH FINAL FORM=FDA1
ARABIC LIGATURE TEH WITH MEEM FINAL FORM=FC72;30INITIAL FORM=FCA4;31SOLATED FORM=FC0E
ARABIC LIGATURE TEH WITH MEEM MEDIAL FORM=FCE3;30WITH ALEF MAKSURA FINAL FORM=FDA4
ARABIC LIGATURE TEH WITH MEEM WITH HAH INITIAL FORM=FD56;35JEEM INITIAL FORM=FD55
ARABIC LIGATURE TEH WITH MEEM WITH KHAH INITIAL FORM=FD57;35YEH FINAL FORM=FDA3
ARABIC LIGATURE TEH WITH NOON FINAL FORM=FC73;25REH FINAL FORM=FC70;25YEH FINAL FORM=FC75
ARABIC LIGATURE TEH WITH YEH ISOLATED FORM=FC10;25ZAIN FINAL FORM=FC71
ARABIC LIGATURE THAL WITH SUPERSCRIPT ALEF ISOLATED FORM=FC5B
ARABIC LIGATURE THEH WITH ALEF MAKSURA FINAL FORM=FC7A;39ISOLATED FORM=FC13;26HEH MEDIAL FORM=FCE6
ARABIC LIGATURE THEH WITH JEEM ISOLATED FORM=FC11;26MEEM FINAL FORM=FC78;31INITIAL FORM=FCA6
ARABIC LIGATURE THEH WITH MEEM ISOLATED FORM=FC12;31MEDIAL FORM=FCE5;26NOON FINAL FORM=FC79
ARABIC LIGATURE THEH WITH REH FINAL FORM=FC76;26YEH FINAL FORM=FC7B;30ISOLATED FORM=FC14
ARABIC LIGATURE THEH WITH ZAIN FINAL FORM=FC77
ARABIC LIGATURE UIGHUR KIRGHIZ YEH WITH HAMZA ABOVE WITH ALEF MAKSURA FINAL FORM=FBFA
ARABIC LIGATURE UIGHUR KIRGHIZ YEH WITH HAMZA ABOVE WITH ALEF MAKSURA INITIAL FORM=FBFB
ARABIC LIGATURE UIGHUR KIRGHIZ YEH WITH HAMZA ABOVE WITH ALEF MAKSURA ISOLATED FORM=FBF9
ARABIC LIGATURE WASALLAM ISOLATED FORM=FDF8;16YEH WITH ALEF MAKSURA FINAL FORM=FC95
ARABIC LIGATURE YEH WITH ALEF MAKSURA ISOLATED FORM=FC59;25HAH INITIAL FORM=FCDB
ARABIC LIGATURE YEH WITH HAH ISOLATED FORM=FC56;29WITH YEH FINAL FORM=FDAE
ARABIC LIGATURE YEH WITH HAMZA ABOVE WITH AE FINAL FORM=FBED;45ISOLATED FORM=FBEC
ARABIC LIGATURE YEH WITH HAMZA ABOVE WITH ALEF FINAL FORM=FBEB;47ISOLATED FORM=FBEA
ARABIC LIGATURE YEH WITH HAMZA ABOVE WITH ALEF MAKSURA FINAL FORM=FC68;55ISOLATED FORM=FC03
ARABIC LIGATURE YEH WITH HAMZA ABOVE WITH E FINAL FORM=FBF7;44INITIAL FORM=FBF8
ARABIC LIGATURE YEH WITH HAMZA ABOVE WITH E ISOLATED FORM=FBF6;42HAH INITIAL FORM=FC98
ARABIC LIGATURE YEH WITH HAMZA ABOVE WITH HAH ISOLATED FORM=FC01;43EH INITIAL FORM=FC9B
ARABIC LIGATURE YEH WITH HAMZA ABOVE WITH HEH MEDIAL FORM=FCE0;42JEEM INITIAL FORM=FC97
ARABIC LIGATURE YEH WITH HAMZA ABOVE WITH JEEM ISOLATED FORM=FC00;42KHAH INITIAL FORM=FC99
ARABIC LIGATURE YEH WITH HAMZA ABOVE WITH MEEM FINAL FORM=FC66;47INITIAL FORM=FC9A
ARABIC LIGATURE YEH WITH HAMZA ABOVE WITH MEEM ISOLATED FORM=FC02;47MEDIAL FORM=FCDF
ARABIC LIGATURE YEH WITH HAMZA ABOVE WITH NOON FINAL FORM=FC67;42OE FINAL FORM=FBF3
ARABIC LIGATURE YEH WITH HAMZA ABOVE WITH OE ISOLATED FORM=FBF2;42REH FINAL FORM=FC64
ARABIC LIGATURE YEH WITH HAMZA ABOVE WITH U FINAL FORM=FBF1;44ISOLATED FORM=FBF0
ARABIC LIGATURE YEH WITH HAMZA ABOVE WITH WAW FINAL FORM=FBEF;46ISOLATED FORM=FBEE
ARABIC LIGATURE YEH WITH HAMZA ABOVE WITH YEH FINAL FORM=FC69;46ISOLATED FORM=FC04
ARABIC LIGATURE YEH WITH HAMZA ABOVE WITH YU FINAL FORM=FBF5;45ISOLATED FORM=FBF4
ARABIC LIGATURE YEH WITH HAMZA ABOVE WITH ZAIN FINAL FORM=FC65;26EH INITIAL FORM=FCDE
ARABIC LIGATURE YEH WITH HEH MEDIAL FORM=FCF1;25JEEM INITIAL FORM=FCDA;31SOLATED FORM=FC55
ARABIC LIGATURE YEH WITH JEEM WITH YEH FINAL FORM=FDAF;25KHAH INITIAL FORM=FCDC
ARABIC LIGATURE YEH WITH KHAH ISOLATED FORM=FC57;25MEEM FINAL FORM=FC93;30INITIAL FORM=FCDD
ARABIC LIGATURE YEH WITH MEEM ISOLATED FORM=FC58;30MEDIAL FORM=FCF0;30WITH MEEM FINAL FORM=FD9C
ARABIC LIGATURE YEH WITH MEEM WITH MEEM INITIAL FORM=FD9D;35YEH FINAL FORM=FDB0
ARABIC LIGATURE YEH WITH NOON FINAL FORM=FC94;25REH FINAL FORM=FC91;25YEH FINAL FORM=FC96
ARABIC LIGATURE YEH WITH YEH ISOLATED FORM=FC5A;25ZAIN FINAL FORM=FC92
ARABIC LIGATURE ZAH WITH MEEM INITIAL FORM=FCB9;31SOLATED FORM=FC28;30MEDIAL FORM=FD3B
ARABIC MADDA WAAJIB=89C;12H ABOVE=653;09RK NOON GHUNNA=658;12SIDEWAYS NOON GHUNNA=8FF
ARABIC MATHEMATICAL AIN=1EE0F;21LEF=1EE00;20BEH=1EE01;20DAD=1EE19;22L=1EE03;21OTLESS BEH=1EE1C
ARABIC MATHEMATICAL DOTLESS FEH=1EE1E;28NOON=1EE1D;28QAF=1EE1F;22UBLE-STRUCK AIN=1EEAF;34BEH=1EEA1
ARABIC MATHEMATICAL DOUBLE-STRUCK DAD=1EEB9;36L=1EEA3;34FEH=1EEB0;34GHAIN=1EEBB;34HAH=1EEA7
ARABIC MATHEMATICAL DOUBLE-STRUCK JEEM=1EEA2;34KHAH=1EEB7;34LAM=1EEAB;34MEEM=1EEAC;34NOON=1EEAD
ARABIC MATHEMATICAL DOUBLE-STRUCK QAF=1EEB2;34REH=1EEB3;34SAD=1EEB1;35EEN=1EEAE;35HEEN=1EEB4
ARABIC MATHEMATICAL DOUBLE-STRUCK TAH=1EEA8;35EH=1EEB5;35HAL=1EEB8;36EH=1EEB6;34WAW=1EEA5
ARABIC MATHEMATICAL DOUBLE-STRUCK YEH=1EEA9;34ZAH=1EEBA;36IN=1EEA6;20FEH=1EE10;20GHAIN=1EE1B
ARABIC MATHEMATICAL HAH=1EE07;20INITIAL AIN=1EE2F;28BEH=1EE21;28DAD=1EE39;28FEH=1EE30
ARABIC MATHEMATICAL INITIAL GHAIN=1EE3B;28HAH=1EE27;29EH=1EE24;28JEEM=1EE22;28KAF=1EE2A
ARABIC MATHEMATICAL INITIAL KHAH=1EE37;28LAM=1EE2B;28MEEM=1EE2C;28NOON=1EE2D;28QAF=1EE32
ARABIC MATHEMATICAL INITIAL SAD=1EE31;29EEN=1EE2E;29HEEN=1EE34;28TEH=1EE35;29HEH=1EE36;28YEH=1EE29
ARABIC MATHEMATICAL JEEM=1EE02;20KAF=1EE0A;21HAH=1EE17;20LAM=1EE0B;21OOPED AIN=1EE8F;28LEF=1EE80
ARABIC MATHEMATICAL LOOPED BEH=1EE81;27DAD=1EE99;29L=1EE83;27FEH=1EE90;27GHAIN=1EE9B;27HAH=1EE87
ARABIC MATHEMATICAL LOOPED HEH=1EE84;27JEEM=1EE82;27KHAH=1EE97;27LAM=1EE8B;27MEEM=1EE8C
ARABIC MATHEMATICAL LOOPED NOON=1EE8D;27QAF=1EE92;27REH=1EE93;27SAD=1EE91;28EEN=1EE8E;28HEEN=1EE94
ARABIC MATHEMATICAL LOOPED TAH=1EE88;28EH=1EE95;28HAL=1EE98;29EH=1EE96;27WAW=1EE85;27YEH=1EE89
ARABIC MATHEMATICAL LOOPED ZAH=1EE9A;29IN=1EE86;20MEEM=1EE0C;20NOON=1EE0D
ARABIC MATHEMATICAL OPERATOR HAH WITH DAL=1EEF1;29MEEM WITH HAH WITH TATWEEL=1EEF0;20QAF=1EE12
ARABIC MATHEMATICAL REH=1EE13;20SAD=1EE11;21EEN=1EE0E;21HEEN=1EE14;21TRETCHED AIN=1EE6F
ARABIC MATHEMATICAL STRETCHED BEH=1EE61;30DAD=1EE79;31OTLESS BEH=1EE7C;38FEH=1EE7E;30FEH=1EE70
ARABIC MATHEMATICAL STRETCHED GHAIN=1EE7B;30HAH=1EE67;31EH=1EE64;30JEEM=1EE62;30KAF=1EE6A
ARABIC MATHEMATICAL STRETCHED KHAH=1EE77;30MEEM=1EE6C;30NOON=1EE6D;30QAF=1EE72;30SAD=1EE71
ARABIC MATHEMATICAL STRETCHED SEEN=1EE6E;31HEEN=1EE74;30TAH=1EE68;31EH=1EE75;31HEH=1EE76
ARABIC MATHEMATICAL STRETCHED YEH=1EE69;30ZAH=1EE7A;20TAH=1EE08;22ILED AIN=1EE4F;27DAD=1EE59
ARABIC MATHEMATICAL TAILED DOTLESS NOON=1EE5D;35QAF=1EE5F;27GHAIN=1EE5B;27HAH=1EE47;27JEEM=1EE42
ARABIC MATHEMATICAL TAILED KHAH=1EE57;27LAM=1EE4B;27NOON=1EE4D;27QAF=1EE52;27SAD=1EE51;28EEN=1EE4E
ARABIC MATHEMATICAL TAILED SHEEN=1EE54;27YEH=1EE49;21EH=1EE15;21HAL=1EE18;22EH=1EE16;20WAW=1EE05
ARABIC MATHEMATICAL YEH=1EE09;20ZAH=1EE1A;22IN=1EE06;07NUMBER MARK ABOVE=605;14SIGN=600
ARABIC OPEN DAMMATAN=8F1;12FATHATAN=8F0;12KASRATAN=8F2;07PERCENT SIGN=66A;08IASTRE MARK ABOVE=891
ARABIC PLACE OF SAJDAH=6E9;08OETIC VERSE SIGN=60E;09UND MARK ABOVE=890;07QUESTION MARK=61F
ARABIC RAISED ROUND DOT=888;09Y=608;08EVERSED DAMMA=65D;08IGHT ARROWHEAD ABOVE WITH DOT=8FD;28=8F8
ARABIC RIGHT ARROWHEAD BELOW=8FA;08OUNDED HIGH STOP WITH FILLED CENTRE=6EC;07SEMICOLON=61B
ARABIC SHADDA ISOLATED FORM=FE7C;14MEDIAL FORM=FE7D;13=651;08IGN ALAYHE ASSALLAM=611;12MISRA=60F
ARABIC SIGN RADI ALLAHOU ANHU=613;14HMATULLAH ALAYHE=612;12SAFHA=603
ARABIC SIGN SALLALLAHOU ALAYHE WASSALLAM=610;14MVAT=604;14NAH=601;13INDHI AMPERSAND=6FD
ARABIC SIGN SINDHI POSTPOSITION MEN=6FE;12TAKHALLUS=614;08MALL DAMMA=619;13FARSI YEH=8C9;15THA=618
ARABIC SMALL HIGH AIN=8D6;18DOTLESS HEAD OF KHAH=6E1;18FARSI YEH=8CA;19OOTNOTE MARKER=8E0
ARABIC SMALL HIGH JEEM=6DA;18LAM ALEF=6D9;19IGATURE ALEF WITH LAM WITH YEH=616
ARABIC SMALL HIGH LIGATURE QAF WITH LAM WITH ALEF MAKSURA=6D7;27SAD WITH LAM WITH ALEF MAKSURA=6D6
ARABIC SMALL HIGH MADDA=6E4;19EEM INITIAL FORM=6D8;24SOLATED FORM=6E2;18NOON WITH KASRA=8D8;22=6E8
ARABIC SMALL HIGH QAF=8D7;18ROUNDED ZERO=6DF;18SAD=8D5;19EEN=6DC;19IGN SAFHA=8E1;18TAH=615
ARABIC SMALL HIGH THREE DOTS=6DB;18UPRIGHT RECTANGULAR ZERO=6E0;18WAW=8F3;19ORD AL-JUZ=898
ARABIC SMALL HIGH WORD AN-NISF=8DC;24R-RUB=8D4;24S-SAJDA=8DB;24TH-THALATHA=8DA;23QIF=8DE;23SAH=8CC
ARABIC SMALL HIGH WORD SAKTA=8DD;23WAQFA=8DF;18YEH BARREE WITH TWO DOTS BELOW=8CB;21=6E7;18ZAH=8CD
ARABIC SMALL HIGH ZAIN=617;13KASRA=61A;13LOW MEEM=6ED;17NOON WITH KASRA=8D9;17SEEN=6E3;17WAW=8D3
ARABIC SMALL LOW WORD IMAALA=89A;23SHMAAM=899;22TASHEEL=89B;13WAW=6E5;13YEH=6E6
ARABIC START OF RUB EL HIZB=6DE;08UBSCRIPT ALEF=656;09KUN BELOW=8D0;13ISOLATED FORM=FE7E
ARABIC SUKUN MEDIAL FORM=FE7F;12=652;09PERSCRIPT ALEF MOKHASSAS=89D;08YMBOL DOT ABOVE=FBB2
ARABIC SYMBOL DOT BELOW=FBB3;16UBLE VERTICAL BAR BELOW=FBBC;14FOUR DOTS ABOVE=FBBA;24BELOW=FBBB
ARABIC SYMBOL RING=FBBF;14SMALL TAH ABOVE=FBC0;24BELOW=FBC1;14THREE DOTS ABOVE=FBB6;25BELOW=FBB7
ARABIC SYMBOL THREE DOTS POINTING DOWNWARDS ABOVE=FBB8;44BELOW=FBB9;15WO DOTS ABOVE=FBB4
ARABIC SYMBOL TWO DOTS BELOW=FBB5;23VERTICALLY ABOVE=FBBD;34BELOW=FBBE;14WASLA ABOVE=FBC2
ARABIC TAIL FRAGMENT=FE73;09TWEEL WITH FATHATAN ABOVE=FE71;20OVERSTRUCK HAMZA=883;31WAW=884
ARABIC TATWEEL WITH TWO DOTS BELOW=885;14=640;08HOUSANDS SEPARATOR=66C;08ONE LOOP ABOVE=8EC
ARABIC TONE LOOP BELOW=8EF;12ONE DOT ABOVE=8EA;20BELOW=8ED;12TWO DOTS ABOVE=8EB;21BELOW=8EE
ARABIC TRIPLE DOT PUNCTUATION MARK=61E;08URNED DAMMA BELOW=8E3;07VERTICAL TAIL=88E
ARABIC VOWEL SIGN DOT BELOW=65C;18INVERTED SMALL V ABOVE=65B;18SMALL V ABOVE=65A
ARABIC WAVY HAMZA BELOW=65F;07ZWARAKAY=659;06-INDIC CUBE ROOT=606;13DIGIT EIGHT=668;19FIVE=665
ARABIC-INDIC DIGIT FOUR=664;19NINE=669;19ONE=661;19SEVEN=667;20IX=666;19THREE=663;20WO=662
ARABIC-INDIC DIGIT ZERO=660;13FOURTH ROOT=607;13PER MILLE SIGN=609;17TEN THOUSAND SIGN=60A
ARC=2312;02IES=2648;02MENIAN ABBREVIATION MARK=55F;10POSTROPHE=55A;09CAPITAL LETTER AYB=531
ARMENIAN CAPITAL LETTER BEN=532;24CA=53E;25HA=549;26EH=543;25O=551;24DA=534;24ECH=535;25H=537
ARMENIAN CAPITAL LETTER ET=538;24FEH=556;24GHAD=542;25IM=533;24HO=540;24INI=53B;24JA=541;25HEH=54B
ARMENIAN CAPITAL LETTER KEH=554;26N=53F;24LIWN=53C;24MEN=544;24NOW=546;24OH=555;24PEH=54A
ARMENIAN CAPITAL LETTER PIWR=553;24RA=54C;25EH=550;24SEH=54D;25HA=547;24TIWN=54F;25O=539;24VEW=54E
ARMENIAN CAPITAL LETTER VO=548;24XEH=53D;24YI=545;26WN=552;24ZA=536;25HE=53A;10OMMA=55D
ARMENIAN DRAM SIGN=58F;09EMPHASIS MARK=55B;10XCLAMATION MARK=55C;09FULL STOP=589;09HYPHEN=58A
ARMENIAN MODIFIER LETTER LEFT HALF RING=559;09QUESTION MARK=55E;09SMALL LETTER AYB=561;22BEN=562
ARMENIAN SMALL LETTER CA=56E;23HA=579;24EH=573;23O=581;22DA=564;22ECH=565;23H=567;23T=568
ARMENIAN SMALL LETTER FEH=586;22GHAD=572;23IM=563;22HO=570;22INI=56B;22JA=571;23HEH=57B;22KEH=584
ARMENIAN SMALL LETTER KEN=56F;22LIWN=56C;22MEN=574;22NOW=576;22OH=585;22PEH=57A;23IWR=583;22RA=57C
ARMENIAN SMALL LETTER REH=580;22SEH=57D;23HA=577;22TIWN=57F;23O=569;23URNED AYB=560;22VEW=57E
ARMENIAN SMALL LETTER VO=578;22XEH=56D;22YI WITH STROKE=588;24=575;24WN=582;22ZA=566;23HE=56A
ARMENIAN SMALL LIGATURE ECH YIWN=587;24MEN ECH=FB14;28INI=FB15;28NOW=FB13;28XEH=FB17
ARMENIAN SMALL LIGATURE VEW NOW=FB16;02ROW POINTING DOWNWARDS THEN CURVING LEFTWARDS=2936
ARROW POINTING DOWNWARDS THEN CURVING RIGHTWARDS=2937;15RIGHTWARDS THEN CURVING DOWNWARDS=2935
ARROW POINTING RIGHTWARDS THEN CURVING SOUTH WEST=1F8B1;39UPWARDS=2934
ARROW POINTING UPWARDS THEN NORTH WEST=1F8B0;05HEAD-SHAPED POINTER=1FBB0;02TICULATED LORRY=1F69B
ARTIST PALETTE=1F3A8;01SCENDING NODE=260A;03IA SYMBOL=1019C;02SERTION=22A6;02TERISK OPERATOR=2217
ASTERISK=2A;07M=2042;03ONISHED FACE=1F632;03RAEA=2BD9;04ONOMICAL SYMBOL FOR URANUS=26E2
ASYMPTOTICALLY EQUAL TO=2243;01THLETIC SHOE=1F45F;02OM SYMBOL=269B;01UBERGINE=1F346
AUSTRAL SIGN=20B3;02TO RICKSHAW=1F6FA;04MATED TELLER MACHINE=1F3E7;05OBILE=1F697
AVESTAN ABBREVIATION MARK=10B39;08LETTER A=10B00;16A=10B01;17N=10B05;17O=10B03;16E=10B06;17E=10B07
AVESTAN LETTER AN=10B04;16O=10B02;15BE=10B20;16HE=10B21;15CE=10B17;15DE=10B1B;16HE=10B1C;15E=10B08
AVESTAN LETTER EE=10B09;15FE=10B1F;15GE=10B14;16GE=10B15;16HE=10B16;15HE=10B35;16ME=10B29
AVESTAN LETTER I=10B0C;16I=10B0D;15JE=10B18;15KE=10B10;15LE=10B2E;15ME=10B28;15NE=10B25;16GE=10B22
AVESTAN LETTER NGVE=10B24;17YE=10B23;16NE=10B27;16YE=10B26;15O=10B0A;16O=10B0B;15PE=10B1E
AVESTAN LETTER RE=10B2D;15SE=10B2F;16HE=10B31;17YE=10B33;16SHE=10B34;15TE=10B19;16HE=10B1A
AVESTAN LETTER TTE=10B1D;15U=10B0E;16U=10B0F;15VE=10B2C;15XE=10B11;16VE=10B13;16YE=10B12
AVESTAN LETTER YE=10B2B;16YE=10B2A;15ZE=10B30;16HE=10B32;02OCADO=1F951;01XE=1FA93
BABY ANGEL=1F47C;05BOTTLE=1F37C;05CHICK=1F424;05SYMBOL=1F6BC;04=1F476;02CK OF ENVELOPE=1F582
BACK WITH LEFTWARDS ARROW ABOVE=1F519;04-TILTED SHADOWED WHITE RIGHTWARDS ARROW=27AB
BACKSLANTED SOUTH ARROW WITH HOOKED TAIL=2B5B;31RIZONTAL TAIL=2B5D;05PACE=8;03ON=1F953
BACTRIAN CAMEL=1F42B;02DGER=1F9A1;03MINTON RACQUET AND SHUTTLECOCK=1F3F8;02GEL=1F96F
BAGGAGE CLAIM=1F6C4;03UETTE BREAD=1F956;02LINESE ADEG ADEG=1B44;09CARIK PAMUNGKAH=1B5D
BALINESE CARIK PAREREN=1B5F;15SIKI=1B5E;09DIGIT EIGHT=1B58;15FIVE=1B55;16OUR=1B54;15NINE=1B59
BALINESE DIGIT ONE=1B51;15SEVEN=1B57;16IX=1B56;15THREE=1B53;16WO=1B52;15ZERO=1B50
BALINESE LETTER AIKARA=1B10;17KARA TEDUNG=1B06;21=1B05;17RCHAIC JNYA=1B4C;17SYURA SASAK=1B4B
BALINESE LETTER BA KEMBANG=1B2A;18=1B29;16CA LACA=1B19;18=1B18;16DA MADU=1B25
BALINESE LETTER DA MURDA ALPAPRANA=1B1F;25MAHAPRANA=1B20;18=1B24;16EF SASAK=1B48;17KARA=1B0F
BALINESE LETTER GA GORA=1B16;18=1B15;16HA=1B33;16IKARA TEDUNG=1B08;21=1B07;16JA JERA=1B1B;18=1B1A
BALINESE LETTER KA MAHAPRANA=1B14;18=1B13;18F SASAK=1B45;17HOT SASAK=1B46;16LA LENGA TEDUNG=1B0E
BALINESE LETTER LA LENGA=1B0D;18=1B2E;16MA=1B2B;16NA RAMBAT=1B21;18=1B26;17GA=1B17;17YA=1B1C
BALINESE LETTER OKARA TEDUNG=1B12;21=1B11;16PA KAPAL=1B28;18=1B27;16RA REPA TEDUNG=1B0C;23=1B0B
BALINESE LETTER RA=1B2D;16SA SAGA=1B30;21PA=1B31;18=1B32;16TA LATIK=1B1D;19MURDA MAHAPRANA=1B1E
BALINESE LETTER TA TAWA=1B23;18=1B22;17ZIR SASAK=1B47;16UKARA TEDUNG=1B0A;21=1B09;16VE SASAK=1B49
BALINESE LETTER WA=1B2F;16YA=1B2C;16ZAL SASAK=1B4A;09MUSICAL SYMBOL COMBINING BENDE=1B72
BALINESE MUSICAL SYMBOL COMBINING ENDEP=1B6C;34GONG=1B73;34JEGOGAN=1B6F;34KEMPLI WITH JEGOGAN=1B71
BALINESE MUSICAL SYMBOL COMBINING KEMPLI=1B6E;38UL WITH JEGOGAN=1B70;40=1B6D;34TEGEH=1B6B
BALINESE MUSICAL SYMBOL DAENG=1B67;26ING=1B69;26NG GEDE=1B6A;29SURANG=1B65;28=1B64;25ENG=1B62
BALINESE MUSICAL SYMBOL DEUNG=1B68;25ING=1B66;25ONG=1B61;25UNG=1B63;24LEFT-HAND CLOSED PLAK=1B7A
BALINESE MUSICAL SYMBOL LEFT-HAND CLOSED PLUK=1B7B;34OPEN PANG=1B78;40ING=1B7C;40UNG=1B79
BALINESE MUSICAL SYMBOL RIGHT-HAND CLOSED TAK=1B77;43UK=1B76;35OPEN DAG=1B75;41UG=1B74
BALINESE PAMADA LANTANG=1B7E;15=1B5B;12ENENG=1B60;11NTI LANTANG=1B7D;14=1B5A;09SIGN BISAH=1B04
BALINESE SIGN CECEK=1B02;14REREKAN=1B34;14SURANG=1B03;14ULU CANDRA=1B01;18RICEM=1B00
BALINESE VOWEL SIGN LA LENGA TEDUNG=1B3D;28=1B3C;20PEPET TEDUNG=1B43;25=1B42;20RA REPA TEDUNG=1B3B
BALINESE VOWEL SIGN RA REPA=1B3A;20SUKU ILUT=1B39;24=1B38;20TALING REPA TEDUNG=1B41;31=1B3F
BALINESE VOWEL SIGN TALING TEDUNG=1B40;26=1B3E;21EDUNG=1B35;20ULU SARI=1B37;23=1B36;09WINDU=1B5C
BALL OF YARN=1F9F6;04ET SHOES=1FA70;04OON-SPOKED ASTERISK=2749;07=1F388;05T BOLD SCRIPT X=1F5F6
BALLOT BOX WITH BALLOT=1F5F3;17OLD CHECK=1F5F9;21SCRIPT X=1F5F7;16CHECK=2611;16LIGHT X=2BBD
BALLOT BOX WITH SCRIPT X=1F5F5;16X=2612;10=2610;07SCRIPT X=1F5F4;07X=2717;02MUM COLON=A6F4
BAMUM COMBINING MARK KOQNDON=A6F0;21TUKWENTIS=A6F1;09MA=A6F5;06FULL STOP=A6F3;06LETTER A=A6A0
BAMUM LETTER EE=A6A4;13FAAMAE=A6ED;14EE=A6CB;14OM=A6D9;14U=A6D8;13I=A6A9;13KA=A6A1;14EN=A6D2
BAMUM LETTER KET=A6BB;15UX=A6C4;14I=A6E5;14O=A6DF;15GHOM=A6EF;15VUU=A6EE;14PA=A6E9;14U=A6A3
BAMUM LETTER KYEE=A6BA;13LA=A6AA;14EEEE=A6AE;14I=A6DC;14OQ=A6DE;14U=A6CD;13M=A6B3;14A=A6E3
BAMUM LETTER MBAA=A6E7;15EN=A6E0;14EEEE=A6AF;15N=A6E2;14I=A6CE;14O=A6E6;14U=A6B5;13NA=A6DB
BAMUM LETTER NDAA=A6B1;14GA=A6D5;15GA=A6D4;15KWAEN=A6D3;14I=A6CF;14JAEM=A6B2;15EE=A6C6;15UAE=A6BE
BAMUM LETTER NSHA=A6C3;14TEE=A6C7;15UU=A6EB;14U=A6BD;15AE=A6BC;14YI=A6A8;13O=A6A7;13PA=A6AB
BAMUM LETTER PEE=A6CA;15UX=A6C5;14HASE-A FIRI=16839;21GBIEE FON=16801;22HEUAEGHEUAE=16821
BAMUM LETTER PHASE-A GHEUAERAE=1681C;21KAFA=16827;23Q=16850;22ET=16833;23UKEUTNDA=16813
BAMUM LETTER PHASE-A KPOQ=1683B;22UOQ=16835;21LAPAQ=16817;22ET KUT=16818;22OMMAE=16838;22U=16853
BAMUM LETTER PHASE-A LUAEP=1682F;21MAEKEUP=1681A;24M=1684E;25BGBIEE=1680B;25KPEN=1682B
BAMUM LETTER PHASE-A MAEMVEUX=1680E;24NYI=16832;24SI=16846;23NSUAE=1680F;23P PIEET=1683D
BAMUM LETTER PHASE-A MBANYI=16848;24Q=16856;22EUNJOMNDEUQ=16825;22GBASA=16824;22ON NGGEUAET=1681E
BAMUM LETTER PHASE-A MOOMEUT=16836;25PUQ=16826;22VEUAENGAM=16810;21NAA MFON=16804;23Q=16855
BAMUM LETTER PHASE-A NDA LEERAEWA=16829;24ANGGEUAET=16834;22EN=16854;22GANGU=1680D;23GEN=16845
BAMUM LETTER PHASE-A NGKUE MFON=16800;26NZEUM=16816;22IKA=1682C;22JAM=16847;22KAARAE=16843
BAMUM LETTER PHASE-A NKINDI=16814;22SHA=16851;24IEE=1684D;22TAP MFAA=16819;26NTAA=16822;25=1683F
BAMUM LETTER PHASE-A NTOQPEN=16812;22YET=16849;23I=1684F;24T MONGKEUAEQ=16841;22ZA MFON=16807
BAMUM LETTER PHASE-A NZUN MEUT=1681F;21PA LEERAEWA=16828;23AM=1684C;24RAE=16842;23MSHAE=1681D
BAMUM LETTER PHASE-A PASHAE=1681B;22ET=1682A;22ON MFON PIPAEMBA=16803;36GBIEE=16802
BAMUM LETTER PHASE-A PON PA NJI PIPAEMBA=1680A;38GBIEE=16809;22UP=1682D;21ROM=1683A
BAMUM LETTER PHASE-A SEUNYAM=16811;22HINDA PA NJI=16808;24RAE=1683E;23OQ NSHUT YUM=16840
BAMUM LETTER PHASE-A SHUENSHUET=16805;24M=16837;22ISA=16823;22ONJAM=16830;23Q=1683C;23T=1684B
BAMUM LETTER PHASE-A SUU=16815;21TEUAEN=1684A;24TEUWEN=16831;22ITA MFON=16806;22U MAEMBA=1680C
BAMUM LETTER PHASE-A TUAEP=1682E;21U YUQ NAE=16820;22NKNOWN=16844;21VEE=16852;19B FEE=16885
BAMUM LETTER PHASE-B FEUX=16883;21GHEUGHEN=1686F;28UAEM=16866;21KAM=16860;22EUAEM=16886
BAMUM LETTER PHASE-B KEUPUQ=1686E;24YEUX=16870;22IEEM=1685D;23Q=1688D;21LAANAE=16871
BAMUM LETTER PHASE-B LAM NSHUT NYAM=16863;22ET=16889;22OM NTEUM=1685B;21MA NJEUAENA=16887
BAMUM LETTER PHASE-B MA NJUQA=16888;23=1688C;22BA MAELEE=1685C;24ARAE=1685F;23EURI=1687E
BAMUM LETTER PHASE-B MBIT MBAAKET=1686C;23UOQ=16884;22EUQ=16879;24T NGGEET=16882;22FIYAQ=1687C
BAMUM LETTER PHASE-B MFON TEUAEQ=1686B;22ONTIEEN=1687F;21NDU NJAA=16865;22GGAAM=1688A
BAMUM LETTER PHASE-B NGGEU MBU=16875;24UOQ LARGE=1687B;27=1687A;23KINDI MVOP=16874;23OM=1688E
BAMUM LETTER PHASE-B NSEN=1688B;23HUET=16857;22TIEE SHEUOQ=16864;22YAEMAE=16880;23I NTEUM=1686D
BAMUM LETTER PHASE-B PARUM=16872;22EESHI=16861;22IT=16867;22UNGAAM=16881;21SAKEUAE=16877
BAMUM LETTER PHASE-B SET TU=1685A;22HET NJAQ=16869;24UAEQTU=1686A;22IEE=16859;22UE=1687D
BAMUM LETTER PHASE-B TAAM=16878;22U MAEMGBIEE=16858;24NSIEE=16868;21VEUM=16873;21WUAET=16876
BAMUM LETTER PHASE-B YAFU LEERAEWA=16862;22EURAE=1685E;19C BUNG=168C0;21FUE=168BC;21GBAYI=16898
BAMUM LETTER PHASE-C GHAP=168A0;24RAE=16896;21KAA=168A9;22EN FATIGUE=168EA;25LAW=168E9;23T=168C9
BAMUM LETTER PHASE-C KEUKAQ=168A1;24M=168E2;24SEUX=168E0;25HEUAEP=1689F;22PARAQ=168A8
BAMUM LETTER PHASE-C KUOP NKAARAE=168D5;23T=168CE;21LAM=168C5;23P=168B6;22IQ=168ED;22U=168CD
BAMUM LETTER PHASE-C MA KEUAERI=168B3;24NSIEE=168D8;23EMBA=168DE;24SI=168CB
BAMUM LETTER PHASE-C MBAA CABBAGE-TREE=1689E;26PICKET=168E3;24NYI=168DF;23EEKEET=16897;24RAE=168C2
BAMUM LETTER PHASE-C MBEUM=1689B;25X=168E1;23I=168DD;24RIEEN=168B7;24T=168A6;23UAEM=168CC
BAMUM LETTER PHASE-C MBUE=168A4;22GBASAQ=168B8;22IEE=168E6;22UAE=168E7;21NANSANAQ=168B2;23Q=168EC
BAMUM LETTER PHASE-C NDAM=168D7;24P=168DA;23EUAEREE=16894;25T=168BD;23IDA=168AB;23OMBU=1689D
BAMUM LETTER PHASE-C NGAQ=168EB;23GEN=16893;24U=168CA;25AEN NYAM=168B0;25EET=168D2;25M=168BB
BAMUM LETTER PHASE-C NGGUON=168B5;23KAQ=16895;24UE MAEMBA=1688F;23OM=168D0;22JAEM=168C4;24M=168CF
BAMUM LETTER PHASE-C NJEEEE=168C8;24UX=168E5;23UEQ=168AD;22SA=168BE;23EUAEN=168A5;23HAQ=168BF
BAMUM LETTER PHASE-C NSOM=168D3;23UN=168D6;24OT NGOM=168C7;22TAA=168B4;23EN=168D4;24UNGBA=168B9
BAMUM LETTER PHASE-C NTU MBIT=1689A;22YIR MKPARAQ MEUN=16899;22ZA=16890;23EUM=168A3;21PEN=168EF
BAMUM LETTER PHASE-C PIN=168EE;23RIEEN=1689C;21RU=168C3;21SETFON=168DC;23UX=168AA;22HIQ=168E8
BAMUM LETTER PHASE-C SHUEQ=168DB;22UAET=168AF;21TAASHAE=168AC;22ET=168F0;23UTEUX=168BA
BAMUM LETTER PHASE-C TITA YUE=168AE;24UAEP=168C6;21VEUAEPEN=168C1;24X=168B1;21WANGKUOQ=16892
BAMUM LETTER PHASE-C WUP=168D1;21YAA=168D9;22EUQ=168A7;22U MUOMAE=168A2;23M=16891;23WOQ=168E4
BAMUM LETTER PHASE-D FAA=16965;22EUFEUAET=16914;21GHAA=16912;23EUAE=16948;21KET=16904
BAMUM LETTER PHASE-D KEUAETMEUN=168FF;24M=16926;24OT MBUAE=1690F;24P=1692C;22U=16949;23N=1693A
BAMUM LETTER PHASE-D KUOM=16906;23Q=1693F;22WAET=16921;22YEE=16956;21LEEEE=1694F;23T=16930
BAMUM LETTER PHASE-D LEUAEP=16917;24M=16944;22IEE=168F6;22OQ=1695F;22UM=1691E;21M=16951
BAMUM LETTER PHASE-D MAENJET=16942;23LEERI=1690A;22BAA SEVEN=16963;25=16920;23UO=168F1
BAMUM LETTER PHASE-D MEEEE=16950;23UN=1693E;24T=1690B;22FEUAE=1692A;25T=16908;23IEE=16932
BAMUM LETTER PHASE-D MFO=1691D;24N=168F4;22GBEUN=1691A;24IEE=1691C;24OFUM=16916;22ONI=16919
BAMUM LETTER PHASE-D MU=16953;22VOP=1695E;21NDAM=16937;23EE=16915;24UX=16909;23ON=16918
BAMUM LETTER PHASE-D NGGAAM=16931;27AE=168F9;25P=16943;24EUX=1693B;24UOM=16945;24WAEN=16933
BAMUM LETTER PHASE-D NGKAP=168FE;24EUAEQ=16929;26RI=16910;24IEE=1693C;24UN=168FC;24YEE=16913
BAMUM LETTER PHASE-D NI=1695B;22JAP=16902;23EUAEM=1690E;25T=168F7;23I=168F3;24EE=168F5;23UEQ=16947
BAMUM LETTER PHASE-D NSHEE=168F8;24UT=16946;23IEEP=1691F;26T=1692B;23UM=16940;22TEE=16959
BAMUM LETTER PHASE-D NTEUM=16938;23UU=16962;22U=16957;22YAM=168FA;23ET=16922;23I=1694D;23UE=1692F
BAMUM LETTER PHASE-D PAP=16935;22EE=1695A;23UTAE=1692E;22IP=1692D;22UQ=1695D;23UT=1691B
BAMUM LETTER PHASE-D RAEM=16927;22EN MUCH=16960;25OLD=1694A;22II=1694E;21SAP=16907;23Q=16964
BAMUM LETTER PHASE-D SEUAEQ=1690C;22HEE=168FD;24UAE=16901;25X=16955;23II=16954;23OQ=1695C
BAMUM LETTER PHASE-D SHU=16958;22OT=16924;22UAE=16939;23E=16903;23U=16952;21TAE=1694B;22EEEE=16928
BAMUM LETTER PHASE-D TEUAEN=16923;24N=16941;24T=16900;22I=16961;22OQ=1694C;22U=16911;23OT=1693D
BAMUM LETTER PHASE-D WAP=168F2;22UAEN=168FB;21YAEMMAE=16905;22EN=1690D;22UOM=16934;24P=16936
BAMUM LETTER PHASE-D YUWOQ=16925;19E A=169D5;21FA=169BB;23Q=16A01;22EE=169EB;22OM=169D3
BAMUM LETTER PHASE-E FU CALL=169D2;24I=169C8;24REMEDY=169F5;23E=169B4;24T=169C4;21GBET=169A9
BAMUM LETTER PHASE-E GBEUX=169B5;22HAAMAE=169A2;23ET=169BA;24UAE=169C7;25N=16995;25X=16988
BAMUM LETTER PHASE-E GHOM=16A02;21I=169D8;21KET=169B7;23UAE=1699A;24X=169E6;22I=169FE;22O=169F9
BAMUM LETTER PHASE-E KPEUX=16974;22UET=169AB;23OP=1697A;23T=169CC;21LAAM=1699F;23P=16969;23Q=169D9
BAMUM LETTER PHASE-E LEUAEM=169B3;22OM=1697B;23ON=1696B;24T=1698C;23Q=169F8;22U=169ED;21MA=169FB
BAMUM LETTER PHASE-E MAE=169B8;24M=1697E;23P=1698B;23Q=169FC;22BEE=169A6;24UM=16968;22EN=169FA
BAMUM LETTER PHASE-E MFEUQ=169AF;22GBA=16987;24EN=169A5;22I=169EE;23EE=169C3;22ON=169FF
BAMUM LETTER PHASE-E MUAE=169C6;22VI=169C9;21NA=169F6;23E=169C5;22DAA MY HOUSE=169DD
BAMUM LETTER PHASE-E NDAA SOFTNESS=16992;24P=16966;23IAQ=169B0;24Q=1698E;23UN=16970;22GA=169F2
BAMUM LETTER PHASE-E NGEUREUT=169A3;23GEEEE=1698D;25UAE=169BF;28T=16977;24UAESHAE NYAM=16993
BAMUM LETTER PHASE-E NGGUP=169D0;25RAE=16986;23KA=16973;25AMI=169B9;24EUAEM=16989;26X=1697F
BAMUM LETTER PHASE-E NGKUM=169CB;25P=169B6;23OP=1697D;24Q=16980;23UAE=169E0;26T=169F1
BAMUM LETTER PHASE-E NJAEMLI=1698A;23EE EPOCH=169E8;25=169D4;24UX=16983;22KOM=169A8;22SHIEE=1697C
BAMUM LETTER PHASE-E NSHUE=16981;25OP=1696F;22TAP=169CE;23UM=169BC;22YI BETWEEN=169C0
BAMUM LETTER PHASE-E NYI CLEAVER=169AD;22ZAQ=169A7;23UQ=169C1;21O=169D7;21PA PEOPLE=169D1
BAMUM LETTER PHASE-E PA PLURAL=169DA;23A=1696C;24M=16978;22EEM=16984;23UT=169BD;24X=169E7
BAMUM LETTER PHASE-E PI=169F7;23EEQ=169B1;24T=169CD;22O=16998;23ON=169C2;22U=169A0;23AE=16971
BAMUM LETTER PHASE-E PUAQ=169CA;23E=169E9;23M=16991;21RAE=169F0;23Q=1696E;22EUX=169EF
BAMUM LETTER PHASE-E RIMGBA=16982;21SAA=16985;22EE=16976;23T=16990;22HEUAEQ=169A4;23IQ=169DE
BAMUM LETTER PHASE-E SHO=169F3;24Q=169F4;22OM=1696D;22UAEN=1699B;21TAA=169DB;24Q=169A1
BAMUM LETTER PHASE-E TAEN NTEUM=1698F;23M=16972;23Q=169DC;22EN=16A00;23U=169FD;24AEQ=1699C
BAMUM LETTER PHASE-E TOO=16979;24N=16967;23Q=169D6;22UAE=16996;23M=169AA;24AE=16999;21VEE=169EC
BAMUM LETTER PHASE-E VEUAE=1699D;22OM=1696A;21WEUX=1699E;22UE=169EA;23O=16975;21YAP=169AC
BAMUM LETTER PHASE-E YEUAE=16997;26T=169CF;24M=169BE;24X=169DF;22IEE=16994;23T=169AE
BAMUM LETTER PHASE-E YOQ COVER=169E3;25SWIMMING=169E2;22UAEN=169E1;23EQ=169B2;23N=169E5;23Q=169E4
BAMUM LETTER PHASE-F EE=16A06;21FOM=16A2B;21KA=16A03;22EN=16A26;23T=16A17;22O=16A2F;22PA=16A36
BAMUM LETTER PHASE-F KU=16A05;22YEE=16A16;21LA=16A0A;22I=16A2D;22OQ=16A2E;21M=16A11;22A=16A32
BAMUM LETTER PHASE-F MBAA=16A34;23EN=16A30;22EEEE=16A0D;22O=16A33;21NDAA=16A0F;22GGA=16A28
BAMUM LETTER PHASE-F NGKWAEN=16A27;22I=16A24;22JAEM=16A10;23UAE=16A1A;22SHA=16A1E;22TEE=16A20
BAMUM LETTER PHASE-F NU=16A19;23AE=16A18;22YI=16A09;21PEE=16A22;23UX=16A1F;22UAE=16A2A;21REE=16A07
BAMUM LETTER PHASE-F REN=16A31;23UX=16A25;22IEE=16A0C;23I=16A0B;22U=16A23;21SAMBA=16A37
BAMUM LETTER PHASE-F SEUX=16A15;22HII=16A13;23O=16A29;23U=16A1C;22I=16A14;22UU=16A12;21TAA=16A0E
BAMUM LETTER PHASE-F TAE=16A08;22ET=16A35;21U=16A04;21VUEQ=16A38;21WA=16A2C;22UE=16A21;21YA=16A1D
BAMUM LETTER PHASE-F YOQ=16A1B;14I=A6DD;14UAE=A6D7;15E=A6C8;13RAE=A6D1;14EE=A6A5;15N=A6E1
BAMUM LETTER REUX=A6D0;14IEE=A6AD;15I=A6AC;14U=A6CC;13SAMBA=A6EC;14EUX=A6B9;14HEUX=A6B8;15II=A6B6
BAMUM LETTER SHO=A6D6;15U=A6C0;14I=A6B7;14UU=A6B4;13TAA=A6B0;15E=A6A6;14EN=A6EA;15T=A6E8;14I=A6E4
BAMUM LETTER U=A6A2;13WA=A6DA;14UE=A6C9;13YA=A6C2;14OQ=A6BF;14UQ=A6C1;06NJAEMLI=A6F2
BAMUM QUESTION MARK=A6F7;06SEMICOLON=A6F6;02NANA=1F34C;03JO=1FA95;03K=1F3E6
BANKNOTE WITH DOLLAR SIGN=1F4B5;14EURO SIGN=1F4B6;14POUND SIGN=1F4B7;14YEN SIGN=1F4B4
BAR CHART=1F4CA;04OF SOAP=1F9FC;03BER POLE=1F488;02SEBALL=26BE;03KET=1F9FA;06BALL AND HOOP=1F3C0
BASSA VAH COMBINING HIGH TONE=16AF0;24-LOW TONE=16AF4;20LOW TONE=16AF1;23-MID TONE=16AF3
BASSA VAH COMBINING MID TONE=16AF2;10FULL STOP=16AF5;10LETTER A=16AE7;17BA=16AE2;17CE=16ADF
BASSA VAH LETTER DHII=16AD7;18O=16ADE;17E=16AEC;18E=16AEB;18NNI=16AD0;17FA=16AD3;17GAH=16AD6
BASSA VAH LETTER GBU=16ADD;17HWAH=16ADA;17I=16AED;17JO=16AD9;17KA=16AD1;18PAH=16AD8;17MBE=16AD4
BASSA VAH LETTER O=16AE8;18O=16AE9;17PA=16AE5;17SE=16AD2;17TO=16AE1;17U=16AEA;18WU=16AE0
BASSA VAH LETTER VU=16AE3;17WA=16ADB;19DDA=16AE6;17YEIN=16AE4;18IE=16AD5;17ZO=16ADC;02T=1F987
BATAK CONSONANT SIGN H=1BF1;21NG=1BF0;06LETTER A=1BC0;13BA=1BC5;13CA=1BE1;13DA=1BD1;13GA=1BCE
BATAK LETTER HA=1BC2;13I=1BE4;13JA=1BD0;13KARO BA=1BC6;13LA=1BDE;13MA=1BD4;15NDAILING HA=1BC4
BATAK LETTER MANDAILING NA=1BCA;24SA=1BDA;14BA=1BE3;13NA=1BC9;14DA=1BE2;14GA=1BDD
BATAK LETTER NORTHERN TA=1BD7;14YA=1BE0;13PA=1BC7;15KPAK WA=1BCD;13RA=1BD2;13SA=1BD8
BATAK LETTER SIMALUNGUN A=1BC1;24GA=1BCF;24HA=1BC3;24LA=1BDF;24MA=1BD5;24PA=1BC8;24RA=1BD3
BATAK LETTER SIMALUNGUN SA=1BD9;24WA=1BCC;24YA=1BDC;14OUTHERN TA=1BD6;13U=1BE5;13WA=1BCB;13YA=1BDB
BATAK PANGOLAT=1BF2;09ONGONAN=1BF3;06SIGN TOMPI=1BE6;07YMBOL BINDU JUDUL=1BFE;19NA METEK=1BFC
BATAK SYMBOL BINDU PANGOLAT=1BFF;20INARBORAS=1BFD;06VOWEL SIGN E=1BE7;18E=1BE9;17I=1BEA
BATAK VOWEL SIGN KARO I=1BEB;22O=1BED;17O=1BEC;17PAKPAK E=1BE8;17U FOR SIMALUNGUN SA=1BEF;18=1BEE
BATH=1F6C0;04TUB=1F6C1;03TERY=1F50B;01EACH WITH UMBRELLA=1F3D6;03MED ASCENDING MUSICAL NOTES=1F39C
BEAMED DESCENDING MUSICAL NOTES=1F39D;07EIGHTH NOTES=266B;07SIXTEENTH NOTES=266C;03NS=1FAD8
BEAR FACE=1F43B;04DED PERSON=1F9D4;03TING HEART=1F493;03VER=1F9AB;02CAUSE=2235;02D=1F6CF
BEER MUG=1F37A;03TLE=1FAB2;02L=7;03L PEPPER=1FAD1;05SYMBOL=237E;05WITH CANCELLATION STROKE=1F515
BELL=1F514;04HOP BELL=1F6CE;02NGALI ABBREVIATION SIGN=9FD;09NJI=980;09U LENGTH MARK=9D7
BENGALI CURRENCY DENOMINATOR SIXTEEN=9F9;17NUMERATOR FOUR=9F7;27ONE LESS THAN THE DENOMINATOR=9F8
BENGALI CURRENCY NUMERATOR ONE=9F4;27THREE=9F6;28WO=9F5;08DIGIT EIGHT=9EE;14FIVE=9EB;15OUR=9EA
BENGALI DIGIT NINE=9EF;14ONE=9E7;14SEVEN=9ED;15IX=9EC;14THREE=9E9;15WO=9E8;14ZERO=9E6
BENGALI GANDA MARK=9FB;08ISSHAR=9FA;08LETTER A=985;16A=986;16I=990;16U=994;15BA=9AC;16HA=9AD
BENGALI LETTER CA=99A;16HA=99B;15DA=9A6;16DA=9A1;17HA=9A2;16HA=9A7;15E=98F;15GA=997;16HA=998
BENGALI LETTER HA=9B9;15I=987;16I=988;15JA=99C;16HA=99D;15KA=995;16HA=996;18NDA TA=9CE;15LA=9B2
BENGALI LETTER MA=9AE;15NA=9A8;16GA=999;16NA=9A3;16YA=99E;15O=993;15PA=9AA;16HA=9AB
BENGALI LETTER RA WITH LOWER DIAGONAL=9F1;23MIDDLE DIAGONAL=9F0;17=9B0;16HA=9DD;16RA=9DC;15SA=9B8
BENGALI LETTER SHA=9B6;16SA=9B7;15TA=9A4;16HA=9A5;16TA=99F;17HA=9A0;15U=989;16U=98A
BENGALI LETTER VEDIC ANUSVARA=9FC;16OCALIC L=98C;24L=9E1;23R=98B;24R=9E0;15YA=9AF;16YA=9DF
BENGALI RUPEE MARK=9F2;14SIGN=9F3;08SANDHI MARK=9FE;09IGN ANUSVARA=982;14VAGRAHA=9BD
BENGALI SIGN CANDRABINDU=981;13NUKTA=9BC;13VIRAMA=9CD;15SARGA=983;08VOWEL SIGN AA=9BE;20I=9C8
BENGALI VOWEL SIGN AU=9CC;19E=9C7;19I=9BF;20I=9C0;19O=9CB;19U=9C1;20U=9C2;19VOCALIC L=9E2;28L=9E3
BENGALI VOWEL SIGN VOCALIC R=9C3;28R=9C4;03T ARROW POINTING DOWNWARDS THEN NORTH EAST=2B5E
BENTO BOX=1F371;03ZENE RING WITH CIRCLE=23E3;12=232C;02T SYMBOL=2136;03WEEN=226C
BEVERAGE BOX=1F9C3;01HAIKSUKI DANDA=11C41;11IGIT EIGHT=11C58;16FIVE=11C55;17OUR=11C54;16NINE=11C59
BHAIKSUKI DIGIT ONE=11C51;16SEVEN=11C57;17IX=11C56;16THREE=11C53;17WO=11C52;16ZERO=11C50
BHAIKSUKI DOUBLE DANDA=11C42;10GAP FILLER-1=11C44;212=11C45;10HUNDREDS UNIT MARK=11C6C
BHAIKSUKI LETTER A=11C00;18A=11C01;18I=11C0B;18U=11C0D;17BA=11C24;18HA=11C25;17CA=11C13;18HA=11C14
BHAIKSUKI LETTER DA=11C1F;18DA=11C1A;19HA=11C1B;18HA=11C20;17E=11C0A;17GA=11C10;18HA=11C11
BHAIKSUKI LETTER HA=11C2E;17I=11C02;18I=11C03;17JA=11C15;18HA=11C16;17KA=11C0E;18HA=11C0F
BHAIKSUKI LETTER LA=11C29;17MA=11C26;17NA=11C21;18GA=11C12;18NA=11C1C;18YA=11C17;17O=11C0C
BHAIKSUKI LETTER PA=11C22;18HA=11C23;17RA=11C28;17SA=11C2D;18HA=11C2B;18SA=11C2C;17TA=11C1D
BHAIKSUKI LETTER THA=11C1E;18TA=11C18;19HA=11C19;17U=11C04;18U=11C05;17VA=11C2A;18OCALIC L=11C08
BHAIKSUKI LETTER VOCALIC R=11C06;26R=11C07;17YA=11C27;10NUMBER EIGHT=11C61;22Y=11C6A;17FIFTY=11C67
BHAIKSUKI NUMBER FIVE=11C5E;18ORTY=11C66;19UR=11C5D;17NINE=11C62;21TY=11C6B;17ONE=11C5A
BHAIKSUKI NUMBER SEVEN=11C60;22TY=11C69;18IX=11C5F;20TY=11C68;17TEN=11C63;18HIRTY=11C65
BHAIKSUKI NUMBER THREE=11C5C;18WENTY=11C64;19O=11C5B;10SIGN ANUSVARA=11C3D;16VAGRAHA=11C40
BHAIKSUKI SIGN CANDRABINDU=11C3C;15VIRAMA=11C3F;17SARGA=11C3E;10VOWEL SIGN AA=11C2F;22I=11C39
BHAIKSUKI VOWEL SIGN AU=11C3B;21E=11C38;21I=11C30;22I=11C31;21O=11C3A;21U=11C32;22U=11C33
BHAIKSUKI VOWEL SIGN VOCALIC L=11C36;29R=11C34;30R=11C35;10WORD SEPARATOR=11C43;01ICYCLE=1F6B2
BICYCLIST=1F6B4;02G REVERSE SOLIDUS=29F9;04SOLIDUS=29F8;02KINI=1F459;02LLED CAP=1F9E2
BILLIARDS=1F3B1;02OHAZARD SIGN=2623;02RD=1F426;03THDAY CAKE=1F382;02SON=1F9AC;02TCOIN SIGN=20BF
BITING LIP=1FAE6;01LACK BOWTIE=29D3;06CENTRE WHITE STAR=272C
BLACK CHESS BISHOP ROTATED NINETY DEGREES=1FA12;27TWO HUNDRED SEVENTY DEGREES=1FA3C;18=265D
BLACK CHESS EQUIHOPPER ROTATED NINETY DEGREES=1FA4C;22=1FA49;12KING ROTATED NINETY DEGREES=1FA0F
BLACK CHESS KING ROTATED TWO HUNDRED SEVENTY DEGREES=1FA39;16=265A"

end Foldline.Text.CharacterName
