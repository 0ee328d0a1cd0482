/-! # Character names, part 6 of 8

The names from MATHEMATICAL SANS-SERIF DIGIT EIGHT on,
in the notation of `CharacterName`. -/

namespace Foldline.Text.CharacterName

/-- Rows of names. -/
def rows6 : String := "
MATHEMATICAL SANS-SERIF DIGIT EIGHT=1D7EA;30FIVE=1D7E7;31OUR=1D7E6;30NINE=1D7EB;30ONE=1D7E3
MATHEMATICAL SANS-SERIF DIGIT SEVEN=1D7E9;31IX=1D7E8;30THREE=1D7E5;31WO=1D7E4;30ZERO=1D7E2
MATHEMATICAL SANS-SERIF ITALIC CAPITAL A=1D608;39B=1D609;39C=1D60A;39D=1D60B;39E=1D60C;39F=1D60D
MATHEMATICAL SANS-SERIF ITALIC CAPITAL G=1D60E;39H=1D60F;39I=1D610;39J=1D611;39K=1D612;39L=1D613
MATHEMATICAL SANS-SERIF ITALIC CAPITAL M=1D614;39N=1D615;39O=1D616;39P=1D617;39Q=1D618;39R=1D619
MATHEMATICAL SANS-SERIF ITALIC CAPITAL S=1D61A;39T=1D61B;39U=1D61C;39V=1D61D;39W=1D61E;39X=1D61F
MATHEMATICAL SANS-SERIF ITALIC CAPITAL Y=1D620;39Z=1D621;31SMALL A=1D622;37B=1D623;37C=1D624
MATHEMATICAL SANS-SERIF ITALIC SMALL D=1D625;37E=1D626;37F=1D627;37G=1D628;37H=1D629;37I=1D62A
MATHEMATICAL SANS-SERIF ITALIC SMALL J=1D62B;37K=1D62C;37L=1D62D;37M=1D62E;37N=1D62F;37O=1D630
MATHEMATICAL SANS-SERIF ITALIC SMALL P=1D631;37Q=1D632;37R=1D633;37S=1D634;37T=1D635;37U=1D636
MATHEMATICAL SANS-SERIF ITALIC SMALL V=1D637;37W=1D638;37X=1D639;37Y=1D63A;37Z=1D63B
MATHEMATICAL SANS-SERIF SMALL A=1D5BA;30B=1D5BB;30C=1D5BC;30D=1D5BD;30E=1D5BE;30F=1D5BF;30G=1D5C0
MATHEMATICAL SANS-SERIF SMALL H=1D5C1;30I=1D5C2;30J=1D5C3;30K=1D5C4;30L=1D5C5;30M=1D5C6;30N=1D5C7
MATHEMATICAL SANS-SERIF SMALL O=1D5C8;30P=1D5C9;30Q=1D5CA;30R=1D5CB;30S=1D5CC;30T=1D5CD;30U=1D5CE
MATHEMATICAL SANS-SERIF SMALL V=1D5CF;30W=1D5D0;30X=1D5D1;30Y=1D5D2;30Z=1D5D3
MATHEMATICAL SCRIPT CAPITAL A=1D49C;28C=1D49E;28D=1D49F;28G=1D4A2;28J=1D4A5;28K=1D4A6;28N=1D4A9
MATHEMATICAL SCRIPT CAPITAL O=1D4AA;28P=1D4AB;28Q=1D4AC;28S=1D4AE;28T=1D4AF;28U=1D4B0;28V=1D4B1
MATHEMATICAL SCRIPT CAPITAL W=1D4B2;28X=1D4B3;28Y=1D4B4;28Z=1D4B5;20SMALL A=1D4B6;26B=1D4B7
MATHEMATICAL SCRIPT SMALL C=1D4B8;26D=1D4B9;26F=1D4BB;26H=1D4BD;26I=1D4BE;26J=1D4BF;26K=1D4C0
MATHEMATICAL SCRIPT SMALL L=1D4C1;26M=1D4C2;26N=1D4C3;26P=1D4C5;26Q=1D4C6;26R=1D4C7;26S=1D4C8
MATHEMATICAL SCRIPT SMALL T=1D4C9;26U=1D4CA;26V=1D4CB;26W=1D4CC;26X=1D4CD;26Y=1D4CE;26Z=1D4CF
MAXIMIZE=1F5D6;02YAN NUMERAL EIGHT=1D2E8;19EEN=1D2F2;15LEVEN=1D2EB;14FIFTEEN=1D2EF;16VE=1D2E5
MAYAN NUMERAL FOUR=1D2E4;18TEEN=1D2EE;14NINE=1D2E9;18TEEN=1D2F3;14ONE=1D2E1;14SEVEN=1D2E7
MAYAN NUMERAL SEVENTEEN=1D2F1;15IX=1D2E6;17TEEN=1D2F0;14TEN=1D2EA;15HIRTEEN=1D2ED;16REE=1D2E3
MAYAN NUMERAL TWELVE=1D2EC;16O=1D2E2;14ZERO=1D2E0;01EASURED ANGLE OPENING LEFT=299B
MEASURED ANGLE WITH OPEN ARM ENDING IN ARROW POINTING DOWN AND LEFT=29AB;63RIGHT=29AA
MEASURED ANGLE WITH OPEN ARM ENDING IN ARROW POINTING LEFT AND DOWN=29AF;63UP=29AD
MEASURED ANGLE WITH OPEN ARM ENDING IN ARROW POINTING RIGHT AND DOWN=29AE;64UP=29AC
MEASURED ANGLE WITH OPEN ARM ENDING IN ARROW POINTING UP AND LEFT=29A9;61RIGHT=29A8;14=2221
MEASURED BY=225E;09RIGHT ANGLE WITH DOT=299D;03T ON BONE=1F356;02CHANICAL ARM=1F9BE;11LEG=1F9BF
MEDEFAIDRIN CAPITAL LETTER A=16E4D;28I=16E5E;28TIU=16E44;27B=16E50;27C=16E51;27D=16E59;27E=16E4F
MEDEFAIDRIN CAPITAL LETTER F=16E4A;27G=16E49;27H=16E56;28P=16E56;27I=16E4B;27J=16E4E;27K=16E4C
MEDEFAIDRIN CAPITAL LETTER KP=16E46;27L=16E54;27M=16E40;27N=16E5B;28G=16E57;28Y=16E57;27O=16E5D
MEDEFAIDRIN CAPITAL LETTER OE=16E5A;27P=16E47;27Q=16E55;27R=16E5C;27S=16E41;27T=16E48;27U=16E52
MEDEFAIDRIN CAPITAL LETTER V=16E42;27W=16E43;27X=16E58;27Y=16E5F;28U=16E53;27Z=16E45;13OMMA=16E97
MEDEFAIDRIN DIGIT EIGHT=16E88;18FIVE=16E85;19OUR=16E84;18NINE=16E89;18ONE ALTERNATE FORM=16E94
MEDEFAIDRIN DIGIT ONE=16E81;18SEVEN=16E87;19IX=16E86;18THREE ALTERNATE FORM=16E96;23=16E83
MEDEFAIDRIN DIGIT TWO ALTERNATE FORM=16E95;21=16E82;18ZERO=16E80;12EXCLAMATION OH=16E9A
MEDEFAIDRIN FULL STOP=16E98;12NUMBER EIGHTEEN=16E92;20LEVEN=16E8B;19FIFTEEN=16E8F;20OURTEEN=16E8E
MEDEFAIDRIN NUMBER NINETEEN=16E93;19SEVENTEEN=16E91;20IXTEEN=16E90;19TEN=16E8A;20HIRTEEN=16E8D
MEDEFAIDRIN NUMBER TWELVE=16E8C;12SMALL LETTER A=16E6D;26I=16E7E;26TIU=16E64;25B=16E70;25C=16E71
MEDEFAIDRIN SMALL LETTER D=16E79;25E=16E6F;25F=16E6A;25G=16E69;25H=16E76;26P=16E76;25I=16E6B
MEDEFAIDRIN SMALL LETTER J=16E6E;25K=16E6C;26P=16E66;25L=16E74;25M=16E60;25N=16E7B;26G=16E77
MEDEFAIDRIN SMALL LETTER NY=16E77;25O=16E7D;26E=16E7A;25P=16E67;25Q=16E75;25R=16E7C;25S=16E61
MEDEFAIDRIN SMALL LETTER T=16E68;25U=16E72;25V=16E62;25W=16E63;25X=16E78;25Y=16E7F;26U=16E73
MEDEFAIDRIN SMALL LETTER Z=16E65;13YMBOL AIVA=16E99;03IEVAL COMMA=2E4C;09EXCLAMATION MARK=2E53
MEDIEVAL QUESTION MARK=2E54;04UM BLACK CIRCLE=26AB;08OLD WHITE CIRCLE=1F785
MEDIUM EIGHT POINTED BLACK STAR=1F7CE;13SPOKED ASTERISK=1F7BC;07FIVE SPOKED ASTERISK=1F7B0
MEDIUM FLATTENED LEFT PARENTHESIS ORNAMENT=276A;17RIGHT PARENTHESIS ORNAMENT=276B
MEDIUM FOUR POINTED BLACK STAR=1F7C5;20PINWHEEL STAR=1F7C7;07GREEK CROSS=1F7A3
MEDIUM LEFT CURLY BRACKET ORNAMENT=2774;12PARENTHESIS ORNAMENT=2768
MEDIUM LEFT-POINTING ANGLE BRACKET ORNAMENT=276C;07MATHEMATICAL SPACE=205F
MEDIUM RIGHT CURLY BRACKET ORNAMENT=2775;13PARENTHESIS ORNAMENT=2769
MEDIUM RIGHT-POINTING ANGLE BRACKET ORNAMENT=276D;07SALTIRE=1F7AA;08HADE=2592
MEDIUM SIX POINTED BLACK STAR=1F7CB;11SPOKED ASTERISK=1F7B6;08MALL WHITE CIRCLE=26AC
MEDIUM THREE POINTED BLACK STAR=1F7C1;21PINWHEEL STAR=1F7C3;07VERTICAL BAR=2759
MEDIUM WHITE CIRCLE=26AA;13SQUARE=1F78F;02ETEI MAYEK AHANG KHUDAM=AAF1;14NJI=AAF2;14PUN IYEK=ABED
MEETEI MAYEK CHEIKHAN=AAF0;19EI=ABEB;13DIGIT EIGHT=ABF8;19FIVE=ABF5;20OUR=ABF4;19NINE=ABF9
MEETEI MAYEK DIGIT ONE=ABF1;19SEVEN=ABF7;20IX=ABF6;19THREE=ABF3;20WO=ABF2;19ZERO=ABF0
MEETEI MAYEK LETTER ATIYA=ABD1;20BA=ABD5;21HAM=ABDA;20CHA=AAE2;22IL=ABC6;20DDA=AAE6;22HA=AAE7
MEETEI MAYEK LETTER DHOU=ABD9;21IL=ABD7;20E=AAE0;20GHOU=ABD8;21OK=ABD2;20HUK=ABCD;20I LONSUM=ABE2
MEETEI MAYEK LETTER I=ABCF;20JHAM=ABD3;21IL=ABD6;20KHOU=ABC8;21OK LONSUM=ABDB;23=ABC0
MEETEI MAYEK LETTER LAI LONSUM=ABDC;23=ABC2;20MIT LONSUM=ABDD;23=ABC3;20NA LONSUM=ABDF;22=ABC5
MEETEI MAYEK LETTER NGOU LONSUM=ABE1;24=ABC9;21NA=AAE8;21YA=AAE3;20O=AAE1;20PA LONSUM=ABDE;22=ABC4
MEETEI MAYEK LETTER PHAM=ABD0;20RAI=ABD4;20SAM=ABC1;21HA=AAE9;21SA=AAEA;20THOU=ABCA
MEETEI MAYEK LETTER TIL LONSUM=ABE0;23=ABC7;21TA=AAE4;22HA=AAE5;20UN=ABCE;20WAI=ABCB;20YANG=ABCC
MEETEI MAYEK LUM IYEK=ABEC;13SYLLABLE REPETITION MARK=AAF3;13VIRAMA=AAF6;14OWEL SIGN AAI=AAED
MEETEI MAYEK VOWEL SIGN AAU=AAEF;25NAP=ABE5;25U=AAEE;24CHEINAP=ABE9;24II=AAEB;25NAP=ABE4
MEETEI MAYEK VOWEL SIGN NUNG=ABEA;24ONAP=ABE3;24SOUNAP=ABE7;24UNAP=ABE8;25U=AAEC;24VISARGA=AAF5
MEETEI MAYEK VOWEL SIGN YENAP=ABE6;13WORD REPETITION MARK=AAF4;02LON=1F348;03TING FACE=1FAE0
MEMO=1F4DD;02NDE KIKAKUI COMBINING NUMBER HUNDRED THOUSANDS=1E8D5;38S=1E8D2;31MILLIONS=1E8D6
MENDE KIKAKUI COMBINING NUMBER TEENS=1E8D0;33N THOUSANDS=1E8D4;34S=1E8D1;32HOUSANDS=1E8D3
MENDE KIKAKUI DIGIT EIGHT=1E8CE;20FIVE=1E8CB;21OUR=1E8CA;20NINE=1E8CF;20ONE=1E8C7;20SEVEN=1E8CD
MENDE KIKAKUI DIGIT SIX=1E8CC;20THREE=1E8C9;21WO=1E8C8;14SYLLABLE M001 KI=1E800;262 KA=1E801
MENDE KIKAKUI SYLLABLE M003 KU=1E802;264 WI=1E808;265 WA=1E809;266 WU=1E80A;267 MIN=1E814
MENDE KIKAKUI SYLLABLE M008 MAN=1E815;269 MUN=1E816;2510 BI=1E81B;261 BA=1E81C;262 BU=1E81D
MENDE KIKAKUI SYLLABLE M013 I=1E822;264 A=1E823;265 U=1E824;266 DI=1E83E;267 DA=1E83F;268 DU=1E840
MENDE KIKAKUI SYLLABLE M019 SI=1E82E;2520 SA=1E82F;261 SU=1E830;262 TI=1E844;263 TA=1E845
MENDE KIKAKUI SYLLABLE M024 TU=1E846;265 LI=1E836;266 LA=1E837;267 LU=1E838;268 JI=1E84B
MENDE KIKAKUI SYLLABLE M029 JA=1E84C;2530 JU=1E84D;261 YI=1E853;262 YA=1E854;263 YU=1E855
MENDE KIKAKUI SYLLABLE M034 FI=1E85A;265 FA=1E85B;266 FU=1E85C;267 NIN=1E863;268 NAN=1E864
MENDE KIKAKUI SYLLABLE M039 NUN=1E865;2540 HEE=1E86B;261 HA=1E869;262 HOO=1E86D;263 NGGA=1E878
MENDE KIKAKUI SYLLABLE M044 KPEE=1E8A2;265 WO=1E80E;266 HUAN=1E876;267 MBEE=1E896;268 KO=1E806
MENDE KIKAKUI SYLLABLE M049 WVA=1E812;2550 PU=1E88E;261 PE=1E890;262 HEN=1E874;263 HIN=1E871
MENDE KIKAKUI SYLLABLE M054 LOO=1E83B;265 TE=1E848;266 GBA=1E8A7;267 NGON=1E88A;268 NYAN=1E8C1
MENDE KIKAKUI SYLLABLE M059 MEN=1E817;2560 NYON=1E8C4;261 WVI=1E811;262 MBA=1E894;263 JO=1E851
MENDE KIKAKUI SYLLABLE M064 NDO=1E8B4;265 KEE=1E803;266 PO=1E892;267 NDOO=1E8B3;268 PI=1E88C
MENDE KIKAKUI SYLLABLE M069 TO=1E84A;2570 GBO=1E8AC;261 GBOO=1E8AB;262 MBE=1E898;263 LE=1E83A
MENDE KIKAKUI SYLLABLE M074 KPU=1E8A1;265 FE=1E85E;266 KOO=1E805;267 VO=1E8BF;268 FEE=1E85D
MENDE KIKAKUI SYLLABLE M079 SO=1E834;2580 YE=1E857;261 PEE=1E88F;262 NGGU=1E879;263 HEEI=1E86F
MENDE KIKAKUI SYLLABLE M084 LEE=1E839;265 VE=1E8BD;266 LONG NGGE=1E880;267 HUN=1E873;268 FO=1E860
MENDE KIKAKUI SYLLABLE M089 DEE=1E841;2590 NGGI=1E877;261 TEE=1E847;262 KPA=1E8A0;263 GBEE=1E8A9
MENDE KIKAKUI SYLLABLE M094 MON=1E818;265 KE=1E804;266 HE=1E86C;267 BE=1E81F;268 NYEN=1E8C3
MENDE KIKAKUI SYLLABLE M099 PA=1E88D;24100 E=1E826;261 FAN=1E862;262 POO=1E891;263 BOO=1E820
MENDE KIKAKUI SYLLABLE M104 TOO=1E849;265 LONG MBOO=1E89D;266 LONG NGGOO=1E881;267 GBE=1E8AA
MENDE KIKAKUI SYLLABLE M108 KPE=1E8A3;269 YEE=1E856;2510 LONG LE=1E83D;261 GA=1E884;262 KPOO=1E8A4
MENDE KIKAKUI SYLLABLE M113 JE=1E84F;264 WOO=1E80D;265 NGGEE=1E87A;266 SE=1E832;267 NEN=1E866
MENDE KIKAKUI SYLLABLE M118 WE=1E80C;269 NDE=1E8B2;2520 NGGO=1E87D;261 YO=1E859;262 MBU=1E895
MENDE KIKAKUI SYLLABLE M123 NDI=1E8AE;264 GBI=1E8A6;265 NDU=1E8B0;266 WEE=1E80B;267 NGGUA=1E87F
MENDE KIKAKUI SYLLABLE M128 HOOU=1E870;269 NDA=1E8AF;2530 HAN=1E872;261 IN=1E82A;262 KPI=1E89F
MENDE KIKAKUI SYLLABLE M133 FOO=1E85F;264 NJOO=1E8B8;265 IN=1E82B;266 SOO=1E833;267 EI=1E829
MENDE KIKAKUI SYLLABLE M138 BO=1E821;269 WVE=1E813;2540 HO=1E86E;261 YOO=1E858;262 LONG MBO=1E89E
MENDE KIKAKUI SYLLABLE M143 WEI=1E810;264 VOO=1E8BE;265 MBI=1E893;266 NGGE=1E87B;267 O=1E828
MENDE KIKAKUI SYLLABLE M148 GBU=1E8A8;269 NJEE=1E8B7;2550 BEE=1E81E;261 VU=1E8BB;262 NJA=1E8B5
MENDE KIKAKUI SYLLABLE M153 LO=1E83C;264 MUAN=1E819;265 GI=1E883;266 NGGOO=1E87C;267 JEE=1E84E
MENDE KIKAKUI SYLLABLE M158 KPO=1E8A5;269 NGGAA=1E87E;2560 JOO=1E850;261 LONG MBE=1E89C
MENDE KIKAKUI SYLLABLE M162 SEE=1E831;263 EE=1E825;264 NYIN=1E8C0;265 OO=1E827;266 GUEI=1E887
MENDE KIKAKUI SYLLABLE M167 GUAN=1E888;268 GU=1E885;269 NON=1E867;2570 NYUN=1E8C2;261 RA=1E8AD
MENDE KIKAKUI SYLLABLE M172 MBOO=1E899;263 VEE=1E8BC;264 MBO=1E89A;265 LONG JO=1E852;266 HI=1E868
MENDE KIKAKUI SYLLABLE M177 NGUAN=1E88B;268 EN=1E82D;269 KUA=1E807;2580 DOO=1E842;261 DO=1E843
MENDE KIKAKUI SYLLABLE M182 VI=1E8B9;263 LONG NGGO=1E882;264 NGEN=1E889;265 VA=1E8BA;266 HU=1E86A
MENDE KIKAKUI SYLLABLE M187 MBUU=1E89B;268 MBEE=1E897;269 MUEN=1E81A;2590 GEE=1E886;261 NDEE=1E8B1
MENDE KIKAKUI SYLLABLE M192 NJU=1E8B6;263 HON=1E875;264 WUI=1E80F;265 AN=1E82C;266 SIA=1E835
MENDE KIKAKUI SYLLABLE M197 FUA=1E861;03ORAH WITH NINE BRANCHES=1F54E;03S SYMBOL=1F6B9
MERCURY=263F;03OITIC CURSIVE FRACTION EIGHT TWELFTHS=109FD;27LEVEN TWELFTHS=109BC
MEROITIC CURSIVE FRACTION FIVE TWELFTHS=109FA;27OUR TWELFTHS=109F9;26NINE TWELFTHS=109FE
MEROITIC CURSIVE FRACTION ONE HALF=109BD;30TWELFTH=109F6;26SEVEN TWELFTHS=109FC
MEROITIC CURSIVE FRACTION SIX TWELFTHS=109FB;26TEN TWELFTHS=109FF;27HREE TWELFTHS=109F8
MEROITIC CURSIVE FRACTION TWO TWELFTHS=109F7;17LETTER A=109A0;25RCHAIC SA=109B0;24BA=109A6
MEROITIC CURSIVE LETTER DA=109B7;24E=109A1;24HHA=109AE;24I=109A2;24KA=109B2;25HA=109AD;24LA=109AC
MEROITIC CURSIVE LETTER MA=109A8;24NA=109A9;25E=109AA;24O=109A3;24PA=109A7;24QA=109B3;24RA=109AB
MEROITIC CURSIVE LETTER SA=109AF;25E=109B1;24TA=109B4;25E=109B5;25O=109B6;24WA=109A5;24YA=109A4
MEROITIC CURSIVE LOGOGRAM IMN=109BF;26RMT=109BE;17NUMBER EIGHT HUNDRED THOUSAND=109F4;37=109D9
MEROITIC CURSIVE NUMBER EIGHT THOUSAND=109E2;29=109C7;29Y THOUSAND=109EB;24FIFTY THOUSAND=109E8
MEROITIC CURSIVE NUMBER FIFTY=109CD;26VE HUNDRED THOUSAND=109F1;36=109D6;29THOUSAND=109DF;28=109C4
MEROITIC CURSIVE NUMBER FORTY THOUSAND=109E7;29=109CC;26UR HUNDRED THOUSAND=109F0;36=109D5
MEROITIC CURSIVE NUMBER FOUR THOUSAND=109DE;28=109C3;24NINE HUNDRED THOUSAND=109F5;36=109DA
MEROITIC CURSIVE NUMBER NINE THOUSAND=109E3;28=109C8;28TY THOUSAND=109EC
MEROITIC CURSIVE NUMBER ONE HUNDRED THOUSAND=109ED;35=109D2;28THOUSAND=109DB;27=109C0
MEROITIC CURSIVE NUMBER SEVEN HUNDRED THOUSAND=109F3;37=109D8;30THOUSAND=109E1;29=109C6
MEROITIC CURSIVE NUMBER SEVENTY THOUSAND=109EA;31=109CF;25IX HUNDRED THOUSAND=109F2;35=109D7
MEROITIC CURSIVE NUMBER SIX THOUSAND=109E0;27=109C5;27TY THOUSAND=109E9;29=109CE
MEROITIC CURSIVE NUMBER TEN THOUSAND=109E4;27=109C9;25HIRTY THOUSAND=109E6;30=109CB
MEROITIC CURSIVE NUMBER THREE HUNDRED THOUSAND=109EF;37=109D4;30THOUSAND=109DD;29=109C2
MEROITIC CURSIVE NUMBER TWENTY THOUSAND=109E5;30=109CA;26O HUNDRED THOUSAND=109EE;35=109D3
MEROITIC CURSIVE NUMBER TWO THOUSAND=109DC;27=109C1;09HIEROGLYPHIC LETTER A=10980;29BA-2=10987
MEROITIC HIEROGLYPHIC LETTER BA=10986;29DA=1099D;29E=10981;29HHA=10992;29I=10982;29KA=10996
MEROITIC HIEROGLYPHIC LETTER KHA=10991;29LA=10990;29MA=10989;29NA-2=1098B;31=1098A;30E-2=1098D
MEROITIC HIEROGLYPHIC LETTER NE=1098C;29O=10983;29PA=10988;29QA=10997;29RA-2=1098F;31=1098E
MEROITIC HIEROGLYPHIC LETTER SA-2=10994;31=10993;30E=10995;29TA-2=10999;31=10998;30E-2=1099B
MEROITIC HIEROGLYPHIC LETTER TE=1099A;30O=1099C;29WA=10985;29YA=10984;22SYMBOL VIDJ-2=1099F
MEROITIC HIEROGLYPHIC SYMBOL VIDJ=1099E;03PERSON=1F9DC;02SSAGE WAITING=95;02TRICAL BREVE=23D1
METRICAL LONG OVER SHORT=23D2;19TWO SHORTS=23D4;09PENTASEME=23D9;09SHORT OVER LONG=23D3
METRICAL TETRASEME=23D8;10RISEME=23D7;10WO SHORTS JOINED=23D6;20OVER LONG=23D5;04O=1F687
MIAO LETTER AH=16F43;13RCHAIC MA=16F06;20NA=16F13;21GA=16F25;20ZZA=16F3F;12BA=16F01;13RI=16F45
MIAO LETTER DA=16F0B;13DA=16F0F;13LHA=16F1B;15YA=16F1D;13ZA=16F38;14HA=16F2F;14YI=16F47;14ZA=16F2B
MIAO LETTER FA=16F07;12GA=16F1F;13HA=16F28;14HA=16F29;12HA=16F26;13HA=16F44;12KA=16F1E;12LA=16F16
MIAO LETTER LHA=16F18;14YA=16F19;13YA=16F17;12MA=16F04;13HA=16F05;12NA=16F10;14SALIZATION=16F50
MIAO LETTER NGA=16F23;14HA=16F24;13HA=16F11;13NA=16F14;14HA=16F15;13YA=16F2C;14HA=16F2D;12PA=16F00
MIAO LETTER PLA=16F03;12QA=16F21;13GA=16F22;12REFORMED TONE-1=16F9A;262=16F9B;264=16F9C;265=16F9D
MIAO LETTER REFORMED TONE-6=16F9E;268=16F9F;22SHA=16F32;13TE=16F4A;12SA=16F3A;13HA=16F33
MIAO LETTER SSA=16F34;13YI=16F46;12TA=16F0A;13E=16F48;13LHA=16F1A;15YA=16F1C;13ONE-2=16F93
MIAO LETTER TONE-3=16F94;174=16F95;175=16F96;176=16F97;177=16F98;178=16F99;13SA=16F37;14E=16F49
MIAO LETTER TSHA=16F2E;14SA=16F2A;13TA=16F0E;12VA=16F08;13FA=16F09;12WA=16F42;12XA=16F27
MIAO LETTER YI DZHA=16F31;15KA=16F20;15NNA=16F12;15PA=16F02;15TA=16F0D;16SA=16F39;17HA=16F30
MIAO LETTER YI TTA=16F0C;12ZA=16F3B;13HA=16F35;13SA=16F3C;14HA=16F36;13ZA=16F3D;14SA=16F3E
MIAO LETTER ZZSYA=16F41;14YA=16F40;05SIGN ASPIRATION=16F51;10CONSONANT MODIFIER BAR=16F4F
MIAO SIGN REFORMED ASPIRATION=16F53;19VOICING=16F52;05TONE ABOVE=16F91;10BELOW=16F92;10RIGHT=16F8F
MIAO TONE TOP RIGHT=16F90;05VOWEL SIGN A=16F54;17A=16F55;17E=16F73;18E=16F74;17HH=16F56;17I=16F79
MIAO VOWEL SIGN AN=16F57;18G=16F58;17U=16F7B;16E=16F5D;17A=16F85;17I=16F7A;17N=16F5E;18G=16F5F
MIAO VOWEL SIGN ER=16F77;18R=16F75;16I=16F61;17A=16F62;18N=16F63;19G=16F64;17E=16F66;17G=16F84
MIAO VOWEL SIGN II=16F67;17NG=16F69;17O=16F65;18NG=16F86;17U=16F68;16N=16F7D;17G=16F7E;16O=16F59
MIAO VOWEL SIGN OER=16F82;18Y=16F60;17G=16F81;17O=16F5A;17U=16F7C;16ROUNDED ER=16F78;26R=16F76
MIAO VOWEL SIGN U=16F6A;17A=16F6B;18N=16F6C;19G=16F6D;17EI=16F6F;17I=16F87;17NG=16F70;17OG=16F7F
MIAO VOWEL SIGN UU=16F6E;16VW=16F83;16W=16F5C;17O=16F5B;16Y=16F71;17I=16F72;17UI=16F80
MICR DASH SYMBOL=2449;05ON US SYMBOL=2448;04O SIGN=B5;05BE=1F9A0;05PHONE=1F3A4;05SCOPE=1F52C
MIDDLE DOT=B7;07THIRD WHITE RIGHT POINTING INDEX=1FBC2;03LINE HORIZONTAL ELLIPSIS=22EF
MILITARY HELMET=1FA96;09MEDAL=1F396;03KY WAY=1F30C;03L SIGN=20A5;02NIBUS=1F690;04DISC=1F4BD
MINIMIZE=1F5D5;03US SIGN IN TRIANGLE=2A3A;11WITH COMMA ABOVE=2A29;16DOT BELOW=2A2A
MINUS SIGN WITH FALLING DOTS=2A2B;16RISING DOTS=2A2C;10=2212;06TILDE=2242;05-OR-PLUS SIGN=2213
MINY=29FF;02RROR BALL=1FAA9;06=1FA9E;01MSP=205F;01OBILE PHONE OFF=1F4F4
MOBILE PHONE WITH RIGHTWARDS ARROW AT LEFT=1F4F2;12=1F4F1;02DELS=22A7;04RN PENTATHLON=1F93B
MODI ABBREVIATION SIGN=11643;05DANDA=11641;06IGIT EIGHT=11658;11FIVE=11655;12OUR=11654
MODI DIGIT NINE=11659;11ONE=11651;11SEVEN=11657;12IX=11656;11THREE=11653;12WO=11652;11ZERO=11650
MODI DOUBLE DANDA=11642;05LETTER A=11600;13A=11601;13I=1160B;13U=1160D;12BA=11624;13HA=11625
MODI LETTER CA=11613;13HA=11614;12DA=1161F;13DA=1161A;14HA=1161B;13HA=11620;12E=1160A;12GA=11610
MODI LETTER GHA=11611;12HA=1162E;12I=11602;13I=11603;12JA=11615;13HA=11616;12KA=1160E;13HA=1160F
MODI LETTER LA=11629;13LA=1162F;12MA=11626;12NA=11621;13GA=11612;13NA=1161C;13YA=11617;12O=1160C
MODI LETTER PA=11622;13HA=11623;12RA=11628;12SA=1162D;13HA=1162B;13SA=1162C;12TA=1161D;13HA=1161E
MODI LETTER TTA=11618;14HA=11619;12U=11604;13U=11605;12VA=1162A;13OCALIC L=11608;21L=11609
MODI LETTER VOCALIC R=11606;21R=11607;12YA=11627;05SIGN ANUSVARA=1163D;11RDHACANDRA=11640
MODI SIGN HUVA=11644;10VIRAMA=1163F;12SARGA=1163E;05VOWEL SIGN AA=11630;17I=1163A;17U=1163C
MODI VOWEL SIGN E=11639;16I=11631;17I=11632;16O=1163B;16U=11633;17U=11634;16VOCALIC L=11637
MODI VOWEL SIGN VOCALIC LL=11638;24R=11635;25R=11636;04FIER BREVE WITH INVERTED BREVE=AB5B
MODIFIER LETTER ACUTE ACCENT=2CA;17LVEOLAR CLICK=107B8;17POSTROPHE=2BC;16BEGIN HIGH TONE=2F9
MODIFIER LETTER BEGIN LOW TONE=2FB;17ILABIAL CLICK=107B5;16CAPITAL A=1D2C;25E=1D2D;24B=1D2E
MODIFIER LETTER CAPITAL BARRED B=1D2F;24C=A7F2;24D=1D30;24E=1D31;24F=A7F3;24G=1D33
MODIFIER LETTER CAPITAL H WITH STROKE=A7F8;25=1D34;24I=1D35;24J=1D36;24K=1D37;24L=1D38;24M=1D39
MODIFIER LETTER CAPITAL N=1D3A;24O=1D3C;25U=1D3D;24P=1D3E;24Q=A7F4;24R=1D3F;25EVERSED E=1D32
MODIFIER LETTER CAPITAL REVERSED N=1D3B;24T=1D40;24U=1D41;24V=2C7D;24W=1D42
MODIFIER LETTER CENTRED LEFT HALF RING=2D3;24RIGHT HALF RING=2D2;17HINESE TONE YANG PING=A701
MODIFIER LETTER CHINESE TONE YANG QU=A705;34RU=A707;34SHANG=A703;30IN PING=A700;33QU=A704
MODIFIER LETTER CHINESE TONE YIN RU=A706;33SHANG=A702;17IRCUMFLEX ACCENT=2C6;17OLON=A789
MODIFIER LETTER CROSS ACCENT=2DF;17YRILLIC EN=1D78;25HARD SIGN=A69C;25SOFT SIGN=A69D
MODIFIER LETTER DENTAL CLICK=107B6;17OT HORIZONTAL BAR=A719;20SLASH=A718;20VERTICAL BAR=A717
MODIFIER LETTER DOUBLE APOSTROPHE=2EE;23PRIME=2BA;18WN ARROWHEAD=2C5;21TACK=2D5
MODIFIER LETTER END HIGH TONE=2FA;20LOW TONE=2FC;17XTRA-HIGH DOTTED LEFT-STEM TONE BAR=A70D
MODIFIER LETTER EXTRA-HIGH DOTTED TONE BAR=A708;27LEFT-STEM TONE BAR=A712;27TONE BAR=2E5
MODIFIER LETTER EXTRA-LOW DOTTED LEFT-STEM TONE BAR=A711;33TONE BAR=A70C;26LEFT-STEM TONE BAR=A716
MODIFIER LETTER EXTRA-LOW TONE BAR=2E9;16GEORGIAN NAR=10FC;17LOTTAL STOP WITH STROKE=107B3;28=2C0
MODIFIER LETTER GRAVE ACCENT=2CB;16HALF TRIANGULAR COLON=2D1;17IGH DOTTED LEFT-STEM TONE BAR=A70E
MODIFIER LETTER HIGH DOTTED TONE BAR=A709;21LEFT-STEM TONE BAR=A713;21TONE BAR=2E6
MODIFIER LETTER LATERAL CLICK=107B7;17EFT ARROWHEAD=2C2;21HALF RING=2BF;21TACK=AB6A
MODIFIER LETTER LOW ACUTE ACCENT=2CF;20CIRCUMFLEX ACCENT=A788;20DOTTED LEFT-STEM TONE BAR=A710
MODIFIER LETTER LOW DOTTED TONE BAR=A70B;22WN ARROWHEAD=2EF;20GRAVE ACCENT=2CE
MODIFIER LETTER LOW INVERTED EXCLAMATION MARK=A71F;20LEFT ARROW=2FF;30HEAD=2F1
MODIFIER LETTER LOW LEFT-STEM TONE BAR=A715;20MACRON=2CD;20RIGHT ARROWHEAD=2F2;22NG=2F3
MODIFIER LETTER LOW TILDE=2F7;21ONE BAR=2E8;20UP ARROWHEAD=2F0;20VERTICAL LINE=2CC
MODIFIER LETTER LOWER RIGHT CORNER ANGLE=A71A;16MACRON=2C9;17ID DOTTED LEFT-STEM TONE BAR=A70F
MODIFIER LETTER MID DOTTED TONE BAR=A70A;20LEFT-STEM TONE BAR=A714;20TONE BAR=2E7
MODIFIER LETTER MIDDLE DOUBLE ACUTE ACCENT=2F6;30GRAVE ACCENT=2F5;23GRAVE ACCENT=2F4
MODIFIER LETTER MINUS SIGN=2D7;16OPEN SHELF=2FE;16PLUS SIGN=2D6;17RIME=2B9;16RAISED COLON=2F8
MODIFIER LETTER RAISED DOWN ARROW=A71C;23EXCLAMATION MARK=A71D;23INVERTED EXCLAMATION MARK=A71E
MODIFIER LETTER RAISED UP ARROW=A71B;17ETROFLEX CLICK WITH RETROFLEX HOOK=107B9;18VERSED COMMA=2BD
MODIFIER LETTER REVERSED GLOTTAL STOP WITH STROKE=107B4;37=2C1;17HOTIC HOOK=2DE
MODIFIER LETTER RIGHT ARROWHEAD=2C3;22HALF RING=2BE;22TACK=AB6B;16SHELF=2FD;18ORT EQUALS SIGN=A78A
MODIFIER LETTER SMALL A=1D43;23E=10783;23IN=1D5C;23LPHA=1D45;22B WITH HOOK=10785;23=1D47
MODIFIER LETTER SMALL BARRED O=1DB1;23ETA=1D5D;23OTTOM HALF O=1D55;22C WITH CURL=1D9D;23=1D9C
MODIFIER LETTER SMALL CAPITAL AA=10780;30B=10784;30G WITH HOOK=10794;31=10792;30H=10796
MODIFIER LETTER SMALL CAPITAL I WITH STROKE=1DA7;31=1DA6;31NVERTED R=2B6;30L WITH BELT=1079C
MODIFIER LETTER SMALL CAPITAL L=1DAB;30N=1DB0;30OE=107A3;30R=107AA;30U=1DB8;30Y=107B2;23HI=1D61
MODIFIER LETTER SMALL CLOSED OMEGA=107A4;29REVERSED OPEN E=1078F;22D WITH HOOK AND TAIL=1078D
MODIFIER LETTER SMALL D WITH HOOK=1078C;29TAIL=1078B;23=1D48;23ELTA=1D5F;24ZH DIGRAPH=1078A
MODIFIER LETTER SMALL DOTLESS J WITH STROKE AND HOOK=10798;43=1DA1;23Z DIGRAPH WITH CURL=10789
MODIFIER LETTER SMALL DZ DIGRAPH WITH RETROFLEX HOOK=10788;32=10787;22E=1D49;23NG=1D51;23SH=1DB4
MODIFIER LETTER SMALL ETH=1D9E;23ZH=1DBE;22F=1DA0;23ENG DIGRAPH=10790;22G WITH HOOK=10793;23=1D4D
MODIFIER LETTER SMALL GAMMA=2E0;23REEK GAMMA=1D5E;28PHI=1D60;22H WITH HOOK=2B1;29STROKE=10795
MODIFIER LETTER SMALL H=2B0;23ENG WITH HOOK=10797;26=AB5C;22I WITH STROKE=1DA4;23OTA=1DA5
MODIFIER LETTER SMALL J WITH CROSSED-TAIL=1DA8;23=2B2;22K=1D4F;22L WITH BELT=1079B
MODIFIER LETTER SMALL L WITH INVERTED LAZY S=AB5D;29MIDDLE TILDE=AB5E;29PALATAL HOOK=1DAA
MODIFIER LETTER SMALL L WITH RETROFLEX HOOK AND BELT=1079D;43=1DA9;23=2E1
MODIFIER LETTER SMALL LEZH WITH RETROFLEX HOOK=1079F;26=1079E;23IGATURE OE=A7F9;23S DIGRAPH=10799
MODIFIER LETTER SMALL LZ DIGRAPH=1079A;22M WITH HOOK=1DAC;23=1D50;22N WITH LEFT HOOK=1DAE
MODIFIER LETTER SMALL N WITH RETROFLEX HOOK=1DAF;22O WITH STROKE=107A2;23=1D52;23PEN E=1D4B
MODIFIER LETTER SMALL OPEN O=1D53;22P=1D56;23HI=1DB2;22Q=107A5;22R WITH FISHHOOK=107A9
MODIFIER LETTER SMALL R WITH TAIL=107A8;23=2B3;23AMS HORN=10791;23EVERSED E=1078E
MODIFIER LETTER SMALL REVERSED GLOTTAL STOP=2E4;31OPEN E=1D9F;22S WITH CURL=107BA;29HOOK=1DB3
MODIFIER LETTER SMALL S=2E2;23CHWA=1D4A;24RIPT G=1DA2;23IDEWAYS U=1D59;22T WITH PALATAL HOOK=1DB5
MODIFIER LETTER SMALL T WITH RETROFLEX HOOK=107AF;23=1D57;23C DIGRAPH WITH CURL=107AB
MODIFIER LETTER SMALL TESH DIGRAPH=107AE;23HETA=1DBF;23OP HALF O=1D54
MODIFIER LETTER SMALL TS DIGRAPH WITH RETROFLEX HOOK=107AD;32=107AC;23URNED A=1D44;30E=1D46
MODIFIER LETTER SMALL TURNED ALPHA=1D9B;29H=1DA3;29I=1D4E;29M WITH LONG LEG=1DAD;30=1D5A
MODIFIER LETTER SMALL TURNED OPEN E=1D4C;29R WITH HOOK=2B5;36LONG LEG AND RETROFLEX HOOK=107A7
MODIFIER LETTER SMALL TURNED R WITH LONG LEG=107A6;30=2B4;29V=1DBA;29W=AB69;29Y WITH BELT=107A1
MODIFIER LETTER SMALL TURNED Y=107A0;22U BAR=1DB6;24WITH LEFT HOOK=AB5F;23=1D58;23PSILON=1DB7
MODIFIER LETTER SMALL V WITH HOOK=1DB9;29RIGHT HOOK=107B0;23=1D5B;22W=2B7;22X=2E3;22Y=2B8
MODIFIER LETTER SMALL Z WITH CURL=1DBD;29RETROFLEX HOOK=1DBC;23=1DBB;17TRESS AND HIGH TONE=A720
MODIFIER LETTER STRESS AND LOW TONE=A721;17UPERSCRIPT HALF TRIANGULAR COLON=10782
MODIFIER LETTER SUPERSCRIPT TRIANGULAR COLON=10781;16TRIANGULAR COLON=2D0;17URNED COMMA=2BB
MODIFIER LETTER UNASPIRATED=2ED;17P ARROWHEAD=2C4;19TACK=2D4;17S=A770;16VERTICAL LINE=2C8
MODIFIER LETTER VOICING=2EC;16YANG DEPARTING TONE MARK=2EB;17IN DEPARTING TONE MARK=2EA
MODULO TWO SUM=2A0A;02NEY BAG=1F4B0;06WITH WINGS=1F4B8;05-MOUTH FACE=1F911
MONGOLIAN BIRGA WITH DOUBLE ORNAMENT=11664;21ORNAMENT=11660;15=1800;10COLON=1804;12MMA=1802
MONGOLIAN DIGIT EIGHT=1818;16FIVE=1815;17OUR=1814;16NINE=1819;16ONE=1811;16SEVEN=1817;17IX=1816
MONGOLIAN DIGIT THREE=1813;17WO=1812;16ZERO=1810;11OUBLE BIRGA WITH ORNAMENT=11662;10ELLIPSIS=1801
MONGOLIAN FOUR DOTS=1805;11REE VARIATION SELECTOR FOUR=180F;34ONE=180B;34THREE=180D;35WO=180C
MONGOLIAN FULL STOP=1803;10INVERTED BIRGA WITH DOUBLE ORNAMENT=11668;24=11667;10LETTER A=1820
MONGOLIAN LETTER ALI GALI A=1887;27H=1897;27NUSVARA ONE=1880;26BALUDA=1885;26CA=188B;26DA=1891
MONGOLIAN LETTER ALI GALI DAGALGA=18A9;28MARU=1882;27DA=188E;26HALF U=18A6;31YA=18A7;26I=1888
MONGOLIAN LETTER ALI GALI INVERTED UBADAMA=1884;26KA=1889;26NGA=188A;27NA=188F;26PA=1892;27HA=1893
MONGOLIAN LETTER ALI GALI SSA=1894;26TA=1890;27HREE BALUDA=1886;27TA=188C;28HA=188D;26UBADAMA=1883
MONGOLIAN LETTER ALI GALI VISARGA ONE=1881;26ZA=1896;27HA=1895;18NG=1829;17BA=182A
MONGOLIAN LETTER CHA WITH TWO DOTS=1878;20=1834;19I=1842;17DA=1833;17E=1821;18E=1827;17FA=1839
MONGOLIAN LETTER GA=182D;17HAA=183E;17I=1822;17JA=1835;17KA=183A;18HA=183B;17LA=182F;18HA=1840
MONGOLIAN LETTER MA=182E;19NCHU ALI GALI BHA=18A8;33CA=189C;34YA=18A3;33DDHA=189F;34HA=18A1
MONGOLIAN LETTER MANCHU ALI GALI GHA=189A;33JHA=189D;33LHA=18AA;33NGA=189B;33SSA=18A2;33TA=18A0
MONGOLIAN LETTER MANCHU ALI GALI TTA=189E;33ZA=18A5;34HA=18A4;24FA=1876;24I=1873;24KA=1874
MONGOLIAN LETTER MANCHU RA=1875;24ZHA=1877;17NA=1828;17O=1823;18E=1825;17PA=182B;17QA=182C
MONGOLIAN LETTER RA=1837;17SA=1830;18HA=1831;18IBE ANG=1862;22CHA=1871;22DA=1869;22E=185D
MONGOLIAN LETTER SIBE FA=186B;22GA=1864;24A=186C;22HA=1865;24A=186D;22I=185E;23Y=185F;22JA=186A
MONGOLIAN LETTER SIBE KA=1863;22PA=1866;22RAA=1870;22SHA=1867;22TA=1868;23SA=186E;22U=1861
MONGOLIAN LETTER SIBE UE=1860;22ZA=186F;23HA=1872;17TA=1832;18ODO ALI GALI TA=1898;31ZHA=1899
MONGOLIAN LETTER TODO ANG=184A;22BA=184B;22CHA=1852;22DA=1851;23ZA=185C;22E=1844;22GA=184E
MONGOLIAN LETTER TODO GAA=1858;22HAA=1859;22I=1845;22JA=1853;23IA=185A;22KA=1857
MONGOLIAN LETTER TODO LONG VOWEL SIGN=1843;22MA=184F;22NIA=185B;22O=1846;23E=1848;22PA=184C
MONGOLIAN LETTER TODO QA=184D;22TA=1850;23SA=1854;22U=1847;23E=1849;22WA=1856;22YA=1855;18SA=183C
MONGOLIAN LETTER U=1824;18E=1826;17WA=1838;17YA=1836;17ZA=183D;18HI=1841;18RA=183F
MONGOLIAN MANCHU COMMA=1808;17FULL STOP=1809;10NIRUGU=180A
MONGOLIAN ROTATED BIRGA WITH DOUBLE ORNAMENT=11666;29ORNAMENT=11665;23=11661
MONGOLIAN SIBE SYLLABLE BOUNDARY MARKER=1807;11WIRL BIRGA WITH DOUBLE ORNAMENT=1166B
MONGOLIAN SWIRL BIRGA WITH ORNAMENT=1166A;21=11669;10TODO SOFT HYPHEN=1806
MONGOLIAN TRIPLE BIRGA WITH ORNAMENT=11663;11URNED SWIRL BIRGA WITH DOUBLE ORNAMENT=1166C
MONGOLIAN VOWEL SEPARATOR=180E;03KEY FACE=1F435;06=1F412;03OGRAM FOR EARTH=1D300;13YANG=268A
MONOGRAM FOR YIN=268B;04RAIL=1F69D;04STABLE SYMBOL=238D;02OD BUBBLE=1F5F0;03N CAKE=1F96E
MOON VIEWING CEREMONY=1F391;02SQUE=1F54C;05ITO=1F99F;02THER CHRISTMAS=1F936;03OR BOAT=1F6E5
MOTOR SCOOTER=1F6F5;05IZED WHEELCHAIR=1F9BC;05WAY=1F6E3;02UNT FUJI=1F5FB;05AIN BICYCLIST=1F6B5
MOUNTAIN CABLEWAY=1F6A0;09RAILWAY=1F69E;08=26F0;03SE FACE=1F42D;06TRAP=1FAA4;05=1F401;03TH=1F444
MOVIE CAMERA=1F3A5;02YAI=1F5FF;01RO DANDA=16A6E;05IGIT EIGHT=16A68;10FIVE=16A65;11OUR=16A64
MRO DIGIT NINE=16A69;10ONE=16A61;10SEVEN=16A67;11IX=16A66;10THREE=16A63;11WO=16A62;10ZERO=16A60
MRO DOUBLE DANDA=16A6F;04LETTER A=16A46;11BA=16A44;11CHU=16A4B;11DA=16A45;13I=16A4A;11E=16A58
MRO LETTER EA=16A56;11HAI=16A5C;13O=16A49;11KEAAE=16A4C;12HAI=16A48;12O=16A59;11LA=16A5B;13N=16A5A
MRO LETTER MAEM=16A4E;12IM=16A43;11NGI=16A41;12IN=16A4F;11O=16A52;12L=16A4D;12O=16A51;11PA=16A50
MRO LETTER PHI=16A47;11RI=16A5D;12O=16A53;11SHI=16A54;11TA=16A40;12EK=16A5E;12HEA=16A55;11WA=16A57
MRO LETTER YO=16A42;01UCH GREATER-THAN=226B;05LESS-THAN=226A;02LTANI LETTER A=11280;15BA=1129D
MULTANI LETTER BHA=1129F;15CA=1128A;16HA=1128B;15DA=11298;16DA=11292;17DA=11293;17HA=11294
MULTANI LETTER DHA=11299;15E=11283;15GA=11286;16HA=11288;15HA=112A6;15I=11281;15JA=1128C
MULTANI LETTER JJA=1128D;15KA=11284;16HA=11285;15LA=112A3;15MA=112A0;15NA=1129A;16NA=11295
MULTANI LETTER NYA=1128F;15PA=1129B;16HA=1129C;15RA=112A2;16HA=112A8;16RA=112A7;15SA=112A5
MULTANI LETTER TA=11296;16HA=11297;16TA=11290;17HA=11291;15U=11282;15VA=112A4;15YA=112A1
MULTANI SECTION MARK=112A9;04IMAP=22B8;05PLE MUSICAL NOTES=1F3B6
MULTIPLICATION SIGN IN DOUBLE CIRCLE=2A37;23LEFT HALF CIRCLE=2A34;23RIGHT HALF CIRCLE=2A35
MULTIPLICATION SIGN IN TRIANGLE=2A3B;20WITH DOT ABOVE=2A30;25UNDERBAR=2A31;19=D7;15X=2715
MULTISET MULTIPLICATION=228D;09UNION=228E;08=228C;02SHROOM=1F344;03IC FLAT SIGN=266D
MUSIC NATURAL SIGN=266E;06SHARP SIGN=266F;05AL KEYBOARD WITH JACKS=1F398;16=1F3B9;08NOTE=1F3B5
MUSICAL SCORE=1F3BC;09YMBOL ARPEGGIATO DOWN=1D184;26UP=1D183;15BEGIN BEAM=1D173;21PHRASE=1D179
MUSICAL SYMBOL BEGIN SLUR=1D177;21TIE=1D175;16RACE=1D114;19KET=1D115;17EATH MARK=1D112;18VE=1D15C
MUSICAL SYMBOL BREVIS REST=1D1C3;21=1D1B8;15C CLEF=1D121;16AESURA=1D113;16IRCLE X NOTEHEAD=1D145
MUSICAL SYMBOL CLIMACUS=1D1D7;18VIS=1D1D5;17USTER NOTEHEAD BLACK=1D15B;32WHITE=1D15A;16ODA=1D10C
MUSICAL SYMBOL COMBINING ACCENT-STACCATO=1D181;31=1D17B;26UGMENTATION DOT=1D16D;25BEND=1D189
MUSICAL SYMBOL COMBINING DOIT=1D185;27UBLE TONGUE=1D18A;27WN BOW=1D1AA;25FLAG-1=1D16E;302=1D16F
MUSICAL SYMBOL COMBINING FLAG-3=1D170;304=1D171;305=1D172;27IP=1D187;25HARMONIC=1D1AC
MUSICAL SYMBOL COMBINING LOURE=1D182;25MARCATO-STACCATO=1D180;32=1D17F;25RIP=1D186;25SMEAR=1D188
MUSICAL SYMBOL COMBINING SNAP PIZZICATO=1D1AD;26PRECHGESANG STEM=1D166;26TACCATISSIMO=1D17E
MUSICAL SYMBOL COMBINING STACCATO=1D17C;27EM=1D165;25TENUTO=1D17D;26REMOLO-1=1D167;332=1D168
MUSICAL SYMBOL COMBINING TREMOLO-3=1D169;27IPLE TONGUE=1D18B;25UP BOW=1D1AB;18MON TIME=1D134
MUSICAL SYMBOL CRESCENDO=1D192;17OIX=1D1CF;16UT TIME=1D135;15DA CAPO=1D10A;17L SEGNO=1D109
MUSICAL SYMBOL DAMP ALL=1D1B5;19=1D1B4;17SHED BARLINE=1D104;16ECRESCENDO=1D193;17GREE SLASH=1D1A9
MUSICAL SYMBOL DOUBLE BARLINE=1D101;22FLAT=1D12B;22SHARP=1D12A;16RUM CLEF-1=1D125;252=1D126
MUSICAL SYMBOL EIGHTH NOTE=1D160;22REST=1D13E;16ND BEAM=1D174;19OF STIMME=1D1A8;19PHRASE=1D17A
MUSICAL SYMBOL END SLUR=1D178;19TIE=1D176;15F CLEF OTTAVA ALTA=1D123;29BASSA=1D124;21=1D122
MUSICAL SYMBOL FERMATA BELOW=1D111;22=1D110;16INAL BARLINE=1D102;18GERED TREMOLO-1=1D16A;322=1D16B
MUSICAL SYMBOL FINGERED TREMOLO-3=1D16C;17VE-LINE STAFF=1D11A;16LAT DOWN=1D12D;20UP=1D12C
MUSICAL SYMBOL FORTE=1D191;17UR-LINE STAFF=1D119;20STRING FRETBOARD=1D11D;16USA BLACK=1D1C0
MUSICAL SYMBOL FUSA WHITE=1D1BF;15G CLEF OTTAVA ALTA=1D11F;29BASSA=1D120;21=1D11E
MUSICAL SYMBOL GLISSANDO DOWN=1D1B2;25UP=1D1B1;16RACE NOTE NO SLASH=1D195;26SLASH=1D194
MUSICAL SYMBOL GREGORIAN C CLEF=1D1D0;25F CLEF=1D1D1;15HALF NOTE=1D15E;20PEDAL MARK=1D1B0
MUSICAL SYMBOL HALF REST=1D13C;17UPTSTIMME=1D1A6;15INVERTED TURN=1D198;15KIEVAN C CLEF=1D1DE
MUSICAL SYMBOL KIEVAN EIGHTH NOTE STEM DOWN=1D1E6;39UP=1D1E7;23ND OF PIECE=1D1DF
MUSICAL SYMBOL KIEVAN FINAL NOTE=1D1E0;23LAT SIGN=1D1E8;22HALF NOTE=1D1E3
MUSICAL SYMBOL KIEVAN QUARTER NOTE STEM DOWN=1D1E4;40UP=1D1E5;22RECITATIVE MARK=1D1E1
MUSICAL SYMBOL KIEVAN WHOLE NOTE=1D1E2;16ORON=1D1EA;15LEFT REPEAT SIGN=1D106
MUSICAL SYMBOL LONGA IMPERFECTA REST=1D1C2;21PERFECTA REST=1D1C1;20=1D1B7;15MAXIMA=1D1B6
MUSICAL SYMBOL MEZZO=1D190;16INIMA BLACK=1D1BC;22REST=1D1C5;21=1D1BB;16OON NOTEHEAD BLACK=1D153
MUSICAL SYMBOL MOON NOTEHEAD WHITE=1D152;16ULTI REST=1D13A;20PLE MEASURE REST=1D129
MUSICAL SYMBOL NATURAL DOWN=1D12F;23UP=1D12E;16EBENSTIMME=1D1A7;16OTEHEAD BLACK=1D158
MUSICAL SYMBOL NULL NOTEHEAD=1D159;15ONE HUNDRED TWENTY-EIGHTH NOTE=1D164;41REST=1D142
MUSICAL SYMBOL ONE-LINE STAFF=1D116;16RNAMENT STROKE-10=1D1A4;321=1D1A5;32=1D19B;312=1D19C
MUSICAL SYMBOL ORNAMENT STROKE-3=1D19D;314=1D19E;315=1D19F;316=1D1A0;317=1D1A1;318=1D1A2;319=1D1A3
MUSICAL SYMBOL OTTAVA ALTA=1D136;22BASSA=1D137;15PARENTHESIS NOTEHEAD=1D156;16EDAL MARK=1D1AE
MUSICAL SYMBOL PEDAL UP MARK=1D1AF;17S SUBPUNCTIS=1D1DD;16IANO=1D18F;16LUS NOTEHEAD=1D144
MUSICAL SYMBOL PODATUS=1D1D4;17RRECTUS FLEXUS=1D1DA;24=1D1D9;15QUARTER NOTE=1D15F;23REST=1D13D
MUSICAL SYMBOL QUARTER TONE FLAT=1D133;28SHARP=1D132;17INDICESIMA ALTA=1D138;28BASSA=1D139
MUSICAL SYMBOL REPEAT DOTS=1D108;21ED FIGURE-1=1D10D;312=1D10E;313=1D10F
MUSICAL SYMBOL REVERSE FINAL BARLINE=1D103;16IGHT REPEAT SIGN=1D107;17NFORZANDO=1D18C
MUSICAL SYMBOL SCANDICUS FLEXUS=1D1DB;24=1D1D6;16EGNO=1D10B;17MIBREVIS BLACK=1D1BA;26REST=1D1C4
MUSICAL SYMBOL SEMIBREVIS WHITE=1D1B9;19MINIMA BLACK=1D1BE;26REST=1D1C6;26WHITE=1D1BD
MUSICAL SYMBOL SHARP DOWN=1D131;21UP=1D130;17ORT BARLINE=1D105;16INGLE BARLINE=1D100
MUSICAL SYMBOL SIX-LINE STAFF=1D11B;19STRING FRETBOARD=1D11C;18TEENTH NOTE=1D161;25REST=1D13F
MUSICAL SYMBOL SIXTY-FOURTH NOTE=1D163;28REST=1D141;16ORI=1D1E9;16QUARE B=1D1D2
MUSICAL SYMBOL SQUARE NOTEHEAD BLACK=1D147;31WHITE=1D146;16UBITO=1D18D
MUSICAL SYMBOL TEMPUS IMPERFECTUM CUM PROLATIONE IMPERFECTA DIMINUTION-1=1D1CC;712=1D1CD;713=1D1CE
MUSICAL SYMBOL TEMPUS IMPERFECTUM CUM PROLATIONE IMPERFECTA=1D1CB;49PERFECTA=1D1CA
MUSICAL SYMBOL TEMPUS PERFECTUM CUM PROLATIONE IMPERFECTA=1D1C8;47PERFECTA DIMINUTION-1=1D1C9
MUSICAL SYMBOL TEMPUS PERFECTUM CUM PROLATIONE PERFECTA=1D1C7;16HIRTY-SECOND NOTE=1D162
MUSICAL SYMBOL THIRTY-SECOND REST=1D140;17REE-LINE STAFF=1D118;16ORCULUS RESUPINUS=1D1DC;23=1D1D8
MUSICAL SYMBOL TR=1D196;17IANGLE NOTEHEAD DOWN BLACK=1D14F;38WHITE=1D14E;33LEFT BLACK=1D14B
MUSICAL SYMBOL TRIANGLE NOTEHEAD LEFT WHITE=1D14A;33RIGHT BLACK=1D14D;39WHITE=1D14C
MUSICAL SYMBOL TRIANGLE NOTEHEAD UP BLACK=1D149;36RIGHT BLACK=1D151;42WHITE=1D150;36WHITE=1D148
MUSICAL SYMBOL TRIANGLE-ROUND NOTEHEAD DOWN BLACK=1D155;44WHITE=1D154;16URN SLASH=1D199;20UP=1D19A
MUSICAL SYMBOL TURN=1D197;16WO-LINE STAFF=1D117;15VIRGA=1D1D3;16OID NOTEHEAD=1D157
MUSICAL SYMBOL WHOLE NOTE=1D15D;21REST=1D13B;16ITH FINGERNAILS=1D1B3;15X NOTEHEAD=1D143;15Z=1D18E
MVS=180E;01W=95;01YANMAR CONSONANT SIGN MEDIAL HA=103E;30RA=103C;30WA=103D;30YA=103B
MYANMAR CONSONANT SIGN MON MEDIAL LA=1060;34MA=105F;34NA=105E;23SHAN MEDIAL WA=1082
MYANMAR DIGIT EIGHT=1048;14FIVE=1045;15OUR=1044;14NINE=1049;14ONE=1041;14SEVEN=1047;15IX=1046
MYANMAR DIGIT THREE=1043;15WO=1042;14ZERO=1040;08LETTER A=1021;16ITON RA=AA7A;16U=102A;15BA=1017
MYANMAR LETTER BHA=1018;15CA=1005;16HA=1006;15DA=1012;16DA=100D;17HA=100E;16HA=1013;15E=1027
MYANMAR LETTER EASTERN PWO KAREN GHWA=1070;33NNA=106E;33YWA=106F;15GA=1002;16HA=1003
MYANMAR LETTER GREAT SA=103F;15HA=101F;15I=1023;16I=1024;15JA=1007;16HA=1008;15KA=1000;16HA=1001
MYANMAR LETTER KHAMTI CA=AA61;23HA=AA62;22DDA=AA68;24HA=AA69;23HA=AA6A;22FA=AA6F;22GA=AA60
MYANMAR LETTER KHAMTI HA=AA6D;23HA=AA6E;22JA=AA63;23HA=AA64;22LLA=AA6E;22NA=AA6B;23YA=AA65
MYANMAR LETTER KHAMTI RA=AA73;22SA=AA6C;22TTA=AA66;24HA=AA67;22XA=AA71;22ZA=AA72;15LA=101C
MYANMAR LETTER LLA=1020;15MA=1019;16ON BBA=105C;21E=105D;19E=1028;19JHA=105B;19NGA=105A;15NA=1014
MYANMAR LETTER NGA=1004;16NA=100F;17YA=100A;16YA=1009;15O=1029;15PA=1015;16HA=1016;15RA=101B
MYANMAR LETTER RUMAI PALAUNG FA=108E;15SA=101E;16GAW KAREN SHA=1061;16HA=1050;18N A=1022;20BA=107F
MYANMAR LETTER SHAN BHA=A9E4;20CA=1078;21HA=A9E1;20DA=107B;20FA=107E;20GA=1077;21HA=A9E0;20HA=1081
MYANMAR LETTER SHAN JHA=A9E2;20KA=1075;21HA=1076;20NA=107C;21NA=A9E3;21YA=107A;20PHA=107D
MYANMAR LETTER SHAN THA=1080;20ZA=1079;17WE PALAUNG CHA=AA7E;28SHA=AA7F;16SA=1051;15TA=1010
MYANMAR LETTER TAI LAING BA=A9FD;26HA=A9FE;25DA=A9FB;26DA=A9ED;27HA=A9EE;26HA=A9FC;25FA=A9E8
MYANMAR LETTER TAI LAING GA=A9E9;26HA=A9EA;25JA=A9EB;26HA=A9EC;25LLA=A9FA;25NNA=A9EF;26YA=A9E7
MYANMAR LETTER THA=1011;16TA=100B;17HA=100C;15U=1025;16U=1026;15VOCALIC L=1054;24L=1055;23R=1052
MYANMAR LETTER VOCALIC RR=1053;15WA=101D;16ESTERN PWO KAREN PWA=1066;33THA=1065;15YA=101A
MYANMAR LOGOGRAM KHAMTI HM=AA76;24OAY=AA74;24QN=AA75;08MODIFIER LETTER KHAMTI REDUPLICATION=AA70
MYANMAR MODIFIER LETTER SHAN REDUPLICATION=A9E6;08SHAN DIGIT EIGHT=1098;19FIVE=1095;20OUR=1094
MYANMAR SHAN DIGIT NINE=1099;19ONE=1091;19SEVEN=1097;20IX=1096;19THREE=1093;20WO=1092;19ZERO=1090
MYANMAR SIGN ANUSVARA=1036;14SAT=103A;13DOT BELOW=1037;13KHAMTI TONE-1=109A;253=109B
MYANMAR SIGN LITTLE SECTION=104A;13PAO KAREN TONE=AA7B;13RUMAI PALAUNG TONE-5=108F;13SECTION=104B
MYANMAR SIGN SHAN COUNCIL EMPHATIC TONE=108D;26TONE-2=108B;313=108C;18SAW=A9E5;18TONE-2=1087
MYANMAR SIGN SHAN TONE-3=1088;235=1089;236=108A;13TAI LAING TONE-2=AA7C;285=AA7D;13VIRAMA=1039
MYANMAR SIGN VISARGA=1038;13WESTERN PWO KAREN TONE-1=1069;362=106A;363=106B;364=106C;365=106D
MYANMAR SYMBOL AFOREMENTIONED=104E;16ITON EXCLAMATION=AA77;21ONE=AA78;21TWO=AA79;15COMPLETED=104D
MYANMAR SYMBOL GENITIVE=104F;15LOCATIVE=104C;15SHAN EXCLAMATION=109F;20ONE=109E
MYANMAR TAI LAING DIGIT EIGHT=A9F8;24FIVE=A9F5;25OUR=A9F4;24NINE=A9F9;24ONE=A9F1;24SEVEN=A9F7
MYANMAR TAI LAING DIGIT SIX=A9F6;24THREE=A9F3;25WO=A9F2;24ZERO=A9F0
MYANMAR TONE MARK SGAW KAREN HATHI=1063;29KE PHO=1064;08VOWEL SIGN AA=102C;20I=1032;21TON A=109C
MYANMAR VOWEL SIGN AITON AI=109D;19E ABOVE=1035;20=1031;19GEBA KAREN I=1071;19I=102D;20I=102E
MYANMAR VOWEL SIGN KAYAH EE=1074;25OE=1072;25U=1073;19MON II=1033;23O=1034;19SGAW KAREN EU=1062
MYANMAR VOWEL SIGN SHAN AA=1083;24E ABOVE=1085;25=1084;24FINAL Y=1086;19TALL AA=102B;19U=102F
MYANMAR VOWEL SIGN UU=1030;19VOCALIC L=1058;28L=1059;27R=1056;28R=1057;19WESTERN PWO KAREN EU=1067
MYANMAR VOWEL SIGN WESTERN PWO KAREN UE=1068;00N-ARY CIRCLED DOT OPERATOR=2A00
N-ARY CIRCLED PLUS OPERATOR=2A01;14TIMES OPERATOR=2A02;07OPRODUCT=2210;06INTERSECTION=22C2
N-ARY LOGICAL AND=22C0;14OR=22C1;06PRODUCT=220F;06SQUARE INTERSECTION OPERATOR=2A05
N-ARY SQUARE UNION OPERATOR=2A06;07UMMATION=2211;06TIMES OPERATOR=2A09
N-ARY UNION OPERATOR WITH DOT=2A03;26PLUS=2A04;11=22C3;06WHITE VERTICAL BAR=2AFF
NABATAEAN CRUCIFORM NUMBER FOUR=108AB;10LETTER ALEPH=10881;18YIN=10897;17BETH=10883;17DALETH=10885
NABATAEAN LETTER FINAL ALEPH=10880;23BETH=10882;23HE=10886;23KAPH=1088E;23LAMEDH=10890;23MEM=10892
NABATAEAN LETTER FINAL NUN=10894;23SHIN=1089C;23YODH=1088C;17GIMEL=10884;17HE=10887;19TH=1088A
NABATAEAN LETTER KAPH=1088F;17LAMEDH=10891;17MEM=10893;17NUN=10895;17PE=10898;17QOPH=1089A
NABATAEAN LETTER RESH=1089B;17SADHE=10899;19MEKH=10896;18HIN=1089D;17TAW=1089E;18ETH=1088B
NABATAEAN LETTER WAW=10888;17YODH=1088D;17ZAYIN=10889;10NUMBER FIVE=108AC;18OUR=108AA
NABATAEAN NUMBER ONE HUNDRED=108AF;20=108A7;17TEN=108AD;18HREE=108A9;18WENTY=108AE;19O=108A8
NABLA=2207;02IL POLISH=1F485;03RA SIGN=20A6;02K=15;02ME BADGE=1F4DB;02ND=22BC
NANDINAGARI HEADSTROKE=119E3;12LETTER A=119A0;20A=119A1;20I=119AB;20U=119AD;19BA=119C4;20HA=119C5
NANDINAGARI LETTER CA=119B3;20HA=119B4;19DA=119BF;20DA=119BA;21HA=119BB;20HA=119C0;19E=119AA
NANDINAGARI LETTER GA=119B0;20HA=119B1;19HA=119CE;19I=119A2;20I=119A3;19JA=119B5;20HA=119B6
NANDINAGARI LETTER KA=119AE;20HA=119AF;19LA=119C9;20LA=119CF;19MA=119C6;19NA=119C1;20GA=119B2
NANDINAGARI LETTER NNA=119BC;20YA=119B7;19O=119AC;19PA=119C2;20HA=119C3;19RA=119C8;20RA=119D0
NANDINAGARI LETTER SA=119CD;20HA=119CB;20SA=119CC;19TA=119BD;20HA=119BE;20TA=119B8;21HA=119B9
NANDINAGARI LETTER U=119A4;20U=119A5;19VA=119CA;20OCALIC R=119A6;28R=119A7;19YA=119C7
NANDINAGARI SIGN ANUSVARA=119DE;18VAGRAHA=119E1;17SIDDHAM=119E2;17VIRAMA=119E0;19SARGA=119DF
NANDINAGARI VOWEL SIGN AA=119D1;24I=119DB;24U=119DD;23E=119DA;23I=119D2;24I=119D3;23O=119DC
NANDINAGARI VOWEL SIGN PRISHTHAMATRA E=119E4;23U=119D4;24U=119D5;23VOCALIC R=119D6;32R=119D7
NARROW NO-BREAK SPACE=202F;02TIONAL DIGIT SHAPES=206E;09PARK=1F3DE;02USEATED FACE=1F922
NAZAR AMULET=1F9FF;01BH=83;02SP=A0;01ECKTIE=1F454
NEGATED DOUBLE VERTICAL BAR DOUBLE RIGHT TURNSTILE=22AF;05IVE ACKNOWLEDGE=15
NEGATIVE CIRCLED DIGIT ZERO=24FF;17LATIN CAPITAL LETTER A=1F150;38B=1F151;38C=1F152;38D=1F153
NEGATIVE CIRCLED LATIN CAPITAL LETTER E=1F154;38F=1F155;38G=1F156;38H=1F157;38I=1F158;38J=1F159
NEGATIVE CIRCLED LATIN CAPITAL LETTER K=1F15A;38L=1F15B;38M=1F15C;38N=1F15D;38O=1F15E;38P=1F15F
NEGATIVE CIRCLED LATIN CAPITAL LETTER Q=1F160;38R=1F161;38S=1F162;38T=1F163;38U=1F164;38V=1F165
NEGATIVE CIRCLED LATIN CAPITAL LETTER W=1F166;38X=1F167;38Y=1F168;38Z=1F169;17NUMBER EIGHTEEN=24F2
NEGATIVE CIRCLED NUMBER ELEVEN=24EB;24FIFTEEN=24EF;25OURTEEN=24EE;24NINETEEN=24F3;24SEVENTEEN=24F1
NEGATIVE CIRCLED NUMBER SIXTEEN=24F0;24THIRTEEN=24ED;25WELVE=24EC;27NTY=24F4;17SQUARE=1F7D8
NEGATIVE CIRCLED TRIANGLE=1F7D6;09DIAGONAL CROSS=1FBBD;18DIAMOND=1FBBF
NEGATIVE DIAGONAL MIDDLE RIGHT TO LOWER CENTRE=1FBBE;09SQUARED AB=1F18E;17CROSS MARK=274E
NEGATIVE SQUARED IC=1F18B;17LATIN CAPITAL LETTER A=1F170;38B=1F171;38C=1F172;38D=1F173;38E=1F174
NEGATIVE SQUARED LATIN CAPITAL LETTER F=1F175;38G=1F176;38H=1F177;38I=1F178;38J=1F179;38K=1F17A
NEGATIVE SQUARED LATIN CAPITAL LETTER L=1F17B;38M=1F17C;38N=1F17D;38O=1F17E;38P=1F17F;38Q=1F180
NEGATIVE SQUARED LATIN CAPITAL LETTER R=1F181;38S=1F182;38T=1F183;38U=1F184;38V=1F185;38W=1F186
NEGATIVE SQUARED LATIN CAPITAL LETTER X=1F187;38Y=1F188;38Z=1F189;17PA=1F18C;17QUESTION MARK=1FBC4
NEGATIVE SQUARED SA=1F18D;17WC=1F18F;02ITHER A SUBSET OF NOR EQUAL TO=2288
NEITHER A SUPERSET OF NOR EQUAL TO=2289;09PPROXIMATELY NOR ACTUALLY EQUAL TO=2247
NEITHER GREATER-THAN NOR EQUAL TO=2271;28IVALENT TO=2275;25LESS-THAN=2279
NEITHER LESS-THAN NOR EQUAL TO=2270;25IVALENT TO=2274;22GREATER-THAN=2278;02L=85
NEPTUNE FORM TWO=2BC9;07=2646;02RD FACE=1F913;02SSUS=2BDC;03T WITH EGGS=1FABA;04ING DOLLS=1FA86
NEUTER=26B2;04RAL CHESS BISHOP ROTATED NINETY DEGREES=1FA18;29TWO HUNDRED SEVENTY DEGREES=1FA42
NEUTRAL CHESS BISHOP=1FA03;14EQUIHOPPER ROTATED NINETY DEGREES=1FA4D;24=1FA4A
NEUTRAL CHESS KING ROTATED NINETY DEGREES=1FA15;27TWO HUNDRED SEVENTY DEGREES=1FA3F;18=1FA00
NEUTRAL CHESS KNIGHT ROTATED FORTY-FIVE DEGREES=1FA08;29NINETY DEGREES=1FA19
NEUTRAL CHESS KNIGHT ROTATED ONE HUNDRED THIRTY-FIVE DEGREES=1FA1D
NEUTRAL CHESS KNIGHT ROTATED THREE HUNDRED FIFTEEN DEGREES=1FA47
NEUTRAL CHESS KNIGHT ROTATED TWO HUNDRED SEVENTY DEGREES=1FA43;41TWENTY-FIVE DEGREES=1FA32
NEUTRAL CHESS KNIGHT=1FA04;14PAWN ROTATED NINETY DEGREES=1FA1A;27TWO HUNDRED SEVENTY DEGREES=1FA44
NEUTRAL CHESS PAWN=1FA05;14QUEEN ROTATED NINETY DEGREES=1FA16;28TWO HUNDRED SEVENTY DEGREES=1FA40
NEUTRAL CHESS QUEEN=1FA01;14ROOK ROTATED NINETY DEGREES=1FA17;27TWO HUNDRED SEVENTY DEGREES=1FA41
NEUTRAL CHESS ROOK=1FA02;14TURNED BISHOP=1FA2D;21KING=1FA2A;22NIGHT=1FA2E;21PAWN=1FA2F
NEUTRAL CHESS TURNED QUEEN=1FA2B;21ROOK=1FA2C;08FACE=1F610;02W LINE=A;04MOON SYMBOL=1F311
NEW MOON WITH FACE=1F31A;04SHEQEL SIGN=20AA;04TAI LUE DIGIT EIGHT=19D8;18FIVE=19D5;19OUR=19D4
NEW TAI LUE DIGIT NINE=19D9;18ONE=19D1;18SEVEN=19D7;19IX=19D6;18THREE=19D3;19WO=19D2;18ZERO=19D0
NEW TAI LUE LETTER FINAL B=19C7;25D=19C6;25K=19C5;25M=19C4;25N=19C3;26G=19C2;25V=19C1
NEW TAI LUE LETTER HIGH BA=19A2;24DA=19A1;24FA=199A;24HA=19A0;24KA=1982;25VA=19A6;24LA=199C
NEW TAI LUE LETTER HIGH MA=1996;24NA=1990;25GA=1984;24PA=1994;25HA=1995;24QA=1980;24SA=1989
NEW TAI LUE LETTER HIGH SUA=19AA;24TA=198E;25HA=198F;25SA=1988;24VA=199B;24XA=1983;25VA=19A7
NEW TAI LUE LETTER HIGH YA=198A;19LOW BA=19A5;23DA=19A4;23FA=199D;23HA=19A3;23KA=1985;24VA=19A8
NEW TAI LUE LETTER LOW LA=199F;23MA=1999;23NA=1993;24GA=1987;23PA=1997;24HA=1998;23QA=1981
NEW TAI LUE LETTER LOW SA=198C;24UA=19AB;23TA=1991;24HA=1992;24SA=198B;23VA=199E;23XA=1986
NEW TAI LUE LETTER LOW XVA=19A9;23YA=198D;12SIGN LAE=19DE;20V=19DF;12THAM DIGIT ONE=19DA
NEW TAI LUE TONE MARK-1=19C8;222=19C9;12VOWEL SIGN AA=19B1;25Y=19BB;24E=19B6;24Y=19BA;23E=19B5
NEW TAI LUE VOWEL SIGN II=19B2;24Y=19C0;23O=19B7;24A=19B8;25Y=19BE;24Y=19BD;23U=19B3;24E=19B9
NEW TAI LUE VOWEL SIGN UEY=19BF;24U=19B4;24Y=19BC;23VOWEL SHORTENER=19B0
NEWA ABBREVIATION SIGN=1144F;05COMMA=1144D;05DANDA=1144B;06IGIT EIGHT=11458;11FIVE=11455
NEWA DIGIT FOUR=11454;11NINE=11459;11ONE=11451;11SEVEN=11457;12IX=11456;11THREE=11453;12WO=11452
NEWA DIGIT ZERO=11450;06OUBLE COMMA=1145A;12DANDA=1144C;05GAP FILLER=1144E;05INSERTION SIGN=1145D
NEWA LETTER A=11400;13A=11401;13I=1140B;13U=1140D;12BA=11427;13HA=11428;12CA=11414;13HA=11415
NEWA LETTER DA=11421;13DA=1141C;14HA=1141D;13HA=11422;12E=1140A;12GA=11410;13HA=11411;12HA=11434
NEWA LETTER I=11402;13I=11403;12JA=11416;13HA=11417;12KA=1140E;13HA=1140F;12LA=1142E;13HA=1142F
NEWA LETTER MA=11429;13HA=1142A;12NA=11423;13GA=11412;14HA=11413;13HA=11424;13NA=1141E;13YA=11418
NEWA LETTER NYHA=11419;12O=1140C;12PA=11425;13HA=11426;12RA=1142C;13HA=1142D;12SA=11433;13HA=11431
NEWA LETTER SSA=11432;12TA=1141F;13HA=11420;13TA=1141A;14HA=1141B;12U=11404;13U=11405
NEWA LETTER VEDIC ANUSVARA=1145F;13OCALIC L=11408;21L=11409;20R=11406;21R=11407;12WA=11430
NEWA LETTER YA=1142B;05OM=11449;05PLACEHOLDER MARK=1145B;05SANDHI MARK=1145E;06IDDHI=1144A
NEWA SIGN ANUSVARA=11444;11VAGRAHA=11447;10CANDRABINDU=11443;10FINAL ANUSVARA=11448
NEWA SIGN JIHVAMULIYA=11460;10NUKTA=11446;10UPADHMANIYA=11461;10VIRAMA=11442;12SARGA=11445
NEWA VOWEL SIGN AA=11435;17I=1143F;17U=11441;16E=1143E;16I=11436;17I=11437;16O=11440;16U=11438
NEWA VOWEL SIGN UU=11439;16VOCALIC L=1143C;25L=1143D;24R=1143A;25R=1143B;03LINE LEFT=2B92
NEWLINE RIGHT=2B93;03SPAPER=1F4F0;02XT LINE=85;05PAGE=2398;01IGHT WITH STARS=1F303;02NJA=1F977
NKO COMBINING DOUBLE DOT ABOVE=7F3;14LONG DESCENDING TONE=7EE;19HIGH TONE=7EF;19LOW TONE=7F0
NKO COMBINING LONG RISING TONE=7F1;14NASALIZATION MARK=7F2;14SHORT HIGH TONE=7EB;20LOW TONE=7EC
NKO COMBINING SHORT RISING TONE=7ED;07MA=7F8;04DANTAYALAN=7FD;05IGIT EIGHT=7C8;10FIVE=7C5
NKO DIGIT FOUR=7C4;10NINE=7C9;10ONE=7C1;10SEVEN=7C7;11IX=7C6;10THREE=7C3;11WO=7C2;10ZERO=7C0
NKO DOROME SIGN=7FE;04EXCLAMATION MARK=7F9;04HIGH TONE APOSTROPHE=7F4;04LAJANYALAN=7FA
NKO LETTER A=7CA;11BA=7D3;11CHA=7D7;11DA=7D8;13GBASINNA=7D1;11E=7CD;12E=7CB;11FA=7DD;11GBA=7DC
NKO LETTER HA=7E4;11I=7CC;11JA=7D6;12ONA CHA=7E9;16JA=7E8;16RA=7EA;11KA=7DE;11LA=7DF;11MA=7E1
NKO LETTER N=7D2;12A WOLOSO=7E0;13=7E3;12YA WOLOSO=7E7;14=7E2;11O=7D0;12O=7CF;11PA=7D4;11RA=7D9
NKO LETTER RRA=7DA;11SA=7DB;11TA=7D5;11U=7CE;11WA=7E5;11YA=7E6;05OW TONE APOSTROPHE=7F5
NKO SYMBOL GBAKURUNEN=7F7;11OO DENNEN=7F6;04TAMAN SIGN=7FF;01L=A;01NBSP=202F;01O BICYCLES=1F6B3
NO BREAK HERE=83;03ENTRY SIGN=1F6AB;08=26D4;03MOBILE PHONES=1F4F5
NO ONE UNDER EIGHTEEN SYMBOL=1F51E;03PEDESTRIANS=1F6B7;04IRACY=1F572;03SMOKING SYMBOL=1F6AD
NO-BREAK SPACE=A0;02MINAL DIGIT SHAPES=206F;04SMA SIGN=1018E;02N-BREAKING HYPHEN=2011
NON-POTABLE WATER SYMBOL=1F6B1;03FORKING=2ADD;02R=22BD;03DIC MARK SIGN=20BB
NORMAL SUBGROUP OF OR EQUAL TO=22B4;18=22B2;03TH EAST AND SOUTH WEST ARROW=2922
NORTH EAST ARROW AND SOUTH EAST ARROW=2928;17CROSSING NORTH WEST ARROW=2931
NORTH EAST ARROW CROSSING SOUTH EAST ARROW=292E;17WITH HOOK=2924;16=2197;11BLACK ARROW=2B08
NORTH EAST DOUBLE ARROW=21D7;11POINTING BUD=1F662;20LEAF=1F652;20VINE LEAF=1F65A
NORTH EAST SANS-SERIF ARROW=1F855;11TRIANGLE-HEADED ARROW TO BAR=2B77;32=2B67;11WHITE ARROW=2B00
NORTH INDIC FRACTION ONE EIGHTH=A834;25HALF=A831;25QUARTER=A830;25SIXTEENTH=A833
NORTH INDIC FRACTION THREE QUARTERS=A832;27SIXTEENTHS=A835;12PLACEHOLDER MARK=A837
NORTH INDIC QUANTITY MARK=A839;15RTER MARK=A836;12RUPEE MARK=A838;06WEST AND SOUTH EAST ARROW=2921
NORTH WEST ARROW AND NORTH EAST ARROW=2927;17CROSSING NORTH EAST ARROW=2932;17TO CORNER=21F1
NORTH WEST ARROW TO LONG BAR=21B8;17WITH HOOK=2923;16=2196;11BLACK ARROW=2B09;11DOUBLE ARROW=21D6
NORTH WEST POINTING BUD=1F660;20LEAF=1F650;20VINE LEAF=1F658;11SANS-SERIF ARROW=1F854
NORTH WEST TRIANGLE-HEADED ARROW TO BAR=2B76;32=2B66;11WHITE ARROW=2B01
NORTHEAST-POINTING AIRPLANE=1F6EA;02SE=1F443;02T A SUBSET OF=2284;08PERSET OF=2285
NOT ALMOST EQUAL TO=2249;05N ELEMENT OF=2209;05SYMPTOTICALLY EQUAL TO=2244;04CHECK MARK=237B
NOT EQUAL TO=2260;07IVALENT TO=226D;04GREATER-THAN=226F;04IDENTICAL TO=2262;04LESS-THAN=226E
NOT NORMAL SUBGROUP OF OR EQUAL TO=22EC;22=22EA;04PARALLEL TO=2226;04SIGN=AC
NOT SQUARE IMAGE OF OR EQUAL TO=22E2;11ORIGINAL OF OR EQUAL TO=22E3;04TILDE=2241;05RUE=22AD
NOTCHED LEFT SEMICIRCLE WITH THREE DOTS=1F543;09OWER RIGHT-SHADOWED WHITE RIGHTWARDS ARROW=27AF
NOTCHED RIGHT SEMICIRCLE WITH THREE DOTS=1F544;08UPPER RIGHT-SHADOWED WHITE RIGHTWARDS ARROW=27B1
NOTE PAD=1F5CA;07GE=1F5C9;04=1F5C8;04BOOK WITH DECORATIVE COVER=1F4D4;08=1F4D3;01UL=0;03L=0
NUMBER EIGHTEEN FULL STOP=2499;08LEVEN FULL STOP=2492;07FIFTEEN FULL STOP=2496
NUMBER FOURTEEN FULL STOP=2495;07NINETEEN FULL STOP=249A;07SEVENTEEN FULL STOP=2498;08IGN=23
NUMBER SIXTEEN FULL STOP=2497;07TEN FULL STOP=2491;08HIRTEEN FULL STOP=2494;08WELVE FULL STOP=2493
NUMBER TWENTY FULL STOP=249B;03ERO SIGN=2116;02SHU CHARACTER-1B170=1B170;201=1B171;202=1B172
NUSHU CHARACTER-1B173=1B173;204=1B174;205=1B175;206=1B176;207=1B177;208=1B178;209=1B179;20A=1B17A
NUSHU CHARACTER-1B17B=1B17B;20C=1B17C;20D=1B17D;20E=1B17E;20F=1B17F;1980=1B180;201=1B181;202=1B182
NUSHU CHARACTER-1B183=1B183;204=1B184;205=1B185;206=1B186;207=1B187;208=1B188;209=1B189;20A=1B18A
NUSHU CHARACTER-1B18B=1B18B;20C=1B18C;20D=1B18D;20E=1B18E;20F=1B18F;1990=1B190;201=1B191;202=1B192
NUSHU CHARACTER-1B193=1B193;204=1B194;205=1B195;206=1B196;207=1B197;208=1B198;209=1B199;20A=1B19A
NUSHU CHARACTER-1B19B=1B19B;20C=1B19C;20D=1B19D;20E=1B19E;20F=1B19F;19A0=1B1A0;201=1B1A1;202=1B1A2
NUSHU CHARACTER-1B1A3=1B1A3;204=1B1A4;205=1B1A5;206=1B1A6;207=1B1A7;208=1B1A8;209=1B1A9;20A=1B1AA
NUSHU CHARACTER-1B1AB=1B1AB;20C=1B1AC;20D=1B1AD;20E=1B1AE;20F=1B1AF;19B0=1B1B0;201=1B1B1;202=1B1B2
NUSHU CHARACTER-1B1B3=1B1B3;204=1B1B4;205=1B1B5;206=1B1B6;207=1B1B7;208=1B1B8;209=1B1B9;20A=1B1BA
NUSHU CHARACTER-1B1BB=1B1BB;20C=1B1BC;20D=1B1BD;20E=1B1BE;20F=1B1BF;19C0=1B1C0;201=1B1C1;202=1B1C2
NUSHU CHARACTER-1B1C3=1B1C3;204=1B1C4;205=1B1C5;206=1B1C6;207=1B1C7;208=1B1C8;209=1B1C9;20A=1B1CA
NUSHU CHARACTER-1B1CB=1B1CB;20C=1B1CC;20D=1B1CD;20E=1B1CE;20F=1B1CF;19D0=1B1D0;201=1B1D1;202=1B1D2
NUSHU CHARACTER-1B1D3=1B1D3;204=1B1D4;205=1B1D5;206=1B1D6;207=1B1D7;208=1B1D8;209=1B1D9;20A=1B1DA
NUSHU CHARACTER-1B1DB=1B1DB;20C=1B1DC;20D=1B1DD;20E=1B1DE;20F=1B1DF;19E0=1B1E0;201=1B1E1;202=1B1E2
NUSHU CHARACTER-1B1E3=1B1E3;204=1B1E4;205=1B1E5;206=1B1E6;207=1B1E7;208=1B1E8;209=1B1E9;20A=1B1EA
NUSHU CHARACTER-1B1EB=1B1EB;20C=1B1EC;20D=1B1ED;20E=1B1EE;20F=1B1EF;19F0=1B1F0;201=1B1F1;202=1B1F2
NUSHU CHARACTER-1B1F3=1B1F3;204=1B1F4;205=1B1F5;206=1B1F6;207=1B1F7;208=1B1F8;209=1B1F9;20A=1B1FA
NUSHU CHARACTER-1B1FB=1B1FB;20C=1B1FC;20D=1B1FD;20E=1B1FE;20F=1B1FF;18200=1B200;201=1B201
NUSHU CHARACTER-1B202=1B202;203=1B203;204=1B204;205=1B205;206=1B206;207=1B207;208=1B208;209=1B209
NUSHU CHARACTER-1B20A=1B20A;20B=1B20B;20C=1B20C;20D=1B20D;20E=1B20E;20F=1B20F;1910=1B210;201=1B211
NUSHU CHARACTER-1B212=1B212;203=1B213;204=1B214;205=1B215;206=1B216;207=1B217;208=1B218;209=1B219
NUSHU CHARACTER-1B21A=1B21A;20B=1B21B;20C=1B21C;20D=1B21D;20E=1B21E;20F=1B21F;1920=1B220;201=1B221
NUSHU CHARACTER-1B222=1B222;203=1B223;204=1B224;205=1B225;206=1B226;207=1B227;208=1B228;209=1B229
NUSHU CHARACTER-1B22A=1B22A;20B=1B22B;20C=1B22C;20D=1B22D;20E=1B22E;20F=1B22F;1930=1B230;201=1B231
NUSHU CHARACTER-1B232=1B232;203=1B233;204=1B234;205=1B235;206=1B236;207=1B237;208=1B238;209=1B239
NUSHU CHARACTER-1B23A=1B23A;20B=1B23B;20C=1B23C;20D=1B23D;20E=1B23E;20F=1B23F;1940=1B240;201=1B241
NUSHU CHARACTER-1B242=1B242;203=1B243;204=1B244;205=1B245;206=1B246;207=1B247;208=1B248;209=1B249
NUSHU CHARACTER-1B24A=1B24A;20B=1B24B;20C=1B24C;20D=1B24D;20E=1B24E;20F=1B24F;1950=1B250;201=1B251
NUSHU CHARACTER-1B252=1B252;203=1B253;204=1B254;205=1B255;206=1B256;207=1B257;208=1B258;209=1B259
NUSHU CHARACTER-1B25A=1B25A;20B=1B25B;20C=1B25C;20D=1B25D;20E=1B25E;20F=1B25F;1960=1B260;201=1B261
NUSHU CHARACTER-1B262=1B262;203=1B263;204=1B264;205=1B265;206=1B266;207=1B267;208=1B268;209=1B269
NUSHU CHARACTER-1B26A=1B26A;20B=1B26B;20C=1B26C;20D=1B26D;20E=1B26E;20F=1B26F;1970=1B270;201=1B271
NUSHU CHARACTER-1B272=1B272;203=1B273;204=1B274;205=1B275;206=1B276;207=1B277;208=1B278;209=1B279
NUSHU CHARACTER-1B27A=1B27A;20B=1B27B;20C=1B27C;20D=1B27D;20E=1B27E;20F=1B27F;1980=1B280;201=1B281
NUSHU CHARACTER-1B282=1B282;203=1B283;204=1B284;205=1B285;206=1B286;207=1B287;208=1B288;209=1B289
NUSHU CHARACTER-1B28A=1B28A;20B=1B28B;20C=1B28C;20D=1B28D;20E=1B28E;20F=1B28F;1990=1B290;201=1B291
NUSHU CHARACTER-1B292=1B292;203=1B293;204=1B294;205=1B295;206=1B296;207=1B297;208=1B298;209=1B299
NUSHU CHARACTER-1B29A=1B29A;20B=1B29B;20C=1B29C;20D=1B29D;20E=1B29E;20F=1B29F;19A0=1B2A0;201=1B2A1
NUSHU CHARACTER-1B2A2=1B2A2;203=1B2A3;204=1B2A4;205=1B2A5;206=1B2A6;207=1B2A7;208=1B2A8;209=1B2A9
NUSHU CHARACTER-1B2AA=1B2AA;20B=1B2AB;20C=1B2AC;20D=1B2AD;20E=1B2AE;20F=1B2AF;19B0=1B2B0;201=1B2B1
NUSHU CHARACTER-1B2B2=1B2B2;203=1B2B3;204=1B2B4;205=1B2B5;206=1B2B6;207=1B2B7;208=1B2B8;209=1B2B9
NUSHU CHARACTER-1B2BA=1B2BA;20B=1B2BB;20C=1B2BC;20D=1B2BD;20E=1B2BE;20F=1B2BF;19C0=1B2C0;201=1B2C1
NUSHU CHARACTER-1B2C2=1B2C2;203=1B2C3;204=1B2C4;205=1B2C5;206=1B2C6;207=1B2C7;208=1B2C8;209=1B2C9
NUSHU CHARACTER-1B2CA=1B2CA;20B=1B2CB;20C=1B2CC;20D=1B2CD;20E=1B2CE;20F=1B2CF;19D0=1B2D0;201=1B2D1
NUSHU CHARACTER-1B2D2=1B2D2;203=1B2D3;204=1B2D4;205=1B2D5;206=1B2D6;207=1B2D7;208=1B2D8;209=1B2D9
NUSHU CHARACTER-1B2DA=1B2DA;20B=1B2DB;20C=1B2DC;20D=1B2DD;20E=1B2DE;20F=1B2DF;19E0=1B2E0;201=1B2E1
NUSHU CHARACTER-1B2E2=1B2E2;203=1B2E3;204=1B2E4;205=1B2E5;206=1B2E6;207=1B2E7;208=1B2E8;209=1B2E9
NUSHU CHARACTER-1B2EA=1B2EA;20B=1B2EB;20C=1B2EC;20D=1B2ED;20E=1B2EE;20F=1B2EF;19F0=1B2F0;201=1B2F1
NUSHU CHARACTER-1B2F2=1B2F2;203=1B2F3;204=1B2F4;205=1B2F5;206=1B2F6;207=1B2F7;208=1B2F8;209=1B2F9
NUSHU CHARACTER-1B2FA=1B2FA;20B=1B2FB;06ITERATION MARK=16FE1;02T AND BOLT=1F529
NYIAKENG PUACHUE HMONG CIRCLED CA=1E14F;23DIGIT EIGHT=1E148;29FIVE=1E145;30OUR=1E144;29NINE=1E149
NYIAKENG PUACHUE HMONG DIGIT ONE=1E141;29SEVEN=1E147;30IX=1E146;29THREE=1E143;30WO=1E142
NYIAKENG PUACHUE HMONG DIGIT ZERO=1E140;23LETTER A=1E124;31A=1E125;30CA=1E108;30DA=1E10F
NYIAKENG PUACHUE HMONG LETTER DLA=1E11D;30E=1E12A;31E=1E12B;30FA=1E115;30GA=1E122;30HA=1E104
NYIAKENG PUACHUE HMONG LETTER HAH=1E11F;30I=1E126;30KA=1E10E;30LA=1E109;30MA=1E100;31LA=1E120
NYIAKENG PUACHUE HMONG LETTER NA=1E105;31CA=1E10C;31KA=1E107;31PA=1E11C;32LA=1E11E;31QA=1E119
NYIAKENG PUACHUE HMONG LETTER NRA=1E111;31TA=1E102;32SA=1E10D;32XA=1E113;31YA=1E110;30O=1E128
NYIAKENG PUACHUE HMONG LETTER OO=1E129;30PA=1E11A;31LA=1E121;30QA=1E117;30RA=1E116;31RA=1E123
NYIAKENG PUACHUE HMONG LETTER SA=1E10A;30TA=1E103;31SA=1E101;31XA=1E114;30U=1E127;30VA=1E112
NYIAKENG PUACHUE HMONG LETTER W=1E12C;30XA=1E106;31YA=1E11B;30YA=1E118;30ZA=1E10B
NYIAKENG PUACHUE HMONG LOGOGRAM NYAJ=1E14E;23SIGN FOR ANIMAL=1E13A;32INVERTEBRATE=1E13B
NYIAKENG PUACHUE HMONG SIGN FOR LOCATION=1E139;32PERSON=1E137;32THING=1E138;28XW XW=1E13C
NYIAKENG PUACHUE HMONG SYLLABLE LENGTHENER=1E13D;23TONE-B=1E130;28D=1E136;28G=1E135;28J=1E132
NYIAKENG PUACHUE HMONG TONE-M=1E131;28S=1E134;28V=1E133;00OBJECT REPLACEMENT CHARACTER=FFFC
OBLIQUE ANGLE OPENING DOWN=29A7;22UP=29A6;08HYPHEN=2E5D;02SERVER EYE SYMBOL=23FF
OCR AMOUNT OF CHECK=2447;04BELT BUCKLE=2444;05OW TIE=2445;05RANCH BANK IDENTIFICATION=2446
OCR CHAIR=2441;05USTOMER ACCOUNT NUMBER=2449;04DASH=2448;05OUBLE BACKSLASH=244A;04FORK=2442
OCR HOOK=2440;04INVERTED FORK=2443;02TAGONAL SIGN=1F6D1;03OPUS=1F419;01DEN=1F362
OFFICE BUILDING=1F3E2;01GHAM FEATHER MARK=169B;06LETTER AILM=1690;13BEITH=1681;13CEIRT=168A
OGHAM LETTER COLL=1689;13DAIR=1687;13EABHADH=1695;15DHADH=1693;15MHANCHOLL=1699;13FEARN=1683
OGHAM LETTER GORT=168C;13IFIN=1698;14ODHADH=1694;13LUIS=1682;13MUIN=168B;13NGEADAL=168D;14ION=1685
OGHAM LETTER ONN=1691;14R=1696;13PEITH=169A;13RUIS=168F;13SAIL=1684;14TRAIF=168E;13TINNE=1688
OGHAM LETTER UATH=1686;14ILLEANN=1697;14R=1692;06REVERSED FEATHER MARK=169C;06SPACE MARK=1680
OGONEK=2DB;01HM SIGN=2126;01IL DRUM=1F6E2;01K HAND SIGN=1F44C;01L CHIKI AHAD=1C7D
OL CHIKI DIGIT EIGHT=1C58;15FIVE=1C55;16OUR=1C54;15NINE=1C59;15ONE=1C51;15SEVEN=1C57;16IX=1C56
OL CHIKI DIGIT THREE=1C53;16WO=1C52;15ZERO=1C50;09GAAHLAA TTUDDAAG=1C79;09LETTER AAJ=1C61;18K=1C60
OL CHIKI LETTER AAM=1C62;18W=1C63;17G=1C5C;17L=1C5E;17NG=1C5D;17T=1C5B;16EDD=1C70;17N=1C71
OL CHIKI LETTER EP=1C6F;17RR=1C72;16IH=1C66;17NY=1C67;17R=1C68;17S=1C65;16LA=1C5A;18A=1C5F
OL CHIKI LETTER LE=1C6E;17I=1C64;17O=1C73;17U=1C69;16OB=1C75;17H=1C77;17TT=1C74;17V=1C76;16UC=1C6A
OL CHIKI LETTER UD=1C6B;17NN=1C6C;17Y=1C6D;09MU TTUDDAG=1C78;11-GAAHLAA TTUDDAAG=1C7A
OL CHIKI PHAARKAA=1C7C;10UNCTUATION DOUBLE MUCAAD=1C7F;21MUCAAD=1C7E;09RELAA=1C7B
OLD CHINESE HOOK MARK=16FE2;12ITERATION MARK=16FE3;04HUNGARIAN CAPITAL LETTER A=10C80;30A=10C81
OLD HUNGARIAN CAPITAL LETTER AK=10C94;30MB=10C83;30ND=10C88;29CLOSE E=10C8A;29E=10C89;30B=10C82
OLD HUNGARIAN CAPITAL LETTER EC=10C84;31H=10CA9;31S=10C86;30D=10C87;30E=10C8B;30F=10C8C;30G=10C8D
OLD HUNGARIAN CAPITAL LETTER EGY=10C8E;30H=10C8F;30J=10C92;30K=10C93;30L=10C96;31Y=10C97;30M=10C98
OLD HUNGARIAN CAPITAL LETTER EMP=10CA1;30N=10C99;31C=10C85;31T-SHAPED SIGN=10CB1;32=10CA7
OLD HUNGARIAN CAPITAL LETTER ENY=10C9A;30P=10CA0;30R=10CA2;30S=10CA4;31Z=10CA5;30T=10CA6;31Y=10CA8
OLD HUNGARIAN CAPITAL LETTER EV=10CAE;30Z=10CAF;31S=10CB0;29I=10C90;30I=10C91
OLD HUNGARIAN CAPITAL LETTER NIKOLSBURG OE=10C9D;40UE=10CAC;29O=10C9B;30EE=10C9F;30O=10C9C
OLD HUNGARIAN CAPITAL LETTER RUDIMENTA OE=10C9E;39UE=10CAD;29SHORT ER=10CA3;29U=10CAA;30NK=10C95
OLD HUNGARIAN CAPITAL LETTER US=10CB2;30U=10CAB;14NUMBER FIFTY=10CFD;23VE=10CFB
OLD HUNGARIAN NUMBER ONE HUNDRED=10CFE;25THOUSAND=10CFF;24=10CFA;21TEN=10CFC
OLD HUNGARIAN SMALL LETTER A=10CC0;28A=10CC1;28K=10CD4;28MB=10CC3;28ND=10CC8;27CLOSE E=10CCA
OLD HUNGARIAN SMALL LETTER E=10CC9;28B=10CC2;28C=10CC4;29H=10CE9;29S=10CC6;28D=10CC7;28E=10CCB
OLD HUNGARIAN SMALL LETTER EF=10CCC;28G=10CCD;29Y=10CCE;28H=10CCF;28J=10CD2;28K=10CD3;28L=10CD6
OLD HUNGARIAN SMALL LETTER ELY=10CD7;28M=10CD8;29P=10CE1;28N=10CD9;29C=10CC5;29T-SHAPED SIGN=10CF1
OLD HUNGARIAN SMALL LETTER ENT=10CE7;29Y=10CDA;28P=10CE0;28R=10CE2;28S=10CE4;29Z=10CE5;28T=10CE6
OLD HUNGARIAN SMALL LETTER ETY=10CE8;28V=10CEE;28Z=10CEF;29S=10CF0;27I=10CD0;28I=10CD1
OLD HUNGARIAN SMALL LETTER NIKOLSBURG OE=10CDD;38UE=10CEC;27O=10CDB;28EE=10CDF;28O=10CDC
OLD HUNGARIAN SMALL LETTER RUDIMENTA OE=10CDE;37UE=10CED;27SHORT ER=10CE3;27U=10CEA;28NK=10CD5
OLD HUNGARIAN SMALL LETTER US=10CF2;28U=10CEB;04ITALIC LETTER A=10300;18BE=10301;18CHE=1031C
OLD ITALIC LETTER DE=10303;18E=10304;19F=1031A;19KS=10317;19L=1030B;19M=1030C;19N=1030D;19R=10313
OLD ITALIC LETTER ERS=1031B;19S=10314;20H=1030E;20S=1031F;18HE=10307;18I=10309;19I=1031D
OLD ITALIC LETTER KA=1030A;19E=10302;19HE=10319;19U=10312;18NORTHERN TSE=1032E;18O=1030F
OLD ITALIC LETTER PE=10310;19HE=10318;18SHE=10311;19OUTHERN TSE=1032F;18TE=10315;19HE=10308
OLD ITALIC LETTER U=10316;19U=1031E;18VE=10305;18YE=1032D;18ZE=10306;11NUMERAL FIFTY=10323
OLD ITALIC NUMERAL FIVE=10321;19ONE=10320;19TEN=10322;04KEY=1F5DD;04NORTH ARABIAN LETTER AIN=10A92
OLD NORTH ARABIAN LETTER ALEF=10A91;25BEH=10A88;25DAD=10A93;27L=10A95;25ES-1=10A8A;282=10A86
OLD NORTH ARABIAN LETTER ES-3=10A8F;25FEH=10A90;25GEEM=10A94;26HAIN=10A96;25HAH=10A82;26EH=10A80
OLD NORTH ARABIAN LETTER KAF=10A8B;26HAH=10A8D;25LAM=10A81;25MEEM=10A83;25NOON=10A8C;25QAF=10A84
OLD NORTH ARABIAN LETTER REH=10A87;25SAD=10A8E;25TAH=10A97;26EH=10A89;26HAL=10A99;27EH=10A9B
OLD NORTH ARABIAN LETTER WAW=10A85;25YEH=10A9A;25ZAH=10A9C;27IN=10A98;18NUMBER ONE=10A9D
OLD NORTH ARABIAN NUMBER TEN=10A9E;26WENTY=10A9F;04PERMIC LETTER AN=10350;18BUR=10351
OLD PERMIC LETTER CHERY=10364;18DOI=10353;19ZHOI=10356;20ITA=10358;18E=10354;19F=1036B;18GAI=10352
OLD PERMIC LETTER HA=1036C;18I=10359;19A=10375;19E=10372;18KOKE=1035A;18LEI=1035B;18MENOE=1035C
OLD PERMIC LETTER NENOE=1035D;18O=10369;19O=1036A;18PEEI=1035F;18REI=10360;18SHCHOOI=10366
OLD PERMIC LETTER SHOOI=10365;19II=10361;18TAI=10362;19SIU=1036D;18U=10363;18VER=1036E;19OOI=1035E
OLD PERMIC LETTER YA=10374;20T=10371;19ER=1036F;21I=10370;21U=10368;19RY=10367;19U=10373
OLD PERMIC LETTER ZATA=10357;19HOI=10355;07SIAN NUMBER HUNDRED=103D5;19ONE=103D1;19TEN=103D3
OLD PERSIAN NUMBER TWENTY=103D4;21O=103D2;12SIGN A=103A0;18URAMAZDAA-2=103C9;27=103C8;27HA=103CA
OLD PERSIAN SIGN BA=103B2;19GA=103CE;18UUMISH=103CF;17CA=103A8;17DA=103AD;19HYAAUSH-2=103CD
OLD PERSIAN SIGN DAHYAAUSH=103CC;18I=103AE;18U=103AF;17FA=103B3;17GA=103A5;18U=103A6;17HA=103C3
OLD PERSIAN SIGN I=103A1;17JA=103A9;18I=103AA;17KA=103A3;18U=103A4;17LA=103BE;17MA=103B6;18I=103B7
OLD PERSIAN SIGN MU=103B8;17NA=103B4;18U=103B5;17PA=103B1;17RA=103BC;18U=103BD;17SA=103BF
OLD PERSIAN SIGN SHA=103C1;18SA=103C2;17TA=103AB;18HA=103B0;18U=103AC;17U=103A2;17VA=103BA
OLD PERSIAN SIGN VI=103BB;17XA=103A7;18SHAAYATHIYA=103CB;17YA=103B9;17ZA=103C0
OLD PERSIAN WORD DIVIDER=103D0;08ONAL COMPUTER=1F5B3;04SOGDIAN FRACTION ONE HALF=10F26
OLD SOGDIAN LETTER ALEPH=10F00;21TERNATE AYIN=10F13;20YIN=10F12;19BETH=10F02;19FINAL ALEPH=10F01
OLD SOGDIAN LETTER FINAL BETH=10F03;25HE=10F06;25NUN WITH VERTICAL TAIL=10F10;28=10F0F
OLD SOGDIAN LETTER FINAL SADHE WITH VERTICAL TAIL=10F17;30=10F16;25TAW WITH VERTICAL TAIL=10F1C
OLD SOGDIAN LETTER FINAL TAW=10F1B;19GIMEL=10F04;19HE=10F05;21TH=10F09;19KAPH=10F0B;19LAMEDH=10F0C
OLD SOGDIAN LETTER MEM=10F0D;19NUN=10F0E;19PE=10F14;19RESH-AYIN-DALETH=10F18;19SADHE=10F15
OLD SOGDIAN LETTER SAMEKH=10F11;20HIN=10F19;19TAW=10F1A;19WAW=10F07;19YODH=10F0A;19ZAYIN=10F08
OLD SOGDIAN LIGATURE AYIN-DALETH=10F27;12NUMBER FIVE=10F21;20OUR=10F20;19ONE HUNDRED=10F25
OLD SOGDIAN NUMBER ONE=10F1D;19TEN=10F22;20HIRTY=10F24;21REE=10F1F;20WENTY=10F23;21O=10F1E
OLD SOUTH ARABIAN LETTER ALEF=10A71;26YN=10A72;25BETH=10A68;25DALETH=10A75;26HADHE=10A73
OLD SOUTH ARABIAN LETTER DHALETH=10A79;25FE=10A70;25GHAYN=10A76;26IMEL=10A74;25HE=10A60;27TH=10A62
OLD SOUTH ARABIAN LETTER KAPH=10A6B;26HETH=10A6D;25LAMEDH=10A61;25MEM=10A63;25NUN=10A6C
OLD SOUTH ARABIAN LETTER QOPH=10A64;25RESH=10A67;25SADHE=10A6E;27MEKH=10A6F;27T=10A6A;26HIN=10A66
OLD SOUTH ARABIAN LETTER TAW=10A69;26ETH=10A77;26HAW=10A7B;27ETH=10A7C;25WAW=10A65;25YODH=10A7A
OLD SOUTH ARABIAN LETTER ZAYN=10A78;18NUMBER FIFTY=10A7E;25ONE=10A7D;21ERIC INDICATOR=10A7F
OLD TURKIC LETTER ORKHON A=10C00;26B=10C09;26D=10C11;26EB=10C0B;27D=10C13;27G=10C0F;27K=10C1A
OLD TURKIC LETTER ORKHON AEL=10C20;27N=10C24;27R=10C3C;27S=10C3E;27T=10C45;27Y=10C18;26G=10C0D
OLD TURKIC LETTER ORKHON AL=10C1E;26N=10C23;26Q=10C34;26R=10C3A;26S=10C3D;27H=10C3F;26T=10C43
OLD TURKIC LETTER ORKHON AY=10C16;25BASH=10C48;25EC=10C32;26LT=10C21;26M=10C22;26NC=10C28
OLD TURKIC LETTER ORKHON ENG=10C2D;27T=10C26;27Y=10C2A;26P=10C2F;26SH=10C41;26Z=10C14;25I=10C03
OLD TURKIC LETTER ORKHON IC=10C31;26Q=10C36;25O=10C06;26E=10C07;27K=10C1C;26P=10C30;26Q=10C38
OLD TURKIC LETTER ORKHON OT=10C47;18YENISEI A=10C01;27B=10C0A;27D=10C12;27E=10C02;28B=10C0C
OLD TURKIC LETTER YENISEI AEG=10C10;28K=10C1B;28N=10C25;29G=10C2E;28T=10C46;28Y=10C19;27G=10C0E
OLD TURKIC LETTER YENISEI AL=10C1F;27NG=10C2C;27Q=10C35;27R=10C3B;27SH=10C40;27T=10C44;27Y=10C17
OLD TURKIC LETTER YENISEI E=10C05;27C=10C33;27NC=10C29;28T=10C27;28Y=10C2B;27SH=10C42;27Z=10C15
OLD TURKIC LETTER YENISEI I=10C04;27Q=10C37;26OE=10C08;28K=10C1D;27Q=10C39
OLD UYGHUR COMBINING DOT ABOVE=10F82;25BELOW=10F83;21TWO DOTS ABOVE=10F84;30BELOW=10F85
OLD UYGHUR LETTER ALEPH=10F70;18BETH=10F71;18FINAL HETH=10F75;18GIMEL-HETH=10F72;18KAPH=10F77
OLD UYGHUR LETTER LAMEDH=10F78;19ESH=10F81;18MEM=10F79;18NUN=10F7A;18PE=10F7C;18RESH=10F7E
OLD UYGHUR LETTER SADHE=10F7D;20MEKH=10F7B;19HIN=10F7F;18TAW=10F80;18WAW=10F73;18YODH=10F76
OLD UYGHUR LETTER ZAYIN=10F74;11PUNCTUATION BAR=10F86;23FOUR DOTS=10F89;23TWO BARS=10F87
OLD UYGHUR PUNCTUATION TWO DOTS=10F88;03ER ADULT=1F9D3;06MAN=1F474;06WOMAN=1F475;02IVE=1FAD2
OM SYMBOL=1F549;01N WITH EXCLAMATION MARK WITH LEFT RIGHT ARROW ABOVE=1F51B
ONCOMING AUTOMOBILE=1F698;09BUS=1F68D;09FIRE ENGINE=1F6F1;09POLICE CAR=1F694;09TAXI=1F696
ONE BUTTON MOUSE=1F5AF;04DOT LEADER=2024;08OVER TWO DOTS PUNCTUATION=2E2B;03-PIECE SWIMSUIT=1FA71
ONION=1F9C5;01PEN BOOK=1F4D6;07X=2423;05CENTRE ASTERISK=2732;12BLACK STAR=272B;12CROSS=271B
OPEN CENTRE TEARDROP-SPOKED ASTERISK=273C;05FILE FOLDER=1F4C2;06OLDER=1F5C1;05HANDS SIGN=1F450
OPEN LOCK=1F513;05MAILBOX WITH LOWERED FLAG=1F4ED;18RAISED FLAG=1F4EC;05SUBSET=27C3;07PERSET=27C4
OPEN-CIRCUIT-OUTPUT H-TYPE SYMBOL=238F;20L-TYPE SYMBOL=2390;05OUTLINED RIGHTWARDS ARROW=27BE
OPERATING SYSTEM COMMAND=9D;02HIUCHUS=26CE;02POSITION=260D;02TICAL DISC ICON=1F5B8;12=1F4BF
OPTION KEY=2325;01R WITH DOT INSIDE=27C7;02ANGE BOOK=1F4D9;07HEART=1F9E1;05UTAN=1F9A7
ORIGINAL OF=22B6;03YA AI LENGTH MARK=B56;07U LENGTH MARK=B57;06DIGIT EIGHT=B6E;12FIVE=B6B
ORIYA DIGIT FOUR=B6A;12NINE=B6F;12ONE=B67;12SEVEN=B6D;13IX=B6C;12THREE=B69;13WO=B68;12ZERO=B66
ORIYA FRACTION ONE EIGHTH=B76;19HALF=B73;19QUARTER=B72;19SIXTEENTH=B75;15THREE QUARTERS=B74
ORIYA FRACTION THREE SIXTEENTHS=B77;06ISSHAR=B70;06LETTER A=B05;14A=B06;14I=B10;14U=B14;13BA=B2C
ORIYA LETTER BHA=B2D;13CA=B1A;14HA=B1B;13DA=B26;14DA=B21;15HA=B22;14HA=B27;13E=B0F;13GA=B17
ORIYA LETTER GHA=B18;13HA=B39;13I=B07;14I=B08;13JA=B1C;14HA=B1D;13KA=B15;14HA=B16;13LA=B32
ORIYA LETTER LLA=B33;13MA=B2E;13NA=B28;14GA=B19;14NA=B23;14YA=B1E;13O=B13;13PA=B2A;14HA=B2B
ORIYA LETTER RA=B30;14HA=B5D;14RA=B5C;13SA=B38;14HA=B36;14SA=B37;13TA=B24;14HA=B25;14TA=B1F
ORIYA LETTER TTHA=B20;13U=B09;14U=B0A;13VA=B35;14OCALIC L=B0C;22L=B61;21R=B0B;22R=B60;13WA=B71
ORIYA LETTER YA=B2F;14YA=B5F;06SIGN ANUSVARA=B02;12VAGRAHA=B3D;11CANDRABINDU=B01;11NUKTA=B3C
ORIYA SIGN OVERLINE=B55;11VIRAMA=B4D;13SARGA=B03;06VOWEL SIGN AA=B3E;18I=B48;18U=B4C;17E=B47
ORIYA VOWEL SIGN I=B3F;18I=B40;17O=B4B;17U=B41;18U=B42;17VOCALIC L=B62;26L=B63;25R=B43;26R=B44
ORNATE LEFT PARENTHESIS=FD3E;07RIGHT PARENTHESIS=FD3F;02THODOX CROSS=2626
OSAGE CAPITAL LETTER A=104B0;22H=104B3;22I=104B1;23N=104B2;21BRA=104B4;21CHA=104B5;21DHA=104CD
OSAGE CAPITAL LETTER E=104B7;22HCHA=104B6;23KA=104BD;23PA=104C5;23TA=104C9;24SA=104CB;22IN=104B8
OSAGE CAPITAL LETTER GHA=104D1;21HA=104B9;22YA=104BA;21I=104BB;21KA=104BC;22HA=104D0;22YA=104BE
OSAGE CAPITAL LETTER LA=104BF;21MA=104C0;21NA=104C1;21O=104C2;22IN=104C3;21PA=104C4;21SA=104C6
OSAGE CAPITAL LETTER SHA=104C7;21TA=104C8;22SA=104CA;23HA=104CC;21U=104CE;21WA=104CF;21ZA=104D2
OSAGE CAPITAL LETTER ZHA=104D3;06SMALL LETTER A=104D8;20H=104DB;20I=104D9;21N=104DA;19BRA=104DC
OSAGE SMALL LETTER CHA=104DD;19DHA=104F5;19E=104DF;20HCHA=104DE;21KA=104E5;21PA=104ED;21TA=104F1
OSAGE SMALL LETTER EHTSA=104F3;20IN=104E0;19GHA=104F9;19HA=104E1;20YA=104E2;19I=104E3;19KA=104E4
OSAGE SMALL LETTER KHA=104F8;20YA=104E6;19LA=104E7;19MA=104E8;19NA=104E9;19O=104EA;20IN=104EB
OSAGE SMALL LETTER PA=104EC;19SA=104EE;20HA=104EF;19TA=104F0;20SA=104F2;21HA=104F4;19U=104F6
OSAGE SMALL LETTER WA=104F7;19ZA=104FA;20HA=104FB;02C=9D;02MANYA DIGIT EIGHT=104A8;14FIVE=104A5
OSMANYA DIGIT FOUR=104A4;14NINE=104A9;14ONE=104A1;14SEVEN=104A7;15IX=104A6;14THREE=104A3
OSMANYA DIGIT TWO=104A2;14ZERO=104A0;08LETTER A=10496;16A=1049B;16LEF=10480;15BA=10481
OSMANYA LETTER CAYN=1048B;15DEEL=10486;16HA=1048A;15E=10497;16E=1049C;15FA=1048D;15GA=1048C
OSMANYA LETTER HA=10494;15I=10498;15JA=10483;15KAAF=1048F;16HA=10485;15LAAN=10490;15MIIN=10491
OSMANYA LETTER NUUN=10492;15O=10499;16O=1049D;15QAAF=1048E;15RA=10487;15SA=10488;16HIIN=10489
OSMANYA LETTER TA=10482;15U=1049A;15WAW=10493;15XA=10484;15YA=10495;01TTER=1F9A6
OTTOMAN SIYAQ ALTERNATE NUMBER EIGHT=1ED35;31FIVE=1ED32;32OUR HUNDRED=1ED38;35=1ED31;31NINE=1ED36
OTTOMAN SIYAQ ALTERNATE NUMBER SEVEN=1ED34;32IX HUNDRED=1ED39;34=1ED33;31TEN THOUSAND=1ED3B
OTTOMAN SIYAQ ALTERNATE NUMBER TEN=1ED37;32HREE=1ED30;32WO THOUSAND=1ED3A;34=1ED2F
OTTOMAN SIYAQ FRACTION ONE HALF=1ED3C;27SIXTH=1ED3D;14MARRATAN=1ED2E;14NUMBER EIGHT HUNDRED=1ED1A
OTTOMAN SIYAQ NUMBER EIGHT THOUSAND=1ED23;26=1ED08;26Y THOUSAND=1ED2C;27=1ED11
OTTOMAN SIYAQ NUMBER FIFTY THOUSAND=1ED29;26=1ED0E;23VE HUNDRED=1ED17;26THOUSAND=1ED20;25=1ED05
OTTOMAN SIYAQ NUMBER FORTY THOUSAND=1ED28;26=1ED0D;23UR HUNDRED=1ED16;26THOUSAND=1ED1F;25=1ED04
OTTOMAN SIYAQ NUMBER NINE HUNDRED=1ED1B;26THOUSAND=1ED24;25=1ED09;25TY THOUSAND=1ED2D;27=1ED12
OTTOMAN SIYAQ NUMBER ONE HUNDRED=1ED13;25THOUSAND=1ED1C;24=1ED01;21SEVEN HUNDRED=1ED19
OTTOMAN SIYAQ NUMBER SEVEN THOUSAND=1ED22;26=1ED07;26TY THOUSAND=1ED2B;28=1ED10;22IX HUNDRED=1ED18
OTTOMAN SIYAQ NUMBER SIX THOUSAND=1ED21;24=1ED06;24TY THOUSAND=1ED2A;26=1ED0F;21TEN THOUSAND=1ED25
OTTOMAN SIYAQ NUMBER TEN=1ED0A;22HIRTY THOUSAND=1ED27;27=1ED0C;23REE HUNDRED=1ED15
OTTOMAN SIYAQ NUMBER THREE THOUSAND=1ED1E;26=1ED03;22WENTY THOUSAND=1ED26;27=1ED0B
OTTOMAN SIYAQ NUMBER TWO HUNDRED=1ED14;25THOUSAND=1ED1D;24=1ED02;01UNCE SIGN=2125
OUTBOX TRAY=1F4E4;03LINED BLACK STAR=272D;09GREEK CROSS=2719;09LATIN CROSS=271F;09WHITE STAR=269D
OVERHEATED FACE=1F975;04LAP=1F5D7;07PING BLACK SQUARES=2BBC;12WHITE AND BLACK SQUARES=2BBB
OVERLAPPING WHITE SQUARES=2BBA;05INE=203E;01WL=1F989;01X=1F402;01YSTER=1F9AA;00PACKAGE=1F4E6
PAD=80;03DING CHARACTER=80;02GE FACING UP=1F4C4;05WITH CIRCLED TEXT=1F5DF;11URL=1F4C3;04=1F5CF
PAGER=1F4DF;04S=1F5D0;03ODA=1F6D4;02HAWH HMONG CLAN SIGN FAJ=16B8B;23HAM=16B89;25WJ=16B83
PAHAWH HMONG CLAN SIGN KHAB=16B88;24OO=16B82;24WM=16B8E;23LAUJ=16B80;24IS=16B7F;23MUAS=16B84
PAHAWH HMONG CLAN SIGN PHAB=16B87;23THOJ=16B85;24SAB=16B86;25HEEJ=16B7D;25WB=16B8D;23VAJ=16B8A
PAHAWH HMONG CLAN SIGN VWJ=16B8F;23XYOOJ=16B81;23YAJ=16B8C;24EEG=16B7E;14ONSONANT AU=16B2D
PAHAWH HMONG CONSONANT CAU=16B2F;24HAU=16B27;23HAU=16B1F;24LAU=16B25;24NAU=16B29;23LAU=16B1E
PAHAWH HMONG CONSONANT MAU=16B26;23NAU=16B2C;24CHAU=16B28;24KAU=16B22;24LAU=16B20;24THAU=16B2B
PAHAWH HMONG CONSONANT NTSAU=16B1D;23PLHAU=16B2A;23QHAU=16B23;23RAU=16B21;23VAU=16B1C;23XAU=16B2E
PAHAWH HMONG CONSONANT YAU=16B24;13DIGIT EIGHT=16B58;19FIVE=16B55;20OUR=16B54;19NINE=16B59
PAHAWH HMONG DIGIT ONE=16B51;19SEVEN=16B57;20IX=16B56;19THREE=16B53;20WO=16B52;19ZERO=16B50
PAHAWH HMONG MARK CIM HOM=16B35;22KES=16B32;23HAV=16B33;22SO=16B31;23UAM=16B34;22TAUM=16B36
PAHAWH HMONG MARK CIM TUB=16B30;13NUMBER HUNDRED MILLIONS=16B5F;27S=16B5C;20MILLIONS=16B5E
PAHAWH HMONG NUMBER TEN BILLIONS=16B60;24THOUSANDS=16B5D;23S=16B5B;21RILLIONS=16B61
PAHAWH HMONG SIGN AV=16B6C;18CIM CHEEM=16B39;23UAM TSHOOJ=16B73;22HAIS LUS NTOG NTOG=16B72
PAHAWH HMONG SIGN CIM NRES TOS=16B77;22PUB DAWB=16B76;22TSOV ROG=16B45;23XWV CHWV=16B75;26=16B74
PAHAWH HMONG SIGN HLI=16B65;19NUB=16B68;18IB YAM=16B43;18LOS=16B70;18MEEJ SUAB=16B41;23TSEEB=16B6E
PAHAWH HMONG SIGN MUS=16B71;18NQIG=16B69;19TUJ=16B6B;18TAU=16B6F;19HIRD-STAGE HLI=16B66
PAHAWH HMONG SIGN TXHEEJ CEEV=16B6D;18VOS FEEM=16B3B;22LUB=16B63;22NRUA=16B42;22SEEV=16B40
PAHAWH HMONG SIGN VOS THIAB=16B3A;24OM=16B37;23SHAB CEEB=16B38;18XAUS=16B44;19IAB=16B6A
PAHAWH HMONG SIGN XYEEM FAIB=16B3F;24NTXIV=16B3C;24RHO=16B3D;24TOV=16B3E;20OO=16B64
PAHAWH HMONG SIGN ZWJ THAJ=16B67;13VOWEL KAAB=16B1A;22V=16B1B;21B=16B16;21IB=16B0A;22V=16B0B
PAHAWH HMONG VOWEL KAUB=16B04;22V=16B05;21V=16B17;21WB=16B0E;22V=16B0F;20EB=16B08;21EB=16B00
PAHAWH HMONG VOWEL KEEV=16B01;21V=16B09;20IAB=16B14;22V=16B15;21B=16B02;21V=16B03;20OB=16B12
PAHAWH HMONG VOWEL KOOB=16B0C;22V=16B0D;21V=16B13;20UAB=16B10;22V=16B11;21B=16B06;21V=16B07
PAHAWH HMONG VOWEL KWB=16B18;21V=16B19;02LLAS=26B4;03M BRANCH=2E19;05DOWN HAND=1FAF3;05TREE=1F334
PALM UP HAND=1FAF4;04S UP TOGETHER=1F932;04YRENE LEFT-POINTING FLEURON=10877;12TTER ALEPH=10860
PALMYRENE LETTER AYIN=10870;17BETH=10861;17DALETH=10863;17FINAL NUN=1086D;17GIMEL=10862;17HE=10864
PALMYRENE LETTER HETH=10867;17KAPH=1086A;17LAMEDH=1086B;17MEM=1086C;17NUN=1086E;17PE=10871
PALMYRENE LETTER QOPH=10873;17RESH=10874;17SADHE=10872;19MEKH=1086F;18HIN=10875;17TAW=10876
PALMYRENE LETTER TETH=10868;17WAW=10865;17YODH=10869;17ZAYIN=10866;10NUMBER FIVE=1087D;18OUR=1087C
PALMYRENE NUMBER ONE=10879;17TEN=1087E;18HREE=1087B;18WENTY=1087F;19O=1087A
PALMYRENE RIGHT-POINTING FLEURON=10878;02NCAKES=1F95E;03DA FACE=1F43C;02PERCLIP=1F4CE
PARACHUTE=1FA82;04GRAPH SEPARATOR=2029;09OS=2E0F;09US MARK=2E4D;04LLEL TO=2225
PARALLEL WITH HORIZONTAL STROKE=2AF2;14TILDE OPERATOR=2AF3;03ENTHESIZED DIGIT EIGHT=247B
PARENTHESIZED DIGIT FIVE=2478;21OUR=2477;20NINE=247C;20ONE=2474;20SEVEN=247A;21IX=2479
PARENTHESIZED DIGIT THREE=2476;21WO=2475;14HANGUL CHIEUCH A=3217;28=3209;22IEUC A=3216;27U=321C
PARENTHESIZED HANGUL CIEUC=3208;21HIEUH A=321B;26=320D;21IEUNG A=3215;26=3207;21KHIEUKH A=3218
PARENTHESIZED HANGUL KHIEUKH=320A;22IYEOK A=320E;27=3200;21MIEUM A=3212;26=3204;21NIEUN A=320F
PARENTHESIZED HANGUL NIEUN=3201;21PHIEUPH A=321A;28=320C;22IEUP A=3213;26=3205;21RIEUL A=3211
PARENTHESIZED HANGUL RIEUL=3203;21SIOS A=3214;25=3206;21THIEUTH A=3219;28=320B;22IKEUT A=3210
PARENTHESIZED HANGUL TIKEUT=3202;14IDEOGRAPH ALLIANCE=323F;24CALL=323A;25ONGRATULATION=3237
PARENTHESIZED IDEOGRAPH EARTH=322F;25IGHT=3227;25NTERPRISE=323D;24FESTIVAL=3240;25INANCIAL=3236
PARENTHESIZED IDEOGRAPH FIRE=322B;26VE=3224;25OUR=3223;24HAVE=3232;24LABOR=3238;24METAL=322E
PARENTHESIZED IDEOGRAPH MOON=322A;24NAME=3234;25INE=3228;24ONE=3220;24REACH=3243;26PRESENT=3239
PARENTHESIZED IDEOGRAPH RESOURCE=323E;27T=3241;24SELF=3242;26VEN=3226;25IX=3225;25OCIETY=3233
PARENTHESIZED IDEOGRAPH SPECIAL=3235;25TOCK=3231;26UDY=323B;25UN=3230;26PERVISE=323C;24TEN=3229
PARENTHESIZED IDEOGRAPH THREE=3222;25WO=3221;24WATER=322C;25OOD=322D;14KOREAN CHARACTER O HU=321E
PARENTHESIZED KOREAN CHARACTER OJEON=321D;14LATIN CAPITAL LETTER A=1F110;35B=1F111;35C=1F112
PARENTHESIZED LATIN CAPITAL LETTER D=1F113;35E=1F114;35F=1F115;35G=1F116;35H=1F117;35I=1F118
PARENTHESIZED LATIN CAPITAL LETTER J=1F119;35K=1F11A;35L=1F11B;35M=1F11C;35N=1F11D;35O=1F11E
PARENTHESIZED LATIN CAPITAL LETTER P=1F11F;35Q=1F120;35R=1F121;35S=1F122;35T=1F123;35U=1F124
PARENTHESIZED LATIN CAPITAL LETTER V=1F125;35W=1F126;35X=1F127;35Y=1F128;35Z=1F129
PARENTHESIZED LATIN SMALL LETTER A=249C;33B=249D;33C=249E;33D=249F;33E=24A0;33F=24A1;33G=24A2
PARENTHESIZED LATIN SMALL LETTER H=24A3;33I=24A4;33J=24A5;33K=24A6;33L=24A7;33M=24A8;33N=24A9
PARENTHESIZED LATIN SMALL LETTER O=24AA;33P=24AB;33Q=24AC;33R=24AD;33S=24AE;33T=24AF;33U=24B0
PARENTHESIZED LATIN SMALL LETTER V=24B1;33W=24B2;33X=24B3;33Y=24B4;33Z=24B5;14NUMBER EIGHTEEN=2485
PARENTHESIZED NUMBER ELEVEN=247E;21FIFTEEN=2482;22OURTEEN=2481;21NINETEEN=2486;21SEVENTEEN=2484
PARENTHESIZED NUMBER SIXTEEN=2483;21TEN=247D;22HIRTEEN=2480;22WELVE=247F;24NTY=2487;03ROT=1F99C
PART ALTERNATION MARK=303D;04IAL DIFFERENTIAL=2202;08LINE BACKWARD=8C;13DOWN=8B;13FORWARD=8B
PARTIAL LINE UP=8C;07LY-RECYCLED PAPER SYMBOL=267D;04NERSHIP SIGN=3250;04Y POPPER=1F389
PASSED SYMBOL=2BFD;05NGER SHIP=1F6F3;04IVE-PULL-DOWN-OUTPUT SYMBOL=2391;13UP-OUTPUT SYMBOL=2392
PASSPORT CONTROL=1F6C2;02U CIN HAU GLOTTAL STOP FINAL=11AF8;25VARIANT=11AF0;24=11AF5
PAU CIN HAU LETTER A=11AD5;19BA=11ACC;19CA=11ACD;20HA=11AD4;19DA=11AC4;19E=11AD6;19FA=11AD3
PAU CIN HAU LETTER FINAL K=11ADD;25L=11AE1;25M=11ADF;25N=11AE0;26G=11AE3;25P=11ADC;25T=11ADE
PAU CIN HAU LETTER FINAL W=11AE2;25Y=11AE4;19GA=11AC9;19HA=11AC8;19I=11AD7;20A=11ADB;19KA=11AC1
PAU CIN HAU LETTER KHA=11ACA;19LA=11AC2;19MA=11AC3;19NA=11AD0;20GA=11AC7;19O=11AD8;19PA=11AC0
PAU CIN HAU LETTER PHA=11AD1;19RA=11AD2;19SA=11ACB;19TA=11ACE;20HA=11ACF;19U=11AD9;20A=11ADA
PAU CIN HAU LETTER VA=11AC6;19ZA=11AC5;13OW-FALLING TONE FINAL=11AF7;29LONG FINAL=11AF6;33=11AF3
PAU CIN HAU LOW-FALLING TONE=11AF4;12MID-LEVEL TONE FINAL=11AF2;27LONG FINAL=11AF1;26=11AEF
PAU CIN HAU RISING TONE FINAL=11AE9;24LONG FINAL=11AE8;28=11AE5;23=11AE6
PAU CIN HAU SANDHI GLOTTAL STOP FINAL=11AEA;31=11AE7;19TONE FINAL=11AEE;24LONG FINAL=11AED
PAU CIN HAU SANDHI TONE LONG=11AEB;23=11AEC;02W PRINTS=1F43E;01DF=202C;02I=2069;01EACE SYMBOL=262E
PEACH=1F351;04OCK=1F99A;03NUTS=1F95C;03R=1F350;02DESTRIAN=1F6B6;02N OVER STAMPED ENVELOPE=1F586
PENCIL=270F;03GUIN=1F427;03SIVE FACE=1F614;03TAGRAM=26E4;02OPLE HUGGING=1FAC2;02R MILLE SIGN=2030
PER SIGN=214C;04TEN THOUSAND SIGN=2031;03CENT SIGN=25;03FORMING ARTS=1F3AD
PERMANENT PAPER SIGN=267E;03PENDICULAR WITH S=2AE1;13=27C2;03SEVERING FACE=1F623
PERSON BOWING DEEPLY=1F647;07CLIMBING=1F9D7;07DOING CARTWHEEL=1F938;07FROWNING=1F64D
PERSON IN LOTUS POSITION=1F9D8;10STEAMY ROOM=1F9D6;07RAISING BOTH HANDS IN CELEBRATION=1F64C
PERSON WITH BALL=26F9;13LOND HAIR=1F471;12CROWN=1FAC5;12FOLDED HANDS=1F64F;12HEADSCARF=1F9D5
PERSON WITH POUTING FACE=1F64E;06AL COMPUTER=1F4BB;04PECTIVE=2306;02SETA SIGN=20A7;03O SIGN=20B1
PETRI DISH=1F9EB;01HAGS-PA DOUBLE HEAD MARK=A875;09LETTER A=A85D;17LTERNATE YA=A86D
PHAGS-PA LETTER ASPIRATED FA=A870;16BA=A84E;16CA=A844;18NDRABINDU=A873;17HA=A845;16DA=A84A
PHAGS-PA LETTER DDA=A86B;17ZA=A852;16E=A860;17E=A866;16FA=A864;16GA=A842;17GA=A865;16HA=A85C
PHAGS-PA LETTER I=A85E;16JA=A846;16KA=A840;17HA=A841;16LA=A859;16MA=A84F;16NA=A84B;17GA=A843
PHAGS-PA LETTER NNA=A86C;17YA=A847;16O=A861;16PA=A84C;17HA=A84D;16QA=A862;16RA=A858;16SA=A85B
PHAGS-PA LETTER SHA=A85A;17MALL A=A856;16TA=A848;17HA=A849;17SA=A850;18HA=A851;17TA=A869;18HA=A86A
PHAGS-PA LETTER U=A85F;16VOICED HA=A86F;21LESS SHA=A86E;16WA=A853;16XA=A863;16YA=A857;16ZA=A855
PHAGS-PA LETTER ZHA=A854;09MARK DOUBLE SHAD=A877;14SHAD=A876;09SINGLE HEAD MARK=A874
PHAGS-PA SUBJOINED LETTER RA=A871;26WA=A867;26YA=A868;11PERFIXED LETTER RA=A872
PHAISTOS DISC SIGN ARROW=101D9;19BEE=101F1;22HIVE=101E7;20OOMERANG=101E1;21W=101DA
PHAISTOS DISC SIGN BULLS LEG=101EB;19CAPTIVE=101D3;21RPENTRY PLANE=101E2;21T=101EC;20HILD=101D4
PHAISTOS DISC SIGN CLUB=101DC;20OLUMN=101E6;21MB=101E4;23INING OBLIQUE STROKE=101FD;19DOLIUM=101E3
PHAISTOS DISC SIGN DOVE=101EF;19EAGLE=101EE;19FLUTE=101F8;19GAUNTLET=101D7;20RATER=101F9
PHAISTOS DISC SIGN HELMET=101D6;20IDE=101EA;20ORN=101E9;19LID=101E0;21LY=101F6;19MANACLES=101DD
PHAISTOS DISC SIGN MATTOCK=101DE;19OX BACK=101F7;19PAPYRUS=101F4;20EDESTRIAN=101D0
PHAISTOS DISC SIGN PLANE TREE=101F2;21UMED HEAD=101D1;19RAM=101ED;20OSETTE=101F5;19SAW=101DF
PHAISTOS DISC SIGN SHIELD=101DB;22P=101E8;20LING=101E5;20MALL AXE=101FB;20TRAINER=101FA
PHAISTOS DISC SIGN TATTOOED HEAD=101D2;20IARA=101D8;20UNNY=101F0;19VINE=101F3;19WAVY BAND=101FC"

end Foldline.Text.CharacterName
