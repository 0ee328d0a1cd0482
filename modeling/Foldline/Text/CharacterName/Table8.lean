/-! # Character names, part 8 of 8

The names from TAKRI LETTER PHA on,
in the notation of `CharacterName`. -/

namespace Foldline.Text.CharacterName

/-- Rows of names. -/
def rows8 : String := "
TAKRI LETTER PHA=1169F;13RA=116A4;14RA=116AA;13SA=116A8;14HA=116A7;13TA=11699;14HA=1169A
TAKRI LETTER TTA=11694;15HA=11695;13U=11684;14U=11685;13VA=116A6;13YA=116A3;06SIGN ANUSVARA=116AB
TAKRI SIGN NUKTA=116B7;11VIRAMA=116B6;13SARGA=116AC;06VOWEL SIGN AA=116AD;18I=116B3;18U=116B5
TAKRI VOWEL SIGN E=116B2;17I=116AE;18I=116AF;17O=116B4;17U=116B0;18U=116B1;02LLY MARK FIVE=1D378
TALLY MARK ONE=1D377;02MALE=1FAD4;03IL AND ODD SIGN=11FEB;07S ABOVE SIGN=BF8;07U LENGTH MARK=BD7
TAMIL CREDIT SIGN=BF7;07URRENT SIGN=11FEA;06DAY SIGN=BF3;07EBIT SIGN=BF6;07IGIT EIGHT=BEE
TAMIL DIGIT FIVE=BEB;13OUR=BEA;12NINE=BEF;12ONE=BE7;12SEVEN=BED;13IX=BEC;12THREE=BE9;13WO=BE8
TAMIL DIGIT ZERO=BE6;07RY CULTIVATION SIGN=11FE5;06FRACTION DOWNSCALING FACTOR KIIZH=11FD4
TAMIL FRACTION ONE EIGHTH=11FCC;24IETH=11FC2;19FIFTH=11FCF;20ORTIETH=11FC4;19HALF-1=11FD1
TAMIL FRACTION ONE HALF-2=11FD2;19ONE-HUNDRED-AND-SIXTIETH=11FC1;19QUARTER=11FD0
TAMIL FRACTION ONE SIXTEENTH-1=11FC9;292=11FCA;23Y-FOURTH=11FC3;19TENTH=11FCB;20HIRTY-SECOND=11FC5
TAMIL FRACTION ONE THREE-HUNDRED-AND-TWENTIETH=11FC0;20WENTIETH=11FC8;15THREE EIGHTIETHS=11FC6
TAMIL FRACTION THREE QUARTERS=11FD3;21SIXTEENTHS=11FCE;25Y-FOURTHS=11FC7;21TWENTIETHS=11FCD
TAMIL IN POSSESSION SIGN=11FEE;06LAND SIGN=11FE6;07ETTER A=B85;14A=B86;14I=B90;14U=B94;13CA=B9A
TAMIL LETTER E=B8E;14E=B8F;13HA=BB9;13I=B87;14I=B88;13JA=B9C;13KA=B95;13LA=BB2;14LA=BB3;15LA=BB4
TAMIL LETTER MA=BAE;13NA=BA8;14GA=B99;14NA=BA3;15NA=BA9;14YA=B9E;13O=B92;14O=B93;13PA=BAA;13RA=BB0
TAMIL LETTER RRA=BB1;13SA=BB8;14HA=BB6;14SA=BB7;13TA=BA4;14TA=B9F;13U=B89;14U=B8A;13VA=BB5
TAMIL LETTER YA=BAF;06MONTH SIGN=BF4;06NUMBER ONE HUNDRED=BF1;17THOUSAND=BF2;13SIGN=BFA;13TEN=BF0
TAMIL OM=BD0;06PUNCTUATION END OF TEXT=11FFF;06RUPEE SIGN=BF9;06SALT PAN SIGN=11FE7
TAMIL SIGN AAZHAAKKU=11FD7;12NUSVARA=B82;11CEVITU=11FD6;11KAACU=11FDD;12URUNI=11FDA;13ZHI=11FE2
TAMIL SIGN MUKKURUNI=11FDC;13THALIYA=11FF0;13UVUZHAKKU=11FD9;11NEL=11FD5;11PAARAM=11FE1
TAMIL SIGN PANAM=11FDE;13THAKKU=11FDB;12ON=11FDF;11UZHAKKU=11FD8;11VAKAIYARAA=11FF1;13RAAKAN=11FE0
TAMIL SIGN VELI=11FE3;12IRAMA=BCD;13SARGA=B83;07PENT SIGN=11FEC;07TARTING FROM SIGN=11FEF
TAMIL TOTAL SIGN=11FED;07RADITIONAL CREDIT SIGN=11FE8;18NUMBER SIGN=11FE9;06VOWEL SIGN AA=BBE
TAMIL VOWEL SIGN AI=BC8;18U=BCC;17E=BC6;18E=BC7;17I=BBF;18I=BC0;17O=BCA;18O=BCB;17U=BC1;18U=BC2
TAMIL WET CULTIVATION SIGN=11FE4;06YEAR SIGN=BF5;02NABATA TREE=1F38B;03GERINE=1F34A
TANGSA DIGIT EIGHT=16AC8;13FIVE=16AC5;14OUR=16AC4;13NINE=16AC9;13ONE=16AC1;13SEVEN=16AC7
TANGSA DIGIT SIX=16AC6;13THREE=16AC3;14WO=16AC2;13ZERO=16AC0;07LETTER AC=16A75;15Q=16A76
TANGSA LETTER AWC=16A89;16Q=16A8A;16X=16A8B;16Z=16A88;15X=16A77;15Z=16A74;14BA=16AAA;14CA=16AB5
TANGSA LETTER CHA=16ABD;14DA=16AB1;15HA=16ABC;14EC=16A7D;15Q=16A7E;15X=16A7F;15Z=16A7C;14FA=16ABB
TANGSA LETTER FINAL NG=16A90;14GA=16AA2;15HA=16AB7;14HA=16AAD;15TA=16AAF;16TA=16AB8;14IC=16A81
TANGSA LETTER IQ=16A82;15X=16A83;15Z=16A80;14KA=16AA0;15HA=16AA1;14LA=16AAE;15ONG UEX=16A91
TANGSA LETTER MA=16AAB;15C=16A9D;15Q=16A9E;15X=16A9F;15Z=16A9C;14NA=16AAC;15GA=16AA3;15HA=16AB3
TANGSA LETTER NYA=16AA8;14OC=16A71;15Q=16A72;15X=16A73;15Z=16A70;14PA=16AA7;15HA=16AA9;14RA=16AB2
TANGSA LETTER SA=16AA4;15HA=16AB4;16ORT AWX=16A93;20UEZ=16A92;14TA=16AB0;15HA=16AB9;15SA=16AB6
TANGSA LETTER UC=16A85;15EC=16A94;16Q=16A96;16X=16A97;16Z=16A95;15IC=16A8D;16Q=16A8E;16UC=16A99
TANGSA LETTER UIUQ=16A9A;17X=16A9B;17Z=16A98;16X=16A8F;16Z=16A8C;15Q=16A86;15X=16A87;15Z=16A84
TANGSA LETTER VC=16A79;15Q=16A7A;15X=16A7B;15Z=16A78;14WA=16AA6;14XA=16ABA;14YA=16AA5;14ZA=16ABE
TANGUT COMPONENT-001=18800;192=18801;193=18802;194=18803;195=18804;196=18805;197=18806;198=18807
TANGUT COMPONENT-009=18808;1810=18809;191=1880A;192=1880B;193=1880C;194=1880D;195=1880E;196=1880F
TANGUT COMPONENT-017=18810;198=18811;199=18812;1820=18813;191=18814;192=18815;193=18816;194=18817
TANGUT COMPONENT-025=18818;196=18819;197=1881A;198=1881B;199=1881C;1830=1881D;191=1881E;192=1881F
TANGUT COMPONENT-033=18820;194=18821;195=18822;196=18823;197=18824;198=18825;199=18826;1840=18827
TANGUT COMPONENT-041=18828;192=18829;193=1882A;194=1882B;195=1882C;196=1882D;197=1882E;198=1882F
TANGUT COMPONENT-049=18830;1850=18831;191=18832;192=18833;193=18834;194=18835;195=18836;196=18837
TANGUT COMPONENT-057=18838;198=18839;199=1883A;1860=1883B;191=1883C;192=1883D;193=1883E;194=1883F
TANGUT COMPONENT-065=18840;196=18841;197=18842;198=18843;199=18844;1870=18845;191=18846;192=18847
TANGUT COMPONENT-073=18848;194=18849;195=1884A;196=1884B;197=1884C;198=1884D;199=1884E;1880=1884F
TANGUT COMPONENT-081=18850;192=18851;193=18852;194=18853;195=18854;196=18855;197=18856;198=18857
TANGUT COMPONENT-089=18858;1890=18859;191=1885A;192=1885B;193=1885C;194=1885D;195=1885E;196=1885F
TANGUT COMPONENT-097=18860;198=18861;199=18862;17100=18863;191=18864;192=18865;193=18866;194=18867
TANGUT COMPONENT-105=18868;196=18869;197=1886A;198=1886B;199=1886C;1810=1886D;191=1886E;192=1886F
TANGUT COMPONENT-113=18870;194=18871;195=18872;196=18873;197=18874;198=18875;199=18876;1820=18877
TANGUT COMPONENT-121=18878;192=18879;193=1887A;194=1887B;195=1887C;196=1887D;197=1887E;198=1887F
TANGUT COMPONENT-129=18880;1830=18881;191=18882;192=18883;193=18884;194=18885;195=18886;196=18887
TANGUT COMPONENT-137=18888;198=18889;199=1888A;1840=1888B;191=1888C;192=1888D;193=1888E;194=1888F
TANGUT COMPONENT-145=18890;196=18891;197=18892;198=18893;199=18894;1850=18895;191=18896;192=18897
TANGUT COMPONENT-153=18898;194=18899;195=1889A;196=1889B;197=1889C;198=1889D;199=1889E;1860=1889F
TANGUT COMPONENT-161=188A0;192=188A1;193=188A2;194=188A3;195=188A4;196=188A5;197=188A6;198=188A7
TANGUT COMPONENT-169=188A8;1870=188A9;191=188AA;192=188AB;193=188AC;194=188AD;195=188AE;196=188AF
TANGUT COMPONENT-177=188B0;198=188B1;199=188B2;1880=188B3;191=188B4;192=188B5;193=188B6;194=188B7
TANGUT COMPONENT-185=188B8;196=188B9;197=188BA;198=188BB;199=188BC;1890=188BD;191=188BE;192=188BF
TANGUT COMPONENT-193=188C0;194=188C1;195=188C2;196=188C3;197=188C4;198=188C5;199=188C6;17200=188C7
TANGUT COMPONENT-201=188C8;192=188C9;193=188CA;194=188CB;195=188CC;196=188CD;197=188CE;198=188CF
TANGUT COMPONENT-209=188D0;1810=188D1;191=188D2;192=188D3;193=188D4;194=188D5;195=188D6;196=188D7
TANGUT COMPONENT-217=188D8;198=188D9;199=188DA;1820=188DB;191=188DC;192=188DD;193=188DE;194=188DF
TANGUT COMPONENT-225=188E0;196=188E1;197=188E2;198=188E3;199=188E4;1830=188E5;191=188E6;192=188E7
TANGUT COMPONENT-233=188E8;194=188E9;195=188EA;196=188EB;197=188EC;198=188ED;199=188EE;1840=188EF
TANGUT COMPONENT-241=188F0;192=188F1;193=188F2;194=188F3;195=188F4;196=188F5;197=188F6;198=188F7
TANGUT COMPONENT-249=188F8;1850=188F9;191=188FA;192=188FB;193=188FC;194=188FD;195=188FE;196=188FF
TANGUT COMPONENT-257=18900;198=18901;199=18902;1860=18903;191=18904;192=18905;193=18906;194=18907
TANGUT COMPONENT-265=18908;196=18909;197=1890A;198=1890B;199=1890C;1870=1890D;191=1890E;192=1890F
TANGUT COMPONENT-273=18910;194=18911;195=18912;196=18913;197=18914;198=18915;199=18916;1880=18917
TANGUT COMPONENT-281=18918;192=18919;193=1891A;194=1891B;195=1891C;196=1891D;197=1891E;198=1891F
TANGUT COMPONENT-289=18920;1890=18921;191=18922;192=18923;193=18924;194=18925;195=18926;196=18927
TANGUT COMPONENT-297=18928;198=18929;199=1892A;17300=1892B;191=1892C;192=1892D;193=1892E;194=1892F
TANGUT COMPONENT-305=18930;196=18931;197=18932;198=18933;199=18934;1810=18935;191=18936;192=18937
TANGUT COMPONENT-313=18938;194=18939;195=1893A;196=1893B;197=1893C;198=1893D;199=1893E;1820=1893F
TANGUT COMPONENT-321=18940;192=18941;193=18942;194=18943;195=18944;196=18945;197=18946;198=18947
TANGUT COMPONENT-329=18948;1830=18949;191=1894A;192=1894B;193=1894C;194=1894D;195=1894E;196=1894F
TANGUT COMPONENT-337=18950;198=18951;199=18952;1840=18953;191=18954;192=18955;193=18956;194=18957
TANGUT COMPONENT-345=18958;196=18959;197=1895A;198=1895B;199=1895C;1850=1895D;191=1895E;192=1895F
TANGUT COMPONENT-353=18960;194=18961;195=18962;196=18963;197=18964;198=18965;199=18966;1860=18967
TANGUT COMPONENT-361=18968;192=18969;193=1896A;194=1896B;195=1896C;196=1896D;197=1896E;198=1896F
TANGUT COMPONENT-369=18970;1870=18971;191=18972;192=18973;193=18974;194=18975;195=18976;196=18977
TANGUT COMPONENT-377=18978;198=18979;199=1897A;1880=1897B;191=1897C;192=1897D;193=1897E;194=1897F
TANGUT COMPONENT-385=18980;196=18981;197=18982;198=18983;199=18984;1890=18985;191=18986;192=18987
TANGUT COMPONENT-393=18988;194=18989;195=1898A;196=1898B;197=1898C;198=1898D;199=1898E;17400=1898F
TANGUT COMPONENT-401=18990;192=18991;193=18992;194=18993;195=18994;196=18995;197=18996;198=18997
TANGUT COMPONENT-409=18998;1810=18999;191=1899A;192=1899B;193=1899C;194=1899D;195=1899E;196=1899F
TANGUT COMPONENT-417=189A0;198=189A1;199=189A2;1820=189A3;191=189A4;192=189A5;193=189A6;194=189A7
TANGUT COMPONENT-425=189A8;196=189A9;197=189AA;198=189AB;199=189AC;1830=189AD;191=189AE;192=189AF
TANGUT COMPONENT-433=189B0;194=189B1;195=189B2;196=189B3;197=189B4;198=189B5;199=189B6;1840=189B7
TANGUT COMPONENT-441=189B8;192=189B9;193=189BA;194=189BB;195=189BC;196=189BD;197=189BE;198=189BF
TANGUT COMPONENT-449=189C0;1850=189C1;191=189C2;192=189C3;193=189C4;194=189C5;195=189C6;196=189C7
TANGUT COMPONENT-457=189C8;198=189C9;199=189CA;1860=189CB;191=189CC;192=189CD;193=189CE;194=189CF
TANGUT COMPONENT-465=189D0;196=189D1;197=189D2;198=189D3;199=189D4;1870=189D5;191=189D6;192=189D7
TANGUT COMPONENT-473=189D8;194=189D9;195=189DA;196=189DB;197=189DC;198=189DD;199=189DE;1880=189DF
TANGUT COMPONENT-481=189E0;192=189E1;193=189E2;194=189E3;195=189E4;196=189E5;197=189E6;198=189E7
TANGUT COMPONENT-489=189E8;1890=189E9;191=189EA;192=189EB;193=189EC;194=189ED;195=189EE;196=189EF
TANGUT COMPONENT-497=189F0;198=189F1;199=189F2;17500=189F3;191=189F4;192=189F5;193=189F6;194=189F7
TANGUT COMPONENT-505=189F8;196=189F9;197=189FA;198=189FB;199=189FC;1810=189FD;191=189FE;192=189FF
TANGUT COMPONENT-513=18A00;194=18A01;195=18A02;196=18A03;197=18A04;198=18A05;199=18A06;1820=18A07
TANGUT COMPONENT-521=18A08;192=18A09;193=18A0A;194=18A0B;195=18A0C;196=18A0D;197=18A0E;198=18A0F
TANGUT COMPONENT-529=18A10;1830=18A11;191=18A12;192=18A13;193=18A14;194=18A15;195=18A16;196=18A17
TANGUT COMPONENT-537=18A18;198=18A19;199=18A1A;1840=18A1B;191=18A1C;192=18A1D;193=18A1E;194=18A1F
TANGUT COMPONENT-545=18A20;196=18A21;197=18A22;198=18A23;199=18A24;1850=18A25;191=18A26;192=18A27
TANGUT COMPONENT-553=18A28;194=18A29;195=18A2A;196=18A2B;197=18A2C;198=18A2D;199=18A2E;1860=18A2F
TANGUT COMPONENT-561=18A30;192=18A31;193=18A32;194=18A33;195=18A34;196=18A35;197=18A36;198=18A37
TANGUT COMPONENT-569=18A38;1870=18A39;191=18A3A;192=18A3B;193=18A3C;194=18A3D;195=18A3E;196=18A3F
TANGUT COMPONENT-577=18A40;198=18A41;199=18A42;1880=18A43;191=18A44;192=18A45;193=18A46;194=18A47
TANGUT COMPONENT-585=18A48;196=18A49;197=18A4A;198=18A4B;199=18A4C;1890=18A4D;191=18A4E;192=18A4F
TANGUT COMPONENT-593=18A50;194=18A51;195=18A52;196=18A53;197=18A54;198=18A55;199=18A56;17600=18A57
TANGUT COMPONENT-601=18A58;192=18A59;193=18A5A;194=18A5B;195=18A5C;196=18A5D;197=18A5E;198=18A5F
TANGUT COMPONENT-609=18A60;1810=18A61;191=18A62;192=18A63;193=18A64;194=18A65;195=18A66;196=18A67
TANGUT COMPONENT-617=18A68;198=18A69;199=18A6A;1820=18A6B;191=18A6C;192=18A6D;193=18A6E;194=18A6F
TANGUT COMPONENT-625=18A70;196=18A71;197=18A72;198=18A73;199=18A74;1830=18A75;191=18A76;192=18A77
TANGUT COMPONENT-633=18A78;194=18A79;195=18A7A;196=18A7B;197=18A7C;198=18A7D;199=18A7E;1840=18A7F
TANGUT COMPONENT-641=18A80;192=18A81;193=18A82;194=18A83;195=18A84;196=18A85;197=18A86;198=18A87
TANGUT COMPONENT-649=18A88;1850=18A89;191=18A8A;192=18A8B;193=18A8C;194=18A8D;195=18A8E;196=18A8F
TANGUT COMPONENT-657=18A90;198=18A91;199=18A92;1860=18A93;191=18A94;192=18A95;193=18A96;194=18A97
TANGUT COMPONENT-665=18A98;196=18A99;197=18A9A;198=18A9B;199=18A9C;1870=18A9D;191=18A9E;192=18A9F
TANGUT COMPONENT-673=18AA0;194=18AA1;195=18AA2;196=18AA3;197=18AA4;198=18AA5;199=18AA6;1880=18AA7
TANGUT COMPONENT-681=18AA8;192=18AA9;193=18AAA;194=18AAB;195=18AAC;196=18AAD;197=18AAE;198=18AAF
TANGUT COMPONENT-689=18AB0;1890=18AB1;191=18AB2;192=18AB3;193=18AB4;194=18AB5;195=18AB6;196=18AB7
TANGUT COMPONENT-697=18AB8;198=18AB9;199=18ABA;17700=18ABB;191=18ABC;192=18ABD;193=18ABE;194=18ABF
TANGUT COMPONENT-705=18AC0;196=18AC1;197=18AC2;198=18AC3;199=18AC4;1810=18AC5;191=18AC6;192=18AC7
TANGUT COMPONENT-713=18AC8;194=18AC9;195=18ACA;196=18ACB;197=18ACC;198=18ACD;199=18ACE;1820=18ACF
TANGUT COMPONENT-721=18AD0;192=18AD1;193=18AD2;194=18AD3;195=18AD4;196=18AD5;197=18AD6;198=18AD7
TANGUT COMPONENT-729=18AD8;1830=18AD9;191=18ADA;192=18ADB;193=18ADC;194=18ADD;195=18ADE;196=18ADF
TANGUT COMPONENT-737=18AE0;198=18AE1;199=18AE2;1840=18AE3;191=18AE4;192=18AE5;193=18AE6;194=18AE7
TANGUT COMPONENT-745=18AE8;196=18AE9;197=18AEA;198=18AEB;199=18AEC;1850=18AED;191=18AEE;192=18AEF
TANGUT COMPONENT-753=18AF0;194=18AF1;195=18AF2;196=18AF3;197=18AF4;198=18AF5;199=18AF6;1860=18AF7
TANGUT COMPONENT-761=18AF8;192=18AF9;193=18AFA;194=18AFB;195=18AFC;196=18AFD;197=18AFE;198=18AFF
TANGUT ITERATION MARK=16FE0;02PE CARTRIDGE=1F5AD;05DRIVE=2707;02URUS=2649;02XI=1F695
TEACUP WITHOUT HANDLE=1F375;03POT=1FAD6;03R-OFF CALENDAR=1F4C6;04DROP-BARBED RIGHTWARDS ARROW=27BA
TEARDROP-SPOKED ASTERISK=273B;02DDY BEAR=1F9F8;02LEPHONE LOCATION SIGN=2706
TELEPHONE ON TOP OF MODEM=1F580;10RECEIVER WITH PAGE=1F57C;18=1F4DE;13ORDER=2315;10SIGN=2121
TELESCOPE=1F52D;04VISION=1F4FA;03UGU AI LENGTH MARK=C56;07DIGIT EIGHT=C6E;13FIVE=C6B;14OUR=C6A
TELUGU DIGIT NINE=C6F;13ONE=C67;13SEVEN=C6D;14IX=C6C;13THREE=C69;14WO=C68;13ZERO=C66
TELUGU FRACTION DIGIT ONE FOR EVEN POWERS OF FOUR=C7C;30ODD POWERS OF FOUR=C79
TELUGU FRACTION DIGIT THREE FOR EVEN POWERS OF FOUR=C7E;32ODD POWERS OF FOUR=C7B
TELUGU FRACTION DIGIT TWO FOR EVEN POWERS OF FOUR=C7D;30ODD POWERS OF FOUR=C7A
TELUGU FRACTION DIGIT ZERO FOR ODD POWERS OF FOUR=C78;07LENGTH MARK=C55;09TTER A=C05;15A=C06
TELUGU LETTER AI=C10;15U=C14;14BA=C2C;15HA=C2D;14CA=C1A;15HA=C1B;14DA=C26;15DA=C21;16HA=C22
TELUGU LETTER DHA=C27;15ZA=C59;14E=C0E;15E=C0F;14GA=C17;15HA=C18;14HA=C39;14I=C07;15I=C08;14JA=C1C
TELUGU LETTER JHA=C1D;14KA=C15;15HA=C16;14LA=C32;15LA=C33;16LA=C34;14MA=C2E;14NA=C28
TELUGU LETTER NAKAARA POLLU=C5D;15GA=C19;15NA=C23;15YA=C1E;14O=C12;15O=C13;14PA=C2A;15HA=C2B
TELUGU LETTER RA=C30;15RA=C31;16RA=C5A;14SA=C38;15HA=C36;15SA=C37;14TA=C24;15HA=C25;15SA=C58
TELUGU LETTER TTA=C1F;16HA=C20;14U=C09;15U=C0A;14VA=C35;15OCALIC L=C0C;23L=C61;22R=C0B;23R=C60
TELUGU LETTER YA=C2F;07SIGN ANUSVARA=C02;13VAGRAHA=C3D;12CANDRABINDU=C01
TELUGU SIGN COMBINING ANUSVARA ABOVE=C04;22CANDRABINDU ABOVE=C00;12NUKTA=C3C;12SIDDHAM=C77
TELUGU SIGN TUUMU=C7F;12VIRAMA=C4D;14SARGA=C03;07VOWEL SIGN AA=C3E;19I=C48;19U=C4C;18E=C46;19E=C47
TELUGU VOWEL SIGN I=C3F;19I=C40;18O=C4A;19O=C4B;18U=C41;19U=C42;18VOCALIC L=C62;27L=C63;26R=C43
TELUGU VOWEL SIGN VOCALIC RR=C44;02NGE SIGN=20B8;03NIS RACQUET AND BALL=1F3BE;03T=26FA
TEST TUBE=1F9EA;02TRAGRAM FOR ACCUMULATION=1D341;15DVANCE=1D319;15GGRAVATION=1D351;15SCENT=1D30C
TETRAGRAM FOR BARRIER=1D309;15OLD RESOLUTION=1D323;15RANCHING OUT=1D30E;14CENTRE=1D306
TETRAGRAM FOR CHANGE=1D321;15LOSED MOUTH=1D33D;19NESS=1D326;18URE=1D34F;15OMPLETION=1D34E
TETRAGRAM FOR COMPLIANCE=1D352;16NSTANCY=1D338;17TACT=1D315;18ENTION=1D31E;18RARIETY=1D30B
TETRAGRAM FOR DARKENING=1D348;15ECISIVENESS=1D322;16FECTIVENESS OR DISTORTION=1D30F
TETRAGRAM FOR DEPARTURE=1D347;15IFFICULTIES=1D354;16MINISHMENT=1D33C;17MING=1D349;16VERGENCE=1D310
TETRAGRAM FOR DOUBT=1D343;15UTIES=1D320;14EASE=1D31C;15MBELLISHMENT=1D342;15NCOUNTERS=1D330
TETRAGRAM FOR ENDEAVOUR=1D31F;16LARGEMENT=1D333;15TERNITY=1D33A;15XHAUSTION=1D34A;14FAILURE=1D350
TETRAGRAM FOR FLIGHT=1D336;15OLLOWING=1D318;16STERING=1D356;15ULL CIRCLE=1D307;18NESS=1D32B
TETRAGRAM FOR GATHERING IN=1D33F;23=1D328;15OING TO MEET=1D32F;15REATNESS=1D332;15UARDEDNESS=1D33E
TETRAGRAM FOR HARDNESS=1D34D;15OLDING BACK=1D316;14INCREASE=1D312;16NER=1D346;14JOY=1D31D
TETRAGRAM FOR KEEPING SMALL=1D30A;15INSHIP=1D327;14LABOURING=1D355;16W OR MODEL=1D32D
TETRAGRAM FOR LEGION=1D325;14MASSING=1D340;15EASURE=1D339;15IRED=1D308;14ON THE VERGE=1D353
TETRAGRAM FOR OPPOSITION=1D30D;14PACKING=1D324;16TTERN=1D334;15ENETRATION=1D313;15URITY=1D32A
TETRAGRAM FOR REACH=1D314;16LEASE=1D31A;16SIDENCE=1D32C;18STANCE=1D31B;17PONSE=1D32E;15ITUAL=1D335
TETRAGRAM FOR SEVERANCE=1D34B;15INKING=1D345;15TOPPAGE=1D34C;17VE=1D331;16RENGTH=1D329
TETRAGRAM FOR UNITY=1D33B;14VASTNESS OR WASTING=1D337;14WAITING=1D317;16TCH=1D344
TETRAGRAM FOR YOUTHFULNESS=1D311;01HAANA AABAAFILI=7A7;08BAFILI=7A6;07EBEFILI=7AC;08EBEEFILI=7A9
THAANA EYBEYFILI=7AD;07IBIFILI=7A8;07LETTER AINU=7A2;15LIFU=787;14BAA=784;14CHAVIYANI=797
THAANA LETTER DAADHU=79F;16VIYANI=791;15HAALU=78B;14FAAFU=78A;14GAAFU=78E;15HAINU=7A3
THAANA LETTER GNAVIYANI=78F;14HAA=780;15HAA=799;14JAVIYANI=796;14KAAFU=786;15HAA=79A;14LAAMU=78D
THAANA LETTER LHAVIYANI=785;14MEEMU=789;14NAA=7B1;15OONU=782;14PAVIYANI=795;14QAAFU=7A4;14RAA=783
THAANA LETTER SAADHU=79E;15EENU=790;15HAVIYANI=781;16EENU=79D;14TAVIYANI=793;15HAA=78C;18LU=79B
THAANA LETTER TO=7A0;15TAA=798;14VAAVU=788;14WAAVU=7A5;14YAA=794;14ZAA=79C;16VIYANI=792;15O=7A1
THAANA OABOAFILI=7AF;08BOFILI=7AE;08OBOOFILI=7AB;07SUKUN=7B0;07UBUFILI=7AA
THAI CHARACTER ANGKHANKHU=E5A;15BO BAIMAI=E1A;15CHO CHAN=E08;23G=E0A;21ING=E09;21OE=E0C
THAI CHARACTER DO CHADA=E0E;18DEK=E14;15FO FA=E1D;20N=E1F;17NGMAN=E4F;15HO HIP=E2B;18NOKHUK=E2E
THAI CHARACTER KHO KHAI=E02;21ON=E05;21UAT=E03;21WAI=E04;19RAKHANG=E06;18MUT=E5B;16O KAI=E01
THAI CHARACTER LAKKHANGYAO=E45;16O CHULA=E2C;18LING=E25;16U=E26;15MAI CHATTAWA=E4B;19EK=E48
THAI CHARACTER MAI HAN-AKAT=E31;19THO=E49;20RI=E4A;18TAIKHU=E47;18YAMOK=E46;16O MA=E21
THAI CHARACTER NGO NGU=E07;16IKHAHIT=E4D;16O NEN=E13;19U=E19;15O ANG=E2D;15PAIYANNOI=E2F
THAI CHARACTER PHINTHU=E3A;17O PHAN=E1E;21UNG=E1C;19SAMPHAO=E20;16O PLA=E1B;15RO RUA=E23;16U=E24
THAI CHARACTER SARA A=E30;21A=E32;21E=E41;21I MAIMALAI=E44;27UAN=E43;21M=E33;20E=E40;20I=E34
THAI CHARACTER SARA II=E35;20O=E42;20U=E38;21E=E36;22E=E37;21U=E39;16O RUSI=E29;18SALA=E28;19O=E0B
THAI CHARACTER SO SUA=E2A;15THANTHAKHAT=E4C;17O NANGMONTHO=E11;19PHUTHAO=E12;19THAHAN=E17;22N=E10
THAI CHARACTER THO THONG=E18;21UNG=E16;16O PATAK=E0F;18TAO=E15;15WO WAEN=E27;15YAMAKKAN=E4E
THAI CHARACTER YO YAK=E22;19ING=E0D;06URRENCY SYMBOL BAHT=E3F;05DIGIT EIGHT=E58;11FIVE=E55
THAI DIGIT FOUR=E54;11NINE=E59;11ONE=E51;11SEVEN=E57;12IX=E56;11THREE=E53;12WO=E52;11ZERO=E50
THERE DOES NOT EXIST=2204;06EXISTS=2203;05FORE=2234;04MODYNAMIC=29E7;06METER=1F321
THIN GREEK CROSS=1F7A1;05SALTIRE=1F7A8;06PACE=2009;04KING FACE=1F914;03RD PLACE MEDAL=1F949
THONG SANDAL=1FA74;03UGHT BALLOON=1F4AD;02REE BUTTON MOUSE=1F5B1;06CONSECUTIVE EQUALS SIGNS=2A76
THREE DIMENSIONAL ANGLE=27C0;07OT PUNCTUATION=2056;06LEFTWARDS ARROWS=2B31
THREE LINES CONVERGING LEFT=269F;23RIGHT=269E;06NETWORKED COMPUTERS=1F5A7
THREE POINTED BLACK STAR=1F7C2;06RAYS ABOVE=1F5E4;11BELOW=1F5E5;11LEFT=1F5E6;11RIGHT=1F5E7
THREE RIGHTWARDS ARROWS=21F6;06SPEECH BUBBLES=1F5EB;05-D BOTTOM-LIGHTED RIGHTWARDS ARROWHEAD=27A3
THREE-D LEFT-LIGHTED DOWNWARDS EQUILATERAL ARROWHEAD=2B9B
THREE-D RIGHT-LIGHTED UPWARDS EQUILATERAL ARROWHEAD=2B99
THREE-D TOP-LIGHTED LEFTWARDS EQUILATERAL ARROWHEAD=2B98;20RIGHTWARDS ARROWHEAD=27A2
THREE-D TOP-LIGHTED RIGHTWARDS EQUILATERAL ARROWHEAD=2B9A;06EM DASH=2E3B;06PER-EM SPACE=2004
THUMBS DOWN SIGN=1F44E;07UP SIGN=1F44D;03NDER CLOUD AND RAIN=26C8;07STORM=2608
TIBETAN ASTROLOGICAL SIGN -KHYUD PA=F18;26SDONG TSHUGS=F19;27GRA GCAN -CHAR RTAGS=F17
TIBETAN CANTILLATION SIGN CANG TE-U=FC2;26HEAVY BEAT=FC0;26LIGHT BEAT=FC1;26SBUB -CHAL=FC3
TIBETAN DIGIT EIGHT=F28;14FIVE=F25;15OUR=F24;14HALF EIGHT=F31;19FIVE=F2E;20OUR=F2D;19NINE=F32
TIBETAN DIGIT HALF ONE=F2A;19SEVEN=F30;20IX=F2F;19THREE=F2C;20WO=F2B;19ZERO=F33;14NINE=F29
TIBETAN DIGIT ONE=F21;14SEVEN=F27;15IX=F26;14THREE=F23;15WO=F22;14ZERO=F20
TIBETAN KU RU KHA BZHI MIG CAN=FBF;17=FBE;08LETTER -A=F60;15A=F68;15BA=F56;16HA=F57;15CA=F45
TIBETAN LETTER CHA=F46;15DA=F51;16DA=F4C;17HA=F4D;16HA=F52;16ZA=F5B;17HA=F5C;15FIXED-FORM RA=F6A
TIBETAN LETTER GA=F42;16HA=F43;15HA=F67;15JA=F47;15KA=F40;16HA=F41;16KA=F6B;16SSA=F69;15LA=F63
TIBETAN LETTER MA=F58;15NA=F53;16GA=F44;16NA=F4E;16YA=F49;15PA=F54;16HA=F55;15RA=F62;16RA=F6C
TIBETAN LETTER SA=F66;16HA=F64;16SA=F65;15TA=F4F;16HA=F50;16SA=F59;17HA=F5A;16TA=F4A;17HA=F4B
TIBETAN LETTER WA=F5D;15YA=F61;15ZA=F5F;16HA=F5E;09OGOTYPE SIGN CHAD RTAGS=F15;22LHAG RTAGS=F16
TIBETAN MARK ANG KHANG GYAS=F3D;25ON=F3C;13BKA- SHOG GI MGO RGYAN=FD0;23YIG MGO=F0A
TIBETAN MARK BSDUS RTAGS=F34;15KA- SHOG GI MGO RGYAN=FD0;16UR YIG MGO=F09
TIBETAN MARK CARET -DZUD RTAGS BZHI MIG CAN=F36;31ME LONG CAN=F13;19YIG MGO PHUR SHAD MA=F06
TIBETAN MARK CHE MGO=F38;14LOSING BRDA RNYING YIG MGO SGAB MA=FD4;21YIG MGO SGAB MA=F05
TIBETAN MARK DELIMITER TSHEG BSTAR=F0C;13GTER TSHEG=F14;18YIG MGO -UM GTER TSHEG MA=F03
TIBETAN MARK GTER YIG MGO -UM RNAM BCAD MA=F02;26TRUNCATED A=F01;14UG RTAGS GYAS=F3B;25ON=F3A
TIBETAN MARK HALANTA=F84;13INITIAL BRDA RNYING YIG MGO MDUN MA=FD3;21YIG MGO MDUN MA=F04
TIBETAN MARK INTERSYLLABIC TSHEG=F0B;13LEADING MCHAN RTAGS=FD9;13MNYAM YIG GI MGO RGYAN=FD1
TIBETAN MARK NGAS BZUNG NYI ZLA=F35;24SGOR RTAGS=F37;14YIS SHAD=F0E;18TSHEG SHAD=F10;23=FD2
TIBETAN MARK PALUTA=F85;13RGYA GRAM SHAD=F12;14IN CHEN SPUNGS SHAD=F11;13SBRUL SHAD=F08;14HAD=F0D
TIBETAN MARK TRAILING MCHAN RTAGS=FDA;14SA -PHRU=F39;15HEG SHAD=F0F;13YIG MGO TSHEG SHAD MA=F07
TIBETAN SIGN GRU CAN RGYINGS=F8A;17MED RGYINGS=F8B;13INVERTED MCHU CAN=F8C;13LCE TSA CAN=F88
TIBETAN SIGN LCI RTAGS=F86;13MAR TSHES=F3F;14CHU CAN=F89;13NYI ZLA NAA DA=F82;13RDEL DKAR GCIG=F1A
TIBETAN SIGN RDEL DKAR GNYIS=F1B;24SUM=F1C;23RDEL NAG=F1F;18NAG GCIG=F1D;23NYIS=F1E;23SUM=FCF
TIBETAN SIGN RDEL NAG RDEL DKAR=FCE;14JES SU NGA RO=F7E;14NAM BCAD=F7F;13SNA LDAN=F83
TIBETAN SIGN YANG RTAGS=F87;15R TSHES=F3E;09UBJOINED LETTER -A=FB0;25A=FB8;25BA=FA6;26HA=FA7
TIBETAN SUBJOINED LETTER CA=F95;26HA=F96;25DA=FA1;26DA=F9C;27HA=F9D;26HA=FA2;26ZA=FAB;27HA=FAC
TIBETAN SUBJOINED LETTER FIXED-FORM RA=FBC;36WA=FBA;36YA=FBB;25GA=F92;26HA=F93;25HA=FB7;25JA=F97
TIBETAN SUBJOINED LETTER KA=F90;26HA=F91;26SSA=FB9;25LA=FB3;25MA=FA8;25NA=FA3;26GA=F94;26NA=F9E
TIBETAN SUBJOINED LETTER NYA=F99;25PA=FA4;26HA=FA5;25RA=FB2;25SA=FB6;26HA=FB4;26SA=FB5;25TA=F9F
TIBETAN SUBJOINED LETTER THA=FA0;26SA=FA9;27HA=FAA;26TA=F9A;27HA=F9B;25WA=FAD;25YA=FB1;25ZA=FAF
TIBETAN SUBJOINED LETTER ZHA=FAE;18SIGN INVERTED MCHU CAN=F8F;23LCE TSA CAN=F8D;23MCHU CAN=F8E
TIBETAN SYLLABLE OM=F00;10MBOL DRIL BU=FC4;15NOR BU BZHI -KHYIL=FCC;22GSUM -KHYIL=FCB
TIBETAN SYMBOL NOR BU NYIS -KHYIL=FCA;21=FC9;15PADMA GDAN=FC6;16HUR PA=FC8;15RDO RJE RGYA GRAM=FC7
TIBETAN SYMBOL RDO RJE=FC5;08VOWEL SIGN AA=F71;19E=F7A;20E=F7B;19I=F72;20I=F73;19O=F7C;20O=F7D
TIBETAN VOWEL SIGN REVERSED I=F80;29I=F81;19U=F74;20U=F75;19VOCALIC L=F78;28L=F79;27R=F76;28R=F77
TICKET=1F3AB;02E OVER INFINITY=29DD;02FINAGH CONSONANT JOINER=2D7F;09LETTER AHAGGAR YAZH=2D4B
TIFINAGH LETTER AYER YAGH=2D58;16BERBER ACADEMY YAH=2D41;33J=2D35;16TAWELLEMET YAZ=2D64
TIFINAGH LETTER TUAREG YAGH=2D57;26N=2D50;25H=2D42;25K=2D3E;26H=2D46;25NG=2D51;25Q=2D48;25ZH=2D4C
TIFINAGH LETTER YA=2D30;18A=2D44;18B=2D31;19H=2D32;18CH=2D5E;18D=2D37;19D=2D39;20H=2D3A;19H=2D38
TIFINAGH LETTER YAF=2D3C;18G=2D33;19H=2D56;20H=2D34;18H=2D40;19H=2D43;18J=2D36;18K=2D3D;19H=2D45
TIFINAGH LETTER YAKHH=2D3F;18L=2D4D;18M=2D4E;18N=2D4F;18P=2D52;18Q=2D47;18R=2D54;19R=2D55;18S=2D59
TIFINAGH LETTER YASH=2D5B;19S=2D5A;18T=2D5C;19H=2D5D;19T=2D5F;18V=2D60;18W=2D61;18Y=2D62;18Z=2D63
TIFINAGH LETTER YAZH=2D4A;19Z=2D65;17E=2D66;18Y=2D3B;17I=2D49;17O=2D67;17U=2D53
TIFINAGH MODIFIER LETTER LABIALIZATION MARK=2D6F;09SEPARATOR MARK=2D70;02GER FACE=1F42F;05=1F405
TIGHT TRIFOLIATE SNOWFLAKE=2745;02LDE OPERATOR ABOVE LEFTWARDS ARROW=2B49;21RIGHTWARDS ARROW=2972
TILDE OPERATOR WITH DOT ABOVE=2A6A;20RISING DOTS=2A6B;14=223C;06WITH DOT ABOVE=2E1E;15BELOW=2E1F
TILDE WITH RING ABOVE=2E1B;05=7E;02MER CLOCK=23F2;04S WITH LEFT HALF BLACK=29D4
TIMES WITH RIGHT HALF BLACK=29D5;02NY TWO DOTS OVER ONE DOT PUNCTUATION=10B3A;04=29FE
TIRED FACE=1F62B;03HUTA ABBREVIATION SIGN=114C6;09NJI=11480;08DIGIT EIGHT=114D8;14FIVE=114D5
TIRHUTA DIGIT FOUR=114D4;14NINE=114D9;14ONE=114D1;14SEVEN=114D7;15IX=114D6;14THREE=114D3
TIRHUTA DIGIT TWO=114D2;14ZERO=114D0;08GVANG=114C5;08LETTER A=11481;16A=11482;16I=1148C;16U=1148E
TIRHUTA LETTER BA=114A5;16HA=114A6;15CA=11494;16HA=11495;15DA=114A0;16DA=1149B;17HA=1149C
TIRHUTA LETTER DHA=114A1;15E=1148B;15GA=11491;16HA=11492;15HA=114AF;15I=11483;16I=11484;15JA=11496
TIRHUTA LETTER JHA=11497;15KA=1148F;16HA=11490;15LA=114AA;15MA=114A7;15NA=114A2;16GA=11493
TIRHUTA LETTER NNA=1149D;16YA=11498;15O=1148D;15PA=114A3;16HA=114A4;15RA=114A9;15SA=114AE
TIRHUTA LETTER SHA=114AC;16SA=114AD;15TA=1149E;16HA=1149F;16TA=11499;17HA=1149A;15U=11485
TIRHUTA LETTER UU=11486;15VA=114AB;16OCALIC L=11489;24L=1148A;23R=11487;24R=11488;15YA=114A8
TIRHUTA OM=114C7;08SIGN ANUSVARA=114C0;14VAGRAHA=114C4;13CANDRABINDU=114BF;13NUKTA=114C3
TIRHUTA SIGN VIRAMA=114C2;15SARGA=114C1;08VOWEL SIGN AA=114B0;20I=114BB;20U=114BE;19E=114B9
TIRHUTA VOWEL SIGN I=114B1;20I=114B2;19O=114BC;19SHORT E=114BA;25O=114BD;19U=114B3;20U=114B4
TIRHUTA VOWEL SIGN VOCALIC L=114B7;28L=114B8;27R=114B5;28R=114B6;03ONIAN SIGN CAPITAL ET=2E52
TIRONIAN SIGN ET=204A;01OILET=1F6BD;02KYO TOWER=1F5FC;02MATO=1F345;02NGUE=1F445;02OLBOX=1F9F0
TOOTH=1F9B7;05BRUSH=1FAA5;02P ARC ANTICLOCKWISE ARROW WITH PLUS=293D;27=293A
TOP ARC CLOCKWISE ARROW WITH MINUS=293C;04CURLY BRACKET=23DE;04HALF BLACK CIRCLE=2BCA
TOP HALF INTEGRAL=2320;09LEFT PARENTHESIS=2E59;09RIGHT PARENTHESIS=2E5A;09SECTION SIGN=2E39
TOP HAT=1F3A9;04LEFT CORNER=231C;10ROP=230F;09HALF BRACKET=2E22;04PARENTHESIS=23DC
TOP RIGHT CORNER=231D;11ROP=230E;10HALF BRACKET=2E23;04SQUARE BRACKET=23B4
TOP TORTOISE SHELL BRACKET=23E0;04WITH UPWARDS ARROW ABOVE=1F51D
TORTOISE SHELL BRACKETED CJK UNIFIED IDEOGRAPH-4E09=1F241;498C=1F242;4752DD=1F247;48B89=1F243
TORTOISE SHELL BRACKETED CJK UNIFIED IDEOGRAPH-6253=1F245;48557=1F248;4872C=1F240;4770B9=1F244
TORTOISE SHELL BRACKETED CJK UNIFIED IDEOGRAPH-76D7=1F246;25LATIN CAPITAL LETTER S=1F12A
TOTAL RUNOUT=2330;03O LETTER A=1E2AD;13E=1E2AB;12BA=1E291;13REATHY AE=1E2AC;20E=1E2A7;21O=1E2A9
TOTO LETTER BREATHY I=1E2A2;21U=1E2A4;12CHA=1E29A;12DA=1E293;12E=1E2A6;13O=1E2A8;12GA=1E295
TOTO LETTER HA=1E29E;12I=1E2A1;13U=1E2A3;12JA=1E29D;12KA=1E294;12LA=1E2A0;12MA=1E296;12NA=1E297
TOTO LETTER NGA=1E298;12O=1E2AA;12PA=1E290;12RA=1E29F;12SA=1E299;12TA=1E292;12U=1E2A5;12WA=1E29C
TOTO LETTER YA=1E29B;05SIGN RISING TONE=1E2AE;01RACKBALL=1F5B2;04TOR=1F69C;03DE MARK SIGN=2122
TRAIN=1F686;03M CAR=1F68B;04=1F68A;03NSPLUTO=2BD7;05VERSAL INTERSECTION=2ADB
TRIANGLE WITH DOT ABOVE=29CA;14ROUNDED CORNERS=1F6C6;14SERIFS AT BOTTOM=29CD;14UNDERBAR=29CB
TRIANGLE-HEADED RIGHTWARDS ARROW=279D;06ULAR BULLET=2023;11FLAG ON POST=1F6A9;11RULER=1F4D0
TRICOLON=205D;03DENT EMBLEM=1F531;03GRAM FOR EARTH=2637;12FIRE=2632;12HEAVEN=2630;12LAKE=2631
TRIGRAM FOR MOUNTAIN=2636;12THUNDER=2633;12WATER=2635;13IND=2634;03PLE COLON OPERATOR=2AF6
TRIPLE DAGGER=2E4B;07HORIZONTAL BAR WITH DOUBLE VERTICAL STROKE=2A68;27TRIPLE VERTICAL STROKE=2A69
TRIPLE INTEGRAL=222D;07NESTED GREATER-THAN=2AF8;14LESS-THAN=2AF7;07PLUS=29FB;08RIME=2034
TRIPLE SOLIDUS BINARY RELATION=2AFB;07TILDE=224B;07VERTICAL BAR BINARY RELATION=2AF4
TRIPLE VERTICAL BAR DELIMITER=2980;20RIGHT TURNSTILE=22AA;20WITH HORIZONTAL STROKE=2AF5
TROLL=1F9CC;05EYBUS=1F68E;03PHY=1F3C6;04ICAL DRINK=1F379;09FISH=1F420;02UE LIGHT MOON ARTA=2BDF
TRUE=22A8;03MPET=1F3BA;01UGRIK SIGN=20AE;02LIP=1F337;02MBLER GLASS=1F943;02RKEY=1F983
TURKISH LIRA SIGN=20BA;03NED AMPERSAND=214B;08NGLE=29A2;07BLACK PENTAGON=2BC2;13SHOGI PIECE=26CA
TURNED CAPITAL F=2132;08OMMA=2E32;07DAGGER=2E38;08IGIT THREE=218B;14WO=218A
TURNED GREEK SMALL LETTER IOTA=2129;07NORTH EAST POINTING LEAF=1F656;13WEST POINTING LEAF=1F654
TURNED NOT SIGN=2319;07OK HAND SIGN=1F58F;07SANS-SERIF CAPITAL G=2141;26L=2142;26Y=2144
TURNED SEMICOLON=2E35;08MALL F=214E;08OUTH EAST POINTING LEAF=1F657;13WEST POINTING LEAF=1F655
TURNED WHITE SHOGI PIECE=26C9;03TLE=1F422;01WELVE POINTED BLACK STAR=2739
TWISTED RIGHTWARDS ARROWS=1F500;02O ASTERISKS ALIGNED VERTICALLY=2051;04BUTTON MOUSE=1F5B0
TWO CONSECUTIVE EQUALS SIGNS=2A75;04DOT LEADER=2025;08PUNCTUATION=205A
TWO DOTS OVER ONE DOT PUNCTUATION=2E2A;04HEARTS=1F495;04INTERSECTING LOGICAL AND=2A55;25OR=2A56
TWO JOINED SQUARES=29C9;04LOGICAL AND OPERATOR=2A07;12OR OPERATOR=2A08;04MEN HOLDING HANDS=1F46C
TWO SPEECH BUBBLES=1F5EA;04WOMEN HOLDING HANDS=1F46D;03-EM DASH=2E3A;00UGARITIC LETTER AIN=10393
UGARITIC LETTER ALPA=10380;16BETA=10381;16DELTA=10384;17HAL=1038F;16GAMLA=10382;17HAIN=10399
UGARITIC LETTER HO=10385;18TA=10388;16I=1039B;16KAF=1038B;17HA=10383;16LAMDA=1038D;16MEM=1038E
UGARITIC LETTER NUN=10390;16PU=10394;16QOPA=10396;16RASHA=10397;16SADE=10395;18MKA=10392
UGARITIC LETTER SHIN=1038C;17SU=1039D;16TET=10389;17HANNA=10398;17O=1039A;16U=1039C;16WO=10386
UGARITIC LETTER YOD=1038A;16ZETA=10387;17U=10391;09WORD DIVIDER=1039F;01MBRELLA ON GROUND=26F1
UMBRELLA WITH RAIN DROPS=2614;08=2602;01NAMUSED FACE=1F612;02CERTAINTY SIGN=2BD1;02DERTIE=203F
UNDO SYMBOL=238C;02ICORN FACE=1F984;03ON ABOVE BAR ABOVE INTERSECTION=2A48;12INTERSECTION=2A46
UNION BESIDE AND JOINED WITH UNION=2A4A;06WITH LOGICAL OR=2A45;11MINUS SIGN=2A41;11OVERBAR=2A42
UNION=222A;03T SEPARATOR=1F;04ED SYMBOL=2BFA;03VERSAL RECYCLING SYMBOL=2672
UNMARRIED PARTNERSHIP SYMBOL=26AF;01P ARROW THROUGH CIRCLE=29BD
UP ARROWHEAD BETWEEN TWO HORIZONTAL BARS=2324;13IN A RECTANGLE BOX=2BB9;12=2303
UP BARB LEFT DOWN BARB LEFT HARPOON=2951;23RIGHT HARPOON=294D;08RIGHT DOWN BARB LEFT HARPOON=294C
UP BARB RIGHT DOWN BARB RIGHT HARPOON=294F;03DOWN ARROW WITH BASE=21A8;13=2195;08BLACK ARROW=2B0D
UP DOWN DOUBLE ARROW=21D5;08SANS-SERIF ARROW=1F859;08TRIANGLE-HEADED ARROW=2B65;08WHITE ARROW=21F3
UP FISH TAIL=297E;03RIGHT DIAGONAL ELLIPSIS=22F0;03TACK WITH CIRCLE ABOVE=27DF;07=22A5
UP-POINTING AIRPLANE=1F6E7;12MILITARY AIRPLANE=1F6E6;12RED TRIANGLE=1F53A;12SMALL AIRPLANE=1F6E8
UP-POINTING SMALL RED TRIANGLE=1F53C;12TRIANGLE WITH LEFT HALF BLACK=25ED;26RIGHT HALF BLACK=25EE
UPPER AND LEFT AND LOWER TRIANGULAR THREE QUARTERS BLOCK=1FB6A;11OWER ONE EIGHTH BLOCK=1FB80
UPPER AND LOWER TRIANGULAR HALF BLOCK=1FB9A
UPPER AND RIGHT AND LOWER TRIANGULAR THREE QUARTERS BLOCK=1FB68;06BLADE SCISSORS=2701
UPPER FIVE EIGHTHS BLOCK=1FB84;06HALF BLOCK AND LOWER HALF INVERSE MEDIUM SHADE=1FB91;16=2580
UPPER HALF CIRCLE=25E0;11INVERSE MEDIUM SHADE AND LOWER HALF BLOCK=1FB92;19WHITE CIRCLE=25DA
UPPER HALF MEDIUM SHADE=1FB8E;06LEFT BLOCK DIAGONAL LOWER CENTRE TO LOWER MIDDLE RIGHT=1FB5D
UPPER LEFT BLOCK DIAGONAL LOWER CENTRE TO UPPER MIDDLE RIGHT=1FB5F;48RIGHT=1FB61
UPPER LEFT BLOCK DIAGONAL LOWER LEFT TO LOWER MIDDLE RIGHT=1FB5E;40UPPER CENTRE=1FB5B
UPPER LEFT BLOCK DIAGONAL LOWER LEFT TO UPPER MIDDLE RIGHT=1FB60
UPPER LEFT BLOCK DIAGONAL LOWER MIDDLE LEFT TO UPPER CENTRE=1FB59;53MIDDLE RIGHT=1FB5C
UPPER LEFT BLOCK DIAGONAL LOWER MIDDLE LEFT TO UPPER RIGHT=1FB5A
UPPER LEFT BLOCK DIAGONAL UPPER MIDDLE LEFT TO UPPER CENTRE=1FB57;53RIGHT=1FB58
UPPER LEFT CORNER WITH DOT=27D4;11OR LOWER RIGHT CURLY BRACKET SECTION=23B0
UPPER LEFT QUADRANT CIRCULAR ARC=25DC;11TO LOWER RIGHT FILL=1FB98;12RIANGLE=25F8
UPPER LEFT TRIANGULAR MEDIUM SHADE=1FB9C;06ONE EIGHTH BLOCK=2594;10QUARTER BLOCK=1FB82
UPPER RIGHT BLOCK DIAGONAL LOWER MIDDLE LEFT TO LOWER CENTRE=1FB52;54RIGHT=1FB53
UPPER RIGHT BLOCK DIAGONAL UPPER CENTRE TO LOWER MIDDLE RIGHT=1FB64;49RIGHT=1FB66
UPPER RIGHT BLOCK DIAGONAL UPPER CENTRE TO UPPER MIDDLE RIGHT=1FB62;33LEFT TO LOWER CENTRE=1FB56
UPPER RIGHT BLOCK DIAGONAL UPPER LEFT TO LOWER MIDDLE RIGHT=1FB65;41UPPER MIDDLE RIGHT=1FB63
UPPER RIGHT BLOCK DIAGONAL UPPER MIDDLE LEFT TO LOWER CENTRE=1FB54;54MIDDLE RIGHT=1FB67
UPPER RIGHT BLOCK DIAGONAL UPPER MIDDLE LEFT TO LOWER RIGHT=1FB55
UPPER RIGHT DROP-SHADOWED WHITE SQUARE=2750;12OR LOWER LEFT CURLY BRACKET SECTION=23B1
UPPER RIGHT PENCIL=2710;12QUADRANT CIRCULAR ARC=25DD;12SHADOWED WHITE CIRCLE=1F53F;27SQUARE=2752
UPPER RIGHT TO LOWER LEFT FILL=1FB99;13RIANGLE=25F9;18ULAR MEDIUM SHADE=1FB9D
UPPER SEVEN EIGHTHS BLOCK=1FB86;06THREE EIGHTHS BLOCK=1FB83;12QUARTERS BLOCK=1FB85
UPPER TRIANGULAR ONE QUARTER BLOCK=1FB6D;02SIDE-DOWN FACE=1F643;02WARDS ANCORA=2E15
UPWARDS ARROW AND RIGHT ONE EIGHTH BLOCK=1FBB8;14FROM BAR=21A5;14LEFTWARDS OF DOWNWARDS ARROW=21C5
UPWARDS ARROW TO BAR=2912;14WITH DOUBLE STROKE=21DE;19EQUILATERAL ARROWHEAD=1F815
UPWARDS ARROW WITH HORIZONTAL STROKE=2909;19LARGE TRIANGLE ARROWHEAD=1F809
UPWARDS ARROW WITH MEDIUM TRIANGLE ARROWHEAD=1F805;19NOTCHED TAIL=1F899
UPWARDS ARROW WITH SMALL EQUILATERAL ARROWHEAD=1F811;25TRIANGLE ARROWHEAD=1F801
UPWARDS ARROW WITH TIP LEFTWARDS=21B0;23RIGHTWARDS=21B1;13=2191;08BLACK ARROW=2B06
UPWARDS BLACK CIRCLED WHITE ARROW=2B89;08COMPRESSED ARROW=1F83D;08DASHED ARROW=21E1
UPWARDS DOUBLE ARROW=21D1;08FINGER-POST ARROW=1F835
UPWARDS HARPOON WITH BARB LEFT BESIDE DOWNWARDS HARPOON WITH BARB RIGHT=296E
UPWARDS HARPOON WITH BARB LEFT BESIDE UPWARDS HARPOON WITH BARB RIGHT=2963;31FROM BAR=2960
UPWARDS HARPOON WITH BARB LEFT TO BAR=2958;30WARDS=21BF;26RIGHT FROM BAR=295C;32TO BAR=2954
UPWARDS HARPOON WITH BARB RIGHTWARDS=21BE;09EAVY ARROW=1F845;14COMPRESSED ARROW=1F841
UPWARDS PAIRED ARROWS=21C8;08QUADRUPLE ARROW=27F0;08ROCKET=1F66D;08SANS-SERIF ARROW=1F851
UPWARDS SQUARED ARROW=1F839;08TRIANGLE ARROWHEAD=1F891
UPWARDS TRIANGLE-HEADED ARROW LEFTWARDS OF DOWNWARDS TRIANGLE-HEADED ARROW=2B81;30TO BAR=2B71
UPWARDS TRIANGLE-HEADED ARROW WITH BOLD SHAFT=1F829;35DOUBLE HORIZONTAL STROKE=2B7B
UPWARDS TRIANGLE-HEADED ARROW WITH HEAVY SHAFT=1F82D;35LONG TIP LEFTWARDS=2BA2;44RIGHTWARDS=2BA3
UPWARDS TRIANGLE-HEADED ARROW WITH MEDIUM SHAFT=1F825;35NARROW SHAFT=1F821
UPWARDS TRIANGLE-HEADED ARROW WITH VERY HEAVY SHAFT=1F831;29=2B61;24DASHED ARROW=2B6B
UPWARDS TRIANGLE-HEADED PAIRED ARROWS=2B85;11PLE ARROW=290A;09WO HEADED ARROW=219F
UPWARDS TWO-HEADED ARROW FROM SMALL CIRCLE=2949;25WITH TRIANGLE ARROWHEADS=2BED
UPWARDS WHITE ARROW FROM BAR WITH HORIZONTAL BAR=2BB8;28=21EA
UPWARDS WHITE ARROW ON PEDESTAL WITH HORIZONTAL BAR=21EC;37VERTICAL BAR=21ED;31=21EB
UPWARDS WHITE ARROW WITHIN TRIANGLE ARROWHEAD=1F895;19=21E7;14DOUBLE ARROW ON PEDESTAL=21EF
UPWARDS WHITE DOUBLE ARROW=21EE;01RANUS=2645;01S=1F;00VAI COMMA=A60D;04DIGIT EIGHT=A628
VAI DIGIT FIVE=A625;11OUR=A624;10NINE=A629;10ONE=A621;10SEVEN=A627;11IX=A626;10THREE=A623
VAI DIGIT TWO=A622;10ZERO=A620;04FULL STOP=A60E;04QUESTION MARK=A60F;04SYLLABLE A=A549;14N=A54A
VAI SYLLABLE BA=A552;14E=A5EA;15E=A507;14HA=A551;15E=A5E9;16E=A506;15I=A52B;15O=A5C2;16O=A577
VAI SYLLABLE BHU=A59C;14I=A52C;14O=A5C3;15O=A578;14U=A59D;13CA=A566;14E=A5FF;15E=A51A;14I=A53F
VAI SYLLABLE CO=A5D7;15O=A58B;14U=A5B0;13DA=A560;14E=A5F9;15E=A514;14HA=A55C;15E=A5F5;16E=A510
VAI SYLLABLE DHHA=A55D;16E=A5F6;17E=A511;16I=A536;16O=A5CE;17O=A582;16U=A5A7;15I=A535;15O=A5CD
VAI SYLLABLE DHOO=A581;15U=A5A6;14I=A539;14O=A5D1;15O=A585;14U=A5AA;13E=A5E1;14E=A500;15N=A501
VAI SYLLABLE EN=A5E2;13FA=A558;14E=A5F1;15E=A50C;14I=A531;14O=A5C9;15O=A57D;14U=A5A2;13GA=A56D
VAI SYLLABLE GBA=A557;15E=A5EF;16E=A50B;16N=A5F0;15I=A530;15O=A5C7;16N=A5C8;16O=A57C;15U=A5A1
VAI SYLLABLE GE=A606;15E=A520;15N=A607;14I=A545;14O=A5DD;15O=A591;14U=A5B6;13HA=A54C;15N=A54D
VAI SYLLABLE HE=A5E4;15E=A502;15N=A5E5;14I=A526;15N=A527;14O=A5BD;15N=A5BE;15O=A573;14U=A597
VAI SYLLABLE HUN=A598;13I=A524;14N=A525;13JA=A567;14E=A600;15E=A51B;14I=A540;14O=A5D8;15O=A58C
VAI SYLLABLE JU=A5B1;13KA=A56A;15N=A56B;14E=A603;15E=A51E;14I=A543;14O=A5DB;15O=A58F;14PA=A554
VAI SYLLABLE KPAN=A555;15E=A5EC;16E=A509;16N=A5ED;15I=A52E;15O=A5C5;16O=A57A;15U=A59F;14U=A5B4
VAI SYLLABLE LA=A55E;14E=A5F7;15E=A512;15NGTHENER=A60C;14I=A537;14O=A5CF;15O=A583;14U=A5A8
VAI SYLLABLE MA=A56E;14BA=A553;15E=A5EB;16E=A508;15I=A52D;15O=A5C4;16O=A579;15U=A59E;14E=A608
VAI SYLLABLE MEE=A521;14GBA=A556;16E=A5EE;17E=A50A;16I=A52F;16O=A5C6;17O=A57B;16U=A5A0;14I=A546
VAI SYLLABLE MO=A5DE;15O=A592;14U=A5B7;13NA=A56F;14DA=A561;15E=A5FA;16E=A515;15I=A53A;15O=A5D2
VAI SYLLABLE NDOLE DO=A62B;19FA=A610;19KA=A611;19MA=A62A;19SOO=A612;16O=A586;15U=A5AB;14E=A609
VAI SYLLABLE NEE=A522;14G=A60B;15AN=A54B;15EN=A5E3;15GA=A56C;16E=A604;17E=A51F;17N=A605;16I=A544
VAI SYLLABLE NGGO=A5DC;17O=A590;16U=A5B5;15ON=A5BC;14I=A547;14JA=A568;15E=A601;16E=A51C;15I=A541
VAI SYLLABLE NJO=A5D9;16O=A58D;15U=A5B2;14O=A5DF;15O=A593;14U=A5B8;14YA=A570;15E=A60A;16E=A523
VAI SYLLABLE NYI=A548;15O=A5E0;16O=A594;15U=A5B9;13O=A5BA;14N=A5BB;14O=A571;15N=A572;13PA=A550
VAI SYLLABLE PE=A5E8;15E=A505;14I=A52A;14O=A5C1;15O=A576;14U=A59B;13RA=A55F;14E=A5F8;15E=A513
VAI SYLLABLE RI=A538;14O=A5D0;15O=A584;14U=A5A9;13SA=A562;14E=A5FB;15E=A516;14HA=A563;15E=A5FC
VAI SYLLABLE SHEE=A517;15I=A53C;15O=A5D4;16O=A588;15U=A5AD;14I=A53B;14O=A5D3;15O=A587;14U=A5AC
VAI SYLLABLE TA=A55A;14E=A5F3;15E=A50E;14HA=A55B;15E=A5F4;16E=A50F;15I=A534;15O=A5CC;16O=A580
VAI SYLLABLE THU=A5A5;14I=A533;14O=A5CB;15O=A57F;14U=A5A4;13U=A595;14N=A596;13VA=A559;14E=A5F2
VAI SYLLABLE VEE=A50D;14I=A532;14O=A5CA;15O=A57E;14U=A5A3;13WA=A54E;15N=A54F;14E=A5E6;15E=A503
VAI SYLLABLE WEEN=A504;15N=A5E7;14I=A528;15N=A529;14O=A5BF;15N=A5C0;15O=A574;16N=A575;14U=A599
VAI SYLLABLE WUN=A59A;13YA=A569;14E=A602;15E=A51D;14I=A542;14O=A5DA;15O=A58E;14U=A5B3;13ZA=A564
VAI SYLLABLE ZE=A5FD;15E=A518;14HA=A565;15E=A5FE;16E=A519;15I=A53E;15O=A5D6;16O=A58A;15U=A5AF
VAI SYLLABLE ZI=A53D;14O=A5D5;15O=A589;14U=A5AE;06MBOL BANG=A617;11DANG=A61A;12O-O=A61E;13ONG=A61B
VAI SYMBOL FAA=A618;12EENG=A613;11JONG=A61F;11KEENG=A614;12UNG=A61C;11NII=A616;11TAA=A619
VAI SYMBOL TING=A615;12ONG=A61D;02MPIRE=1F9DB;02RIATION SELECTOR-100=E0153;211=E0154;212=E0155
VARIATION SELECTOR-103=E0156;214=E0157;215=E0158;216=E0159;217=E015A;218=E015B;219=E015C;21=FE09
VARIATION SELECTOR-110=E015D;211=E015E;212=E015F;213=E0160;214=E0161;215=E0162;216=E0163;217=E0164
VARIATION SELECTOR-118=E0165;219=E0166;21=FE0A;2020=E0167;211=E0168;212=E0169;213=E016A;214=E016B
VARIATION SELECTOR-125=E016C;216=E016D;217=E016E;218=E016F;219=E0170;21=FE0B;2030=E0171;211=E0172
VARIATION SELECTOR-132=E0173;213=E0174;214=E0175;215=E0176;216=E0177;217=E0178;218=E0179;219=E017A
VARIATION SELECTOR-13=FE0C;2040=E017B;211=E017C;212=E017D;213=E017E;214=E017F;215=E0180;216=E0181
VARIATION SELECTOR-147=E0182;218=E0183;219=E0184;21=FE0D;2050=E0185;211=E0186;212=E0187;213=E0188
VARIATION SELECTOR-154=E0189;215=E018A;216=E018B;217=E018C;218=E018D;219=E018E;21=FE0E;2060=E018F
VARIATION SELECTOR-161=E0190;212=E0191;213=E0192;214=E0193;215=E0194;216=E0195;217=E0196;218=E0197
VARIATION SELECTOR-169=E0198;21=FE0F;2070=E0199;211=E019A;212=E019B;213=E019C;214=E019D;215=E019E
VARIATION SELECTOR-176=E019F;217=E01A0;218=E01A1;219=E01A2;21=E0100;2080=E01A3;211=E01A4;212=E01A5
VARIATION SELECTOR-183=E01A6;214=E01A7;215=E01A8;216=E01A9;217=E01AA;218=E01AB;219=E01AC;21=E0101
VARIATION SELECTOR-190=E01AD;211=E01AE;212=E01AF;213=E01B0;214=E01B1;215=E01B2;216=E01B3;217=E01B4
VARIATION SELECTOR-198=E01B5;219=E01B6;21=E0102;20=FE00;19200=E01B7;211=E01B8;212=E01B9;213=E01BA
VARIATION SELECTOR-204=E01BB;215=E01BC;216=E01BD;217=E01BE;218=E01BF;219=E01C0;21=E0103;2010=E01C1
VARIATION SELECTOR-211=E01C2;212=E01C3;213=E01C4;214=E01C5;215=E01C6;216=E01C7;217=E01C8;218=E01C9
VARIATION SELECTOR-219=E01CA;21=E0104;2020=E01CB;211=E01CC;212=E01CD;213=E01CE;214=E01CF;215=E01D0
VARIATION SELECTOR-226=E01D1;217=E01D2;218=E01D3;219=E01D4;21=E0105;2030=E01D5;211=E01D6;212=E01D7
VARIATION SELECTOR-233=E01D8;214=E01D9;215=E01DA;216=E01DB;217=E01DC;218=E01DD;219=E01DE;21=E0106
VARIATION SELECTOR-240=E01DF;211=E01E0;212=E01E1;213=E01E2;214=E01E3;215=E01E4;216=E01E5;217=E01E6
VARIATION SELECTOR-248=E01E7;219=E01E8;21=E0107;2050=E01E9;211=E01EA;212=E01EB;213=E01EC;214=E01ED
VARIATION SELECTOR-255=E01EE;216=E01EF;21=E0108;206=E0109;207=E010A;208=E010B;209=E010C;20=FE01
VARIATION SELECTOR-30=E010D;201=E010E;202=E010F;203=E0110;204=E0111;205=E0112;206=E0113;207=E0114
VARIATION SELECTOR-38=E0115;209=E0116;20=FE02;1940=E0117;201=E0118;202=E0119;203=E011A;204=E011B
VARIATION SELECTOR-45=E011C;206=E011D;207=E011E;208=E011F;209=E0120;20=FE03;1950=E0121;201=E0122
VARIATION SELECTOR-52=E0123;203=E0124;204=E0125;205=E0126;206=E0127;207=E0128;208=E0129;209=E012A
VARIATION SELECTOR-5=FE04;1960=E012B;201=E012C;202=E012D;203=E012E;204=E012F;205=E0130;206=E0131
VARIATION SELECTOR-67=E0132;208=E0133;209=E0134;20=FE05;1970=E0135;201=E0136;202=E0137;203=E0138
VARIATION SELECTOR-74=E0139;205=E013A;206=E013B;207=E013C;208=E013D;209=E013E;20=FE06;1980=E013F
VARIATION SELECTOR-81=E0140;202=E0141;203=E0142;204=E0143;205=E0144;206=E0145;207=E0146;208=E0147
VARIATION SELECTOR-89=E0148;20=FE07;1990=E0149;201=E014A;202=E014B;203=E014C;204=E014D;205=E014E
VARIATION SELECTOR-96=E014F;207=E0150;208=E0151;209=E0152;20=FE08;01ECTOR OR CROSS PRODUCT=2A2F
VEDIC SIGN ANUSVARA ANTARGOMUKHA=1CE9;20BAHIRGOMUKHA=1CEA;20UBHAYATO MUKHA=1CF1
VEDIC SIGN ANUSVARA VAMAGOMUKHA WITH TAIL=1CEC;31=1CEB;12RDHAVISARGA=1CF2;12TIKRAMA=1CF7
VEDIC SIGN DOUBLE ANUSVARA ANTARGOMUKHA=1CFA;11HEXIFORM LONG ANUSVARA=1CEE;11JIHVAMULIYA=1CF5
VEDIC SIGN LONG ANUSVARA=1CEF;11NIHSHVASA=1CD3;11REVERSED VISARGA ANUDATTA=1CE6;28UDATTA=1CE4
VEDIC SIGN ROTATED ARDHAVISARGA=1CF3;12THANG LONG ANUSVARA=1CF0;11TIRYAK=1CED;11UPADHMANIYA=1CF6
VEDIC SIGN VISARGA ANUDATTA WITH TAIL=1CE8;27=1CE5;19SVARITA=1CE2;19UDATTA WITH TAIL=1CE7;25=1CE3
VEDIC SIGN YAJURVEDIC MIDLINE SVARITA=1CD4;06TONE ATHARVAVEDIC INDEPENDENT SVARITA=1CE1
VEDIC TONE CANDRA ABOVE=1CF4;18BELOW=1CD8;11DOT BELOW=1CDD;13UBLE RING ABOVE=1CF9;18SVARITA=1CDA
VEDIC TONE KARSHANA=1CD0;13THAKA ANUDATTA=1CDC;11PRENKHA=1CD2
VEDIC TONE RIGVEDIC KASHMIRI INDEPENDENT SVARITA=1CE0;13NG ABOVE=1CF8;11SHARA=1CD1
VEDIC TONE THREE DOTS BELOW=1CDF;12RIPLE SVARITA=1CDB;12WO DOTS BELOW=1CDE
VEDIC TONE YAJURVEDIC AGGRAVATED INDEPENDENT SVARITA=1CD5;22INDEPENDENT SVARITA=1CD6
VEDIC TONE YAJURVEDIC KATHAKA INDEPENDENT SVARITA SCHROEDER=1CD9;49=1CD7;02RSICLE=2123
VERTICAL BAR BESIDE RIGHT TRIANGLE=29D0;13DOUBLE LEFT TURNSTILE=2AE4;13TRIPLE RIGHT TURNSTILE=2AE2
VERTICAL BAR WITH HORIZONTAL STROKE=27CA;09ELLIPSIS=22EE;09FOUR DOTS=205E
VERTICAL IDEOGRAPHIC ITERATION MARK=303B;09KANA REPEAT MARK LOWER HALF=3035;26UPPER HALF=3033
VERTICAL KANA REPEAT MARK=3031;21WITH VOICED SOUND MARK UPPER HALF=3034;43=3032
VERTICAL LINE EXTENSION=23D0;14WITH CIRCLE ABOVE=2AEF;26BELOW=2AF0;19MIDDLE DOT=237F;13=7C
VERTICAL MALE WITH STROKE SIGN=26A8;09ONE EIGHTH BLOCK-2=1FB70;263=1FB71;264=1FB72;265=1FB73
VERTICAL ONE EIGHTH BLOCK-6=1FB74;267=1FB75;09SIX DOTS=2E3D;09TAB KEY=2B7F;12ULATION SET=8A;19=B
VERTICAL TILDE=2E2F;10RAFFIC LIGHT=1F6A6;09ZIGZAG LINE=299A;03Y BOLD GREEK CROSS=1F7A5
VERY HEAVY EIGHT POINTED BLACK STAR=1F7D0;17SPOKED ASTERISK=1F7BF;11FIVE SPOKED ASTERISK=1F7B3
VERY HEAVY GREEK CROSS=1F7A6;11REVERSE SOLIDUS=1F67D;11SALTIRE=1F7AD;12IX SPOKED ASTERISK=1F7B9
VERY HEAVY SOLIDUS=1F67C;11WHITE CIRCLE=1F788;17SQUARE=1F792;05MUCH GREATER-THAN=22D9
VERY MUCH LESS-THAN=22D8;02STA=26B6;01IBRATION MODE=1F4F3;02CTORY HAND=270C;02DEO CAMERA=1F4F9
VIDEO GAME=1F3AE;05CASSETTE=1F4FC;02ETNAMESE ALTERNATE READING MARK CA=16FF0;34NHAY=16FF1
VIEWDATA SQUARE=2317;02OLIN=1F3BB;02RGO=264D;02THKUQI CAPITAL LETTER A=10570;24BBE=10571;25E=10572
VITHKUQI CAPITAL LETTER CE=10573;25HE=10574;24DE=10575;25HE=10576;24E=10578;25I=10577;24FE=10579
VITHKUQI CAPITAL LETTER GA=1057A;24HA=1057C;25HA=1057D;24I=1057E;25JE=1057F;24JE=10580;24KA=10581
VITHKUQI CAPITAL LETTER LA=10582;25LA=10583;24ME=10584;24NE=10585;25JE=10586;24O=10587;24PE=10588
VITHKUQI CAPITAL LETTER QA=10589;24RE=1058A;24SE=1058C;25HE=1058D;24TE=1058E;25HE=1058F;24U=10590
VITHKUQI CAPITAL LETTER VE=10591;24XE=10592;24Y=10594;24ZE=10595;09SMALL LETTER A=10597
VITHKUQI SMALL LETTER BBE=10598;23E=10599;22CE=1059A;23HE=1059B;22DE=1059C;23HE=1059D;22E=1059F
VITHKUQI SMALL LETTER EI=1059E;22FE=105A0;22GA=105A1;22HA=105A3;23HA=105A4;22I=105A5;23JE=105A6
VITHKUQI SMALL LETTER JE=105A7;22KA=105A8;22LA=105A9;23LA=105AA;22ME=105AB;22NE=105AC;23JE=105AD
VITHKUQI SMALL LETTER O=105AE;22PE=105AF;22QA=105B0;22RE=105B1;22SE=105B3;23HE=105B4;22TE=105B5
VITHKUQI SMALL LETTER THE=105B6;22U=105B7;22VE=105B8;22XE=105B9;22Y=105BB;22ZE=105BC
VOIDED GREEK CROSS=1FBBB;02LCANO=1F30B;03LEYBALL=1F3D0;03UME INTEGRAL=2230;01S100=E0153;041=E0154
VS102=E0155;043=E0156;044=E0157;045=E0158;046=E0159;047=E015A;048=E015B;049=E015C;04=FE09
VS110=E015D;041=E015E;042=E015F;043=E0160;044=E0161;045=E0162;046=E0163;047=E0164;048=E0165
VS119=E0166;04=FE0A;0320=E0167;041=E0168;042=E0169;043=E016A;044=E016B;045=E016C;046=E016D
VS127=E016E;048=E016F;049=E0170;04=FE0B;0330=E0171;041=E0172;042=E0173;043=E0174;044=E0175
VS135=E0176;046=E0177;047=E0178;048=E0179;049=E017A;04=FE0C;0340=E017B;041=E017C;042=E017D
VS143=E017E;044=E017F;045=E0180;046=E0181;047=E0182;048=E0183;049=E0184;04=FE0D;0350=E0185
VS151=E0186;042=E0187;043=E0188;044=E0189;045=E018A;046=E018B;047=E018C;048=E018D;049=E018E
VS15=FE0E;0360=E018F;041=E0190;042=E0191;043=E0192;044=E0193;045=E0194;046=E0195;047=E0196
VS168=E0197;049=E0198;04=FE0F;0370=E0199;041=E019A;042=E019B;043=E019C;044=E019D;045=E019E
VS176=E019F;047=E01A0;048=E01A1;049=E01A2;04=E0100;0380=E01A3;041=E01A4;042=E01A5;043=E01A6
VS184=E01A7;045=E01A8;046=E01A9;047=E01AA;048=E01AB;049=E01AC;04=E0101;0390=E01AD;041=E01AE
VS192=E01AF;043=E01B0;044=E01B1;045=E01B2;046=E01B3;047=E01B4;048=E01B5;049=E01B6;04=E0102;03=FE00
VS200=E01B7;041=E01B8;042=E01B9;043=E01BA;044=E01BB;045=E01BC;046=E01BD;047=E01BE;048=E01BF
VS209=E01C0;04=E0103;0310=E01C1;041=E01C2;042=E01C3;043=E01C4;044=E01C5;045=E01C6;046=E01C7
VS217=E01C8;048=E01C9;049=E01CA;04=E0104;0320=E01CB;041=E01CC;042=E01CD;043=E01CE;044=E01CF
VS225=E01D0;046=E01D1;047=E01D2;048=E01D3;049=E01D4;04=E0105;0330=E01D5;041=E01D6;042=E01D7
VS233=E01D8;044=E01D9;045=E01DA;046=E01DB;047=E01DC;048=E01DD;049=E01DE;04=E0106;0340=E01DF
VS241=E01E0;042=E01E1;043=E01E2;044=E01E3;045=E01E4;046=E01E5;047=E01E6;048=E01E7;049=E01E8
VS24=E0107;0350=E01E9;041=E01EA;042=E01EB;043=E01EC;044=E01ED;045=E01EE;046=E01EF;04=E0108
VS26=E0109;037=E010A;038=E010B;039=E010C;03=FE01;0230=E010D;031=E010E;032=E010F;033=E0110
VS34=E0111;035=E0112;036=E0113;037=E0114;038=E0115;039=E0116;03=FE02;0240=E0117;031=E0118
VS42=E0119;033=E011A;034=E011B;035=E011C;036=E011D;037=E011E;038=E011F;039=E0120;03=FE03
VS50=E0121;031=E0122;032=E0123;033=E0124;034=E0125;035=E0126;036=E0127;037=E0128;038=E0129
VS59=E012A;03=FE04;0260=E012B;031=E012C;032=E012D;033=E012E;034=E012F;035=E0130;036=E0131
VS67=E0132;038=E0133;039=E0134;03=FE05;0270=E0135;031=E0136;032=E0137;033=E0138;034=E0139
VS75=E013A;036=E013B;037=E013C;038=E013D;039=E013E;03=FE06;0280=E013F;031=E0140;032=E0141
VS83=E0142;034=E0143;035=E0144;036=E0145;037=E0146;038=E0147;039=E0148;03=FE07;0290=E0149
VS91=E014A;032=E014B;033=E014C;034=E014D;035=E014E;036=E014F;037=E0150;038=E0151;039=E0152;03=FE08
VT=B;02S=8A;01ULCANUS=2BE6;03GAR FRACTION FIVE EIGHTHS=215D;21SIXTHS=215A;17OUR FIFTHS=2158
VULGAR FRACTION ONE EIGHTH=215B;20FIFTH=2155;20HALF=BD;20NINTH=2151;20QUARTER=BC;20SEVENTH=2150
VULGAR FRACTION ONE SIXTH=2159;20TENTH=2152;21HIRD=2153;16SEVEN EIGHTHS=215E;16THREE EIGHTHS=215C
VULGAR FRACTION THREE FIFTHS=2157;22QUARTERS=BE;17WO FIFTHS=2156;20THIRDS=2154;16ZERO THIRDS=2189
WAFFLE=1F9C7;02NCHO DIGIT EIGHT=1E2F8;13FIVE=1E2F5;14OUR=1E2F4;13NINE=1E2F9;13ONE=1E2F1
WANCHO DIGIT SEVEN=1E2F7;14IX=1E2F6;13THREE=1E2F3;14WO=1E2F2;13ZERO=1E2F0;07LETTER A=1E2C1
WANCHO LETTER AA=1E2C0;16N=1E2E8;17G=1E2E3;15NG=1E2E4;15U=1E2D6;14BA=1E2C2;14CA=1E2C3;14DA=1E2C4
WANCHO LETTER E=1E2DB;15N=1E2E7;14FA=1E2CD;14GA=1E2C5;14HA=1E2DA;14I=1E2DC;15NG=1E2E5;14JA=1E2D0
WANCHO LETTER KA=1E2D4;15HA=1E2D9;14LA=1E2C8;15LHA=1E2DF;14MA=1E2D8;14NA=1E2C9;15GA=1E2DD
WANCHO LETTER NYA=1E2E9;14O=1E2D5;15N=1E2E6;16G=1E2E2;14PA=1E2CA;15HA=1E2C7;14RA=1E2D7;14SA=1E2CE
WANCHO LETTER SHA=1E2CF;14TA=1E2CB;15HA=1E2CC;15RA=1E2E1;15SA=1E2E0;14U=1E2DE;15EN=1E2EA
WANCHO LETTER VA=1E2D3;14WA=1E2D2;14YA=1E2C6;15IH=1E2EB;14ZA=1E2D1;07NGUN SIGN=1E2FF
WANCHO TONE KOI=1E2EE;15NI=1E2EF;12TUP=1E2EC;15NI=1E2ED;03ING CRESCENT MOON SYMBOL=1F318
WANING GIBBOUS MOON SYMBOL=1F316;02RANG CITI CAPITAL LETTER A=118A1;28M=118B6;28NG=118AA;28T=118B5
WARANG CITI CAPITAL LETTER BU=118B7;27DA=118B4;27E=118A8;28NN=118B0;29Y=118AD;27GA=118AB
WARANG CITI CAPITAL LETTER HAR=118BC;28IYO=118B9;28OLO=118BA;29RR=118BB;27II=118A6;27KO=118AC
WARANG CITI CAPITAL LETTER NGAA=118A0;28UNG=118B3;27O=118A9;28DD=118B1;27PU=118B8;27SII=118BE
WARANG CITI CAPITAL LETTER SSUU=118BD;27TTE=118B2;27UC=118AF;28U=118A7;27VIYO=118BF;27WI=118A2
WARANG CITI CAPITAL LETTER YA=118A4;28O=118A5;28U=118A3;29J=118AE;12DIGIT EIGHT=118E8;18FIVE=118E5
WARANG CITI DIGIT FOUR=118E4;18NINE=118E9;18ONE=118E1;18SEVEN=118E7;19IX=118E6;18THREE=118E3
WARANG CITI DIGIT TWO=118E2;18ZERO=118E0;12NUMBER EIGHTY=118F1;19FIFTY=118EE;20ORTY=118ED
WARANG CITI NUMBER NINETY=118F2;19SEVENTY=118F0;20IXTY=118EF;19TEN=118EA;20HIRTY=118EC
WARANG CITI NUMBER TWENTY=118EB;12OM=118FF;12SMALL LETTER A=118C1;26M=118D6;26NG=118CA;26T=118D5
WARANG CITI SMALL LETTER BU=118D7;25DA=118D4;25E=118C8;26NN=118D0;27Y=118CD;25GA=118CB;25HAR=118DC
WARANG CITI SMALL LETTER HIYO=118D9;26OLO=118DA;27RR=118DB;25II=118C6;25KO=118CC;25NGAA=118C0
WARANG CITI SMALL LETTER NUNG=118D3;25O=118C9;26DD=118D1;25PU=118D8;25SII=118DE;26SUU=118DD
WARANG CITI SMALL LETTER TTE=118D2;25UC=118CF;26U=118C7;25VIYO=118DF;25WI=118C2;25YA=118C4
WARANG CITI SMALL LETTER YO=118C5;26U=118C3;27J=118CE;03NING SIGN=26A0;02STEBASKET=1F5D1
WATCH=231A;03ER BUFFALO=1F403;06CLOSET=1F6BE;06POLO=1F93D;06WAVE=1F30A;05MELON=1F349
WAVE ARROW POINTING DIRECTLY LEFT=2B3F;29RIGHT=2933;05DASH=301C;03ING BLACK FLAG=1F3F4
WAVING HAND SIGN=1F44B;07WHITE FLAG=1F3F3;03Y DASH=3030;05LINE=2307;06OW LINE=FE4F;05OVERLINE=FE4B
WAXING CRESCENT MOON SYMBOL=1F312;07GIBBOUS MOON SYMBOL=1F314;01EARY CAT FACE=1F640;06FACE=1F629
WEDDING=1F492;03GE-TAILED RIGHTWARDS ARROW=27BC;02IERSTRASS ELLIPTIC FUNCTION=2118
WEIGHT LIFTER=1F3CB;02ST SYRIAC CROSS=2670;01HALE=1F40B;02EEL OF DHARMA=2638;05=1F6DE
WHEELCHAIR SYMBOL=267F;02ITE ARROW SHAFT WIDTH ONE=1F8AC;24TWO THIRDS=1F8AD;06BULLET=25E6
WHITE CHESS BISHOP ROTATED NINETY DEGREES=1FA0C;27TWO HUNDRED SEVENTY DEGREES=1FA36;18=2657
WHITE CHESS EQUIHOPPER ROTATED NINETY DEGREES=1FA4B;22=1FA48;12KING ROTATED NINETY DEGREES=1FA09
WHITE CHESS KING ROTATED TWO HUNDRED SEVENTY DEGREES=1FA33;16=2654
WHITE CHESS KNIGHT ROTATED FORTY-FIVE DEGREES=1FA06;27NINETY DEGREES=1FA0D
WHITE CHESS KNIGHT ROTATED ONE HUNDRED THIRTY-FIVE DEGREES=1FA1B
WHITE CHESS KNIGHT ROTATED THREE HUNDRED FIFTEEN DEGREES=1FA45;28WO HUNDRED SEVENTY DEGREES=1FA37
WHITE CHESS KNIGHT ROTATED TWO HUNDRED TWENTY-FIVE DEGREES=1FA30;18-BISHOP=1FA50;19QUEEN=1FA4E
WHITE CHESS KNIGHT-ROOK=1FA4F;18=2658;12PAWN ROTATED NINETY DEGREES=1FA0E
WHITE CHESS PAWN ROTATED TWO HUNDRED SEVENTY DEGREES=1FA38;16=2659
WHITE CHESS QUEEN ROTATED NINETY DEGREES=1FA0A;26TWO HUNDRED SEVENTY DEGREES=1FA34;17=2655
WHITE CHESS ROOK ROTATED NINETY DEGREES=1FA0B;25TWO HUNDRED SEVENTY DEGREES=1FA35;16=2656
WHITE CHESS TURNED BISHOP=1FA21;19KING=1FA1E;20NIGHT=1FA22;19PAWN=1FA23;19QUEEN=1FA1F;19ROOK=1FA20
WHITE CIRCLE CONTAINING BLACK SMALL CIRCLE=1F78A;13WITH DOT RIGHT=2686;20WN ARROW=29EC
WHITE CIRCLE WITH LOWER LEFT QUADRANT=25F5;24RIGHT QUADRANT=25F6;18TWO DOTS=2687
WHITE CIRCLE WITH UPPER LEFT QUADRANT=25F4;24RIGHT QUADRANT=25F7;12=25CB;07LUB SUIT=2667
WHITE CONCAVE-SIDED DIAMOND WITH LEFTWARDS TICK=27E2;33RIGHTWARDS TICK=27E3;27=27E1
WHITE DIAMOND CONTAINING BLACK MEDIUM DIAMOND=1F79B;31SMALL DIAMOND=25C8
WHITE DIAMOND CONTAINING BLACK VERY SMALL DIAMOND=1F79A;14IN SQUARE=26CB;14SUIT=2662
WHITE DIAMOND WITH CENTRED DOT=27D0;13=25C7;07OWN POINTING BACKHAND INDEX=1F447;20INDEX=261F
WHITE DOWN POINTING LEFT HAND INDEX=1F597;10-POINTING SMALL TRIANGLE=25BF;20TRIANGLE=25BD
WHITE DRAUGHTS KING=26C1;15MAN=26C0;06EXCLAMATION MARK ORNAMENT=2755
WHITE FLAG WITH HORIZONTAL MIDDLE BLACK STRIPE=26FF;10=2690;08ORETTE=2740;09WER=1F4AE
WHITE FOUR POINTED CUSP=2BCE;19STAR=2727;07ROWNING FACE=2639;06HARD SHELL FLOPPY DISK=1F5AB
WHITE HEART SUIT=2661;11=1F90D;09VY CHECK MARK=2705;12SALTIRE WITH ROUNDED CORNERS=1FBC0
WHITE HEXAGON=2B21;07ORIZONTAL ELLIPSE=2B2D;08URGLASS=29D6;06LARGE SQUARE=2B1C;08TIN CROSS=1F546
WHITE LEFT LANE MERGE=26D9;11POINTING BACKHAND INDEX=1F448;20INDEX=261C;10-POINTING POINTER=25C5
WHITE LEFT-POINTING SMALL TRIANGLE=25C3;20TRIANGLE=25C1
WHITE LOZENGE CONTAINING BLACK SMALL LOZENGE=1F7A0;06MEDIUM DIAMOND=2B26;13LOZENGE=2B28
WHITE MEDIUM SMALL SQUARE=25FD;14QUARE=25FB;14TAR=2B50;07OON SELENA=2BDD;06NIB=2711
WHITE PARALLELOGRAM=25B1;07ENNANT=1F3F1;09TAGON=2B20;06QUESTION MARK ORNAMENT=2754
WHITE RECTANGLE=25AD;07IGHT POINTING BACKHAND INDEX=1F449;21INDEX=261E;11-POINTING PENTAGON=2B54
WHITE RIGHT-POINTING POINTER=25BB;21SMALL TRIANGLE=25B9;21TRIANGLE=25B7;06SCISSORS=2704
WHITE SESAME DOT=FE46;07HOGI PIECE=2616;07MALL LOZENGE=2B2B;12SQUARE=25AB;13TAR=2B52
WHITE SMILING FACE=263A;07PADE SUIT=2664;07QUARE BUTTON=1F533
WHITE SQUARE CONTAINING BLACK MEDIUM SQUARE=1F795;30SMALL SQUARE=25A3;30VERY SMALL SQUARE=1F794
WHITE SQUARE WITH CENTRE VERTICAL LINE=2385;18LEFTWARDS TICK=27E4;19OWER LEFT QUADRANT=25F1
WHITE SQUARE WITH LOWER RIGHT QUADRANT=25F2;18RIGHTWARDS TICK=27E5;19OUNDED CORNERS=25A2
WHITE SQUARE WITH UPPER LEFT QUADRANT=25F0;24RIGHT QUADRANT=25F3;18VERTICAL BISECTING LINE=25EB
WHITE SQUARE=25A1;07TAR=2606;07UN BEHIND CLOUD WITH RAIN=1F326;22=1F325;10WITH RAYS=263C
WHITE SUN WITH SMALL CLOUD=1F324;09=1F323;06TELEPHONE=260F;07OUCHTONE TELEPHONE=1F57E
WHITE TRAPEZIUM=23E2;08IANGLE CONTAINING SMALL WHITE TRIANGLE=27C1;07WO-WAY LEFT WAY TRAFFIC=26D7
WHITE UP POINTING BACKHAND INDEX=1F446;18INDEX=261D;08-POINTING CHEVRON=1FBCA
WHITE UP-POINTING SMALL TRIANGLE=25B5;18TRIANGLE WITH DOT=25EC;26=25B3;06VERTICAL BAR=2AFE
WHITE VERTICAL ELLIPSE=2B2F;15RECTANGLE=25AF;09Y SMALL SQUARE=2B1E
WHITE-FEATHERED RIGHTWARDS ARROW=27B3;01IDE-HEADED DOWNWARDS BARB ARROW=1F86B
WIDE-HEADED DOWNWARDS HEAVY BARB ARROW=1F87B;22LIGHT BARB ARROW=1F863;22MEDIUM BARB ARROW=1F873
WIDE-HEADED DOWNWARDS VERY HEAVY BARB ARROW=1F883;12LEFTWARDS BARB ARROW=1F868
WIDE-HEADED LEFTWARDS HEAVY BARB ARROW=1F878;22LIGHT BARB ARROW=1F860;22MEDIUM BARB ARROW=1F870
WIDE-HEADED LEFTWARDS VERY HEAVY BARB ARROW=1F880;12NORTH EAST BARB ARROW=1F86D
WIDE-HEADED NORTH EAST HEAVY BARB ARROW=1F87D;23LIGHT BARB ARROW=1F865;23MEDIUM BARB ARROW=1F875
WIDE-HEADED NORTH EAST VERY HEAVY BARB ARROW=1F885;18WEST BARB ARROW=1F86C
WIDE-HEADED NORTH WEST HEAVY BARB ARROW=1F87C;23LIGHT BARB ARROW=1F864;23MEDIUM BARB ARROW=1F874
WIDE-HEADED NORTH WEST VERY HEAVY BARB ARROW=1F884;12RIGHTWARDS BARB ARROW=1F86A
WIDE-HEADED RIGHTWARDS HEAVY BARB ARROW=1F87A;23LIGHT BARB ARROW=1F862;23MEDIUM BARB ARROW=1F872
WIDE-HEADED RIGHTWARDS VERY HEAVY BARB ARROW=1F882;12SOUTH EAST BARB ARROW=1F86E
WIDE-HEADED SOUTH EAST HEAVY BARB ARROW=1F87E;23LIGHT BARB ARROW=1F866;23MEDIUM BARB ARROW=1F876
WIDE-HEADED SOUTH EAST VERY HEAVY BARB ARROW=1F886;18WEST BARB ARROW=1F86F
WIDE-HEADED SOUTH WEST HEAVY BARB ARROW=1F87F;23LIGHT BARB ARROW=1F867;23MEDIUM BARB ARROW=1F877
WIDE-HEADED SOUTH WEST VERY HEAVY BARB ARROW=1F887;12UPWARDS BARB ARROW=1F869
WIDE-HEADED UPWARDS HEAVY BARB ARROW=1F879;20LIGHT BARB ARROW=1F861;20MEDIUM BARB ARROW=1F871
WIDE-HEADED UPWARDS VERY HEAVY BARB ARROW=1F881;02GGLY VERTICAL LINE=2E3E;02LTED FLOWER=1F940
WIND BLOWING FACE=1F32C;05CHIME=1F390;04OW=1FA9F;03E GLASS=1F377;03KING FACE=1F609
WIRED KEYBOARD=1F5AE;01J=2060;01OLF FACE=1F43A;02MAN WITH BUNNY EARS=1F46F;05=1F469
WOMANS BOOTS=1F462;07CLOTHES=1F45A;07HAT=1F452;07SANDAL=1F461;03ENS SYMBOL=1F6BA;02N SIGN=20A9
WOOD=1FAB5;02RD JOINER=2060;05SEPARATOR MIDDLE DOT=2E31;03LD MAP=1F5FA;03M=1FAB1;03RIED FACE=1F61F
WRAPPED PRESENT=1F381;02EATH PRODUCT=2240;03NCH=1F527;03STLERS=1F93C;02ITING HAND=270D
X IN A RECTANGLE BOX=2327;01-RAY=1FA7B;01IANGQI BLACK CANNON=1FA6C;15HARIOT=1FA6B;14ELEPHANT=1FA69
XIANGQI BLACK GENERAL=1FA67;14HORSE=1FA6A;14MANDARIN=1FA68;14SOLDIER=1FA6D;08RED CANNON=1FA65
XIANGQI RED CHARIOT=1FA64;12ELEPHANT=1FA62;12GENERAL=1FA60;12HORSE=1FA63;12MANDARIN=1FA61
XIANGQI RED SOLDIER=1FA66;01OR=22BB;00YAWNING FACE=1F971;01ELLOW HEART=1F49B;02N SIGN=A5
YEZIDI COMBINING HAMZA MARK=10EAB;17MADDA MARK=10EAC;07HYPHENATION MARK=10EAD;07LETTER BE=10E81
YEZIDI LETTER CHHIM=10E88;16IM=10E87;15IM=10E86;14DAD=10E94;16L=10E8B;14ELIF=10E80;15T=10EA9
YEZIDI LETTER EW=10EA6;15YN=10E97;14FA=10E99;14GAF=10E9F;14HAY=10EA7;15HA=10E89;14JA=10E90
YEZIDI LETTER KAF=10E9D;15HAF=10E9E;14LAM WITH DOT ABOVE=10EB0;17=10EA0;14MIM=10EA1;14NUN=10EA2
YEZIDI LETTER OW=10EA5;14PE=10E82;15HE=10E83;14QAF=10E9C;14RA=10E8D;15HA=10E8E;14SAD=10E93
YEZIDI LETTER SE=10E85;15HIN=10E92;15IN=10E91;14TA=10E95;15HE=10E84;14UM=10EA3
YEZIDI LETTER VA ALTERNATE FORM=10E9B;16=10E9A;14WAW=10EA4;14XA=10E8A;15HEYN=10E98
YEZIDI LETTER YOT WITH CIRCUMFLEX ABOVE=10EB1;17=10EA8;14ZA=10E8F;16L=10E8C;15E=10E96
YI RADICAL BBUT=A49B;12UR=A4A5;11CHE=A4C3;12IP=A4BE;12UOP=A4BD;12Y=A4BC;13P=A494;13T=A4A3
YI RADICAL DDUR=A4A4;12U=A4B9;11GA=A4A1;12EP=A497;12GOP=A496;13UO=A4A6;12OT=A4B6;11HMO=A4AD
YI RADICAL HXIT=A499;13OP=A4BF;13UO=A49F;11JJIE=A4B7;13UT=A4AA;13Y=A4B5;12O=A4B3;11KE=A4C6
YI RADICAL KIT=A492;11LI=A491;13E=A4BB;12YR=A49A;11MI=A498;12OP=A49C;11NBIE=A4C5;12YIP=A493
YI RADICAL NYOP=A4A7;12ZUP=A4B4;11OP=A4A9;11PUT=A49E;12YT=A4AC;11QOT=A490;11SHAT=A4C0;13OP=A4C2
YI RADICAL SHUR=A4BA;13Y=A4B0;12SI=A495;11TAT=A4A0;12U=A4A8;11VEP=A4B1;12UR=A4AF;11WO=A4B8
YI RADICAL YIT=A4AE;12O=A49D;11ZA=A4B2;12OT=A4AB;12UP=A4A2;13R=A4C1;12ZIET=A4C4;03SYLLABLE A=A00A
YI SYLLABLE AP=A00B;13T=A008;13X=A009;12BA=A020;14P=A021;14T=A01E;14X=A01F;13BA=A060;15P=A061
YI SYLLABLE BBAT=A05E;15X=A05F;14E=A06A;15P=A06B;15X=A069;14I=A058;15E=A05C;16P=A05D;16T=A05A
YI SYLLABLE BBIEX=A05B;15P=A059;15T=A056;15X=A057;14O=A067;15P=A068;15T=A065;15X=A066;14U=A06E
YI SYLLABLE BBUO=A063;16P=A064;16X=A062;15P=A06F;15R=A071;16X=A070;15T=A06C;15X=A06D;14Y=A074
YI SYLLABLE BBYP=A075;15T=A072;15X=A073;13E=A02A;14P=A02B;14X=A029;13I=A018;14E=A01C;15P=A01D
YI SYLLABLE BIET=A01A;15X=A01B;14P=A019;14T=A016;14X=A017;13O=A027;14P=A028;14T=A025;14X=A026
YI SYLLABLE BU=A02E;14O=A023;15P=A024;15X=A022;14P=A02F;14R=A031;15X=A030;14T=A02C;14X=A02D
YI SYLLABLE BY=A034;14P=A035;14R=A037;15X=A036;14T=A032;14X=A033;12CA=A2B8;14P=A2B9;14T=A2B6
YI SYLLABLE CAX=A2B7;13E=A2C2;14P=A2C3;14X=A2C1;13HA=A363;15P=A364;15T=A361;15X=A362;14E=A36F
YI SYLLABLE CHEP=A370;15T=A36D;15X=A36E;14O=A36B;15P=A36C;15T=A369;15X=A36A;14U=A372;15O=A367
YI SYLLABLE CHUOP=A368;16T=A365;16X=A366;15P=A373;15R=A375;16X=A374;15X=A371;14Y=A378;15P=A379
YI SYLLABLE CHYR=A37B;16X=A37A;15T=A376;15X=A377;13I=A2B0;14E=A2B4;15P=A2B5;15T=A2B2;15X=A2B3
YI SYLLABLE CIP=A2B1;14T=A2AE;14X=A2AF;13O=A2BF;14P=A2C0;14T=A2BD;14X=A2BE;13U=A2C6;14O=A2BB
YI SYLLABLE CUOP=A2BC;15X=A2BA;14P=A2C7;14R=A2C9;15X=A2C8;14T=A2C4;14X=A2C5;13Y=A2CC;14P=A2CD
YI SYLLABLE CYR=A2CF;15X=A2CE;14T=A2CA;14X=A2CB;12DA=A109;14P=A10A;14T=A107;14X=A108;13DA=A13F
YI SYLLABLE DDAP=A140;15T=A13D;15X=A13E;14E=A149;15P=A14A;15X=A148;14I=A138;15E=A13B;16P=A13C
YI SYLLABLE DDIEX=A13A;15P=A139;15T=A136;15X=A137;14O=A146;15P=A147;15T=A144;15X=A145;14U=A14D
YI SYLLABLE DDUO=A142;16P=A143;16X=A141;15P=A14E;15R=A150;16X=A14F;15T=A14B;15X=A14C;13E=A112
YI SYLLABLE DEP=A113;14X=A111;13I=A102;14E=A105;15P=A106;15X=A104;14P=A103;14T=A100;14X=A101
YI SYLLABLE DO=A10F;14P=A110;14T=A10D;14X=A10E;13U=A116;14O=A10C;15X=A10B;14P=A117;14R=A119
YI SYLLABLE DURX=A118;14T=A114;14X=A115;12E=A014;13X=A013;12FA=A0D3;14P=A0D4;14T=A0D1;14X=A0D2
YI SYLLABLE FI=A0CF;14P=A0D0;14T=A0CD;14X=A0CE;13O=A0D6;14P=A0D7;14X=A0D5;13U=A0DA;14P=A0DB
YI SYLLABLE FUR=A0DD;15X=A0DC;14T=A0D8;14X=A0D9;13Y=A0E0;14P=A0E1;14T=A0DE;14X=A0DF;12GA=A1E4
YI SYLLABLE GAP=A1E5;14T=A1E2;14X=A1E3;13E=A1F0;14P=A1F1;14T=A1EE;14X=A1EF;13GA=A21C;15P=A21D
YI SYLLABLE GGAT=A21A;15X=A21B;14E=A228;15P=A229;15T=A226;15X=A227;14I=A216;15E=A218;16P=A219
YI SYLLABLE GGIEX=A217;15T=A214;15X=A215;14O=A224;15P=A225;15T=A222;15X=A223;14U=A22C;15O=A220
YI SYLLABLE GGUOP=A221;16T=A21E;16X=A21F;15P=A22D;15R=A22F;16X=A22E;15T=A22A;15X=A22B;13I=A1DC
YI SYLLABLE GIE=A1E0;15P=A1E1;15T=A1DE;15X=A1DF;14P=A1DD;14T=A1DA;14X=A1DB;13O=A1EC;14P=A1ED
YI SYLLABLE GOT=A1EA;14X=A1EB;13U=A1F4;14O=A1E8;15P=A1E9;15T=A1E6;15X=A1E7;14P=A1F5;14R=A1F7
YI SYLLABLE GURX=A1F6;14T=A1F2;14X=A1F3;12HA=A273;14P=A274;14T=A271;14X=A272;13E=A27E;14P=A27F
YI SYLLABLE HEX=A27D;13IE=A270;15X=A26F;14T=A26E;13LA=A1A0;15P=A1A1;15T=A19E;15X=A19F;14E=A1A9
YI SYLLABLE HLEP=A1AA;15X=A1A8;14I=A199;15E=A19C;16P=A19D;16X=A19B;15P=A19A;15T=A197;15X=A198
YI SYLLABLE HLO=A1A6;15P=A1A7;15X=A1A5;14U=A1AD;15O=A1A3;16P=A1A4;16X=A1A2;15P=A1AE;15R=A1B0
YI SYLLABLE HLURX=A1AF;15T=A1AB;15X=A1AC;14Y=A1B3;15P=A1B4;15R=A1B6;16X=A1B5;15T=A1B1;15X=A1B2
YI SYLLABLE HMA=A09A;15P=A09B;15T=A098;15X=A099;14I=A093;15E=A096;16P=A097;16X=A095;15P=A094
YI SYLLABLE HMIT=A091;15X=A092;14O=A0A1;15P=A0A2;15T=A09F;15X=A0A0;14U=A0A5;15O=A09D;16P=A09E
YI SYLLABLE HMUOX=A09C;15P=A0A6;15R=A0A8;16X=A0A7;15T=A0A3;15X=A0A4;14Y=A0AA;15P=A0AB;15R=A0AD
YI SYLLABLE HMYRX=A0AC;15X=A0A9;13NA=A172;15P=A173;15T=A170;15X=A171;14E=A17A;15P=A17B;15X=A179
YI SYLLABLE HNI=A16A;15E=A16E;16P=A16F;16T=A16C;16X=A16D;15P=A16B;15T=A168;15X=A169;14OP=A178
YI SYLLABLE HNOT=A176;15X=A177;14UO=A175;16X=A174;15T=A17C;13O=A27B;14P=A27C;14T=A279;14X=A27A
YI SYLLABLE HUO=A277;15P=A278;15T=A275;15X=A276;13XA=A250;15P=A251;15T=A24E;15X=A24F;14E=A25B
YI SYLLABLE HXEP=A25C;15X=A25A;14I=A248;15E=A24C;16P=A24D;16T=A24A;16X=A24B;15P=A249;15T=A246
YI SYLLABLE HXIX=A247;14O=A258;15P=A259;15T=A256;15X=A257;14UO=A254;16P=A255;16T=A252;16X=A253
YI SYLLABLE I=A002;13E=A006;14P=A007;14T=A004;14X=A005;13P=A003;13T=A000;14ERATION MARK=A015
YI SYLLABLE IX=A001;12JI=A3E2;14E=A3E6;15P=A3E7;15T=A3E4;15X=A3E5;14P=A3E3;14T=A3E0;14X=A3E1
YI SYLLABLE JJI=A41A;15E=A41E;16P=A41F;16T=A41C;16X=A41D;15P=A41B;15T=A418;15X=A419;14O=A425
YI SYLLABLE JJOP=A426;15T=A423;15X=A424;14U=A429;15O=A421;16P=A422;16X=A420;15P=A42A;15R=A42C
YI SYLLABLE JJURX=A42B;15T=A427;15X=A428;14Y=A42F;15P=A430;15T=A42D;15X=A42E;13O=A3EE;14P=A3EF
YI SYLLABLE JOT=A3EC;14X=A3ED;13U=A3F2;14O=A3EA;15P=A3EB;15T=A3E8;15X=A3E9;14P=A3F3;14R=A3F5
YI SYLLABLE JURX=A3F4;14T=A3F0;14X=A3F1;13Y=A3F8;14P=A3F9;14R=A3FB;15X=A3FA;14T=A3F6;14X=A3F7
YI SYLLABLE KA=A201;14P=A202;14T=A1FF;14X=A200;13E=A20C;14P=A20D;14T=A20A;14X=A20B;13I=A1FA
YI SYLLABLE KIE=A1FD;15P=A1FE;15X=A1FC;14P=A1FB;14T=A1F8;14X=A1F9;13O=A208;14P=A209;14T=A206
YI SYLLABLE KOX=A207;13U=A210;14O=A204;15P=A205;15X=A203;14P=A211;14R=A213;15X=A212;14T=A20E
YI SYLLABLE KUX=A20F;12LA=A1C1;14P=A1C2;14T=A1BF;14X=A1C0;13E=A1CC;14P=A1CD;14X=A1CB;13I=A1B9
YI SYLLABLE LIE=A1BD;15P=A1BE;15T=A1BB;15X=A1BC;14P=A1BA;14T=A1B7;14X=A1B8;13O=A1C9;14P=A1CA
YI SYLLABLE LOT=A1C7;14X=A1C8;13U=A1D0;14O=A1C5;15P=A1C6;15T=A1C3;15X=A1C4;14P=A1D1;14R=A1D3
YI SYLLABLE LURX=A1D2;14T=A1CE;14X=A1CF;13Y=A1D6;14P=A1D7;14R=A1D9;15X=A1D8;14T=A1D4;14X=A1D5
YI SYLLABLE MA=A0B7;14P=A0B8;14T=A0B5;14X=A0B6;13E=A0C2;14X=A0C1;13GA=A234;15P=A235;15T=A232
YI SYLLABLE MGAX=A233;14E=A23E;15P=A23F;15X=A23D;14IE=A231;16X=A230;14O=A23B;15P=A23C;15T=A239
YI SYLLABLE MGOX=A23A;14U=A242;15O=A237;16P=A238;16X=A236;15P=A243;15R=A245;16X=A244;15T=A240
YI SYLLABLE MGUX=A241;13I=A0B0;14E=A0B3;15P=A0B4;15X=A0B2;14P=A0B1;14T=A0AE;14X=A0AF;13O=A0BF
YI SYLLABLE MOP=A0C0;14T=A0BD;14X=A0BE;13U=A0C5;14O=A0BB;15P=A0BC;15T=A0B9;15X=A0BA;14P=A0C6
YI SYLLABLE MUR=A0C8;15X=A0C7;14T=A0C3;14X=A0C4;13Y=A0CB;14P=A0CC;14T=A0C9;14X=A0CA;12NA=A185
YI SYLLABLE NAP=A186;14X=A184;13BA=A07F;15P=A080;15T=A07D;15X=A07E;14I=A078;15E=A07B;16P=A07C
YI SYLLABLE NBIEX=A07A;15P=A079;15T=A076;15X=A077;14O=A083;15P=A084;15T=A081;15X=A082;14U=A087
YI SYLLABLE NBUP=A088;15R=A08A;16X=A089;15T=A085;15X=A086;14Y=A08D;15P=A08E;15R=A090;16X=A08F
YI SYLLABLE NBYT=A08B;15X=A08C;13DA=A159;15P=A15A;15T=A157;15X=A158;14E=A160;15P=A161;15X=A15F
YI SYLLABLE NDI=A153;15E=A156;16X=A155;15P=A154;15T=A151;15X=A152;14O=A15D;15P=A15E;15T=A15B
YI SYLLABLE NDOX=A15C;14U=A164;15P=A165;15R=A167;16X=A166;15T=A162;15X=A163;13E=A18F;14P=A190
YI SYLLABLE NEX=A18E;13GA=A262;15P=A263;15T=A260;15X=A261;14E=A26C;15P=A26D;15X=A26B;14IE=A25E
YI SYLLABLE NGIEP=A25F;16X=A25D;14O=A269;15P=A26A;15T=A267;15X=A268;14UO=A266;16T=A264;16X=A265
YI SYLLABLE NI=A17F;14E=A182;15P=A183;15X=A181;14P=A180;14T=A17D;14X=A17E;13JI=A433;15E=A437
YI SYLLABLE NJIEP=A438;16T=A435;16X=A436;15P=A434;15T=A431;15X=A432;14O=A43D;15P=A43E;15T=A43B
YI SYLLABLE NJOX=A43C;14U=A440;15O=A43A;16X=A439;15P=A441;15R=A443;16X=A442;15X=A43F;14Y=A446
YI SYLLABLE NJYP=A447;15R=A449;16X=A448;15T=A444;15X=A445;13O=A18C;14P=A18D;14T=A18A;14X=A18B
YI SYLLABLE NRA=A396;15P=A397;15T=A394;15X=A395;14E=A39D;15P=A39E;15T=A39B;15X=A39C;14O=A399
YI SYLLABLE NROP=A39A;15X=A398;14U=A3A1;15P=A3A2;15R=A3A4;16X=A3A3;15T=A39F;15X=A3A0;14Y=A3A7
YI SYLLABLE NRYP=A3A8;15R=A3AA;16X=A3A9;15T=A3A5;15X=A3A6;13U=A193;14O=A188;15P=A189;15X=A187
YI SYLLABLE NUP=A194;14R=A196;15X=A195;14T=A191;14X=A192;13YI=A44C;15E=A450;16P=A451;16T=A44E
YI SYLLABLE NYIEX=A44F;15P=A44D;15T=A44A;15X=A44B;14O=A457;15P=A458;15T=A455;15X=A456;14U=A45B
YI SYLLABLE NYUO=A453;16P=A454;16X=A452;15P=A45C;15T=A459;15X=A45A;13ZA=A2F6;15P=A2F7;15T=A2F4
YI SYLLABLE NZAX=A2F5;14E=A2FD;15X=A2FC;14I=A2EF;15E=A2F2;16P=A2F3;16X=A2F1;15P=A2F0;15T=A2ED
YI SYLLABLE NZIX=A2EE;14OP=A2FB;15X=A2FA;14U=A2FF;15O=A2F9;16X=A2F8;15P=A300;15R=A302;16X=A301
YI SYLLABLE NZUX=A2FE;14Y=A305;15P=A306;15R=A308;16X=A307;15T=A303;15X=A304;12O=A011;13P=A012
YI SYLLABLE OT=A00F;13X=A010;12PA=A041;14P=A042;14T=A03F;14X=A040;13I=A03A;14E=A03D;15P=A03E
YI SYLLABLE PIEX=A03C;14P=A03B;14T=A038;14X=A039;13O=A048;14P=A049;14T=A046;14X=A047;13U=A04C
YI SYLLABLE PUO=A044;15P=A045;15X=A043;14P=A04D;14R=A04F;15X=A04E;14T=A04A;14X=A04B;13Y=A052
YI SYLLABLE PYP=A053;14R=A055;15X=A054;14T=A050;14X=A051;12QI=A3FE;14E=A402;15P=A403;15T=A400
YI SYLLABLE QIEX=A401;14P=A3FF;14T=A3FC;14X=A3FD;13O=A40A;14P=A40B;14T=A408;14X=A409;13U=A40E
YI SYLLABLE QUO=A406;15P=A407;15T=A404;15X=A405;14P=A40F;14R=A411;15X=A410;14T=A40C;14X=A40D
YI SYLLABLE QY=A414;14P=A415;14R=A417;15X=A416;14T=A412;14X=A413;12RA=A3C8;14P=A3C9;14T=A3C6
YI SYLLABLE RAX=A3C7;13E=A3D2;14P=A3D3;14X=A3D1;13O=A3CF;14P=A3D0;14T=A3CD;14X=A3CE;13RA=A37D
YI SYLLABLE RRAX=A37C;14E=A386;15P=A387;15T=A384;15X=A385;14O=A382;15P=A383;15T=A380;15X=A381
YI SYLLABLE RRU=A38A;15O=A37F;16X=A37E;15P=A38B;15R=A38D;16X=A38C;15T=A388;15X=A389;14Y=A390
YI SYLLABLE RRYP=A391;15R=A393;16X=A392;15T=A38E;15X=A38F;13U=A3D6;14O=A3CB;15P=A3CC;15X=A3CA
YI SYLLABLE RUP=A3D7;14R=A3D9;15X=A3D8;14T=A3D4;14X=A3D5;13Y=A3DC;14P=A3DD;14R=A3DF;15X=A3DE
YI SYLLABLE RYT=A3DA;14X=A3DB;12SA=A312;14P=A313;14T=A310;14X=A311;13E=A31C;14P=A31D;14X=A31B
YI SYLLABLE SHA=A3AD;15P=A3AE;15T=A3AB;15X=A3AC;14E=A3B8;15P=A3B9;15T=A3B6;15X=A3B7;14O=A3B4
YI SYLLABLE SHOP=A3B5;15T=A3B2;15X=A3B3;14U=A3BC;15O=A3B0;16P=A3B1;16X=A3AF;15P=A3BD;15R=A3BF
YI SYLLABLE SHURX=A3BE;15T=A3BA;15X=A3BB;14Y=A3C2;15P=A3C3;15R=A3C5;16X=A3C4;15T=A3C0;15X=A3C1
YI SYLLABLE SI=A30B;14E=A30E;15P=A30F;15X=A30D;14P=A30C;14T=A309;14X=A30A;13O=A319;14P=A31A
YI SYLLABLE SOT=A317;14X=A318;13SA=A333;15P=A334;15T=A331;15X=A332;14E=A33A;15P=A33B;15X=A339
YI SYLLABLE SSI=A32C;15E=A32F;16P=A330;16X=A32E;15P=A32D;15T=A32A;15X=A32B;14O=A337;15P=A338
YI SYLLABLE SSOT=A335;15X=A336;14U=A33E;15P=A33F;15T=A33C;15X=A33D;14Y=A342;15P=A343;15R=A345
YI SYLLABLE SSYRX=A344;15T=A340;15X=A341;13U=A320;14O=A315;15P=A316;15X=A314;14P=A321;14R=A323
YI SYLLABLE SURX=A322;14T=A31E;14X=A31F;13Y=A326;14P=A327;14R=A329;15X=A328;14T=A324;14X=A325
YI SYLLABLE TA=A123;14P=A124;14T=A121;14X=A122;13E=A12E;14P=A12F;14X=A12D;13I=A11C;14E=A11F
YI SYLLABLE TIEP=A120;15X=A11E;14P=A11D;14T=A11A;14X=A11B;13O=A12B;14P=A12C;14T=A129;14X=A12A
YI SYLLABLE TU=A132;14O=A127;15P=A128;15T=A125;15X=A126;14P=A133;14R=A135;15X=A134;14T=A130
YI SYLLABLE TUX=A131;12UO=A00D;14P=A00E;14X=A00C;12VA=A0EC;14P=A0ED;14T=A0EA;14X=A0EB;13EP=A0F3
YI SYLLABLE VEX=A0F2;13I=A0E4;14E=A0E8;15P=A0E9;15T=A0E6;15X=A0E7;14P=A0E5;14T=A0E2;14X=A0E3
YI SYLLABLE VO=A0F0;14P=A0F1;14T=A0EE;14X=A0EF;13U=A0F6;14P=A0F7;14R=A0F9;15X=A0F8;14T=A0F4
YI SYLLABLE VUX=A0F5;13Y=A0FC;14P=A0FD;14R=A0FF;15X=A0FE;14T=A0FA;14X=A0FB;12WA=A282;14P=A283
YI SYLLABLE WAT=A280;14X=A281;13E=A28B;14P=A28C;14X=A28A;13O=A288;14P=A289;14X=A287;13U=A015
YI SYLLABLE WUO=A285;15P=A286;15X=A284;12XI=A45F;14E=A463;15P=A464;15T=A461;15X=A462;14P=A460
YI SYLLABLE XIT=A45D;14X=A45E;13O=A469;14P=A46A;14T=A467;14X=A468;13UO=A466;15X=A465;13Y=A46D
YI SYLLABLE XYP=A46E;14R=A470;15X=A46F;14T=A46B;14X=A46C;12YI=A473;14E=A477;15P=A478;15T=A475
YI SYLLABLE YIEX=A476;14P=A474;14T=A471;14X=A472;13O=A47F;14P=A480;14T=A47D;14X=A47E;13U=A483
YI SYLLABLE YUO=A47B;15P=A47C;15T=A479;15X=A47A;14P=A484;14R=A486;15X=A485;14T=A481;14X=A482
YI SYLLABLE YY=A489;14P=A48A;14R=A48C;15X=A48B;14T=A487;14X=A488;12ZA=A296;14P=A297;14T=A294
YI SYLLABLE ZAX=A295;13E=A2A0;14P=A2A1;14X=A29F;13HA=A348;15P=A349;15T=A346;15X=A347;14E=A353
YI SYLLABLE ZHEP=A354;15T=A351;15X=A352;14O=A34F;15P=A350;15T=A34D;15X=A34E;14U=A357;15O=A34B
YI SYLLABLE ZHUOP=A34C;16X=A34A;15P=A358;15R=A35A;16X=A359;15T=A355;15X=A356;14Y=A35D;15P=A35E
YI SYLLABLE ZHYR=A360;16X=A35F;15T=A35B;15X=A35C;13I=A28F;14E=A292;15P=A293;15X=A291;14P=A290
YI SYLLABLE ZIT=A28D;14X=A28E;13O=A29D;14P=A29E;14T=A29B;14X=A29C;13U=A2A4;14O=A299;15P=A29A
YI SYLLABLE ZUOX=A298;14P=A2A5;14R=A2A7;15X=A2A6;14T=A2A2;14X=A2A3;13Y=A2AA;14P=A2AB;14R=A2AD
YI SYLLABLE ZYRX=A2AC;14T=A2A8;14X=A2A9;13ZA=A2DA;15P=A2DB;15T=A2D8;15X=A2D9;14E=A2E0;15P=A2E1
YI SYLLABLE ZZEX=A2DF;14I=A2D2;15E=A2D6;16P=A2D7;16T=A2D4;16X=A2D5;15P=A2D3;15T=A2D0;15X=A2D1
YI SYLLABLE ZZO=A2DD;15P=A2DE;15X=A2DC;14U=A2E3;15P=A2E4;15R=A2E6;16X=A2E5;15X=A2E2;14Y=A2E9
YI SYLLABLE ZZYP=A2EA;15R=A2EC;16X=A2EB;15T=A2E7;15X=A2E8;02N YANG=262F;01O-YO=1FA80
Z NOTATION BAG MEMBERSHIP=22FF;11DOMAIN ANTIRESTRICTION=2A64;11LEFT BINDING BRACKET=2989
Z NOTATION LEFT IMAGE BRACKET=2987;11RANGE ANTIRESTRICTION=2A65;12ELATIONAL COMPOSITION=2A3E
Z NOTATION RIGHT BINDING BRACKET=298A;17IMAGE BRACKET=2988;11SCHEMA COMPOSITION=2A1F;18PIPING=2A20
Z NOTATION SCHEMA PROJECTION=2A21;12POT=2981;11TYPE COLON=2982
ZANABAZAR SQUARE CLOSING DOUBLE-LINED HEAD MARK=11A46;25HEAD MARK=11A40
ZANABAZAR SQUARE CLUSTER-FINAL LETTER LA=11A3D;38RA=11A3C;38VA=11A3E;38YA=11A3B
ZANABAZAR SQUARE CLUSTER-INITIAL LETTER RA=11A3A;17FINAL CONSONANT MARK=11A33
ZANABAZAR SQUARE INITIAL DOUBLE-LINED HEAD MARK=11A45;25HEAD MARK=11A3F;17LETTER -A=11A29
ZANABAZAR SQUARE LETTER A=11A00;24BA=11A20;25HA=11A21;24CA=11A10;25HA=11A11;24DA=11A1B;25DA=11A16
ZANABAZAR SQUARE LETTER DDHA=11A17;25HA=11A1C;25ZA=11A25;26HA=11A26;24GA=11A0D;25HA=11A0E
ZANABAZAR SQUARE LETTER HA=11A31;24JA=11A12;24KA=11A0B;25HA=11A0C;25SSA=11A32;24LA=11A2C
ZANABAZAR SQUARE LETTER MA=11A22;24NA=11A1D;25GA=11A0F;25NA=11A18;25YA=11A13;24PA=11A1E;25HA=11A1F
ZANABAZAR SQUARE LETTER RA=11A2B;24SA=11A30;25HA=11A2E;25SA=11A2F;24TA=11A19;25HA=11A1A;25SA=11A23
ZANABAZAR SQUARE LETTER TSHA=11A24;25TA=11A14;26HA=11A15;24VA=11A2D;24YA=11A2A;24ZA=11A28
ZANABAZAR SQUARE LETTER ZHA=11A27;17MARK DOUBLE SHAD=11A43;22LONG TSHEG=11A44;22SHAD=11A42
ZANABAZAR SQUARE MARK TSHEG=11A41;17SIGN ANUSVARA=11A38;22CANDRA WITH ORNAMENT=11A37
ZANABAZAR SQUARE SIGN CANDRABINDU WITH ORNAMENT=11A36;33=11A35;22VIRAMA=11A34;24SARGA=11A39
ZANABAZAR SQUARE SUBJOINER=11A47;17VOWEL LENGTH MARK=11A0A;23SIGN AI=11A07;29U=11A08;28E=11A04
ZANABAZAR SQUARE VOWEL SIGN I=11A01;28O=11A06;29E=11A05;28REVERSED I=11A09;28U=11A03;29E=11A02
ZEBRA FACE=1F993;02RO WIDTH JOINER=200D;11NO-BREAK SPACE=FEFF;13N-JOINER=200C;11SPACE=200B
ZEUS=2BE2;01IPPER-MOUTH FACE=1F910;01NAMENNY COMBINING ATTACHING VERTICAL OMET=1CF3E
ZNAMENNY COMBINING LOWER TONAL RANGE INDICATOR=1CF41;19MARK BORZAYA=1CF24;24CHASHKA POLNAYA=1CF39
ZNAMENNY COMBINING MARK CHASHKA=1CF38;25URVED OMET=1CF3F;24DEMESTVENNY ZADERZHKA=1CF34
ZNAMENNY COMBINING MARK DVOETOCHIE=1CF3D;24GORAZDO NIZKO ON LEFT=1CF03;41RIGHT=1CF0F
ZNAMENNY COMBINING MARK GORAZDO NIZKO S KRYZHEM ON LEFT=1CF00;51RIGHT=1CF0C;32VYSOKO=1CF1F
ZNAMENNY COMBINING MARK KACHKA=1CF29;25RYZH ON LEFT=1CF2D;29=1CF40;25UPNAYA=1CF28;24LOMKA=1CF27
ZNAMENNY COMBINING MARK MALO POVYSHE ON LEFT=1CF06;40RIGHT=1CF12;37S KHOKHLOM ON LEFT=1CF09
ZNAMENNY COMBINING MARK MALO POVYSHE S KHOKHLOM ON RIGHT=1CF15;40RYZHEM=1CF19;38TRANNO=1CF1E
ZNAMENNY COMBINING MARK NIZKO ON LEFT=1CF04;33RIGHT=1CF10;30S KRYZHEM ON LEFT=1CF01;43RIGHT=1CF0D
ZNAMENNY COMBINING MARK OBLACHKO=1CF3A;25N=1CF21;25TSECHKA=1CF35
ZNAMENNY COMBINING MARK PODCHASHIE WITH VERTICAL STROKE=1CF37;34=1CF36;27VERTKA=1CF26
ZNAMENNY COMBINING MARK POVYSHE ON LEFT=1CF07;35RIGHT=1CF13;32S KHOKHLOM ON LEFT=1CF0A
ZNAMENNY COMBINING MARK POVYSHE S KHOKHLOM ON RIGHT=1CF16;35RYZHEM=1CF1B;33TRANNO=1CF1C
ZNAMENNY COMBINING MARK RAVNO=1CF22;26ZSEKA=1CF2C;24SKOBA=1CF2B;25OROCHYA NOZHKA=1CF3B
ZNAMENNY COMBINING MARK SREDNE ON LEFT=1CF05;34RIGHT=1CF11;25TRANNO MALO POVYSHE=1CF1A
ZNAMENNY COMBINING MARK TIKHAYA=1CF23;25OCHKA=1CF3C;25SATA ON LEFT=1CF02;33RIGHT=1CF0E
ZNAMENNY COMBINING MARK TSATA S KRYZHEM=1CF18;24UDARKA=1CF25;24VYSOKO ON LEFT=1CF08;34RIGHT=1CF14
ZNAMENNY COMBINING MARK VYSOKO S KHOKHLOM ON LEFT=1CF0B;45RIGHT=1CF17;34RYZHEM=1CF1D
ZNAMENNY COMBINING MARK ZADERZHKA=1CF33;25ELO=1CF20;26VOK=1CF2A;19TONAL RANGE MARK MRACHNO=1CF30
ZNAMENNY COMBINING TONAL RANGE MARK SVETLO=1CF31;36TRESVETLO=1CF32;09NEUME CHASHKA=1CF6F
ZNAMENNY NEUME CHELYUSTKA=1CF5B;15DEMESTVENNY KLYUCH=1CF75;17RBITSA=1CF6D;16OUBLE ZAPYATAYA=1CF6B
ZNAMENNY NEUME DUDA=1CFC1;16VA V CHELNU=1CF53;15FITA=1CF83;15GOLUBCHIK BORZY=1CF5E;25MRACHNY=1CF60
ZNAMENNY NEUME GOLUBCHIK SVETLY=1CF61;25TIKHY=1CF5F;26RESVETLY=1CF62;15KHAMILO=1CF6E;16LYUCH=1CF54
ZNAMENNY NEUME KOBYLA=1CF84;16RYUK TIKHY=1CF51;20=1CF50;18ZH=1CF81;16UFISMA=1CFBF
ZNAMENNY NEUME MECHIK KLYUCHENEPOSTOYANNY=1CFAB;29POVODNY=1CFAA;29VOY=1CFA9;22POVODNY=1CFA8
ZNAMENNY NEUME MECHIK=1CFA7;15NEMKA=1CFC2;15OBLAKO=1CFC0;16SOKA KLYUCHEVAYA NEPOSTOYANNAYA=1CFB4
ZNAMENNY NEUME OSOKA KLYUCHEVAYA SVETLAYA=1CFB3;22RYUKOVAYA SVETLAYA=1CFB2;21SVETLAYA=1CFB0
ZNAMENNY NEUME OSOKA TRESVETLAYA=1CFB1;20=1CFAF;15PALKA=1CF5C;17RAKLIT=1CF52;17UK=1CFC3
ZNAMENNY NEUME PEREVODKA NEPOSTOYANNAYA=1CF59;24=1CF58;16ODCHASHIE=1CF70;17LKULIZMY=1CF90
ZNAMENNY NEUME REVERSED CHELYUSTKA=1CF6C;16OG=1CF82;15SKAMEYTSA DVOECHELNAYA KLYUCHEVAYA=1CF7C
ZNAMENNY NEUME SKAMEYTSA DVOECHELNAYA NEPOSTOYANNAYA=1CF7B;38PROSTAYA=1CF79;38SVETLAYA=1CF7A
ZNAMENNY NEUME SKAMEYTSA KLYUCHENEPOSTOYANNAYA=1CF77;32VAYA SVETLAYA=1CF76;37TIKHAYA=1CF78
ZNAMENNY NEUME SKAMEYTSA MRACHNAYA=1CF71;25SVETLAYA=1CF72;25TIKHAYA=1CF74;26RESVETLAYA=1CF73
ZNAMENNY NEUME SLOZHITIE S KRYZHEM=1CF80;27ZAPYATOY=1CF7E;25ZAKRYTOE=1CF7F;24=1CF7D
ZNAMENNY NEUME STATYA NEPOSTOYANNAYA=1CF91;22S DVUMYA ZAPYATYMI=1CF8E;24KRYZHEM I ZAPYATOY=1CF8A
ZNAMENNY NEUME STATYA S KRYZHEM=1CF88;24ROGOM=1CF8D;24ZAPYATOY I KRYZHEM=1CF89;35PODCHASHIEM=1CF8F
ZNAMENNY NEUME STATYA S ZAPYATOY=1CF87;22ZAKRYTAYA S ZAPYATOY=1CF8C;31=1CF8B;21=1CF86
ZNAMENNY NEUME STOPITSA S OCHKOM=1CF57;24WITH SOROCHYA NOZHKA=1CF5A;23=1CF56
ZNAMENNY NEUME STRELA DVOECHELNAYA KLYUCHEVAYA=1CF9E;34=1CF9B;31OKRYZHEVAYA=1CF9C
ZNAMENNY NEUME STRELA DVOECHELNOPOVODNAYA KLYUCHEVAYA=1CF9F;41=1CF9D
ZNAMENNY NEUME STRELA GROMNAYA WITH SINGLE ZAPYATAYA=1CFA0;30=1CFA2;26OKRYZHEVAYA POVODNAYA=1CFA6
ZNAMENNY NEUME STRELA GROMOKRYZHEVAYA=1CFA5;27POVODNAYA WITH DOUBLE ZAPYATAYA=1CFA4
ZNAMENNY NEUME STRELA GROMOPOVODNAYA WITH SINGLE ZAPYATAYA=1CFA1;36=1CFA3
ZNAMENNY NEUME STRELA KLYUCHENEPOSTOYANNAYA=1CF99;29POVODNAYA=1CF98
ZNAMENNY NEUME STRELA KRYUKOVAYA GROMNAYA WITH SINGLE ZAPYATAYA=1CFB7;41=1CFB9
ZNAMENNY NEUME STRELA KRYUKOVAYA GROMOKRYZHEVAYA POVODNAYA=1CFBD;48=1CFBC
ZNAMENNY NEUME STRELA KRYUKOVAYA GROMOPOVODNAYA WITH DOUBLE ZAPYATAYA=1CFBB
ZNAMENNY NEUME STRELA KRYUKOVAYA GROMOPOVODNAYA WITH SINGLE ZAPYATAYA=1CFB8;47=1CFBA
ZNAMENNY NEUME STRELA KRYUKOVAYA POVODNAYA=1CFB6;33TRYASKA=1CFBE;32=1CFB5;25ZHEVAYA=1CF94
ZNAMENNY NEUME STRELA MRACHNOTIKHAYA=1CF93;22NEPOSTOYANNAYA=1CF97;22POLUPOVODNAYA=1CF95
ZNAMENNY NEUME STRELA POVODNAYA=1CF96;23ROSTAYA=1CF92;22TIKHAYA PUTNAYA=1CF9A
ZNAMENNY NEUME STRELA TRYASOGLASNAYA=1CFAC;28POVODNAYA=1CFAD;28STRELNAYA=1CFAE
ZNAMENNY NEUME VRAKHIYA KLYUCHEVAYA MRACHNAYA=1CF68;36PROSTAYA=1CF67;36SVETLAYA=1CF69
ZNAMENNY NEUME VRAKHIYA KLYUCHEVAYA TRESVETLAYA=1CF6A;24MRACHNAYA=1CF64;24PROSTAYA=1CF63
ZNAMENNY NEUME VRAKHIYA SVETLAYA=1CF65;24TRESVETLAYA=1CF66;15ZANOZHEK=1CF55;17PYATAYA=1CF5D
ZNAMENNY NEUME ZMEYTSA=1CF85;09PRIZNAK MODIFIER DIRECTION FLIP=1CF44;26KRYZH=1CF45;26LEVEL-2=1CF42
ZNAMENNY PRIZNAK MODIFIER LEVEL-3=1CF43;26ROG=1CF46;01OMBIE=1F9DF;01WJ=200D;02NBSP=FEFF;03J=200C
ZWSP=200B"

end Foldline.Text.CharacterName
