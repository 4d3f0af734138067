import BoardLint.Unicode.CodeSet

set_option autoImplicit false

/-! # Traits of characters

The properties of version 16 of Unicode that a character has or has not. -/

namespace BoardLint.Unicode

/-- The characters with a trait, by its names. -/
def traitTable : List Named := [
  ⟨["ahex", "asciihexdigit"], ["m1A76Q6"]⟩,
  ⟨["alpha", "alphabetic"], [
    "X2Q6Ql11A1415N1V1gE4CE57111s21TI1224116113111K1p21h48c51c1216f1d1E111212118R44TB5u117Ec318",
    "4843A321Gm1Db3OX192415O2JJP7B5O16818g1AC376i21G134FDJ18222M17113438222211814215C2A14316422",
    "M17121212454222417411H6B319131M17121539131231F4L44318222M171215382222924215D1G216331432111",
    "232333C4533133161e1D131N1G38131382132124S418131N1A15381313826214D3CD131f1281313115475M6131",
    "I3O191127861118I2Dw15761p1211151O111J13251161E4W11-181a14J4G1a1Z2t11125GW2A42c111512h11jA1",
    "42711142f1142X1142711142F1v1142Z2b1GGs2263iJ2H1Q5h23B7KBLCKCD1312Cq12JE141Z2v27h15c2AV1C49",
    "NU25Bi14Qs1S4-12Ko11N2B3n1q11F18p1g124Ai11BEt1M3Aa12B5h123f141612315W6JY1Bs8262c1262811111",
    "11V2r11711331734264D5317q31D1GDb31412A1135611111141B245541Hf1jPq1su1b76432Cc111512u171GN97",
    "171717171717171W1l11rE3P975254s2631w2145h11+2HW1m1GWGWk6W2jqLZ2k12j83GA2Kl1583n3d192d32Z22",
    "21118LK1X1Oq1Ca211i163113AX15Z1DT3p11CF1GGA51t19EIN3b21111O32G24B6262697171h11E6x3LazACN4n",
    "1ae8kB2g3c17C55C1D151112121i3X1hBIW22s1e1Cq351d4a1Q6QBv236262623Z1C1Q1J121F2EY1x3b2r1h8T3n",
    "1l1W1DU5h15U2a14815g1+4Ia14a14e18q1CB1F17121B1F17123q1Ct99MA8O61g119b26211i112312NAN9VX2J1",
    "2AMAQc2u162W241258131Tg1T3TZ181SRs1AMAJDIk3f2t1p1Dp1De1Y1S315Nw7g11232G3t113TA18Mg1Ik1LRN9",
    "c2h15Av191DPNp1H48Z1319W21492A111Z1I1Y12164+1711141F1A7v1N418222M171215382222316157SA11211",
    "c11A112114123111i1Y21314K3UY22211u5s127P6Y1-11131x1s121d2R2EL7v5v1d3W2V82128121U122224z282",
    "k1261112Rp12AHe251If2d6X1V91j11711n1U2M1Ef27121i13112131122O6121b1121411dAN9H1f133l31l2wSc",
    "3l3Ha6io2X3FmX1H6Pxy35dIvr6l1ns1vH7VHl2HUIm1G4VL5JmDj1p6W2W4h24v17HW2211C2Eu-58sc1f1Adt841",
    "7121Z9F1T321E48iCae2h35D397A41Xx5r21d2122122241C11171X21428171S141511371qA2P1P1V1P1V1P1V1P",
    "1V1P18qv1V66r671H2712155+1X11m3j1A7G1XAUIi1aFSa7U21lF714121F1b6x1a23131qb141R1211211A14111",
    "1614111111312112111111111121124171414111A1H53151HqJQ6Q6Qsp3Wtf1W1wX46+62Yq5Enf7FkJYj2+GYl1",
    "hw45WZ4"]⟩,
  ⟨["bidic", "bidicontrol"], ["ym11nl62Q5t14"]⟩,
  ⟨["bidim", "bidimirrored"], [
    "e12I111S111T111j11F1+p34zw12yi22A2s12E2n51W643631323414111149511I549211181W12451922J529522",
    "4O2G84K272zX1Eg2124121354533EpCM261E817631451225411322A622CJ14211121145263O2B24412224h1281",
    "e151113553413511W81ZG43212E22Ah18hDA28znp1652Y52I111S111T1111212txr11v11v11v11v11"]⟩,
  ⟨["cased"], [
    "X2Q6Ql11A1415N1V1Z6144m61a172U5W31g142224116113111K1p21h48c51c19f1tu2c111512h114WLs226Ya2B",
    "5h123W2W6W2s8262c126281111111V2r11711331734264D5317q31D1GDb31412A1135611111141641245541HW1",
    "32nPq1su1b76432Cc11151oeUk1IUa4c3341+1221118L513rPh11E6m2WwJ7C5fW1Q6Qbb1m2W3a14a1q3B1F1712",
    "1B1F1712ZE1231g119bc1p1Dp1z2MAMwu2W2WhLW2WiPr21d2122122241C11171X21428171S141511371qA2P1P1",
    "V1P1V1P1V1P1V1P18qv1A1K66b8+1oa2a2i-1Q6Q6Q"]⟩,
  ⟨["ci", "caseignorable"], [
    "d1161B1Z1111d2141114122tFW642419211x77l6151n1j111121211i11B6AB11Z11ALG1b381A14X1111URx2Bw1",
    "B4121OOh13i117259f1w1t1111484137A2D1F1w114481K2Q122v1142422331U231B2v11451241K2M611w112114",
    "8172B2U1z11C1o1131t1113531472B2T1w11216152K2S2v124481K2T1e217311w2127B9Y31299117f22R11111t",
    "1E15125B1a191c34161222P243G4D12261F1+21WJ3oT3T2U2U2W2217812B3151j15p11X22Y11s33429163x6221",
    "w11171111286A21d118Vn14m11151151e19C2W142213u11123113w1822W26o231D17416132o1-1D1Y1b3zD113B",
    "3D3D3D2C582A12125n151A11D1GDp1X1hy22n33z31F1W3W1l11rE1a143551z26z23suR1Yd16k81Y341A11S4m22",
    "EY1k21N3d3332813141P251t42QID1c18PBk13m112422H1L2Y262222C181Z11B1p1113225211R1E25211a3593v",
    "312141mvJ1p4HzHG31CGY1121f517161B1Z1111l11j12Z21L3XG1Y71r45bW161g119cI31254e1341b52zH4c11Q",
    "511x92l24c2Bn14x31s1Ff1122A3n14222141A1o13a1518+11C2q19A421-2321126121z4138L2v1231b1735c26",
    "D11111E2r282311N1q26114212k746212R2r282112g31112611b31112415Z8912W821141m442241W1Ae1624819",
    "623k1D12sC71611o2M271212w3631121711e223111xA2B2q155111N1rc5H6FecBC33Wk25x1794yF3e12YF1-1HW",
    "2212hWG41712+a3214yo4k12NWH39G27U4q43xz1t14o181E1M51Fmg171H2712155+1X11W5EmB1z14xF5+72WN7j",
    "38lr25XWZO1UW3W4m7"]⟩,
  ⟨["cwcf", "changeswhencasefolded"], [
    "X2Qw21AN18W1111111111111111111111111111111111111111111111111111111121111111111111111211111",
    "111111111111111111111111111111111111111121111111211121324121332121111121121121311123172121",
    "211111111111111112111111111111111112211131111111111111111111111111111111111111111111111111",
    "1111111117212211411111111s71g11113181611311121H19M1C332111111111111111111111111122211122p1",
    "m11111111111111111111111111111111119111111111111111111111111111111111111111111111111111111",
    "211111111111121111111111111111111111111111111111111111111111111111111111111111111111111111",
    "11111111111111111112c1m11uu2c11151gP6Ya2A6h123WA111111111111111111111111111111111111111111",
    "111111111111111111111111111111111111111111111111111111111111111111111111111111111111111111",
    "111111111111111115221111111111111111111111111111111111111111111111111111111111111111111111",
    "1111111111111111111111111119886A88886B111111188Gm123265326B4C55326f913261j1GJ1oPQmv1m1m111",
    "321111114112183111111111111111111111111111111111111111111111111111111111111111111111111111",
    "11111111111111111111111811141jgU111111111111111111111111111111111111111111111J111111111111",
    "111111111111111d41111111111111311111111111111111111111111111111111111111111111111111111111",
    "11A111121111111141112111311111111111111111111515111111111111111411123151111111O1wRm2WwJ7C5",
    "fW1Qbc1e1e4a1y4B1F1712gt1p1z4Mwv2W1WiLW1WrUY1"]⟩,
  ⟨["cwcm", "changeswhencasemapped"], [
    "X2Q6Qw11AN1V1W21q21S2E22114z21I6R1211123214152112217121123651A2c51g142233116113111K1l13X11",
    "51b48c51c1Ad1uu2c111512h123WLs226Ya2B5h123v5131G1n3y4211s3262c126281111111V2r1171133173426",
    "4D5317f913261R1HW132nPq1su1n312127c37432Cc11151oeUk1ISc4E2+19F33251P1U221118O2yQ1Sm2WwJ7C5",
    "fW1Q6Qbb1m2W3a14a1q3B1F17121B1F1712Zs1p1Dp1z2MAMwu2W2WhLW2WqUa2"]⟩,
  ⟨["cwl", "changeswhenlowercased"], [
    "X2Qb3N17X111111111111111111111111111111111111111111111111111111112111111111111111211111111",
    "111111111111111111111111111111111111112111132111213241213321211111211211213111231721212111",
    "111111111111121111111111111111122111311111111111111111111111111111111111111111111111111111",
    "111117212211411111111X91113181611311121H19Z118111111111111111111111115121122p1m11111111111",
    "111111111111111111111119111111111111111111111111111111111111111111111111111111211111111111",
    "121111111111111111111111111111111111111111111111111111111111111111111111111111111111111111",
    "11111112c1fw2c11151oMs2pa216h123WA11111111111111111111111111111111111111111111111111111111",
    "111111111111111111111111111111111111111111111111111111111111111111111111111111111111111111",
    "111911111111111111111111111111111111111111111111111111111111111111111111111111111111111111",
    "111111111119886A88886B111111188O8888885B5B4C5B5f913261j1GJ1oPQmv1m1m1113211111141121831111",
    "111111111111111111111111111111111111111111111111111111111111111111111111111111111111111111",
    "1111811141jgU111111111111111111111111111111111111111111111J111111111111111111111111111d411",
    "1111111111131111111111111111111111111111111111111111111111111111111111111A1111211111111411",
    "12111311111111111111111111515111111111111111411123151111111O1hvLQbc1e1e4a1y4B1F1712gt1p1z4",
    "Mwv2W1WiLW1WrUY1"]⟩,
  ⟨["cwt", "changeswhentitlecased"], [
    "X3Qw11f1O181111111111111111111111111111111111111111111111111111111121111111111111121111111",
    "111111111111111111111111111111111111111211113211121315121332121111121412131112131114112121",
    "111111111111111121111111111111111131111311111111111111111111111111111111111111131111111111",
    "111111181221141111111161211123214152112217121123651A2c51h11113133I1RZ112331111111111111111",
    "11111115112121q1m1111111111111111111111111111111111191111111111111111111111111111111111111",
    "111111111111111121111111111112111111111111111111111111111111111111111111111111111111111111",
    "111111111111111111111111111111111111n1d1mp36Ya2911k7131G1o31111111111111111111111111111111",
    "111111111111111111111111111111111111111111111111111111111111111111111111111111111111111111",
    "111111111111111111111111111751111111111111111111111111111111111111111111111111111111111111",
    "111111111111111111111111111111111986A88886A8888E2888888512613312842288A312sA1X1G41hQQcw1m1",
    "11321111116121A111111111111111111111111111111111111111111111111111111111111111111111111111",
    "111111111111111111111111811141Cc11151peU111111111111111111111111111111111111111111111J1111",
    "11111111111111111111111d411111111111113111111111111111111111111111111111111111111111111111",
    "1111111111A111211111111141411221111111111111111111B111111111111111411121311111111111Q1yQ1S",
    "m2WwJ7C5fX1Qjc1e1e4a1x4B1F1712Zu1p1z3Mwv2W1WiLW1YrUY1"]⟩,
  ⟨["cwu", "changeswhenuppercased"], [
    "X3Qw11f1O181111111111111111111111111111111111111111111111111111111121111111111111121111111",
    "111111111111111111111111111111111111111211113211121315121332121111121412131112131115212121",
    "111111111111112111111111111111112121131111111111111111111111111111111111111113111111111111",
    "1111181221141111111161211123214152112217121123651A2c51h11113133I1RZ11233111111111111111111",
    "111115112121q1m111111111111111111111111111111111119111111111111111111111111111111111111111",
    "111111111111112111111111111211111111111111111111111111111111111111111111111111111111111111",
    "1111111111111111111111111111111111n1d1ew2h123uN6Ya2911k7131G1o3111111111111111111111111111",
    "111111111111111111111111111111111111111111111111111111111111111111111111111111111111111111",
    "111111111111111111111111111111175111111111111111111111111111111111111111111111111111111111",
    "1111111111111111111111111111111111111986A88886A8888E2r1124111331241342288A31241nA1X1G41hQQ",
    "cw1m111321111116121A1111111111111111111111111111111111111111111111111111111111111111111111",
    "11111111111111111111111111111811141Cc11151peU111111111111111111111111111111111111111111111",
    "J111111111111111111111111111d4111111111111131111111111111111111111111111111111111111111111",
    "111111111111111A111211111111141411221111111111111111111B111111111111111411121311111111111Q",
    "1yQ1Sm2WwJ7C5fX1Qjc1e1e4a1x4B1F1712Zu1p1z3Mwv2W1WiLW1YrUY1"]⟩,
  ⟨["dash"], ["j11yg11p11Xo31bW11fW26z11d11F1cC1aW3121V241S1+D1J1l31mip12b11A1f51Wp31+91"]⟩,
  ⟨["di", "defaultignorablecodepoint"], [
    "j51XL1iM1Yw22po12r25x-15Q5n1Gqd41xap1Gl71W51l29dbl14lc58bqhOWW4"]⟩,
  ⟨["dep", "deprecated"], ["fA1ff11Ze2111fX22bc26vL2sctR1"]⟩,
  ⟨["dia", "diacritic"], [
    "+2111d21614122tF-41856H24192z75n61t1j111121211Z4842c424233Z2Rx2Bw1BY12+38f1AGSz11G134S1g21",
    "G1k31G1k31G1l13y11G171t31k31G1k31G1j32G1y31l31C611h31D5h22R1111142Y2312+11m3112e1245P711A2",
    "XM3qT2U1q4B91xA3a91K821m1F2Be31F1c19s12w11B2Y22W26o2P416123o1-1m1a15Cb1BzD113B3D3D3D2md33z",
    "91wF6f34-21ohT1C211S2o22EY1c33j32C1b11t41RIv14a11-21C1a11r43X24p11a3593W42mvJ1XOGk8111l11j",
    "12Z21yN1-a161g119zJ341b52xH6c11Q5lC3c2Bn14W61f11e22u32+11i2193e32o52m22G1O735v2312D2-2131x",
    "32x72+31s32p31j82Y8241y41p21I1n21bD1Y8112n21fD2N1id5FvcB1Wk25x17qH2YHHm22+-F41712Xu7k12NWH",
    "3368827U4Yq3+1Y67tB1z14+N2WN7j3313"]⟩,
  ⟨["emoji"], [
    "Z11615Al3141jy71C1u61M1w26F2lB2C1c51PB43d61d72A191w1415912122214121122131328351115CB221121",
    "1I122I6111232512242B25221521112K256142141212611211111613161A2F12141114311B2m1391E1E1qB2lE3",
    "J2p1141wc11C1vI111ghl31g61W52C2E12Ah2Q12N1K129L2k5Y12m322132p2231d81-1B61O7228C1242142D221",
    "829153C38321114161316s2m1c258234A3112312AZ7C41x8l11A1v5m3D3A5u17F2B69"]⟩,
  ⟨["ecomp", "emojicomponent"], ["Z11615Ap+71r61hft11s+y1QxF5mj14ipXOW3"]⟩,
  ⟨["emod", "emojimodifier"], ["x-y35"]⟩,
  ⟨["ebase", "emojimodifierbase"], [
    "zm91x61G4tZp31y132123r322BLJ3143137111O1f6241L142k5335p21G391B1-H12188619A23u11z121211H31D",
    "b73g19"]⟩,
  ⟨["epres", "emojipresentation"], [
    "wu82j643121fG2L2o1Ch11J1D182H2528151L1721141217142S1Z11114311z13O1E1xQ2p1141kbn31g61+512Ah",
    "2Q11O1K12513L2k5X1C91c21MCh145CH313d2111x52-1D41OI1Q2D1s2r2m1c261332344B279Z7C41x8l11A1v5m",
    "3D3A5u17F2B69"]⟩,
  ⟨["extpict", "extendedpictographic"], [
    "f5141jy71C1u61M1w26F2lB2C1c51PB43d61d72A191w1415912122214121122131328351115CB2211211I122I6",
    "111232512242B25221521112K256142141212611211111613161A2F12141114311B2m1391E1E1qB2lE3J2p1141",
    "wc11C1vI111ghl31d14a3CF2F1E2b1Am32C2E12AJu1RFA1K129149N6y52m322132p223145+71-1B61O7228C124",
    "2142D221829153C38321114161316s2m1c2582H31162Dw6c1C4u18A6e18U2C42E9d1Cl11A1v5u28Eo4W8+V"]⟩,
  ⟨["ext", "extender"], [
    "t51uG2kR1vD1sJ1f41v21mN1-31Zg21u11ZJ1kC1a21fy41h15d32z23suR1sl11YU1M1f41i31L2xZL1mW22hk11R",
    "141dc11b91q32oF3lc11fbK2ya1211ugS2nb11qQ3"]⟩,
  ⟨["grbase", "graphemebase"], [
    "W1-2X1D1oIm382647111K1W77c51c12o123k111121219R46HAB11k1LG1b38162214W1211UTv2B1Eh1973O41913",
    "17F1P511B5VHg1v1t1111484137A2T1218222M1711343112622211D2134O5116422M1712121243O4117A2311C1",
    "19131M17121534811231F24C718218222M17121531216222F2134IB116331432111232333C5112331331LL6318",
    "131N1G3134J321224A7A1B131N1A15322112O2124A13EB131f12112531312431A4Q221I3O19112792677A23Cm1",
    "12B88Db1211151O111A129125119A24W1O2R11111E1a1I15125n18161Db1j14161222P243G4D12261F1e111512",
    "vB142711142f1142X1142711142F1v1142Z25T3Q6s2262zK3v27IDJ329IED13Fq1217812B93A6A6B5A6v2752Y1",
    "115c2AV44234216713g125Bi14Q6B3v1223u111911286DA6A6Es2m1A4381T9C2W1426u1112311Dm1825F3+15h1",
    "2BB1D1741613215W6W2s8262c126281111111V2r11F1E261J23191B5O7n1G22R1D3X1-1i44wKMBLqu12W11uA32",
    "5j111512u172FN9717171717171717X1+2Y1Q1v2Cs6Qw16G1s24b35h11+21s29m11jpS3t19yAKl141AW12m2268",
    "k6221118LG13141P254A6u18a2ACOD1c18PB1CU6m11242221D1B471P1f16222B318112A2W11p11132252111OH2",
    "8B6262697171y14r312143A6azACN4n1ae8kB2g3c17C5511O151112121z3GzD2s171W1GGAMZ11J14451d44z42V",
    "362626233717D22C1Q1J121F2EY1x3534j13u21D31l1j1Z4T3n1GR4a19U5c1AU1b14Eg1+42A6a14a14e18q1BC1",
    "F17121B1F17123q1Ct99MA8O61g119b26211i112312N1e289m1J125X13R51W2u14K2l1F4131TA9797W2W1b16C9",
    "s13T2R5Q74C7m2f2t1p1Dp17g1CA6c18O82m6V1g13122G3x1e18MB9MI44c1SKN911s1F74U1221Cn1422214EP7A",
    "9a1519I8Z113Bq19118421G1KBI1S324612-1711141F1B6l113DA8218222M171215311114222231C7SA11211c1",
    "1112F112311312d1u182311L1113Um11261121121248Ac5l11264212Ra1p1821124BA6DJh11112826A6KSR3112",
    "419Nv5l19121a3p2C82128121O151264139Ac282g18414R1Ae1624891623k1D129Df27As5Y1EA691c1E116AT3W",
    "1P17121h27121c1L19A66121b14211117As9J249F1a1823Ns21Fo1DxSc3l315Ba6io2Z3DmX1H6Pxy35dIvr6UC3",
    "3Acs1vH7V1A4n21A6U71Am17FAA171L5JmDw1c6x2b3h25u1BDW24Su-58sc1f1Adt8417121Z9F1T321E48iCae2h",
    "35D397A2121Wx3w76qDy4q3y1s7Ad12y153M27U4z1LY231w3KCKCt29Pd4r21d2122122241C11171X21428171S1",
    "41511371qA2a92oHt14o181E17qZ1V66b8+1o4j1A72A42WAUIi14A51mES4As6U2B41WF714121F1b629m1a2714A",
    "42nOa2i2z1Y641R1211211A141111614111111312112111111111121124171414111A1H53151Hq12k8i14a3CF2",
    "F1F1b1Ak5u1TDi14972E6w4uU4H3D3t34-26C41FC4u18A6e18U2C42+1qACE2D3A5u17F2B697p41c3cW1Wtf1W1w",
    "X46+62Yq5Enf7FkJYj2+GYl1hw45WZ4"]⟩,
  ⟨["grext", "graphemeextend"], [
    "WOm3p87d8j111121211e2Bm1LG1b37262214Z11URx2Bw1991O4191315h13x19g1O1W1t1111484137A2T1w11112",
    "48191A2Q122v1142422331U231B2v11451241K2M611w1112148173A2U1x1111C191e1131t1113531472B2T1w11",
    "2211331472B2S2v1211248191A2T1e2141231181n2127C8Y3129B7f22R11111t1E15125B1a191c34161222P243",
    "G4D12261F1-L3oT4S3T2U2W2217812B91j1311r32Y11s33429163x6221w11171111286A21m1Vn14m1A43c19C2W",
    "1426u11123115u1822u431D17416132c6W2iG1Z6X1+-23j41W3W1gH6f32qkT41AW12m22m813141P251t42QID1c",
    "18PB11i13m11242221a11Z262222C181l11p1113225211g1281k712141mvJ1XNGGGkB2zI1Y71r45cq131254e13",
    "41b52zH4X25z92l24c2Bn14x31s1Ff1122A3n142271z13a1518+11C2q19118421-23246121z4138L2v121111C1",
    "91E735Z21261121134311E2r282311N1n212611211212h71246212R2r282112g311128b31112415Z8912r71A44",
    "1m442241W1Ae1624819623k1D12sC71611o2M271212w3631121711e223111xA2B2q1553N1bd516FecBC33Wk25x",
    "17uW11-14n21B2hbJ2Xp4k12N+G5368827U4q43xz1t14o181E1M51Fmg171H271215a31W57tB1z14yF4+72WN7j3",
    "7rsbOW3W4m7"]⟩,
  ⟨["grlink", "graphemelink"], [
    "jg21-31-31-31-31-31-31-31j32G1y31l31-31f61q52vs12U1z41jK1Z71b32c22hi41cqU1b11t41k41i31r91s",
    "71noN1cm11f11E1v11v32h41q31q51Y31W43n31-31y71-31s31q31j81Z82X51p21I1n21bD1a82n21fD2ilG1"]⟩,
  ⟨["hex", "hexdigit"], ["m1A76Q6fr-1A76Q6"]⟩,
  ⟨["hyphen"], ["j11-31yc11xp41fW22bm31ZN1dhp11f51t21"]⟩,
  ⟨["idsb", "idsbinaryoperator"], ["m-B22AnF1"]⟩,
  ⟨["idst", "idstrinaryoperator"], ["o-B2"]⟩,
  ⟨["idsu", "idsunaryoperator"], ["+-B2"]⟩,
  ⟨["idcompatmathcontinue"], ["o5251sz713B1FpB141M1Ybj31P1V1P1V1P1V1P1V1P1"]⟩,
  ⟨["idcompatmathstart"], ["Ym8141M1Ybj31P1V1P1V1P1V1P1V1P1"]⟩,
  ⟨["idc", "idcontinue"], [
    "m1A7Q411Ql11A111215N1V1gE4CE57111Hr312241165111K1p21h4152c51c1216f18j1111212118R44TB5g24c3",
    "182A1J21Gx12b3Es141212k1IS4B5O168h21X42A1J18222M1711342922248142152CA1112316422M1712121221",
    "1542233174117GB319131M1712152A131321F42A971318222M1712152922237342152A11G21633143211123233",
    "3C4533142161EAGD131N1G291314721321242AG418131N1A152913147262142A13CD131p1131554752AA6131I3",
    "O191127314611186A22Dw15F1Ad1211151O111N2511171A24W11N26AB111114A1a14K1I1a191v1g26k22c11151",
    "2h11jA142711142f1142X1142711142F1v1142Z22399EGGs2263iJ2H1Q5h23B7M9MBKCD1312Cq231422AX131B6",
    "v27h15c2AV1C4CAe125Bi14Q6Bb1S4-11T2B6AD18E1Gn1j23AH9Cq3Cu18A3n12B5h123G31d15sG262c12628111",
    "1111V2r11711331734264D5317F2n12J1S1D1GDp1D413CH1412A11266111111G245541Hf1tp2b769Cc111512u1",
    "71FO97171717171717171W1bG3PF15254s2271-25h11+2HW1m1GWGWk6W2jqLZ2k12j83SKm14A1p3b192d32Z222",
    "1118Ls141Jq1Cc2AA6O311n12a1CT3X2EB6V1t19E2A6N3f2O32G25A6262697171h11E6x3122A6azACN4n1ae8kB",
    "2g3c17C55C1D151112121i3X1hBIW22s1e1C4GGG32O3W151d4JA7Q411QAw236262623Z1C1Q1J121F2EY1x3b2r1",
    "e41Y4T3n1F1VW1DU5h15U2a14815g1+42A6a14a14e18q1CB1F17121B1F17123q1Ct99MA8O61g119b26211i1123",
    "12NAN9VX2J12AMAQc2u162W241258131T2341W1T3TZ181UPs1AMAJDIk3f2t1p1Dp1De18A6c1351Nw7g11232G3t",
    "1X1A18X1VMg1LRN9d2VG9y171DP7A6r11A448a1219b2441D11Z1I1b164+1711141F1A7x15A6418222M1712151A",
    "22232161572735BA11211c11A11211418D2Th25A44Uc2118Ac5s129N6Y1X231BAc1v17A6KSR2F4A67v5x1b3g2L",
    "82128121U1229CAc282k12812R-1818g231If2d6X1FA691j119FAOU2M1Ef27121i13112198A66121b112167As9",
    "N9H1f135DBr21l2wSc3l3Ha6io2X3FmX1GMAxy35dIvr6w1cs1vH7V1A6l21A6U25Bt194CA9L5JmDj13Ac6W2W4h2",
    "4v17HW2212B2Eu-58sc1f1Adt8417121Z9F1T321E48iCae2h35D397A32nY4AcGk12N+G5368827U4q43xDr21d21",
    "22122241C11171X21428171S141511371qA2P1P1V1P1V1P1V1P1V1P182o1WGt14o181E1M51FmY1V66r671H2712",
    "155+1X11m3j13E2A41XAVHw1sEg1s6h1bF714121F1b6B7f1i24Acb141R1211211A141111614111111312112111",
    "111111121124171414111A1H53151Hqf3AcW1Wtf1W1wX46+62Yq5Enf7FkJYj2+GYl1hw45WZ4mgtLm7"]⟩,
  ⟨["ids", "idstart"], [
    "X2Q6Ql11A1415N1V1gE4CE57111X451224116113111K1p21h48c51c1216f1d2R44j1h1Z121Z311F272A321G11U",
    "Tv2B1OX192415M419131NP7B5O16Hg1w1s131I17AFG48222M17113431G1D213E2A186422M17121212V411J3G91",
    "31M17121531I1F2N1B8222M17121531U213F1H116331432111232333CM1q18131N1G31Q32122U148131N1A1531",
    "V212F2H9131f121G15383O65I3O191127w1m112C7w1211151O111A12912511L4W11-181a1R5p3h1K1G64431327",
    "34DC1Hc111512h11jA142711142f1142X1142711142F1v1142Z2b1GGs2263iJ2H1Q5h23B7IDJEIED13Fq1Z1141",
    "Z2v27f1115c2AVn1U25Bi14Qs1N9r1o21z2l1H8s1UD2Ai1Qa1f13Aa12B5h123f141612315W6W2s8262c1262811",
    "11111V2r11711331734264D5317q31D1GDb31412A11266111111G245541Hf1tp2b76432Cc111512u171GN97171",
    "71717171717cH3P975254s2451w2145h11+2HW1m1GWGWk6W2jqLZ2k12j83GA2Kl1GV2m2d192d32Z2221118LG13",
    "141NTq1Eo1+163112BSANPT7l1S1G51AA51f1N318KN313o11132252111O32B73C6262697171h11E6p3TazACN4n",
    "1ae8kB2g3c17C5511A1D151112121i3X1hBIW22s1e1Cq351d4a1Q6QBv236262623Z1C1Q1J121F2EY1x3b2r1h8T",
    "3n1l1W1DU5c1AU2a14815g1+4Ia14a14e18q1CB1F17121B1F17123q1Ct99MA8O61g119b26211i112312NAN9VX2",
    "J12AMAQc2u162W21F4131Tg1T3TZ181SRs1AMAJDIk3f2t1p1Dp1Da1c1S9Nw7g162G3x1TA18Mg1Ik1LRNCr1v122",
    "1Dj1W1PQa1T1218Z131Cm1E4L111Z1I1PJ2-1711141F1A7l1c18222M17121531I1C5UA11211c111P111i1r1I4K",
    "3Um1K211u5l1f14a1m1K1x1h1D1d2Rb17v5i1q3W2V82128121OF111+282d1G111S1Ae171L1Bk1J1If2d6X1V91b",
    "1H1n1Um37121c1L1P6121W1E1dAJF11D1Y1y31l2wSc3l3Ha6io2X3FmX1H6Pxy35dIvr6UYt1vH7VHl2HUIm1G4VL",
    "5JmDj1p6W2W4h251Y2DW2211Su-58sc1f1Adt8417121Z9F1T321E48iCae2h35D397Acx5r21d2122122241C1117",
    "1X21428171S141511371qA2P1P1V1P1V1P1V1P1V1P18qv1V66b8+1o4j1A7G1XAUIi1aFSa7U21lF714121F1b6x1",
    "a271qb141R1211211A141111614111111312112111111111121124171414111A1H53151Hag4Wtf1W1wX46+62Yq",
    "5Enf7FkJYj2+GYl1hw45WZ4"]⟩,
  ⟨["ideo", "ideographic"], [
    "cWC2P9E3bUWk6W2WmKWeMkB2g3geT1Ru-58sc1f1AdZ9iCaeJWtf1W1wX46+62Yq5Enf7FkJYj2+GYl1hw45WZ4"]⟩,
  ⟨["joinc", "joincontrol"], ["iW82"]⟩,
  ⟨["loe", "logicalorderexception"], ["Wo35x35mt2321wda122112"]⟩,
  ⟨["lower", "lowercase"], [
    "X3Ql11A141a1O18111111111111111111111111111111111111111111111111111111121111111111111112111",
    "111111111111111111111111111111111111111111121111321112132412133212111112112112131112223612",
    "121111111111111111211111111111111111221113111111111111111111111111111111111111111111111111",
    "11111111117212211411111111b21a172U5W31h11113124I1RZ11233111111111111111111111115112122p1m1",
    "111111111111111111111111111111111191111111111111111111111111111111111111111111111111111121",
    "111111111112111111111111111111111111111111111111111111111111111111111111111111111111111111",
    "111111111111111111m1f1dw2h114uN6Ya2911r3W6X21111111111111111111111111111111111111111111111",
    "111111111111111111111111111111111111111111111111111111111111111111111111111111111111111111",
    "111111111111911111111111111111111111111111111111111111111111111111111111111111111111111111",
    "11111111111111111111986A88886A8888E2888888512613312842288A312v31D1GDj313231R14141228441X1G",
    "41hQQcw1m111321111114112183111111111111111111111111111111111111111111111111111111111111111",
    "111111111111111111111111111111111112711141Cc11151peU11111111111111111111111111111111111111",
    "1111111J111111111111111111111111113b411111111111131111111111111111111111111111111111111111",
    "111111111111111111111A11112111111111411121131111111111111111111151511111111111111141112131",
    "1111111111M31113rPh11E6m2WwJ7C5fX1Qjc1e1e4a1x4B1F1712ZE1231g119be1p1z3Mwv2W1WiLW1wiPQQ71IQ",
    "QQ411171BQQQQQQQQQQQQQQQQQSSP16QP16QP16QP16QP1611qv1A1K66b8+1qb2Y1"]⟩,
  ⟨["math"], [
    "h11G3V1T111j1141b11V1uM321Q223lG3jm61R3B131D1E4L5B5X2D413245I1412A112661322213163E11a2O161",
    "2424W11162Ei884K2w21UR11O1B7zD2CA46422235E11126B852v1111T493mAW2W8WGm1L26y+p11tP611Y51G3T1",
    "11T111Z4164Xj32mpn1r21d2122122241C11171X21428171S141511371qA2a92o1Wm541R1211211A1411116141",
    "11111312112111111111121124171414111A1H53151Hq12"]⟩,
  ⟨["mcm", "modifiercombiningmark"], ["qo1221Z416132XF21331V1"]⟩,
  ⟨["nchar", "noncharactercodepoint"], [
    "mk-1W1kG2+--12+--12+--12+--12+--12+--12+--12+--12+--12+--12+--12+--12+--12+--12+--12+--12"]⟩,
  ⟨["oalpha", "otheralphabetic"], [
    "bQ1TDWIE11121211e2Bm1D17G1b37442241Z11UGc3Bb32391314g31y1C376Ks122F1253A2T3w172222A1A2T3w1",
    "5422241U231B3w181312L2M343w17222292A2U1x153313A1e15v17131382B2T3w17131382B2F1C4w171313A1A2",
    "T3h261118I2z1127I1Z312612G1Z5J9B1a1k3C1124N443132734DC11A4qp12U2U2U2Y2Jy52Y11s3C49+65v1A2K",
    "g22B3n15m1Fy13U922v1Bo1JyCY1Xs1q1sd2W1qZU8Y12YB181N5u22o1G11v11c15SCj14m1Cb11Z2EC182j13o11",
    "132251i1551j78pvJ1tY25cq131254qO4X21XA2l21Z83r1Ej12B3j1991z13a1CI2v13m1DE2y29216121z4AN4w1",
    "72222A1A2q2911211412d3D13g3Ij7727T2o2F11g3Bd3EX8Dt7612223111k472641SAg1514IBk1EtC817p2M1Ew",
    "363112131131Y251214yA49211m1733zkGHWn311t174z22ibJ1Xx871H271215a31tb21e-1Q6Q6Q"]⟩,
  ⟨["odi", "otherdefaultignorablecodepoint"], ["lQ1lm32po12lb21+d41xnp11l29dWWQ11UW3W4m7mm3"]⟩,
  ⟨["ogrext", "othergraphemeextend"], [
    "+j21O1cB1O1c31O1e7111421292d31O1t31F1rf21U1WW11511152b31d22uW11XX42ZfU1i31zkL2Wn41q31e81E1",
    "91W3191211351W71C1n71c81vJ1C1Zm11kbK2phO266jrhOW3"]⟩,
  ⟨["oidc", "otheridcontinue"], ["t51lM1X-39ep11nn12jd41fpp11"]⟩,
  ⟨["oids", "otheridstart"], ["ba62na21L1ix32"]⟩,
  ⟨["olower", "otherlowercase"], [
    "g51F1rF972U5W31q11Xi31lX3-1D1Y1b1nL1D1GDp6GmQQoy12+mU2o61X4332YR491sWN1231g119rZs1+1"]⟩,
  ⟨["omath", "othermath"], [
    "+21nR321Q222WX71R3B1W14O2E2X2D413245I1412A113561322213163455h25241212111522424I2211171162Y",
    "94e5211O1H1zD2C955522235E11126O2v1111T492sA2VApCM-14W12ZZr111141p6111Xcr1r21d2122122241C11",
    "171X21428171S141511371qA2P1P1V1P1V1P1V1P1V1P182o1Wm541R1211211A141111614111111312112111111",
    "111121124171414111A1H53151H"]⟩,
  ⟨["oupper", "otheruppercase"], ["Wh8GcQQWZp3Q6Q6Q"]⟩,
  ⟨["patsyn", "patternsyntax"], [
    "X1FA7Q411Q4Y1711121112414131N1V1uu7O8F2J1An9mMW5sJUiZ1WGW4XC34PF1jep12b82"]⟩,
  ⟨["patws", "patternwhitespace"], ["95I1a31ey72O2"]⟩,
  ⟨["pcm", "prependedconcatenationmark"], ["Wm16t61n11WC2m21w+X21F1"]⟩,
  ⟨["qmark", "quotationmark"], ["Y1141Z41F1yw78P2dm31fE4D3Xnp14z5141w22"]⟩,
  ⟨["radical"], ["WqBQ1v2Cs6"]⟩,
  ⟨["ri", "regionalindicator"], ["cly3Q"]⟩,
  ⟨["sterm", "sentenceterminal"], [
    "X11C1G1fg11p43q51h13s71z111132b92at12sO142bO1c62z42j1151w92YB4Y52A222T3x52X22aT1N293lb33o9",
    "1D1M2jD1ydT1k82Z7131+B2s22-21u42p43m42v71cnK122x1132f51C1G1X21qt22zd15i14z52r34-33X4261G2u",
    "2212i31g92r32rB25Ff32v73bG111x72t22aD2qL2g22fvI2b41X22B1fH2e91cmJ1el71"]⟩,
  ⟨["sd", "softdotted"], [
    "f32a61v81U1q11K1WA1Y3111fe61p11D131a41z41bD1s62ov21bzf32o12o12o12o12o12o12o12o12o12o12o12o",
    "12ca21n92Q1"]⟩,
  ⟨["term", "terminalpunctuation"], [
    "X11A111B231+P181XG1v11e21E113q51h1B11h72s1618V1b82qd12i5146t92rO8bO1y33d22z4331d1422w92YB4",
    "Y52A213T3x55+12aT1N293lb33o91D141A11232iD2xdT2j83Z75+B2s22-21t43p43-31G2v71cnK122v1314f51A",
    "111B231X2121wX11m11ca11d61s92u46a26v24uT5i14z57m34-33X4261G2u25i31g92r33C2cB43Ff32v73bG111",
    "x72t2242+C3j11bK2g22hf15vlH2b41X23A1fH2d92cmJ1dl74"]⟩,
  ⟨["uideo", "unifiedideograph"], [
    "WWDWk6W2WmKkmM21112A1111223skX2Wtf1W1wX46+62Yq5Enf7FkJYj4hw45WZ4"]⟩,
  ⟨["upper", "uppercase"], [
    "X2Qb3N17X111111111111111111111111111111111111111111111111111111112111111111111111211111111",
    "111111111111111111111111111111111111112111132111213241213321211111211211213111231712121211",
    "111111111111121111111111111111121211311111111111111111111111111111111111111111111111111111",
    "111117212211411111111X91113181611311121H19Z11233111111111111111111111115121122p1m111111111",
    "111111111111111111111111191111111111111111111111111111111111111111111111111111112111111111",
    "111211111111111111111111111111111111111111111111111111111111111111111111111111111111111111",
    "1111111112c1fw2c11151oMs2pa216h123WA111111111111111111111111111111111111111111111111111111",
    "111111111111111111111111111111111111111111111111111111111111111111111111111111111111111111",
    "111119111111111111111111111111111111111111111111111111111111111111111111111111111111111111",
    "11111111111119886A88886B111111188e24C4C4C5B4c8141332321356111111424A251QGJ1oPQmv1m1m111321",
    "111114112183111111111111111111111111111111111111111111111111111111111111111111111111111111",
    "11111111111111111111811141jgU111111111111111111111111111111111111111111111J111111111111111",
    "111111111111d4111111111111131111111111111111111111111111111111111111111111111111111111111A",
    "111121111111141112111311111111111111111111515111111111111111411123151111111O1hvLQbc1e1e4a1",
    "y4B1F1712gt1p1z4Mwv2W1WiLW1WjPQQQQQQ11221222418QQQ2142817R214151137RQQQQQQQQQQQUPX1PX1PX1P",
    "X1PX11rf4Y1kW2Q6Q6Q"]⟩,
  ⟨["vs", "variationselector"], ["hW6311mlv1GmtWQm7"]⟩,
  ⟨["wspace", "whitespace", "space"], ["95I1a31Q1-k51-h2BT251l11Wz31"]⟩,
  ⟨["xidc", "xidcontinue"], [
    "m1A7Q411Ql11A111215N1V1gE4CE57111Hr312331165111K1p21h4152c51c1216f18j1111212118R44TB5g24c3",
    "182A1J21Gx12b3Es141212k1IS4B5O168h21X42A1J18222M1711342922248142152CA1112316422M1712121221",
    "1542233174117GB319131M1712152A131321F42A971318222M1712152922237342152A11G21633143211123233",
    "3C4533142161EAGD131N1G291314721321242AG418131N1A152913147262142A13CD131p1131554752AA6131I3",
    "O191127314611186A22Dw15F1Ad1211151O111N2511171A24W11N26AB111114A1a14K1I1a191v1g26k22c11151",
    "2h11jA142711142f1142X1142711142F1v1142Z22399EGGs2263iJ2H1Q5h23B7M9MBKCD1312Cq231422AX131B6",
    "v27h15c2AV1C4CAe125Bi14Q6Bb1S4-11T2B6AD18E1Gn1j23AH9Cq3Cu18A3n12B5h123G31d15sG262c12628111",
    "1111V2r11711331734264D5317F2n12J1S1D1GDp1D413CH1412A11266111111G245541Hf1tp2b769Cc111512u1",
    "71FO97171717171717171W1bG3PF15254s222231-25h11+2HW1m1GWGWk6W2jqLZ2k12j83SKm14A1p3b192d32Z2",
    "221118Ls141Jq1Cc2AA6O311n12a1CT3X2EB6V1t19E2A6N3f2O32G25A6262697171h11E6x3122A6azACN4n1ae8",
    "kB2g3c17C55C1D151112121i3X1h46w6IW22s1e1A6GGG32O3X1111311111111+3JA7Q411QAw236262623Z1C1Q1",
    "J121F2EY1x3b2r1e41Y4T3n1F1VW1DU5h15U2a14815g1+42A6a14a14e18q1CB1F17121B1F17123q1Ct99MA8O61",
    "g119b26211i112312NAN9VX2J12AMAQc2u162W241258131T2341W1T3TZ181UPs1AMAJDIk3f2t1p1Dp1De18A6c1",
    "351Nw7g11232G3t1X1A18X1VMg1LRN9d2VG9y171DP7A6r11A448a1219b2441D11Z1I1b164+1711141F1A7x15A6",
    "418222M1712151A22232161572735BA11211c11A11211418D2Th25A44Uc2118Ac5s129N6Y1X231BAc1v17A6KSR",
    "2F4A67v5x1b3g2L82128121U1229CAc282k12812R-1818g231If2d6X1FA691j119FAOU2M1Ef27121i13112198A",
    "66121b112167As9N9H1f135DBr21l2wSc3l3Ha6io2X3FmX1GMAxy35dIvr6w1cs1vH7V1A6l21A6U25Bt194CA9L5",
    "JmDj13Ac6W2W4h24v17HW2212B2Eu-58sc1f1Adt8417121Z9F1T321E48iCae2h35D397A32nY4AcGk12N+G53688",
    "27U4q43xDr21d2122122241C11171X21428171S141511371qA2P1P1V1P1V1P1V1P1V1P182o1WGt14o181E1M51F",
    "mY1V66r671H2712155+1X11m3j13E2A41XAVHw1sEg1s6h1bF714121F1b6B7f1i24Acb141R1211211A141111614",
    "111111312112111111111121124171414111A1H53151Hqf3AcW1Wtf1W1wX46+62Yq5Enf7FkJYj2+GYl1hw45WZ4",
    "mgtLm7"]⟩,
  ⟨["xids", "xidstart"], [
    "X2Q6Ql11A1415N1V1gE4CE57111X451233116113111K1p21h48c51c1216f1d2R44j1h1Z121Z311F272A321G11U",
    "Tv2B1OX192415M419131NP7B5O16Hg1w1s131I17AFG48222M17113431G1D213E2A186422M17121212V411J3G91",
    "31M17121531I1F2N1B8222M17121531U213F1H116331432111232333CM1q18131N1G31Q32122U148131N1A1531",
    "V212F2H9131f121G15383O65I3O191127w1m111D7w1211151O111A11A12511L4W11-181a1R5p3h1K1G64431327",
    "34DC1Hc111512h11jA142711142f1142X1142711142F1v1142Z2b1GGs2263iJ2H1Q5h23B7IDJEIED13Fq1Z1141",
    "Z2v27f1115c2AVn1U25Bi14Qs1N9r1o21z2l1H8s1UD2Ai1Qa1f13Aa12B5h123f141612315W6W2s8262c1262811",
    "11111V2r11711331734264D5317q31D1GDb31412A11266111111G245541Hf1tp2b76432Cc111512u171GN97171",
    "71717171717cH3P975254s2631w2145h11+2HW1m1GWGWk6W2jqLZ2k12j83GA2Kl1GV2m2d192d32Z2221118LG13",
    "141NTq1Eo1+163112BSANPT7l1S1G51AA51f1N318KN313o11132252111O32B73C6262697171h11E6p3TazACN4n",
    "1ae8kB2g3c17C5511A1D151112121i3X1h46w6IW22s1e1At3111311111111+3a1Q6QBu12V36262623Z1C1Q1J12",
    "1F2EY1x3b2r1h8T3n1l1W1DU5c1AU2a14815g1+4Ia14a14e18q1CB1F17121B1F17123q1Ct99MA8O61g119b2621",
    "1i112312NAN9VX2J12AMAQc2u162W21F4131Tg1T3TZ181SRs1AMAJDIk3f2t1p1Dp1Da1c1S9Nw7g162G3x1TA18M",
    "g1Ik1LRNCr1v1221Dj1W1PQa1T1218Z131Cm1E4L111Z1I1PJ2-1711141F1A7l1c18222M17121531I1C5UA11211",
    "c111P111i1r1I4K3Um1K211u5l1f14a1m1K1x1h1D1d2Rb17v5i1q3W2V82128121OF111+282d1G111S1Ae171L1B",
    "k1J1If2d6X1V91b1H1n1Um37121c1L1P6121W1E1dAJF11D1Y1y31l2wSc3l3Ha6io2X3FmX1H6Pxy35dIvr6UYt1v",
    "H7VHl2HUIm1G4VL5JmDj1p6W2W4h251Y2DW2211Su-58sc1f1Adt8417121Z9F1T321E48iCae2h35D397Acx5r21d",
    "2122122241C11171X21428171S141511371qA2P1P1V1P1V1P1V1P1V1P18qv1V66b8+1o4j1A7G1XAUIi1aFSa7U2",
    "1lF714121F1b6x1a271qb141R1211211A141111614111111312112111111111121124171414111A1H53151Hag4",
    "Wtf1W1wX46+62Yq5Enf7FkJYj2+GYl1hw45WZ4"]⟩]

/-- The characters with a trait. -/
def trait? (name : String) : Option CodeSet := Named.find? traitTable name

end BoardLint.Unicode
