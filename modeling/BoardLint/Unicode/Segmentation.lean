import BoardLint.Unicode.CodeSet

set_option autoImplicit false

/-! # Segmentation

The classes of characters by which texts are divided into what a reader takes for one character,
into words and into sentences. -/

namespace BoardLint.Unicode

/-- The classes for characters as a reader sees them. -/
def clusterTable : List Named := [
  ⟨["cr"], ["D1"]⟩,
  ⟨["control", "cn"], ["0A121I-2X1D1kh11nl41y-1122O7n1Glqt11m7CqXDGWZY14lc58bqhOW1W3W4m7mm3"]⟩,
  ⟨["extend", "ex"], [
    "WOm3p87d8j111121211e2Bm1LG1b37262214Z11URx2Bw1991O4191315h13x19g1O1W1t1111484137A2T1w11112",
    "48191A2Q122v1142422331U231B2v11451241K2M611w1112148173A2U1x1111C191e1131t1113531472B2T1w11",
    "2121315272B2S2v1211248191A2T1e2141231181n2127C8Y3129B7f22R11111t1E15125B1a191c34161222P243",
    "G4D12261F1-L3oT3T2U2U2W2217812B91j1311r32Y11s33429163x6221w11171111286A21m1Vn14m171151e19C",
    "2W142213u11123113w1822u431D17416132c6W2iG1Z6X1+-23j41W3W1gH6f32qkT41AW12m22m813141P251t42Q",
    "ID1c18PBk13m112422d11Z262222C181l11p1113225211g1281k712141mvJ1XNGGGkB2zI1Y71r45cq131254e13",
    "41b52zH4X25z92l24c2Bn14x31s1Ff1122A3n142271z13a1518+11C2q19A421-2321126121z4138L2v121111M1",
    "E735c26D11111E2r282311N1n212611211212h71246212R2r282112g31112611b332415Z8912r71A21141m4422",
    "41W1Ae1624819623k1D12sC71611o2M271212w3631121711e223111xA2B2q155111N1bd516FecBC33Wk25x17uW",
    "11-14n21ubJ2Xp4k12N+G113458827U4q43xz1t14o181E1M51Fmg171H271215a31W57tB1z14yF4+72WN7j37mr2",
    "5WXZOW3W4m7"]⟩,
  ⟨["l"], ["We4W3WWc1T"]⟩,
  ⟨["lf"], ["A1"]⟩,
  ⟨["lv"], [
    "WWh11R1R1R1R1R1R1R1R1R1R1R1R1R1R1R1R1R1R1R1R1R1R1R1R1R1R1R1R1R1R1R1R1R1R1R1R1R1R1R1R1R1R1R",
    "1R1R1R1R1R1R1R1R1R1R1R1R1R1R1R1R1R1R1R1R1R1R1R1R1R1R1R1R1R1R1R1R1R1R1R1R1R1R1R1R1R1R1R1R1R",
    "1R1R1R1R1R1R1R1R1R1R1R1R1R1R1R1R1R1R1R1R1R1R1R1R1R1R1R1R1R1R1R1R1R1R1R1R1R1R1R1R1R1R1R1R1R",
    "1R1R1R1R1R1R1R1R1R1R1R1R1R1R1R1R1R1R1R1R1R1R1R1R1R1R1R1R1R1R1R1R1R1R1R1R1R1R1R1R1R1R1R1R1R",
    "1R1R1R1R1R1R1R1R1R1R1R1R1R1R1R1R1R1R1R1R1R1R1R1R1R1R1R1R1R1R1R1R1R1R1R1R1R1R1R1R1R1R1R1R1R",
    "1R1R1R1R1R1R1R1R1R1R1R1R1R1R1R1R1R1R1R1R1R1R1R1R1R1R1R1R1R1R1R1R1R1R1R1R1R1R1R1R1R1R1R1R1R",
    "1R1R1R1R1R1R1R1R1R1R1R1R1R1R1R1R1R1R1R1R1R1R1R1R1R1R1R1R1R1R1R1R1R1R1R1R1R1R1R1R1R1R1R1R1R",
    "1R1R1R1R1R1R1R1R1R1R1R1R1R1R1R1R1R1R1R1R1R1R1R1R1R1R1R1R1R1R1R1R1R1R1R1R1R1R1R1R1R1R1R1R1R",
    "1R1R1R1R1R1R1R1R1R1R1R1R1R1R1R1R1R1R1R1R1R1R1R1R1R1R1R1R1R1R1R1R1R1R1R1R1R1R1R1R1"]⟩,
  ⟨["lvt"], [
    "XWh1R1R1R1R1R1R1R1R1R1R1R1R1R1R1R1R1R1R1R1R1R1R1R1R1R1R1R1R1R1R1R1R1R1R1R1R1R1R1R1R1R1R1R1",
    "R1R1R1R1R1R1R1R1R1R1R1R1R1R1R1R1R1R1R1R1R1R1R1R1R1R1R1R1R1R1R1R1R1R1R1R1R1R1R1R1R1R1R1R1R1",
    "R1R1R1R1R1R1R1R1R1R1R1R1R1R1R1R1R1R1R1R1R1R1R1R1R1R1R1R1R1R1R1R1R1R1R1R1R1R1R1R1R1R1R1R1R1",
    "R1R1R1R1R1R1R1R1R1R1R1R1R1R1R1R1R1R1R1R1R1R1R1R1R1R1R1R1R1R1R1R1R1R1R1R1R1R1R1R1R1R1R1R1R1",
    "R1R1R1R1R1R1R1R1R1R1R1R1R1R1R1R1R1R1R1R1R1R1R1R1R1R1R1R1R1R1R1R1R1R1R1R1R1R1R1R1R1R1R1R1R1",
    "R1R1R1R1R1R1R1R1R1R1R1R1R1R1R1R1R1R1R1R1R1R1R1R1R1R1R1R1R1R1R1R1R1R1R1R1R1R1R1R1R1R1R1R1R1",
    "R1R1R1R1R1R1R1R1R1R1R1R1R1R1R1R1R1R1R1R1R1R1R1R1R1R1R1R1R1R1R1R1R1R1R1R1R1R1R1R1R1R1R1R1R1",
    "R1R1R1R1R1R1R1R1R1R1R1R1R1R1R1R1R1R1R1R1R1R1R1R1R1R1R1R1R1R1R1R1R1R1R1R1R1R1R1R1R1R1R1R1R1",
    "R1R1R1R1R1R1R1R1R1R1R1R1R1R1R1R1R1R1R1R1R1R1R1R1R1R1R1R1R1R1R1R1R1R1R1R1R1R1R1R1R"]⟩,
  ⟨["prepend", "pp"], ["Wm16t61n11WC2m21hZ11kxW21F1q72xx1111u71f26yL1xD1"]⟩,
  ⟨["regionalindicator", "ri"], ["cly3Q"]⟩,
  ⟨["spacingmark", "sm"], [
    "Ze21t11238412o12x126222s11w13Y21w138112r12y116222o31123313q13z14z12w1112122212d11E2x125313",
    "r12i2267J2-11-31g42-11n5192P2i11mq11U1X417812wA4234216W72w1111L6n41s111512z11U14221y112311",
    "32m1882h51L1hvY1221u22o1Gk42l11m124223k3222O1z412251j72121211pWP111-31j1342p31O2x11m1392D1",
    "z233211g53V2x11142223K2q237121141211b338231h3261121121k726421n338211j311261l31b8391u751241",
    "2111k438441q21T2+11tC1E1g317121r654211+A2C1m128211elG3an3t1e32qhO161"]⟩,
  ⟨["t"], ["ej4u2hkn1n1"]⟩,
  ⟨["v"], ["Wh4e2emn1N"]⟩,
  ⟨["zwj"], ["jW81"]⟩]

/-- The classes for words. -/
def wordTable : List Named := [
  ⟨["aletter", "le"], [
    "X2Q6Ql11A1415N1V1WF6Y1m351224116113111K1p21h48c51c124111f111e31i1h1Z121Z311F272A321G11UTv2",
    "B1OX192415M419131NP7B5O16Hg1w1s131I17AFG48222M17113431G1D213E2A186422M17121212V411J3G9131M",
    "17121531I1F2N1B8222M17121531U213F1H116331432111232333CM1q18131N1G31Q32122U148131N1A1531V21",
    "2F2H9131f121G15383O65I3O191127v91-181a1R5p8c111512h11jA142711142f1142X1142711142F1v1142Z2b",
    "1GGs2263iJ2H1Q5h23B7IDJEIED13l5v2752Y1115c2AVX7Nk7l1H8s1UD2Ai1Qa1f13Aa12B5h123f141612315W6",
    "W2s8262c126281111111V2r11711331734264D5317q31D1GDb31412A1135611111141B245541Hf1jPq1su1b764",
    "32Cc111512u171GN9717171717171717m21rE1r12e6h11+2HW1WoRja1Z2k12j83GA2Kl1GV2m2Oc6221118LG131",
    "41NTq1Eo1+163112BSANPT7l1S1m1f1N318q4B73C6262697171w16p3TazACN4n1au87C5u1Y3X1hBIW22s1e1Cq3",
    "51d4a1Q6Qb2V36262623Z1C1Q1J121F2EY1x3b2r1h8T3n1l1W1DU5c1AU2a14815g1+4Ia14a14e18q1CB1F17121",
    "B1F17123q1Ct99MA8O61g119b26211i112312NAN9VX2J12AMAQc2u162W21F4131Tg1T3TZ181SRs1AMAJDIk3f2t",
    "1p1Dp1Da1c1S9Nw7g162G3x1TA18Mg1Ik1LRNCr1v1221Dj1W1PQa1T1218Z131Cm1E4L111Z1I1PJ2-1711141F1A",
    "7l1c18222M17121531I1C5UA11211c111P111i1r1I4K3Um1K211u5l1f14a1m1K1x1h1D1dAi1q3W2V82128121OF",
    "111+282d1G111S1Ae171L1Bk1J1If2d6X1V91b1H1n1Um37121c1L1P6121W1E1dAJF11D1Y1y31l2wSc3l3Ha6io2",
    "X3FmX1H6Pxy35dIvr6UYt1vH7VHl2HUIm1G4VL5JmDj1p6W2W4h251Y2DW2211yWJh35D397Acx5r21d2122122241",
    "C11171X21428171S141511371qA2P1P1V1P1V1P1V1P1V1P18qv1V66b8+1o4j1A7G1XAUIi1aFSa7U21lF714121F",
    "1b6x1a271qb141R1211211A141111614111111312112111111111121124171414111A1H53151HqJQ6Q6Q"]⟩,
  ⟨["cr"], ["D1"]⟩,
  ⟨["doublequote", "dq"], ["Y11"]⟩,
  ⟨["extend"], [
    "WOm3p87d8j111121211e2Bm1LG1b37262214Z11URx2Bw1991O4191315h13x19g1O1X1s131I17A2T3u111722239",
    "1A2Q123u1115422331U231B3u11181313K2M613u1117222373A2U1x15331491e15t1117131472B2T3u11171314",
    "72B2F1C4t1217131491A2T3c21461118I2z1127C8Y3129B7f22R1111142n1K125B1a191a3KN443132734DC11A4",
    "-L3oT4S3T2U2W2W191j1311r32Y11s3C4Cx65v1A1T21m1Vn15l1Hc19C3UDu1Em1Ku431L416123c6W2iG1Z6X1+-",
    "23j41W3W1gH6f32qkT41AW12m22m813141N541p22o1IQID1c18PDi14l1Ea11Z2EC182j13o1113225211f1552i7",
    "812mvJ1XNGGGkB2zI1Y71r45cq131254e1341b52zH4X25z92l24c2Bn14w33r1Ff1122A4j1B71z13a1EG2i11C3m",
    "1E8412y2C6121z4CL4t1217222391A22735Z291121141511E2o2IN1n2Kh7729R2o2Hg3Db3FW8Fr7612241112j4",
    "72731SAe1714819Bk1GrC818o2M1Ew3631121711Y251215xA49211m1735N1bd516FecBIWk25x17uW111t174n21",
    "B2hbJ2Xp4k12N+G5368827U4q43xz1t14o181E1M51Fmg171H271215a31W57tB1z14yF4+72WN7j37mr25WXZOW3W",
    "4m7"]⟩,
  ⟨["extendnumlet", "ex"], ["-21l+71F2J1+kt12O3l71"]⟩,
  ⟨["format", "fo"], ["j51og16M1W61n11WC2m21hv31--12Q5n151Alqt11v73Xc41F1Yx8GWZY14lc58cqhO1"]⟩,
  ⟨["hebrewletter", "hl"], ["mk1R44gfz111A1D151112121A"]⟩,
  ⟨["katakana", "ka"], ["nXC5b323x214m7Gm6l11u2kWp1u1oYi14171211-83o11E4"]⟩,
  ⟨["lf"], ["A1"]⟩,
  ⟨["midletter", "ml"], ["w11y31lM1tE1q41on61hlt11X21a61"]⟩,
  ⟨["midnum", "mn"], ["i11E1YQ1gG1Y42+21hC1hY61hkt1131x1131t51E1"]⟩,
  ⟨["midnumlet", "mb"], ["k11f-72A1jnt11q5161"]⟩,
  ⟨["newline", "nl"], ["B2u31Yz72"]⟩,
  ⟨["numeric", "nu"], [
    "m1Acn1A11a4Ac6AyCAs3As3As3As3As3As3As3As3As3AW3As3Ac2As8Ac2Acw1Ac1Ai9AW4Ac5A6As5As2Ac4A6Ac",
    "kY1AcLAc1Ac6AMAs2AsCAsuKAci1Aca2A6AyOAW4Ay1Am4As8AsAAs3AsBAc3A6Ki2AcDAc3AsKAs2As7Ac2AcDAsk",
    "GAcf2As2Ac4AsGAsxNAqs2o1Wg2AcDAsFAt7ArQAsq4A"]⟩,
  ⟨["regionalindicator", "ri"], ["cly3Q"]⟩,
  ⟨["singlequote", "sq"], ["d11"]⟩,
  ⟨["wsegspace"], ["W11-o51-h2713q21Wz31"]⟩,
  ⟨["zwj"], ["jW81"]⟩]

/-- The classes for sentences. -/
def sentenceTable : List Named := [
  ⟨["aterm", "at"], ["k11r-71jnt11x51"]⟩,
  ⟨["cr"], ["D1"]⟩,
  ⟨["close", "cl"], [
    "Y1143n1111T111j11F1+p34zw12xh28P2A2s12E2vJ4T2mX167El22VApCM-14W12YW1EE22AO1I8hDA2813+ep12t",
    "62SG22G6f52n1111T1111212ouz13"]⟩,
  ⟨["extend", "ex"], [
    "WOm3p87d8j111121211e2Bm1LG1b37262214Z11URx2Bw1991O4191315h13x19g1O1X1s131I17A2T3u111722239",
    "1A2Q123u1115422331U231B3u11181313K2M613u1117222373A2U1x15331491e15t1117131472B2T3u11171314",
    "72B2F1C4t1217131491A2T3c21461118I2z1127C8Y3129B7f22R1111142n1K125B1a191a3KN443132734DC11A4",
    "-L3oT4S3T2U2W2W191j1311r32Y11s3C4Cx65v1A1T21m1Vn15l1Hc19C3UDu1Em1Ku431L416123c6W2iG2Y6X1+-",
    "23j41W3W1gH6f32qkT41AW12m22m813141N541p22o1IQID1c18PDi14l1Ea11Z2EC182j13o1113225211f1552i7",
    "812mvJ1XNGGGkB2zI1Y71r45cq131254e1341b52zH4X25z92l24c2Bn14w33r1Ff1122A4j1B71z13a1EG2i11C3m",
    "1E8412y2C6121z4CL4t1217222391A22735Z291121141511E2o2IN1n2Kh7729R2o2Hg3Db3FW8Fr7612241112j4",
    "72731SAe1714819Bk1GrC818o2M1Ew3631121711Y251215xA49211m1735N1bd516FecBIWk25x17uW111t174n21",
    "B2hbJ2Xp4k12N+G5368827U4q43xz1t14o181E1M51Fmg171H271215a31W57tB1z14yF4+72WN7j37rsbOW3W4m7"]⟩,
  ⟨["format", "fo"], ["j51og16M1W61n11WC2m21hv31y-1122Q5n151Alqt11v73Xc41F1Yx8GWZY14lc58cqhO1"]⟩,
  ⟨["lf"], ["A1"]⟩,
  ⟨["lower", "lo"], [
    "X3Ql11A141a1O18111111111111111111111111111111111111111111111111111111121111111111111112111",
    "111111111111111111111111111111111111111111121111321112132412133212111112112112131112223612",
    "121111111111111111211111111111111111221113111111111111111111111111111111111111111111111111",
    "11111111117212211411111111b21a172U5i41113124I1RZ11233111111111111111111111115112122p1m1111",
    "111111111111111111111111111111191111111111111111111111111111111111111111111111111111121111",
    "111111112111111111111111111111111111111111111111111111111111111111111111111111111111111111",
    "111111111111111m1f1px21xN6Ya2911r3W6X21111111111111111111111111111111111111111111111111111",
    "111111111111111111111111111111111111111111111111111111111111111111111111111111111111111111",
    "111111911111111111111111111111111111111111111111111111111111111111111111111111111111111111",
    "11111111111111986A88886A8888E2888888512613312842288A312v31D1GDj313231R14141228441X1G41hQQc",
    "w1m111321111114112183111111111111111111111111111111111111111111111111111111111111111111111",
    "111111111111111111111111111112711141Cc11151peU11111111111111111111111111111111111111111111",
    "1J111111111111111111111111113b411111111111131111111111111111111111111111111111111111111111",
    "111111111111111A11112111111111411121131111111111111111111151511111111111111141112131111111",
    "1111M31113rPh11E6m2WwJ7C5fX1Qjc1e1e4a1x4B1F1712ZE1231g119be1p1z3Mwv2W1WiLW1wiPQQ71IQQQ4111",
    "71BQQQQQQQQQQQQQQQQQSSP16QP16QP16QP16QP1611qv1A1K66b8+1qb2Y1"]⟩,
  ⟨["numeric", "nu"], [
    "m1Acn1A12Z4Ac6AyCAs3As3As3As3As3As3As3As3As3AW3As3Ac2As8Ac2Acw1Ac1Ai9AW4Ac5A6As5As2Ac4A6Ac",
    "kY1AcLAc1Ac6AMAs2AsCAsuKAci1Aca2A6AyOAW4Ay1Am4As8AsAAs3AsBAc3A6Ki2AcDAc3AsKAs2As7Ac2AcDAsk",
    "GAcf2As2Ac4AsGAsxNAqs2o1Wg2AcDAsFAt7ArQAsq4A"]⟩,
  ⟨["oletter", "le"], [
    "xD144m61a176CQ111b41aF1s3R45i1h1Z121Z311F272A321G11UTv2B1OX192415M419131NP7B5O16Hg1w1s131I",
    "17AFG48222M17113431G1D213E2A186422M17121212V411J3G9131M17121531I1F2N1B8222M17121531U213F1H",
    "116331432111232333CM1q18131N1G31Q32122U148131N1A1531V212F2H9131f121G15383O65I3O191127w1m11",
    "2C7w1211151O111A12912511L4W11-181a1R5p3h1K1G6443132734DC1X2h12iA142711142f1142X1142711142F",
    "1v1142Z2b1Gn3iJ2H1Q5h23B7IDJEIED13Fq1Z1141Z2v2752Y1115c2AVn1U25Bi14Qs1N9r1o21z2l1H8s1UD2Ai",
    "1Qa1f13Aa1Ih123f14161231wX14d2324dz2u171GN9717171717171717m21rE3P975254s2631w2145h11+2HW1m",
    "1GWGWk6W2jqLZ2k12j83GA2Y21G1W1m2d19e3161d313713141NTq1Eo1+163112BSANPT7l1S1G51AA51f1N318KN",
    "313o11132252111O32B73C626269717n4Z1TazACN4n1ae8kB2g3Z211A1D151112121i3X1hBIW22s1e1Cq351d4f",
    "3u12V36262623Z1C1Q1J121F2EY1x3b2r1h8T3n1l1W1DU5c1AU2a14815w3k2Y3e18q1y2q1Ct99MA8P2z36211i1",
    "12312NAN9VX2J12AMAQc2u162W21F4131Tg1T3TZ181SRs1AMAJDIk3f2t5a1c16V1m8g162G3x1TA18Mg1Ik1LRNC",
    "r1v1221Dj1W1PQa1T1218Z131Cm1E4L111Z1I1PJ2-1711141F1A7l1c18222M17121531I1C5UA11211c111P111i",
    "1r1I4K3Um1K211u5l1f14a1m1K1x1h1D1d2Rb17v5i1p682128121OF111+282d1G111S1Ae171L1Bk1J1If2d6X1V",
    "91b1H1n1Um37121c1L1P6121W1E1dAJF11D1Y1y31l2wSc3l3Ha6io2X3FmX1H6Pxy35dIvr6UYt1vH7VHl2HUIm1G",
    "4VL5JmDj1pCh251Y2DW2211Su-58sc1f1Adt8417121Z9F1T321E48iCae2h35D397Amp81rFj1A7G1XAUIi1aFSa7",
    "U21lF714121F1b6c41qb141R1211211A141111614111111312112111111111121124171414111A1H53151Hag4W",
    "tf1W1wX46+62Yq5Enf7FkJYj2+GYl1hw45WZ4"]⟩,
  ⟨["scontinue", "sc"], ["i12C1Yf11k52gF1fW4151gW22i-31kmp1211T2T23121A1e52C1f21"]⟩,
  ⟨["sterm", "st"], [
    "X11T1fg11p43q51h13s71z111132b92at12sO142bO1c62i6151w92YB4Y52A222T3x52X22yT293al31D1M2jD1yd",
    "T1k82Z7131+B2s22-21u42p43m42v71gpK2f51T1X21qt22zd15i14z52r34-33X4261G2u2212i31g92r32rB25Ff",
    "32v73bG111x72t22aD2qL2g22fvI2b41X22B1fH2e91cmJ1el71"]⟩,
  ⟨["sep", "se"], ["b41Yz72"]⟩,
  ⟨["sp"], ["9112J1-31-k51-h2Ba11l11Wz31"]⟩,
  ⟨["upper", "up"], [
    "X2Qb3N17X111111111111111111111111111111111111111111111111111111112111111111111111211111111",
    "111111111111111111111111111111111111112111132111213241213321211111211211213111231721212111",
    "111111111111121111111111111111122111311111111111111111111111111111111111111111111111111111",
    "111117212211411111111X91113181611311121H19Z11233111111111111111111111115121122p1m111111111",
    "111111111111111111111111191111111111111111111111111111111111111111111111111111112111111111",
    "111211111111111111111111111111111111111111111111111111111111111111111111111111111111111111",
    "1111111112c1fw2c11151oMs2pa21sB11111111111111111111111111111111111111111111111111111111111",
    "111111111111111111111111111111111111111111111111111111111111111111111111111111111111111111",
    "911111111111111111111111111111111111111111111111111111111111111111111111111111111111111111",
    "111111119886A88886B111111188O8888885B5B4C5B5b8141332321356111111424A251QGJ1oPQmv1m1m111321",
    "111114112183111111111111111111111111111111111111111111111111111111111111111111111111111111",
    "11111111111111111111811141jgU111111111111111111111111111111111111111111111J111111111111111",
    "111111111111d4111111111111131111111111111111111111111111111111111111111111111111111111111A",
    "111121111111141112111311111111111111111111515111111111111111411123151111111O1hvLQbc1e1e4a1",
    "y4B1F1712gt1p1z4Mwv2W1WiLW1WjPQQQQQQ11221222418QQQ2142817R214151137RQQQQQQQQQQQUPX1PX1PX1P",
    "X1PX11rf4Y1kW2Q6Q6Q"]⟩]

end BoardLint.Unicode
