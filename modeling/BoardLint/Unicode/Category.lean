import BoardLint.Unicode.CodeSet

set_option autoImplicit false

/-! # General categories

The general category of every character in version 16 of Unicode. Every character has exactly one;
one that is in no set of the table is not assigned. -/

namespace BoardLint.Unicode

/-- The general categories by their names. -/
def categoryTable : List Named := [
  ⟨["lu", "uppercaseletter"], [
    "X2Qb3N17X111111111111111111111111111111111111111111111111111111112111111111111111211111111",
    "111111111111111111111111111111111111112111132111213241213321211111211211213111231712121211",
    "111111111111121111111111111111121211311111111111111111111111111111111111111111111111111111",
    "111117212211411111111X91113181611311121H19Z11233111111111111111111111115121122p1m111111111",
    "111111111111111111111111191111111111111111111111111111111111111111111111111111112111111111",
    "111211111111111111111111111111111111111111111111111111111111111111111111111111111111111111",
    "1111111112c1fw2c11151oMs2pa216h123WA111111111111111111111111111111111111111111111111111111",
    "111111111111111111111111111111111111111111111111111111111111111111111111111111111111111111",
    "111119111111111111111111111111111111111111111111111111111111111111111111111111111111111111",
    "11111111111119886A88886B111111188e24C4C4C5B4c8141332321356111111424A251z11yp2m1m1113211111",
    "141121831111111111111111111111111111111111111111111111111111111111111111111111111111111111",
    "1111111111111111811141jgU111111111111111111111111111111111111111111111J1111111111111111111",
    "11111111d4111111111111131111111111111111111111111111111111111111111111111111111111111A1111",
    "21111111141112111311111111111111111111515111111111111111411123151111111O1hvLQbc1e1e4a1y4B1",
    "F1712gt1p1z4Mwv2W1WiLW1WjPQQQQQQ11221222418QQQ2142817R214151137RQQQQQQQQQQQUPX1PX1PX1PX1PX",
    "11rf4Y1"]⟩,
  ⟨["ll", "lowercaseletter"], [
    "X3Qw11f1O181111111111111111111111111111111111111111111111111111111211111111111111121111111",
    "111111111111111111111111111111111111111211113211121324121332121111121121121311122236121211",
    "111111111111112111111111111111112211131111111111111111111111111111111111111111111111111111",
    "1111117212211411111111b21RX61113133I1RZ11233111111111111111111111115112122p1m1111111111111",
    "111111111111111111111191111111111111111111111111111111111111111111111111111121111111111112",
    "111111111111111111111111111111111111111111111111111111111111111111111111111111111111111111",
    "111111m1f1dw2h123uN6Ya2911r3i1-1D1Y1c31111111111111111111111111111111111111111111111111111",
    "111111111111111111111111111111111111111111111111111111111111111111111111111111111111111111",
    "111111911111111111111111111111111111111111111111111111111111111111111111111111111111111111",
    "11111111111111986A88886A8888E2888888512613312842288A312o813231R14141228441r11hr2m111321111",
    "114112165111111111111111111111111111111111111111111111111111111111111111111111111111111111",
    "111111111111111112711141Cc11151peU111111111111111111111111111111111111111111111J1111111111",
    "11111111111111111d411111111111131111111111111111111111111111111111111111111111111111111111",
    "111118111121111111114111211311111111111111111111515111111111111111411121311111111111Q131rP",
    "h1597m2WwJ7C5fX1Qjc1e1e4a1x4B1F1712Zu1p1z3Mwv2W1WiLW1wiPQQ71IQQQ411171BQQQQQQQQQQQQQQQQQSS",
    "P16QP16QP16QP16QP1611qv1A1K66tl2Y1"]⟩,
  ⟨["lt", "titlecaseletter"], ["bE12121c11ri788888C1F1l11"]⟩,
  ⟨["lm", "modifierletter"], [
    "mLI4CE57111b4151+E1c71a52j8241V19131W51d51qc11-31rH1ws11h31ZJ1mE6k5-1D1Y1b1nL1D1GD-+22n71-",
    "51rE1h1551X32z23suR1Yd16k81o31S2v39m21N1f3332rE1M1f41i31L2d3491cWL1j12W-161g119pi11W11mkN4",
    "yF3e12cHDW2211iWG41712nXC+1f67jT1-Y11"]⟩,
  ⟨["lo", "otherletter"], [
    "g51F1W8144m61xPR44j1W11AZ121Z311O2A321G11UTv2B1OX1LMg1P7B5O16Hf1x1s131I17AGF48222M17113431",
    "G1D213E2A186422M17121212V411J3G9131M17121531I1F2N1B8222M17121531U213F1H116331432111232333C",
    "M1q18131N1G31Q32122U148131N1A1531V212F2H9131f121G15383O65I3O191127w1m112C6x1211151O111A129",
    "125N4W11-181a1R5p3h1K1G6443132734DC1n3fA142711142f1142X1142711142F1v1142Z2b1Gn3iJ2H1Q5h268",
    "7IDJEIED13Fq1e11Z2Z11r1752Y1115c2AVn1U25Bi14Qs1N9r1m5l1H8s1UD2Ai1Qa1f13AUn34161231wX14t-2u",
    "1ON9717171717171717dH1r114s2811w2415h11+2HW1m1GWGWk6W2rmK1tZ1Z2e18i84GA2Y21n1c2f51d3137131",
    "41NTq1Eo1+163112BSANPT7l1j1529A51f1N318KG16313o11132252111O23B71E626269717n4Z1TazACN4n1ae8",
    "kB2g3Z211A1D151112121i3X1hBIW22s1e1Cq351d4f3A1j12V36262623Z1C1Q1J121F2EY1x3bCT3n1l1W1DK186",
    "c1AU2a148W4k2Y3e18q1y2q1Ct99MA8u46211i112312NAN9VX2J12AMAQc2u162W21F4131Tg1T3TZ181SRs1AMAJ",
    "DIk3f2t5a1c1411m9g162G3x1TA18Mg1Ik1LRNCr1v1221Dj1W1PQa1T1218Z131Cm1E4L111Z1I1PJ2-1711141F1",
    "A7l1c18222M17121531I1C5UA11211c111P111i1r1I4K3Um1K211u5l1f14a1m1K1x1h1D1d2Rb17v5i1p6821281",
    "21OF111+282d1G111S1Ae171L1Bk1J1If2d6X1V91b1H1n1Um37121c1L1P6121W1E1dAJF11D1Y1y31l2wSc7a6io",
    "2X3FmX1H6Pxy35dIvr6UYt1vH7VHl2HUIm1p1L5JpDe1rCh251l5u-58sc1f1Att8Z9F1T321E48iCae2h35D397Am",
    "p81rFj1X11XAUIi1aFRb7U21lF714121F1b6xf141R1211211A1411116141111113121121111111111211241714",
    "14111A1H53151Hag4Wtf1W1wX46+62Yq5Enf7FkJYj2+GYl1hw45WZ4"]⟩,
  ⟨["mn", "nonspacingmark"], [
    "WOm3p85f8j111121211e2Bm1LG1b37262214Z11URx2Bw1991O4191315h13x19g1O1W1t1111484137A2T1w11448",
    "1K2Q122v1142422331U231B2v11451241K2M611w1121148172B2U1z11C1o1131t1113531472B2T1w11216152K2",
    "S2v124481K2T1e217311w2127C8Y3129B7f22R11111t1E15125B1a191c34161222P243G4D12261F1-L3oT3T2U2",
    "U2W2217812B91j1311r32Y11s33429163x6221w11171111286A21m1E1Gn14m11151151e19C2W142213u1112311",
    "3w1822u431D17416132c6W2mMD413C+-23j41W3W1gH4h32qkT14AW12m22m813141P251t42QID1c18PBk13m1124",
    "22d11Z262222C181l11p1113225211g1281k712141mvJ1XNGGGjU1Y71r45cq131254e1341b52zH4X25z92l24c2",
    "Bn14x31s1Ff1122A3n142271z13a1518+11C2q19A421-2321126121z4138L2v1231b1735c26D11111E2r282311",
    "N1q26114212k746212R2r282112g31112611b31112415Z8912W821141m442241W1Ae1624819623k1D12sC71611",
    "o2M271212w3631121711e223111xA2B2q155111N1bd516FecBC33Wk25x17uW11-14n21ubJ2Xp4k12NWH3H827U4",
    "q43xz1t14o181E1M51Fmg171H271215a31W57tB1z14yF4+72WN7j37rzbOm7"]⟩,
  ⟨["mc", "spacingmark"], [
    "Ze21t11238412o12w136222A1h11w13Y21w138112r12w11116222A1c32123313A1f13z14z12w1115221292S1E2",
    "w135313A1g12h2368I2gA2-11h52416122P2A327L22621A3up11U1X417812wA4234216W72w1111911286n41m11",
    "511512z11U14221y11231132m1882h51L1sv42p-T221u22o1Gk42l11m124223k3222O1j1111j312251j7212121",
    "1pWP111-31j1342p31O2x11m1392D1z233211g53V2w1214222391A2q237121141211b338231g33611421j73642",
    "1n338211j311261d311241b8391t7612412111k438441q21T2+11tC1E1g317121r654211+A2C1m128211elG3an",
    "3t1e32phO266"]⟩,
  ⟨["me", "enclosingmark"], ["ea12qn51+m1413hiX13"]⟩,
  ⟨["nd", "decimalnumber", "digit"], [
    "m1Acn1Ac4Ac6AyCAs3As3As3As3As3As3As3As3As3AW3As3Ac2As8Ac2Acw1Ac1Ai9AW4Ac5A6As5As2Ac4A6AckY",
    "1AcLAc1Ac6AMAs2AsCAsuKAci1Aca2A6AyOAW4Ay1Am4As8AsAAs3AsBAc3A6Ki2AcDAc3AsKAs2As7Ac2AcDAskGA",
    "cf2As2Ac4AsGAsxNAqs2o1Wg2AcDAsFAt7ArQAsq4A"]⟩,
  ⟨["nl", "letternumber"], ["kt53lp2Z124+p31P9E3hrTAmoMr1iE181c45gX8l3"]⟩,
  ⟨["no", "othernumber"], [
    "o525123rf26uB6u33b47v67H9nDArX1KpZ1AWF1rq11366Ac6Gf11sMy1k2MsJUfh11qa14g4AU81FW1Ad1FmhT6nc",
    "Mj1X24H2rARa14qf18P7d19h25M6W522G2k1W29q12U3h25e38O8f17gA6WBV+4Ag14m37c4KxBKbg12kD9dRJpQLc",
    "yI7+ONfXPKCKi3Pkg59XTx11314i2j11FYUD"]⟩,
  ⟨["pc", "connectorpunctuation"], ["-21-+72J1+kt12O3l71"]⟩,
  ⟨["pd", "dashpunctuation"], ["j11yg11p11Xo31bW11fW26Xm3121V241S1+D1J1l31mip12b11A1f51Wp31+91"]⟩,
  ⟨["ps", "openpunctuation"], [
    "e11o11V1+r3111+w11+h2131c11t11F1wJ111U1+X11111111111111m21W1111111111qC1111111111111111111",
    "11W2111X11bX11111111P1I1111111iD1111111113111111121Xfp11t61T11111111111111131H11111g51o11V",
    "13121"]⟩,
  ⟨["pe", "closepunctuation"], [
    "f11p11V1zr3111+w11fj21t11F1wJ111U1+X11111111111111m21W1111111111qC111111111111111111111W21",
    "11X11bX11111111i11111111iD1111111113111111122+ep11v61T11111111111111131H11111g51p11V12121"]⟩,
  ⟨["pi", "initialpunctuation"], ["h51ix712221P1ek31114121F131"]⟩,
  ⟨["pf", "finalpunctuation"], ["x51zw7131S1ek31114121F131"]⟩,
  ⟨["po", "otherpunctuation"], [
    "X1313211112A232R1a2151E271+L181oE6f11s112121i12K212D113g24c31h1Ef73s1FV1b82A1i41u31v31cC1C",
    "1lB1w21A2e5F11m31g2542l36h51aJ9bO1y33d22z4313b1614v92u62W4716W52A7S3y34x15+12W28B1YQ288892",
    "4233B111Awa3412m31l42432129121122A51A24111D23iD3v11z51YWT2j83Z31A1p36yB4s22e1311n12l11X3DG",
    "2y34+32G2v71anK721M1K2243314736112r4313211112A232R1a1122wC3yK1m11+C1dN1d61V1m89c11m37Y27v2",
    "4uT5i14z57j3214+34m12l2441D113u26h31g9212o35A211e31w7Nf33SDi21Y43y71e83x41y28p2315z2At61-2",
    "5g12bK2g2Dl51mZ15yx22xpE2b41X2581eH3d94dA1ybJ1dl75px21+Q2"]⟩,
  ⟨["sm", "mathsymbol"], [
    "h11G3z1111j1141b11V1+N1lG3xn61D1d13D3h41d1561a255241212171V22111Vi8W12w21UPe16rE191s18l31m",
    "A52VAGW8Z4M-14W12Y8m1L26y+p11uP113a51G3z1111Z4164Xj32nfo11P1V1P1V1P1V1P1V1P1iv52"]⟩,
  ⟨["sc", "currencysymbol"], [
    "a11z34fd11x31oF2oF271r71d81bI1xi21ac2X1txX11ZkL1i31w41x6232s-74+um11mj21"]⟩,
  ⟨["sk", "modifiersymbol"], [
    "+2111d21614131fG4CE57111Hr31E2Ye11qv5113B3D3D3D2ya42ZpTN92d32mU1E2cYKHxR111Y51tWz15"]⟩,
  ⟨["so", "othersymbol"], [
    "c51214111nU1g82-32k61A1J2t71ZG1rB1Y4611a41l61f11dC3F11326K11111b48161254b62mNApM1oM1z4Y1XB",
    "A99Zi121412A1126611111141B2E11211w1295241212171V22111Vi884K272n21UPe16e2MBn2k2Mt5191s18l31",
    "u7i1i1W2W8WGm1L26d12W11f3b76bB2k1Q1v2Cs6QG41D2C1L262mA24AW1c191GVBU81FW1Ad1FWAWk6W2mqLt1XR",
    "4A211zH3csKG-31j13aF13142D2v99v1H231D31l1j1wp12lI1sZ31ra284HgwI451sgK1Zx3m7GqDy4q3y1s7Ad12",
    "y153M27U4z1LY231w5t2fb1WGt14o181E12es11yw21X41nMi14a3CF2F1F1b1NX5u1TDi14972E6w4x75uM4H3D3t",
    "34-26C41FC4u18A6e18U2C42+1qACE2D3A5u17F2B697p41y2"]⟩,
  ⟨["zs", "spaceseparator"], ["W11-31-k51-h2Ba11l11Wz31"]⟩,
  ⟨["zl", "lineseparator"], ["eX81"]⟩,
  ⟨["zp", "paragraphseparator"], ["fX81"]⟩,
  ⟨["cc", "control", "cntrl"], ["0W1-2X1"]⟩,
  ⟨["cf", "format"], ["j51og16M1W61n11WC2m21hv31y-15Q5n151Alqt11v73Xc41F1Yx8GWZY14lc58cqhO1UW3"]⟩,
  ⟨["co", "privateuse"], ["WWu1We6WuXS+--12+--1"]⟩]

/-- The groups of categories by their names, with the names of the categories in them. -/
def categoryGroups : List (List String × List String) := [
  (["lc", "casedletter"], ["lu", "ll", "lt"]),
  (["l", "letter"], ["lu", "ll", "lt", "lm", "lo"]),
  (["m", "mark", "combiningmark"], ["mn", "mc", "me"]),
  (["n", "number"], ["nd", "nl", "no"]),
  (["p", "punctuation", "punct"], ["pc", "pd", "ps", "pe", "pi", "pf", "po"]),
  (["s", "symbol"], ["sm", "sc", "sk", "so"]),
  (["z", "separator"], ["zs", "zl", "zp"])]

/-- The characters that are assigned. -/
def assigned : CodeSet := .unions (categoryTable.map Named.set)

/-- The characters of a general category or of a group of them. The characters that are no letters,
    marks, numbers, punctuation, symbols or separators are the last group. -/
def category? (name : String) : Option CodeSet :=
  let named (names : List String) : CodeSet := .unions (names.filterMap (Named.find? categoryTable))
  match Named.find? categoryTable name with
  | some s => some s
  | none =>
    match categoryGroups.find? fun (names, _) => names.contains name with
    | some (_, members) => some (named members)
    | none =>
      if name == "any" then some .all
      else if name == "ascii" then some (.range 0 0x7F)
      else if name == "assigned" then some assigned
      else if name == "cn" || name == "unassigned" then some assigned.complement
      else if name == "c" || name == "other" then
        some ((named ["cc", "cf", "co"]).union assigned.complement)
      else none

end BoardLint.Unicode
