import BoardLint.Unicode.CodeSet

set_option autoImplicit false

/-! # Scripts

The script of every character in version 16 of Unicode, and the scripts that it is used with. A
script is known by its name and by its code of four letters. The second table has the characters for
which the two differ. -/

namespace BoardLint.Unicode

/-- The characters of every script. -/
def scriptTable : List Named := [
  ⟨["adlm", "adlam"], ["Wew3i24A42"]⟩,
  ⟨["aghb", "caucasianalbanian"], ["mfX2q1B1"]⟩,
  ⟨["ahom"], ["Wub2R2F4N"]⟩,
  ⟨["arab", "arabic"], [
    "Wm15161E131W11ABQ1i31Y1m2m1m7V125h21Tmoy1p3GhB2m22s171W1Gm351d4Zx3VZ23t14Wut141R1211211A14",
    "1111614111111312112111111111121124171414111A1H53151Hq12"]⟩,
  ⟨["armi", "imperialaramaic"], ["WYY2M19"]⟩,
  ⟨["armn", "armenian"], ["nf1c12o123Ziz15"]⟩,
  ⟨["avst", "avestan"], ["WuY2s137"]⟩,
  ⟨["bali", "balinese"], ["Wu6j21o1"]⟩,
  ⟨["bamu", "bamum"], ["Wrf1u2eem1vH"]⟩,
  ⟨["bass", "bassavah"], ["msw2U26"]⟩,
  ⟨["batk", "batak"], ["W+6q184"]⟩,
  ⟨["beng", "bengali"], ["Wi2418222M1711342922248142152P"]⟩,
  ⟨["bhks", "bhaiksuki"], ["WWd291j11EAT"]⟩,
  ⟨["bopo", "bopomofo"], ["gN2vmBh1m3W1"]⟩,
  ⟨["brah", "brahmi"], ["WWa2k24a191"]⟩,
  ⟨["brai", "braille"], ["WWAW8"]⟩,
  ⟨["bugi", "buginese"], ["Wm6S22"]⟩,
  ⟨["buhd", "buhid"], ["Ww5K"]⟩,
  ⟨["cakm", "chakma"], ["Wea2r11I"]⟩,
  ⟨["cans", "canadianaboriginal"], ["WW5WKmHc2wjW2G"]⟩,
  ⟨["cari", "carian"], ["WrW2n1"]⟩,
  ⟨["cham"], ["Wmg1t19E2A24"]⟩,
  ⟨["cher", "cherokee"], ["Wz4s226oxb1m2"]⟩,
  ⟨["chrs", "chorasmian"], ["mzZ2S"]⟩,
  ⟨["copt", "coptic", "qaac"], ["YVEmaAq357"]⟩,
  ⟨["cpmn", "cyprominoan"], ["myh2Z3"]⟩,
  ⟨["cprt", "cypriot"], ["WWY26211i1123121"]⟩,
  ⟨["cyrl", "cyrillic"], ["WW1b42f5mw5BW51i21dZ4W1WYUW3kyL2Wmu1+1X11"]⟩,
  ⟨["deva", "devanagari"], ["We2n24F2QWxd1W1WmSA"]⟩,
  ⟨["diak", "divesakuru"], ["Wec272128121U122C9A"]⟩,
  ⟨["dogr", "dogra"], ["WWc2y1"]⟩,
  ⟨["dsrt", "deseret"], ["WWX2m2"]⟩,
  ⟨["dupl", "duployan"], ["WWl3h35D397A24"]⟩,
  ⟨["egyp", "egyptianhieroglyphs"], ["WWi2sY1Axy3"]⟩,
  ⟨["elba", "elbasan"], ["WeX2e1"]⟩,
  ⟨["elym", "elymaic"], ["W-Z2N"]⟩,
  ⟨["ethi", "ethiopic"], [
    "Wm4f2142711142f1142X1142711142F1v1142Z22W13Qcl6N9717171717171717YfV626269717nbl2714121F"]⟩,
  ⟨["gara", "garay"], ["WgZ2c13T82"]⟩,
  ⟨["geor", "georgian"], ["Wb4c111512h114my2h123WY4c11151"]⟩,
  ⟨["glag", "glagolitic"], ["WWBW3Wzi371H271215"]⟩,
  ⟨["gong", "gunjalagondi"], ["Whd26121b112167A"]⟩,
  ⟨["gonm", "masaramgondi"], ["Wed27121i13112198A"]⟩,
  ⟨["goth", "gothic"], ["mvW2R"]⟩,
  ⟨["gran", "grantha"], ["Wua2418222M1712152922232161572735"]⟩,
  ⟨["grek", "greek"], [
    "mR4132411411113111K1-1EGcf65o1545q21WAM262c126281111111V2r11F1E261J2319d91+nY11wkLl2H1-Yq1",
    "c2"]⟩,
  ⟨["gujr", "gujarati"], ["Xq2319131M1712152A131321F42C77"]⟩,
  ⟨["gukh", "gurungkhema"], ["Weu2w1"]⟩,
  ⟨["guru", "gurmukhi"], ["Xm2316422M17121212211542233174117H"]⟩,
  ⟨["hang", "hangul"], ["We4W8kn72X8+2n3VX2VXtTTZKazACN4n1az9V36262623"]⟩,
  ⟨["hani", "han"], [
    "WqBQ1v2Cs6l1111P9E4aUWk6W2WmKWeMkB2g3eeT2C2kWa1Wtf1W1wX46+62Yq5Enf7FkJYj2+GYl1hw45WZ4"]⟩,
  ⟨["hano", "hanunoo"], ["Wv5L"]⟩,
  ⟨["hatr", "hatran"], ["WdY2J1255"]⟩,
  ⟨["hebr", "hebrew"], ["ni1t18R46efz1Q151112121A"]⟩,
  ⟨["hira", "hiragana"], ["XYCs263Xx-2-8I1T3jbG1"]⟩,
  ⟨["hluw", "anatolianhieroglyphs"], ["WWn2dI"]⟩,
  ⟨["hmng", "pahawhhmong"], ["Wuw2c2AA171L5J"]⟩,
  ⟨["hmnp", "nyiakengpuachuehmong"], ["Weu3j13E2A42"]⟩,
  ⟨["hung", "oldhungarian"], ["WaZ2p1Dp176"]⟩,
  ⟨["ital", "olditalic"], ["WuW2a193"]⟩,
  ⟨["java", "javanese"], ["Wig1k22A42"]⟩,
  ⟨["kali", "kayahli"], ["Weg1k111"]⟩,
  ⟨["kana", "katakana"], ["XbCw223m7Gm6l11u2kWp1A1j1oYi14171211-83o11E4"]⟩,
  ⟨["kawi"], ["Wud2H1f13T"]⟩,
  ⟨["khar", "kharoshthi"], ["WmY241258131T234A79"]⟩,
  ⟨["khmr", "khmer"], ["Wy5+22A6AcFW1"]⟩,
  ⟨["khoj", "khojki"], ["Wma2I1l1"]⟩,
  ⟨["kits", "khitansmallscript"], ["a-x21xu6sEf11"]⟩,
  ⟨["knda", "kannada"], ["Wa3D131N1A152913147262142A13"]⟩,
  ⟨["krai", "kiratrai"], ["Wgx2w1"]⟩,
  ⟨["kthi", "kaithi"], ["Waa2Z2A1"]⟩,
  ⟨["lana", "taitham"], ["Wn6-11T2B6A6E"]⟩,
  ⟨["laoo", "lao"], ["Xq3211151O111N2511171A24"]⟩,
  ⟨["latn", "latin"], [
    "X2Q6Ql11F15N1V1XEd15xm6c16n1545D1c2X2W8nB1D1GDj4261R1Hf1ts2W1YrUc33Z2221118LEmPh11914syJ7w",
    "W1Q6QbX261g119bwr1V66"]⟩,
  ⟨["lepc", "lepcha"], ["WW7u13F33"]⟩,
  ⟨["limb", "limbu"], ["We6V1C4C413C"]⟩,
  ⟨["lina", "lineara"], ["WmX2t99MA8"]⟩,
  ⟨["linb", "linearb"], ["WWW2C1Q1J121F2EY1x3"]⟩,
  ⟨["lisu"], ["mcf1m1mrU1"]⟩,
  ⟨["lyci", "lycian"], ["WqW2T"]⟩,
  ⟨["lydi", "lydian"], ["WfY2Q51"]⟩,
  ⟨["mahj", "mahajani"], ["mga2d1"]⟩,
  ⟨["maka", "makasar"], ["Wtd2P"]⟩,
  ⟨["mand", "mandaic"], ["WY2S21"]⟩,
  ⟨["mani", "manichaean"], ["WsY2d14C"]⟩,
  ⟨["marc", "marchen"], ["mZd2W12M1E"]⟩,
  ⟨["medf", "medefaidrin"], ["Wox2x2"]⟩,
  ⟨["mend", "mendekikakui"], ["WWw3b62G"]⟩,
  ⟨["merc", "meroiticcursive"], ["WjY2O4K2k1"]⟩,
  ⟨["mero", "meroitichieroglyphs"], ["WiY2W1"]⟩,
  ⟨["mlym", "malayalam"], ["We3D131p113164G2Q"]⟩,
  ⟨["modi"], ["Wmb2b2BA"]⟩,
  ⟨["mong", "mongolian"], ["WW62211K6v27h1rj-1D"]⟩,
  ⟨["mroo", "mro"], ["Wow2V1A42"]⟩,
  ⟨["mtei", "meeteimayek"], ["Wtg1Nf6k12A"]⟩,
  ⟨["mult", "multani"], ["Wqa2711141F1B"]⟩,
  ⟨["mymr", "myanmar"], ["WW4W5Wgc1VX3W1mYRK"]⟩,
  ⟨["nagm", "nagmundari"], ["mcv3g1"]⟩,
  ⟨["nand", "nandinagari"], ["Wjc282k12B"]⟩,
  ⟨["narb", "oldnortharabian"], ["WqY2W1"]⟩,
  ⟨["nbat", "nabataean"], ["WaY2V89"]⟩,
  ⟨["newa"], ["WWb2y215"]⟩,
  ⟨["nkoo", "nko"], ["W+1x123"]⟩,
  ⟨["nshu", "nushu"], ["X-x21kiGiC"]⟩,
  ⟨["ogam", "ogham"], ["Wq5T"]⟩,
  ⟨["olck", "olchiki"], ["mY7m1"]⟩,
  ⟨["onao", "olonal"], ["mkv3h141"]⟩,
  ⟨["orkh", "oldturkic"], ["WWZ2f2"]⟩,
  ⟨["orya", "oriya"], ["Xu2318222M1712152922237342152I"]⟩,
  ⟨["osge", "osage"], ["mbX2a14a1"]⟩,
  ⟨["osma", "osmanya"], ["WaX2U2A"]⟩,
  ⟨["ougr", "olduyghur"], ["mxZ2Q"]⟩,
  ⟨["palm", "palmyrene"], ["WZY2W1"]⟩,
  ⟨["pauc", "paucinhau"], ["Wsc2v1"]⟩,
  ⟨["perm", "oldpermic"], ["mwW2h1"]⟩,
  ⟨["phag", "phagspa"], ["WYg1u1"]⟩,
  ⟨["phli", "inscriptionalpahlavi"], ["WxY2J58"]⟩,
  ⟨["phlp", "psalterpahlavi"], ["WyY2I74C7"]⟩,
  ⟨["phnx", "phoenician"], ["WeY2S31"]⟩,
  ⟨["plrd", "miao"], ["Wux2h24v17H"]⟩,
  ⟨["prti", "inscriptionalparthian"], ["WwY2M28"]⟩,
  ⟨["rjng", "rejang"], ["mfg1a1B1"]⟩,
  ⟨["rohg", "hanifirohingya"], ["WeZ2e18A"]⟩,
  ⟨["runr", "runic"], ["Wr5h23B"]⟩,
  ⟨["samr", "samaritan"], ["WW2k12F"]⟩,
  ⟨["sarb", "oldsoutharabian"], ["WpY2W1"]⟩,
  ⟨["saur", "saurashtra"], ["Wag1c28C"]⟩,
  ⟨["sgnw", "signwriting"], ["WWs3iKF51F"]⟩,
  ⟨["shaw", "shavian"], ["mYX2m1"]⟩,
  ⟨["shrd", "sharada"], ["Wia2W3"]⟩,
  ⟨["sidd", "siddham"], ["Wib2s12c1"]⟩,
  ⟨["sind", "khudawadi"], ["mra2x15A"]⟩,
  ⟨["sinh", "sinhala"], ["Xi331I3O191127314611186A23i-W2K"]⟩,
  ⟨["sogd", "sogdian"], ["mvZ2g1"]⟩,
  ⟨["sogo", "oldsogdian"], ["WuZ2e1"]⟩,
  ⟨["sora", "sorasompeng"], ["mca2P7A"]⟩,
  ⟨["soyo", "soyombo"], ["moc2p2"]⟩,
  ⟨["sund", "sundanese"], ["Wy6W2W88"]⟩,
  ⟨["sunu", "sunuwar"], ["W+c2Y1EA"]⟩,
  ⟨["sylo", "sylotinagri"], ["WWg1j1"]⟩,
  ⟨["syrc", "syriac"], ["Wu1E1y123m8B"]⟩,
  ⟨["tagb", "tagbanwa"], ["Wx5D1312"]⟩,
  ⟨["takr", "takri"], ["Wqb2w16A"]⟩,
  ⟨["tale", "taile"], ["mg6U25"]⟩,
  ⟨["talu", "newtailue"], ["Wi6i14Q6B32"]⟩,
  ⟨["taml", "tamil"], ["Yy2216331432111232333C4533142161ELb+a2o1D1"]⟩,
  ⟨["tang", "tangut"], ["W-x21Vu-58WOWG9"]⟩,
  ⟨["tavt", "taiviet"], ["Wqg1Z2O5"]⟩,
  ⟨["telu", "telugu"], ["WW3D131N1G291314721321242A79"]⟩,
  ⟨["tfng", "tifinagh"], ["mfBu172E1"]⟩,
  ⟨["tglg", "tagalog"], ["Wu5M91"]⟩,
  ⟨["thaa", "thaana"], ["Wy1o1"]⟩,
  ⟨["thai"], ["Xm3w15S"]⟩,
  ⟨["tibt", "tibetan"], ["Wu3e21a14d11a11F1742"]⟩,
  ⟨["tirh", "tirhuta"], ["Wab2e28A"]⟩,
  ⟨["tnsa", "tangsa"], ["mpw2l21A"]⟩,
  ⟨["todr", "todhri"], ["WkX2q1"]⟩,
  ⟨["toto"], ["mqu3V"]⟩,
  ⟨["tutg", "tulutigalari"], ["Wya2A11211c11A1121141A1282"]⟩,
  ⟨["ugar", "ugaritic"], ["WyW2U11"]⟩,
  ⟨["vaii", "vai"], ["Wef1i9"]⟩,
  ⟨["vith", "vithkuqi"], ["mhX2B1F17121B1F1712"]⟩,
  ⟨["wara", "warangciti"], ["Wbc2p2C1"]⟩,
  ⟨["wcho", "wancho"], ["Wsu3w151"]⟩,
  ⟨["xpeo", "oldpersian"], ["WzW2a14E"]⟩,
  ⟨["xsux", "cuneiform"], ["WWe2wSc3l315Ba6"]⟩,
  ⟨["yezi", "yezidi"], ["WqZ2g11322"]⟩,
  ⟨["yiii", "yi"], ["WWe1ja13t1"]⟩,
  ⟨["zanb", "zanabazarsquare"], ["Wmc2e2"]⟩,
  ⟨["zinh", "inherited", "qaai"], [
    "WOm3r82aEBQ1WN4xg4VXG31D17416132c6W2iG2Y6X1vv34h32bhp1GGElU1Y71wY41a+k1k12NWH3H827U4owhOm7"]⟩,
  ⟨["zyyy", "common"], [
    "0X2Q6Ql11F15N1V1XEd1552Kq31916111zJ161E131W11y41aG1X42vc11rC4Y91ll13d22h6211jc11D174161321",
    "bOC2t21B3B1FHX1-1c113261R1Hf134wKMBLWTW8qJ2W11f3WG+2oCL111PF844x2231w22p4GW1c191m1W2Vn2l11",
    "u2e5Wk6W2WeMY1c33b5Aq71W51hC1E2okK2m6AMZ11J14p411W1Q6QBA1j12W2717A5Y834j139m2Dp1j1a7Rajk14",
    "yw3w76qDy4q3y1s7Ad12+13H827U4z1r6KCKCt29Pd4r21d2122122241C11171X21428171S141511371qA2a92o1",
    "nZ5a2i2z1YMi14a3CF2F1F1b1Ak5u1Q12Di14972E6w4uU4H3D3t34-26C41FC4u18A6e18U2C42+1qACE2D3A5u17",
    "F2B697p41c3dWXO1UW3"]⟩]

/-- The characters that belong to a script and are not used with it, or are used with it and do not
    belong to it. -/
def scriptExtensionTable : List Named := [
  ⟨["adlm"], ["-m11W11km61nl31"]⟩,
  ⟨["aghb"], ["aO1i11i11"]⟩,
  ⟨["arab"], ["im11E131W11ABQ1+k61nl31ytp12Wj1S"]⟩,
  ⟨["armn"], ["eO1"]⟩,
  ⟨["avst"], ["t51uhB2"]⟩,
  ⟨["beng"], ["yL1qq12H2gx411122118181214123v-Y11"]⟩,
  ⟨["bopo"], ["dM113D1dfB34A1DA42161Z61fgp12w85"]⟩,
  ⟨["bugi"], ["lkg11"]⟩,
  ⟨["buhd"], ["rv52"]⟩,
  ⟨["cakm"], ["cl2Amo1A"]⟩,
  ⟨["cari"], ["t51Yz7121pk31"]⟩,
  ⟨["cher"], ["WO31162M2B2"]⟩,
  ⟨["copt"], ["t51eI13211i32XrA1ecr1S"]⟩,
  ⟨["cpmn"], ["WeW22"]⟩,
  ⟨["cprt"], ["WeW234j139"]⟩,
  ⟨["cyrl"], ["yL1Z231111112151pB2nh61gY41"]⟩,
  ⟨["deva"], ["yL1qq12H2gx4d112sV1-vX1A"]⟩,
  ⟨["dogr"], ["ah2CWsd1A"]⟩,
  ⟨["dupl"], ["t51lI211O2tuA1ZpZ34"]⟩,
  ⟨["elba"], ["t51jI1"]⟩,
  ⟨["ethi"], ["kO1"]⟩,
  ⟨["gara"], ["im11E131"]⟩,
  ⟨["geor"], ["t51nc11nx21+w31sk31"]⟩,
  ⟨["glag"], ["t51hI111+B121X81nx21+w31el31hXU1"]⟩,
  ⟨["gong"], ["t51ib22"]⟩,
  ⟨["gonm"], ["ah22"]⟩,
  ⟨["goth"], ["t51iI221e11"]⟩,
  ⟨["gran"], ["ng22H2WKEyc4112U332sV1goy11qa3211"]⟩,
  ⟨["grek"], ["t51eI2211111A1k1121k11ho62xK1"]⟩,
  ⟨["gujr"], ["ng22H2gsd1A"]⟩,
  ⟨["gukh"], ["bh21"]⟩,
  ⟨["guru"], ["ng22H2gsd1A"]⟩,
  ⟨["hang"], ["XWC34A1DG161Z61fgp12w85"]⟩,
  ⟨["hani"], ["t51uvBG13211A1DA4216144x51q4GW1c191m1e1u1n1FCp11u2PA5W3VXuS8zvL2w85w-q1I+s72"]⟩,
  ⟨["hano"], ["rv52"]⟩,
  ⟨["hebr"], ["dO2"]⟩,
  ⟨["hira"], ["XWC34A1DG61142x2431w22egp12w85A1j12"]⟩,
  ⟨["hung"], ["wY8121pk31F1"]⟩,
  ⟨["java"], ["lkg11"]⟩,
  ⟨["kali"], ["kfg11"]⟩,
  ⟨["kana"], ["bO1T1zcB34A1DG61142x2431w22egp12w85A1j12"]⟩,
  ⟨["khoj"], ["ct2AWgd1A"]⟩,
  ⟨["knda"], ["ng22H2gx411261N111xvY16"]⟩,
  ⟨["kthi"], ["ch2AXc91+lUA"]⟩,
  ⟨["latn"], ["t51aG1A113119111c1F1211F37212c11514Dr82gc12ez11yd31sH1W61cf31edU8cH1"]⟩,
  ⟨["limb"], ["bh21"]⟩,
  ⟨["lina"], ["deW2j1"]⟩,
  ⟨["linb"], ["WeW234j139"]⟩,
  ⟨["lisu"], ["yL1G1yfB2"]⟩,
  ⟨["lyci"], ["wY81"]⟩,
  ⟨["lydi"], ["t51vhB1"]⟩,
  ⟨["mahj"], ["t51ib2CWsd1A"]⟩,
  ⟨["mand"], ["Wo11"]⟩,
  ⟨["mani"], ["Wo11"]⟩,
  ⟨["mero"], ["zY81"]⟩,
  ⟨["mlym"], ["ng22H2qx41N1zvY13"]⟩,
  ⟨["modi"], ["mXg1A"]⟩,
  ⟨["mong"], ["YW6211fX21n+3254"]⟩,
  ⟨["mult"], ["cp2A"]⟩,
  ⟨["mymr"], ["kfg11"]⟩,
  ⟨["nand"], ["ng21I2WSAv-318171rvY16"]⟩,
  ⟨["newa"], ["ng22Yy411291611111"]⟩,
  ⟨["nkoo"], ["im11E131+uz12"]⟩,
  ⟨["onao"], ["ah22"]⟩,
  ⟨["orkh"], ["wY81rk31"]⟩,
  ⟨["orya"], ["ng22H2qx41N1"]⟩,
  ⟨["osge"], ["XO12161i21"]⟩,
  ⟨["ougr"], ["Wo11nbX21"]⟩,
  ⟨["perm"], ["t51eI153A1lB1"]⟩,
  ⟨["phag"], ["YW6211fX21o+31"]⟩,
  ⟨["phlp"], ["Wo11"]⟩,
  ⟨["rohg"], ["im11E131W11p41"]⟩,
  ⟨["runr"], ["ht53"]⟩,
  ⟨["samr"], ["nnB1"]⟩,
  ⟨["shaw"], ["t51"]⟩,
  ⟨["shrd"], ["ng21by411122219121YwY1621"]⟩,
  ⟨["sind"], ["ah22gsd1A"]⟩,
  ⟨["sinh"], ["ah22iy41"]⟩,
  ⟨["sogd"], ["Wo11"]⟩,
  ⟨["sunu"], ["WO2119121S131"]⟩,
  ⟨["sylo"], ["ah22W4A"]⟩,
  ⟨["syrc"], ["ZO22211O37212wM1E221W11ABQ1dy5111"]⟩,
  ⟨["tagb"], ["rv52"]⟩,
  ⟨["takr"], ["ah22gsd1A"]⟩,
  ⟨["tale"], ["WO25231pf3A"]⟩,
  ⟨["taml"], ["ng22H2qx41uWZ11jmQ111t12"]⟩,
  ⟨["tang"], ["m-BGlF1"]⟩,
  ⟨["telu"], ["ng22H2lx421111N1"]⟩,
  ⟨["tfng"], ["YO11114P1"]⟩,
  ⟨["tglg"], ["rv52"]⟩,
  ⟨["thaa"], ["im11E221W2Aeyz11A1"]⟩,
  ⟨["thai"], ["yL1Q1h11j11"]⟩,
  ⟨["tibt"], ["eWC4"]⟩,
  ⟨["tirh"], ["ng22H2lx41C1F1zvY1A"]⟩,
  ⟨["todr"], ["XO121219111g21"]⟩,
  ⟨["toto"], ["yL1"]⟩,
  ⟨["tutg"], ["cd3AYW4111xvY16x51"]⟩,
  ⟨["yezi"], ["im11E131W2A"]⟩,
  ⟨["yiii"], ["XWC25A28-61bpp15"]⟩,
  ⟨["zinh"], ["WOF1211F37212G121I1514Dr82aEBQ1WN2zx431D17416132c62s1111rN1vv34h32boq11wY41"]⟩,
  ⟨["zyyy"], [
    "t51aG1A113119111w41tK1E131W11ZP2ry11ll13d22h6211jc11D174161321qP1V1A121vj31O2A14111iDG1321",
    "1A1DG61144x2231w22p4GW1c191m1e1u1n1FCp11u2PA5W3VXuS8e9Aq71W51kxK2b82w85A1j12WB34j139XDRajk",
    "14yr5I+s72"]⟩]

/-- The characters of a script. -/
def script? (name : String) : Option CodeSet := Named.find? scriptTable name

/-- The characters that are used with a script. -/
def scriptExtension? (name : String) : Option CodeSet :=
  (scriptTable.find? fun n => n.names.contains name).map fun n =>
    match scriptExtensionTable.find? fun e => n.names.contains (e.names.headD "") with
    | some e => n.set.symmDiff e.set
    | none => n.set

end BoardLint.Unicode
