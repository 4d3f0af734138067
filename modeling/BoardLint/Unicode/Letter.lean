import BoardLint.Unicode.CodeSet

set_option autoImplicit false

/-! # Letters and numbers

The letters and the numbers beyond ASCII, in version 17 of Unicode. -/

namespace BoardLint.Unicode

/-- The letters beyond ASCII. -/
def letterCode : List String := [
  "g51A1415N1V1gE4CE57111s21TI1224116113111K1p21h48c51c1216f1d1E111212118R44TB5u117Ec3184843A321G",
  "m1Db3OX192415O2JJP7B5O17718g1AC376i21G134FDJ18222M17113438222211814215C2A14316422M171212124542",
  "22417411H6B319131M17121539131231F4L44318222M171215382222924215D1G216331432111232333C4533133161",
  "e1D131N1G38131382131224S418131N1A15381313825314D3CD131f1281313115475M6131I3O191127861118I2Dw15",
  "761p1211151O111J13251161E4W11-181a14J4G1a1Z2t11125GW2A42c111512h11jA142711142f1142X1142711142F",
  "1v1142Z2b1GGs2263iJ2H1Q5h23B7KBLCKCD1312Cq12JE141Z2v27h15c2AV1C49NU25Bi14Qs1S4-12Ko11N2B3n1q11",
  "F18p1g124Ai11BEt1M3Aa12B5h123f141612315W6JY1Bs8262c126281111111V2r11711331734264D5317q31D1GDb3",
  "1412A1135611111141B245541Hf1jPq1su1b76432Cc111512u171GN97171717171717171W1l11rE3P975254s2631w2",
  "145h11+2HW1m1GWGWk6W2jqLZ2k12j83GA2Kl1583n3d192d32o2KL1X1Oq1Ca211i163113AX15Z1DT3p11CF1GGA51t1",
  "9EIN3b21111O32G24B6262697171h11E6x3LazACN4n1ae8kB2g3c17C55C1D151112121i3X1hBIW22s1e1Cq351d4a1Q",
  "6QBv236262623Z1C1Q1J121F2EY1x3b2r1h8T3n1l1W1DU5h15U2a14815g1+4Ia14a14e18q1CB1F17121B1F17123q1C",
  "t99MA8O61g119b26211i112312NAN9VX2J12AMAQ6Qc1u162W241258131Tg1T3TZ181SRs1AMAJDIk3f2t1p1Dp1De1Y1",
  "S315Nw7g11232G6o133TA18Mg1Ik1LRN9c2h15Av191DPNp1H48Z1319W21492A111Z1I1Y12164+1711141F1A7v1N418",
  "222M171215382222316157SA11211c11A112114123111i1Y21314K3UY22211u5s127P6Y1-11131x1s121d2R2EL7v5v",
  "1d3W2V82128121U122224z282k1261112Rp12AHe251If2d38u2X1V91j11711n1U2M1Ef27121i13112131122O6121b1",
  "121411Ni1a8N9H1f133l31l2wSc3l3Ha6io2X3FmX1H6Pxy35dIvr6l1ns1vH7VHl2HUIm1G4VL5JmDj1p6W2W1P2Pi1h2",
  "4v17HW2211C79sc7f1W1X3p3zl8417121Z9F1T321E48iCae2h35D397A41Xx5r21d2122122241C11171X21428171S14",
  "1511371qA2P1P1V1P1V1P1V1P1V1P18qv1V66r671H2712155+1X11m3j1A7G1XAUIi1aFSa7U21l6V1M82W7714121F1b",
  "6x1a23131qb141R1211211A141111614111111312112111111111121124171414111A1H53151HqJQ6Q6Qsp3Wtf1W1+",
  "e42kq52nf7FkJYj2+GYl1hw45gf8"]

/-- The numbers beyond ASCII. -/
def numberCode : List String := [
  "o525123Xj1Ac4Ac6AyCAs3A46i3As3As3A26k3Dp3A87d3Ae377Jj3AW3As3Ac2Ki8Ac2AlMKnR3l7A6AMAi9AW4Bb5A6A",
  "s5As2Ac4A6AsW11366Ac6p125sMy1k2MsJUfh11fO1P9E3tA4g4AU81FW1Ad1FWxSAy5AWA6w4Ac1Ac6AMAs2AsCAsuKAj",
  "Fj1Cv1H2rARa14T181c45g6AkT8P7d19h25M6W522G2k1W29q12U3h25e38O8f17gA6m1A6As8V+4Ag14m37c4UW4Ay1Am",
  "4A7Kx7AsAAs3AsBAc3A6Ki2CaDJz2AsKAs2TZ7Ac2As1AcBAc3LhX1l3XcFAcf2As2Ac4A17kGAc8NzA3vdNAck1KCKi3P",
  "rY1o1Wg2AcDAsFAt7AiM9W4AtOx11314i2j11FYUDZt2A"]

/-- A letter of any script. -/
def isLetter (c : Char) : Bool :=
  if c.toNat < 128 then c.isAlpha
  else (CodeSet.decode (String.join letterCode)).contains c.toNat

/-- A letter or a number of any script. -/
def isLetterOrNumber (c : Char) : Bool :=
  if c.toNat < 128 then c.isAlphanum
  else isLetter c || (CodeSet.decode (String.join numberCode)).contains c.toNat

end BoardLint.Unicode
