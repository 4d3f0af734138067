import BoardLint.Unicode.CodeSet

set_option autoImplicit false

/-! # Letters without case

The characters that differ in case alone, in version 16 of Unicode. Most come in pairs; a few
letters have more than two forms. -/

namespace BoardLint.Unicode

/-- The distances between the first characters of the pairs, from zero on. -/
def pairStarts : List String := [
  "X211111111121111112111111c311112111111111111111121111111W1122222222222222222222222422322222223",
  "2222222222222222222222322311221211311121111121111112221232121122143E22222223222222226422222222",
  "222222222224222222228131113112222211A53114115C55M1o6245112721122111212142115121215V92222222222",
  "2453611111111111111111221111111121311111121111n1422222222222222A222222222222222222222222222122",
  "222232222222222222222222222222222222222222222222222231111111111111111111111111111111111111gw21",
  "111111111111111111111111111111111111263111111111111111111111111111111111111111111311XL11111111",
  "11111111111111111111111111111111111111111111111111111111111111111111111111111qa2m74Ho322222222",
  "22222222222222222222222222222222222222242222222222222222222222222C2222222222222222222222222222",
  "222222222222222222221111111911111B111111191111111911111C22291111111911111111111113111111191111",
  "11191111111912GD1F14E-9k1111111111111111KpP1111111111111111111111111nv111111111111111111111111",
  "111111111111111111111111n172273B2222222222222222222222222222222222222222222222222925kgU2222422",
  "22222222222222K2222222222222e42222224222222222222222222222222222222B23222255222222222222B12222",
  "2225234622RmuKyW11111111111111111111111111cc1111111111111111111111111111111111111111f411111111",
  "111111111111111111111111111z41111111111211111111111111211111121ht11111111111111111111111111111",
  "1111111111111111111111+4111111111111111111111xv21111111111111111111111111111111XiL111111111111",
  "1111111111111111111XrU111111111111111111111111111111111"]

/-- The distances between the characters of each pair. -/
def pairDistances : List String := [
  "W1W1W1W1W1W1W1W1W1W1W1W1W1W1W1W1W1W1W1W1W1W1W1W1W1W1W1W1W1W1W1W1W1W1W1W1W1W1W1W1W1W1W1W1W1W1W1",
  "W1W1W1W1W1W1-j7v31111111111111111111111111111111111111111111111111111111111111Z6o611k61j6j61l2",
  "g6h61j6l6X3p6n61Z5Xof1p6r6Y4s6111w61w61w61v6v611x611u11111111111111111111111111111111111111111",
  "1111111hnA1enA-nA-nA1b2d211111-mAymA+mAlgf1hgf1dhf1eff1agf1agf1tlAXgf1zlAdlAZgf1gff1ref1oef111",
  "1Y4Y4Y4q3c1b1b1b1W2-1-1ZY7W1W1W1W1W1W1W1W1W1W1W1W1W1W1W1pX78111111111111711m2m2m2m2m2m2m2m2m2m",
  "2m2m2m2m2m2m2W1W1W1W1W1W1W1W1W1W1W1W1W1W1W1W1W1W1W1W1W1W1W1W1W1W111111111111111111111111111111",
  "11111111111111F1111111111111111111111111111111111111111111111111111111m1m1m1m1m1m1m1m1m1m1m1m1",
  "m1m1m1m1m1m1m1m1m1m1m1m1m1m1m1m1m1m1m1m1m1m1m1m1m1m1WZ7WZ7WZ7WZ7WZ7WZ7WZ7WZ7WZ7WZ7WZ7WZ7WZ7WZ7",
  "WZ7WZ7WZ7WZ7WZ7WZ7WZ7WZ7WZ7WZ7WZ7WZ7WZ7WZ7WZ7WZ7WZ7WZ7WZ7WZ7WZ7WZ7WZ7WZ7WZ7WZ7W+2W+2W+2W+2W+2W",
  "+2W+2W+2W+2W+2W+2W+2W+2W+2W+2W+2W+2W+2W+2W+2W+2W+2W+2W+2W+2W+2W+2W+2W+2W+2W+2W+2W+2W+2W+2W+2W+",
  "2W+2W+2W+2W+2W+2W+2W+2W+2W+2m+b1m+b1m+b1m+b1m+b1m+b1m+b1m+b1m+b1m+b1m+b1m+b1m+b1m+b1m+b1m+b1m+",
  "b1m+b1m+b1m+b1m+b1m+b1m+b1m+b1m+b1m+b1m+b1m+b1m+b1m+b1m+b1m+b1m+b1m+b1m+b1m+b1m+b1m+b1m+b1m+b1",
  "m+b1m+b1m+b1m+b1m+b1m+b1m+b1m+b1m+b1m+b1m+b1m+b1m+b1m+b1m+b1m+b1m+b1m+b1m+b1m+b1m+b1m+b1m+b1m+",
  "b1m+b1m+b1m+b1m+b1m+b1m+b1m+b1m+b1m+b1m+b1m+b1m+b1m+b1m+b1m+b1m+b18888881amY1ct3unY11111111111",
  "1111111111111111111111111111111111111111111111111111111111111111111111111111111111111111111111",
  "111111111111111111888888888888888888888888888888888888888888888888g2g2s2s2s2s2a3a3W4W4m3m3+3+3",
  "8888888888888888888888888899888879SGGGGGGGGGGGGGGGG1QQQQQQQQQQQQQQQQQQQQQQQQQQm1m1m1m1m1m1m1m1",
  "m1m1m1m1m1m1m1m1m1m1m1m1m1m1m1m1m1m1m1m1m1m1m1m1m1m1m1m1m1m1m1m1m1m1m1m1m1m1m1m111111111111111",
  "1111111111111111111111111111111111111111111111111111111111111111111111111111111111111111111111",
  "11111111111111111111111111111111111m11111111111WT11111111111111111W1W1W1W1W1W1W1W1W1W1W1W1W1W1",
  "W1W1W1W1W1W1W1W1W1W1W1W1e1e1e1e1e1e1e1e1e1e1e1e1e1e1e1e1e1e1e1e1e1e1e1e1e1e1e1e1e1e1e1e1e1e1e1",
  "e1e1e1e1e1e1e1e1e1e1e1e1e1e1e1e1e1e1e1e1e1e1e1e1e1e1e1e1e1e1e1e1e1e1e1e1e1e1e1e1e1d1d1d1d1d1d1",
  "d1d1d1d1d1d1d1d1d1d1d1d1d1d1d1d1d1d1d1d1d1d1d1d1d1d1d1d1d1W2W2W2W2W2W2W2W2W2W2W2W2W2W2W2W2W2W2",
  "W2W2W2W2W2W2W2W2W2W2W2W2W2W2W2W2W2W2W2W2W2W2W2W2W2W2W2W2W2W2W2W2W2W1W1W1W1W1W1W1W1W1W1W1W1W1W1",
  "W1W1W1W1W1W1W1W1W1W1W1W1W1W1W1W1W1W1W1W1W1W1W1W1W1W1W1W1W1W1W1W1W1W1W1W1W1W1W1W1W1W1W1W1W1W1W1",
  "W1W1W1W1W1W1W1W1W1W1W1W1W1W1W1W1W1W1W1W1W1W1W1W1W1Y1Y1Y1Y1Y1Y1Y1Y1Y1Y1Y1Y1Y1Y1Y1Y1Y1Y1Y1Y1Y1Y1",
  "Y1Y1Y1Y1Y1Y1Y1Y1Y1Y1Y1Y1"]

/-- The characters with more than two forms. -/
def largerFamilies : List (List Nat) := [
  [0x4B, 0x6B, 0x212A], [0x53, 0x73, 0x17F], [0xB5, 0x39C, 0x3BC], [0xC5, 0xE5, 0x212B],
  [0x1C4, 0x1C5, 0x1C6], [0x1C7, 0x1C8, 0x1C9], [0x1CA, 0x1CB, 0x1CC], [0x1F1, 0x1F2, 0x1F3],
  [0x345, 0x399, 0x3B9, 0x1FBE], [0x392, 0x3B2, 0x3D0], [0x395, 0x3B5, 0x3F5],
  [0x398, 0x3B8, 0x3D1, 0x3F4], [0x39A, 0x3BA, 0x3F0], [0x3A0, 0x3C0, 0x3D6], [0x3A1, 0x3C1, 0x3F1],
  [0x3A3, 0x3C2, 0x3C3], [0x3A6, 0x3C6, 0x3D5], [0x3A9, 0x3C9, 0x2126], [0x412, 0x432, 0x1C80],
  [0x414, 0x434, 0x1C81], [0x41E, 0x43E, 0x1C82], [0x421, 0x441, 0x1C83],
  [0x422, 0x442, 0x1C84, 0x1C85], [0x42A, 0x44A, 0x1C86], [0x462, 0x463, 0x1C87],
  [0x1C88, 0xA64A, 0xA64B], [0x1E60, 0x1E61, 0x1E9B]]

/-- The numbers of a text, each written for itself in digits of five bits. -/
def decodeNumbers (done place : Nat) : List Char → List Nat
  | [] => []
  | c :: rest =>
    let d := CodeSet.digit c
    if d < 32 then (done + d * place) :: decodeNumbers 0 1 rest
    else decodeNumbers (done + (d - 32) * place) (place * 32) rest

/-- The characters that differ in case alone. -/
def families : List (List Nat) :=
  let starts := (CodeSet.decode (String.join pairStarts)).bounds
  let distances := decodeNumbers 0 1 (String.join pairDistances).toList
  largerFamilies ++ (starts.zip distances).map fun (a, d) => [a, a + d]

/-- A set together with all characters that differ from one of it in case alone. -/
def CodeSet.foldCase (s : CodeSet) : CodeSet :=
  let touched := families.filter fun family => family.any s.contains
  s.union (.ofPoints touched.flatten)

/-- Whether some other character differs from a character in case alone. -/
def hasCase (n : Nat) : Bool := families.any fun family => family.contains n

end BoardLint.Unicode
