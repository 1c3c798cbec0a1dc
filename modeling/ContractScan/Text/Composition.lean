import ContractScan.Text.Row

/-!
# Composed characters

Pairs of characters that are one character in composed form: letters with their marks, and the
letters of Hangul syllables, which are composed by a rule.
-/

namespace ContractScan.Text

/-- For each second character of a pair, the first ones and what they make together. -/
def composedRows : List (Nat × String) := [
  (0x300, "41+c0 45+c8 49+cc 4f+d2 55+d9 61+e0 65+e8 69+ec 6f+f2 75+f9 dc+1db fc+1dc"),
  (0x300, "4e+1f8 6e+1f9 415+400 418+40d 435+450 438+45d 112+1e14 113+1e15 14c+1e50"),
  (0x300, "14d+1e51 57+1e80 77+1e81 c2+1ea6 e2+1ea7 102+1eb0 103+1eb1 ca+1ec0 ea+1ec1"),
  (0x300, "d4+1ed2 f4+1ed3 1a0+1edc 1a1+1edd 1af+1eea 1b0+1eeb 59+1ef2 79+1ef3"),
  (0x300, "1f00+1f02 1f01+1f03 1f08+1f0a 1f09+1f0b 1f10+1f12 1f11+1f13 1f18+1f1a"),
  (0x300, "1f19+1f1b 1f20+1f22 1f21+1f23 1f28+1f2a 1f29+1f2b 1f30+1f32 1f31+1f33"),
  (0x300, "1f38+1f3a 1f39+1f3b 1f40+1f42 1f41+1f43 1f48+1f4a 1f49+1f4b 1f50+1f52"),
  (0x300, "1f51+1f53 1f59+1f5b 1f60+1f62 1f61+1f63 1f68+1f6a 1f69+1f6b 3b1+1f70"),
  (0x300, "3b5+1f72 3b7+1f74 3b9+1f76 3bf+1f78 3c5+1f7a 3c9+1f7c 391+1fba 395+1fc8"),
  (0x300, "397+1fca 1fbf+1fcd 3ca+1fd2 399+1fda 1ffe+1fdd 3cb+1fe2 3a5+1fea a8+1fed"),
  (0x300, "39f+1ff8 3a9+1ffa"),
  (0x301, "41+c1 45+c9 49+cd 4f+d3 55+da 59+dd 61+e1 65+e9 69+ed 6f+f3 75+fa 79+fd"),
  (0x301, "43+106 63+107 4c+139 6c+13a 4e+143 6e+144 52+154 72+155 53+15a 73+15b"),
  (0x301, "5a+179 7a+17a dc+1d7 fc+1d8 47+1f4 67+1f5 c5+1fa e5+1fb c6+1fc e6+1fd"),
  (0x301, "d8+1fe f8+1ff a8+385 391+386 395+388 397+389 399+38a 39f+38c 3a5+38e"),
  (0x301, "3a9+38f 3ca+390 3b1+3ac 3b5+3ad 3b7+3ae 3b9+3af 3cb+3b0 3bf+3cc 3c5+3cd"),
  (0x301, "3c9+3ce 3d2+3d3 413+403 41a+40c 433+453 43a+45c c7+1e08 e7+1e09 112+1e16"),
  (0x301, "113+1e17 cf+1e2e ef+1e2f 4b+1e30 6b+1e31 4d+1e3e 6d+1e3f d5+1e4c f5+1e4d"),
  (0x301, "14c+1e52 14d+1e53 50+1e54 70+1e55 168+1e78 169+1e79 57+1e82 77+1e83"),
  (0x301, "c2+1ea4 e2+1ea5 102+1eae 103+1eaf ca+1ebe ea+1ebf d4+1ed0 f4+1ed1 1a0+1eda"),
  (0x301, "1a1+1edb 1af+1ee8 1b0+1ee9 1f00+1f04 1f01+1f05 1f08+1f0c 1f09+1f0d"),
  (0x301, "1f10+1f14 1f11+1f15 1f18+1f1c 1f19+1f1d 1f20+1f24 1f21+1f25 1f28+1f2c"),
  (0x301, "1f29+1f2d 1f30+1f34 1f31+1f35 1f38+1f3c 1f39+1f3d 1f40+1f44 1f41+1f45"),
  (0x301, "1f48+1f4c 1f49+1f4d 1f50+1f54 1f51+1f55 1f59+1f5d 1f60+1f64 1f61+1f65"),
  (0x301, "1f68+1f6c 1f69+1f6d 1fbf+1fce 1ffe+1fde"),
  (0x302, "41+c2 45+ca 49+ce 4f+d4 55+db 61+e2 65+ea 69+ee 6f+f4 75+fb 43+108 63+109"),
  (0x302, "47+11c 67+11d 48+124 68+125 4a+134 6a+135 53+15c 73+15d 57+174 77+175"),
  (0x302, "59+176 79+177 5a+1e90 7a+1e91 1ea0+1eac 1ea1+1ead 1eb8+1ec6 1eb9+1ec7"),
  (0x302, "1ecc+1ed8 1ecd+1ed9"),
  (0x303, "41+c3 4e+d1 4f+d5 61+e3 6e+f1 6f+f5 49+128 69+129 55+168 75+169 56+1e7c"),
  (0x303, "76+1e7d c2+1eaa e2+1eab 102+1eb4 103+1eb5 45+1ebc 65+1ebd ca+1ec4 ea+1ec5"),
  (0x303, "d4+1ed6 f4+1ed7 1a0+1ee0 1a1+1ee1 1af+1eee 1b0+1eef 59+1ef8 79+1ef9"),
  (0x304, "41+100 61+101 45+112 65+113 49+12a 69+12b 4f+14c 6f+14d 55+16a 75+16b"),
  (0x304, "dc+1d5 fc+1d6 c4+1de e4+1df 226+1e0 227+1e1 c6+1e2 e6+1e3 1ea+1ec 1eb+1ed"),
  (0x304, "d6+22a f6+22b d5+22c f5+22d 22e+230 22f+231 59+232 79+233 418+4e2 438+4e3"),
  (0x304, "423+4ee 443+4ef 47+1e20 67+1e21 1e36+1e38 1e37+1e39 1e5a+1e5c 1e5b+1e5d"),
  (0x304, "3b1+1fb1 391+1fb9 3b9+1fd1 399+1fd9 3c5+1fe1 3a5+1fe9"),
  (0x306, "41+102 61+103 45+114 65+115 47+11e 67+11f 49+12c 69+12d 4f+14e 6f+14f"),
  (0x306, "55+16c 75+16d 423+40e 418+419 438+439 443+45e 416+4c1 436+4c2 410+4d0"),
  (0x306, "430+4d1 415+4d6 435+4d7 228+1e1c 229+1e1d 1ea0+1eb6 1ea1+1eb7 3b1+1fb0"),
  (0x306, "391+1fb8 3b9+1fd0 399+1fd8 3c5+1fe0 3a5+1fe8"),
  (0x307, "43+10a 63+10b 45+116 65+117 47+120 67+121 49+130 5a+17b 7a+17c 41+226"),
  (0x307, "61+227 4f+22e 6f+22f 42+1e02 62+1e03 44+1e0a 64+1e0b 46+1e1e 66+1e1f"),
  (0x307, "48+1e22 68+1e23 4d+1e40 6d+1e41 4e+1e44 6e+1e45 50+1e56 70+1e57 52+1e58"),
  (0x307, "72+1e59 53+1e60 73+1e61 15a+1e64 15b+1e65 160+1e66 161+1e67 1e62+1e68"),
  (0x307, "1e63+1e69 54+1e6a 74+1e6b 57+1e86 77+1e87 58+1e8a 78+1e8b 59+1e8e 79+1e8f"),
  (0x307, "17f+1e9b 105d2+105c9 105da+105e4"),
  (0x308, "41+c4 45+cb 49+cf 4f+d6 55+dc 61+e4 65+eb 69+ef 6f+f6 75+fc 79+ff 59+178"),
  (0x308, "399+3aa 3a5+3ab 3b9+3ca 3c5+3cb 3d2+3d4 415+401 406+407 435+451 456+457"),
  (0x308, "410+4d2 430+4d3 4d8+4da 4d9+4db 416+4dc 436+4dd 417+4de 437+4df 418+4e4"),
  (0x308, "438+4e5 41e+4e6 43e+4e7 4e8+4ea 4e9+4eb 42d+4ec 44d+4ed 423+4f0 443+4f1"),
  (0x308, "427+4f4 447+4f5 42b+4f8 44b+4f9 48+1e26 68+1e27 d5+1e4e f5+1e4f 16a+1e7a"),
  (0x308, "16b+1e7b 57+1e84 77+1e85 58+1e8c 78+1e8d 74+1e97"),
  (0x309, "41+1ea2 61+1ea3 c2+1ea8 e2+1ea9 102+1eb2 103+1eb3 45+1eba 65+1ebb ca+1ec2"),
  (0x309, "ea+1ec3 49+1ec8 69+1ec9 4f+1ece 6f+1ecf d4+1ed4 f4+1ed5 1a0+1ede 1a1+1edf"),
  (0x309, "55+1ee6 75+1ee7 1af+1eec 1b0+1eed 59+1ef6 79+1ef7"),
  (0x30a, "41+c5 61+e5 55+16e 75+16f 77+1e98 79+1e99"),
  (0x30b, "4f+150 6f+151 55+170 75+171 423+4f2 443+4f3"),
  (0x30c, "43+10c 63+10d 44+10e 64+10f 45+11a 65+11b 4c+13d 6c+13e 4e+147 6e+148"),
  (0x30c, "52+158 72+159 53+160 73+161 54+164 74+165 5a+17d 7a+17e 41+1cd 61+1ce"),
  (0x30c, "49+1cf 69+1d0 4f+1d1 6f+1d2 55+1d3 75+1d4 dc+1d9 fc+1da 47+1e6 67+1e7"),
  (0x30c, "4b+1e8 6b+1e9 1b7+1ee 292+1ef 6a+1f0 48+21e 68+21f"),
  (0x30f, "41+200 61+201 45+204 65+205 49+208 69+209 4f+20c 6f+20d 52+210 72+211"),
  (0x30f, "55+214 75+215 474+476 475+477"),
  (0x311, "41+202 61+203 45+206 65+207 49+20a 69+20b 4f+20e 6f+20f 52+212 72+213"),
  (0x311, "55+216 75+217"),
  (0x313, "3b1+1f00 391+1f08 3b5+1f10 395+1f18 3b7+1f20 397+1f28 3b9+1f30 399+1f38"),
  (0x313, "3bf+1f40 39f+1f48 3c5+1f50 3c9+1f60 3a9+1f68 3c1+1fe4"),
  (0x314, "3b1+1f01 391+1f09 3b5+1f11 395+1f19 3b7+1f21 397+1f29 3b9+1f31 399+1f39"),
  (0x314, "3bf+1f41 39f+1f49 3c5+1f51 3a5+1f59 3c9+1f61 3a9+1f69 3c1+1fe5 3a1+1fec"),
  (0x31b, "4f+1a0 6f+1a1 55+1af 75+1b0"),
  (0x323, "42+1e04 62+1e05 44+1e0c 64+1e0d 48+1e24 68+1e25 4b+1e32 6b+1e33 4c+1e36"),
  (0x323, "6c+1e37 4d+1e42 6d+1e43 4e+1e46 6e+1e47 52+1e5a 72+1e5b 53+1e62 73+1e63"),
  (0x323, "54+1e6c 74+1e6d 56+1e7e 76+1e7f 57+1e88 77+1e89 5a+1e92 7a+1e93 41+1ea0"),
  (0x323, "61+1ea1 45+1eb8 65+1eb9 49+1eca 69+1ecb 4f+1ecc 6f+1ecd 1a0+1ee2 1a1+1ee3"),
  (0x323, "55+1ee4 75+1ee5 1af+1ef0 1b0+1ef1 59+1ef4 79+1ef5"), (0x324, "55+1e72 75+1e73"),
  (0x325, "41+1e00 61+1e01"), (0x326, "53+218 73+219 54+21a 74+21b"),
  (0x327, "43+c7 63+e7 47+122 67+123 4b+136 6b+137 4c+13b 6c+13c 4e+145 6e+146 52+156"),
  (0x327, "72+157 53+15e 73+15f 54+162 74+163 45+228 65+229 44+1e10 64+1e11 48+1e28"),
  (0x327, "68+1e29"),
  (0x328, "41+104 61+105 45+118 65+119 49+12e 69+12f 55+172 75+173 4f+1ea 6f+1eb"),
  (0x32d, "44+1e12 64+1e13 45+1e18 65+1e19 4c+1e3c 6c+1e3d 4e+1e4a 6e+1e4b 54+1e70"),
  (0x32d, "74+1e71 55+1e76 75+1e77"), (0x32e, "48+1e2a 68+1e2b"),
  (0x330, "45+1e1a 65+1e1b 49+1e2c 69+1e2d 55+1e74 75+1e75"),
  (0x331, "42+1e06 62+1e07 44+1e0e 64+1e0f 4b+1e34 6b+1e35 4c+1e3a 6c+1e3b 4e+1e48"),
  (0x331, "6e+1e49 52+1e5e 72+1e5f 54+1e6e 74+1e6f 5a+1e94 7a+1e95 68+1e96"),
  (0x338, "2190+219a 2192+219b 2194+21ae 21d0+21cd 21d4+21ce 21d2+21cf 2203+2204"),
  (0x338, "2208+2209 220b+220c 2223+2224 2225+2226 223c+2241 2243+2244 2245+2247"),
  (0x338, "2248+2249 3d+2260 2261+2262 224d+226d 3c+226e 3e+226f 2264+2270 2265+2271"),
  (0x338, "2272+2274 2273+2275 2276+2278 2277+2279 227a+2280 227b+2281 2282+2284"),
  (0x338, "2283+2285 2286+2288 2287+2289 22a2+22ac 22a8+22ad 22a9+22ae 22ab+22af"),
  (0x338, "227c+22e0 227d+22e1 2291+22e2 2292+22e3 22b2+22ea 22b3+22eb 22b4+22ec"),
  (0x338, "22b5+22ed"),
  (0x342, "1f00+1f06 1f01+1f07 1f08+1f0e 1f09+1f0f 1f20+1f26 1f21+1f27 1f28+1f2e"),
  (0x342, "1f29+1f2f 1f30+1f36 1f31+1f37 1f38+1f3e 1f39+1f3f 1f50+1f56 1f51+1f57"),
  (0x342, "1f59+1f5f 1f60+1f66 1f61+1f67 1f68+1f6e 1f69+1f6f 3b1+1fb6 a8+1fc1"),
  (0x342, "3b7+1fc6 1fbf+1fcf 3b9+1fd6 3ca+1fd7 1ffe+1fdf 3c5+1fe6 3cb+1fe7 3c9+1ff6"),
  (0x345, "1f00+1f80 1f01+1f81 1f02+1f82 1f03+1f83 1f04+1f84 1f05+1f85 1f06+1f86"),
  (0x345, "1f07+1f87 1f08+1f88 1f09+1f89 1f0a+1f8a 1f0b+1f8b 1f0c+1f8c 1f0d+1f8d"),
  (0x345, "1f0e+1f8e 1f0f+1f8f 1f20+1f90 1f21+1f91 1f22+1f92 1f23+1f93 1f24+1f94"),
  (0x345, "1f25+1f95 1f26+1f96 1f27+1f97 1f28+1f98 1f29+1f99 1f2a+1f9a 1f2b+1f9b"),
  (0x345, "1f2c+1f9c 1f2d+1f9d 1f2e+1f9e 1f2f+1f9f 1f60+1fa0 1f61+1fa1 1f62+1fa2"),
  (0x345, "1f63+1fa3 1f64+1fa4 1f65+1fa5 1f66+1fa6 1f67+1fa7 1f68+1fa8 1f69+1fa9"),
  (0x345, "1f6a+1faa 1f6b+1fab 1f6c+1fac 1f6d+1fad 1f6e+1fae 1f6f+1faf 1f70+1fb2"),
  (0x345, "3b1+1fb3 3ac+1fb4 1fb6+1fb7 391+1fbc 1f74+1fc2 3b7+1fc3 3ae+1fc4 1fc6+1fc7"),
  (0x345, "397+1fcc 1f7c+1ff2 3c9+1ff3 3ce+1ff4 1ff6+1ff7 3a9+1ffc"), (0x653, "627+622"),
  (0x654, "627+623 648+624 64a+626 6d5+6c0 6c1+6c2 6d2+6d3"), (0x655, "627+625"),
  (0x93c, "928+929 930+931 933+934"), (0x9be, "9c7+9cb"), (0x9d7, "9c7+9cc"), (0xb3e, "b47+b4b"),
  (0xb56, "b47+b48"), (0xb57, "b47+b4c"), (0xbbe, "bc6+bca bc7+bcb"), (0xbd7, "b92+b94 bc6+bcc"),
  (0xc56, "c46+c48"), (0xcc2, "cc6+cca"), (0xcd5, "cbf+cc0 cc6+cc7 cca+ccb"), (0xcd6, "cc6+cc8"),
  (0xd3e, "d46+d4a d47+d4b"), (0xd57, "d46+d4c"), (0xdca, "dd9+dda ddc+ddd"), (0xdcf, "dd9+ddc"),
  (0xddf, "dd9+dde"), (0x102e, "1025+1026"),
  (0x1b35, "1b05+1b06 1b07+1b08 1b09+1b0a 1b0b+1b0c 1b0d+1b0e 1b11+1b12 1b3a+1b3b"),
  (0x1b35, "1b3c+1b3d 1b3e+1b40 1b3f+1b41 1b42+1b43"),
  (0x3099, "304b+304c 304d+304e 304f+3050 3051+3052 3053+3054 3055+3056 3057+3058"),
  (0x3099, "3059+305a 305b+305c 305d+305e 305f+3060 3061+3062 3064+3065 3066+3067"),
  (0x3099, "3068+3069 306f+3070 3072+3073 3075+3076 3078+3079 307b+307c 3046+3094"),
  (0x3099, "309d+309e 30ab+30ac 30ad+30ae 30af+30b0 30b1+30b2 30b3+30b4 30b5+30b6"),
  (0x3099, "30b7+30b8 30b9+30ba 30bb+30bc 30bd+30be 30bf+30c0 30c1+30c2 30c4+30c5"),
  (0x3099, "30c6+30c7 30c8+30c9 30cf+30d0 30d2+30d3 30d5+30d6 30d8+30d9 30db+30dc"),
  (0x3099, "30a6+30f4 30ef+30f7 30f0+30f8 30f1+30f9 30f2+30fa 30fd+30fe"),
  (0x309a, "306f+3071 3072+3074 3075+3077 3078+307a 307b+307d 30cf+30d1 30d2+30d4"),
  (0x309a, "30d5+30d7 30d8+30da 30db+30dd"), (0x110ba, "11099+1109a 1109b+1109c 110a5+110ab"),
  (0x11127, "11131+1112e 11132+1112f"), (0x1133e, "11347+1134b"), (0x11357, "11347+1134c"),
  (0x113b8, "113c2+113c7"), (0x113bb, "11384+11385"), (0x113c2, "1138b+1138e 113c2+113c5"),
  (0x113c9, "11382+11383 11390+11391 113c2+113c8"), (0x114b0, "114b9+114bc"),
  (0x114ba, "114b9+114bb"), (0x114bd, "114b9+114be"), (0x115af, "115b8+115ba 115b9+115bb"),
  (0x11930, "11935+11938"), (0x1611e, "1611e+16121"),
  (0x1611f, "1611e+16123 16129+16124 16121+16126 16122+16127"),
  (0x16120, "1611e+16125 16121+16128"), (0x16129, "1611e+16122"),
  (0x16d67, "16d67+16d68 16d63+16d69 16d69+16d6a")]

/-- A character with those that it follows in pairs, and what each pair makes. -/
structure Second where
  char : Char
  firsts : List (Char × Char)
deriving DecidableEq, Repr

/-- The table, read. A second character may stand there several times. -/
def composedTable : List Second :=
  composedRows.map fun r ↦ ⟨Char.ofNat r.1, (rowPoints r.2).filterMap fun
    | [first, whole] => some (Char.ofNat first, Char.ofNat whole)
    | _ => none⟩

/-- The least code point of a character that is made of two others. -/
def leastComposed : Nat := 0xc0

/-- The syllable of two letters, or of a syllable without a final letter and such a letter. -/
def syllable? (a b : Char) : Option Char :=
  let (x, y) := (a.toNat, b.toNat)
  if 0x1100 ≤ x ∧ x < 0x1113 ∧ 0x1161 ≤ y ∧ y < 0x1176 then
    some (Char.ofNat (0xac00 + ((x - 0x1100) * 21 + (y - 0x1161)) * 28))
  else if 0xac00 ≤ x ∧ x < 0xd7a4 ∧ (x - 0xac00) % 28 = 0 ∧ 0x11a7 < y ∧ y < 0x11c3 then
    some (Char.ofNat (x + (y - 0x11a7)))
  else none

/-- The two parts of a syllable. -/
def syllableParts? (c : Char) : Option (Char × Char) :=
  let n := c.toNat - 0xac00
  if c.toNat < 0xac00 ∨ 0xd7a4 ≤ c.toNat then none
  else if n % 28 = 0 then
    some (Char.ofNat (0x1100 + n / 588), Char.ofNat (0x1161 + n / 28 % 21))
  else some (Char.ofNat (c.toNat - n % 28), Char.ofNat (0x11a7 + n % 28))

/-- The character that the two make together. -/
def compose? (a b : Char) : Option Char :=
  (syllable? a b).or
    (composedTable.findSome? fun r ↦ if r.char == b then r.firsts.lookup a else none)

/-- The two characters that the character is made of. -/
def parts? (c : Char) : Option (Char × Char) :=
  if c.toNat < leastComposed then none
  else
    (syllableParts? c).or
      (composedTable.findSome? fun r ↦
        (r.firsts.find? fun p ↦ p.2 == c).map fun p ↦ (p.1, r.char))

end ContractScan.Text
