import ContractScan.Text.Row

/-!
# Replaced characters

The characters beyond ASCII that domain names may be written with but are replaced before they
are looked up: capital by small letters, compatible forms by the plain ones, other full stops by
the one that separates labels, and what cannot be seen by nothing.
-/

namespace ContractScan.Url.Idna

/-- Rows of consecutive characters: the code point of the first, and what each is replaced by. -/
def replacedRows : List (Nat × String) := [
  (0xa0, "20"), (0xa8, "20+308"), (0xaa, "61"), (0xad, "-"), (0xaf, "20+304"),
  (0xb2, "32 33 20+301 3bc"), (0xb8, "20+327 31 6f"), (0xbc, "31+2044+34 31+2044+32 33+2044+34"),
  (0xc0, "e0 e1 e2 e3 e4 e5 e6 e7 e8 e9 ea eb ec ed ee ef f0 f1 f2 f3 f4 f5 f6"),
  (0xd8, "f8 f9 fa fb fc fd fe"), (0x100, "101"), (0x102, "103"), (0x104, "105"), (0x106, "107"),
  (0x108, "109"), (0x10a, "10b"), (0x10c, "10d"), (0x10e, "10f"), (0x110, "111"), (0x112, "113"),
  (0x114, "115"), (0x116, "117"), (0x118, "119"), (0x11a, "11b"), (0x11c, "11d"), (0x11e, "11f"),
  (0x120, "121"), (0x122, "123"), (0x124, "125"), (0x126, "127"), (0x128, "129"), (0x12a, "12b"),
  (0x12c, "12d"), (0x12e, "12f"), (0x130, "69+307"), (0x132, "69+6a 69+6a 135"), (0x136, "137"),
  (0x139, "13a"), (0x13b, "13c"), (0x13d, "13e"), (0x13f, "6c+b7 6c+b7 142"), (0x143, "144"),
  (0x145, "146"), (0x147, "148"), (0x149, "2bc+6e 14b"), (0x14c, "14d"), (0x14e, "14f"),
  (0x150, "151"), (0x152, "153"), (0x154, "155"), (0x156, "157"), (0x158, "159"), (0x15a, "15b"),
  (0x15c, "15d"), (0x15e, "15f"), (0x160, "161"), (0x162, "163"), (0x164, "165"), (0x166, "167"),
  (0x168, "169"), (0x16a, "16b"), (0x16c, "16d"), (0x16e, "16f"), (0x170, "171"), (0x172, "173"),
  (0x174, "175"), (0x176, "177"), (0x178, "ff 17a"), (0x17b, "17c"), (0x17d, "17e"), (0x17f, "73"),
  (0x181, "253 183"), (0x184, "185"), (0x186, "254 188"), (0x189, "256 257 18c"),
  (0x18e, "1dd 259 25b 192"), (0x193, "260 263"), (0x196, "269 268 199"), (0x19c, "26f 272"),
  (0x19f, "275 1a1"), (0x1a2, "1a3"), (0x1a4, "1a5"), (0x1a6, "280 1a8"), (0x1a9, "283"),
  (0x1ac, "1ad"), (0x1ae, "288 1b0"), (0x1b1, "28a 28b 1b4"), (0x1b5, "1b6"), (0x1b7, "292 1b9"),
  (0x1bc, "1bd"), (0x1c4, "64+17e 64+17e 64+17e 6c+6a 6c+6a 6c+6a 6e+6a 6e+6a 6e+6a 1ce"),
  (0x1cf, "1d0"), (0x1d1, "1d2"), (0x1d3, "1d4"), (0x1d5, "1d6"), (0x1d7, "1d8"), (0x1d9, "1da"),
  (0x1db, "1dc"), (0x1de, "1df"), (0x1e0, "1e1"), (0x1e2, "1e3"), (0x1e4, "1e5"), (0x1e6, "1e7"),
  (0x1e8, "1e9"), (0x1ea, "1eb"), (0x1ec, "1ed"), (0x1ee, "1ef"), (0x1f1, "64+7a 64+7a 64+7a 1f5"),
  (0x1f6, "195 1bf 1f9"), (0x1fa, "1fb"), (0x1fc, "1fd"), (0x1fe, "1ff"), (0x200, "201"),
  (0x202, "203"), (0x204, "205"), (0x206, "207"), (0x208, "209"), (0x20a, "20b"), (0x20c, "20d"),
  (0x20e, "20f"), (0x210, "211"), (0x212, "213"), (0x214, "215"), (0x216, "217"), (0x218, "219"),
  (0x21a, "21b"), (0x21c, "21d"), (0x21e, "21f"), (0x220, "19e"), (0x222, "223"), (0x224, "225"),
  (0x226, "227"), (0x228, "229"), (0x22a, "22b"), (0x22c, "22d"), (0x22e, "22f"), (0x230, "231"),
  (0x232, "233"), (0x23a, "2c65 23c"), (0x23d, "19a 2c66"), (0x241, "242"),
  (0x243, "180 289 28c 247"), (0x248, "249"), (0x24a, "24b"), (0x24c, "24d"), (0x24e, "24f"),
  (0x2b0, "68 266 6a 72 279 27b 281 77 79"), (0x2d8, "20+306 20+307 20+30a 20+328 20+303 20+30b"),
  (0x2e0, "263 6c 73 78 295"), (0x340, "300 301"), (0x343, "313 308+301 3b9"), (0x34f, "-"),
  (0x370, "371"), (0x372, "373"), (0x374, "2b9"), (0x376, "377"), (0x37a, "20+3b9"),
  (0x37e, "3b 3f3"), (0x384, "20+301 20+308+301 3ac b7 3ad 3ae 3af"), (0x38c, "3cc"),
  (0x38e, "3cd 3ce"),
  (0x391, "3b1 3b2 3b3 3b4 3b5 3b6 3b7 3b8 3b9 3ba 3bb 3bc 3bd 3be 3bf 3c0 3c1"),
  (0x3a3, "3c3 3c4 3c5 3c6 3c7 3c8 3c9 3ca 3cb"), (0x3cf, "3d7 3b2 3b8 3c5 3cd 3cb 3c6 3c0"),
  (0x3d8, "3d9"), (0x3da, "3db"), (0x3dc, "3dd"), (0x3de, "3df"), (0x3e0, "3e1"), (0x3e2, "3e3"),
  (0x3e4, "3e5"), (0x3e6, "3e7"), (0x3e8, "3e9"), (0x3ea, "3eb"), (0x3ec, "3ed"), (0x3ee, "3ef"),
  (0x3f0, "3ba 3c1 3c3"), (0x3f4, "3b8 3b5"), (0x3f7, "3f8"), (0x3f9, "3c3 3fb"),
  (0x3fd, "37b 37c 37d 450 451 452 453 454 455 456 457 458 459 45a 45b 45c 45d 45e"),
  (0x40f, "45f 430 431 432 433 434 435 436 437 438 439 43a 43b 43c 43d 43e 43f 440"),
  (0x421, "441 442 443 444 445 446 447 448 449 44a 44b 44c 44d 44e 44f"), (0x460, "461"),
  (0x462, "463"), (0x464, "465"), (0x466, "467"), (0x468, "469"), (0x46a, "46b"), (0x46c, "46d"),
  (0x46e, "46f"), (0x470, "471"), (0x472, "473"), (0x474, "475"), (0x476, "477"), (0x478, "479"),
  (0x47a, "47b"), (0x47c, "47d"), (0x47e, "47f"), (0x480, "481"), (0x48a, "48b"), (0x48c, "48d"),
  (0x48e, "48f"), (0x490, "491"), (0x492, "493"), (0x494, "495"), (0x496, "497"), (0x498, "499"),
  (0x49a, "49b"), (0x49c, "49d"), (0x49e, "49f"), (0x4a0, "4a1"), (0x4a2, "4a3"), (0x4a4, "4a5"),
  (0x4a6, "4a7"), (0x4a8, "4a9"), (0x4aa, "4ab"), (0x4ac, "4ad"), (0x4ae, "4af"), (0x4b0, "4b1"),
  (0x4b2, "4b3"), (0x4b4, "4b5"), (0x4b6, "4b7"), (0x4b8, "4b9"), (0x4ba, "4bb"), (0x4bc, "4bd"),
  (0x4be, "4bf"), (0x4c0, "4cf 4c2"), (0x4c3, "4c4"), (0x4c5, "4c6"), (0x4c7, "4c8"),
  (0x4c9, "4ca"), (0x4cb, "4cc"), (0x4cd, "4ce"), (0x4d0, "4d1"), (0x4d2, "4d3"), (0x4d4, "4d5"),
  (0x4d6, "4d7"), (0x4d8, "4d9"), (0x4da, "4db"), (0x4dc, "4dd"), (0x4de, "4df"), (0x4e0, "4e1"),
  (0x4e2, "4e3"), (0x4e4, "4e5"), (0x4e6, "4e7"), (0x4e8, "4e9"), (0x4ea, "4eb"), (0x4ec, "4ed"),
  (0x4ee, "4ef"), (0x4f0, "4f1"), (0x4f2, "4f3"), (0x4f4, "4f5"), (0x4f6, "4f7"), (0x4f8, "4f9"),
  (0x4fa, "4fb"), (0x4fc, "4fd"), (0x4fe, "4ff"), (0x500, "501"), (0x502, "503"), (0x504, "505"),
  (0x506, "507"), (0x508, "509"), (0x50a, "50b"), (0x50c, "50d"), (0x50e, "50f"), (0x510, "511"),
  (0x512, "513"), (0x514, "515"), (0x516, "517"), (0x518, "519"), (0x51a, "51b"), (0x51c, "51d"),
  (0x51e, "51f"), (0x520, "521"), (0x522, "523"), (0x524, "525"), (0x526, "527"), (0x528, "529"),
  (0x52a, "52b"), (0x52c, "52d"), (0x52e, "52f"),
  (0x531, "561 562 563 564 565 566 567 568 569 56a 56b 56c 56d 56e 56f 570 571 572"),
  (0x543, "573 574 575 576 577 578 579 57a 57b 57c 57d 57e 57f 580 581 582 583 584"),
  (0x555, "585 586"), (0x587, "565+582"), (0x675, "627+674 648+674 6c7+674 64a+674"),
  (0x958, "915+93c 916+93c 917+93c 91c+93c 921+93c 922+93c 92b+93c 92f+93c"),
  (0x9dc, "9a1+9bc 9a2+9bc"), (0x9df, "9af+9bc"), (0xa33, "a32+a3c"), (0xa36, "a38+a3c"),
  (0xa59, "a16+a3c a17+a3c a1c+a3c"), (0xa5e, "a2b+a3c"), (0xb5c, "b21+b3c b22+b3c"),
  (0xe33, "e4d+e32"), (0xeb3, "ecd+eb2"), (0xedc, "eab+e99 eab+ea1"), (0xf0c, "f0b"),
  (0xf43, "f42+fb7"), (0xf4d, "f4c+fb7"), (0xf52, "f51+fb7"), (0xf57, "f56+fb7"),
  (0xf5c, "f5b+fb7"), (0xf69, "f40+fb5"), (0xf73, "f71+f72"),
  (0xf75, "f71+f74 fb2+f80 fb2+f71+f80 fb3+f80 fb3+f71+f80"), (0xf81, "f71+f80"),
  (0xf93, "f92+fb7"), (0xf9d, "f9c+fb7"), (0xfa2, "fa1+fb7"), (0xfa7, "fa6+fb7"),
  (0xfac, "fab+fb7"), (0xfb9, "f90+fb5"),
  (0x10a0, "2d00 2d01 2d02 2d03 2d04 2d05 2d06 2d07 2d08 2d09 2d0a 2d0b 2d0c 2d0d"),
  (0x10ae, "2d0e 2d0f 2d10 2d11 2d12 2d13 2d14 2d15 2d16 2d17 2d18 2d19 2d1a 2d1b"),
  (0x10bc, "2d1c 2d1d 2d1e 2d1f 2d20 2d21 2d22 2d23 2d24 2d25"), (0x10c7, "2d27"), (0x10cd, "2d2d"),
  (0x10fc, "10dc"), (0x115f, "- -"), (0x13f8, "13f0 13f1 13f2 13f3 13f4 13f5"), (0x17b4, "- -"),
  (0x180b, "- - - - -"), (0x1c80, "432 434 43e 441 442 442 44a 463 a64b 1c8a"),
  (0x1c90, "10d0 10d1 10d2 10d3 10d4 10d5 10d6 10d7 10d8 10d9 10da 10db 10dc 10dd"),
  (0x1c9e, "10de 10df 10e0 10e1 10e2 10e3 10e4 10e5 10e6 10e7 10e8 10e9 10ea 10eb"),
  (0x1cac, "10ec 10ed 10ee 10ef 10f0 10f1 10f2 10f3 10f4 10f5 10f6 10f7 10f8 10f9"),
  (0x1cba, "10fa"), (0x1cbd, "10fd 10fe 10ff"), (0x1d2c, "61 e6 62"),
  (0x1d30, "64 65 1dd 67 68 69 6a 6b 6c 6d 6e"),
  (0x1d3c, "6f 223 70 72 74 75 77 61 250 251 1d02 62 64 65 259 25b 25c 67"),
  (0x1d4f, "6b 6d 14b 6f 254 1d16 1d17 70 74 75 1d1d 26f 76 1d25 3b2 3b3 3b4 3c6 3c7"),
  (0x1d62, "69 72 75 76 3b2 3b3 3c1 3c6 3c7"), (0x1d78, "43d"),
  (0x1d9b, "252 63 255 f0 25c 66 25f 261 265 268 269 26a 1d7b 29d 26d 1d85 29f 271"),
  (0x1dad, "270 272 273 274 275 278 282 283 1ab 289 28a 1d1c 28b 28c 7a 290 291 292"),
  (0x1dbf, "3b8"), (0x1e00, "1e01"), (0x1e02, "1e03"), (0x1e04, "1e05"), (0x1e06, "1e07"),
  (0x1e08, "1e09"), (0x1e0a, "1e0b"), (0x1e0c, "1e0d"), (0x1e0e, "1e0f"), (0x1e10, "1e11"),
  (0x1e12, "1e13"), (0x1e14, "1e15"), (0x1e16, "1e17"), (0x1e18, "1e19"), (0x1e1a, "1e1b"),
  (0x1e1c, "1e1d"), (0x1e1e, "1e1f"), (0x1e20, "1e21"), (0x1e22, "1e23"), (0x1e24, "1e25"),
  (0x1e26, "1e27"), (0x1e28, "1e29"), (0x1e2a, "1e2b"), (0x1e2c, "1e2d"), (0x1e2e, "1e2f"),
  (0x1e30, "1e31"), (0x1e32, "1e33"), (0x1e34, "1e35"), (0x1e36, "1e37"), (0x1e38, "1e39"),
  (0x1e3a, "1e3b"), (0x1e3c, "1e3d"), (0x1e3e, "1e3f"), (0x1e40, "1e41"), (0x1e42, "1e43"),
  (0x1e44, "1e45"), (0x1e46, "1e47"), (0x1e48, "1e49"), (0x1e4a, "1e4b"), (0x1e4c, "1e4d"),
  (0x1e4e, "1e4f"), (0x1e50, "1e51"), (0x1e52, "1e53"), (0x1e54, "1e55"), (0x1e56, "1e57"),
  (0x1e58, "1e59"), (0x1e5a, "1e5b"), (0x1e5c, "1e5d"), (0x1e5e, "1e5f"), (0x1e60, "1e61"),
  (0x1e62, "1e63"), (0x1e64, "1e65"), (0x1e66, "1e67"), (0x1e68, "1e69"), (0x1e6a, "1e6b"),
  (0x1e6c, "1e6d"), (0x1e6e, "1e6f"), (0x1e70, "1e71"), (0x1e72, "1e73"), (0x1e74, "1e75"),
  (0x1e76, "1e77"), (0x1e78, "1e79"), (0x1e7a, "1e7b"), (0x1e7c, "1e7d"), (0x1e7e, "1e7f"),
  (0x1e80, "1e81"), (0x1e82, "1e83"), (0x1e84, "1e85"), (0x1e86, "1e87"), (0x1e88, "1e89"),
  (0x1e8a, "1e8b"), (0x1e8c, "1e8d"), (0x1e8e, "1e8f"), (0x1e90, "1e91"), (0x1e92, "1e93"),
  (0x1e94, "1e95"), (0x1e9a, "61+2be 1e61"), (0x1e9e, "df"), (0x1ea0, "1ea1"), (0x1ea2, "1ea3"),
  (0x1ea4, "1ea5"), (0x1ea6, "1ea7"), (0x1ea8, "1ea9"), (0x1eaa, "1eab"), (0x1eac, "1ead"),
  (0x1eae, "1eaf"), (0x1eb0, "1eb1"), (0x1eb2, "1eb3"), (0x1eb4, "1eb5"), (0x1eb6, "1eb7"),
  (0x1eb8, "1eb9"), (0x1eba, "1ebb"), (0x1ebc, "1ebd"), (0x1ebe, "1ebf"), (0x1ec0, "1ec1"),
  (0x1ec2, "1ec3"), (0x1ec4, "1ec5"), (0x1ec6, "1ec7"), (0x1ec8, "1ec9"), (0x1eca, "1ecb"),
  (0x1ecc, "1ecd"), (0x1ece, "1ecf"), (0x1ed0, "1ed1"), (0x1ed2, "1ed3"), (0x1ed4, "1ed5"),
  (0x1ed6, "1ed7"), (0x1ed8, "1ed9"), (0x1eda, "1edb"), (0x1edc, "1edd"), (0x1ede, "1edf"),
  (0x1ee0, "1ee1"), (0x1ee2, "1ee3"), (0x1ee4, "1ee5"), (0x1ee6, "1ee7"), (0x1ee8, "1ee9"),
  (0x1eea, "1eeb"), (0x1eec, "1eed"), (0x1eee, "1eef"), (0x1ef0, "1ef1"), (0x1ef2, "1ef3"),
  (0x1ef4, "1ef5"), (0x1ef6, "1ef7"), (0x1ef8, "1ef9"), (0x1efa, "1efb"), (0x1efc, "1efd"),
  (0x1efe, "1eff"), (0x1f08, "1f00 1f01 1f02 1f03 1f04 1f05 1f06 1f07"),
  (0x1f18, "1f10 1f11 1f12 1f13 1f14 1f15"), (0x1f28, "1f20 1f21 1f22 1f23 1f24 1f25 1f26 1f27"),
  (0x1f38, "1f30 1f31 1f32 1f33 1f34 1f35 1f36 1f37"), (0x1f48, "1f40 1f41 1f42 1f43 1f44 1f45"),
  (0x1f59, "1f51"), (0x1f5b, "1f53"), (0x1f5d, "1f55"), (0x1f5f, "1f57"),
  (0x1f68, "1f60 1f61 1f62 1f63 1f64 1f65 1f66 1f67"), (0x1f71, "3ac"), (0x1f73, "3ad"),
  (0x1f75, "3ae"), (0x1f77, "3af"), (0x1f79, "3cc"), (0x1f7b, "3cd"), (0x1f7d, "3ce"),
  (0x1f80, "1f00+3b9 1f01+3b9 1f02+3b9 1f03+3b9 1f04+3b9 1f05+3b9 1f06+3b9 1f07+3b9"),
  (0x1f88, "1f00+3b9 1f01+3b9 1f02+3b9 1f03+3b9 1f04+3b9 1f05+3b9 1f06+3b9 1f07+3b9"),
  (0x1f90, "1f20+3b9 1f21+3b9 1f22+3b9 1f23+3b9 1f24+3b9 1f25+3b9 1f26+3b9 1f27+3b9"),
  (0x1f98, "1f20+3b9 1f21+3b9 1f22+3b9 1f23+3b9 1f24+3b9 1f25+3b9 1f26+3b9 1f27+3b9"),
  (0x1fa0, "1f60+3b9 1f61+3b9 1f62+3b9 1f63+3b9 1f64+3b9 1f65+3b9 1f66+3b9 1f67+3b9"),
  (0x1fa8, "1f60+3b9 1f61+3b9 1f62+3b9 1f63+3b9 1f64+3b9 1f65+3b9 1f66+3b9 1f67+3b9"),
  (0x1fb2, "1f70+3b9 3b1+3b9 3ac+3b9"),
  (0x1fb7, "1fb6+3b9 1fb0 1fb1 1f70 3ac 3b1+3b9 20+313 3b9 20+313 20+342 20+308+342"),
  (0x1fc2, "1f74+3b9 3b7+3b9 3ae+3b9"),
  (0x1fc7, "1fc6+3b9 1f72 3ad 1f74 3ae 3b7+3b9 20+313+300 20+313+301 20+313+342"), (0x1fd3, "390"),
  (0x1fd8, "1fd0 1fd1 1f76 3af"), (0x1fdd, "20+314+300 20+314+301 20+314+342"), (0x1fe3, "3b0"),
  (0x1fe8, "1fe0 1fe1 1f7a 3cd 1fe5 20+308+300 20+308+301 60"),
  (0x1ff2, "1f7c+3b9 3c9+3b9 3ce+3b9"),
  (0x1ff7, "1ff6+3b9 1f78 3cc 1f7c 3ce 3c9+3b9 20+301 20+314"),
  (0x2000, "20 20 20 20 20 20 20 20 20 20 20 -"), (0x2011, "2010"), (0x2017, "20+333"),
  (0x202f, "20"), (0x2033, "2032+2032 2032+2032+2032"), (0x2036, "2035+2035 2035+2035+2035"),
  (0x203c, "21+21"), (0x203e, "20+305"), (0x2047, "3f+3f 3f+21 21+3f"),
  (0x2057, "2032+2032+2032+2032"), (0x205f, "20 - - - - -"), (0x206a, "- - - - - - 30 69"),
  (0x2074, "34 35 36 37 38 39 2b 2212 3d 28 29 6e 30 31 32 33 34 35 36 37 38 39 2b"),
  (0x208b, "2212 3d 28 29"), (0x2090, "61 65 6f 78 259 68 6b 6c 6d 6e 70 73 74"), (0x20a8, "72+73"),
  (0x2100, "61+2f+63 61+2f+73 63 b0+63"), (0x2105, "63+2f+6f 63+2f+75 25b"),
  (0x2109, "b0+66 67 68 68 68 68 127 69 69 6c 6c"), (0x2115, "6e 6e+6f"),
  (0x2119, "70 71 72 72 72"), (0x2120, "73+6d 74+65+6c 74+6d"), (0x2124, "7a"), (0x2126, "3c9"),
  (0x2128, "7a"), (0x212a, "6b e5 62 63"), (0x212f, "65 65 66 214e 6d 6f 5d0 5d1 5d2 5d3 69"),
  (0x213b, "66+61+78 3c0 3b3 3b3 3c0 2211"), (0x2145, "64 64 65 69 6a"),
  (0x2150, "31+2044+37 31+2044+39 31+2044+31+30 31+2044+33 32+2044+33 31+2044+35"),
  (0x2156, "32+2044+35 33+2044+35 34+2044+35 31+2044+36 35+2044+36 31+2044+38"),
  (0x215c, "33+2044+38 35+2044+38 37+2044+38 31+2044 69 69+69 69+69+69 69+76 76"),
  (0x2165, "76+69 76+69+69 76+69+69+69 69+78 78 78+69 78+69+69 6c 63 64 6d 69 69+69"),
  (0x2172, "69+69+69 69+76 76 76+69 76+69+69 76+69+69+69 69+78 78 78+69 78+69+69 6c"),
  (0x217d, "63 64 6d"), (0x2183, "2184"), (0x2189, "30+2044+33"),
  (0x222c, "222b+222b 222b+222b+222b"), (0x222f, "222e+222e 222e+222e+222e"), (0x2329, "3008 3009"),
  (0x2460, "31 32 33 34 35 36 37 38 39 31+30 31+31 31+32 31+33 31+34 31+35 31+36"),
  (0x2470, "31+37 31+38 31+39 32+30 28+31+29 28+32+29 28+33+29 28+34+29 28+35+29"),
  (0x2479, "28+36+29 28+37+29 28+38+29 28+39+29 28+31+30+29 28+31+31+29 28+31+32+29"),
  (0x2480, "28+31+33+29 28+31+34+29 28+31+35+29 28+31+36+29 28+31+37+29 28+31+38+29"),
  (0x2486, "28+31+39+29 28+32+30+29"),
  (0x249c, "28+61+29 28+62+29 28+63+29 28+64+29 28+65+29 28+66+29 28+67+29 28+68+29"),
  (0x24a4, "28+69+29 28+6a+29 28+6b+29 28+6c+29 28+6d+29 28+6e+29 28+6f+29 28+70+29"),
  (0x24ac, "28+71+29 28+72+29 28+73+29 28+74+29 28+75+29 28+76+29 28+77+29 28+78+29"),
  (0x24b4, "28+79+29 28+7a+29 61 62 63 64 65 66 67 68 69 6a 6b 6c 6d 6e 6f 70 71 72"),
  (0x24c8, "73 74 75 76 77 78 79 7a 61 62 63 64 65 66 67 68 69 6a 6b 6c 6d 6e 6f 70"),
  (0x24e0, "71 72 73 74 75 76 77 78 79 7a 30"), (0x2a0c, "222b+222b+222b+222b"),
  (0x2a74, "3a+3a+3d 3d+3d 3d+3d+3d"), (0x2adc, "2add+338"),
  (0x2c00, "2c30 2c31 2c32 2c33 2c34 2c35 2c36 2c37 2c38 2c39 2c3a 2c3b 2c3c 2c3d"),
  (0x2c0e, "2c3e 2c3f 2c40 2c41 2c42 2c43 2c44 2c45 2c46 2c47 2c48 2c49 2c4a 2c4b"),
  (0x2c1c, "2c4c 2c4d 2c4e 2c4f 2c50 2c51 2c52 2c53 2c54 2c55 2c56 2c57 2c58 2c59"),
  (0x2c2a, "2c5a 2c5b 2c5c 2c5d 2c5e 2c5f"), (0x2c60, "2c61"), (0x2c62, "26b 1d7d 27d"),
  (0x2c67, "2c68"), (0x2c69, "2c6a"), (0x2c6b, "2c6c"), (0x2c6d, "251 271 250 252"),
  (0x2c72, "2c73"), (0x2c75, "2c76"), (0x2c7c, "6a 76 23f 240 2c81"), (0x2c82, "2c83"),
  (0x2c84, "2c85"), (0x2c86, "2c87"), (0x2c88, "2c89"), (0x2c8a, "2c8b"), (0x2c8c, "2c8d"),
  (0x2c8e, "2c8f"), (0x2c90, "2c91"), (0x2c92, "2c93"), (0x2c94, "2c95"), (0x2c96, "2c97"),
  (0x2c98, "2c99"), (0x2c9a, "2c9b"), (0x2c9c, "2c9d"), (0x2c9e, "2c9f"), (0x2ca0, "2ca1"),
  (0x2ca2, "2ca3"), (0x2ca4, "2ca5"), (0x2ca6, "2ca7"), (0x2ca8, "2ca9"), (0x2caa, "2cab"),
  (0x2cac, "2cad"), (0x2cae, "2caf"), (0x2cb0, "2cb1"), (0x2cb2, "2cb3"), (0x2cb4, "2cb5"),
  (0x2cb6, "2cb7"), (0x2cb8, "2cb9"), (0x2cba, "2cbb"), (0x2cbc, "2cbd"), (0x2cbe, "2cbf"),
  (0x2cc0, "2cc1"), (0x2cc2, "2cc3"), (0x2cc4, "2cc5"), (0x2cc6, "2cc7"), (0x2cc8, "2cc9"),
  (0x2cca, "2ccb"), (0x2ccc, "2ccd"), (0x2cce, "2ccf"), (0x2cd0, "2cd1"), (0x2cd2, "2cd3"),
  (0x2cd4, "2cd5"), (0x2cd6, "2cd7"), (0x2cd8, "2cd9"), (0x2cda, "2cdb"), (0x2cdc, "2cdd"),
  (0x2cde, "2cdf"), (0x2ce0, "2ce1"), (0x2ce2, "2ce3"), (0x2ceb, "2cec"), (0x2ced, "2cee"),
  (0x2cf2, "2cf3"), (0x2d6f, "2d61"), (0x2e9f, "6bcd"), (0x2ef3, "9f9f"),
  (0x2f00, "4e00 4e28 4e36 4e3f 4e59 4e85 4e8c 4ea0 4eba 513f 5165 516b 5182 5196"),
  (0x2f0e, "51ab 51e0 51f5 5200 529b 52f9 5315 531a 5338 5341 535c 5369 5382 53b6"),
  (0x2f1c, "53c8 53e3 56d7 571f 58eb 5902 590a 5915 5927 5973 5b50 5b80 5bf8 5c0f"),
  (0x2f2a, "5c22 5c38 5c6e 5c71 5ddb 5de5 5df1 5dfe 5e72 5e7a 5e7f 5ef4 5efe 5f0b"),
  (0x2f38, "5f13 5f50 5f61 5f73 5fc3 6208 6236 624b 652f 6534 6587 6597 65a4 65b9"),
  (0x2f46, "65e0 65e5 66f0 6708 6728 6b20 6b62 6b79 6bb3 6bcb 6bd4 6bdb 6c0f 6c14"),
  (0x2f54, "6c34 706b 722a 7236 723b 723f 7247 7259 725b 72ac 7384 7389 74dc 74e6"),
  (0x2f62, "7518 751f 7528 7530 758b 7592 7676 767d 76ae 76bf 76ee 77db 77e2 77f3"),
  (0x2f70, "793a 79b8 79be 7a74 7acb 7af9 7c73 7cf8 7f36 7f51 7f8a 7fbd 8001 800c"),
  (0x2f7e, "8012 8033 807f 8089 81e3 81ea 81f3 81fc 820c 821b 821f 826e 8272 8278"),
  (0x2f8c, "864d 866b 8840 884c 8863 897e 898b 89d2 8a00 8c37 8c46 8c55 8c78 8c9d"),
  (0x2f9a, "8d64 8d70 8db3 8eab 8eca 8f9b 8fb0 8fb5 9091 9149 91c6 91cc 91d1 9577"),
  (0x2fa8, "9580 961c 96b6 96b9 96e8 9751 975e 9762 9769 97cb 97ed 97f3 9801 98a8"),
  (0x2fb6, "98db 98df 9996 9999 99ac 9aa8 9ad8 9adf 9b25 9b2f 9b32 9b3c 9b5a 9ce5"),
  (0x2fc4, "9e75 9e7f 9ea5 9ebb 9ec3 9ecd 9ed1 9ef9 9efd 9f0e 9f13 9f20 9f3b 9f4a"),
  (0x2fd2, "9f52 9f8d 9f9c 9fa0"), (0x3000, "20"), (0x3002, "2e"), (0x3036, "3012"),
  (0x3038, "5341 5344 5345"), (0x309b, "20+3099 20+309a"), (0x309f, "3088+308a"),
  (0x30ff, "30b3+30c8"),
  (0x3131, "1100 1101 11aa 1102 11ac 11ad 1103 1104 1105 11b0 11b1 11b2 11b3 11b4"),
  (0x313f, "11b5 111a 1106 1107 1108 1121 1109 110a 110b 110c 110d 110e 110f 1110"),
  (0x314d, "1111 1112 1161 1162 1163 1164 1165 1166 1167 1168 1169 116a 116b 116c"),
  (0x315b, "116d 116e 116f 1170 1171 1172 1173 1174 1175 - 1114 1115 11c7 11c8 11cc"),
  (0x316a, "11ce 11d3 11d7 11d9 111c 11dd 11df 111d 111e 1120 1122 1123 1127 1129"),
  (0x3178, "112b 112c 112d 112e 112f 1132 1136 1140 1147 114c 11f1 11f2 1157 1158"),
  (0x3186, "1159 1184 1185 1188 1191 1192 1194 119e 11a1"),
  (0x3192, "4e00 4e8c 4e09 56db 4e0a 4e2d 4e0b 7532 4e59 4e19 4e01 5929 5730 4eba"),
  (0x3200, "28+1100+29 28+1102+29 28+1103+29 28+1105+29 28+1106+29 28+1107+29"),
  (0x3206, "28+1109+29 28+110b+29 28+110c+29 28+110e+29 28+110f+29 28+1110+29"),
  (0x320c, "28+1111+29 28+1112+29 28+ac00+29 28+b098+29 28+b2e4+29 28+b77c+29"),
  (0x3212, "28+b9c8+29 28+bc14+29 28+c0ac+29 28+c544+29 28+c790+29 28+cc28+29"),
  (0x3218, "28+ce74+29 28+d0c0+29 28+d30c+29 28+d558+29 28+c8fc+29 28+c624+c804+29"),
  (0x321e, "28+c624+d6c4+29"),
  (0x3220, "28+4e00+29 28+4e8c+29 28+4e09+29 28+56db+29 28+4e94+29 28+516d+29"),
  (0x3226, "28+4e03+29 28+516b+29 28+4e5d+29 28+5341+29 28+6708+29 28+706b+29"),
  (0x322c, "28+6c34+29 28+6728+29 28+91d1+29 28+571f+29 28+65e5+29 28+682a+29"),
  (0x3232, "28+6709+29 28+793e+29 28+540d+29 28+7279+29 28+8ca1+29 28+795d+29"),
  (0x3238, "28+52b4+29 28+4ee3+29 28+547c+29 28+5b66+29 28+76e3+29 28+4f01+29"),
  (0x323e, "28+8cc7+29 28+5354+29 28+796d+29 28+4f11+29 28+81ea+29 28+81f3+29 554f"),
  (0x3245, "5e7c 6587 7b8f"),
  (0x3250, "70+74+65 32+31 32+32 32+33 32+34 32+35 32+36 32+37 32+38 32+39 33+30"),
  (0x325b, "33+31 33+32 33+33 33+34 33+35 1100 1102 1103 1105 1106 1107 1109 110b"),
  (0x3268, "110c 110e 110f 1110 1111 1112 ac00 b098 b2e4 b77c b9c8 bc14 c0ac c544"),
  (0x3276, "c790 cc28 ce74 d0c0 d30c d558 cc38+ace0 c8fc+c758 c6b0"),
  (0x3280, "4e00 4e8c 4e09 56db 4e94 516d 4e03 516b 4e5d 5341 6708 706b 6c34 6728"),
  (0x328e, "91d1 571f 65e5 682a 6709 793e 540d 7279 8ca1 795d 52b4 79d8 7537 5973"),
  (0x329c, "9069 512a 5370 6ce8 9805 4f11 5199 6b63 4e0a 4e2d 4e0b 5de6 53f3 533b"),
  (0x32aa, "5b97 5b66 76e3 4f01 8cc7 5354 591c 33+36 33+37 33+38 33+39 34+30 34+31"),
  (0x32b7, "34+32 34+33 34+34 34+35 34+36 34+37 34+38 34+39 35+30 31+6708 32+6708"),
  (0x32c2, "33+6708 34+6708 35+6708 36+6708 37+6708 38+6708 39+6708 31+30+6708"),
  (0x32ca, "31+31+6708 31+32+6708 68+67 65+72+67 65+76 6c+74+64 30a2 30a4 30a6 30a8"),
  (0x32d4, "30aa 30ab 30ad 30af 30b1 30b3 30b5 30b7 30b9 30bb 30bd 30bf 30c1 30c4"),
  (0x32e2, "30c6 30c8 30ca 30cb 30cc 30cd 30ce 30cf 30d2 30d5 30d8 30db 30de 30df"),
  (0x32f0, "30e0 30e1 30e2 30e4 30e6 30e8 30e9 30ea 30eb 30ec 30ed 30ef 30f0 30f1"),
  (0x32fe, "30f2 4ee4+548c 30a2+30d1+30fc+30c8 30a2+30eb+30d5+30a1"),
  (0x3302, "30a2+30f3+30da+30a2 30a2+30fc+30eb 30a4+30cb+30f3+30b0 30a4+30f3+30c1"),
  (0x3306, "30a6+30a9+30f3 30a8+30b9+30af+30fc+30c9 30a8+30fc+30ab+30fc"),
  (0x3309, "30aa+30f3+30b9 30aa+30fc+30e0 30ab+30a4+30ea 30ab+30e9+30c3+30c8"),
  (0x330d, "30ab+30ed+30ea+30fc 30ac+30ed+30f3 30ac+30f3+30de 30ae+30ac"),
  (0x3311, "30ae+30cb+30fc 30ad+30e5+30ea+30fc 30ae+30eb+30c0+30fc 30ad+30ed"),
  (0x3315, "30ad+30ed+30b0+30e9+30e0 30ad+30ed+30e1+30fc+30c8+30eb"),
  (0x3317, "30ad+30ed+30ef+30c3+30c8 30b0+30e9+30e0 30b0+30e9+30e0+30c8+30f3"),
  (0x331a, "30af+30eb+30bc+30a4+30ed 30af+30ed+30fc+30cd 30b1+30fc+30b9"),
  (0x331d, "30b3+30eb+30ca 30b3+30fc+30dd 30b5+30a4+30af+30eb"),
  (0x3320, "30b5+30f3+30c1+30fc+30e0 30b7+30ea+30f3+30b0 30bb+30f3+30c1"),
  (0x3323, "30bb+30f3+30c8 30c0+30fc+30b9 30c7+30b7 30c9+30eb 30c8+30f3 30ca+30ce"),
  (0x3329, "30ce+30c3+30c8 30cf+30a4+30c4 30d1+30fc+30bb+30f3+30c8 30d1+30fc+30c4"),
  (0x332d, "30d0+30fc+30ec+30eb 30d4+30a2+30b9+30c8+30eb 30d4+30af+30eb 30d4+30b3"),
  (0x3331, "30d3+30eb 30d5+30a1+30e9+30c3+30c9 30d5+30a3+30fc+30c8"),
  (0x3334, "30d6+30c3+30b7+30a7+30eb 30d5+30e9+30f3 30d8+30af+30bf+30fc+30eb"),
  (0x3337, "30da+30bd 30da+30cb+30d2 30d8+30eb+30c4 30da+30f3+30b9 30da+30fc+30b8"),
  (0x333c, "30d9+30fc+30bf 30dd+30a4+30f3+30c8 30dc+30eb+30c8 30db+30f3"),
  (0x3340, "30dd+30f3+30c9 30db+30fc+30eb 30db+30fc+30f3 30de+30a4+30af+30ed"),
  (0x3344, "30de+30a4+30eb 30de+30c3+30cf 30de+30eb+30af 30de+30f3+30b7+30e7+30f3"),
  (0x3348, "30df+30af+30ed+30f3 30df+30ea 30df+30ea+30d0+30fc+30eb 30e1+30ac"),
  (0x334c, "30e1+30ac+30c8+30f3 30e1+30fc+30c8+30eb 30e4+30fc+30c9 30e4+30fc+30eb"),
  (0x3350, "30e6+30a2+30f3 30ea+30c3+30c8+30eb 30ea+30e9 30eb+30d4+30fc"),
  (0x3354, "30eb+30fc+30d6+30eb 30ec+30e0 30ec+30f3+30c8+30b2+30f3 30ef+30c3+30c8"),
  (0x3358, "30+70b9 31+70b9 32+70b9 33+70b9 34+70b9 35+70b9 36+70b9 37+70b9 38+70b9"),
  (0x3361, "39+70b9 31+30+70b9 31+31+70b9 31+32+70b9 31+33+70b9 31+34+70b9"),
  (0x3367, "31+35+70b9 31+36+70b9 31+37+70b9 31+38+70b9 31+39+70b9 32+30+70b9"),
  (0x336d, "32+31+70b9 32+32+70b9 32+33+70b9 32+34+70b9 68+70+61 64+61 61+75"),
  (0x3374, "62+61+72 6f+76 70+63 64+6d 64+6d+32 64+6d+33 69+75 5e73+6210 662d+548c"),
  (0x337d, "5927+6b63 660e+6cbb 682a+5f0f+4f1a+793e 70+61 6e+61 3bc+61 6d+61 6b+61"),
  (0x3385, "6b+62 6d+62 67+62 63+61+6c 6b+63+61+6c 70+66 6e+66 3bc+66 3bc+67 6d+67"),
  (0x338f, "6b+67 68+7a 6b+68+7a 6d+68+7a 67+68+7a 74+68+7a 3bc+6c 6d+6c 64+6c 6b+6c"),
  (0x3399, "66+6d 6e+6d 3bc+6d 6d+6d 63+6d 6b+6d 6d+6d+32 63+6d+32 6d+32 6b+6d+32"),
  (0x33a3, "6d+6d+33 63+6d+33 6d+33 6b+6d+33 6d+2215+73 6d+2215+73+32 70+61 6b+70+61"),
  (0x33ab, "6d+70+61 67+70+61 72+61+64 72+61+64+2215+73 72+61+64+2215+73+32 70+73"),
  (0x33b1, "6e+73 3bc+73 6d+73 70+76 6e+76 3bc+76 6d+76 6b+76 6d+76 70+77 6e+77"),
  (0x33bc, "3bc+77 6d+77 6b+77 6d+77 6b+3c9 6d+3c9"), (0x33c3, "62+71 63+63 63+64 63+2215+6b+67"),
  (0x33c8, "64+62 67+79 68+61 68+70 69+6e 6b+6b 6b+6d 6b+74 6c+6d 6c+6e 6c+6f+67"),
  (0x33d3, "6c+78 6d+62 6d+69+6c 6d+6f+6c 70+68"),
  (0x33d9, "70+70+6d 70+72 73+72 73+76 77+62 76+2215+6d 61+2215+6d 31+65e5 32+65e5"),
  (0x33e2, "33+65e5 34+65e5 35+65e5 36+65e5 37+65e5 38+65e5 39+65e5 31+30+65e5"),
  (0x33ea, "31+31+65e5 31+32+65e5 31+33+65e5 31+34+65e5 31+35+65e5 31+36+65e5"),
  (0x33f0, "31+37+65e5 31+38+65e5 31+39+65e5 32+30+65e5 32+31+65e5 32+32+65e5"),
  (0x33f6, "32+33+65e5 32+34+65e5 32+35+65e5 32+36+65e5 32+37+65e5 32+38+65e5"),
  (0x33fc, "32+39+65e5 33+30+65e5 33+31+65e5 67+61+6c"), (0xa640, "a641"), (0xa642, "a643"),
  (0xa644, "a645"), (0xa646, "a647"), (0xa648, "a649"), (0xa64a, "a64b"), (0xa64c, "a64d"),
  (0xa64e, "a64f"), (0xa650, "a651"), (0xa652, "a653"), (0xa654, "a655"), (0xa656, "a657"),
  (0xa658, "a659"), (0xa65a, "a65b"), (0xa65c, "a65d"), (0xa65e, "a65f"), (0xa660, "a661"),
  (0xa662, "a663"), (0xa664, "a665"), (0xa666, "a667"), (0xa668, "a669"), (0xa66a, "a66b"),
  (0xa66c, "a66d"), (0xa680, "a681"), (0xa682, "a683"), (0xa684, "a685"), (0xa686, "a687"),
  (0xa688, "a689"), (0xa68a, "a68b"), (0xa68c, "a68d"), (0xa68e, "a68f"), (0xa690, "a691"),
  (0xa692, "a693"), (0xa694, "a695"), (0xa696, "a697"), (0xa698, "a699"), (0xa69a, "a69b"),
  (0xa69c, "44a 44c"), (0xa722, "a723"), (0xa724, "a725"), (0xa726, "a727"), (0xa728, "a729"),
  (0xa72a, "a72b"), (0xa72c, "a72d"), (0xa72e, "a72f"), (0xa732, "a733"), (0xa734, "a735"),
  (0xa736, "a737"), (0xa738, "a739"), (0xa73a, "a73b"), (0xa73c, "a73d"), (0xa73e, "a73f"),
  (0xa740, "a741"), (0xa742, "a743"), (0xa744, "a745"), (0xa746, "a747"), (0xa748, "a749"),
  (0xa74a, "a74b"), (0xa74c, "a74d"), (0xa74e, "a74f"), (0xa750, "a751"), (0xa752, "a753"),
  (0xa754, "a755"), (0xa756, "a757"), (0xa758, "a759"), (0xa75a, "a75b"), (0xa75c, "a75d"),
  (0xa75e, "a75f"), (0xa760, "a761"), (0xa762, "a763"), (0xa764, "a765"), (0xa766, "a767"),
  (0xa768, "a769"), (0xa76a, "a76b"), (0xa76c, "a76d"), (0xa76e, "a76f"), (0xa770, "a76f"),
  (0xa779, "a77a"), (0xa77b, "a77c"), (0xa77d, "1d79 a77f"), (0xa780, "a781"), (0xa782, "a783"),
  (0xa784, "a785"), (0xa786, "a787"), (0xa78b, "a78c"), (0xa78d, "265"), (0xa790, "a791"),
  (0xa792, "a793"), (0xa796, "a797"), (0xa798, "a799"), (0xa79a, "a79b"), (0xa79c, "a79d"),
  (0xa79e, "a79f"), (0xa7a0, "a7a1"), (0xa7a2, "a7a3"), (0xa7a4, "a7a5"), (0xa7a6, "a7a7"),
  (0xa7a8, "a7a9"), (0xa7aa, "266 25c 261 26c 26a"), (0xa7b0, "29e 287 29d ab53 a7b5"),
  (0xa7b6, "a7b7"), (0xa7b8, "a7b9"), (0xa7ba, "a7bb"), (0xa7bc, "a7bd"), (0xa7be, "a7bf"),
  (0xa7c0, "a7c1"), (0xa7c2, "a7c3"), (0xa7c4, "a794 282 1d8e a7c8"), (0xa7c9, "a7ca"),
  (0xa7cb, "264 a7cd"), (0xa7ce, "a7cf"), (0xa7d0, "a7d1"), (0xa7d2, "a7d3"), (0xa7d4, "a7d5"),
  (0xa7d6, "a7d7"), (0xa7d8, "a7d9"), (0xa7da, "a7db"), (0xa7dc, "19b"),
  (0xa7f1, "73 63 66 71 a7f6"), (0xa7f8, "127 153"), (0xab5c, "a727 ab37 26b ab52"),
  (0xab69, "28d"),
  (0xab70, "13a0 13a1 13a2 13a3 13a4 13a5 13a6 13a7 13a8 13a9 13aa 13ab 13ac 13ad"),
  (0xab7e, "13ae 13af 13b0 13b1 13b2 13b3 13b4 13b5 13b6 13b7 13b8 13b9 13ba 13bb"),
  (0xab8c, "13bc 13bd 13be 13bf 13c0 13c1 13c2 13c3 13c4 13c5 13c6 13c7 13c8 13c9"),
  (0xab9a, "13ca 13cb 13cc 13cd 13ce 13cf 13d0 13d1 13d2 13d3 13d4 13d5 13d6 13d7"),
  (0xaba8, "13d8 13d9 13da 13db 13dc 13dd 13de 13df 13e0 13e1 13e2 13e3 13e4 13e5"),
  (0xabb6, "13e6 13e7 13e8 13e9 13ea 13eb 13ec 13ed 13ee 13ef"),
  (0xf900, "8c48 66f4 8eca 8cc8 6ed1 4e32 53e5 9f9c 9f9c 5951 91d1 5587 5948 61f6"),
  (0xf90e, "7669 7f85 863f 87ba 88f8 908f 6a02 6d1b 70d9 73de 843d 916a 99f1 4e82"),
  (0xf91c, "5375 6b04 721b 862d 9e1e 5d50 6feb 85cd 8964 62c9 81d8 881f 5eca 6717"),
  (0xf92a, "6d6a 72fc 90ce 4f86 51b7 52de 64c4 6ad3 7210 76e7 8001 8606 865c 8def"),
  (0xf938, "9732 9b6f 9dfa 788c 797f 7da0 83c9 9304 9e7f 8ad6 58df 5f04 7c60 807e"),
  (0xf946, "7262 78ca 8cc2 96f7 58d8 5c62 6a13 6dda 6f0f 7d2f 7e37 964b 52d2 808b"),
  (0xf954, "51dc 51cc 7a1c 7dbe 83f1 9675 8b80 62cf 6a02 8afe 4e39 5be7 6012 7387"),
  (0xf962, "7570 5317 78fb 4fbf 5fa9 4e0d 6ccc 6578 7d22 53c3 585e 7701 8449 8aaa"),
  (0xf970, "6bba 8fb0 6c88 62fe 82e5 63a0 7565 4eae 5169 51c9 6881 7ce7 826f 8ad2"),
  (0xf97e, "91cf 52f5 5442 5973 5eec 65c5 6ffe 792a 95ad 9a6a 9e97 9ece 529b 66c6"),
  (0xf98c, "6b77 8f62 5e74 6190 6200 649a 6f23 7149 7489 79ca 7df4 806f 8f26 84ee"),
  (0xf99a, "9023 934a 5217 52a3 54bd 70c8 88c2 8aaa 5ec9 5ff5 637b 6bae 7c3e 7375"),
  (0xf9a8, "4ee4 56f9 5be7 5dba 601c 73b2 7469 7f9a 8046 9234 96f6 9748 9818 4f8b"),
  (0xf9b6, "79ae 91b4 96b8 60e1 4e86 50da 5bee 5c3f 6599 6a02 71ce 7642 84fc 907c"),
  (0xf9c4, "9f8d 6688 962e 5289 677b 67f3 6d41 6e9c 7409 7559 786b 7d10 985e 516d"),
  (0xf9d2, "622e 9678 502b 5d19 6dea 8f2a 5f8b 6144 6817 7387 9686 5229 540f 5c65"),
  (0xf9e0, "6613 674e 68a8 6ce5 7406 75e2 7f79 88cf 88e1 91cc 96e2 533f 6eba 541d"),
  (0xf9ee, "71d0 7498 85fa 96a3 9c57 9e9f 6797 6dcb 81e8 7acb 7b20 7c92 72c0 7099"),
  (0xf9fc, "8b58 4ec0 8336 523a 5207 5ea6 62d3 7cd6 5b85 6d1e 66b4 8f3b 884c 964d"),
  (0xfa0a, "898b 5ed3 5140 55c0"), (0xfa10, "585a"), (0xfa12, "6674"),
  (0xfa15, "51de 732a 76ca 793c 795e 7965 798f 9756 7cbe 7fbd"), (0xfa20, "8612"), (0xfa22, "8af8"),
  (0xfa25, "9038 90fd"),
  (0xfa2a, "98ef 98fc 9928 9db4 90de 96b7 4fae 50e7 514d 52c9 52e4 5351 559d 5606"),
  (0xfa38, "5668 5840 58a8 5c64 5c6e 6094 6168 618e 61f2 654f 65e2 6691 6885 6d77"),
  (0xfa46, "6e1a 6f22 716e 722b 7422 7891 793e 7949 7948 7950 7956 795d 798d 798e"),
  (0xfa54, "7a40 7a81 7bc0 7df4 7e09 7e41 7f72 8005 81ed 8279 8279 8457 8910 8996"),
  (0xfa62, "8b01 8b39 8cd3 8d08 8fb6 9038 96e3 97ff 983b 6075 242ee 8218"),
  (0xfa70, "4e26 51b5 5168 4f80 5145 5180 52c7 52fa 559d 5555 5599 55e2 585a 58b3"),
  (0xfa7e, "5944 5954 5a62 5b28 5ed2 5ed9 5f69 5fad 60d8 614e 6108 618e 6160 61f2"),
  (0xfa8c, "6234 63c4 641c 6452 6556 6674 6717 671b 6756 6b79 6bba 6d41 6edb 6ecb"),
  (0xfa9a, "6f22 701e 716e 77a7 7235 72af 732a 7471 7506 753b 761d 761f 76ca 76db"),
  (0xfaa8, "76f4 774a 7740 78cc 7ab1 7bc0 7c7b 7d5b 7df4 7f3e 8005 8352 83ef 8779"),
  (0xfab6, "8941 8986 8996 8abf 8af8 8acb 8b01 8afe 8aed 8b39 8b8a 8d08 8f38 9072"),
  (0xfac4, "9199 9276 967c 96e3 9756 97db 97ff 980b 983b 9b12 9f9c 2284a 22844 233d5"),
  (0xfad2, "3b9d 4018 4039 25249 25cd0 27ed3 9f43 9f8e"),
  (0xfb00, "66+66 66+69 66+6c 66+66+69 66+66+6c 73+74 73+74"),
  (0xfb13, "574+576 574+565 574+56b 57e+576 574+56d"), (0xfb1d, "5d9+5b4"),
  (0xfb1f, "5f2+5b7 5e2 5d0 5d3 5d4 5db 5dc 5dd 5e8 5ea 2b 5e9+5c1 5e9+5c2"),
  (0xfb2c, "5e9+5bc+5c1 5e9+5bc+5c2 5d0+5b7 5d0+5b8 5d0+5bc 5d1+5bc 5d2+5bc 5d3+5bc"),
  (0xfb34, "5d4+5bc 5d5+5bc 5d6+5bc"), (0xfb38, "5d8+5bc 5d9+5bc 5da+5bc 5db+5bc 5dc+5bc"),
  (0xfb3e, "5de+5bc"), (0xfb40, "5e0+5bc 5e1+5bc"), (0xfb43, "5e3+5bc 5e4+5bc"),
  (0xfb46, "5e6+5bc 5e7+5bc 5e8+5bc 5e9+5bc 5ea+5bc 5d5+5b9 5d1+5bf 5db+5bf 5e4+5bf"),
  (0xfb4f, "5d0+5dc 671 671 67b 67b 67b 67b 67e 67e 67e 67e 680 680 680 680 67a 67a"),
  (0xfb60, "67a 67a 67f 67f 67f 67f 679 679 679 679 6a4 6a4 6a4 6a4 6a6 6a6 6a6 6a6"),
  (0xfb72, "684 684 684 684 683 683 683 683 686 686 686 686 687 687 687 687 68d 68d"),
  (0xfb84, "68c 68c 68e 68e 688 688 698 698 691 691 6a9 6a9 6a9 6a9 6af 6af 6af 6af"),
  (0xfb96, "6b3 6b3 6b3 6b3 6b1 6b1 6b1 6b1 6ba 6ba 6bb 6bb 6bb 6bb 6c0 6c0 6c1 6c1"),
  (0xfba8, "6c1 6c1 6be 6be 6be 6be 6d2 6d2 6d3 6d3"),
  (0xfbd3, "6ad 6ad 6ad 6ad 6c7 6c7 6c6 6c6 6c8 6c8 6c7+674 6cb 6cb 6c5 6c5 6c9 6c9"),
  (0xfbe4, "6d0 6d0 6d0 6d0 649 649 626+627 626+627 626+6d5 626+6d5 626+648 626+648"),
  (0xfbf0, "626+6c7 626+6c7 626+6c6 626+6c6 626+6c8 626+6c8 626+6d0 626+6d0 626+6d0"),
  (0xfbf9, "626+649 626+649 626+649 6cc 6cc 6cc 6cc 626+62c 626+62d 626+645 626+649"),
  (0xfc04, "626+64a 628+62c 628+62d 628+62e 628+645 628+649 628+64a 62a+62c 62a+62d"),
  (0xfc0d, "62a+62e 62a+645 62a+649 62a+64a 62b+62c 62b+645 62b+649 62b+64a 62c+62d"),
  (0xfc16, "62c+645 62d+62c 62d+645 62e+62c 62e+62d 62e+645 633+62c 633+62d 633+62e"),
  (0xfc1f, "633+645 635+62d 635+645 636+62c 636+62d 636+62e 636+645 637+62d 637+645"),
  (0xfc28, "638+645 639+62c 639+645 63a+62c 63a+645 641+62c 641+62d 641+62e 641+645"),
  (0xfc31, "641+649 641+64a 642+62d 642+645 642+649 642+64a 643+627 643+62c 643+62d"),
  (0xfc3a, "643+62e 643+644 643+645 643+649 643+64a 644+62c 644+62d 644+62e 644+645"),
  (0xfc43, "644+649 644+64a 645+62c 645+62d 645+62e 645+645 645+649 645+64a 646+62c"),
  (0xfc4c, "646+62d 646+62e 646+645 646+649 646+64a 647+62c 647+645 647+649 647+64a"),
  (0xfc55, "64a+62c 64a+62d 64a+62e 64a+645 64a+649 64a+64a 630+670 631+670 649+670"),
  (0xfc5e, "20+64c+651 20+64d+651 20+64e+651 20+64f+651 20+650+651 20+651+670"),
  (0xfc64, "626+631 626+632 626+645 626+646 626+649 626+64a 628+631 628+632 628+645"),
  (0xfc6d, "628+646 628+649 628+64a 62a+631 62a+632 62a+645 62a+646 62a+649 62a+64a"),
  (0xfc76, "62b+631 62b+632 62b+645 62b+646 62b+649 62b+64a 641+649 641+64a 642+649"),
  (0xfc7f, "642+64a 643+627 643+644 643+645 643+649 643+64a 644+645 644+649 644+64a"),
  (0xfc88, "645+627 645+645 646+631 646+632 646+645 646+646 646+649 646+64a 649+670"),
  (0xfc91, "64a+631 64a+632 64a+645 64a+646 64a+649 64a+64a 626+62c 626+62d 626+62e"),
  (0xfc9a, "626+645 626+647 628+62c 628+62d 628+62e 628+645 628+647 62a+62c 62a+62d"),
  (0xfca3, "62a+62e 62a+645 62a+647 62b+645 62c+62d 62c+645 62d+62c 62d+645 62e+62c"),
  (0xfcac, "62e+645 633+62c 633+62d 633+62e 633+645 635+62d 635+62e 635+645 636+62c"),
  (0xfcb5, "636+62d 636+62e 636+645 637+62d 638+645 639+62c 639+645 63a+62c 63a+645"),
  (0xfcbe, "641+62c 641+62d 641+62e 641+645 642+62d 642+645 643+62c 643+62d 643+62e"),
  (0xfcc7, "643+644 643+645 644+62c 644+62d 644+62e 644+645 644+647 645+62c 645+62d"),
  (0xfcd0, "645+62e 645+645 646+62c 646+62d 646+62e 646+645 646+647 647+62c 647+645"),
  (0xfcd9, "647+670 64a+62c 64a+62d 64a+62e 64a+645 64a+647 626+645 626+647 628+645"),
  (0xfce2, "628+647 62a+645 62a+647 62b+645 62b+647 633+645 633+647 634+645 634+647"),
  (0xfceb, "643+644 643+645 644+645 646+645 646+647 64a+645 64a+647 640+64e+651"),
  (0xfcf3, "640+64f+651 640+650+651 637+649 637+64a 639+649 639+64a 63a+649 63a+64a"),
  (0xfcfb, "633+649 633+64a 634+649 634+64a 62d+649 62d+64a 62c+649 62c+64a 62e+649"),
  (0xfd04, "62e+64a 635+649 635+64a 636+649 636+64a 634+62c 634+62d 634+62e 634+645"),
  (0xfd0d, "634+631 633+631 635+631 636+631 637+649 637+64a 639+649 639+64a 63a+649"),
  (0xfd16, "63a+64a 633+649 633+64a 634+649 634+64a 62d+649 62d+64a 62c+649 62c+64a"),
  (0xfd1f, "62e+649 62e+64a 635+649 635+64a 636+649 636+64a 634+62c 634+62d 634+62e"),
  (0xfd28, "634+645 634+631 633+631 635+631 636+631 634+62c 634+62d 634+62e 634+645"),
  (0xfd31, "633+647 634+647 637+645 633+62c 633+62d 633+62e 634+62c 634+62d 634+62e"),
  (0xfd3a, "637+645 638+645 627+64b 627+64b"),
  (0xfd50, "62a+62c+645 62a+62d+62c 62a+62d+62c 62a+62d+645 62a+62e+645 62a+645+62c"),
  (0xfd56, "62a+645+62d 62a+645+62e 62c+645+62d 62c+645+62d 62d+645+64a 62d+645+649"),
  (0xfd5c, "633+62d+62c 633+62c+62d 633+62c+649 633+645+62d 633+645+62d 633+645+62c"),
  (0xfd62, "633+645+645 633+645+645 635+62d+62d 635+62d+62d 635+645+645 634+62d+645"),
  (0xfd68, "634+62d+645 634+62c+64a 634+645+62e 634+645+62e 634+645+645 634+645+645"),
  (0xfd6e, "636+62d+649 636+62e+645 636+62e+645 637+645+62d 637+645+62d 637+645+645"),
  (0xfd74, "637+645+64a 639+62c+645 639+645+645 639+645+645 639+645+649 63a+645+645"),
  (0xfd7a, "63a+645+64a 63a+645+649 641+62e+645 641+62e+645 642+645+62d 642+645+645"),
  (0xfd80, "644+62d+645 644+62d+64a 644+62d+649 644+62c+62c 644+62c+62c 644+62e+645"),
  (0xfd86, "644+62e+645 644+645+62d 644+645+62d 645+62d+62c 645+62d+645 645+62d+64a"),
  (0xfd8c, "645+62c+62d 645+62c+645 645+62e+62c 645+62e+645"),
  (0xfd92, "645+62c+62e 647+645+62c 647+645+645 646+62d+645 646+62d+649 646+62c+645"),
  (0xfd98, "646+62c+645 646+62c+649 646+645+64a 646+645+649 64a+645+645 64a+645+645"),
  (0xfd9e, "628+62e+64a 62a+62c+64a 62a+62c+649 62a+62e+64a 62a+62e+649 62a+645+64a"),
  (0xfda4, "62a+645+649 62c+645+64a 62c+62d+649 62c+645+649 633+62e+649 635+62d+64a"),
  (0xfdaa, "634+62d+64a 636+62d+64a 644+62c+64a 644+645+64a 64a+62d+64a 64a+62c+64a"),
  (0xfdb0, "64a+645+64a 645+645+64a 642+645+64a 646+62d+64a 642+645+62d 644+62d+645"),
  (0xfdb6, "639+645+64a 643+645+64a 646+62c+62d 645+62e+64a 644+62c+645 643+645+645"),
  (0xfdbc, "644+62c+645 646+62c+62d 62c+62d+64a 62d+62c+64a 645+62c+64a 641+645+64a"),
  (0xfdc2, "628+62d+64a 643+645+645 639+62c+645 635+645+645 633+62e+64a 646+62c+64a"),
  (0xfdf0, "635+644+6d2 642+644+6d2 627+644+644+647 627+643+628+631 645+62d+645+62f"),
  (0xfdf5, "635+644+639+645 631+633+648+644 639+644+64a+647 648+633+644+645"),
  (0xfdf9, "635+644+649"),
  (0xfdfa, "635+644+649+20+627+644+644+647+20+639+644+64a+647+20+648+633+644+645"),
  (0xfdfb, "62c+644+20+62c+644+627+644+647 631+6cc+627+644"),
  (0xfe00, "- - - - - - - - - - - - - - - - 2c 3001"), (0xfe13, "3a 3b 21 3f 3016 3017"),
  (0xfe31, "2014 2013 5f 5f 28 29 7b 7d 3014 3015 3010 3011 300a 300b 3008 3009 300c"),
  (0xfe42, "300d 300e 300f"), (0xfe47, "5b 5d 20+305 20+305 20+305 20+305 5f 5f 5f 2c 3001"),
  (0xfe54, "3b 3a 3f 21 2014 28 29 7b 7d 3014 3015 23 26 2a 2b 2d 3c 3e 3d"),
  (0xfe68, "5c 24 25 40"), (0xfe70, "20+64b 640+64b 20+64c"), (0xfe74, "20+64d"),
  (0xfe76, "20+64e 640+64e 20+64f 640+64f 20+650 640+650 20+651 640+651 20+652"),
  (0xfe7f, "640+652 621 622 622 623 623 624 624 625 625 626 626 626 626 627 627 628"),
  (0xfe90, "628 628 628 629 629 62a 62a 62a 62a 62b 62b 62b 62b 62c 62c 62c 62c 62d"),
  (0xfea2, "62d 62d 62d 62e 62e 62e 62e 62f 62f 630 630 631 631 632 632 633 633 633"),
  (0xfeb4, "633 634 634 634 634 635 635 635 635 636 636 636 636 637 637 637 637 638"),
  (0xfec6, "638 638 638 639 639 639 639 63a 63a 63a 63a 641 641 641 641 642 642 642"),
  (0xfed8, "642 643 643 643 643 644 644 644 644 645 645 645 645 646 646 646 646 647"),
  (0xfeea, "647 647 647 648 648 649 649 64a 64a 64a 64a 644+622 644+622 644+623"),
  (0xfef8, "644+623 644+625 644+625 644+627 644+627"), (0xfeff, "-"),
  (0xff01, "21 22 23 24 25 26 27 28 29 2a 2b 2c 2d 2e 2f 30 31 32 33 34 35 36 37 38"),
  (0xff19, "39 3a 3b 3c 3d 3e 3f 40 61 62 63 64 65 66 67 68 69 6a 6b 6c 6d 6e 6f 70"),
  (0xff31, "71 72 73 74 75 76 77 78 79 7a 5b 5c 5d 5e 5f 60 61 62 63 64 65 66 67 68"),
  (0xff49, "69 6a 6b 6c 6d 6e 6f 70 71 72 73 74 75 76 77 78 79 7a 7b 7c 7d 7e 2985"),
  (0xff60, "2986 2e 300c 300d 3001 30fb 30f2 30a1 30a3 30a5 30a7 30a9 30e3 30e5 30e7"),
  (0xff6f, "30c3 30fc 30a2 30a4 30a6 30a8 30aa 30ab 30ad 30af 30b1 30b3 30b5 30b7"),
  (0xff7d, "30b9 30bb 30bd 30bf 30c1 30c4 30c6 30c8 30ca 30cb 30cc 30cd 30ce 30cf"),
  (0xff8b, "30d2 30d5 30d8 30db 30de 30df 30e0 30e1 30e2 30e4 30e6 30e8 30e9 30ea"),
  (0xff99, "30eb 30ec 30ed 30ef 30f3 3099 309a - 1100 1101 11aa 1102 11ac 11ad 1103"),
  (0xffa8, "1104 1105 11b0 11b1 11b2 11b3 11b4 11b5 111a 1106 1107 1108 1121 1109"),
  (0xffb6, "110a 110b 110c 110d 110e 110f 1110 1111 1112"),
  (0xffc2, "1161 1162 1163 1164 1165 1166"), (0xffca, "1167 1168 1169 116a 116b 116c"),
  (0xffd2, "116d 116e 116f 1170 1171 1172"), (0xffda, "1173 1174 1175"),
  (0xffe0, "a2 a3 ac 20+304 a6 a5 20a9"), (0xffe8, "2502 2190 2191 2192 2193 25a0 25cb"),
  (0x10400, "10428 10429 1042a 1042b 1042c 1042d 1042e 1042f 10430 10431 10432 10433"),
  (0x1040c, "10434 10435 10436 10437 10438 10439 1043a 1043b 1043c 1043d 1043e 1043f"),
  (0x10418, "10440 10441 10442 10443 10444 10445 10446 10447 10448 10449 1044a 1044b"),
  (0x10424, "1044c 1044d 1044e 1044f"),
  (0x104b0, "104d8 104d9 104da 104db 104dc 104dd 104de 104df 104e0 104e1 104e2 104e3"),
  (0x104bc, "104e4 104e5 104e6 104e7 104e8 104e9 104ea 104eb 104ec 104ed 104ee 104ef"),
  (0x104c8, "104f0 104f1 104f2 104f3 104f4 104f5 104f6 104f7 104f8 104f9 104fa 104fb"),
  (0x10570, "10597 10598 10599 1059a 1059b 1059c 1059d 1059e 1059f 105a0 105a1"),
  (0x1057c, "105a3 105a4 105a5 105a6 105a7 105a8 105a9 105aa 105ab 105ac 105ad 105ae"),
  (0x10588, "105af 105b0 105b1"), (0x1058c, "105b3 105b4 105b5 105b6 105b7 105b8 105b9"),
  (0x10594, "105bb 105bc"), (0x10781, "2d0 2d1 e6 299 253"),
  (0x10787, "2a3 ab66 2a5 2a4 256 257 1d91 258 25e 2a9 264 262 260 29b 127 29c 267"),
  (0x10798, "284 2aa 2ab 26c 1df04 a78e 26e 1df05 28e 1df06 f8 276 277 71 27a 1df08"),
  (0x107a8, "27d 27e 280 2a8 2a6 ab67 2a7 288 2c71"),
  (0x107b2, "28f 2a1 2a2 298 1c0 1c1 1c2 1df0a 1df1e"),
  (0x10c80, "10cc0 10cc1 10cc2 10cc3 10cc4 10cc5 10cc6 10cc7 10cc8 10cc9 10cca 10ccb"),
  (0x10c8c, "10ccc 10ccd 10cce 10ccf 10cd0 10cd1 10cd2 10cd3 10cd4 10cd5 10cd6 10cd7"),
  (0x10c98, "10cd8 10cd9 10cda 10cdb 10cdc 10cdd 10cde 10cdf 10ce0 10ce1 10ce2 10ce3"),
  (0x10ca4, "10ce4 10ce5 10ce6 10ce7 10ce8 10ce9 10cea 10ceb 10cec 10ced 10cee 10cef"),
  (0x10cb0, "10cf0 10cf1 10cf2"),
  (0x10d50, "10d70 10d71 10d72 10d73 10d74 10d75 10d76 10d77 10d78 10d79 10d7a 10d7b"),
  (0x10d5c, "10d7c 10d7d 10d7e 10d7f 10d80 10d81 10d82 10d83 10d84 10d85"),
  (0x118a0, "118c0 118c1 118c2 118c3 118c4 118c5 118c6 118c7 118c8 118c9 118ca 118cb"),
  (0x118ac, "118cc 118cd 118ce 118cf 118d0 118d1 118d2 118d3 118d4 118d5 118d6 118d7"),
  (0x118b8, "118d8 118d9 118da 118db 118dc 118dd 118de 118df"),
  (0x16e40, "16e60 16e61 16e62 16e63 16e64 16e65 16e66 16e67 16e68 16e69 16e6a 16e6b"),
  (0x16e4c, "16e6c 16e6d 16e6e 16e6f 16e70 16e71 16e72 16e73 16e74 16e75 16e76 16e77"),
  (0x16e58, "16e78 16e79 16e7a 16e7b 16e7c 16e7d 16e7e 16e7f"),
  (0x16ea0, "16ebb 16ebc 16ebd 16ebe 16ebf 16ec0 16ec1 16ec2 16ec3 16ec4 16ec5 16ec6"),
  (0x16eac, "16ec7 16ec8 16ec9 16eca 16ecb 16ecc 16ecd 16ece 16ecf 16ed0 16ed1 16ed2"),
  (0x16eb8, "16ed3"), (0x1bca0, "- - - -"),
  (0x1ccd6, "61 62 63 64 65 66 67 68 69 6a 6b 6c 6d 6e 6f 70 71 72 73 74 75 76 77 78"),
  (0x1ccee, "79 7a 30 31 32 33 34 35 36 37 38 39"),
  (0x1d15e, "1d157+1d165 1d158+1d165 1d158+1d165+1d16e 1d158+1d165+1d16f"),
  (0x1d162, "1d158+1d165+1d170 1d158+1d165+1d171 1d158+1d165+1d172"), (0x1d173, "- - - - - - - -"),
  (0x1d1bb, "1d1b9+1d165 1d1ba+1d165 1d1b9+1d165+1d16e 1d1ba+1d165+1d16e"),
  (0x1d1bf, "1d1b9+1d165+1d16f 1d1ba+1d165+1d16f"),
  (0x1d400, "61 62 63 64 65 66 67 68 69 6a 6b 6c 6d 6e 6f 70 71 72 73 74 75 76 77 78"),
  (0x1d418, "79 7a 61 62 63 64 65 66 67 68 69 6a 6b 6c 6d 6e 6f 70 71 72 73 74 75 76"),
  (0x1d430, "77 78 79 7a 61 62 63 64 65 66 67 68 69 6a 6b 6c 6d 6e 6f 70 71 72 73 74"),
  (0x1d448, "75 76 77 78 79 7a 61 62 63 64 65 66 67"),
  (0x1d456, "69 6a 6b 6c 6d 6e 6f 70 71 72 73 74 75 76 77 78 79 7a 61 62 63 64 65 66"),
  (0x1d46e, "67 68 69 6a 6b 6c 6d 6e 6f 70 71 72 73 74 75 76 77 78 79 7a 61 62 63 64"),
  (0x1d486, "65 66 67 68 69 6a 6b 6c 6d 6e 6f 70 71 72 73 74 75 76 77 78 79 7a 61"),
  (0x1d49e, "63 64"), (0x1d4a2, "67"), (0x1d4a5, "6a 6b"), (0x1d4a9, "6e 6f 70 71"),
  (0x1d4ae, "73 74 75 76 77 78 79 7a 61 62 63 64"), (0x1d4bb, "66"),
  (0x1d4bd, "68 69 6a 6b 6c 6d 6e"),
  (0x1d4c5, "70 71 72 73 74 75 76 77 78 79 7a 61 62 63 64 65 66 67 68 69 6a 6b 6c 6d"),
  (0x1d4dd, "6e 6f 70 71 72 73 74 75 76 77 78 79 7a 61 62 63 64 65 66 67 68 69 6a 6b"),
  (0x1d4f5, "6c 6d 6e 6f 70 71 72 73 74 75 76 77 78 79 7a 61 62"), (0x1d507, "64 65 66 67"),
  (0x1d50d, "6a 6b 6c 6d 6e 6f 70 71"), (0x1d516, "73 74 75 76 77 78 79"),
  (0x1d51e, "61 62 63 64 65 66 67 68 69 6a 6b 6c 6d 6e 6f 70 71 72 73 74 75 76 77 78"),
  (0x1d536, "79 7a 61 62"), (0x1d53b, "64 65 66 67"), (0x1d540, "69 6a 6b 6c 6d"), (0x1d546, "6f"),
  (0x1d54a, "73 74 75 76 77 78 79"),
  (0x1d552, "61 62 63 64 65 66 67 68 69 6a 6b 6c 6d 6e 6f 70 71 72 73 74 75 76 77 78"),
  (0x1d56a, "79 7a 61 62 63 64 65 66 67 68 69 6a 6b 6c 6d 6e 6f 70 71 72 73 74 75 76"),
  (0x1d582, "77 78 79 7a 61 62 63 64 65 66 67 68 69 6a 6b 6c 6d 6e 6f 70 71 72 73 74"),
  (0x1d59a, "75 76 77 78 79 7a 61 62 63 64 65 66 67 68 69 6a 6b 6c 6d 6e 6f 70 71 72"),
  (0x1d5b2, "73 74 75 76 77 78 79 7a 61 62 63 64 65 66 67 68 69 6a 6b 6c 6d 6e 6f 70"),
  (0x1d5ca, "71 72 73 74 75 76 77 78 79 7a 61 62 63 64 65 66 67 68 69 6a 6b 6c 6d 6e"),
  (0x1d5e2, "6f 70 71 72 73 74 75 76 77 78 79 7a 61 62 63 64 65 66 67 68 69 6a 6b 6c"),
  (0x1d5fa, "6d 6e 6f 70 71 72 73 74 75 76 77 78 79 7a 61 62 63 64 65 66 67 68 69 6a"),
  (0x1d612, "6b 6c 6d 6e 6f 70 71 72 73 74 75 76 77 78 79 7a 61 62 63 64 65 66 67 68"),
  (0x1d62a, "69 6a 6b 6c 6d 6e 6f 70 71 72 73 74 75 76 77 78 79 7a 61 62 63 64 65 66"),
  (0x1d642, "67 68 69 6a 6b 6c 6d 6e 6f 70 71 72 73 74 75 76 77 78 79 7a 61 62 63 64"),
  (0x1d65a, "65 66 67 68 69 6a 6b 6c 6d 6e 6f 70 71 72 73 74 75 76 77 78 79 7a 61 62"),
  (0x1d672, "63 64 65 66 67 68 69 6a 6b 6c 6d 6e 6f 70 71 72 73 74 75 76 77 78 79 7a"),
  (0x1d68a, "61 62 63 64 65 66 67 68 69 6a 6b 6c 6d 6e 6f 70 71 72 73 74 75 76 77 78"),
  (0x1d6a2, "79 7a 131 237"),
  (0x1d6a8, "3b1 3b2 3b3 3b4 3b5 3b6 3b7 3b8 3b9 3ba 3bb 3bc 3bd 3be 3bf 3c0 3c1 3b8"),
  (0x1d6ba, "3c3 3c4 3c5 3c6 3c7 3c8 3c9 2207 3b1 3b2 3b3 3b4 3b5 3b6 3b7 3b8 3b9 3ba"),
  (0x1d6cc, "3bb 3bc 3bd 3be 3bf 3c0 3c1 3c3 3c3 3c4 3c5 3c6 3c7 3c8 3c9 2202 3b5 3b8"),
  (0x1d6de, "3ba 3c6 3c1 3c0 3b1 3b2 3b3 3b4 3b5 3b6 3b7 3b8 3b9 3ba 3bb 3bc 3bd 3be"),
  (0x1d6f0, "3bf 3c0 3c1 3b8 3c3 3c4 3c5 3c6 3c7 3c8 3c9 2207 3b1 3b2 3b3 3b4 3b5 3b6"),
  (0x1d702, "3b7 3b8 3b9 3ba 3bb 3bc 3bd 3be 3bf 3c0 3c1 3c3 3c3 3c4 3c5 3c6 3c7 3c8"),
  (0x1d714, "3c9 2202 3b5 3b8 3ba 3c6 3c1 3c0 3b1 3b2 3b3 3b4 3b5 3b6 3b7 3b8 3b9 3ba"),
  (0x1d726, "3bb 3bc 3bd 3be 3bf 3c0 3c1 3b8 3c3 3c4 3c5 3c6 3c7 3c8 3c9 2207 3b1 3b2"),
  (0x1d738, "3b3 3b4 3b5 3b6 3b7 3b8 3b9 3ba 3bb 3bc 3bd 3be 3bf 3c0 3c1 3c3 3c3 3c4"),
  (0x1d74a, "3c5 3c6 3c7 3c8 3c9 2202 3b5 3b8 3ba 3c6 3c1 3c0 3b1 3b2 3b3 3b4 3b5 3b6"),
  (0x1d75c, "3b7 3b8 3b9 3ba 3bb 3bc 3bd 3be 3bf 3c0 3c1 3b8 3c3 3c4 3c5 3c6 3c7 3c8"),
  (0x1d76e, "3c9 2207 3b1 3b2 3b3 3b4 3b5 3b6 3b7 3b8 3b9 3ba 3bb 3bc 3bd 3be 3bf 3c0"),
  (0x1d780, "3c1 3c3 3c3 3c4 3c5 3c6 3c7 3c8 3c9 2202 3b5 3b8 3ba 3c6 3c1 3c0 3b1 3b2"),
  (0x1d792, "3b3 3b4 3b5 3b6 3b7 3b8 3b9 3ba 3bb 3bc 3bd 3be 3bf 3c0 3c1 3b8 3c3 3c4"),
  (0x1d7a4, "3c5 3c6 3c7 3c8 3c9 2207 3b1 3b2 3b3 3b4 3b5 3b6 3b7 3b8 3b9 3ba 3bb 3bc"),
  (0x1d7b6, "3bd 3be 3bf 3c0 3c1 3c3 3c3 3c4 3c5 3c6 3c7 3c8 3c9 2202 3b5 3b8 3ba 3c6"),
  (0x1d7c8, "3c1 3c0 3dd 3dd"),
  (0x1d7ce, "30 31 32 33 34 35 36 37 38 39 30 31 32 33 34 35 36 37 38 39 30 31 32 33"),
  (0x1d7e6, "34 35 36 37 38 39 30 31 32 33 34 35 36 37 38 39 30 31 32 33 34 35 36 37"),
  (0x1d7fe, "38 39"),
  (0x1e030, "430 431 432 433 434 435 436 437 438 43a 43b 43c 43e 43f 440 441 442 443"),
  (0x1e042, "444 445 446 447 448 44b 44d 44e a689 4d9 456 458 4e9 4af 4cf 430 431 432"),
  (0x1e054, "433 434 435 436 437 438 43a 43b 43e 43f 441 443 444 445 446 447 448 44a"),
  (0x1e066, "44b 491 456 455 45f 4ab a651 4b1"),
  (0x1e900, "1e922 1e923 1e924 1e925 1e926 1e927 1e928 1e929 1e92a 1e92b 1e92c 1e92d"),
  (0x1e90c, "1e92e 1e92f 1e930 1e931 1e932 1e933 1e934 1e935 1e936 1e937 1e938 1e939"),
  (0x1e918, "1e93a 1e93b 1e93c 1e93d 1e93e 1e93f 1e940 1e941 1e942 1e943"),
  (0x1ee00, "627 628 62c 62f"),
  (0x1ee05, "648 632 62d 637 64a 643 644 645 646 633 639 641 635 642 631 634 62a 62b"),
  (0x1ee17, "62e 630 636 638 63a 66e 6ba 6a1 66f"), (0x1ee21, "628 62c"), (0x1ee24, "647"),
  (0x1ee27, "62d"), (0x1ee29, "64a 643 644 645 646 633 639 641 635 642"),
  (0x1ee34, "634 62a 62b 62e"), (0x1ee39, "636"), (0x1ee3b, "63a"), (0x1ee42, "62c"),
  (0x1ee47, "62d"), (0x1ee49, "64a"), (0x1ee4b, "644"), (0x1ee4d, "646 633 639"),
  (0x1ee51, "635 642"), (0x1ee54, "634"), (0x1ee57, "62e"), (0x1ee59, "636"), (0x1ee5b, "63a"),
  (0x1ee5d, "6ba"), (0x1ee5f, "66f"), (0x1ee61, "628 62c"), (0x1ee64, "647"),
  (0x1ee67, "62d 637 64a 643"), (0x1ee6c, "645 646 633 639 641 635 642"),
  (0x1ee74, "634 62a 62b 62e"), (0x1ee79, "636 638 63a 66e"), (0x1ee7e, "6a1"),
  (0x1ee80, "627 628 62c 62f 647 648 632 62d 637 64a"),
  (0x1ee8b, "644 645 646 633 639 641 635 642 631 634 62a 62b 62e 630 636 638 63a"),
  (0x1eea1, "628 62c 62f"), (0x1eea5, "648 632 62d 637 64a"),
  (0x1eeab, "644 645 646 633 639 641 635 642 631 634 62a 62b 62e 630 636 638 63a"),
  (0x1f101, "30+2c 31+2c 32+2c 33+2c 34+2c 35+2c 36+2c 37+2c 38+2c 39+2c"),
  (0x1f110, "28+61+29 28+62+29 28+63+29 28+64+29 28+65+29 28+66+29 28+67+29 28+68+29"),
  (0x1f118, "28+69+29 28+6a+29 28+6b+29 28+6c+29 28+6d+29 28+6e+29 28+6f+29 28+70+29"),
  (0x1f120, "28+71+29 28+72+29 28+73+29 28+74+29 28+75+29 28+76+29 28+77+29 28+78+29"),
  (0x1f128, "28+79+29 28+7a+29 3014+73+3015 63 72 63+64 77+7a"),
  (0x1f130, "61 62 63 64 65 66 67 68 69 6a 6b 6c 6d 6e 6f 70 71 72 73 74 75 76 77 78"),
  (0x1f148, "79 7a 68+76 6d+76 73+64 73+73 70+70+76 77+63"), (0x1f16a, "6d+63 6d+64 6d+72"),
  (0x1f190, "64+6a"), (0x1f200, "307b+304b 30b3+30b3 30b5"),
  (0x1f210, "624b 5b57 53cc 30c7 4e8c 591a 89e3 5929 4ea4 6620 7121 6599 524d 5f8c"),
  (0x1f21e, "518d 65b0 521d 7d42 751f 8ca9 58f0 5439 6f14 6295 6355 4e00 4e09 904a"),
  (0x1f22c, "5de6 4e2d 53f3 6307 8d70 6253 7981 7a7a 5408 6e80 6709 6708 7533 5272"),
  (0x1f23a, "55b6 914d"), (0x1f240, "3014+672c+3015 3014+4e09+3015 3014+4e8c+3015 3014+5b89+3015"),
  (0x1f244, "3014+70b9+3015 3014+6253+3015 3014+76d7+3015 3014+52dd+3015"),
  (0x1f248, "3014+6557+3015"), (0x1f250, "5f97 53ef"), (0x1fbf0, "30 31 32 33 34 35 36 37 38 39"),
  (0x2f800, "4e3d 4e38 4e41 20122 4f60 4fae 4fbb 5002 507a 5099 50e7 50cf 349e 2063a"),
  (0x2f80e, "514d 5154 5164 5177 2051c 34b9 5167 518d 2054b 5197 51a4 4ecc 51ac 51b5"),
  (0x2f81c, "291df 51f5 5203 34df 523b 5246 5272 5277 3515 52c7 52c9 52e4 52fa 5305"),
  (0x2f82a, "5306 5317 5349 5351 535a 5373 537d 537f 537f 537f 20a2c 7070 53ca 53df"),
  (0x2f838, "20b63 53eb 53f1 5406 549e 5438 5448 5468 54a2 54f6 5510 5553 5563 5584"),
  (0x2f846, "5584 5599 55ab 55b3 55c2 5716 5606 5717 5651 5674 5207 58ee 57ce 57f4"),
  (0x2f854, "580d 578b 5832 5831 58ac 214e4 58f2 58f7 5906 591a 5922 5962 216a8 216ea"),
  (0x2f862, "59ec 5a1b 5a27 59d8 5a66 36ee 36fc 5b08 5b3e 5b3e 219c8 5bc3 5bd8 5be7"),
  (0x2f870, "5bf3 21b18 5bff 5c06 5f53 5c22 3781 5c60 5c6e 5cc0 5c8d 21de4 5d43 21de6"),
  (0x2f87e, "5d6e 5d6b 5d7c 5de1 5de2 382f 5dfd 5e28 5e3d 5e69 3862 22183 387c 5eb0"),
  (0x2f88c, "5eb3 5eb6 5eca 2a392 5efe 22331 22331 8201 5f22 5f22 38c7 232b8 261da"),
  (0x2f899, "5f62 5f6b 38e3 5f9a 5fcd 5fd7 5ff9 6081 393a 391c 6094 226d4 60c7 6148"),
  (0x2f8a7, "614c 614e 614c 617a 618e 61b2 61a4 61af 61de 61f2 61f6 6210 621b 625d"),
  (0x2f8b5, "62b1 62d4 6350 22b0c 633d 62fc 6368 6383 63e4 22bf1 6422 63c5 63a9 3a2e"),
  (0x2f8c3, "6469 647e 649d 6477 3a6c 654f 656c 2300a 65e3 66f8 6649 3b19 6691 3b08"),
  (0x2f8d1, "3ae4 5192 5195 6700 669c 80ad 43d9 6717 671b 6721 675e 6753 233c3 3b49"),
  (0x2f8df, "67fa 6785 6852 6885 2346d 688e 681f 6914 3b9d 6942 69a3 69ea 6aa8 236a3"),
  (0x2f8ed, "6adb 3c18 6b21 238a7 6b54 3c4e 6b72 6b9f 6bba 6bbb 23a8d 21d0b 23afa"),
  (0x2f8fa, "6c4e 23cbc 6cbf 6ccd 6c67 6d16 6d3e 6d77 6d41 6d69 6d78 6d85 23d1e 6d34"),
  (0x2f908, "6e2f 6e6e 3d33 6ecb 6ec7 23ed1 6df9 6f6e 23f5e 23f8e 6fc6 7039 701e 701b"),
  (0x2f916, "3d96 704a 707d 7077 70ad 20525 7145 24263 719c 243ab 7228 7235 7250"),
  (0x2f923, "24608 7280 7295 24735 24814 737a 738b 3eac 73a5 3eb8 3eb8 7447 745c 7471"),
  (0x2f931, "7485 74ca 3f1b 7524 24c36 753e 24c92 7570 2219f 7610 24fa1 24fb8 25044"),
  (0x2f93e, "3ffc 4008 76f4 250f3 250f2 25119 25133 771e 771f 771f 774a 4039 778b"),
  (0x2f94b, "4046 4096 2541d 784e 788c 78cc 40e3 25626 7956 2569a 256c5 798f 79eb"),
  (0x2f958, "412f 7a40 7a4a 7a4f 2597c 25aa7 25aa7 7aee 4202 25bab 7bc6 7bc9 4227"),
  (0x2f965, "25c80 7cd2 42a0 7ce8 7ce3 7d00 25f86 7d63 4301 7dc7 7e02 7e45 4334 26228"),
  (0x2f973, "26247 4359 262d9 7f7a 2633e 7f95 7ffa 8005 264da 26523 8060 265a8 8070"),
  (0x2f980, "2335f 43d5 80b2 8103 440b 813e 5ab5 267a7 267b5 23393 2339c 8201 8204"),
  (0x2f98d, "8f9e 446b 8291 828b 829d 52b3 82b1 82b3 82bd 82e6 26b3c 82e5 831d 8363"),
  (0x2f99b, "83ad 8323 83bd 83e7 8457 8353 83ca 83cc 83dc 26c36 26d6b 26cd5 452b 84f1"),
  (0x2f9a9, "84f3 8516 273ca 8564 26f2c 455d 4561 26fb1 270d2 456b 8650 865c 8667"),
  (0x2f9b6, "8669 86a9 8688 870e 86e2 8779 8728 876b 8786 45d7 87e1 8801 45f9 8860"),
  (0x2f9c4, "8863 27667 88d7 88de 4635 88fa 34bb 278ae 27966 46be 46c7 8aa0 8aed 8b8a"),
  (0x2f9d2, "8c55 27ca8 8cab 8cc1 8d1b 8d77 27f2f 20804 8dcb 8dbc 8df0 208de 8ed4"),
  (0x2f9df, "8f38 285d2 285ed 9094 90f1 9111 2872e 911b 9238 92d7 92d8 927c 93f9 9415"),
  (0x2f9ed, "28bfa 958b 4995 95b7 28d77 49e6 96c3 5db2 9723 29145 2921a 4a6e 4a76"),
  (0x2f9fa, "97e0 2940a 4ab2 29496 980b 980b 9829 295b6 98e2 4b33 9929 99a7 99c2 99fe"),
  (0x2fa08, "4bce 29b30 9b12 9c40 9cfd 4cce 4ced 9d67 2a0ce 4cf8 2a105 2a20e 2a291"),
  (0x2fa15, "9ebb 4d56 9ef9 9efe 9f05 9f0f 9f16 9f3b 2a600"),
  (0xe0100, "- - - - - - - - - - - - - - - - - - - - - - - - - - - - - - - - - - - -"),
  (0xe0124, "- - - - - - - - - - - - - - - - - - - - - - - - - - - - - - - - - - - -"),
  (0xe0148, "- - - - - - - - - - - - - - - - - - - - - - - - - - - - - - - - - - - -"),
  (0xe016c, "- - - - - - - - - - - - - - - - - - - - - - - - - - - - - - - - - - - -"),
  (0xe0190, "- - - - - - - - - - - - - - - - - - - - - - - - - - - - - - - - - - - -"),
  (0xe01b4, "- - - - - - - - - - - - - - - - - - - - - - - - - - - - - - - - - - - -"),
  (0xe01d8, "- - - - - - - - - - - - - - - - - - - - - - - -")]

/-- The rows, read: the first code point, how many there are, and what they are replaced by. -/
def replacedTable : List (Nat × Nat × List (List Nat)) :=
  replacedRows.map fun r ↦ (r.1, (Text.rowPoints r.2).length, Text.rowPoints r.2)

/-- What the character is replaced by, if it is. -/
def replacement? (c : Char) : Option (List Char) := do
  let (first, _, words) ← replacedTable.find? fun r ↦
    decide (r.1 ≤ c.toNat ∧ c.toNat < r.1 + r.2.1)
  return (← words[c.toNat - first]?).map Char.ofNat

end ContractScan.Url.Idna
