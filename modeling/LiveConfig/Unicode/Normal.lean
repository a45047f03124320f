import LiveConfig.Unicode.CodeMap

/-!
# The composed normal form

A text in this form has one code point for a letter with its marks where there is one.
The text is taken apart, marks on one letter are put in the order of their combining
classes, and what follows a letter is joined to it unless a mark of the same or a
higher class stands between them.  A syllable of Hangul is two or three letters, which
its number tells.  The tables are those of version 17 of the character database.
Characters that only ever stand for another one are not taken apart.
-/

namespace LiveConfig
namespace Unicode

def combiningClassRows : List (Nat × String) :=
  [(1,
    "334-338 1cd4 1ce2-1ce8 20d2-20d3 20d8-20da 20e5-20e6 20ea-20eb 10a39 16af0-16af4 1bc9e
    1d167-1d169"),
  (6, "16ff0-16ff1"),
  (7,
    "93c 9bc a3c abc b3c c3c cbc 1037 1b34 1be6 1c37 a9b3 110ba 11173 111ca 11236 112e9
    1133b-1133c 11446 114c3 115c0 116b7 1183a 11943 11d42 1e94a"),
  (8, "3099-309a"),
  (9,
    "94d 9cd a4d acd b4d bcd c4d ccd d3b-d3c d4d dca e3a eba f84 1039-103a 1714-1715 1734 17d2
    1a60 1b44 1baa-1bab 1bf2-1bf3 2d7f a806 a82c a8c4 a953 a9c0 aaf6 abed 10a3f 11046 11070
    1107f 110b9 11133-11134 111c0 11235 112ea 1134d 113ce-113d0 11442 114c2 115bf 1163f 116b6
    1172b 11839 1193d-1193e 119e0 11a34 11a47 11a99 11c3f 11d44-11d45 11d97 11f41-11f42 1612f"),
  (10, "5b0"), (11, "5b1"), (12, "5b2"), (13, "5b3"), (14, "5b4"), (15, "5b5"), (16, "5b6"),
  (17, "5b7"), (18, "5b8 5c7"), (19, "5b9-5ba"), (20, "5bb"), (21, "5bc"), (22, "5bd"),
  (23, "5bf"), (24, "5c1"), (25, "5c2"), (26, "fb1e"), (27, "64b 8f0"), (28, "64c 8f1"),
  (29, "64d 8f2"), (30, "618 64e"), (31, "619 64f"), (32, "61a 650"), (33, "651"), (34, "652"),
  (35, "670"), (36, "711"), (84, "c55"), (91, "c56"), (103, "e38-e39"), (107, "e48-e4b"),
  (118, "eb8-eb9"), (122, "ec8-ecb"), (129, "f71"), (130, "f72 f7a-f7d f80"), (132, "f74"),
  (202, "321-322 327-328 1dd0"), (214, "1dce"), (216, "31b f39 1d165-1d166 1d16e-1d172"),
  (218, "1dfa 302a"),
  (220,
    "316-319 31c-320 323-326 329-333 339-33c 347-349 34d-34e 353-356 359-35a 591 596 59b 5a2-5a7
    5aa 5c5 655-656 65c 65f 6e3 6ea 6ed 731 734 737-739 73b-73c 73e 742 744 746 748 7f2 7fd
    859-85b 899-89b 8cf-8d3 8e3 8e6 8e9 8ed-8ef 8f6 8f9-8fa 952 f18-f19 f35 f37 fc6 108d 193b
    1a18 1a7f 1ab5-1aba 1abd 1abf-1ac0 1ac3-1ac4 1aca 1add 1ae6 1b6c 1cd5-1cd9 1cdc-1cdf 1ced
    1dc2 1dca 1dcf 1df9 1dfd 1dff 20e8 20ec-20ef a92b-a92d aab4 fe27-fe2d 101fd 102e0 10a0d
    10a3a 10ae6 10efa-10efb 10efd-10eff 10f46-10f47 10f4b 10f4d-10f50 10f83 10f85 1d17b-1d182
    1d18a-1d18b 1e4ee 1e5ef 1e8d0-1e8d6"),
  (222, "59a 5ad 1939 302d"), (224, "302e-302f"), (226, "1d16d"),
  (228, "5ae 18a9 1df7-1df8 302b"),
  (230,
    "300-314 33d-344 346 34a-34c 350-352 357 35b 363-36f 483-487 592-595 597-599 59c-5a1 5a8-5a9
    5ab-5ac 5af 5c4 610-617 653-654 657-65b 65d-65e 6d6-6dc 6df-6e2 6e4 6e7-6e8 6eb-6ec 730
    732-733 735-736 73a 73d 73f-741 743 745 747 749-74a 7eb-7f1 7f3 816-819 81b-823 825-827
    829-82d 897-898 89c-89f 8ca-8ce 8d4-8e1 8e4-8e5 8e7-8e8 8ea-8ec 8f3-8f5 8f7-8f8 8fb-8ff 951
    953-954 9fe f82-f83 f86-f87 135d-135f 17dd 193a 1a17 1a75-1a7c 1ab0-1ab4 1abb-1abc 1ac1-1ac2
    1ac5-1ac9 1acb-1adc 1ae0-1ae5 1ae7-1aea 1b6b 1b6d-1b73 1cd0-1cd2 1cda-1cdb 1ce0 1cf4
    1cf8-1cf9 1dc0-1dc1 1dc3-1dc9 1dcb-1dcc 1dd1-1df5 1dfb 1dfe 20d0-20d1 20d4-20d7 20db-20dc
    20e1 20e7 20e9 20f0 2cef-2cf1 2de0-2dff a66f a674-a67d a69e-a69f a6f0-a6f1 a8e0-a8f1 aab0
    aab2-aab3 aab7-aab8 aabe-aabf aac1 fe20-fe26 fe2e-fe2f 10376-1037a 10a0f 10a38 10ae5
    10d24-10d27 10d69-10d6d 10eab-10eac 10f48-10f4a 10f4c 10f82 10f84 11100-11102 11366-1136c
    11370-11374 1145e 16b30-16b36 1d185-1d189 1d1aa-1d1ad 1d242-1d244 1e000-1e006 1e008-1e018
    1e01b-1e021 1e023-1e024 1e026-1e02a 1e08f 1e130-1e136 1e2ae 1e2ec-1e2ef 1e4ef 1e5ee 1e6e3
    1e6e6 1e6ee-1e6ef 1e6f5 1e944-1e949"),
  (232, "315 31a 358 1df6 302c 1e4ec-1e4ed"), (233, "35c 35f 362 1dfc"),
  (234, "35d-35e 360-361 1aeb 1dcd"), (240, "345")]

def combiningClasses : List (Nat × CharSet) :=
  combiningClassRows.map fun (n, table) => (n, .ofTable table)

/-- The place of a mark among the marks on a letter; zero for all else. -/
def combiningClass (code : Nat) : Nat :=
  if code < 0x300 then 0
  else ((combiningClasses.find? (·.2.contains code)).map (·.1)).getD 0

def compositionTable : String :=
    "c0=41+300 41+301 41+302 41+303 41+308 41+30a c7=43+327 45+300 45+301 45+302 45+308 49+300
    49+301 49+302 49+308 d1=4e+303 4f+300 4f+301 4f+302 4f+303 4f+308 d9=55+300 55+301 55+302
    55+308 59+301 e0=61+300 61+301 61+302 61+303 61+308 61+30a e7=63+327 65+300 65+301 65+302
    65+308 69+300 69+301 69+302 69+308 f1=6e+303 6f+300 6f+301 6f+302 6f+303 6f+308 f9=75+300
    75+301 75+302 75+308 79+301 ff=79+308 41+304 61+304 41+306 61+306 41+328 61+328 43+301
    63+301 43+302 63+302 43+307 63+307 43+30c 63+30c 44+30c 64+30c 112=45+304 65+304 45+306
    65+306 45+307 65+307 45+328 65+328 45+30c 65+30c 47+302 67+302 47+306 67+306 47+307 67+307
    47+327 67+327 48+302 68+302 128=49+303 69+303 49+304 69+304 49+306 69+306 49+328 69+328
    49+307 134=4a+302 6a+302 4b+327 6b+327 139=4c+301 6c+301 4c+327 6c+327 4c+30c 6c+30c
    143=4e+301 6e+301 4e+327 6e+327 4e+30c 6e+30c 14c=4f+304 6f+304 4f+306 6f+306 4f+30b 6f+30b
    154=52+301 72+301 52+327 72+327 52+30c 72+30c 53+301 73+301 53+302 73+302 53+327 73+327
    53+30c 73+30c 54+327 74+327 54+30c 74+30c 168=55+303 75+303 55+304 75+304 55+306 75+306
    55+30a 75+30a 55+30b 75+30b 55+328 75+328 57+302 77+302 59+302 79+302 59+308 5a+301 7a+301
    5a+307 7a+307 5a+30c 7a+30c 1a0=4f+31b 6f+31b 1af=55+31b 75+31b 1cd=41+30c 61+30c 49+30c
    69+30c 4f+30c 6f+30c 55+30c 75+30c dc+304 fc+304 dc+301 fc+301 dc+30c fc+30c dc+300 fc+300
    1de=c4+304 e4+304 226+304 227+304 c6+304 e6+304 1e6=47+30c 67+30c 4b+30c 6b+30c 4f+328
    6f+328 1ea+304 1eb+304 1b7+30c 292+30c 6a+30c 1f4=47+301 67+301 1f8=4e+300 6e+300 c5+301
    e5+301 c6+301 e6+301 d8+301 f8+301 41+30f 61+30f 41+311 61+311 45+30f 65+30f 45+311 65+311
    49+30f 69+30f 49+311 69+311 4f+30f 6f+30f 4f+311 6f+311 52+30f 72+30f 52+311 72+311 55+30f
    75+30f 55+311 75+311 53+326 73+326 54+326 74+326 21e=48+30c 68+30c 226=41+307 61+307 45+327
    65+327 d6+304 f6+304 d5+304 f5+304 4f+307 6f+307 22e+304 22f+304 59+304 79+304 385=a8+301
    391+301 388=395+301 397+301 399+301 38c=39f+301 38e=3a5+301 3a9+301 3ca+301 3aa=399+308
    3a5+308 3b1+301 3b5+301 3b7+301 3b9+301 3cb+301 3ca=3b9+308 3c5+308 3bf+301 3c5+301 3c9+301
    3d3=3d2+301 3d2+308 400=415+300 415+308 403=413+301 407=406+308 40c=41a+301 418+300 423+306
    419=418+306 439=438+306 450=435+300 435+308 453=433+301 457=456+308 45c=43a+301 438+300
    443+306 476=474+30f 475+30f 4c1=416+306 436+306 4d0=410+306 430+306 410+308 430+308
    4d6=415+306 435+306 4da=4d8+308 4d9+308 416+308 436+308 417+308 437+308 4e2=418+304 438+304
    418+308 438+308 41e+308 43e+308 4ea=4e8+308 4e9+308 42d+308 44d+308 423+304 443+304 423+308
    443+308 423+30b 443+30b 427+308 447+308 4f8=42b+308 44b+308 622=627+653 627+654 648+654
    627+655 64a+654 6c0=6d5+654 6c2=6c1+654 6d3=6d2+654 929=928+93c 931=930+93c 934=933+93c
    9cb=9c7+9be 9c7+9d7 b48=b47+b56 b4b=b47+b3e b47+b57 b94=b92+bd7 bca=bc6+bbe bc7+bbe bc6+bd7
    c48=c46+c56 cc0=cbf+cd5 cc7=cc6+cd5 cc6+cd6 cca=cc6+cc2 cca+cd5 d4a=d46+d3e d47+d3e d46+d57
    dda=dd9+dca ddc=dd9+dcf ddc+dca dd9+ddf 1026=1025+102e 1b06=1b05+1b35 1b08=1b07+1b35
    1b0a=1b09+1b35 1b0c=1b0b+1b35 1b0e=1b0d+1b35 1b12=1b11+1b35 1b3b=1b3a+1b35 1b3d=1b3c+1b35
    1b40=1b3e+1b35 1b3f+1b35 1b43=1b42+1b35 1e00=41+325 61+325 42+307 62+307 42+323 62+323
    42+331 62+331 c7+301 e7+301 44+307 64+307 44+323 64+323 44+331 64+331 44+327 64+327 44+32d
    64+32d 112+300 113+300 112+301 113+301 45+32d 65+32d 45+330 65+330 228+306 229+306 46+307
    66+307 47+304 67+304 48+307 68+307 48+323 68+323 48+308 68+308 48+327 68+327 48+32e 68+32e
    49+330 69+330 cf+301 ef+301 4b+301 6b+301 4b+323 6b+323 4b+331 6b+331 4c+323 6c+323 1e36+304
    1e37+304 4c+331 6c+331 4c+32d 6c+32d 4d+301 6d+301 4d+307 6d+307 4d+323 6d+323 4e+307 6e+307
    4e+323 6e+323 4e+331 6e+331 4e+32d 6e+32d d5+301 f5+301 d5+308 f5+308 14c+300 14d+300
    14c+301 14d+301 50+301 70+301 50+307 70+307 52+307 72+307 52+323 72+323 1e5a+304 1e5b+304
    52+331 72+331 53+307 73+307 53+323 73+323 15a+307 15b+307 160+307 161+307 1e62+307 1e63+307
    54+307 74+307 54+323 74+323 54+331 74+331 54+32d 74+32d 55+324 75+324 55+330 75+330 55+32d
    75+32d 168+301 169+301 16a+308 16b+308 56+303 76+303 56+323 76+323 57+300 77+300 57+301
    77+301 57+308 77+308 57+307 77+307 57+323 77+323 58+307 78+307 58+308 78+308 59+307 79+307
    5a+302 7a+302 5a+323 7a+323 5a+331 7a+331 68+331 74+308 77+30a 79+30a 1e9b=17f+307
    1ea0=41+323 61+323 41+309 61+309 c2+301 e2+301 c2+300 e2+300 c2+309 e2+309 c2+303 e2+303
    1ea0+302 1ea1+302 102+301 103+301 102+300 103+300 102+309 103+309 102+303 103+303 1ea0+306
    1ea1+306 45+323 65+323 45+309 65+309 45+303 65+303 ca+301 ea+301 ca+300 ea+300 ca+309 ea+309
    ca+303 ea+303 1eb8+302 1eb9+302 49+309 69+309 49+323 69+323 4f+323 6f+323 4f+309 6f+309
    d4+301 f4+301 d4+300 f4+300 d4+309 f4+309 d4+303 f4+303 1ecc+302 1ecd+302 1a0+301 1a1+301
    1a0+300 1a1+300 1a0+309 1a1+309 1a0+303 1a1+303 1a0+323 1a1+323 55+323 75+323 55+309 75+309
    1af+301 1b0+301 1af+300 1b0+300 1af+309 1b0+309 1af+303 1b0+303 1af+323 1b0+323 59+300
    79+300 59+323 79+323 59+309 79+309 59+303 79+303 1f00=3b1+313 3b1+314 1f00+300 1f01+300
    1f00+301 1f01+301 1f00+342 1f01+342 391+313 391+314 1f08+300 1f09+300 1f08+301 1f09+301
    1f08+342 1f09+342 3b5+313 3b5+314 1f10+300 1f11+300 1f10+301 1f11+301 1f18=395+313 395+314
    1f18+300 1f19+300 1f18+301 1f19+301 1f20=3b7+313 3b7+314 1f20+300 1f21+300 1f20+301 1f21+301
    1f20+342 1f21+342 397+313 397+314 1f28+300 1f29+300 1f28+301 1f29+301 1f28+342 1f29+342
    3b9+313 3b9+314 1f30+300 1f31+300 1f30+301 1f31+301 1f30+342 1f31+342 399+313 399+314
    1f38+300 1f39+300 1f38+301 1f39+301 1f38+342 1f39+342 3bf+313 3bf+314 1f40+300 1f41+300
    1f40+301 1f41+301 1f48=39f+313 39f+314 1f48+300 1f49+300 1f48+301 1f49+301 1f50=3c5+313
    3c5+314 1f50+300 1f51+300 1f50+301 1f51+301 1f50+342 1f51+342 1f59=3a5+314 1f5b=1f59+300
    1f5d=1f59+301 1f5f=1f59+342 3c9+313 3c9+314 1f60+300 1f61+300 1f60+301 1f61+301 1f60+342
    1f61+342 3a9+313 3a9+314 1f68+300 1f69+300 1f68+301 1f69+301 1f68+342 1f69+342 3b1+300
    1f72=3b5+300 1f74=3b7+300 1f76=3b9+300 1f78=3bf+300 1f7a=3c5+300 1f7c=3c9+300 1f80=1f00+345
    1f01+345 1f02+345 1f03+345 1f04+345 1f05+345 1f06+345 1f07+345 1f08+345 1f09+345 1f0a+345
    1f0b+345 1f0c+345 1f0d+345 1f0e+345 1f0f+345 1f20+345 1f21+345 1f22+345 1f23+345 1f24+345
    1f25+345 1f26+345 1f27+345 1f28+345 1f29+345 1f2a+345 1f2b+345 1f2c+345 1f2d+345 1f2e+345
    1f2f+345 1f60+345 1f61+345 1f62+345 1f63+345 1f64+345 1f65+345 1f66+345 1f67+345 1f68+345
    1f69+345 1f6a+345 1f6b+345 1f6c+345 1f6d+345 1f6e+345 1f6f+345 3b1+306 3b1+304 1f70+345
    3b1+345 3ac+345 1fb6=3b1+342 1fb6+345 391+306 391+304 391+300 1fbc=391+345 1fc1=a8+342
    1f74+345 3b7+345 3ae+345 1fc6=3b7+342 1fc6+345 395+300 1fca=397+300 1fcc=397+345 1fbf+300
    1fbf+301 1fbf+342 3b9+306 3b9+304 3ca+300 1fd6=3b9+342 3ca+342 399+306 399+304 399+300
    1fdd=1ffe+300 1ffe+301 1ffe+342 3c5+306 3c5+304 3cb+300 1fe4=3c1+313 3c1+314 3c5+342 3cb+342
    3a5+306 3a5+304 3a5+300 1fec=3a1+314 a8+300 1ff2=1f7c+345 3c9+345 3ce+345 1ff6=3c9+342
    1ff6+345 39f+300 1ffa=3a9+300 1ffc=3a9+345 219a=2190+338 2192+338 21ae=2194+338
    21cd=21d0+338 21d4+338 21d2+338 2204=2203+338 2209=2208+338 220c=220b+338 2224=2223+338
    2226=2225+338 2241=223c+338 2244=2243+338 2247=2245+338 2249=2248+338 2260=3d+338
    2262=2261+338 226d=224d+338 3c+338 3e+338 2264+338 2265+338 2274=2272+338 2273+338
    2278=2276+338 2277+338 2280=227a+338 227b+338 2284=2282+338 2283+338 2288=2286+338 2287+338
    22ac=22a2+338 22a8+338 22a9+338 22ab+338 22e0=227c+338 227d+338 2291+338 2292+338
    22ea=22b2+338 22b3+338 22b4+338 22b5+338 304c=304b+3099 304e=304d+3099 3050=304f+3099
    3052=3051+3099 3054=3053+3099 3056=3055+3099 3058=3057+3099 305a=3059+3099 305c=305b+3099
    305e=305d+3099 3060=305f+3099 3062=3061+3099 3065=3064+3099 3067=3066+3099 3069=3068+3099
    3070=306f+3099 306f+309a 3073=3072+3099 3072+309a 3076=3075+3099 3075+309a 3079=3078+3099
    3078+309a 307c=307b+3099 307b+309a 3094=3046+3099 309e=309d+3099 30ac=30ab+3099
    30ae=30ad+3099 30b0=30af+3099 30b2=30b1+3099 30b4=30b3+3099 30b6=30b5+3099 30b8=30b7+3099
    30ba=30b9+3099 30bc=30bb+3099 30be=30bd+3099 30c0=30bf+3099 30c2=30c1+3099 30c5=30c4+3099
    30c7=30c6+3099 30c9=30c8+3099 30d0=30cf+3099 30cf+309a 30d3=30d2+3099 30d2+309a
    30d6=30d5+3099 30d5+309a 30d9=30d8+3099 30d8+309a 30dc=30db+3099 30db+309a 30f4=30a6+3099
    30f7=30ef+3099 30f0+3099 30f1+3099 30f2+3099 30fe=30fd+3099 105c9=105d2+307 105e4=105da+307
    1109a=11099+110ba 1109c=1109b+110ba 110ab=110a5+110ba 1112e=11131+11127 11132+11127
    1134b=11347+1133e 11347+11357 11383=11382+113c9 11385=11384+113bb 1138e=1138b+113c2
    11391=11390+113c9 113c5=113c2+113c2 113c7=113c2+113b8 113c2+113c9 114bb=114b9+114ba
    114b9+114b0 114be=114b9+114bd 115ba=115b8+115af 115b9+115af 11938=11935+11930
    16121=1611e+1611e 1611e+16129 1611e+1611f 16129+1611f 1611e+16120 16121+1611f 16122+1611f
    16121+16120 16d68=16d67+16d67 16d63+16d67 16d69+16d67"

def compositions : CodeMap := .ofTable compositionTable

/-! ## Taking apart -/

/-- The letters of a syllable of Hangul. -/
def hangulLetters? (code : Nat) : Option (List Nat) :=
  if 0xAC00 ≤ code ∧ code < 0xD7A4 then
    let index := code - 0xAC00
    let last := index % 28
    let letters := [0x1100 + index / 588, 0x1161 + index % 588 / 28]
    some (if last = 0 then letters else letters ++ [0x11A7 + last])
  else none

/-- The code points of a composed one; its first part may be composed again. -/
def decompose : (fuel : Nat) → Nat → List Nat
  | 0, code => [code]
  | fuel + 1, code =>
    match hangulLetters? code with
    | some letters => letters
    | none =>
      match compositions.find? code with
      | some (first :: rest) => decompose fuel first ++ rest
      | _ => [code]

/-- Puts a code point before others; a mark goes behind those of a lower class. -/
def insertMark (code : Nat) : List Nat → List Nat
  | [] => [code]
  | next :: rest =>
    let place := combiningClass next
    if place ≠ 0 ∧ place < combiningClass code then next :: insertMark code rest
    else code :: next :: rest

/-! ## Joining -/

/-- The syllable of two letters, or of a syllable without a last letter and one. -/
def joinHangul? (first second : Nat) : Option Nat :=
  if 0x1100 ≤ first ∧ first < 0x1113 ∧ 0x1161 ≤ second ∧ second < 0x1176 then
    some (0xAC00 + (first - 0x1100) * 588 + (second - 0x1161) * 28)
  else if 0xAC00 ≤ first ∧ first < 0xD7A4 ∧ (first - 0xAC00) % 28 = 0 ∧
      0x11A8 ≤ second ∧ second < 0x11C3 then
    some (first + (second - 0x11A7))
  else none

def join? (first second : Nat) : Option Nat :=
  match joinHangul? first second with
  | some code => some code
  | none => compositions.source? [first, second]

/-- Joins the code points to a letter and the marks, last one first, that stay apart
from it. -/
def joinTo (letter : Nat) (apart : List Nat) : List Nat → List Nat
  | [] => letter :: apart.reverse
  | code :: rest =>
    let place := combiningClass code
    let isNext := apart.head?.all (combiningClass · < place)
    match if isNext then join? letter code else none with
    | some joined => joinTo joined apart rest
    | none =>
      if place = 0 then letter :: apart.reverse ++ joinTo code [] rest
      else joinTo letter (code :: apart) rest

/-- Joins to each letter what follows it. -/
def joinAll : List Nat → List Nat
  | [] => []
  | code :: rest => if combiningClass code = 0 then joinTo code [] rest else code :: joinAll rest

/-- The composed normal form of a text. -/
def compose (text : List Char) : List Char :=
  let parts := text.flatMap fun c => decompose 4 c.toNat
  (joinAll (parts.foldr insertMark [])).map Char.ofNat

end Unicode
end LiveConfig
