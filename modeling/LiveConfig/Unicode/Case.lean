import LiveConfig.Unicode.Property

/-!
# Lower case and case folding

A row `first,last,stride,delta` of a table, in hexadecimal, maps every `stride`-th
code point of the range to the one `delta` away.  The folding table maps each code
point of a pair to its partner; the families of three and four are listed apart.
A capital sigma at the end of a word becomes a final sigma.  Text is lowered as in
version 17 of the character database; the folding of patterns is that of version 16.
-/

namespace LiveConfig
namespace Unicode

structure CaseRun where
  first : Nat
  last : Nat
  stride : Nat
  delta : Int

def CaseRun.maps (run : CaseRun) (code : Nat) : Bool :=
  run.first ≤ code && code ≤ run.last && (code - run.first) % run.stride == 0

def CaseRun.target (run : CaseRun) (code : Nat) : Nat := (code + run.delta).toNat

def readCaseRun (row : List Char) : Option CaseRun :=
  match Text.splitChars ',' row with
  | [first, last, stride, '-' :: delta] =>
    some ⟨natOfHex first, natOfHex last, natOfHex stride, -(natOfHex delta : Int)⟩
  | [first, last, stride, delta] =>
    some ⟨natOfHex first, natOfHex last, natOfHex stride, natOfHex delta⟩
  | _ => none

def readCaseRuns (table : String) : List CaseRun :=
  (blankSeparated table.toList).filterMap readCaseRun

def lowerTable : String :=
    "41,5a,1,20 c0,d6,1,20 d8,de,1,20 100,12e,2,1 132,136,2,1 139,147,2,1 14a,176,2,1
    178,178,1,-79 179,17d,2,1 181,181,1,d2 182,184,2,1 186,186,1,ce 187,187,1,1 189,18a,1,cd
    18b,18b,1,1 18e,18e,1,4f 18f,18f,1,ca 190,190,1,cb 191,191,1,1 193,193,1,cd 194,194,1,cf
    196,196,1,d3 197,197,1,d1 198,198,1,1 19c,19c,1,d3 19d,19d,1,d5 19f,19f,1,d6 1a0,1a4,2,1
    1a6,1a6,1,da 1a7,1a7,1,1 1a9,1a9,1,da 1ac,1ac,1,1 1ae,1ae,1,da 1af,1af,1,1 1b1,1b2,1,d9
    1b3,1b5,2,1 1b7,1b7,1,db 1b8,1b8,1,1 1bc,1bc,1,1 1c4,1c4,1,2 1c5,1c5,1,1 1c7,1c7,1,2
    1c8,1c8,1,1 1ca,1ca,1,2 1cb,1db,2,1 1de,1ee,2,1 1f1,1f1,1,2 1f2,1f4,2,1 1f6,1f6,1,-61
    1f7,1f7,1,-38 1f8,21e,2,1 220,220,1,-82 222,232,2,1 23a,23a,1,2a2b 23b,23b,1,1 23d,23d,1,-a3
    23e,23e,1,2a28 241,241,1,1 243,243,1,-c3 244,244,1,45 245,245,1,47 246,24e,2,1 370,372,2,1
    376,376,1,1 37f,37f,1,74 386,386,1,26 388,38a,1,25 38c,38c,1,40 38e,38f,1,3f 391,3a1,1,20
    3a3,3ab,1,20 3cf,3cf,1,8 3d8,3ee,2,1 3f4,3f4,1,-3c 3f7,3f7,1,1 3f9,3f9,1,-7 3fa,3fa,1,1
    3fd,3ff,1,-82 400,40f,1,50 410,42f,1,20 460,480,2,1 48a,4be,2,1 4c0,4c0,1,f 4c1,4cd,2,1
    4d0,52e,2,1 531,556,1,30 10a0,10c5,1,1c60 10c7,10c7,1,1c60 10cd,10cd,1,1c60 13a0,13ef,1,97d0
    13f0,13f5,1,8 1c89,1c89,1,1 1c90,1cba,1,-bc0 1cbd,1cbf,1,-bc0 1e00,1e94,2,1
    1e9e,1e9e,1,-1dbf 1ea0,1efe,2,1 1f08,1f0f,1,-8 1f18,1f1d,1,-8 1f28,1f2f,1,-8 1f38,1f3f,1,-8
    1f48,1f4d,1,-8 1f59,1f5f,2,-8 1f68,1f6f,1,-8 1f88,1f8f,1,-8 1f98,1f9f,1,-8 1fa8,1faf,1,-8
    1fb8,1fb9,1,-8 1fba,1fbb,1,-4a 1fbc,1fbc,1,-9 1fc8,1fcb,1,-56 1fcc,1fcc,1,-9 1fd8,1fd9,1,-8
    1fda,1fdb,1,-64 1fe8,1fe9,1,-8 1fea,1feb,1,-70 1fec,1fec,1,-7 1ff8,1ff9,1,-80
    1ffa,1ffb,1,-7e 1ffc,1ffc,1,-9 2126,2126,1,-1d5d 212a,212a,1,-20bf 212b,212b,1,-2046
    2132,2132,1,1c 2160,216f,1,10 2183,2183,1,1 24b6,24cf,1,1a 2c00,2c2f,1,30 2c60,2c60,1,1
    2c62,2c62,1,-29f7 2c63,2c63,1,-ee6 2c64,2c64,1,-29e7 2c67,2c6b,2,1 2c6d,2c6d,1,-2a1c
    2c6e,2c6e,1,-29fd 2c6f,2c6f,1,-2a1f 2c70,2c70,1,-2a1e 2c72,2c72,1,1 2c75,2c75,1,1
    2c7e,2c7f,1,-2a3f 2c80,2ce2,2,1 2ceb,2ced,2,1 2cf2,2cf2,1,1 a640,a66c,2,1 a680,a69a,2,1
    a722,a72e,2,1 a732,a76e,2,1 a779,a77b,2,1 a77d,a77d,1,-8a04 a77e,a786,2,1 a78b,a78b,1,1
    a78d,a78d,1,-a528 a790,a792,2,1 a796,a7a8,2,1 a7aa,a7aa,1,-a544 a7ab,a7ab,1,-a54f
    a7ac,a7ac,1,-a54b a7ad,a7ad,1,-a541 a7ae,a7ae,1,-a544 a7b0,a7b0,1,-a512 a7b1,a7b1,1,-a52a
    a7b2,a7b2,1,-a515 a7b3,a7b3,1,3a0 a7b4,a7c2,2,1 a7c4,a7c4,1,-30 a7c5,a7c5,1,-a543
    a7c6,a7c6,1,-8a38 a7c7,a7c9,2,1 a7cb,a7cb,1,-a567 a7cc,a7da,2,1 a7dc,a7dc,1,-a641
    a7f5,a7f5,1,1 ff21,ff3a,1,20 10400,10427,1,28 104b0,104d3,1,28 10570,1057a,1,27
    1057c,1058a,1,27 1058c,10592,1,27 10594,10595,1,27 10c80,10cb2,1,40 10d50,10d65,1,20
    118a0,118bf,1,20 16e40,16e5f,1,20 16ea0,16eb8,1,1b 1e900,1e921,1,22"

def lowerRuns : List CaseRun := readCaseRuns lowerTable

def pairTable : String :=
    "41,4a,1,20 4c,52,1,20 54,5a,1,20 c0,c4,1,20 c6,d6,1,20 d8,de,1,20 df,df,1,1dbf ff,ff,1,79
    100,12e,2,1 132,136,2,1 139,147,2,1 14a,176,2,1 179,17d,2,1 180,180,1,c3 181,181,1,d2
    182,184,2,1 186,186,1,ce 187,187,1,1 189,18a,1,cd 18b,18b,1,1 18e,18e,1,4f 18f,18f,1,ca
    190,190,1,cb 191,191,1,1 193,193,1,cd 194,194,1,cf 195,195,1,61 196,196,1,d3 197,197,1,d1
    198,198,1,1 19a,19a,1,a3 19b,19b,1,a641 19c,19c,1,d3 19d,19d,1,d5 19e,19e,1,82 19f,19f,1,d6
    1a0,1a4,2,1 1a6,1a6,1,da 1a7,1a7,1,1 1a9,1a9,1,da 1ac,1ac,1,1 1ae,1ae,1,da 1af,1af,1,1
    1b1,1b2,1,d9 1b3,1b5,2,1 1b7,1b7,1,db 1b8,1b8,1,1 1bc,1bc,1,1 1bf,1bf,1,38 1cd,1db,2,1
    1de,1ee,2,1 1f4,1f4,1,1 1f8,21e,2,1 222,232,2,1 23a,23a,1,2a2b 23b,23b,1,1 23e,23e,1,2a28
    23f,240,1,2a3f 241,241,1,1 244,244,1,45 245,245,1,47 246,24e,2,1 250,250,1,2a1f
    251,251,1,2a1c 252,252,1,2a1e 25c,25c,1,a54f 261,261,1,a54b 264,264,1,a567 265,265,1,a528
    266,266,1,a544 26a,26a,1,a544 26b,26b,1,29f7 26c,26c,1,a541 271,271,1,29fd 27d,27d,1,29e7
    282,282,1,a543 287,287,1,a52a 29d,29d,1,a515 29e,29e,1,a512 370,372,2,1 376,376,1,1
    37b,37d,1,82 37f,37f,1,74 386,386,1,26 388,38a,1,25 38c,38c,1,40 38e,38f,1,3f 390,390,1,1c43
    391,393,2,20 394,396,2,20 397,397,1,20 39b,39d,2,20 39e,39f,1,20 3a4,3a5,1,20 3a7,3a8,1,20
    3aa,3ab,1,20 3b0,3b0,1,1c33 3cf,3cf,1,8 3d8,3ee,2,1 3f2,3f2,1,7 3f7,3f7,1,1 3fa,3fa,1,1
    400,40f,1,50 410,411,1,20 413,415,2,20 416,41d,1,20 41f,420,1,20 423,429,1,20 42b,42f,1,20
    460,460,1,1 464,480,2,1 48a,4be,2,1 4c0,4c0,1,f 4c1,4cd,2,1 4d0,52e,2,1 531,556,1,30
    10a0,10c5,1,1c60 10c7,10c7,1,1c60 10cd,10cd,1,1c60 10d0,10fa,1,bc0 10fd,10ff,1,bc0
    13a0,13ef,1,97d0 13f0,13f5,1,8 1c89,1c89,1,1 1d79,1d79,1,8a04 1d7d,1d7d,1,ee6
    1d8e,1d8e,1,8a38 1e00,1e5e,2,1 1e62,1e94,2,1 1ea0,1efe,2,1 1f00,1f07,1,8 1f10,1f15,1,8
    1f20,1f27,1,8 1f30,1f37,1,8 1f40,1f45,1,8 1f51,1f57,2,8 1f60,1f67,1,8 1f70,1f71,1,4a
    1f72,1f75,1,56 1f76,1f77,1,64 1f78,1f79,1,80 1f7a,1f7b,1,70 1f7c,1f7d,1,7e 1f80,1f87,1,8
    1f90,1f97,1,8 1fa0,1fa7,1,8 1fb0,1fb1,1,8 1fb3,1fb3,1,9 1fc3,1fc3,1,9 1fd0,1fd1,1,8
    1fe0,1fe1,1,8 1fe5,1fe5,1,7 1ff3,1ff3,1,9 2132,2132,1,1c 2160,216f,1,10 2183,2183,1,1
    24b6,24cf,1,1a 2c00,2c2f,1,30 2c60,2c60,1,1 2c67,2c6b,2,1 2c72,2c72,1,1 2c75,2c75,1,1
    2c80,2ce2,2,1 2ceb,2ced,2,1 2cf2,2cf2,1,1 a640,a648,2,1 a64c,a66c,2,1 a680,a69a,2,1
    a722,a72e,2,1 a732,a76e,2,1 a779,a77b,2,1 a77e,a786,2,1 a78b,a78b,1,1 a790,a792,2,1
    a794,a794,1,30 a796,a7a8,2,1 a7b3,a7b3,1,3a0 a7b4,a7c2,2,1 a7c7,a7c9,2,1 a7cc,a7cc,1,1
    a7d0,a7d0,1,1 a7d6,a7da,2,1 a7f5,a7f5,1,1 fb05,fb05,1,1 ff21,ff3a,1,20 10400,10427,1,28
    104b0,104d3,1,28 10570,1057a,1,27 1057c,1058a,1,27 1058c,10592,1,27 10594,10595,1,27
    10c80,10cb2,1,40 10d50,10d65,1,20 118a0,118bf,1,20 16e40,16e5f,1,20 1e900,1e921,1,22"

def pairRuns : List CaseRun := readCaseRuns pairTable

def familyTable : String :=
    "4b,6b,212a 53,73,17f b5,39c,3bc c5,e5,212b 1c4,1c5,1c6 1c7,1c8,1c9 1ca,1cb,1cc 1f1,1f2,1f3
    345,399,3b9,1fbe 392,3b2,3d0 395,3b5,3f5 398,3b8,3d1,3f4 39a,3ba,3f0 3a0,3c0,3d6 3a1,3c1,3f1
    3a3,3c2,3c3 3a6,3c6,3d5 3a9,3c9,2126 412,432,1c80 414,434,1c81 41e,43e,1c82 421,441,1c83
    422,442,1c84,1c85 42a,44a,1c86 462,463,1c87 1c88,a64a,a64b 1e60,1e61,1e9b"

def families : List (List Nat) :=
  (blankSeparated familyTable.toList).map fun row => (Text.splitChars ',' row).map natOfHex

/-- The lower case of a character on its own. -/
def lowerChar (c : Char) : List Char :=
  if c.toNat < 0x80 then [c.toLower]
  else if c = '\u0130' then ['i', '\u0307']
  else
    match lowerRuns.find? (·.maps c.toNat) with
    | some run => [Char.ofNat (run.target c.toNat)]
    | none => [c]

def casedLetters : CharSet := casedSet .v17

def caseIgnorables : CharSet := caseIgnorableSet .v17

/-- Whether a cased character is the first one that is not case-ignorable. -/
def casedFirst (text : List Char) : Bool :=
  match text.dropWhile caseIgnorables.mem with
  | c :: _ => casedLetters.mem c
  | [] => false

/-- The lower case of the characters after those of `before`, which is reversed. -/
def lowerChars : (before : List Char) → List Char → List Char
  | _, [] => []
  | before, c :: rest =>
    let lowered :=
      if c = 'Σ' then
        if casedFirst before && !casedFirst rest then ['ς'] else ['σ']
      else lowerChar c
    lowered ++ lowerChars (c :: before) rest

def lower (text : String) : String := String.ofList (lowerChars [] text.toList)

/-- The pairs and families with a member in the set, added to it. -/
def foldClosure (set : CharSet) : CharSet :=
  let paired := pairRuns.flatMap fun run =>
    (List.range ((run.last - run.first) / run.stride + 1)).flatMap fun i =>
      let code := run.first + run.stride * i
      let partner := run.target code
      if set.contains code || set.contains partner then [(code, code), (partner, partner)] else []
  let related := families.flatMap fun family =>
    if family.any set.contains then family.map fun code => (code, code) else []
  CharSet.ofRanges (set.ranges ++ paired ++ related)

/-! ## What case mappings change -/

/-- The code points that are not in lower case. -/
def changedByLower : CharSet :=
  let mapped := lowerRuns.flatMap fun run =>
    (List.range ((run.last - run.first) / run.stride + 1)).map fun i =>
      (run.first + run.stride * i, run.first + run.stride * i)
  (CharSet.ofRanges ((0x130, 0x130) :: mapped)).diff laterSet

/-- The code points that are not in upper case. -/
def changedByUpper : CharSet :=
  .ofTable
    "61-7a b5 df-f6 f8-ff 101-137/2 13a-146/2 148-149 14b-177/2 17a 17c 17e-180 183 185 188 18c
    192 195 199-19b 19e 1a1-1a5/2 1a8 1ad 1b0 1b4 1b6 1b9 1bd 1bf 1c5-1c6 1c8-1c9 1cb-1cc
    1ce-1da/2 1dc-1dd 1df-1ed/2 1ef-1f0 1f2-1f3 1f5 1f9-21f/2 223-233/2 23c 23f-240 242
    247-24d/2 24f-254 256-257 259 25b-25c 260-261 263-266 268-26c 26f 271-272 275 27d 280
    282-283 287-28c 292 29d-29e 345 371 373 377 37b-37d 390 3ac-3ce 3d0-3d1 3d5-3d7 3d9-3ed/2
    3ef-3f3 3f5-3fb/3 430-45f 461-481/2 48b-4bf/2 4c2-4cc/2 4ce-4cf 4d1-52f/2 561-587 10d0-10fa
    10fd-10ff 13f8-13fd 1c80-1c88 1c8a 1d79 1d7d 1d8e 1e01-1e93/2 1e95-1e9b 1ea1-1efd/2
    1eff-1f07 1f10-1f15 1f20-1f27 1f30-1f37 1f40-1f45 1f50-1f57 1f60-1f67 1f70-1f7d 1f80-1fb4
    1fb6-1fb7 1fbc 1fbe 1fc2-1fc4 1fc6-1fc7 1fcc 1fd0-1fd3 1fd6-1fd7 1fe0-1fe7 1ff2-1ff4
    1ff6-1ff7 1ffc 214e 2170-217f 2184 24d0-24e9 2c30-2c5f 2c61 2c65-2c66 2c68-2c6c/2 2c73 2c76
    2c81-2ce3/2 2cec 2cee 2cf3 2d00-2d25 2d27 2d2d a641-a66d/2 a681-a69b/2 a723-a72f/2
    a733-a76f/2 a77a a77c a77f-a787/2 a78c a791 a793-a794 a797-a7a9/2 a7b5-a7c3/2 a7c8 a7ca a7cd
    a7d1 a7d7-a7db/2 a7f6 ab53 ab70-abbf fb00-fb06 fb13-fb17 ff41-ff5a 10428-1044f 104d8-104fb
    10597-105a1 105a3-105b1 105b3-105b9 105bb-105bc 10cc0-10cf2 10d70-10d85 118c0-118df
    16e60-16e7f 1e922-1e943"

/-- The code points that are not in title case. -/
def changedByTitle : CharSet :=
  let kept :=
    .ofTable "1c5-1cb/3 1f2 10d0-10fa 10fd-10ff 1f88-1f8f 1f98-1f9f 1fa8-1faf 1fbc 1fcc 1ffc"
  (changedByUpper.diff kept).union (.ofTable "1c4-1ca/3 1f1")

/-- The code points that are not as case folding leaves them. -/
def changedByFolding : CharSet :=
  (changedByLower.diff (.range 0x13A0 0x13F5)).union
    (.ofTable
      "b5 df 149 17f 345 3c2 3d0-3d1 3d5-3d6 3f0-3f1 3f5 587 13f8-13fd 1c80-1c88 1e9a-1e9b
      1f80-1f87 1f90-1f97 1fa0-1fa7 1fb2-1fb4 1fb7 1fc2-1fc4 1fc7 1ff2-1ff4 1ff7 ab70-abbf
      fb00-fb06 fb13-fb17")

/-- The code points with a property of the kind `Changes_When`, by its full name. -/
def changesWhen? (name : String) : Option CharSet :=
  match name with
  | "Changes_When_Lowercased" => some changedByLower
  | "Changes_When_Uppercased" => some changedByUpper
  | "Changes_When_Titlecased" => some changedByTitle
  | "Changes_When_Casefolded" => some changedByFolding
  | "Changes_When_Casemapped" => some ((changedByLower.union changedByUpper).union changedByTitle)
  | _ => none

end Unicode
end LiveConfig
