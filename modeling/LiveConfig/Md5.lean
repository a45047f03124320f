/-!
# The MD5 digest

The message is padded to blocks of sixteen little-endian words, and each block
is folded into four words of state in sixty-four rounds.
-/

namespace LiveConfig
namespace Md5

structure State where
  a : UInt32
  b : UInt32
  c : UInt32
  d : UInt32

def initial : State := ⟨0x67452301, 0xefcdab89, 0x98badcfe, 0x10325476⟩

/-- The integer part of `2 ^ 32` times the absolute sine of each round's number. -/
def sines : Array UInt32 := #[
  0xd76aa478, 0xe8c7b756, 0x242070db, 0xc1bdceee, 0xf57c0faf, 0x4787c62a, 0xa8304613, 0xfd469501,
  0x698098d8, 0x8b44f7af, 0xffff5bb1, 0x895cd7be, 0x6b901122, 0xfd987193, 0xa679438e, 0x49b40821,
  0xf61e2562, 0xc040b340, 0x265e5a51, 0xe9b6c7aa, 0xd62f105d, 0x02441453, 0xd8a1e681, 0xe7d3fbc8,
  0x21e1cde6, 0xc33707d6, 0xf4d50d87, 0x455a14ed, 0xa9e3e905, 0xfcefa3f8, 0x676f02d9, 0x8d2a4c8a,
  0xfffa3942, 0x8771f681, 0x6d9d6122, 0xfde5380c, 0xa4beea44, 0x4bdecfa9, 0xf6bb4b60, 0xbebfbc70,
  0x289b7ec6, 0xeaa127fa, 0xd4ef3085, 0x04881d05, 0xd9d4d039, 0xe6db99e5, 0x1fa27cf8, 0xc4ac5665,
  0xf4292244, 0x432aff97, 0xab9423a7, 0xfc93a039, 0x655b59c3, 0x8f0ccc92, 0xffeff47d, 0x85845dd1,
  0x6fa87e4f, 0xfe2ce6e0, 0xa3014314, 0x4e0811a1, 0xf7537e82, 0xbd3af235, 0x2ad7d2bb, 0xeb86d391]

def shifts : Array UInt32 := #[7, 12, 17, 22, 5, 9, 14, 20, 4, 11, 16, 23, 6, 10, 15, 21]

def rotateLeft (x n : UInt32) : UInt32 := (x <<< n) ||| (x >>> (32 - n))

def round (block : Array UInt32) (s : State) (i : Nat) : State :=
  let (f, g) :=
    if i < 16 then ((s.b &&& s.c) ||| ((~~~s.b) &&& s.d), i)
    else if i < 32 then ((s.d &&& s.b) ||| ((~~~s.d) &&& s.c), (5 * i + 1) % 16)
    else if i < 48 then (s.b ^^^ s.c ^^^ s.d, (3 * i + 5) % 16)
    else (s.c ^^^ (s.b ||| (~~~s.d)), (7 * i) % 16)
  let sum := f + s.a + sines.getD i 0 + block.getD g 0
  ⟨s.d, s.b + rotateLeft sum (shifts.getD (i / 16 * 4 + i % 4) 0), s.b, s.c⟩

def fold (s : State) (block : Array UInt32) : State :=
  let t := (List.range 64).foldl (round block) s
  ⟨s.a + t.a, s.b + t.b, s.c + t.c, s.d + t.d⟩

def littleEndian (count n : Nat) : List UInt8 :=
  (List.range count).map fun i => UInt8.ofNat ((n >>> (8 * i)) % 256)

/-- The message, a one bit, zeros, and the length in bits, in whole blocks. -/
def pad (message : List UInt8) : List UInt8 :=
  let zeros := (119 - message.length % 64) % 64
  message ++ 0x80 :: List.replicate zeros 0 ++ littleEndian 8 (message.length * 8)

def words : List UInt8 → List UInt32
  | a :: b :: c :: d :: rest =>
    UInt32.ofNat (a.toNat + 256 * (b.toNat + 256 * (c.toNat + 256 * d.toNat))) :: words rest
  | _ => []

def blocks : Nat → List UInt32 → List (Array UInt32)
  | 0, _ => []
  | count + 1, ws => (ws.take 16).toArray :: blocks count (ws.drop 16)

/-- The sixteen bytes of the digest. -/
def digest (message : List UInt8) : List UInt8 :=
  let ws := words (pad message)
  let s := (blocks (ws.length / 16) ws).foldl fold initial
  [s.a, s.b, s.c, s.d].flatMap fun w => littleEndian 4 w.toNat

end Md5
end LiveConfig
