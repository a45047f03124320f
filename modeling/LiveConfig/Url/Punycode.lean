import LiveConfig.Unicode.CharSet

/-!
# Punycode

Labels of any characters as ASCII: the ASCII characters first, then the positions
and values of the others as differences in a variable-length notation.
-/

namespace LiveConfig
namespace Punycode

def base : Nat := 36

/-- The threshold of a digit at weight position `k` under a bias. -/
def threshold (k bias : Nat) : Nat := min 26 (max 1 (k - bias))

def digit (n : Nat) : Char := if n < 26 then Char.ofNat (97 + n) else Char.ofNat (22 + n)

def digitValue? (c : Char) : Option Nat :=
  if 'a' ≤ c ∧ c ≤ 'z' then some (c.toNat - 97)
  else if 'A' ≤ c ∧ c ≤ 'Z' then some (c.toNat - 65)
  else if '0' ≤ c ∧ c ≤ '9' then some (c.toNat - 22)
  else none

/-- The bias after a difference among `count` characters. -/
def adapt (delta count : Nat) (first : Bool) : Nat :=
  let delta := if first then delta / 700 else delta / 2
  let delta := delta + delta / count
  let rec go : Nat → Nat → Nat → Nat
    | 0, delta, k => k + 36 * delta / (delta + 38)
    | fuel + 1, delta, k =>
      if 455 < delta then go fuel (delta / 35) (k + base) else k + 36 * delta / (delta + 38)
  go 16 delta 0

/-- The digits of a difference. -/
def encodeDelta (bias : Nat) : Nat → Nat → Nat → List Char
  | 0, _, _ => []
  | fuel + 1, k, q =>
    let t := threshold k bias
    if q < t then [digit q]
    else digit (t + (q - t) % (base - t)) :: encodeDelta bias fuel (k + base) ((q - t) / (base - t))

structure Encoder where
  delta : Nat
  bias : Nat
  handled : Nat
  output : List Char

/-- Writes the characters with the code point `n`. -/
def encodeRound (codes : List Nat) (basic n : Nat) (e : Encoder) : Encoder :=
  codes.foldl (fun e c =>
    if c < n then { e with delta := e.delta + 1 }
    else if c = n then
      { delta := 0
        bias := adapt e.delta (e.handled + 1) (e.handled == basic)
        handled := e.handled + 1
        output := e.output ++ encodeDelta e.bias 64 base e.delta }
    else e) e

def encodeRounds (codes : List Nat) (basic : Nat) : Nat → Nat → Encoder → Encoder
  | 0, _, e => e
  | fuel + 1, n, e =>
    match (codes.filter (n ≤ ·)).min? with
    | none => e
    | some m =>
      let e := { e with delta := e.delta + (m - n) * (e.handled + 1) }
      let e := encodeRound codes basic m e
      encodeRounds codes basic fuel (m + 1) { e with delta := e.delta + 1 }

def encode (label : List Char) : List Char :=
  let codes := label.map Char.toNat
  let plain := label.filter (·.toNat < 0x80)
  let start := if plain = [] then [] else plain ++ ['-']
  (encodeRounds codes plain.length codes.length 0x80 ⟨0, 72, plain.length, start⟩).output

/-- A difference from its digits, and the rest. -/
def decodeDelta (bias : Nat) : Nat → Nat → Nat → List Char → Option (Nat × List Char)
  | _, _, _, [] => none
  | k, weight, sum, c :: rest => do
    let d ← digitValue? c
    let sum := sum + d * weight
    let t := threshold k bias
    if 0x100000000 ≤ sum then none
    else if d < t then some (sum, rest)
    else decodeDelta bias (k + base) (weight * (base - t)) sum rest

/-- Inserts the characters that the differences stand for, from code point `n` and
position `i` on. -/
def insertAll : Nat → Nat → Nat → Nat → List Nat → List Char → Option (List Nat)
  | _, _, _, _, done, [] => some done
  | 0, _, _, _, _, _ => none
  | fuel + 1, n, i, bias, done, input => do
    let (delta, rest) ← decodeDelta bias base 1 0 input
    let count := done.length + 1
    let position := i + delta
    let code := n + position / count
    let index := position % count
    if 0x110000 ≤ code ∨ (0xD800 ≤ code ∧ code < 0xE000) then none
    else
      insertAll fuel code (index + 1) (adapt delta count (i == 0))
        (done.take index ++ code :: done.drop index) rest

def decode? (text : List Char) : Option (List Char) :=
  let tail := (text.reverse.takeWhile (· != '-')).reverse
  let plain := (text.take (text.length - tail.length)).dropLast
  if plain.all (·.toNat < 0x80) then
    (insertAll tail.length 0x80 0 72 (plain.map Char.toNat) tail).map fun codes =>
      codes.map Char.ofNat
  else none

end Punycode
end LiveConfig
