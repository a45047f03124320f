/-!
# UTF-8

Decoding reads one byte at a time and remembers only the sequence that it is in
(`Utf8.Pending`).  A sequence that breaks off counts as one unreadable unit, and
the byte that broke it starts anew.  `decodeLossy` writes U+FFFD for each
unreadable unit; `decode?` refuses a text that has one.
-/

namespace LiveConfig
namespace Utf8

def encode (text : String) : List UInt8 := text.toUTF8.data.toList

/-- An unfinished sequence: the bits so far, the count of bytes still due, and
the range that the next of them must lie in. -/
structure Pending where
  code : Nat
  due : Nat
  low : Nat
  high : Nat

/-- The reading of a byte that no unfinished sequence precedes. -/
def start (b : Nat) : List (Option Char) × Option Pending :=
  if b < 0x80 then ([some (Char.ofNat b)], none)
  else if 0xC2 ≤ b ∧ b ≤ 0xDF then ([], some ⟨b - 0xC0, 1, 0x80, 0xBF⟩)
  else if b = 0xE0 then ([], some ⟨0, 2, 0xA0, 0xBF⟩)
  else if b = 0xED then ([], some ⟨0xD, 2, 0x80, 0x9F⟩)
  else if 0xE1 ≤ b ∧ b ≤ 0xEF then ([], some ⟨b - 0xE0, 2, 0x80, 0xBF⟩)
  else if b = 0xF0 then ([], some ⟨0, 3, 0x90, 0xBF⟩)
  else if 0xF1 ≤ b ∧ b ≤ 0xF3 then ([], some ⟨b - 0xF0, 3, 0x80, 0xBF⟩)
  else if b = 0xF4 then ([], some ⟨4, 3, 0x80, 0x8F⟩)
  else ([none], none)

/-- The units that byte `b` completes, and the sequence that it leaves open. -/
def step (pending : Option Pending) (b : Nat) : List (Option Char) × Option Pending :=
  match pending with
  | none => start b
  | some p =>
    if p.low ≤ b ∧ b ≤ p.high then
      let code := p.code * 64 + b % 64
      if p.due = 1 then ([some (Char.ofNat code)], none)
      else ([], some ⟨code, p.due - 1, 0x80, 0xBF⟩)
    else
      let (units, next) := start b
      (none :: units, next)

/-- The characters of a byte sequence, `none` for each unreadable unit. -/
def units : Option Pending → List UInt8 → List (Option Char)
  | none, [] => []
  | some _, [] => [none]
  | pending, b :: rest =>
    let (out, next) := step pending b.toNat
    out ++ units next rest

/-- The text with U+FFFD for each unreadable unit. -/
def decodeLossy (bytes : List UInt8) : String :=
  String.ofList ((units none bytes).map fun unit => unit.getD '\uFFFD')

/-- The text, if every unit is readable. -/
def decode? (bytes : List UInt8) : Option String :=
  ((units none bytes).mapM id).map String.ofList

end Utf8
end LiveConfig
