import LiveConfig.Url.Basic
import LiveConfig.Url.Domain

/-!
# Hosts

The host of a special URL is an address of version 6 in brackets, an address of
version 4 if its last label is a number, or a domain, which is written in ASCII.
Hosts of other schemes are taken as they are.
-/

namespace LiveConfig
namespace Host

/-! ## Addresses of version 4 -/

/-- A number in decimal, in octal after a zero, or in hexadecimal after `0x`. -/
def ipv4Number? (text : List Char) : Option Nat :=
  let read (radix : Nat) (digits : List Char) : Option Nat :=
    let valid (c : Char) : Bool := (Url.hexDigit? c).any (· < radix)
    if digits.all valid then
      some (digits.foldl (fun n c => radix * n + (Url.hexDigit? c).getD 0) 0)
    else none
  match text with
  | [] => none
  | '0' :: 'x' :: digits => read 16 digits
  | '0' :: 'X' :: digits => read 16 digits
  | '0' :: d :: digits => read 8 (d :: digits)
  | digits => read 10 digits

/-- The labels of a domain without an empty one at the end. -/
def labels (domain : List Char) : List (List Char) :=
  let all := Text.splitChars '.' domain
  if 1 < all.length ∧ all.getLast? = some [] then all.dropLast else all

def endsInNumber (domain : List Char) : Bool :=
  match (labels domain).getLast? with
  | some [] | none => false
  | some last => last.all isDigit || (ipv4Number? last).isSome

def ipv4? (domain : List Char) : Option Nat := do
  let parts := labels domain
  if 4 < parts.length then none
  let numbers ← parts.mapM ipv4Number?
  let last ← numbers.getLast?
  let leading := numbers.dropLast
  if leading.all (· < 256) ∧ last < Nat.pow 256 (4 - leading.length) then
    some ((leading.zipIdx.foldl (fun n (x, i) => n + x * Nat.pow 256 (3 - i)) 0) + last)
  else none

def ipv4Text (n : Nat) : String :=
  String.intercalate "." ((List.range 4).map fun i => toString (n / Nat.pow 256 (3 - i) % 256))

/-! ## Addresses of version 6 -/

/-- One piece: at most four hexadecimal digits. -/
def ipv6Piece? (text : List Char) : Option Nat :=
  if text ≠ [] ∧ text.length ≤ 4 ∧ text.all (fun c => (Url.hexDigit? c).isSome) then
    some (text.foldl (fun n c => 16 * n + (Url.hexDigit? c).getD 0) 0)
  else none

/-- Two pieces from an address of version 4 with four decimal numbers. -/
def ipv6Tail? (text : List Char) : Option (List Nat) :=
  match Text.splitChars '.' text with
  | [a, b, c, d] => do
    let number (t : List Char) : Option Nat :=
      let plain := t.length = 1 ∨ t.head? ≠ some '0'
      if t ≠ [] ∧ t.all isDigit ∧ natOfDigits t < 256 ∧ plain then some (natOfDigits t) else none
    return [256 * (← number a) + (← number b), 256 * (← number c) + (← number d)]
  | _ => none

/-- Pieces between colons; the last may be an address of version 4 if `tail`. -/
def ipv6Pieces? (tail : Bool) (text : List Char) : Option (List Nat) :=
  if text = [] then some []
  else
    let rec go : List (List Char) → Option (List Nat)
      | [] => some []
      | [last] =>
        match ipv6Piece? last with
        | some n => some [n]
        | none => if tail then ipv6Tail? last else none
      | piece :: rest => do return (← ipv6Piece? piece) :: (← go rest)
    go (Text.splitChars ':' text)

/-- Splits at the first double colon. -/
def splitDoubleColon : List Char → Option (List Char × List Char)
  | ':' :: ':' :: rest => some ([], rest)
  | c :: rest => (splitDoubleColon rest).map fun (a, b) => (c :: a, b)
  | [] => none

def ipv6? (text : List Char) : Option (List Nat) :=
  match splitDoubleColon text with
  | none => do
    let pieces ← ipv6Pieces? true text
    if pieces.length = 8 then some pieces else none
  | some (before, after) => do
    let left ← ipv6Pieces? false before
    let right ← ipv6Pieces? true after
    let zeros := 8 - (left.length + right.length)
    if zeros = 0 then none else some (left ++ List.replicate zeros 0 ++ right)

/-- The start and length of the first of the longest runs of zeros. -/
def longestZeros (pieces : List Nat) : Nat × Nat :=
  let run (i : Nat) : Nat := ((pieces.drop i).takeWhile (· == 0)).length
  (List.range pieces.length).foldl
    (fun best i => if best.2 < run i then (i, run i) else best) (0, 0)

def ipv6Text (pieces : List Nat) : String :=
  let piece (n : Nat) : String := String.ofList (Nat.toDigits 16 n)
  let join (ps : List Nat) : String := String.intercalate ":" (ps.map piece)
  let (start, length) := longestZeros pieces
  if length < 2 then "[" ++ join pieces ++ "]"
  else "[" ++ join (pieces.take start) ++ "::" ++ join (pieces.drop (start + length)) ++ "]"

/-! ## Hosts of URLs -/

/-- The text of a special URL's host. -/
def special? (text : List Char) : Option String :=
  match text with
  | '[' :: rest =>
    if rest.getLast? = some ']' then (ipv6? rest.dropLast).map ipv6Text else none
  | text => do
    let domain ← Domain.ascii? (← Utf8.decode? (Url.percentDecode text)).toList
    if domain = [] then none
    else if endsInNumber domain then (ipv4? domain).map ipv4Text
    else some (String.ofList domain)

/-- The text of another URL's host. -/
def other? (text : List Char) : Option String :=
  match text with
  | '[' :: rest =>
    if rest.getLast? = some ']' then (ipv6? rest.dropLast).map ipv6Text else none
  | text =>
    let forbidden := ['\x00', '\t', '\n', '\r', ' ', '#', '/', ':', '<', '>', '?', '@', '[', '\\',
      ']', '^', '|']
    if text.any forbidden.contains then none
    else some (Url.EncodeSet.controls.encode text)

end Host
end LiveConfig
