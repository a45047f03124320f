import LiveConfig.Json.Basic
import LiveConfig.Text.Utf8

/-!
# JSON documents as they are written

A document keeps repeated members, in the order of the text.  A part that is
grammatical but denotes no value is `unreadable`: a number past the greatest
double, a string with an unpaired surrogate or broken UTF-8, an object with such
a key, and a list or object at nesting depth 128.  Such a part spoils a document
only for a reader who looks at it; members that nobody asks for may hold one.
-/

namespace LiveConfig

inductive Document
  | null
  | bool (value : Bool)
  | int (value : Int)
  | float (value : Double)
  | str (value : String)
  | arr (items : List Document)
  | obj (members : List (String × Document))
  | unreadable
  deriving Inhabited

namespace Document

mutual

/-- The value of a document without unreadable parts, members as written. -/
def asWritten? : Document → Option Json
  | null => some .null
  | bool b => some (.bool b)
  | int i => some (.int i)
  | float d => some (.float d)
  | str s => some (.str s)
  | arr items => (itemsAsWritten? items).map .arr
  | obj members => (membersAsWritten? members).map .obj
  | unreadable => none

def itemsAsWritten? : List Document → Option (List Json)
  | [] => some []
  | x :: xs => do return (← asWritten? x) :: (← itemsAsWritten? xs)

def membersAsWritten? : List (String × Document) → Option (List (String × Json))
  | [] => some []
  | (k, x) :: xs => do return (k, ← asWritten? x) :: (← membersAsWritten? xs)

end

/-- The normal value of a document without unreadable parts. -/
def value? (document : Document) : Option Json := document.asWritten?.map Json.normalize

/-! ## Numbers -/

/-- `significand * 10 ^ exponent`, by one multiplication or by divisions of
doubles; none where it is past the greatest double. -/
def scaleDouble (negative : Bool) (significand : Nat) (exponent : Int) : Option Double :=
  let power (n : Nat) : Double := Double.ofDecimal false 1 n
  let signed (d : Double) : Double := if negative then d.neg else d
  let rec shrink : Nat → Double → Nat → Double
    | 0, d, _ => d
    | fuel + 1, d, n =>
      if n ≤ 308 then d.div (power n)
      else if d.magnitude = 0 then d
      else shrink fuel (d.div (power 308)) (n - 308)
  let start := Double.ofInt significand
  if exponent < 0 then some (signed (shrink 5 start exponent.natAbs))
  else if exponent ≤ 308 then
    let d := start.mul (power exponent.toNat)
    if d.isInfinite then none else some (signed d)
  else if significand = 0 then some (signed start)
  else none

/-- Reads digits into a significand for as long as it stays below `2 ^ 64`.
Answers it, the count of digits read, and the digits left over. -/
def significand : Nat → Nat → List Char → Nat × Nat × List Char
  | n, count, [] => (n, count, [])
  | n, count, c :: rest =>
    let next := 10 * n + digitValue c
    if next < 0x10000000000000000 then significand next (count + 1) rest else (n, count, c :: rest)

/-- The number written as sign, whole digits, digits after a point, and exponent. -/
def number (negative : Bool) (whole : List Char) (places : Option (List Char))
    (exponent : Option Int) : Document :=
  let (n, _, left) := significand 0 0 whole
  match places, exponent, left with
  | none, none, [] =>
    if !negative then int n
    else if n = 0 ∨ 0x8000000000000000 < n then float (Double.ofInt n).neg
    else int (-(n : Int))
  | _, _, _ =>
    let (m, count, _) := significand n 0 (places.getD [])
    let shift : Int := (left.length : Int) - count
    let limit : Int := 0x7FFFFFFF
    match exponent with
    | none => ((scaleDouble negative m shift).map float).getD unreadable
    | some e =>
      if limit < e ∧ m ≠ 0 then unreadable
      else if limit < e ∨ e < -limit then float (Double.zero negative)
      else ((scaleDouble negative m (shift + e)).map float).getD unreadable

/-! ## The text -/

def isSpace (b : UInt8) : Bool := b == 0x20 || b == 0x0A || b == 0x0D || b == 0x09

def skipSpace (input : List UInt8) : List UInt8 := input.dropWhile isSpace

def isDigitByte (b : UInt8) : Bool := 0x30 ≤ b && b ≤ 0x39

def digits (input : List UInt8) : List Char × List UInt8 :=
  ((input.takeWhile isDigitByte).map fun b => Char.ofNat b.toNat, input.dropWhile isDigitByte)

/-- Whole digits without a superfluous zero, then optionally places, then
optionally an exponent. -/
def parseNumber (negative : Bool) (input : List UInt8) : Option (Document × List UInt8) :=
  let (whole, rest) := digits input
  if whole = [] ∨ (whole.head? = some '0' ∧ 1 < whole.length) then none
  else
    let places : Option (Option (List Char) × List UInt8) :=
      match rest with
      | 0x2E :: r =>
        let (ps, r) := digits r
        if ps = [] then none else some (some ps, r)
      | r => some (none, r)
    match places with
    | none => none
    | some (ps, rest) =>
      let scaled (sign : Int) (r : List UInt8) : Option (Document × List UInt8) :=
        let (es, r) := digits r
        if es = [] then none
        else some (number negative whole ps (some (sign * natOfDigits es)), r)
      match rest with
      | b :: r =>
        if b = 0x65 ∨ b = 0x45 then
          match r with
          | 0x2B :: r => scaled 1 r
          | 0x2D :: r => scaled (-1) r
          | r => scaled 1 r
        else some (number negative whole ps none, rest)
      | [] => some (number negative whole ps none, rest)

def hexValue? (b : UInt8) : Option Nat :=
  let n := b.toNat
  if 0x30 ≤ n ∧ n ≤ 0x39 then some (n - 0x30)
  else if 0x41 ≤ n ∧ n ≤ 0x46 then some (n - 0x37)
  else if 0x61 ≤ n ∧ n ≤ 0x66 then some (n - 0x57)
  else none

def hex4? (a b c d : UInt8) : Option Nat := do
  return (((← hexValue? a) * 16 + (← hexValue? b)) * 16 + (← hexValue? c)) * 16 + (← hexValue? d)

/-- A piece of a string literal: bytes as they stand, or a UTF-16 unit. -/
inductive Piece
  | byte (b : UInt8)
  | unit (n : Nat)

/-- The pieces up to the closing quotation mark, last first, and the rest. -/
def parsePieces (done : List Piece) : List UInt8 → Option (List Piece × List UInt8)
  | [] => none
  | 0x22 :: rest => some (done, rest)
  | 0x5C :: 0x75 :: a :: b :: c :: d :: rest =>
    match hex4? a b c d with
    | some n => parsePieces (.unit n :: done) rest
    | none => none
  | 0x5C :: e :: rest =>
    let plain (b : UInt8) := parsePieces (.byte b :: done) rest
    match e with
    | 0x22 => plain 0x22
    | 0x5C => plain 0x5C
    | 0x2F => plain 0x2F
    | 0x62 => plain 0x08
    | 0x66 => plain 0x0C
    | 0x6E => plain 0x0A
    | 0x72 => plain 0x0D
    | 0x74 => plain 0x09
    | _ => none
  | b :: rest => if b < 0x20 then none else parsePieces (.byte b :: done) rest

/-- The bytes of the pieces; surrogates must come in pairs. -/
def pieceBytes : List Piece → Option (List UInt8)
  | [] => some []
  | .byte b :: rest => (pieceBytes rest).map (b :: ·)
  | .unit h :: .unit l :: rest =>
    if 0xD800 ≤ h ∧ h < 0xDC00 then
      if 0xDC00 ≤ l ∧ l < 0xE000 then
        let c := Char.ofNat (0x10000 + (h - 0xD800) * 0x400 + (l - 0xDC00))
        (pieceBytes rest).map (String.utf8EncodeChar c ++ ·)
      else none
    else if 0xDC00 ≤ h ∧ h < 0xE000 then none
    else (pieceBytes (.unit l :: rest)).map (String.utf8EncodeChar (Char.ofNat h) ++ ·)
  | .unit h :: rest =>
    if 0xD800 ≤ h ∧ h < 0xE000 then none
    else (pieceBytes rest).map (String.utf8EncodeChar (Char.ofNat h) ++ ·)

/-- The text of a string literal whose opening mark is read; `none` inside for one
that denotes no text. -/
def parseString (input : List UInt8) : Option (Option String × List UInt8) :=
  match parsePieces [] input with
  | none => none
  | some (ps, rest) => some ((pieceBytes ps.reverse).bind Utf8.decode?, rest)

def word (text : String) (document : Document) (input : List UInt8) :
    Option (Document × List UInt8) :=
  let bytes := Utf8.encode text
  if bytes.isPrefixOf input then some (document, input.drop bytes.length) else none

/-- The depth at which a list or object is unreadable. -/
def depthLimit : Nat := 128

mutual

/-- One value, at the given depth of nesting, and the rest of the input. -/
def parseValue : Nat → Nat → List UInt8 → Option (Document × List UInt8)
  | 0, _, _ => none
  | fuel + 1, depth, input =>
    match skipSpace input with
    | 0x6E :: rest => word "ull" null rest
    | 0x74 :: rest => word "rue" (bool true) rest
    | 0x66 :: rest => word "alse" (bool false) rest
    | 0x22 :: rest => (parseString rest).map fun (s, r) => ((s.map str).getD unreadable, r)
    | 0x2D :: rest => parseNumber true rest
    | 0x5B :: rest =>
      match skipSpace rest with
      | 0x5D :: rest => some (if depth + 1 < depthLimit then arr [] else unreadable, rest)
      | rest =>
        match parseItems fuel (depth + 1) [] rest with
        | none => none
        | some (items, rest) =>
          some (if depth + 1 < depthLimit then arr items else unreadable, rest)
    | 0x7B :: rest =>
      match skipSpace rest with
      | 0x7D :: rest => some (if depth + 1 < depthLimit then obj [] else unreadable, rest)
      | rest =>
        match parseMembers fuel (depth + 1) [] true rest with
        | none => none
        | some (members, readable, rest) =>
          some (if depth + 1 < depthLimit ∧ readable then obj members else unreadable, rest)
    | b :: rest => if isDigitByte b then parseNumber false (b :: rest) else none
    | [] => none

/-- The items of a list from one of its items on, those before it in reverse. -/
def parseItems : Nat → Nat → List Document → List UInt8 → Option (List Document × List UInt8)
  | 0, _, _, _ => none
  | fuel + 1, depth, done, input =>
    match parseValue fuel depth input with
    | none => none
    | some (item, rest) =>
      match skipSpace rest with
      | 0x2C :: rest => parseItems fuel depth (item :: done) rest
      | 0x5D :: rest => some ((item :: done).reverse, rest)
      | _ => none

/-- The members of an object from one of its keys on, and whether all keys are readable. -/
def parseMembers : Nat → Nat → List (String × Document) → Bool → List UInt8 →
    Option (List (String × Document) × Bool × List UInt8)
  | 0, _, _, _, _ => none
  | fuel + 1, depth, done, readable, input =>
    match skipSpace input with
    | 0x22 :: rest =>
      match parseString rest with
      | none => none
      | some (key, rest) =>
        match skipSpace rest with
        | 0x3A :: rest =>
          match parseValue fuel depth rest with
          | none => none
          | some (item, rest) =>
            let done := (key.getD "", item) :: done
            let readable := readable && key.isSome
            match skipSpace rest with
            | 0x2C :: rest => parseMembers fuel depth done readable rest
            | 0x7D :: rest => some (done.reverse, readable, rest)
            | _ => none
        | _ => none
    | _ => none

end

/-- The document of a byte sequence that holds one value and white space. -/
def parse? (input : List UInt8) : Option Document :=
  match parseValue (2 * input.length + 2) 0 input with
  | none => none
  | some (document, rest) => if (skipSpace rest).isEmpty then some document else none

end Document

namespace Json

mutual

/-- A value as a document. -/
def toDocument : Json → Document
  | null => .null
  | bool b => .bool b
  | int i => .int i
  | float d => .float d
  | str s => .str s
  | arr items => .arr (toDocumentItems items)
  | obj members => .obj (toDocumentMembers members)

def toDocumentItems : List Json → List Document
  | [] => []
  | x :: xs => toDocument x :: toDocumentItems xs

def toDocumentMembers : List (String × Json) → List (String × Document)
  | [] => []
  | (k, x) :: xs => (k, toDocument x) :: toDocumentMembers xs

end

/-- The normal value of a text. -/
def parse? (text : String) : Option Json :=
  (Document.parse? (Utf8.encode text)).bind Document.value?

end Json

end LiveConfig
