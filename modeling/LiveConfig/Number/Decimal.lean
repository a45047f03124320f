import LiveConfig.Number.Double

/-!
# Decimal texts of numbers

Reading: `Double.ofText?` takes the usual decimal notations and the names of the
infinities and NaN.  Writing: the digits are the fewest that read back as the
same double and, among those, the nearest to it (`Double.shortest`).
`Double.toText` writes them without an exponent.
-/

namespace LiveConfig

def isDigit (c : Char) : Bool := '0' ≤ c && c ≤ '9'

def digitValue (c : Char) : Nat := c.toNat - '0'.toNat

/-- The number that a run of decimal digits denotes. -/
def natOfDigits (digits : List Char) : Nat :=
  digits.foldl (fun n c => 10 * n + digitValue c) 0

/-- An optional sign, then at least one digit and nothing else. -/
def intOfText? (text : List Char) : Option Int :=
  let read (digits : List Char) : Option Nat :=
    if digits ≠ [] ∧ digits.all isDigit then some (natOfDigits digits) else none
  match text with
  | '-' :: digits => (read digits).map fun n => -(n : Int)
  | '+' :: digits => (read digits).map Int.ofNat
  | digits => (read digits).map Int.ofNat

/-- Whether an integer is in the signed range of 64 bits. -/
def isInt64 (i : Int) : Bool := -0x8000000000000000 ≤ i && i < 0x8000000000000000

/-- As `intOfText?`, for the integers of 64 bits. -/
def int64OfText? (text : List Char) : Option Int64 :=
  match intOfText? text with
  | some i => if isInt64 i then some (Int64.ofInt i) else none
  | none => none

/-- An optional plus sign, then digits that denote a natural below `2 ^ 64`. -/
def uint64OfText? (text : List Char) : Option UInt64 :=
  match text with
  | '-' :: _ => none
  | _ =>
    match intOfText? text with
    | some i => if i < 0x10000000000000000 then some (UInt64.ofNat i.toNat) else none
    | none => none

namespace Double

/-- Digits, then optionally a point with digits, then optionally an exponent; a
digit stands before the point or after it. -/
def ofPlainText? (negative : Bool) (text : List Char) : Option Double :=
  let whole := text.takeWhile isDigit
  let rest := text.dropWhile isDigit
  let (places, rest) :=
    match rest with
    | '.' :: r => (r.takeWhile isDigit, r.dropWhile isDigit)
    | r => ([], r)
  let exponent : Option Int :=
    match rest with
    | [] => some 0
    | c :: r => if c = 'e' ∨ c = 'E' then intOfText? r else none
  match exponent with
  | none => none
  | some exponent =>
    if whole = [] ∧ places = [] then none
    else some (ofDecimal negative (natOfDigits (whole ++ places)) (exponent - places.length))

/-- The double nearest to the number that `text` denotes. -/
def ofText? (text : List Char) : Option Double :=
  let unsigned (negative : Bool) (text : List Char) : Option Double :=
    let word := text.map Char.toLower
    if word = "inf".toList ∨ word = "infinity".toList then some (infinity negative)
    else if word = "nan".toList then some (nan negative)
    else ofPlainText? negative text
  match text with
  | '-' :: rest => unsigned true rest
  | '+' :: rest => unsigned false rest
  | rest => unsigned false rest

/-- How a tie between the two nearest digit strings is broken. -/
inductive Tie
  | toEven
  | up

/-- A number `digits * 10 ^ exponent`. -/
structure Scaled where
  digits : Nat
  exponent : Int

/-- Drops the zeros at the end of the digits. -/
def Scaled.trim : Nat → Scaled → Scaled
  | 0, s => s
  | fuel + 1, s =>
    if s.digits ≠ 0 ∧ s.digits % 10 = 0 then
      Scaled.trim fuel ⟨s.digits / 10, s.exponent + 1⟩
    else s

/-- The count of decimal digits. -/
def decimalLength (n : Nat) : Nat := (Nat.toDigits 10 n).length

/-- Of the decimals with step `10 ^ place`, the neighbours of `value / unit` that lie
in the interval, and of those the nearer. -/
def nearestOnGrid (tie : Tie) (value low high unit : Nat) (closed : Bool) (place : Int) :
    Option Nat :=
  -- all quantities over one denominator, the step a natural number of its units
  let up := Nat.pow 10 (-place).toNat
  let step := unit * Nat.pow 10 place.toNat
  let v := value * up
  let inside (n : Nat) : Bool :=
    if closed then low * up ≤ n * step && n * step ≤ high * up
    else low * up < n * step && n * step < high * up
  let below := v / step
  let above := below + 1
  match inside below, inside above with
  | false, false => none
  | true, false => some below
  | false, true => some above
  | true, true =>
    let down := v - below * step
    let rise := above * step - v
    if down < rise then some below
    else if rise < down then some above
    else match tie with
      | .up => some above
      | .toEven => if below % 2 = 0 then some below else some above

/-- The fewest digits that read back as the finite number `d`, the nearest of those. -/
def shortest (tie : Tie) (d : Double) : Scaled :=
  let (m, e) := d.mantissaExponent
  if m = 0 then ⟨0, 0⟩
  else
    -- in units of a quarter of the last place: the value and the ends of its interval
    let value := (4 * m) <<< e
    let high := (4 * m + 2) <<< e
    let low := (if m = exponentUnit ∧ e ≠ 0 then 4 * m - 1 else 4 * m - 2) <<< e
    let unit := 4 <<< 1074
    let closed := m % 2 = 0
    -- the exponent of the first digit
    let first : Int :=
      let whole := value / unit
      if whole ≠ 0 then (decimalLength whole : Int) - 1
      else
        let scaled := value * Nat.pow 10 330 / unit
        (decimalLength scaled : Int) - 331
    let rec search : Nat → Int → Scaled
      | 0, place =>
        let scaled := value * Nat.pow 10 (-place).toNat
        ⟨divNearestEven scaled (unit * Nat.pow 10 place.toNat), place⟩
      | fuel + 1, place =>
        match nearestOnGrid tie value low high unit closed place with
        | some n => ⟨n, place⟩
        | none => search fuel (place - 1)
    (search 17 first).trim 400

/-- Digits and exponent written positionally, with zeros where needed. -/
def positional (s : Scaled) : String :=
  let digits := Nat.toDigits 10 s.digits
  if 0 ≤ s.exponent then
    String.ofList (digits ++ List.replicate s.exponent.toNat '0')
  else
    let places := (-s.exponent).toNat
    let padded := List.replicate (places + 1 - digits.length) '0' ++ digits
    let whole := padded.take (padded.length - places)
    String.ofList (whole ++ '.' :: padded.drop (padded.length - places))

/-- The shortest decimal, never with an exponent. -/
def toText (d : Double) : String :=
  if d.isNaN then "NaN"
  else
    let body := if d.isInfinite then "inf" else positional (d.shortest .up)
    if d.isNegative then "-" ++ body else body

/-- The shortest decimal of a finite number as a JSON number: with a point or an
exponent, which is used outside of `10 ^ -5 ≤ |d| < 10 ^ 16`. -/
def toJsonText (d : Double) : String :=
  let s := d.shortest .toEven
  let digits := Nat.toDigits 10 s.digits
  let first := s.exponent + digits.length - 1
  let body :=
    if s.digits = 0 then "0.0"
    else if -5 ≤ first ∧ first < 16 then
      if 0 ≤ s.exponent then positional s ++ ".0" else positional s
    else
      let mantissa :=
        match digits with
        | [] => []
        | [c] => [c]
        | c :: rest => c :: '.' :: rest
      let sign := if 0 ≤ first then "e+" else "e-"
      String.ofList mantissa ++ sign ++ toString first.natAbs
  if d.isNegative then "-" ++ body else body

end Double

end LiveConfig
