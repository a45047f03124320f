/-!
# Binary64 numbers

A double is its 64-bit word.  Every operation here is exact arithmetic on
naturals followed by one rounding to the nearest double, half to even, so that
nothing depends on the machine's floating point unit.  Equality of numbers
(`Double.eq`) is not equality of words: the two zeros are equal and a NaN
differs from itself.
-/

namespace LiveConfig

/-- The weight of the sign in a word. -/
def signBit : Nat := 0x8000000000000000

/-- The weight of the exponent's last bit in a word, the least significand of a
normal number. -/
def exponentUnit : Nat := 0x10000000000000

/-- A binary64 number, by its bits. -/
structure Double where
  bits : UInt64
  deriving DecidableEq, Inhabited

namespace Double

def isNegative (d : Double) : Bool := signBit ≤ d.bits.toNat

/-- The word without its sign. -/
def magnitude (d : Double) : Nat := d.bits.toNat % signBit

/-- The word of positive infinity; a greater magnitude is a NaN. -/
def infinityWord : Nat := 0x7FF * exponentUnit

def isNaN (d : Double) : Bool := infinityWord < d.magnitude

def isInfinite (d : Double) : Bool := d.magnitude == infinityWord

def isFinite (d : Double) : Bool := d.magnitude < infinityWord

def ofMagnitude (negative : Bool) (magnitude : Nat) : Double :=
  ⟨UInt64.ofNat (if negative then signBit + magnitude else magnitude)⟩

def zero (negative : Bool) : Double := ofMagnitude negative 0

def infinity (negative : Bool) : Double := ofMagnitude negative infinityWord

def nan (negative : Bool) : Double := ofMagnitude negative (infinityWord + 0x8000000000000)

/-- For a finite double, `m` and `e` with absolute value `m * 2 ^ (e - 1074)`. -/
def mantissaExponent (d : Double) : Nat × Nat :=
  let field := d.magnitude / exponentUnit
  let fraction := d.magnitude % exponentUnit
  if field = 0 then (fraction, 0) else (exponentUnit + fraction, field - 1)

/-- The quotient rounded to the nearest natural, half to even. -/
def divNearestEven (num den : Nat) : Nat :=
  let q := num / den
  let r := num % den
  if 2 * r < den then q
  else if den < 2 * r then q + 1
  else if q % 2 = 0 then q else q + 1

/-- The double nearest to `num / den`, half to even; a value past the greatest
finite double is infinite. -/
def ofRatio (negative : Bool) (num den : Nat) : Double :=
  if num = 0 then zero negative
  else
    -- scale : the exponent at which the quotient has 53 bits, or the least one
    let guess : Int := (Nat.log2 num : Int) - Nat.log2 den - 52
    let scaled (e : Int) : Nat × Nat := (num <<< (-e).toNat, den <<< e.toNat)
    let fits (e : Int) : Bool := let (n, d) := scaled e; exponentUnit * d ≤ n
    let e := if fits guess then guess else guess - 1
    let e := max e (-1074)
    let (n, d) := scaled e
    let magnitude := (e + 1074).toNat * exponentUnit + divNearestEven n d
    if infinityWord ≤ magnitude then infinity negative else ofMagnitude negative magnitude

/-- The double nearest to an integer. -/
def ofInt (i : Int) : Double := ofRatio (i < 0) i.natAbs 1

/-- The double nearest to `digits * 10 ^ exponent`. -/
def ofDecimal (negative : Bool) (digits : Nat) (exponent : Int) : Double :=
  if digits = 0 then zero negative
  else if 400 < exponent then infinity negative
  else if exponent + (Nat.log2 digits : Int) < -1200 then zero negative
  else ofRatio negative (digits * Nat.pow 10 exponent.toNat) (Nat.pow 10 (-exponent).toNat)

def neg (d : Double) : Double := ofMagnitude (!d.isNegative) d.magnitude

/-- The product of two finite doubles. -/
def mul (a b : Double) : Double :=
  let (m, e) := a.mantissaExponent
  let (n, f) := b.mantissaExponent
  ofRatio (a.isNegative != b.isNegative) ((m * n) <<< (e + f)) (1 <<< 2148)

/-- The quotient of two finite doubles, the second of them not zero. -/
def div (a b : Double) : Double :=
  let (m, e) := a.mantissaExponent
  let (n, f) := b.mantissaExponent
  ofRatio (a.isNegative != b.isNegative) (m <<< e) (n <<< f)

/-- The position of a number that is not a NaN in the order of the reals, both
zeros at one place. -/
def rank (d : Double) : Int := if d.isNegative then -(d.magnitude : Int) else d.magnitude

/-- The order of two numbers; none where one of them is a NaN. -/
def compare? (a b : Double) : Option Ordering :=
  if a.isNaN || b.isNaN then none else some (compare a.rank b.rank)

/-- Equality of numbers. -/
def eq (a b : Double) : Bool := !a.isNaN && !b.isNaN && a.rank == b.rank

theorem eq_comm (a b : Double) : a.eq b = b.eq a := by
  rw [Bool.eq_iff_iff]
  simp only [eq, Bool.and_eq_true, beq_iff_eq]
  constructor <;> rintro ⟨⟨ha, hb⟩, hrank⟩ <;> exact ⟨⟨hb, ha⟩, hrank.symm⟩

theorem eq_self_iff (a : Double) : a.eq a = true ↔ a.isNaN = false := by
  simp [eq]

end Double

end LiveConfig
