/-!
# Durations

A duration is a number of nanoseconds within the seconds that 64 bits can count.  As
text it is read and compared in whole milliseconds (`Duration.millis`).  Its wire form is
the nearest number of milliseconds, which reads back as the duration only where that is a
whole number of them (`Duration.IsWhole`).
-/

namespace LiveConfig

@[ext]
structure Duration where
  nanos : Nat
  lt : nanos < 0x10000000000000000 * 1000000000
  deriving DecidableEq

namespace Duration

def ofMillis (ms : UInt64) : Duration :=
  ⟨ms.toNat * 1000000, by have := ms.toNat_lt; omega⟩

def zero : Duration := .ofMillis 0

instance : Inhabited Duration := ⟨zero⟩

/-- The longest duration there is. -/
def longest : Duration := ⟨0x10000000000000000 * 1000000000 - 1, by decide⟩

instance : LE Duration := ⟨fun a b => a.nanos ≤ b.nanos⟩

instance : DecidableLE Duration := fun a b => inferInstanceAs (Decidable (a.nanos ≤ b.nanos))

instance : Min Duration := minOfLe

instance : Max Duration := maxOfLe

/-- The whole milliseconds in the duration. -/
def millis (d : Duration) : Nat := d.nanos / 1000000

/-- The nearest number of milliseconds, a half rounded up. -/
def wireMillis (d : Duration) : Nat := (d.nanos + 500000) / 1000000

/-- Whether the duration has a wire form: the number there has 64 bits. -/
def isWritable (d : Duration) : Bool := d.wireMillis < 0x10000000000000000

/-- Whether the duration is a whole number of milliseconds that 64 bits can hold. -/
def IsWhole (d : Duration) : Prop := ∃ ms : UInt64, d = .ofMillis ms

/-- Twice the duration; none if that is longer than any. -/
def double? (d : Duration) : Option Duration :=
  if h : 2 * d.nanos < 0x10000000000000000 * 1000000000 then some ⟨2 * d.nanos, h⟩ else none

/-- The duration without some of its nanoseconds. -/
def less (d : Duration) (nanos : Nat) : Duration := ⟨d.nanos - nanos, by have := d.lt; omega⟩

/-- The nanoseconds in a unit, with as many places as they need. -/
def inUnit (nanos unit : Nat) (name : String) : String :=
  let padded := (Nat.toDigits 10 (unit + nanos % unit)).drop 1
  let kept := (padded.reverse.dropWhile (· == '0')).reverse
  let fraction := if kept = [] then "" else String.ofList ('.' :: kept)
  toString (nanos / unit) ++ fraction ++ name

/-- The duration in the greatest unit that it fills. -/
def text (d : Duration) : String :=
  if 1000000000 ≤ d.nanos then inUnit d.nanos 1000000000 "s"
  else if 1000000 ≤ d.nanos then inUnit d.nanos 1000000 "ms"
  else if 1000 ≤ d.nanos then inUnit d.nanos 1000 "µs"
  else inUnit d.nanos 1 "ns"

@[simp]
theorem nanos_ofMillis (ms : UInt64) : (ofMillis ms).nanos = ms.toNat * 1000000 := rfl

@[simp]
theorem nanos_min (a b : Duration) : (min a b).nanos = min a.nanos b.nanos := by
  change (if a.nanos ≤ b.nanos then a else b).nanos = _
  split <;> omega

@[simp]
theorem nanos_max (a b : Duration) : (max a b).nanos = max a.nanos b.nanos := by
  change (if a.nanos ≤ b.nanos then b else a).nanos = _
  split <;> omega

theorem double?_eq_some_iff {d twice : Duration} :
    d.double? = some twice ↔ twice.nanos = 2 * d.nanos := by
  unfold double?
  split
  · rw [Option.some.injEq, Duration.ext_iff]
    exact eq_comm
  · have := twice.lt
    simp only [reduceCtorEq, false_iff]
    omega

theorem double?_eq_none_iff {d : Duration} : d.double? = none ↔ longest.nanos < 2 * d.nanos := by
  unfold double? longest
  split
  · simp only [reduceCtorEq, false_iff]
    omega
  · simp only [true_iff]
    omega

@[simp]
theorem millis_ofMillis (ms : UInt64) : (ofMillis ms).millis = ms.toNat :=
  Nat.mul_div_cancel _ (by decide)

@[simp]
theorem wireMillis_ofMillis (ms : UInt64) : (ofMillis ms).wireMillis = ms.toNat := by
  rw [wireMillis, nanos_ofMillis]
  omega

theorem isWhole_ofMillis (ms : UInt64) : (ofMillis ms).IsWhole := ⟨ms, rfl⟩

theorem isWritable_ofMillis (ms : UInt64) : (ofMillis ms).isWritable = true := by
  rw [isWritable, wireMillis_ofMillis, decide_eq_true_iff]
  exact ms.toNat_lt

end Duration
end LiveConfig
