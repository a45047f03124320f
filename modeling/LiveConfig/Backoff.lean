import LiveConfig.Duration

/-!
# Delays between attempts

A delay doubles after each attempt up to a longest one, and the wait for a delay is
shorter than it by a random part.  A delay that cannot be doubled has none after it, also
where its double would be cut down to the longest one.
-/

namespace LiveConfig

structure Backoff where
  initial : Duration := .ofMillis 1000
  /-- The longest delay; an initial one above it stays as it is. -/
  longest : Duration := .ofMillis 60000
  /-- What a random part of a delay stays below. -/
  jitter : Duration := .ofMillis 500
  deriving DecidableEq, Inhabited

namespace Backoff

/-- The bound of all delays. -/
def bound (backoff : Backoff) : Duration := max backoff.initial backoff.longest

/-- The delay that follows a delay, unless that one cannot be doubled. -/
def next? (backoff : Backoff) (delay : Duration) : Option Duration :=
  delay.double?.map fun twice => min twice backoff.bound

/-- The wait for a delay, given a random number. -/
def wait (backoff : Backoff) (delay : Duration) (draw : Nat) : Duration :=
  let spread := (min backoff.jitter delay).nanos
  if spread = 0 then delay else delay.less (draw % spread)

theorem initial_le_bound (backoff : Backoff) : backoff.initial.nanos ≤ backoff.bound.nanos := by
  rw [bound, Duration.nanos_max]
  exact Nat.le_max_left _ _

theorem next?_eq_none_iff (backoff : Backoff) (delay : Duration) :
    backoff.next? delay = none ↔ delay.double? = none :=
  Option.map_eq_none_iff

theorem nanos_of_next? {backoff : Backoff} {delay next : Duration}
    (h : backoff.next? delay = some next) :
    next.nanos = min (2 * delay.nanos) backoff.bound.nanos := by
  obtain ⟨twice, htwice, rfl⟩ := Option.map_eq_some_iff.mp h
  rw [Duration.nanos_min, Duration.double?_eq_some_iff.mp htwice]

/-- Where the initial and the longest delay can be doubled, so can all delays up to the bound
of these. -/
theorem next?_ne_none {backoff : Backoff} (hinitial : backoff.initial.double? ≠ none)
    (hlongest : backoff.longest.double? ≠ none) {delay : Duration}
    (h : delay.nanos ≤ backoff.bound.nanos) : backoff.next? delay ≠ none := by
  rw [Ne, Duration.double?_eq_none_iff] at hinitial hlongest
  rw [Ne, next?_eq_none_iff, Duration.double?_eq_none_iff]
  rw [bound, Duration.nanos_max] at h
  omega

theorem wait_of_jitter_eq_zero {backoff : Backoff} (h : backoff.jitter = .zero) (delay : Duration)
    (draw : Nat) : backoff.wait delay draw = delay := by
  have hspread : (min backoff.jitter delay).nanos = 0 := by
    rw [h, Duration.nanos_min]
    exact Nat.zero_min _
  simp only [wait, hspread, if_true]

end Backoff
end LiveConfig
