import LiveConfig.Proofs.SyncProtocol
import Mathlib.Algebra.Ring.Nat

/-!
# The waits of a run

Without a random part, each wait of a run is a power of two times the initial delay, up to
the longest delay; the exponent is the number of waits since the delay was last set back
(`Sync.run_waits`).  Fetches and streams share one delay.  The successful fetch sets it back
and is followed by no wait, and a stream that has completed an event sets it back before the
wait that follows it.

The delay is the result of all attempts so far, so the proof is an induction over the
attempts: `Sync.Timed` says of a delay that the waits since the last reset lead to it.
-/

namespace LiveConfig

namespace Backoff

variable {backoff : Backoff} {waits : Nat} {delay next : Duration}

/-- Whether a delay is the one after a number of waits. -/
def IsAfter (backoff : Backoff) (waits : Nat) (delay : Duration) : Prop :=
  delay.nanos = min (backoff.initial.nanos * 2 ^ waits)
    (max backoff.initial.nanos backoff.longest.nanos)

theorem isAfter_zero (backoff : Backoff) : backoff.IsAfter 0 backoff.initial := by
  rw [IsAfter, pow_zero, mul_one]
  exact (min_eq_left (le_max_left _ _)).symm

theorem IsAfter.succ (h : backoff.IsAfter waits delay) (hnext : backoff.next? delay = some next) :
    backoff.IsAfter (waits + 1) next := by
  rw [IsAfter] at h ⊢
  rw [nanos_of_next? hnext, bound, Duration.nanos_max, h, pow_succ, ← mul_assoc]
  omega

end Backoff

namespace SyncEvent

def duration? : SyncEvent → Option Duration
  | wait duration => some duration
  | _ => none

/-- How long a run waits, one time after another. -/
def waits (events : List SyncEvent) : List Duration := events.filterMap duration?

theorem waits_append (events more : List SyncEvent) :
    waits (events ++ more) = waits events ++ waits more :=
  List.filterMap_append

theorem waits_requests_append (requests : List Http.Request) (rest : List SyncEvent) :
    waits (requests.map .request ++ rest) = waits rest := by
  have hnone : waits (requests.map .request) = [] := by
    simp [waits, List.filterMap_map, Function.comp_def, duration?]
  rw [waits_append, hnone, List.nil_append]

theorem waits_deliveries_append (history : History) (rest : List SyncEvent) :
    waits (history.map ofDelivery ++ rest) = waits rest := by
  have hnone : waits (history.map ofDelivery) = [] := by
    simp [waits, List.filterMap_map, Function.comp_def, duration?, ofDelivery]
  rw [waits_append, hnone, List.nil_append]

end SyncEvent

namespace Sync

variable {σ : Type} {sync : Sync σ} {state : SyncState σ}

/-! ## What an attempt makes of the delay -/

/-- Whether an attempt sets the delay back: a fetch that gets a batch does, and so does a
stream that completes an event. -/
def Resets (sync : Sync σ) (state : SyncState σ) : Prop :=
  match state.phase with
  | .fetching => ∃ batch, sync.fetchOutcome state = .ok batch
  | .streaming => ∃ answer, (sync.streamRun state).result = .ok answer ∧
      Stream.reading (Stream.bytesOf answer.chunks) ≠ []

theorem resets_of_fetching (h : state.phase = .fetching) :
    sync.Resets state ↔ sync.failure? state = none := by
  rw [Resets, failure?, h]
  cases sync.fetchOutcome state with
  | error failure => simp [Http.failureOf?]
  | ok batch => simp [Http.failureOf?]

theorem resets_of_streaming (sync : Sync σ) (h : state.phase = .streaming) :
    sync.Resets state ↔ (sync.subscription state).received = true := by
  rw [Resets, h, subscription]
  cases (sync.streamRun state).result with
  | error failure => simp [Http.Subscription.ofOpening]
  | ok answer => simp [Http.ofOpening_ok]

theorem not_resets_of_error {error : Error} (h : state.phase = .fetching)
    (herror : sync.error? state = some error) : ¬ sync.Resets state := by
  rw [resets_of_fetching h]
  intro hdone
  simp [error?, hdone] at herror

theorem Repeats.not_resets (hrepeats : sync.Repeats state) (h : state.phase = .fetching) :
    ¬ sync.Resets state := by
  rw [resets_of_fetching h]
  exact hrepeats.again h

theorem Repeats.due_of_resets (hrepeats : sync.Repeats state) (hresets : sync.Resets state) :
    sync.due state = sync.backoff.initial := by
  cases h : state.phase with
  | fetching => exact absurd hresets (hrepeats.not_resets h)
  | streaming =>
      rw [due, h]
      exact if_pos ((sync.resets_of_streaming h).mp hresets)

theorem due_of_kept (hkept : ¬ sync.Resets state) : sync.due state = state.delay := by
  cases h : state.phase with
  | fetching => rw [due, h]
  | streaming =>
      rw [due, h]
      exact if_neg fun hreceived => hkept ((sync.resets_of_streaming h).mpr hreceived)

/-! ## Waits since the last reset -/

/-- Whether the delay was last set back by the `m`-th of the attempts before the `n`-th, or
is that of the start if `m` is zero. -/
structure LastReset (sync : Sync σ) (sink : σ) (n m : Nat) : Prop where
  reset : m = 0 ∨ m < n ∧ ∃ state, sync.before sink m = some state ∧ sync.Resets state
  kept : ∀ k state, m < k → k < n → sync.before sink k = some state → ¬ sync.Resets state

/-- Whether a delay is the one after the waits since the last reset. -/
def Timed (sync : Sync σ) (sink : σ) (n : Nat) (events : List SyncEvent)
    (delay : Duration) : Prop :=
  ∃ m since, sync.LastReset sink n m ∧ events = sync.run m (sync.start sink) ++ since ∧
    sync.backoff.IsAfter (SyncEvent.waits since).length delay

section Run

variable {sink : σ} {n : Nat} {delay next : Duration} {events more : List SyncEvent}

theorem Timed.append_quiet (h : sync.Timed sink n events delay)
    (hquiet : SyncEvent.waits more = []) : sync.Timed sink n (events ++ more) delay := by
  obtain ⟨m, since, hlast, hevents, hafter⟩ := h
  refine ⟨m, since ++ more, hlast, ?_, ?_⟩
  · rw [hevents, List.append_assoc]
  · rwa [SyncEvent.waits_append, hquiet, List.append_nil]

theorem Timed.append_wait {duration : Duration} (h : sync.Timed sink n events delay)
    (hwait : SyncEvent.waits more = [duration]) (hnext : sync.backoff.next? delay = some next) :
    sync.Timed sink n (events ++ more) next := by
  obtain ⟨m, since, hlast, hevents, hafter⟩ := h
  refine ⟨m, since ++ more, hlast, ?_, ?_⟩
  · rw [hevents, List.append_assoc]
  · rw [SyncEvent.waits_append, hwait, List.length_append]
    exact hafter.succ hnext

theorem timed_of_resets (h : sync.before sink n = some state) (hresets : sync.Resets state) :
    sync.Timed sink (n + 1) (sync.run n (sync.start sink)) sync.backoff.initial := by
  refine ⟨n, [], ⟨.inr ⟨Nat.lt_succ_self n, state, h, hresets⟩, ?_⟩, ?_, sync.backoff.isAfter_zero⟩
  · intro k later hafter hbefore
    exact absurd hbefore (Nat.not_lt_of_le hafter)
  · rw [List.append_nil]

theorem Timed.of_kept (htimed : sync.Timed sink n events delay)
    (h : sync.before sink n = some state) (hkept : ¬ sync.Resets state) :
    sync.Timed sink (n + 1) events delay := by
  obtain ⟨m, since, hlast, hrest⟩ := htimed
  refine ⟨m, since, ⟨?_, ?_⟩, hrest⟩
  · rcases hlast.reset with hstart | ⟨hm, hreset⟩
    · exact .inl hstart
    · exact .inr ⟨Nat.lt_succ_of_lt hm, hreset⟩
  · intro k earlier hafter hbefore hearlier
    rcases Nat.lt_succ_iff_lt_or_eq.mp hbefore with hk | rfl
    · exact hlast.kept k earlier hafter hk hearlier
    · obtain rfl := Option.some.inj (h.symm.trans hearlier)
      exact hkept

theorem Timed.due (htimed : sync.Timed sink n (sync.run n (sync.start sink)) state.delay)
    (h : sync.before sink n = some state) (hrepeats : sync.Repeats state) :
    sync.Timed sink (n + 1) (sync.run n (sync.start sink)) (sync.due state) := by
  by_cases hresets : sync.Resets state
  · rw [hrepeats.due_of_resets hresets]
    exact timed_of_resets h hresets
  · rw [due_of_kept hresets]
    exact htimed.of_kept h hresets

theorem timed_before (h : sync.before sink n = some state) :
    sync.Timed sink n (sync.run n (sync.start sink)) state.delay := by
  induction n generalizing state with
  | zero =>
      obtain rfl := Option.some.inj h
      refine ⟨0, [], ⟨.inl rfl, ?_⟩, rfl, sync.backoff.isAfter_zero⟩
      intro k later hafter hbefore
      exact absurd hbefore (Nat.not_lt_zero k)
  | succ n ih =>
      rw [before, advance_succ] at h
      obtain ⟨earlier, hearlier, hnext⟩ := Option.bind_eq_some_iff.mp h
      obtain ⟨ending, hevents, hends⟩ := sync.step_ends earlier
      have hwaits : SyncEvent.waits (sync.step earlier).events = SyncEvent.waits ending := by
        rw [hevents, SyncEvent.waits_requests_append, SyncEvent.waits_deliveries_append]
      rw [run_before hearlier]
      rw [hnext] at hends
      cases hends with
      | fetched hphase hdone _ hdelay =>
          rw [hdelay]
          exact (timed_of_resets hearlier ((resets_of_fetching hphase).mpr hdone)).append_quiet
            hwaits
      | waited hrepeats _ hdelay =>
          exact ((ih hearlier).due hearlier hrepeats).append_wait hwaits hdelay

/-- After its requests and batches an attempt ends the run, or it was the successful fetch
and the first stream follows at once, or it waits for the delay that has doubled with each
wait since the last reset, which may be its own, up to the limit.  No delay is too long to be
doubled if the initial and the longest one are not. -/
theorem run_waits (sync : Sync σ) (hjitter : sync.backoff.jitter = .zero)
    (h : sync.before sink n = some state) :
    (sync.backoff.initial.double? ≠ none → sync.backoff.longest.double? ≠ none →
      ¬ sync.Overflows state) ∧
    ∃ ending, sync.run (n + 1) (sync.start sink) =
        sync.run n (sync.start sink) ++ ((sync.requests state).map .request ++
          ((sync.deliveries state).map SyncEvent.ofDelivery ++ ending)) ∧
      ((∃ error, ending = [.fail error] ∧ sync.before sink (n + 1) = none ∧
          (state.phase = .fetching → ¬ sync.Resets state) ∧
          (sync.error? state = some error ∨ error = .syncPanicked ∧ sync.Overflows state)) ∨
        (∃ next, ending = [] ∧ sync.before sink (n + 1) = some next ∧
          state.phase = .fetching ∧ sync.Resets state ∧ next.phase = .streaming) ∨
        ∃ next m since duration, sync.before sink (n + 1) = some next ∧
          next.phase = state.phase ∧ (state.phase = .fetching → ¬ sync.Resets state) ∧
          sync.LastReset sink (n + 1) m ∧
          sync.run n (sync.start sink) = sync.run m (sync.start sink) ++ since ∧
          ending = [.wait duration] ∧
          duration.nanos = min (sync.backoff.initial.nanos * 2 ^ (SyncEvent.waits since).length)
            (max sync.backoff.initial.nanos sync.backoff.longest.nanos)) := by
  have hbefore : sync.before sink (n + 1) = (sync.step state).next := by
    rw [before, advance_succ, show sync.advance n (sync.start sink) = some state from h,
      Option.bind_some]
  obtain ⟨ending, hevents, hends⟩ := sync.step_ends state
  refine ⟨not_overflows h, ending, ?_, ?_⟩
  · rw [run_before h, hevents]
  rw [hbefore]
  generalize (sync.step state).next = after at hends
  cases hends with
  | failed herror =>
      exact .inl ⟨_, rfl, rfl, fun hphase => not_resets_of_error hphase herror, .inl herror⟩
  | overflowed hoverflows =>
      exact .inl ⟨_, rfl, rfl, hoverflows.1.not_resets, .inr ⟨rfl, hoverflows⟩⟩
  | fetched hphase hdone hnext =>
      exact .inr (.inl ⟨_, rfl, rfl, hphase, (resets_of_fetching hphase).mpr hdone, hnext⟩)
  | waited hrepeats hnext =>
      obtain ⟨m, since, hlast, hrun, hafter⟩ := (timed_before h).due h hrepeats
      rw [Backoff.wait_of_jitter_eq_zero hjitter]
      exact .inr (.inr ⟨_, m, since, _, rfl, hnext, hrepeats.not_resets, hlast, hrun, rfl, hafter⟩)

end Run

/-- A run that fetches in vain three times; its streams are refused twice, then one breaks
after an event and one ends without any. -/
def slowStart : Sync Loader where
  http := .twoHosts
  backoff := { initial := .ofMillis 1000, longest := .ofMillis 3000, jitter := .zero }
  sink := Loader.sink
  surroundings :=
    { fetches := fun i => if i < 6 then .timeout else .answer emptyBatch
      streams := fun i => .answer <|
        if i < 4 then ⟨503, []⟩
        else if i = 4 then ⟨200, [.bytes (Utf8.encode "data: \n\n"), .broken "reset"]⟩
        else ⟨200, []⟩
      clock := fun waits => .still (1000000000 * waits) }

theorem run_waits_after_slow_start :
    SyncEvent.waits (slowStart.run 8 (slowStart.start noLoads)) =
        [1000, 2000, 3000, 1000, 2000, 1000, 2000].map .ofMillis ∧
      slowStart.backoff.jitter = .zero ∧
      ∃ state m since duration, slowStart.before noLoads 7 = some state ∧
        slowStart.LastReset noLoads 8 m ∧
        slowStart.run 7 (slowStart.start noLoads) =
          slowStart.run m (slowStart.start noLoads) ++ since ∧
        slowStart.run 8 (slowStart.start noLoads) =
          slowStart.run 7 (slowStart.start noLoads) ++
            ((slowStart.requests state).map .request ++
              ((slowStart.deliveries state).map SyncEvent.ofDelivery ++ [.wait duration])) ∧
        duration.nanos = min (1000000000 * 2 ^ (SyncEvent.waits since).length)
          (max 1000000000 3000000000) := by
  have hphase : (slowStart.before noLoads 7).map (·.phase) = some .streaming := by
    decide +kernel
  have hnext : (slowStart.before noLoads 8).isSome = true := by decide +kernel
  obtain ⟨state, hstate, hstreaming⟩ := Option.map_eq_some_iff.mp hphase
  obtain ⟨-, ending, hrun, hends⟩ := slowStart.run_waits rfl hstate
  refine ⟨by decide +kernel, rfl, ?_⟩
  rcases hends with ⟨error, -, hnone, -⟩ | ⟨next, -, -, hfetching, -⟩ |
    ⟨next, m, since, duration, -, -, -, hlast, hsince, rfl, hduration⟩
  · rw [hnone] at hnext
    cases hnext
  · rw [hstreaming] at hfetching
    cases hfetching
  · exact ⟨state, m, since, duration, hstate, hlast, hsince, hrun, hduration⟩

end Sync
end LiveConfig
