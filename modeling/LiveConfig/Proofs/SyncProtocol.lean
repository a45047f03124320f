import LiveConfig.Proofs.Attempts

/-!
# The protocol of a run

A run fetches until a batch of the server is applied, then it streams, and it makes no
event after it has failed (`SyncEvent.Protocol`).  It fails exactly if one of its requests
is answered with a rejection of the key, if the transport itself fails at one, if it
reaches a host that cannot have the endpoint, or if it would wait for a delay that cannot be
doubled.  After any other attempt there is a next one (`Sync.run_protocol`).

The last of these causes is not one of the server's: a run with the longest delay there is
fails after its first timeout (`Sync.run_fails_at_longest_delay`).  No run meets it whose
initial and longest delay can be doubled, as all its delays are between the two or below.
-/

namespace LiveConfig

/-- The courses that a run may take from a phase on, wherever it is stopped. -/
inductive SyncEvent.Protocol : SyncPhase → List SyncEvent → Prop
  | stopped {phase : SyncPhase} : Protocol phase []
  | failed {phase : SyncPhase} {error : Error} : Protocol phase [.fail error]
  | waited {phase : SyncPhase} {duration : Duration} {rest : List SyncEvent}
      (hrest : Protocol phase rest) : Protocol phase (.wait duration :: rest)
  | requested {phase : SyncPhase} {request : Http.Request} {rest : List SyncEvent}
      (hkind : request.kind = phase.kind) (hrest : Protocol phase rest) :
      Protocol phase (.request request :: rest)
  | fetched {batch : Batch} {provenance : Provenance} {rest : List SyncEvent}
      (hsource : provenance.source = .remoteApi) (hrest : Protocol .streaming rest) :
      Protocol .fetching (.apply batch provenance :: rest)
  | streamed {batch : Batch} {provenance : Provenance} {rest : List SyncEvent}
      (hsource : provenance.source = .streaming) (hrest : Protocol .streaming rest) :
      Protocol .streaming (.apply batch provenance :: rest)

namespace SyncEvent.Protocol

variable {phase : SyncPhase} {events rest stopped : List SyncEvent}

/-- A run that is stopped early keeps to the protocol. -/
theorem cut (h : Protocol phase events) (hstopped : stopped <+: events) :
    Protocol phase stopped := by
  induction h generalizing stopped with
  | stopped => rw [List.prefix_nil.mp hstopped]; exact .stopped
  | failed =>
      rcases List.prefix_cons_iff.mp hstopped with rfl | ⟨later, rfl, hlater⟩
      · exact .stopped
      · rw [List.prefix_nil.mp hlater]
        exact .failed
  | waited _ ih =>
      rcases List.prefix_cons_iff.mp hstopped with rfl | ⟨later, rfl, hlater⟩
      · exact .stopped
      · exact .waited (ih hlater)
  | requested hkind _ ih =>
      rcases List.prefix_cons_iff.mp hstopped with rfl | ⟨later, rfl, hlater⟩
      · exact .stopped
      · exact .requested hkind (ih hlater)
  | fetched hsource _ ih =>
      rcases List.prefix_cons_iff.mp hstopped with rfl | ⟨later, rfl, hlater⟩
      · exact .stopped
      · exact .fetched hsource (ih hlater)
  | streamed hsource _ ih =>
      rcases List.prefix_cons_iff.mp hstopped with rfl | ⟨later, rfl, hlater⟩
      · exact .stopped
      · exact .streamed hsource (ih hlater)

theorem requests {requests : List Http.Request}
    (hkind : ∀ request ∈ requests, request.kind = phase.kind) (hrest : Protocol phase rest) :
    Protocol phase (requests.map .request ++ rest) := by
  induction requests with
  | nil => exact hrest
  | cons request others ih =>
      rw [List.forall_mem_cons] at hkind
      exact .requested hkind.1 (ih hkind.2)

theorem deliveries {history : History}
    (hsource : ∀ delivery ∈ history, delivery.2.source = .streaming)
    (hrest : Protocol .streaming rest) :
    Protocol .streaming (history.map SyncEvent.ofDelivery ++ rest) := by
  induction history with
  | nil => exact hrest
  | cons delivery others ih =>
      rw [List.forall_mem_cons] at hsource
      exact .streamed hsource.1 (ih hsource.2)

end SyncEvent.Protocol

namespace Sync

variable {σ : Type} {sync : Sync σ} {state next : SyncState σ}

/-! ## The course of the events -/

theorem deliveries_of_failed (h : state.phase = .fetching) (hfailed : sync.failure? state ≠ none) :
    sync.deliveries state = [] := by
  rw [failure?, h] at hfailed
  cases houtcome : sync.fetchOutcome state with
  | ok batch => simp [houtcome, Http.failureOf?] at hfailed
  | error failure => exact deliveries_of_error h houtcome

theorem deliveries_of_done (h : state.phase = .fetching) (hdone : sync.failure? state = none) :
    ∃ batch provenance, provenance.source = .remoteApi ∧
      sync.deliveries state = [(batch, provenance)] := by
  rw [failure?, h] at hdone
  cases houtcome : sync.fetchOutcome state with
  | error failure => simp [houtcome, Http.failureOf?] at hdone
  | ok batch =>
      obtain ⟨fetched, hresult, hbatch⟩ := fetchOutcome_eq_ok_iff.mp houtcome
      exact ⟨batch, ⟨.remoteApi, some fetched.uri⟩, rfl, deliveries_of_ok h hresult hbatch⟩

theorem source_of_streaming (h : state.phase = .streaming) :
    ∀ delivery ∈ sync.deliveries state, delivery.2.source = .streaming := by
  rw [deliveries, h]
  intro delivery hdelivery
  obtain ⟨batch, -, rfl⟩ := List.mem_map.mp hdelivery
  rfl

/-- An attempt leads from the course of its phase to the course of the next one. -/
theorem step_protocol {rest : List SyncEvent}
    (hnext : ∀ next, (sync.step state).next = some next → SyncEvent.Protocol next.phase rest)
    (hnone : (sync.step state).next = none → rest = []) :
    SyncEvent.Protocol state.phase ((sync.step state).events ++ rest) := by
  obtain ⟨ending, hevents, hends⟩ := sync.step_ends state
  rw [hevents, List.append_assoc, List.append_assoc]
  refine .requests (sync.requests_kind state) ?_
  generalize (sync.step state).next = after at hnext hnone hends
  cases h : state.phase with
  | fetching =>
      cases hends with
      | failed herror =>
          have hfailed : sync.failure? state ≠ none := by
            intro hdone
            simp [error?, hdone] at herror
          rw [deliveries_of_failed h hfailed, hnone rfl]
          exact .failed
      | overflowed hoverflows =>
          rw [deliveries_of_failed h (hoverflows.1.again h), hnone rfl]
          exact .failed
      | fetched _ hdone hphase =>
          obtain ⟨batch, provenance, hsource, hone⟩ := deliveries_of_done h hdone
          rw [hone]
          exact .fetched hsource (hphase ▸ hnext _ rfl)
      | waited hrepeats hphase =>
          rw [deliveries_of_failed h (hrepeats.again h)]
          exact .waited (h ▸ hphase ▸ hnext _ rfl)
  | streaming =>
      refine .deliveries (source_of_streaming h) ?_
      cases hends with
      | failed => rw [hnone rfl]; exact .failed
      | overflowed => rw [hnone rfl]; exact .failed
      | fetched hphase => rw [h] at hphase; cases hphase
      | waited _ hphase => exact .waited (h ▸ hphase ▸ hnext _ rfl)

theorem protocol_run (sync : Sync σ) (n : Nat) (state : SyncState σ) :
    SyncEvent.Protocol state.phase (sync.run n state) := by
  induction n generalizing state with
  | zero => exact .stopped
  | succ n ih =>
      rw [run]
      cases hstep : (sync.step state).next with
      | none => exact step_protocol (by simp [hstep]) fun _ => rfl
      | some next =>
          refine step_protocol ?_ (by simp [hstep])
          intro next' hnext
          obtain rfl := Option.some.inj (hstep.symm.trans hnext)
          exact ih next

/-! ## The end of a run -/

theorem run_before {sink : σ} {n : Nat} (h : sync.before sink n = some state) :
    sync.run (n + 1) (sync.start sink) =
      sync.run n (sync.start sink) ++ (sync.step state).events := by
  rw [run_succ, show sync.advance n (sync.start sink) = some state from h]
  rfl

theorem run_before_none {sink : σ} {n : Nat} (h : sync.before sink n = none) :
    sync.run (n + 1) (sync.start sink) = sync.run n (sync.start sink) := by
  rw [run_succ, show sync.advance n (sync.start sink) = none from h]
  exact List.append_nil _

/-- A run counts its requests. -/
theorem made_before {sink : σ} {n : Nat} (h : sync.before sink n = some state)
    (kind : Http.RequestKind) :
    state.made kind = SyncEvent.asked kind (sync.run n (sync.start sink)) := by
  induction n generalizing state with
  | zero =>
      obtain rfl := Option.some.inj h
      cases kind <;> rfl
  | succ n ih =>
      rw [before, advance_succ] at h
      obtain ⟨earlier, hearlier, hnext⟩ := Option.bind_eq_some_iff.mp h
      rw [run_before hearlier, SyncEvent.asked_append, ← ih hearlier, asked_step]
      exact (follows_of_next hnext).made kind

/-- The requests of one more attempt come after those before it. -/
theorem exists_asked_before_iff {sink : σ} {n : Nat} (h : sync.before sink n = some state)
    {p : Http.RequestKind → Nat → Prop} :
    (∃ kind, ∃ i < SyncEvent.asked kind (sync.run (n + 1) (sync.start sink)), p kind i) ↔
      (∃ kind, ∃ i < SyncEvent.asked kind (sync.run n (sync.start sink)), p kind i) ∨
        ∃ kind, ∃ i < sync.asks state kind, p kind (state.made kind + i) := by
  rw [run_before h]
  simp only [SyncEvent.asked_append, asked_step, ← made_before h]
  constructor
  · rintro ⟨kind, i, hi, hp⟩
    by_cases hbefore : i < state.made kind
    · exact .inl ⟨kind, i, hbefore, hp⟩
    · obtain ⟨j, rfl⟩ := Nat.exists_eq_add_of_le (Nat.le_of_not_lt hbefore)
      exact .inr ⟨kind, j, by omega, hp⟩
  · rintro (⟨kind, i, hi, hp⟩ | ⟨kind, i, hi, hp⟩)
    · exact ⟨kind, i, by omega, hp⟩
    · exact ⟨kind, state.made kind + i, by omega, hp⟩

theorem fail_mem_run_iff {sink : σ} {n : Nat}
    (hclock : ∀ k < n, ∀ state, sync.before sink k = some state → state.phase = .fetching →
      ∀ i response, sync.surroundings.fetches i = .answer response →
        ¬ (Http.CacheControl.ofResponse response).OutlastsClock ((sync.clock state).reply i))
    (error : Error) :
    .fail error ∈ sync.run n (sync.start sink) ↔
      Fatality
        (∃ kind, ∃ i < SyncEvent.asked kind (sync.run n (sync.start sink)),
          sync.surroundings.Rejects kind i)
        ((∃ kind, ∃ i < SyncEvent.asked kind (sync.run n (sync.start sink)),
            sync.surroundings.Crashes kind i) ∨
          ∃ k < n, ∃ state, sync.before sink k = some state ∧ sync.Overflows state)
        (fun e => ∃ k < n, ∃ state, sync.before sink k = some state ∧ sync.Refuses state e)
        error := by
  induction n with
  | zero =>
      refine iff_of_false List.not_mem_nil ?_
      rintro (⟨kind, i, hi, -⟩ | (⟨kind, i, hi, -⟩ | ⟨k, hk, -⟩) | ⟨k, hk, -⟩)
      · exact Nat.not_lt_zero i hi
      · exact Nat.not_lt_zero i hi
      · exact Nat.not_lt_zero k hk
      · exact Nat.not_lt_zero k hk
  | succ n ih =>
      -- each of the causes is one of an earlier attempt or one of the last
      have ihn := ih fun k hk => hclock k (Nat.lt_succ_of_lt hk)
      have hlater : ∀ p : SyncState σ → Prop,
          (∃ k < n + 1, ∃ state, sync.before sink k = some state ∧ p state) ↔
            (∃ k < n, ∃ state, sync.before sink k = some state ∧ p state) ∨
              ∃ state, sync.before sink n = some state ∧ p state :=
        fun p => Nat.exists_lt_succ_right
      simp only [hlater]
      cases hstate : sync.before sink n with
      | none =>
          simp only [run_before_none hstate, reduceCtorEq, false_and, exists_false,
            or_false]
          exact ihn
      | some state =>
          have hlast := error?_eq_some_iff
            (fun hphase => (fruitless_of_before hstate hphase).usable)
            (fun hphase => hclock n (Nat.lt_succ_self n) state hstate hphase) error
          rw [show .fail error ∈ sync.run (n + 1) (sync.start sink) ↔
              .fail error ∈ sync.run n (sync.start sink) ∨ sync.error? state = some error ∨
                error = .syncPanicked ∧ sync.Overflows state by
            rw [run_before hstate, List.mem_append, fail_mem_step_iff]]
          rw [ihn, hlast, ← Fatality.or_crashed_iff, ← Fatality.or_iff]
          refine Fatality.congr (exists_asked_before_iff hstate).symm ?_ fun e => ?_
          · rw [exists_asked_before_iff hstate, or_or_or_comm]
            simp only [Option.some.injEq, exists_eq_left']
          · simp only [Option.some.injEq, exists_eq_left']

/-- An attempt that does not end the run is followed by another one, in the same phase if
it fails. -/
theorem exists_next {sink : σ} {n : Nat} (h : sync.before sink n = some state)
    (hgoes : ∀ error, .fail error ∉ (sync.step state).events) :
    ∃ next, sync.before sink (n + 1) = some next ∧
      (sync.failure? state ≠ none → next.phase = state.phase) := by
  have hbefore : sync.before sink (n + 1) = (sync.step state).next := by
    rw [before, advance_succ, show sync.advance n (sync.start sink) = some state from h,
      Option.bind_some]
  obtain ⟨ending, hevents, hends⟩ := sync.step_ends state
  have hgoes : ∀ error, .fail error ∉ ending := fun error herror =>
    hgoes error (by simp [hevents, herror])
  rw [hbefore]
  generalize (sync.step state).next = after at hends
  cases hends with
  | failed => exact absurd (List.mem_singleton.mpr rfl) (hgoes _)
  | overflowed => exact absurd (List.mem_singleton.mpr rfl) (hgoes _)
  | fetched _ hdone => exact ⟨_, rfl, fun hfailed => absurd hdone hfailed⟩
  | waited _ hphase => exact ⟨_, rfl, fun _ => hphase⟩

theorem due_le_bound (h : state.delay.nanos ≤ sync.backoff.bound.nanos) :
    (sync.due state).nanos ≤ sync.backoff.bound.nanos := by
  rw [due]
  split
  · exact h
  · split
    · exact sync.backoff.initial_le_bound
    · exact h

theorem delay_le_bound {sink : σ} {n : Nat} (h : sync.before sink n = some state) :
    state.delay.nanos ≤ sync.backoff.bound.nanos := by
  induction n generalizing state with
  | zero =>
      obtain rfl := Option.some.inj h
      exact sync.backoff.initial_le_bound
  | succ n ih =>
      rw [before, advance_succ] at h
      obtain ⟨earlier, hearlier, hnext⟩ := Option.bind_eq_some_iff.mp h
      obtain ⟨ending, -, hends⟩ := sync.step_ends earlier
      rw [hnext] at hends
      cases hends with
      | fetched _ _ _ hdelay =>
          rw [hdelay]
          exact sync.backoff.initial_le_bound
      | waited _ _ hdelay =>
          rw [Backoff.nanos_of_next? hdelay]
          exact Nat.min_le_right _ _

theorem not_overflows {sink : σ} {n : Nat} (h : sync.before sink n = some state)
    (hinitial : sync.backoff.initial.double? ≠ none)
    (hlongest : sync.backoff.longest.double? ≠ none) : ¬ sync.Overflows state := fun hoverflows =>
  Backoff.next?_ne_none hinitial hlongest (due_le_bound (delay_le_bound h)) hoverflows.2

/-- Wherever a run is stopped, it has kept to the protocol.  It fails exactly after a
rejection of the key, a failure of the transport, a delay that cannot be doubled, or a host
that cannot have the endpoint, and every attempt that does not end it is followed by another
one, which does the same again if the attempt failed.  All delays can be doubled if the
initial and the longest one can. -/
theorem run_protocol (sync : Sync σ) (sink : σ) (n : Nat)
    (hclock : ∀ k < n, ∀ state, sync.before sink k = some state → state.phase = .fetching →
      ∀ i response, sync.surroundings.fetches i = .answer response →
        ¬ (Http.CacheControl.ofResponse response).OutlastsClock ((sync.clock state).reply i)) :
    let events := sync.run n (sync.start sink)
    (∀ stopped, stopped <+: events → SyncEvent.Protocol .fetching stopped) ∧
    (∀ error, .fail error ∈ events ↔
      Fatality
        (∃ kind, ∃ i < SyncEvent.asked kind events, sync.surroundings.Rejects kind i)
        ((∃ kind, ∃ i < SyncEvent.asked kind events, sync.surroundings.Crashes kind i) ∨
          ∃ k < n, ∃ state, sync.before sink k = some state ∧ sync.Overflows state)
        (fun e => ∃ k < n, ∃ state, sync.before sink k = some state ∧ sync.Refuses state e)
        error) ∧
    (sync.backoff.initial.double? ≠ none → sync.backoff.longest.double? ≠ none →
      ∀ k state, sync.before sink k = some state → ¬ sync.Overflows state) ∧
    ∀ k state, sync.before sink k = some state →
      (∀ error, .fail error ∉ (sync.step state).events) →
      ∃ next, sync.before sink (k + 1) = some next ∧
        (sync.failure? state ≠ none → next.phase = state.phase) ∧
        sync.run (k + 2) (sync.start sink) =
          sync.run (k + 1) (sync.start sink) ++ (sync.step next).events := by
  intro events
  refine ⟨?_, fail_mem_run_iff hclock, ?_, ?_⟩
  · intro stopped hstopped
    exact (sync.protocol_run n (sync.start sink)).cut hstopped
  · intro hinitial hlongest k state hstate
    exact not_overflows hstate hinitial hlongest
  · intro k state hstate hgoes
    obtain ⟨next, hnext, hphase⟩ := exists_next hstate hgoes
    exact ⟨next, hnext, hphase, run_before hnext⟩

/-- A run whose first attempt ends it makes no other one. -/
theorem eq_start_of_before {sink : σ} {n : Nat}
    (hend : (sync.step (sync.start sink)).next = none) (h : sync.before sink n = some state) :
    n = 0 ∧ state = sync.start sink := by
  cases n with
  | zero => exact ⟨rfl, (Option.some.inj h).symm⟩
  | succ n =>
      rw [before, advance, hend, Option.bind_none] at h
      cases h

/-- An answer to a fetch that is not to be used again unasked. -/
def emptyBatch : Http.Response :=
  ⟨200, [("cache-control", "no-cache")], Utf8.encode "\x7b\x7d"⟩

theorem emptyBatch_within_clock (now : Nat) :
    ¬ (Http.CacheControl.ofResponse emptyBatch).OutlastsClock now := by
  rintro ⟨hkept, -⟩
  have hcache : (Http.CacheControl.ofResponse emptyBatch).noCache = true := by decide +kernel
  rw [hkept] at hcache
  cases hcache

/-- A run whose fetches time out at both hosts at first, and whose streams are answered
with errors and then with a rejection of the key. -/
def rejectedAtLast : Sync Loader where
  http := .twoHosts
  backoff := {}
  sink := Loader.sink
  surroundings :=
    { fetches := fun i => if i < 2 then .timeout else .answer emptyBatch
      streams := fun i => .answer ⟨if i < 2 then 503 else 401, []⟩
      clock := fun waits => .still (1000000000 * waits) }

theorem run_protocol_until_rejected :
    let events := rejectedAtLast.run 4 (rejectedAtLast.start noLoads)
    SyncEvent.Protocol .fetching events ∧ .fail .unauthorized ∈ events ∧
      SyncEvent.asked .fetch events = 3 ∧ SyncEvent.asked .stream events = 3 := by
  intro events
  have hfetches : SyncEvent.asked .fetch events = 3 := by decide +kernel
  have hstreams : SyncEvent.asked .stream events = 3 := by decide +kernel
  obtain ⟨hprotocol, hfails, -⟩ := rejectedAtLast.run_protocol noLoads 4 (by
    intro k hk state hstate hphase i response hreply
    dsimp only [rejectedAtLast] at hreply
    split at hreply
    · cases hreply
    · cases hreply
      exact emptyBatch_within_clock _)
  refine ⟨hprotocol events (List.prefix_refl _), ?_, hfetches, hstreams⟩
  refine (hfails .unauthorized).mpr (.rejected ⟨.stream, 2, ?_, ⟨401, []⟩, rfl, rfl⟩)
  exact hstreams ▸ Nat.lt_succ_self 2

/-- A run whose fetches time out at first, with the longest delay there is. -/
def longestDelay : Sync Loader where
  http := .twoHosts
  backoff := { initial := .longest }
  sink := Loader.sink
  surroundings :=
    { fetches := fun i => if i < 2 then .timeout else .answer emptyBatch
      streams := fun _ => .timeout
      clock := fun _ => .still 0 }

/-- The run fails without a cause among the replies or the hosts, and makes no second
attempt. -/
theorem run_fails_at_longest_delay :
    (.fail .syncPanicked ∈ longestDelay.run 1 (longestDelay.start noLoads) ∧
      longestDelay.before noLoads 1 = none) ∧
    (∀ kind i, ¬ longestDelay.surroundings.Rejects kind i ∧
      ¬ longestDelay.surroundings.Crashes kind i) ∧
    ∀ k state, longestDelay.before noLoads k = some state →
      (∀ e, ¬ longestDelay.Refuses state e) ∧
      ∀ i response, longestDelay.surroundings.fetches i = .answer response →
        ¬ (Http.CacheControl.ofResponse response).OutlastsClock
          ((longestDelay.clock state).reply i) := by
  let start := longestDelay.start noLoads
  have hfailed : longestDelay.fetchOutcome start = .error (.error (Http.exhausted 2 (some
      (.requestTimeout (Http.Settings.hostUrl "b.test" (Http.configsPath 0)).text)))) := rfl
  have hdelay : longestDelay.backoff.next? start.delay = none := by decide +kernel
  have hend : (longestDelay.step start).next = none := by
    rw [step_of_mendable rfl hfailed rfl, hdelay, Option.map_none]
  have hoverflows : longestDelay.Overflows start := ⟨⟨rfl, fun _ => nofun⟩, hdelay⟩
  refine ⟨⟨?_, ?_⟩, ?_, ?_⟩
  · rw [run_before (n := 0) rfl, List.mem_append, fail_mem_step_iff]
    exact .inr (.inr ⟨rfl, hoverflows⟩)
  · rw [Option.eq_none_iff_forall_ne_some]
    intro state hstate
    exact absurd (eq_start_of_before hend hstate).1 Nat.one_ne_zero
  · intro kind i
    cases kind with
    | fetch =>
        simp only [Surroundings.Rejects, Surroundings.Crashes, longestDelay]
        split
        · simp
        · simp [emptyBatch]
    | stream => simp [Surroundings.Rejects, Surroundings.Crashes, longestDelay]
  · intro k state hstate
    obtain ⟨-, rfl⟩ := eq_start_of_before hend hstate
    constructor
    · rintro e ⟨i, host, hhost, hendpoint, -⟩
      rcases List.mem_pair.mp (List.mem_of_getElem? hhost) with rfl | rfl
      · cases hendpoint
      · cases hendpoint
    · intro i response hreply
      dsimp only [longestDelay] at hreply
      split at hreply
      · cases hreply
      · cases hreply
        exact emptyBatch_within_clock _

end Sync
end LiveConfig
