import LiveConfig.Proofs.Delivery
import LiveConfig.Proofs.Failover
import LiveConfig.Proofs.Retries
import LiveConfig.Proofs.StreamDelivery

/-!
# What one attempt does

An attempt, whether it fetches or streams, makes its requests, hands its batches to the
sink, and then ends in one of four ways: it ends the run with its error, it begins the
streams, it waits, or it ends the run as the delay that it would wait for cannot be doubled
(`Sync.step_ends`).  What holds of runs follows from that case analysis.

An attempt has an error that ends the run exactly if one of its requests is answered with a
rejection of the key, if the transport itself fails, or if it reaches a host that cannot
have the endpoint (`Sync.error?_eq_some_iff`).  For a fetch this takes a usable cache, and
that no lifetime outlasts the clock.
-/

namespace LiveConfig

/-- Why a run ends with an error. -/
inductive Fatality (rejected crashed : Prop) (refused : Error → Prop) : Error → Prop
  | rejected (h : rejected) : Fatality rejected crashed refused .unauthorized
  | crashed (h : crashed) : Fatality rejected crashed refused .syncPanicked
  | refused {error : Error} (h : refused error) : Fatality rejected crashed refused error

namespace Fatality

variable {rejected crashed rejected' crashed' : Prop} {refused refused' : Error → Prop}
  {error : Error}

theorem imp (h : Fatality rejected crashed refused error) (hrejected : rejected → rejected')
    (hcrashed : crashed → crashed') (hrefused : ∀ e, refused e → refused' e) :
    Fatality rejected' crashed' refused' error := by
  cases h with
  | rejected h => exact .rejected (hrejected h)
  | crashed h => exact .crashed (hcrashed h)
  | refused h => exact .refused (hrefused _ h)

theorem congr (hrejected : rejected ↔ rejected') (hcrashed : crashed ↔ crashed')
    (hrefused : ∀ e, refused e ↔ refused' e) :
    Fatality rejected crashed refused error ↔ Fatality rejected' crashed' refused' error :=
  ⟨fun h => h.imp hrejected.mp hcrashed.mp fun e => (hrefused e).mp,
    fun h => h.imp hrejected.mpr hcrashed.mpr fun e => (hrefused e).mpr⟩

theorem or_iff :
    Fatality (rejected ∨ rejected') (crashed ∨ crashed') (fun e => refused e ∨ refused' e) error ↔
      Fatality rejected crashed refused error ∨ Fatality rejected' crashed' refused' error := by
  constructor
  · rintro (h | h | h)
    · exact h.imp .rejected .rejected
    · exact h.imp .crashed .crashed
    · exact h.imp .refused .refused
  · rintro (h | h)
    · exact h.imp .inl .inl fun _ => .inl
    · exact h.imp .inr .inr fun _ => .inr

theorem or_crashed_iff :
    Fatality rejected (crashed ∨ crashed') refused error ↔
      Fatality rejected crashed refused error ∨ error = .syncPanicked ∧ crashed' := by
  constructor
  · rintro (h | h | h)
    · exact .inl (.rejected h)
    · exact h.imp .crashed fun h => ⟨rfl, h⟩
    · exact .inl (.refused h)
  · rintro (h | ⟨rfl, h⟩)
    · exact h.imp id .inl fun _ => id
    · exact .crashed (.inr h)

end Fatality

/-! ## Failovers that end a run -/

namespace Http

/-- The error with which a failure ends a run, unless another attempt may mend it. -/
def Failure.fatal? : Failure → Option Error
  | .crash => some .syncPanicked
  | .error e => if e.isFatal then some e else none

def failureOf? {α : Type} : Except Failure α → Option Failure
  | .error failure => some failure
  | .ok _ => none

namespace HostLaw

variable {α β : Type} {law : HostLaw β α} {replies : Nat → Reply β} {made : Nat}

def Rejects (law : HostLaw β α) (reply : Reply β) : Prop :=
  ∃ answer, reply = .answer answer ∧ law.status answer = 401

/-- Whether a failover before which `made` requests were made gets to a host that cannot
have the endpoint. -/
def Refuses (law : HostLaw β α) (replies : Nat → Reply β) (made : Nat) (hosts : List Url)
    (e : Error) : Prop :=
  ∃ i host, hosts[i]? = some host ∧ endpoint host law.path = .error e ∧
    ∀ j < i, ∀ earlier, hosts[j]? = some earlier → ∃ url,
      endpoint earlier law.path = .ok url ∧ law.conclusion? replies (made + j) url = none

theorem refuses_cons_of_error {host : Url} {rest : List Url} {e e' : Error}
    (hendpoint : endpoint host law.path = .error e) :
    law.Refuses replies made (host :: rest) e' ↔ e' = e := by
  constructor
  · rintro ⟨i, host', hhost, herror, hearlier⟩
    cases i with
    | zero =>
        obtain rfl := Option.some.inj hhost
        exact Except.error.inj (herror.symm.trans hendpoint)
    | succ i =>
        obtain ⟨url, hok, -⟩ := hearlier 0 (Nat.succ_pos i) host rfl
        rw [hendpoint] at hok
        cases hok
  · rintro rfl
    exact ⟨0, host, rfl, hendpoint, fun j hj => absurd hj (Nat.not_lt_zero j)⟩

theorem refuses_cons_of_ok {host url : Url} {rest : List Url} {e : Error}
    (hendpoint : endpoint host law.path = .ok url) :
    law.Refuses replies made (host :: rest) e ↔
      law.conclusion? replies made url = none ∧ law.Refuses replies (made + 1) rest e := by
  have hshift : ∀ j, made + 1 + j = made + (j + 1) := by omega
  constructor
  · rintro ⟨i, host', hhost, herror, hearlier⟩
    cases i with
    | zero =>
        obtain rfl := Option.some.inj hhost
        rw [hendpoint] at herror
        cases herror
    | succ i =>
        obtain ⟨url', hok, hnone⟩ := hearlier 0 (Nat.succ_pos i) host rfl
        obtain rfl := Except.ok.inj (hendpoint.symm.trans hok)
        refine ⟨hnone, i, host', hhost, herror, ?_⟩
        intro j hj earlier hget
        rw [hshift]
        exact hearlier (j + 1) (Nat.succ_lt_succ hj) earlier hget
  · rintro ⟨hnone, i, host', hhost, herror, hearlier⟩
    refine ⟨i + 1, host', hhost, herror, ?_⟩
    intro j hj earlier hget
    cases j with
    | zero =>
        obtain rfl := Option.some.inj hget
        exact ⟨url, hendpoint, hnone⟩
    | succ j =>
        rw [← hshift]
        exact hearlier j (Nat.lt_of_succ_lt_succ hj) earlier hget

/-- What ends a run in a failover that makes so many requests after those made before. -/
def Dooms (law : HostLaw β α) (replies : Nat → Reply β) (made : Nat) (hosts : List Url)
    (asked : Nat) : Error → Prop :=
  Fatality (∃ i < asked, law.Rejects (replies (made + i)))
    (∃ i < asked, replies (made + i) = .crash) (law.Refuses replies made hosts)

theorem fatal?_of_verdict {url : Url} {reply : Reply β} {result : Except Failure α}
    (hverdict : law.verdict url reply = .ok result) (error : Error) :
    (failureOf? result).bind Failure.fatal? = some error ↔
      Fatality (law.Rejects reply) (reply = .crash) (fun _ => False) error := by
  cases reply with
  | timeout => cases hverdict
  | broken text => cases hverdict
  | crash =>
      obtain rfl := Except.ok.inj hverdict
      constructor
      · rintro ⟨⟩
        exact .crashed rfl
      · rintro (⟨answer, hreply, -⟩ | - | h)
        · cases hreply
        · rfl
        · cases h
  | answer answer =>
      rw [verdict] at hverdict
      by_cases hstatus : law.status answer = 401
      · rw [if_pos hstatus] at hverdict
        obtain rfl := Except.ok.inj hverdict
        constructor
        · rintro ⟨⟩
          exact .rejected ⟨answer, rfl, hstatus⟩
        · rintro (- | h | h)
          · rfl
          · cases h
          · cases h
      · rw [if_neg hstatus] at hverdict
        have hdone : failureOf? result = none := by
          split at hverdict
          · obtain rfl := Except.ok.inj hverdict
            rfl
          · cases hverdict
        rw [hdone]
        constructor
        · rintro ⟨⟩
        · rintro (⟨answer', hreply, hstatus'⟩ | h | h)
          · cases hreply
            exact absurd hstatus' hstatus
          · cases h
          · cases h

theorem not_rejects_of_verdict {url : Url} {reply : Reply β} {e : Error}
    (hverdict : law.verdict url reply = .error e) : ¬ law.Rejects reply ∧ reply ≠ .crash := by
  constructor
  · rintro ⟨answer, rfl, hstatus⟩
    rw [verdict, if_pos hstatus] at hverdict
    cases hverdict
  · rintro rfl
    cases hverdict

theorem Failover.fatal_iff {attempts : Nat} {hosts : List Url} {last : Option Error}
    {requests : List Request} {result : Except Failure α}
    (h : law.Failover replies attempts hosts last made requests result) (error : Error) :
    (failureOf? result).bind Failure.fatal? = some error ↔
      law.Dooms replies made hosts requests.length error := by
  -- a reply that sends the failover on can neither reject the key nor be a crash, so only
  -- the last request counts
  induction h with
  | exhausted =>
      constructor
      · rintro ⟨⟩
      · rintro (⟨i, hi, -⟩ | ⟨i, hi, -⟩ | ⟨i, host, hhost, -⟩)
        · cases hi
        · cases hi
        · cases hhost
  | @refused host rest last made e hendpoint =>
      have hfatal : Failure.fatal? (.error e) = some e := by
        rw [Failure.fatal?, isFatal_of_endpoint hendpoint, if_pos rfl]
      constructor
      · intro herror
        obtain rfl := Option.some.inj (hfatal.symm.trans herror)
        exact .refused ((refuses_cons_of_error hendpoint).mpr rfl)
      · rintro (⟨i, hi, -⟩ | ⟨i, hi, -⟩ | h)
        · cases hi
        · cases hi
        · rw [(refuses_cons_of_error hendpoint).mp h]
          exact hfatal
  | @decided host url rest last made result hendpoint hconclusion =>
      have hrefuses : ∀ e, ¬ law.Refuses replies made (host :: rest) e := by
        intro e hrefuses
        have hnone := ((refuses_cons_of_ok hendpoint).mp hrefuses).1
        rw [hconclusion] at hnone
        cases hnone
      cases hspared : law.spared? made url with
      | some found =>
          rw [conclusion?_of_spared hspared] at hconclusion
          obtain rfl := Option.some.inj hconclusion
          constructor
          · rintro ⟨⟩
          · rintro (⟨i, hi, -⟩ | ⟨i, hi, -⟩ | h)
            · cases hi
            · cases hi
            · exact absurd h (hrefuses error)
      | none =>
          rw [conclusion?_of_asked hspared] at hconclusion
          cases hverdict : law.verdict url (replies made) with
          | error e => simp [hverdict, Except.toOption] at hconclusion
          | ok result' =>
              obtain rfl : result' = result := by
                simpa [hverdict, Except.toOption] using hconclusion
              rw [fatal?_of_verdict hverdict]
              exact Fatality.congr (by simp) (by simp) fun e =>
                (iff_false_intro (hrefuses e)).symm
  | @failed host url rest last made e requests result hendpoint hconclusion hverdict _ ih =>
      obtain ⟨hrejects, hcrash⟩ := not_rejects_of_verdict hverdict
      have hshift : ∀ i, made + 1 + i = made + (i + 1) := by omega
      rw [ih]
      refine Fatality.congr ?_ ?_ fun e => ?_
      · rw [List.length_cons, Nat.exists_lt_succ_left]
        simp [hrejects, hshift]
      · rw [List.length_cons, Nat.exists_lt_succ_left]
        simp [hcrash, hshift]
      · rw [refuses_cons_of_ok hendpoint]
        simp [hconclusion]

end HostLaw

theorem Settings.fetchFrom_kind {settings : Settings} {replies : Nat → Reply Response}
    {clock : Clock} {since : Int} (hosts : List Url) (last : Option Error) (made : Nat)
    (cache : ResponseCache) :
    ∀ request ∈ (settings.fetchFrom replies clock since hosts last made cache).requests,
      request.kind = .fetch := by
  induction hosts generalizing last made cache with
  | nil => exact fun request hrequest => by cases hrequest
  | cons host rest ih =>
      intro request hrequest
      unfold fetchFrom at hrequest
      split at hrequest
      · cases hrequest
      dsimp only at hrequest
      split at hrequest
      · cases hrequest
      split at hrequest
      · cases hrequest
      rcases List.mem_cons.mp hrequest with rfl | hrequest
      · rfl
      · split at hrequest
        · cases hrequest
        · exact ih _ _ _ request hrequest

end Http

/-! ## The course of an attempt -/

def SyncPhase.kind : SyncPhase → Http.RequestKind
  | .fetching => .fetch
  | .streaming => .stream

def SyncState.made {σ : Type} (state : SyncState σ) : Http.RequestKind → Nat
  | .fetch => state.fetches
  | .stream => state.streams

def Surroundings.Rejects (surroundings : Surroundings) (kind : Http.RequestKind) (i : Nat) :
    Prop :=
  match kind with
  | .fetch => ∃ response, surroundings.fetches i = .answer response ∧ response.status = 401
  | .stream => ∃ answer, surroundings.streams i = .answer answer ∧ answer.status = 401

def Surroundings.Crashes (surroundings : Surroundings) (kind : Http.RequestKind) (i : Nat) :
    Prop :=
  match kind with
  | .fetch => surroundings.fetches i = .crash
  | .stream => surroundings.streams i = .crash

def Sink.applyAll {σ : Type} (sink : Sink σ) (s : σ) (history : History) : σ :=
  history.foldl (fun s delivery => sink.apply s delivery.1 delivery.2) s

namespace SyncEvent

def kind? : SyncEvent → Option Http.RequestKind
  | request asked => some asked.kind
  | _ => none

def asked (kind : Http.RequestKind) (events : List SyncEvent) : Nat :=
  events.countP fun event => event.kind? = some kind

def ofDelivery (delivery : Batch × Provenance) : SyncEvent := .apply delivery.1 delivery.2

theorem asked_append (kind : Http.RequestKind) (first second : List SyncEvent) :
    asked kind (first ++ second) = asked kind first + asked kind second :=
  List.countP_append

theorem asked_requests {kind : Http.RequestKind} {requests : List Http.Request}
    (h : ∀ request ∈ requests, request.kind = kind) (other : Http.RequestKind) :
    asked other (requests.map .request) = if other = kind then requests.length else 0 := by
  rw [asked, List.countP_map]
  split
  · rename_i hkind
    rw [List.countP_eq_length]
    intro request hrequest
    simp [kind?, h request hrequest, hkind]
  · rename_i hkind
    rw [List.countP_eq_zero]
    intro request hrequest
    simpa [kind?, h request hrequest] using Ne.symm hkind

theorem asked_eq_zero {events : List SyncEvent} (h : ∀ event ∈ events, event.kind? = none)
    (kind : Http.RequestKind) : asked kind events = 0 := by
  rw [asked, List.countP_eq_zero]
  intro event hevent
  simp [h event hevent]

end SyncEvent

namespace Sync

variable {σ : Type}

def streamRun (sync : Sync σ) (state : SyncState σ) : Http.Run Http.StreamAnswer :=
  sync.http.openStream sync.surroundings.streams state.streams
    (sync.sink.highwater state.sink) state.cache

def subscription (sync : Sync σ) (state : SyncState σ) : Http.Subscription :=
  .ofOpening (sync.streamRun state).result

def requests (sync : Sync σ) (state : SyncState σ) : List Http.Request :=
  match state.phase with
  | .fetching => (sync.fetchRun state).requests
  | .streaming => (sync.streamRun state).requests

def deliveriesOf : Except Http.Failure Http.Fetched → History
  | .error _ => []
  | .ok fetched =>
    match fetched.batch with
    | .error _ => []
    | .ok batch => [(batch, ⟨.remoteApi, some fetched.uri⟩)]

/-- The batches that an attempt hands to the sink. -/
def deliveries (sync : Sync σ) (state : SyncState σ) : History :=
  match state.phase with
  | .fetching => deliveriesOf (sync.fetchRun state).result
  | .streaming => (sync.subscription state).batches.map fun batch => (batch, streamed)

/-- Why an attempt fails, if it does: it has no answer of use, an unusable body, or a
stream that breaks. -/
def failure? (sync : Sync σ) (state : SyncState σ) : Option Http.Failure :=
  match state.phase with
  | .fetching => Http.failureOf? (sync.fetchOutcome state)
  | .streaming => Http.failureOf? (sync.subscription state).result

/-- The error with which an attempt ends the run, if it does. -/
def error? (sync : Sync σ) (state : SyncState σ) : Option Error :=
  (sync.failure? state).bind Http.Failure.fatal?

/-- The number of requests of a kind in an attempt. -/
def asks (sync : Sync σ) (state : SyncState σ) (kind : Http.RequestKind) : Nat :=
  if kind = state.phase.kind then (sync.requests state).length else 0

/-- Whether an attempt calls for another one of its kind, after a wait. -/
structure Repeats (sync : Sync σ) (state : SyncState σ) : Prop where
  mendable : sync.error? state = none
  again : state.phase = .fetching → sync.failure? state ≠ none

/-- The delay that an attempt waits for if it waits. -/
def due (sync : Sync σ) (state : SyncState σ) : Duration :=
  match state.phase with
  | .fetching => state.delay
  | .streaming =>
    if (sync.subscription state).received then sync.backoff.initial else state.delay

/-- Whether the delay that an attempt would wait for cannot be doubled. -/
def Overflows (sync : Sync σ) (state : SyncState σ) : Prop :=
  sync.Repeats state ∧ sync.backoff.next? (sync.due state) = none

/-- Whether a state has what an attempt left. -/
structure Follows (sync : Sync σ) (state next : SyncState σ) : Prop where
  sink : next.sink = sync.sink.applyAll state.sink (sync.deliveries state)
  made : ∀ kind, next.made kind = state.made kind + sync.asks state kind

/-- How an attempt ends after its requests and batches. -/
inductive Ends (sync : Sync σ) (state : SyncState σ) :
    List SyncEvent → Option (SyncState σ) → Prop
  | failed {error : Error} (herror : sync.error? state = some error) :
      Ends sync state [.fail error] none
  | overflowed (hoverflows : sync.Overflows state) : Ends sync state [.fail .syncPanicked] none
  | fetched {next : SyncState σ} (hphase : state.phase = .fetching)
      (hdone : sync.failure? state = none) (hnext : next.phase = .streaming)
      (hdelay : next.delay = sync.backoff.initial) (hfollows : sync.Follows state next) :
      Ends sync state [] (some next)
  | waited {draw : Nat} {next : SyncState σ} (hrepeats : sync.Repeats state)
      (hnext : next.phase = state.phase)
      (hdelay : sync.backoff.next? (sync.due state) = some next.delay)
      (hfollows : sync.Follows state next) :
      Ends sync state [.wait (sync.backoff.wait (sync.due state) draw)] (some next)

variable {sync : Sync σ} {state left : SyncState σ}

theorem pause_ends (hrepeats : sync.Repeats state) (hleft : left.phase = state.phase)
    (hdue : left.delay = sync.due state) (hfollows : sync.Follows state left) :
    sync.Ends state (sync.pause left).events (sync.pause left).next := by
  cases hnext : sync.backoff.next? left.delay with
  | none =>
      rw [pause_of_none hnext]
      exact .overflowed ⟨hrepeats, hdue ▸ hnext⟩
  | some delay =>
      rw [pause_of_some hnext, hdue]
      refine .waited hrepeats hleft (hdue ▸ hnext) ⟨hfollows.sink, fun kind => ?_⟩
      rw [← hfollows.made kind]
      cases kind <;> rfl

theorem recover_ends {failure : Http.Failure} (hfailure : sync.failure? state = some failure)
    (hleft : left.phase = state.phase) (hdue : left.delay = sync.due state)
    (hfollows : sync.Follows state left) :
    sync.Ends state (sync.recover left failure).events (sync.recover left failure).next := by
  have herror : sync.error? state = failure.fatal? := by rw [error?, hfailure, Option.bind_some]
  cases failure with
  | crash => exact .failed herror
  | error e =>
      cases hfatal : e.isFatal with
      | true =>
          simp only [recover, hfatal, if_true]
          exact .failed (herror.trans (by simp [Http.Failure.fatal?, hfatal]))
      | false =>
          simp only [recover, hfatal, Bool.false_eq_true, if_false]
          exact pause_ends ⟨herror.trans (by simp [Http.Failure.fatal?, hfatal]),
            fun _ => by simp [hfailure]⟩ hleft hdue hfollows

theorem foldl_hand (batches : List Batch) (provenance : Provenance) :
    batches.foldl (fun state batch => sync.hand state batch provenance) state =
      { state with
        sink := sync.sink.applyAll state.sink (batches.map fun batch => (batch, provenance)) } := by
  induction batches generalizing state with
  | nil => rfl
  | cons batch rest ih => exact ih

theorem requests_kind (sync : Sync σ) (state : SyncState σ) :
    ∀ request ∈ sync.requests state, request.kind = state.phase.kind := by
  unfold requests
  cases state.phase with
  | fetching => exact Http.Settings.fetchFrom_kind _ _ _ _
  | streaming =>
      intro request hrequest
      obtain ⟨url, rfl⟩ := (Http.Settings.openFrom_failover _ _ _ _ _ _ _).exists_url hrequest
      rfl

theorem deliveries_of_error {failure : Http.Failure} (h : state.phase = .fetching)
    (houtcome : sync.fetchOutcome state = .error failure) : sync.deliveries state = [] := by
  rw [deliveries, h]
  rcases fetchOutcome_eq_error_iff.mp houtcome with hresult | ⟨fetched, e, hresult, hbatch, -⟩
  · simp only [hresult, deliveriesOf]
  · simp only [hresult, deliveriesOf, hbatch]

theorem deliveries_of_ok {fetched : Http.Fetched} {batch : Batch} (h : state.phase = .fetching)
    (hresult : (sync.fetchRun state).result = .ok fetched) (hbatch : fetched.batch = .ok batch) :
    sync.deliveries state = [(batch, ⟨.remoteApi, some fetched.uri⟩)] := by
  simp only [deliveries, h, hresult, deliveriesOf, hbatch]

theorem fetchStep_ends (sync : Sync σ) (h : state.phase = .fetching) :
    ∃ ending, (sync.fetchStep state).events = (sync.requests state).map .request ++
        ((sync.deliveries state).map SyncEvent.ofDelivery ++ ending) ∧
      sync.Ends state ending (sync.fetchStep state).next := by
  have hrequests : sync.requests state = (sync.fetchRun state).requests := by rw [requests, h]
  have hmade : ∀ kind, (sync.fetched state).made kind =
      state.made kind + sync.asks state kind := by
    intro kind
    rw [asks, hrequests, h]
    cases kind <;> rfl
  cases houtcome : sync.fetchOutcome state with
  | error failure =>
      have hfailure : sync.failure? state = some failure := by
        rw [failure?, h, houtcome]
        rfl
      have hnone := deliveries_of_error h houtcome
      rw [fetchStep_of_error houtcome, hrequests, hnone]
      have hdue : (sync.fetched state).delay = sync.due state := by
        rw [due, h]
        rfl
      exact ⟨_, rfl, recover_ends hfailure rfl hdue ⟨by rw [hnone]; rfl, hmade⟩⟩
  | ok batch =>
      have hdone : sync.failure? state = none := by
        rw [failure?, h, houtcome]
        rfl
      obtain ⟨fetched, hresult, hbatch⟩ := fetchOutcome_eq_ok_iff.mp houtcome
      have hone := deliveries_of_ok h hresult hbatch
      rw [fetchStep_eq, hresult, settleFetch, hrequests, hone]
      simp only [hbatch]
      refine ⟨[], rfl, .fetched h hdone rfl rfl ⟨by rw [hone]; rfl, fun kind => ?_⟩⟩
      rw [← hmade]
      cases kind <;> rfl

theorem streamStep_eq (sync : Sync σ) (state : SyncState σ) :
    sync.streamStep state = (sync.settleSubscription
      { state with streams := state.streams + (sync.streamRun state).requests.length }
      (sync.subscription state)).after ((sync.streamRun state).requests.map .request) := by
  rw [streamStep, ← streamRun, settleStream_eq, ← subscription]

theorem streamStep_ends (sync : Sync σ) (h : state.phase = .streaming) :
    ∃ ending, (sync.streamStep state).events = (sync.requests state).map .request ++
        ((sync.deliveries state).map SyncEvent.ofDelivery ++ ending) ∧
      sync.Ends state ending (sync.streamStep state).next := by
  have hrequests : sync.requests state = (sync.streamRun state).requests := by rw [requests, h]
  have hdeliveries : sync.deliveries state =
      (sync.subscription state).batches.map fun batch => (batch, streamed) := by
    rw [deliveries, h]
  have hfailure : sync.failure? state = Http.failureOf? (sync.subscription state).result := by
    rw [failure?, h]
  have hfetching : state.phase = .fetching → sync.failure? state ≠ none := by
    intro hphase
    rw [h] at hphase
    cases hphase
  rw [streamStep_eq, settleSubscription, foldl_hand, hrequests, hdeliveries, List.map_map]
  -- an event that was received changes the delay alone
  generalize hreceived : (if (sync.subscription state).received = true then _ else _) = left
  have hdue : left.delay = sync.due state := by
    rw [← hreceived, due, h]
    dsimp only
    split <;> rfl
  have hphase : left.phase = state.phase := by
    rw [← hreceived]
    split <;> rfl
  have hfollows : sync.Follows state left := by
    rw [← hreceived]
    refine ⟨by rw [hdeliveries]; split <;> rfl, fun kind => ?_⟩
    rw [asks, hrequests, h]
    split <;> cases kind <;> rfl
  refine ⟨_, rfl, ?_⟩
  dsimp only [SyncStep.after]
  cases hresult : (sync.subscription state).result with
  | ok done =>
      have hnone : sync.failure? state = none := by rw [hfailure, hresult]; rfl
      exact pause_ends ⟨by rw [error?, hnone, Option.bind_none], hfetching⟩ hphase hdue hfollows
  | error failure =>
      exact recover_ends (by rw [hfailure, hresult]; rfl) hphase hdue hfollows

/-- An attempt makes its requests, hands on its batches, and ends. -/
theorem step_ends (sync : Sync σ) (state : SyncState σ) :
    ∃ ending, (sync.step state).events = (sync.requests state).map .request ++
        ((sync.deliveries state).map SyncEvent.ofDelivery ++ ending) ∧
      sync.Ends state ending (sync.step state).next := by
  rw [step]
  cases h : state.phase with
  | fetching => exact sync.fetchStep_ends h
  | streaming => exact sync.streamStep_ends h

theorem follows_of_next {next : SyncState σ} (h : (sync.step state).next = some next) :
    sync.Follows state next := by
  obtain ⟨ending, -, hends⟩ := sync.step_ends state
  rw [h] at hends
  cases hends with
  | fetched _ _ _ _ hfollows => exact hfollows
  | waited _ _ _ hfollows => exact hfollows

theorem Ends.asks_nothing {ending : List SyncEvent} {next : Option (SyncState σ)}
    (h : sync.Ends state ending next) : ∀ event ∈ ending, event.kind? = none := by
  cases h with
  | failed => simp [SyncEvent.kind?]
  | overflowed => simp [SyncEvent.kind?]
  | fetched => simp
  | waited => simp [SyncEvent.kind?]

theorem asked_step (sync : Sync σ) (state : SyncState σ) (kind : Http.RequestKind) :
    SyncEvent.asked kind (sync.step state).events = sync.asks state kind := by
  obtain ⟨ending, hevents, hends⟩ := sync.step_ends state
  have happlied : ∀ event ∈ (sync.deliveries state).map SyncEvent.ofDelivery,
      event.kind? = none := by
    intro event hevent
    obtain ⟨delivery, -, rfl⟩ := List.mem_map.mp hevent
    rfl
  rw [hevents, SyncEvent.asked_append, SyncEvent.asked_append,
    SyncEvent.asked_requests (sync.requests_kind state),
    SyncEvent.asked_eq_zero happlied, SyncEvent.asked_eq_zero hends.asks_nothing]
  rfl

theorem Ends.fail_mem_iff {ending : List SyncEvent} {next : Option (SyncState σ)} {error : Error}
    (h : sync.Ends state ending next) :
    .fail error ∈ ending ↔
      sync.error? state = some error ∨ error = .syncPanicked ∧ sync.Overflows state := by
  cases h with
  | failed herror =>
      have hno : ¬ sync.Overflows state := fun hoverflows => by
        simp [hoverflows.1.mendable] at herror
      simp [herror, hno, eq_comm]
  | overflowed hoverflows => simp [hoverflows.1.mendable, hoverflows]
  | fetched hphase hdone hnext hdelay hfollows =>
      have hno : ¬ sync.Overflows state := fun hoverflows => hoverflows.1.again hphase hdone
      simp [error?, hdone, hno]
  | waited hrepeats hnext hdelay hfollows =>
      have hno : ¬ sync.Overflows state := fun hoverflows => by
        rw [hoverflows.2] at hdelay
        cases hdelay
      simp [hrepeats.mendable, hno]

theorem fail_mem_step_iff {error : Error} :
    .fail error ∈ (sync.step state).events ↔
      sync.error? state = some error ∨ error = .syncPanicked ∧ sync.Overflows state := by
  obtain ⟨ending, hevents, hends⟩ := sync.step_ends state
  rw [hevents, ← hends.fail_mem_iff]
  simp [SyncEvent.ofDelivery]

/-! ## Attempts that end the run -/

theorem isFatal_of_batch {fetched : Http.Fetched} {e : Error} (h : fetched.batch = .error e) :
    e.isFatal = false := by
  unfold Http.Fetched.batch at h
  split at h
  · cases h
    rfl
  · split at h
    · cases h
    · cases h
      rfl

/-- An unusable body does not end the run. -/
theorem error?_of_fetching (h : state.phase = .fetching) :
    sync.error? state =
      (Http.failureOf? (sync.fetchRun state).result).bind Http.Failure.fatal? := by
  rw [error?, failure?, h]
  cases houtcome : sync.fetchOutcome state with
  | ok batch =>
      obtain ⟨fetched, hresult, -⟩ := fetchOutcome_eq_ok_iff.mp houtcome
      rw [hresult]
      rfl
  | error failure =>
      rcases fetchOutcome_eq_error_iff.mp houtcome with hresult | ⟨fetched, e, hresult, hbatch, rfl⟩
      · rw [hresult]
        rfl
      · rw [hresult]
        simp [Http.failureOf?, Http.Failure.fatal?, isFatal_of_batch hbatch]

/-- A stream that breaks does not end the run. -/
theorem error?_of_streaming (h : state.phase = .streaming) :
    sync.error? state =
      (Http.failureOf? (sync.streamRun state).result).bind Http.Failure.fatal? := by
  rw [error?, failure?, h, subscription]
  cases (sync.streamRun state).result with
  | error failure => rfl
  | ok answer =>
      rw [Http.ofOpening_ok]
      cases Stream.breakOf? answer.chunks <;> rfl

/-- Whether an attempt gets to a host that cannot have the endpoint. -/
def Refuses (sync : Sync σ) (state : SyncState σ) (e : Error) : Prop :=
  match state.phase with
  | .fetching =>
      (sync.http.fetchLaw (sync.sink.highwater state.sink) state.cache
        (sync.clock state)).Refuses
        sync.surroundings.fetches state.fetches sync.http.apiHosts e
  | .streaming =>
      (sync.http.streamLaw (sync.sink.highwater state.sink)).Refuses
        sync.surroundings.streams state.streams sync.http.streamHosts e

theorem exists_asked_iff {p : Http.RequestKind → Nat → Prop} :
    (∃ kind, ∃ i < sync.asks state kind, p kind i) ↔
      ∃ i < (sync.requests state).length, p state.phase.kind i := by
  constructor
  · rintro ⟨kind, i, hi, h⟩
    rw [asks] at hi
    split at hi
    · rename_i hkind
      exact ⟨i, hi, hkind ▸ h⟩
    · cases hi
  · rintro ⟨i, hi, h⟩
    exact ⟨_, i, by simpa [asks] using hi, h⟩

theorem error?_eq_some_iff (husable : state.phase = .fetching → state.cache.usable = true)
    (hclock : state.phase = .fetching → ∀ i response,
      sync.surroundings.fetches i = .answer response →
        ¬ (Http.CacheControl.ofResponse response).OutlastsClock ((sync.clock state).reply i))
    (error : Error) :
    sync.error? state = some error ↔
      Fatality
        (∃ kind, ∃ i < sync.asks state kind, sync.surroundings.Rejects kind (state.made kind + i))
        (∃ kind, ∃ i < sync.asks state kind, sync.surroundings.Crashes kind (state.made kind + i))
        (sync.Refuses state) error := by
  rw [exists_asked_iff, exists_asked_iff, requests]
  unfold Refuses
  cases h : state.phase with
  | fetching =>
      rw [error?_of_fetching h]
      exact (sync.http.fetchFrom_failover _ sync.http.apiHosts none state.fetches (husable h)
        (hclock h)).fatal_iff error
  | streaming =>
      rw [error?_of_streaming h]
      exact (sync.http.openFrom_failover _ _ state.cache sync.http.streamHosts none
        state.streams).fatal_iff error

end Sync
end LiveConfig
