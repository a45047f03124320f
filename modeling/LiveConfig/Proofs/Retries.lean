import LiveConfig.Proofs.ResponseCache
import LiveConfig.Sync

/-!
# Retries of the first fetch

An attempt to fetch that fails with an error which another attempt may mend is followed by
another one, as long as the delay can be doubled, and that one asks the server, unless the
cache serves it (`Sync.retry_asks_iff`).  The cache can do so, as a body is kept before it
is read.  Then the retry fails with the error of a body that an answer to an earlier attempt
brought (`Sync.ServedFromCache`).

While a run fetches, every entry of its cache has an unusable body from an answer to an
attempt of that run (`Sync.Fruitless`): what a fetch adds to the cache it also returns
(`Http.Settings.fetch_brings`).
-/

namespace LiveConfig

namespace Http

/-- Whether a request of a run for a URI was answered with a response, and when. -/
def Run.Answered (run : Run Fetched) (replies : Nat → Reply Response) (clock : Clock)
    (made : Nat) (uri : String) (now : Nat) (response : Response) : Prop :=
  ∃ exchange ∈ run.exchanges replies clock made,
    exchange.request.url.text = uri ∧ exchange.reply = .answer response ∧
      exchange.arrived = now

/-- Whether a run returns the body of an entry of its cache, with a lifetime from an answer
of the run and the body of that answer or of an entry that was there before. -/
structure Run.Brings (run : Run Fetched) (before : ResponseCache)
    (replies : Nat → Reply Response) (clock : Clock) (made : Nat) (uri : String)
    (entry : CacheEntry) : Prop where
  answered : ∃ now response, run.Answered replies clock made uri now response ∧
    (CacheControl.ofResponse response).expiry? now = some entry.expiresAt ∧
    (isSuccess response.status = true ∧ response.body = entry.body ∨
      ∃ old, before.find? uri = some old ∧ old.body = entry.body)
  returned : ∃ fetched, run.result = .ok fetched ∧ fetched.body = entry.body

theorem Fetched.batch_of_body {fetched other : Fetched} (h : fetched.body = other.body) :
    fetched.batch = other.batch := by
  rw [batch, batch, h]

variable {cache next : ResponseCache} {uri other : String} {made : Nat} {clock : Clock}
  {replies : Nat → Reply Response} {result : Except Failure Fetched} {entry : CacheEntry}

theorem Run.Brings.of_touch {run : Run Fetched} {touched : String}
    (h : run.Brings (cache.touch touched) replies clock made uri entry) :
    run.Brings cache replies clock made uri entry := by
  obtain ⟨⟨now, response, hanswered, hexpiry, hbody⟩, hreturned⟩ := h
  rw [ResponseCache.find?_touch] at hbody
  exact ⟨⟨now, response, hanswered, hexpiry, hbody⟩, hreturned⟩

theorem Run.Brings.after {run : Run Fetched} {request : Request}
    (h : run.Brings cache replies clock (made + 1) uri entry) :
    (run.after request).Brings cache replies clock made uri entry := by
  obtain ⟨⟨now, response, ⟨exchange, hexchange, hanswer⟩, hrest⟩, hreturned⟩ := h
  refine ⟨⟨now, response, ⟨exchange, ?_, hanswer⟩, hrest⟩, hreturned⟩
  rw [Run.exchanges_after]
  exact List.mem_cons_of_mem _ hexchange

theorem Decides.brings (request : Request) (h : cache.usable = true)
    (hdecides : Decides cache (clock.reply made) request.url.text (replies made) result next)
    (hentry : next.find? other = some entry) :
    cache.find? other = some entry ∨
      Run.Brings (Run.after request ⟨[], result, next⟩) cache replies clock made other entry := by
  have hanswered : ∀ response, replies made = .answer response →
      (Run.after request ⟨[], result, next⟩).Answered replies clock made request.url.text
        (clock.reply made) response :=
    fun response hreply => ⟨⟨request, replies made, clock.reply made⟩, by simp, rfl, hreply, rfl⟩
  generalize hreply : replies made = reply at hdecides
  cases hdecides with
  | crash => exact .inl hentry
  | unauthorized hstatus => exact .inl hentry
  | fetched hsuccess hpast =>
      rcases ResponseCache.find?_store h hpast hentry with hbefore | ⟨rfl, hbody, hexpiry⟩
      · exact .inl hbefore
      · exact .inr ⟨⟨_, _, hanswered _ hreply, hexpiry, .inl ⟨hsuccess, hbody.symm⟩⟩,
          _, rfl, hbody.symm⟩
  | notKept hsuccess hpast => exact .inl hentry
  | revalidated hstatus hcached hpast =>
      rcases ResponseCache.find?_revalidated h hpast hentry with
        hbefore | ⟨rfl, ⟨old, hold, hbody⟩, hexpiry⟩
      · exact .inl hbefore
      · have hsame : _ = old := Option.some.inj (hcached.symm.trans hold)
        subst hsame
        exact .inr ⟨⟨_, _, hanswered _ hreply, hexpiry, .inr ⟨_, hold, hbody⟩⟩, _, rfl, hbody⟩
  | notRevived hstatus hpast => exact .inl hentry

theorem isFatal_of_endpoint {host : Url} {path : List String} {e : Error}
    (h : endpoint host path = .error e) : e.isFatal = true := by
  unfold endpoint at h
  split at h
  · simp at h
  · simp only [Except.error.injEq] at h
    rw [← h]
    rfl

namespace Settings

variable {settings : Settings} {since : Int}

/-- An entry after a fetch was there before, or the fetch brings it. -/
theorem fetchFrom_brings (hosts : List Url) (last : Option Error) (made : Nat)
    {cache : ResponseCache} (h : cache.usable = true)
    (hentry : (settings.fetchFrom replies clock since hosts last made cache).cache.find? uri =
      some entry) :
    cache.find? uri = some entry ∨
      (settings.fetchFrom replies clock since hosts last made cache).Brings cache replies clock
        made uri entry := by
  revert hentry
  refine fetchFrom_induction
    (motive := fun _ made cache run => cache.usable = true → run.cache.find? uri = some entry →
      cache.find? uri = some entry ∨ run.Brings cache replies clock made uri entry)
    ?none_left ?refused ?fresh ?decided ?failed hosts last made h h
  case none_left => exact fun last made cache h hentry => .inl hentry
  case refused => exact fun host rest made cache e hendpoint h hentry => .inl hentry
  case fresh =>
    intro host rest made cache url cached hendpoint hcached hfresh h hentry
    exact .inl (by simpa using hentry)
  case decided =>
    intro host rest made cache url result next hendpoint hstale hdecides h hentry
    have htouched : (cache.touch url.text).usable = true := by simpa using h
    have hbrings := Decides.brings (settings.fetchRequest url (cache.find? url.text)) htouched
      hdecides hentry
    rw [ResponseCache.find?_touch] at hbrings
    exact hbrings.imp_right Run.Brings.of_touch
  case failed =>
    intro host rest made cache url run hendpoint hstale hbroken ih h hentry
    have hbrings := ih (by simpa using h) hentry
    rw [ResponseCache.find?_touch] at hbrings
    exact hbrings.imp_right fun hrun => hrun.of_touch.after

theorem fetch_brings (settings : Settings) (replies : Nat → Reply Response) (made : Nat)
    (clock : Clock) (since : Int) {cache : ResponseCache} (h : cache.usable = true) {uri : String}
    {entry : CacheEntry}
    (hentry : (settings.fetch replies made clock since cache).cache.find? uri = some entry) :
    cache.find? uri = some entry ∨
      (settings.fetch replies made clock since cache).Brings cache replies clock made uri entry :=
  fetchFrom_brings settings.apiHosts none made h hentry

/-- The URL that a fetch asks first. -/
def firstUrl? (settings : Settings) (since : Int) : Option Url :=
  settings.apiHosts.head?.bind fun host => (endpoint host (configsPath since)).toOption

theorem firstUrl?_eq_some_iff {url : Url} :
    settings.firstUrl? since = some url ↔ ∃ host rest, settings.apiHosts = host :: rest ∧
      endpoint host (configsPath since) = .ok url := by
  unfold firstUrl?
  cases settings.apiHosts with
  | nil => simp
  | cons host rest =>
      cases hendpoint : endpoint host (configsPath since) with
      | error e => simp [hendpoint, Except.toOption]
      | ok url' => simp [hendpoint, Except.toOption]

theorem isFatal_of_firstUrl?_eq_none (hhosts : settings.apiHosts ≠ [])
    (hurl : settings.firstUrl? since = none) (replies : Nat → Reply Response) (made : Nat)
    (clock : Clock) (cache : ResponseCache) :
    ∃ e, (settings.fetch replies made clock since cache).result = .error (.error e) ∧
      e.isFatal = true := by
  obtain ⟨host, rest, hlist⟩ := List.exists_cons_of_ne_nil hhosts
  unfold firstUrl? at hurl
  rw [fetch, hlist, fetchFrom]
  cases hendpoint : endpoint host (configsPath since) with
  | error e => exact ⟨e, rfl, isFatal_of_endpoint hendpoint⟩
  | ok url => simp [hlist, hendpoint, Except.toOption] at hurl

variable {url : Url}

theorem fetch_of_fresh (h : cache.usable = true) (hurl : settings.firstUrl? since = some url)
    (hentry : cache.find? url.text = some entry)
    (hfresh : entry.isFresh (clock.turn made) = true) :
    settings.fetch replies made clock since cache =
      ⟨[], .ok ⟨200, true, url.text, entry.body⟩, cache.touch url.text⟩ := by
  obtain ⟨host, rest, hlist, hendpoint⟩ := firstUrl?_eq_some_iff.mp hurl
  have hsome : (some entry).filter (·.isFresh (clock.turn made)) = some entry := by
    simp [Option.filter, hfresh]
  rw [fetch, hlist, fetchFrom, hendpoint]
  simp [ResponseCache.get_of_usable h, hentry, hsome]

theorem fetch_requests_ne_nil (h : cache.usable = true)
    (hurl : settings.firstUrl? since = some url)
    (hstale : ∀ entry, cache.find? url.text = some entry →
      entry.isFresh (clock.turn made) = false) :
    (settings.fetch replies made clock since cache).requests ≠ [] := by
  obtain ⟨host, rest, hlist, hendpoint⟩ := firstUrl?_eq_some_iff.mp hurl
  have hnone : (cache.find? url.text).filter (·.isFresh (clock.turn made)) = none := by
    simpa [Option.filter_eq_none_iff] using hstale
  rw [fetch, hlist, fetchFrom, hendpoint]
  simp [ResponseCache.get_of_usable h, hnone, Run.after]

end Settings
end Http

namespace Sync

variable {σ : Type}

/-- The clock of an attempt. -/
def clock (sync : Sync σ) (state : SyncState σ) : Http.Clock :=
  sync.surroundings.clock state.waits

/-- The fetch of an attempt. -/
def fetchRun (sync : Sync σ) (state : SyncState σ) : Http.Run Http.Fetched :=
  sync.http.fetch sync.surroundings.fetches state.fetches (sync.clock state)
    (sync.sink.highwater state.sink) state.cache

/-- What an attempt to fetch comes to: a batch, or why there is none. -/
def fetchOutcome (sync : Sync σ) (state : SyncState σ) : Except Http.Failure Batch :=
  match (sync.fetchRun state).result with
  | .error failure => .error failure
  | .ok fetched =>
    match fetched.batch with
    | .error e => .error (.error e)
    | .ok batch => .ok batch

/-- The state once the fetch of an attempt has ended. -/
def fetched (sync : Sync σ) (state : SyncState σ) : SyncState σ :=
  { state with
    cache := (sync.fetchRun state).cache
    fetches := state.fetches + (sync.fetchRun state).requests.length }

/-- The state for the attempt after a fetch that failed, with the delay that follows. -/
def retry (sync : Sync σ) (state : SyncState σ) (delay : Duration) : SyncState σ :=
  { sync.fetched state with delay, waits := state.waits + 1 }

variable {sync : Sync σ} {state next : SyncState σ}

theorem pause_of_none (h : sync.backoff.next? state.delay = none) :
    sync.pause state = ⟨[.fail .syncPanicked], none⟩ := by
  rw [pause, h]

theorem pause_of_some {delay : Duration} (h : sync.backoff.next? state.delay = some delay) :
    sync.pause state =
      ⟨[.wait (sync.backoff.wait state.delay (sync.surroundings.draws state.waits))],
        some { state with delay, waits := state.waits + 1 }⟩ := by
  rw [pause, h]

theorem next_pause (sync : Sync σ) (state : SyncState σ) :
    (sync.pause state).next = (sync.backoff.next? state.delay).map fun delay =>
      { state with delay, waits := state.waits + 1 } := by
  cases h : sync.backoff.next? state.delay with
  | none => rw [pause_of_none h, Option.map_none]
  | some delay => rw [pause_of_some h, Option.map_some]

/-- An attempt has no batch if its fetch fails or if the body is unusable. -/
theorem fetchOutcome_eq_error_iff {failure : Http.Failure} :
    sync.fetchOutcome state = .error failure ↔
      (sync.fetchRun state).result = .error failure ∨
        ∃ fetched e, (sync.fetchRun state).result = .ok fetched ∧ fetched.batch = .error e ∧
          failure = .error e := by
  unfold fetchOutcome
  cases (sync.fetchRun state).result with
  | error failure' => simp
  | ok fetched =>
      cases hbatch : fetched.batch with
      | error e => simp [hbatch, eq_comm]
      | ok batch => simp [hbatch]

theorem fetchOutcome_eq_ok_iff {batch : Batch} :
    sync.fetchOutcome state = .ok batch ↔
      ∃ fetched, (sync.fetchRun state).result = .ok fetched ∧ fetched.batch = .ok batch := by
  unfold fetchOutcome
  cases (sync.fetchRun state).result with
  | error failure => simp
  | ok fetched =>
      cases hbatch : fetched.batch with
      | error e => simp [hbatch]
      | ok batch => simp [hbatch]

theorem fetchStep_eq (sync : Sync σ) (state : SyncState σ) :
    sync.fetchStep state =
      (sync.settleFetch (sync.fetched state) (sync.fetchRun state).result).after
        ((sync.fetchRun state).requests.map .request) := rfl

theorem fetchStep_of_error {failure : Http.Failure}
    (h : sync.fetchOutcome state = .error failure) :
    sync.fetchStep state = (sync.recover (sync.fetched state) failure).after
      ((sync.fetchRun state).requests.map .request) := by
  rw [fetchStep_eq]
  rcases fetchOutcome_eq_error_iff.mp h with hresult | ⟨fetched, e, hresult, hbatch, rfl⟩
  · rw [hresult, settleFetch]
  · simp only [hresult, settleFetch, hbatch]

theorem fetchStep_of_ok {batch : Batch} (h : sync.fetchOutcome state = .ok batch) :
    ∃ provenance next, next.phase = .streaming ∧ sync.fetchStep state =
      SyncStep.after ⟨[.apply batch provenance], some next⟩
        ((sync.fetchRun state).requests.map .request) := by
  obtain ⟨fetched, hresult, hbatch⟩ := fetchOutcome_eq_ok_iff.mp h
  rw [fetchStep_eq]
  simp only [hresult, settleFetch, hbatch]
  exact ⟨_, _, rfl, rfl⟩

theorem asks_after {step : SyncStep σ} (h : ∀ event ∈ step.events, event.isRequest = false)
    (requests : List Http.Request) :
    (∃ event ∈ (step.after (requests.map .request)).events, event.isRequest = true) ↔
      requests ≠ [] := by
  cases requests with
  | nil => simpa [SyncStep.after] using h
  | cons request rest => simp [SyncStep.after, SyncEvent.isRequest]

theorem isRequest_pause (sync : Sync σ) (state : SyncState σ) :
    ∀ event ∈ (sync.pause state).events, event.isRequest = false := by
  cases h : sync.backoff.next? state.delay with
  | none => simp [pause_of_none h, SyncEvent.isRequest]
  | some delay => simp [pause_of_some h, SyncEvent.isRequest]

theorem isRequest_recover (failure : Http.Failure) :
    ∀ event ∈ (sync.recover state failure).events, event.isRequest = false := by
  cases failure with
  | crash => simp [recover, SyncEvent.isRequest]
  | error e =>
      cases hfatal : e.isFatal with
      | true => simp [recover, hfatal, SyncEvent.isRequest]
      | false =>
          simp only [recover, hfatal, Bool.false_eq_true, if_false]
          exact sync.isRequest_pause state

theorem asks_iff (h : state.phase = .fetching) :
    (∃ event ∈ (sync.step state).events, event.isRequest = true) ↔
      (sync.fetchRun state).requests ≠ [] := by
  rw [step, h]
  cases houtcome : sync.fetchOutcome state with
  | error failure =>
      simp only [fetchStep_of_error houtcome]
      exact asks_after (isRequest_recover failure) _
  | ok batch =>
      obtain ⟨provenance, next, -, hstep⟩ := fetchStep_of_ok houtcome
      simp only [hstep]
      exact asks_after (by simp [SyncEvent.isRequest]) _

/-- A run goes on fetching exactly after a failure that another attempt may mend, unless the
delay cannot be doubled. -/
theorem step_of_mendable {e : Error} (h : state.phase = .fetching)
    (hfailed : sync.fetchOutcome state = .error (.error e)) (hmendable : e.isFatal = false) :
    (sync.step state).next = (sync.backoff.next? state.delay).map (sync.retry state) := by
  rw [step, h]
  simp only [fetchStep_of_error hfailed, recover, hmendable, SyncStep.after, Bool.false_eq_true,
    if_false]
  exact sync.next_pause (sync.fetched state)

theorem mendable_of_step (h : state.phase = .fetching)
    (hnext : (sync.step state).next = some next) (hphase : next.phase = .fetching) :
    ∃ e, sync.fetchOutcome state = .error (.error e) ∧ e.isFatal = false := by
  rw [step, h] at hnext
  cases houtcome : sync.fetchOutcome state with
  | ok batch =>
      obtain ⟨provenance, next', hstreaming, hstep⟩ := fetchStep_of_ok houtcome
      simp only [hstep, SyncStep.after, Option.some.injEq] at hnext
      rw [← hnext, hstreaming] at hphase
      cases hphase
  | error failure =>
      simp only [fetchStep_of_error houtcome] at hnext
      cases failure with
      | crash => cases hnext
      | error e =>
          refine ⟨e, rfl, ?_⟩
          cases hfatal : e.isFatal with
          | false => rfl
          | true => simp [recover, hfatal, SyncStep.after] at hnext

theorem phase_pause (hnext : (sync.pause state).next = some next) : next.phase = state.phase := by
  rw [next_pause] at hnext
  obtain ⟨delay, -, rfl⟩ := Option.map_eq_some_iff.mp hnext
  rfl

theorem phase_recover {failure : Http.Failure}
    (hnext : (sync.recover state failure).next = some next) : next.phase = state.phase := by
  cases failure with
  | crash => cases hnext
  | error e =>
      cases hfatal : e.isFatal with
      | true => simp [recover, hfatal] at hnext
      | false =>
          simp only [recover, hfatal, Bool.false_eq_true, if_false] at hnext
          exact phase_pause hnext

theorem phase_foldl_hand (batches : List Batch) (provenance : Provenance) :
    (batches.foldl (fun state batch => sync.hand state batch provenance) state).phase =
      state.phase := by
  induction batches generalizing state with
  | nil => rfl
  | cons batch rest ih => exact ih

/-- The streams are not left again. -/
theorem phase_step (h : state.phase = .streaming)
    (hnext : (sync.step state).next = some next) : next.phase = .streaming := by
  rw [step, h] at hnext
  simp only [streamStep] at hnext
  unfold settleStream at hnext
  split at hnext
  · exact (phase_recover hnext).trans h
  · refine (phase_pause hnext).trans ?_
    split
    · exact (phase_foldl_hand _ streamed).trans h
    · exact (phase_foldl_hand _ streamed).trans h

/-- The state after some attempts, unless the run has ended by then. -/
def advance (sync : Sync σ) : (attempts : Nat) → SyncState σ → Option (SyncState σ)
  | 0, state => some state
  | attempts + 1, state => (sync.step state).next.bind (sync.advance attempts)

theorem advance_succ (attempts : Nat) (state : SyncState σ) :
    sync.advance (attempts + 1) state =
      (sync.advance attempts state).bind fun last => (sync.step last).next := by
  induction attempts generalizing state with
  | zero =>
      rw [advance, advance, Option.bind_some]
      cases (sync.step state).next <;> rfl
  | succ attempts ih =>
      rw [advance, advance, Option.bind_assoc]
      exact congrArg _ (funext ih)

/-- The events of a run are those of its attempts, one after another. -/
theorem run_succ (attempts : Nat) (state : SyncState σ) :
    sync.run (attempts + 1) state = sync.run attempts state ++
      ((sync.advance attempts state).map fun last => (sync.step last).events).getD [] := by
  induction attempts generalizing state with
  | zero =>
      simp only [run, advance, Option.map_some, Option.getD_some, List.nil_append]
      cases (sync.step state).next with
      | none => exact List.append_nil _
      | some next => exact List.append_nil _
  | succ attempts ih =>
      rw [run, run, advance]
      cases (sync.step state).next with
      | none => exact (List.append_nil _).symm
      | some next =>
          dsimp only
          rw [ih next, Option.bind_some, List.append_assoc]

/-- The state before an attempt, unless the run has ended. -/
def before (sync : Sync σ) (sink : σ) (n : Nat) : Option (SyncState σ) :=
  sync.advance n (sync.start sink)

/-- Whether a request for a URI in one of the attempts before the `n`-th was answered with a
response, and when. -/
def Answered (sync : Sync σ) (sink : σ) (n : Nat) (uri : String) (now : Nat)
    (response : Http.Response) : Prop :=
  ∃ attempt < n, ∃ state, sync.before sink attempt = some state ∧ state.phase = .fetching ∧
    (sync.fetchRun state).Answered sync.surroundings.fetches (sync.clock state) state.fetches uri
      now response

/-- Whether an entry has an unusable body and a lifetime from answers to attempts before the
`n`-th. -/
structure Spoiled (sync : Sync σ) (sink : σ) (n : Nat) (uri : String)
    (entry : Http.CacheEntry) : Prop where
  body : ∃ now response, sync.Answered sink n uri now response ∧
    Http.isSuccess response.status = true ∧ response.body = entry.body
  lifetime : ∃ now response, sync.Answered sink n uri now response ∧
    (Http.CacheControl.ofResponse response).expiry? now = some entry.expiresAt
  unusable : ∃ e, (⟨200, true, uri, entry.body⟩ : Http.Fetched).batch = .error e

/-- What holds before every attempt to fetch. -/
structure Fruitless (sync : Sync σ) (sink : σ) (n : Nat) (state : SyncState σ) : Prop where
  unchanged : state.sink = sink
  usable : state.cache.usable = true
  spoiled : ∀ uri entry, state.cache.find? uri = some entry → sync.Spoiled sink n uri entry

section Invariant

variable {sink : σ} {n : Nat} {uri : String} {entry : Http.CacheEntry}

theorem Answered.succ {now : Nat} {response : Http.Response}
    (h : sync.Answered sink n uri now response) : sync.Answered sink (n + 1) uri now response := by
  obtain ⟨attempt, hattempt, hanswered⟩ := h
  exact ⟨attempt, Nat.lt_succ_of_lt hattempt, hanswered⟩

theorem Spoiled.succ (h : sync.Spoiled sink n uri entry) : sync.Spoiled sink (n + 1) uri entry := by
  obtain ⟨⟨_, _, hbody, hrest⟩, ⟨_, _, hlifetime, hexpiry⟩, hunusable⟩ := h
  exact ⟨⟨_, _, hbody.succ, hrest⟩, ⟨_, _, hlifetime.succ, hexpiry⟩, hunusable⟩

theorem Fruitless.retry {e : Error} (delay : Duration) (h : sync.Fruitless sink n state)
    (hstate : sync.before sink n = some state) (hphase : state.phase = .fetching)
    (hfailed : sync.fetchOutcome state = .error (.error e)) :
    sync.Fruitless sink (n + 1) (sync.retry state delay) := by
  have hresult := fetchOutcome_eq_error_iff.mp hfailed
  refine ⟨h.unchanged, ?_, ?_⟩
  · have hwithstands : (sync.fetchRun state).Withstands state.cache sync.surroundings.fetches
        (sync.clock state) state.fetches :=
      sync.http.fetch_withstands _ _ _ _ h.usable
    refine hwithstands.usable fun hcrash => ?_
    rcases hresult with herror | ⟨fetched, _, hok, -⟩
    · simp [hcrash] at herror
    · simp [hcrash] at hok
  · intro uri entry hentry
    rcases sync.http.fetch_brings _ _ _ _ h.usable hentry with hbefore | hbrings
    · exact (h.spoiled uri entry hbefore).succ
    · obtain ⟨⟨now, response, hanswered, hexpiry, hbody⟩, fetched, hfetched, hsame⟩ := hbrings
      have hnow : sync.Answered sink (n + 1) uri now response :=
        ⟨n, Nat.lt_succ_self n, state, hstate, hphase, hanswered⟩
      refine ⟨?_, ⟨_, _, hnow, hexpiry⟩, ?_⟩
      · rcases hbody with ⟨hsuccess, hbody⟩ | ⟨old, hold, hbody⟩
        · exact ⟨_, _, hnow, hsuccess, hbody⟩
        · obtain ⟨_, _, hanswered, hsuccess, hsame⟩ := (h.spoiled uri old hold).body
          exact ⟨_, _, hanswered.succ, hsuccess, hsame.trans hbody⟩
      · -- the body that the fetch kept is the one that it returned, and that one failed
        rcases hresult with herror | ⟨fetched', e', hok, hbatch, -⟩
        · exact absurd (hfetched.symm.trans herror) (by simp)
        · obtain rfl := Except.ok.inj (hfetched.symm.trans hok)
          exact ⟨e', (Http.Fetched.batch_of_body hsame.symm).trans hbatch⟩

theorem fruitless_of_before (hstate : sync.before sink n = some state)
    (hphase : state.phase = .fetching) : sync.Fruitless sink n state := by
  induction n generalizing state with
  | zero =>
      obtain rfl := Option.some.inj hstate
      exact ⟨rfl, rfl, fun uri entry hentry => by cases hentry⟩
  | succ n ih =>
      rw [before, advance_succ] at hstate
      obtain ⟨earlier, hearlier, hnext⟩ := Option.bind_eq_some_iff.mp hstate
      cases hfetching : earlier.phase with
      | streaming => simp [phase_step hfetching hnext] at hphase
      | fetching =>
          obtain ⟨e, hfailed, hmendable⟩ := mendable_of_step hfetching hnext hphase
          rw [step_of_mendable hfetching hfailed hmendable] at hnext
          obtain ⟨delay, -, rfl⟩ := Option.map_eq_some_iff.mp hnext
          exact (ih hearlier hfetching).retry delay hearlier hfetching hfailed

end Invariant

theorem firstUrl?_of_failed {e : Error} (hhosts : sync.http.apiHosts ≠ [])
    (hfailed : sync.fetchOutcome state = .error (.error e)) (hmendable : e.isFatal = false) :
    ∃ url, sync.http.firstUrl? (sync.sink.highwater state.sink) = some url := by
  rw [← Option.ne_none_iff_exists']
  intro hnone
  obtain ⟨e', hresult, hfatal⟩ := Http.Settings.isFatal_of_firstUrl?_eq_none hhosts hnone
    sync.surroundings.fetches state.fetches (sync.clock state) state.cache
  have hfailed' : sync.fetchOutcome state = .error (.error e') := by
    rw [fetchOutcome, fetchRun, hresult]
  rw [hfailed'] at hfailed
  cases hfailed
  simp [hfatal] at hmendable

theorem fetchOutcome_of_fresh {url : Url} {entry : Http.CacheEntry} {e : Error}
    (husable : state.cache.usable = true)
    (hurl : sync.http.firstUrl? (sync.sink.highwater state.sink) = some url)
    (hentry : state.cache.find? url.text = some entry)
    (hfresh : entry.isFresh ((sync.clock state).turn state.fetches) = true)
    (hbatch : (⟨200, true, url.text, entry.body⟩ : Http.Fetched).batch = .error e) :
    sync.fetchOutcome state = .error (.error e) := by
  rw [fetchOutcome, fetchRun, Http.Settings.fetch_of_fresh husable hurl hentry hfresh]
  simp only [hbatch]

/-- Whether the cache answers an attempt in place of the first host, with a fresh entry
whose unusable body an answer to an earlier attempt brought. -/
structure ServedFromCache (sync : Sync σ) (sink : σ) (n : Nat) (state : SyncState σ)
    (url : Url) (entry : Http.CacheEntry) : Prop where
  first : sync.http.firstUrl? (sync.sink.highwater state.sink) = some url
  cached : state.cache.find? url.text = some entry
  fresh : entry.isFresh ((sync.clock state).turn state.fetches) = true
  spoiled : sync.Spoiled sink n url.text entry
  failed : ∃ e, (⟨200, true, url.text, entry.body⟩ : Http.Fetched).batch = .error e ∧
    sync.fetchOutcome state = .error (.error e)

/-- After a failed fetch that another attempt may mend there is a next attempt to fetch,
unless the delay cannot be doubled.  It makes a request, except where the cache serves it. -/
theorem retry_asks_iff (sync : Sync σ) (sink : σ) (hhosts : sync.http.apiHosts ≠ []) (n : Nat)
    {e : Error} (hstate : sync.before sink n = some state) (hphase : state.phase = .fetching)
    (hfailed : sync.fetchOutcome state = .error (.error e)) (hmendable : e.isFatal = false) :
    (sync.before sink (n + 1) = none ↔ sync.backoff.next? state.delay = none) ∧
      ∀ next, sync.before sink (n + 1) = some next → next.phase = .fetching ∧
        ∃ events, sync.run (n + 2) (sync.start sink) =
            sync.run (n + 1) (sync.start sink) ++ events ∧
          ((∃ event ∈ events, event.isRequest = true) ↔
            ¬ ∃ url entry, sync.ServedFromCache sink (n + 1) next url entry) := by
  have hbefore : sync.before sink (n + 1) =
      (sync.backoff.next? state.delay).map (sync.retry state) := by
    rw [before, advance_succ, show sync.advance n (sync.start sink) = some state from hstate,
      Option.bind_some, step_of_mendable hphase hfailed hmendable]
  refine ⟨by rw [hbefore, Option.map_eq_none_iff], ?_⟩
  intro next hnext
  obtain ⟨delay, -, rfl⟩ := Option.map_eq_some_iff.mp (hbefore.symm.trans hnext)
  have hfetching : (sync.retry state delay).phase = .fetching := hphase
  have hfruitless := fruitless_of_before hnext hfetching
  obtain ⟨url, hurl⟩ := firstUrl?_of_failed hhosts hfailed hmendable
  have hevents : sync.run (n + 2) (sync.start sink) =
      sync.run (n + 1) (sync.start sink) ++ (sync.step (sync.retry state delay)).events := by
    rw [run_succ,
      show sync.advance (n + 1) (sync.start sink) = some (sync.retry state delay) from hnext]
    rfl
  refine ⟨hfetching, _, hevents, ?_⟩
  rw [asks_iff hfetching]
  constructor
  · rintro hrequests ⟨url', entry, hserved⟩
    exact hrequests (congrArg Http.Run.requests
      (Http.Settings.fetch_of_fresh hfruitless.usable hserved.first hserved.cached hserved.fresh))
  · intro hserved
    refine Http.Settings.fetch_requests_ne_nil hfruitless.usable hurl fun entry hentry => ?_
    rw [← Bool.not_eq_true]
    intro hfresh
    have hspoiled := hfruitless.spoiled url.text entry hentry
    obtain ⟨e', hbatch⟩ := hspoiled.unusable
    exact hserved ⟨url, entry, hurl, hentry, hfresh, hspoiled, e', hbatch,
      fetchOutcome_of_fresh hfruitless.usable hurl hentry hfresh hbatch⟩

/-- A run over one host whose first answer has no bytes and may be kept for a minute.  It
waits for a second each time. -/
def emptyAnswerFirst : Sync Loader where
  http :=
    { sdkKey := "key"
      apiHosts := [⟨"https", some ⟨"", "api.test", none⟩, .segments [""], none, none⟩]
      streamHosts := []
      requestTimeout := .ofMillis 1000
      cacheCapacity := 4 }
  backoff := { longest := .ofMillis 1000, jitter := .zero }
  sink := Loader.sink
  surroundings :=
    { fetches := fun n =>
        .answer (if n = 0 then ⟨200, [("cache-control", "max-age=60")], []⟩
          else ⟨200, [], Utf8.encode "\x7b\x7d"⟩)
      streams := fun _ => .crash
      clock := fun waits => .still (1000000000 * waits) }

def noLoads : Loader := ⟨.empty, .empty, .empty, {}⟩

theorem retry_asks_iff_after_empty_answer :
    emptyAnswerFirst.http.apiHosts ≠ [] ∧ Error.zeroByteConfig.isFatal = false ∧
      ∃ next events, emptyAnswerFirst.before noLoads 1 = some next ∧ next.phase = .fetching ∧
        emptyAnswerFirst.run 2 (emptyAnswerFirst.start noLoads) =
          emptyAnswerFirst.run 1 (emptyAnswerFirst.start noLoads) ++ events ∧
        ((∃ event ∈ events, event.isRequest = true) ↔
          ¬ ∃ url entry, emptyAnswerFirst.ServedFromCache noLoads 1 next url entry) := by
  have hhosts : emptyAnswerFirst.http.apiHosts ≠ [] := by simp [emptyAnswerFirst]
  obtain ⟨hends, hasks⟩ := retry_asks_iff emptyAnswerFirst noLoads hhosts 0 rfl rfl rfl rfl
  have hgoes : emptyAnswerFirst.before noLoads 1 ≠ none := fun hnone => nomatch hends.mp hnone
  obtain ⟨next, hnext⟩ := Option.ne_none_iff_exists'.mp hgoes
  obtain ⟨hphase, events, hrest⟩ := hasks next hnext
  exact ⟨hhosts, rfl, next, events, hnext, hphase, hrest⟩

/-- The retry after the empty answer makes no request. -/
theorem no_request_after_empty_answer :
    emptyAnswerFirst.http.apiHosts ≠ [] ∧
      ∃ state next, emptyAnswerFirst.before noLoads 0 = some state ∧ state.phase = .fetching ∧
        emptyAnswerFirst.fetchOutcome state = .error (.error .zeroByteConfig) ∧
        Error.zeroByteConfig.isFatal = false ∧ emptyAnswerFirst.before noLoads 1 = some next ∧
        next.phase = .fetching ∧
        (emptyAnswerFirst.step next).events.all (fun event => !event.isRequest) = true := by
  have hfailed : emptyAnswerFirst.fetchOutcome (emptyAnswerFirst.start noLoads) =
      .error (.error .zeroByteConfig) := rfl
  have hnext : emptyAnswerFirst.before noLoads 1 =
      some (emptyAnswerFirst.retry (emptyAnswerFirst.start noLoads) (.ofMillis 1000)) := by
    rw [before, advance, step_of_mendable rfl hfailed rfl]
    rfl
  refine ⟨by simp [emptyAnswerFirst], _, _, rfl, rfl, hfailed, rfl, hnext, rfl, ?_⟩
  decide +kernel

end Sync
end LiveConfig
