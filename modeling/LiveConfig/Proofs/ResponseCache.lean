import LiveConfig.Http.Failover

/-!
# What a cache of responses survives

A call on a cache, or a fetch through one, returns and leaves the cache usable unless a
lifetime outlasts the clock (`CacheControl.OutlastsClock`): that of a response which is
kept, or of one which revalidates an entry.  `ResponseCache.calls_return_iff` says so for
every sequence of calls.  The two differ in what they leave behind.  A response that
cannot be kept leaves the cache as it was; a revalidation that cannot be recorded makes it
unusable for good (`CacheCall.usable_after_of_unusable`), and then no fetch has a result
(`Settings.fetch_of_unusable`).

What a fetch through a usable cache can do is said once (`Settings.fetchFrom_induction`).
-/

namespace LiveConfig
namespace Http

/-- Whether what arrives now would live past the last second of the clock. -/
def CacheControl.OutlastsClock (control : CacheControl) (now : Nat) : Prop :=
  control.noCache = false ∧ lastSecond < now / 1000000000 + control.maxAge.getD 0

theorem CacheControl.expiry?_eq_none_iff (control : CacheControl) (now : Nat) :
    control.expiry? now = none ↔ control.OutlastsClock now := by
  unfold expiry? OutlastsClock
  cases hcache : control.noCache with
  | true => simp
  | false => simp

theorem CacheControl.exists_expiry {control : CacheControl} {now : Nat}
    (h : ¬ control.OutlastsClock now) : ∃ expiresAt, control.expiry? now = some expiresAt := by
  rwa [← Option.ne_none_iff_exists', Ne, control.expiry?_eq_none_iff]

/-- Whether a response may be kept and can be of use later. -/
def Response.IsKept (response : Response) : Prop :=
  (CacheControl.ofResponse response).noStore = false ∧
    ((CacheControl.ofResponse response).maxAge.isSome ∨ (response.header? "etag").isSome)

theorem Response.isKept_iff (response : Response) :
    response.IsKept ↔
      ((CacheControl.ofResponse response).noStore ||
        ((CacheControl.ofResponse response).maxAge.isNone &&
          (response.header? "etag").isNone)) = false := by
  unfold IsKept
  cases (CacheControl.ofResponse response).maxAge <;> cases response.header? "etag" <;> simp

/-- Whether a response has to be kept for longer than the clock counts. -/
def Response.KeptPastClock (response : Response) (now : Nat) : Prop :=
  response.IsKept ∧ (CacheControl.ofResponse response).OutlastsClock now

namespace ResponseCache

def find? (cache : ResponseCache) (uri : String) : Option CacheEntry := cache.entries.lookup uri

/-- The cache after a look-up. -/
def touch (cache : ResponseCache) (uri : String) : ResponseCache :=
  match cache.find? uri with
  | some entry => { cache with entries := (uri, entry) :: without uri cache.entries }
  | none => cache

/-- Whether a response revalidates an entry for longer than the clock counts. -/
def RevivedPastClock (cache : ResponseCache) (uri : String) (response : Response) (now : Nat) :
    Prop :=
  (cache.find? uri).isSome ∧ CacheControl.ofResponse response ≠ {} ∧
    (CacheControl.ofResponse response).OutlastsClock now

theorem lookup_without {uri other : String} (h : other ≠ uri)
    (entries : List (String × CacheEntry)) :
    (without uri entries).lookup other = entries.lookup other := by
  rw [without, KeyMap.lookup_filter_ne, if_neg h]

variable {cache : ResponseCache} {uri : String} {response : Response} {now : Nat}

@[simp] theorem usable_touch (cache : ResponseCache) (uri : String) :
    (cache.touch uri).usable = cache.usable := by
  unfold touch
  split <;> rfl

@[simp] theorem find?_touch (cache : ResponseCache) (uri other : String) :
    (cache.touch uri).find? other = cache.find? other := by
  unfold touch
  cases hentry : cache.find? uri with
  | none => rfl
  | some entry =>
      by_cases hother : other = uri
      · subst hother
        simp [find?, ← hentry]
      · simp [find?, KeyMap.lookup_cons_ite, hother, lookup_without hother]

/-- What is found after an entry is put is that entry or was there before. -/
theorem find?_put {entry found : CacheEntry} {other : String}
    (h : (cache.put uri entry).find? other = some found) :
    other = uri ∧ found = entry ∨ other ≠ uri ∧ cache.find? other = some found := by
  have hall : ((uri, entry) :: without uri cache.entries).lookup other = some found := by
    -- the capacity can only take entries away
    rw [← List.take_append_drop cache.capacity (_ :: _), List.lookup_append]
    rw [find?, put] at h
    rw [h, Option.some_or]
  rw [KeyMap.lookup_cons_ite] at hall
  by_cases hother : other = uri
  · simp only [hother, if_true, Option.some.injEq] at hall
    exact .inl ⟨hother, hall.symm⟩
  · rw [if_neg hother, lookup_without hother] at hall
    exact .inr ⟨hother, hall⟩

theorem get_of_usable (h : cache.usable = true) (uri : String) :
    cache.get uri = (cache.touch uri, .ok (cache.find? uri)) := by
  unfold get touch find?
  cases cache.entries.lookup uri with
  | none => simp [h]
  | some entry => simp [h]

theorem store_of_past (hpast : response.KeptPastClock now) (cache : ResponseCache)
    (uri : String) : cache.store uri response now = (cache, .error .clockOverflow) := by
  obtain ⟨hkept, hclock⟩ := hpast
  unfold store
  simp only [response.isKept_iff.mp hkept, (CacheControl.expiry?_eq_none_iff _ now).mpr hclock]
  rfl

theorem store_of_not_kept (cache : ResponseCache) (uri : String) (hkept : ¬ response.IsKept) :
    cache.store uri response now = (cache, .ok none) := by
  rw [response.isKept_iff, Bool.not_eq_false] at hkept
  simp [store, hkept]

theorem store_of_kept {expiresAt : Nat} (h : cache.usable = true) (uri : String)
    (hkept : response.IsKept)
    (hexpiry : (CacheControl.ofResponse response).expiry? now = some expiresAt) :
    cache.store uri response now =
      (cache.put uri ⟨response.body, response.header? "etag", expiresAt⟩,
        .ok (some ⟨response.body, response.header? "etag", expiresAt⟩)) := by
  unfold store
  simp only [response.isKept_iff.mp hkept, h, hexpiry]
  rfl

/-- A response that is not to be kept changes nothing, and any other is put in place. -/
theorem store_of_not_past (h : cache.usable = true) (uri : String)
    (hpast : ¬ response.KeptPastClock now) :
    ∃ next kept, cache.store uri response now = (next, .ok kept) ∧
      (next = cache ∨ ∃ expiresAt,
        (CacheControl.ofResponse response).expiry? now = some expiresAt ∧
        next = cache.put uri ⟨response.body, response.header? "etag", expiresAt⟩) := by
  by_cases hkept : response.IsKept
  · obtain ⟨expiresAt, hexpiry⟩ := CacheControl.exists_expiry fun hclock => hpast ⟨hkept, hclock⟩
    exact ⟨_, _, store_of_kept h uri hkept hexpiry, .inr ⟨expiresAt, hexpiry, rfl⟩⟩
  · exact ⟨_, _, store_of_not_kept cache uri hkept, .inl rfl⟩

theorem revalidated_of_past (h : cache.usable = true)
    (hpast : cache.RevivedPastClock uri response now) :
    cache.revalidated uri response now =
      ({ cache with usable := false }, .error .clockOverflow) := by
  obtain ⟨hsome, hcontrol, hclock⟩ := hpast
  obtain ⟨entry, hentry⟩ := Option.isSome_iff_exists.mp hsome
  rw [find?] at hentry
  unfold revalidated
  simp [hcontrol, h, hentry, (CacheControl.expiry?_eq_none_iff _ now).mpr hclock]

theorem revalidated_of_silent (cache : ResponseCache) (uri : String) (now : Nat)
    (hsilent : CacheControl.ofResponse response = {}) :
    cache.revalidated uri response now = (cache, .ok ()) := by
  simp [revalidated, hsilent]

theorem revalidated_of_absent (h : cache.usable = true) (response : Response) (now : Nat)
    (hentry : cache.find? uri = none) :
    cache.revalidated uri response now = (cache, .ok ()) := by
  rw [find?] at hentry
  simp [revalidated, h, hentry]

theorem revalidated_of_present {entry : CacheEntry} {expiresAt : Nat} (h : cache.usable = true)
    (hcontrol : CacheControl.ofResponse response ≠ {}) (hentry : cache.find? uri = some entry)
    (hexpiry : (CacheControl.ofResponse response).expiry? now = some expiresAt) :
    cache.revalidated uri response now =
      (cache.put uri { entry with expiresAt, etag := (response.header? "etag").or entry.etag },
        .ok ()) := by
  rw [find?] at hentry
  simp [revalidated, hcontrol, h, hentry, hexpiry]

/-- A revalidation that says nothing about freshness, or of no entry, changes nothing, and
any other renews the entry. -/
theorem revalidated_of_not_past (h : cache.usable = true)
    (hpast : ¬ cache.RevivedPastClock uri response now) :
    ∃ next, cache.revalidated uri response now = (next, .ok ()) ∧
      (next = cache ∨ ∃ entry expiresAt, cache.find? uri = some entry ∧
        (CacheControl.ofResponse response).expiry? now = some expiresAt ∧
        next = cache.put uri
          { entry with expiresAt, etag := (response.header? "etag").or entry.etag }) := by
  by_cases hcontrol : CacheControl.ofResponse response = {}
  · exact ⟨_, revalidated_of_silent cache uri now hcontrol, .inl rfl⟩
  cases hentry : cache.find? uri with
  | none => exact ⟨_, revalidated_of_absent h response now hentry, .inl rfl⟩
  | some entry =>
      obtain ⟨expiresAt, hexpiry⟩ := CacheControl.exists_expiry
        fun hclock => hpast ⟨by simp [hentry], hcontrol, hclock⟩
      exact ⟨_, revalidated_of_present h hcontrol hentry hexpiry,
        .inr ⟨entry, expiresAt, rfl, hexpiry, rfl⟩⟩

theorem store_returns_iff (h : cache.usable = true) :
    (∃ kept, (cache.store uri response now).2 = .ok kept) ↔ ¬ response.KeptPastClock now := by
  by_cases hpast : response.KeptPastClock now
  · simp [store_of_past hpast, hpast]
  · obtain ⟨next, kept, hstore, -⟩ := store_of_not_past h uri hpast
    simp [hstore, hpast]

theorem usable_store (h : cache.usable = true) :
    (cache.store uri response now).1.usable = true := by
  by_cases hpast : response.KeptPastClock now
  · simpa [store_of_past hpast] using h
  · obtain ⟨next, kept, hstore, rfl | ⟨expiresAt, -, rfl⟩⟩ := store_of_not_past h uri hpast
    · simpa [hstore] using h
    · simpa [hstore, put] using h

theorem revalidated_returns_iff (h : cache.usable = true) :
    (cache.revalidated uri response now).2 = .ok () ↔
      ¬ cache.RevivedPastClock uri response now := by
  by_cases hpast : cache.RevivedPastClock uri response now
  · simp [revalidated_of_past h hpast, hpast]
  · obtain ⟨next, hdone, -⟩ := revalidated_of_not_past h hpast
    simp [hdone, hpast]

theorem usable_revalidated (h : cache.usable = true)
    (hpast : ¬ cache.RevivedPastClock uri response now) :
    (cache.revalidated uri response now).1.usable = true := by
  obtain ⟨next, hdone, rfl | ⟨entry, expiresAt, -, -, rfl⟩⟩ := revalidated_of_not_past h hpast
  · simpa [hdone] using h
  · simpa [hdone, put] using h

/-- An entry after a response was kept was there before, or it has the body and the
lifetime of the response. -/
theorem find?_store {found : CacheEntry} {other : String} (h : cache.usable = true)
    (hpast : ¬ response.KeptPastClock now)
    (hfound : (cache.store uri response now).1.find? other = some found) :
    cache.find? other = some found ∨ other = uri ∧ found.body = response.body ∧
      (CacheControl.ofResponse response).expiry? now = some found.expiresAt := by
  obtain ⟨next, kept, hstore, hnext⟩ := store_of_not_past h uri hpast
  rw [hstore] at hfound
  rcases hnext with rfl | ⟨expiresAt, hexpiry, rfl⟩
  · exact .inl hfound
  · rcases find?_put hfound with ⟨hother, rfl⟩ | ⟨-, hbefore⟩
    · exact .inr ⟨hother, rfl, hexpiry⟩
    · exact .inl hbefore

/-- An entry after a revalidation was there before, but for its lifetime. -/
theorem find?_revalidated {found : CacheEntry} {other : String} (h : cache.usable = true)
    (hpast : ¬ cache.RevivedPastClock uri response now)
    (hfound : (cache.revalidated uri response now).1.find? other = some found) :
    cache.find? other = some found ∨ other = uri ∧
      (∃ entry, cache.find? uri = some entry ∧ entry.body = found.body) ∧
      (CacheControl.ofResponse response).expiry? now = some found.expiresAt := by
  obtain ⟨next, hdone, hnext⟩ := revalidated_of_not_past h hpast
  rw [hdone] at hfound
  rcases hnext with rfl | ⟨entry, expiresAt, hentry, hexpiry, rfl⟩
  · exact .inl hfound
  · rcases find?_put hfound with ⟨hother, rfl⟩ | ⟨-, hbefore⟩
    · exact .inr ⟨hother, ⟨entry, hentry, rfl⟩, hexpiry⟩
    · exact .inl hbefore

/-- Whether a reply to a request for a URI cannot be got over: the transport itself
fails, or a lifetime outlasts the clock. -/
def BrokenBy (cache : ResponseCache) (uri : String) (now : Nat) : Reply Response → Prop
  | .answer response =>
      isSuccess response.status = true ∧ response.KeptPastClock now ∨
        response.status = 304 ∧ cache.RevivedPastClock uri response now
  | .crash => True
  | _ => False

@[simp] theorem brokenBy_touch (cache : ResponseCache) (touched uri : String) (now : Nat)
    (reply : Reply Response) :
    (cache.touch touched).BrokenBy uri now reply ↔ cache.BrokenBy uri now reply := by
  cases reply <;> simp [BrokenBy, RevivedPastClock]

end ResponseCache

section Fetch

variable {cache next : ResponseCache} {uri : String} {now : Nat} {reply : Reply Response}
  {result : Except Failure Fetched}

/-- How a reply decides a fetch through a usable cache. -/
inductive Decides (cache : ResponseCache) (now : Nat) (uri : String) :
    Reply Response → Except Failure Fetched → ResponseCache → Prop
  | crash : Decides cache now uri .crash (.error .crash) cache
  | unauthorized {response : Response} (hstatus : response.status = 401) :
      Decides cache now uri (.answer response) (.error (.error .unauthorized)) cache
  | fetched {response : Response} (hsuccess : isSuccess response.status = true)
      (hpast : ¬ response.KeptPastClock now) :
      Decides cache now uri (.answer response) (.ok ⟨response.status, false, uri, response.body⟩)
        (cache.store uri response now).1
  | notKept {response : Response} (hsuccess : isSuccess response.status = true)
      (hpast : response.KeptPastClock now) :
      Decides cache now uri (.answer response) (.error .crash) cache
  | revalidated {response : Response} {entry : CacheEntry} (hstatus : response.status = 304)
      (hentry : cache.find? uri = some entry)
      (hpast : ¬ cache.RevivedPastClock uri response now) :
      Decides cache now uri (.answer response) (.ok ⟨200, true, uri, entry.body⟩)
        (cache.revalidated uri response now).1
  | notRevived {response : Response} (hstatus : response.status = 304)
      (hpast : cache.RevivedPastClock uri response now) :
      Decides cache now uri (.answer response) (.error .crash) { cache with usable := false }

/-- A reply decides a fetch, or it says that another host is to be asked. -/
theorem judge_cases (h : cache.usable = true) (now : Nat) (uri : String)
    (reply : Reply Response) :
    (∃ result next, judge cache now uri (cache.find? uri) reply = .decided result next ∧
        Decides cache now uri reply result next) ∨
      ∃ e, judge cache now uri (cache.find? uri) reply = .next e ∧
        ¬ cache.BrokenBy uri now reply := by
  cases reply with
  | timeout => exact .inr ⟨_, rfl, id⟩
  | broken text => exact .inr ⟨_, rfl, id⟩
  | crash => exact .inl ⟨_, _, rfl, .crash⟩
  | answer response =>
      by_cases hunauthorized : response.status = 401
      · exact .inl ⟨_, _, by simp [judge, hunauthorized], .unauthorized hunauthorized⟩
      by_cases hsuccess : isSuccess response.status = true
      · left
        by_cases hpast : response.KeptPastClock now
        · refine ⟨_, _, ?_, .notKept hsuccess hpast⟩
          simp [judge, hunauthorized, hsuccess, ResponseCache.store_of_past hpast]
        · refine ⟨_, _, ?_, .fetched hsuccess hpast⟩
          obtain ⟨next, kept, hstore, -⟩ := ResponseCache.store_of_not_past h uri hpast
          simp [judge, hunauthorized, hsuccess, hstore]
      by_cases hstatus : response.status = 304
      · cases hentry : cache.find? uri with
        | none =>
            right
            refine ⟨_, by simp [judge, hstatus]; rfl, ?_⟩
            simp [ResponseCache.BrokenBy, ResponseCache.RevivedPastClock, hsuccess, hentry]
        | some entry =>
            left
            by_cases hpast : cache.RevivedPastClock uri response now
            · refine ⟨_, _, ?_, .notRevived hstatus hpast⟩
              simp [judge, hstatus, isSuccess, ResponseCache.revalidated_of_past h hpast]
            · refine ⟨_, _, ?_, .revalidated hstatus hentry hpast⟩
              obtain ⟨next, hdone, -⟩ := ResponseCache.revalidated_of_not_past h hpast
              simp [judge, hstatus, isSuccess, hdone]
      · right
        refine ⟨_, by simp [judge, hunauthorized, hsuccess, hstatus]; rfl, ?_⟩
        simp [ResponseCache.BrokenBy, hsuccess, hstatus]

theorem Decides.crash_iff (hdecides : Decides cache now uri reply result next) :
    result = .error .crash ↔ cache.BrokenBy uri now reply := by
  cases hdecides with
  | crash => simp [ResponseCache.BrokenBy]
  | unauthorized hstatus => simp [ResponseCache.BrokenBy, hstatus, isSuccess]
  | @fetched response hsuccess hpast =>
      have hstatus : response.status ≠ 304 := by
        intro hstatus
        simp [hstatus, isSuccess] at hsuccess
      simp [ResponseCache.BrokenBy, hpast, hstatus]
  | notKept hsuccess hpast => simp [ResponseCache.BrokenBy, hsuccess, hpast]
  | revalidated hstatus hentry hpast =>
      simp [ResponseCache.BrokenBy, hstatus, isSuccess, hpast]
  | notRevived hstatus hpast => simp [ResponseCache.BrokenBy, hstatus, hpast]

theorem Decides.usable (h : cache.usable = true)
    (hdecides : Decides cache now uri reply result next) (hresult : result ≠ .error .crash) :
    next.usable = true := by
  cases hdecides with
  | crash => exact h
  | unauthorized hstatus => exact h
  | fetched hsuccess hpast => exact ResponseCache.usable_store h
  | notKept hsuccess hpast => exact h
  | revalidated hstatus hentry hpast => exact ResponseCache.usable_revalidated h hpast
  | notRevived hstatus hpast => exact absurd rfl hresult

@[simp] theorem Run.result_after (request : Request) (run : Run Fetched) :
    (run.after request).result = run.result := rfl

@[simp] theorem Run.cache_after (request : Request) (run : Run Fetched) :
    (run.after request).cache = run.cache := rfl

@[simp] theorem Settings.fetchRequest_url (settings : Settings) (url : Url)
    (cached : Option CacheEntry) : (settings.fetchRequest url cached).url = url := rfl

/-- A request of a fetch, and its reply with the time at which that arrived. -/
structure Exchange where
  request : Request
  reply : Reply Response
  arrived : Nat

/-- The requests of a run with their replies; `made` requests were made before. -/
def Run.exchanges (run : Run Fetched) (replies : Nat → Reply Response) (clock : Clock)
    (made : Nat) : List Exchange :=
  (run.requests.zipIdx made).map fun request =>
    ⟨request.1, replies request.2, clock.reply request.2⟩

@[simp] theorem Run.exchanges_after (request : Request) (run : Run Fetched)
    (replies : Nat → Reply Response) (clock : Clock) (made : Nat) :
    (run.after request).exchanges replies clock made =
      ⟨request, replies made, clock.reply made⟩ :: run.exchanges replies clock (made + 1) := by
  simp [exchanges, after]

@[simp] theorem Run.exchanges_nil (result : Except Failure Fetched) (cache : ResponseCache)
    (replies : Nat → Reply Response) (clock : Clock) (made : Nat) :
    Run.exchanges ⟨[], result, cache⟩ replies clock made = [] := rfl

/-- Whether an exchange is one that cannot be got over. -/
def Exchange.Breaks (cache : ResponseCache) (exchange : Exchange) : Prop :=
  cache.BrokenBy exchange.request.url.text exchange.arrived exchange.reply

@[simp] theorem Exchange.breaks_touch (cache : ResponseCache) (uri : String)
    (exchange : Exchange) : exchange.Breaks (cache.touch uri) ↔ exchange.Breaks cache :=
  cache.brokenBy_touch uri _ _ _

/-- A run fails for good only at a reply that cannot be got over, and otherwise it leaves
the cache usable. -/
structure Run.Withstands (run : Run Fetched) (cache : ResponseCache)
    (replies : Nat → Reply Response) (clock : Clock) (made : Nat) : Prop where
  crash_iff : run.result = .error .crash ↔
    ∃ exchange ∈ run.exchanges replies clock made, exchange.Breaks cache
  usable : run.result ≠ .error .crash → run.cache.usable = true

namespace Settings

variable {settings : Settings} {replies : Nat → Reply Response} {clock : Clock} {since : Int}

/-- What a fetch through a usable cache can do: no host is left, a host has no such
endpoint, an entry is fresh, a reply decides, or the next host is asked. -/
theorem fetchFrom_induction
    {motive : List Url → Nat → ResponseCache → Run Fetched → Prop}
    (none_left : ∀ last made cache,
      motive [] made cache
        ⟨[], .error (.error (exhausted settings.apiHosts.length last)), cache⟩)
    (refused : ∀ host rest made cache e, endpoint host (configsPath since) = .error e →
      motive (host :: rest) made cache ⟨[], .error (.error e), cache⟩)
    (fresh : ∀ host rest made cache url entry, endpoint host (configsPath since) = .ok url →
      cache.find? url.text = some entry → entry.isFresh (clock.turn made) = true →
      motive (host :: rest) made cache
        ⟨[], .ok ⟨200, true, url.text, entry.body⟩, cache.touch url.text⟩)
    (decided : ∀ host rest made cache url result next,
      endpoint host (configsPath since) = .ok url →
      (cache.find? url.text).filter (·.isFresh (clock.turn made)) = none →
      Decides (cache.touch url.text) (clock.reply made) url.text (replies made) result next →
      motive (host :: rest) made cache
        (Run.after (settings.fetchRequest url (cache.find? url.text)) ⟨[], result, next⟩))
    (failed : ∀ host rest made cache url run, endpoint host (configsPath since) = .ok url →
      (cache.find? url.text).filter (·.isFresh (clock.turn made)) = none →
      ¬ cache.BrokenBy url.text (clock.reply made) (replies made) →
      motive rest (made + 1) (cache.touch url.text) run →
      motive (host :: rest) made cache
        (run.after (settings.fetchRequest url (cache.find? url.text))))
    (hosts : List Url) (last : Option Error) (made : Nat) {cache : ResponseCache}
    (h : cache.usable = true) :
    motive hosts made cache (settings.fetchFrom replies clock since hosts last made cache) := by
  induction hosts generalizing last made cache with
  | nil => exact none_left last made cache
  | cons host rest ih =>
      unfold fetchFrom
      cases hendpoint : endpoint host (configsPath since) with
      | error e => exact refused host rest made cache e hendpoint
      | ok url =>
          simp only [ResponseCache.get_of_usable h]
          have htouched : (cache.touch url.text).usable = true := by simpa using h
          cases hfresh : (cache.find? url.text).filter (·.isFresh (clock.turn made)) with
          | some entry =>
              obtain ⟨hentry, hfresh⟩ := Option.filter_eq_some_iff.mp hfresh
              exact fresh host rest made cache url entry hendpoint hentry hfresh
          | none =>
              have hentry : (cache.touch url.text).find? url.text = cache.find? url.text :=
                cache.find?_touch url.text url.text
              rcases judge_cases htouched (clock.reply made) url.text (replies made) with
                ⟨result, next, hjudge, hdecides⟩ | ⟨e, hjudge, hbroken⟩
              · rw [hentry] at hjudge
                simp only [hjudge]
                exact decided host rest made cache url result next hendpoint hfresh hdecides
              · rw [hentry] at hjudge
                simp only [hjudge]
                rw [ResponseCache.brokenBy_touch] at hbroken
                exact failed host rest made cache url _ hendpoint hfresh hbroken
                  (ih (some e) (made + 1) htouched)

theorem fetchFrom_withstands (hosts : List Url) (last : Option Error) (made : Nat)
    {cache : ResponseCache} (h : cache.usable = true) :
    (settings.fetchFrom replies clock since hosts last made cache).Withstands cache
      replies clock made := by
  refine fetchFrom_induction
    (motive := fun _ made cache run => cache.usable = true →
      run.Withstands cache replies clock made)
    ?none_left ?refused ?fresh ?decided ?failed hosts last made h h
  case none_left =>
    intro last made cache h
    exact ⟨by simp, fun _ => h⟩
  case refused =>
    intro host rest made cache e hendpoint h
    exact ⟨by simp, fun _ => h⟩
  case fresh =>
    intro host rest made cache url entry hendpoint hentry hfresh h
    exact ⟨by simp, fun _ => by simpa using h⟩
  case decided =>
    intro host rest made cache url result next hendpoint hstale hdecides h
    have htouched : (cache.touch url.text).usable = true := by simpa using h
    refine ⟨?_, hdecides.usable htouched⟩
    have hcrash := hdecides.crash_iff
    rw [ResponseCache.brokenBy_touch] at hcrash
    simpa [Exchange.Breaks] using hcrash
  case failed =>
    intro host rest made cache url run hendpoint hstale hbroken ih h
    obtain ⟨hcrash, husable⟩ := ih (by simpa using h)
    refine ⟨?_, husable⟩
    have hfirst : ¬ Exchange.Breaks cache
        ⟨settings.fetchRequest url (cache.find? url.text), replies made, clock.reply made⟩ :=
      hbroken
    simpa [hfirst] using hcrash

theorem fetch_withstands (settings : Settings) (replies : Nat → Reply Response)
    (made : Nat) (clock : Clock) (since : Int) {cache : ResponseCache}
    (h : cache.usable = true) :
    (settings.fetch replies made clock since cache).Withstands cache replies clock made :=
  fetchFrom_withstands settings.apiHosts none made h

/-- Through an unusable cache no fetch makes a request, and none has a result. -/
theorem fetchFrom_of_unusable (hosts : List Url) (last : Option Error) (made : Nat)
    {cache : ResponseCache} (h : cache.usable = false) :
    ∃ failure, settings.fetchFrom replies clock since hosts last made cache =
      ⟨[], .error failure, cache⟩ := by
  cases hosts with
  | nil => exact ⟨_, rfl⟩
  | cons host rest =>
      unfold fetchFrom
      cases endpoint host (configsPath since) with
      | error e => exact ⟨_, rfl⟩
      | ok url => exact ⟨.crash, by simp [ResponseCache.get, h]⟩

theorem fetch_of_unusable (settings : Settings) (replies : Nat → Reply Response)
    (made : Nat) (clock : Clock) (since : Int) {cache : ResponseCache}
    (h : cache.usable = false) :
    ∃ failure, settings.fetch replies made clock since cache = ⟨[], .error failure, cache⟩ :=
  fetchFrom_of_unusable settings.apiHosts none made h

end Settings
end Fetch

/-- What can be asked of a cache: by itself, or by a fetch through it. -/
inductive CacheCall
  | get (uri : String)
  | store (uri : String) (response : Response) (now : Nat)
  | revalidate (uri : String) (response : Response) (now : Nat)
  | size
  | clear
  | fetch (settings : Settings) (replies : Nat → Reply Response) (made : Nat) (clock : Clock)
      (since : Int)

namespace CacheCall

variable {cache : ResponseCache}

/-- The cache after a call. -/
def after (cache : ResponseCache) : CacheCall → ResponseCache
  | get uri => (cache.get uri).1
  | store uri response now => (cache.store uri response now).1
  | revalidate uri response now => (cache.revalidated uri response now).1
  | size => cache
  | clear => cache.clear.1
  | fetch settings replies made clock since =>
      (settings.fetch replies made clock since cache).cache

/-- Whether a call returns, be it with an error. -/
def Returns (cache : ResponseCache) : CacheCall → Prop
  | get uri => ∃ entry, (cache.get uri).2 = .ok entry
  | store uri response now => ∃ kept, (cache.store uri response now).2 = .ok kept
  | revalidate uri response now => (cache.revalidated uri response now).2 = .ok ()
  | size => ∃ n, cache.size = .ok n
  | clear => cache.clear.2 = .ok ()
  | fetch settings replies made clock since =>
      (settings.fetch replies made clock since cache).result ≠ .error .crash

/-- Whether a call meets with a lifetime that outlasts the clock, or with a transport that
fails itself. -/
def Breaks (cache : ResponseCache) : CacheCall → Prop
  | store _ response now => response.KeptPastClock now
  | revalidate uri response now => cache.RevivedPastClock uri response now
  | fetch settings replies made clock since =>
      ∃ exchange ∈ (settings.fetch replies made clock since cache).exchanges replies clock made,
        exchange.Breaks cache
  | _ => False

theorem returns_iff (h : cache.usable = true) (call : CacheCall) :
    call.Returns cache ↔ ¬ call.Breaks cache := by
  cases call with
  | get uri => simp [Returns, Breaks, ResponseCache.get_of_usable h]
  | store uri response now => exact ResponseCache.store_returns_iff h
  | revalidate uri response now => exact ResponseCache.revalidated_returns_iff h
  | size => simp [Returns, Breaks, ResponseCache.size, h]
  | clear => simp [Returns, Breaks, ResponseCache.clear, h]
  | fetch settings replies made clock since =>
      exact not_congr (settings.fetch_withstands replies made clock since h).crash_iff

theorem usable_after (h : cache.usable = true) {call : CacheCall}
    (hcall : ¬ call.Breaks cache) : (call.after cache).usable = true := by
  cases call with
  | get uri => simpa [after, ResponseCache.get_of_usable h] using h
  | store uri response now => exact ResponseCache.usable_store h
  | revalidate uri response now => exact ResponseCache.usable_revalidated h hcall
  | size => exact h
  | clear => simp [after, ResponseCache.clear, h]
  | fetch settings replies made clock since =>
      have hrun := settings.fetch_withstands replies made clock since h
      exact hrun.usable fun hcrash => hcall (hrun.crash_iff.mp hcrash)

theorem after_of_unusable (h : cache.usable = false) (call : CacheCall) :
    call.after cache = cache := by
  cases call with
  | get uri => simp [after, ResponseCache.get, h]
  | store uri response now =>
      unfold after ResponseCache.store
      dsimp only
      split
      · rfl
      · split <;> simp [h]
  | revalidate uri response now =>
      unfold after ResponseCache.revalidated
      dsimp only
      split <;> simp [h]
  | size => rfl
  | clear => simp [after, ResponseCache.clear, h]
  | fetch settings replies made clock since =>
      obtain ⟨failure, hrun⟩ := settings.fetch_of_unusable replies made clock since h
      rw [after, hrun]

/-- What a failed revalidation leaves is not mended by any call. -/
theorem usable_after_of_unusable (h : cache.usable = false) (call : CacheCall) :
    (call.after cache).usable = false := by
  rw [after_of_unusable h]
  exact h

end CacheCall

namespace ResponseCache

/-- The cache after calls. -/
def run (cache : ResponseCache) (calls : List CacheCall) : ResponseCache :=
  calls.foldl CacheCall.after cache

/-- Whether `p` holds of every call on the cache on which it is made. -/
def Along (p : ResponseCache → CacheCall → Prop) : ResponseCache → List CacheCall → Prop
  | _, [] => True
  | cache, call :: rest => p cache call ∧ Along p (call.after cache) rest

theorem along_returns_iff {cache : ResponseCache} (h : cache.usable = true)
    (calls : List CacheCall) :
    cache.Along CacheCall.Returns calls ∧ (cache.run calls).usable = true ↔
      cache.Along (fun cache call => ¬ call.Breaks cache) calls := by
  induction calls generalizing cache with
  | nil => simp [Along, run, h]
  | cons call rest ih =>
      have hrun : cache.run (call :: rest) = (call.after cache).run rest := rfl
      rw [Along, Along, hrun, call.returns_iff h, and_assoc, and_congr_right_iff]
      intro hcall
      exact ih (CacheCall.usable_after h hcall)

/-- However a new cache is used, every call returns and leaves it usable, unless a call
meets with a lifetime that outlasts the clock or with a transport that fails itself. -/
theorem calls_return_iff (capacity : Nat) (calls : List CacheCall) :
    (ofCapacity capacity).Along CacheCall.Returns calls ∧
        ((ofCapacity capacity).run calls).usable = true ↔
      (ofCapacity capacity).Along (fun cache call => ¬ call.Breaks cache) calls :=
  along_returns_iff rfl calls

/-- A tag, and then the longest age that can be read, in a revalidation. -/
def longestAge : List CacheCall :=
  [.store "u" ⟨200, [("etag", "e")], [120]⟩ 0,
    .revalidate "u" ⟨304, [("cache-control", "max-age=18446744073709551615")], []⟩ 0]

theorem longest_age_makes_unusable :
    ¬ (ofCapacity 1).Along CacheCall.Returns longestAge ∧
      ((ofCapacity 1).run longestAge).usable = false ∧
      ¬ CacheCall.clear.Returns ((ofCapacity 1).run longestAge) := by
  have hunusable : ((ofCapacity 1).run longestAge).usable = false := by decide +kernel
  refine ⟨?_, hunusable, ?_⟩
  · rintro ⟨-, hrevalidate, -⟩
    have hstored : ((ofCapacity 1).run (longestAge.take 1)).usable = true := by decide +kernel
    have husable : ((ofCapacity 1).run longestAge).usable = true :=
      CacheCall.usable_after hstored ((CacheCall.returns_iff hstored _).mp hrevalidate)
    simp [hunusable] at husable
  · simp [CacheCall.Returns, clear, hunusable]

end ResponseCache
end Http
end LiveConfig
