import LiveConfig.Proofs.CacheRecency
import LiveConfig.Proofs.Failover

/-!
# A fetch that ends with an error leaves the cache as it was

On its way through the hosts a fetch looks entries up, and it changes an entry only at the
reply that gives it a result.  So a fetch that ends with an error has looked up the entries of
the URLs that it asked, and no more (`Settings.fetchFrom_only_looks_up`).  A look-up moves an
entry to the front: the entries afterwards are those before, in another order
(`ResponseCache.HoldsAs`).
-/

namespace LiveConfig
namespace Http
namespace ResponseCache

variable {cache middle other : ResponseCache}

@[simp] theorem capacity_touch (cache : ResponseCache) (uri : String) :
    (cache.touch uri).capacity = cache.capacity := by
  unfold touch
  split <;> rfl

/-- Whether a cache holds what another one does, in whatever order. -/
structure HoldsAs (cache other : ResponseCache) : Prop where
  find? : ∀ uri, cache.find? uri = other.find? uri
  uris : ∀ uri, uri ∈ cache.uris ↔ uri ∈ other.uris
  /-- A cache that comes from a new one has no URI twice. -/
  perm : other.uris.Nodup → cache.entries.Perm other.entries
  capacity : cache.capacity = other.capacity
  usable : cache.usable = other.usable

theorem HoldsAs.refl (cache : ResponseCache) : cache.HoldsAs cache where
  find? _ := rfl
  uris _ := Iff.rfl
  perm _ := .refl _
  capacity := rfl
  usable := rfl

theorem HoldsAs.trans (h : cache.HoldsAs middle) (h' : middle.HoldsAs other) :
    cache.HoldsAs other where
  find? uri := (h.find? uri).trans (h'.find? uri)
  uris uri := (h.uris uri).trans (h'.uris uri)
  perm hnodup := by
    have hmiddle := h'.perm hnodup
    have huris : middle.uris.Perm other.uris := hmiddle.map _
    exact (h.perm (huris.nodup_iff.mpr hnodup)).trans hmiddle
  capacity := h.capacity.trans h'.capacity
  usable := h.usable.trans h'.usable

theorem holdsAs_touch (cache : ResponseCache) (uri : String) :
    (cache.touch uri).HoldsAs cache where
  find? := cache.find?_touch uri
  uris found := by rw [mem_uris_iff, mem_uris_iff, find?_touch]
  perm hnodup := perm_touch hnodup uri
  capacity := cache.capacity_touch uri
  usable := cache.usable_touch uri

/-- The cache after look-ups. -/
def touchAll (cache : ResponseCache) (uris : List String) : ResponseCache :=
  uris.foldl touch cache

theorem holdsAs_touchAll (cache : ResponseCache) (uris : List String) :
    (cache.touchAll uris).HoldsAs cache := by
  induction uris generalizing cache with
  | nil => exact .refl cache
  | cons uri rest ih => exact (ih (cache.touch uri)).trans (cache.holdsAs_touch uri)

end ResponseCache

/-! ## Fetches -/

/-- The errors with which a fetch from hosts ends, the last one after a number of attempts. -/
inductive IsFetchError (attempts : Nat) (hosts : List Url) : Error → Prop
  | unauthorized : IsFetchError attempts hosts .unauthorized
  | invalidHostUrl {host : Url} (hhost : host ∈ hosts) :
      IsFetchError attempts hosts (.invalidHostUrl host.text)
  | hostsExhausted (message : String) :
      IsFetchError attempts hosts (.hostsExhausted attempts message)

theorem IsFetchError.cons {attempts : Nat} {hosts : List Url} {e : Error}
    (h : IsFetchError attempts hosts e) (host : Url) : IsFetchError attempts (host :: hosts) e := by
  cases h with
  | unauthorized => exact .unauthorized
  | invalidHostUrl hhost => exact .invalidHostUrl (List.mem_cons_of_mem host hhost)
  | hostsExhausted message => exact .hostsExhausted message

theorem isFetchError_of_endpoint {host : Url} {path : List String} {e : Error}
    (h : endpoint host path = .error e) (attempts : Nat) (rest : List Url) :
    IsFetchError attempts (host :: rest) e := by
  unfold endpoint at h
  cases hchild : host.child? path with
  | some url =>
      rw [hchild] at h
      cases h
  | none =>
      rw [hchild] at h
      cases h
      exact .invalidHostUrl List.mem_cons_self

/-- Whether a run, if it ends with an error, has looked up the entries of the URLs that it
asked, and has changed nothing else. -/
def Run.OnlyLooksUp (run : Run Fetched) (attempts : Nat) (hosts : List Url)
    (cache : ResponseCache) : Prop :=
  ∀ e, run.result = .error (.error e) →
    IsFetchError attempts hosts e ∧
      run.cache = cache.touchAll (run.requests.map (·.url.text))

namespace Settings

variable {settings : Settings} {replies : Nat → Reply Response} {clock : Clock} {since : Int}

theorem fetchFrom_only_looks_up_of_usable (hosts : List Url) (last : Option Error) (made : Nat)
    {cache : ResponseCache} (h : cache.usable = true) :
    (settings.fetchFrom replies clock since hosts last made cache).OnlyLooksUp
      settings.apiHosts.length hosts cache := by
  refine fetchFrom_induction
    (motive := fun hosts _ cache run => run.OnlyLooksUp settings.apiHosts.length hosts cache)
    ?none_left ?refused ?fresh ?decided ?failed hosts last made h
  case none_left =>
    rintro last made cache e ⟨⟩
    exact ⟨.hostsExhausted _, rfl⟩
  case refused =>
    rintro host rest made cache e hendpoint _ ⟨⟩
    exact ⟨isFetchError_of_endpoint hendpoint _ rest, rfl⟩
  case fresh =>
    rintro host rest made cache url entry - - - e ⟨⟩
  case decided =>
    rintro host rest made cache url result next - - hdecides e hresult
    generalize replies made = reply at hdecides
    -- of the replies that decide a fetch, only a rejection brings an error
    cases hdecides with
    | unauthorized hstatus =>
        cases hresult
        exact ⟨.unauthorized, rfl⟩
    | _ => cases hresult
  case failed =>
    intro host rest made cache url run _ _ _ ih e hresult
    obtain ⟨he, hcache⟩ := ih e hresult
    refine ⟨he.cons host, ?_⟩
    rw [Run.cache_after, hcache]
    rfl

theorem fetchFrom_only_looks_up (hosts : List Url) (last : Option Error) (made : Nat)
    (cache : ResponseCache) :
    (settings.fetchFrom replies clock since hosts last made cache).OnlyLooksUp
      settings.apiHosts.length hosts cache := by
  cases husable : cache.usable with
  | true => exact fetchFrom_only_looks_up_of_usable hosts last made husable
  | false =>
      intro e hresult
      cases hosts with
      | nil =>
          cases hresult
          exact ⟨.hostsExhausted _, rfl⟩
      | cons host rest =>
          unfold fetchFrom at hresult ⊢
          cases hendpoint : endpoint host (configsPath since) with
          | error refusal =>
              rw [hendpoint] at hresult
              cases hresult
              exact ⟨isFetchError_of_endpoint hendpoint _ rest, rfl⟩
          | ok url =>
              rw [hendpoint] at hresult
              simp [ResponseCache.get, husable] at hresult

/-- A fetch that ends with an error, whatever its hosts have replied, leaves every URI with
the entry that it had and no other URI with one.  It has looked up the entries of the URLs
that it asked, which is to move them to the front. -/
theorem fetch_error_keeps_entries (settings : Settings) (replies : Nat → Reply Response)
    (made : Nat) (clock : Clock) (since : Int) (cache : ResponseCache) {e : Error}
    (herror : (settings.fetch replies made clock since cache).result = .error (.error e)) :
    let fetched := settings.fetch replies made clock since cache
    IsFetchError settings.apiHosts.length settings.apiHosts e ∧
      fetched.cache.HoldsAs cache ∧
      fetched.cache = cache.touchAll (fetched.requests.map (·.url.text)) := by
  intro fetched
  obtain ⟨he, hcache⟩ := fetchFrom_only_looks_up settings.apiHosts none made cache e herror
  exact ⟨he, hcache ▸ cache.holdsAs_touchAll _, hcache⟩

/-- A cache with an entry of another fetch, and with a tagged one of the second host that is
not fresh. -/
def taggedSecondLast : ResponseCache where
  capacity := 2
  entries :=
    [("https://a.test/api/v2/configs/7", ⟨[0x5b, 0x5d], none, 9⟩),
      ("https://b.test/api/v2/configs/0", ⟨[0x7b, 0x7d], some "e", 0⟩)]

/-- The first host says that an entry is valid for longer, and the second cannot be
reached. -/
def notModifiedThenTimesOut (i : Nat) : Reply Response :=
  if i = 0 then .answer ⟨304, [("cache-control", "max-age=60"), ("etag", "f")], []⟩ else .timeout

theorem fetch_error_keeps_entries_not_modified :
    let fetched := twoHosts.fetch notModifiedThenTimesOut 0 slowFirst 0 taggedSecondLast
    let timeout := (Error.requestTimeout "https://b.test/api/v2/configs/0").message
    fetched.result = .error (.error (.hostsExhausted 2 timeout)) ∧
      fetched.requests.map (·.url.text) =
        ["https://a.test/api/v2/configs/0", "https://b.test/api/v2/configs/0"] ∧
      fetched.cache.entries = taggedSecondLast.entries.reverse ∧
      fetched.cache.HoldsAs taggedSecondLast := by
  have herror : (twoHosts.fetch notModifiedThenTimesOut 0 slowFirst 0 taggedSecondLast).result =
    .error (.error (.hostsExhausted 2 _)) := rfl
  obtain ⟨-, hholds, hcache⟩ :=
    twoHosts.fetch_error_keeps_entries notModifiedThenTimesOut 0 slowFirst 0 taggedSecondLast herror
  have hrequests :
      (twoHosts.fetch notModifiedThenTimesOut 0 slowFirst 0 taggedSecondLast).requests.map
        (·.url.text) =
      ["https://a.test/api/v2/configs/0", "https://b.test/api/v2/configs/0"] := rfl
  refine ⟨rfl, hrequests, ?_, hholds⟩
  rw [hcache, hrequests]
  rfl

end Settings
end Http
end LiveConfig
