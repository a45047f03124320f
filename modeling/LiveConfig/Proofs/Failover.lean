import LiveConfig.Proofs.ResponseCache
import Mathlib.Data.List.Forall2

/-!
# Failover by the first host that is conclusive

A fetch and the opening of a stream go through hosts by one law, which differs between them
only in what takes no request and in which answers are of use (`HostLaw`).  A host is
conclusive if its turn takes no request, or if the reply to its request is of use, is a
rejection of the key, or is no reply at all because the transport failed.  A run follows
the law in order (`HostLaw.Failover`); so its result is that of the first conclusive host,
its requests are those to the hosts up to there, and without such a host it ends with the
error of the last one (`Settings.first_conclusive_host`).
-/

namespace LiveConfig
namespace Http

/-- What hosts do in the turns of a failover, by their URLs for its path.  A turn is known
by the number of requests made before it. -/
structure HostLaw (β α : Type) where
  path : List String
  request : Url → Request
  status : β → Nat
  /-- The result that takes no request. -/
  spared? : Nat → Url → Option α
  /-- The result that an answer brings. -/
  served? : Url → β → Option α

namespace HostLaw

variable {α β : Type} {law : HostLaw β α} {replies : Nat → Reply β} {url : Url}

/-- What the reply to a request comes to: a result, or an error after which the next host
is asked. -/
def verdict (law : HostLaw β α) (url : Url) : Reply β → Except Error (Except Failure α)
  | .timeout => .error (.requestTimeout url.text)
  | .broken text => .error (.io .other text)
  | .crash => .ok (.error .crash)
  | .answer answer =>
    if law.status answer = 401 then .ok (.error (.error .unauthorized))
    else
      match law.served? url answer with
      | some result => .ok (.ok result)
      | none => .error (.unexpectedStatus (law.status answer) url.text)

/-- The result of the turn of a host if it is conclusive, with the reply if one is asked
for. -/
def conclusion? (law : HostLaw β α) (replies : Nat → Reply β) (made : Nat) (url : Url) :
    Option (Except Failure α) :=
  match law.spared? made url with
  | some result => some (.ok result)
  | none => (law.verdict url (replies made)).toOption

/-- The requests and the result of a failover over hosts, where `made` requests were made
before it and the last of them failed with an error. -/
inductive Failover (law : HostLaw β α) (replies : Nat → Reply β) (attempts : Nat) :
    List Url → Option Error → Nat → List Request → Except Failure α → Prop
  | exhausted {last : Option Error} {made : Nat} :
      Failover law replies attempts [] last made [] (.error (.error (exhausted attempts last)))
  | refused {host : Url} {rest : List Url} {last : Option Error} {made : Nat} {e : Error}
      (hendpoint : endpoint host law.path = .error e) :
      Failover law replies attempts (host :: rest) last made [] (.error (.error e))
  | decided {host url : Url} {rest : List Url} {last : Option Error} {made : Nat}
      {result : Except Failure α} (hendpoint : endpoint host law.path = .ok url)
      (hconclusion : law.conclusion? replies made url = some result) :
      Failover law replies attempts (host :: rest) last made
        (if (law.spared? made url).isSome then [] else [law.request url]) result
  | failed {host url : Url} {rest : List Url} {last : Option Error} {made : Nat} {e : Error}
      {requests : List Request} {result : Except Failure α}
      (hendpoint : endpoint host law.path = .ok url)
      (hconclusion : law.conclusion? replies made url = none)
      (hverdict : law.verdict url (replies made) = .error e)
      (hrest : Failover law replies attempts rest (some e) (made + 1) requests result) :
      Failover law replies attempts (host :: rest) last made (law.request url :: requests) result

/-- Whether a run over URLs, before which `made` requests were made, follows their order up
to the first conclusive one. -/
structure Governs (law : HostLaw β α) (replies : Nat → Reply β) (made : Nat) (urls : List Url)
    (run : Run α) : Prop where
  /-- The first conclusive one has the result.  It is asked unless its turn takes no
  request, those before it are asked, and no others are. -/
  first : ∀ i url result, urls[i]? = some url →
    law.conclusion? replies (made + i) url = some result →
    (∀ j < i, ∀ earlier, urls[j]? = some earlier →
      law.conclusion? replies (made + j) earlier = none) →
    run.result = result ∧
      run.requests =
        (urls.take (if (law.spared? (made + i) url).isSome then i else i + 1)).map law.request
  /-- Without a conclusive one all are asked, and the last one's error is told. -/
  none : (∀ i url, urls[i]? = some url → law.conclusion? replies (made + i) url = none) →
    run.requests = urls.map law.request ∧
      ∃ message, run.result = .error (.error (.hostsExhausted urls.length message)) ∧
        (urls = [] → message = "no hosts configured") ∧
        ∀ last, urls.getLast? = some last → ∃ e,
          law.verdict last (replies (made + (urls.length - 1))) = .error e ∧ message = e.message

section Order

variable {attempts made : Nat}

theorem conclusion?_of_spared {result : α} (h : law.spared? made url = some result) :
    law.conclusion? replies made url = some (.ok result) := by
  rw [conclusion?, h]

theorem conclusion?_of_asked (h : law.spared? made url = none) :
    law.conclusion? replies made url = (law.verdict url (replies made)).toOption := by
  rw [conclusion?, h]

variable {hosts urls : List Url} {last : Option Error}
  {requests : List Request} {result : Except Failure α}

theorem Failover.of_spared {host : Url} {rest : List Url} {found : α}
    (hendpoint : endpoint host law.path = .ok url)
    (hspared : law.spared? made url = some found) :
    law.Failover replies attempts (host :: rest) last made [] (.ok found) := by
  have h : law.Failover replies attempts (host :: rest) last made _ _ :=
    .decided hendpoint (conclusion?_of_spared hspared)
  rwa [hspared] at h

theorem Failover.of_concluded {host : Url} {rest : List Url}
    (hendpoint : endpoint host law.path = .ok url) (hasked : law.spared? made url = none)
    (hverdict : law.verdict url (replies made) = .ok result) :
    law.Failover replies attempts (host :: rest) last made [law.request url] result := by
  have hconclusion : law.conclusion? replies made url = some result := by
    rw [conclusion?_of_asked hasked, hverdict]
    rfl
  have h : law.Failover replies attempts (host :: rest) last made _ _ :=
    .decided hendpoint hconclusion
  rwa [hasked] at h

theorem Failover.of_failed {host : Url} {rest : List Url} {e : Error}
    (hendpoint : endpoint host law.path = .ok url) (hasked : law.spared? made url = none)
    (hverdict : law.verdict url (replies made) = .error e)
    (hrest : law.Failover replies attempts rest (some e) (made + 1) requests result) :
    law.Failover replies attempts (host :: rest) last made (law.request url :: requests)
      result := by
  refine .failed hendpoint ?_ hverdict hrest
  rw [conclusion?_of_asked hasked, hverdict]
  rfl

/-- Where all hosts have the endpoint, the first URL is that of the first host. -/
theorem exists_urls_of_ok {host : Url} {rest : List Url}
    (hurls : List.Forall₂ (fun host url => endpoint host law.path = .ok url) (host :: rest) urls)
    (hendpoint : endpoint host law.path = .ok url) :
    ∃ others, List.Forall₂ (fun host url => endpoint host law.path = .ok url) rest others ∧
      urls = url :: others := by
  obtain ⟨head, others, hhead, hothers, rfl⟩ := List.forall₂_cons_left_iff.mp hurls
  obtain rfl := Except.ok.inj (hendpoint.symm.trans hhead)
  exact ⟨others, hothers, rfl⟩

theorem not_refused {host : Url} {rest : List Url} {e : Error}
    (hurls : List.Forall₂ (fun host url => endpoint host law.path = .ok url) (host :: rest) urls) :
    endpoint host law.path ≠ .error e := by
  obtain ⟨head, others, hhead, -, -⟩ := List.forall₂_cons_left_iff.mp hurls
  rw [hhead]
  exact nofun

theorem Failover.first (h : law.Failover replies attempts hosts last made requests result)
    (hurls : List.Forall₂ (fun host url => endpoint host law.path = .ok url) hosts urls)
    {i : Nat} {outcome : Except Failure α} (hurl : urls[i]? = some url)
    (houtcome : law.conclusion? replies (made + i) url = some outcome)
    (hearlier : ∀ j < i, ∀ earlier, urls[j]? = some earlier →
      law.conclusion? replies (made + j) earlier = none) :
    result = outcome ∧
      requests =
        (urls.take (if (law.spared? (made + i) url).isSome then i else i + 1)).map
          law.request := by
  induction h generalizing urls i with
  | exhausted =>
      cases hurls
      cases hurl
  | refused hendpoint => exact absurd hendpoint (not_refused hurls)
  | decided hendpoint hconclusion =>
      obtain ⟨rest, -, rfl⟩ := exists_urls_of_ok hurls hendpoint
      cases i with
      | zero =>
          obtain rfl := Option.some.inj hurl
          rw [Nat.add_zero] at houtcome ⊢
          refine ⟨Option.some.inj (hconclusion.symm.trans houtcome), ?_⟩
          split <;> rfl
      | succ i =>
          have hhead := hearlier 0 (Nat.succ_pos i) _ rfl
          rw [Nat.add_zero, hconclusion] at hhead
          cases hhead
  | @failed _ _ _ _ made _ _ _ hendpoint hconclusion _ _ ih =>
      obtain ⟨rest, hrest, rfl⟩ := exists_urls_of_ok hurls hendpoint
      have hshift : ∀ j, made + 1 + j = made + (j + 1) := by omega
      cases i with
      | zero =>
          obtain rfl := Option.some.inj hurl
          rw [Nat.add_zero, hconclusion] at houtcome
          cases houtcome
      | succ i =>
          rw [← hshift] at houtcome
          obtain ⟨hresult, hrequests⟩ := ih hrest hurl houtcome fun j hj earlier hget => by
            rw [hshift]
            exact hearlier (j + 1) (Nat.succ_lt_succ hj) earlier hget
          refine ⟨hresult, ?_⟩
          rw [hrequests, hshift]
          split <;> rfl

theorem Failover.none_left (h : law.Failover replies attempts hosts last made requests result)
    (hurls : List.Forall₂ (fun host url => endpoint host law.path = .ok url) hosts urls)
    (hnone : ∀ i url, urls[i]? = some url → law.conclusion? replies (made + i) url = none) :
    requests = urls.map law.request ∧
      ∃ final, result = .error (.error (Http.exhausted attempts final)) ∧
        (urls = [] → final = last) ∧
        ∀ url, urls.getLast? = some url → ∃ e,
          law.verdict url (replies (made + (urls.length - 1))) = .error e ∧ final = some e := by
  induction h generalizing urls with
  | @exhausted last made =>
      cases hurls
      exact ⟨rfl, last, rfl, fun _ => rfl, by simp⟩
  | refused hendpoint => exact absurd hendpoint (not_refused hurls)
  | decided hendpoint hconclusion =>
      obtain ⟨rest, -, rfl⟩ := exists_urls_of_ok hurls hendpoint
      have hhead := hnone 0 _ rfl
      rw [Nat.add_zero, hconclusion] at hhead
      cases hhead
  | @failed _ _ _ _ made e _ _ hendpoint _ hverdict _ ih =>
      obtain ⟨rest, hrest, rfl⟩ := exists_urls_of_ok hurls hendpoint
      have hshift : ∀ j, made + 1 + j = made + (j + 1) := by omega
      obtain ⟨hrequests, final, hresult, hnil, hlast⟩ := ih hrest fun i url hget => by
        rw [hshift]
        exact hnone (i + 1) url hget
      refine ⟨congrArg (_ :: ·) hrequests, final, hresult, by simp, ?_⟩
      intro url hurl
      cases rest with
      | nil =>
          obtain rfl := Option.some.inj hurl
          exact ⟨e, hverdict, hnil rfl⟩
      | cons second rest =>
          rw [List.getLast?_cons_cons] at hurl
          obtain ⟨e', hverdict', hfinal⟩ := hlast url hurl
          rw [hshift] at hverdict'
          exact ⟨e', hverdict', hfinal⟩

theorem Failover.exists_url (h : law.Failover replies attempts hosts last made requests result)
    {request : Request} (hrequest : request ∈ requests) : ∃ url, request = law.request url := by
  induction h with
  | exhausted => cases hrequest
  | refused hendpoint => cases hrequest
  | @decided _ url =>
      split at hrequest
      · cases hrequest
      · exact ⟨url, List.mem_singleton.mp hrequest⟩
  | @failed _ url _ _ _ _ _ _ _ _ _ _ ih =>
      rcases List.mem_cons.mp hrequest with rfl | hrest
      · exact ⟨url, rfl⟩
      · exact ih hrest

/-- A failover over hosts that all have the endpoint is governed by their order. -/
theorem Failover.governs {run : Run α}
    (h : law.Failover replies hosts.length hosts none made run.requests run.result)
    (hurls : List.Forall₂ (fun host url => endpoint host law.path = .ok url) hosts urls) :
    law.Governs replies made urls run where
  first := fun i url outcome hurl houtcome hearlier => h.first hurls hurl houtcome hearlier
  none := by
    intro hnone
    obtain ⟨hrequests, final, hresult, hnil, hlast⟩ := h.none_left hurls hnone
    refine ⟨hrequests, _, by rw [hresult, ← hurls.length_eq]; rfl, ?_, ?_⟩
    · intro hempty
      rw [hnil hempty]
      rfl
    · intro url hurl
      obtain ⟨e, hverdict, rfl⟩ := hlast url hurl
      exact ⟨e, hverdict, rfl⟩

end Order
end HostLaw

/-! ## Fetches and streams -/

namespace Settings

variable {settings : Settings} {since : Int} {cache : ResponseCache} {clock : Clock}

/-- A fetch takes a fresh entry without a request, a success with its body, and the body of
an entry that is said to be still valid. -/
def fetchLaw (settings : Settings) (since : Int) (cache : ResponseCache) (clock : Clock) :
    HostLaw Response Fetched where
  path := configsPath since
  request url := settings.fetchRequest url (cache.find? url.text)
  status := Response.status
  spared? made url :=
    ((cache.find? url.text).filter (·.isFresh (clock.turn made))).map fun entry =>
      ⟨200, true, url.text, entry.body⟩
  served? url response :=
    if isSuccess response.status then some ⟨response.status, false, url.text, response.body⟩
    else if response.status = 304 then
      (cache.find? url.text).map fun entry => ⟨200, true, url.text, entry.body⟩
    else none

/-- The opening of a stream takes a success. -/
def streamLaw (settings : Settings) (highwater : Int) : HostLaw StreamAnswer StreamAnswer where
  path := streamPath
  request url := settings.streamRequest url highwater
  status := StreamAnswer.status
  spared? _ _ := none
  served? _ answer := if isSuccess answer.status then some answer else none

@[simp] theorem fetchLaw_touch (uri : String) :
    settings.fetchLaw since (cache.touch uri) clock = settings.fetchLaw since cache clock := by
  simp [fetchLaw]

/-- Where no lifetime outlasts the clock, the law judges a reply to a fetch. -/
theorem judge_of_verdict (settings : Settings) (since : Int) (clock : Clock)
    (h : cache.usable = true) (url : Url) {reply : Reply Response} {now : Nat}
    (hclock : ∀ response, reply = .answer response →
      ¬ (CacheControl.ofResponse response).OutlastsClock now) :
    (∃ e, (settings.fetchLaw since cache clock).verdict url reply = .error e ∧
      judge cache now url.text (cache.find? url.text) reply = .next e) ∨
    ∃ result next, (settings.fetchLaw since cache clock).verdict url reply = .ok result ∧
      judge cache now url.text (cache.find? url.text) reply = .decided result next := by
  cases reply with
  | timeout => exact .inl ⟨_, rfl, rfl⟩
  | broken text => exact .inl ⟨_, rfl, rfl⟩
  | crash => exact .inr ⟨_, _, rfl, rfl⟩
  | answer response =>
      have hpast : ¬ response.KeptPastClock now := fun hpast => hclock response rfl hpast.2
      have hrevived : ¬ cache.RevivedPastClock url.text response now :=
        fun hrevived => hclock response rfl hrevived.2.2
      unfold HostLaw.verdict judge fetchLaw
      by_cases hunauthorized : response.status = 401
      · simp [hunauthorized]
      by_cases hsuccess : isSuccess response.status = true
      · obtain ⟨next, kept, hstore, -⟩ := ResponseCache.store_of_not_past h url.text hpast
        simp [hunauthorized, hsuccess, hstore]
      by_cases hstatus : response.status = 304
      · cases hentry : cache.find? url.text with
        | none => simp [hstatus, isSuccess, hentry]
        | some entry =>
            obtain ⟨next, hdone, -⟩ := ResponseCache.revalidated_of_not_past h hrevived
            simp [hstatus, isSuccess, hdone, hentry]
      · simp [hunauthorized, hsuccess, hstatus]

/-- A fetch through a usable cache fails over, if no lifetime outlasts the clock. -/
theorem fetchFrom_failover (settings : Settings) {replies : Nat → Reply Response} (since : Int)
    (hosts : List Url) (last : Option Error) (made : Nat) {cache : ResponseCache}
    (h : cache.usable = true) (hclock : ∀ i response, replies i = .answer response →
      ¬ (CacheControl.ofResponse response).OutlastsClock (clock.reply i)) :
    (settings.fetchLaw since cache clock).Failover replies settings.apiHosts.length hosts last
      made (settings.fetchFrom replies clock since hosts last made cache).requests
      (settings.fetchFrom replies clock since hosts last made cache).result := by
  induction hosts generalizing last made cache with
  | nil => exact .exhausted
  | cons host rest ih =>
      unfold fetchFrom
      cases hendpoint : endpoint host (configsPath since) with
      | error e => exact .refused hendpoint
      | ok url =>
          have htouched : (cache.touch url.text).usable = true := by simpa using h
          simp only [ResponseCache.get_of_usable h]
          cases hfresh : (cache.find? url.text).filter (·.isFresh (clock.turn made)) with
          | some entry =>
              exact .of_spared hendpoint (by simp [fetchLaw, hfresh])
          | none =>
              have hasked : (settings.fetchLaw since cache clock).spared? made url = none := by
                simp [fetchLaw, hfresh]
              have hjudge := judge_of_verdict settings since clock htouched url (hclock made)
              rw [fetchLaw_touch, ResponseCache.find?_touch] at hjudge
              rcases hjudge with ⟨e, hverdict, hjudge⟩ | ⟨result, next, hverdict, hjudge⟩
              · have hrest := ih (some e) (made + 1) htouched
                rw [fetchLaw_touch] at hrest
                simp only [hjudge]
                exact .of_failed hendpoint hasked hverdict hrest
              · simp only [hjudge]
                exact .of_concluded hendpoint hasked hverdict

theorem openFrom_failover (settings : Settings) (replies : Nat → Reply StreamAnswer)
    (highwater : Int) (cache : ResponseCache) (hosts : List Url) (last : Option Error)
    (made : Nat) :
    (settings.streamLaw highwater).Failover replies settings.streamHosts.length hosts last made
      (settings.openFrom replies highwater cache hosts last made).requests
      (settings.openFrom replies highwater cache hosts last made).result := by
  induction hosts generalizing last made with
  | nil => exact .exhausted
  | cons host rest ih =>
      unfold openFrom
      cases hendpoint : endpoint host streamPath with
      | error e => exact .refused hendpoint
      | ok url =>
          have hasked : (settings.streamLaw highwater).spared? made url = none := rfl
          cases hreply : replies made with
          | timeout => exact .of_failed hendpoint hasked (by rw [hreply]; rfl) (ih _ _)
          | broken text => exact .of_failed hendpoint hasked (by rw [hreply]; rfl) (ih _ _)
          | crash => exact .of_concluded hendpoint hasked (by rw [hreply]; rfl)
          | answer answer =>
              by_cases hunauthorized : answer.status = 401
              · have hverdict : (settings.streamLaw highwater).verdict url (replies made) =
                    .ok (.error (.error .unauthorized)) := by
                  simp [hreply, HostLaw.verdict, streamLaw, hunauthorized]
                simp only [hunauthorized, if_true]
                exact .of_concluded hendpoint hasked hverdict
              by_cases hsuccess : isSuccess answer.status = true
              · have hverdict : (settings.streamLaw highwater).verdict url (replies made) =
                    .ok (.ok answer) := by
                  simp [hreply, HostLaw.verdict, streamLaw, hunauthorized, hsuccess]
                simp only [hunauthorized, hsuccess, if_true, if_false]
                exact .of_concluded hendpoint hasked hverdict
              · have hverdict : (settings.streamLaw highwater).verdict url (replies made) =
                    .error (.unexpectedStatus answer.status url.text) := by
                  simp [hreply, HostLaw.verdict, streamLaw, hunauthorized, hsuccess]
                simp only [hunauthorized, hsuccess, if_false]
                exact .of_failed hendpoint hasked hverdict (ih _ _)

theorem lookup_fetchRequest (settings : Settings) (url : Url) (cached : Option CacheEntry) :
    (settings.fetchRequest url cached).headers.lookup "If-None-Match" =
      cached.bind (·.etag) := by
  cases hetag : cached.bind (·.etag) with
  | none =>
      rw [fetchRequest, hetag]
      rfl
  | some etag =>
      rw [fetchRequest, hetag]
      rfl

/-- Hosts that all have the endpoint are asked in order up to the first conclusive one,
which has the result.  A request of a fetch carries the tag of the cache entry for its URI,
and none if there is no tag.  Whether an entry is fresh is told by the clock at the turn of
its host, and what a reply changes in the cache counts from when it arrives. -/
theorem first_conclusive_host (settings : Settings) :
    (∀ (replies : Nat → Reply Response) (made : Nat) (clock : Clock) (since : Int)
      (cache : ResponseCache) (urls : List Url),
      List.Forall₂ (fun host url => endpoint host (configsPath since) = .ok url)
        settings.apiHosts urls →
      cache.usable = true →
      (∀ i response, replies i = .answer response →
        ¬ (CacheControl.ofResponse response).OutlastsClock (clock.reply i)) →
      let fetched := settings.fetch replies made clock since cache
      (settings.fetchLaw since cache clock).Governs replies made urls fetched ∧
        ∀ request ∈ fetched.requests, request.headers.lookup "If-None-Match" =
          (cache.find? request.url.text).bind (·.etag)) ∧
    ∀ (replies : Nat → Reply StreamAnswer) (made : Nat) (highwater : Int)
      (cache : ResponseCache) (urls : List Url),
      List.Forall₂ (fun host url => endpoint host streamPath = .ok url)
        settings.streamHosts urls →
      (settings.streamLaw highwater).Governs replies made urls
        (settings.openStream replies made highwater cache) := by
  constructor
  · intro replies made clock since cache urls hurls husable hclock fetched
    have hfetch := settings.fetchFrom_failover since settings.apiHosts none made husable hclock
    refine ⟨hfetch.governs hurls, ?_⟩
    intro request hrequest
    obtain ⟨url, rfl⟩ := hfetch.exists_url hrequest
    exact settings.lookup_fetchRequest url (cache.find? url.text)
  · intro replies made highwater cache urls hurls
    exact (settings.openFrom_failover replies highwater cache settings.streamHosts none
      made).governs hurls

/-- A URL of a host. -/
def hostUrl (host : String) (path : List String) : Url :=
  ⟨"https", some ⟨"", host, none⟩, .segments path, none, none⟩

/-- Two hosts for fetches and two for streams. -/
def twoHosts : Settings where
  sdkKey := "key"
  apiHosts := [hostUrl "a.test" [""], hostUrl "b.test" [""]]
  streamHosts := [hostUrl "c.test" [""], hostUrl "d.test" [""]]
  requestTimeout := .ofMillis 1000
  cacheCapacity := 4

/-- A cache with a tagged entry of the second host, which is fresh for four seconds. -/
def taggedSecond : ResponseCache where
  capacity := 4
  entries := [("https://b.test/api/v2/configs/0", ⟨[0x7b, 0x7d], some "e", 4000000000⟩)]

/-- The first reply takes five seconds. -/
def slowFirst : Clock where
  turn i := if i = 0 then 0 else 5000000000
  reply _ := 5000000000

/-- The first host fails, and the second one says that its entry is still valid. -/
def failsThenNotModified (i : Nat) : Reply Response :=
  .answer ⟨if i = 0 then 503 else 304, [], []⟩

/-- The first host cannot be reached, and the second one opens a stream. -/
def timesOutThenOpens (i : Nat) : Reply StreamAnswer :=
  if i = 0 then .timeout else .answer ⟨200, []⟩

/-- The entry of the second host expires while the first one is asked. -/
theorem first_conclusive_host_not_modified :
    let fetched := twoHosts.fetch failsThenNotModified 0 slowFirst 0 taggedSecond
    let opened := twoHosts.openStream timesOutThenOpens 0 7 taggedSecond
    (fetched.result = .ok ⟨200, true, "https://b.test/api/v2/configs/0", [0x7b, 0x7d]⟩ ∧
      fetched.requests.map (fun request => request.headers.lookup "If-None-Match") =
        [none, some "e"]) ∧
    opened.result = .ok ⟨200, []⟩ ∧ opened.requests.map (·.url) =
      [hostUrl "c.test" streamPath, hostUrl "d.test" streamPath] := by
  have hclock : ∀ i response, failsThenNotModified i = .answer response →
      ¬ (CacheControl.ofResponse response).OutlastsClock (slowFirst.reply i) := by
    rintro i response hreply ⟨-, hpast⟩
    cases hreply
    change lastSecond < 5000000000 / 1000000000 + 0 at hpast
    exact absurd hpast (by decide)
  have hurls : List.Forall₂ (fun host url => endpoint host (configsPath 0) = .ok url)
      twoHosts.apiHosts [hostUrl "a.test" (configsPath 0), hostUrl "b.test" (configsPath 0)] :=
    .cons rfl (.cons rfl .nil)
  have hstreamUrls : List.Forall₂ (fun host url => endpoint host streamPath = .ok url)
      twoHosts.streamHosts [hostUrl "c.test" streamPath, hostUrl "d.test" streamPath] :=
    .cons rfl (.cons rfl .nil)
  have husable : taggedSecond.usable = true := rfl
  obtain ⟨hfetches, hstreams⟩ := twoHosts.first_conclusive_host
  obtain ⟨hfetch, -⟩ := hfetches failsThenNotModified 0 slowFirst 0 taggedSecond _ hurls husable
    hclock
  have hstream := hstreams timesOutThenOpens 0 7 taggedSecond _ hstreamUrls
  have hfetched := hfetch.first 1 _ (.ok ⟨200, true, _, [0x7b, 0x7d]⟩) rfl rfl (by
    intro j hj earlier hget
    obtain rfl : j = 0 := by omega
    cases hget
    rfl)
  have hopened := hstream.first 1 _ (.ok ⟨200, []⟩) rfl rfl (by
    intro j hj earlier hget
    obtain rfl : j = 0 := by omega
    cases hget
    rfl)
  refine ⟨⟨hfetched.1, ?_⟩, hopened.1, ?_⟩
  · rw [hfetched.2]
    rfl
  · rw [hopened.2]
    rfl

end Settings
end Http
end LiveConfig
