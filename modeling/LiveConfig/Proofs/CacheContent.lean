import LiveConfig.Proofs.ResponseCache
import Mathlib.Data.List.Induction

/-!
# What an entry of the cache rests on

An entry that is found after some calls rests on the response that was kept for its URI
last, and on the responses that have renewed it since (`CacheEntry.RestsOn`).  The first
one gives the body.  The tag is the last one that any of them has, and the last of them
alone decides how long the entry is fresh (`ResponseCache.get_rests_on_last_kept`).

What one call does to the entry of a URI is said once (`CacheCall.leaves_after`).  That an
entry was pushed out in between does not show, for only a response that is kept brings it
back.
-/

namespace LiveConfig
namespace Http

/-! ## Reading directives -/

namespace CacheControl

def directives (header : Option String) : List (List Char) :=
  Text.splitChars ',' (header.getD "").toList

/-- What a directive says the maximal age is, if it is one that does; an age that cannot
be read is none. -/
def ageOf? (directive : List Char) : Option (Option Nat) :=
  let directive := (Text.trimChars directive).map Char.toLower
  match directive.dropWhile (· != '=') with
  | '=' :: seconds =>
    if directive.takeWhile (· != '=') = "max-age".toList then
      some ((uint64OfText? (Text.trimChars seconds)).map (·.toNat))
    else none
  | _ => none

/-- The maximal age according to the last directive that says one. -/
def lastAge? (header : Option String) : Option Nat :=
  ((directives header).filterMap ageOf?).getLast?.getD none

theorem maxAge_add (control : CacheControl) (directive : List Char) :
    (control.add directive).maxAge = (ageOf? directive).getD control.maxAge := by
  unfold add ageOf?
  dsimp only
  generalize ((Text.trimChars directive).map Char.toLower).dropWhile (· != '=') = value
  split
  · split <;> rfl
  · simp only [Option.getD_none]
    split
    · rfl
    · split <;> rfl

theorem maxAge_foldl_add (control : CacheControl) (directives : List (List Char)) :
    (directives.foldl add control).maxAge =
      (directives.filterMap ageOf?).getLast?.getD control.maxAge := by
  induction directives generalizing control with
  | nil => rfl
  | cons directive rest ih =>
      rw [List.foldl_cons, ih, maxAge_add]
      cases hage : ageOf? directive with
      | none => rw [List.filterMap_cons_none hage, Option.getD_none]
      | some age =>
          rw [List.filterMap_cons_some hage, List.getLast?_cons, Option.getD_some,
            Option.getD_some]

theorem maxAge_parse (header : Option String) : (parse header).maxAge = lastAge? header :=
  maxAge_foldl_add {} (directives header)

/-- Whether the directives say anything about freshness. -/
def speaks (control : CacheControl) : Bool :=
  control.noStore || control.noCache || control.maxAge.isSome

theorem speaks_eq_false_iff (control : CacheControl) : control.speaks = false ↔ control = {} := by
  obtain ⟨noStore, noCache, maxAge⟩ := control
  simp [speaks, and_assoc]

end CacheControl

/-! ## Notices -/

/-- A response and the time at which it arrived. -/
structure Notice where
  arrived : Nat
  response : Response
  deriving Inhabited

namespace Notice

def control (notice : Notice) : CacheControl := CacheControl.ofResponse notice.response

/-- Whether an entry is fresh at a time by what the notice says. -/
def Freshens (notice : Notice) (time : Nat) : Prop :=
  notice.control.noCache = false ∧
    ∃ age ∈ CacheControl.lastAge? (notice.response.header? "cache-control"),
      time < notice.arrived + 1000000000 * age

theorem freshens_iff {notice : Notice} {expiresAt time : Nat}
    (hexpiry : notice.control.expiry? notice.arrived = some expiresAt)
    (htime : notice.arrived ≤ time) : notice.Freshens time ↔ time < expiresAt := by
  have hage : CacheControl.lastAge? (notice.response.header? "cache-control") =
      notice.control.maxAge := (CacheControl.maxAge_parse _).symm
  unfold Freshens
  rw [hage]
  unfold CacheControl.expiry? at hexpiry
  cases hcache : notice.control.noCache with
  | true =>
      have hnow : notice.arrived = expiresAt := by simpa [hcache] using hexpiry
      have hlate : ¬ time < expiresAt := by omega
      simp [hlate]
  | false =>
      have hend : notice.arrived + 1000000000 * notice.control.maxAge.getD 0 = expiresAt := by
        have hwithin := hexpiry
        simp only [hcache, Bool.false_eq_true, if_false] at hwithin
        split at hwithin
        · cases hwithin
        · exact Option.some.inj hwithin
      cases hmax : notice.control.maxAge with
      | none =>
          have hlate : ¬ time < expiresAt := by
            rw [hmax, Option.getD_none] at hend
            omega
          simp [hlate]
      | some age =>
          rw [hmax, Option.getD_some] at hend
          simp [hend]

end Notice

/-- Whether an entry has its body from one response, its tag from the last of this one
and further ones that has any, and its lifetime from the last of them. -/
structure CacheEntry.RestsOn (entry : CacheEntry) (kept : Notice) (renewals : List Notice) :
    Prop where
  body : entry.body = kept.response.body
  etag : entry.etag =
    (kept :: renewals).reverse.findSome? fun notice => notice.response.header? "etag"
  lifetime : ∃ last, (kept :: renewals).getLast? = some last ∧
    last.control.expiry? last.arrived = some entry.expiresAt

theorem CacheEntry.RestsOn.renew {entry found : CacheEntry} {kept renewal : Notice}
    {renewals : List Notice} (h : entry.RestsOn kept renewals) (hbody : found.body = entry.body)
    (htag : found.etag = (renewal.response.header? "etag").or entry.etag)
    (hexpiry : renewal.control.expiry? renewal.arrived = some found.expiresAt) :
    found.RestsOn kept (renewals ++ [renewal]) := by
  have hsplit : kept :: (renewals ++ [renewal]) = (kept :: renewals) ++ [renewal] := rfl
  constructor
  · rw [hbody, h.body]
  · rw [htag, h.etag, hsplit, List.reverse_append, List.reverse_singleton, List.singleton_append,
      List.findSome?_cons]
    cases renewal.response.header? "etag" <;> rfl
  · exact ⟨renewal, by rw [hsplit, List.getLast?_concat], hexpiry⟩

/-! ## What a call leaves -/

namespace CacheCall

/-- Whether a call is made of the cache itself. -/
def IsDirect : CacheCall → Prop
  | fetch .. => False
  | _ => True

/-- When the response that a call hands over arrived. -/
def time? : CacheCall → Option Nat
  | store _ _ now => some now
  | revalidate _ _ now => some now
  | _ => none

def Keeps (uri : String) (call : CacheCall) : Prop :=
  ∃ response now, call = .store uri response now ∧ response.IsKept

/-- The response by which a call renews the entry of a URI; one that says nothing about
freshness renews nothing. -/
def renewal? (uri : String) : CacheCall → Option Notice
  | revalidate other response now =>
    if other = uri ∧ (CacheControl.ofResponse response).speaks then some ⟨now, response⟩ else none
  | _ => none

theorem time?_of_renewal? {uri : String} {call : CacheCall} {renewal : Notice}
    (h : call.renewal? uri = some renewal) : call.time? = some renewal.arrived := by
  cases call with
  | revalidate other response now =>
      simp only [renewal?] at h
      split at h
      · cases h
        rfl
      · cases h
  | _ => cases h

/-- Whether a call neither keeps a response for a URI nor clears the cache. -/
def Spares (uri : String) (call : CacheCall) : Prop := ¬ call.Keeps uri ∧ call ≠ .clear

theorem spares_of_ne {uri : String} {call : CacheCall}
    (hstore : ∀ response now, call ≠ .store uri response now) (hclear : call ≠ .clear) :
    call.Spares uri := by
  refine ⟨?_, hclear⟩
  rintro ⟨response, now, hcall, -⟩
  exact hstore response now hcall

/-- How the entry of a URI after a call came about. -/
inductive Leaves (cache : ResponseCache) (uri : String) (found : CacheEntry) : CacheCall → Prop
  | kept {response : Response} {now : Nat} (hkept : response.IsKept)
      (hfound : found.RestsOn ⟨now, response⟩ []) :
      Leaves cache uri found (.store uri response now)
  | renewed {call : CacheCall} {renewal : Notice} {entry : CacheEntry}
      (hrenewal : call.renewal? uri = some renewal) (hentry : cache.find? uri = some entry)
      (hbody : found.body = entry.body)
      (htag : found.etag = (renewal.response.header? "etag").or entry.etag)
      (hexpiry : renewal.control.expiry? renewal.arrived = some found.expiresAt)
      (hspares : call.Spares uri) : Leaves cache uri found call
  | untouched {call : CacheCall} (hentry : cache.find? uri = some found)
      (hrenewal : call.renewal? uri = none) (hspares : call.Spares uri) :
      Leaves cache uri found call

end CacheCall

namespace ResponseCache

variable {cache : ResponseCache} {uri other : String} {response : Response} {now : Nat}
  {found : CacheEntry}

theorem leaves_store (h : cache.usable = true) (hpast : ¬ response.KeptPastClock now)
    (hfound : (cache.store other response now).1.find? uri = some found) :
    CacheCall.Leaves cache uri found (.store other response now) := by
  by_cases hkept : response.IsKept
  · obtain ⟨expiresAt, hexpiry⟩ := CacheControl.exists_expiry fun hclock => hpast ⟨hkept, hclock⟩
    rw [store_of_kept h other hkept hexpiry] at hfound
    -- one that is kept for another URI can at most push the entry out
    rcases find?_put hfound with ⟨rfl, rfl⟩ | ⟨hother, hbefore⟩
    · refine .kept hkept ⟨rfl, ?_, ⟨_, rfl, hexpiry⟩⟩
      cases htag : response.header? "etag" <;> simp [htag]
    · exact .untouched hbefore rfl (CacheCall.spares_of_ne (by simp [hother.symm]) (by simp))
  · rw [store_of_not_kept cache other hkept] at hfound
    refine .untouched hfound rfl ⟨?_, by simp⟩
    rintro ⟨_, _, hcall, hkept'⟩
    cases hcall
    exact hkept hkept'

theorem leaves_revalidated (h : cache.usable = true)
    (hpast : ¬ cache.RevivedPastClock other response now)
    (hfound : (cache.revalidated other response now).1.find? uri = some found) :
    CacheCall.Leaves cache uri found (.revalidate other response now) := by
  have hcall : (CacheCall.revalidate other response now).Spares uri :=
    CacheCall.spares_of_ne (by simp) (by simp)
  by_cases hsilent : CacheControl.ofResponse response = {}
  · rw [revalidated_of_silent cache other now hsilent] at hfound
    have hspeaks := (CacheControl.speaks_eq_false_iff _).mpr hsilent
    exact .untouched hfound (by simp [CacheCall.renewal?, hspeaks]) hcall
  have hspeaks : (CacheControl.ofResponse response).speaks = true := by
    rw [← Bool.not_eq_false, CacheControl.speaks_eq_false_iff]
    exact hsilent
  cases hentry : cache.find? other with
  | none =>
      rw [revalidated_of_absent h response now hentry] at hfound
      have hother : other ≠ uri := by
        rintro rfl
        simp [hentry] at hfound
      exact .untouched hfound (by simp [CacheCall.renewal?, hother]) hcall
  | some entry =>
      obtain ⟨expiresAt, hexpiry⟩ := CacheControl.exists_expiry
        fun hclock => hpast ⟨by simp [hentry], hsilent, hclock⟩
      rw [revalidated_of_present h hsilent hentry hexpiry] at hfound
      rcases find?_put hfound with ⟨rfl, rfl⟩ | ⟨hother, hbefore⟩
      · have hrenewal : (CacheCall.revalidate uri response now).renewal? uri =
            some ⟨now, response⟩ := by simp [CacheCall.renewal?, hspeaks]
        exact .renewed hrenewal hentry rfl rfl hexpiry hcall
      · exact .untouched hbefore (by simp [CacheCall.renewal?, hother.symm]) hcall

/-- What a call that is made of the cache itself does to the entry of a URI. -/
theorem leaves_after (h : cache.usable = true) {call : CacheCall} (hdirect : call.IsDirect)
    (hcall : ¬ call.Breaks cache) (hfound : (call.after cache).find? uri = some found) :
    call.Leaves cache uri found := by
  cases call with
  | store other response now => exact leaves_store h hcall hfound
  | revalidate other response now => exact leaves_revalidated h hcall hfound
  | get other =>
      have hbefore : cache.find? uri = some found := by
        simpa [CacheCall.after, get_of_usable h] using hfound
      exact .untouched hbefore rfl (CacheCall.spares_of_ne (by simp) (by simp))
  | size => exact .untouched hfound rfl (CacheCall.spares_of_ne (by simp) (by simp))
  | clear => simp [CacheCall.after, h, clear, find?] at hfound
  | fetch settings replies made clock since => exact hdirect.elim

/-! ## What a run leaves -/

theorem along_append {p : ResponseCache → CacheCall → Prop} (first second : List CacheCall) :
    cache.Along p (first ++ second) ↔
      cache.Along p first ∧ (cache.run first).Along p second := by
  induction first generalizing cache with
  | nil => simp [Along, run]
  | cons call rest ih =>
      have hrun : cache.run (call :: rest) = (call.after cache).run rest := rfl
      rw [List.cons_append, Along, Along, ih, hrun, and_assoc]

/-- Whether an entry rests on the last response that some calls keep for its URI, with no
clearing since, and on what has renewed it since. -/
def EntryOf (calls : List CacheCall) (uri : String) (entry : CacheEntry) : Prop :=
  ∃ earlier kept later, calls = earlier ++ .store uri kept.response kept.arrived :: later ∧
    kept.response.IsKept ∧ (∀ call ∈ later, call.Spares uri) ∧
    entry.RestsOn kept (later.filterMap (·.renewal? uri))

theorem EntryOf.concat {calls : List CacheCall} {call : CacheCall} {entry : CacheEntry}
    (h : EntryOf calls uri entry) (hspares : call.Spares uri)
    (hrests : ∀ kept renewals, entry.RestsOn kept renewals →
      found.RestsOn kept (renewals ++ (call.renewal? uri).toList)) :
    EntryOf (calls ++ [call]) uri found := by
  obtain ⟨earlier, kept, later, rfl, hkept, hlater, hentry⟩ := h
  have hrenewals : (later ++ [call]).filterMap (·.renewal? uri) =
      later.filterMap (·.renewal? uri) ++ (call.renewal? uri).toList := by
    rw [List.filterMap_append]
    cases hrenewal : call.renewal? uri <;> simp [hrenewal]
  refine ⟨earlier, kept, later ++ [call], by simp, hkept, ?_, ?_⟩
  · intro other hother
    rcases List.mem_append.mp hother with hother | hother
    · exact hlater other hother
    · rw [List.mem_singleton.mp hother]
      exact hspares
  · rw [hrenewals]
    exact hrests kept _ hentry

/-- After calls that are made of the cache itself, every entry rests on the response that
was kept last. -/
theorem entryOf_run {capacity : Nat} {calls : List CacheCall}
    (hdirect : ∀ call ∈ calls, call.IsDirect)
    (hclock : (ofCapacity capacity).Along (fun cache call => ¬ call.Breaks cache) calls)
    (hfound : ((ofCapacity capacity).run calls).find? uri = some found) :
    EntryOf calls uri found := by
  induction calls using List.reverseRecOn generalizing found with
  | nil => simp [run, ofCapacity, find?] at hfound
  | append_singleton calls call ih =>
      obtain ⟨hbefore, hlast, -⟩ := (along_append calls [call]).mp hclock
      have hearlier : ∀ other ∈ calls, other.IsDirect := by
        intro other hother
        exact hdirect other (List.mem_append_left _ hother)
      have husable : ((ofCapacity capacity).run calls).usable = true :=
        ((along_returns_iff rfl calls).mpr hbefore).2
      have hafter : (call.after ((ofCapacity capacity).run calls)).find? uri = some found := by
        simpa [run] using hfound
      have hleaves := leaves_after husable (hdirect call (by simp)) hlast hafter
      -- a response that is kept starts anew, every other call goes on from the entry before
      cases hleaves with
      | @kept response now hkept hrests =>
          exact ⟨calls, ⟨now, response⟩, [], rfl, hkept, by simp, hrests⟩
      | renewed hrenewal hentry hbody htag hexpiry hspares =>
          apply (ih hearlier hbefore hentry).concat hspares
          intro kept renewals hrests
          rw [hrenewal]
          exact hrests.renew hbody htag hexpiry
      | untouched hentry hrenewal hspares =>
          apply (ih hearlier hbefore hentry).concat hspares
          intro kept renewals hrests
          rw [hrenewal, Option.toList_none, List.append_nil]
          exact hrests

/-- What a look-up after any calls that are made of the cache itself answers: the body of
the response that was kept for the URI last and not cleared away, the last tag since, and
an entry that is fresh as the last response says which said anything about freshness.
Times count from the last of the calls. -/
theorem get_rests_on_last_kept {capacity : Nat} {calls : List CacheCall}
    (hdirect : ∀ call ∈ calls, call.IsDirect)
    (hclock : (ofCapacity capacity).Along (fun cache call => ¬ call.Breaks cache) calls)
    (hget : (((ofCapacity capacity).run calls).get uri).2 = .ok (some found)) :
    ∃ earlier kept later, calls = earlier ++ .store uri kept.response kept.arrived :: later ∧
      kept.response.IsKept ∧ (∀ call ∈ later, ¬ call.Keeps uri ∧ call ≠ .clear) ∧
      found.body = kept.response.body ∧
      found.etag = (kept :: later.filterMap (·.renewal? uri)).reverse.findSome?
        (fun notice => notice.response.header? "etag") ∧
      ∃ last, (kept :: later.filterMap (·.renewal? uri)).getLast? = some last ∧
        ∀ time, (∀ call ∈ calls, ∀ now ∈ call.time?, now ≤ time) →
          (found.isFresh time = true ↔ last.Freshens time) := by
  have husable : ((ofCapacity capacity).run calls).usable = true :=
    ((along_returns_iff rfl calls).mpr hclock).2
  have hfound : ((ofCapacity capacity).run calls).find? uri = some found := by
    simpa [get_of_usable husable] using hget
  obtain ⟨earlier, kept, later, hcalls, hkept, hlater, hrests⟩ :=
    entryOf_run hdirect hclock hfound
  obtain ⟨last, hlast, hexpiry⟩ := hrests.lifetime
  refine ⟨earlier, kept, later, hcalls, hkept, hlater, hrests.body, hrests.etag, last, hlast, ?_⟩
  intro time htime
  have harrived : last.arrived ≤ time := by
    rcases List.mem_cons.mp (List.mem_of_getLast? hlast) with rfl | hrenewal
    · have hmem : CacheCall.store uri last.response last.arrived ∈ calls := by simp [hcalls]
      exact htime _ hmem last.arrived rfl
    · obtain ⟨call, hcall, hnotice⟩ := List.mem_filterMap.mp hrenewal
      have hmem : call ∈ calls := by simp [hcalls, hcall]
      exact htime call hmem last.arrived (CacheCall.time?_of_renewal? hnotice)
  rw [last.freshens_iff hexpiry harrived]
  simp [CacheEntry.isFresh]

/-! ## A run that can be followed -/

instance (response : Response) : Decidable response.IsKept := inferInstanceAs (Decidable (_ ∧ _))

instance (control : CacheControl) (now : Nat) : Decidable (control.OutlastsClock now) :=
  inferInstanceAs (Decidable (_ ∧ _))

instance (response : Response) (now : Nat) : Decidable (response.KeptPastClock now) :=
  inferInstanceAs (Decidable (_ ∧ _))

instance (cache : ResponseCache) (uri : String) (response : Response) (now : Nat) :
    Decidable (cache.RevivedPastClock uri response now) :=
  inferInstanceAs (Decidable (_ ∧ _ ∧ _))

instance (cache : ResponseCache) (uri : String) (now : Nat) :
    (reply : Reply Response) → Decidable (cache.BrokenBy uri now reply)
  | .answer _ => inferInstanceAs (Decidable (_ ∧ _ ∨ _ ∧ _))
  | .crash => isTrue trivial
  | .timeout => isFalse id
  | .broken _ => isFalse id

instance (cache : ResponseCache) (exchange : Exchange) : Decidable (exchange.Breaks cache) :=
  inferInstanceAs (Decidable (cache.BrokenBy _ _ _))

instance (cache : ResponseCache) : (call : CacheCall) → Decidable (call.Breaks cache)
  | .store _ response now => inferInstanceAs (Decidable (response.KeptPastClock now))
  | .revalidate uri response now =>
    inferInstanceAs (Decidable (cache.RevivedPastClock uri response now))
  | .fetch .. => inferInstanceAs (Decidable (∃ _ ∈ _, _))
  | .get _ => isFalse id
  | .size => isFalse id
  | .clear => isFalse id

instance (call : CacheCall) : Decidable call.IsDirect :=
  match call with
  | .fetch .. => isFalse id
  | .store .. | .revalidate .. | .get _ | .size | .clear => isTrue trivial

instance decidableAlong (p : ResponseCache → CacheCall → Prop)
    [∀ cache call, Decidable (p cache call)] :
    (cache : ResponseCache) → (calls : List CacheCall) → Decidable (cache.Along p calls)
  | _, [] => isTrue trivial
  | cache, call :: rest =>
    have := decidableAlong p (call.after cache) rest
    inferInstanceAs (Decidable (p cache call ∧ _))

/-- A response is pushed out, revalidated in vain, kept again and renewed; the second
renewal says nothing about freshness, and of the two ages of the last one the second counts. -/
def keptAgain : List CacheCall :=
  [.store "u" ⟨200, [("etag", "a")], [120]⟩ 0,
    .store "v" ⟨200, [("etag", "b")], [121]⟩ 0,
    .revalidate "u" ⟨304, [("cache-control", "max-age=9")], []⟩ 1000000000,
    .store "u" ⟨200, [("cache-control", "no-cache"), ("etag", "c")], [122]⟩ 2000000000,
    .revalidate "u" ⟨304, [("etag", "x")], []⟩ 2500000000,
    .revalidate "u" ⟨304, [("cache-control", "max-age=9, Max-Age=30"), ("etag", "d")], []⟩
      3000000000]

theorem get_rests_on_last_kept_again :
    (((ofCapacity 1).run keptAgain).get "u").2 = .ok (some ⟨[122], some "d", 33000000000⟩) ∧
    ∃ earlier kept later, keptAgain = earlier ++ .store "u" kept.response kept.arrived :: later ∧
      kept.response.IsKept ∧ (∀ call ∈ later, ¬ call.Keeps "u" ∧ call ≠ .clear) ∧
      [122] = kept.response.body ∧
      some "d" = (kept :: later.filterMap (·.renewal? "u")).reverse.findSome?
        (fun notice => notice.response.header? "etag") ∧
      ∃ last, (kept :: later.filterMap (·.renewal? "u")).getLast? = some last ∧
        ∀ time, (∀ call ∈ keptAgain, ∀ now ∈ call.time?, now ≤ time) →
          (CacheEntry.isFresh ⟨[122], some "d", 33000000000⟩ time = true ↔
            last.Freshens time) := by
  have hget : (((ofCapacity 1).run keptAgain).get "u").2 =
      .ok (some ⟨[122], some "d", 33000000000⟩) := by decide +kernel
  have hdirect : ∀ call ∈ keptAgain, call.IsDirect := by decide
  have hclock : (ofCapacity 1).Along (fun cache call => ¬ call.Breaks cache) keptAgain := by
    decide +kernel
  exact ⟨hget, get_rests_on_last_kept hdirect hclock hget⟩

end ResponseCache
end Http
end LiveConfig
