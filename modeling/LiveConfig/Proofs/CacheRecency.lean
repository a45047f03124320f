import LiveConfig.Proofs.CacheContent
import LiveConfig.Proofs.Distinct

/-!
# Which entries of the cache are kept

A call can use the entry of a URI: it finds the entry, keeps a response as the entry, or
renews it (`CacheCall.effect`).  The URIs of the cache are the first ones of all distinct
URIs that were used since the last clearing, the latest first, as many as there is place for
(`ResponseCache.Tracks`).  So an entry is pushed out exactly when as many other URIs as that
have been used since its own last use (`ResponseCache.kept_iff_recently_used`).
-/

namespace LiveConfig

namespace Http

/-! ## What a call does to the entries -/

/-- What a call means for which entries are kept: one of them is used, all are dropped, or
neither. -/
inductive CacheEffect
  | use (uri : String)
  | drop
  | none
  deriving DecidableEq

/-- The URIs used since all entries were dropped last, the latest first. -/
def CacheEffect.record (used : List String) : CacheEffect → List String
  | use uri => uri :: used
  | drop => []
  | none => used

/-- A call uses an entry that it finds, one that it keeps a response as, and one that it
renews by a response that says something about freshness.  What is kept or renewed has to
end before the clock does, and an unusable cache is not changed at all. -/
def CacheCall.effect (cache : ResponseCache) (call : CacheCall) : CacheEffect :=
  if cache.usable then
    match call with
    | .get uri => if (cache.find? uri).isSome then .use uri else .none
    | .store uri response now =>
      if response.IsKept ∧ ¬ (CacheControl.ofResponse response).OutlastsClock now then .use uri
      else .none
    | .revalidate uri response now =>
      if (cache.find? uri).isSome ∧ (CacheControl.ofResponse response).speaks ∧
          ¬ (CacheControl.ofResponse response).OutlastsClock now then .use uri
      else .none
    | .clear => .drop
    | _ => .none
  else .none

namespace ResponseCache

variable {cache : ResponseCache} {used : List String} {uri : String} {entry : CacheEntry}
  {call : CacheCall}

def uris (cache : ResponseCache) : List String := cache.entries.map (·.1)

theorem mem_uris_iff : uri ∈ cache.uris ↔ (cache.find? uri).isSome = true := by
  rw [← Option.ne_none_iff_isSome, find?, Ne, List.lookup_eq_none_iff]
  simp only [uris, List.mem_map, bne_iff_ne, ne_eq, not_forall, not_not, exists_prop]
  exact exists_congr fun e => and_congr_right fun _ => eq_comm

theorem uris_without (entries : List (String × CacheEntry)) :
    (without uri entries).map (·.1) = (entries.map (·.1)).filter (· != uri) := by
  rw [List.filter_map]
  rfl

theorem uris_put (cache : ResponseCache) (uri : String) (entry : CacheEntry) :
    (cache.put uri entry).uris =
      (uri :: cache.uris.filter (· != uri)).take cache.capacity := by
  rw [uris, put, List.map_take, List.map_cons, uris_without]
  rfl

theorem perm_touch (h : cache.uris.Nodup) (uri : String) :
    (cache.touch uri).entries.Perm cache.entries := by
  unfold touch
  cases hentry : cache.find? uri with
  | none => exact .refl _
  | some entry =>
      obtain ⟨before, after, hsplit, -⟩ := List.lookup_eq_some_iff.mp hentry
      have hothers : without uri cache.entries = before ++ after := by
        rw [uris, hsplit] at h
        rw [hsplit]
        exact filter_fst_ne_of_split h
      dsimp only
      rw [hothers, hsplit]
      exact List.perm_middle.symm

/-- Whether the URIs of the cache are the first distinct ones of those used. -/
def Tracks (cache : ResponseCache) (used : List String) : Prop :=
  cache.uris = used.eraseDups.take cache.capacity

theorem Tracks.nodup (h : cache.Tracks used) : cache.uris.Nodup := by
  rw [h]
  exact (nodup_eraseDups used).sublist (List.take_sublist _ _)

theorem Tracks.length_le (h : cache.Tracks used) : cache.entries.length ≤ cache.capacity := by
  have hlength : cache.entries.length = cache.uris.length := by simp [uris]
  rw [hlength, h, List.length_take]
  exact Nat.min_le_left _ _

theorem Tracks.find?_isSome_iff (h : cache.Tracks used) (hused : uri ∈ used) :
    (cache.find? uri).isSome = true ↔
      (used.takeWhile (· != uri)).eraseDups.length < cache.capacity := by
  rw [← mem_uris_iff, h, mem_take_eraseDups_iff hused]

theorem Tracks.put (h : cache.Tracks used) (uri : String) (entry : CacheEntry) :
    (cache.put uri entry).Tracks (uri :: used) := by
  have hcapacity : (cache.put uri entry).capacity = cache.capacity := rfl
  rw [Tracks, uris_put, h, hcapacity, eraseDups_cons_eq]
  cases cache.capacity with
  | zero => rfl
  | succ n =>
      rw [List.take_succ_cons, List.take_succ_cons, take_filter_take (nodup_eraseDups used)]

/-- No entry has to give way to one that is there. -/
theorem Tracks.touch_eq_put (h : cache.Tracks used) (hentry : cache.find? uri = some entry) :
    cache.touch uri = cache.put uri entry := by
  have hlength : (cache.touch uri).entries.length ≤ cache.capacity := by
    rw [(perm_touch h.nodup uri).length_eq]
    exact h.length_le
  simp only [touch, hentry] at hlength ⊢
  rw [ResponseCache.put, List.take_of_length_le hlength]

/-! ## One call -/

theorem after_of_use (h : cache.Tracks used) (heffect : call.effect cache = .use uri) :
    ∃ entry, call.after cache = cache.put uri entry := by
  unfold CacheCall.effect at heffect
  split at heffect
  case isFalse => cases heffect
  rename_i husable
  cases call with
  | get other =>
      dsimp only at heffect
      split at heffect
      · rename_i hfound
        cases heffect
        obtain ⟨entry, hentry⟩ := Option.isSome_iff_exists.mp hfound
        exact ⟨entry, by rw [CacheCall.after, get_of_usable husable, h.touch_eq_put hentry]⟩
      · cases heffect
  | store other response now =>
      dsimp only at heffect
      split at heffect
      · rename_i hkept
        cases heffect
        obtain ⟨expiresAt, hexpiry⟩ := CacheControl.exists_expiry hkept.2
        exact ⟨_, by rw [CacheCall.after, store_of_kept husable uri hkept.1 hexpiry]⟩
      · cases heffect
  | revalidate other response now =>
      dsimp only at heffect
      split at heffect
      · rename_i hrenewed
        cases heffect
        obtain ⟨hfound, hspeaks, hclock⟩ := hrenewed
        obtain ⟨entry, hentry⟩ := Option.isSome_iff_exists.mp hfound
        obtain ⟨expiresAt, hexpiry⟩ := CacheControl.exists_expiry hclock
        have hcontrol : CacheControl.ofResponse response ≠ {} := by
          rw [Ne, ← CacheControl.speaks_eq_false_iff, hspeaks]
          exact Bool.noConfusion
        exact ⟨_, by rw [CacheCall.after, revalidated_of_present husable hcontrol hentry hexpiry]⟩
      · cases heffect
  | size => cases heffect
  | clear => cases heffect
  | fetch settings replies made clock since => cases heffect

theorem eq_clear_of_drop (heffect : call.effect cache = .drop) :
    call = .clear ∧ cache.usable = true := by
  unfold CacheCall.effect at heffect
  split at heffect
  case isFalse => cases heffect
  rename_i husable
  cases call with
  | clear => exact ⟨rfl, husable⟩
  | size => cases heffect
  | fetch settings replies made clock since => cases heffect
  | _ =>
      dsimp only at heffect
      split at heffect <;> cases heffect

theorem after_of_drop (heffect : call.effect cache = .drop) :
    call.after cache = { cache with entries := [] } := by
  obtain ⟨rfl, husable⟩ := eq_clear_of_drop heffect
  rw [CacheCall.after, clear, if_pos husable]

/-- A call that neither uses an entry nor drops all leaves the entries as they are, in their
order. -/
theorem entries_after_of_none (hdirect : call.IsDirect) (heffect : call.effect cache = .none) :
    (call.after cache).entries = cache.entries ∧
      (call.after cache).capacity = cache.capacity := by
  unfold CacheCall.effect at heffect
  split at heffect
  case isFalse =>
    rename_i hunusable
    rw [CacheCall.after_of_unusable (by simpa using hunusable)]
    exact ⟨rfl, rfl⟩
  rename_i husable
  cases call with
  | get other =>
      dsimp only at heffect
      split at heffect
      · cases heffect
      · rename_i hfound
        rw [Option.not_isSome_iff_eq_none] at hfound
        simp [CacheCall.after, get_of_usable husable, touch, hfound]
  | store other response now =>
      dsimp only at heffect
      split at heffect
      · cases heffect
      · rename_i hnot
        by_cases hkept : response.IsKept
        · have hpast : response.KeptPastClock now := by
            simpa [Response.KeptPastClock, hkept] using hnot
          simp [CacheCall.after, store_of_past hpast]
        · simp [CacheCall.after, store_of_not_kept cache other hkept]
  | revalidate other response now =>
      dsimp only at heffect
      split at heffect
      · cases heffect
      · rename_i hnot
        by_cases hsilent : CacheControl.ofResponse response = {}
        · simp [CacheCall.after, revalidated_of_silent cache other now hsilent]
        cases hentry : cache.find? other with
        | none => simp [CacheCall.after, revalidated_of_absent husable response now hentry]
        | some entry =>
            have hspeaks : (CacheControl.ofResponse response).speaks = true := by
              rw [← Bool.not_eq_false, CacheControl.speaks_eq_false_iff]
              exact hsilent
            have hpast : cache.RevivedPastClock other response now := by
              simpa [RevivedPastClock, hentry, hsilent, hspeaks] using hnot
            simp [CacheCall.after, revalidated_of_past husable hpast]
  | size => exact ⟨rfl, rfl⟩
  | clear => cases heffect
  | fetch settings replies made clock since => exact hdirect.elim

theorem Tracks.after (h : cache.Tracks used) (hdirect : call.IsDirect) :
    (call.after cache).Tracks ((call.effect cache).record used) ∧
      (call.after cache).capacity = cache.capacity := by
  cases heffect : call.effect cache with
  | use uri =>
      obtain ⟨entry, hafter⟩ := after_of_use h heffect
      rw [hafter]
      exact ⟨h.put uri entry, rfl⟩
  | drop =>
      rw [after_of_drop heffect]
      exact ⟨List.take_nil.symm, rfl⟩
  | none =>
      obtain ⟨hentries, hcapacity⟩ := entries_after_of_none hdirect heffect
      refine ⟨?_, hcapacity⟩
      rw [Tracks, uris, hentries, hcapacity]
      exact h

/-! ## Any number of calls -/

/-- The URIs used in calls since all entries were dropped last, the latest first; `used` are
those used before the calls. -/
def usesAfter : ResponseCache → List String → List CacheCall → List String
  | _, used, [] => used
  | cache, used, call :: rest =>
    usesAfter (call.after cache) ((call.effect cache).record used) rest

theorem Tracks.run (h : cache.Tracks used) {calls : List CacheCall}
    (hdirect : ∀ call ∈ calls, call.IsDirect) :
    (cache.run calls).Tracks (cache.usesAfter used calls) ∧
      (cache.run calls).capacity = cache.capacity := by
  induction calls generalizing cache used with
  | nil => exact ⟨h, rfl⟩
  | cons call rest ih =>
      obtain ⟨hcall, hrest⟩ := List.forall_mem_cons.mp hdirect
      obtain ⟨hafter, hcapacity⟩ := h.after hcall
      obtain ⟨htracks, hkept⟩ := ih hafter hrest
      exact ⟨htracks, hkept.trans hcapacity⟩

theorem usesAfter_append (cache : ResponseCache) (used : List String)
    (first second : List CacheCall) :
    cache.usesAfter used (first ++ second) =
      (cache.run first).usesAfter (cache.usesAfter used first) second := by
  induction first generalizing cache used with
  | nil => rfl
  | cons call rest ih => exact ih _ _

theorem mem_usesAfter_of_mem (h : uri ∈ used) {calls : List CacheCall}
    (hcalls : ∀ call ∈ calls, call ≠ .clear) : uri ∈ cache.usesAfter used calls := by
  induction calls generalizing cache used with
  | nil => exact h
  | cons call rest ih =>
      obtain ⟨hcall, hrest⟩ := List.forall_mem_cons.mp hcalls
      refine ih ?_ hrest
      cases heffect : call.effect cache with
      | use other => exact List.mem_cons_of_mem other h
      | none => exact h
      | drop => exact absurd (eq_clear_of_drop heffect).1 hcall

/-- Whether calls keep a response for a URI and do not clear the cache after it. -/
def StoredSinceClear (cache : ResponseCache) (calls : List CacheCall) (uri : String) : Prop :=
  ∃ earlier response now later, calls = earlier ++ .store uri response now :: later ∧
    (CacheCall.store uri response now).effect (cache.run earlier) = .use uri ∧
    ∀ call ∈ later, call ≠ .clear

theorem mem_usesAfter_of_stored {calls : List CacheCall} (h : cache.StoredSinceClear calls uri)
    (used : List String) : uri ∈ cache.usesAfter used calls := by
  obtain ⟨earlier, response, now, later, rfl, heffect, hlater⟩ := h
  rw [usesAfter_append, usesAfter, heffect]
  exact mem_usesAfter_of_mem List.mem_cons_self hlater

/-- After any calls that are made of a new cache itself, it holds no more entries than it has
place for.  An entry that was kept since the last clearing is there exactly if fewer other
URIs than that have been used since its own last use: those before it in the list of uses.
A call that uses no entry, such as a look-up in vain or a response that is not to be kept,
pushes none out. -/
theorem kept_iff_recently_used (capacity : Nat) {calls : List CacheCall}
    (hdirect : ∀ call ∈ calls, call.IsDirect) :
    ((ofCapacity capacity).run calls).entries.length ≤ max 1 capacity ∧
    (∀ uri, (ofCapacity capacity).StoredSinceClear calls uri →
      ((((ofCapacity capacity).run calls).find? uri).isSome = true ↔
        (((ofCapacity capacity).usesAfter [] calls).takeWhile (· != uri)).eraseDups.length <
          max 1 capacity)) ∧
    ∀ call : CacheCall, call.IsDirect →
      call.effect ((ofCapacity capacity).run calls) = .none →
      (call.after ((ofCapacity capacity).run calls)).entries =
        ((ofCapacity capacity).run calls).entries := by
  have hstart : (ofCapacity capacity).Tracks [] := List.take_nil.symm
  obtain ⟨htracks, hcapacity⟩ := hstart.run hdirect
  have hplaces : ((ofCapacity capacity).run calls).capacity = max 1 capacity := hcapacity
  refine ⟨hplaces ▸ htracks.length_le, ?_, fun call hcall heffect =>
    (entries_after_of_none hcall heffect).1⟩
  intro uri hstored
  rw [htracks.find?_isSome_iff (mem_usesAfter_of_stored hstored []), hplaces]

/-- Two responses are kept, the older one is found again, a third one is kept, and the
second is looked up in vain. -/
def foundAgain : List CacheCall :=
  [.store "u" ⟨200, [("etag", "a")], [120]⟩ 0,
    .store "v" ⟨200, [("cache-control", "max-age=60")], [121]⟩ 0,
    .get "u",
    .store "w" ⟨200, [("cache-control", "no-cache"), ("etag", "c")], [122]⟩ 1000000000,
    .get "v"]

theorem kept_iff_recently_used_found_again :
    ((ofCapacity 2).run foundAgain).entries.length ≤ 2 ∧
    (((ofCapacity 2).run foundAgain).find? "u").isSome = true ∧
    (((ofCapacity 2).run foundAgain).find? "v").isSome = false ∧
    ((CacheCall.store "x" ⟨200, [("cache-control", "no-store"), ("etag", "d")], []⟩
        2000000000).after ((ofCapacity 2).run foundAgain)).entries =
      ((ofCapacity 2).run foundAgain).entries := by
  have hdirect : ∀ call ∈ foundAgain, call.IsDirect := by decide
  have huses : (ofCapacity 2).usesAfter [] foundAgain = ["w", "u", "v", "u"] := by decide +kernel
  obtain ⟨hsize, hkept, hnone⟩ := kept_iff_recently_used 2 hdirect
  rw [huses] at hkept
  have hu : (ofCapacity 2).StoredSinceClear foundAgain "u" :=
    ⟨[], _, _, foundAgain.tail, rfl, by decide +kernel, by simp [foundAgain]⟩
  have hv : (ofCapacity 2).StoredSinceClear foundAgain "v" :=
    ⟨foundAgain.take 1, _, _, foundAgain.drop 2, rfl, by decide +kernel, by simp [foundAgain]⟩
  refine ⟨hsize, (hkept "u" hu).mpr (by decide +kernel), ?_, hnone _ trivial (by decide +kernel)⟩
  rw [← Bool.not_eq_true, hkept "v" hv]
  decide +kernel

end ResponseCache
end Http
end LiveConfig
