import LiveConfig.KeyMap

/-!
# Maps by what they answer

Each operation on maps in terms of `KeyMap.get?`: entries are what is answered
(`mem_entries_iff`), the upper map wins in an overlay (`get?_overlay`), and two maps
with equal answers are equal maps, also where equality of values is only `==`
(`beq_of_get?`).
-/

namespace LiveConfig
namespace KeyMap

variable {α : Type u} {β : Type v}

theorem lookup_eq_none_of_lt {key : String} {entries : List (String × α)}
    (h : ∀ e ∈ entries, key < e.1) : entries.lookup key = none := by
  rw [List.lookup_eq_none_iff]
  intro e he
  simp only [bne_iff_ne, ne_eq]
  rintro rfl
  exact String.lt_irrefl _ (h e he)

theorem mem_iff_lookup {key : String} {value : α} {entries : List (String × α)}
    (h : entries.Pairwise fun a b => a.1 < b.1) :
    (key, value) ∈ entries ↔ entries.lookup key = some value := by
  induction entries with
  | nil => simp
  | cons e rest ih =>
      obtain ⟨hfirst, hrest⟩ := List.pairwise_cons.mp h
      rw [lookup_cons_ite, List.mem_cons, ih hrest]
      by_cases hkey : key = e.1
      · subst hkey
        have hnone : rest.lookup e.1 = none := lookup_eq_none_of_lt hfirst
        rw [hnone, if_pos rfl, Option.some.injEq]
        constructor
        · rintro (heq | hmem)
          · exact (congrArg Prod.snd heq).symm
          · simp at hmem
        · rintro rfl
          exact .inl rfl
      · have hne : ¬ (key, value) = e := by
          rintro rfl
          exact hkey rfl
        simp [hkey, hne]

theorem mem_entries_iff (map : KeyMap α) (key : String) (value : α) :
    (key, value) ∈ map.entries ↔ map.get? key = some value :=
  mem_iff_lookup map.increasing

/-- Entries in increasing order are determined by which they are. -/
theorem eq_of_mem_iff {xs ys : List (String × α)}
    (hx : xs.Pairwise fun a b => a.1 < b.1) (hy : ys.Pairwise fun a b => a.1 < b.1)
    (h : ∀ key value, (key, value) ∈ xs ↔ (key, value) ∈ ys) : xs = ys := by
  have hmaps : (⟨xs, hx⟩ : KeyMap α) = ⟨ys, hy⟩ := by
    apply ext_get?
    intro key
    apply Option.ext
    intro value
    rw [← mem_entries_iff, ← mem_entries_iff]
    exact h key value
  exact congrArg entries hmaps

theorem forall_mem_entries_iff {map : KeyMap α} {p : String → α → Prop} :
    (∀ e ∈ map.entries, p e.1 e.2) ↔ ∀ key value, map.get? key = some value → p key value := by
  simp only [Prod.forall, mem_entries_iff]

theorem mem_keys_iff (map : KeyMap α) (key : String) :
    key ∈ map.keys ↔ ∃ value, map.get? key = some value := by
  simp [keys, ← mem_entries_iff]

theorem keys_increasing (map : KeyMap α) : map.keys.Pairwise (· < ·) :=
  map.increasing.map _ fun _ _ h => h

theorem keys_nodup (map : KeyMap α) : map.keys.Nodup := by
  refine map.keys_increasing.imp ?_
  rintro key _ hlt rfl
  exact String.lt_irrefl key hlt

theorem lookup_map_snd (f : α → β) (key : String) (entries : List (String × α)) :
    (entries.map fun e => (e.1, f e.2)).lookup key = (entries.lookup key).map f := by
  induction entries with
  | nil => rfl
  | cons e rest ih =>
      rw [List.map_cons, lookup_cons_ite, lookup_cons_ite, ih]
      by_cases hkey : key = e.1
      · simp [hkey]
      · simp [hkey]

theorem get?_mapValues (map : KeyMap α) (f : α → β) (key : String) :
    (map.mapValues f).get? key = (map.get? key).map f :=
  lookup_map_snd f key map.entries

theorem lookup_foldl_insert {entries : List (String × α)}
    (h : entries.Pairwise fun a b => a.1 < b.1) (lower : KeyMap α) (key : String) :
    (entries.foldl (fun map e => map.insert e.1 e.2) lower).get? key =
      (entries.lookup key).or (lower.get? key) := by
  induction entries generalizing lower with
  | nil => rfl
  | cons e rest ih =>
      obtain ⟨hfirst, hrest⟩ := List.pairwise_cons.mp h
      rw [List.foldl_cons, ih hrest, get?_insert, lookup_cons_ite]
      by_cases hkey : key = e.1
      · subst hkey
        simp [lookup_eq_none_of_lt hfirst]
      · simp [hkey]

theorem get?_overlay (lower upper : KeyMap α) (key : String) :
    (lower.overlay upper).get? key = (upper.get? key).or (lower.get? key) :=
  lookup_foldl_insert upper.increasing lower key

theorem get?_foldl_insert (entries : List (String × α)) (map : KeyMap α) (key : String) :
    (entries.foldl (fun m e => m.insert e.1 e.2) map).get? key =
      (entries.reverse.lookup key).or (map.get? key) := by
  induction entries generalizing map with
  | nil => rfl
  | cons e rest ih =>
      rw [List.foldl_cons, ih, get?_insert, List.reverse_cons, List.lookup_append,
        lookup_cons_ite, List.lookup_nil]
      by_cases hkey : key = e.1
      · simp [hkey]
      · simp [hkey]

theorem get?_ofList (entries : List (String × α)) (key : String) :
    (ofList entries).get? key = entries.reverse.lookup key := by
  rw [ofList, get?_foldl_insert, get?_empty, Option.or_none]

theorem lookup_of_nodup {entries : List (String × α)}
    (h : (entries.map (·.1)).Nodup) : ∀ e ∈ entries, entries.lookup e.1 = some e.2 := by
  induction entries with
  | nil => simp
  | cons first rest ih =>
      rw [List.map_cons, List.nodup_cons] at h
      intro e he
      rw [lookup_cons_ite]
      rcases List.mem_cons.mp he with rfl | he
      · rw [if_pos rfl]
      · have hne : e.1 ≠ first.1 := by
          intro heq
          exact h.1 (heq ▸ List.mem_map_of_mem he)
        rw [if_neg hne, ih h.2 e he]

theorem mem_iff_lookup_of_nodup {entries : List (String × α)}
    (h : (entries.map (·.1)).Nodup) {key : String} {value : α} :
    (key, value) ∈ entries ↔ entries.lookup key = some value := by
  constructor
  · intro hmem
    exact lookup_of_nodup h (key, value) hmem
  · intro hlookup
    obtain ⟨before, after, hsplit, -⟩ := List.lookup_eq_some_iff.mp hlookup
    simp [hsplit]

theorem ofList_entries (map : KeyMap α) : ofList map.entries = map := by
  apply ext_get?
  intro key
  rw [ofList, lookup_foldl_insert map.increasing, get?_empty, Option.or_none]
  rfl

theorem mapValues_ofList (entries : List (String × α)) (f : α → β) :
    (ofList entries).mapValues f = ofList (entries.map fun e => (e.1, f e.2)) := by
  apply ext_get?
  intro key
  rw [get?_mapValues, get?_ofList, get?_ofList, ← List.map_reverse, lookup_map_snd]

/-- A value of a map made from a list stands in the list. -/
theorem mem_of_get?_ofList {entries : List (String × α)} {key : String} {value : α}
    (h : (ofList entries).get? key = some value) : (key, value) ∈ entries := by
  rw [get?_ofList, List.lookup_eq_some_iff] at h
  obtain ⟨earlier, later, hsplit, -⟩ := h
  rw [← List.mem_reverse, hsplit]
  exact List.mem_append_right _ List.mem_cons_self

/-- Of the values that a list has for a key, the map made from it has the last one. -/
theorem get?_ofList_eq_some_iff {entries : List (String × α)} {key : String} {value : α} :
    (ofList entries).get? key = some value ↔ ∃ before after,
      entries = before ++ (key, value) :: after ∧ ∀ later ∈ after, later.1 ≠ key := by
  rw [get?_ofList, List.lookup_eq_some_iff]
  constructor
  · rintro ⟨later, earlier, hsplit, hlater⟩
    refine ⟨earlier.reverse, later.reverse, ?_, ?_⟩
    · simpa using congrArg List.reverse hsplit
    · intro e he heq
      have hne := hlater e (List.mem_reverse.mp he)
      simp [heq] at hne
  · rintro ⟨before, after, rfl, hafter⟩
    refine ⟨after.reverse, before.reverse, by simp, ?_⟩
    intro e he
    have hne := hafter e (List.mem_reverse.mp he)
    simpa using Ne.symm hne

/-- A list without a key twice is a map as it is, but for the order. -/
theorem entries_ofList_perm {entries : List (String × α)} (h : (entries.map (·.1)).Nodup) :
    (ofList entries).entries.Perm entries := by
  have hreverse : (entries.reverse.map (·.1)).Nodup := by
    rw [List.map_reverse, List.Nodup, List.pairwise_reverse]
    exact h.imp Ne.symm
  have hnodup : ∀ {list : List (String × α)}, (list.map (·.1)).Nodup → list.Nodup := by
    intro list hkeys
    refine List.Pairwise.of_map (·.1) ?_ hkeys
    intro a b hne heq
    exact hne (congrArg Prod.fst heq)
  apply (List.perm_ext_iff_of_nodup (hnodup (ofList entries).keys_nodup) (hnodup h)).mpr
  rintro ⟨key, value⟩
  rw [mem_entries_iff, get?_ofList, ← mem_iff_lookup_of_nodup hreverse, List.mem_reverse]

theorem get?_ofList_of_nodup {entries : List (String × α)} (h : (entries.map (·.1)).Nodup)
    {key : String} {value : α} :
    (ofList entries).get? key = some value ↔ (key, value) ∈ entries := by
  rw [← mem_entries_iff, (entries_ofList_perm h).mem_iff]

theorem lookup_flatMap (f : β → List (String × α)) (key : String) (list : List β) :
    (list.flatMap f).lookup key = list.findSome? fun item => (f item).lookup key := by
  induction list with
  | nil => rfl
  | cons item rest ih =>
      rw [List.flatMap_cons, List.lookup_append, ih, List.findSome?_cons]
      cases (f item).lookup key <;> rfl

/-- A map made from several lists has of each key what the last list that has it makes of it. -/
theorem get?_ofList_flatMap (f : β → List (String × α)) (key : String) (list : List β) :
    (ofList (list.flatMap f)).get? key =
      list.reverse.findSome? fun item => (ofList (f item)).get? key := by
  simp only [get?_ofList, List.reverse_flatMap, lookup_flatMap, Function.comp_apply]

/-- Where a list has at most one value for a key, the map made from it has that value. -/
theorem get?_ofList_of_mem_iff {entries : List (String × α)} {key : String} {answer : Option α}
    (h : ∀ value, (key, value) ∈ entries ↔ answer = some value) :
    (ofList entries).get? key = answer := by
  cases hget : (ofList entries).get? key with
  | some value => exact ((h value).mp (mem_of_get?_ofList hget)).symm
  | none =>
      rw [get?_ofList, List.lookup_eq_none_iff] at hget
      symm
      rw [Option.eq_none_iff_forall_ne_some]
      intro value hanswer
      have hmem := List.mem_reverse.mpr ((h value).mpr hanswer)
      simpa using hget _ hmem

/-- The filter keeps all entries if all of them satisfy the condition. -/
theorem filter_eq_self {map : KeyMap α} {keep : String → α → Bool}
    (h : ∀ key value, map.get? key = some value → keep key value = true) :
    map.filter keep = map := by
  have hentries : map.entries.filter (fun e => keep e.1 e.2) = map.entries := by
    rw [List.filter_eq_self]
    intro e he
    exact h e.1 e.2 ((map.mem_entries_iff e.1 e.2).mp he)
  cases map
  simpa [filter] using hentries

section Equality

variable [BEq α]

theorem beq_entries {xs ys : List (String × α)}
    (hx : xs.Pairwise fun a b => a.1 < b.1) (hy : ys.Pairwise fun a b => a.1 < b.1)
    (hkeys : xs.map (·.1) = ys.map (·.1))
    (h : ∀ key, (xs.lookup key == ys.lookup key) = true) : (xs == ys) = true := by
  induction xs generalizing ys with
  | nil =>
      cases ys with
      | nil => rfl
      | cons y ys => simp at hkeys
  | cons x xs ih =>
      cases ys with
      | nil => simp at hkeys
      | cons y ys =>
          simp only [List.map_cons, List.cons.injEq] at hkeys
          obtain ⟨hkey, hrest⟩ := hkeys
          obtain ⟨hxk, hxs⟩ := List.pairwise_cons.mp hx
          obtain ⟨hyk, hys⟩ := List.pairwise_cons.mp hy
          have hvalue : (x.2 == y.2) = true := by
            simpa [lookup_cons_ite, hkey] using h x.1
          have htail : (xs == ys) = true := by
            apply ih hxs hys hrest
            intro key
            by_cases hfirst : key = x.1
            · subst hfirst
              have hy' : ys.lookup x.1 = none := lookup_eq_none_of_lt fun e he => hkey ▸ hyk e he
              rw [lookup_eq_none_of_lt hxk, hy']
              rfl
            · have hy' : ¬ key = y.1 := fun heq => hfirst (heq.trans hkey.symm)
              simpa [lookup_cons_ite, hfirst, hy'] using h key
          have hhead : (x == y) = true := by
            rw [show (x == y) = (x.1 == y.1 && x.2 == y.2) from rfl, hkey, hvalue]
            simp
          simp [hhead, htail]

/-- Two maps whose answers are equal are equal. -/
theorem beq_of_get? {a b : KeyMap α}
    (h : ∀ key, (a.get? key == b.get? key) = true) : (a == b) = true := by
  -- equal answers are present for the same keys, so the maps have the same key list
  have hunits : a.mapValues (fun _ => ()) = b.mapValues (fun _ => ()) := by
    apply ext_get?
    intro key
    rw [get?_mapValues, get?_mapValues]
    have hkey := h key
    cases ha : a.get? key <;> cases hb : b.get? key <;> simp [ha, hb] at hkey ⊢
  have hkeys : a.keys = b.keys := by
    have := congrArg keys hunits
    simpa [keys, mapValues, Function.comp_def] using this
  exact beq_entries a.increasing b.increasing hkeys h

end Equality

end KeyMap
end LiveConfig
