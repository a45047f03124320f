/-!
# Maps from text keys, in key order

A map is the list of its entries by strictly increasing key, so that a map is
determined by what it answers to `get?` (`KeyMap.ext_get?`).  The order of the
entries is the order of code points of their keys.
-/

namespace LiveConfig

/-- A finite map whose entries are kept in increasing key order. -/
structure KeyMap (α : Type u) where
  entries : List (String × α)
  increasing : entries.Pairwise fun a b => a.1 < b.1

namespace KeyMap

variable {α : Type u} {β : Type v}

def insertEntry (key : String) (value : α) : List (String × α) → List (String × α)
  | [] => [(key, value)]
  | (k, v) :: rest =>
      if key < k then (key, value) :: (k, v) :: rest
      else if k < key then (k, v) :: insertEntry key value rest
      else (key, value) :: rest

theorem mem_insertEntry {key : String} {value : α} {e : String × α} :
    ∀ {entries : List (String × α)},
      e ∈ insertEntry key value entries → e = (key, value) ∨ e ∈ entries
  | [], h => by simpa [insertEntry] using h
  | (k, v) :: rest, h => by
      unfold insertEntry at h
      split at h
      · simpa using h
      · split at h
        · rcases List.mem_cons.mp h with h | h
          · exact .inr (by simp [h])
          · rcases mem_insertEntry h with h | h
            · exact .inl h
            · exact .inr (by simp [h])
        · rcases List.mem_cons.mp h with h | h
          · exact .inl h
          · exact .inr (by simp [h])

theorem increasing_insertEntry (key : String) (value : α) :
    ∀ {entries : List (String × α)}, entries.Pairwise (fun a b => a.1 < b.1) →
      (insertEntry key value entries).Pairwise fun a b => a.1 < b.1
  | [], _ => by simp [insertEntry]
  | (k, v) :: rest, h => by
      obtain ⟨hk, hrest⟩ := List.pairwise_cons.mp h
      unfold insertEntry
      split
      · rename_i hlt
        refine List.pairwise_cons.mpr ⟨fun e he => ?_, h⟩
        rcases List.mem_cons.mp he with rfl | he
        · exact hlt
        · exact String.lt_trans hlt (hk e he)
      · split
        · rename_i hlt
          refine List.pairwise_cons.mpr ⟨fun e he => ?_, increasing_insertEntry key value hrest⟩
          rcases mem_insertEntry he with rfl | he
          · exact hlt
          · exact hk e he
        · rename_i hkey hk'
          have heq : key = k := String.le_antisymm (String.not_lt.mp hk') (String.not_lt.mp hkey)
          exact List.pairwise_cons.mpr ⟨fun e he => heq ▸ hk e he, hrest⟩

/-- The empty map. -/
def empty : KeyMap α := ⟨[], .nil⟩

instance : Inhabited (KeyMap α) := ⟨empty⟩

instance [BEq α] : BEq (KeyMap α) := ⟨fun a b => a.entries == b.entries⟩

def get? (map : KeyMap α) (key : String) : Option α := map.entries.lookup key

def contains (map : KeyMap α) (key : String) : Bool := (map.get? key).isSome

def keys (map : KeyMap α) : List String := map.entries.map (·.1)

def values (map : KeyMap α) : List α := map.entries.map (·.2)

def size (map : KeyMap α) : Nat := map.entries.length

def isEmpty (map : KeyMap α) : Bool := map.entries.isEmpty

/-- Sets `key`, replacing a value that it had. -/
def insert (map : KeyMap α) (key : String) (value : α) : KeyMap α :=
  ⟨insertEntry key value map.entries, increasing_insertEntry key value map.increasing⟩

def erase (map : KeyMap α) (key : String) : KeyMap α :=
  ⟨map.entries.filter (·.1 != key), map.increasing.filter _⟩

/-- Keeps the entries that satisfy `keep`. -/
def filter (map : KeyMap α) (keep : String → α → Bool) : KeyMap α :=
  ⟨map.entries.filter fun e => keep e.1 e.2, map.increasing.filter _⟩

def mapValues (map : KeyMap α) (f : α → β) : KeyMap β :=
  ⟨map.entries.map fun e => (e.1, f e.2), map.increasing.map _ fun _ _ h => h⟩

/-- The map of a list of entries; a later entry replaces an earlier one of its key. -/
def ofList (entries : List (String × α)) : KeyMap α :=
  entries.foldl (fun map e => map.insert e.1 e.2) empty

/-- The entries of both maps; where both have a key, the value of `upper`. -/
def overlay (lower upper : KeyMap α) : KeyMap α :=
  upper.entries.foldl (fun map e => map.insert e.1 e.2) lower

theorem lookup_cons_ite (k' : String) (e : String × α) (rest : List (String × α)) :
    (e :: rest).lookup k' = if k' = e.1 then some e.2 else rest.lookup k' := by
  obtain ⟨k, v⟩ := e
  by_cases h : k' = k
  · simp [h]
  · have hb : (k' == k) = false := by simp [h]
    simp [List.lookup_cons, h, hb]

theorem lookup_insertEntry (key : String) (value : α) (k' : String) :
    ∀ {entries : List (String × α)}, entries.Pairwise (fun a b => a.1 < b.1) →
      (insertEntry key value entries).lookup k' =
        if k' = key then some value else entries.lookup k'
  | [], _ => by simp [insertEntry, lookup_cons_ite]
  | (k, v) :: rest, hinc => by
      obtain ⟨_, hrest⟩ := List.pairwise_cons.mp hinc
      unfold insertEntry
      split
      · simp only [lookup_cons_ite]
      · split
        · rename_i hlt
          simp only [lookup_cons_ite, lookup_insertEntry key value k' hrest]
          by_cases hk : k' = k
          · have hne : k' ≠ key := by
              rintro rfl
              exact String.lt_irrefl k (hk ▸ hlt)
            rw [if_pos hk, if_neg hne, if_pos hk]
          · rw [if_neg hk, if_neg hk]
        · rename_i hkey hk
          have heq : key = k := String.le_antisymm (String.not_lt.mp hk) (String.not_lt.mp hkey)
          subst heq
          by_cases h : k' = key <;> simp [lookup_cons_ite, h]

theorem get?_empty (key : String) : (empty : KeyMap α).get? key = none := rfl

theorem get?_insert (map : KeyMap α) (key : String) (value : α) (k' : String) :
    (map.insert key value).get? k' = if k' = key then some value else map.get? k' :=
  lookup_insertEntry key value k' map.increasing

theorem lookup_filter_ne (key k' : String) (entries : List (String × α)) :
    (entries.filter (·.1 != key)).lookup k' = if k' = key then none else entries.lookup k' := by
  induction entries with
  | nil => simp
  | cons e rest ih =>
      by_cases he : e.1 = key
      · rw [List.filter_cons_of_neg (by simp [he]), ih, lookup_cons_ite, he]
        by_cases hk : k' = key <;> simp [hk]
      · rw [List.filter_cons_of_pos (by simp [he]), lookup_cons_ite, lookup_cons_ite, ih]
        by_cases hk : k' = key
        · simp [hk, Ne.symm he]
        · simp [hk]

theorem get?_erase (map : KeyMap α) (key k' : String) :
    (map.erase key).get? k' = if k' = key then none else map.get? k' :=
  lookup_filter_ne key k' map.entries

/-- Two maps that answer every key alike are one map. -/
theorem ext_get? {a b : KeyMap α} (h : ∀ key, a.get? key = b.get? key) : a = b := by
  have key : ∀ {xs ys : List (String × α)}, xs.Pairwise (fun a b => a.1 < b.1) →
      ys.Pairwise (fun a b => a.1 < b.1) →
      (∀ k, xs.lookup k = ys.lookup k) → xs = ys := by
    intro xs
    induction xs with
    | nil =>
        intro ys _ _ hl
        cases ys with
        | nil => rfl
        | cons y ys =>
            have := hl y.1
            simp [lookup_cons_ite] at this
    | cons x xs ih =>
        intro ys hx hy hl
        cases ys with
        | nil =>
            have := hl x.1
            simp [lookup_cons_ite] at this
        | cons y ys =>
            obtain ⟨hxk, hxs⟩ := List.pairwise_cons.mp hx
            obtain ⟨hyk, hys⟩ := List.pairwise_cons.mp hy
            have absent : ∀ {zs : List (String × α)} {k : String},
                (∀ z ∈ zs, k < z.1) → zs.lookup k = none := by
              intro zs k hz
              rw [List.lookup_eq_none_iff]
              intro z hmem
              simp only [bne_iff_ne, ne_eq]
              rintro rfl
              exact String.lt_irrefl _ (hz z hmem)
            have hkey : x.1 = y.1 := by
              rcases Std.lt_trichotomy x.1 y.1 with hlt | heq | hgt
              · have hnone : (y :: ys).lookup x.1 = none := absent (by
                  intro z hz
                  rcases List.mem_cons.mp hz with rfl | hz
                  · exact hlt
                  · exact String.lt_trans hlt (hyk z hz))
                have := hl x.1
                simp [hnone, lookup_cons_ite] at this
              · exact heq
              · have hnone : (x :: xs).lookup y.1 = none := absent (by
                  intro z hz
                  rcases List.mem_cons.mp hz with rfl | hz
                  · exact hgt
                  · exact String.lt_trans hgt (hxk z hz))
                have := hl y.1
                simp [hnone, lookup_cons_ite] at this
            have hvalue : x.2 = y.2 := by
              have := hl x.1
              simpa [lookup_cons_ite, hkey] using this
            have htail : xs = ys := ih hxs hys fun k => by
              by_cases hk : k = x.1
              · subst hk
                rw [absent hxk, hkey, absent hyk]
              · have := hl k
                simpa [lookup_cons_ite, hk, hkey ▸ hk] using this
            rw [htail, Prod.ext hkey hvalue]
  cases a
  cases b
  congr
  exact key ‹_› ‹_› h

end KeyMap

end LiveConfig
