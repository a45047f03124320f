import LiveConfig.Change
import LiveConfig.Proofs.Equality
import LiveConfig.Proofs.KeyMap

/-!
# Carrying out a list of changes

The changes between two maps name every key at most once, so their order does not
matter: in any order they lead from a map that answers like the first one to a map
that answers like the second one (`Change.same_replay`), and each change finds the
configuration that it takes for the old one (`Change.faithful_of_between`).

A configuration that holds a NaN does not equal itself, so answers are compared by
`Same`, which also holds of one and the same configuration.
-/

namespace LiveConfig

/-- Equal as configurations, or one and the same. -/
def Same (a b : Option Config) : Prop := a = b ∨ (a == b) = true

namespace Same

variable {a b c : Option Config}

theorem symm (h : Same a b) : Same b a := by
  rcases h with rfl | h
  · exact .inl rfl
  · exact .inr (BEq.symm h)

theorem trans (hab : Same a b) (hbc : Same b c) : Same a c := by
  rcases hab with rfl | hab
  · exact hbc
  · rcases hbc with rfl | hbc
    · exact .inr hab
    · exact .inr (BEq.trans hab hbc)

theorem beq (h : Same a b) (ha : Comparable a) : (a == b) = true := by
  rcases h with rfl | h
  · exact ha
  · exact h

end Same

namespace Change

theorem unchanged_eq (old new : Option Config) : unchanged old new = (new == old) := by
  cases old <;> cases new <;> rfl

theorem key_ofKey? {before after : KeyMap Config} {key : String} {change : Change}
    (h : ofKey? before after key = some change) : change.key = key := by
  simp only [ofKey?] at h
  split at h
  · simp at h
  · simp only [Option.some.injEq] at h
    rw [← h]

theorem mem_between_iff (before after : KeyMap Config) (change : Change) :
    change ∈ between before after ↔
      change.old = before.get? change.key ∧ change.new = after.get? change.key ∧
        (change.new == change.old) = false := by
  unfold between
  rw [List.mem_filterMap]
  constructor
  · rintro ⟨key, _, hkey⟩
    simp only [ofKey?, unchanged_eq] at hkey
    split at hkey
    · simp at hkey
    · rename_i hchanged
      simp only [Option.some.injEq] at hkey
      subst hkey
      exact ⟨rfl, rfl, by simpa using hchanged⟩
  · rintro ⟨hold, hnew, hchanged⟩
    refine ⟨change.key, ?_, ?_⟩
    · rw [KeyMap.mem_keys_iff, KeyMap.get?_overlay, KeyMap.get?_mapValues,
        KeyMap.get?_mapValues, ← hold, ← hnew]
      cases hn : change.new with
      | some config => exact ⟨(), rfl⟩
      | none =>
          cases ho : change.old with
          | some config => exact ⟨(), rfl⟩
          | none => simp [hn, ho] at hchanged
    · simp [ofKey?, unchanged_eq, ← hold, ← hnew, hchanged]

theorem keys_filterMap_sublist {pass : α → Option Change} {name : α → String}
    (hpass : ∀ x change, pass x = some change → change.key = name x) (xs : List α) :
    ((xs.filterMap pass).map (·.key)).Sublist (xs.map name) := by
  induction xs with
  | nil => simp
  | cons x xs ih =>
      cases hx : pass x with
      | none =>
          rw [List.filterMap_cons_none hx, List.map_cons]
          exact ih.cons (name x)
      | some change =>
          rw [List.filterMap_cons_some hx, List.map_cons, List.map_cons, hpass x change hx]
          exact ih.cons_cons (name x)

/-- Of one key there is at most one change. -/
theorem nodup_keys_between (before after : KeyMap Config) :
    ((between before after).map (·.key)).Nodup := by
  have hkeys (keys : List String) :
      ((keys.filterMap (ofKey? before after)).map (·.key)).Sublist keys := by
    simpa using @keys_filterMap_sublist _ (ofKey? before after) id (fun _ _ => key_ofKey?) keys
  exact (KeyMap.keys_nodup _).sublist (hkeys _)

/-- Where every configuration equals itself, a map has no changes to itself. -/
theorem between_self {map : KeyMap Config}
    (h : ∀ key config, map.get? key = some config → Comparable config) :
    between map map = [] := by
  rw [List.eq_nil_iff_forall_not_mem]
  intro change hchange
  obtain ⟨hold, hnew, hchanged⟩ := (mem_between_iff map map change).mp hchange
  have hself : Comparable (map.get? change.key) := by
    rw [comparable_option_iff]
    intro config hconfig
    exact h change.key config hconfig
  rw [hold, hnew] at hchanged
  simp [show (map.get? change.key == map.get? change.key) = true from hself] at hchanged

/-- Carries changes out one after another. -/
def replay (map : KeyMap Config) (changes : List Change) : KeyMap Config :=
  changes.foldl apply map

theorem replay_append (map : KeyMap Config) (first second : List Change) :
    replay map (first ++ second) = replay (replay map first) second :=
  List.foldl_append

theorem get?_apply (map : KeyMap Config) (change : Change) (key : String) :
    (apply map change).get? key = if key = change.key then change.new else map.get? key := by
  unfold apply
  split
  · rename_i config hnew
    rw [KeyMap.get?_insert, hnew]
  · rename_i hnew
    rw [KeyMap.get?_erase, hnew]

theorem get?_replay_of_forall_ne {changes : List Change} {key : String}
    (h : ∀ change ∈ changes, change.key ≠ key) (map : KeyMap Config) :
    (replay map changes).get? key = map.get? key := by
  induction changes generalizing map with
  | nil => rfl
  | cons first rest ih =>
      rw [List.forall_mem_cons] at h
      calc
        (replay map (first :: rest)).get? key = (replay (apply map first) rest).get? key := rfl
        _ = (apply map first).get? key := ih h.2 _
        _ = map.get? key := by rw [get?_apply, if_neg h.1.symm]

theorem get?_replay_of_mem {changes : List Change} (hnodup : (changes.map (·.key)).Nodup)
    {change : Change} (h : change ∈ changes) (map : KeyMap Config) :
    (replay map changes).get? change.key = change.new := by
  induction changes generalizing map with
  | nil => simp at h
  | cons first rest ih =>
      rw [List.map_cons, List.nodup_cons] at hnodup
      have hstep : replay map (first :: rest) = replay (apply map first) rest := rfl
      rw [hstep]
      rcases List.mem_cons.mp h with rfl | h
      · have hother : ∀ c ∈ rest, c.key ≠ change.key := by
          intro c hc heq
          exact hnodup.1 (heq ▸ List.mem_map_of_mem hc)
        rw [get?_replay_of_forall_ne hother, get?_apply, if_pos rfl]
      · exact ih hnodup.2 h _

/-- Every change finds as its old configuration, up to `r`, what is there when its turn
comes. -/
def Faithful (r : Option Config → Option Config → Prop) : KeyMap Config → List Change → Prop
  | _, [] => True
  | map, change :: rest =>
    r change.old (map.get? change.key) ∧ Faithful r (apply map change) rest

section Faithful

variable {r s : Option Config → Option Config → Prop} {map : KeyMap Config}

theorem Faithful.append {first second : List Change} (hfirst : Faithful r map first)
    (hsecond : Faithful r (replay map first) second) : Faithful r map (first ++ second) := by
  induction first generalizing map with
  | nil => exact hsecond
  | cons change rest ih => exact ⟨hfirst.1, ih hfirst.2 hsecond⟩

theorem Faithful.imp {changes : List Change} (h : Faithful r map changes)
    (himp : ∀ change ∈ changes, ∀ found, r change.old found → s change.old found) :
    Faithful s map changes := by
  induction changes generalizing map with
  | nil => trivial
  | cons change rest ih =>
      rw [List.forall_mem_cons] at himp
      exact ⟨himp.1 _ h.1, ih h.2 himp.2⟩

theorem faithful_of_nodup {changes : List Change} (hnodup : (changes.map (·.key)).Nodup)
    (h : ∀ change ∈ changes, r change.old (map.get? change.key)) : Faithful r map changes := by
  induction changes generalizing map with
  | nil => trivial
  | cons first rest ih =>
      rw [List.map_cons, List.nodup_cons] at hnodup
      rw [List.forall_mem_cons] at h
      refine ⟨h.1, ih hnodup.2 ?_⟩
      intro change hchange
      have hother : change.key ≠ first.key := by
        intro heq
        exact hnodup.1 (heq ▸ List.mem_map_of_mem hchange)
      rw [get?_apply, if_neg hother]
      exact h.2 change hchange

end Faithful

section Told

variable {before after map : KeyMap Config} {told : List Change}

theorem nodup_keys_of_perm (htold : told.Perm (between before after)) :
    (told.map (·.key)).Nodup :=
  (htold.map _).nodup_iff.mpr (nodup_keys_between before after)

theorem same_replay (htold : told.Perm (between before after))
    (hmap : ∀ key, Same (map.get? key) (before.get? key)) (key : String) :
    Same ((replay map told).get? key) (after.get? key) := by
  by_cases hkey : ∃ change ∈ told, change.key = key
  · obtain ⟨change, hchange, rfl⟩ := hkey
    obtain ⟨_, hnew, _⟩ := (mem_between_iff before after change).mp (htold.mem_iff.mp hchange)
    rw [get?_replay_of_mem (nodup_keys_of_perm htold) hchange, hnew]
    exact .inl rfl
  · have hother : ∀ change ∈ told, change.key ≠ key :=
      fun change hchange heq => hkey ⟨change, hchange, heq⟩
    have hequal : (after.get? key == before.get? key) = true := by
      cases hchanged : (after.get? key == before.get? key) with
      | true => rfl
      | false =>
          have hmem : (⟨key, before.get? key, after.get? key⟩ : Change) ∈ between before after :=
            (mem_between_iff _ _ _).mpr ⟨rfl, rfl, hchanged⟩
          exact absurd rfl (hother _ (htold.mem_iff.mpr hmem))
    rw [get?_replay_of_forall_ne hother]
    exact (hmap key).trans (.inr (BEq.symm hequal))

theorem faithful_of_between (htold : told.Perm (between before after))
    (hmap : ∀ key, Same (map.get? key) (before.get? key)) : Faithful Same map told := by
  apply faithful_of_nodup (nodup_keys_of_perm htold)
  intro change hchange
  obtain ⟨hold, _, _⟩ := (mem_between_iff before after change).mp (htold.mem_iff.mp hchange)
  rw [hold]
  exact (hmap change.key).symm

end Told

end Change
end LiveConfig
