import LiveConfig.Proofs.Replay
import Mathlib.Data.List.Nodup

/-!
# Which keys changed

The changes between two maps can be collected in two passes, one over what was there
before and one over what is there after, each in whatever order its entries come
(`Change.passes`).  Together the passes meet every key whose configuration differs, and
none of them twice: they tell the same changes as `Change.between`, up to the order
(`Change.tells_passes`, `Change.Tells.perm`).  The way back between the two maps tells the
same changes with their two sides exchanged.
-/

namespace LiveConfig
namespace Change

/-- The change of a key that was there before, if there is any. -/
def ofOld? (after : KeyMap Config) (entry : String × Config) : Option Change :=
  if unchanged (some entry.2) (after.get? entry.1) then none
  else some ⟨entry.1, some entry.2, after.get? entry.1⟩

/-- The change of a key that is there after, if it was not there before. -/
def ofNew? (before : KeyMap Config) (entry : String × Config) : Option Change :=
  if before.contains entry.1 then none else some ⟨entry.1, none, some entry.2⟩

/-- The changes found in a pass over the old entries and then one over the new ones. -/
def passes (before after : KeyMap Config) (olds news : List (String × Config)) : List Change :=
  olds.filterMap (ofOld? after) ++ news.filterMap (ofNew? before)

/-- The change that undoes a change. -/
def swap (change : Change) : Change := ⟨change.key, change.new, change.old⟩

/-- Whether a list has one change for each key that differs, with what the key had before and
after, and no other change. -/
structure Tells (told : List Change) (before after : KeyMap Config) : Prop where
  distinct : (told.map (·.key)).Nodup
  mem_iff : ∀ change, change ∈ told ↔
    change.old = before.get? change.key ∧ change.new = after.get? change.key ∧
      (change.new == change.old) = false

theorem tells_between (before after : KeyMap Config) :
    Tells (between before after) before after :=
  ⟨nodup_keys_between before after, mem_between_iff before after⟩

section Tells

variable {before after : KeyMap Config} {told other : List Change}

theorem Tells.perm (h : Tells told before after) (hother : Tells other before after) :
    told.Perm other := by
  apply (List.perm_ext_iff_of_nodup h.distinct.of_map hother.distinct.of_map).mpr
  intro change
  rw [h.mem_iff, hother.mem_iff]

theorem Tells.swap (h : Tells told before after) : Tells (told.map Change.swap) after before := by
  constructor
  · rw [List.map_map]
    exact h.distinct
  · intro change
    have hmem : change ∈ told.map Change.swap ↔ change.swap ∈ told := by
      constructor
      · intro hchange
        obtain ⟨original, horiginal, rfl⟩ := List.mem_map.mp hchange
        exact horiginal
      · intro hchange
        exact List.mem_map.mpr ⟨change.swap, hchange, rfl⟩
    rw [hmem, h.mem_iff]
    simp only [Change.swap, BEq.comm (a := change.old)]
    tauto

/-- Of each key a list that tells the changes has its change, or nothing. -/
theorem Tells.filter_key (h : Tells told before after) (key : String) :
    told.filter (·.key == key) =
      if before.get? key == after.get? key then []
      else [⟨key, before.get? key, after.get? key⟩] := by
  have hmem : ∀ change, change ∈ told.filter (·.key == key) ↔
      change = ⟨key, before.get? key, after.get? key⟩ ∧
        (before.get? key == after.get? key) = false := by
    intro change
    rw [List.mem_filter, h.mem_iff, beq_iff_eq, BEq.comm (a := change.new)]
    constructor
    · rintro ⟨⟨hold, hnew, hdiffers⟩, rfl⟩
      rw [← hold, ← hnew]
      exact ⟨rfl, hdiffers⟩
    · rintro ⟨rfl, hdiffers⟩
      exact ⟨⟨rfl, rfl, hdiffers⟩, rfl⟩
  split
  · rename_i hsame
    rw [List.eq_nil_iff_forall_not_mem]
    intro change hchange
    simp [hmem, hsame] at hchange
  · rename_i hdiffers
    rw [← List.perm_singleton]
    apply (List.perm_ext_iff_of_nodup (h.distinct.of_map.filter _) (List.nodup_singleton _)).mpr
    intro change
    rw [hmem, List.mem_singleton]
    simp [hdiffers]

end Tells

section Passes

variable {before after : KeyMap Config} {olds news : List (String × Config)}

theorem key_ofOld? {entry : String × Config} {change : Change}
    (h : ofOld? after entry = some change) : change.key = entry.1 := by
  simp only [ofOld?, Option.ite_none_left_eq_some, Option.some.injEq] at h
  rw [← h.2]

theorem key_ofNew? {entry : String × Config} {change : Change}
    (h : ofNew? before entry = some change) : change.key = entry.1 := by
  simp only [ofNew?, Option.ite_none_left_eq_some, Option.some.injEq] at h
  rw [← h.2]

theorem mem_first_pass_iff (holds : olds.Perm before.entries) (change : Change) :
    change ∈ olds.filterMap (ofOld? after) ↔
      ∃ config, change.old = some config ∧ before.get? change.key = some config ∧
        change.new = after.get? change.key ∧ (change.new == change.old) = false := by
  rw [List.mem_filterMap]
  constructor
  · rintro ⟨⟨key, config⟩, hentry, hchange⟩
    rw [holds.mem_iff, KeyMap.mem_entries_iff] at hentry
    simp only [ofOld?, unchanged_eq, Option.ite_none_left_eq_some, Option.some.injEq] at hchange
    obtain ⟨hdiffers, rfl⟩ := hchange
    exact ⟨config, rfl, hentry, rfl, by simpa using hdiffers⟩
  · rintro ⟨config, hold, hbefore, hnew, hdiffers⟩
    refine ⟨(change.key, config), ?_, ?_⟩
    · rwa [holds.mem_iff, KeyMap.mem_entries_iff]
    · simp [ofOld?, unchanged_eq, ← hold, ← hnew, hdiffers]

theorem mem_second_pass_iff (hnews : news.Perm after.entries) (change : Change) :
    change ∈ news.filterMap (ofNew? before) ↔
      ∃ config, change.new = some config ∧ after.get? change.key = some config ∧
        change.old = none ∧ before.get? change.key = none := by
  rw [List.mem_filterMap]
  constructor
  · rintro ⟨⟨key, config⟩, hentry, hchange⟩
    rw [hnews.mem_iff, KeyMap.mem_entries_iff] at hentry
    simp only [ofNew?, Option.ite_none_left_eq_some, Option.some.injEq] at hchange
    obtain ⟨habsent, rfl⟩ := hchange
    exact ⟨config, rfl, hentry, rfl, by simpa [KeyMap.contains] using habsent⟩
  · rintro ⟨config, hnew, hafter, hold, hbefore⟩
    refine ⟨(change.key, config), ?_, ?_⟩
    · rwa [hnews.mem_iff, KeyMap.mem_entries_iff]
    · simp [ofNew?, KeyMap.contains, hbefore, ← hold, ← hnew]

theorem tells_passes (holds : olds.Perm before.entries) (hnews : news.Perm after.entries) :
    Tells (passes before after olds news) before after := by
  constructor
  · rw [passes, List.map_append]
    refine List.Nodup.append ?_ ?_ ?_
    · have hkeys : (olds.map (·.1)).Nodup := (holds.map Prod.fst).nodup_iff.mpr before.keys_nodup
      exact hkeys.sublist (keys_filterMap_sublist (fun _ _ h => key_ofOld? h) olds)
    · have hkeys : (news.map (·.1)).Nodup := (hnews.map Prod.fst).nodup_iff.mpr after.keys_nodup
      exact hkeys.sublist (keys_filterMap_sublist (fun _ _ h => key_ofNew? h) news)
    · -- a key of the first pass was there before, one of the second was not
      intro key hinfirst hinsecond
      obtain ⟨first, hfirst, rfl⟩ := List.mem_map.mp hinfirst
      obtain ⟨second, hsecond, hkey⟩ := List.mem_map.mp hinsecond
      obtain ⟨config, _, hthere, _⟩ := (mem_first_pass_iff holds first).mp hfirst
      obtain ⟨_, _, _, _, habsent⟩ := (mem_second_pass_iff hnews second).mp hsecond
      rw [hkey, hthere] at habsent
      exact Option.some_ne_none config habsent
  · intro change
    rw [passes, List.mem_append, mem_first_pass_iff holds, mem_second_pass_iff hnews]
    cases hold : change.old with
    | some config => simp [@eq_comm _ (some config)]
    | none =>
        cases hnew : change.new with
        | some config => simp [@eq_comm _ none, @eq_comm _ (some config), and_comm]
        | none => simp

end Passes

/-- Whatever order the entries of two maps are met in, exactly the keys that differ are told,
each one once and with what it had before and after, and the way back tells the same changes
the other way round. -/
theorem changed_keys_told_once {before after : KeyMap Config}
    {olds news olds' news' : List (String × Config)}
    (holds : olds.Perm before.entries) (hnews : news.Perm after.entries)
    (holds' : olds'.Perm before.entries) (hnews' : news'.Perm after.entries) :
    (passes before after olds news).Perm (between before after) ∧
    (∀ key, (passes before after olds news).filter (·.key == key) =
      if before.get? key == after.get? key then []
      else [⟨key, before.get? key, after.get? key⟩]) ∧
    (passes after before news' olds').Perm ((passes before after olds news).map swap) := by
  have htold := tells_passes holds hnews
  refine ⟨htold.perm (tells_between before after), htold.filter_key, ?_⟩
  exact (tells_passes hnews' holds').perm htold.swap

def beforeRelease : KeyMap Config :=
  .ofList [("banner", .constant "banner" 1 (.string "spring")),
    ("legacy", .constant "legacy" 1 (.bool true)), ("limit", .constant "limit" 1 (.int 5))]

/-- One key is replaced, one is removed and one added. -/
def afterRelease : KeyMap Config :=
  .ofList [("banner", .constant "banner" 2 (.string "summer")),
    ("limit", .constant "limit" 1 (.int 5)), ("retries", .constant "retries" 1 (.int 3))]

theorem changed_keys_told_once_release :
    let told := passes beforeRelease afterRelease beforeRelease.entries.reverse
      afterRelease.entries.reverse
    told.filter (·.key == "legacy") = [⟨"legacy", beforeRelease.get? "legacy", none⟩] ∧
    told.filter (·.key == "limit") = [] ∧
    (passes afterRelease beforeRelease afterRelease.entries beforeRelease.entries).Perm
      (told.map swap) := by
  obtain ⟨_, hkeys, hback⟩ := changed_keys_told_once (List.reverse_perm beforeRelease.entries)
    (List.reverse_perm afterRelease.entries) (.refl _) (.refl _)
  exact ⟨(hkeys "legacy").trans rfl, (hkeys "limit").trans rfl, hback⟩

end Change
end LiveConfig
