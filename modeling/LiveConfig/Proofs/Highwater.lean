import LiveConfig.Proofs.Delivery
import Mathlib.Data.List.Basic
import Mathlib.Data.List.Induction
import Mathlib.Order.Bounds.Basic
import Mathlib.Tactic.Tauto

/-!
# The highest id

The highest id of a layer is the greatest of 0 and the ids of all the configurations that
were handed to it, those included that it ignored and those that removed a key.  For an id
that is ignored is below a stored one, and no stored one is above the highest
(`Delivered.Marks`): so to forget a removed configuration does not lower it.

What counts is therefore which ids were delivered, and neither in which order nor in which
batches (`Loader.highwater_greatest`).
-/

namespace LiveConfig

/-! ## Layers whose highest id is exact -/

/-- The ids of what was delivered, and 0. -/
def History.ids (history : History) : Set Int :=
  {id | id = 0 ∨ ∃ element ∈ history.elements, element.config.id = id}

theorem History.ids_subset_append (first second : History) :
    History.ids first ⊆ History.ids (first ++ second) := by
  rintro id (rfl | ⟨element, helement, rfl⟩)
  · exact .inl rfl
  · right
    refine ⟨element, ?_, rfl⟩
    rw [elements, List.flatMap_append]
    exact List.mem_append_left _ helement

namespace Delivered

variable {delivered : Delivered} {ids : Set Int}

/-- The highest id is the greatest of some ids, and nothing that is stored is above it. -/
structure Marks (delivered : Delivered) (ids : Set Int) : Prop where
  greatest : IsGreatest ids delivered.highwater
  stored : ∀ key element, delivered.configs.get? key = some element →
    element.config.id ≤ delivered.highwater

theorem Marks.id_le_of_stale (h : delivered.Marks ids) {config : Config}
    (hstale : delivered.isStale config = true) : config.id ≤ delivered.highwater := by
  unfold isStale at hstale
  rw [Option.any_eq_true] at hstale
  obtain ⟨stored, hstored, hbelow⟩ := hstale
  have hmark := h.stored config.key stored hstored
  have hless : config.id < stored.config.id := by simpa using hbelow
  omega

theorem Marks.acceptElement (h : delivered.Marks ids) (element : Element) :
    (delivered.acceptElement element).Marks (insert element.config.id ids) := by
  have hhighwater : (delivered.acceptElement element).highwater =
      max element.config.id delivered.highwater := by
    rw [highwater_acceptElement]
    split
    · rename_i hstale
      exact (max_eq_right (h.id_le_of_stale hstale)).symm
    · exact max_comm _ _
  constructor
  · rw [hhighwater]
    exact h.greatest.insert element.config.id
  · intro key stored hstored
    rw [hhighwater]
    rcases eq_of_get?_acceptElement hstored with hbefore | ⟨rfl, -⟩
    · exact (h.stored key stored hbefore).trans (le_max_right _ _)
    · exact le_max_left _ _

theorem Marks.acceptAll (h : delivered.Marks ids) (elements : List Element) :
    (delivered.acceptAll elements).Marks
      (ids ∪ {id | ∃ element ∈ elements, element.config.id = id}) := by
  induction elements generalizing delivered ids with
  | nil => simpa [Delivered.acceptAll] using h
  | cons element rest ih =>
      have hids : ids ∪ {id | ∃ e ∈ element :: rest, e.config.id = id} =
          insert element.config.id ids ∪ {id | ∃ e ∈ rest, e.config.id = id} := by
        ext id
        simp only [Set.mem_union, Set.mem_insert_iff, Set.mem_ofPred_eq, List.exists_mem_cons_iff]
        tauto
      rw [hids]
      exact ih (h.acceptElement element)

theorem Marks.load (h : delivered.Marks ids) (batch : Batch) (provenance : Provenance) :
    (delivered.load batch provenance).Marks
      (ids ∪ {id | ∃ element ∈ batch.elements provenance, element.config.id = id}) := by
  have hall := h.acceptAll (batch.elements provenance)
  constructor
  · rw [highwater_load]
    exact hall.greatest
  · rw [highwater_load, configs_load]
    exact hall.stored

theorem marks_ofHistory (history : History) : (ofHistory history).Marks history.ids := by
  induction history using List.reverseRecOn with
  | nil =>
      refine ⟨⟨.inl rfl, ?_⟩, fun key element helement => by cases helement⟩
      rintro id (rfl | ⟨element, helement, -⟩)
      · exact le_refl _
      · cases helement
  | append_singleton history delivery ih =>
      have hids : History.ids (history ++ [delivery]) =
          History.ids history ∪ {id | ∃ e ∈ delivery.1.elements delivery.2, e.config.id = id} := by
        ext id
        simp only [History.ids, History.elements, List.flatMap_append, List.flatMap_singleton,
          List.mem_append, Set.mem_union, Set.mem_ofPred_eq, or_and_right, exists_or, or_assoc]
      rw [hids, ofHistory, loadAll_append]
      exact ih.load delivery.1 delivery.2

end Delivered

/-! ## What loads answer -/

namespace Loader

/-- What the loads of a history answer, one after another: the highest id once the batch
has been applied. -/
def answers (loader : Loader) : History → List Int
  | [] => []
  | delivery :: rest =>
    let next := loader.load delivery.1 delivery.2
    next.highwater :: next.answers rest

theorem answers_append (loader : Loader) (first second : History) :
    loader.answers (first ++ second) =
      loader.answers first ++ (loader.loadAll first).answers second := by
  induction first generalizing loader with
  | nil => rfl
  | cons delivery rest ih => exact congrArg _ (ih (loader.load delivery.1 delivery.2))

theorem answers_concat (loader : Loader) (history : History) (delivery : Batch × Provenance) :
    loader.answers (history ++ [delivery]) =
      loader.answers history ++ [(loader.loadAll (history ++ [delivery])).highwater] := by
  rw [answers_append, loadAll_concat]
  rfl

section Start

variable (baseline overrides : KeyMap Element) (globals : ContextSet)

/-- A loader over fixed layers, before anything is delivered. -/
def start : Loader := { baseline, overrides, globals }

theorem marks_loadAll (history : History) :
    ((start baseline overrides globals).loadAll history).delivered.Marks history.ids :=
  Delivered.marks_ofHistory history

theorem highwater_loadAll_mono (first second : History) :
    ((start baseline overrides globals).loadAll first).highwater ≤
      ((start baseline overrides globals).loadAll (first ++ second)).highwater :=
  (marks_loadAll baseline overrides globals first).greatest.mono
    (marks_loadAll baseline overrides globals (first ++ second)).greatest
    (History.ids_subset_append first second)

theorem answer_le_highwater {history : History} {answer : Int}
    (h : answer ∈ 0 :: (start baseline overrides globals).answers history) :
    answer ≤ ((start baseline overrides globals).loadAll history).highwater := by
  induction history using List.reverseRecOn with
  | nil => exact le_of_eq (List.mem_singleton.mp h)
  | append_singleton history delivery ih =>
      rw [answers_concat, ← List.cons_append, List.mem_append] at h
      rcases h with hbefore | hlast
      · exact (ih hbefore).trans (highwater_loadAll_mono baseline overrides globals _ _)
      · exact le_of_eq (List.mem_singleton.mp hlast)

theorem answers_increasing (history : History) :
    (0 :: (start baseline overrides globals).answers history).Pairwise (· ≤ ·) := by
  induction history using List.reverseRecOn with
  | nil => exact List.pairwise_singleton _ _
  | append_singleton history delivery ih =>
      rw [answers_concat, ← List.cons_append, List.pairwise_append]
      refine ⟨ih, List.pairwise_singleton _ _, ?_⟩
      intro answer hanswer last hlast
      rw [List.mem_singleton.mp hlast]
      exact (answer_le_highwater baseline overrides globals hanswer).trans
        (highwater_loadAll_mono baseline overrides globals _ _)

theorem getLast?_answers (history : History) :
    (0 :: (start baseline overrides globals).answers history).getLast? =
      some ((start baseline overrides globals).loadAll history).highwater := by
  induction history using List.reverseRecOn with
  | nil => rfl
  | append_singleton history delivery ih =>
      rw [answers_concat, ← List.cons_append, List.getLast?_concat]

theorem highwater_eq_of_ids {history other : History} (h : history.ids = other.ids) :
    ((start baseline overrides globals).loadAll history).highwater =
      ((start baseline overrides globals).loadAll other).highwater := by
  have hgreatest := (marks_loadAll baseline overrides globals history).greatest
  rw [h] at hgreatest
  exact hgreatest.unique (marks_loadAll baseline overrides globals other).greatest

end Start

/-- After any history the highest id is the greatest of 0 and the ids that were delivered.
It is what the last load answered, the answers only grow, and nothing that is stored is
above it.  Histories with the same ids have the same highest id. -/
theorem highwater_greatest (baseline overrides : KeyMap Element) (globals : ContextSet) :
    (∀ history : History,
      let loader := (start baseline overrides globals).loadAll history
      let answers := 0 :: (start baseline overrides globals).answers history
      IsGreatest history.ids loader.highwater ∧
      answers.getLast? = some loader.highwater ∧ answers.Pairwise (· ≤ ·) ∧
      ∀ key element, loader.delivered.configs.get? key = some element →
        element.config.id ≤ loader.highwater) ∧
    ∀ history other : History, history.ids = other.ids →
      ((start baseline overrides globals).loadAll history).highwater =
        ((start baseline overrides globals).loadAll other).highwater := by
  constructor
  · intro history
    have hmarks := marks_loadAll baseline overrides globals history
    exact ⟨hmarks.greatest, getLast?_answers baseline overrides globals history,
      answers_increasing baseline overrides globals history, hmarks.stored⟩
  · intro history other h
    exact highwater_eq_of_ids baseline overrides globals h

/-- A key is set and another one with a negative id, the first is removed, and then it comes
back as it was. -/
def removalAndReturn : History :=
  [(⟨none, [.ok (.constant "a" 3 (.bool true)), .ok (.constant "b" (-2) (.bool true))], none⟩,
      ⟨.remoteApi, none⟩),
    (⟨none, [.ok (.tombstone "a" 7)], none⟩, ⟨.streaming, none⟩),
    (⟨none, [.ok (.constant "a" 3 (.bool true))], none⟩, ⟨.streaming, none⟩)]

theorem highwater_greatest_reversed :
    ((start .empty .empty .empty).loadAll removalAndReturn).highwater = 7 ∧
    (∃ element, ((start .empty .empty .empty).loadAll removalAndReturn).delivered.configs.get? "a" =
      some element ∧ element.config.id = 3 ∧ (3 : Int) ≤ 7) ∧
    removalAndReturn.ids = History.ids removalAndReturn.reverse ∧
    ((start .empty .empty .empty).loadAll removalAndReturn.reverse).highwater = 7 := by
  obtain ⟨hexact, hsame⟩ := highwater_greatest .empty .empty .empty
  obtain ⟨-, hlast, -, hstored⟩ := hexact removalAndReturn
  have hhighwater : ((start .empty .empty .empty).loadAll removalAndReturn).highwater = 7 :=
    Option.some.inj (hlast.symm.trans rfl)
  have hreturned : ((start .empty .empty .empty).loadAll removalAndReturn).delivered.configs.get?
      "a" = some ⟨.constant "a" 3 (.bool true), ⟨.streaming, none⟩⟩ := rfl
  have hids : removalAndReturn.ids = History.ids removalAndReturn.reverse := by
    ext id
    simp only [History.ids, History.elements, Set.mem_ofPred_eq, List.mem_flatMap,
      List.mem_reverse]
  exact ⟨hhighwater, ⟨_, hreturned, rfl, hhighwater ▸ hstored "a" _ hreturned⟩, hids,
    (hsame _ _ hids).symm.trans hhighwater⟩

end Loader
end LiveConfig
