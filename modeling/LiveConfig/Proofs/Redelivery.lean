import LiveConfig.Proofs.Acceptance
import LiveConfig.Proofs.Highwater
import Mathlib.Data.List.MinMax

/-!
# Batches that are delivered again

A batch may name a key several times, removals among them, and when it is delivered again
the layer is no longer what it was the first time.  Two passes over the versions of a key
still meet: a version with the greatest id of them is accepted unless a greater one is
stored, and from there on the passes are one (`Delivered.foldl_supersede_congr`).  So the
second pass ends where it began (`Delivered.foldl_supersede_again`), and as the highest id
knows all the ids already, loading a batch again changes nothing (`Loader.redelivery_idempotent`).
-/

namespace LiveConfig
namespace Delivered

attribute [ext] Delivered

/-- Whether nothing with an id above the bound is stored. -/
def AtMost (bound : Int) (stored : Option Element) : Prop :=
  ∀ current ∈ stored, current.config.id ≤ bound

theorem AtMost.supersede {bound : Int} {stored : Option Element} {element : Element}
    (hstored : AtMost bound stored) (helement : element.config.id ≤ bound) :
    AtMost bound (Delivered.supersede stored element) := by
  intro found hfound
  rcases eq_of_supersede_eq_some hfound with hbefore | ⟨rfl, -⟩
  · exact hstored found hbefore
  · exact helement

theorem AtMost.foldl_supersede {bound : Int} {stored : Option Element}
    {elements : List Element} (hstored : AtMost bound stored)
    (helements : ∀ e ∈ elements, e.config.id ≤ bound) :
    AtMost bound (elements.foldl Delivered.supersede stored) :=
  List.foldlRecOn elements Delivered.supersede hstored fun _ hreached element helement =>
    hreached.supersede (helements element helement)

/-- Where nothing stored is above a version, that version alone decides. -/
theorem AtMost.supersede_eq {stored : Option Element} {element : Element}
    (h : AtMost element.config.id stored) :
    Delivered.supersede stored element = Delivered.supersede none element := by
  have hfresh : (stored.any fun s => element.config.id < s.config.id) = false := by
    rw [Option.any_eq_false]
    intro current hcurrent
    have hle := h current hcurrent
    simpa using hle
  simp [Delivered.supersede, hfresh]

/-- From two states below the greatest id of the versions the same state is reached. -/
theorem foldl_supersede_congr {elements : List Element} {top : Element}
    (hmem : top ∈ elements) (htop : ∀ e ∈ elements, e.config.id ≤ top.config.id)
    {stored other : Option Element} (hstored : AtMost top.config.id stored)
    (hother : AtMost top.config.id other) :
    elements.foldl supersede stored = elements.foldl supersede other := by
  obtain ⟨before, after, rfl⟩ := List.append_of_mem hmem
  have hbefore : ∀ e ∈ before, e.config.id ≤ top.config.id :=
    fun e he => htop e (List.mem_append_left _ he)
  have hmeet : supersede (before.foldl supersede stored) top =
      supersede (before.foldl supersede other) top := by
    rw [(hstored.foldl_supersede hbefore).supersede_eq,
      (hother.foldl_supersede hbefore).supersede_eq]
  rw [List.foldl_append, List.foldl_append, List.foldl_cons, List.foldl_cons, hmeet]

theorem exists_greatest {elements : List Element} (h : elements ≠ []) :
    ∃ top ∈ elements, ∀ e ∈ elements, e.config.id ≤ top.config.id := by
  cases hargmax : elements.argmax fun e => e.config.id with
  | none => exact absurd (List.argmax_eq_none.mp hargmax) h
  | some top =>
      refine ⟨top, List.argmax_mem hargmax, ?_⟩
      intro e he
      exact List.le_of_mem_argmax (f := fun e : Element => e.config.id) he hargmax

theorem foldl_supersede_again (elements : List Element) (stored : Option Element) :
    elements.foldl supersede (elements.foldl supersede stored) =
      elements.foldl supersede stored := by
  by_cases hnil : elements = []
  · rw [hnil]
    rfl
  · obtain ⟨top, hmem, htop⟩ := exists_greatest hnil
    by_cases hstored : AtMost top.config.id stored
    · exact foldl_supersede_congr hmem htop (hstored.foldl_supersede htop) hstored
    · -- what is stored is above every version, so that none is accepted in either pass
      unfold AtMost at hstored
      push Not at hstored
      obtain ⟨current, hcurrent, habove⟩ := hstored
      obtain rfl := Option.mem_def.mp hcurrent
      have holder : ∀ e ∈ elements, e.config.id < current.config.id :=
        fun e he => (htop e he).trans_lt habove
      rw [foldl_supersede_older holder, foldl_supersede_older holder]

theorem configs_load_again (delivered : Delivered) (batch : Batch) (provenance : Provenance) :
    ((delivered.load batch provenance).load batch provenance).configs =
      (delivered.load batch provenance).configs := by
  apply KeyMap.ext_get?
  intro key
  simp only [configs_load, get?_acceptAll]
  exact foldl_supersede_again _ _

theorem Marks.highwater_load_again {delivered : Delivered} {ids : Set Int}
    (h : delivered.Marks ids) (batch : Batch) (provenance : Provenance) :
    ((delivered.load batch provenance).load batch provenance).highwater =
      (delivered.load batch provenance).highwater := by
  have honce := h.load batch provenance
  have htwice := honce.load batch provenance
  rw [Set.union_assoc, Set.union_self] at htwice
  exact htwice.greatest.unique honce.greatest

theorem Marks.load_load {delivered : Delivered} {ids : Set Int} (h : delivered.Marks ids)
    (batch : Batch) (provenance : Provenance) :
    (delivered.load batch provenance).load batch provenance =
      delivered.load batch provenance := by
  apply Delivered.ext
  · exact delivered.configs_load_again batch provenance
  · exact h.highwater_load_again batch provenance
  · rw [environment_load, environment_load]
    cases batch.pointer <;> rfl
  · rw [defaultContext_load, defaultContext_load]
    cases batch.defaultContext <;> rfl

end Delivered

/-- A batch that is loaded again right away leaves the loader as it is, whatever was loaded
before and whatever the batch holds. -/
theorem Loader.redelivery_idempotent (baseline overrides : KeyMap Element) (globals : ContextSet)
    (history : History) (batch : Batch) (provenance : Provenance) :
    let loader := (start baseline overrides globals).loadAll history
    (loader.load batch provenance).load batch provenance = loader.load batch provenance := by
  intro loader
  have hmarks : loader.delivered.Marks history.ids :=
    marks_loadAll baseline overrides globals history
  have hagain := hmarks.load_load batch provenance
  exact congrArg (fun delivered => { loader with delivered }) hagain

end LiveConfig
