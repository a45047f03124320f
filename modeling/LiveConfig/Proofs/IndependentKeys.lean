import LiveConfig.Proofs.Highwater

/-!
# Keys are loaded independently of each other

Of all the batches only the versions of a key, in their order, decide what is stored for
it (`Delivered.get?_loadAll`).  So batches that bring the same versions of every key leave
the same layer and the same highest id: it does not matter how the versions of different
keys alternate, where one batch ends and the next begins, and what could not be read
(`Loader.keys_load_independently`).  In particular a stream of small batches comes to what
one large batch would.
-/

namespace LiveConfig

/-- The versions of a key that can be read in batches, in order. -/
def Batch.versions (batches : List Batch) (key : String) : List Config :=
  (batches.flatMap Batch.readable).filter fun config => config.key == key

namespace History

/-- Batches that all came the same way. -/
def ofBatches (provenance : Provenance) (batches : List Batch) : History :=
  batches.map fun batch => (batch, provenance)

theorem elements_ofBatches (provenance : Provenance) (batches : List Batch) :
    (ofBatches provenance batches).elements =
      (batches.flatMap Batch.readable).map fun config => ⟨config, provenance⟩ := by
  rw [elements, ofBatches, List.flatMap_map, List.map_flatMap]
  rfl

theorem deliveries_ofBatches (provenance : Provenance) (batches : List Batch) (key : String) :
    (ofBatches provenance batches).deliveries key =
      (Batch.versions batches key).map fun config => ⟨config, provenance⟩ := by
  rw [deliveries, elements_ofBatches, List.filter_map]
  rfl

theorem mem_elements_iff (history : History) (element : Element) :
    element ∈ history.elements ↔ element ∈ history.deliveries element.config.key := by
  simp [deliveries]

theorem ids_append_congr (earlier : History) {history other : History}
    (h : ∀ key, history.deliveries key = other.deliveries key) :
    History.ids (earlier ++ history) = History.ids (earlier ++ other) := by
  have hmem : ∀ element, element ∈ history.elements ↔ element ∈ other.elements := by
    intro element
    rw [mem_elements_iff, mem_elements_iff, h]
  have hall : ∀ element, element ∈ elements (earlier ++ history) ↔
      element ∈ elements (earlier ++ other) := by
    intro element
    simp only [elements, List.flatMap_append, List.mem_append] at hmem ⊢
    rw [hmem]
  ext id
  simp only [ids, Set.mem_ofPred_eq, hall]

end History

namespace Loader

variable (baseline overrides : KeyMap Element) (globals : ContextSet) (earlier : History)

theorem get?_loadAll_congr (loader : Loader) {history other : History} {key : String}
    (h : history.deliveries key = other.deliveries key) :
    (loader.loadAll history).delivered.configs.get? key =
      (loader.loadAll other).delivered.configs.get? key := by
  rw [loadAll, loadAll, Delivered.get?_loadAll, Delivered.get?_loadAll, h]

theorem highwater_loadAll_congr {history other : History}
    (h : ∀ key, history.deliveries key = other.deliveries key) :
    (((start baseline overrides globals).loadAll earlier).loadAll history).highwater =
      (((start baseline overrides globals).loadAll earlier).loadAll other).highwater := by
  rw [← loadAll_append, ← loadAll_append]
  exact highwater_eq_of_ids baseline overrides globals (History.ids_append_congr earlier h)

/-- From any state that loading can reach, batches that bring the same versions of a key
leave the same element for that key.  If they do so for every key, they leave the same
configurations and the same highest id. -/
theorem keys_load_independently (provenance : Provenance) (batches others : List Batch) :
    let loader := (start baseline overrides globals).loadAll earlier
    let loaded := loader.loadAll (.ofBatches provenance batches)
    let loaded' := loader.loadAll (.ofBatches provenance others)
    (∀ key, Batch.versions batches key = Batch.versions others key →
      loaded.delivered.configs.get? key = loaded'.delivered.configs.get? key) ∧
    ((∀ key, Batch.versions batches key = Batch.versions others key) →
      loaded.delivered.configs = loaded'.delivered.configs ∧
        loaded.highwater = loaded'.highwater) := by
  intro loader loaded loaded'
  have hdeliveries : ∀ key, Batch.versions batches key = Batch.versions others key →
      (History.ofBatches provenance batches).deliveries key =
        (History.ofBatches provenance others).deliveries key := by
    intro key hkey
    rw [History.deliveries_ofBatches, History.deliveries_ofBatches, hkey]
  constructor
  · intro key hkey
    exact loader.get?_loadAll_congr (hdeliveries key hkey)
  · intro hkeys
    have hall := fun key => hdeliveries key (hkeys key)
    constructor
    · apply KeyMap.ext_get?
      intro key
      exact loader.get?_loadAll_congr (hall key)
    · exact highwater_loadAll_congr baseline overrides globals earlier hall

/-- The versions of two keys in turn, one of them a removal, with something that could not
be read between them. -/
def increments : List Batch :=
  [⟨none, [.ok (.constant "a" 1 (.bool true)), .ok (.constant "b" 5 (.bool true))], none⟩,
    ⟨none, [.error .null, .ok (.tombstone "a" 2)], none⟩,
    ⟨none, [.ok (.constant "b" 4 (.bool false)), .ok (.constant "a" 1 (.bool false))], none⟩]

/-- The same versions at once, one key after the other. -/
def bulk : List Batch :=
  [⟨none, [.ok (.constant "b" 5 (.bool true)), .ok (.constant "b" 4 (.bool false)),
    .ok (.constant "a" 1 (.bool true)), .ok (.tombstone "a" 2),
    .ok (.constant "a" 1 (.bool false))], none⟩]

theorem keys_load_independently_bulk :
    (∀ key, Batch.versions increments key = Batch.versions bulk key) ∧
    ((start .empty .empty .empty).loadAll
      (.ofBatches ⟨.streaming, none⟩ increments)).delivered.configs =
        ((start .empty .empty .empty).loadAll
          (.ofBatches ⟨.streaming, none⟩ bulk)).delivered.configs ∧
    ((start .empty .empty .empty).loadAll
      (.ofBatches ⟨.streaming, none⟩ increments)).highwater =
        ((start .empty .empty .empty).loadAll (.ofBatches ⟨.streaming, none⟩ bulk)).highwater := by
  have hversions : ∀ key, Batch.versions increments key = Batch.versions bulk key := by
    intro key
    by_cases ha : key = "a"
    · subst ha
      rfl
    · by_cases hb : key = "b"
      · subst hb
        rfl
      · have hnone : ∀ batches : List Batch,
            (∀ config ∈ batches.flatMap Batch.readable, config.key = "a" ∨ config.key = "b") →
              Batch.versions batches key = [] := by
          intro batches h
          rw [Batch.versions, List.filter_eq_nil_iff]
          intro config hconfig
          rcases h config hconfig with hkey | hkey
          · simp [hkey, Ne.symm ha]
          · simp [hkey, Ne.symm hb]
        rw [hnone increments (by decide), hnone bulk (by decide)]
  obtain ⟨-, hsame⟩ := keys_load_independently .empty .empty .empty [] ⟨.streaming, none⟩
    increments bulk
  exact ⟨hversions, hsame hversions⟩

end Loader
end LiveConfig
