import LiveConfig.Loader

/-!
# Histories of deliveries

A history is the list of the batches that were applied to the delivered layer.
What the layer holds for a key depends on the configurations of that key alone,
taken one after another (`Delivered.get?_loadAll`): other keys, the split into
batches and what could not be read leave it as it is.
-/

namespace LiveConfig

/-- The configurations of a batch that could be read, as the layer stores them. -/
def Batch.elements (batch : Batch) (provenance : Provenance) : List Element :=
  batch.readable.map fun config => ⟨config, provenance⟩

/-- The batches that were applied, in order. -/
abbrev History := List (Batch × Provenance)

def History.elements (history : History) : List Element :=
  history.flatMap fun delivery => delivery.1.elements delivery.2

/-- What was delivered for a key, in order. -/
def History.deliveries (history : History) (key : String) : List Element :=
  history.elements.filter fun element => element.config.key == key

namespace Delivered

def acceptElement (delivered : Delivered) (element : Element) : Delivered :=
  delivered.accept element.provenance element.config

def acceptAll (delivered : Delivered) (elements : List Element) : Delivered :=
  elements.foldl acceptElement delivered

/-- Applies the batches of a history. -/
def loadAll (delivered : Delivered) (history : History) : Delivered :=
  history.foldl (fun d delivery => d.load delivery.1 delivery.2) delivered

/-- What is stored for a key once a further element of the key arrives. -/
def supersede (stored : Option Element) (element : Element) : Option Element :=
  if stored.any fun s => element.config.id < s.config.id then stored
  else if element.config.isTombstone then none
  else some element

theorem eq_of_supersede_eq_some {stored : Option Element} {element found : Element}
    (h : supersede stored element = some found) :
    stored = some found ∨ found = element ∧ element.config.isTombstone = false := by
  unfold supersede at h
  split at h
  · exact .inl h
  · split at h
    · cases h
    · rename_i hrows
      exact .inr ⟨(Option.some.inj h).symm, by simpa using hrows⟩

theorem get?_acceptElement (delivered : Delivered) (element : Element) (key : String) :
    (delivered.acceptElement element).configs.get? key =
      if element.config.key = key then supersede (delivered.configs.get? key) element
      else delivered.configs.get? key := by
  by_cases hkey : element.config.key = key
  · subst hkey
    unfold acceptElement accept isStale supersede
    by_cases hstale : (delivered.configs.get? element.config.key).any fun s =>
        element.config.id < s.config.id
    · simp [hstale]
    · by_cases htomb : element.config.isTombstone
      · simp [hstale, htomb, KeyMap.get?_erase]
      · simp [hstale, htomb, KeyMap.get?_insert]
  · have hkey' : key ≠ element.config.key := fun h => hkey h.symm
    unfold acceptElement accept
    by_cases hstale : delivered.isStale element.config
    · simp [hkey, hstale]
    · by_cases htomb : element.config.isTombstone
      · simp [hkey, hkey', hstale, htomb, KeyMap.get?_erase]
      · simp [hkey, hkey', hstale, htomb, KeyMap.get?_insert]

/-- What is stored after an element was there before, or is the element itself. -/
theorem eq_of_get?_acceptElement {delivered : Delivered} {element found : Element} {key : String}
    (h : (delivered.acceptElement element).configs.get? key = some found) :
    delivered.configs.get? key = some found ∨
      found = element ∧ element.config.key = key ∧ element.config.isTombstone = false := by
  rw [get?_acceptElement] at h
  by_cases hkey : element.config.key = key
  · rw [if_pos hkey] at h
    exact (eq_of_supersede_eq_some h).imp_right fun hnew => ⟨hnew.1, hkey, hnew.2⟩
  · rw [if_neg hkey] at h
    exact .inl h

theorem get?_acceptAll (delivered : Delivered) (elements : List Element) (key : String) :
    (delivered.acceptAll elements).configs.get? key =
      (elements.filter fun element => element.config.key == key).foldl supersede
        (delivered.configs.get? key) := by
  induction elements generalizing delivered with
  | nil => rfl
  | cons element rest ih =>
      have hstep : (delivered.acceptAll (element :: rest)).configs.get? key =
          ((delivered.acceptElement element).acceptAll rest).configs.get? key := rfl
      rw [hstep, ih, get?_acceptElement]
      by_cases hkey : element.config.key = key
      · simp [hkey]
      · simp [hkey]

/-- What every single element keeps, a list of elements keeps. -/
theorem acceptAll_induction {p : Delivered → Prop} {delivered : Delivered}
    {elements : List Element}
    (hstep : ∀ reached, p reached → ∀ element ∈ elements, p (reached.acceptElement element))
    (h : p delivered) : p (delivered.acceptAll elements) :=
  List.foldlRecOn (motive := p) elements acceptElement h hstep

theorem highwater_acceptElement (delivered : Delivered) (element : Element) :
    (delivered.acceptElement element).highwater =
      if delivered.isStale element.config then delivered.highwater
      else max delivered.highwater element.config.id := by
  unfold acceptElement accept
  split <;> rfl

/-- Configurations change neither the environment nor the context of the layer. -/
theorem acceptAll_surroundings (delivered : Delivered) (elements : List Element) :
    (delivered.acceptAll elements).environment = delivered.environment ∧
      (delivered.acceptAll elements).defaultContext = delivered.defaultContext := by
  apply acceptAll_induction (p := fun reached => reached.environment = delivered.environment ∧
    reached.defaultContext = delivered.defaultContext) _ ⟨rfl, rfl⟩
  intro reached hreached element _
  unfold acceptElement accept
  split
  · exact hreached
  · exact hreached

theorem load_eq (delivered : Delivered) (batch : Batch) (provenance : Provenance) :
    delivered.load batch provenance =
      { delivered.acceptAll (batch.elements provenance) with
        environment := (batch.pointer.map (·.environmentId)).getD delivered.environment
        defaultContext := batch.defaultContext.getD delivered.defaultContext } := by
  obtain ⟨henvironment, hcontext⟩ :=
    delivered.acceptAll_surroundings (batch.elements provenance)
  rw [← henvironment, ← hcontext]
  unfold load acceptAll Batch.elements
  rw [List.foldl_map]
  rfl

theorem configs_load (delivered : Delivered) (batch : Batch) (provenance : Provenance) :
    (delivered.load batch provenance).configs =
      (delivered.acceptAll (batch.elements provenance)).configs := by
  rw [load_eq]

theorem highwater_load (delivered : Delivered) (batch : Batch) (provenance : Provenance) :
    (delivered.load batch provenance).highwater =
      (delivered.acceptAll (batch.elements provenance)).highwater := by
  rw [load_eq]

theorem environment_load (delivered : Delivered) (batch : Batch) (provenance : Provenance) :
    (delivered.load batch provenance).environment =
      (batch.pointer.map (·.environmentId)).getD delivered.environment := by
  rw [load_eq]

theorem defaultContext_load (delivered : Delivered) (batch : Batch) (provenance : Provenance) :
    (delivered.load batch provenance).defaultContext =
      batch.defaultContext.getD delivered.defaultContext := by
  rw [load_eq]

theorem get?_loadAll (delivered : Delivered) (history : History) (key : String) :
    (delivered.loadAll history).configs.get? key =
      (history.deliveries key).foldl supersede (delivered.configs.get? key) := by
  induction history generalizing delivered with
  | nil => rfl
  | cons delivery rest ih =>
      have hstep : (delivered.loadAll (delivery :: rest)).configs.get? key =
          ((delivered.load delivery.1 delivery.2).loadAll rest).configs.get? key := rfl
      have hsplit : History.deliveries (delivery :: rest) key =
          ((delivery.1.elements delivery.2).filter fun element => element.config.key == key) ++
            History.deliveries rest key := by
        simp [History.deliveries, History.elements]
      rw [hstep, ih, configs_load, get?_acceptAll, hsplit, List.foldl_append]

/-- The layer after a history from the start. -/
def ofHistory (history : History) : Delivered := loadAll {} history

theorem get?_ofHistory (history : History) (key : String) :
    (ofHistory history).configs.get? key = (history.deliveries key).foldl supersede none :=
  get?_loadAll {} history key

theorem loadAll_append (delivered : Delivered) (first second : History) :
    delivered.loadAll (first ++ second) = (delivered.loadAll first).loadAll second :=
  List.foldl_append

end Delivered

namespace Loader

def loadAll (loader : Loader) (history : History) : Loader :=
  { loader with delivered := loader.delivered.loadAll history }

theorem loadAll_append (loader : Loader) (first second : History) :
    loader.loadAll (first ++ second) = (loader.loadAll first).loadAll second := by
  simp only [loadAll, Delivered.loadAll_append]

theorem loadAll_concat (loader : Loader) (history : History) (delivery : Batch × Provenance) :
    loader.loadAll (history ++ [delivery]) =
      (loader.loadAll history).load delivery.1 delivery.2 :=
  loader.loadAll_append history [delivery]

end Loader
end LiveConfig
