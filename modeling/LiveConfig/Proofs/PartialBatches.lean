import LiveConfig.Proofs.SnapshotFile

/-!
# Batches that can be read in part

A configuration that cannot be read does no harm to the others of its batch: the batch is
read all the same, and each of its configurations comes out as it would on its own
(`Batch.read_enclosed`).  What could not be read is kept in its place and is passed over
when the batch is loaded, which therefore comes to the same as loading a batch without it
(`Batch.bad_config_contained`).
-/

namespace LiveConfig
namespace Document

theorem mapM_eq_some_iff {read : α → Option β} {xs : List α} {ys : List β} :
    xs.mapM read = some ys ↔ xs.map read = ys.map some := by
  constructor
  · intro h
    exact (map_eq_of_mapM h fun _ _ _ hread => hread.symm).symm
  · intro h
    induction xs generalizing ys with
    | nil =>
        rw [List.map_nil, eq_comm, List.map_eq_nil_iff] at h
        rw [h]
        rfl
    | cons x xs ih =>
        cases ys with
        | nil => cases h
        | cons y ys =>
            simp only [List.map_cons, List.cons.injEq] at h
            rw [List.mapM_cons, h.1, ih h.2]
            rfl

theorem exists_map_eq_map_some {read : α → Option β} {xs : List α}
    (h : ∀ x ∈ xs, ∃ y, read x = some y) : ∃ ys : List β, xs.map read = ys.map some := by
  induction xs with
  | nil => exact ⟨[], rfl⟩
  | cons x xs ih =>
      rw [List.forall_mem_cons] at h
      obtain ⟨⟨y, hy⟩, hrest⟩ := h
      obtain ⟨ys, hys⟩ := ih hrest
      exact ⟨y :: ys, by rw [List.map_cons, hy, hys, List.map_cons]⟩

theorem getElem?_of_map_eq_map_some {read : α → Option β} {xs : List α} {ys : List β}
    (h : xs.map read = ys.map some) (i : Nat) (y : β) :
    ys[i]? = some y ↔ ∃ x, xs[i]? = some x ∧ read x = some y := by
  have hi := congrArg (fun list => list[i]?) h
  simp only [List.getElem?_map] at hi
  cases hx : xs[i]? with
  | none =>
      rw [hx, Option.map_none, eq_comm, Option.map_eq_none_iff] at hi
      simp [hi]
  | some x =>
      rw [hx, Option.map_some, eq_comm, Option.map_eq_some_iff] at hi
      obtain ⟨found, hfound, hread⟩ := hi
      simp [hfound, ← hread]

end Document

namespace Batch

/-- Whether the document is a batch of the items, with a pointer and a context that can be
read. -/
structure Encloses (document : Document) (pointer : Option ServicePointer)
    (defaultContext : Option ContextSet) (items : List Document) : Prop where
  fields : ∃ pointerField configsField contextField,
    document.fields? ["configServicePointer", "configs", "defaultContext"] =
        some [pointerField, configsField, contextField] ∧
      Document.optional ServicePointer.ofDocument? pointerField = some pointer ∧
      (configsField = some (.arr items) ∨ configsField = none ∧ items = []) ∧
      Document.optional ContextSet.ofDocument? contextField = some defaultContext

section Enclosed

variable {document : Document} {pointer : Option ServicePointer}
  {defaultContext : Option ContextSet} {items : List Document}

/-- Whether every item is the text of some JSON value. -/
def Readable (items : List Document) : Prop := ∀ item ∈ items, ∃ json, item.value? = some json

theorem configOfDocument?_of_value? {item : Document} {json : Json}
    (h : item.value? = some json) : configOfDocument? item =
      match Config.ofDocument? item with
      | some config => some (.ok config)
      | none => some (.error json) := by
  rw [configOfDocument?, h]
  rfl

/-- A batch of items that are JSON is read, each of its configurations by itself. -/
theorem read_enclosed (h : Encloses document pointer defaultContext items)
    (hitems : Readable items) :
    ∃ configs, ofDocument? document = some ⟨pointer, configs, defaultContext⟩ ∧
      items.map configOfDocument? = configs.map some := by
  have hsome : ∀ item ∈ items, ∃ read, configOfDocument? item = some read := by
    intro item hitem
    obtain ⟨json, hjson⟩ := hitems item hitem
    rw [configOfDocument?_of_value? hjson]
    cases Config.ofDocument? item with
    | some config => exact ⟨.ok config, rfl⟩
    | none => exact ⟨.error json, rfl⟩
  obtain ⟨configs, hconfigs⟩ := Document.exists_map_eq_map_some hsome
  obtain ⟨pointerField, configsField, contextField, hfields, hpointer, hlist, hcontext⟩ := h.fields
  refine ⟨configs, ?_, hconfigs⟩
  have hread : Document.defaulted [] (Document.list? configOfDocument?) configsField =
      some configs := by
    rcases hlist with rfl | ⟨rfl, rfl⟩
    · exact Document.mapM_eq_some_iff.mpr hconfigs
    · rw [List.map_nil, eq_comm, List.map_eq_nil_iff] at hconfigs
      rw [hconfigs]
      rfl
  simp only [ofDocument?, hfields, hpointer, hread, hcontext, Option.bind_eq_bind,
    Option.bind_some, Option.pure_def]

section Position

variable {configs : List (Except Json Config)}

theorem getElem?_configs_ok_iff (hconfigs : items.map configOfDocument? = configs.map some)
    (hitems : Readable items) (i : Nat) (config : Config) :
    configs[i]? = some (.ok config) ↔
      ∃ item, items[i]? = some item ∧ Config.ofDocument? item = some config := by
  rw [Document.getElem?_of_map_eq_map_some hconfigs]
  apply exists_congr
  intro item
  apply and_congr_right
  intro hitem
  obtain ⟨json, hjson⟩ := hitems item (List.mem_of_getElem? hitem)
  rw [configOfDocument?_of_value? hjson]
  cases Config.ofDocument? item <;> simp

theorem getElem?_configs_error_iff (hconfigs : items.map configOfDocument? = configs.map some)
    (hitems : Readable items) (i : Nat) (json : Json) :
    configs[i]? = some (.error json) ↔
      ∃ item, items[i]? = some item ∧
        Config.ofDocument? item = none ∧ item.value? = some json := by
  rw [Document.getElem?_of_map_eq_map_some hconfigs]
  apply exists_congr
  intro item
  apply and_congr_right
  intro hitem
  obtain ⟨value, hvalue⟩ := hitems item (List.mem_of_getElem? hitem)
  rw [configOfDocument?_of_value? hvalue, hvalue]
  cases Config.ofDocument? item <;> simp

end Position

/-! ## Loading -/

/-- The items that are configurations. -/
def valid (items : List Document) : List Document :=
  items.filter fun item => (Config.ofDocument? item).isSome

theorem Readable.valid (h : Readable items) : Readable (valid items) :=
  fun item hitem => h item (List.mem_filter.mp hitem).1

theorem readable_enclosed {configs : List (Except Json Config)}
    (hconfigs : items.map configOfDocument? = configs.map some) :
    configs.filterMap Except.toOption = items.filterMap Config.ofDocument? := by
  have hread : configs.map Except.toOption = items.map Config.ofDocument? :=
    Document.map_eq_of_mapM (Document.mapM_eq_some_iff.mpr hconfigs) fun _ _ =>
      toOption_configOfDocument?
  have hfilter := congrArg (List.filterMap id) hread
  rwa [List.filterMap_map, List.filterMap_map] at hfilter

theorem filterMap_valid (items : List Document) :
    (valid items).filterMap Config.ofDocument? = items.filterMap Config.ofDocument? := by
  rw [valid, List.filterMap_filter]
  congr 1
  funext item
  cases Config.ofDocument? item <;> rfl

/-- Without the items that are no configurations the others are read as before. -/
theorem configs_valid (hitems : Readable items) {configs remaining : List (Except Json Config)}
    (hconfigs : items.map configOfDocument? = configs.map some)
    (hremaining : (valid items).map configOfDocument? = remaining.map some) :
    remaining = configs.filter Except.isOk := by
  have hok : ∀ item ∈ items, (configOfDocument? item).any Except.isOk =
      (Config.ofDocument? item).isSome := by
    intro item hitem
    obtain ⟨json, hjson⟩ := hitems item hitem
    rw [configOfDocument?_of_value? hjson]
    cases Config.ofDocument? item <;> rfl
  apply (List.map_inj_right fun _ _ => Option.some.inj).mp
  calc
    remaining.map some = (valid items).map configOfDocument? := hremaining.symm
    _ = (items.map configOfDocument?).filter fun read => read.any Except.isOk := by
        rw [valid, List.filter_map, ← List.filter_congr hok]
        rfl
    _ = (configs.filter Except.isOk).map some := by
        rw [hconfigs, List.filter_map]
        rfl

/-- There is a batch of any items with the same pointer and context. -/
theorem exists_enclosing (h : Encloses document pointer defaultContext items)
    (others : List Document) :
    ∃ document', Encloses document' pointer defaultContext others := by
  obtain ⟨pointerField, _, contextField, _, hpointer, _, hcontext⟩ := h.fields
  let member (name : String) (field : Option Document) : List (String × Document) :=
    field.toList.map fun value => (name, value)
  refine ⟨.obj (("configs", .arr others) :: member "configServicePointer" pointerField ++
    member "defaultContext" contextField), pointerField, some (.arr others), contextField, ?_,
    hpointer, .inl rfl, hcontext⟩
  cases pointerField <;> cases contextField <;> rfl

theorem load_congr {batch other : Batch} (hreadable : batch.readable = other.readable)
    (hpointer : batch.pointer = other.pointer)
    (hcontext : batch.defaultContext = other.defaultContext) (loader : Loader)
    (provenance : Provenance) : loader.load batch provenance = loader.load other provenance := by
  simp only [Loader.load, Delivered.load, hreadable, hpointer, hcontext]

/-- A batch whose pointer and context can be read is read, whatever JSON its configurations
are: all of them in their places, each as the configuration that it is on its own, or else
as the JSON that it is.  Loading it leaves every loader as loading the batch of the others
does. -/
theorem bad_config_contained (h : Encloses document pointer defaultContext items)
    (hitems : Readable items) :
    ∃ batch : Batch, ofDocument? document = some batch ∧
      batch.pointer = pointer ∧ batch.defaultContext = defaultContext ∧
      batch.configs.length = items.length ∧
      (∀ (i : Nat) config, batch.configs[i]? = some (.ok config) ↔
        ∃ item, items[i]? = some item ∧ Config.ofDocument? item = some config) ∧
      (∀ (i : Nat) json, batch.configs[i]? = some (.error json) ↔
        ∃ item, items[i]? = some item ∧
          Config.ofDocument? item = none ∧ item.value? = some json) ∧
      (∃ document', Encloses document' pointer defaultContext (valid items)) ∧
      ∀ document', Encloses document' pointer defaultContext (valid items) →
        ∃ batch' : Batch, ofDocument? document' = some batch' ∧
          batch'.configs = batch.configs.filter Except.isOk ∧
          ∀ (loader : Loader) (provenance : Provenance),
            loader.load batch provenance = loader.load batch' provenance := by
  obtain ⟨configs, hbatch, hconfigs⟩ := read_enclosed h hitems
  refine ⟨_, hbatch, rfl, rfl, ?_, getElem?_configs_ok_iff hconfigs hitems,
    getElem?_configs_error_iff hconfigs hitems, exists_enclosing h (valid items), ?_⟩
  · simpa using (congrArg List.length hconfigs).symm
  · intro document' h'
    obtain ⟨remaining, hbatch', hremaining⟩ := read_enclosed h' hitems.valid
    refine ⟨_, hbatch', configs_valid hitems hconfigs hremaining, fun loader provenance => ?_⟩
    have hreadable : (⟨pointer, configs, defaultContext⟩ : Batch).readable =
        (⟨pointer, remaining, defaultContext⟩ : Batch).readable := by
      rw [readable, readable, readable_enclosed hconfigs, readable_enclosed hremaining,
        filterMap_valid]
    exact load_congr hreadable rfl rfl loader provenance

end Enclosed

/-- A batch of one environment with the items. -/
def documentOf (items : List Document) : Document :=
  .obj [("configServicePointer", .obj [("projectEnvId", .int 2)]), ("configs", .arr items)]

theorem encloses_documentOf (items : List Document) :
    Encloses (documentOf items) (some ⟨0, 2, 0⟩) none items :=
  ⟨_, _, _, rfl, rfl, .inl rfl, rfl⟩

/-- A criterion with an operator that is not known stands between two tombstones. -/
def withNewOperator : List Document :=
  let criterion : Document := .obj [("operator", .str "NEW_OPERATOR")]
  let value : Document :=
    .obj [("criteria", .arr [criterion]), ("value", .obj [("bool", .bool true)])]
  [.obj [("id", .int 4), ("key", .str "limit")],
    .obj [("id", .int 5), ("key", .str "flag"), ("rows", .arr [.obj [("values", .arr [value])]])],
    .obj [("id", .int 6), ("key", .str "color")]]

theorem bad_config_contained_new_operator :
    Encloses (documentOf withNewOperator) (some ⟨0, 2, 0⟩) none withNewOperator ∧
    Readable withNewOperator ∧
    ∃ batch batch' : Batch, ofDocument? (documentOf withNewOperator) = some batch ∧
      batch.configs.length = 3 ∧ batch.configs[0]? = some (.ok (.tombstone "limit" 4)) ∧
      (∃ json, batch.configs[1]? = some (.error json)) ∧
      batch.configs[2]? = some (.ok (.tombstone "color" 6)) ∧
      ofDocument? (documentOf (valid withNewOperator)) = some batch' ∧
      ∀ (loader : Loader) (provenance : Provenance),
        loader.load batch provenance = loader.load batch' provenance := by
  have hitems : Readable withNewOperator := by
    intro item hitem
    simp only [withNewOperator, List.mem_cons, List.not_mem_nil, or_false] at hitem
    rcases hitem with rfl | rfl | rfl <;> exact ⟨_, rfl⟩
  have henclosed := encloses_documentOf withNewOperator
  obtain ⟨batch, hbatch, -, -, hlength, hok, herror, -, hloads⟩ :=
    bad_config_contained henclosed hitems
  obtain ⟨batch', hbatch', -, hload⟩ := hloads _ (encloses_documentOf (valid withNewOperator))
  exact ⟨henclosed, hitems, batch, batch', hbatch, hlength, (hok 0 _).mpr ⟨_, rfl, rfl⟩,
    ⟨_, (herror 1 _).mpr ⟨_, rfl, by decide +kernel, rfl⟩⟩, (hok 2 _).mpr ⟨_, rfl, rfl⟩,
    hbatch', hload⟩

end Batch
end LiveConfig
