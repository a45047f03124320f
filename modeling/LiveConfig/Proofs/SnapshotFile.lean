import LiveConfig.Loader
import LiveConfig.Proofs.RepeatedMembers

/-!
# What a snapshot file delivers

Every configuration of a snapshot file is read from the batch as it is written.  One that
cannot be read is tried once more from the JSON it is kept as, and only where that fails
too does the file fail.  The second attempt knows no repeated members: they are resolved
to the last.  So a configuration that is malformed by repeated members alone neither fails
the load nor is delivered (`Loader.repeated_member_skipped`), and apart from such ones a
load delivers all configurations of the file or none (`Loader.loadFile_delivers`).
-/

namespace LiveConfig

/-- The configurations of a batch as they are written. -/
def Batch.itemsOf (document : Document) : List Document :=
  match document.fields? ["configServicePointer", "configs", "defaultContext"] with
  | some [_, some (.arr items), _] => items
  | _ => []

theorem Batch.mapM_itemsOf {document : Document} {batch : Batch}
    (h : ofDocument? document = some batch) :
    (itemsOf document).mapM configOfDocument? = some batch.configs := by
  simp only [ofDocument?, Option.bind_eq_bind, Option.bind_eq_some_iff] at h
  obtain ⟨fields, hfields, hread⟩ := h
  split at hread
  · rename_i pointer configs defaultContext
    simp only [Option.bind_eq_some_iff, Option.pure_def, Option.some.injEq] at hread
    obtain ⟨_, _, read, hconfigs, _, _, rfl⟩ := hread
    rw [itemsOf, hfields]
    cases configs with
    | none => exact hconfigs
    | some list =>
        cases list with
        | arr items => exact hconfigs
        | _ => simp [Document.defaulted, Document.list?] at hconfigs
  · simp at hread

section Element

variable {document : Document} {read : Except Json Config}

theorem Batch.toOption_configOfDocument? (h : configOfDocument? document = some read) :
    read.toOption = Config.ofDocument? document := by
  simp only [configOfDocument?, Option.bind_eq_bind, Option.bind_eq_some_iff] at h
  obtain ⟨json, _, h⟩ := h
  split at h
  · rename_i config hconfig
    rw [← Option.some.inj h, hconfig]
    rfl
  · rename_i hconfig
    rw [← Option.some.inj h, hconfig]
    rfl

/-- The second attempt is one at the settled form. -/
theorem Loader.isMalformed_iff (h : Batch.configOfDocument? document = some read) :
    isMalformed read = true ↔
      Config.ofDocument? document = none ∧ Config.ofDocument? document.settled = none := by
  simp only [Batch.configOfDocument?, Option.bind_eq_bind, Option.bind_eq_some_iff] at h
  obtain ⟨json, hjson, h⟩ := h
  split at h
  · rename_i config hconfig
    rw [← Option.some.inj h, hconfig]
    simp [isMalformed]
  · rename_i hconfig
    rw [← Option.some.inj h, hconfig, isMalformed, Document.toDocument_of_value? hjson]
    simp

/-- Only a repeated member makes the two attempts differ. -/
theorem Config.ofDocument?_settled (h : Batch.configOfDocument? document = some read)
    (hdistinct : document.Distinct) :
    ofDocument? document.settled = ofDocument? document := by
  simp only [Batch.configOfDocument?, Option.bind_eq_bind, Option.bind_eq_some_iff] at h
  obtain ⟨json, hjson, -⟩ := h
  obtain ⟨written, hwritten, -⟩ := Option.map_eq_some_iff.mp hjson
  exact settles_ofDocument? document ⟨hdistinct, written, hwritten⟩

end Element

namespace Loader

/-- The configurations of a snapshot file as they are written. -/
def elementsOfFile (content : List UInt8) : List Document :=
  ((Document.parse? content).map Batch.itemsOf).getD []

theorem mapM_elementsOfFile {content : List UInt8} {batch : Batch}
    (h : Batch.parse? content = some batch) :
    (elementsOfFile content).mapM Batch.configOfDocument? = some batch.configs := by
  obtain ⟨document, hdocument, hbatch⟩ := Option.bind_eq_some_iff.mp h
  rw [elementsOfFile, hdocument]
  exact Batch.mapM_itemsOf hbatch

theorem any_isMalformed_iff {content : List UInt8} {batch : Batch}
    (h : Batch.parse? content = some batch) :
    batch.configs.any isMalformed = true ↔ ∃ element ∈ elementsOfFile content,
      Config.ofDocument? element = none ∧ Config.ofDocument? element.settled = none := by
  have hconfigs := mapM_elementsOfFile h
  rw [List.any_eq_true]
  constructor
  · rintro ⟨read, hread, hmalformed⟩
    obtain ⟨element, helement, hconfig⟩ := Document.exists_of_mem_mapM hconfigs hread
    exact ⟨element, helement, (isMalformed_iff hconfig).mp hmalformed⟩
  · rintro ⟨element, helement, hnone⟩
    obtain ⟨read, hread, hconfig⟩ := Document.exists_of_mapM hconfigs helement
    exact ⟨read, hread, (isMalformed_iff hconfig).mpr hnone⟩

theorem readable_of_parse? {content : List UInt8} {batch : Batch}
    (h : Batch.parse? content = some batch) :
    batch.readable = (elementsOfFile content).filterMap Config.ofDocument? := by
  have hread : batch.configs.map Except.toOption =
      (elementsOfFile content).map Config.ofDocument? :=
    Document.map_eq_of_mapM (mapM_elementsOfFile h) fun _ _ =>
      Batch.toOption_configOfDocument?
  have hfilter := congrArg (List.filterMap id) hread
  rwa [List.filterMap_map, List.filterMap_map] at hfilter

theorem loadFile_of_parse? {content : List UInt8} {batch : Batch}
    (h : Batch.parse? content = some batch) (loader : Loader) (path : String) :
    loader.loadFile path (some content) =
      if batch.configs.any isMalformed then .error .invalidPayload
      else .ok (loader.load batch ⟨.localFile, some path⟩) := by
  rw [loadFile, batchOfFile?, h, Option.bind_eq_bind, Option.bind_some]
  by_cases hmalformed : batch.configs.any isMalformed = true
  · rw [if_pos hmalformed, if_pos hmalformed]
  · rw [if_neg hmalformed, if_neg hmalformed]

/-- A load fails exactly if the batch or a settled configuration cannot be read.  Otherwise
it hands those configurations to the acceptance rule that can be read as written, and only
one with a repeated member can be left out. -/
theorem loadFile_delivers (loader : Loader) (path : String) (content : List UInt8) :
    (loader.loadFile path (some content) = .error .invalidPayload ↔
      Batch.parse? content = none ∨ ∃ element ∈ elementsOfFile content,
        Config.ofDocument? element = none ∧ Config.ofDocument? element.settled = none) ∧
    ∀ loader', loader.loadFile path (some content) = .ok loader' →
      (∃ batch, Batch.parse? content = some batch ∧
        batch.readable = (elementsOfFile content).filterMap Config.ofDocument? ∧
        loader' = loader.load batch ⟨.localFile, some path⟩) ∧
      ∀ element ∈ elementsOfFile content, Config.ofDocument? element = none →
        (Config.ofDocument? element.settled).isSome ∧ ¬ element.Distinct := by
  cases hbatch : Batch.parse? content with
  | none => simp [loadFile, batchOfFile?, hbatch]
  | some batch =>
      have hload := loadFile_of_parse? hbatch loader path
      have hany := any_isMalformed_iff hbatch
      by_cases hmalformed : batch.configs.any isMalformed = true
      · rw [hload, if_pos hmalformed]
        exact ⟨⟨fun _ => .inr (hany.mp hmalformed), fun _ => rfl⟩, nofun⟩
      · have hsettled : ∀ element ∈ elementsOfFile content, Config.ofDocument? element = none →
            Config.ofDocument? element.settled ≠ none := by
          intro element helement hnone hnone'
          exact hmalformed (hany.mpr ⟨element, helement, hnone, hnone'⟩)
        rw [hload, if_neg hmalformed]
        constructor
        · refine ⟨nofun, ?_⟩
          rintro (hnone | ⟨element, helement, hnone, hnone'⟩)
          · cases hnone
          · exact absurd hnone' (hsettled element helement hnone)
        · intro loader' hloader'
          refine ⟨⟨batch, rfl, readable_of_parse? hbatch, (Except.ok.inj hloader').symm⟩, ?_⟩
          intro element helement hnone
          have hsome := hsettled element helement hnone
          refine ⟨Option.isSome_iff_ne_none.mpr hsome, fun hdistinct => hsome ?_⟩
          obtain ⟨_, _, hconfig⟩ := Document.exists_of_mapM (mapM_elementsOfFile hbatch) helement
          rw [Config.ofDocument?_settled hconfig hdistinct, hnone]

/-- A snapshot file whose only configuration, a flag, gives its id twice. -/
def repeatedIdFile : List UInt8 :=
  Utf8.encode
    "\x7b\"configs\":[\x7b\"id\":1,\"id\":1,\"key\":\"flag\",\"rows\":[\x7b\x7d]\x7d]\x7d"

/-- The load succeeds without the configuration of the file. -/
theorem repeated_member_skipped :
    ∃ element ∈ elementsOfFile repeatedIdFile, Config.ofDocument? element = none ∧
      ∃ loader, (⟨.empty, .empty, .empty, {}⟩ : Loader).loadFile "flags.json"
        (some repeatedIdFile) = .ok loader ∧ loader.delivered.configs = .empty := by
  have helements : elementsOfFile repeatedIdFile = [.obj [("id", .int 1), ("id", .int 1),
      ("key", .str "flag"), ("rows", .arr [.obj []])]] := rfl
  rw [helements]
  exact ⟨_, List.mem_singleton_self _, rfl, _, rfl, rfl⟩

end Loader
end LiveConfig
