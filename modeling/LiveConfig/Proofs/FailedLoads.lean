import LiveConfig.Proofs.SnapshotFile

/-!
# Loads of snapshot files that fail

A load goes through four stages: it opens the file, reads the batch, tries what could not be
read of it once more, and hands the configurations to the delivered layer one by one.  A
`Task` tells of each stage what it does to the loader, whether it succeeds or fails, and
`Loader.loadInPlace` is the load in these stages.  The first three change nothing and the
last one cannot fail (`recheck_eq`, `acceptEach_eq`), so that a load that fails leaves the
loader as it was, wherever in the batch it came to grief
(`Loader.failed_load_changes_nothing`).
-/

namespace LiveConfig
namespace Loader

/-- A computation on a loader.  It leaves a loader behind also where it fails. -/
abbrev Task := EStateM Error Loader

/-- The content of a file, if there is one. -/
def openFile (content : Option (List UInt8)) : Task (List UInt8) :=
  match content with
  | none => throw (.io .notFound "No such file or directory (os error 2)")
  | some bytes => pure bytes

def readBatch (bytes : List UInt8) : Task Batch :=
  match Batch.parse? bytes with
  | none => throw .invalidPayload
  | some batch => pure batch

/-- Tries each configuration that could not be read once more. -/
def recheck : List (Except Json Config) → Task Unit
  | [] => pure ()
  | read :: rest => if isMalformed read then throw .invalidPayload else recheck rest

/-- Hands the configurations that could be read to the delivered layer. -/
def acceptEach (provenance : Provenance) : List (Except Json Config) → Task Unit
  | [] => pure ()
  | .error _ :: rest => acceptEach provenance rest
  | .ok config :: rest => do
    modify fun loader =>
      { loader with delivered := loader.delivered.accept provenance config }
    acceptEach provenance rest

/-- Takes over where the batch belongs and the context that came with it. -/
def adoptSurroundings (batch : Batch) : Task Unit :=
  modify fun loader =>
    { loader with delivered :=
      { loader.delivered with
        environment := (batch.pointer.map (·.environmentId)).getD loader.delivered.environment
        defaultContext := batch.defaultContext.getD loader.delivered.defaultContext } }

/-- The load of a snapshot file in its stages; it answers the highest id. -/
def loadInPlace (path : String) (content : Option (List UInt8)) : Task Int := do
  let bytes ← openFile content
  let batch ← readBatch bytes
  recheck batch.configs
  acceptEach ⟨.localFile, some path⟩ batch.configs
  adoptSurroundings batch
  return (← get).highwater

section Stages

variable {α β : Type} {task : Task α} {next : α → Task β} {loader after : Loader}

theorem Task.bind_of_ok {a : α} (h : task loader = .ok a after) :
    (task >>= next) loader = next a after := by
  simp only [bind, EStateM.bind, h]

theorem Task.bind_of_error {e : Error} (h : task loader = .error e after) :
    (task >>= next) loader = .error e after := by
  simp only [bind, EStateM.bind, h]

end Stages

/-- The second attempt fails at a malformed configuration, and changes nothing. -/
theorem recheck_eq (reads : List (Except Json Config)) (loader : Loader) :
    recheck reads loader =
      if reads.any isMalformed then .error .invalidPayload loader else .ok () loader := by
  induction reads with
  | nil => rfl
  | cons read rest ih =>
      cases hread : isMalformed read with
      | true =>
          rw [recheck, if_pos hread, List.any_cons, hread, Bool.true_or]
          rfl
      | false => rw [recheck, if_neg (by simp [hread]), ih, List.any_cons, hread, Bool.false_or]

theorem acceptEach_eq (provenance : Provenance) (reads : List (Except Json Config))
    (loader : Loader) :
    acceptEach provenance reads loader = .ok ()
      { loader with
        delivered := (reads.filterMap Except.toOption).foldl
          (fun d config => d.accept provenance config) loader.delivered } := by
  induction reads generalizing loader with
  | nil => rfl
  | cons read rest ih =>
      cases read with
      | error json => exact ih loader
      | ok config =>
          exact ih { loader with delivered := loader.delivered.accept provenance config }

/-- The stages come to what `loadFile` answers, and where that is an error the loader is
still the same. -/
theorem loadInPlace_eq (loader : Loader) (path : String) (content : Option (List UInt8)) :
    loadInPlace path content loader =
      match loader.loadFile path content with
      | .ok loaded => .ok loaded.highwater loaded
      | .error e => .error e loader := by
  cases content with
  | none => rfl
  | some bytes =>
      have hopen : openFile (some bytes) loader = .ok bytes loader := rfl
      rw [loadInPlace, Task.bind_of_ok hopen]
      cases hbatch : Batch.parse? bytes with
      | none =>
          have hread : readBatch bytes loader = .error .invalidPayload loader := by
            rw [readBatch, hbatch]
            rfl
          rw [Task.bind_of_error hread, loadFile, batchOfFile?, hbatch]
          rfl
      | some batch =>
          have hread : readBatch bytes loader = .ok batch loader := by
            rw [readBatch, hbatch]
            rfl
          rw [Task.bind_of_ok hread, loadFile_of_parse? hbatch]
          have hcheck := recheck_eq batch.configs loader
          by_cases hmalformed : batch.configs.any isMalformed = true
          · rw [if_pos hmalformed] at hcheck
            rw [Task.bind_of_error hcheck, if_pos hmalformed]
          · rw [if_neg hmalformed] at hcheck
            rw [Task.bind_of_ok hcheck, if_neg hmalformed,
              Task.bind_of_ok (acceptEach_eq ⟨.localFile, some path⟩ batch.configs loader)]
            rfl

theorem loadFile_fails_iff (loader : Loader) (path : String) (bytes : List UInt8) :
    (∃ e, loader.loadFile path (some bytes) = .error e) ↔
      Batch.parse? bytes = none ∨ ∃ before malformed rest,
        elementsOfFile bytes = before ++ malformed :: rest ∧
          Config.ofDocument? malformed = none ∧ Config.ofDocument? malformed.settled = none := by
  cases hbatch : Batch.parse? bytes with
  | none => simp [loadFile, batchOfFile?, hbatch]
  | some batch =>
      have hany := any_isMalformed_iff hbatch
      rw [loadFile_of_parse? hbatch]
      by_cases hmalformed : batch.configs.any isMalformed = true
      · obtain ⟨element, helement, hunread⟩ := hany.mp hmalformed
        obtain ⟨before, rest, hsplit⟩ := List.append_of_mem helement
        rw [if_pos hmalformed]
        exact iff_of_true ⟨_, rfl⟩ (.inr ⟨before, element, rest, hsplit, hunread⟩)
      · rw [if_neg hmalformed]
        constructor
        · rintro ⟨e, he⟩
          cases he
        · rintro (hnone | ⟨before, element, rest, hsplit, hunread⟩)
          · cases hnone
          · have helement : element ∈ elementsOfFile bytes := by simp [hsplit]
            exact absurd (hany.mpr ⟨element, helement, hunread⟩) hmalformed

/-- A load of a snapshot file that fails, at whichever stage and at whichever configuration
of the batch, leaves every part of the loader as it was.  It fails exactly if there is no
file, if its content is no batch, or if some configuration of it is malformed, whatever
stands before that one and after it. -/
theorem failed_load_changes_nothing (loader : Loader) (path : String)
    (content : Option (List UInt8)) :
    (∀ e after, loadInPlace path content loader = .error e after →
      after = loader ∧ loader.loadFile path content = .error e) ∧
    (∀ highest after, loadInPlace path content loader = .ok highest after →
      highest = after.highwater ∧ loader.loadFile path content = .ok after) ∧
    ((∃ e after, loadInPlace path content loader = .error e after) ↔
      content = none ∨ ∃ bytes, content = some bytes ∧
        (Batch.parse? bytes = none ∨ ∃ before malformed rest,
          elementsOfFile bytes = before ++ malformed :: rest ∧
            Config.ofDocument? malformed = none ∧
            Config.ofDocument? malformed.settled = none)) := by
  have hstages := loadInPlace_eq loader path content
  refine ⟨?_, ?_, ?_⟩
  · intro e after hfailed
    rw [hstages] at hfailed
    cases hload : loader.loadFile path content with
    | ok loaded => simp [hload] at hfailed
    | error e' =>
        simp only [hload, EStateM.Result.error.injEq] at hfailed
        exact ⟨hfailed.2.symm, congrArg Except.error hfailed.1⟩
  · intro highest after hdone
    rw [hstages] at hdone
    cases hload : loader.loadFile path content with
    | ok loaded =>
        simp only [hload, EStateM.Result.ok.injEq] at hdone
        obtain ⟨hhighest, rfl⟩ := hdone
        exact ⟨hhighest.symm, rfl⟩
    | error e => simp [hload] at hdone
  · have hfails : (∃ e after, loadInPlace path content loader = .error e after) ↔
        ∃ e, loader.loadFile path content = .error e := by
      rw [hstages]
      cases loader.loadFile path content <;> simp
    rw [hfails]
    cases content with
    | none => exact iff_of_true ⟨_, rfl⟩ (.inl rfl)
    | some bytes => simpa using loader.loadFile_fails_iff path bytes

/-- A snapshot file with a configuration, and then one that has no key. -/
def keylessFile : List UInt8 :=
  Utf8.encode "\x7b\"configs\":[\x7b\"key\":\"flag\",\"rows\":[\x7b\x7d]\x7d,\x7b\"id\":2\x7d]\x7d"

example (loader : Loader) :
    loadInPlace "flags.json" (some keylessFile) loader = .error .invalidPayload loader := rfl

end Loader
end LiveConfig
