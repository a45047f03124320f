import LiveConfig.Proofs.PublishedChanges

/-!
# What is published

In every session over two layers of local values the published snapshot holds, for each
key, the override, else what the server had delivered when the last update ran, else the
baseline (`Resolver.Layered`).  An override is thus there from the first update on, and no
later update tells of its key (`Resolver.session_layered`).

Elements stand under the keys of their configurations in every layer
(`StoredUnderKey`), and the highest id of the snapshot never gets ahead of the one that
the server's layer has reached (`Resolver.Trails`).
-/

namespace LiveConfig

/-! ## Keys of a layer -/

/-- Whether every element of a layer stands under the key of its configuration. -/
def StoredUnderKey (layer : KeyMap Element) : Prop :=
  ∀ key element, layer.get? key = some element → element.config.key = key

namespace StoredUnderKey

theorem empty : StoredUnderKey .empty := by
  intro key element h
  cases h

theorem overlay {lower upper : KeyMap Element} (hlower : StoredUnderKey lower)
    (hupper : StoredUnderKey upper) : StoredUnderKey (lower.overlay upper) := by
  intro key element h
  rw [KeyMap.get?_overlay, Option.or_eq_some_iff] at h
  rcases h with h | ⟨-, h⟩
  · exact hupper key element h
  · exact hlower key element h

theorem acceptElement {delivered : Delivered} (h : StoredUnderKey delivered.configs)
    (element : Element) : StoredUnderKey (delivered.acceptElement element).configs := by
  intro key stored hstored
  rcases Delivered.eq_of_get?_acceptElement hstored with hbefore | ⟨rfl, hkey, -⟩
  · exact h key stored hbefore
  · exact hkey

theorem load {delivered : Delivered} (h : StoredUnderKey delivered.configs) (batch : Batch)
    (provenance : Provenance) : StoredUnderKey (delivered.load batch provenance).configs := by
  rw [Delivered.configs_load]
  apply Delivered.acceptAll_induction (p := fun reached => StoredUnderKey reached.configs) _ h
  intro reached hreached element _
  exact hreached.acceptElement element

end StoredUnderKey

namespace LocalValues

theorem key_of_config {key : String} {leaf : Leaf} {config : Config}
    (h : leaf.config key = .ok config) : config.key = key := by
  cases leaf with
  | flag members =>
      simp only [Leaf.config, flag] at h
      split at h
      · obtain ⟨v, -, h⟩ := exists_of_bind_eq_ok h
        obtain ⟨cs, -, h⟩ := exists_of_bind_eq_ok h
        simp only [pure, Except.pure, Except.ok.injEq] at h
        rw [← h]
      · simp [throw, throwThe, MonadExceptOf.throw] at h
  | plain json =>
      obtain ⟨v, -, rfl⟩ := exists_of_map_eq_ok h
      rfl

theorem storedUnderKey_of_load {members : List (String × Json)} {location : String}
    {layer : KeyMap Element} (h : load members location = .ok layer) : StoredUnderKey layer := by
  intro key element helement
  obtain ⟨leaf, -, hconfig⟩ := exists_leaf_of_load h helement
  exact key_of_config hconfig

end LocalValues

theorem Delivered.highwater_le_load (delivered : Delivered) (batch : Batch)
    (provenance : Provenance) : delivered.highwater ≤ (delivered.load batch provenance).highwater := by
  rw [highwater_load]
  apply acceptAll_induction (p := fun reached => delivered.highwater ≤ reached.highwater) _
    (Int.le_refl _)
  intro reached hreached element _
  apply Int.le_trans hreached
  rw [highwater_acceptElement]
  split
  · exact Int.le_refl _
  · exact Int.le_max_left _ _

namespace Resolver

/-! ## Invariants of a session -/

theorem run_append (resolver : Resolver) (first second : List Action) :
    resolver.run (first ++ second) = (resolver.run first).run second :=
  List.foldl_append

theorem isLoaded_act (resolver : Resolver) (action : Action) :
    (resolver.act action).isLoaded = true ↔ resolver.isLoaded = true ∨ action = .update := by
  rcases resolver.act_cases action with rfl | ⟨hne, hnothing | ⟨batch, provenance, hload, -⟩⟩
  · simp [act, update, isLoaded]
  · simp [hnothing, hne]
  · rw [hload]
    simp [load, isLoaded, hne]

theorem isLoaded_run_iff (resolver : Resolver) (actions : List Action) :
    (resolver.run actions).isLoaded = true ↔ resolver.isLoaded = true ∨ .update ∈ actions := by
  induction actions generalizing resolver with
  | nil => simp [run]
  | cons action rest ih =>
      have hrun : resolver.run (action :: rest) = (resolver.act action).run rest := rfl
      rw [hrun, ih, isLoaded_act, List.mem_cons, or_assoc, eq_comm (a := action)]

theorem published_run_of_not_mem {actions : List Action} (h : .update ∉ actions)
    (resolver : Resolver) : (resolver.run actions).published = resolver.published := by
  induction actions generalizing resolver with
  | nil => rfl
  | cons action rest ih =>
      rw [List.mem_cons, not_or] at h
      have hrun : resolver.run (action :: rest) = (resolver.act action).run rest := rfl
      rw [hrun, ih h.2, published_act (Ne.symm h.1)]

/-- What is published is what the layers were at the last update. -/
theorem published_run (resolver : Resolver) (earlier : List Action) {later : List Action}
    (h : .update ∉ later) : (resolver.run (earlier ++ .update :: later)).published =
      some (resolver.run earlier).loader.snapshot := by
  have hrun : resolver.run (earlier ++ .update :: later) =
      ((resolver.run earlier).act .update).run later := run_append resolver earlier _
  rw [hrun, published_run_of_not_mem h]
  rfl

theorem exists_last_update {actions : List Action} (h : .update ∈ actions) :
    ∃ earlier later, actions = earlier ++ .update :: later ∧ .update ∉ later := by
  induction actions with
  | nil => cases h
  | cons action rest ih =>
      by_cases hrest : .update ∈ rest
      · obtain ⟨earlier, later, rfl, hlater⟩ := ih hrest
        exact ⟨action :: earlier, later, rfl, hlater⟩
      · rcases List.mem_cons.mp h with rfl | hmem
        · exact ⟨[], rest, rfl, hrest⟩
        · exact absurd hmem hrest

/-- Whether the layers of local values are these, and all layers and the snapshot store
their elements under the keys of their configurations. -/
structure Keyed (baseline overrides : KeyMap Element) (resolver : Resolver) : Prop where
  baseline_eq : resolver.loader.baseline = baseline
  overrides_eq : resolver.loader.overrides = overrides
  delivered : StoredUnderKey resolver.loader.delivered.configs
  published : StoredUnderKey resolver.snapshot.configs

theorem keyed_run {baseline overrides : KeyMap Element} (hbaseline : StoredUnderKey baseline)
    (hoverrides : StoredUnderKey overrides) (globals : ContextSet) (actions : List Action) :
    Keyed baseline overrides ((start baseline overrides globals).run actions) := by
  apply run_induction (p := Keyed baseline overrides)
  · intro resolver batch provenance h
    exact ⟨h.baseline_eq, h.overrides_eq, h.delivered.load batch provenance, h.published⟩
  · intro resolver h
    refine ⟨h.baseline_eq, h.overrides_eq, h.delivered, ?_⟩
    have hmerged : resolver.update.1.snapshot.configs =
        (baseline.overlay resolver.loader.delivered.configs).overlay overrides := by
      rw [← h.baseline_eq, ← h.overrides_eq]
      rfl
    rw [hmerged]
    exact (hbaseline.overlay h.delivered).overlay hoverrides
  · exact ⟨rfl, rfl, .empty, .empty⟩

/-- Whether the snapshot has at least a given highest id, and the layers at least that of
the snapshot. -/
structure Trails (mark : Int) (resolver : Resolver) : Prop where
  mark_le : mark ≤ resolver.snapshot.highwater
  published_le : resolver.snapshot.highwater ≤ resolver.highwater

theorem Trails.run {mark : Int} {resolver : Resolver} (h : Trails mark resolver)
    (actions : List Action) : Trails mark (resolver.run actions) := by
  apply run_induction (p := Trails mark) _ _ h
  · intro resolver batch provenance h
    have hgrows : resolver.highwater ≤ (resolver.load batch provenance).highwater :=
      resolver.loader.delivered.highwater_le_load batch provenance
    exact ⟨h.mark_le, Int.le_trans h.published_le hgrows⟩
  · intro resolver h
    have hpublished : resolver.update.1.snapshot.highwater = resolver.highwater := rfl
    have hloader : resolver.update.1.highwater = resolver.highwater := rfl
    constructor
    · rw [hpublished]
      exact Int.le_trans h.mark_le h.published_le
    · exact Int.le_of_eq (hpublished.trans hloader.symm)

theorem trails_run (baseline overrides : KeyMap Element) (globals : ContextSet)
    (actions : List Action) :
    Trails 0 ((start baseline overrides globals).run actions) := by
  have hstart : Trails 0 (start baseline overrides globals) := ⟨Int.le_refl 0, Int.le_refl 0⟩
  exact hstart.run actions

/-! ## Sessions over local values -/

/-- What the published snapshot holds after a session, and what it has kept. -/
structure Layered (baseline overrides : KeyMap Element) (globals : ContextSet)
    (actions : List Action) : Prop where
  loaded_iff : ((start baseline overrides globals).run actions).isLoaded = true ↔
    .update ∈ actions
  /-- For each key the override, else what was delivered when the last update ran, else the
  baseline. -/
  merged : ∀ earlier later, actions = earlier ++ .update :: later → .update ∉ later → ∀ key,
    ((start baseline overrides globals).run actions).snapshot.configs.get? key =
      (overrides.get? key).or
        ((((start baseline overrides globals).run earlier).loader.delivered.configs.get? key).or
          (baseline.get? key))
  keyed : ∀ key element,
    ((start baseline overrides globals).run actions).snapshot.configs.get? key = some element →
      element.config.key = key ∧ element.config.rows ≠ []
  /-- The keys are those of the configurations that have rows, in order. -/
  keys : ((start baseline overrides globals).run actions).keys =
      (Snapshot.configMap
        ((start baseline overrides globals).run actions).snapshot.configs).keys ∧
    ((start baseline overrides globals).run actions).keys.Pairwise (· < ·)
  override : .update ∈ actions → ∀ key element, overrides.get? key = some element →
    ((start baseline overrides globals).run actions).snapshot.configs.get? key = some element
  highwater_mono : ∀ earlier later, actions = earlier ++ later →
    ((start baseline overrides globals).run earlier).snapshot.highwater ≤
      ((start baseline overrides globals).run actions).snapshot.highwater
  highwater_le : ((start baseline overrides globals).run actions).snapshot.highwater ≤
    ((start baseline overrides globals).run actions).highwater
  /-- Right after an update the highest ids are the same. -/
  highwater_eq : ∀ earlier, actions = earlier ++ [.update] →
    ((start baseline overrides globals).run actions).snapshot.highwater =
      ((start baseline overrides globals).run actions).highwater

section Session

variable {base top : List (String × Json)} {location location' : String}
  {baseline overrides : KeyMap Element}

theorem merged_run (hbaseline : StoredUnderKey baseline) (hoverrides : StoredUnderKey overrides)
    (globals : ContextSet) (earlier : List Action) {later : List Action}
    (hlater : .update ∉ later) (key : String) :
    ((start baseline overrides globals).run (earlier ++ .update :: later)).snapshot.configs.get?
        key =
      (overrides.get? key).or
        ((((start baseline overrides globals).run earlier).loader.delivered.configs.get? key).or
          (baseline.get? key)) := by
  have hkeyed := keyed_run hbaseline hoverrides globals earlier
  have hsnapshot : ((start baseline overrides globals).run
      (earlier ++ .update :: later)).snapshot =
        ((start baseline overrides globals).run earlier).loader.snapshot := by
    rw [Resolver.snapshot, published_run _ _ hlater, Option.getD_some]
  rw [hsnapshot, Loader.snapshot, KeyMap.get?_overlay, KeyMap.get?_overlay, hkeyed.baseline_eq,
    hkeyed.overrides_eq]

theorem layered_run (hbaseline : LocalValues.load base location = .ok baseline)
    (hoverrides : LocalValues.load top location' = .ok overrides) (globals : ContextSet)
    (actions : List Action) : Layered baseline overrides globals actions := by
  have hbase : StoredUnderKey baseline := LocalValues.storedUnderKey_of_load hbaseline
  have htop : StoredUnderKey overrides := LocalValues.storedUnderKey_of_load hoverrides
  have hrows := (hasRows_session hbaseline hoverrides globals actions).published
  have hkeyed := keyed_run hbase htop globals actions
  have htrails := trails_run baseline overrides globals actions
  constructor
  case loaded_iff =>
    rw [isLoaded_run_iff]
    simp [start, isLoaded]
  case merged =>
    rintro earlier later rfl hlater key
    exact merged_run hbase htop globals earlier hlater key
  case keyed =>
    intro key element helement
    refine ⟨hkeyed.published key element helement, ?_⟩
    have hlive := hrows key element helement
    simpa [Config.HasRows, Config.isTombstone] using hlive
  case keys =>
    refine ⟨?_, KeyMap.keys_increasing _⟩
    rw [configMap_eq hrows]
    simp [Resolver.keys, Snapshot.keys, KeyMap.keys, KeyMap.mapValues, Function.comp_def]
  case override =>
    intro hupdate key element helement
    obtain ⟨earlier, later, rfl, hlater⟩ := exists_last_update hupdate
    rw [merged_run hbase htop globals earlier hlater, helement, Option.some_or]
  case highwater_mono =>
    rintro earlier later rfl
    rw [run_append]
    have hbefore := trails_run baseline overrides globals earlier
    have hmark : Trails ((start baseline overrides globals).run earlier).snapshot.highwater
        ((start baseline overrides globals).run earlier) :=
      ⟨Int.le_refl _, hbefore.published_le⟩
    exact (hmark.run later).mark_le
  case highwater_le => exact htrails.published_le
  case highwater_eq =>
    rintro earlier rfl
    rw [run_append]
    rfl

/-- An override is compared with itself, so no update but the first tells of its key. -/
theorem key_ne_of_override (hbaseline : LocalValues.load base location = .ok baseline)
    (hoverrides : LocalValues.load top location' = .ok overrides) (globals : ContextSet)
    {actions : List Action} (hupdate : .update ∈ actions) {key : String} {element : Element}
    (helement : overrides.get? key = some element) (hself : Comparable element.config) :
    ∀ change ∈ ((start baseline overrides globals).run actions).update.2, change.key ≠ key := by
  rintro change hchange rfl
  have hrows := hasRows_session hbaseline hoverrides globals actions
  have hview : ∀ session : List Action, .update ∈ session →
      ((start baseline overrides globals).run session).view.get? change.key =
        some element.config := by
    intro session hsession
    have hstored := (layered_run hbaseline hoverrides globals session).override hsession
      change.key element helement
    rw [view, KeyMap.get?_mapValues, hstored, Option.map_some]
  have hnext : ((start baseline overrides globals).run actions).act .update =
      (start baseline overrides globals).run (actions ++ [.update]) := by
    rw [run_append]
    rfl
  rw [update_changes hrows, hnext] at hchange
  obtain ⟨hold, hnew, hchanged⟩ := (Change.mem_between_iff _ _ _).mp hchange
  rw [hold, hnew, hview actions hupdate, hview _ (by simp)] at hchanged
  have hequal : (some element.config == some element.config) = true := hself
  rw [hequal] at hchanged
  cases hchanged

/-- After every session the published snapshot is the layers of the last update, with the
overrides on top and in place since the first update.  Where no number of the overrides is
a NaN, no update after the first one tells of their keys. -/
theorem session_layered (hbaseline : LocalValues.load base location = .ok baseline)
    (hoverrides : LocalValues.load top location' = .ok overrides) (globals : ContextSet)
    (actions : List Action) :
    Layered baseline overrides globals actions ∧
      (Comparable (Json.obj top) → .update ∈ actions → ∀ key element,
        overrides.get? key = some element →
        ∀ change ∈ ((start baseline overrides globals).run actions).update.2,
          change.key ≠ key) := by
  refine ⟨layered_run hbaseline hoverrides globals actions, ?_⟩
  intro htop hupdate key element helement
  have hself : Comparable element.config :=
    LocalValues.comparable_of_load htop hoverrides helement
  exact key_ne_of_override hbaseline hoverrides globals hupdate helement hself

/-- A delivered name is taken back, and a delivered flag stays below its override. -/
def rollback : List Action :=
  let deliver (config : Config) : Action := .load ⟨none, [.ok config], none⟩ ⟨.streaming, none⟩
  [deliver (.constant "name" 2 (.string "served")), deliver (.constant "beta" 4 (.bool false)),
    .update, deliver (.tombstone "name" 3), .update]

/-- The layers of a local name and of a local flag. -/
def names : KeyMap Element :=
  KeyMap.empty.insert "name" ⟨.constant "name" 0 (.string "base"), ⟨.localOnly, some "baseline"⟩⟩

def flags : KeyMap Element :=
  KeyMap.empty.insert "beta" ⟨.constant "beta" 0 (.bool true), ⟨.localOnly, some "overrides"⟩⟩

theorem session_layered_after_rollback :
    Layered names flags .empty rollback ∧
    ((start names flags .empty).run rollback).snapshot.configs.get? "name" = names.get? "name" ∧
    ∀ change ∈ ((start names flags .empty).run rollback).update.2, change.key ≠ "beta" := by
  have hnames : LocalValues.load [("name", .str "base")] "baseline" = .ok names := rfl
  have hflags : LocalValues.load [("beta", .bool true)] "overrides" = .ok flags := rfl
  have hupdate : .update ∈ rollback := by simp [rollback]
  obtain ⟨hlayered, hsilent⟩ := session_layered hnames hflags .empty rollback
  refine ⟨hlayered, ?_, hsilent rfl hupdate "beta" _ rfl⟩
  have hmerged := hlayered.merged (rollback.take 4) [] rfl (by simp) "name"
  rw [hmerged]
  rfl

end Session

end Resolver
end LiveConfig
