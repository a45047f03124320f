import LiveConfig.Proofs.Delivery
import LiveConfig.Proofs.KeyMap
import LiveConfig.Resolver

/-!
# Sessions of a resolver

A session is any order of loads, loads of snapshot files and updates.  What an action
can do is said once (`Resolver.act_cases`): it publishes the layers, hands one batch to
the delivered layer, or does nothing.  Invariants of sessions are derived from that: in
general by `Resolver.run_induction`, and for conditions on the configurations that are
stored anywhere by `Resolver.Holds.run`.
-/

namespace LiveConfig

/-- Whether a configuration is no tombstone. -/
abbrev Config.HasRows (config : Config) : Prop := config.isTombstone = false

/-- Whether every configuration of a layer satisfies `p`. -/
def HoldsIn (p : Config → Prop) (layer : KeyMap Element) : Prop :=
  ∀ key element, layer.get? key = some element → p element.config

namespace HoldsIn

variable {p : Config → Prop}

theorem empty : HoldsIn p .empty := by
  intro key element h
  simp [KeyMap.get?_empty] at h

theorem overlay {lower upper : KeyMap Element} (hlower : HoldsIn p lower)
    (hupper : HoldsIn p upper) : HoldsIn p (lower.overlay upper) := by
  intro key element h
  rw [KeyMap.get?_overlay] at h
  cases hu : upper.get? key with
  | none => exact hlower key element (by simpa [hu] using h)
  | some stored =>
      have heq : stored = element := by simpa [hu] using h
      exact hupper key element (heq ▸ hu)

/-- A layer stores a delivered configuration only if it is no tombstone. -/
theorem acceptElement {delivered : Delivered} {element : Element}
    (h : HoldsIn p delivered.configs)
    (helement : element.config.HasRows → p element.config) :
    HoldsIn p (delivered.acceptElement element).configs := by
  intro key stored hstored
  rcases Delivered.eq_of_get?_acceptElement hstored with hbefore | ⟨rfl, -, hrows⟩
  · exact h key stored hbefore
  · exact helement hrows

theorem load {delivered : Delivered} {batch : Batch} (provenance : Provenance)
    (h : HoldsIn p delivered.configs)
    (hbatch : ∀ config ∈ batch.readable, config.HasRows → p config) :
    HoldsIn p (delivered.load batch provenance).configs := by
  rw [Delivered.configs_load]
  have helements : ∀ element ∈ batch.elements provenance,
      element.config.HasRows → p element.config := by
    intro element helement
    obtain ⟨config, hconfig, rfl⟩ := List.mem_map.mp helement
    exact hbatch config hconfig
  apply Delivered.acceptAll_induction (p := fun reached => HoldsIn p reached.configs) _ h
  intro reached hreached element helement
  exact hreached.acceptElement (helements element helement)

end HoldsIn

/-- What can be done with a resolver besides reading from it. -/
inductive Action
  | load (batch : Batch) (provenance : Provenance)
  | loadFile (path : String) (content : Option (List UInt8))
  | update

namespace Action

/-- The configurations that an action hands to the delivered layer, in order. -/
def configs : Action → List Config
  | load batch _ => batch.readable
  | loadFile _ content => ((content.bind Loader.batchOfFile?).map Batch.readable).getD []
  | update => []

end Action

namespace Resolver

/-- The resolver after an action.  A file that cannot be loaded changes nothing. -/
def act (resolver : Resolver) : Action → Resolver
  | .load batch provenance => resolver.load batch provenance
  | .loadFile path content => ((resolver.loadFile path content).toOption).getD resolver
  | .update => resolver.update.1

def run (resolver : Resolver) (actions : List Action) : Resolver := actions.foldl act resolver

/-- An action that is no update loads its configurations as one batch, or does nothing. -/
theorem act_cases (resolver : Resolver) (action : Action) :
    action = .update ∨
      action ≠ .update ∧
        (resolver.act action = resolver ∨ ∃ batch provenance,
          resolver.act action = resolver.load batch provenance ∧
            action.configs = batch.readable) := by
  cases action with
  | update => exact .inl rfl
  | load batch provenance =>
      exact .inr ⟨by simp, .inr ⟨batch, provenance, rfl, rfl⟩⟩
  | loadFile path content =>
      refine .inr ⟨by simp, ?_⟩
      cases content with
      | none => exact .inl rfl
      | some bytes =>
          cases hbatch : Loader.batchOfFile? bytes with
          | none =>
              left
              simp [act, loadFile, Loader.loadFile, hbatch, Except.map, Except.toOption]
          | some batch =>
              refine .inr ⟨batch, ⟨.localFile, some path⟩, ?_, ?_⟩
              · simp [act, loadFile, Loader.loadFile, hbatch, Except.map, Except.toOption, load]
              · simp [Action.configs, hbatch]

/-- Only an update publishes. -/
theorem published_act {action : Action} (h : action ≠ .update) (resolver : Resolver) :
    (resolver.act action).published = resolver.published := by
  rcases resolver.act_cases action with hupdate | ⟨-, hnothing | ⟨batch, provenance, hload, -⟩⟩
  · exact absurd hupdate h
  · rw [hnothing]
  · rw [hload]
    rfl

/-- What loads and updates keep holds at the end of every session. -/
theorem run_induction {p : Resolver → Prop}
    (hload : ∀ resolver batch provenance, p resolver → p (resolver.load batch provenance))
    (hupdate : ∀ resolver, p resolver → p resolver.update.1) {resolver : Resolver}
    (h : p resolver) (actions : List Action) : p (resolver.run actions) := by
  induction actions generalizing resolver with
  | nil => exact h
  | cons action rest ih =>
      have hnext : p (resolver.act action) := by
        rcases resolver.act_cases action with
          rfl | ⟨_, hnothing | ⟨batch, provenance, hact, _⟩⟩
        · exact hupdate resolver h
        · rw [hnothing]
          exact h
        · rw [hact]
          exact hload resolver batch provenance h
      exact ih hnext

/-- Whether every configuration of the layers and of the snapshot satisfies `p`. -/
structure Holds (p : Config → Prop) (resolver : Resolver) : Prop where
  baseline : HoldsIn p resolver.loader.baseline
  overrides : HoldsIn p resolver.loader.overrides
  delivered : HoldsIn p resolver.loader.delivered.configs
  published : HoldsIn p resolver.snapshot.configs

section Holds

variable {p : Config → Prop} {resolver : Resolver}

theorem Holds.merged (h : Holds p resolver) : HoldsIn p resolver.loader.snapshot.configs :=
  (h.baseline.overlay h.delivered).overlay h.overrides

theorem Holds.act (h : Holds p resolver) (action : Action)
    (hconfigs : ∀ config ∈ action.configs, config.HasRows → p config) :
    Holds p (resolver.act action) := by
  rcases resolver.act_cases action with rfl | ⟨_, hnothing | ⟨batch, provenance, hact, hbatch⟩⟩
  · exact ⟨h.baseline, h.overrides, h.delivered, h.merged⟩
  · rw [hnothing]
    exact h
  · rw [hact]
    exact ⟨h.baseline, h.overrides, h.delivered.load provenance (hbatch ▸ hconfigs), h.published⟩

theorem Holds.run (h : Holds p resolver) {actions : List Action}
    (hactions : ∀ action ∈ actions, ∀ config ∈ action.configs,
      config.HasRows → p config) : Holds p (resolver.run actions) := by
  induction actions generalizing resolver with
  | nil => exact h
  | cons action rest ih =>
      rw [List.forall_mem_cons] at hactions
      exact ih (h.act action hactions.1) hactions.2

end Holds

/-- A resolver over two layers of local values, before anything is loaded. -/
def start (baseline overrides : KeyMap Element) (globals : ContextSet) : Resolver :=
  { loader := { baseline, overrides, globals } }

theorem holds_start {p : Config → Prop} {baseline overrides : KeyMap Element}
    (hbaseline : HoldsIn p baseline) (hoverrides : HoldsIn p overrides) (globals : ContextSet) :
    Holds p (start baseline overrides globals) :=
  ⟨hbaseline, hoverrides, .empty, .empty⟩

end Resolver
end LiveConfig
