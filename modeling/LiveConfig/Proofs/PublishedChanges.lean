import LiveConfig.Proofs.LocalLayers
import LiveConfig.Proofs.Replay
import LiveConfig.Proofs.Session
import Mathlib.Data.List.Forall2

/-!
# Listeners follow what is published

Who starts from the empty map and carries out what the updates of a session tell, with
the changes of one update in any order, ends with what is published
(`Resolver.changes_replay`).

Two invariants carry the induction over the session.  The map of the listener answers
like what is published (`Resolver.same_run`).  No layer and no snapshot holds a
tombstone (`Resolver.Holds`), so the configurations that an update compares are all
there are.
-/

namespace LiveConfig

/-- A batch of which no configuration is accepted leaves the layer as it is. -/
theorem Delivered.configs_load_stale {delivered : Delivered} {batch : Batch}
    (provenance : Provenance)
    (h : ∀ config ∈ batch.readable, delivered.isStale config = true) :
    (delivered.load batch provenance).configs = delivered.configs := by
  have hfold : ∀ configs : List Config, (∀ config ∈ configs, delivered.isStale config = true) →
      configs.foldl (fun d config => d.accept provenance config) delivered = delivered := by
    intro configs hconfigs
    induction configs with
    | nil => rfl
    | cons config rest ih =>
        rw [List.forall_mem_cons] at hconfigs
        have hskip : delivered.accept provenance config = delivered := by
          simp [accept, hconfigs.1]
        rw [List.foldl_cons, hskip]
        exact ih hconfigs.2
  simp only [load, hfold _ h]

theorem Action.comparable_of_mem_loadFile {path : String} {content : Option (List UInt8)}
    {config : Config} (h : config ∈ (loadFile path content).configs) : Comparable config := by
  cases hbatch : content.bind Loader.batchOfFile? with
  | none => simp [configs, hbatch] at h
  | some batch =>
      simp only [configs, hbatch, Option.map_some, Option.getD_some] at h
      obtain ⟨bytes, _, hfile⟩ := Option.bind_eq_some_iff.mp hbatch
      obtain ⟨parsed, hparse, hchecked⟩ := Option.bind_eq_some_iff.mp hfile
      split at hchecked
      · simp at hchecked
      · simp only [Option.some.injEq] at hchecked
        exact Batch.comparable_of_parse? hparse config (hchecked ▸ h)

namespace Resolver

/-- The published map from keys to configurations. -/
def view (resolver : Resolver) : KeyMap Config :=
  resolver.snapshot.configs.mapValues (·.config)

theorem view_act {action : Action} (h : action ≠ .update) (resolver : Resolver) :
    (resolver.act action).view = resolver.view := by
  simp only [view, snapshot, published_act h]

/-- What the updates of a session tell, one list for each update. -/
def changes (resolver : Resolver) : List Action → List (List Change)
  | [] => []
  | .update :: rest => resolver.update.2 :: changes (resolver.act .update) rest
  | action :: rest => changes (resolver.act action) rest

theorem changes_cons {action : Action} (h : action ≠ .update) (resolver : Resolver)
    (rest : List Action) :
    resolver.changes (action :: rest) = (resolver.act action).changes rest := by
  cases action with
  | update => exact absurd rfl h
  | load batch provenance => rfl
  | loadFile path content => rfl

/-- Whether the delivered layer accepts no configuration in the course of a session. -/
def AcceptsNone (resolver : Resolver) : List Action → Prop
  | [] => True
  | action :: rest =>
    (∀ config ∈ action.configs, resolver.loader.delivered.isStale config = true) ∧
      AcceptsNone (resolver.act action) rest

theorem configMap_eq {configs : KeyMap Element}
    (h : HoldsIn Config.HasRows configs) :
    Snapshot.configMap configs = configs.mapValues (·.config) := by
  unfold Snapshot.configMap
  rw [KeyMap.filter_eq_self]
  intro key element helement
  simp [h key element helement]

/-- Where there are no tombstones, an update tells how the published map changes. -/
theorem update_changes {resolver : Resolver}
    (h : Holds Config.HasRows resolver) :
    resolver.update.2 = Change.between resolver.view (resolver.act .update).view := by
  have hbefore := configMap_eq h.published
  have hafter := configMap_eq h.merged
  unfold update view
  simp only [hbefore, hafter]
  rfl

/-- A map that answers like what is published keeps doing so. -/
theorem same_run {resolver : Resolver}
    (h : Holds Config.HasRows resolver) {map : KeyMap Config}
    (hmap : ∀ key, Same (map.get? key) (resolver.view.get? key)) {actions : List Action}
    {told : List (List Change)} (htold : List.Forall₂ List.Perm told (resolver.changes actions)) :
    Change.Faithful Same map told.flatten ∧
      ∀ key, Same ((Change.replay map told.flatten).get? key)
        ((resolver.run actions).view.get? key) := by
  induction actions generalizing resolver map told with
  | nil =>
      cases htold
      exact ⟨trivial, hmap⟩
  | cons action rest ih =>
      have hnext := h.act action fun _ _ hrows => hrows
      rcases resolver.act_cases action with rfl | ⟨hne, -⟩
      · cases htold with
        | cons hfirst hrest =>
            rename_i first others
            have hperm := (update_changes h) ▸ hfirst
            have hafter := Change.same_replay hperm hmap
            obtain ⟨hfaithful, hend⟩ := ih hnext hafter hrest
            rw [List.flatten_cons, Change.replay_append]
            exact ⟨(Change.faithful_of_between hperm hmap).append hfaithful, hend⟩
      · exact ih hnext (view_act hne resolver ▸ hmap) (changes_cons hne resolver rest ▸ htold)

/-- What is told are the changes of updates at resolvers that the session passes. -/
theorem exists_of_mem_told {resolver : Resolver} {actions : List Action}
    {told : List (List Change)} (htold : List.Forall₂ List.Perm told (resolver.changes actions))
    {changes : List Change} (h : changes ∈ told) :
    ∃ earlier later, actions = earlier ++ .update :: later ∧
      changes.Perm (resolver.run earlier).update.2 := by
  induction actions generalizing resolver told with
  | nil =>
      cases htold
      simp at h
  | cons action rest ih =>
      rcases resolver.act_cases action with rfl | ⟨hne, _⟩
      · cases htold with
        | cons hfirst hrest =>
            rcases List.mem_cons.mp h with rfl | h
            · exact ⟨[], rest, rfl, hfirst⟩
            · obtain ⟨earlier, later, hsplit, hchanges⟩ := ih hrest h
              exact ⟨.update :: earlier, later, by rw [hsplit]; rfl, hchanges⟩
      · obtain ⟨earlier, later, hsplit, hchanges⟩ := ih (changes_cons hne resolver rest ▸ htold) h
        exact ⟨action :: earlier, later, by rw [hsplit]; rfl, hchanges⟩

/-- Whether the layers are published as they are. -/
def Current (resolver : Resolver) : Prop :=
  resolver.snapshot.configs = resolver.loader.snapshot.configs

theorem current_run {resolver : Resolver} (h : Current resolver) {actions : List Action}
    (hquiet : resolver.AcceptsNone actions) : Current (resolver.run actions) := by
  induction actions generalizing resolver with
  | nil => exact h
  | cons action rest ih =>
      refine ih ?_ hquiet.2
      rcases resolver.act_cases action with rfl | ⟨_, hnothing | ⟨batch, provenance, hact, hbatch⟩⟩
      · rfl
      · rw [hnothing]
        exact h
      · have hkept : (resolver.loader.delivered.load batch provenance).configs =
            resolver.loader.delivered.configs :=
          Delivered.configs_load_stale provenance (hbatch ▸ hquiet.1)
        rw [hact]
        unfold Current at h ⊢
        simp only [load, Loader.load, Loader.snapshot, hkept]
        exact h

theorem comparable_view {resolver : Resolver} (h : Holds Comparable resolver) {key : String}
    {config : Config} (hconfig : resolver.view.get? key = some config) : Comparable config := by
  rw [view, KeyMap.get?_mapValues, Option.map_eq_some_iff] at hconfig
  obtain ⟨element, helement, rfl⟩ := hconfig
  exact h.published key element helement

/-- An update right after another one, with nothing accepted in between, is silent. -/
theorem update_eq_nil {resolver : Resolver} {quiet : List Action}
    (hrows : Holds Config.HasRows (resolver.run (.update :: quiet)))
    (hcomparable : Holds Comparable (resolver.run (.update :: quiet)))
    (hquiet : (resolver.act .update).AcceptsNone quiet) :
    (resolver.run (.update :: quiet)).update.2 = [] := by
  have hupdate : Current (resolver.act .update) := rfl
  have hcurrent : Current (resolver.run (.update :: quiet)) := current_run hupdate hquiet
  have hview : ((resolver.run (.update :: quiet)).act .update).view =
      (resolver.run (.update :: quiet)).view :=
    congrArg (fun configs => configs.mapValues Element.config) hcurrent.symm
  rw [update_changes hrows, hview]
  exact Change.between_self fun key config => comparable_view hcomparable

/-- Whether what a session loads from batches equals itself.  What it loads from files
always does. -/
def LoadsComparable (actions : List Action) : Prop :=
  ∀ batch provenance, .load batch provenance ∈ actions →
    ∀ config ∈ batch.readable, Comparable config

section Session

variable {base top : List (String × Json)} {location location' : String}
  {baseline overrides : KeyMap Element}

theorem hasRows_session (hbaseline : LocalValues.load base location = .ok baseline)
    (hoverrides : LocalValues.load top location' = .ok overrides) (globals : ContextSet)
    (session : List Action) :
    Holds Config.HasRows
      ((start baseline overrides globals).run session) := by
  have hstart : Holds Config.HasRows
      (start baseline overrides globals) :=
    holds_start (fun _ _ h => LocalValues.hasRows_of_load hbaseline h)
      (fun _ _ h => LocalValues.hasRows_of_load hoverrides h) globals
  exact hstart.run fun _ _ _ _ hrows => hrows

theorem comparable_session (hbaseline : LocalValues.load base location = .ok baseline)
    (hoverrides : LocalValues.load top location' = .ok overrides) (globals : ContextSet)
    (hbase : Comparable (Json.obj base)) (htop : Comparable (Json.obj top))
    {session : List Action} (hsession : LoadsComparable session) :
    Holds Comparable ((start baseline overrides globals).run session) := by
  have hstart : Holds Comparable (start baseline overrides globals) :=
    holds_start (fun _ _ h => LocalValues.comparable_of_load hbase hbaseline h)
      (fun _ _ h => LocalValues.comparable_of_load htop hoverrides h) globals
  apply hstart.run
  intro action haction config hconfig _
  cases action with
  | load batch provenance => exact hsession batch provenance haction config hconfig
  | loadFile path content => exact Action.comparable_of_mem_loadFile hconfig
  | update => simp [Action.configs] at hconfig

/-- Carrying out what the updates of a session tell, in any order within one update,
gives the published map.  Every change finds its old configuration in place, and no
update tells of a key twice.  Configurations are compared by `Same`; where no number
is a NaN that is equality, and an update with nothing accepted before it is silent. -/
theorem changes_replay (hbaseline : LocalValues.load base location = .ok baseline)
    (hoverrides : LocalValues.load top location' = .ok overrides) (globals : ContextSet)
    (actions : List Action) {told : List (List Change)}
    (htold : List.Forall₂ List.Perm told
      ((start baseline overrides globals).changes actions)) :
    (∀ key, Same ((Change.replay .empty told.flatten).get? key)
      (((start baseline overrides globals).run actions).view.get? key)) ∧
    (∀ changes ∈ told, (changes.map (·.key)).Nodup) ∧
    Change.Faithful Same .empty told.flatten ∧
    (Comparable (Json.obj base) → Comparable (Json.obj top) → LoadsComparable actions →
      (Change.replay .empty told.flatten ==
        ((start baseline overrides globals).run actions).view) = true ∧
      Change.Faithful (fun old found => (old == found) = true) .empty told.flatten ∧
      ∀ earlier quiet, actions = earlier ++ .update :: quiet →
        ((start baseline overrides globals).run (earlier ++ [.update])).AcceptsNone quiet →
        ((start baseline overrides globals).run actions).update.2 = []) := by
  have hrows := hasRows_session hbaseline hoverrides globals
  obtain ⟨hfaithful, hend⟩ := same_run (hrows []) (fun key => .inl rfl) htold
  have htold' : ∀ changes ∈ told, ∃ session later, actions = session ++ .update :: later ∧
      changes.Perm (Change.between ((start baseline overrides globals).run session).view
        (((start baseline overrides globals).run session).act .update).view) := by
    intro changes hmem
    obtain ⟨session, later, hsplit, hperm⟩ := exists_of_mem_told htold hmem
    exact ⟨session, later, hsplit, update_changes (hrows session) ▸ hperm⟩
  refine ⟨hend, ?_, hfaithful, ?_⟩
  · intro changes hmem
    obtain ⟨_, _, _, hperm⟩ := htold' changes hmem
    exact Change.nodup_keys_of_perm hperm
  intro hbase htop hloads
  have hcomparable : ∀ session later, actions = session ++ later →
      Holds Comparable ((start baseline overrides globals).run session) := by
    intro session later hsplit
    apply comparable_session hbaseline hoverrides globals hbase htop
    intro batch provenance hmem
    exact hloads batch provenance (by simp [hsplit, hmem])
  have hview := hcomparable actions [] (List.append_nil actions).symm
  refine ⟨?_, ?_, ?_⟩
  · apply KeyMap.beq_of_get?
    intro key
    apply BEq.symm
    apply (hend key).symm.beq
    rw [comparable_option_iff]
    exact fun config hconfig => comparable_view hview hconfig
  · apply hfaithful.imp
    intro change hchange found hsame
    obtain ⟨changes, hmem, hchange⟩ := List.mem_flatten.mp hchange
    obtain ⟨session, later, hsplit, hperm⟩ := htold' changes hmem
    obtain ⟨hold, _, _⟩ := (Change.mem_between_iff _ _ _).mp (hperm.mem_iff.mp hchange)
    apply hsame.beq
    rw [hold, comparable_option_iff]
    exact fun config hconfig => comparable_view (hcomparable session _ hsplit) hconfig
  · rintro earlier quiet rfl hquiet
    simp only [run, List.foldl_append] at hrows hview hquiet ⊢
    exact update_eq_nil (by simpa [run] using hrows (earlier ++ .update :: quiet)) hview hquiet

/-- Two keys are set, one of them is removed, and an older version comes too late. -/
def hotfix : List Action :=
  let deliver (config : Config) : Action := .load ⟨none, [.ok config], none⟩ ⟨.streaming, none⟩
  [deliver (.constant "limit" 2 (.int 5)), deliver (.constant "flag" 2 (.bool true)), .update,
    deliver (.tombstone "flag" 3), .update, deliver (.constant "limit" 1 (.int 4))]

/-- The layer of a local value for one of the keys. -/
def limits : KeyMap Element :=
  KeyMap.empty.insert "limit" ⟨.constant "limit" 0 (.int 3), ⟨.localOnly, some "baseline"⟩⟩

theorem hotfix_replay :
    (Change.replay .empty
        (((start limits .empty .empty).changes hotfix).map List.reverse).flatten ==
      ((start limits .empty .empty).run hotfix).view) = true ∧
    ((start limits .empty .empty).run hotfix).update.2 = [] := by
  have hbaseline : LocalValues.load [("limit", .int 3)] "baseline" = .ok limits := rfl
  have hoverrides : LocalValues.load [] "overrides" = .ok .empty := rfl
  have htold : List.Forall₂ List.Perm
      (((start limits .empty .empty).changes hotfix).map List.reverse)
      ((start limits .empty .empty).changes hotfix) := by
    rw [List.forall₂_map_left_iff, List.forall₂_same]
    exact fun changes _ => List.reverse_perm changes
  have hloads : LoadsComparable hotfix := by
    intro batch provenance hmem config hconfig
    have hconfigs : ∀ action ∈ hotfix, ∀ config ∈ action.configs, (config == config) = true := by
      decide
    exact hconfigs _ hmem config hconfig
  have hquiet : ((start limits .empty .empty).run (hotfix.take 5)).AcceptsNone (hotfix.drop 5) :=
    ⟨by decide, trivial⟩
  obtain ⟨_, _, _, hnumbers⟩ := changes_replay hbaseline hoverrides .empty hotfix htold
  obtain ⟨hview, _, hsilent⟩ := hnumbers rfl rfl hloads
  exact ⟨hview, hsilent (hotfix.take 4) (hotfix.drop 5) rfl hquiet⟩

/-- A number that does not equal itself is delivered and published. -/
def publishesNaN : List Action :=
  [.load ⟨none, [.ok (.constant "ratio" 1 (.double (.nan false)))], none⟩ ⟨.remoteApi, none⟩,
    .update]

/-- The next update tells of it again, and the map of who carries the changes out does not
equal what is published. -/
theorem nan_is_told_again :
    LocalValues.load [] "baseline" = .ok .empty ∧ LocalValues.load [] "overrides" = .ok .empty ∧
      (((start .empty .empty .empty).run publishesNaN).update.2).map (·.key) = ["ratio"] ∧
      (Change.replay .empty ((start .empty .empty .empty).changes publishesNaN).flatten ==
        ((start .empty .empty .empty).run publishesNaN).view) = false :=
  ⟨rfl, rfl, by decide +kernel, by decide +kernel⟩

end Session
end Resolver
end LiveConfig
