import LiveConfig.Proofs.KeyMap
import LiveConfig.Proofs.Session

/-!
# Layers of context under qualified names

In a merge the upper layer wins property by property, but a context keeps the name that
the lowest layer wrote.  Rules read a property under that name and no other: what the
caller gives for a context is found under the caller's name exactly if the lowest layer
with a context of that name up to case spells it alike
(`Resolver.lookup?_explicit`).

A set is described by `ContextSet.get?` and a merge by `Option.merge` at each name
(`get?_merge`); under names without a dot a qualified name tells its context and its
property (`lookup?_dotted`).
-/

namespace LiveConfig

theorem Context.get?_overlay (lower upper : Context) (property : String) :
    (lower.overlay upper).get? property = (upper.get? property).or (lower.get? property) :=
  KeyMap.get?_overlay lower.properties upper.properties property

namespace ContextSet

/-! ## Merging -/

theorem get?_mergeEntry (set : ContextSet) (entry : String × Context) (key : String) :
    (set.mergeEntry entry).contexts.get? key =
      if key = entry.1 then Option.merge Context.overlay (set.contexts.get? key) (some entry.2)
      else set.contexts.get? key := by
  unfold mergeEntry
  by_cases hkey : key = entry.1
  · subst hkey
    cases hget : set.contexts.get? entry.1 with
    | none => simp [KeyMap.get?_insert]
    | some existing => simp [KeyMap.get?_insert]
  · cases set.contexts.get? entry.1 with
    | none => simp [KeyMap.get?_insert, hkey]
    | some existing => simp [KeyMap.get?_insert, hkey]

theorem get?_foldl_mergeEntry {entries : List (String × Context)}
    (h : entries.Pairwise fun a b => a.1 < b.1) (set : ContextSet) (key : String) :
    (entries.foldl mergeEntry set).contexts.get? key =
      Option.merge Context.overlay (set.contexts.get? key) (entries.lookup key) := by
  induction entries generalizing set with
  | nil => simp
  | cons entry rest ih =>
      obtain ⟨hfirst, hrest⟩ := List.pairwise_cons.mp h
      rw [List.foldl_cons, ih hrest, get?_mergeEntry, KeyMap.lookup_cons_ite]
      by_cases hkey : key = entry.1
      · subst hkey
        simp [KeyMap.lookup_eq_none_of_lt hfirst]
      · simp [hkey]

theorem get?_merge (set upper : ContextSet) (key : String) :
    (set.merge upper).contexts.get? key =
      Option.merge Context.overlay (set.contexts.get? key) (upper.contexts.get? key) :=
  get?_foldl_mergeEntry upper.contexts.increasing set key

/-! ## Sets under their names -/

/-- Every context stands under its own name in lower case. -/
def Keyed (set : ContextSet) : Prop :=
  ∀ key context, set.contexts.get? key = some context → key = Unicode.lower context.name

theorem keyed_empty : Keyed .empty := by
  intro key context h
  cases h

theorem Keyed.add {set : ContextSet} (h : set.Keyed) (context : Context) :
    (set.add context).Keyed := by
  intro key other hget
  simp only [ContextSet.add, KeyMap.get?_insert] at hget
  split at hget
  · rename_i hkey
    cases hget
    exact hkey
  · exact h key other hget

theorem keyed_ofList (contexts : List Context) : (ofList contexts).Keyed := by
  have hfold : ∀ set : ContextSet, set.Keyed → (contexts.foldl ContextSet.add set).Keyed := by
    induction contexts with
    | nil => exact fun set h => h
    | cons context rest ih => exact fun set h => ih _ (h.add context)
  exact hfold empty keyed_empty

theorem keyed_ofDocument? {document : Document} {set : ContextSet}
    (h : ofDocument? document = some set) : set.Keyed := by
  unfold ofDocument? at h
  simp only [Option.bind_eq_bind, Option.bind_eq_some_iff] at h
  obtain ⟨fields, -, h⟩ := h
  split at h
  · obtain ⟨contexts, -, hset⟩ := Option.bind_eq_some_iff.mp h
    cases hset
    exact keyed_ofList contexts
  · cases h

/-- The name that a set writes for a name up to case. -/
def spelling? (set : ContextSet) (name : String) : Option String :=
  (set.get? name).map (·.name)

theorem spelling?_merge (set upper : ContextSet) (name : String) :
    (set.merge upper).spelling? name = (set.spelling? name).or (upper.spelling? name) := by
  unfold spelling? get?
  rw [get?_merge]
  cases set.contexts.get? (Unicode.lower name) with
  | none => simp
  | some lower =>
      cases upper.contexts.get? (Unicode.lower name) with
      | none => simp
      | some other => rfl

theorem spelling?_foldl_merge (layers : List ContextSet) (set : ContextSet) (name : String) :
    (layers.foldl merge set).spelling? name =
      (set :: layers).findSome? (·.spelling? name) := by
  induction layers generalizing set with
  | nil => rw [List.foldl_nil, List.findSome?_singleton]
  | cons layer rest ih =>
      rw [List.foldl_cons, ih]
      simp only [List.findSome?_cons, spelling?_merge]
      cases set.spelling? name <;> rfl

/-- A context of a merge has the name that the lower set writes, if that has the context. -/
theorem name_of_get?_merge {set upper : ContextSet} {key : String} {context : Context}
    (h : (set.merge upper).contexts.get? key = some context) :
    (∃ lower, set.contexts.get? key = some lower ∧ context.name = lower.name) ∨
      upper.contexts.get? key = some context := by
  rw [get?_merge] at h
  cases hlower : set.contexts.get? key with
  | none =>
      right
      simpa [hlower] using h
  | some lower =>
      left
      refine ⟨lower, rfl, ?_⟩
      cases hupper : upper.contexts.get? key with
      | none =>
          rw [hlower, hupper] at h
          cases h
          rfl
      | some other =>
          rw [hlower, hupper] at h
          cases h
          rfl

theorem Keyed.merge {set upper : ContextSet} (hset : set.Keyed) (hupper : upper.Keyed) :
    (set.merge upper).Keyed := by
  intro key context hget
  rcases name_of_get?_merge hget with ⟨lower, hlower, hname⟩ | hother
  · rw [hname]
    exact hset key lower hlower
  · exact hupper key context hother

theorem keyed_foldl_merge {layers : List ContextSet} {set : ContextSet} (hset : set.Keyed)
    (hlayers : ∀ layer ∈ layers, layer.Keyed) : (layers.foldl merge set).Keyed :=
  List.foldlRecOn layers merge hset fun _ hmerged layer hlayer =>
    hmerged.merge (hlayers layer hlayer)

/-! ## Qualified names -/

/-- No name of a context is blank or holds a dot. -/
def Plain (set : ContextSet) : Prop :=
  ∀ context ∈ set.toList, Text.trimChars context.name.toList ≠ [] ∧ '.' ∉ context.name.toList

instance (set : ContextSet) : Decidable set.Plain :=
  inferInstanceAs (Decidable (∀ context ∈ set.toList,
    Text.trimChars context.name.toList ≠ [] ∧ '.' ∉ context.name.toList))

theorem mem_toList_iff (set : ContextSet) (context : Context) :
    context ∈ set.toList ↔ ∃ key, set.contexts.get? key = some context := by
  simp only [toList, KeyMap.values, List.mem_map, Prod.exists, KeyMap.mem_entries_iff]
  constructor
  · rintro ⟨key, other, hget, rfl⟩
    exact ⟨key, hget⟩
  · rintro ⟨key, hget⟩
    exact ⟨key, context, hget, rfl⟩

theorem Keyed.get?_eq_some_iff {set : ContextSet} (h : set.Keyed) (context : Context) :
    set.get? context.name = some context ↔ context ∈ set.toList := by
  rw [mem_toList_iff]
  constructor
  · intro hget
    exact ⟨_, hget⟩
  · rintro ⟨key, hget⟩
    rw [get?, ← h key context hget]
    exact hget

end ContextSet

/-- Names without a dot can be read off a qualified name. -/
theorem dotted_inj {name other property suffix : List Char} (hname : '.' ∉ name)
    (hother : '.' ∉ other) (h : name ++ '.' :: property = other ++ '.' :: suffix) :
    name = other ∧ property = suffix := by
  induction name generalizing other with
  | nil =>
      cases other with
      | nil => simpa using h
      | cons c rest =>
          obtain ⟨rfl, -⟩ := List.cons.inj h
          exact absurd List.mem_cons_self hother
  | cons c rest ih =>
      cases other with
      | nil =>
          obtain ⟨rfl, -⟩ := List.cons.inj h
          exact absurd List.mem_cons_self hname
      | cons d other =>
          obtain ⟨rfl, hrest⟩ := List.cons.inj h
          obtain ⟨rfl, hproperty⟩ := ih (fun hmem => hname (List.mem_cons_of_mem _ hmem))
            (fun hmem => hother (List.mem_cons_of_mem _ hmem)) hrest
          exact ⟨rfl, hproperty⟩

theorem Context.qualify_eq_iff {context : Context} {name property suffix : String}
    (hblank : Text.trimChars context.name.toList ≠ []) (hdot : '.' ∉ context.name.toList)
    (hname : '.' ∉ name.toList) :
    context.qualify suffix = name ++ "." ++ property ↔
      context.name = name ∧ suffix = property := by
  rw [Context.qualify, if_neg hblank]
  constructor
  · intro h
    have hchars : context.name.toList ++ '.' :: suffix.toList =
        name.toList ++ '.' :: property.toList := by
      have hlist := congrArg String.toList h
      simpa using hlist
    obtain ⟨hsame, hproperty⟩ := dotted_inj hdot hname hchars
    exact ⟨String.toList_inj.mp hsame, String.toList_inj.mp hproperty⟩
  · rintro ⟨rfl, rfl⟩
    rfl

namespace ContextSet

/-- Under plain names, a property is found under the spelling of its context only. -/
theorem lookup?_dotted {set : ContextSet} (hkeyed : set.Keyed) (hplain : set.Plain)
    {name : String} (hname : '.' ∉ name.toList) (property : String) :
    set.lookup? (name ++ "." ++ property) =
      if set.spelling? name = some name then (set.get? name).bind (·.get? property) else none := by
  apply KeyMap.get?_ofList_of_mem_iff
  intro value
  have hmem : (name ++ "." ++ property, value) ∈ set.qualifiedEntries ↔
      ∃ context ∈ set.toList, context.name = name ∧ context.get? property = some value := by
    simp only [qualifiedEntries, List.mem_flatMap, List.mem_map, Prod.exists, Prod.mk.injEq]
    constructor
    · rintro ⟨context, hcontext, suffix, other, hentry, hqualify, rfl⟩
      obtain ⟨hblank, hdot⟩ := hplain context hcontext
      obtain ⟨hsame, rfl⟩ := (Context.qualify_eq_iff hblank hdot hname).mp hqualify
      exact ⟨context, hcontext, hsame, (KeyMap.mem_entries_iff _ _ _).mp hentry⟩
    · rintro ⟨context, hcontext, hsame, hget⟩
      obtain ⟨hblank, hdot⟩ := hplain context hcontext
      exact ⟨context, hcontext, property, value, (KeyMap.mem_entries_iff _ _ _).mpr hget,
        (Context.qualify_eq_iff hblank hdot hname).mpr ⟨hsame, rfl⟩, rfl⟩
  rw [hmem]
  constructor
  · rintro ⟨context, hcontext, rfl, hget⟩
    have hfound := (hkeyed.get?_eq_some_iff context).mpr hcontext
    rw [if_pos (by simp [spelling?, hfound]), hfound]
    exact hget
  · intro h
    split at h
    · rename_i hspelling
      obtain ⟨context, hfound, hget⟩ := Option.bind_eq_some_iff.mp h
      obtain ⟨other, hother, hsame⟩ := Option.map_eq_some_iff.mp hspelling
      rw [hfound] at hother
      cases hother
      exact ⟨context, (mem_toList_iff _ _).mpr ⟨_, hfound⟩, hsame, hget⟩
    · cases h

theorem Plain.merge {set upper : ContextSet} (hset : set.Plain) (hupper : upper.Plain) :
    (set.merge upper).Plain := by
  intro context hcontext
  obtain ⟨key, hget⟩ := (mem_toList_iff _ _).mp hcontext
  rcases name_of_get?_merge hget with ⟨lower, hlower, hname⟩ | hother
  · rw [hname]
    exact hset lower ((mem_toList_iff _ _).mpr ⟨key, hlower⟩)
  · exact hupper context ((mem_toList_iff _ _).mpr ⟨key, hother⟩)

/-- A property of the upper set is a property of the merge. -/
theorem exists_of_get?_merge {set upper : ContextSet} {context : Context}
    (h : upper.get? context.name = some context) {property : String} {value : Value}
    (hvalue : context.get? property = some value) :
    ∃ merged, (set.merge upper).get? context.name = some merged ∧
      merged.get? property = some value := by
  unfold get? at h ⊢
  rw [get?_merge, h]
  cases set.contexts.get? (Unicode.lower context.name) with
  | none => exact ⟨context, rfl, hvalue⟩
  | some lower =>
      refine ⟨lower.overlay context, rfl, ?_⟩
      rw [Context.get?_overlay, hvalue, Option.some_or]

end ContextSet

/-! ## Sets of a session -/

theorem Batch.keyed_of_parse? {bytes : List UInt8} {batch : Batch}
    (h : Batch.parse? bytes = some batch) : ∀ set ∈ batch.defaultContext, set.Keyed := by
  obtain ⟨document, -, hbatch⟩ := Option.bind_eq_some_iff.mp h
  simp only [ofDocument?, Option.bind_eq_bind, Option.bind_eq_some_iff] at hbatch
  obtain ⟨fields, -, hread⟩ := hbatch
  split at hread
  · simp only [Option.bind_eq_some_iff, Option.pure_def, Option.some.injEq] at hread
    obtain ⟨_, _, _, _, result, hresult, rfl⟩ := hread
    intro set hset
    obtain rfl : result = some set := hset
    unfold Document.optional at hresult
    split at hresult
    · cases hresult
    · obtain ⟨other, hother, hsame⟩ := Option.map_eq_some_iff.mp hresult
      cases hsame
      exact ContextSet.keyed_ofDocument? hother
    · cases hresult
  · cases hread

namespace Resolver

/-- The contexts in the layers and in the snapshot of the resolver are keyed. -/
structure KeyedContexts (resolver : Resolver) : Prop where
  globals : resolver.loader.globals.Keyed
  delivered : resolver.loader.delivered.defaultContext.Keyed
  publishedGlobals : resolver.snapshot.globals.Keyed
  publishedDefault : resolver.snapshot.serverDefault.Keyed

theorem KeyedContexts.load {resolver : Resolver} (h : KeyedContexts resolver) {batch : Batch}
    (hbatch : ∀ set ∈ batch.defaultContext, set.Keyed) (provenance : Provenance) :
    KeyedContexts (resolver.load batch provenance) := by
  refine ⟨h.globals, ?_, h.publishedGlobals, h.publishedDefault⟩
  have hload : (resolver.load batch provenance).loader.delivered.defaultContext =
      batch.defaultContext.getD resolver.loader.delivered.defaultContext :=
    Delivered.defaultContext_load _ _ _
  rw [hload]
  cases hset : batch.defaultContext with
  | none => exact h.delivered
  | some set => exact hbatch set hset

theorem KeyedContexts.act {resolver : Resolver} (h : KeyedContexts resolver) {action : Action}
    (haction : ∀ batch provenance, action = .load batch provenance →
      ∀ set ∈ batch.defaultContext, set.Keyed) : KeyedContexts (resolver.act action) := by
  cases action with
  | update => exact ⟨h.globals, h.delivered, h.globals, h.delivered⟩
  | load batch provenance => exact h.load (haction batch provenance rfl) provenance
  | loadFile path content =>
      cases content with
      | none => exact h
      | some bytes =>
          cases hbatch : Loader.batchOfFile? bytes with
          | none =>
              have hact : resolver.act (.loadFile path (some bytes)) = resolver := by
                simp [Resolver.act, loadFile, Loader.loadFile, hbatch, Except.map, Except.toOption]
              rw [hact]
              exact h
          | some batch =>
              have hact : resolver.act (.loadFile path (some bytes)) =
                  resolver.load batch ⟨.localFile, some path⟩ := by
                simp [Resolver.act, loadFile, Loader.loadFile, hbatch, Except.map,
                  Except.toOption, Resolver.load]
              obtain ⟨parsed, hparse, hchecked⟩ := Option.bind_eq_some_iff.mp hbatch
              rw [hact]
              split at hchecked
              · cases hchecked
              · cases hchecked
                exact h.load (Batch.keyed_of_parse? hparse) _

/-- The sets of a session are keyed, if those that it is given are. -/
theorem KeyedContexts.run {resolver : Resolver} (h : KeyedContexts resolver)
    {actions : List Action}
    (hactions : ∀ batch provenance, .load batch provenance ∈ actions →
      ∀ set ∈ batch.defaultContext, set.Keyed) : KeyedContexts (resolver.run actions) := by
  induction actions generalizing resolver with
  | nil => exact h
  | cons action rest ih =>
      apply ih
      · apply h.act
        rintro batch provenance rfl
        exact hactions batch provenance List.mem_cons_self
      · intro batch provenance hmem
        exact hactions batch provenance (List.mem_cons_of_mem _ hmem)

theorem keyedContexts_start (baseline overrides : KeyMap Element) {globals : ContextSet}
    (h : globals.Keyed) : KeyedContexts (start baseline overrides globals) :=
  ⟨h, ContextSet.keyed_empty, ContextSet.keyed_empty, ContextSet.keyed_empty⟩

/-- The layers of context of an evaluation, the lowest first. -/
def layers (resolver : Resolver) (ambient explicit : ContextSet) : List ContextSet :=
  [resolver.snapshot.serverDefault, resolver.snapshot.globals, ambient, explicit]

section Layers

variable {resolver : Resolver} {ambient explicit : ContextSet}

theorem keyed_contextFor (h : ∀ layer ∈ resolver.layers ambient explicit, layer.Keyed) :
    (resolver.contextFor ambient explicit).Keyed := by
  obtain ⟨hserver, hupper⟩ := List.forall_mem_cons.mp h
  exact ContextSet.keyed_foldl_merge hserver hupper

theorem plain_contextFor (h : ∀ layer ∈ resolver.layers ambient explicit, layer.Plain) :
    (resolver.contextFor ambient explicit).Plain := by
  simp only [layers, List.forall_mem_cons] at h
  obtain ⟨hserver, hglobals, hambient, hexplicit, -⟩ := h
  exact ((hserver.merge hglobals).merge hambient).merge hexplicit

theorem spelling?_contextFor (name : String) :
    (resolver.contextFor ambient explicit).spelling? name =
      (resolver.layers ambient explicit).findSome? (·.spelling? name) :=
  ContextSet.spelling?_foldl_merge [resolver.snapshot.globals, ambient, explicit] _ name

end Layers

/-- What the caller gives for a context is found under the spelling of its name in the
lowest layer that has such a context, and under the caller's own spelling exactly if that
is the same. -/
theorem lookup?_explicit (resolver : Resolver) (ambient explicit : ContextSet)
    (hkeyed : ∀ layer ∈ resolver.layers ambient explicit, layer.Keyed)
    (hplain : ∀ layer ∈ resolver.layers ambient explicit, layer.Plain)
    {context : Context} (hcontext : context ∈ explicit.toList) {property : String}
    {value : Value} (hvalue : context.get? property = some value) :
    ∃ spelling,
      (resolver.layers ambient explicit).findSome? (·.spelling? context.name) = some spelling ∧
      (resolver.contextFor ambient explicit).lookup? (spelling ++ "." ++ property) =
        some value ∧
      (resolver.contextFor ambient explicit).lookup? (context.name ++ "." ++ property) =
        if spelling = context.name then some value else none := by
  have hexplicit : explicit.get? context.name = some context :=
    ((hkeyed explicit (by simp [layers])).get?_eq_some_iff context).mpr hcontext
  have hname : '.' ∉ context.name.toList := (hplain explicit (by simp [layers]) context hcontext).2
  have hmergedKeyed := keyed_contextFor hkeyed
  have hmergedPlain := plain_contextFor hplain
  obtain ⟨merged, hmerged, hproperty⟩ :
      ∃ merged, (resolver.contextFor ambient explicit).get? context.name = some merged ∧
        merged.get? property = some value :=
    ContextSet.exists_of_get?_merge hexplicit hvalue
  have hmember : merged ∈ (resolver.contextFor ambient explicit).toList :=
    (ContextSet.mem_toList_iff _ _).mpr ⟨_, hmerged⟩
  have hspelling : (resolver.contextFor ambient explicit).spelling? context.name =
      some merged.name := by rw [ContextSet.spelling?, hmerged, Option.map_some]
  have hown : (resolver.contextFor ambient explicit).get? merged.name = some merged :=
    (hmergedKeyed.get?_eq_some_iff merged).mpr hmember
  refine ⟨merged.name, ?_, ?_, ?_⟩
  · rw [← spelling?_contextFor, hspelling]
  · rw [ContextSet.lookup?_dotted hmergedKeyed hmergedPlain (hmergedPlain merged hmember).2,
      if_pos (by rw [ContextSet.spelling?, hown, Option.map_some]), hown, Option.bind_some,
      hproperty]
  · rw [ContextSet.lookup?_dotted hmergedKeyed hmergedPlain hname, hspelling, hmerged,
      Option.bind_some, hproperty]
    simp only [Option.some.injEq]

/-- The set in which the user has a plan, under a spelling of `user`. -/
def userPlan (name plan : String) : ContextSet :=
  .ofList [(Context.empty name).set "plan" (.string plan)]

/-- A client whose settings write the name of the user with a capital letter. -/
def capitalized : Resolver := (start .empty .empty (userPlan "User" "free")).run [.update]

theorem keyed_capitalized :
    ∀ layer ∈ capitalized.layers .empty (userPlan "user" "pro"), layer.Keyed := by
  have hcontexts : KeyedContexts capitalized :=
    (keyedContexts_start .empty .empty (ContextSet.keyed_ofList _)).run (by simp)
  simp only [layers, List.forall_mem_cons]
  exact ⟨hcontexts.publishedDefault, hcontexts.publishedGlobals, ContextSet.keyed_empty,
    ContextSet.keyed_ofList _, by simp⟩

theorem plain_capitalized :
    ∀ layer ∈ capitalized.layers .empty (userPlan "user" "pro"), layer.Plain := by
  decide +kernel

theorem lookup?_explicit_capitalized :
    (capitalized.contextFor .empty (userPlan "user" "pro")).lookup? "User.plan" =
      some (.string "pro") ∧
    (capitalized.contextFor .empty (userPlan "user" "pro")).lookup? "user.plan" = none := by
  have hcontext : (Context.empty "user").set "plan" (.string "pro") ∈
      (userPlan "user" "pro").toList := List.mem_cons_self
  have hplan : ((Context.empty "user").set "plan" (.string "pro")).get? "plan" =
      some (.string "pro") := rfl
  obtain ⟨spelling, hspelling, hfound, hhidden⟩ :=
    lookup?_explicit capitalized .empty (userPlan "user" "pro") keyed_capitalized
      plain_capitalized hcontext hplan
  have hcapital : spelling = "User" := (Option.some.inj hspelling).symm
  subst hcapital
  exact ⟨hfound, hhidden⟩

/-- The caller's plan is lost to rules for `user.plan` where the settings write `User`. -/
theorem settings_hide_explicit :
    (∀ layer ∈ capitalized.layers .empty (userPlan "user" "pro"), layer.Keyed ∧ layer.Plain ∧
      ∀ context ∈ layer.toList, ∀ property ∈ context.properties.keys, '.' ∉ property.toList) ∧
    ∃ context ∈ (userPlan "user" "pro").toList,
      context.name = "user" ∧ context.get? "plan" = some (.string "pro") ∧
        (capitalized.contextFor .empty (userPlan "user" "pro")).lookup? "user.plan" ≠
          some (.string "pro") := by
  have hdotless : ∀ layer ∈ capitalized.layers .empty (userPlan "user" "pro"),
      ∀ context ∈ layer.toList, ∀ property ∈ context.properties.keys, '.' ∉ property.toList := by
    decide +kernel
  refine ⟨?_, (Context.empty "user").set "plan" (.string "pro"), List.mem_cons_self, rfl, rfl, ?_⟩
  · intro layer hlayer
    exact ⟨keyed_capitalized layer hlayer, plain_capitalized layer hlayer, hdotless layer hlayer⟩
  · have hnone : (capitalized.contextFor .empty (userPlan "user" "pro")).lookup? "user.plan" =
        none := rfl
    rw [hnone]
    simp

end Resolver
end LiveConfig
