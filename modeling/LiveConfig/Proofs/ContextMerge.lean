import LiveConfig.Proofs.ConfigRecords
import LiveConfig.Proofs.ContextLayers

/-!
# Merging context sets

A merge works at each name up to case and at each property by itself: the name is spelled
as in the lower set if that has the context (`ContextSet.spelling?_merge`), and the value
is that of the upper set if that has the property (`ContextSet.value?_merge`).  Both say
which of two answers counts, so any number of layers are merged as they are searched: from
the lowest up for the spelling, from the topmost down for the value
(`ContextSet.overlays_foldl_merge`).

No more is known of a set whose contexts stand under their own names than how it spells
names and which values it has (`ContextSet.Keyed.ext`).  Every set that can be built is of
this kind (`ContextSet.Built.keyed`), so the layers determine their merge.
-/

namespace LiveConfig

namespace Context

theorem ext_get? {a b : Context} (hname : a.name = b.name)
    (hget : ∀ property, a.get? property = b.get? property) : a = b := by
  cases a
  cases b
  have hproperties := KeyMap.ext_get? hget
  cases hname
  cases hproperties
  rfl

theorem overlay_assoc (a b c : Context) :
    (a.overlay b).overlay c = a.overlay (b.overlay c) := by
  apply ext_get?
  · rfl
  · intro property
    simp only [get?_overlay, Option.or_assoc]

theorem overlay_self (a : Context) : a.overlay a = a := by
  apply ext_get?
  · rfl
  · intro property
    rw [get?_overlay, Option.or_self]

instance : Std.Associative overlay := ⟨overlay_assoc⟩

instance : Std.IdempotentOp overlay := ⟨overlay_self⟩

/-- Whether all values of the context satisfy a condition. -/
def All (p : Value → Prop) (context : Context) : Prop :=
  ∀ property value, context.get? property = some value → p value

variable {p : Value → Prop}

theorem all_empty (name : String) : (empty name).All p := by
  intro property value hget
  cases hget

theorem All.set {context : Context} {property : String} {value : Value} (h : context.All p)
    (hvalue : p value) : (context.set property value).All p := by
  intro other result hget
  rw [Context.get?, Context.set, KeyMap.get?_insert] at hget
  split at hget
  · cases hget
    exact hvalue
  · exact h other result hget

theorem All.overlay {lower upper : Context} (hlower : lower.All p) (hupper : upper.All p) :
    (lower.overlay upper).All p := by
  intro property value hget
  rw [get?_overlay, Option.or_eq_some_iff] at hget
  rcases hget with hget | ⟨-, hget⟩
  · exact hupper property value hget
  · exact hlower property value hget

end Context

namespace ContextSet

/-! ## Laws of merging -/

theorem ext_get? {a b : ContextSet}
    (h : ∀ key, a.contexts.get? key = b.contexts.get? key) : a = b := by
  have hcontexts := KeyMap.ext_get? h
  cases a
  cases b
  cases hcontexts
  rfl

theorem merge_assoc (a b c : ContextSet) : (a.merge b).merge c = a.merge (b.merge c) := by
  apply ext_get?
  intro key
  simp only [get?_merge]
  exact Std.Associative.assoc _ _ _

theorem merge_self (a : ContextSet) : a.merge a = a := by
  apply ext_get?
  intro key
  rw [get?_merge]
  exact Std.IdempotentOp.idempotent _

theorem merge_empty (a : ContextSet) : a.merge empty = a := by
  apply ext_get?
  intro key
  rw [get?_merge, empty, KeyMap.get?_empty, Option.merge_none_right]

theorem empty_merge (a : ContextSet) : empty.merge a = a := by
  apply ext_get?
  intro key
  rw [get?_merge, empty, KeyMap.get?_empty, Option.merge_none_left]

/-! ## Values by name and property -/

/-- The value of a property in the context of a name up to case. -/
def value? (set : ContextSet) (name property : String) : Option Value :=
  (set.get? name).bind (·.get? property)

theorem value?_merge (set upper : ContextSet) (name property : String) :
    (set.merge upper).value? name property =
      (upper.value? name property).or (set.value? name property) := by
  unfold value? get?
  rw [get?_merge]
  cases set.contexts.get? (Unicode.lower name) with
  | none => simp
  | some lower =>
      cases upper.contexts.get? (Unicode.lower name) with
      | none => simp
      | some other => exact Context.get?_overlay lower other property

theorem isSome_spelling? (set : ContextSet) (name : String) :
    (set.spelling? name).isSome = (set.get? name).isSome := by
  rw [spelling?, Option.isSome_map]

theorem Keyed.spelling?_of_get? {set : ContextSet} (h : set.Keyed) {key : String}
    {context : Context} (hget : set.contexts.get? key = some context) :
    set.spelling? context.name = some context.name ∧
      ∀ property, set.value? context.name property = context.get? property := by
  have hown : set.get? context.name = some context := by
    rw [get?, ← h key context hget, hget]
  constructor
  · rw [spelling?, hown, Option.map_some]
  · intro property
    rw [value?, hown, Option.bind_some]

theorem Keyed.get?_of_same {a b : ContextSet} (ha : a.Keyed)
    (hspelling : ∀ name, a.spelling? name = b.spelling? name)
    (hvalue : ∀ name property, a.value? name property = b.value? name property)
    {key : String} {context : Context} (hget : a.contexts.get? key = some context) :
    b.contexts.get? key = some context := by
  obtain ⟨hname, hvalues⟩ := ha.spelling?_of_get? hget
  rw [hspelling, spelling?, Option.map_eq_some_iff] at hname
  obtain ⟨other, hother, hsame⟩ := hname
  have hequal : other = context := by
    apply Context.ext_get? hsame
    intro property
    rw [← hvalues property, hvalue, value?, hother, Option.bind_some]
  rw [ha key context hget, ← hequal, hequal]
  rwa [get?, hequal] at hother

theorem Keyed.ext {a b : ContextSet} (ha : a.Keyed) (hb : b.Keyed)
    (hspelling : ∀ name, a.spelling? name = b.spelling? name)
    (hvalue : ∀ name property, a.value? name property = b.value? name property) :
    a = b := by
  apply ext_get?
  intro key
  apply Option.ext
  intro context
  constructor
  · exact ha.get?_of_same hspelling hvalue
  · exact hb.get?_of_same (fun name => (hspelling name).symm)
      fun name property => (hvalue name property).symm

/-! ## Layers -/

theorem value?_foldl_merge (layers : List ContextSet) (set : ContextSet)
    (name property : String) :
    (layers.foldl merge set).value? name property =
      (layers.reverse.findSome? (·.value? name property)).or (set.value? name property) := by
  induction layers generalizing set with
  | nil => simp
  | cons layer rest ih =>
      rw [List.foldl_cons, ih, value?_merge, ← Option.or_assoc, List.reverse_cons,
        List.findSome?_append, List.findSome?_singleton]

/-- What a set is like that shows layers lying upon one another, the lowest first: it has
the contexts of all layers and in each of them the properties of all layers, names a
context as the lowest layer does that has it, and takes a value from the topmost layer
that has it. -/
structure Overlays (layers : List ContextSet) (set : ContextSet) : Prop where
  keyed : set.Keyed
  names : ∀ name, (set.get? name).isSome ↔ ∃ layer ∈ layers, (layer.get? name).isSome
  spelling : ∀ name, set.spelling? name = layers.findSome? (·.spelling? name)
  properties : ∀ name property, (set.value? name property).isSome ↔
    ∃ layer ∈ layers, (layer.value? name property).isSome
  values : ∀ name property,
    set.value? name property = layers.reverse.findSome? (·.value? name property)

theorem overlays_foldl_merge {layers : List ContextSet}
    (h : ∀ layer ∈ layers, layer.Keyed) : Overlays layers (layers.foldl merge empty) := by
  have hspelling : ∀ name, (layers.foldl merge empty).spelling? name =
      layers.findSome? (·.spelling? name) := by
    intro name
    rw [spelling?_foldl_merge]
    rfl
  have hvalues : ∀ name property, (layers.foldl merge empty).value? name property =
      layers.reverse.findSome? (·.value? name property) := by
    intro name property
    rw [value?_foldl_merge]
    exact Option.or_none
  refine ⟨keyed_foldl_merge keyed_empty h, ?_, hspelling, ?_, hvalues⟩
  · intro name
    rw [← isSome_spelling?, hspelling, List.findSome?_isSome_iff]
    simp only [isSome_spelling?]
  · intro name property
    rw [hvalues, List.findSome?_isSome_iff]
    simp only [List.mem_reverse]

theorem Overlays.unique {layers : List ContextSet} {a b : ContextSet}
    (ha : Overlays layers a) (hb : Overlays layers b) : a = b := by
  apply ha.keyed.ext hb.keyed
  · intro name
    rw [ha.spelling, hb.spelling]
  · intro name property
    rw [ha.values, hb.values]

/-- The layers of one evaluation, the lowest first. -/
def layers (server : Option ContextSet) (globals ambient explicit : ContextSet) :
    List ContextSet :=
  server.toList ++ [globals, ambient, explicit]

theorem layered_eq_foldl (server : Option ContextSet) (globals ambient explicit : ContextSet) :
    layered server globals ambient explicit =
      (layers server globals ambient explicit).foldl merge empty := by
  cases server with
  | none => rfl
  | some set =>
      change ((set.merge globals).merge ambient).merge explicit =
        (((empty.merge set).merge globals).merge ambient).merge explicit
      rw [empty_merge]

/-! ## Sets that can be built -/

/-- The sets that come about from nothing by adding contexts, by merging, and by reading
a parsed document or a part of one. -/
inductive Built : ContextSet → Prop
  | empty : Built empty
  | add {set : ContextSet} {context : Context} (hset : Built set)
      (hcontext : context.All Value.Valid) : Built (set.add context)
  | merge {set upper : ContextSet} (hset : Built set) (hupper : Built upper) :
      Built (set.merge upper)
  | read {level : Nat} {document : Document} {set : ContextSet}
      (hnested : document.Nested level) (hread : ofDocument? document = some set) : Built set

theorem Built.keyed {set : ContextSet} (h : set.Built) : set.Keyed := by
  induction h with
  | empty => exact keyed_empty
  | add _ _ ih => exact ih.add _
  | merge _ _ hset hupper => exact hset.merge hupper
  | read _ hread => exact keyed_ofDocument? hread

/-- The layers of an evaluation lie upon one another in their merge and in no other set.
Merging is associative and idempotent, the empty set is neutral, and the contexts of every
set that is built stand under their own names in lower case. -/
theorem layered_property_by_property :
    (∀ (server : Option ContextSet) (globals ambient explicit : ContextSet),
      (∀ layer ∈ layers server globals ambient explicit, layer.Built) →
        ∀ set, Overlays (layers server globals ambient explicit) set ↔
          set = layered server globals ambient explicit) ∧
    (∀ a b c : ContextSet, (a.merge b).merge c = a.merge (b.merge c)) ∧
    (∀ a : ContextSet, a.merge a = a ∧ a.merge empty = a ∧ empty.merge a = a) ∧
    (∀ a b : ContextSet, a.Keyed → b.Keyed → (a.merge b).Keyed) ∧
    ∀ set : ContextSet, set.Built → set.Keyed := by
  refine ⟨?_, merge_assoc, ?_, ?_, ?_⟩
  · intro server globals ambient explicit hbuilt set
    have hoverlays := overlays_foldl_merge fun layer hlayer => (hbuilt layer hlayer).keyed
    rw [layered_eq_foldl]
    constructor
    · intro hset
      exact hset.unique hoverlays
    · intro hset
      rw [hset]
      exact hoverlays
  · intro a
    exact ⟨merge_self a, merge_empty a, empty_merge a⟩
  · intro a b ha hb
    exact ha.merge hb
  · intro set hset
    exact hset.keyed

/-- The set of one context with one property. -/
def single (name property text : String) : ContextSet :=
  empty.add ((Context.empty name).set property (.string text))

theorem built_single (name property text : String) : (single name property text).Built :=
  .add .empty ((Context.all_empty name).set trivial)

/-- A user whose name is written in three ways. -/
def spelledInThreeWays : ContextSet :=
  layered (some (single "User" "plan" "free")) (single "user" "plan" "pro") empty
    (single "USER" "region" "eu")

theorem layered_property_by_property_user :
    (∀ layer ∈ layers (some (single "User" "plan" "free")) (single "user" "plan" "pro") empty
      (single "USER" "region" "eu"), layer.Built) ∧
    spelledInThreeWays.spelling? "user" = some "User" ∧
    spelledInThreeWays.value? "user" "plan" = some (.string "pro") ∧
    spelledInThreeWays.value? "user" "region" = some (.string "eu") := by
  have hbuilt : ∀ layer ∈ layers (some (single "User" "plan" "free")) (single "user" "plan" "pro")
      empty (single "USER" "region" "eu"), layer.Built := by
    simp only [layers, Option.toList_some, List.singleton_append, List.forall_mem_cons]
    exact ⟨built_single _ _ _, built_single _ _ _, .empty, built_single _ _ _, by simp⟩
  have hoverlays : Overlays _ spelledInThreeWays :=
    (layered_property_by_property.1 _ _ _ _ hbuilt _).mpr rfl
  refine ⟨hbuilt, ?_, ?_, ?_⟩
  · rw [hoverlays.spelling]
    rfl
  · rw [hoverlays.values]
    rfl
  · rw [hoverlays.values]
    rfl

end ContextSet
end LiveConfig
