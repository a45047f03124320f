import LiveConfig.Proofs.LocalLayers
import Mathlib.Data.List.Forall2

/-!
# The criteria of local flags

A flag among the local values supplies its criteria by the items of its member `criteria`:
by none, by a single object, or by those of a list.  A criterion is what the members of an
object say (`Criterion.DescribedBy`), and an object that describes none is a fault of the
whole layer.  Items of a list that are no objects are passed over: a loaded flag has the
criteria of the objects, in their order, and so one for each item exactly if all items are
objects (`LocalValues.flag_criteria_of_objects`).
-/

namespace LiveConfig

theorem mapM_eq_ok_iff {f : α → Except ε β} {xs : List α} {ys : List β} :
    xs.mapM f = .ok ys ↔ List.Forall₂ (fun x y => f x = .ok y) xs ys := by
  constructor
  · intro h
    induction xs generalizing ys with
    | nil =>
        cases h
        exact .nil
    | cons x xs ih =>
        rw [List.mapM_cons] at h
        obtain ⟨y, hy, h⟩ := exists_of_bind_eq_ok h
        obtain ⟨rest, hrest, h⟩ := exists_of_bind_eq_ok h
        cases h
        exact .cons hy (ih hrest)
  · intro h
    induction h with
    | nil => rfl
    | cons hy _ ih =>
        rw [List.mapM_cons, hy, ih]
        rfl

theorem exists_of_forall₂_of_mem {R : α → β → Prop} {xs : List α} {ys : List β}
    (h : List.Forall₂ R xs ys) {x : α} (hx : x ∈ xs) : ∃ y ∈ ys, R x y := by
  induction h with
  | nil => cases hx
  | cons hfirst _ ih =>
      rcases List.mem_cons.mp hx with rfl | hx
      · exact ⟨_, List.mem_cons_self, hfirst⟩
      · obtain ⟨y, hy, hrelated⟩ := ih hx
        exact ⟨y, List.mem_cons_of_mem _ hy, hrelated⟩

def Json.members? : Json → Option (List (String × Json))
  | obj members => some members
  | _ => none

/-- Whether a criterion is what the members of an object say, in a flag of that key. -/
structure Criterion.DescribedBy (key : String) (members : List (String × Json))
    (criterion : Criterion) : Prop where
  operator : (members.lookup "operator").bind
    (fun json => json.toDocument.plainChoice?.bind Operator.ofName?) = some criterion.operator
  property : members.lookup "property" = criterion.property.map .str
  /-- The property that the operator looks at is named. -/
  named : criterion.operator.readsProperty = true → criterion.property.isSome = true
  target : ∃ values target, members.lookup "values" = some values ∧
    Value.ofLocal key values = .ok target ∧ criterion.target = some target

namespace LocalValues

variable {key : String} {members : List (String × Json)}

/-! ## One criterion -/

theorem describedBy_of_criterion {result : Criterion} (h : criterion key members = .ok result) :
    result.DescribedBy key members := by
  unfold criterion at h
  simp only [bind, Except.bind, pure, Except.pure, throw, throwThe, MonadExceptOf.throw] at h
  repeat' split at h
  -- only the two branches without a fault are left, with and without a property
  all_goals try (simp at h; done)
  · rename_i op hop _ property hproperty _ values hvalues _ target htarget
    cases h
    exact ⟨by simp [*], hproperty, fun _ => rfl, values, target, hvalues, htarget, rfl⟩
  · rename_i op hop _ hproperty hreads _ values hvalues _ target htarget
    cases h
    exact ⟨by simp [*], hproperty, fun h => absurd h hreads, values, target, hvalues, htarget, rfl⟩

theorem criterion_of_describedBy {result : Criterion} (h : result.DescribedBy key members) :
    criterion key members = .ok result := by
  obtain ⟨hoperator, hproperty, hnamed, values, target, hvalues, htarget, hresult⟩ := h
  obtain ⟨json, hjson, hop⟩ := Option.bind_eq_some_iff.mp hoperator
  obtain ⟨property, op, _⟩ := result
  subst hresult
  unfold criterion
  cases property with
  | some property => simp [*, bind, Except.bind, pure, Except.pure]
  | none =>
      have hreads : op.readsProperty = false := by simpa using hnamed
      simp [*, bind, Except.bind, pure, Except.pure]

theorem criterion_eq_ok_iff {result : Criterion} :
    criterion key members = .ok result ↔ result.DescribedBy key members :=
  ⟨describedBy_of_criterion, criterion_of_describedBy⟩

/-! ## The criteria of a flag -/

/-- The items that a member `criteria` supplies criteria by. -/
def criteriaItems? : Option Json → Option (List Json)
  | none | some .null => some []
  | some (.obj members) => some [.obj members]
  | some (.arr items) => some items
  | some _ => none

/-- The criteria are those that the objects among the items describe, in their order. -/
def FromObjects (key : String) (items : List Json) (criteria : List Criterion) : Prop :=
  List.Forall₂ (fun members criterion => criterion.DescribedBy key members)
    (items.filterMap Json.members?) criteria

/-- The criteria are those that the items describe, one for each. -/
def FromItems (key : String) (items : List Json) (criteria : List Criterion) : Prop :=
  List.Forall₂ (fun item criterion => ∃ members, item = .obj members ∧
    criterion.DescribedBy key members) items criteria

theorem criteria_eq_ok_iff {json : Option Json} {result : List Criterion} :
    criteria key json = .ok result ↔
      ∃ items, criteriaItems? json = some items ∧ FromObjects key items result := by
  have hread : ∀ objects : List (List (String × Json)),
      objects.mapM (criterion key) = .ok result ↔
        List.Forall₂ (fun members criterion => criterion.DescribedBy key members)
          objects result := by
    intro objects
    simp only [mapM_eq_ok_iff, criterion_eq_ok_iff]
  unfold criteria
  split
  · simp [criteriaItems?, FromObjects, eq_comm]
  · simp [criteriaItems?, FromObjects, eq_comm]
  · rename_i members
    have hone : (criterion key members).map (fun c => [c]) = .ok result ↔
        [members].mapM (criterion key) = .ok result := by
      cases hc : criterion key members <;>
        simp [hc, Except.map, bind, Except.bind, pure, Except.pure]
    rw [hone, hread]
    simp [criteriaItems?, FromObjects, Json.members?]
  · rename_i items
    simp only [criteriaItems?, Option.some.injEq, exists_eq_left', FromObjects]
    exact hread _
  · simp [criteriaItems?]

/-- No item is passed over exactly if all items are objects. -/
theorem fromItems_iff {items : List Json} {criteria : List Criterion}
    (h : FromObjects key items criteria) :
    FromItems key items criteria ↔ ∀ item ∈ items, ∃ members, item = .obj members := by
  constructor
  · intro hitems
    clear h
    induction hitems with
    | nil => simp
    | cons hfirst _ ih =>
        obtain ⟨members, hobject, -⟩ := hfirst
        exact List.forall_mem_cons.mpr ⟨⟨members, hobject⟩, ih⟩
  · intro hobjects
    induction items generalizing criteria with
    | nil =>
        cases h
        exact .nil
    | cons item rest ih =>
        rw [List.forall_mem_cons] at hobjects
        obtain ⟨⟨members, rfl⟩, hrest⟩ := hobjects
        have hcons : (Json.obj members :: rest).filterMap Json.members? =
            members :: rest.filterMap Json.members? := rfl
        rw [FromObjects, hcons, List.forall₂_cons_left_iff] at h
        obtain ⟨criterion, more, hfirst, hmore, rfl⟩ := h
        exact .cons ⟨members, rfl, hfirst⟩ (ih hmore hrest)

/-- A flag has one row, for every environment, with one conditional value. -/
theorem flag_eq_ok_iff {config : Config} :
    flag key members = .ok config ↔ ∃ json value items criteria,
      members.lookup "value" = some json ∧ Value.ofLocal key json = .ok value ∧
        criteriaItems? (members.lookup "criteria") = some items ∧
          FromObjects key items criteria ∧
            config = ⟨0, key, [⟨none, [⟨criteria, .value value⟩]⟩], .featureFlag, value.type⟩ := by
  unfold flag
  constructor
  · intro h
    split at h
    · rename_i json hjson
      obtain ⟨value, hvalue, h⟩ := exists_of_bind_eq_ok h
      obtain ⟨criteria, hcriteria, h⟩ := exists_of_bind_eq_ok h
      obtain ⟨items, hitems, hobjects⟩ := criteria_eq_ok_iff.mp hcriteria
      cases h
      exact ⟨json, value, items, criteria, hjson, hvalue, hitems, hobjects, rfl⟩
    · simp [throw, throwThe, MonadExceptOf.throw] at h
  · rintro ⟨json, value, items, criteria, hjson, hvalue, hitems, hobjects, rfl⟩
    have hcriteria := criteria_eq_ok_iff.mpr ⟨items, hitems, hobjects⟩
    simp [hjson, hvalue, hcriteria, bind, Except.bind, pure, Except.pure]

/-! ## Layers -/

/-- What a leaf adds to its layer, if it can be read. -/
def stored? (location : String) (leaf : String × Leaf) : Option (String × Element) :=
  (leaf.2.config leaf.1).toOption.map fun config =>
    (leaf.1, ⟨config, ⟨.localOnly, some location⟩⟩)

theorem stored?_of_config {location : String} {leaf : String × Leaf} {config : Config}
    (h : leaf.2.config leaf.1 = .ok config) :
    stored? location leaf = some (leaf.1, ⟨config, ⟨.localOnly, some location⟩⟩) := by
  rw [stored?, h]
  rfl

theorem key_of_mem_entries {location : String} {leaves : List (String × Leaf)}
    {entry : String × Element} (h : entry ∈ leaves.filterMap (stored? location)) :
    ∃ leaf ∈ leaves, leaf.1 = entry.1 := by
  obtain ⟨leaf, hleaf, hentry⟩ := List.mem_filterMap.mp h
  obtain ⟨config, -, rfl⟩ := Option.map_eq_some_iff.mp hentry
  exact ⟨leaf, hleaf, rfl⟩

/-- A layer loads exactly if all its leaves can be read. -/
theorem load_eq_ok_iff {location : String} {layer : KeyMap Element} :
    load members location = .ok layer ↔
      (∀ leaf ∈ layerLeaves members, ∃ config, leaf.2.config leaf.1 = .ok config) ∧
      layer = KeyMap.ofList ((layerLeaves members).filterMap (stored? location)) := by
  unfold load KeyMap.ofList
  generalize KeyMap.empty = map
  generalize layerLeaves members = leaves
  induction leaves generalizing map with
  | nil => simp [pure, Except.pure, eq_comm]
  | cons leaf rest ih =>
      rw [List.foldlM_cons, List.forall_mem_cons]
      cases hconfig : leaf.2.config leaf.1 with
      | error fault => simp [bind, Except.bind]
      | ok config =>
          have hnext := ih (map.insert leaf.1 ⟨config, ⟨.localOnly, some location⟩⟩)
          rw [List.filterMap_cons_some (stored?_of_config hconfig), List.foldl_cons]
          simpa [bind, Except.bind] using hnext

theorem exists_error_of_load {location : String} {leaf : String × Leaf}
    (hleaf : leaf ∈ layerLeaves members) (h : ∀ config, leaf.2.config leaf.1 ≠ .ok config) :
    ∃ error, load members location = .error error := by
  cases hload : load members location with
  | error error => exact ⟨error, rfl⟩
  | ok layer =>
      obtain ⟨config, hconfig⟩ := (load_eq_ok_iff.mp hload).1 leaf hleaf
      exact absurd hconfig (h config)

/-- Of the leaves with one key the last one counts. -/
theorem get?_of_load {location : String} {layer : KeyMap Element}
    (h : load members location = .ok layer) {before after : List (String × Leaf)}
    {leaf : String × Leaf} (hleaves : layerLeaves members = before ++ leaf :: after)
    (hlast : ∀ other ∈ after, other.1 ≠ leaf.1) {config : Config}
    (hconfig : leaf.2.config leaf.1 = .ok config) :
    layer.get? leaf.1 = some ⟨config, ⟨.localOnly, some location⟩⟩ := by
  have hafter : (after.filterMap (stored? location)).reverse.lookup leaf.1 = none := by
    rw [List.lookup_eq_none_iff]
    intro entry hentry
    obtain ⟨other, hother, hkey⟩ := key_of_mem_entries (List.mem_reverse.mp hentry)
    simpa [← hkey] using Ne.symm (hlast other hother)
  rw [(load_eq_ok_iff.mp h).2, KeyMap.get?_ofList, hleaves, List.filterMap_append,
    List.filterMap_cons_some (stored?_of_config hconfig), List.reverse_append, List.reverse_cons,
    List.append_assoc, List.lookup_append, hafter]
  simp

/-- Whether a configuration has one conditional value, for every environment, with criteria
that are made of the items which a flag supplies. -/
def HasCriteria (made : String → List Json → List Criterion → Prop) (key : String)
    (members : List (String × Json)) (config : Config) : Prop :=
  ∃ items criteria value, criteriaItems? (members.lookup "criteria") = some items ∧
    config.rows = [⟨none, [⟨criteria, .value value⟩]⟩] ∧ made key items criteria

theorem hasCriteria_of_flag {config : Config} (h : flag key members = .ok config) :
    HasCriteria FromObjects key members config ∧
      (HasCriteria FromItems key members config ↔
        ∀ items, criteriaItems? (members.lookup "criteria") = some items →
          ∀ item ∈ items, ∃ object, item = .obj object) := by
  obtain ⟨json, value, items, criteria, -, -, hitems, hobjects, rfl⟩ := flag_eq_ok_iff.mp h
  refine ⟨⟨items, criteria, value, hitems, rfl, hobjects⟩, ?_⟩
  constructor
  · rintro ⟨_, _, _, hsame, hrows, hmade⟩ _ hsupplied
    cases hitems.symm.trans hsame
    cases hitems.symm.trans hsupplied
    cases hrows
    exact (fromItems_iff hobjects).mp hmade
  · intro hall
    exact ⟨items, criteria, value, hitems, rfl, (fromItems_iff hobjects).mpr (hall items hitems)⟩

/-- In a layer that loads, every flag has the criteria that the objects it supplies describe,
and one for each item exactly if all items are objects.  A layer does not load if some flag
supplies an object that describes no criterion, or neither an object nor a list. -/
theorem flag_criteria_of_objects (members : List (String × Json)) (location : String) :
    (∀ layer, load members location = .ok layer →
      ∀ key flag, (key, .flag flag) ∈ layerLeaves members → ∃ config,
        HasCriteria FromObjects key flag config ∧
        (HasCriteria FromItems key flag config ↔
          ∀ items, criteriaItems? (flag.lookup "criteria") = some items →
            ∀ item ∈ items, ∃ object, item = .obj object) ∧
        ∀ before after, layerLeaves members = before ++ (key, .flag flag) :: after →
          (∀ other ∈ after, other.1 ≠ key) →
            layer.get? key = some ⟨config, ⟨.localOnly, some location⟩⟩) ∧
    (∀ key flag, (key, .flag flag) ∈ layerLeaves members →
      (∀ items, criteriaItems? (flag.lookup "criteria") = some items →
        ∃ object, .obj object ∈ items ∧ ∀ criterion, ¬ Criterion.DescribedBy key object criterion) →
      ∃ error, load members location = .error error) := by
  constructor
  · intro layer hload key flag hleaf
    obtain ⟨config, hconfig⟩ := (load_eq_ok_iff.mp hload).1 _ hleaf
    obtain ⟨hobjects, hitems⟩ := hasCriteria_of_flag hconfig
    refine ⟨config, hobjects, hitems, ?_⟩
    intro before after hleaves hlast
    exact get?_of_load hload hleaves hlast hconfig
  · intro key flag hleaf hfault
    apply exists_error_of_load hleaf
    intro config hconfig
    obtain ⟨_, _, items, criteria, -, -, hitems, hobjects, -⟩ := flag_eq_ok_iff.mp hconfig
    obtain ⟨object, hobject, hnone⟩ := hfault items hitems
    have hmem : object ∈ items.filterMap Json.members? :=
      List.mem_filterMap.mpr ⟨.obj object, hobject, rfl⟩
    obtain ⟨criterion, -, hdescribed⟩ := exists_of_forall₂_of_mem hobjects hmem
    exact hnone criterion hdescribed

def planMembers : List (String × Json) :=
  [("operator", .str "PROP_IS_ONE_OF"), ("property", .str "user.plan"),
    ("values", .arr [.str "pro"])]

/-- A list of a criterion and a text. -/
def mixedFlag : List (String × Json) :=
  [("criteria", .arr [.obj planMembers, .str "staff only"]),
    ("feature_flag", .bool true), ("value", .bool true)]

/-- A criterion without values. -/
def hollowFlag : List (String × Json) :=
  [("criteria", .obj [("operator", .str "ALWAYS_TRUE")]),
    ("feature_flag", .bool true), ("value", .bool true)]

theorem describedBy_planMembers :
    Criterion.DescribedBy "beta" planMembers
      ⟨some "user.plan", .propIsOneOf, some (.stringList ["pro"])⟩ := by
  constructor
  case operator =>
    change Operator.ofName? "PROP_IS_ONE_OF" = some .propIsOneOf
    decide +kernel
  case property => rfl
  case named => exact fun _ => rfl
  case target => exact ⟨.arr [.str "pro"], .stringList ["pro"], rfl, rfl, rfl⟩

theorem exists_load_mixedFlag :
    ∃ layer, load [("beta", .obj mixedFlag)] "baseline" = .ok layer := by
  have hobjects : FromObjects "beta" [.obj planMembers, .str "staff only"] [_] :=
    .cons describedBy_planMembers .nil
  have hflag : flag "beta" mixedFlag = .ok _ :=
    flag_eq_ok_iff.mpr ⟨.bool true, .bool true, _, _, rfl, rfl, rfl, hobjects, rfl⟩
  refine ⟨_, load_eq_ok_iff.mpr ⟨?_, rfl⟩⟩
  intro leaf hleaf
  have hsame : leaf = ("beta", .flag mixedFlag) := List.mem_singleton.mp hleaf
  rw [hsame]
  exact ⟨_, hflag⟩

theorem flag_criteria_of_objects_mixed :
    (∃ layer config, load [("beta", .obj mixedFlag)] "baseline" = .ok layer ∧
      layer.get? "beta" = some ⟨config, ⟨.localOnly, some "baseline"⟩⟩ ∧
      HasCriteria FromObjects "beta" mixedFlag config ∧
      ¬ HasCriteria FromItems "beta" mixedFlag config) ∧
    ∃ error, load [("beta", .obj hollowFlag)] "baseline" = .error error := by
  constructor
  · obtain ⟨layer, hload⟩ := exists_load_mixedFlag
    obtain ⟨config, hobjects, hitems, hlast⟩ :=
      (flag_criteria_of_objects [("beta", .obj mixedFlag)] "baseline").1 layer hload "beta"
        mixedFlag (by simp [layerLeaves, leaves, isFlag, flagMember, mixedFlag])
    refine ⟨layer, config, hload, hlast [] [] rfl (by simp), hobjects, ?_⟩
    rw [hitems]
    intro hall
    obtain ⟨object, hobject⟩ := hall _ rfl (.str "staff only") (by simp)
    cases hobject
  · apply (flag_criteria_of_objects [("beta", .obj hollowFlag)] "baseline").2 "beta" hollowFlag
      (by simp [layerLeaves, leaves, isFlag, flagMember, hollowFlag])
    rintro items ⟨⟩
    refine ⟨_, List.mem_cons_self, ?_⟩
    intro criterion hdescribed
    obtain ⟨values, -, hvalues, -⟩ := hdescribed.target
    cases hvalues

/-- A flag whose only criterion is a text. -/
def staffFlag : List (String × Json) :=
  [("criteria", .arr [.str "staff only"]), ("feature_flag", .bool true), ("value", .bool true)]

/-- It loads as a flag without criteria, which is on for everyone. -/
theorem text_for_criterion_is_dropped :
    ∃ layer config, load [("beta", .obj staffFlag)] "baseline" = .ok layer ∧
      layer.get? "beta" = some ⟨config, ⟨.localOnly, some "baseline"⟩⟩ ∧
      config.rows = [⟨none, [⟨[], .value (.bool true)⟩]⟩] ∧
      criteriaItems? (staffFlag.lookup "criteria") = some [.str "staff only"] ∧
      ¬ HasCriteria FromItems "beta" staffFlag config := by
  refine ⟨_, ⟨0, "beta", [⟨none, [⟨[], .value (.bool true)⟩]⟩], .featureFlag, some .bool⟩,
    rfl, rfl, rfl, rfl, ?_⟩
  rintro ⟨items, criteria, value, hitems, -, hmade⟩
  cases hitems
  cases hmade with
  | cons hfirst _ =>
      obtain ⟨object, hobject, -⟩ := hfirst
      cases hobject

end LocalValues
end LiveConfig
