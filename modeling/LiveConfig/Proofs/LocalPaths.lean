import LiveConfig.Proofs.LocalFlags

/-!
# The leaves of a layer by their paths

A leaf of a nested object is what is no object, or an object with a member `feature_flag`
(`Json.LeadsTo`).  Its key is its path joined by dots, without the members `_` below the
top (`LocalValues.pathKey`), so different leaves may have one key.

A layer is refused exactly if one of its leaves is (`LocalValues.Refused`), and then with
the first one that is.  Otherwise each key has what the last of its leaves stands for
(`LocalValues.load_flattens`).
-/

namespace LiveConfig

/-- What is no object, or an object with a member `feature_flag`. -/
def Json.IsLeaf (json : Json) : Prop :=
  ∀ members, json = .obj members → "feature_flag" ∈ members.map (·.1)

/-- Whether a path of member names leads from a value down to one of its leaves. -/
inductive Json.LeadsTo : Json → List String → Json → Prop
  | here {json : Json} (hleaf : json.IsLeaf) : LeadsTo json [] json
  | member {members : List (String × Json)} {name : String} {json leaf : Json}
      {path : List String} (hinner : "feature_flag" ∉ members.map (·.1))
      (hmember : (name, json) ∈ members) (hpath : json.LeadsTo path leaf) :
      LeadsTo (.obj members) (name :: path) leaf

/-- Whether a path leads from one of the members down to a leaf. -/
def Json.MembersLeadTo (members : List (String × Json)) (path : List String) (leaf : Json) :
    Prop :=
  ∃ name json rest, (name, json) ∈ members ∧ path = name :: rest ∧ json.LeadsTo rest leaf

theorem Json.leadsTo_of_plain {json leaf : Json} {path : List String}
    (h : ∀ members, json ≠ .obj members) : json.LeadsTo path leaf ↔ path = [] ∧ leaf = json := by
  constructor
  · intro hpath
    cases hpath with
    | here => exact ⟨rfl, rfl⟩
    | member => exact absurd rfl (h _)
  · rintro ⟨rfl, rfl⟩
    exact .here fun members heq => absurd heq (h members)

theorem Json.leadsTo_of_flag {members : List (String × Json)} {leaf : Json} {path : List String}
    (h : "feature_flag" ∈ members.map (·.1)) :
    (obj members).LeadsTo path leaf ↔ path = [] ∧ leaf = .obj members := by
  constructor
  · intro hpath
    cases hpath with
    | here => exact ⟨rfl, rfl⟩
    | member hinner => exact absurd h hinner
  · rintro ⟨rfl, rfl⟩
    refine .here fun _ heq => ?_
    cases heq
    exact h

theorem Json.leadsTo_of_inner {members : List (String × Json)} {leaf : Json}
    {path : List String} (h : "feature_flag" ∉ members.map (·.1)) :
    (obj members).LeadsTo path leaf ↔ MembersLeadTo members path leaf := by
  constructor
  · intro hpath
    cases hpath with
    | here hleaf => exact absurd (hleaf members rfl) h
    | member _ hmember hrest => exact ⟨_, _, _, hmember, rfl, hrest⟩
  · rintro ⟨name, json, rest, hmember, rfl, hrest⟩
    exact .member h hmember hrest

namespace LocalValues

variable {members : List (String × Json)} {key location : String}

mutual

/-- The leaves of a value in order, each behind the path that leads to it. -/
def paths : Json → List (List String × Json)
  | .obj members => if isFlag members then [([], .obj members)] else memberPaths members
  | json => [([], json)]

def memberPaths : List (String × Json) → List (List String × Json)
  | [] => []
  | (name, json) :: rest => (paths json).map (fun e => (name :: e.1, e.2)) ++ memberPaths rest

end

/-- The key of a leaf: its path joined by dots, without the members `_` below the top. -/
def pathKey : List String → String
  | [] => ""
  | top :: below => String.intercalate "." (top :: below.filter (· ≠ "_"))

def leafOf : Json → Leaf
  | .obj members => .flag members
  | json => .plain json

theorem leafOf_of_plain {json : Json} (h : ∀ members, json ≠ .obj members) :
    leafOf json = .plain json := by
  cases json with
  | obj members => exact absurd rfl (h members)
  | _ => rfl

theorem isFlag_iff : isFlag members = true ↔ "feature_flag" ∈ members.map (·.1) := by
  rw [isFlag, flagMember]
  induction members with
  | nil => simp
  | cons member rest ih =>
      rw [KeyMap.lookup_cons_ite, List.map_cons, List.mem_cons]
      split
      · simp_all
      · simp_all

/-! ## Paths and keys -/

mutual

theorem mem_paths_iff : ∀ (json : Json) (path : List String) (leaf : Json),
    (path, leaf) ∈ paths json ↔ json.LeadsTo path leaf
  | .obj members, path, leaf => by
      rw [paths]
      by_cases hflag : "feature_flag" ∈ members.map (·.1)
      · rw [if_pos (isFlag_iff.mpr hflag), Json.leadsTo_of_flag hflag]
        simp
      · rw [if_neg fun h => hflag (isFlag_iff.mp h), Json.leadsTo_of_inner hflag]
        exact mem_memberPaths_iff members path leaf
  | .null, path, leaf | .bool _, path, leaf | .int _, path, leaf | .float _, path, leaf
  | .str _, path, leaf | .arr _, path, leaf => by
      rw [Json.leadsTo_of_plain (by simp)]
      simp [paths]

theorem mem_memberPaths_iff : ∀ (members : List (String × Json)) (path : List String)
    (leaf : Json), (path, leaf) ∈ memberPaths members ↔ Json.MembersLeadTo members path leaf
  | [], path, leaf => by simp [memberPaths, Json.MembersLeadTo]
  | (name, json) :: others, path, leaf => by
      rw [memberPaths, List.mem_append, mem_memberPaths_iff others path leaf, List.mem_map]
      constructor
      · rintro (⟨⟨rest, leaf⟩, hrest, heq⟩ | ⟨name', json', rest, hmember, hpath⟩)
        · cases heq
          exact ⟨name, json, rest, List.mem_cons_self, rfl, (mem_paths_iff json rest leaf).mp hrest⟩
        · exact ⟨name', json', rest, List.mem_cons_of_mem _ hmember, hpath⟩
      · rintro ⟨name', json', rest, hmember, hpath, hleads⟩
        rcases List.mem_cons.mp hmember with heq | hmember
        · cases heq
          exact .inl ⟨(rest, leaf), (mem_paths_iff json rest leaf).mpr hleads, by rw [hpath]⟩
        · exact .inr ⟨name', json', rest, hmember, hpath, hleads⟩

end

/-- A key that is carried along the path is in the end the path joined by dots. -/
theorem foldl_childKey (path : List String) (key : String) :
    path.foldl childKey key = String.intercalate "." (key :: path.filter (· ≠ "_")) := by
  induction path generalizing key with
  | nil => rfl
  | cons name rest ih =>
      rw [List.foldl_cons, ih, childKey, parentMember]
      by_cases hparent : name = "_"
      · simp [hparent]
      · rw [if_neg hparent, List.filter_cons_of_pos (by simpa using hparent)]
        rfl

mutual

theorem leaves_eq_paths : ∀ (key : String) (json : Json), leaves key json =
    (paths json).map fun e => (e.1.foldl childKey key, leafOf e.2)
  | key, .obj members => by
      rw [leaves, paths]
      split
      · rfl
      · exact memberLeaves_eq_paths key members
  | key, .null | key, .bool _ | key, .int _ | key, .float _ | key, .str _ | key, .arr _ => rfl

theorem memberLeaves_eq_paths : ∀ (key : String) (members : List (String × Json)),
    memberLeaves key members =
      (memberPaths members).map fun e => (e.1.foldl childKey key, leafOf e.2)
  | key, [] => rfl
  | key, (name, json) :: rest => by
      rw [memberLeaves, memberPaths, List.map_append, List.map_map,
        leaves_eq_paths (childKey key name) json, memberLeaves_eq_paths key rest]
      rfl

end

theorem layerLeaves_eq_paths (members : List (String × Json)) :
    layerLeaves members = (memberPaths members).map fun e => (pathKey e.1, leafOf e.2) := by
  induction members with
  | nil => rfl
  | cons member rest ih =>
      have hlayer : layerLeaves (member :: rest) =
          leaves member.1 member.2 ++ layerLeaves rest := rfl
      rw [hlayer, ih, leaves_eq_paths, memberPaths, List.map_append, List.map_map]
      simp only [foldl_childKey]
      rfl

/-! ## Leaves that are refused -/

/-- Whether a value cannot be supplied under a key: null, a list of other things than texts,
or where log levels are expected a text that names none. -/
inductive NoValue (key : String) : Json → Prop
  | null : NoValue key .null
  | list {items : List Json} {item : Json} (hitem : item ∈ items)
      (hother : ∀ text, item ≠ .str text) : NoValue key (.arr items)
  | level {text : String} (hkey : "log-level".toList <+: key.toList)
      (hname : LogLevel.ofText? text = none) : NoValue key (.str text)

/-- Whether the members of a flag do not make one. -/
inductive NoFlag (key : String) (members : List (String × Json)) : Prop
  | missing (hvalue : members.lookup "value" = none)
  | value {json : Json} (hvalue : members.lookup "value" = some json) (hnone : NoValue key json)
  | shape (hcriteria : criteriaItems? (members.lookup "criteria") = none)
  | criterion {items : List Json} {object : List (String × Json)}
      (hcriteria : criteriaItems? (members.lookup "criteria") = some items)
      (hobject : .obj object ∈ items)
      (hnone : ∀ criterion, ¬ Criterion.DescribedBy key object criterion)

/-- Whether a leaf cannot be read under its key. -/
inductive Refused (key : String) : Json → Prop
  | value {json : Json} (hnone : NoValue key json) : Refused key json
  | flag {members : List (String × Json)} (hnone : NoFlag key members) :
      Refused key (.obj members)

/-- The configuration that a leaf stands for under its key. -/
inductive Denotes (key : String) : Json → Config → Prop
  | value {json : Json} {value : Value} (hplain : ∀ members, json ≠ .obj members)
      (hvalue : Value.ofLocal key json = .ok value) :
      Denotes key json ⟨0, key, [⟨none, [⟨[], .value value⟩]⟩], .config, value.type⟩
  | flag {members : List (String × Json)} {json : Json} {value : Value} {items : List Json}
      {criteria : List Criterion} (hmember : members.lookup "value" = some json)
      (hvalue : Value.ofLocal key json = .ok value)
      (hitems : criteriaItems? (members.lookup "criteria") = some items)
      (hcriteria : FromObjects key items criteria) :
      Denotes key (.obj members)
        ⟨0, key, [⟨none, [⟨criteria, .value value⟩]⟩], .featureFlag, value.type⟩

theorem mapM_str?_eq_none_iff {items : List Json} :
    items.mapM Json.str? = none ↔ ∃ item ∈ items, ∀ text, item ≠ .str text := by
  induction items with
  | nil => simp
  | cons item rest ih =>
      rw [List.mapM_cons]
      cases item with
      | str text =>
          simp only [Json.str?, Option.bind_eq_bind, Option.bind_some]
          rw [Option.bind_eq_none_iff]
          simpa [Option.eq_none_iff_forall_ne_some] using ih
      | _ => simp [Json.str?]

theorem exists_forall₂_iff {R : α → β → Prop} {xs : List α} :
    (∃ ys, List.Forall₂ R xs ys) ↔ ∀ x ∈ xs, ∃ y, R x y := by
  induction xs with
  | nil => simp
  | cons x rest ih =>
      rw [List.forall_mem_cons, ← ih]
      constructor
      · rintro ⟨ys, hrelated⟩
        obtain ⟨y, others, hy, hothers, -⟩ := List.forall₂_cons_left_iff.mp hrelated
        exact ⟨⟨y, hy⟩, others, hothers⟩
      · rintro ⟨⟨y, hy⟩, others, hothers⟩
        exact ⟨y :: others, .cons hy hothers⟩

theorem noValue_of_error {json : Json} {fault : LocalFault}
    (h : Value.ofLocal key json = .error fault) : NoValue key json := by
  unfold Value.ofLocal at h
  split at h
  case h_1 => cases h
  case h_2 => split at h <;> cases h
  case h_3 => cases h
  case h_4 =>
    split at h
    case isTrue hlevels =>
      split at h
      · cases h
      · rename_i hname
        exact .level (List.isPrefixOf_iff_prefix.mp hlevels) hname
    case isFalse => cases h
  case h_5 =>
    split at h
    · cases h
    · rename_i hnone
      obtain ⟨item, hitem, hother⟩ := mapM_str?_eq_none_iff.mp hnone
      exact .list hitem hother
  case h_6 => cases h
  case h_7 => exact .null

theorem NoValue.ne_ok {json : Json} (h : NoValue key json) (value : Value) :
    Value.ofLocal key json ≠ .ok value := by
  intro hvalue
  cases h with
  | null => cases hvalue
  | list hitem hother =>
      have hnone := mapM_str?_eq_none_iff.mpr ⟨_, hitem, hother⟩
      simp [Value.ofLocal, hnone] at hvalue
  | level hkey hname =>
      have hlevels : Value.holdsLogLevels key = true := List.isPrefixOf_iff_prefix.mpr hkey
      simp [Value.ofLocal, hlevels, hname] at hvalue

/-- A value cannot be supplied, or it can be read. -/
theorem noValue_or_exists (key : String) (json : Json) :
    NoValue key json ∨ ∃ value, Value.ofLocal key json = .ok value := by
  cases h : Value.ofLocal key json with
  | error fault => exact .inl (noValue_of_error h)
  | ok value => exact .inr ⟨value, rfl⟩

theorem exists_fromObjects_iff {items : List Json} :
    (∃ criteria, FromObjects key items criteria) ↔ ∀ object, .obj object ∈ items →
      ∃ criterion, Criterion.DescribedBy key object criterion := by
  unfold FromObjects
  rw [exists_forall₂_iff]
  constructor
  · intro h object hobject
    exact h object (List.mem_filterMap.mpr ⟨.obj object, hobject, rfl⟩)
  · intro h object hobject
    obtain ⟨item, hitem, hmembers⟩ := List.mem_filterMap.mp hobject
    cases item with
    | obj other =>
        cases hmembers
        exact h object hitem
    | _ => cases hmembers

theorem NoFlag.not_denotes (h : NoFlag key members) (config : Config) :
    ¬ Denotes key (.obj members) config := by
  intro hdenotes
  cases hdenotes with
  | value hplain => exact hplain members rfl
  | flag hmember hvalue hitems hcriteria =>
      cases h with
      | missing hnone => simp [hnone] at hmember
      | value hother hnone =>
          cases hmember.symm.trans hother
          exact hnone.ne_ok _ hvalue
      | shape hnone => simp [hnone] at hitems
      | criterion hother hobject hnone =>
          cases hitems.symm.trans hother
          obtain ⟨criterion, hdescribed⟩ :=
            exists_fromObjects_iff.mp ⟨_, hcriteria⟩ _ hobject
          exact hnone criterion hdescribed

theorem noFlag_or_denotes (key : String) (members : List (String × Json)) :
    NoFlag key members ∨ ∃ config, Denotes key (.obj members) config := by
  cases hmember : members.lookup "value" with
  | none => exact .inl (.missing hmember)
  | some json =>
      rcases noValue_or_exists key json with hnone | ⟨value, hvalue⟩
      · exact .inl (.value hmember hnone)
      · cases hitems : criteriaItems? (members.lookup "criteria") with
        | none => exact .inl (.shape hitems)
        | some items =>
            by_cases hall : ∀ object, .obj object ∈ items →
                ∃ criterion, Criterion.DescribedBy key object criterion
            · obtain ⟨criteria, hcriteria⟩ := exists_fromObjects_iff.mpr hall
              exact .inr ⟨_, .flag hmember hvalue hitems hcriteria⟩
            · push Not at hall
              obtain ⟨object, hobject, hnone⟩ := hall
              exact .inl (.criterion hitems hobject hnone)

/-- A leaf is refused exactly if it stands for no configuration. -/
theorem refused_iff {json : Json} : Refused key json ↔ ¬ ∃ config, Denotes key json config := by
  constructor
  · rintro h ⟨config, hdenotes⟩
    cases h with
    | flag hnone => exact hnone.not_denotes config hdenotes
    | value hnone =>
        cases hdenotes with
        | value _ hvalue => exact hnone.ne_ok _ hvalue
        | flag => cases hnone
  · intro h
    by_cases hobject : ∃ members, json = .obj members
    · obtain ⟨members, rfl⟩ := hobject
      exact .flag ((noFlag_or_denotes key members).resolve_right h)
    · push Not at hobject
      refine .value ((noValue_or_exists key json).resolve_right ?_)
      rintro ⟨value, hvalue⟩
      exact h ⟨_, .value hobject hvalue⟩

theorem config_leafOf_iff {json : Json} {config : Config} :
    (leafOf json).config key = .ok config ↔ Denotes key json config := by
  constructor
  · intro h
    by_cases hobject : ∃ members, json = .obj members
    · obtain ⟨members, rfl⟩ := hobject
      obtain ⟨_, _, _, _, hmember, hvalue, hitems, hcriteria, rfl⟩ := flag_eq_ok_iff.mp h
      exact .flag hmember hvalue hitems hcriteria
    · push Not at hobject
      rw [leafOf_of_plain hobject] at h
      obtain ⟨value, hvalue, rfl⟩ := exists_of_map_eq_ok h
      exact .value hobject hvalue
  · intro h
    cases h with
    | value hplain hvalue =>
        rw [leafOf_of_plain hplain, Leaf.config, hvalue]
        rfl
    | flag hmember hvalue hitems hcriteria =>
        exact flag_eq_ok_iff.mpr ⟨_, _, _, _, hmember, hvalue, hitems, hcriteria, rfl⟩

/-! ## Layers -/

/-- Of the leaves that a layer refuses, the first one is its error. -/
theorem exists_first_of_load {error : Error} (h : load members location = .error error) :
    ∃ before leaf after fault, layerLeaves members = before ++ leaf :: after ∧
      (∀ earlier ∈ before, ∃ config, earlier.2.config earlier.1 = .ok config) ∧
      leaf.2.config leaf.1 = .error fault ∧ error = .invalidLocalValue leaf.1 fault := by
  unfold load at h
  generalize KeyMap.empty = map at h
  generalize layerLeaves members = leaves at h
  induction leaves generalizing map with
  | nil => cases h
  | cons leaf rest ih =>
      rw [List.foldlM_cons] at h
      cases hconfig : leaf.2.config leaf.1 with
      | error fault =>
          simp only [hconfig, bind, Except.bind, Except.error.injEq] at h
          exact ⟨[], leaf, rest, fault, rfl, by simp, hconfig, h.symm⟩
      | ok config =>
          simp only [hconfig] at h
          obtain ⟨before, other, after, fault, hsplit, hbefore, hother⟩ := ih _ h
          refine ⟨leaf :: before, other, after, fault, by rw [hsplit]; rfl, ?_, hother⟩
          exact List.forall_mem_cons.mpr ⟨⟨config, hconfig⟩, hbefore⟩

theorem exists_config_of_stored? {leaf : String × Leaf} {entry : String × Element}
    (h : stored? location leaf = some entry) : ∃ config, leaf.2.config leaf.1 = .ok config ∧
      entry = (leaf.1, ⟨config, ⟨.localOnly, some location⟩⟩) := by
  obtain ⟨config, hconfig, rfl⟩ := Option.map_eq_some_iff.mp h
  cases hread : leaf.2.config leaf.1 with
  | error fault => simp [hread, Except.toOption] at hconfig
  | ok other =>
      simp only [hread, Except.toOption, Option.some.injEq] at hconfig
      exact ⟨other, rfl, by rw [hconfig]⟩

/-- A key of a layer has what the last of its leaves makes of it. -/
theorem get?_of_load_iff {layer : KeyMap Element} (h : load members location = .ok layer)
    {element : Element} : layer.get? key = some element ↔ ∃ before leaf after config,
      layerLeaves members = before ++ (key, leaf) :: after ∧
        (∀ later ∈ after, later.1 ≠ key) ∧ leaf.config key = .ok config ∧
          element = ⟨config, ⟨.localOnly, some location⟩⟩ := by
  constructor
  · intro hget
    obtain ⟨hall, hlayer⟩ := load_eq_ok_iff.mp h
    rw [hlayer, KeyMap.get?_ofList_eq_some_iff] at hget
    obtain ⟨_, _, hentries, hlast⟩ := hget
    obtain ⟨first, second, hleaves, -, hsecond⟩ := List.filterMap_eq_append_iff.mp hentries
    obtain ⟨skipped, ⟨_, leaf⟩, after, rfl, -, hleaf, rfl⟩ :=
      List.filterMap_eq_cons_iff.mp hsecond
    obtain ⟨config, hconfig, heq⟩ := exists_config_of_stored? hleaf
    cases heq
    refine ⟨first ++ skipped, leaf, after, config, by simp [hleaves], ?_, hconfig, rfl⟩
    intro later hlater
    obtain ⟨other, hother⟩ := hall later (by simp [hleaves, hlater])
    exact hlast _ (List.mem_filterMap.mpr ⟨later, hlater, stored?_of_config hother⟩)
  · rintro ⟨before, leaf, after, config, hleaves, hlast, hconfig, rfl⟩
    exact get?_of_load h hleaves hlast hconfig

theorem load_fails_iff : (∃ error, load members location = .error error) ↔
    ∃ path leaf, Json.MembersLeadTo members path leaf ∧ Refused (pathKey path) leaf := by
  have hloads : (∃ layer, load members location = .ok layer) ↔
      ∀ path leaf, Json.MembersLeadTo members path leaf → ¬ Refused (pathKey path) leaf := by
    simp only [load_eq_ok_iff, layerLeaves_eq_paths, List.forall_mem_map, Prod.forall,
      mem_memberPaths_iff, config_leafOf_iff, refused_iff, not_not, exists_and_left, exists_eq,
      and_true]
  have hfails : (∃ error, load members location = .error error) ↔
      ¬ ∃ layer, load members location = .ok layer := by
    cases load members location <;> simp
  rw [hfails, hloads]
  push Not
  rfl

theorem layerLeaves_eq_append_iff {before after : List (String × Leaf)} {leaf : String × Leaf} :
    layerLeaves members = before ++ leaf :: after ↔ ∃ earlier path json later,
      memberPaths members = earlier ++ (path, json) :: later ∧
        before = earlier.map (fun e => (pathKey e.1, leafOf e.2)) ∧
        leaf = (pathKey path, leafOf json) ∧
        after = later.map fun e => (pathKey e.1, leafOf e.2) := by
  rw [layerLeaves_eq_paths, List.map_eq_append_iff]
  constructor
  · rintro ⟨earlier, rest, hpaths, rfl, hrest⟩
    obtain ⟨⟨path, json⟩, later, rfl, rfl, rfl⟩ := List.map_eq_cons_iff.mp hrest
    exact ⟨earlier, path, json, later, hpaths, rfl, rfl, rfl⟩
  · rintro ⟨earlier, path, json, later, hpaths, rfl, rfl, rfl⟩
    exact ⟨earlier, (path, json) :: later, hpaths, rfl, rfl⟩

/-- What an element of a layer is like, whatever leaf it is from. -/
structure IsLocal (location key : String) (element : Element) : Prop where
  key : element.config.key = key
  id : element.config.id = 0
  /-- It has one row, for every environment, with one plain value of the declared type. -/
  value : ∃ criteria value, element.config.rows = [⟨none, [⟨criteria, .value value⟩]⟩] ∧
    element.config.valueType = some value.type
  provenance : element.provenance = ⟨.localOnly, some location⟩

theorem Denotes.isLocal {json : Json} {config : Config} (h : Denotes key json config) :
    IsLocal location key ⟨config, ⟨.localOnly, some location⟩⟩ := by
  cases h with
  | value => exact ⟨rfl, rfl, ⟨_, _, rfl, rfl⟩, rfl⟩
  | flag => exact ⟨rfl, rfl, ⟨_, _, rfl, rfl⟩, rfl⟩

theorem exists_first_refused {error : Error} (h : load members location = .error error) :
    ∃ before path leaf after fault, memberPaths members = before ++ (path, leaf) :: after ∧
      (∀ earlier ∈ before, ¬ Refused (pathKey earlier.1) earlier.2) ∧
      Refused (pathKey path) leaf ∧ error = .invalidLocalValue (pathKey path) fault := by
  obtain ⟨before, leaf, after, fault, hsplit, hbefore, hleaf, rfl⟩ := exists_first_of_load h
  obtain ⟨earlier, path, json, later, hpaths, rfl, rfl, rfl⟩ :=
    layerLeaves_eq_append_iff.mp hsplit
  refine ⟨earlier, path, json, later, fault, hpaths, ?_, ?_, rfl⟩
  · intro e he
    obtain ⟨config, hconfig⟩ := hbefore _ (List.mem_map_of_mem he)
    rw [refused_iff, not_not]
    exact ⟨config, config_leafOf_iff.mp hconfig⟩
  · rw [refused_iff]
    rintro ⟨config, hdenotes⟩
    rw [config_leafOf_iff.mpr hdenotes] at hleaf
    cases hleaf

theorem get?_of_load_iff_paths {layer : KeyMap Element} (h : load members location = .ok layer)
    {element : Element} : layer.get? key = some element ↔ ∃ before path leaf after config,
      memberPaths members = before ++ (path, leaf) :: after ∧ pathKey path = key ∧
        (∀ later ∈ after, pathKey later.1 ≠ key) ∧ Denotes key leaf config ∧
        element = ⟨config, ⟨.localOnly, some location⟩⟩ := by
  rw [get?_of_load_iff h]
  constructor
  · rintro ⟨before, leaf, after, config, hsplit, hlast, hconfig, rfl⟩
    obtain ⟨earlier, path, json, later, hpaths, rfl, heq, rfl⟩ :=
      layerLeaves_eq_append_iff.mp hsplit
    cases heq
    rw [List.forall_mem_map] at hlast
    exact ⟨earlier, path, json, later, config, hpaths, rfl, hlast,
      config_leafOf_iff.mp hconfig, rfl⟩
  · rintro ⟨earlier, path, json, later, config, hpaths, rfl, hlast, hdenotes, rfl⟩
    refine ⟨_, _, _, config,
      layerLeaves_eq_append_iff.mpr ⟨earlier, path, json, later, hpaths, rfl, rfl, rfl⟩,
      ?_, config_leafOf_iff.mpr hdenotes, rfl⟩
    rw [List.forall_mem_map]
    exact hlast

theorem isLocal_of_load {layer : KeyMap Element} (h : load members location = .ok layer)
    {element : Element} (helement : layer.get? key = some element) :
    IsLocal location key element := by
  obtain ⟨_, _, _, _, config, -, -, -, hdenotes, rfl⟩ :=
    (get?_of_load_iff_paths h).mp helement
  exact hdenotes.isLocal

/-- A layer is refused exactly if one of its leaves is, and then for the first one.
Otherwise each key has what the last leaf of that key stands for, one plain value that is
always there under its own key, and there are no other keys. -/
theorem load_flattens (members : List (String × Json)) (location : String) :
    ((∃ error, load members location = .error error) ↔
      ∃ path leaf, Json.MembersLeadTo members path leaf ∧ Refused (pathKey path) leaf) ∧
    (∀ error, load members location = .error error → ∃ before path leaf after fault,
      memberPaths members = before ++ (path, leaf) :: after ∧
        (∀ earlier ∈ before, ¬ Refused (pathKey earlier.1) earlier.2) ∧
        Refused (pathKey path) leaf ∧ error = .invalidLocalValue (pathKey path) fault) ∧
    (∀ path leaf, (path, leaf) ∈ memberPaths members ↔ Json.MembersLeadTo members path leaf) ∧
    ∀ layer, load members location = .ok layer → ∀ key element,
      (layer.get? key = some element ↔ ∃ before path leaf after config,
        memberPaths members = before ++ (path, leaf) :: after ∧ pathKey path = key ∧
          (∀ later ∈ after, pathKey later.1 ≠ key) ∧ Denotes key leaf config ∧
          element = ⟨config, ⟨.localOnly, some location⟩⟩) ∧
      (layer.get? key = some element → IsLocal location key element) := by
  refine ⟨load_fails_iff, fun _ => exists_first_refused, mem_memberPaths_iff members, ?_⟩
  intro layer hload key element
  exact ⟨get?_of_load_iff_paths hload, isLocal_of_load hload⟩

/-- A member `_` stands for its parent, and two leaves have the key `app.level`. -/
def appMembers : List (String × Json) :=
  [("app", .obj [("_", .str "root"), ("level", .int 3)]), ("app.level", .arr [.str "high"])]

/-- The nested leaf of the key `log-level.app` names no log level. -/
def loudMembers : List (String × Json) :=
  [("app", .int 1), ("log-level", .obj [("app", .str "loud")])]

theorem load_flattens_app :
    (∃ layer element, load appMembers "overrides" = .ok layer ∧
      layer.get? "app.level" = some element ∧ IsLocal "overrides" "app.level" element ∧
      Denotes "app.level" (.arr [.str "high"]) element.config) ∧
    ∃ error, load loudMembers "overrides" = .error error := by
  obtain ⟨layer, hload⟩ : ∃ layer, load appMembers "overrides" = .ok layer := ⟨_, rfl⟩
  have hdenotes : Denotes "app.level" (.arr [.str "high"])
      ⟨0, "app.level", [⟨none, [⟨[], .value (.stringList ["high"])⟩]⟩], .config,
        some .stringList⟩ :=
    .value (by simp) rfl
  obtain ⟨-, -, -, hlayer⟩ := load_flattens appMembers "overrides"
  obtain ⟨hget, hlocal⟩ := hlayer layer hload "app.level" ⟨_, ⟨.localOnly, some "overrides"⟩⟩
  have helement := hget.mpr
    ⟨[(["app", "_"], .str "root"), (["app", "level"], .int 3)], ["app.level"],
      .arr [.str "high"], [], _, rfl, rfl, by simp, hdenotes, rfl⟩
  have hrefused : Refused (pathKey ["log-level", "app"]) (.str "loud") :=
    .value (.level (by decide) (by decide +kernel))
  have hpath : Json.MembersLeadTo loudMembers ["log-level", "app"] (.str "loud") :=
    ((load_flattens loudMembers "overrides").2.2.1 _ _).mp (by simp [loudMembers, memberPaths,
      paths, isFlag, flagMember])
  exact ⟨⟨layer, _, hload, helement, hlocal helement, hdenotes⟩,
    (load_flattens loudMembers "overrides").1.mpr ⟨_, _, hpath, hrefused⟩⟩

end LocalValues
end LiveConfig
