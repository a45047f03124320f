import LiveConfig.Proofs.Numerals
import LiveConfig.LocalValues

/-!
# What a layer of local values holds

Every configuration of a loaded layer comes from a leaf of the layer
(`LocalValues.exists_leaf_of_load`).  It is no tombstone (`LocalValues.hasRows_of_load`),
and it equals itself when the JSON of the layer does (`LocalValues.comparable_of_load`).
-/

namespace LiveConfig

theorem exists_of_bind_eq_ok {x : Except ε α} {f : α → Except ε β} {b : β}
    (h : (x >>= f) = .ok b) : ∃ a, x = .ok a ∧ f a = .ok b := by
  cases x with
  | error e => simp [bind, Except.bind] at h
  | ok a => exact ⟨a, rfl, h⟩

theorem exists_of_map_eq_ok {x : Except ε α} {f : α → β} {b : β}
    (h : x.map f = .ok b) : ∃ a, x = .ok a ∧ f a = b := by
  cases x with
  | error e => simp [Except.map] at h
  | ok a =>
      simp only [Except.map, Except.ok.injEq] at h
      exact ⟨a, rfl, h⟩

theorem exists_of_mem_mapM_ok {f : α → Except ε β} {xs : List α} {ys : List β} {y : β}
    (h : xs.mapM f = .ok ys) (hy : y ∈ ys) : ∃ x ∈ xs, f x = .ok y := by
  induction xs generalizing ys with
  | nil =>
      simp only [List.mapM_nil, pure, Except.pure, Except.ok.injEq] at h
      simp [← h] at hy
  | cons x xs ih =>
      rw [List.mapM_cons] at h
      obtain ⟨first, hfirst, h⟩ := exists_of_bind_eq_ok h
      obtain ⟨rest, hrest, h⟩ := exists_of_bind_eq_ok h
      simp only [pure, Except.pure, Except.ok.injEq] at h
      subst h
      rcases List.mem_cons.mp hy with rfl | hy
      · exact ⟨x, by simp, hfirst⟩
      · obtain ⟨x', hx', hread⟩ := ih hrest hy
        exact ⟨x', by simp [hx'], hread⟩

theorem Value.comparable_of_ofLocal {key : String} {json : Json} {v : Value}
    (hjson : Comparable json) (h : Value.ofLocal key json = .ok v) : Comparable v := by
  cases json with
  | null => simp [ofLocal] at h
  | bool b =>
      simp only [ofLocal, Except.ok.injEq] at h
      exact h ▸ comparable_of_refl b
  | int i =>
      simp only [ofLocal] at h
      split at h
      · simp only [Except.ok.injEq] at h
        exact h ▸ comparable_of_refl (Int64.ofInt i)
      · simp only [Except.ok.injEq] at h
        rw [← h, comparable_double_iff]
        exact Double.isNaN_ofInt i
  | float d =>
      simp only [ofLocal, Except.ok.injEq] at h
      exact h ▸ hjson
  | str s =>
      simp only [ofLocal] at h
      split at h
      · split at h
        · rename_i level _
          simp only [Except.ok.injEq] at h
          exact h ▸ comparable_of_refl level
        · simp at h
      · simp only [Except.ok.injEq] at h
        exact h ▸ comparable_of_refl s
  | arr items =>
      simp only [ofLocal] at h
      split at h
      · rename_i texts _
        simp only [Except.ok.injEq] at h
        exact h ▸ comparable_of_refl texts
      · simp at h
  | obj members =>
      simp only [ofLocal, Except.ok.injEq] at h
      exact h ▸ hjson

namespace LocalValues

theorem comparable_of_lookup {members : List (String × Json)} {name : String} {json : Json}
    (hmembers : ∀ e ∈ members, Comparable e.2) (h : members.lookup name = some json) :
    Comparable json := by
  obtain ⟨before, after, hsplit, _⟩ := List.lookup_eq_some_iff.mp h
  exact hmembers (name, json) (by simp [hsplit])

/-- The target of a criterion is the value of its member `values`. -/
theorem target_of_criterion {key : String} {members : List (String × Json)}
    {result : Criterion} (h : criterion key members = .ok result) :
    ∃ values target, members.lookup "values" = some values ∧
      Value.ofLocal key values = .ok target ∧ result.target = some target := by
  unfold criterion at h
  simp only [bind, Except.bind, pure, Except.pure, throw, throwThe, MonadExceptOf.throw] at h
  repeat' split at h
  -- only the two branches without a fault are left, with and without a property
  all_goals try (simp at h; done)
  all_goals
    rename_i hvalues _ _ htarget
    simp only [Except.ok.injEq] at h
    exact ⟨_, _, hvalues, htarget, by rw [← h]⟩

theorem comparable_of_criterion {key : String} {members : List (String × Json)}
    {result : Criterion} (hmembers : ∀ e ∈ members, Comparable e.2)
    (h : criterion key members = .ok result) : Comparable result := by
  obtain ⟨values, target, hvalues, htarget, hresult⟩ := target_of_criterion h
  rw [Criterion.comparable_iff, hresult]
  intro v hv
  simp only [Option.mem_some_iff] at hv
  exact hv ▸ Value.comparable_of_ofLocal (comparable_of_lookup hmembers hvalues) htarget

theorem comparable_of_criteria {key : String} {json : Option Json} {result : List Criterion}
    (hjson : ∀ j ∈ json, Comparable j) (h : criteria key json = .ok result) :
    ∀ c ∈ result, Comparable c := by
  unfold criteria at h
  split at h
  · simp only [Except.ok.injEq] at h
    simp [← h]
  · simp only [Except.ok.injEq] at h
    simp [← h]
  · rename_i members
    obtain ⟨c, hc, rfl⟩ := exists_of_map_eq_ok h
    have hmembers := (Json.comparable_obj_iff members).mp (hjson _ rfl)
    intro c' hc'
    rw [List.mem_singleton.mp hc']
    exact comparable_of_criterion hmembers hc
  · rename_i items
    have hitems := (Json.comparable_arr_iff items).mp (hjson _ rfl)
    intro c hc
    obtain ⟨members, hmembers, hread⟩ := exists_of_mem_mapM_ok h hc
    obtain ⟨item, hitem, hobject⟩ := List.mem_filterMap.mp hmembers
    cases item with
    | obj ms =>
        simp only [Option.some.injEq] at hobject
        subst hobject
        exact comparable_of_criterion ((Json.comparable_obj_iff ms).mp (hitems _ hitem)) hread
    | _ => simp at hobject
  · simp at h

/-- The JSON that a leaf is made of. -/
def Leaf.json : Leaf → Json
  | .flag members => .obj members
  | .plain value => value

/-- A leaf becomes one row with one conditional value, for every environment. -/
theorem shape_of_config {key : String} {leaf : Leaf} {config : Config}
    (h : leaf.config key = .ok config) :
    ∃ criteria v, config.rows = [⟨none, [⟨criteria, .value v⟩]⟩] ∧
      (Comparable leaf.json → (∀ c ∈ criteria, Comparable c) ∧ Comparable v) := by
  cases leaf with
  | flag members =>
      simp only [Leaf.config, flag] at h
      split at h
      · rename_i json hjson
        obtain ⟨v, hv, h⟩ := exists_of_bind_eq_ok h
        obtain ⟨cs, hcs, h⟩ := exists_of_bind_eq_ok h
        simp only [pure, Except.pure, Except.ok.injEq] at h
        subst h
        refine ⟨cs, v, rfl, fun hleaf => ?_⟩
        have hmembers := (Json.comparable_obj_iff members).mp hleaf
        exact ⟨comparable_of_criteria (fun j hj => comparable_of_lookup hmembers hj) hcs,
          Value.comparable_of_ofLocal (comparable_of_lookup hmembers hjson) hv⟩
      · simp [throw, throwThe, MonadExceptOf.throw] at h
  | plain json =>
      obtain ⟨v, hv, rfl⟩ := exists_of_map_eq_ok h
      exact ⟨[], v, rfl, fun hleaf => ⟨by simp, Value.comparable_of_ofLocal hleaf hv⟩⟩

theorem hasRows_of_config {key : String} {leaf : Leaf} {config : Config}
    (h : leaf.config key = .ok config) : config.isTombstone = false := by
  obtain ⟨criteria, v, hrows, _⟩ := shape_of_config h
  simp [Config.isTombstone, hrows]

theorem comparable_of_config {key : String} {leaf : Leaf} {config : Config}
    (hleaf : Comparable leaf.json) (h : leaf.config key = .ok config) : Comparable config := by
  obtain ⟨criteria, v, hrows, hparts⟩ := shape_of_config h
  have hsource : Comparable (ValueSource.value v) := (hparts hleaf).2
  simpa [Config.comparable_iff, hrows, Row.comparable_iff, ConditionalValue.comparable_iff] using
    And.intro (hparts hleaf).1 hsource

mutual

theorem comparable_of_mem_leaves : ∀ (key : String) (json : Json), Comparable json →
    ∀ leaf ∈ leaves key json, Comparable leaf.2.json
  | key, .obj members, h, leaf, hleaf => by
      rw [leaves] at hleaf
      split at hleaf
      · rw [List.mem_singleton.mp hleaf]
        exact h
      · exact comparable_of_mem_memberLeaves key members
          ((Json.comparable_obj_iff members).mp h) leaf hleaf
  | key, .null, h, leaf, hleaf | key, .bool _, h, leaf, hleaf | key, .int _, h, leaf, hleaf
  | key, .float _, h, leaf, hleaf | key, .str _, h, leaf, hleaf
  | key, .arr _, h, leaf, hleaf => by
      rw [leaves, List.mem_singleton] at hleaf
      · exact hleaf ▸ h
      · simp

theorem comparable_of_mem_memberLeaves : ∀ (key : String) (members : List (String × Json)),
    (∀ e ∈ members, Comparable e.2) → ∀ leaf ∈ memberLeaves key members, Comparable leaf.2.json
  | key, [], _, leaf, hleaf => by simp [memberLeaves] at hleaf
  | key, (member, json) :: rest, h, leaf, hleaf => by
      rw [memberLeaves] at hleaf
      rw [List.forall_mem_cons] at h
      rcases List.mem_append.mp hleaf with hleaf | hleaf
      · exact comparable_of_mem_leaves (childKey key member) json h.1 leaf hleaf
      · exact comparable_of_mem_memberLeaves key rest h.2 leaf hleaf

end

/-- A layer is filled leaf by leaf; what stands in it was there before or is the
configuration of a leaf. -/
theorem exists_leaf_of_foldlM
    {step : KeyMap Element → String × Leaf → Except Error (KeyMap Element)}
    (hstep : ∀ {map leaf next}, step map leaf = .ok next →
      ∃ element, next = map.insert leaf.1 element ∧ leaf.2.config leaf.1 = .ok element.config)
    {leaves : List (String × Leaf)} {map layer : KeyMap Element}
    (h : leaves.foldlM step map = .ok layer) {key : String} {element : Element}
    (helement : layer.get? key = some element) :
    map.get? key = some element ∨ ∃ leaf ∈ leaves, leaf.2.config key = .ok element.config := by
  induction leaves generalizing map with
  | nil =>
      simp only [List.foldlM_nil, pure, Except.pure, Except.ok.injEq] at h
      exact .inl (h ▸ helement)
  | cons leaf rest ih =>
      rw [List.foldlM_cons] at h
      obtain ⟨next, hnext, h⟩ := exists_of_bind_eq_ok h
      obtain ⟨inserted, rfl, hinserted⟩ := hstep hnext
      rcases ih h with hold | ⟨other, hother, hconfig⟩
      · rw [KeyMap.get?_insert] at hold
        split at hold
        · rename_i hkey
          simp only [Option.some.injEq] at hold
          subst hkey hold
          exact .inr ⟨leaf, by simp, hinserted⟩
        · exact .inl hold
      · exact .inr ⟨other, by simp [hother], hconfig⟩

theorem exists_leaf_of_load {members : List (String × Json)} {location : String}
    {layer : KeyMap Element} (h : load members location = .ok layer) {key : String}
    {element : Element} (helement : layer.get? key = some element) :
    ∃ leaf ∈ layerLeaves members, leaf.2.config key = .ok element.config := by
  unfold load at h
  have hsplit := exists_leaf_of_foldlM (fun {map leaf next} hnext => by
    split at hnext
    · rename_i config hconfig
      simp only [Except.ok.injEq] at hnext
      exact ⟨_, hnext.symm, hconfig⟩
    · simp at hnext) h helement
  rcases hsplit with hempty | hleaf
  · simp [KeyMap.get?_empty] at hempty
  · exact hleaf

theorem hasRows_of_load {members : List (String × Json)} {location : String}
    {layer : KeyMap Element} (h : load members location = .ok layer) {key : String}
    {element : Element} (helement : layer.get? key = some element) :
    element.config.isTombstone = false := by
  obtain ⟨leaf, _, hconfig⟩ := exists_leaf_of_load h helement
  exact hasRows_of_config hconfig

theorem comparable_of_load {members : List (String × Json)} {location : String}
    {layer : KeyMap Element} (hmembers : Comparable (Json.obj members))
    (h : load members location = .ok layer) {key : String} {element : Element}
    (helement : layer.get? key = some element) : Comparable element.config := by
  obtain ⟨leaf, hleaf, hconfig⟩ := exists_leaf_of_load h helement
  obtain ⟨⟨name, json⟩, hmember, hleaves⟩ := List.mem_flatMap.mp hleaf
  have hjson : Comparable json := (Json.comparable_obj_iff members).mp hmembers _ hmember
  exact comparable_of_config (comparable_of_mem_leaves name json hjson leaf hleaves) hconfig

end LocalValues
end LiveConfig
