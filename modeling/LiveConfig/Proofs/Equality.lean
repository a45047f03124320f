import LiveConfig.Config

/-!
# Equality of configurations

Configurations are compared by value, and the numbers in them as numbers: the two
zeros are equal, and a NaN is not equal to itself.  So equality is symmetric and
transitive at every type from JSON to `Config`, and what equals itself is called
`Comparable`: whatever holds no NaN.
-/

namespace LiveConfig

/-- Whether a value equals itself. -/
def Comparable [BEq α] (a : α) : Prop := (a == a) = true

/-! ## Lists, options and pairs -/

section Containers

variable {α : Type u} {β : Type v} [BEq α] [BEq β]

instance partialEquivBEqList [PartialEquivBEq α] : PartialEquivBEq (List α) where
  symm := by
    intro xs ys h
    induction xs generalizing ys with
    | nil => cases ys <;> simp_all
    | cons x xs ih =>
        cases ys with
        | nil => simp at h
        | cons y ys =>
            simp only [List.cons_beq_cons, Bool.and_eq_true] at h ⊢
            exact ⟨BEq.symm h.1, ih h.2⟩
  trans := by
    intro xs ys zs hxy hyz
    induction xs generalizing ys zs with
    | nil => cases ys <;> simp_all
    | cons x xs ih =>
        cases ys with
        | nil => simp at hxy
        | cons y ys =>
            cases zs with
            | nil => simp at hyz
            | cons z zs =>
                simp only [List.cons_beq_cons, Bool.and_eq_true] at hxy hyz ⊢
                exact ⟨BEq.trans hxy.1 hyz.1, ih hxy.2 hyz.2⟩

instance partialEquivBEqOption [PartialEquivBEq α] : PartialEquivBEq (Option α) where
  symm := by
    intro a b hab
    cases a <;> cases b <;> simp_all
    exact BEq.symm hab
  trans := by
    intro a b c hab hbc
    cases a <;> cases b <;> cases c <;> simp_all
    exact BEq.trans hab hbc

theorem pair_beq (a b : α × β) : (a == b) = (a.1 == b.1 && a.2 == b.2) := rfl

instance partialEquivBEqProd [PartialEquivBEq α] [PartialEquivBEq β] :
    PartialEquivBEq (α × β) where
  symm := by
    intro a b hab
    simp only [pair_beq, Bool.and_eq_true] at hab ⊢
    exact ⟨BEq.symm hab.1, BEq.symm hab.2⟩
  trans := by
    intro a b c hab hbc
    simp only [pair_beq, Bool.and_eq_true] at hab hbc ⊢
    exact ⟨BEq.trans hab.1 hbc.1, BEq.trans hab.2 hbc.2⟩

/-- Equality by what `f` shows of a value is as good as equality there. -/
theorem partialEquivBEq_of_view [PartialEquivBEq β] (f : α → β)
    (h : ∀ a b, (a == b) = (f a == f b)) : PartialEquivBEq α where
  symm := by
    intro a b hab
    rw [h] at hab ⊢
    exact BEq.symm hab
  trans := by
    intro a b c hab hbc
    rw [h] at hab hbc ⊢
    exact BEq.trans hab hbc

theorem comparable_of_refl [ReflBEq α] (a : α) : Comparable a := BEq.rfl

theorem comparable_list_iff (xs : List α) : Comparable xs ↔ ∀ x ∈ xs, Comparable x := by
  induction xs with
  | nil => simp [Comparable]
  | cons x xs ih =>
      simp only [Comparable, List.cons_beq_cons, Bool.and_eq_true, List.forall_mem_cons]
      exact and_congr Iff.rfl ih

theorem comparable_option_iff (a : Option α) : Comparable a ↔ ∀ x ∈ a, Comparable x := by
  cases a <;> simp [Comparable]

theorem comparable_pair_iff (a : α × β) :
    Comparable a ↔ Comparable a.1 ∧ Comparable a.2 := by
  simp [Comparable, pair_beq]

end Containers

/-! ## JSON -/

theorem Double.eq_trans {a b c : Double} (hab : a.eq b = true) (hbc : b.eq c = true) :
    a.eq c = true := by
  simp only [Double.eq, Bool.and_eq_true, beq_iff_eq] at *
  exact ⟨⟨hab.1.1, hbc.1.2⟩, hab.2.trans hbc.2⟩

namespace Json

mutual

theorem beq_comm : ∀ a b : Json, beq a b = beq b a
  | arr xs, b => by
      cases b with
      | arr ys => simpa only [beq] using beqItems_comm xs ys
      | _ => rfl
  | obj xs, b => by
      cases b with
      | obj ys => simpa only [beq] using beqMembers_comm xs ys
      | _ => rfl
  | null, b | bool _, b | int _, b | float _, b | str _, b => by
      cases b <;> simp only [beq, BEq.comm, Double.eq_comm]

theorem beqItems_comm : ∀ xs ys : List Json, beqItems xs ys = beqItems ys xs
  | [], [] => rfl
  | [], _ :: _ => rfl
  | _ :: _, [] => rfl
  | x :: xs, y :: ys => by
      simp only [beqItems, beq_comm x y, beqItems_comm xs ys]

theorem beqMembers_comm : ∀ xs ys : List (String × Json), beqMembers xs ys = beqMembers ys xs
  | [], [] => rfl
  | [], _ :: _ => rfl
  | _ :: _, [] => rfl
  | (k, x) :: xs, (l, y) :: ys => by
      simp only [beqMembers, beq_comm x y, beqMembers_comm xs ys, BEq.comm (a := k)]

end

mutual

theorem beq_trans : ∀ a b c : Json, beq a b = true → beq b c = true → beq a c = true
  | a, b, arr zs, hab, hbc => by
      cases b <;> simp only [beq, Bool.false_eq_true] at hbc
      cases a <;> simp only [beq, Bool.false_eq_true] at hab
      exact beqItems_trans _ _ _ hab hbc
  | a, b, obj zs, hab, hbc => by
      cases b <;> simp only [beq, Bool.false_eq_true] at hbc
      cases a <;> simp only [beq, Bool.false_eq_true] at hab
      exact beqMembers_trans _ _ _ hab hbc
  | a, b, float z, hab, hbc => by
      cases b <;> simp only [beq, Bool.false_eq_true] at hbc
      cases a <;> simp only [beq, Bool.false_eq_true] at hab
      exact Double.eq_trans hab hbc
  | a, b, null, hab, hbc | a, b, bool _, hab, hbc | a, b, int _, hab, hbc
  | a, b, str _, hab, hbc => by
      cases b <;> simp only [beq, Bool.false_eq_true, beq_iff_eq] at hbc
      subst_vars
      exact hab

theorem beqItems_trans : ∀ xs ys zs : List Json,
    beqItems xs ys = true → beqItems ys zs = true → beqItems xs zs = true
  | [], [], _, _, hyz => hyz
  | x :: xs, y :: ys, z :: zs, hxy, hyz => by
      simp only [beqItems, Bool.and_eq_true] at hxy hyz ⊢
      exact ⟨beq_trans _ _ _ hxy.1 hyz.1, beqItems_trans _ _ _ hxy.2 hyz.2⟩

theorem beqMembers_trans : ∀ xs ys zs : List (String × Json),
    beqMembers xs ys = true → beqMembers ys zs = true → beqMembers xs zs = true
  | [], [], _, _, hyz => hyz
  | (k, x) :: xs, (l, y) :: ys, (m, z) :: zs, hxy, hyz => by
      simp only [beqMembers, Bool.and_eq_true, beq_iff_eq] at hxy hyz ⊢
      exact ⟨⟨hxy.1.1.trans hyz.1.1, beq_trans _ _ _ hxy.1.2 hyz.1.2⟩,
        beqMembers_trans _ _ _ hxy.2 hyz.2⟩

end

instance : PartialEquivBEq Json where
  symm := by
    intro a b hab
    exact (beq_comm b a).trans hab
  trans := by
    intro a b c hab hbc
    exact beq_trans a b c hab hbc

theorem beqItems_eq (xs ys : List Json) : beqItems xs ys = (xs == ys) := by
  induction xs generalizing ys with
  | nil => cases ys <;> rfl
  | cons x xs ih =>
      cases ys with
      | nil => rfl
      | cons y ys =>
          rw [List.cons_beq_cons, ← ih ys]
          rfl

theorem beqMembers_eq (xs ys : List (String × Json)) : beqMembers xs ys = (xs == ys) := by
  induction xs generalizing ys with
  | nil => cases ys <;> rfl
  | cons x xs ih =>
      cases ys with
      | nil => rfl
      | cons y ys =>
          rw [List.cons_beq_cons, ← ih ys]
          rfl

theorem comparable_arr_iff (items : List Json) :
    Comparable (arr items) ↔ ∀ x ∈ items, Comparable x := by
  rw [← comparable_list_iff]
  unfold Comparable
  rw [← beqItems_eq]
  rfl

theorem comparable_obj_iff (members : List (String × Json)) :
    Comparable (obj members) ↔ ∀ e ∈ members, Comparable e.2 := by
  have hlist : Comparable (obj members) ↔ Comparable members := by
    unfold Comparable
    rw [← beqMembers_eq]
    rfl
  rw [hlist, comparable_list_iff]
  simp only [comparable_pair_iff, comparable_of_refl, true_and]

theorem comparable_float_iff (d : Double) : Comparable (float d) ↔ d.isNaN = false :=
  d.eq_self_iff

end Json

/-! ## Values and configurations -/

theorem Value.beq_trans {a b c : Value} (hab : (a == b) = true) (hbc : (b == c) = true) :
    (a == c) = true := by
  simp only [BEq.beq] at hab hbc ⊢
  cases b <;> cases c <;> simp only [Value.beq, Bool.false_eq_true] at hbc
  all_goals cases a <;> simp only [Value.beq, Bool.false_eq_true] at hab
  case double => exact Double.eq_trans hab hbc
  all_goals exact BEq.trans hab hbc

instance : PartialEquivBEq Value where
  symm := by
    intro a b hab
    have hcomm : (b == a) = (a == b) := by
      simp only [BEq.beq]
      cases a <;> cases b <;> simp only [Value.beq, BEq.comm, Double.eq_comm]
    exact hcomm.trans hab
  trans := Value.beq_trans

theorem Value.comparable_double_iff (d : Double) :
    Comparable (Value.double d) ↔ d.isNaN = false :=
  d.eq_self_iff

theorem Value.comparable_json_iff (json : Json) :
    Comparable (Value.json json) ↔ Comparable json :=
  Iff.rfl

theorem Criterion.beq_view (a b : Criterion) :
    (a == b) = ((a.property, a.operator, a.target) == (b.property, b.operator, b.target)) := by
  cases a
  cases b
  rfl

theorem WeightedValue.beq_view (a b : WeightedValue) :
    (a == b) = ((a.weight, a.value) == (b.weight, b.value)) := by
  cases a
  cases b
  rfl

theorem WeightedValues.beq_view (a b : WeightedValues) :
    (a == b) = ((a.choices, a.hashBy) == (b.choices, b.hashBy)) := by
  cases a
  cases b
  rfl

/-- The content of a source, at the place of its kind. -/
def ValueSource.parts : ValueSource → Option Value × Option WeightedValues × Option String
  | value v => (some v, none, none)
  | weighted values => (none, some values, none)
  | provided envVar => (none, none, some envVar)

theorem ValueSource.beq_view (a b : ValueSource) : (a == b) = (a.parts == b.parts) := by
  cases a <;> cases b <;> simp [parts, pair_beq] <;> rfl

theorem ConditionalValue.beq_view (a b : ConditionalValue) :
    (a == b) = ((a.criteria, a.source) == (b.criteria, b.source)) := by
  cases a
  cases b
  rfl

theorem Row.beq_view (a b : Row) :
    (a == b) = ((a.environment, a.values) == (b.environment, b.values)) := by
  cases a
  cases b
  rfl

theorem Config.beq_view (a b : Config) :
    (a == b) = ((a.id, a.key, a.rows, a.kind, a.valueType) ==
      (b.id, b.key, b.rows, b.kind, b.valueType)) := by
  cases a
  cases b
  rfl

instance : PartialEquivBEq Criterion := partialEquivBEq_of_view _ Criterion.beq_view

instance : PartialEquivBEq WeightedValue := partialEquivBEq_of_view _ WeightedValue.beq_view

instance : PartialEquivBEq WeightedValues := partialEquivBEq_of_view _ WeightedValues.beq_view

instance : PartialEquivBEq ValueSource := partialEquivBEq_of_view _ ValueSource.beq_view

instance : PartialEquivBEq ConditionalValue :=
  partialEquivBEq_of_view _ ConditionalValue.beq_view

instance : PartialEquivBEq Row := partialEquivBEq_of_view _ Row.beq_view

instance : PartialEquivBEq Config := partialEquivBEq_of_view _ Config.beq_view

theorem Criterion.comparable_iff (criterion : Criterion) :
    Comparable criterion ↔ ∀ v ∈ criterion.target, Comparable v := by
  rw [← comparable_option_iff]
  simp [Comparable, Criterion.beq_view, pair_beq]

theorem WeightedValues.comparable_iff (values : WeightedValues) :
    Comparable values ↔ ∀ choice ∈ values.choices, Comparable choice.value := by
  have hlist : Comparable values ↔ Comparable values.choices := by
    simp [Comparable, WeightedValues.beq_view, pair_beq]
  rw [hlist, comparable_list_iff]
  simp [Comparable, WeightedValue.beq_view, pair_beq]

theorem ConditionalValue.comparable_iff (value : ConditionalValue) :
    Comparable value ↔
      (∀ criterion ∈ value.criteria, Comparable criterion) ∧ Comparable value.source := by
  rw [← comparable_list_iff]
  simp [Comparable, ConditionalValue.beq_view, pair_beq]

theorem Row.comparable_iff (row : Row) :
    Comparable row ↔ ∀ value ∈ row.values, Comparable value := by
  rw [← comparable_list_iff]
  simp [Comparable, Row.beq_view, pair_beq]

theorem Config.comparable_iff (config : Config) :
    Comparable config ↔ ∀ row ∈ config.rows, Comparable row := by
  rw [← comparable_list_iff]
  simp [Comparable, Config.beq_view, pair_beq]

end LiveConfig
