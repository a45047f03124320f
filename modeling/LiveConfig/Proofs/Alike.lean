import LiveConfig.Evaluation

/-!
# Contexts that no configuration tells apart

An evaluation sees its context through criteria and through choices by weight.  Two
contexts that answer all of these alike have the same match for every key, segments
included (`Snapshot.match?_congr`).  If they do not, some configuration without
segments has different matches for them (`ContextSet.exists_probe`).
-/

namespace LiveConfig

/-- No criterion and no choice by weight tells the contexts apart. -/
structure ContextSet.Alike (a b : ContextSet) : Prop where
  criteria : ∀ (op : Operator) (property : String) (target : Option Value),
    op.holds (a.lookup? property) target = op.holds (b.lookup? property) target
  choices : ∀ (values : WeightedValues) (key : String),
    values.select? key a = values.select? key b

theorem ContextSet.Alike.refl (a : ContextSet) : ContextSet.Alike a a :=
  ⟨fun _ _ _ => rfl, fun _ _ => rfl⟩

/-! ## Alike contexts have the same matches -/

section Congruence

variable {a b : ContextSet} {member member' : Membership}

/-- Of the segments only the one that the criterion asks for counts. -/
theorem Criterion.holds_congr (h : a.Alike b) {criterion : Criterion}
    (hmember : ∀ segment ∈ criterion.segment?, member segment = member' segment) :
    criterion.holds member a = criterion.holds member' b := by
  have hasked : criterion.operator = .inSeg ∨ criterion.operator = .notInSeg →
      criterion.isMember member = criterion.isMember member' := by
    intro hop
    have hsegment : criterion.segment? = criterion.target.bind Value.string? := by
      rcases hop with hop | hop <;> rw [segment?, hop]
    rw [hsegment] at hmember
    unfold isMember
    cases htarget : criterion.target.bind Value.string? with
    | none => rfl
    | some segment => exact hmember segment htarget
  unfold holds
  split
  · rename_i hop
    exact hasked (.inl hop)
  · rename_i hop
    rw [hasked (.inr hop)]
  · cases criterion.property with
    | none => rfl
    | some property => simp only [h.criteria]

theorem Criterion.allHold_congr (h : a.Alike b) {criteria : List Criterion}
    (hmember : ∀ c ∈ criteria, ∀ segment ∈ c.segment?, member segment = member' segment) :
    Criterion.allHold member a criteria = Criterion.allHold member' b criteria := by
  induction criteria with
  | nil => rfl
  | cons criterion rest ih =>
      rw [List.forall_mem_cons] at hmember
      rw [allHold, allHold, holds_congr h hmember.1, ih hmember.2]

theorem ValueSource.resolve_congr (h : a.Alike b) (env : Environment) (config : Config)
    (source : ValueSource) : source.resolve env a config = source.resolve env b config := by
  cases source with
  | value v => rfl
  | weighted values => rw [resolve, resolve, h.choices]
  | provided envVar => rfl

namespace Element

theorem matchOf_congr (h : a.Alike b) (env : Environment) (element : Element)
    (candidate : Candidate) :
    element.matchOf env a candidate = element.matchOf env b candidate := by
  unfold matchOf
  simp only [ValueSource.resolve_congr h]

theorem firstMatch_congr (h : a.Alike b) (env : Environment) (element : Element)
    {candidates : List Candidate}
    (hmember : ∀ candidate ∈ candidates, ∀ c ∈ candidate.value.criteria,
      ∀ segment ∈ c.segment?, member segment = member' segment) :
    element.firstMatch member env a candidates = element.firstMatch member' env b candidates := by
  induction candidates with
  | nil => rfl
  | cons candidate rest ih =>
      rw [List.forall_mem_cons] at hmember
      rw [firstMatch, firstMatch, Criterion.allHold_congr h hmember.1, matchOf_congr h,
        ih hmember.2]

end Element

namespace Snapshot

theorem memberWithin_congr (h : a.Alike b) (snapshot : Snapshot) (env : Environment)
    (depth : Nat) : snapshot.memberWithin env a depth = snapshot.memberWithin env b depth := by
  induction depth with
  | zero => rfl
  | succ depth ih =>
      funext segment
      rw [memberWithin, memberWithin]
      cases snapshot.configs.get? segment with
      | none => rfl
      | some element =>
          have hmember : ∀ segment, snapshot.memberWithin env a depth segment =
              snapshot.memberWithin env b depth segment := congrFun ih
          simp only [evaluateWith,
            Element.firstMatch_congr h env element fun _ _ _ _ segment _ => hmember segment]

theorem match?_congr (h : a.Alike b) (snapshot : Snapshot) (env : Environment) (key : String) :
    snapshot.match? env a key = snapshot.match? env b key := by
  have hmember := congrFun (memberWithin_congr h snapshot env segmentDepth)
  unfold match? evaluate evaluateWithin evaluateWith
  simp only [Element.firstMatch_congr h env _ fun _ _ _ _ segment _ => hmember segment]

end Snapshot

end Congruence

/-! ## Contexts that are not alike -/

namespace WeightedValues

theorem bucket?_of_lt {weights : List Nat} {shard : Nat}
    (h : shard < weights.foldr (· + ·) 0) :
    ∃ index, bucket? weights shard = some index ∧ index < weights.length := by
  induction weights generalizing shard with
  | nil => simp at h
  | cons w rest ih =>
      rw [List.foldr_cons] at h
      unfold bucket?
      by_cases hfirst : shard < w
      · exact ⟨0, by simp [hfirst], by simp⟩
      · have hrest : shard - w < rest.foldr (· + ·) 0 := by omega
        obtain ⟨index, hindex, hlt⟩ := ih hrest
        exact ⟨index + 1, by simp [hfirst, hindex], by simpa using hlt⟩

/-- Whether a choice is made does not hang on the context. -/
theorem select?_eq_none_iff (values : WeightedValues) (key : String) (context : ContextSet) :
    values.select? key context = none ↔ values.totalWeight = 0 := by
  unfold select? Sharding.shard?
  by_cases htotal : values.totalWeight = 0
  · simp [htotal]
  · have hshard := Nat.mod_lt (Sharding.leadingWord
      (Md5.digest (Utf8.encode (key ++ values.hashIdentity context)))) (Nat.pos_of_ne_zero htotal)
    obtain ⟨index, hindex, hlt⟩ := bucket?_of_lt hshard
    have hchoice : index < values.choices.length := by simpa [weights] using hlt
    simp [htotal, hindex, List.getElem?_eq_getElem hchoice]

end WeightedValues

namespace Config

/-- A flag whose first conditional value asks a criterion, and whose second one asks
nothing. -/
def criterionProbe (op : Operator) (property : String) (target : Option Value) : Config :=
  { id := 1, key := "probe", kind := .featureFlag, valueType := some .bool
    rows := [⟨none, [⟨[⟨some property, op, target⟩], .value (.bool true)⟩,
      ⟨[], .value (.bool false)⟩]⟩] }

/-- A configuration that chooses by weight for every context. -/
def choiceProbe (values : WeightedValues) (key : String) : Config :=
  { id := 1, key, kind := .config, valueType := none
    rows := [⟨none, [⟨[], .weighted values⟩]⟩] }

end Config

theorem Operator.readsProperty_of_holds_ne {op : Operator} {property property' : Option Value}
    {target : Option Value} (h : op.holds property target ≠ op.holds property' target) :
    op.readsProperty = true ∧ op ≠ .inSeg ∧ op ≠ .notInSeg := by
  cases op <;> simp_all [readsProperty, holds, answer?]

namespace Snapshot

variable {snapshot : Snapshot} {element : Element}

theorem match?_of_get? {key : String} (hstored : snapshot.configs.get? key = some element)
    (env : Environment) (context : ContextSet) :
    snapshot.match? env context key =
      (element.firstMatch (snapshot.memberWithin env context segmentDepth) env context
        (element.config.candidates snapshot.environment)).toOption.join := by
  simp only [match?, hstored, evaluate, evaluateWithin, evaluateWith, Option.bind_eq_bind,
    Option.bind_some]
  cases element.firstMatch (snapshot.memberWithin env context segmentDepth) env context
    (element.config.candidates snapshot.environment) with
  | ok found => rfl
  | error e => rfl

theorem conditional_criterionProbe {op : Operator} {property : String} {target : Option Value}
    (hop : op.readsProperty = true ∧ op ≠ .inSeg ∧ op ≠ .notInSeg)
    (hstored : snapshot.configs.get? "probe" = some element)
    (hprobe : element.config = .criterionProbe op property target) (env : Environment)
    (context : ContextSet) :
    (snapshot.match? env context "probe").map (·.conditional) =
      some (if op.holds (context.lookup? property) target then 0 else 1) := by
  have hcriterion : ∀ member, Criterion.holds member context ⟨some property, op, target⟩ =
      .ok (op.holds (context.lookup? property) target) := by
    intro member
    unfold Criterion.holds
    simp [hop]
  rw [match?_of_get? hstored, hprobe]
  cases hholds : op.holds (context.lookup? property) target with
  | true =>
      simp [Config.criterionProbe, Config.candidates, Element.firstMatch, Criterion.allHold,
        hcriterion, hholds, Element.matchOf, hprobe, ValueSource.resolve, Except.map, Functor.map,
        Except.toOption]
  | false =>
      simp [Config.criterionProbe, Config.candidates, Element.firstMatch, Criterion.allHold,
        hcriterion, hholds, Element.matchOf, hprobe, ValueSource.resolve, Except.map, Functor.map,
        Except.toOption]

theorem choice_choiceProbe {values : WeightedValues} {key : String}
    (hstored : snapshot.configs.get? key = some element)
    (hprobe : element.config = .choiceProbe values key) (env : Environment)
    (context : ContextSet) :
    (snapshot.match? env context key).map (fun m => (m.weighted, m.value)) =
      (values.select? key context).map fun choice => (some choice.1, choice.2) := by
  rw [match?_of_get? hstored, hprobe]
  cases hchoice : values.select? key context with
  | none =>
      simp [Config.choiceProbe, Config.candidates, Element.firstMatch, Criterion.allHold,
        Element.matchOf, hprobe, ValueSource.resolve, hchoice, Except.map, Functor.map,
        Except.toOption]
  | some choice =>
      simp [Config.choiceProbe, Config.candidates, Element.firstMatch, Criterion.allHold,
        Element.matchOf, hprobe, ValueSource.resolve, hchoice, Except.map, Functor.map,
        Except.toOption]

end Snapshot

/-- Whether a configuration has, wherever it is in force, a match in each of two contexts,
and not the same one. -/
def Config.TellsApart (config : Config) (a b : ContextSet) : Prop :=
  ∀ (snapshot : Snapshot) (env : Environment) (element : Element),
    snapshot.configs.get? config.key = some element → element.config = config →
    ∃ m m', snapshot.match? env a config.key = some m ∧
      snapshot.match? env b config.key = some m' ∧ m ≠ m'

section Probes

variable {a b : ContextSet}

theorem Config.criterionProbe_tellsApart {op : Operator} {property : String}
    {target : Option Value}
    (hne : op.holds (a.lookup? property) target ≠ op.holds (b.lookup? property) target) :
    (criterionProbe op property target).TellsApart a b := by
  intro snapshot env element hstored hprobe
  have hop := Operator.readsProperty_of_holds_ne hne
  obtain ⟨m, hm, hma⟩ := Option.map_eq_some_iff.mp
    (Snapshot.conditional_criterionProbe hop hstored hprobe env a)
  obtain ⟨m', hm', hmb⟩ := Option.map_eq_some_iff.mp
    (Snapshot.conditional_criterionProbe hop hstored hprobe env b)
  refine ⟨m, m', hm, hm', ?_⟩
  rintro rfl
  rw [hma] at hmb
  cases ha : op.holds (a.lookup? property) target <;>
    cases hb : op.holds (b.lookup? property) target <;> simp_all

theorem Config.choiceProbe_tellsApart {values : WeightedValues} {key : String}
    (hne : values.select? key a ≠ values.select? key b) :
    (choiceProbe values key).TellsApart a b := by
  intro snapshot env element hstored hprobe
  have hstored' : snapshot.configs.get? key = some element := hstored
  have ha := Snapshot.choice_choiceProbe hstored' hprobe env a
  have hb := Snapshot.choice_choiceProbe hstored' hprobe env b
  -- with no weight at all neither context would get a choice
  have htotal : values.totalWeight ≠ 0 := by
    intro hzero
    apply hne
    rw [(values.select?_eq_none_iff key a).mpr hzero,
      (values.select?_eq_none_iff key b).mpr hzero]
  obtain ⟨choice, hchoice⟩ := Option.ne_none_iff_exists'.mp
    fun hnone => htotal ((values.select?_eq_none_iff key a).mp hnone)
  obtain ⟨choice', hchoice'⟩ := Option.ne_none_iff_exists'.mp
    fun hnone => htotal ((values.select?_eq_none_iff key b).mp hnone)
  rw [hchoice, Option.map_some] at ha
  rw [hchoice', Option.map_some] at hb
  obtain ⟨m, hm, hma⟩ := Option.map_eq_some_iff.mp ha
  obtain ⟨m', hm', hmb⟩ := Option.map_eq_some_iff.mp hb
  refine ⟨m, m', hm, hm', ?_⟩
  rintro rfl
  rw [hma] at hmb
  apply hne
  rw [hchoice, hchoice']
  simp only [Prod.mk.injEq, Option.some.injEq] at hmb
  rw [Prod.ext hmb.1 hmb.2]

theorem ContextSet.exists_difference (h : ¬ a.Alike b) :
    (∃ (op : Operator) (property : String) (target : Option Value),
      op.holds (a.lookup? property) target ≠ op.holds (b.lookup? property) target) ∨
    ∃ (values : WeightedValues) (key : String), values.select? key a ≠ values.select? key b := by
  apply Classical.byContradiction
  intro hnone
  apply h
  constructor
  · intro op property target
    exact Classical.byContradiction fun hne => hnone (.inl ⟨op, property, target, hne⟩)
  · intro values key
    exact Classical.byContradiction fun hne => hnone (.inr ⟨values, key, hne⟩)

/-- Contexts that are not alike are told apart by some configuration. -/
theorem ContextSet.exists_probe (h : ¬ a.Alike b) :
    ∃ config : Config, config.isTombstone = false ∧ config.TellsApart a b := by
  rcases exists_difference h with ⟨op, property, target, hne⟩ | ⟨values, key, hne⟩
  · exact ⟨.criterionProbe op property target, rfl, Config.criterionProbe_tellsApart hne⟩
  · exact ⟨.choiceProbe values key, rfl, Config.choiceProbe_tellsApart hne⟩

end Probes
end LiveConfig
