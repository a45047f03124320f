import LiveConfig.Evaluation
import LiveConfig.Proofs.Numerals
import Mathlib.Data.List.Infix

/-!
# Operators and their opposites

Operators that ask the opposite questions never hold together.  One of them holds where the
operator applies (`Operator.Applies`), and where it does not apply neither of them does
(`Operator.Opposite.holds_eq`): a property that is not there is not one of some values, and
it is not none of them either.  Membership in a segment always has an answer or an error.
-/

namespace LiveConfig

theorem Text.occursIn_iff_infix (part text : List Char) :
    occursIn part text = true ↔ part <:+: text := by
  induction text with
  | nil => simp [occursIn]
  | cons c rest ih =>
      rw [occursIn, Bool.or_eq_true, List.isPrefixOf_iff_prefix, ih, List.infix_cons_iff]

theorem Double.compare?_isSome_iff (a b : Double) :
    (a.compare? b).isSome ↔ a.isNaN = false ∧ b.isNaN = false := by
  simp [compare?]

namespace Operator

/-- A value of one of the types that have a text to compare. -/
def Scalar (value : Value) : Prop := value.type ≠ .stringList ∧ value.type ≠ .json

/-- A value that stands for a place in the order of the numbers. -/
def Ordered (value : Value) : Prop := ∃ number, number? value = some number ∧ number.isNaN = false

/-- What the operator needs of the property and the target, if both are there. -/
def Suits (op : Operator) (property target : Value) : Prop :=
  match op with
  | alwaysTrue => True
  | propIsOneOf | propIsNotOneOf | propStartsWithOneOf | propDoesNotStartWithOneOf
  | propEndsWithOneOf | propDoesNotEndWithOneOf | propContainsOneOf
  | propDoesNotContainOneOf => Scalar property ∧ target.type ≠ .json
  | propMatches | propDoesNotMatch =>
    Scalar property ∧ ∃ pattern, target = .string pattern ∧ (Regex.parse? pattern).isSome
  | propGreaterThan | propGreaterThanOrEqual | propLessThan | propLessThanOrEqual =>
    Ordered property ∧ Ordered target
  | propSemverEqual | propSemverGreaterThan | propSemverLessThan =>
    (version? property).isSome ∧ (version? target).isSome
  | inIntRange =>
    (integer? property).isSome ∧ ∃ range, target = .json range ∧
      ∀ name ∈ ["start", "end"], ∀ bound, range.member? name = some bound → bound.int64?.isSome
  | inSeg | notInSeg => False

/-- Whether the operator has an answer for what is there of a property and a target. -/
def Applies (op : Operator) (property target : Option Value) : Prop :=
  op = alwaysTrue ∨ ∃ p t, property = some p ∧ target = some t ∧ op.Suits p t

theorem matchText?_isSome_iff (value : Value) : value.matchText?.isSome ↔ Scalar value := by
  cases value <;> simp [Value.matchText?, Scalar, Value.type]

theorem matchSet?_isSome_iff (value : Value) : (matchSet? value).isSome ↔ value.type ≠ .json := by
  cases value <;> simp [matchSet?, Value.matchText?, Value.type]

theorem someRelated_isSome_iff (relation : Relation) (p t : Value) :
    (someRelated relation (some p) (some t)).isSome ↔ Scalar p ∧ t.type ≠ .json := by
  rw [← matchText?_isSome_iff, ← matchSet?_isSome_iff]
  cases htext : p.matchText? <;> cases hparts : matchSet? t <;>
    simp [someRelated, htext, hparts]

theorem matchesPattern_isSome_iff (p t : Value) :
    (matchesPattern (some p) (some t)).isSome ↔
      Scalar p ∧ ∃ pattern, t = .string pattern ∧ (Regex.parse? pattern).isSome := by
  rw [← matchText?_isSome_iff]
  cases htext : p.matchText? <;> cases t <;>
    simp [matchesPattern, htext, Value.string?, Regex.isMatch?]

theorem ordered_int (i : Int64) : Ordered (.int i) :=
  ⟨_, rfl, Double.isNaN_ofInt _⟩

theorem compareNumbers_isSome_iff (p t : Value) :
    (compareNumbers (some p) (some t)).isSome ↔ Ordered p ∧ Ordered t := by
  by_cases hint : (∃ a, p = .int a) ∧ ∃ b, t = .int b
  · obtain ⟨⟨a, rfl⟩, b, rfl⟩ := hint
    simp [compareNumbers, ordered_int]
  · have hcompare : compareNumbers (some p) (some t) =
        (number? p).bind fun a => (number? t).bind fun b => a.compare? b := by
      cases p <;> cases t <;> first | rfl | simp at hint
    rw [hcompare]
    cases hp : number? p <;> cases ht : number? t <;>
      simp [Ordered, hp, ht, Double.compare?_isSome_iff]

theorem compareVersions_isSome_iff (p t : Value) :
    (compareVersions (some p) (some t)).isSome ↔ (version? p).isSome ∧ (version? t).isSome := by
  cases hp : version? p <;> cases ht : version? t <;> simp [compareVersions, hp, ht]

theorem bound?_isSome_iff (range : Json) (name : String) (default : Int64) :
    (bound? range name default).isSome ↔
      ∀ bound, range.member? name = some bound → bound.int64?.isSome := by
  unfold bound?
  split <;> simp_all

theorem inRange_isSome_iff (p t : Value) :
    (inRange (some p) (some t)).isSome ↔
      (integer? p).isSome ∧ ∃ range, t = .json range ∧ ∀ name ∈ ["start", "end"], ∀ bound,
        range.member? name = some bound → bound.int64?.isSome := by
  cases t with
  | json range =>
      have hbounds : (∀ name ∈ ["start", "end"], ∀ bound,
          range.member? name = some bound → bound.int64?.isSome) ↔
          (bound? range "start" Int64.minValue).isSome ∧
            (bound? range "end" Int64.maxValue).isSome := by
        simp [bound?_isSome_iff]
      simp only [Value.json.injEq, exists_eq_left', hbounds]
      cases hvalue : integer? p <;> cases hstart : bound? range "start" Int64.minValue <;>
        cases hstop : bound? range "end" Int64.maxValue <;>
        simp [inRange, hvalue, hstart, hstop]
  | _ => simp [inRange]

theorem answer?_isSome_iff_suits (op : Operator) (p t : Value) :
    (op.answer? (some p) (some t)).isSome ↔ op.Suits p t := by
  cases op <;> simp [answer?, Suits, someRelated_isSome_iff, matchesPattern_isSome_iff,
    compareNumbers_isSome_iff, compareVersions_isSome_iff, inRange_isSome_iff]

theorem answer?_none_property {op : Operator} (h : op ≠ alwaysTrue) (target : Option Value) :
    op.answer? none target = none := by
  cases op <;> first | rfl | exact absurd rfl h

theorem answer?_none_target {op : Operator} (h : op ≠ alwaysTrue) (property : Option Value) :
    op.answer? property none = none := by
  cases op <;> cases property <;>
    simp_all [answer?, someRelated, matchesPattern, compareNumbers, compareVersions, inRange]

/-- An operator answers exactly where it applies. -/
theorem answer?_isSome_iff (op : Operator) (property target : Option Value) :
    (op.answer? property target).isSome ↔ op.Applies property target := by
  by_cases hop : op = alwaysTrue
  · simp [hop, answer?, Applies]
  · cases property with
    | none => simp [hop, answer?_none_property, Applies]
    | some p =>
        cases target with
        | none => simp [hop, answer?_none_target, Applies]
        | some t => simp [hop, answer?_isSome_iff_suits, Applies]

/-- Two operators that ask opposite questions, the affirmative one first. -/
inductive Opposite : Operator → Operator → Prop
  | isOneOf : Opposite propIsOneOf propIsNotOneOf
  | startsWith : Opposite propStartsWithOneOf propDoesNotStartWithOneOf
  | endsWith : Opposite propEndsWithOneOf propDoesNotEndWithOneOf
  | contains : Opposite propContainsOneOf propDoesNotContainOneOf
  | matches : Opposite propMatches propDoesNotMatch
  | greater : Opposite propGreaterThan propLessThanOrEqual
  | less : Opposite propLessThan propGreaterThanOrEqual

section Opposite

variable {op opposite : Operator}

theorem Opposite.answer?_eq (h : Opposite op opposite) (property target : Option Value) :
    opposite.answer? property target = (op.answer? property target).map (!·) := by
  cases h <;> simp [answer?, Function.comp_def]

theorem Opposite.applies_iff (h : Opposite op opposite) (property target : Option Value) :
    opposite.Applies property target ↔ op.Applies property target := by
  rw [← answer?_isSome_iff, ← answer?_isSome_iff, h.answer?_eq, Option.isSome_map]

theorem holds_of_not_applies {property target : Option Value} (h : ¬ op.Applies property target) :
    op.holds property target = false := by
  rw [← answer?_isSome_iff, Option.not_isSome_iff_eq_none] at h
  rw [holds, h, Option.getD_none]

theorem Opposite.holds_eq (h : Opposite op opposite) {property target : Option Value}
    (happlies : op.Applies property target) :
    opposite.holds property target = !op.holds property target := by
  rw [← answer?_isSome_iff, Option.isSome_iff_exists] at happlies
  obtain ⟨answer, hanswer⟩ := happlies
  rw [holds, holds, h.answer?_eq, hanswer, Option.map_some, Option.getD_some, Option.getD_some]

end Opposite

/-- The operator that asks whether the property is so related to one of several values. -/
def Relation.operator : Relation → Operator
  | equals => propIsOneOf
  | startsWith => propStartsWithOneOf
  | endsWith => propEndsWithOneOf
  | contains => propContainsOneOf

def Relation.Relates (relation : Relation) (text part : String) : Prop :=
  match relation with
  | equals => part = text
  | startsWith => part.toList <+: text.toList
  | endsWith => part.toList <:+ text.toList
  | contains => part.toList <:+: text.toList

/-- The strings to compare with: the items of a list, or the one text of a scalar. -/
inductive InMatchSet (part : String) : Value → Prop
  | item {items : List String} (h : part ∈ items) : InMatchSet part (.stringList items)
  | scalar {value : Value} (h : value.matchText? = some part) : InMatchSet part value

section Relation

variable {property target : Option Value}

theorem Relation.holds_iff (relation : Relation) (text part : String) :
    relation.holds text part = true ↔ relation.Relates text part := by
  cases relation <;> simp [holds, Relates, Text.occursIn_iff_infix]

theorem inMatchSet_iff (part : String) (value : Value) :
    InMatchSet part value ↔ ∃ parts, matchSet? value = some parts ∧ part ∈ parts := by
  constructor
  · rintro (⟨hitem⟩ | ⟨htext⟩)
    · exact ⟨_, rfl, hitem⟩
    · cases value <;> simp_all [matchSet?, Value.matchText?]
  · rintro ⟨parts, hparts, hpart⟩
    cases value with
    | stringList items =>
        cases hparts
        exact .item hpart
    | _ =>
        simp only [matchSet?, Option.map_eq_some_iff] at hparts
        obtain ⟨text, htext, rfl⟩ := hparts
        rw [List.mem_singleton.mp hpart]
        exact .scalar htext

theorem holds_relation_iff (relation : Relation) :
    relation.operator.holds property target = true ↔
      ∃ p t text part, property = some p ∧ target = some t ∧ p.matchText? = some text ∧
        InMatchSet part t ∧ relation.Relates text part := by
  have hanswer : relation.operator.answer? property target =
      someRelated relation property target := by
    cases relation <;> rfl
  have hsome : relation.operator.holds property target = true ↔
      someRelated relation property target = some true := by
    rw [holds, hanswer]
    cases someRelated relation property target <;> simp
  simp only [hsome, someRelated, Option.bind_eq_bind, Option.bind_eq_some_iff, inMatchSet_iff,
    ← Relation.holds_iff, Option.pure_def, Option.some.injEq, List.any_eq_true]
  constructor
  · rintro ⟨p, hp, text, htext, t, ht, parts, hparts, part, hpart, hholds⟩
    exact ⟨p, t, text, part, hp, ht, htext, ⟨parts, hparts, hpart⟩, hholds⟩
  · rintro ⟨p, t, text, part, hp, ht, htext, ⟨parts, hparts, hpart⟩, hholds⟩
    exact ⟨p, hp, text, htext, t, ht, parts, hparts, part, hpart, hholds⟩

theorem holds_relation_mono (relation weaker : Relation)
    (himp : ∀ text part, relation.Relates text part → weaker.Relates text part)
    (h : relation.operator.holds property target = true) :
    weaker.operator.holds property target = true := by
  rw [holds_relation_iff] at h ⊢
  obtain ⟨p, t, text, part, hproperty, htarget, htext, hpart, hrelates⟩ := h
  exact ⟨p, t, text, part, hproperty, htarget, htext, hpart, himp text part hrelates⟩

end Relation

end Operator

theorem Criterion.notInSeg_holds_eq (member : Membership) (context : ContextSet)
    (name name' : Option String) (target : Option Value) :
    holds member context ⟨name', .notInSeg, target⟩ =
      (holds member context ⟨name, .inSeg, target⟩).map (!·) := rfl

/-- Of two operators that ask opposite questions exactly one holds, or neither applies and
neither holds.  Of the operators on several values, one that asks for less holds wherever one
that asks for more does.  A segment has the context or has it not, unless following the
reference to it fails, whichever of the two was asked. -/
theorem Operator.opposites_disagree_or_abstain (property target : Option Value) :
    (∀ op opposite, Opposite op opposite →
      op.Applies property target ∧ opposite.holds property target = !op.holds property target ∨
      ¬ op.Applies property target ∧ op.holds property target = false ∧
        opposite.holds property target = false) ∧
    (∀ relation : Relation, relation.operator.holds property target = true ↔
      ∃ p t text part, property = some p ∧ target = some t ∧ p.matchText? = some text ∧
        InMatchSet part t ∧ relation.Relates text part) ∧
    (propIsOneOf.holds property target = true →
      propStartsWithOneOf.holds property target = true ∧
        propEndsWithOneOf.holds property target = true) ∧
    (propStartsWithOneOf.holds property target = true ∨
        propEndsWithOneOf.holds property target = true →
      propContainsOneOf.holds property target = true) ∧
    ∀ (member : Membership) (context : ContextSet) (name name' : Option String),
      let inside := Criterion.holds member context ⟨name, .inSeg, target⟩
      let outside := Criterion.holds member context ⟨name', .notInSeg, target⟩
      (∃ e, inside = .error e ∧ outside = .error e) ∨
        ∃ answer, inside = .ok answer ∧ outside = .ok (!answer) := by
  refine ⟨?_, fun _ => holds_relation_iff _, ?_, ?_, ?_⟩
  · intro op opposite h
    by_cases happlies : op.Applies property target
    · exact .inl ⟨happlies, h.holds_eq happlies⟩
    · have hopposite := mt (h.applies_iff property target).mp happlies
      exact .inr ⟨happlies, holds_of_not_applies happlies, holds_of_not_applies hopposite⟩
  · intro h
    constructor
    · exact holds_relation_mono .equals .startsWith
        (fun text part heq => heq ▸ List.prefix_rfl) h
    · exact holds_relation_mono .equals .endsWith
        (fun text part heq => heq ▸ List.suffix_rfl) h
  · rintro (h | h)
    · exact holds_relation_mono .startsWith .contains
        (fun text part hstart => List.IsPrefix.isInfix hstart) h
    · exact holds_relation_mono .endsWith .contains
        (fun text part hend => List.IsSuffix.isInfix hend) h
  · intro member context name name' inside outside
    have houtside : outside = inside.map (!·) := Criterion.notInSeg_holds_eq ..
    cases hinside : inside with
    | error e => exact .inl ⟨e, rfl, by rw [houtside, hinside]; rfl⟩
    | ok answer => exact .inr ⟨answer, rfl, by rw [houtside, hinside]; rfl⟩

/-- Of an address at the wrong domain each of the two operators on its end has its answer. -/
theorem Operator.opposites_disagree_or_abstain_domain :
    let address : Option Value := some (.string "jane@example.com")
    let domains : Option Value := some (.stringList ["@example.org", "@example.net"])
    propDoesNotEndWithOneOf.holds address domains = !propEndsWithOneOf.holds address domains ∧
      propDoesNotEndWithOneOf.holds none domains = propEndsWithOneOf.holds none domains := by
  intro address domains
  have happlies : propEndsWithOneOf.Applies address domains :=
    .inr ⟨_, _, rfl, rfl, ⟨by decide, by decide⟩, by decide⟩
  have habsent : ¬ propEndsWithOneOf.Applies none domains := by
    simp [Applies]
  obtain ⟨hthere, -⟩ := opposites_disagree_or_abstain address domains
  obtain ⟨hnone, -⟩ := opposites_disagree_or_abstain none domains
  constructor
  · rcases hthere _ _ .endsWith with ⟨_, hopposite⟩ | ⟨hnot, _⟩
    · exact hopposite
    · exact absurd happlies hnot
  · rcases hnone _ _ .endsWith with ⟨hholds, _⟩ | ⟨_, hends, hdoesNot⟩
    · exact absurd hholds habsent
    · rw [hends, hdoesNot]

end LiveConfig
