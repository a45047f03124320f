import LiveConfig.Proofs.LocalFlags
import LiveConfig.Proofs.SegmentDepth
import LiveConfig.Proofs.Session

/-!
# Evaluation of local values

A layer of local values loads only if the criteria of its flags name the properties that
they look at, and it gives every key a plain value (`Config.Sound`).  So in a snapshot of
such layers an evaluation finds a match or finds none; the one error that is left is that
references to segments nest too deeply (`Loader.evaluate_local`).
-/

namespace LiveConfig

/-- Whether the criteria name the properties that they look at, and the value is plain. -/
structure ConditionalValue.Sound (conditional : ConditionalValue) : Prop where
  named : ∀ criterion ∈ conditional.criteria,
    criterion.operator.readsProperty = true → criterion.property.isSome = true
  plain : ∃ value, conditional.source = .value value

def Config.Sound (config : Config) : Prop :=
  ∀ row ∈ config.rows, ∀ conditional ∈ row.values, conditional.Sound

/-- Whether a result is no error, or the one that references nest too deeply. -/
def OnlyTooDeep (result : Except EvaluationError α) : Prop :=
  ∀ e, result = .error e → ∃ segment, e = .segmentDepthExceeded segment

theorem onlyTooDeep_ok (a : α) : OnlyTooDeep (.ok a) := nofun

theorem onlyTooDeep_error (segment : String) :
    OnlyTooDeep (.error (.segmentDepthExceeded segment) : Except EvaluationError α) := by
  rintro e ⟨⟩
  exact ⟨segment, rfl⟩

theorem OnlyTooDeep.map {result : Except EvaluationError α} (h : OnlyTooDeep result)
    (f : α → β) : OnlyTooDeep (result.map f) := by
  cases result with
  | ok a => exact onlyTooDeep_ok (f a)
  | error e =>
      obtain ⟨segment, rfl⟩ := h e rfl
      exact onlyTooDeep_error segment

/-! ## What loading makes sure of -/

namespace LocalValues

theorem named_of_fromObjects {key : String} {items : List Json} {criteria : List Criterion}
    (h : FromObjects key items criteria) :
    ∀ criterion ∈ criteria,
      criterion.operator.readsProperty = true → criterion.property.isSome = true := by
  unfold FromObjects at h
  generalize items.filterMap Json.members? = objects at h
  induction h with
  | nil => simp
  | cons hfirst _ ih => exact List.forall_mem_cons.mpr ⟨hfirst.named, ih⟩

theorem sound_of_config {key : String} {leaf : Leaf} {config : Config}
    (h : leaf.config key = .ok config) : config.Sound := by
  have hone : ∃ criteria value, config.rows = [⟨none, [⟨criteria, .value value⟩]⟩] ∧
      ∀ criterion ∈ criteria,
        criterion.operator.readsProperty = true → criterion.property.isSome = true := by
    cases leaf with
    | plain json =>
        obtain ⟨value, -, rfl⟩ := exists_of_map_eq_ok h
        exact ⟨[], value, rfl, by simp⟩
    | flag members =>
        obtain ⟨_, value, items, criteria, -, -, -, hobjects, rfl⟩ := flag_eq_ok_iff.mp h
        exact ⟨criteria, value, rfl, named_of_fromObjects hobjects⟩
  obtain ⟨criteria, value, hrows, hnamed⟩ := hone
  intro row hrow conditional hconditional
  rw [hrows, List.mem_singleton] at hrow
  subst hrow
  rw [List.mem_singleton.mp hconditional]
  exact ⟨hnamed, value, rfl⟩

theorem sound_of_load {members : List (String × Json)} {location : String}
    {layer : KeyMap Element} (h : load members location = .ok layer) :
    HoldsIn Config.Sound layer := by
  intro key element helement
  obtain ⟨leaf, -, hconfig⟩ := exists_leaf_of_load h helement
  exact sound_of_config hconfig

end LocalValues

/-! ## What an evaluation can end with -/

section Evaluation

variable {member : Membership} {context : ContextSet} {env : Environment}

theorem Criterion.onlyTooDeep_holds (hmember : ∀ segment, OnlyTooDeep (member segment))
    {criterion : Criterion}
    (hnamed : criterion.operator.readsProperty = true → criterion.property.isSome = true) :
    OnlyTooDeep (criterion.holds member context) := by
  have hasked : OnlyTooDeep (criterion.isMember member) := by
    unfold isMember
    split
    · exact hmember _
    · exact onlyTooDeep_ok false
  unfold holds
  split
  · exact hasked
  · exact hasked.map _
  · split
    · rename_i hreads
      obtain ⟨property, hproperty⟩ := Option.isSome_iff_exists.mp (hnamed hreads)
      rw [hproperty]
      exact onlyTooDeep_ok _
    · exact onlyTooDeep_ok _

theorem Criterion.onlyTooDeep_allHold (hmember : ∀ segment, OnlyTooDeep (member segment))
    {criteria : List Criterion}
    (hnamed : ∀ criterion ∈ criteria,
      criterion.operator.readsProperty = true → criterion.property.isSome = true) :
    OnlyTooDeep (allHold member context criteria) := by
  induction criteria with
  | nil => exact onlyTooDeep_ok true
  | cons criterion rest ih =>
      rw [List.forall_mem_cons] at hnamed
      have hfirst : OnlyTooDeep (criterion.holds member context) :=
        onlyTooDeep_holds hmember hnamed.1
      unfold allHold
      split
      · exact ih hnamed.2
      · exact onlyTooDeep_ok false
      · rename_i e herror
        obtain ⟨segment, rfl⟩ := hfirst e herror
        exact onlyTooDeep_error segment

theorem Element.onlyTooDeep_matchOf {element : Element} {candidate : Candidate}
    (h : candidate.value.Sound) : OnlyTooDeep (element.matchOf env context candidate) := by
  obtain ⟨value, hplain⟩ := h.plain
  rw [matchOf, hplain]
  exact onlyTooDeep_ok _

theorem Element.onlyTooDeep_firstMatch (hmember : ∀ segment, OnlyTooDeep (member segment))
    {element : Element} {candidates : List Candidate}
    (h : ∀ candidate ∈ candidates, candidate.value.Sound) :
    OnlyTooDeep (element.firstMatch member env context candidates) := by
  induction candidates with
  | nil => exact onlyTooDeep_ok none
  | cons candidate rest ih =>
      rw [List.forall_mem_cons] at h
      have hcriteria : OnlyTooDeep (Criterion.allHold member context candidate.value.criteria) :=
        Criterion.onlyTooDeep_allHold hmember h.1.named
      unfold firstMatch
      split
      · exact (onlyTooDeep_matchOf h.1).map some
      · exact ih h.2
      · rename_i e herror
        obtain ⟨segment, rfl⟩ := hcriteria e herror
        exact onlyTooDeep_error segment

theorem Config.sound_of_mem_candidates {config : Config} (h : config.Sound) (environment : Int) :
    ∀ candidate ∈ config.candidates environment, candidate.value.Sound := by
  intro candidate hcandidate
  obtain ⟨row, hrow, -, hvalue⟩ := (config.mem_candidates_iff _ _).mp hcandidate
  exact h row (List.mem_of_getElem? hrow) candidate.value (List.mem_of_getElem? hvalue)

namespace Snapshot

variable {snapshot : Snapshot}

theorem onlyTooDeep_evaluateWith (hmember : ∀ segment, OnlyTooDeep (member segment))
    {element : Element} (h : element.config.Sound) :
    OnlyTooDeep (snapshot.evaluateWith member env context element) :=
  Element.onlyTooDeep_firstMatch hmember (Config.sound_of_mem_candidates h snapshot.environment)

/-- A segment is a configuration of the same snapshot, so the recursion stays among sound
ones. -/
theorem onlyTooDeep_memberWithin (h : HoldsIn Config.Sound snapshot.configs) (depth : Nat)
    (segment : String) : OnlyTooDeep (snapshot.memberWithin env context depth segment) := by
  induction depth generalizing segment with
  | zero => exact onlyTooDeep_error segment
  | succ depth ih =>
      unfold memberWithin
      split
      · exact onlyTooDeep_ok false
      · rename_i element hstored
        exact (onlyTooDeep_evaluateWith ih (h segment element hstored)).map _

theorem onlyTooDeep_evaluate (h : HoldsIn Config.Sound snapshot.configs) {element : Element}
    (helement : element.config.Sound) :
    OnlyTooDeep (snapshot.evaluate env context element) :=
  onlyTooDeep_evaluateWith (onlyTooDeep_memberWithin h segmentDepth) helement

end Snapshot

end Evaluation

/-! ## Snapshots of local values -/

namespace Loader

section Layers

variable {base top : List (String × Json)} {location location' : String} {loader : Loader}

theorem sound_local (hbaseline : LocalValues.load base location = .ok loader.baseline)
    (hoverrides : LocalValues.load top location' = .ok loader.overrides)
    (hnothing : loader.delivered.configs = .empty) :
    HoldsIn Config.Sound loader.snapshot.configs := by
  unfold snapshot
  rw [hnothing]
  exact ((LocalValues.sound_of_load hbaseline).overlay .empty).overlay
    (LocalValues.sound_of_load hoverrides)

/-- Where the server has delivered no configuration, every key evaluates to a match or to
none, unless a chain of references from its configuration is longer than the limit. -/
theorem evaluate_local (hbaseline : LocalValues.load base location = .ok loader.baseline)
    (hoverrides : LocalValues.load top location' = .ok loader.overrides)
    (hnothing : loader.delivered.configs = .empty) {key : String} {element : Element}
    (hstored : loader.snapshot.configs.get? key = some element) (env : Environment)
    (context : ContextSet) :
    (∃ found, loader.snapshot.evaluate env context element = .ok found) ∨
      ∃ earlier segment, loader.snapshot.evaluate env context element =
          .error (.segmentDepthExceeded segment) ∧
        loader.snapshot.Chain element.config (earlier ++ [segment]) ∧
        earlier.length = Snapshot.segmentDepth := by
  have hsound := sound_local hbaseline hoverrides hnothing
  cases hresult : loader.snapshot.evaluate env context element with
  | ok found => exact .inl ⟨found, rfl⟩
  | error e =>
      obtain ⟨segment, rfl⟩ :=
        Snapshot.onlyTooDeep_evaluate hsound (hsound key element hstored) e hresult
      obtain ⟨earlier, hchain, hlength⟩ := Snapshot.exists_chain_of_exceeded hresult
      exact .inr ⟨earlier, segment, rfl, hchain, hlength⟩

/-- A flag for the members of the segment that it is itself. -/
def loopFlag : List (String × Json) :=
  [("criteria", .obj [("operator", .str "IN_SEG"), ("values", .str "loop")]),
    ("feature_flag", .bool true), ("value", .bool true)]

def loopElement : Element :=
  ⟨⟨0, "loop", [⟨none, [⟨[⟨none, .inSeg, some (.string "loop")⟩], .value (.bool true)⟩]⟩],
    .featureFlag, some .bool⟩, ⟨.localOnly, some "baseline"⟩⟩

def selfReferring : Loader where
  baseline := KeyMap.empty.insert "loop" loopElement
  overrides := .empty
  globals := .empty

theorem load_loopFlag :
    LocalValues.load [("loop", .obj loopFlag)] "baseline" = .ok selfReferring.baseline := by
  have hcriterion : Criterion.DescribedBy "loop" [("operator", .str "IN_SEG"),
      ("values", .str "loop")] ⟨none, .inSeg, some (.string "loop")⟩ := by
    constructor
    case operator =>
      change Operator.ofName? "IN_SEG" = some .inSeg
      decide +kernel
    case property => rfl
    case named => nofun
    case target => exact ⟨.str "loop", .string "loop", rfl, rfl, rfl⟩
  have hflag : LocalValues.flag "loop" loopFlag = .ok loopElement.config :=
    LocalValues.flag_eq_ok_iff.mpr
      ⟨.bool true, .bool true, _, _, rfl, rfl, rfl, .cons hcriterion .nil, rfl⟩
  have hleaves : LocalValues.layerLeaves [("loop", .obj loopFlag)] = [("loop", .flag loopFlag)] :=
    rfl
  simp only [LocalValues.load, hleaves, List.foldlM_cons, LocalValues.Leaf.config, hflag]
  rfl

theorem evaluate_local_self_referring :
    selfReferring.snapshot.evaluate (fun _ => none) .empty loopElement =
        .error (.segmentDepthExceeded "loop") ∧
      ∃ earlier, selfReferring.snapshot.Chain loopElement.config (earlier ++ ["loop"]) ∧
        earlier.length = Snapshot.segmentDepth := by
  have hoverrides : LocalValues.load [] "overrides" = .ok selfReferring.overrides := rfl
  have hstored : selfReferring.snapshot.configs.get? "loop" = some loopElement := rfl
  have hresult : selfReferring.snapshot.evaluate (fun _ => none) .empty loopElement =
      .error (.segmentDepthExceeded "loop") := rfl
  refine ⟨hresult, ?_⟩
  rcases evaluate_local load_loopFlag hoverrides rfl hstored (fun _ => none) .empty with
    ⟨found, hfound⟩ | ⟨earlier, segment, herror, hchain, hlength⟩
  · rw [hresult] at hfound
    cases hfound
  · rw [hresult] at herror
    cases herror
    exact ⟨earlier, hchain, hlength⟩

end Layers

end Loader
end LiveConfig
