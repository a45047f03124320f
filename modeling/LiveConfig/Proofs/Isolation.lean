import LiveConfig.Proofs.Alike
import LiveConfig.Proofs.FirstMatch
import Mathlib.Data.Set.Basic

/-!
# Keys whose evaluation cannot influence each other

An evaluation reads the configuration of its key and, through criteria, the segments
which these ask for, and theirs in turn.  So on a set of keys that is closed under such
references the configurations of all other keys are of no account: snapshots for one
environment that agree on the set evaluate its keys alike, with the same match, the same
absence or the same error (`Snapshot.evaluate_isolated`).  Whether a configuration outside
the set is malformed, refers to itself or is missing cannot be seen from within.
-/

namespace LiveConfig

/-- The segments that the criteria of a configuration ask for, in rows of any environment. -/
def Config.segments (config : Config) : List String :=
  config.rows.flatMap fun row =>
    row.values.flatMap fun value => value.criteria.filterMap Criterion.segment?

theorem Config.mem_segments_of_candidate {config : Config} {environment : Int}
    {candidate : Candidate} (hcandidate : candidate ∈ config.candidates environment)
    {criterion : Criterion} (hcriterion : criterion ∈ candidate.value.criteria) {segment : String}
    (hsegment : criterion.segment? = some segment) : segment ∈ config.segments := by
  obtain ⟨row, hrow, -, hvalue⟩ := (config.mem_candidates_iff _ _).mp hcandidate
  rw [segments, List.mem_flatMap]
  refine ⟨row, List.mem_of_getElem? hrow, ?_⟩
  rw [List.mem_flatMap]
  refine ⟨candidate.value, List.mem_of_getElem? hvalue, ?_⟩
  rw [List.mem_filterMap]
  exact ⟨criterion, hcriterion, hsegment⟩

namespace Snapshot

/-- Whether the segments that the configurations of the keys ask for are among the keys. -/
def ClosedUnderSegments (snapshot : Snapshot) (keys : Set String) : Prop :=
  ∀ key ∈ keys, ∀ element, snapshot.configs.get? key = some element →
    ∀ segment ∈ element.config.segments, segment ∈ keys

/-- The snapshots are for one environment, and each of the keys has the same
configuration in both or is missing from both. -/
structure AgreeOn (keys : Set String) (a b : Snapshot) : Prop where
  environment : a.environment = b.environment
  configs : ∀ key ∈ keys, a.configs.get? key = b.configs.get? key

section Agreement

variable {keys : Set String} {a b : Snapshot}

/-- One step of the recursion: what is asked about segments is answered alike, if their
keys belong to the set. -/
theorem evaluateWith_congr {member member' : Membership} {element : Element}
    (henvironment : a.environment = b.environment)
    (hsegments : ∀ segment ∈ element.config.segments, segment ∈ keys)
    (hmember : ∀ segment ∈ keys, member segment = member' segment) (env : Environment)
    (context : ContextSet) :
    a.evaluateWith member env context element = b.evaluateWith member' env context element := by
  unfold evaluateWith
  rw [henvironment]
  apply Element.firstMatch_congr (ContextSet.Alike.refl context)
  intro candidate hcandidate criterion hcriterion segment hsegment
  apply hmember
  apply hsegments
  exact Config.mem_segments_of_candidate hcandidate hcriterion hsegment

theorem memberWithin_congr_of_agreeOn (hclosed : a.ClosedUnderSegments keys)
    (hagree : AgreeOn keys a b) (env : Environment) (context : ContextSet) (depth : Nat) :
    ∀ segment ∈ keys, a.memberWithin env context depth segment =
      b.memberWithin env context depth segment := by
  induction depth with
  | zero =>
      intro segment _
      rfl
  | succ depth ih =>
      intro segment hsegment
      rw [memberWithin, memberWithin, ← hagree.configs segment hsegment]
      cases hstored : a.configs.get? segment with
      | none => rfl
      | some element =>
          have hsegments := hclosed segment hsegment element hstored
          simp only [evaluateWith_congr hagree.environment hsegments ih]

/-- At every depth of references, with the evaluation's own depth as one case. -/
theorem evaluateWithin_congr_of_agreeOn (hclosed : a.ClosedUnderSegments keys)
    (hagree : AgreeOn keys a b) {key : String} (hkey : key ∈ keys) (env : Environment)
    (context : ContextSet) (depth : Nat) :
    (a.configs.get? key).map (a.evaluateWithin env context depth) =
      (b.configs.get? key).map (b.evaluateWithin env context depth) := by
  rw [← hagree.configs key hkey]
  cases hstored : a.configs.get? key with
  | none => rfl
  | some element =>
      have hsegments := hclosed key hkey element hstored
      have hmember := memberWithin_congr_of_agreeOn hclosed hagree env context depth
      rw [Option.map_some, Option.map_some, evaluateWithin, evaluateWithin,
        evaluateWith_congr hagree.environment hsegments hmember]

/-- A reader gets what the evaluation finds, and nothing for an error. -/
theorem match?_eq_evaluate (snapshot : Snapshot) (env : Environment) (context : ContextSet)
    (key : String) : snapshot.match? env context key =
      (((snapshot.configs.get? key).map (snapshot.evaluate env context)).bind
        Except.toOption).join := by
  unfold match?
  cases snapshot.configs.get? key with
  | none => rfl
  | some element =>
      rw [Option.bind_eq_bind, Option.bind_some, Option.map_some, Option.bind_some]
      cases snapshot.evaluate env context element with
      | ok found => rfl
      | error e => rfl

/-- What a set of keys closed under segments evaluates to hangs on nothing else. -/
theorem evaluate_isolated (hclosed : a.ClosedUnderSegments keys) (hagree : AgreeOn keys a b)
    {key : String} (hkey : key ∈ keys) (env : Environment) (context : ContextSet) :
    (a.configs.get? key).map (a.evaluate env context) =
        (b.configs.get? key).map (b.evaluate env context) ∧
      a.match? env context key = b.match? env context key := by
  have hevaluate : (a.configs.get? key).map (a.evaluate env context) =
      (b.configs.get? key).map (b.evaluate env context) :=
    evaluateWithin_congr_of_agreeOn hclosed hagree hkey env context segmentDepth
  exact ⟨hevaluate, by rw [match?_eq_evaluate, match?_eq_evaluate, hevaluate]⟩

end Agreement

/-- A configuration that is true for those who are no members of a segment. -/
def outsiders (key segment : String) : Element where
  config :=
    { id := 1, key, kind := .segment, valueType := some .bool
      rows := [⟨none, [⟨[⟨none, .notInSeg, some (.string segment)⟩], .value (.bool true)⟩]⟩] }
  provenance := ⟨.remoteApi, none⟩

/-- A flag whose segment has no configuration. -/
def undisturbed : Snapshot :=
  { empty with configs := KeyMap.empty.insert "flag" (outsiders "flag" "beta") }

/-- The same with a segment that asks for itself. -/
def disturbed : Snapshot :=
  { undisturbed with configs := undisturbed.configs.insert "loop" (outsiders "loop" "loop") }

theorem flag_isolated_from_loop :
    disturbed.evaluate (fun _ => none) .empty (outsiders "loop" "loop") =
        .error (.segmentDepthExceeded "loop") ∧
      undisturbed.ClosedUnderSegments {"flag", "beta"} ∧
      AgreeOn {"flag", "beta"} undisturbed disturbed ∧
      (undisturbed.configs.get? "flag").map (undisturbed.evaluate (fun _ => none) .empty) =
        (disturbed.configs.get? "flag").map (disturbed.evaluate (fun _ => none) .empty) ∧
      undisturbed.match? (fun _ => none) .empty "flag" =
        disturbed.match? (fun _ => none) .empty "flag" := by
  have hclosed : undisturbed.ClosedUnderSegments {"flag", "beta"} := by
    rintro key (rfl | rfl) element hstored segment hsegment
    · cases hstored
      have hbeta : segment = "beta" := by
        simpa [outsiders, Config.segments, Criterion.segment?, Value.string?] using hsegment
      exact .inr hbeta
    · cases hstored
  have hagree : AgreeOn {"flag", "beta"} undisturbed disturbed := by
    refine ⟨rfl, ?_⟩
    rintro key (rfl | rfl) <;> rfl
  exact ⟨rfl, hclosed, hagree,
    evaluate_isolated hclosed hagree (.inl rfl) (fun _ => none) .empty⟩

end Snapshot
end LiveConfig
