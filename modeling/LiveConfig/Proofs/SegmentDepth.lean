import LiveConfig.Proofs.FirstMatch
import LiveConfig.Proofs.Isolation
import Mathlib.Tactic.IntervalCases

/-!
# The limit on nested segments

References to segments are followed to a limited depth.  The limit decides nothing but
whether an evaluation ends with the error that says so: any other result is also the
result under every higher limit.  That error names the end of a chain of references which
is longer than the limit, so configurations without such a chain never meet it
(`Snapshot.segment_limit_harmless`).

Both come from what a criterion does with an answer about a segment
(`Criterion.holds_exceeded_iff`): it asks for one segment at most and hands the error on.
-/

namespace LiveConfig

/-- Whether the result is not that references nest too deeply. -/
def WithinDepth (result : Except EvaluationError α) : Prop :=
  ∀ segment, result ≠ .error (.segmentDepthExceeded segment)

theorem map_exceeded_iff {result : Except EvaluationError α} (f : α → β) (segment : String) :
    result.map f = .error (.segmentDepthExceeded segment) ↔
      result = .error (.segmentDepthExceeded segment) := by
  cases result with
  | ok a => simp [Except.map]
  | error e => simp [Except.map]

theorem withinDepth_map_iff {result : Except EvaluationError α} (f : α → β) :
    WithinDepth (result.map f) ↔ WithinDepth result :=
  forall_congr' fun segment => not_congr (map_exceeded_iff f segment)

/-! ## What is handed on -/

section HandedOn

variable {member member' : Membership} {context : ContextSet}

theorem Criterion.isMember_exceeded_iff (criterion : Criterion) (segment : String) :
    criterion.isMember member = .error (.segmentDepthExceeded segment) ↔
      ∃ asked, criterion.target.bind Value.string? = some asked ∧
        member asked = .error (.segmentDepthExceeded segment) := by
  unfold isMember
  cases criterion.target.bind Value.string? with
  | none => simp
  | some asked => simp

/-- A criterion exceeds the depth exactly if the answer about its segment does. -/
theorem Criterion.holds_exceeded_iff (criterion : Criterion) (segment : String) :
    criterion.holds member context = .error (.segmentDepthExceeded segment) ↔
      ∃ asked, criterion.segment? = some asked ∧
        member asked = .error (.segmentDepthExceeded segment) := by
  unfold holds segment?
  split
  · exact criterion.isMember_exceeded_iff segment
  · rw [map_exceeded_iff]
    exact criterion.isMember_exceeded_iff segment
  · cases criterion.property with
    | none => split <;> simp
    | some property => split <;> simp

theorem Criterion.exists_of_allHold_exceeded {criteria : List Criterion} {segment : String}
    (h : allHold member context criteria = .error (.segmentDepthExceeded segment)) :
    ∃ criterion ∈ criteria,
      criterion.holds member context = .error (.segmentDepthExceeded segment) := by
  obtain ⟨earlier, criterion, later, rfl, -, -, hstop⟩ := (stopsAt_iff criteria).mpr ⟨by simp, h⟩
  exact ⟨criterion, by simp, hstop⟩

theorem ValueSource.withinDepth_resolve (env : Environment) (config : Config)
    (source : ValueSource) : WithinDepth (source.resolve env context config) := by
  intro segment
  unfold resolve
  split
  · simp
  · split <;> simp
  · split <;> simp

theorem Element.withinDepth_matchOf (env : Environment) (element : Element)
    (candidate : Candidate) : WithinDepth (element.matchOf env context candidate) := by
  intro segment h
  cases hresolve : candidate.value.source.resolve env context element.config with
  | error e =>
      rw [matchOf, hresolve] at h
      cases h
      exact candidate.value.source.withinDepth_resolve env element.config segment hresolve
  | ok choice =>
      rw [matchOf, hresolve] at h
      cases h

/-- The error comes from a segment that some criterion of a candidate asks for. -/
theorem Element.exists_of_firstMatch_exceeded {env : Environment} {element : Element}
    {candidates : List Candidate} {segment : String}
    (h : element.firstMatch member env context candidates =
      .error (.segmentDepthExceeded segment)) :
    ∃ candidate ∈ candidates, ∃ criterion ∈ candidate.value.criteria, ∃ asked,
      criterion.segment? = some asked ∧ member asked = .error (.segmentDepthExceeded segment) := by
  induction candidates with
  | nil => cases h
  | cons candidate rest ih =>
      unfold firstMatch at h
      split at h
      · rw [map_exceeded_iff] at h
        exact absurd h (element.withinDepth_matchOf env candidate segment)
      · obtain ⟨later, hlater, hasked⟩ := ih h
        exact ⟨later, List.mem_cons_of_mem _ hlater, hasked⟩
      · rename_i e hall
        cases h
        obtain ⟨criterion, hcriterion, hholds⟩ := Criterion.exists_of_allHold_exceeded hall
        exact ⟨candidate, List.mem_cons_self, criterion, hcriterion,
          (criterion.holds_exceeded_iff segment).mp hholds⟩

/-! ## More depth -/

/-- Whether the second tells the same of every segment of which the first tells within its
depth. -/
def Membership.Deepens (member member' : Membership) : Prop :=
  ∀ segment, WithinDepth (member segment) → member' segment = member segment

theorem Criterion.holds_of_deepens (hdeeper : member.Deepens member') {criterion : Criterion}
    (h : WithinDepth (criterion.holds member context)) :
    criterion.holds member' context = criterion.holds member context := by
  refine holds_congr (ContextSet.Alike.refl context) fun asked hasked => hdeeper asked ?_
  intro segment hmember
  exact h segment ((criterion.holds_exceeded_iff segment).mpr ⟨asked, hasked, hmember⟩)

theorem Criterion.allHold_of_deepens (hdeeper : member.Deepens member')
    {criteria : List Criterion} (h : WithinDepth (allHold member context criteria)) :
    allHold member' context criteria = allHold member context criteria := by
  induction criteria with
  | nil => rfl
  | cons criterion rest ih =>
      have hfirst : criterion.holds member' context = criterion.holds member context := by
        apply holds_of_deepens hdeeper
        intro segment hholds
        apply h segment
        rw [allHold, hholds]
      unfold allHold at h ⊢
      rw [hfirst]
      -- the rest is asked only where the first criterion is true
      split
      · rename_i htrue
        rw [htrue] at h
        exact ih h
      · rfl
      · rfl

theorem Element.firstMatch_of_deepens (hdeeper : member.Deepens member') (env : Environment)
    (element : Element) {candidates : List Candidate}
    (h : WithinDepth (element.firstMatch member env context candidates)) :
    element.firstMatch member' env context candidates =
      element.firstMatch member env context candidates := by
  induction candidates with
  | nil => rfl
  | cons candidate rest ih =>
      have hfirst : Criterion.allHold member' context candidate.value.criteria =
          Criterion.allHold member context candidate.value.criteria := by
        apply Criterion.allHold_of_deepens hdeeper
        intro segment hall
        apply h segment
        rw [firstMatch, hall]
      unfold firstMatch at h ⊢
      rw [hfirst]
      split
      · rfl
      · rename_i hfalse
        rw [hfalse] at h
        exact ih h
      · rfl

end HandedOn

namespace Snapshot

variable {snapshot : Snapshot} {env : Environment} {context : ContextSet}

theorem memberWithin_deepens (snapshot : Snapshot) (env : Environment) (context : ContextSet)
    {depth deeper : Nat} (h : depth ≤ deeper) :
    (snapshot.memberWithin env context depth).Deepens
      (snapshot.memberWithin env context deeper) := by
  induction depth generalizing deeper with
  | zero =>
      intro segment hwithin
      exact absurd rfl (hwithin segment)
  | succ depth ih =>
      obtain ⟨deeper, rfl⟩ := Nat.exists_eq_add_one_of_ne_zero (Nat.ne_zero_of_lt h)
      intro segment hwithin
      unfold memberWithin at hwithin ⊢
      cases hstored : snapshot.configs.get? segment with
      | none => rfl
      | some element =>
          simp only [hstored] at hwithin ⊢
          rw [withinDepth_map_iff] at hwithin
          have hdeeper := ih (Nat.le_of_succ_le_succ h)
          rw [evaluateWith, element.firstMatch_of_deepens hdeeper env hwithin, evaluateWith]

/-- A result within the depth stands at every greater depth. -/
theorem evaluateWithin_of_le {element : Element} {depth deeper : Nat}
    (h : WithinDepth (snapshot.evaluateWithin env context depth element)) (hle : depth ≤ deeper) :
    snapshot.evaluateWithin env context deeper element =
      snapshot.evaluateWithin env context depth element :=
  element.firstMatch_of_deepens (snapshot.memberWithin_deepens env context hle) env h

/-! ## Chains of references -/

/-- The segments are a chain of references from a configuration on: it asks for the first,
and the configuration of each one for the next.  A segment without a configuration can only
be the last. -/
inductive Chain (snapshot : Snapshot) : Config → List String → Prop
  | link {config : Config} {segment : String} (hasked : segment ∈ config.segments) :
      Chain snapshot config [segment]
  | cons {config : Config} {segment : String} {element : Element} {rest : List String}
      (hasked : segment ∈ config.segments) (hstored : snapshot.configs.get? segment = some element)
      (hrest : Chain snapshot element.config rest) : Chain snapshot config (segment :: rest)

theorem exists_asked_of_exceeded {member : Membership} {element : Element} {segment : String}
    (h : snapshot.evaluateWith member env context element =
      .error (.segmentDepthExceeded segment)) :
    ∃ asked ∈ element.config.segments, member asked = .error (.segmentDepthExceeded segment) := by
  obtain ⟨candidate, hcandidate, criterion, hcriterion, asked, hasked, hmember⟩ :=
    Element.exists_of_firstMatch_exceeded h
  exact ⟨asked, Config.mem_segments_of_candidate hcandidate hcriterion hasked, hmember⟩

theorem exists_chain_of_member_exceeded {depth : Nat} {asked segment : String} {config : Config}
    (hasked : asked ∈ config.segments)
    (h : snapshot.memberWithin env context depth asked =
      .error (.segmentDepthExceeded segment)) :
    ∃ earlier, snapshot.Chain config (earlier ++ [segment]) ∧ earlier.length = depth := by
  induction depth generalizing asked config with
  | zero =>
      cases h
      exact ⟨[], .link hasked, rfl⟩
  | succ depth ih =>
      unfold memberWithin at h
      cases hstored : snapshot.configs.get? asked with
      | none =>
          rw [hstored] at h
          cases h
      | some element =>
          simp only [hstored] at h
          rw [map_exceeded_iff] at h
          obtain ⟨next, hnext, hmember⟩ := exists_asked_of_exceeded h
          obtain ⟨earlier, hchain, hlength⟩ := ih hnext hmember
          exact ⟨asked :: earlier, .cons hasked hstored hchain, congrArg (· + 1) hlength⟩

/-- An evaluation that exceeds its depth has met a chain with one link more. -/
theorem exists_chain_of_exceeded {depth : Nat} {segment : String} {element : Element}
    (h : snapshot.evaluateWithin env context depth element =
      .error (.segmentDepthExceeded segment)) :
    ∃ earlier, snapshot.Chain element.config (earlier ++ [segment]) ∧ earlier.length = depth := by
  obtain ⟨asked, hasked, hmember⟩ := exists_asked_of_exceeded h
  exact exists_chain_of_member_exceeded hasked hmember

/-- Unless an evaluation ends with the error of the limit, a higher limit would give the
same result; and it ends with that error only if there are chains of references from the
configuration that have more links than the limit. -/
theorem segment_limit_harmless (snapshot : Snapshot) (env : Environment) (context : ContextSet)
    (element : Element) :
    ((∀ segment, snapshot.evaluate env context element ≠
        .error (.segmentDepthExceeded segment)) →
      ∀ depth, segmentDepth ≤ depth → snapshot.evaluateWithin env context depth element =
        snapshot.evaluate env context element) ∧
    ((∀ chain, snapshot.Chain element.config chain → chain.length ≤ segmentDepth) →
      ∀ segment, snapshot.evaluate env context element ≠
        .error (.segmentDepthExceeded segment)) := by
  constructor
  · intro hwithin depth hle
    exact evaluateWithin_of_le hwithin hle
  · intro hchains segment hexceeded
    obtain ⟨earlier, hchain, hlength⟩ := exists_chain_of_exceeded hexceeded
    have hlimit := hchains _ hchain
    rw [List.length_append, List.length_singleton, hlength] at hlimit
    omega

/-- Segments `0` to `length - 1`, each of which asks for the next one. -/
def ladder (length : Nat) : Snapshot :=
  { empty with configs := KeyMap.ofList ((List.range length).map fun rung =>
      (toString rung, outsiders (toString rung) (toString (rung + 1)))) }

theorem get?_ladder {rung : Nat} (h : rung < 8) :
    (ladder 8).configs.get? (toString rung) =
      some (outsiders (toString rung) (toString (rung + 1))) := by
  interval_cases rung <;> rfl

theorem length_chain_ladder (rung : Nat) (hrung : rung < 8) {chain : List String}
    (hchain : (ladder 8).Chain (outsiders (toString rung) (toString (rung + 1))).config chain) :
    chain.length ≤ 8 - rung := by
  induction chain generalizing rung with
  | nil => cases hchain
  | cons segment rest ih =>
      have hnext : ∀ other ∈ (outsiders (toString rung) (toString (rung + 1))).config.segments,
          other = toString (rung + 1) := by
        simp [outsiders, Config.segments, Criterion.segment?, Value.string?]
      cases hchain with
      | link hasked =>
          rw [List.length_singleton]
          omega
      | cons hasked hstored hrest =>
          rw [hnext segment hasked] at hstored
          have hstep : rung + 1 < 8 := by
            by_contra hlast
            obtain rfl : rung = 7 := by omega
            cases hstored
          rw [get?_ladder hstep, Option.some.injEq] at hstored
          rw [← hstored] at hrest
          have hlength := ih (rung + 1) hstep hrest
          rw [List.length_cons]
          omega

/-- Eight links are followed to the end, whether or not more could be; nine are too many. -/
theorem segment_limit_harmless_on_ladder :
    (∀ chain, (ladder 8).Chain (outsiders "0" "1").config chain → chain.length ≤ segmentDepth) ∧
      (∀ segment, (ladder 8).evaluate (fun _ => none) .empty (outsiders "0" "1") ≠
        .error (.segmentDepthExceeded segment)) ∧
      (ladder 8).evaluateWithin (fun _ => none) .empty 100 (outsiders "0" "1") =
        (ladder 8).evaluate (fun _ => none) .empty (outsiders "0" "1") ∧
      (ladder 9).evaluate (fun _ => none) .empty (outsiders "0" "1") =
        .error (.segmentDepthExceeded "9") := by
  have hchains : ∀ chain, (ladder 8).Chain (outsiders "0" "1").config chain →
      chain.length ≤ segmentDepth :=
    fun chain hchain => length_chain_ladder 0 (by omega) hchain
  have hharmless := segment_limit_harmless (ladder 8) (fun _ => none) .empty (outsiders "0" "1")
  have hwithin := hharmless.2 hchains
  exact ⟨hchains, hwithin, hharmless.1 hwithin 100 (by decide), rfl⟩

end Snapshot
end LiveConfig
