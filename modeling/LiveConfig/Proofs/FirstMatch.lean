import LiveConfig.Evaluation

/-!
# The first conditional value that is not rejected decides

A configuration offers the conditional values of the rows for its environment, in the
order of rows and values.  A value is rejected if the first of its criteria that is not
true is false.  An evaluation finds nothing exactly if every offered value is rejected;
otherwise the first one that is not decides, by the error of its criteria, the error of
its source, or its match (`Snapshot.evaluate_first_match`).

The offered values are described by their places in the rows (`Config.Offers`), without
the list that the evaluation goes through: `mem_candidates_iff` and `pairwise_candidates`
say that it goes through all of them in order.
-/

namespace LiveConfig

/-! ## Criteria -/

section Criteria

variable {verdict : Criterion → Except EvaluationError Bool}
  {outcome : Except EvaluationError Bool}

/-- The first criterion that is not true has the outcome. -/
def StopsAt (verdict : Criterion → Except EvaluationError Bool) (criteria : List Criterion)
    (outcome : Except EvaluationError Bool) : Prop :=
  ∃ earlier criterion later, criteria = earlier ++ criterion :: later ∧
    (∀ c ∈ earlier, verdict c = .ok true) ∧ verdict criterion ≠ .ok true ∧
      verdict criterion = outcome

theorem not_stopsAt_nil : ¬ StopsAt verdict [] outcome := by
  rintro ⟨earlier, criterion, later, hcriteria, -⟩
  simp at hcriteria

theorem stopsAt_cons_of_true {first : Criterion} {rest : List Criterion}
    (hfirst : verdict first = .ok true) :
    StopsAt verdict (first :: rest) outcome ↔ StopsAt verdict rest outcome := by
  constructor
  · rintro ⟨earlier, criterion, later, hcriteria, htrue, hstop, houtcome⟩
    cases earlier with
    | nil =>
        obtain ⟨rfl, rfl⟩ := List.cons.inj hcriteria
        exact absurd hfirst hstop
    | cons c earlier =>
        obtain ⟨rfl, rfl⟩ := List.cons.inj hcriteria
        rw [List.forall_mem_cons] at htrue
        exact ⟨earlier, criterion, later, rfl, htrue.2, hstop, houtcome⟩
  · rintro ⟨earlier, criterion, later, rfl, htrue, hstop, houtcome⟩
    refine ⟨first :: earlier, criterion, later, rfl, ?_, hstop, houtcome⟩
    exact List.forall_mem_cons.mpr ⟨hfirst, htrue⟩

theorem stopsAt_cons_of_ne {first : Criterion} {rest : List Criterion}
    (hfirst : verdict first ≠ .ok true) :
    StopsAt verdict (first :: rest) outcome ↔ verdict first = outcome := by
  constructor
  · rintro ⟨earlier, criterion, later, hcriteria, htrue, hstop, houtcome⟩
    cases earlier with
    | nil =>
        obtain ⟨rfl, rfl⟩ := List.cons.inj hcriteria
        exact houtcome
    | cons c earlier =>
        obtain ⟨rfl, rfl⟩ := List.cons.inj hcriteria
        exact absurd (htrue _ List.mem_cons_self) hfirst
  · intro houtcome
    exact ⟨[], first, rest, rfl, by simp, hfirst, houtcome⟩

theorem Criterion.stopsAt_iff {member : Membership} {context : ContextSet}
    (criteria : List Criterion) :
    StopsAt (holds member context) criteria outcome ↔
      outcome ≠ .ok true ∧ allHold member context criteria = outcome := by
  induction criteria with
  | nil =>
      refine iff_of_false not_stopsAt_nil ?_
      rintro ⟨hne, htrue⟩
      exact hne htrue.symm
  | cons first rest ih =>
      cases hfirst : first.holds member context with
      | error e =>
          have hall : allHold member context (first :: rest) = .error e := by
            rw [allHold, hfirst]
          rw [stopsAt_cons_of_ne (by rw [hfirst]; simp), hfirst, hall]
          constructor
          · rintro rfl
            exact ⟨by simp, rfl⟩
          · exact And.right
      | ok answer =>
          cases answer with
          | true =>
              have hall : allHold member context (first :: rest) =
                  allHold member context rest := by
                rw [allHold, hfirst]
              rw [stopsAt_cons_of_true hfirst, ih, hall]
          | false =>
              have hall : allHold member context (first :: rest) = .ok false := by
                rw [allHold, hfirst]
              rw [stopsAt_cons_of_ne (by rw [hfirst]; simp), hfirst, hall]
              constructor
              · rintro rfl
                exact ⟨by simp, rfl⟩
              · exact And.right

theorem Criterion.allHold_eq_true {member : Membership} {context : ContextSet}
    {criteria : List Criterion}
    (h : ∀ outcome, ¬ StopsAt (holds member context) criteria outcome) :
    allHold member context criteria = .ok true := by
  apply Classical.byContradiction
  intro hne
  exact h _ ((stopsAt_iff criteria).mpr ⟨hne, rfl⟩)

end Criteria

/-- The first criterion that is not true is false. -/
def ConditionalValue.Rejected (verdict : Criterion → Except EvaluationError Bool)
    (value : ConditionalValue) : Prop :=
  StopsAt verdict value.criteria (.ok false)

theorem ConditionalValue.rejected_iff {member : Membership} {context : ContextSet}
    (value : ConditionalValue) :
    value.Rejected (Criterion.holds member context) ↔
      Criterion.allHold member context value.criteria = .ok false := by
  unfold Rejected
  simp [Criterion.stopsAt_iff]

/-! ## Offered values -/

/-- Whether a candidate comes before another one in the order of rows and values. -/
def Candidate.Before (a b : Candidate) : Prop :=
  a.row < b.row ∨ a.row = b.row ∧ a.conditional < b.conditional

theorem Candidate.Before.asymm {a b : Candidate} (h : a.Before b) : ¬ b.Before a := by
  unfold Before at *
  omega

namespace Config

/-- The candidate is a conditional value, at its place, of a row for the environment or
for every one. -/
def Offers (config : Config) (environment : Int) (candidate : Candidate) : Prop :=
  ∃ row, config.rows[candidate.row]? = some row ∧
    (row.environment = none ∨ row.environment = some environment) ∧
      row.values[candidate.conditional]? = some candidate.value

theorem mem_candidates_iff (config : Config) (environment : Int) (candidate : Candidate) :
    candidate ∈ config.candidates environment ↔ config.Offers environment candidate := by
  have hscope : ∀ scope : Option Int,
      scope.all (· == environment) = true ↔ scope = none ∨ scope = some environment := by
    intro scope
    cases scope <;> simp
  simp only [candidates, Offers, List.mem_flatMap, Prod.exists, List.mem_zipIdx_iff_getElem?]
  constructor
  · rintro ⟨row, i, hrow, hmem⟩
    split at hmem
    · rename_i hall
      simp only [List.mem_map, Prod.exists, List.mem_zipIdx_iff_getElem?] at hmem
      obtain ⟨value, j, hvalue, rfl⟩ := hmem
      exact ⟨row, hrow, (hscope _).mp hall, hvalue⟩
    · cases hmem
  · rintro ⟨row, hrow, hall, hvalue⟩
    refine ⟨row, candidate.row, hrow, ?_⟩
    rw [if_pos ((hscope _).mpr hall)]
    simp only [List.mem_map, Prod.exists, List.mem_zipIdx_iff_getElem?]
    exact ⟨candidate.value, candidate.conditional, hvalue, rfl⟩

theorem pairwise_zipIdx (xs : List α) : xs.zipIdx.Pairwise fun a b => a.2 < b.2 := by
  have hrange := List.pairwise_lt_range' (s := 0) (n := xs.length)
  rw [← List.zipIdx_map_snd, List.pairwise_map] at hrange
  exact hrange

theorem pairwise_candidates (config : Config) (environment : Int) :
    (config.candidates environment).Pairwise Candidate.Before := by
  unfold candidates
  rw [List.pairwise_flatMap]
  constructor
  · rintro ⟨row, i⟩ hrow
    dsimp only
    split
    · rw [List.pairwise_map]
      exact (pairwise_zipIdx row.values).imp fun hlt => .inr ⟨rfl, hlt⟩
    · exact .nil
  · refine (pairwise_zipIdx config.rows).imp ?_
    rintro ⟨row, i⟩ ⟨row', i'⟩ hlt a ha b hb
    have hplace : ∀ (row : Row) (i : Nat) (candidate : Candidate),
        candidate ∈ (if row.environment.all (· == environment) = true then
          row.values.zipIdx.map fun place => (⟨i, place.2, place.1⟩ : Candidate) else []) →
        candidate.row = i := by
      intro row i candidate hmem
      split at hmem
      · obtain ⟨place, -, rfl⟩ := List.mem_map.mp hmem
        rfl
      · cases hmem
    left
    rw [hplace row i a ha, hplace row' i' b hb]
    exact hlt

end Config

namespace Element

variable {member : Membership} {env : Environment} {context : ContextSet} {element : Element}

theorem firstMatch_of_rejected {candidates : List Candidate}
    (h : ∀ candidate ∈ candidates, candidate.value.Rejected (Criterion.holds member context))
    (rest : List Candidate) :
    element.firstMatch member env context (candidates ++ rest) =
      element.firstMatch member env context rest := by
  induction candidates with
  | nil => rfl
  | cons first more ih =>
      rw [List.forall_mem_cons] at h
      have hfirst := (ConditionalValue.rejected_iff _).mp h.1
      rw [List.cons_append, firstMatch, hfirst]
      exact ih h.2

theorem firstMatch_of_not_rejected {candidate : Candidate}
    (h : ¬ candidate.value.Rejected (Criterion.holds member context)) (rest : List Candidate) :
    element.firstMatch member env context (candidate :: rest) =
      element.firstMatch member env context [candidate] := by
  rw [ConditionalValue.rejected_iff] at h
  rw [firstMatch, firstMatch]
  cases hall : Criterion.allHold member context candidate.value.criteria with
  | error e => rfl
  | ok answer =>
      cases answer with
      | true => rfl
      | false => exact absurd hall h

/-- The candidate is the first of the offered values that is not rejected. -/
structure FirstUnrejected (verdict : Criterion → Except EvaluationError Bool)
    (environment : Int) (element : Element) (candidate : Candidate) : Prop where
  offered : element.config.Offers environment candidate
  notRejected : ¬ candidate.value.Rejected verdict
  earlier : ∀ other, element.config.Offers environment other → other.Before candidate →
    other.value.Rejected verdict

theorem exists_firstUnrejected {verdict : Criterion → Except EvaluationError Bool}
    {environment : Int} {candidate : Candidate}
    (hoffered : element.config.Offers environment candidate)
    (hnot : ¬ candidate.value.Rejected verdict) :
    ∃ first, FirstUnrejected verdict environment element first := by
  classical
  have hmem := (element.config.mem_candidates_iff environment candidate).mpr hoffered
  have hordered := element.config.pairwise_candidates environment
  obtain ⟨first, hfirst⟩ : ∃ first, (element.config.candidates environment).find?
      (fun c => ¬ c.value.Rejected verdict) = some first := by
    apply Option.isSome_iff_exists.mp
    rw [List.find?_isSome]
    exact ⟨candidate, hmem, by simpa using hnot⟩
  obtain ⟨hunrejected, earlier, later, hsplit, hearlier⟩ :=
    List.find?_eq_some_iff_append.mp hfirst
  refine ⟨first, ?_, by simpa using hunrejected, ?_⟩
  · rw [← Config.mem_candidates_iff, hsplit]
    exact List.mem_append_right _ List.mem_cons_self
  · intro other hother hbefore
    rw [← Config.mem_candidates_iff, hsplit, List.mem_append] at hother
    rw [hsplit, List.pairwise_append, List.pairwise_cons] at hordered
    rcases hother with hother | hother
    · simpa using hearlier other hother
    · rcases List.mem_cons.mp hother with rfl | hlater
      · exact absurd hbefore hbefore.asymm
      · exact absurd hbefore (hordered.2.1.1 other hlater).asymm

theorem firstMatch_candidates {environment : Int} {candidate : Candidate}
    (h : FirstUnrejected (Criterion.holds member context) environment element candidate) :
    element.firstMatch member env context (element.config.candidates environment) =
      element.firstMatch member env context [candidate] := by
  have hmem := (element.config.mem_candidates_iff environment candidate).mpr h.offered
  obtain ⟨earlier, later, hsplit⟩ := List.append_of_mem hmem
  have hbefore : ∀ other ∈ earlier, other.value.Rejected (Criterion.holds member context) := by
    intro other hother
    apply h.earlier
    · rw [← Config.mem_candidates_iff, hsplit]
      exact List.mem_append_left _ hother
    · have hordered := element.config.pairwise_candidates environment
      rw [hsplit, List.pairwise_append] at hordered
      exact hordered.2.2 other hother candidate List.mem_cons_self
  rw [hsplit, firstMatch_of_rejected hbefore, firstMatch_of_not_rejected h.notRejected]

theorem firstMatch_eq_none {environment : Int}
    (h : ∀ candidate, element.config.Offers environment candidate →
      candidate.value.Rejected (Criterion.holds member context)) :
    element.firstMatch member env context (element.config.candidates environment) = .ok none := by
  have hall : ∀ candidate ∈ element.config.candidates environment,
      candidate.value.Rejected (Criterion.holds member context) := by
    intro candidate hmem
    exact h candidate ((element.config.mem_candidates_iff environment candidate).mp hmem)
  rw [← List.append_nil (element.config.candidates environment), firstMatch_of_rejected hall]
  rfl

/-! ## The value that decides -/

variable {candidate : Candidate}

theorem firstMatch_of_error {e : EvaluationError}
    (h : StopsAt (Criterion.holds member context) candidate.value.criteria (.error e)) :
    element.firstMatch member env context [candidate] = .error e := by
  have hall := ((Criterion.stopsAt_iff _).mp h).2
  rw [firstMatch, hall]

theorem firstMatch_of_hold (hnot : ¬ candidate.value.Rejected (Criterion.holds member context))
    (herror : ∀ e, ¬ StopsAt (Criterion.holds member context) candidate.value.criteria (.error e)) :
    element.firstMatch member env context [candidate] =
      (element.matchOf env context candidate).map some := by
  have hall : Criterion.allHold member context candidate.value.criteria = .ok true := by
    apply Criterion.allHold_eq_true
    intro outcome hstops
    cases outcome with
    | error e => exact herror e hstops
    | ok answer =>
        cases answer with
        | true => exact ((Criterion.stopsAt_iff _).mp hstops).1 rfl
        | false => exact hnot hstops
  rw [firstMatch, hall]

theorem firstMatch_ne_none
    (h : ¬ candidate.value.Rejected (Criterion.holds member context)) :
    element.firstMatch member env context [candidate] ≠ .ok none := by
  by_cases herror : ∃ e,
      StopsAt (Criterion.holds member context) candidate.value.criteria (.error e)
  · obtain ⟨e, hstops⟩ := herror
    rw [firstMatch_of_error hstops]
    simp
  · rw [firstMatch_of_hold h fun e hstops => herror ⟨e, hstops⟩]
    cases element.matchOf env context candidate with
    | error e => simp [Except.map]
    | ok found => simp [Except.map]

theorem firstMatch_of_eq {other : Element} (hkey : other.config.key = element.config.key)
    (hid : other.config.id = element.config.id)
    (htype : other.config.valueType = element.config.valueType)
    (hprovenance : other.provenance = element.provenance) :
    other.firstMatch member env context [candidate] =
      element.firstMatch member env context [candidate] := by
  have hresolve : candidate.value.source.resolve env context other.config =
      candidate.value.source.resolve env context element.config := by
    cases candidate.value.source with
    | value v => rfl
    | weighted values => rw [ValueSource.resolve, ValueSource.resolve, hkey]
    | provided envVar => rw [ValueSource.resolve, ValueSource.resolve, htype]
  have hmatch : other.matchOf env context candidate = element.matchOf env context candidate := by
    simp only [matchOf, hresolve, hkey, hid, hprovenance]
  simp only [firstMatch, hmatch]

theorem FirstUnrejected.of_offers {verdict : Criterion → Except EvaluationError Bool}
    {environment : Int} {other : Element}
    (h : FirstUnrejected verdict environment element candidate)
    (hoffers : ∀ c, ¬ candidate.Before c →
      (other.config.Offers environment c ↔ element.config.Offers environment c)) :
    FirstUnrejected verdict environment other candidate where
  offered := (hoffers candidate fun hbefore => hbefore.asymm hbefore).mpr h.offered
  notRejected := h.notRejected
  earlier := by
    intro c hoffered hbefore
    exact h.earlier c ((hoffers c hbefore.asymm).mp hoffered) hbefore

end Element

namespace Snapshot

/-- How the criteria of a configuration turn out in an evaluation. -/
def verdict (snapshot : Snapshot) (env : Environment) (context : ContextSet) :
    Criterion → Except EvaluationError Bool :=
  Criterion.holds (snapshot.memberWithin env context segmentDepth) context

theorem evaluate_of_first {snapshot : Snapshot} {env : Environment} {context : ContextSet}
    {element : Element} {candidate : Candidate}
    (h : element.FirstUnrejected (snapshot.verdict env context) snapshot.environment candidate) :
    snapshot.evaluate env context element =
      element.firstMatch (snapshot.memberWithin env context segmentDepth) env context
        [candidate] :=
  Element.firstMatch_candidates h

/-- The evaluation finds nothing exactly if every offered value is rejected.  Otherwise
there is a first one that is not, and it decides: by the first error of its criteria, or
else by its source, whose error or value is the result.  Nothing in the rows after it
matters. -/
theorem evaluate_first_match (snapshot : Snapshot) (env : Environment) (context : ContextSet)
    (element : Element) :
    let verdict := snapshot.verdict env context
    let config := element.config
    let result := snapshot.evaluate env context element
    (result = .ok none ↔ ∀ candidate, config.Offers snapshot.environment candidate →
      candidate.value.Rejected verdict) ∧
    (result ≠ .ok none → ∃ candidate,
      element.FirstUnrejected verdict snapshot.environment candidate) ∧
    ∀ candidate, element.FirstUnrejected verdict snapshot.environment candidate →
      (∀ e, StopsAt verdict candidate.value.criteria (.error e) → result = .error e) ∧
      ((∀ e, ¬ StopsAt verdict candidate.value.criteria (.error e)) →
        (∀ e, candidate.value.source.resolve env context config = .error e →
          result = .error e) ∧
        ∀ value weighted, candidate.value.source.resolve env context config =
          .ok (value, weighted) →
          result = .ok (some
            { key := config.key, id := config.id, value, provenance := element.provenance,
              row := candidate.row, conditional := candidate.conditional, weighted,
              criteria := candidate.value.criteria })) ∧
      ∀ other : Element,
        other.config.key = config.key → other.config.id = config.id →
        other.config.valueType = config.valueType → other.provenance = element.provenance →
        (∀ c, ¬ candidate.Before c →
          (other.config.Offers snapshot.environment c ↔
            config.Offers snapshot.environment c)) →
        snapshot.evaluate env context other = result := by
  intro verdict config result
  have hsome : ∀ candidate, config.Offers snapshot.environment candidate →
      ¬ candidate.value.Rejected verdict →
        result ≠ .ok none ∧
          ∃ first, element.FirstUnrejected verdict snapshot.environment first := by
    intro candidate hoffered hnot
    obtain ⟨first, hfirst⟩ := Element.exists_firstUnrejected hoffered hnot
    refine ⟨?_, first, hfirst⟩
    rw [show result = _ from evaluate_of_first hfirst]
    exact Element.firstMatch_ne_none hfirst.notRejected
  refine ⟨⟨?_, Element.firstMatch_eq_none⟩, ?_, ?_⟩
  · intro hnone candidate hoffered
    apply Classical.byContradiction
    intro hnot
    exact (hsome candidate hoffered hnot).1 hnone
  · intro hresult
    apply Classical.byContradiction
    intro hnone
    apply hresult
    apply Element.firstMatch_eq_none
    intro candidate hoffered
    apply Classical.byContradiction
    intro hnot
    exact hnone (hsome candidate hoffered hnot).2
  · intro candidate hfirst
    have hresult : result = _ := evaluate_of_first hfirst
    refine ⟨?_, ?_, ?_⟩
    · intro e hstops
      rw [hresult]
      exact Element.firstMatch_of_error hstops
    · intro herror
      rw [hresult, Element.firstMatch_of_hold hfirst.notRejected herror]
      refine ⟨?_, ?_⟩
      · intro e hresolve
        rw [Element.matchOf, hresolve]
        rfl
      · intro value weighted hresolve
        rw [Element.matchOf, hresolve]
        rfl
    · intro other hkey hid htype hprovenance hoffers
      rw [evaluate_of_first (hfirst.of_offers hoffers), hresult]
      exact Element.firstMatch_of_eq hkey hid htype hprovenance

/-- A greeting with a value for another environment, one for a plan, one for those who are
no members of a segment, and one whose criterion cannot be evaluated. -/
def greeting : Element where
  config :=
    { id := 3, key := "greeting", kind := .config, valueType := some .string
      rows :=
        [⟨some 7, [⟨[], .value (.string "staging")⟩]⟩,
          ⟨none,
            [⟨[⟨some "user.plan", .propIsOneOf, some (.stringList ["pro"])⟩],
                .value (.string "hello pro")⟩,
              ⟨[⟨none, .notInSeg, some (.string "beta")⟩], .value (.string "hello")⟩,
              ⟨[⟨none, .propIsOneOf, none⟩], .value (.string "unreachable")⟩]⟩] }
  provenance := ⟨.remoteApi, none⟩

theorem greeting_first_match :
    greeting.FirstUnrejected (Snapshot.empty.verdict (fun _ => none) .empty) 0
      ⟨1, 1, ⟨[⟨none, .notInSeg, some (.string "beta")⟩], .value (.string "hello")⟩⟩ ∧
    Snapshot.empty.evaluate (fun _ => none) .empty greeting = .ok (some
      { key := "greeting", id := 3, value := .string "hello", provenance := ⟨.remoteApi, none⟩,
        row := 1, conditional := 1, weighted := none,
        criteria := [⟨none, .notInSeg, some (.string "beta")⟩] }) := by
  have hholds : Snapshot.empty.verdict (fun _ => none) .empty
      ⟨none, .notInSeg, some (.string "beta")⟩ = .ok true := rfl
  have hfirst : greeting.FirstUnrejected (Snapshot.empty.verdict (fun _ => none) .empty) 0
      ⟨1, 1, ⟨[⟨none, .notInSeg, some (.string "beta")⟩], .value (.string "hello")⟩⟩ := by
    refine ⟨⟨_, rfl, .inl rfl, rfl⟩, ?_, ?_⟩
    · rw [ConditionalValue.Rejected, stopsAt_cons_of_true hholds]
      exact not_stopsAt_nil
    · rintro ⟨i, j, value⟩ ⟨row, hrow, hscope, hvalue⟩ hbefore
      rcases hbefore with hi | ⟨hi, hj⟩
      · obtain rfl : i = 0 := Nat.lt_one_iff.mp hi
        cases hrow
        simp at hscope
      · obtain rfl : i = 1 := hi
        obtain rfl : j = 0 := Nat.lt_one_iff.mp hj
        cases hrow
        cases hvalue
        have hplan : Snapshot.empty.verdict (fun _ => none) .empty
            ⟨some "user.plan", .propIsOneOf, some (.stringList ["pro"])⟩ = .ok false := rfl
        exact (stopsAt_cons_of_ne (by rw [hplan]; simp)).mpr hplan
  have hdecided := (evaluate_first_match .empty (fun _ => none) .empty greeting).2.2 _ hfirst
  have hfound := (hdecided.2.1 fun e => by
    rw [stopsAt_cons_of_true hholds]
    exact not_stopsAt_nil).2
  exact ⟨hfirst, hfound _ none rfl⟩

end Snapshot
end LiveConfig
