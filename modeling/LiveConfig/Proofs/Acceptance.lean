import LiveConfig.Proofs.Delivery
import Mathlib.Data.List.Induction
import Mathlib.Data.List.Basic

/-!
# Which delivery of a key is stored

The layer compares a delivery with what is stored for its key, and a key that was
removed has nothing stored.  So an accepted tombstone also takes away the memory of
the ids before it: the rule "the last delivery with the greatest id" holds of the
deliveries since the last removal (`stored_after_history`), and a stale delivery
after a removal brings its key back (`stale_delivery_revives_removed_key`).
-/

namespace LiveConfig

/-- The last of the elements whose id is the greatest. -/
def IsNewest (element : Element) (elements : List Element) : Prop :=
  ∃ before after, elements = before ++ element :: after ∧
    (∀ e ∈ before, e.config.id ≤ element.config.id) ∧
    ∀ e ∈ after, e.config.id < element.config.id

namespace IsNewest

variable {element other : Element} {elements : List Element}

theorem mem (h : IsNewest element elements) : element ∈ elements := by
  obtain ⟨before, after, rfl, _, _⟩ := h
  simp

theorem id_le (h : IsNewest element elements) :
    ∀ e ∈ elements, e.config.id ≤ element.config.id := by
  obtain ⟨before, after, rfl, hbefore, hafter⟩ := h
  intro e he
  rcases List.mem_append.mp he with he | he
  · exact hbefore e he
  · rcases List.mem_cons.mp he with rfl | he
    · exact Int.le_refl _
    · exact Int.le_of_lt (hafter e he)

/-- An element with a lower id at the end changes nothing. -/
theorem concat_older (h : IsNewest element elements)
    (hid : other.config.id < element.config.id) :
    IsNewest element (elements ++ [other]) := by
  obtain ⟨before, after, rfl, hbefore, hafter⟩ := h
  refine ⟨before, after ++ [other], by simp, hbefore, ?_⟩
  intro e he
  rcases List.mem_append.mp he with he | he
  · exact hafter e he
  · rw [List.mem_singleton.mp he]
    exact hid

theorem concat_self (h : ∀ e ∈ elements, e.config.id ≤ element.config.id) :
    IsNewest element (elements ++ [element]) :=
  ⟨elements, [], rfl, h, by simp⟩

theorem unique (h : IsNewest element elements) (h' : IsNewest other elements) :
    element = other := by
  obtain ⟨before, after, rfl, hbefore, hafter⟩ := h
  obtain ⟨before', after', heq, hbefore', hafter'⟩ := h'
  -- of two different positions the later one would carry both a lower and no lower id
  rcases List.append_eq_append_iff.mp heq with ⟨mid, hmid, htail⟩ | ⟨mid, hmid, htail⟩
  · cases mid with
    | nil => simpa using congrArg List.head? htail
    | cons first rest =>
        simp only [List.cons_append, List.cons.injEq] at htail
        have hle : element.config.id ≤ other.config.id :=
          hbefore' element (by simp [hmid, htail.1])
        have hlt : other.config.id < element.config.id :=
          hafter other (by simp [htail.2])
        omega
  · cases mid with
    | nil => simpa using (congrArg List.head? htail).symm
    | cons first rest =>
        simp only [List.cons_append, List.cons.injEq] at htail
        have hle : other.config.id ≤ element.config.id :=
          hbefore other (by simp [hmid, htail.1])
        have hlt : element.config.id < other.config.id :=
          hafter' element (by simp [htail.2])
        omega

end IsNewest

/-- Whether an element removes its key, whatever was delivered for it before: a
tombstone whose id is not below any of those. -/
def removes (earlier : List Element) (element : Element) : Bool :=
  element.config.isTombstone && earlier.all fun e => e.config.id ≤ element.config.id

/-- A further delivery on top of those since the last removal. -/
def extend (since : List Element) (element : Element) : List Element :=
  if removes since element then [] else since ++ [element]

/-- Of the deliveries of one key those since it was removed last. -/
def sinceRemoval (deliveries : List Element) : List Element := deliveries.foldl extend []

/-- What is stored is the newest of the deliveries since the last removal. -/
def Standing (stored : Option Element) (since : List Element) : Prop :=
  match stored with
  | none => since = []
  | some element => IsNewest element since ∧ element.config.isTombstone = false

theorem Standing.eq_none_iff {stored : Option Element} {since : List Element}
    (h : Standing stored since) : stored = none ↔ since = [] := by
  cases stored with
  | none => exact ⟨fun _ => h, fun _ => rfl⟩
  | some element =>
      constructor
      · intro hnone
        simp at hnone
      · intro hnil
        have hmem := h.1.mem
        rw [hnil] at hmem
        simp at hmem

theorem Standing.eq_some_iff {stored : Option Element} {since : List Element}
    (h : Standing stored since) (element : Element) :
    stored = some element ↔ IsNewest element since := by
  cases stored with
  | none =>
      constructor
      · intro hsome
        simp at hsome
      · intro hnewest
        have hmem := hnewest.mem
        rw [show since = [] from h] at hmem
        simp at hmem
  | some current =>
      constructor
      · rintro ⟨⟩
        exact h.1
      · intro hnewest
        rw [h.1.unique hnewest]

/-- One delivery keeps the layer in step with the deliveries since the last removal. -/
theorem Standing.supersede {stored : Option Element} {since : List Element}
    (h : Standing stored since) (element : Element) :
    Standing (Delivered.supersede stored element) (extend since element) := by
  cases stored with
  | none =>
      have hnil : since = [] := h
      subst hnil
      cases htomb : element.config.isTombstone with
      | true => simp [Delivered.supersede, extend, removes, Standing, htomb]
      | false =>
          have hnewest : IsNewest element ([] ++ [element]) := IsNewest.concat_self (by simp)
          simpa [Delivered.supersede, extend, removes, Standing, htomb] using hnewest
  | some current =>
      obtain ⟨hnewest, hcurrent⟩ := h
      by_cases hstale : element.config.id < current.config.id
      · have hkeeps : removes since element = false := by
          rw [removes, Bool.and_eq_false_iff]
          right
          rw [List.all_eq_false]
          exact ⟨current, hnewest.mem, by simpa using hstale⟩
        simpa [Delivered.supersede, extend, Standing, hstale, hkeeps, hcurrent] using
          hnewest.concat_older hstale
      · have hle : ∀ e ∈ since, e.config.id ≤ element.config.id := by
          intro e he
          have := hnewest.id_le e he
          omega
        cases htomb : element.config.isTombstone with
        | true =>
            have hremoves : removes since element = true := by
              simpa [removes, htomb] using hle
            simp [Delivered.supersede, extend, Standing, hstale, hremoves, htomb]
        | false =>
            have hkeeps : removes since element = false := by simp [removes, htomb]
            simpa [Delivered.supersede, extend, Standing, hstale, hkeeps, htomb] using
              IsNewest.concat_self hle

theorem standing_foldl (deliveries : List Element) :
    Standing (deliveries.foldl Delivered.supersede none) (sinceRemoval deliveries) := by
  induction deliveries using List.reverseRecOn with
  | nil => rfl
  | append_singleton deliveries element ih =>
      simpa [sinceRemoval, List.foldl_append] using ih.supersede element

theorem mem_of_foldl_supersede {deliveries : List Element} {element : Element}
    (h : deliveries.foldl Delivered.supersede none = some element) : element ∈ deliveries := by
  induction deliveries using List.reverseRecOn with
  | nil => simp at h
  | append_singleton deliveries last ih =>
      rw [List.foldl_append, List.foldl_cons, List.foldl_nil] at h
      rcases Delivered.eq_of_supersede_eq_some h with hbefore | ⟨rfl, -⟩
      · exact List.mem_append_left _ (ih hbefore)
      · exact List.mem_append_right _ (List.mem_singleton_self _)

theorem foldl_supersede_older {deliveries : List Element} {element : Element}
    (h : ∀ e ∈ deliveries, e.config.id < element.config.id) :
    deliveries.foldl Delivered.supersede (some element) = some element := by
  induction deliveries with
  | nil => rfl
  | cons first rest ih =>
      have hfirst : Delivered.supersede (some element) first = some element := by
        simp [Delivered.supersede, h first]
      rw [List.foldl_cons, hfirst]
      exact ih fun e he => h e (List.mem_cons_of_mem first he)

/-- The newest of all deliveries is stored, unless it is a tombstone. -/
theorem foldl_supersede_newest {deliveries : List Element} {element : Element}
    (h : IsNewest element deliveries) (hlive : element.config.isTombstone = false) :
    deliveries.foldl Delivered.supersede none = some element := by
  obtain ⟨before, after, rfl, hbefore, hafter⟩ := h
  have hstored : Delivered.supersede (before.foldl Delivered.supersede none) element =
      some element := by
    cases hprev : before.foldl Delivered.supersede none with
    | none => simp [Delivered.supersede, hlive]
    | some current =>
        have hle := hbefore current (mem_of_foldl_supersede hprev)
        have hfresh : ¬ element.config.id < current.config.id := by omega
        simp [Delivered.supersede, hlive, hfresh]
  rw [List.foldl_append, List.foldl_cons, hstored]
  exact foldl_supersede_older hafter

namespace Delivered

/-- The layer holds the newest of all deliveries of a key, and nothing if that is a
tombstone or nothing was delivered. -/
def HoldsNewest (history : History) (key : String) : Prop :=
  (history.deliveries key = [] → (ofHistory history).configs.get? key = none) ∧
    ∀ element, IsNewest element (history.deliveries key) →
      (ofHistory history).configs.get? key =
        if element.config.isTombstone then none else some element

theorem standing_ofHistory (history : History) (key : String) :
    Standing ((ofHistory history).configs.get? key)
      (sinceRemoval (history.deliveries key)) := by
  rw [get?_ofHistory]
  exact standing_foldl _

theorem holdsNewest_iff (history : History) (key : String) :
    HoldsNewest history key ↔
      ∀ element, IsNewest element (history.deliveries key) →
        element.config.isTombstone → sinceRemoval (history.deliveries key) = [] := by
  have hstanding := standing_ofHistory history key
  constructor
  · intro h element hnewest htomb
    have hnone := h.2 element hnewest
    rw [if_pos htomb] at hnone
    exact hstanding.eq_none_iff.mp hnone
  · intro h
    refine ⟨fun hnil => ?_, fun element hnewest => ?_⟩
    · rw [get?_ofHistory, hnil]
      rfl
    · cases htomb : element.config.isTombstone with
      | true => simpa using hstanding.eq_none_iff.mpr (h element hnewest htomb)
      | false =>
          rw [get?_ofHistory]
          simpa using foldl_supersede_newest hnewest htomb

/-- A version below one that was delivered since the last removal changes nothing. -/
theorem accept_ofHistory_older {history : History} {config : Config} {element : Element}
    (provenance : Provenance)
    (hmem : element ∈ sinceRemoval (history.deliveries config.key))
    (hid : config.id < element.config.id) :
    (ofHistory history).accept provenance config = ofHistory history := by
  have hstanding := standing_ofHistory history config.key
  cases hstored : (ofHistory history).configs.get? config.key with
  | none =>
      rw [hstanding.eq_none_iff.mp hstored] at hmem
      simp at hmem
  | some current =>
      have hnewest := (hstanding.eq_some_iff current).mp hstored
      have hle := hnewest.id_le element hmem
      have hlt : config.id < current.config.id := by omega
      simp [accept, isStale, hstored, hlt]

/-- After any history the layer holds, for every key, exactly the newest of the
deliveries since the key was removed last.  That is the newest of all deliveries,
unless that one is a tombstone and something is left since the removal. -/
theorem stored_after_history (history : History) (key : String) :
    (∀ element, (ofHistory history).configs.get? key = some element ↔
      IsNewest element (sinceRemoval (history.deliveries key))) ∧
    ((ofHistory history).configs.get? key = none ↔
      sinceRemoval (history.deliveries key) = []) ∧
    (∀ provenance config, config.key = key →
      (∃ element ∈ sinceRemoval (history.deliveries key), config.id < element.config.id) →
      (ofHistory history).accept provenance config = ofHistory history) ∧
    (HoldsNewest history key ↔
      ∀ element, IsNewest element (history.deliveries key) →
        element.config.isTombstone → sinceRemoval (history.deliveries key) = []) := by
  have hstanding := standing_ofHistory history key
  refine ⟨hstanding.eq_some_iff, hstanding.eq_none_iff, ?_, holdsNewest_iff history key⟩
  rintro provenance config rfl ⟨element, hmem, hid⟩
  exact accept_ofHistory_older provenance hmem hid

/-- A key is set, removed by a higher id, and delivered once more as it was first. -/
def revival : History :=
  let batch (config : Config) : Batch × Provenance :=
    (⟨none, [.ok config], none⟩, ⟨.streaming, none⟩)
  [batch (.constant "flag" 1 (.bool true)), batch (.tombstone "flag" 2),
    batch (.constant "flag" 1 (.bool true))]

theorem stale_delivery_revives_removed_key : ¬ HoldsNewest revival "flag" := by
  intro h
  have hnewest :
      IsNewest ⟨.tombstone "flag" 2, ⟨.streaming, none⟩⟩ (revival.deliveries "flag") :=
    ⟨[⟨.constant "flag" 1 (.bool true), ⟨.streaming, none⟩⟩],
      [⟨.constant "flag" 1 (.bool true), ⟨.streaming, none⟩⟩], rfl, by decide, by decide⟩
  have hstored : (ofHistory revival).configs.get? "flag" =
      some ⟨.constant "flag" 1 (.bool true), ⟨.streaming, none⟩⟩ := by
    rw [get?_ofHistory]
    rfl
  have hnone := h.2 _ hnewest
  simp [hstored, Config.tombstone, Config.isTombstone] at hnone

end Delivered
end LiveConfig
